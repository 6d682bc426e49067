import StructSchema.Source.Tree

/-!
# Grammar rules

A grammar is a value: a rule for each of its symbols. A rule reads a beginning of a token list
into a list of trees. Alternatives are tried in order and the first that fits is taken. Line
breaks are no tokens; a rule may ask whether one stands before the next token.
-/

namespace StructSchema.Source

/-- A rule over symbols of type `σ`. -/
inductive Rule (σ : Type)
  | token (kind : TokenKind)
  | word (spelling : String)
  | sameLine
  | newLine
  | atEnd
  | empty
  | seq (first second : Rule σ)
  | alt (first second : Rule σ)
  | many (body : Rule σ)
  | ahead (body : Rule σ)
  | symbol (name : σ)
  | node (kind : Kind) (body : Rule σ)
  | labelled (label : Label) (body : Rule σ)

namespace Rule

variable {σ : Type}

def all (rules : List (Rule σ)) : Rule σ := rules.foldr seq empty

def any (first : Rule σ) : List (Rule σ) → Rule σ
  | [] => first
  | second :: rest => alt first (any second rest)

def opt (rule : Rule σ) : Rule σ := alt rule empty

/-- A keyword, operator or delimiter. -/
def fixed (spelling : String) : Rule σ := token (.fixed spelling)

/-- What a rule read: trees, and the tokens behind them. -/
abbrev Reading := Option (List Tree × List Token)

/-- Reads one token if it passes a test; the end of the source is never read. -/
def readToken (test : Token → Bool) : List Token → Reading
  | [] => none
  | t :: rest => if t.kind ≠ .endOfSource && test t then some ([.leaf none t], rest) else none

/-- Passes without reading if the next token passes a test. -/
def readNothing (test : Token → Bool) : List Token → Reading
  | [] => none
  | t :: rest => if test t then some ([], t :: rest) else none

/-- Reads by a rule, to a depth of `fuel` rules within rules. -/
def read (grammar : σ → Rule σ) : Nat → Rule σ → List Token → Reading
  | 0, _, _ => none
  | fuel + 1, rule, tokens =>
    match rule with
    | token kind => readToken (·.kind == kind) tokens
    | word spelling =>
      readToken (fun t => t.kind == .identifier && t.text == spelling.toList) tokens
    | sameLine => readNothing (!·.newline) tokens
    | newLine => readNothing (·.newline) tokens
    | atEnd => readNothing (·.kind == .endOfSource) tokens
    | empty => some ([], tokens)
    | seq first second =>
      match read grammar fuel first tokens with
      | none => none
      | some (trees, rest) =>
        match read grammar fuel second rest with
        | none => none
        | some (more, rest) => some (trees ++ more, rest)
    | alt first second =>
      match read grammar fuel first tokens with
      | some reading => some reading
      | none => read grammar fuel second tokens
    | many body =>
      match read grammar fuel body tokens with
      | none => some ([], tokens)
      | some (trees, rest) =>
        match read grammar fuel (many body) rest with
        | none => none
        | some (more, rest) => some (trees ++ more, rest)
    | ahead body => (read grammar fuel body tokens).map fun _ => ([], tokens)
    | symbol name => read grammar fuel (grammar name) tokens
    | node kind body =>
      (read grammar fuel body tokens).map fun (trees, rest) =>
        ([.branch none kind ((tokens.head?.map (·.line)).getD 0) trees], rest)
    | labelled label body =>
      (read grammar fuel body tokens).map fun (trees, rest) =>
        (trees.map (Tree.withLabel label), rest)

end Rule

end StructSchema.Source
