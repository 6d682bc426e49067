import StructSchema.Text.Blank

/-!
# Files of variables

A reader for files of `KEY=value` lines. Of several lines for one key the last counts. A value may
refer to variables that are set or that stand above it.
-/

namespace StructSchema

namespace EnvFile

/-! ### Pieces of a line -/

def isBreak (c : CodePoint) : Bool := c = .char '\n'

/-- A blank that is no line break. -/
def isSpace (c : CodePoint) : Bool := c.isBlank && !isBreak c

def skipLine (t : Text) : Text := (t.dropWhile fun c => !isBreak c).drop 1

def skipExport (t : Text) : Text :=
  let word : Text := "export"
  let rest := t.drop word.length
  if t.take word.length = word ∧ rest.head?.any isSpace then rest.dropWhile isSpace else t

/-- The text behind a comment and the end of the line; none if something else stands there. -/
def endLine? (t : Text) : Option Text :=
  let rest := t.dropWhile isSpace
  match rest with
  | [] => some []
  | .char '#' :: _ => some (skipLine rest)
  | c :: _ => if isBreak c then some (skipLine rest) else none

/-- The text inside quotes and the text behind them. A backslash takes the closing quote with
it, as long as another one follows. -/
def quotedFrom (quote : Char) (escaped : Bool) : Text → Option (Text × Text)
  | [] => none
  | c :: rest =>
    if c = .char quote then
      if escaped then
        match quotedFrom quote false rest with
        | some (body, after) => some (c :: body, after)
        | none => some ([], rest)
      else some ([], rest)
    else (quotedFrom quote (c == .char '\\') rest).map fun (body, after) => (c :: body, after)

def unescape (escapes : List (Char × Char)) : Text → Text
  | [] => []
  | .char '\\' :: .char c :: rest =>
    match escapes.lookup c with
    | some e => .char e :: unescape escapes rest
    | none => .char '\\' :: unescape escapes (.char c :: rest)
  | c :: rest => c :: unescape escapes rest

def singleEscapes : List (Char × Char) := [('\\', '\\'), ('\'', '\'')]

def doubleEscapes : List (Char × Char) :=
  [('\\', '\\'), ('\'', '\''), ('"', '"'), ('a', '\x07'), ('b', '\x08'), ('f', '\x0c'),
    ('n', '\n'), ('r', '\r'), ('t', '\t'), ('v', '\x0b')]

/-- A text up to a comment that has a blank before it. -/
def cutComment : Text → Text
  | [] => []
  | c :: rest =>
    if c.isBlank && (Text.stripStart rest).head? == some (.char '#') then []
    else c :: cutComment rest

def value? (t : Text) : Option (Text × Text) :=
  match t with
  | .char '\'' :: rest =>
    (quotedFrom '\'' false rest).map fun (body, after) => (unescape singleEscapes body, after)
  | .char '"' :: rest =>
    (quotedFrom '"' false rest).map fun (body, after) => (unescape doubleEscapes body, after)
  | _ =>
    let line := t.takeWhile fun c => !isBreak c
    some (Text.stripEnd (cutComment line), t.dropWhile fun c => !isBreak c)

def key? (t : Text) : Option (Text × Text) :=
  match t with
  | .char '\'' :: rest =>
    let key := rest.takeWhile (· ≠ .char '\'')
    match rest.dropWhile (· ≠ .char '\'') with
    | _ :: after => if key.isEmpty then none else some (key, after)
    | [] => none
  | _ =>
    let isPart (c : CodePoint) : Bool := c ≠ .char '=' && c ≠ .char '#' && !c.isBlank
    let key := t.takeWhile isPart
    if key.isEmpty then none else some (key, t.dropWhile isPart)

/-! ### Lines -/

/-- The line that a text begins with: its key, with a value if it gives one; and the text behind
it. What cannot be read is passed over up to the end of its line. -/
def binding (t : Text) : Option (Text × Option Text) × Text :=
  let start := skipExport t
  if start.head? = some (.char '#') then (none, skipLine start)
  else
    match key? start with
    | none => (none, skipLine start)
    | some (key, rest) =>
      match rest.dropWhile isSpace with
      | .char '=' :: rest =>
        let rest := rest.dropWhile isSpace
        match value? rest with
        | none => (none, skipLine rest)
        | some (value, rest) =>
          match endLine? rest with
          | some after => (some (key, some value), after)
          | none => (none, skipLine rest)
      | rest =>
        match endLine? rest with
        | some after => (some (key, none), after)
        | none => (none, skipLine rest)

def bindingsFrom : Nat → Text → List (Text × Option Text)
  | 0, _ => []
  | fuel + 1, t =>
    match Text.stripStart t with
    | [] => []
    | c :: rest =>
      let (found, after) := binding (c :: rest)
      found.toList ++ bindingsFrom fuel after

/-- The keys of a file with their values, in order. Every line takes at least one character. -/
def bindings (t : Text) : List (Text × Option Text) :=
  let t := joinBreaks (.char '\r') (.char '\n') false t
  bindingsFrom t.length t

/-! ### References -/

/-- A piece of a value: a code point, or a reference to a variable with what stands in for one
that is not set. -/
inductive Piece
  | point (c : CodePoint)
  | reference (name default : Text)
  deriving DecidableEq, Repr

/-- A reference behind its opening brace, and the text behind the closing one. -/
def reference? (t : Text) : Option (Piece × Text) :=
  let isName (c : CodePoint) : Bool := c ≠ .char ':' && c ≠ .char '\x7d'
  let isDefault (c : CodePoint) : Bool := c ≠ .char '\x7d'
  let name := t.takeWhile isName
  match t.dropWhile isName with
  | .char ':' :: .char '-' :: rest =>
    match rest.dropWhile isDefault with
    | _ :: after => some (.reference name (rest.takeWhile isDefault), after)
    | [] => none
  | .char '\x7d' :: after => some (.reference name [], after)
  | _ => none

/-- The pieces of a value past its first `skip` code points, which belong to a reference already
read. -/
def piecesFrom (skip : Nat) : Text → List Piece
  | [] => []
  | c :: rest =>
    match skip with
    | skip + 1 => piecesFrom skip rest
    | 0 =>
      match c, rest with
      | .char '$', .char '\x7b' :: inner =>
        match reference? inner with
        | some (piece, after) => piece :: piecesFrom (rest.length - after.length) rest
        | none => .point c :: piecesFrom 0 rest
      | _, _ => .point c :: piecesFrom 0 rest

def pieces (value : Text) : List Piece := piecesFrom 0 value

/-- The text of a piece, once the values of variables are known. -/
def Piece.text (value? : Text → Option Text) : Piece → Text
  | .point c => [c]
  | .reference name default => (value? name).getD default

/-- The value of a variable above some line of the file: one that is set counts before the lines,
and a key without a value counts as empty. -/
def valueAbove? (set : List (Text × Text)) (above : List (Text × Option Text)) (name : Text) :
    Option Text :=
  (set.lookup name).or ((above.lookup name).map (·.getD []))

/-- The keys of a file with their values, the last line first, where some variables are set. -/
def resolve (set : List (Text × Text)) (t : Text) : List (Text × Option Text) :=
  (bindings t).foldl (fun above (key, value) =>
    (key, value.map fun v => (pieces v).flatMap (Piece.text (valueAbove? set above))) :: above) []

/-- The variables that a file sets, in the order in which they first stand there, each with the
value that its last line gives it. -/
def settings (set : List (Text × Text)) (t : Text) : List (Text × Option Text) :=
  ((bindings t).map (·.1)).eraseDups.map fun name => (name, ((resolve set t).lookup name).join)

def names (t : Text) : List Text :=
  (bindings t).flatMap fun (key, value) =>
    key :: (pieces (value.getD [])).filterMap fun
      | .point _ => none
      | .reference name _ => some name

end EnvFile

end StructSchema
