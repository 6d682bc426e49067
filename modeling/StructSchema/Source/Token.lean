import StructSchema.Text.Letter

/-!
# Tokens

A source is a sequence of tokens with blanks and comments between them. A token keeps the text
before it, so that the text of any run of tokens can be given back, and whether a line break
stands there: where a statement may end, a line break ends it.
-/

namespace StructSchema.Source

/-- The class of a token. Keywords, operators and delimiters have one spelling each. -/
inductive TokenKind
  | fixed (spelling : String)
  | identifier
  | number
  | rune
  | rawString
  | interpretedString
  | endOfSource
  deriving DecidableEq, Repr

/-- A token: its class, its text, the blanks and comments before it, its line, and whether a
line break outside comments stands before it. -/
structure Token where
  kind : TokenKind
  text : List Char
  lead : List Char
  line : Nat
  newline : Bool
  deriving DecidableEq, Repr

/-! ### Blanks and comments -/

def isSpace (c : Char) : Bool := c == ' ' || ('\t' ≤ c && c ≤ '\r')

/-- Where a reader of blanks and comments stands: between comments, in a line comment, at the
star that opens a block comment, inside one, or behind a star inside one. -/
inductive LeadState
  | between
  | lineComment
  | opening
  | blockComment
  | star
  deriving DecidableEq, Repr

/-- The number of characters that the blanks and comments at the head take, and whether a line
break stands among them outside comments; none if a block comment is not closed. -/
def leadWidth (state : LeadState) : List Char → Option (Nat × Bool)
  | [] => if state = .between ∨ state = .lineComment then some (0, false) else none
  | c :: rest =>
    let next (state : LeadState) (newline : Bool) :=
      (leadWidth state rest).map fun (width, later) => (width + 1, newline || later)
    match state with
    | .between =>
      if isSpace c then next .between (c == '\n')
      else if c = '/' ∧ rest.head? = some '/' then next .lineComment false
      else if c = '/' ∧ rest.head? = some '*' then next .opening false
      else some (0, false)
    | .lineComment => if c = '\n' then next .between true else next .lineComment false
    | .opening => next .blockComment false
    | .blockComment => next (if c = '*' then .star else .blockComment) false
    | .star =>
      next (if c = '/' then .between else if c = '*' then .star else .blockComment) false

/-! ### Numbers -/

/-- The width of digits of a base after one that has been read, with single underscores between. -/
def moreDigits (isDigit : Char → Bool) : List Char → Nat
  | [] => 0
  | c :: rest =>
    if isDigit c || (c == '_' && rest.head?.any isDigit) then moreDigits isDigit rest + 1 else 0

def digitRun (isDigit : Char → Bool) (cs : List Char) : Nat :=
  if cs.head?.any isDigit then moreDigits isDigit cs else 0

/-- The width of digits that one underscore may stand before. -/
def looseRun (isDigit : Char → Bool) (cs : List Char) : Nat :=
  match cs with
  | '_' :: rest => if digitRun isDigit rest = 0 then 0 else digitRun isDigit rest + 1
  | _ => digitRun isDigit cs

def exponentWidth (small capital : Char) (cs : List Char) : Nat :=
  match cs with
  | c :: rest =>
    if c = small ∨ c = capital then
      match rest with
      | '+' :: digits | '-' :: digits =>
        if digitRun Char.isDigit digits = 0 then 0 else digitRun Char.isDigit digits + 2
      | digits => if digitRun Char.isDigit digits = 0 then 0 else digitRun Char.isDigit digits + 1
    else 0
  | [] => 0

def isHexDigit (c : Char) : Bool := c.isDigit || ('a' ≤ c && c ≤ 'f') || ('A' ≤ c && c ≤ 'F')

def isOctalDigit (c : Char) : Bool := '0' ≤ c && c ≤ '7'

def isBinaryDigit (c : Char) : Bool := c == '0' || c == '1'

/-- The width of `first`, or of it together with what `more` adds, if that is something. -/
def extend (first more : Nat) : Nat := if more = 0 then 0 else first + more

/-- The widths at which a number may end that begins with a base letter or is octal. -/
def basedWidths (cs : List Char) : List Nat :=
  match cs with
  | '0' :: rest =>
    let octal := extend 1 (looseRun isOctalDigit rest)
    match rest with
    | letter :: digits =>
      if letter = 'x' ∨ letter = 'X' then
        let whole := looseRun isHexDigit digits
        let mantissa (width : Nat) := extend (2 + width) (exponentWidth 'p' 'P' (digits.drop width))
        let point :=
          match digits.drop whole with
          | '.' :: after =>
            if whole = 0 ∧ digitRun isHexDigit after = 0 then 0
            else mantissa (whole + 1 + digitRun isHexDigit after)
          | _ => 0
        [extend 2 whole, if whole = 0 then 0 else mantissa whole, point]
      else if letter = 'b' ∨ letter = 'B' then [extend 2 (looseRun isBinaryDigit digits)]
      else if letter = 'o' ∨ letter = 'O' then [extend 2 (looseRun isOctalDigit digits)]
      else [octal]
    | [] => [octal]
  | _ => []

def decimalWidths (cs : List Char) : List Nat :=
  let whole := digitRun Char.isDigit cs
  let exponent (width : Nat) := exponentWidth 'e' 'E' (cs.drop width)
  let point :=
    match cs.drop whole with
    | '.' :: after =>
      let width := whole + 1 + digitRun Char.isDigit after
      if width = 1 then 0 else width + exponent width
    | _ => 0
  let integer := if cs.head? = some '0' then 1 else whole
  [if whole = 0 then 0 else integer, if whole = 0 then 0 else extend whole (exponent whole), point]

/-- The width of the longest number at the head; zero if there is none. Decimal digits of any
kind and every number may carry an `i`. -/
def numberWidth (cs : List Char) : Nat :=
  let widths := basedWidths cs ++ decimalWidths cs
  let imaginary := (digitRun Char.isDigit cs :: widths).map fun width =>
    if 0 < width ∧ (cs.drop width).head? = some 'i' then width + 1 else 0
  (widths ++ imaginary).foldl max 0

/-! ### Strings and runes -/

/-- The number of hexadecimal digits that an escape letter asks for. -/
def escapeDigits (letter : Char) : Nat :=
  if letter = 'x' then 2 else if letter = 'u' then 4 else if letter = 'U' then 8 else 0

def hasEscapeDigits (letter : Char) (rest : List Char) : Bool :=
  let digits := rest.take (escapeDigits letter)
  digits.length == escapeDigits letter && digits.all isHexDigit

/-- The width of an interpreted string behind its opening quote. Any character may follow a
backslash here; whether it is an escape is judged later. -/
def stringWidth : List Char → Option Nat
  | [] => none
  | '"' :: _ => some 1
  | '\n' :: _ => none
  | ['\\'] => none
  | '\\' :: c :: rest =>
    if hasEscapeDigits c rest then (stringWidth rest).map (· + 2) else none
  | _ :: rest => (stringWidth rest).map (· + 1)

def runeWidth (cs : List Char) : Option Nat :=
  let close (width : Nat) := if cs[width]? = some '\'' then some (width + 1) else none
  match cs with
  | '\\' :: c :: rest =>
    if escapeDigits c ≠ 0 then
      if hasEscapeDigits c rest then close (2 + escapeDigits c) else none
    else if "abfnrtv\\'\"".toList.contains c then close 2
    else if (cs.drop 1 |>.take 3).all isOctalDigit then close 4
    else none
  | c :: _ => if c = '\'' ∨ c = '\\' then none else close 1
  | [] => none

/-! ### Words and signs -/

def keywords : List String :=
  ["break", "case", "chan", "const", "continue", "default", "defer", "else", "fallthrough", "for",
    "func", "go", "goto", "if", "import", "interface", "map", "package", "range", "return",
    "select", "struct", "switch", "type", "var"]

/-- The operators and delimiters, longer ones before those they begin with. The character
U+0000 ends a statement as a semicolon does. -/
def signs : List String :=
  ["<<=", ">>=", "&^=", "...", "&&", "||", "<-", "++", "--", "==", "!=", "<=", ">=", ":=", "+=",
    "-=", "*=", "/=", "%=", "&=", "|=", "^=", "<<", ">>", "&^", "+", "-", "*", "/", "%", "&", "|",
    "^", "<", ">", "=", "!", "(", ")", "[", "]", "\x7b", "\x7d", ",", ";", ".", ":", "~", "\x00"]

def wordKind (word : List Char) : TokenKind :=
  match keywords.find? (·.toList = word) with
  | some keyword => .fixed keyword
  | none => .identifier

/-- The class of the token that begins with a character, and the number of characters after
that one which belong to it; none if no token begins so. -/
def tokenAt (c : Char) (rest : List Char) : Option (TokenKind × Nat) :=
  if isLetter c || c == '_' then
    let more := rest.takeWhile fun c => isLetter c || isDecimalDigit c || c == '_'
    some (wordKind (c :: more), more.length)
  else if c = '"' then (stringWidth rest).map (.interpretedString, ·)
  else if c = '\x60' then
    let body := rest.takeWhile (· ≠ '\x60')
    if body.length < rest.length then some (.rawString, body.length + 1) else none
  else if c = '\'' then (runeWidth rest).map (.rune, ·)
  else
    match numberWidth (c :: rest) with
    | width + 1 => some (.number, width)
    | 0 =>
      (signs.find? fun sign => sign.toList.isPrefixOf (c :: rest)).map fun sign =>
        (.fixed sign, sign.toList.length - 1)

/-! ### Whole sources -/

/-- The tokens from a line on, ending with one that stands for the end of the source; an error
gives the line of the character that begins no token. -/
def tokensFrom (line : Nat) (cs : List Char) : Except Nat (List Token) :=
  match leadWidth .between cs with
  | none => .error line
  | some (width, newline) =>
    let lead := cs.take width
    let line := line + lead.count '\n'
    match _h : cs.drop width with
    | [] => .ok [{ kind := .endOfSource, text := [], lead, line, newline }]
    | c :: rest =>
      match tokenAt c rest with
      | none => .error line
      | some (kind, more) =>
        let text := c :: rest.take more
        match tokensFrom (line + text.count '\n') (rest.drop more) with
        | .ok tokens => .ok ({ kind, text, lead, line, newline } :: tokens)
        | .error e => .error e
  termination_by cs.length
  decreasing_by
    have := congrArg List.length _h
    simp only [List.length_drop, List.length_cons] at this ⊢
    omega

/-- The tokens of a source. A byte order mark at its start is skipped. -/
def tokens (source : List Char) : Except Nat (List Token) :=
  match source with
  | '\uFEFF' :: rest => tokensFrom 1 rest
  | _ => tokensFrom 1 source

end StructSchema.Source
