import StructSchema.Value

/-!
# Marked text

A YAML text is read as a list of characters that know their line and column, since indentation
tells which collection an item belongs to. A character U+0000, which no text may hold, ends the
list.
-/

namespace StructSchema.Yaml

/-- A character with its line and its column, both counted from zero. -/
structure Mark where
  char : Char
  line : Nat
  column : Nat
  deriving DecidableEq, Repr

/-- What is left of a text. -/
abbrev Marks := List Mark

def isBreak (c : Char) : Bool :=
  c == '\n' || c == '\r' || c == '\x85' || c == '\u2028' || c == '\u2029'

def markFrom (line column : Nat) : List Char → Marks
  | [] => [⟨'\x00', line, column⟩]
  | c :: rest =>
    ⟨c, line, column⟩ ::
      (if isBreak c then markFrom (line + 1) 0 rest else markFrom line (column + 1) rest)

def isAllowed (c : Char) : Bool :=
  let n := c.toNat
  n == 0x9 || n == 0xA || n == 0xD || (0x20 ≤ n && n ≤ 0x7E) || n == 0x85 ||
    (0xA0 ≤ n && n ≤ 0xFFFD) || 0x10000 ≤ n

/-- The marks of a text without a byte order mark at its start; none if it holds a character
that it may not. -/
def marks? (cs : List Char) : Option Marks :=
  if cs.all isAllowed then
    match cs with
    | '\uFEFF' :: rest => some (markFrom 0 1 rest)
    | _ => some (markFrom 0 0 cs)
  else none

namespace Marks

def char : Marks → Char
  | m :: _ => m.char
  | [] => '\x00'

def line : Marks → Nat
  | m :: _ => m.line
  | [] => 0

def column : Marks → Nat
  | m :: _ => m.column
  | [] => 0

def atEnd (ms : Marks) : Bool := ms.char == '\x00'

/-- Whether the text is at its end, at a blank or at a line break. -/
def atGap (ms : Marks) : Bool := ms.atEnd || ms.char == ' ' || ms.char == '\t' || isBreak ms.char

def atIndicator (c : Char) (ms : Marks) : Bool := ms.char == c && atGap (ms.drop 1)

/-- Whether three hyphens or dots with a gap behind them stand at the start of a line. -/
def atDocument (c : Char) (ms : Marks) : Bool :=
  ms.column == 0 && (ms.take 3).map (·.char) == [c, c, c] && atGap (ms.drop 3)

def atBoundary (ms : Marks) : Bool := atDocument '-' ms || atDocument '.' ms

def skipSpaces (ms : Marks) : Marks := ms.dropWhile (·.char = ' ')

def skipLine (ms : Marks) : Marks := ms.dropWhile fun m => !isBreak m.char && m.char ≠ '\x00'

end Marks

/-- The text from its next token on, read inside or outside of a comment. -/
def skipGapFrom (comment : Bool) : Marks → Marks
  | [] => []
  | m :: rest =>
    if isBreak m.char then skipGapFrom false rest
    else if comment then (if m.char = '\x00' then m :: rest else skipGapFrom true rest)
    else if m.char = ' ' then skipGapFrom false rest
    else if m.char = '#' then skipGapFrom true rest
    else m :: rest

/-- The text from its next token on: spaces, line breaks and comments are passed over. -/
def skipGap (ms : Marks) : Marks := skipGapFrom false ms

end StructSchema.Yaml
