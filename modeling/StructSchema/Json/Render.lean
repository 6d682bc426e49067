import StructSchema.Value

/-!
# Writing JSON

Values as JSON text on several lines. A style tells whether everything outside ASCII is escaped
and whether the entries of mappings are sorted by key.
-/

namespace StructSchema.Json

/-- How JSON is written. -/
structure Style where
  ascii : Bool
  sorted : Bool
  deriving DecidableEq, Repr

/-! ### Strings -/

/-- The escape of a 16-bit unit. -/
def unitEscape (n : Nat) : Text := "\\u" ++ Text.hexDigits 4 n

def writePoint (ascii : Bool) (c : CodePoint) : Text :=
  if c = .char '"' then "\\\""
  else if c = .char '\\' then "\\\\"
  else if c = .char '\n' then "\\n"
  else if c = .char '\r' then "\\r"
  else if c = .char '\t' then "\\t"
  else if c = .char '\x08' then "\\b"
  else if c = .char '\x0c' then "\\f"
  else if c.val < 0x20 ∨ (ascii ∧ 0x7F ≤ c.val ∧ c.val < 0x10000) then unitEscape c.val
  else if ascii ∧ 0x10000 ≤ c.val then
    unitEscape (0xD800 + (c.val - 0x10000) / 0x400) ++
      unitEscape (0xDC00 + (c.val - 0x10000) % 0x400)
  else [c]

def writeString (ascii : Bool) (t : Text) : Text := "\"" ++ t.flatMap (writePoint ascii) ++ "\""

/-! ### Values -/

/-- The text that stands for a key. -/
def keyText : Value → Text
  | .null => "null"
  | .bool b => if b then "true" else "false"
  | .float x => Decimal.render "Infinity" "NaN" x
  | v => v.text

/-- A line break, and two spaces for each level. -/
def newLine (level : Nat) : Text := ('\n' :: List.replicate (2 * level) ' ').map .char

/-- Lines between brackets, with commas behind all but the last; brackets alone if there are
none. -/
def bracketed (opening closing : Text) (level : Nat) (lines : List Text) : Text :=
  if lines.isEmpty then opening ++ closing
  else
    opening ++ newLine (level + 1) ++ Text.join ("," ++ newLine (level + 1)) lines ++
      newLine level ++ closing

/-- Entries sorted by key, if the style asks for it. -/
def arrange {α : Type} (style : Style) (lines : List (Text × α)) : List (Text × α) :=
  if style.sorted then lines.mergeSort fun a b => Text.le a.1 b.1 else lines

mutual

/-- A value at a level of nesting. JSON has no objects of other kinds; they are written as their
text. -/
def write (style : Style) (level : Nat) : Value → Text
  | .null => "null"
  | .bool b => if b then "true" else "false"
  | .int n => Text.ofInt n
  | .float x => Decimal.render "Infinity" "NaN" x
  | .string t => writeString style.ascii t
  | .list items => bracketed "[" "]" level (writeItems style (level + 1) items)
  | .mapping entries =>
    let lines := arrange style (writeEntries style (level + 1) entries)
    bracketed "\x7b" "\x7d" level
      (lines.map fun (key, value) => writeString style.ascii key ++ ": " ++ value)
  | .object text _ _ _ => writeString style.ascii text

def writeItems (style : Style) (level : Nat) : List Value → List Text
  | [] => []
  | item :: rest => write style level item :: writeItems style level rest

def writeEntries (style : Style) (level : Nat) : List (Value × Value) → List (Text × Text)
  | [] => []
  | (key, value) :: rest => (keyText key, write style level value) :: writeEntries style level rest

end

/-- A value as JSON text. -/
def render (style : Style) (v : Value) : Text := write style 0 v

end StructSchema.Json
