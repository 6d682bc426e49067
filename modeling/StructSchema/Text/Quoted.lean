import StructSchema.Text.Printable

/-!
# Quoted text

The form in which messages show a text: between quotes, with backslash escapes for the quote in
use, the backslash and everything that cannot be printed. Quoted text never holds a surrogate.
-/

namespace StructSchema.Text

/-- The last `width` hexadecimal digits of a number, in small letters. -/
def hexDigits : Nat → Nat → Text
  | 0, _ => []
  | width + 1, n => hexDigits width (n / 16) ++ [.char (Nat.digitChar (n % 16))]

/-- The quote put around a text: the double one only for a text that has the single one and not
the double one. -/
def quoteFor (t : Text) : Char :=
  if t.contains (.char '\'') && !t.contains (.char '"') then '"' else '\''

/-- The numeric escape of a code point, in two, four or eight digits. -/
def numericEscape (n : Nat) : Text :=
  if n < 0x100 then "\\x" ++ hexDigits 2 n
  else if n < 0x10000 then "\\u" ++ hexDigits 4 n
  else "\\U" ++ hexDigits 8 n

def quotePoint (quote : Char) (c : CodePoint) : Text :=
  if c = .char quote ∨ c = .char '\\' then [.char '\\', c]
  else if c = .char '\n' then "\\n"
  else if c = .char '\r' then "\\r"
  else if c = .char '\t' then "\\t"
  else if c.isPrintable then [c]
  else numericEscape c.val

def quoted (t : Text) : Text :=
  .char (quoteFor t) :: t.flatMap (quotePoint (quoteFor t)) ++ [.char (quoteFor t)]

end StructSchema.Text
