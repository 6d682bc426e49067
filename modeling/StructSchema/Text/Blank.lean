import StructSchema.Text
import StructSchema.Text.CodeRange

/-!
# Blanks

The code points that separate words, and the operations that strip or split at them. The set is
wider than ASCII: it has the separators U+001C to U+001F, the next-line control and the spaces
of the general punctuation block, but not the zero-width space.
-/

namespace StructSchema

def blankRanges : List (Nat × Nat) :=
  [(0x9, 0xD), (0x1C, 0x20), (0x85, 0x85), (0xA0, 0xA0), (0x1680, 0x1680), (0x2000, 0x200A),
   (0x2028, 0x2029), (0x202F, 0x202F), (0x205F, 0x205F), (0x3000, 0x3000)]

/-- A code point that separates words. -/
def CodePoint.isBlank (c : CodePoint) : Bool := CodeRange.mem blankRanges c.val

namespace Text

def stripStart (t : Text) : Text := t.dropWhile CodePoint.isBlank

def stripEnd (t : Text) : Text := (stripStart t.reverse).reverse

def strip (t : Text) : Text := stripEnd (stripStart t)

/-- The longest parts of a text that hold no blank. -/
def words (t : Text) : List Text := (split CodePoint.isBlank t).filter fun w => !w.isEmpty

end Text

end StructSchema
