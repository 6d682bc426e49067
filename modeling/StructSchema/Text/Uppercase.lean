import StructSchema.Text

/-!
# Capitals

The capital form of a text, as far as it is ASCII. Outside ASCII ten characters have capitals of
ASCII letters only: the dotless i, the long s, the sharp s and seven ligatures.
-/

namespace StructSchema

/-- Characters outside ASCII whose capital form is ASCII, with that form. -/
def asciiCapitals : List (Nat × String) :=
  [(0xDF, "SS"), (0x131, "I"), (0x17F, "S"), (0xFB00, "FF"), (0xFB01, "FI"), (0xFB02, "FL"),
    (0xFB03, "FFI"), (0xFB04, "FFL"), (0xFB05, "ST"), (0xFB06, "ST")]

def CodePoint.toAsciiUpper? : CodePoint → Option Text
  | .char c =>
    if c.toNat < 0x80 then some [.char c.toUpper]
    else (asciiCapitals.lookup c.toNat).map Text.ofString
  | .lone _ => none

def Text.toAsciiUpper? (t : Text) : Option Text :=
  (t.mapM CodePoint.toAsciiUpper?).map List.flatten

end StructSchema
