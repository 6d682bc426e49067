import StructSchema.Text

/-!
# UTF-8

Reading and writing text as UTF-8. `scalar?` reads one well-formed sequence; strict reading
(`decode`) refuses at the first byte that begins no such sequence, lossless reading
(`decodeLossless`) keeps such a byte as the surrogate that stands for it. Lossless writing
(`encode?`) writes that surrogate back as the byte, strict writing (`encodeStrict?`) refuses every
surrogate.
-/

namespace StructSchema.Utf8

/-! ### One sequence -/

def isTail (b : UInt8) : Bool := 0x80 ≤ b && b ≤ 0xBF

/-- The six bits of a continuation byte. -/
def tailBits (b : UInt8) : Nat := b.toNat % 64

/-- The character that the bytes begin with, and the number of its bytes. Overlong forms,
encoded surrogates and numbers past U+10FFFF begin no character. -/
def scalar? : List UInt8 → Option (Char × Nat)
  | [] => none
  | a :: rest =>
    if a < 0x80 then some (Char.ofNat a.toNat, 1)
    else if a < 0xC2 then none
    else if a < 0xE0 then
      match rest with
      | b :: _ => if isTail b then some (Char.ofNat (a.toNat % 32 * 64 + tailBits b), 2) else none
      | [] => none
    else if a < 0xF0 then
      match rest with
      | b :: c :: _ =>
        if isTail b && isTail c && (a ≠ 0xE0 || 0xA0 ≤ b) && (a ≠ 0xED || b < 0xA0) then
          some (Char.ofNat (a.toNat % 16 * 4096 + tailBits b * 64 + tailBits c), 3)
        else none
      | _ => none
    else if a < 0xF5 then
      match rest with
      | b :: c :: d :: _ =>
        if isTail b && isTail c && isTail d && (a ≠ 0xF0 || 0x90 ≤ b) && (a ≠ 0xF4 || b < 0x90) then
          let n := a.toNat % 8 * 262144 + tailBits b * 4096 + tailBits c * 64 + tailBits d
          some (Char.ofNat n, 4)
        else none
      | _ => none
    else none

/-! ### Whole byte strings -/

/-- Strict reading past the first `skip` bytes, which belong to a character already read. On
failure, the number of bytes before the first that begins no well-formed sequence. -/
def decodeFrom (skip : Nat) : List UInt8 → Except Nat (List Char)
  | [] => .ok []
  | b :: rest =>
    match skip with
    | skip + 1 => (decodeFrom skip rest).mapError (· + 1)
    | 0 =>
      match scalar? (b :: rest) with
      | some (c, width) =>
        match decodeFrom (width - 1) rest with
        | .ok cs => .ok (c :: cs)
        | .error offset => .error (offset + 1)
      | none => .error 0

/-- The characters of a byte string that is UTF-8 throughout; otherwise the length of its
longest well-formed beginning. -/
def decode (bytes : List UInt8) : Except Nat (List Char) := decodeFrom 0 bytes

/-- Lossless reading past the first `skip` bytes, which belong to a character already read. -/
def losslessFrom (skip : Nat) : List UInt8 → Text
  | [] => []
  | b :: rest =>
    match skip with
    | skip + 1 => losslessFrom skip rest
    | 0 =>
      match scalar? (b :: rest) with
      | some (c, width) => .char c :: losslessFrom (width - 1) rest
      | none => CodePoint.ofByte b :: losslessFrom 0 rest

/-- The text of any byte string: bytes outside well-formed UTF-8 stand as surrogates. -/
def decodeLossless (bytes : List UInt8) : Text := losslessFrom 0 bytes

/-- The bytes of a code point: those of a character, or the byte that a surrogate stands for. Every
other surrogate has none. -/
def encodePoint? : CodePoint → Option (List UInt8)
  | .char c => some (String.utf8EncodeChar c)
  | .lone half => (CodePoint.lone half).byte?.map ([·])

/-- The bytes of a text, surrogates for bytes included. -/
def encode? (t : Text) : Option (List UInt8) := (t.mapM encodePoint?).map List.flatten

/-- The bytes of a text that holds no surrogate at all. -/
def encodeStrict? (t : Text) : Option (List UInt8) :=
  (t.mapM CodePoint.char?).map fun cs => cs.flatMap String.utf8EncodeChar

def ofString (s : String) : List UInt8 := s.toList.flatMap String.utf8EncodeChar

end StructSchema.Utf8
