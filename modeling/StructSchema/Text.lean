/-!
# Text

Text is a list of code points. A code point is a Unicode character or a surrogate that stands
alone; a surrogate from U+DC80 to U+DCFF stands for a byte that was no part of well-formed
UTF-8, so that text read from arbitrary bytes loses nothing.
-/

namespace StructSchema

/-- One position of a text: a Unicode character, or the surrogate U+D800 + `half`. -/
inductive CodePoint
  | char (c : Char)
  | lone (half : Fin 2048)
  deriving DecidableEq, Repr

abbrev Text := List CodePoint

/-- Characters with each carriage return, or pair of carriage return and line feed, as one line
feed. `after` tells that a carriage return stands before. -/
def joinBreaks {α : Type} [DecidableEq α] (cr lf : α) (after : Bool) : List α → List α
  | [] => []
  | c :: rest =>
    if c = cr then lf :: joinBreaks cr lf true rest
    else if c = lf ∧ after then joinBreaks cr lf false rest
    else c :: joinBreaks cr lf false rest

namespace CodePoint

instance : Inhabited CodePoint := ⟨.char ' '⟩

instance : Coe Char CodePoint := ⟨.char⟩

def val : CodePoint → Nat
  | .char c => c.toNat
  | .lone half => 0xD800 + half.val

/-- The code point of a number; numbers past U+10FFFF have none. -/
def ofNat? (n : Nat) : Option CodePoint :=
  if h : 0xD800 ≤ n ∧ n < 0xE000 then some (.lone ⟨n - 0xD800, by omega⟩)
  else if n < 0x110000 then some (.char (Char.ofNat n))
  else none

/-- The code point that stands for a byte outside well-formed UTF-8. -/
def ofByte (b : UInt8) : CodePoint :=
  .lone ⟨0x400 + b.toNat, by have := b.toNat_lt_size; simp only [UInt8.size] at this; omega⟩

/-- The byte that a surrogate from U+DC80 to U+DCFF stands for. -/
def byte? : CodePoint → Option UInt8
  | .char _ => none
  | .lone half =>
    if 0x480 ≤ half.val ∧ half.val < 0x500 then some (.ofNat (half.val - 0x400)) else none

/-- The character at a code point that is no surrogate. -/
def char? : CodePoint → Option Char
  | .char c => some c
  | .lone _ => none

/-- A surrogate, which no encoding can write as a character. -/
def isSurrogate : CodePoint → Bool
  | .char _ => false
  | .lone _ => true

/-- The small letter of an ASCII capital; every other code point stays. -/
def toLower : CodePoint → CodePoint
  | .char c => .char c.toLower
  | .lone half => .lone half

/-- A test on the ASCII characters that no other code point passes. -/
def isAscii (p : Char → Bool) : CodePoint → Bool
  | .char c => c.toNat < 128 && p c
  | .lone _ => false

end CodePoint

namespace Text

def ofString (s : String) : Text := s.toList.map .char

instance : Coe String Text := ⟨ofString⟩

def ofNat (n : Nat) : Text := (Nat.toDigits 10 n).map .char

/-- Decimal digits of an integer, with a minus sign below zero. -/
def ofInt : Int → Text
  | .ofNat n => ofNat n
  | .negSucc n => .char '-' :: ofNat (n + 1)

/-- The text as a string, if it holds no surrogate. -/
def toString? (t : Text) : Option String :=
  (t.mapM CodePoint.char?).map String.ofList

/-- The parts of a text between the code points that satisfy `isSep`. -/
def split (isSep : CodePoint → Bool) : Text → List Text
  | [] => [[]]
  | c :: rest =>
    if isSep c then [] :: split isSep rest
    else match split isSep rest with
      | part :: parts => (c :: part) :: parts
      | [] => [[c]]

theorem split_ne_nil (isSep : CodePoint → Bool) (t : Text) : split isSep t ≠ [] := by
  induction t with
  | nil => simp [split]
  | cons c rest ih =>
    by_cases h : isSep c = true
    · simp [split, h]
    · cases hs : split isSep rest with
      | nil => exact absurd hs ih
      | cons part parts => simp [split, h, hs]

/-- The parts of a text between the occurrences of one code point. -/
def splitOn (sep : CodePoint) (t : Text) : List Text := split (· = sep) t

def join (sep : Text) (parts : List Text) : Text := sep.intercalate parts

/-- ASCII capitals become small letters; every other code point stays. -/
def toLower (t : Text) : Text := t.map CodePoint.toLower

theorem length_toLower (t : Text) : (toLower t).length = t.length := by
  simp only [toLower, List.length_map]

/-- Whether `a` stands at or before `b` in the order by code points. -/
def le : Text → Text → Bool
  | [], _ => true
  | _ :: _, [] => false
  | a :: as, b :: bs => a.val < b.val || (a.val == b.val && le as bs)

/-- Whether no surrogate stands in the text, so that UTF-8 can write it. -/
def IsClean (t : Text) : Prop := ∀ c ∈ t, c.isSurrogate = false

theorem isClean_ofString (s : String) : IsClean (ofString s) := by
  intro c hc
  simp only [ofString, List.mem_map] at hc
  obtain ⟨d, _, rfl⟩ := hc
  rfl

end Text

end StructSchema
