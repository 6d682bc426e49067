import StructSchema.Text

/-!
# Decimal text of floating-point numbers

A finite number is written with the fewest digits that read back as the same number, and of
those with the digits nearest to it. The search is exact: a number is a mantissa times a power
of two, and the numbers that read back as it form an interval around it.
-/

namespace StructSchema.Decimal

/-! ### Binary form -/

/-- A positive number `mantissa * 2 ^ exponent`; the number below it is at half the usual
distance if the mantissa is at the lower end of its binade. -/
structure Binary where
  mantissa : Nat
  exponent : Int
  lowerEnd : Bool
  deriving DecidableEq, Repr

inductive Bits
  | finite (negative : Bool) (magnitude : Binary)
  | infinite (negative : Bool)
  | nan
  deriving DecidableEq, Repr

/-- How many numbers share an exponent: two to the power of 52. -/
def binade : Nat := 0x10000000000000

def Bits.ofNat (bits : Nat) : Bits :=
  let negative := bits / binade / 2048 % 2 == 1
  let field : Nat := bits / binade % 2048
  let fraction : Nat := bits % binade
  if field = 2047 then (if fraction = 0 then .infinite negative else .nan)
  else if field = 0 then .finite negative ⟨fraction, -1074, false⟩
  else .finite negative ⟨binade + fraction, (field : Int) - 1075, fraction == 0 && 1 < field⟩

/-! ### Shortest digits -/

/-- The quotient of `n * 2 ^ exponent` by `10 ^ place`, as a fraction. -/
def scaled (n : Nat) (exponent place : Int) : Nat × Nat :=
  (n * Nat.pow 2 exponent.toNat * Nat.pow 10 (-place).toNat,
    Nat.pow 2 (-exponent).toNat * Nat.pow 10 place.toNat)

namespace Binary

/-- The place of the point: the least power of ten above the number. -/
def point (b : Binary) : Int :=
  let (num, den) := scaled b.mantissa b.exponent 0
  if den ≤ num then (Nat.toDigits 10 (num / den)).length
  else
    match (List.range 400).find? fun place => den ≤ num * Nat.pow 10 (place + 1) with
    | some place => -(place : Int)
    | none => 0

/-- Whether `n` in units of `10 ^ place` reads back as the number: it lies between the middles
to the two neighbours, ends included if the mantissa is even. -/
def readsBack (b : Binary) (place : Int) (n : Nat) : Bool :=
  let (low, den) := scaled (4 * b.mantissa - (if b.lowerEnd then 1 else 2)) b.exponent place
  let (high, _) := scaled (4 * b.mantissa + 2) b.exponent place
  let value := 4 * n * den
  if b.mantissa % 2 = 0 then low ≤ value && value ≤ high else low < value && value < high

def nearest? (b : Binary) (count : Nat) : Option Nat :=
  let place := b.point - count
  let (num, den) := scaled b.mantissa b.exponent place
  let below := num / den
  let candidates := [below, below + 1].filter (b.readsBack place)
  match candidates with
  | [n] => some n
  | [n, m] =>
    let rest := 2 * (num % den)
    some (if rest < den then n else if den < rest then m else if n % 2 = 0 then n else m)
  | _ => none

/-- The fewest digits that read back, with the place of the point before the first of them. -/
def shortest (b : Binary) : List Char × Int :=
  match (List.range' 1 17).findSome? fun count => (b.nearest? count).map (·, count) with
  | some (n, count) =>
    let digits := Nat.toDigits 10 n
    ((digits.reverse.dropWhile (· = '0')).reverse, b.point + (digits.length - count))
  | none => (['0'], 1)

end Binary

/-! ### Text -/

/-- An exponent with its sign and at least two digits. -/
def exponentText (n : Int) : Text :=
  let digits := Nat.toDigits 10 n.natAbs
  let sign := if n < 0 then '-' else '+'
  ('e' :: sign :: (if digits.length < 2 then '0' :: digits else digits)).map .char

/-- Digits with a point: in place for numbers from 0.0001 to below 10 ^ 16, behind the first
digit and with an exponent otherwise. -/
def positional (digits : List Char) (point : Int) : Text :=
  if -4 < point ∧ point ≤ 16 then
    if point ≤ 0 then
      "0." ++ (List.replicate (-point).toNat '0' ++ digits).map CodePoint.char
    else
      let whole := (digits ++ List.replicate 16 '0').take point.toNat
      let rest := digits.drop point.toNat
      (whole ++ '.' :: (if rest.isEmpty then ['0'] else rest)).map .char
  else
    let rest := digits.drop 1
    ((digits.take 1 ++ (if rest.isEmpty then [] else '.' :: rest)).map CodePoint.char) ++
      exponentText (point - 1)

def magnitudeText (b : Binary) : Text :=
  if b.mantissa = 0 then "0.0"
  else
    let (digits, point) := b.shortest
    positional digits point

/-- The text of a floating-point number, with the given words for what is not finite. -/
def render (infinite nan : String) (x : Float) : Text :=
  match Bits.ofNat x.toBits.toNat with
  | .finite negative b => (if negative then "-" else "") ++ magnitudeText b
  | .infinite negative => (if negative then "-" else "") ++ Text.ofString infinite
  | .nan => Text.ofString nan

/-! ### Reading -/

def roundedQuotient (num den : Nat) : Nat :=
  let below := num / den
  let rest := 2 * (num % den)
  if rest < den then below
  else if den < rest then below + 1
  else if below % 2 = 0 then below
  else below + 1

def bitsOfRatio (num den : Nat) : Nat :=
  let rounded (exponent : Int) : Nat :=
    roundedQuotient (num * Nat.pow 2 (-exponent).toNat) (den * Nat.pow 2 exponent.toNat)
  let estimate : Int := max ((num.log2 : Int) - den.log2 - 53) (-1074)
  let exponent := if rounded estimate < 2 * binade then estimate else estimate + 1
  let mantissa := rounded exponent
  let (mantissa, exponent) :=
    if mantissa < 2 * binade then (mantissa, exponent) else (binade, exponent + 1)
  if 971 < exponent then 2047 * binade
  else if mantissa < binade then mantissa
  else (exponent + 1075).toNat * binade + (mantissa - binade)

/-- The floating-point number nearest to `digits * 10 ^ exponent`. Far past the range of
exponents it is infinite or zero. -/
def ofDigits (digits : Nat) (exponent : Int) : Float :=
  let width : Int := (Nat.toDigits 10 digits).length
  if digits = 0 ∨ width + exponent < -400 then 0.0
  else if 400 < width + exponent then 1.0 / 0.0
  else
    Float.ofBits
      (.ofNat (bitsOfRatio (digits * Nat.pow 10 exponent.toNat) (Nat.pow 10 (-exponent).toNat)))

end StructSchema.Decimal
