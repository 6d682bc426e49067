/-!
# Ranges of code points

A property of code points is kept as a list of ranges in increasing order. A range with a step
holds every second code point, as in blocks where capitals and small letters alternate.
-/

namespace StructSchema.CodeRange

/-- Whether a number lies in one of the closed ranges. -/
def mem (ranges : List (Nat × Nat)) (n : Nat) : Bool :=
  ranges.any fun (first, last) => first ≤ n && n ≤ last

/-- Whether a number is met by one of the stepped ranges. -/
def memStepped (ranges : List (Nat × Nat × Nat)) (n : Nat) : Bool :=
  ranges.any fun (first, last, step) => first ≤ n && n ≤ last && (n - first) % step == 0

end StructSchema.CodeRange
