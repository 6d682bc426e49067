import Mathlib.Data.List.DropRight
import StructSchema.Json.Parse
import StructSchema.Json.Render
import StructSchema.Proofs.Clean

/-!
# Reading numbers back

An integer and a floating-point number are written in the form of JSON numbers: digits without a
zero before others, and for a floating-point number digits behind a point or an exponent as well. So
each is read as a number of its kind, and reading stops where the number ends.
-/

namespace StructSchema

/-- The characters of a text, without its surrogates. -/
def Text.chars (t : Text) : List Char := t.filterMap CodePoint.char?

namespace Text

@[simp] theorem chars_append (s t : Text) : chars (s ++ t) = chars s ++ chars t :=
  List.filterMap_append

@[simp] theorem chars_map_char (cs : List Char) : chars (cs.map .char) = cs := by
  rw [chars, List.filterMap_map]
  exact List.filterMap_some

@[simp] theorem chars_ofString (s : String) : chars (ofString s) = s.toList := chars_map_char _

@[simp] theorem chars_cons_char (c : Char) (t : Text) : chars (.char c :: t) = c :: chars t := rfl

end Text

namespace Json

/-! ### Digits -/

/-- Digits that a number may begin with: at least one, and no zero before others. -/
structure IsWhole (whole : List Char) : Prop where
  ne_nil : whole ≠ []
  digits : ∀ c ∈ whole, c.isDigit = true
  zero : whole = ['0'] ∨ whole.head? ≠ some '0'

/-- Whether a text that goes on behind a number is no part of it. -/
def Stops (rest : List Char) : Prop :=
  ∀ c ∈ rest.head?, c.isDigit = false ∧ c ≠ '.' ∧ c ≠ 'e' ∧ c ≠ 'E'

theorem takeWhile_digits {digits rest : List Char} (h : ∀ c ∈ digits, c.isDigit = true)
    (hrest : ∀ c ∈ rest.head?, c.isDigit = false) :
    (digits ++ rest).takeWhile Char.isDigit = digits ∧
      (digits ++ rest).dropWhile Char.isDigit = rest := by
  have hnone : rest.takeWhile Char.isDigit = [] ∧ rest.dropWhile Char.isDigit = rest := by
    cases rest with
    | nil => exact ⟨rfl, rfl⟩
    | cons c rest =>
      have hc : ¬c.isDigit = true := by simp [hrest c rfl]
      exact ⟨List.takeWhile_cons_of_neg hc, List.dropWhile_cons_of_neg hc⟩
  rw [List.takeWhile_append_of_pos h, List.dropWhile_append_of_pos h, hnone.1, hnone.2,
    List.append_nil]
  exact ⟨rfl, rfl⟩

theorem isWhole_toDigits (n : Nat) : IsWhole (Nat.toDigits 10 n) where
  ne_nil := Nat.toDigits_ne_nil
  digits := fun _ hc => Nat.isDigit_of_mem_toDigits (by decide) (by decide) hc
  zero := by
    induction n using Nat.strongRecOn with
    | ind n ih =>
      rw [Nat.toDigits_eq_if (by decide)]
      split
      · rename_i hn
        rcases Nat.eq_zero_or_pos n with rfl | hpos
        · exact .inl rfl
        · refine .inr ?_
          rw [List.head?_cons]
          have hdigit : ∀ d, d < 10 → 0 < d → some d.digitChar ≠ some '0' := by decide
          exact hdigit n hn hpos
      · rename_i hn
        refine .inr ?_
        have hne : Nat.toDigits 10 (n / 10) ≠ [] := Nat.toDigits_ne_nil
        rw [List.head?_append_of_ne_nil _ hne]
        rcases ih (n / 10) (by omega) with hzero | hhead
        · -- a quotient that is written as zero is zero
          have hvalue := Nat.ofDigitChars_toDigits (b := 10) (n := n / 10) (by decide) (by decide)
          rw [hzero] at hvalue
          have : (0 : Nat) = n / 10 := hvalue
          omega
        · exact hhead

theorem digitsValue_toDigits (n : Nat) : digitsValue (Nat.toDigits 10 n) = n := by
  have hvalue := Nat.ofDigitChars_toDigits (b := 10) (n := n) (by decide) (by decide)
  rw [Nat.ofDigitChars_eq_foldl] at hvalue
  simpa only [digitsValue, Nat.mul_comm] using hvalue

/-! ### Numbers without a sign -/

/-- What follows the digits that a number begins with decides about the rest of it. -/
theorem magnitude_append {negative : Bool} {whole behind : List Char} (hwhole : IsWhole whole)
    (hbehind : ∀ c ∈ behind.head?, c.isDigit = false) :
    magnitude negative (whole ++ behind) =
      let (places, rest) := fraction behind
      let (power, rest) := exponent rest
      if places.isEmpty && power.isNone then
        if Value.maxDigits < whole.length then .error .outOfRange
        else .ok (.int (if negative then -(digitsValue whole : Int) else digitsValue whole), rest)
      else
        let x := Decimal.ofDigits (digitsValue (whole ++ places)) (power.getD 0 - places.length)
        .ok (.float (if negative then -x else x), rest) := by
  have hnonempty : whole.isEmpty = false := by
    rw [List.isEmpty_eq_false_iff]
    exact hwhole.ne_nil
  rcases hwhole.zero with rfl | hzero
  · rfl
  · obtain ⟨htake, hdrop⟩ := takeWhile_digits hwhole.digits hbehind
    rw [magnitude]
    · rw [htake, hdrop, hnonempty]
      rfl
    · intro rest heq
      cases whole with
      | nil => exact hwhole.ne_nil rfl
      | cons c whole =>
        cases heq
        exact hzero rfl

theorem fraction_of_stops {rest : List Char} (h : Stops rest) : fraction rest = ([], rest) := by
  rw [fraction]
  rintro _ rfl
  exact (h '.' rfl).2.1 rfl

theorem exponent_of_stops {rest : List Char} (h : Stops rest) : exponent rest = (none, rest) := by
  cases rest with
  | nil => rfl
  | cons c rest =>
    obtain ⟨-, -, he, hE⟩ := h c rfl
    rw [exponent.eq_def]
    dsimp only
    rw [if_neg (not_or.2 ⟨he, hE⟩)]

theorem any_head?_of_digits {digits : List Char} (hne : digits ≠ [])
    (hdigits : ∀ c ∈ digits, c.isDigit = true) (rest : List Char) :
    (digits ++ rest).head?.any Char.isDigit = true := by
  cases digits with
  | nil => exact absurd rfl hne
  | cons c digits => exact hdigits c (List.mem_cons_self ..)

theorem fraction_of_digits {places rest : List Char} (hne : places ≠ [])
    (hdigits : ∀ c ∈ places, c.isDigit = true) (hrest : ∀ c ∈ rest.head?, c.isDigit = false) :
    fraction ('.' :: (places ++ rest)) = (places, rest) := by
  obtain ⟨htake, hdrop⟩ := takeWhile_digits hdigits hrest
  rw [fraction, if_pos (any_head?_of_digits hne hdigits rest), htake, hdrop]

theorem magnitude_int (negative : Bool) {whole rest : List Char} (hwhole : IsWhole whole)
    (hlength : whole.length ≤ Value.maxDigits) (hrest : Stops rest) :
    magnitude negative (whole ++ rest) =
      .ok (.int (if negative then -(digitsValue whole : Int) else digitsValue whole), rest) := by
  rw [magnitude_append hwhole fun c hc => (hrest c hc).1, fraction_of_stops hrest]
  dsimp only
  rw [exponent_of_stops hrest]
  simp only [List.isEmpty_nil, Option.isNone_none, Bool.and_self, if_true]
  rw [if_neg (Nat.not_lt.2 hlength)]

/-- What stands behind the first digits of a floating-point number: places behind a point, an
exponent or both, whatever text they end at. -/
structure MarksFloat (behind : List Char) : Prop where
  head : ∀ c ∈ behind.head?, c.isDigit = false
  ne_nil : behind ≠ []
  parts : ∃ places power, (places ≠ [] ∨ power ≠ none) ∧ ∀ rest, Stops rest →
    ∃ middle, fraction (behind ++ rest) = (places, middle) ∧ exponent middle = (power, rest)

theorem magnitude_float (negative : Bool) {whole behind : List Char} (hwhole : IsWhole whole)
    (hbehind : MarksFloat behind) :
    ∃ y, ∀ rest, Stops rest →
      magnitude negative (whole ++ behind ++ rest) = .ok (.float y, rest) := by
  obtain ⟨places, power, hmarked, hparts⟩ := hbehind.parts
  let x := Decimal.ofDigits (digitsValue (whole ++ places)) (power.getD 0 - places.length)
  refine ⟨if negative then -x else x, fun rest hrest => ?_⟩
  obtain ⟨middle, hplaces, hpower⟩ := hparts rest hrest
  have hhead : ∀ c ∈ (behind ++ rest).head?, c.isDigit = false := by
    cases behind with
    | nil => exact absurd rfl hbehind.ne_nil
    | cons c behind => exact hbehind.head
  rw [List.append_assoc, magnitude_append hwhole hhead, hplaces]
  dsimp only
  rw [hpower]
  dsimp only
  rw [if_neg]
  rw [Bool.and_eq_true, List.isEmpty_iff, Option.isNone_iff_eq_none]
  exact fun h => hmarked.elim (absurd h.1) (absurd h.2)

/-! ### Floating-point numbers -/

theorem marksFloat_point {places : List Char} (hne : places ≠ [])
    (hdigits : ∀ c ∈ places, c.isDigit = true) : MarksFloat ('.' :: places) where
  head := by
    intro c hc
    cases hc
    rfl
  ne_nil := List.cons_ne_nil _ _
  parts := ⟨places, none, .inl hne, fun rest hrest => ⟨rest,
    fraction_of_digits hne hdigits fun c hc => (hrest c hc).1, exponent_of_stops hrest⟩⟩

theorem exponent_of_digits {negative : Bool} {digits rest : List Char} (hne : digits ≠ [])
    (hdigits : ∀ c ∈ digits, c.isDigit = true) (hrest : Stops rest) :
    exponent ('e' :: (if negative then '-' else '+') :: (digits ++ rest)) =
      (some (if negative then -(digitsValue digits : Int) else digitsValue digits), rest) := by
  obtain ⟨htake, hdrop⟩ := takeWhile_digits hdigits fun c hc => (hrest c hc).1
  have hhead := any_head?_of_digits hne hdigits rest
  cases negative with
  | true =>
    show exponent ('e' :: '-' :: (digits ++ rest)) = (some (-(digitsValue digits : Int)), rest)
    rw [exponent, if_pos (.inl rfl)]
    dsimp only
    rw [if_pos hhead, htake, hdrop]
    rfl
  | false =>
    show exponent ('e' :: '+' :: (digits ++ rest)) = (some (digitsValue digits : Int), rest)
    rw [exponent, if_pos (.inl rfl)]
    dsimp only
    rw [if_pos hhead, htake, hdrop]
    rfl

theorem exists_exponent (n : Int) : ∃ power more, (Decimal.exponentText n).chars = 'e' :: more ∧
    ∀ rest, Stops rest → exponent ('e' :: (more ++ rest)) = (some power, rest) := by
  have htoDigits := isWhole_toDigits n.natAbs
  rw [Decimal.exponentText, Text.chars_map_char]
  have hne : (if (Nat.toDigits 10 n.natAbs).length < 2 then
      '0' :: Nat.toDigits 10 n.natAbs else Nat.toDigits 10 n.natAbs) ≠ [] := by
    split
    · exact List.cons_ne_nil _ _
    · exact htoDigits.ne_nil
  have hdigits : ∀ c ∈ (if (Nat.toDigits 10 n.natAbs).length < 2 then
      '0' :: Nat.toDigits 10 n.natAbs else Nat.toDigits 10 n.natAbs), c.isDigit = true := by
    split
    · exact List.forall_mem_cons.2 ⟨rfl, htoDigits.digits⟩
    · exact htoDigits.digits
  have hpower := fun negative rest (hrest : Stops rest) =>
    @exponent_of_digits negative _ rest hne hdigits hrest
  by_cases hn : n < 0
  · rw [if_pos hn]
    exact ⟨_, _, rfl, hpower true⟩
  · rw [if_neg hn]
    exact ⟨_, _, rfl, hpower false⟩

theorem marksFloat_exponent {places : List Char} (hdigits : ∀ c ∈ places, c.isDigit = true)
    (n : Int) : MarksFloat ((if places.isEmpty then [] else '.' :: places) ++
      (Decimal.exponentText n).chars) := by
  obtain ⟨power, more, htext, hpower⟩ := exists_exponent n
  rw [htext]
  have hhead : ∀ rest, ∀ c ∈ ('e' :: (more ++ rest)).head?, c.isDigit = false := by
    intro rest c hc
    cases hc
    rfl
  cases places with
  | nil =>
    refine ⟨?_, List.cons_ne_nil _ _, [], some power, .inr (Option.some_ne_none power), ?_⟩
    · exact hhead []
    · exact fun rest hrest => ⟨_, rfl, hpower rest hrest⟩
  | cons first places =>
    refine ⟨?_, List.cons_ne_nil _ _, first :: places, some power, .inl (List.cons_ne_nil _ _), ?_⟩
    · intro c hc
      cases hc
      rfl
    · intro rest hrest
      refine ⟨_, ?_, hpower rest hrest⟩
      rw [List.append_assoc]
      exact fraction_of_digits (List.cons_ne_nil _ _) hdigits (hhead rest)

def IsFloatText (t : Text) : Prop :=
  ∃ whole behind, t.chars = whole ++ behind ∧ IsWhole whole ∧ MarksFloat behind

/-- Digits with the place of their point: they begin with a zero only for the number zero. -/
structure IsPlaced (digits : List Char) (point : Int) : Prop where
  ne_nil : digits ≠ []
  isDigit : ∀ c ∈ digits, c.isDigit = true
  zero : digits.head? ≠ some '0' ∨ digits = ['0'] ∧ point = 1

theorem forall_replicate_isDigit (n : Nat) : ∀ c ∈ List.replicate n '0', c.isDigit = true := by
  intro c hc
  rw [List.eq_of_mem_replicate hc]
  rfl

theorem isFloatText_positional {digits : List Char} {point : Int} (h : IsPlaced digits point) :
    IsFloatText (Decimal.positional digits point) := by
  obtain ⟨first, more, rfl⟩ := List.exists_cons_of_ne_nil h.ne_nil
  obtain ⟨hfirst, hmore⟩ := List.forall_mem_cons.1 h.isDigit
  rw [Decimal.positional]
  split
  · split
    · -- the point stands before all digits
      refine ⟨['0'], '.' :: (List.replicate (-point).toNat '0' ++ first :: more), ?_,
        ⟨List.cons_ne_nil _ _, List.forall_mem_singleton.2 rfl, .inl rfl⟩,
        marksFloat_point (List.append_ne_nil_of_right_ne_nil _ (List.cons_ne_nil _ _)) ?_⟩
      · simp only [Text.chars_append, Text.chars_ofString, Text.chars_map_char]
        rfl
      · exact List.forall_mem_append.2 ⟨forall_replicate_isDigit _, h.isDigit⟩
    · -- the point stands behind some digits, which zeros may fill up
      have hpoint : point.toNat = (point.toNat - 1) + 1 := by omega
      refine ⟨_, _, Text.chars_map_char _, ⟨?_, ?_, ?_⟩, marksFloat_point ?_ ?_⟩
      · rw [hpoint, List.cons_append, List.take_succ_cons]
        exact List.cons_ne_nil _ _
      · intro c hc
        have hmem := List.mem_of_mem_take hc
        exact List.forall_mem_append.2 ⟨h.isDigit, forall_replicate_isDigit _⟩ c hmem
      · rcases h.zero with hzero | ⟨hzero, rfl⟩
        · refine .inr ?_
          rw [hpoint, List.cons_append, List.take_succ_cons]
          exact hzero
        · cases hzero
          exact .inl rfl
      · split
        · exact List.cons_ne_nil _ _
        · rename_i hdrop
          rwa [List.isEmpty_iff] at hdrop
      · split
        · exact List.forall_mem_singleton.2 rfl
        · exact fun c hc => h.isDigit c (List.mem_of_mem_drop hc)
  · refine ⟨[first], _, ?_, ⟨List.cons_ne_nil _ _, List.forall_mem_singleton.2 hfirst, ?_⟩,
      marksFloat_exponent hmore (point - 1)⟩
    · simp only [Text.chars_append, Text.chars_map_char]
      rfl
    · rcases h.zero with hzero | ⟨hzero, -⟩
      · exact .inr hzero
      · cases hzero
        exact .inl rfl

/-! ### Shortest digits -/

theorem scaled_pos {n : Nat} (h : 0 < n) (exponent place : Int) :
    0 < (Decimal.scaled n exponent place).1 :=
  Nat.mul_pos (Nat.mul_pos h (Nat.pow_pos (by decide))) (Nat.pow_pos (by decide))

/-- Zero lies below the interval of the numbers that read back. -/
theorem readsBack_zero {b : Decimal.Binary} (hb : b.mantissa ≠ 0) (place : Int) :
    b.readsBack place 0 = false := by
  have hlow := scaled_pos (n := 4 * b.mantissa - (if b.lowerEnd then 1 else 2))
    (by split <;> omega) b.exponent place
  rw [Decimal.Binary.readsBack]
  dsimp only
  split
  · rw [Bool.and_eq_false_iff]
    exact .inl (decide_eq_false (by omega))
  · rw [Bool.and_eq_false_iff]
    exact .inl (decide_eq_false (by omega))

theorem ne_zero_of_nearest? {b : Decimal.Binary} (hb : b.mantissa ≠ 0) {count n : Nat}
    (h : b.nearest? count = some n) : n ≠ 0 := by
  rw [Decimal.Binary.nearest?] at h
  dsimp only at h
  have hmem : ∀ {l candidates : List Nat}, l.filter (b.readsBack (b.point - count)) = candidates →
      ∀ m ∈ candidates, m ≠ 0 := by
    rintro l _ rfl m hm rfl
    have hreads := (List.mem_filter.1 hm).2
    rw [readsBack_zero hb] at hreads
    cases hreads
  split at h
  · rename_i heq
    cases h
    exact hmem heq n (List.mem_singleton_self n)
  · rename_i m k heq
    obtain ⟨hm, hk⟩ := List.forall_mem_cons.1 (hmem heq)
    obtain rfl := Option.some.inj h
    split
    · exact hm
    · split
      · exact hk k (List.mem_singleton_self k)
      · split
        · exact hm
        · exact hk k (List.mem_singleton_self k)
  · cases h

/-- Digits without the zeros at their end. -/
theorem isPlaced_shortest {b : Decimal.Binary} (hb : b.mantissa ≠ 0) :
    IsPlaced b.shortest.1 b.shortest.2 := by
  rw [Decimal.Binary.shortest]
  split
  · rename_i n count hfound
    obtain ⟨m, -, hm⟩ := List.exists_of_findSome?_eq_some hfound
    obtain ⟨k, hk, heq⟩ := Option.map_eq_some_iff.1 hm
    cases heq
    have hwhole := isWhole_toDigits n
    have hhead : (Nat.toDigits 10 n).head? ≠ some '0' := by
      rcases hwhole.zero with hzero | hhead
      · have hvalue := digitsValue_toDigits n
        rw [hzero] at hvalue
        exact absurd hvalue.symm (ne_zero_of_nearest? hb hk)
      · exact hhead
    have hstart : (Nat.toDigits 10 n).rdropWhile (· = '0') <+: Nat.toDigits 10 n :=
      List.rdropWhile_prefix _ _
    have hne : (Nat.toDigits 10 n).rdropWhile (· = '0') ≠ [] := by
      rw [Ne, List.rdropWhile_eq_nil_iff]
      intro hall
      cases hdigits : Nat.toDigits 10 n with
      | nil => exact hwhole.ne_nil hdigits
      | cons c cs =>
        rw [hdigits] at hall hhead
        exact hhead (congrArg some (of_decide_eq_true (hall c (List.mem_cons_self ..))))
    refine ⟨hne, fun c hc => hwhole.digits c (hstart.subset hc), .inl ?_⟩
    obtain ⟨rest, hrest⟩ := hstart
    rw [← hrest, List.head?_append_of_ne_nil _ hne] at hhead
    exact hhead
  · exact ⟨List.cons_ne_nil _ _, List.forall_mem_singleton.2 rfl, .inr ⟨rfl, rfl⟩⟩

theorem isFloatText_magnitudeText (b : Decimal.Binary) : IsFloatText (Decimal.magnitudeText b) := by
  rw [Decimal.magnitudeText]
  split
  · refine ⟨['0'], ['.', '0'], rfl, ⟨List.cons_ne_nil _ _, List.forall_mem_singleton.2 rfl,
      .inl rfl⟩, marksFloat_point (List.cons_ne_nil _ _) (List.forall_mem_singleton.2 rfl)⟩
  · rename_i hb
    exact isFloatText_positional (isPlaced_shortest hb)

/-! ### Values -/

theorem value_of_digit {fuel : Nat} {c : Char} (h : c.isDigit = true) (cs : List Char) :
    value (fuel + 1) (c :: cs) = magnitude false (c :: cs) := by
  rw [value]
  all_goals
    intros
    rename_i heq
    cases heq
    cases h

theorem value_of_minus {fuel : Nat} {c : Char} (h : c.isDigit = true) (cs : List Char) :
    value (fuel + 1) ('-' :: c :: cs) = magnitude true (c :: cs) := by
  rw [value]
  intros
  rename_i heq
  cases heq
  cases h

theorem length_toDigits {n k : Nat} (hk : 0 < k) (h : n < Nat.pow 10 k) :
    (Nat.toDigits 10 n).length ≤ k :=
  (Nat.length_toDigits_le_iff (by decide) hk).2 h

theorem exists_magnitude_toDigits (negative : Bool) {n : Nat}
    (h : n < Nat.pow 10 Value.maxDigits) {rest : List Char} (hrest : Stops rest) :
    ∃ c cs, (Text.ofNat n).chars = c :: cs ∧ c.isDigit = true ∧
      magnitude negative (c :: (cs ++ rest)) =
        .ok (.int (if negative then -(n : Int) else n), rest) := by
  have hwhole := isWhole_toDigits n
  have hmagnitude := magnitude_int negative hwhole (length_toDigits (by decide) h) hrest
  rw [digitsValue_toDigits] at hmagnitude
  obtain ⟨c, cs, hdigits⟩ := List.exists_cons_of_ne_nil hwhole.ne_nil
  rw [hdigits] at hwhole hmagnitude
  rw [Text.ofNat, Text.chars_map_char]
  exact ⟨c, cs, hdigits, hwhole.digits c (List.mem_cons_self ..), hmagnitude⟩

theorem value_ofInt {fuel : Nat} {n : Int} (h : n.natAbs < Nat.pow 10 Value.maxDigits)
    {rest : List Char} (hrest : Stops rest) :
    value (fuel + 1) ((Text.ofInt n).chars ++ rest) = .ok (.int n, rest) := by
  cases n with
  | ofNat n =>
    obtain ⟨c, cs, htext, hc, hmagnitude⟩ :=
      @exists_magnitude_toDigits false n h rest hrest
    rw [Text.ofInt, htext, List.cons_append, value_of_digit hc]
    exact hmagnitude
  | negSucc n =>
    obtain ⟨c, cs, htext, hc, hmagnitude⟩ :=
      @exists_magnitude_toDigits true (n + 1) h rest hrest
    rw [Text.ofInt, Text.chars_cons_char, htext, List.cons_append, List.cons_append,
      value_of_minus hc]
    exact hmagnitude

theorem value_render (x : Float) :
    ∃ y, ∀ fuel rest, Stops rest →
      value (fuel + 1) ((Decimal.render "Infinity" "NaN" x).chars ++ rest) =
        .ok (.float y, rest) := by
  rw [Decimal.render]
  split
  · rename_i negative b heq
    obtain ⟨whole, behind, htext, hwhole, hbehind⟩ := isFloatText_magnitudeText b
    obtain ⟨c, cs, rfl⟩ := List.exists_cons_of_ne_nil hwhole.ne_nil
    have hc : c.isDigit = true := hwhole.digits c (List.mem_cons_self ..)
    obtain ⟨y, hy⟩ := magnitude_float negative hwhole hbehind
    refine ⟨y, fun fuel rest hrest => ?_⟩
    rw [Text.chars_append, htext]
    cases negative with
    | false => exact (value_of_digit hc _).trans (hy rest hrest)
    | true => exact (value_of_minus hc _).trans (hy rest hrest)
  · rename_i negative heq
    cases negative with
    | false => exact ⟨_, fun _ _ _ => rfl⟩
    | true => exact ⟨_, fun _ _ _ => rfl⟩
  · exact ⟨_, fun _ _ _ => rfl⟩

end Json

end StructSchema
