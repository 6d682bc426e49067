import StructSchema.Proofs.JsonNumber

/-!
# Reading strings back

A string is read back from what is written for it between quotes: each escape gives the code point
for which it stands, and the two surrogates that stand for a character join to it again.
-/

namespace StructSchema

namespace CodePoint

theorem ofNat?_surrogate {k : Nat} (h : k < 2048) : ofNat? (0xD800 + k) = some (.lone ⟨k, h⟩) := by
  rw [ofNat?, dif_pos (by omega)]
  simp only [Nat.add_sub_cancel_left]

theorem ofNat?_val {c : CodePoint} : ofNat? c.val = some c := by
  cases c with
  | char c =>
    have hc := c.valid
    have hval : (char c).val = c.toNat := rfl
    rw [hval, ofNat?, dif_neg, if_pos, Char.ofNat_toNat]
    · rcases hc with hc | hc
      · exact Nat.lt_trans hc (by decide)
      · exact hc.2
    · rcases hc with hc | hc
      · intro h
        exact absurd hc (Nat.not_lt.2 h.1)
      · intro h
        exact absurd h.2 (Nat.not_lt.2 hc.1)
  | lone half => exact ofNat?_surrogate half.isLt

end CodePoint

namespace Json

/-! ### Strings -/

/-- A code point before a text, as a written string gives them back: in ASCII a high surrogate joins
with a low one behind it, and otherwise a surrogate has no character to be read. -/
def rereadPoint (ascii : Bool) (c : CodePoint) (t : Text) : Text :=
  if ascii then joinSurrogate c t else if c.isSurrogate then t else c :: t

/-- A text as it is read back when it has been written as a string. -/
def rereadText (ascii : Bool) (t : Text) : Text := t.foldr (rereadPoint ascii) []

theorem joinSurrogate_of_low {half : Fin 2048} (h : 0x400 ≤ half.val) (t : Text) :
    joinSurrogate (.lone half) t = .lone half :: t := by
  cases t with
  | nil => rfl
  | cons c t =>
    cases c with
    | char c => rfl
    | lone low => exact if_neg fun hless => absurd hless.1 (Nat.not_lt.2 h)

theorem rereadPoint_char (ascii : Bool) (c : Char) (t : Text) :
    rereadPoint ascii (.char c) t = .char c :: t := by
  cases ascii <;> rfl

theorem rereadText_of_isClean (ascii : Bool) {t : Text} (h : t.IsClean) :
    rereadText ascii t = t := by
  obtain ⟨cs, rfl⟩ := Text.exists_chars h
  induction cs with
  | nil => rfl
  | cons c cs ih =>
    rw [rereadText, List.map_cons, List.foldr_cons, rereadPoint_char]
    exact congrArg _ (ih (Text.isClean_map_char cs))

theorem hexNumber?_digitChars {a b c d : Nat} (ha : a < 16) (hb : b < 16) (hc : c < 16)
    (hd : d < 16) : hexNumber? [a.digitChar, b.digitChar, c.digitChar, d.digitChar] =
      some (((a * 16 + b) * 16 + c) * 16 + d) := by
  have hcases : ∀ k < 16,
      (('0' ≤ k.digitChar ∧ k.digitChar ≤ '9') ∧ k.digitChar.toNat - '0'.toNat = k) ∨
        ¬('0' ≤ k.digitChar ∧ k.digitChar ≤ '9') ∧ ('a' ≤ k.digitChar ∧ k.digitChar ≤ 'f') ∧
          k.digitChar.toNat - 'a'.toNat + 10 = k := by decide
  have hdigit : ∀ k < 16, ∀ n,
      (if '0' ≤ k.digitChar ∧ k.digitChar ≤ '9' then some (n * 16 + (k.digitChar.toNat - '0'.toNat))
        else if 'a' ≤ k.digitChar ∧ k.digitChar ≤ 'f' then
          some (n * 16 + (k.digitChar.toNat - 'a'.toNat + 10))
        else if 'A' ≤ k.digitChar ∧ k.digitChar ≤ 'F' then
          some (n * 16 + (k.digitChar.toNat - 'A'.toNat + 10))
        else none) = some (n * 16 + k) := by
    intro k hk n
    rcases hcases k hk with ⟨hlow, hvalue⟩ | ⟨hnot, hhigh, hvalue⟩
    · rw [if_pos hlow, hvalue]
    · rw [if_neg hnot, if_pos hhigh, hvalue]
  have hfirst := hdigit a ha 0
  simp only [Nat.zero_mul, Nat.zero_add] at hfirst
  simp only [hexNumber?, List.foldlM_cons, List.foldlM_nil, hfirst, hdigit b hb, hdigit c hc,
    hdigit d hd, Option.bind_eq_bind, Option.bind_some, Option.pure_def, Nat.zero_mul,
    Nat.zero_add]

theorem hexNumber?_hexDigits {n : Nat} (hn : n < 0x10000) :
    hexNumber? (Text.hexDigits 4 n).chars = some n := by
  have hlt : ∀ m, m % 16 < 16 := fun m => Nat.mod_lt m (by decide)
  refine (hexNumber?_digitChars (hlt _) (hlt _) (hlt _) (hlt _)).trans ?_
  rw [Option.some.injEq]
  omega

theorem stringBody_unitEscape {n : Nat} {point : CodePoint}
    (hpoint : CodePoint.ofNat? n = some point)
    (hn : n < 0x10000) {cs rest : List Char} {t : Text} (h : stringBody cs = .ok (t, rest)) :
    stringBody ((unitEscape n).chars ++ cs) = .ok (joinSurrogate point t, rest) := by
  have hdigits : (Text.hexDigits 4 n).chars = [Nat.digitChar (n / 16 / 16 / 16 % 16),
    Nat.digitChar (n / 16 / 16 % 16), Nat.digitChar (n / 16 % 16), Nat.digitChar (n % 16)] := rfl
  have htext : (unitEscape n).chars ++ cs =
    '\\' :: 'u' :: Nat.digitChar (n / 16 / 16 / 16 % 16) :: Nat.digitChar (n / 16 / 16 % 16) ::
      Nat.digitChar (n / 16 % 16) :: Nat.digitChar (n % 16) :: cs := rfl
  have hnumber := hexNumber?_hexDigits hn
  rw [hdigits] at hnumber
  rw [htext, stringBody, hnumber, h, Option.bind_some, hpoint]

theorem stringBody_escape {c e : Char} (hc : c ≠ 'u') (he : simpleEscape? c = some e)
    {cs rest : List Char} {t : Text} (h : stringBody cs = .ok (t, rest)) :
    stringBody ('\\' :: c :: cs) = .ok (.char e :: t, rest) := by
  rw [stringBody, he, h]
  intro a b d f after heq
  exact absurd heq hc

theorem stringBody_char {c : Char} (hspace : ' ' ≤ c) (hquote : c ≠ '"') (hslash : c ≠ '\\')
    {cs rest : List Char} {t : Text} (h : stringBody cs = .ok (t, rest)) :
    stringBody (c :: cs) = .ok (.char c :: t, rest) := by
  rw [stringBody, if_neg (not_or.2 ⟨Char.not_lt.2 hspace, hslash⟩), h]
  · exact fun heq => absurd heq hquote
  · exact fun _ _ _ _ _ heq => absurd heq hslash
  · exact fun _ _ heq => absurd heq hslash

theorem rereadPoint_of_val_lt (ascii : Bool) {c : CodePoint} (h : c.val < 0x20) (t : Text) :
    rereadPoint ascii c t = joinSurrogate c t := by
  cases c with
  | char c => exact rereadPoint_char ascii c t
  | lone half =>
    have : 0xD800 + half.val < 0x20 := h
    omega

/-- A character that is written as a pair of surrogates is read as one again. -/
theorem stringBody_pair {c : Char} (hc : 0x10000 ≤ c.toNat) {cs rest : List Char} {t : Text}
    (h : stringBody cs = .ok (t, rest)) :
    stringBody ((unitEscape (0xD800 + (c.toNat - 0x10000) / 0x400)).chars ++
      ((unitEscape (0xDC00 + (c.toNat - 0x10000) % 0x400)).chars ++ cs)) =
      .ok (.char c :: t, rest) := by
  have hmost : c.toNat < 0x110000 := by
    rcases c.valid with hc | hc
    · exact Nat.lt_trans hc (by decide)
    · exact hc.2
  obtain ⟨high, hhigh⟩ : ∃ high, high = (c.toNat - 0x10000) / 0x400 := ⟨_, rfl⟩
  obtain ⟨low, hlow⟩ : ∃ low, low = (c.toNat - 0x10000) % 0x400 := ⟨_, rfl⟩
  have hsum : 0x10000 + high * 0x400 + low = c.toNat := by omega
  rw [← hhigh, ← hlow, show 0xDC00 + low = 0xD800 + (0x400 + low) by omega]
  have hhighPoint := CodePoint.ofNat?_surrogate (show high < 2048 by omega)
  have hlowPoint := CodePoint.ofNat?_surrogate (show 0x400 + low < 2048 by omega)
  rw [stringBody_unitEscape hhighPoint (by omega) (stringBody_unitEscape hlowPoint (by omega) h)]
  rw [@joinSurrogate_of_low ⟨0x400 + low, by omega⟩ (Nat.le_add_right _ _), joinSurrogate]
  dsimp only
  rw [if_pos ⟨by omega, by omega⟩, Nat.add_sub_cancel_left, hsum, Char.ofNat_toNat]

/-- A written code point is read, before the text that is read behind it. -/
theorem stringBody_writePoint (ascii : Bool) (c : CodePoint) {cs rest : List Char} {t : Text}
    (h : stringBody cs = .ok (t, rest)) :
    stringBody ((writePoint ascii c).chars ++ cs) = .ok (rereadPoint ascii c t, rest) := by
  rw [writePoint]
  iterate 7
    split
    · subst c
      rw [rereadPoint_char]
      exact stringBody_escape (by decide) rfl h
  rename_i hquote hslash _ _ _ _ _
  split
  · -- one unit of UTF-16 is written in figures
    rename_i hunit
    have hlt : c.val < 0x10000 := by omega
    rw [stringBody_unitEscape CodePoint.ofNat?_val hlt h]
    rcases hunit with hlow | ⟨rfl, -⟩
    · rw [rereadPoint_of_val_lt ascii hlow]
    · rfl
  split
  · -- two units, which join again
    rename_i hpair
    obtain ⟨rfl, hlarge⟩ := hpair
    cases c with
    | lone half =>
      have : 0x10000 ≤ 0xD800 + half.val := hlarge
      omega
    | char c =>
      rw [Text.chars_append, List.append_assoc, rereadPoint_char]
      exact stringBody_pair hlarge h
  · rename_i hsmall hlarge
    cases c with
    | lone half =>
      cases ascii with
      | true =>
        refine absurd (.inr ⟨rfl, ?_, ?_⟩) hsmall
        · show 0x7F ≤ 0xD800 + half.val
          omega
        · show 0xD800 + half.val < 0x10000
          omega
      | false => exact h
    | char c =>
      have hspace : ' ' ≤ c := by
        rw [not_or] at hsmall
        exact Nat.not_lt.1 hsmall.1
      rw [rereadPoint_char]
      exact stringBody_char hspace (fun heq => hquote (congrArg _ heq))
        (fun heq => hslash (congrArg _ heq)) h

theorem stringBody_flatMap (ascii : Bool) (t : Text) (rest : List Char) :
    stringBody (Text.chars (t.flatMap (writePoint ascii)) ++ '"' :: rest) =
      .ok (rereadText ascii t, rest) := by
  induction t with
  | nil => rfl
  | cons c t ih =>
    rw [List.flatMap_cons, Text.chars_append, List.append_assoc]
    exact stringBody_writePoint ascii c ih

theorem chars_writeString (ascii : Bool) (t : Text) (rest : List Char) :
    (writeString ascii t).chars ++ rest =
      '"' :: (Text.chars (t.flatMap (writePoint ascii)) ++ '"' :: rest) := by
  rw [writeString, Text.chars_append, Text.chars_append, List.append_assoc, List.append_assoc]
  rfl

end Json

end StructSchema
