import StructSchema.Name
import StructSchema.Text.Blank

/-!
# Names that are plain words

A name is accepted with one line break behind it. The names written into tags and keys are those
without: plain words of at most the greatest length.
-/

namespace StructSchema

/-! ### Characters of words -/

namespace CodePoint

theorem ascii_cases {P : CodePoint → Prop} (h : ∀ n : Fin 128, P (.char (Char.ofNat n))) {c : Char}
    (hc : c.toNat < 128) : P (.char c) := by
  have hn := h ⟨c.toNat, hc⟩
  rwa [Char.ofNat_toNat] at hn

theorem isWordPart_cases {P : CodePoint → Prop} [DecidablePred P]
    (h : ∀ n : Fin 128, isWordPart (.char (Char.ofNat n)) = true → P (.char (Char.ofNat n)))
    {c : CodePoint} (hc : c.isWordPart = true) : P c := by
  cases c with
  | lone half => simp [isWordPart, isAscii] at hc
  | char c =>
    have ha : c.toNat < 128 := by
      simp only [isWordPart, isAscii, Bool.and_eq_true, decide_eq_true_eq] at hc
      exact hc.1
    exact ascii_cases (P := fun c => c.isWordPart = true → P c) h ha hc

theorem isWordPart_of_isWordStart {c : CodePoint} (h : c.isWordStart = true) :
    c.isWordPart = true := by
  cases c with
  | lone half => simp [isWordStart, isAscii] at h
  | char c =>
    simp only [isWordStart, isWordPart, isAscii, Char.isAlphanum, Bool.and_eq_true,
      Bool.or_eq_true] at h ⊢
    exact ⟨h.1, h.2.imp Or.inl id⟩

theorem isBlank_of_isWordPart {c : CodePoint} (h : c.isWordPart = true) : c.isBlank = false :=
  isWordPart_cases (P := fun c => c.isBlank = false) (by decide) h

theorem isWordPart_toLower {c : CodePoint} (h : c.isWordPart = true) :
    c.toLower.isWordPart = true :=
  isWordPart_cases (P := fun c => c.toLower.isWordPart = true) (by decide) h

theorem isWordStart_toLower {c : CodePoint} (h : c.isWordStart = true) :
    c.toLower.isWordStart = true :=
  isWordPart_cases (P := fun c => c.isWordStart = true → c.toLower.isWordStart = true) (by decide)
    (isWordPart_of_isWordStart h) h

end CodePoint

/-! ### Plain words -/

namespace Text

variable {t : Text}

theorem isPlainWord_toLower (h : isPlainWord t = true) : isPlainWord (toLower t) = true := by
  cases t with
  | nil => cases h
  | cons c rest =>
    simp only [isPlainWord, Bool.and_eq_true, List.all_eq_true] at h
    simp only [toLower, List.map_cons, isPlainWord, Bool.and_eq_true, List.all_eq_true,
      List.forall_mem_map]
    exact ⟨CodePoint.isWordStart_toLower h.1,
      fun d hd => CodePoint.isWordPart_toLower (h.2 d hd)⟩

/-- A word is plain but for the line break that may follow it. -/
theorem isWord_iff : isWord t = true ↔
    isPlainWord t = true ∨ ∃ word, isPlainWord word = true ∧ t = word ++ [.char '\n'] := by
  rw [isWord, Bool.or_eq_true, Bool.and_eq_true, beq_iff_eq]
  constructor
  · intro h
    rcases h with h | ⟨hlast, h⟩
    · exact .inl h
    · obtain ⟨word, rfl⟩ := List.getLast?_eq_some_iff.1 hlast
      rw [List.dropLast_concat] at h
      exact .inr ⟨word, h, rfl⟩
  · intro h
    rcases h with h | ⟨word, h, rfl⟩
    · exact .inl h
    · rw [List.getLast?_concat, List.dropLast_concat]
      exact .inr ⟨rfl, h⟩

theorem isPlainWord_of_isWord (h : isWord t = true)
    (hlast : ∀ c, t.getLast? = some c → c.isBlank = false) : isPlainWord t = true := by
  rcases isWord_iff.1 h with h | ⟨word, -, rfl⟩
  · exact h
  · have hbreak := hlast (.char '\n') List.getLast?_concat
    exact absurd hbreak (by decide)

end Text

namespace Name

/-- A plain word that is not too long for a name. -/
def IsPlain (name : Text) : Prop := Text.isPlainWord name = true ∧ name.length ≤ maxLength

instance : DecidablePred IsPlain := fun _ => inferInstanceAs (Decidable (_ ∧ _))

theorem normalize_eq_ok_iff {raw name : Text} :
    normalize raw = .ok name ↔ isValid raw = true ∧ name = Text.toLower raw := by
  cases raw with
  | nil => simp [normalize, isValid, Text.isWord, Text.isPlainWord]
  | cons c rest =>
    by_cases hl : maxLength < rest.length + 1
    · have hn : ¬rest.length + 1 ≤ maxLength := by omega
      simp [normalize, isValid, hl, hn]
    · have hn : rest.length + 1 ≤ maxLength := by omega
      cases hw : Text.isWord (c :: rest) <;> simp [normalize, isValid, hl, hn, hw, eq_comm]

namespace IsPlain

variable {name : Text}

theorem isValid (h : IsPlain name) : Name.isValid name = true := by
  simp only [Name.isValid, Text.isWord, h.1, Bool.true_or, Bool.true_and, decide_eq_true_eq]
  exact h.2

theorem normalize_eq (h : IsPlain name) : normalize name = .ok (Text.toLower name) :=
  normalize_eq_ok_iff.2 ⟨h.isValid, rfl⟩

theorem exists_cons (h : IsPlain name) :
    ∃ c rest, name = c :: rest ∧ c.isWordStart = true ∧ ∀ d ∈ rest, d.isWordPart = true := by
  cases name with
  | nil => simp [IsPlain, Text.isPlainWord] at h
  | cons c rest =>
    have hw := h.1
    simp only [Text.isPlainWord, Bool.and_eq_true, List.all_eq_true] at hw
    exact ⟨c, rest, rfl, hw.1, hw.2⟩

theorem ne_nil (h : IsPlain name) : name ≠ [] := by
  obtain ⟨c, rest, rfl, -, -⟩ := h.exists_cons
  simp

theorem isWordPart (h : IsPlain name) : ∀ c ∈ name, c.isWordPart = true := by
  obtain ⟨c, rest, rfl, hc, hrest⟩ := h.exists_cons
  exact List.forall_mem_cons.2 ⟨CodePoint.isWordPart_of_isWordStart hc, hrest⟩

theorem toLower (h : IsPlain name) : IsPlain (Text.toLower name) := by
  refine ⟨Text.isPlainWord_toLower h.1, ?_⟩
  rw [Text.length_toLower]
  exact h.2

end IsPlain

end Name

end StructSchema
