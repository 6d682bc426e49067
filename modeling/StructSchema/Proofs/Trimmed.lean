import Mathlib.Data.List.TakeWhile
import StructSchema.Proofs.Splitting
import StructSchema.Text.Blank

/-!
# Blanks around and between words

Stripping leaves a text alone that neither begins nor ends with a blank, and the words of a text
are what stands between its blanks.
-/

namespace StructSchema.Text

/-- A text that neither begins nor ends with a blank. -/
def IsTrimmed (t : Text) : Prop :=
  (∀ c, t.head? = some c → c.isBlank = false) ∧ ∀ c, t.getLast? = some c → c.isBlank = false

instance : DecidablePred IsTrimmed := fun t =>
  inferInstanceAs (Decidable ((∀ c ∈ t.head?, c.isBlank = false) ∧
    ∀ c ∈ t.getLast?, c.isBlank = false))

theorem stripStart_of_head {t : Text} (h : ∀ c, t.head? = some c → c.isBlank = false) :
    stripStart t = t := by
  cases t with
  | nil => rfl
  | cons c rest => rw [stripStart, List.dropWhile_cons_of_neg (by simp [h c rfl])]

theorem stripEnd_of_getLast {t : Text} (h : ∀ c, t.getLast? = some c → c.isBlank = false) :
    stripEnd t = t := by
  have hr : ∀ c, t.reverse.head? = some c → c.isBlank = false := by
    intro c hc
    rw [List.head?_reverse] at hc
    exact h c hc
  rw [stripEnd, stripStart_of_head hr, List.reverse_reverse]

theorem strip_of_isTrimmed {t : Text} (h : IsTrimmed t) : strip t = t := by
  rw [strip, stripStart_of_head h.1, stripEnd_of_getLast h.2]

theorem not_blank_of_stripStart {t : Text} {c : CodePoint} (h : (stripStart t).head? = some c) :
    c.isBlank = false := by
  have hhead := List.head?_dropWhile_not CodePoint.isBlank t
  rw [stripStart] at h
  rw [h] at hhead
  exact hhead

theorem not_blank_of_strip {t : Text} {c : CodePoint} (h : (strip t).getLast? = some c) :
    c.isBlank = false := by
  rw [strip, stripEnd, List.getLast?_reverse] at h
  exact not_blank_of_stripStart h

theorem stripEnd_prefix (t : Text) : stripEnd t <+: t := by
  have hsuffix := List.dropWhile_suffix CodePoint.isBlank (l := t.reverse)
  have hprefix := List.reverse_prefix.2 hsuffix
  rw [List.reverse_reverse] at hprefix
  exact hprefix

theorem isTrimmed_strip (t : Text) : IsTrimmed (strip t) := by
  refine ⟨fun c hc => ?_, fun c hc => not_blank_of_strip hc⟩
  obtain ⟨rest, hrest⟩ := stripEnd_prefix (stripStart t)
  refine not_blank_of_stripStart (t := t) ?_
  rw [← hrest, List.head?_append, ← strip, hc, Option.some_or]

theorem isTrimmed_of_not_blank {t : Text} (h : ∀ c ∈ t, c.isBlank = false) : IsTrimmed t :=
  ⟨fun c hc => h c (List.mem_of_head? hc), fun c hc => h c (List.mem_of_getLast? hc)⟩

theorem isTrimmed_between {s t : Text} (hs : s ≠ []) (ht : t ≠ []) (hst : IsTrimmed s)
    (htt : IsTrimmed t) (between : Text) : IsTrimmed (s ++ (between ++ t)) := by
  constructor
  · intro c hc
    obtain ⟨d, rest, rfl⟩ := List.exists_cons_of_ne_nil hs
    exact hst.1 c hc
  · intro c hc
    obtain ⟨d, hd⟩ := Option.isSome_iff_exists.1 (List.getLast?_isSome.2 ht)
    rw [← List.append_assoc, List.getLast?_append, hd, Option.some_or, Option.some.injEq] at hc
    exact htt.2 c (hc ▸ hd)

theorem isTrimmed_bracket {first last : CodePoint} (hf : first.isBlank = false)
    (hl : last.isBlank = false) (t : Text) : IsTrimmed (first :: t ++ [last]) :=
  isTrimmed_between (s := [first]) (by simp) (by simp)
    (isTrimmed_of_not_blank (by simpa using hf)) (isTrimmed_of_not_blank (by simpa using hl)) t

/-! ### Blanks around a text -/

def IsBlank (t : Text) : Prop := ∀ c ∈ t, c.isBlank = true

instance : DecidablePred IsBlank := fun t =>
  inferInstanceAs (Decidable (∀ c ∈ t, c.isBlank = true))

theorem isBlank_nil : IsBlank [] := fun _ h => absurd h List.not_mem_nil

theorem IsBlank.append {s t : Text} (hs : IsBlank s) (ht : IsBlank t) : IsBlank (s ++ t) :=
  List.forall_mem_append.2 ⟨hs, ht⟩

theorem stripStart_append {s t : Text} (h : ∀ c, t.head? = some c → c.isBlank = false) :
    stripStart (s ++ t) = stripStart s ++ t := by
  rw [stripStart, List.dropWhile_append]
  split
  · rename_i hempty
    have hs : stripStart s = [] := List.isEmpty_iff.1 hempty
    have ht : stripStart t = t := stripStart_of_head h
    rw [hs, List.nil_append]
    exact ht
  · rfl

theorem stripEnd_append {s t : Text} (h : ∀ c, s.getLast? = some c → c.isBlank = false) :
    stripEnd (s ++ t) = s ++ stripEnd t := by
  have hr : ∀ c, s.reverse.head? = some c → c.isBlank = false := by
    intro c hc
    rw [List.head?_reverse] at hc
    exact h c hc
  rw [stripEnd, List.reverse_append, stripStart_append hr, List.reverse_append,
    List.reverse_reverse, stripEnd]

theorem strip_between {t : Text} (hne : t ≠ []) (ht : IsTrimmed t) (before after : Text) :
    strip (before ++ (t ++ after)) = stripStart before ++ (t ++ stripEnd after) := by
  obtain ⟨first, hfirst⟩ := Option.isSome_iff_exists.1 (List.isSome_head?.2 hne)
  obtain ⟨last, hlast⟩ := Option.isSome_iff_exists.1 (List.getLast?_isSome.2 hne)
  have hstart : ∀ c, (t ++ after).head? = some c → c.isBlank = false := by
    intro c hc
    rw [List.head?_append, hfirst, Option.some_or] at hc
    exact ht.1 c (hfirst.trans hc)
  have hend : ∀ c, (stripStart before ++ t).getLast? = some c → c.isBlank = false := by
    intro c hc
    rw [List.getLast?_append, hlast, Option.some_or] at hc
    exact ht.2 c (hlast.trans hc)
  rw [strip, stripStart_append hstart, ← List.append_assoc, stripEnd_append hend,
    List.append_assoc]

theorem stripStart_of_isBlank {t : Text} (h : IsBlank t) : stripStart t = [] :=
  List.dropWhile_eq_nil_iff.2 h

theorem stripEnd_of_isBlank {t : Text} (h : IsBlank t) : stripEnd t = [] := by
  have hr : IsBlank t.reverse := fun c hc => h c (List.mem_reverse.1 hc)
  rw [stripEnd, stripStart_of_isBlank hr, List.reverse_nil]

theorem mem_of_mem_stripStart {t : Text} {c : CodePoint} (h : c ∈ stripStart t) : c ∈ t :=
  (List.dropWhile_sublist _).mem h

theorem mem_of_mem_stripEnd {t : Text} {c : CodePoint} (h : c ∈ stripEnd t) : c ∈ t :=
  List.mem_reverse.1 (mem_of_mem_stripStart (List.mem_reverse.1 h))

/-- A text with blanks around it. -/
def Padded (t padded : Text) : Prop :=
  ∃ before after : Text, IsBlank before ∧ IsBlank after ∧ padded = before ++ (t ++ after)

theorem Padded.refl (t : Text) : Padded t t :=
  ⟨[], [], isBlank_nil, isBlank_nil, (List.append_nil t).symm⟩

theorem Padded.trans {s t u : Text} (hst : Padded s t) (htu : Padded t u) : Padded s u := by
  obtain ⟨before, after, hbefore, hafter, rfl⟩ := hst
  obtain ⟨start, rest, hstart, hrest, rfl⟩ := htu
  refine ⟨start ++ before, after ++ rest, hstart.append hbefore, hafter.append hrest, ?_⟩
  simp only [List.append_assoc]

theorem Padded.strip_eq {t padded : Text} (h : Padded t padded) (hne : t ≠ [])
    (ht : IsTrimmed t) : strip padded = t := by
  obtain ⟨before, after, hbefore, hafter, rfl⟩ := h
  rw [strip_between hne ht, stripStart_of_isBlank hbefore, stripEnd_of_isBlank hafter,
    List.nil_append, List.append_nil]

theorem padded_strip (t : Text) : Padded (strip t) t := by
  have hstart : t.takeWhile CodePoint.isBlank ++ stripStart t = t := List.takeWhile_append_dropWhile
  have hend : (stripStart t).reverse.takeWhile CodePoint.isBlank ++
      stripStart (stripStart t).reverse = (stripStart t).reverse :=
    List.takeWhile_append_dropWhile
  have hbehind := congrArg List.reverse hend
  rw [List.reverse_append, List.reverse_reverse] at hbehind
  refine ⟨t.takeWhile CodePoint.isBlank,
    ((stripStart t).reverse.takeWhile CodePoint.isBlank).reverse, ?_, ?_, ?_⟩
  · exact fun c hc => List.mem_takeWhile_imp hc
  · exact fun c hc => List.mem_takeWhile_imp (List.mem_reverse.1 hc)
  · rw [strip, stripEnd, hbehind, hstart]

/-! ### Words -/

theorem words_blank_append {blanks : Text} (h : IsBlank blanks) (t : Text) :
    words (blanks ++ t) = words t := by
  induction blanks with
  | nil => rfl
  | cons c blanks ih =>
    obtain ⟨hc, hblanks⟩ := List.forall_mem_cons.1 h
    have hstep : words (c :: (blanks ++ t)) = words (blanks ++ t) := by
      rw [words, split, if_pos hc]
      exact List.filter_cons_of_neg (by simp)
    rw [List.cons_append, hstep, ih hblanks]

theorem words_singleton {s : Text} (hs : s ≠ []) (hsb : ∀ c ∈ s, c.isBlank = false) :
    words s = [s] := by
  rw [words, split_of_not_sep hsb]
  exact List.filter_cons_of_pos (by simp [hs])

theorem words_pair {s t gap : Text} (hs : s ≠ []) (ht : t ≠ [])
    (hsb : ∀ c ∈ s, c.isBlank = false) (htb : ∀ c ∈ t, c.isBlank = false) (hne : gap ≠ [])
    (hgap : IsBlank gap) : words (s ++ (gap ++ t)) = [s, t] := by
  obtain ⟨c, blanks, rfl⟩ := List.exists_cons_of_ne_nil hne
  obtain ⟨hc, hblanks⟩ := List.forall_mem_cons.1 hgap
  have hrest : words (s ++ c :: (blanks ++ t)) = s :: words (blanks ++ t) := by
    rw [words, split_append_sep hsb hc]
    exact List.filter_cons_of_pos (by simp [hs])
  rw [List.cons_append, hrest, words_blank_append hblanks, words_singleton ht htb]

theorem padded_of_words {t word : Text} (h : words t = [word]) : Padded word t := by
  have hparts := interleaves_split CodePoint.isBlank t
  obtain ⟨before, rest, hbefore, rfl, hrest⟩ := hparts.of_filter_eq_cons h
  refine ⟨before, rest, hbefore, ?_, rfl⟩
  rcases hrest with ⟨rfl, -⟩ | ⟨c, behind, more, hc, rfl, hmore, hnone⟩
  · exact isBlank_nil
  · exact List.forall_mem_cons.2 ⟨hc, hmore.of_filter_eq_nil hnone⟩

theorem padded_of_words_pair {t first second : Text} (h : words t = [first, second]) :
    ∃ gap, gap ≠ [] ∧ IsBlank gap ∧ Padded (first ++ (gap ++ second)) t := by
  have hparts := interleaves_split CodePoint.isBlank t
  obtain ⟨before, rest, hbefore, rfl, hrest⟩ := hparts.of_filter_eq_cons h
  rcases hrest with ⟨-, hnone⟩ | ⟨c, behind, more, hc, rfl, hmore, hsecond⟩
  · cases hnone
  -- behind the first word comes a blank, and then a text of which the second is the only word
  obtain ⟨between, after, hbetween, rfl, hafter⟩ := hmore.of_filter_eq_cons hsecond
  refine ⟨c :: between, List.cons_ne_nil _ _, List.forall_mem_cons.2 ⟨hc, hbetween⟩, before, after,
    hbefore, ?_, by simp⟩
  rcases hafter with ⟨rfl, -⟩ | ⟨d, behind, more, hd, rfl, hmore, hnone⟩
  · exact isBlank_nil
  · exact List.forall_mem_cons.2 ⟨hd, hmore.of_filter_eq_nil hnone⟩

end StructSchema.Text
