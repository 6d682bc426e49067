import Mathlib.Data.List.Infix
import StructSchema.TagOptions

/-!
# Splitting text

Splitting puts the code points that are no separators to the part that follows. A text is kept
whole between two depths of parentheses if splitting puts all of it to the part that follows; kept
texts with separators between them are the parts of the whole.
-/

namespace StructSchema

namespace Text

def glue (t : Text) : List Text → List Text
  | part :: parts => (t ++ part) :: parts
  | [] => [t]

theorem glue_append (s t : Text) (parts : List Text) :
    glue s (glue t parts) = glue (s ++ t) parts := by
  cases parts with
  | nil => rfl
  | cons part parts => simp only [glue, List.append_assoc]

theorem glue_nil {parts : List Text} (h : parts ≠ []) : glue [] parts = parts := by
  cases parts with
  | nil => exact absurd rfl h
  | cons part parts => rfl

theorem join_cons (sep first : Text) (rest : List Text) :
    join sep (first :: rest) = first ++ rest.flatMap (sep ++ ·) := by
  induction rest generalizing first with
  | nil => simp [join, List.intercalate]
  | cons second rest ih =>
    have hstep :
        join sep (first :: second :: rest) = first ++ (sep ++ join sep (second :: rest)) := by
      simp [join, List.intercalate]
    rw [hstep, ih, List.flatMap_cons, List.append_assoc]

/-! ### Splitting everywhere -/

theorem split_append {isSep : CodePoint → Bool} {t : Text} (h : ∀ c ∈ t, isSep c = false)
    (rest : Text) : split isSep (t ++ rest) = glue t (split isSep rest) := by
  induction t with
  | nil => exact (glue_nil (split_ne_nil isSep rest)).symm
  | cons c t ih =>
    obtain ⟨hc, ht⟩ := List.forall_mem_cons.1 h
    have hstep : split isSep (c :: t ++ rest) = glue [c] (split isSep (t ++ rest)) := by
      rw [List.cons_append, split, hc]
      cases split isSep (t ++ rest) <;> rfl
    rw [hstep, ih ht, glue_append, List.singleton_append]

theorem split_of_not_sep {isSep : CodePoint → Bool} {t : Text} (h : ∀ c ∈ t, isSep c = false) :
    split isSep t = [t] := by
  have hs := split_append h []
  rw [List.append_nil] at hs
  rw [hs]
  simp [split, glue]

theorem split_append_sep {isSep : CodePoint → Bool} {t : Text} {s : CodePoint}
    (h : ∀ c ∈ t, isSep c = false) (hs : isSep s = true) (rest : Text) :
    split isSep (t ++ s :: rest) = t :: split isSep rest := by
  rw [split_append h, split, hs]
  simp [glue]

/-- The parts of texts without separators that are written with a separator before each but the
first. -/
theorem split_flatMap {isSep : CodePoint → Bool} {s : CodePoint} (hs : isSep s = true)
    {first : Text} {others : List Text} (h : ∀ t ∈ first :: others, ∀ c ∈ t, isSep c = false) :
    split isSep (first ++ others.flatMap (s :: ·)) = first :: others := by
  induction others generalizing first with
  | nil =>
    rw [List.flatMap_nil, List.append_nil, split_of_not_sep (h first (List.mem_cons_self ..))]
  | cons second others ih =>
    obtain ⟨hfirst, hothers⟩ := List.forall_mem_cons.1 h
    rw [List.flatMap_cons, List.cons_append, split_append_sep hfirst hs, ih hothers]

end Text

/-! ### Splitting outside parentheses -/

def depthAfter (depth : Nat) (c : CodePoint) : Nat :=
  if c = .char '(' then depth + 1 else if c = .char ')' then depth - 1 else depth

@[simp] theorem depthAfter_opening (depth : Nat) : depthAfter depth (.char '(') = depth + 1 := by
  simp [depthAfter]

@[simp] theorem depthAfter_closing (depth : Nat) : depthAfter depth (.char ')') = depth - 1 := by
  simp [depthAfter]

theorem depthAfter_of_ne {c : CodePoint} (ho : c ≠ .char '(') (hc : c ≠ .char ')') (depth : Nat) :
    depthAfter depth c = depth := by
  simp only [depthAfter, if_neg ho, if_neg hc]

theorem splitFrom_cons (isSep : CodePoint → Bool) (depth : Nat) (c : CodePoint) (rest : Text) :
    splitFrom isSep depth (c :: rest) =
      if c = .char ')' ∧ depth = 0 then none
      else if depthAfter depth c = 0 ∧ isSep c = true then
        (splitFrom isSep (depthAfter depth c) rest).map ([] :: ·)
      else (splitFrom isSep (depthAfter depth c) rest).map (Text.glue [c]) := by
  have hglue : (fun parts : List Text =>
      match parts with
      | part :: parts => (c :: part) :: parts
      | [] => [[c]]) = Text.glue [c] := by
    funext parts
    cases parts <;> rfl
  rw [splitFrom, ← hglue]
  rfl

theorem splitFrom_cons_eq_some {isSep : CodePoint → Bool} {depth : Nat} {c : CodePoint}
    {rest : Text} {parts : List Text} :
    splitFrom isSep depth (c :: rest) = some parts ↔ (c = .char ')' → 0 < depth) ∧
      ∃ behind, splitFrom isSep (depthAfter depth c) rest = some behind ∧
        (if depthAfter depth c = 0 ∧ isSep c = true then [] :: behind
          else Text.glue [c] behind) = parts := by
  rw [splitFrom_cons]
  by_cases hearly : c = .char ')' ∧ depth = 0
  · obtain ⟨rfl, rfl⟩ := hearly
    simp
  · have hclose : c = .char ')' → 0 < depth := fun hc =>
      Nat.pos_of_ne_zero fun hdepth => hearly ⟨hc, hdepth⟩
    rw [if_neg hearly, and_iff_right hclose]
    split
    · exact Option.map_eq_some_iff
    · exact Option.map_eq_some_iff

theorem splitFrom_ne_nil (isSep : CodePoint → Bool) (depth : Nat) (t : Text) :
    splitFrom isSep depth t ≠ some [] := by
  cases t with
  | nil =>
    rw [splitFrom]
    split <;> simp
  | cons c rest =>
    intro h
    obtain ⟨-, behind, -, hparts⟩ := splitFrom_cons_eq_some.1 h
    split at hparts
    · cases hparts
    · cases behind <;> cases hparts

/-- A text that splitting puts whole to the part that follows, from one depth to another. -/
def Keeps (isSep : CodePoint → Bool) (before : Nat) (t : Text) (after : Nat) : Prop :=
  ∀ rest, splitFrom isSep before (t ++ rest) = (splitFrom isSep after rest).map (Text.glue t)

namespace Keeps

variable {isSep : CodePoint → Bool} {before between after depth : Nat} {s t : Text}

theorem append (hs : Keeps isSep before s between) (ht : Keeps isSep between t after) :
    Keeps isSep before (s ++ t) after := by
  intro rest
  rw [List.append_assoc, hs, ht, Option.map_map]
  congr 1
  funext parts
  exact Text.glue_append s t parts

theorem nil : Keeps isSep depth [] depth := by
  intro rest
  cases h : splitFrom isSep depth rest with
  | none => simp [h]
  | some parts =>
    have hne : parts ≠ [] := by
      rintro rfl
      exact splitFrom_ne_nil isSep depth rest h
    simp [h, Text.glue_nil hne]

theorem not_splits {c : CodePoint} (hs : depth ≠ 0 ∨ isSep c = false) :
    ¬(depth = 0 ∧ isSep c = true) := by
  rintro ⟨hd, ht⟩
  rcases hs with hs | hs
  · exact hs hd
  · rw [hs] at ht
    cases ht

theorem char {c : CodePoint} (ho : c ≠ .char '(') (hc : c ≠ .char ')')
    (hs : depth ≠ 0 ∨ isSep c = false) : Keeps isSep depth [c] depth := by
  intro rest
  rw [List.singleton_append, splitFrom_cons, depthAfter_of_ne ho hc, if_neg (fun h => hc h.1),
    if_neg (not_splits hs)]

theorem opening : Keeps isSep depth [.char '('] (depth + 1) := by
  intro rest
  rw [List.singleton_append, splitFrom_cons, depthAfter_opening, if_neg (by simp),
    if_neg (by simp)]

theorem closing (hs : depth ≠ 0 ∨ isSep (.char ')') = false) :
    Keeps isSep (depth + 1) [.char ')'] depth := by
  intro rest
  rw [List.singleton_append, splitFrom_cons, depthAfter_closing, Nat.add_sub_cancel,
    if_neg (by simp), if_neg (not_splits hs)]

theorem word (h : ∀ c ∈ t, c ≠ .char '(' ∧ c ≠ .char ')' ∧ (depth ≠ 0 ∨ isSep c = false)) :
    Keeps isSep depth t depth := by
  induction t with
  | nil => exact nil
  | cons c t ih =>
    obtain ⟨⟨ho, hc, hs⟩, ht⟩ := List.forall_mem_cons.1 h
    exact append (s := [c]) (char ho hc hs) (ih ht)

theorem parenthesized (hs : depth ≠ 0 ∨ isSep (.char ')') = false)
    (ht : Keeps isSep (depth + 1) t (depth + 1)) :
    Keeps isSep depth (.char '(' :: t ++ [.char ')']) depth :=
  (opening.append ht).append (closing hs)

theorem flatMap {α : Type} {l : List α} {f : α → Text}
    (h : ∀ a ∈ l, Keeps isSep depth (f a) depth) : Keeps isSep depth (l.flatMap f) depth := by
  induction l with
  | nil => exact nil
  | cons a l ih =>
    obtain ⟨ha, hl⟩ := List.forall_mem_cons.1 h
    exact ha.append (ih hl)

theorem splitFrom_eq (h : Keeps isSep 0 t 0) : splitFrom isSep 0 t = some [t] := by
  have hs := h []
  rw [List.append_nil] at hs
  rw [hs]
  simp [splitFrom, Text.glue]

theorem splitFrom_append_sep (h : Keeps isSep 0 t 0) {c : CodePoint} (hs : isSep c = true)
    (ho : c ≠ .char '(') (hc : c ≠ .char ')') (rest : Text) :
    splitFrom isSep 0 (t ++ c :: rest) = (splitFrom isSep 0 rest).map (t :: ·) := by
  have hglue : (Text.glue t ∘ ([] :: ·)) = (t :: · : List Text → List Text) := by
    funext parts
    simp [Text.glue]
  rw [h, splitFrom_cons, depthAfter_of_ne ho hc, if_neg (fun h => hc h.1), if_pos ⟨rfl, hs⟩,
    Option.map_map, hglue]

end Keeps

/-- The parts of kept texts that are written with a separator before each but the first. -/
theorem splitFrom_flatMap {isSep : CodePoint → Bool} {s : CodePoint} (hs : isSep s = true)
    (ho : s ≠ .char '(') (hc : s ≠ .char ')') {first : Text} {others : List Text}
    (h : ∀ t ∈ first :: others, Keeps isSep 0 t 0) :
    splitFrom isSep 0 (first ++ others.flatMap (s :: ·)) = some (first :: others) := by
  induction others generalizing first with
  | nil =>
    rw [List.flatMap_nil, List.append_nil, (h first (List.mem_cons_self ..)).splitFrom_eq]
  | cons second others ih =>
    obtain ⟨hfirst, hothers⟩ := List.forall_mem_cons.1 h
    rw [List.flatMap_cons, List.cons_append, hfirst.splitFrom_append_sep hs ho hc, ih hothers,
      Option.map_some]

/-! ### Parts with separators between them -/

/-- A text that is made of parts, with a separator between each and the next. -/
inductive Interleaves (isSep : CodePoint → Bool) : List Text → Text → Prop
  | one (t : Text) : Interleaves isSep [t] t
  | cons {s : CodePoint} {parts : List Text} {rest : Text} (hs : isSep s = true) (part : Text)
      (h : Interleaves isSep parts rest) : Interleaves isSep (part :: parts) (part ++ s :: rest)

theorem Interleaves.glue {isSep : CodePoint → Bool} {parts : List Text} {t : Text}
    (h : Interleaves isSep parts t) (s : Text) :
      Interleaves isSep (Text.glue s parts) (s ++ t) := by
  cases h with
  | one => exact .one (s ++ t)
  | cons hs part h =>
    rw [← List.append_assoc]
    exact .cons hs (s ++ part) h

theorem interleaves_split (isSep : CodePoint → Bool) (t : Text) :
    Interleaves isSep (Text.split isSep t) t := by
  induction t with
  | nil => exact .one []
  | cons c t ih =>
    cases hc : isSep c with
    | true =>
      rw [Text.split, if_pos hc]
      exact .cons hc [] ih
    | false =>
      have hnot : ∀ d ∈ [c], isSep d = false := List.forall_mem_singleton.2 hc
      have hsplit := Text.split_append hnot t
      rw [List.singleton_append] at hsplit
      rw [hsplit]
      exact ih.glue [c]

theorem interleaves_splitFrom {isSep : CodePoint → Bool} {depth : Nat} {t : Text}
    {parts : List Text} (h : splitFrom isSep depth t = some parts) : Interleaves isSep parts t := by
  induction t generalizing depth parts with
  | nil =>
    rw [splitFrom] at h
    split at h
    · cases h
      exact .one []
    · cases h
  | cons c t ih =>
    obtain ⟨-, others, hothers, rfl⟩ := splitFrom_cons_eq_some.1 h
    split
    · rename_i hsep
      exact .cons hsep.2 [] (ih hothers)
    · exact (ih hothers).glue [c]

theorem Interleaves.eq_flatMap {isSep : CodePoint → Bool} {s : CodePoint}
    (hs : ∀ c, isSep c = true → c = s) {first : Text} {others : List Text} {t : Text}
    (h : Interleaves isSep (first :: others) t) : t = first ++ others.flatMap (s :: ·) := by
  induction others generalizing first t with
  | nil =>
    cases h with
    | one => rw [List.flatMap_nil, List.append_nil]
    | cons _ _ hrest => cases hrest
  | cons second others ih =>
    cases h with
    | cons hc _ hrest => rw [ih hrest, hs _ hc, List.flatMap_cons, List.cons_append]

theorem Interleaves.of_filter_eq_nil {isSep : CodePoint → Bool} {parts : List Text} {t : Text}
    (h : Interleaves isSep parts t) (hf : parts.filter (fun part => !part.isEmpty) = []) :
    ∀ c ∈ t, isSep c = true := by
  have hempty : ∀ part ∈ parts, part = [] := by
    intro part hpart
    simpa using List.filter_eq_nil_iff.1 hf part hpart
  -- the induction is on the parts, all of which are empty
  clear hf
  induction h with
  | one t =>
    rw [hempty t (List.mem_singleton_self t)]
    exact nofun
  | @cons s parts rest hs part _ ih =>
    obtain ⟨rfl, hparts⟩ := List.forall_mem_cons.1 hempty
    exact List.forall_mem_cons.2 ⟨hs, ih hparts⟩

/-- The first part that is not empty stands behind separators, and behind it the text ends or
another separator stands. -/
theorem Interleaves.of_filter_eq_cons {isSep : CodePoint → Bool} {parts others : List Text}
    {t word : Text} (h : Interleaves isSep parts t)
    (hf : parts.filter (fun part => !part.isEmpty) = word :: others) :
    ∃ before rest : Text, (∀ c ∈ before, isSep c = true) ∧ t = before ++ (word ++ rest) ∧
      (rest = [] ∧ others = [] ∨ ∃ s behind more, isSep s = true ∧ rest = s :: behind ∧
        Interleaves isSep more behind ∧
        more.filter (fun part => !part.isEmpty) = others) := by
  induction h with
  | one t =>
    cases t with
    | nil => cases hf
    | cons c t =>
      cases hf
      exact ⟨[], [], nofun, (List.append_nil _).symm, .inl ⟨rfl, rfl⟩⟩
  | @cons s parts rest hs part h ih =>
    cases part with
    | nil =>
      rw [List.filter_cons_of_neg (by simp)] at hf
      obtain ⟨before, behind, hbefore, rfl, hbehind⟩ := ih hf
      exact ⟨s :: before, behind, List.forall_mem_cons.2 ⟨hs, hbefore⟩, rfl, hbehind⟩
    | cons c part =>
      rw [List.filter_cons_of_pos (by simp)] at hf
      obtain ⟨rfl, hothers⟩ := List.cons.inj hf
      exact ⟨[], s :: rest, nofun, rfl, .inr ⟨s, rest, parts, hs, rfl, h, hothers⟩⟩

/-! ### Balanced texts -/

/-- Parentheses that match: no beginning of the text closes more of them than it opens, and the
whole closes as many. -/
structure IsBalanced (t : Text) : Prop where
  beginning : ∀ before : Text, before <+: t →
    before.count (.char ')') ≤ before.count (.char '(')
  whole : t.count (.char ')') = t.count (.char '(')

/-- The code points of a kind stand inside parentheses only. -/
def OnlyInside (p : CodePoint → Bool) (t : Text) : Prop :=
  ∀ (before : Text) (c : CodePoint), before ++ [c] <+: t → p c = true →
    before.count (.char ')') < before.count (.char '(')

instance : DecidablePred IsBalanced := fun t =>
  decidable_of_iff ((∀ before ∈ t.inits,
      before.count (.char ')') ≤ before.count (.char '(')) ∧
    t.count (.char ')') = t.count (.char '('))
    ⟨fun h => ⟨fun before hb => h.1 before ((List.mem_inits before t).2 hb), h.2⟩,
      fun h => ⟨fun before hb => h.beginning before ((List.mem_inits before t).1 hb), h.whole⟩⟩

theorem onlyInside_iff {p : CodePoint → Bool} {t : Text} :
    OnlyInside p t ↔ ∀ beginning ∈ t.inits, ∀ c ∈ beginning.getLast?, p c = true →
      beginning.dropLast.count (.char ')') < beginning.dropLast.count (.char '(') := by
  constructor
  · intro h beginning hb c hc hp
    obtain ⟨before, rfl⟩ := List.getLast?_eq_some_iff.1 hc
    rw [List.dropLast_concat]
    exact h before c ((List.mem_inits _ t).1 hb) hp
  · intro h before c hb hp
    have hcount := h (before ++ [c]) ((List.mem_inits _ t).2 hb) c
      (List.getLast?_eq_some_iff.2 ⟨before, rfl⟩) hp
    rwa [List.dropLast_concat] at hcount

instance {p : CodePoint → Bool} : DecidablePred (OnlyInside p) := fun _ =>
  decidable_of_iff _ onlyInside_iff.symm

theorem keeps_singleton {isSep : CodePoint → Bool} {depth : Nat} {c : CodePoint}
    (hparen : isSep (.char ')') = false) (hclose : c = .char ')' → 0 < depth)
    (hsep : isSep c = true → 0 < depth) : Keeps isSep depth [c] (depthAfter depth c) := by
  by_cases ho : c = .char '('
  · subst ho
    rw [depthAfter_opening]
    exact Keeps.opening
  by_cases hc : c = .char ')'
  · subst hc
    obtain ⟨outer, rfl⟩ := Nat.exists_eq_add_of_lt (hclose rfl)
    rw [depthAfter_closing, Nat.add_sub_cancel]
    exact Keeps.closing (.inr hparen)
  · have hkept : depth ≠ 0 ∨ isSep c = false := by
      cases hs : isSep c with
      | false => exact .inr rfl
      | true => exact .inl (Nat.pos_iff_ne_zero.1 (hsep hs))
    rw [depthAfter_of_ne ho hc]
    exact Keeps.char ho hc hkept

theorem depthAfter_add_count {depth : Nat} {c : CodePoint} (hclose : c = .char ')' → 0 < depth) :
    depthAfter depth c + [c].count (.char ')') = depth + [c].count (.char '(') := by
  by_cases ho : c = .char '('
  · subst ho
    simp
  by_cases hc : c = .char ')'
  · subst hc
    have hdepth := hclose rfl
    rw [depthAfter_closing, List.count_singleton_self, List.count_singleton]
    exact Nat.sub_add_cancel hdepth
  · rw [depthAfter_of_ne ho hc]
    simp [ho, hc]

/-- Parentheses that lead from `depth` open ones to `after`: none is closed that is not open, and
the code points of a kind stand where one is open. -/
structure Leads (p : CodePoint → Bool) (depth : Nat) (t : Text) (after : Nat) : Prop where
  beginning : ∀ before : Text, before <+: t →
    before.count (.char ')') ≤ depth + before.count (.char '(')
  inside : ∀ (before : Text) (c : CodePoint), before ++ [c] <+: t → p c = true →
    before.count (.char ')') < depth + before.count (.char '(')
  whole : after + t.count (.char ')') = depth + t.count (.char '(')

theorem leads_nil_iff {p : CodePoint → Bool} {depth after : Nat} :
    Leads p depth [] after ↔ after = depth := by
  constructor
  · intro h
    simpa using h.whole
  · intro h
    subst h
    refine ⟨fun before hbefore => ?_, fun before c hbefore => ?_, rfl⟩
    · rw [List.prefix_nil.1 hbefore]
      exact Nat.zero_le _
    · exact absurd (List.prefix_nil.1 hbefore) (by simp)

theorem leads_cons_iff {p : CodePoint → Bool} {depth after : Nat} {c : CodePoint} {t : Text} :
    Leads p depth (c :: t) after ↔ (c = .char ')' → 0 < depth) ∧ (p c = true → 0 < depth) ∧
      Leads p (depthAfter depth c) t after := by
  have hcount : ∀ (d : CodePoint) (rest : Text),
      (c :: rest).count d = [c].count d + rest.count d := by
    intro d rest
    rw [← List.count_append, List.singleton_append]
  constructor
  · intro h
    have hfirst : [c] <+: c :: t := List.prefix_append [c] t
    have hclose : c = .char ')' → 0 < depth := by
      rintro rfl
      exact h.beginning _ hfirst
    have hsep : p c = true → 0 < depth := fun hp => h.inside [] c hfirst hp
    have hdepth := depthAfter_add_count hclose
    -- from the depth behind the first code point, the rest is counted without it
    refine ⟨hclose, hsep, fun before hbefore => ?_, fun before d hbefore hp => ?_, ?_⟩
    · have hle := h.beginning (c :: before) (List.cons_prefix_cons.2 ⟨rfl, hbefore⟩)
      rw [hcount (.char ')') before, hcount (.char '(') before] at hle
      omega
    · have hlt := h.inside (c :: before) d (List.cons_prefix_cons.2 ⟨rfl, hbefore⟩) hp
      rw [hcount (.char ')') before, hcount (.char '(') before] at hlt
      omega
    · have heq := h.whole
      rw [hcount (.char ')') t, hcount (.char '(') t] at heq
      omega
  · intro ⟨hclose, hsep, h⟩
    have hdepth := depthAfter_add_count hclose
    refine ⟨fun before hbefore => ?_, fun before d hbefore hp => ?_, ?_⟩
    · cases before with
      | nil => exact Nat.zero_le _
      | cons e before =>
        obtain ⟨rfl, hbehind⟩ := List.cons_prefix_cons.1 hbefore
        have hle := h.beginning before hbehind
        rw [hcount (.char ')') before, hcount (.char '(') before]
        omega
    · cases before with
      | nil =>
        obtain ⟨rfl, -⟩ := List.cons_prefix_cons.1 hbefore
        exact hsep hp
      | cons e before =>
        obtain ⟨rfl, hbehind⟩ := List.cons_prefix_cons.1 hbefore
        have hlt := h.inside before d hbehind hp
        rw [hcount (.char ')') before, hcount (.char '(') before]
        omega
    · have heq := h.whole
      rw [hcount (.char ')') t, hcount (.char '(') t]
      omega

theorem leads_zero_iff {p : CodePoint → Bool} {t : Text} :
    Leads p 0 t 0 ↔ IsBalanced t ∧ OnlyInside p t := by
  constructor
  · intro h
    refine ⟨⟨fun before hbefore => ?_, ?_⟩, fun before c hbefore hp => ?_⟩
    · have hle := h.beginning before hbefore
      rwa [Nat.zero_add] at hle
    · have heq := h.whole
      rwa [Nat.zero_add, Nat.zero_add] at heq
    · have hlt := h.inside before c hbefore hp
      rwa [Nat.zero_add] at hlt
  · intro ⟨hbalanced, hinside⟩
    refine ⟨fun before hbefore => ?_, fun before c hbefore hp => ?_, ?_⟩
    · rw [Nat.zero_add]
      exact hbalanced.beginning before hbefore
    · rw [Nat.zero_add]
      exact hinside before c hbefore hp
    · rw [hbalanced.whole]

theorem keeps_of_leads {isSep : CodePoint → Bool} {depth after : Nat} {t : Text}
    (hparen : isSep (.char ')') = false) (h : Leads isSep depth t after) :
    Keeps isSep depth t after := by
  induction t generalizing depth with
  | nil =>
    rw [leads_nil_iff.1 h]
    exact Keeps.nil
  | cons c t ih =>
    obtain ⟨hclose, hsep, hrest⟩ := leads_cons_iff.1 h
    exact (keeps_singleton hparen hclose hsep).append (ih hrest)

/-- A balanced text that has separators only inside parentheses is kept whole. -/
theorem IsBalanced.keeps {isSep : CodePoint → Bool} {t : Text} (h : IsBalanced t)
    (hparen : isSep (.char ')') = false) (hinside : OnlyInside isSep t) : Keeps isSep 0 t 0 :=
  keeps_of_leads hparen (leads_zero_iff.2 ⟨h, hinside⟩)

end StructSchema
