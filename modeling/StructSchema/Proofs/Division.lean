import StructSchema.Proofs.Splitting

/-!
# Division of a text outside parentheses

Splitting outside parentheses fails exactly on texts whose parentheses do not match. The parts of
any other text are balanced, there is one more of them than there are separators outside
parentheses, and the text is those parts with those separators between them.
-/

namespace StructSchema

/-- Parentheses that do not match: some beginning of the text closes more of them than it opens, or
the whole leaves one open. -/
def IsUnbalanced (t : Text) : Prop :=
  (∃ before : Text, before <+: t ∧ before.count (.char '(') < before.count (.char ')')) ∨
    t.count (.char ')') < t.count (.char '(')

theorem isUnbalanced_iff {t : Text} : IsUnbalanced t ↔ ¬IsBalanced t := by
  constructor
  · rintro (⟨before, hbefore, hlt⟩ | hlt) h
    · have hle := h.beginning before hbefore
      omega
    · have heq := h.whole
      omega
  · intro h
    by_contra hnot
    obtain ⟨hearly, hopen⟩ := not_or.1 hnot
    have hbeginning : ∀ before : Text, before <+: t →
        before.count (.char ')') ≤ before.count (.char '(') := fun before hbefore =>
      Nat.le_of_not_lt fun hlt => hearly ⟨before, hbefore, hlt⟩
    have hwhole := hbeginning t List.prefix_rfl
    exact h ⟨hbeginning, by omega⟩

instance : DecidablePred IsUnbalanced := fun _ => decidable_of_iff _ isUnbalanced_iff.symm

/-! ### Where splitting succeeds -/

theorem leads_iff_isBalanced {t : Text} : Leads (fun _ => false) 0 t 0 ↔ IsBalanced t := by
  rw [leads_zero_iff]
  exact and_iff_left nofun

theorem exists_splitFrom_iff {isSep : CodePoint → Bool} {depth : Nat} {t : Text} :
    (∃ parts, splitFrom isSep depth t = some parts) ↔ Leads (fun _ => false) depth t 0 := by
  induction t generalizing depth with
  | nil =>
    rw [leads_nil_iff, splitFrom]
    by_cases hdepth : depth = 0
    · simp [hdepth]
    · simp [hdepth, Ne.symm hdepth]
  | cons c t ih =>
    rw [leads_cons_iff, ← ih]
    constructor
    · intro hsplit
      obtain ⟨parts, hparts⟩ := hsplit
      obtain ⟨hclose, behind, hbehind, -⟩ := splitFrom_cons_eq_some.1 hparts
      exact ⟨hclose, fun hp => absurd hp Bool.false_ne_true, behind, hbehind⟩
    · intro hrest
      obtain ⟨hclose, -, behind, hbehind⟩ := hrest
      exact ⟨_, splitFrom_cons_eq_some.2 ⟨hclose, behind, hbehind, rfl⟩⟩

/-! ### Separators outside parentheses -/

/-- The code points of a kind that stand outside parentheses, in order, in a text that is read
inside `depth` open ones: those before which all open parentheses have been closed. -/
def outside (p : CodePoint → Bool) (depth : Nat) (t : Text) : Text :=
  ((t.inits.zip t).filter fun (before, c) =>
    p c && depth + before.count (.char '(') == before.count (.char ')')).map Prod.snd

theorem outside_cons (p : CodePoint → Bool) {depth : Nat} {c : CodePoint}
    (hclose : c = .char ')' → 0 < depth) (t : Text) :
    outside p depth (c :: t) =
      if p c = true ∧ depth = 0 then c :: outside p (depthAfter depth c) t
      else outside p (depthAfter depth c) t := by
  have hzip : (c :: t).inits.zip (c :: t) =
      ([], c) :: (t.inits.zip t).map (Prod.map (c :: ·) id) := by
    rw [List.inits_cons, List.zip_cons_cons, List.zip_map_left]
  have hdepth := depthAfter_add_count hclose
  -- behind the first code point, the depth is the one that it leaves
  have hbehind : ∀ before : Text,
      (depth + (c :: before).count (.char '(') == (c :: before).count (.char ')')) =
        (depthAfter depth c + before.count (.char '(') == before.count (.char ')')) := by
    intro before
    rw [← List.singleton_append, List.count_append, List.count_append, Bool.eq_iff_iff, beq_iff_eq,
      beq_iff_eq]
    omega
  have hrest : (((t.inits.zip t).map (Prod.map (c :: ·) id)).filter fun (before, d) =>
        p d && depth + before.count (.char '(') == before.count (.char ')')).map Prod.snd =
      outside p (depthAfter depth c) t := by
    rw [List.filter_map, List.map_map, outside]
    congr 1
    exact List.filter_congr fun q _ => congrArg (p q.2 && ·) (hbehind q.1)
  rw [outside, hzip, List.filter_cons]
  by_cases houter : p c = true ∧ depth = 0
  · obtain ⟨hp, rfl⟩ := houter
    rw [if_pos (by simp [hp]), if_pos ⟨hp, rfl⟩, List.map_cons, hrest]
  · rw [if_neg (by simpa using houter), if_neg houter, hrest]

/-- Parts written one after another, with one of the separators before each but the first. -/
def interleave : List Text → Text → Text
  | part :: parts, c :: separators => part ++ c :: interleave parts separators
  | parts, separators => parts.flatten ++ separators

theorem interleave_glue (s : Text) (parts : List Text) (separators : Text) :
    interleave (Text.glue s parts) separators = s ++ interleave parts separators := by
  cases parts with
  | nil => cases separators <;> simp [Text.glue, interleave]
  | cons part parts => cases separators <;> simp [Text.glue, interleave]

/-! ### The parts -/

/-- A text that is read inside `depth` open parentheses, and its parts: the first closes what is
open, the others are balanced, and no separator stands outside parentheses in any of them. -/
structure Divides (isSep : CodePoint → Bool) (depth : Nat) (t first : Text) (others : List Text) :
    Prop where
  first_leads : Leads isSep depth first 0
  others_lead : ∀ part ∈ others, Leads isSep 0 part 0
  length_eq : others.length = (outside isSep depth t).length
  interleave_eq : interleave (first :: others) (outside isSep depth t) = t

namespace Divides

variable {isSep : CodePoint → Bool} {depth : Nat} {c : CodePoint} {t first : Text}
  {others : List Text}

theorem nil : Divides isSep 0 [] [] [] where
  first_leads := leads_nil_iff.2 rfl
  others_lead := nofun
  length_eq := rfl
  interleave_eq := rfl

theorem separator (hs : isSep c = true) (ho : c ≠ .char '(') (hc : c ≠ .char ')')
    (h : Divides isSep 0 t first others) : Divides isSep 0 (c :: t) [] (first :: others) := by
  have houtside : outside isSep 0 (c :: t) = c :: outside isSep 0 t := by
    rw [outside_cons isSep (fun hclose => absurd hclose hc), if_pos ⟨hs, rfl⟩,
      depthAfter_of_ne ho hc]
  refine ⟨leads_nil_iff.2 rfl, List.forall_mem_cons.2 ⟨h.first_leads, h.others_lead⟩, ?_, ?_⟩
  · rw [houtside, List.length_cons, List.length_cons, h.length_eq]
  · rw [houtside, interleave, List.nil_append, h.interleave_eq]

theorem kept (hclose : c = .char ')' → 0 < depth) (hs : isSep c = true → 0 < depth)
    (h : Divides isSep (depthAfter depth c) t first others) :
    Divides isSep depth (c :: t) (c :: first) others := by
  have hinner : ¬(isSep c = true ∧ depth = 0) := fun ⟨hc, hdepth⟩ => (hs hc).ne' hdepth
  have houtside : outside isSep depth (c :: t) = outside isSep (depthAfter depth c) t := by
    rw [outside_cons isSep hclose, if_neg hinner]
  refine ⟨leads_cons_iff.2 ⟨hclose, hs, h.first_leads⟩, h.others_lead, ?_, ?_⟩
  · rw [houtside, h.length_eq]
  · have hglue := interleave_glue [c] (first :: others) (outside isSep (depthAfter depth c) t)
    rw [h.interleave_eq] at hglue
    rw [houtside]
    exact hglue

end Divides

theorem divides_of_splitFrom {isSep : CodePoint → Bool} (hopen : isSep (.char '(') = false)
    (hclose : isSep (.char ')') = false) {depth : Nat} {t : Text} {parts : List Text}
    (h : splitFrom isSep depth t = some parts) :
    ∃ first others, parts = first :: others ∧ Divides isSep depth t first others := by
  -- along the text, with the depth general: the rest divides from the depth that a code point
  -- leaves
  induction t generalizing depth parts with
  | nil =>
    rw [splitFrom] at h
    split at h
    · rename_i hdepth
      subst hdepth
      cases h
      exact ⟨[], [], rfl, Divides.nil⟩
    · cases h
  | cons c t ih =>
    obtain ⟨hpositive, behind, hbehind, rfl⟩ := splitFrom_cons_eq_some.1 h
    obtain ⟨first, others, rfl, hdivides⟩ := ih hbehind
    have hparen : isSep c = true → c ≠ .char '(' ∧ c ≠ .char ')' := fun hs =>
      ⟨fun ho => by simp [ho, hopen] at hs, fun hc => by simp [hc, hclose] at hs⟩
    by_cases houter : depthAfter depth c = 0 ∧ isSep c = true
    · rw [if_pos houter]
      obtain ⟨hdepth, hs⟩ := houter
      obtain ⟨ho, hc⟩ := hparen hs
      -- a separator leaves the depth as it is
      have hzero : depth = 0 := (depthAfter_of_ne ho hc depth).symm.trans hdepth
      subst hzero
      rw [hdepth] at hdivides
      exact ⟨[], first :: others, rfl, hdivides.separator hs ho hc⟩
    · rw [if_neg houter]
      have hinner : isSep c = true → 0 < depth := by
        intro hs
        obtain ⟨ho, hc⟩ := hparen hs
        rw [depthAfter_of_ne ho hc] at houter
        exact Nat.pos_of_ne_zero fun hdepth => houter ⟨hdepth, hs⟩
      exact ⟨c :: first, others, rfl, hdivides.kept hpositive hinner⟩

/-! ### The main statement -/

/-- Splitting reports a text whose parentheses do not match, and divides every other text at the
separators outside parentheses. -/
theorem splitTopLevel_divides {isSep : CodePoint → Bool} (hopen : isSep (.char '(') = false)
    (hclose : isSep (.char ')') = false) (t : Text) :
    (splitTopLevel isSep t = .error (.unbalanced t) ↔ IsUnbalanced t) ∧
      (¬IsUnbalanced t → ∃ parts : List Text, splitTopLevel isSep t = .ok parts ∧
        parts.length = (outside isSep 0 t).length + 1 ∧
        (∀ part ∈ parts, IsBalanced part ∧ OnlyInside isSep part) ∧
        interleave parts (outside isSep 0 t) = t) := by
  have hsome : (∃ parts, splitFrom isSep 0 t = some parts) ↔ ¬IsUnbalanced t := by
    rw [exists_splitFrom_iff, leads_iff_isBalanced, isUnbalanced_iff, not_not]
  cases hsplit : splitFrom isSep 0 t with
  | none =>
    have hunbalanced : IsUnbalanced t := by
      by_contra hnot
      obtain ⟨parts, hparts⟩ := hsome.2 hnot
      rw [hsplit] at hparts
      cases hparts
    have herror : splitTopLevel isSep t = .error (.unbalanced t) := by rw [splitTopLevel, hsplit]
    exact ⟨iff_of_true herror hunbalanced, fun hnot => absurd hunbalanced hnot⟩
  | some parts =>
    have hbalanced : ¬IsUnbalanced t := hsome.1 ⟨parts, hsplit⟩
    have hok : splitTopLevel isSep t = .ok parts := by rw [splitTopLevel, hsplit]
    obtain ⟨first, others, rfl, hdivides⟩ := divides_of_splitFrom hopen hclose hsplit
    refine ⟨iff_of_false (by rw [hok]; nofun) hbalanced, fun _ => ⟨_, hok, ?_, ?_, ?_⟩⟩
    · rw [List.length_cons, hdivides.length_eq]
    · intro part hpart
      refine leads_zero_iff.1 ?_
      rcases List.mem_cons.1 hpart with rfl | hpart
      · exact hdivides.first_leads
      · exact hdivides.others_lead part hpart
    · exact hdivides.interleave_eq

/-- Commas and blanks inside parentheses do not count, and parts may be empty, the last one
included. Parentheses that come in the wrong order do not match, though there are as many of either
kind. -/
theorem splitTopLevel_divides_options :
    let t : Text := "key=(a, (b,c)),,name=d "
    let u : Text := "a),(b"
    TagOptions.isSeparator (.char '(') = false ∧ TagOptions.isSeparator (.char ')') = false ∧
      (∃ parts : List Text, splitTopLevel TagOptions.isSeparator t = .ok parts ∧
        parts.length = 4 ∧
        (∀ part ∈ parts, IsBalanced part ∧ OnlyInside TagOptions.isSeparator part) ∧
        interleave parts ",, " = t) ∧
      splitTopLevel TagOptions.isSeparator u = .error (.unbalanced u) := by
  intro t u
  have hopen : TagOptions.isSeparator (.char '(') = false := by decide
  have hclose : TagOptions.isSeparator (.char ')') = false := by decide
  have hseparators : outside TagOptions.isSeparator 0 t = ",, " := by decide
  have hmatching : ¬IsUnbalanced t := by decide
  have hwrong : IsUnbalanced u := by decide
  obtain ⟨parts, hparts, hlength, hbalanced, hwhole⟩ :=
    (splitTopLevel_divides hopen hclose t).2 hmatching
  rw [hseparators] at hlength hwhole
  exact ⟨hopen, hclose, ⟨parts, hparts, hlength, hbalanced, hwhole⟩,
    (splitTopLevel_divides hopen hclose u).1.2 hwrong⟩

end StructSchema
