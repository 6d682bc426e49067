import StructSchema.Proofs.Fallible
import StructSchema.Proofs.Trimmed

/-!
# Written options

Options that are written one after another, each as `option=value`. Blanks may stand on either side
of the equals sign, and separators between options and at both ends. Reading such a text gives back
the options in order.
-/

namespace StructSchema.TagOptions

open Fallible

/-! ### Blanks next to equals signs -/

/-- A text that is no equals sign's neighbour and none itself: squeezing leaves it as it stands. -/
def Settled (t : Text) : Prop := ∀ rest, squeezeFrom false (t ++ rest) = t ++ squeezeFrom false rest

theorem squeezeFrom_of_not_blank {after : Bool} {c : CodePoint} (hb : c.isBlank = false)
    (he : c ≠ .char '=') (rest : Text) :
    squeezeFrom after (c :: rest) = c :: squeezeFrom false rest := by
  rw [squeezeFrom, if_neg he, hb]
  rfl

theorem head?_stripStart_append {t : Text} (hne : t ≠ [])
    (hl : ∀ c, t.getLast? = some c → c.isBlank = false) (rest : Text) :
    ∃ c ∈ t, (Text.stripStart (t ++ rest)).head? = some c := by
  induction t with
  | nil => exact absurd rfl hne
  | cons c t ih =>
    rw [List.cons_append, Text.stripStart]
    by_cases hc : c.isBlank = true
    · have ht : t ≠ [] := by
        rintro rfl
        rw [hl c rfl] at hc
        cases hc
      obtain ⟨d, hd, hhead⟩ := ih ht fun d hd => hl d (by
        rw [List.getLast?_cons, hd]
        rfl)
      rw [List.dropWhile_cons_of_pos hc]
      exact ⟨d, List.mem_cons_of_mem _ hd, hhead⟩
    · rw [List.dropWhile_cons_of_neg hc]
      exact ⟨c, List.mem_cons_self .., rfl⟩

theorem settled_of_last {t : Text} (he : .char '=' ∉ t)
    (hl : ∀ c, t.getLast? = some c → c.isBlank = false) : Settled t := by
  intro rest
  induction t with
  | nil => rfl
  | cons c t ih =>
    obtain ⟨hc, ht⟩ := not_or.1 (List.mem_cons.not.1 he)
    have hstep : squeezeFrom false (c :: (t ++ rest)) = c :: squeezeFrom false (t ++ rest) := by
      by_cases hb : c.isBlank = true
      · have hne : t ≠ [] := by
          rintro rfl
          rw [hl c rfl] at hb
          cases hb
        -- the next character that is no blank stands in the text and is no equals sign
        obtain ⟨d, hd, hhead⟩ := head?_stripStart_append hne (fun d hd => hl d (by
          rw [List.getLast?_cons, hd]
          rfl)) rest
        have hde : d ≠ .char '=' := by
          rintro rfl
          exact ht hd
        rw [squeezeFrom, if_neg (Ne.symm hc), hhead]
        simp [hde]
      · exact squeezeFrom_of_not_blank (by simpa using hb) (Ne.symm hc) _
    rw [List.cons_append, hstep, ih ht fun d hd => hl d (by
      rw [List.getLast?_cons, hd]
      rfl)]
    rfl

theorem not_equals_of_isBlank {c : CodePoint} (h : c.isBlank = true) : c ≠ .char '=' := by
  rintro rfl
  exact absurd h (by decide)

theorem squeezeFrom_blanks_equals {after : Bool} {blanks : Text} (h : Text.IsBlank blanks)
    (rest : Text) :
    squeezeFrom after (blanks ++ .char '=' :: rest) = .char '=' :: squeezeFrom true rest := by
  induction blanks with
  | nil => rw [List.nil_append, squeezeFrom, if_pos rfl]
  | cons c blanks ih =>
    obtain ⟨hc, hblanks⟩ := List.forall_mem_cons.1 h
    have hnext : Text.stripStart (blanks ++ .char '=' :: rest) = .char '=' :: rest := by
      rw [Text.stripStart, List.dropWhile_append_of_pos hblanks]
      exact List.dropWhile_cons_of_neg (by decide)
    rw [List.cons_append, squeezeFrom, if_neg (not_equals_of_isBlank hc), hc, hnext]
    simp only [List.head?_cons, beq_self_eq_true, Bool.or_true, Bool.and_true, if_true]
    exact ih hblanks

theorem squeezeFrom_blanks {blanks : Text} (h : Text.IsBlank blanks) (rest : Text) :
    squeezeFrom true (blanks ++ rest) = squeezeFrom true rest := by
  induction blanks with
  | nil => rfl
  | cons c blanks ih =>
    obtain ⟨hc, hblanks⟩ := List.forall_mem_cons.1 h
    rw [List.cons_append, squeezeFrom, if_neg (not_equals_of_isBlank hc), hc]
    simp only [Bool.true_or, Bool.and_true, if_true]
    exact ih hblanks

theorem squeezeFrom_of_not_mem {t : Text} (h : .char '=' ∉ t) : squeezeFrom false t = t := by
  induction t with
  | nil => rfl
  | cons c t ih =>
    obtain ⟨hc, ht⟩ := not_or.1 (List.mem_cons.not.1 h)
    have hnext : (Text.stripStart t).head? ≠ some (.char '=') := fun hhead =>
      ht (Text.mem_of_mem_stripStart (List.mem_of_head? hhead))
    rw [squeezeFrom, if_neg (Ne.symm hc), ih ht]
    simp [hnext]

/-! ### Separators -/

def IsSeparators (t : Text) : Prop := ∀ c ∈ t, isSeparator c = true

instance : DecidablePred IsSeparators := fun t =>
  inferInstanceAs (Decidable (∀ c ∈ t, isSeparator c = true))

theorem isSeparator_cases {P : CodePoint → Prop}
    (h : ∀ c ∈ [CodePoint.char ' ', .char '\t', .char '\n', .char ','], P c) {c : CodePoint}
    (hc : isSeparator c = true) : P c := by
  refine h c ?_
  simpa [isSeparator, or_assoc] using hc

theorem IsSeparators.not_mem_equals {t : Text} (h : IsSeparators t) : .char '=' ∉ t := fun hc =>
  absurd (h _ hc) (by decide)

theorem splitFrom_append_separator {t : Text} (h : Keeps isSeparator 0 t 0) {c : CodePoint}
    (hc : isSeparator c = true) (rest : Text) :
    splitFrom isSeparator 0 (t ++ c :: rest) = (splitFrom isSeparator 0 rest).map (t :: ·) := by
  have hparen : c ≠ .char '(' ∧ c ≠ .char ')' :=
    isSeparator_cases (P := fun c => c ≠ .char '(' ∧ c ≠ .char ')') (by decide) hc
  exact h.splitFrom_append_sep hc hparen.1 hparen.2 rest

def HasTokens (t : Text) (tokens : List Text) : Prop :=
  ∃ parts, splitFrom isSeparator 0 t = some parts ∧
    parts.filter (fun token => !token.isEmpty) = tokens

theorem HasTokens.nil : HasTokens [] [] := ⟨[[]], rfl, rfl⟩

theorem HasTokens.separator {c : CodePoint} {t : Text} {tokens : List Text}
    (hc : isSeparator c = true) (h : HasTokens t tokens) : HasTokens (c :: t) tokens := by
  obtain ⟨parts, hparts, hfilter⟩ := h
  refine ⟨[] :: parts, ?_, ?_⟩
  · have hsplit := splitFrom_append_separator Keeps.nil hc t
    rw [List.nil_append] at hsplit
    rw [hsplit, hparts, Option.map_some]
  · rw [List.filter_cons_of_neg (by simp), hfilter]

theorem HasTokens.separators {lead t : Text} {tokens : List Text} (hlead : IsSeparators lead)
    (h : HasTokens t tokens) : HasTokens (lead ++ t) tokens := by
  induction lead with
  | nil => exact h
  | cons c lead ih =>
    obtain ⟨hc, hlead⟩ := List.forall_mem_cons.1 hlead
    exact (ih hlead).separator hc

theorem HasTokens.token {token rest : Text} {tokens : List Text} (hk : Keeps isSeparator 0 token 0)
    (hne : token ≠ []) (hrest : ∀ c, rest.head? = some c → isSeparator c = true)
    (h : HasTokens rest tokens) : HasTokens (token ++ rest) (token :: tokens) := by
  cases rest with
  | nil =>
    obtain ⟨parts, hparts, hfilter⟩ := h
    cases hparts
    refine ⟨[token], ?_, ?_⟩
    · rw [List.append_nil, hk.splitFrom_eq]
    · rw [List.filter_cons_of_pos (by simp [hne]), ← hfilter]
      rfl
  | cons c rest =>
    have hc := hrest c rfl
    obtain ⟨parts, hparts, hfilter⟩ := h
    have hsplit := splitFrom_append_separator Keeps.nil hc rest
    rw [List.nil_append] at hsplit
    rw [hsplit] at hparts
    obtain ⟨others, hothers, rfl⟩ := Option.map_eq_some_iff.1 hparts
    refine ⟨token :: others, ?_, ?_⟩
    · rw [splitFrom_append_separator hk hc, hothers, Option.map_some]
    · rw [List.filter_cons_of_neg (by simp)] at hfilter
      rw [List.filter_cons_of_pos (by simp [hne]), hfilter]

/-! ### Options -/

def render (option : Text × Text) : Text := option.1 ++ .char '=' :: option.2

/-- An option that can be written as it stands: neither side begins or ends with a blank or holds
an equals sign, and each is kept whole by splitting. -/
structure IsWritable (option : Text × Text) : Prop where
  name_ne_nil : option.1 ≠ []
  value_ne_nil : option.2 ≠ []
  name_trimmed : Text.IsTrimmed option.1
  value_trimmed : Text.IsTrimmed option.2
  name_no_equals : .char '=' ∉ option.1
  value_no_equals : .char '=' ∉ option.2
  name_kept : Keeps isSeparator 0 option.1 0
  value_kept : Keeps isSeparator 0 option.2 0

namespace IsWritable

variable {option : Text × Text}

/-- Squeezing takes the blanks around the equals sign of an option, and keeps separators before the
option. -/
theorem squeezeFrom_render (h : IsWritable option) {lead before after : Text}
    (hlead : IsSeparators lead) (hbefore : Text.IsBlank before) (hafter : Text.IsBlank after)
    (rest : Text) :
    squeezeFrom false
        (lead ++ (option.1 ++ (before ++ .char '=' :: (after ++ (option.2 ++ rest))))) =
      lead ++ (render option ++ squeezeFrom false rest) := by
  have hname : Settled (lead ++ option.1) := by
    refine settled_of_last ?_ fun c hc => ?_
    · rw [List.mem_append, not_or]
      exact ⟨hlead.not_mem_equals, h.name_no_equals⟩
    · obtain ⟨last, hlast⟩ := Option.isSome_iff_exists.1 (List.getLast?_isSome.2 h.name_ne_nil)
      rw [List.getLast?_append, hlast, Option.some_or] at hc
      exact h.name_trimmed.2 c (hlast.trans hc)
  obtain ⟨c, value, hvalue⟩ := List.exists_cons_of_ne_nil h.value_ne_nil
  have hblank : c.isBlank = false := h.value_trimmed.1 c (by rw [hvalue]; rfl)
  have hequals : c ≠ .char '=' := by
    rintro rfl
    exact h.value_no_equals (by rw [hvalue]; exact List.mem_cons_self ..)
  -- the value begins with no blank, so it does not matter that an equals sign stands before it
  have hbehind : squeezeFrom true (option.2 ++ rest) = option.2 ++ squeezeFrom false rest := by
    have hsettled := settled_of_last h.value_no_equals h.value_trimmed.2 rest
    rw [hvalue, List.cons_append, squeezeFrom_of_not_blank hblank hequals] at hsettled ⊢
    exact hsettled
  rw [← List.append_assoc, hname, squeezeFrom_blanks_equals hbefore, squeezeFrom_blanks hafter,
    hbehind, render]
  simp only [List.append_assoc, List.cons_append]

theorem keeps_render (h : IsWritable option) : Keeps isSeparator 0 (render option) 0 :=
  h.name_kept.append
    ((Keeps.char (c := .char '=') (by decide) (by decide) (.inr (by decide))).append
    h.value_kept)

theorem render_ne_nil (h : IsWritable option) : render option ≠ [] := fun hnil =>
  h.name_ne_nil (List.append_eq_nil_iff.1 hnil).1

theorem ofToken_render (h : IsWritable option) : ofToken (render option) = .ok option := by
  have hname : ∀ c ∈ option.1, decide (c ≠ .char '=') = true := by
    intro c hc
    refine decide_eq_true ?_
    rintro rfl
    exact h.name_no_equals hc
  have hname_ne : option.1.isEmpty = false := by simp [h.name_ne_nil]
  have hvalue_ne : option.2.isEmpty = false := by simp [h.value_ne_nil]
  have htake : (render option).takeWhile (· ≠ .char '=') = option.1 := by
    rw [render, List.takeWhile_append_of_pos hname, List.takeWhile_cons_of_neg (by simp),
      List.append_nil]
  have hdrop : (render option).dropWhile (· ≠ .char '=') = .char '=' :: option.2 := by
    rw [render, List.dropWhile_append_of_pos hname, List.dropWhile_cons_of_neg (by simp)]
  simp only [ofToken, htake, hdrop, hname_ne, hvalue_ne]
  rfl

end IsWritable

/-! ### Lists of options -/

/-- An option as it may be written: blanks may stand on either side of the equals sign. -/
def WritesOption (option : Text × Text) (t : Text) : Prop :=
  ∃ before after : Text, Text.IsBlank before ∧ Text.IsBlank after ∧
    t = option.1 ++ (before ++ .char '=' :: (after ++ option.2))

/-- Options as they may be written one after another: separators stand between them. -/
inductive Writes : List (Text × Text) → Text → Prop
  | nil : Writes [] []
  | one {option : Text × Text} {t : Text} (h : WritesOption option t) : Writes [option] t
  | cons {option next : Text × Text} {options : List (Text × Text)} {t between rest : Text}
      (h : WritesOption option t) (hne : between ≠ []) (hbetween : IsSeparators between)
      (hrest : Writes (next :: options) rest) :
      Writes (option :: next :: options) (t ++ (between ++ rest))

theorem WritesOption.isTrimmed {option : Text × Text} {t : Text} (h : WritesOption option t)
    (ho : IsWritable option) : t ≠ [] ∧ Text.IsTrimmed t := by
  obtain ⟨before, after, -, -, rfl⟩ := h
  have ht := Text.isTrimmed_between ho.name_ne_nil ho.value_ne_nil ho.name_trimmed
    ho.value_trimmed (before ++ .char '=' :: after)
  rw [List.append_assoc, List.cons_append] at ht
  exact ⟨List.append_ne_nil_of_left_ne_nil ho.name_ne_nil _, ht⟩

theorem Writes.isTrimmed {option : Text × Text} {options : List (Text × Text)} {t : Text}
    (h : Writes (option :: options) t) (ho : ∀ o ∈ option :: options, IsWritable o) :
    t ≠ [] ∧ Text.IsTrimmed t := by
  induction options generalizing option t with
  | nil =>
    cases h with
    | one h => exact h.isTrimmed (ho option (List.mem_singleton_self option))
  | cons next options ih =>
    cases h with
    | @cons _ _ _ t between rest h _ _ hrest =>
      obtain ⟨hfirst, hothers⟩ := List.forall_mem_cons.1 ho
      obtain ⟨hne, ht⟩ := h.isTrimmed hfirst
      obtain ⟨hrestne, hrestt⟩ := ih hrest hothers
      exact ⟨List.append_ne_nil_of_left_ne_nil hne _,
        Text.isTrimmed_between hne hrestne ht hrestt between⟩

theorem WritesOption.squeezeFrom_eq {option : Text × Text} {t lead : Text}
    (h : WritesOption option t) (ho : IsWritable option) (hlead : IsSeparators lead)
    (rest : Text) :
    squeezeFrom false (lead ++ (t ++ rest)) =
      lead ++ (render option ++ squeezeFrom false rest) := by
  obtain ⟨before, after, hbefore, hafter, rfl⟩ := h
  rw [← ho.squeezeFrom_render hlead hbefore hafter]
  simp only [List.append_assoc, List.cons_append]

/-- Squeezing options that are written one after another leaves their tokens, behind the separators
that they begin with. -/
theorem Writes.exists_tokens {options : List (Text × Text)} {t trail : Text} (h : Writes options t)
    (ho : ∀ o ∈ options, IsWritable o) (htrail : IsSeparators trail) :
    ∃ tight, (∀ lead, IsSeparators lead →
      squeezeFrom false (lead ++ (t ++ trail)) = lead ++ tight) ∧
        HasTokens tight (options.map render) := by
  have hsqueezed : squeezeFrom false trail = trail := squeezeFrom_of_not_mem htrail.not_mem_equals
  have hend : HasTokens trail [] := by
    have hnil := HasTokens.nil.separators htrail
    rwa [List.append_nil] at hnil
  have hhead : ∀ c, trail.head? = some c → isSeparator c = true := fun c hc =>
    htrail c (List.mem_of_head? hc)
  induction h with
  | nil =>
    refine ⟨trail, fun lead hlead => ?_, hend⟩
    refine squeezeFrom_of_not_mem ?_
    rw [List.nil_append, List.mem_append, not_or]
    exact ⟨hlead.not_mem_equals, htrail.not_mem_equals⟩
  | @one option t h =>
    have hoption := ho option (List.mem_singleton_self option)
    refine ⟨render option ++ trail, fun lead hlead => ?_, ?_⟩
    · rw [h.squeezeFrom_eq hoption hlead, hsqueezed]
    · exact hend.token hoption.keeps_render hoption.render_ne_nil hhead
  | @cons option next options t between rest h hne hbetween _ ih =>
    obtain ⟨hoption, hothers⟩ := List.forall_mem_cons.1 ho
    obtain ⟨tight, htight, htokens⟩ := ih hothers
    refine ⟨render option ++ (between ++ tight), fun lead hlead => ?_, ?_⟩
    · rw [List.append_assoc, List.append_assoc, h.squeezeFrom_eq hoption hlead,
        htight between hbetween]
    · refine (htokens.separators hbetween).token hoption.keeps_render hoption.render_ne_nil ?_
      intro c hc
      obtain ⟨first, others, rfl⟩ := List.exists_cons_of_ne_nil hne
      have hfirst : first = c := Option.some.inj hc
      exact hfirst ▸ hbetween first (List.mem_cons_self ..)

/-- Reading written options gives them back in order, whatever separators stand at the ends. -/
theorem parse_of_writes {options : List (Text × Text)} {t lead trail : Text}
    (h : Writes options t) (ho : ∀ o ∈ options, IsWritable o) (hlead : IsSeparators lead)
    (htrail : IsSeparators trail) : parse (lead ++ (t ++ trail)) = .ok options := by
  have hread : (options.map render).mapM ofToken = .ok options := by
    rw [mapM_eq_ok, List.forall₂_map_left_iff, List.forall₂_same]
    exact fun option hm => (ho option hm).ofToken_render
  -- stripping takes separators only
  have hstrip : ∃ start rest, IsSeparators start ∧ IsSeparators rest ∧
      Text.strip (lead ++ (t ++ trail)) = start ++ (t ++ rest) := by
    cases options with
    | nil =>
      cases h
      refine ⟨[], _, nofun, fun c hc => ?_, rfl⟩
      have hmem := Text.mem_of_mem_stripStart (Text.mem_of_mem_stripEnd hc)
      rw [List.nil_append] at hmem
      exact (List.mem_append.1 hmem).elim (hlead c) (htrail c)
    | cons option options =>
      obtain ⟨hne, ht⟩ := h.isTrimmed ho
      exact ⟨_, _, fun c hc => hlead c (Text.mem_of_mem_stripStart hc),
        fun c hc => htrail c (Text.mem_of_mem_stripEnd hc), Text.strip_between hne ht lead trail⟩
  obtain ⟨start, rest, hstart, hrest, hstrip⟩ := hstrip
  obtain ⟨tight, htight, htokens⟩ := h.exists_tokens ho hrest
  obtain ⟨parts, hparts, hfilter⟩ := htokens.separators hstart
  simp only [parse, squeeze, hstrip, htight start hstart, splitTopLevel, hparts, ok_bind, hfilter,
    hread]

/-! ### Options with single blanks -/

/-- Options as they are written, with a blank before each but the first. -/
def renderAll (first : Text × Text) (others : List (Text × Text)) : Text :=
  render first ++ (others.map render).flatMap (.char ' ' :: ·)

theorem writesOption_render (option : Text × Text) : WritesOption option (render option) :=
  ⟨[], [], Text.isBlank_nil, Text.isBlank_nil, rfl⟩

theorem writes_renderAll (first : Text × Text) (others : List (Text × Text)) :
    Writes (first :: others) (renderAll first others) := by
  induction others generalizing first with
  | nil =>
    rw [renderAll, List.map_nil, List.flatMap_nil, List.append_nil]
    exact .one (writesOption_render first)
  | cons second others ih =>
    have hblank : IsSeparators [.char ' '] := List.forall_mem_singleton.2 (by decide)
    have hne : [CodePoint.char ' '] ≠ [] := List.cons_ne_nil _ _
    have hwhole := Writes.cons (writesOption_render first) hne hblank (ih second)
    exact hwhole

theorem isTrimmed_renderAll {first : Text × Text} {others : List (Text × Text)}
    (h : ∀ option ∈ first :: others, IsWritable option) :
    Text.IsTrimmed (renderAll first others) :=
  ((writes_renderAll first others).isTrimmed h).2

theorem parse_renderAll {first : Text × Text} {others : List (Text × Text)}
    (h : ∀ option ∈ first :: others, IsWritable option) :
    parse (renderAll first others) = .ok (first :: others) := by
  have hparse := parse_of_writes (writes_renderAll first others) h (fun _ hc => absurd hc
    List.not_mem_nil) (fun _ hc => absurd hc List.not_mem_nil)
  rwa [List.append_nil, List.nil_append] at hparse

/-! ### The main statement -/

/-- An option whose name has no character with a meaning in a tag, and whose value has none outside
parentheses that match. -/
structure IsOption (option : Text × Text) : Prop where
  name_ne_nil : option.1 ≠ []
  name_plain : ∀ c ∈ option.1, c.isBlank = false ∧
    c ∉ [CodePoint.char ',', .char '(', .char ')', .char '=']
  value_ne_nil : option.2 ≠ []
  value_balanced : IsBalanced option.2
  value_no_equals : .char '=' ∉ option.2
  value_inside : OnlyInside isSeparator option.2
  value_trimmed : Text.IsTrimmed option.2

instance : DecidablePred IsOption := fun option =>
  decidable_of_iff (option.1 ≠ [] ∧ (∀ c ∈ option.1, c.isBlank = false ∧
      c ∉ [CodePoint.char ',', .char '(', .char ')', .char '=']) ∧ option.2 ≠ [] ∧
    IsBalanced option.2 ∧ .char '=' ∉ option.2 ∧ OnlyInside isSeparator option.2 ∧
    Text.IsTrimmed option.2)
    ⟨fun ⟨hn, hp, hv, hb, he, hi, ht⟩ => ⟨hn, hp, hv, hb, he, hi, ht⟩,
      fun ⟨hn, hp, hv, hb, he, hi, ht⟩ => ⟨hn, hp, hv, hb, he, hi, ht⟩⟩

theorem isBlank_of_isSeparator {c : CodePoint} (h : isSeparator c = true) :
    c.isBlank = true ∨ c = .char ',' :=
  isSeparator_cases (P := fun c => c.isBlank = true ∨ c = .char ',') (by decide) h

theorem IsOption.isWritable {option : Text × Text} (h : IsOption option) : IsWritable option := by
  have hplain : ∀ c ∈ option.1, c ≠ .char '(' ∧ c ≠ .char ')' ∧ isSeparator c = false := by
    intro c hc
    obtain ⟨hblank, hother⟩ := h.name_plain c hc
    simp only [List.mem_cons, List.not_mem_nil, or_false, not_or] at hother
    refine ⟨hother.2.1, hother.2.2.1, ?_⟩
    rw [Bool.eq_false_iff]
    intro hs
    rcases isBlank_of_isSeparator hs with hb | hcomma
    · rw [hblank] at hb
      cases hb
    · exact hother.1 hcomma
  exact {
    name_ne_nil := h.name_ne_nil
    value_ne_nil := h.value_ne_nil
    name_trimmed := Text.isTrimmed_of_not_blank fun c hc => (h.name_plain c hc).1
    value_trimmed := h.value_trimmed
    name_no_equals := fun hc => (h.name_plain _ hc).2 (by decide)
    value_no_equals := h.value_no_equals
    name_kept := Keeps.word fun c hc => by
      obtain ⟨ho, hc, hs⟩ := hplain c hc
      exact ⟨ho, hc, .inr hs⟩
    value_kept := h.value_balanced.keeps (by decide) h.value_inside }

/-- However a list of options is written, reading gives it back. -/
theorem parse_inverts_writing {options : List (Text × Text)} {t lead trail : Text}
    (ho : ∀ option ∈ options, IsOption option) (h : Writes options t) (hlead : IsSeparators lead)
    (htrail : IsSeparators trail) : parse (lead ++ (t ++ trail)) = .ok options := by
  have hwritable : ∀ option ∈ options, IsWritable option := fun option hm =>
    (ho option hm).isWritable
  exact parse_of_writes h hwritable hlead htrail

/-- Blanks stand around equals signs, inside a value and with commas at both ends. -/
theorem parse_spread_options :
    let options : List (Text × Text) := [("name", "a\rb"), ("key", "((a, b),\tc)")]
    let t : Text := "name \n=\u2003a\rb,\t key= ((a, b),\tc)"
    (∀ option ∈ options, IsOption option) ∧ Writes options t ∧
      parse ("\t," ++ (t ++ ", \n")) = .ok options := by
  intro options t
  have hoptions : ∀ option ∈ options, IsOption option := by decide
  have hname : WritesOption ("name", "a\rb") "name \n=\u2003a\rb" :=
    ⟨" \n", "\u2003", by decide, by decide, by decide⟩
  have hkey : WritesOption ("key", "((a, b),\tc)") "key= ((a, b),\tc)" :=
    ⟨"", " ", by decide, by decide, by decide⟩
  have hbetween : IsSeparators ",\t " := by decide
  have hwrites : Writes options t := .cons hname (by decide) hbetween (.one hkey)
  exact ⟨hoptions, hwrites, parse_inverts_writing hoptions hwrites (by decide) (by decide)⟩

end StructSchema.TagOptions
