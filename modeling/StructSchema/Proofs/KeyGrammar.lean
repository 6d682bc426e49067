import StructSchema.PrimaryKey
import StructSchema.Proofs.Fallible
import StructSchema.Proofs.Name
import StructSchema.Proofs.Trimmed

/-!
# The grammar of primary keys

A key is written as a name, or as a list in parentheses whose first item gives the partition columns
and every other one a clustering column with or without a direction. Blanks may stand around every
token. A text denotes a key exactly if the grammar writes this key so.
-/

namespace StructSchema.PrimaryKey

open Fallible
open Text (IsBlank Padded)

/-! ### Grammar -/

def directionWord (descending : Bool) : Text := if descending then "DESC" else "ASC"

def WritesName (name t : Text) : Prop := Name.IsPlain name ∧ Padded name t

def bracketed (first : Text) (others : List Text) : Text :=
  .char '(' :: (first ++ others.flatMap (.char ',' :: ·)) ++ [.char ')']

/-- Partition columns: one name, or names in parentheses. -/
inductive WritesPartition : List Text → Text → Prop
  | name {name t : Text} (h : WritesName name t) : WritesPartition [name] t
  | list {names others : List Text} {first t : Text}
      (h : List.Forall₂ WritesName names (first :: others))
      (ht : Padded (bracketed first others) t) : WritesPartition names t

/-- A clustering column: a name, perhaps with a word behind it that is a direction in capitals. -/
inductive WritesClustering : ClusteringKey → Text → Prop
  | name {name t : Text} (h : WritesName name t) : WritesClustering { name } t
  | directed {name gap word t : Text} {descending : Bool} (hname : Name.IsPlain name)
      (hne : gap ≠ []) (hgap : IsBlank gap)
      (hword : Text.toAsciiUpper? word = some (directionWord descending))
      (ht : Padded (name ++ (gap ++ word)) t) : WritesClustering { name, descending } t

/-- A key: a name alone, or partition columns and clustering columns in parentheses. -/
inductive Writes : PrimaryKey → Text → Prop
  | name {name t : Text} (h : WritesName name t) : Writes { partition := [name] } t
  | list {partition : List Text} {clustering : List ClusteringKey} {part t : Text}
      {items : List Text} (hp : WritesPartition partition part)
      (hc : List.Forall₂ WritesClustering clustering items)
      (ht : Padded (bracketed part items) t) : Writes { partition, clustering } t

/-! ### Names -/

theorem parseName_eq_ok {raw name : Text} :
    parseName raw = .ok name ↔ name = Text.strip raw ∧ Name.isValid name = true := by
  simp only [parseName]
  by_cases h : Name.isValid (Text.strip raw) = true
  · rw [if_pos h, Except.ok.injEq]
    exact ⟨fun e => ⟨e.symm, e ▸ h⟩, fun e => e.1.symm⟩
  · rw [if_neg h]
    simp only [reduceCtorEq, false_iff, not_and]
    rintro rfl
    exact h

/-- The one line break that a valid name may end with has been stripped from the name of a key
column. -/
theorem plain_of_parseName {raw name : Text} (h : parseName raw = .ok name) :
    Name.IsPlain name := by
  obtain ⟨hstrip, hvalid⟩ := parseName_eq_ok.1 h
  rw [Name.isValid, Bool.and_eq_true, decide_eq_true_eq] at hvalid
  refine ⟨Text.isPlainWord_of_isWord hvalid.1 ?_, hvalid.2⟩
  intro c hc
  rw [hstrip] at hc
  exact Text.not_blank_of_strip hc

theorem not_blank_of_isPlain {name : Text} (h : Name.IsPlain name) :
    ∀ c ∈ name, c.isBlank = false := fun c hc =>
  CodePoint.isBlank_of_isWordPart (h.isWordPart c hc)

theorem isTrimmed_of_isPlain {name : Text} (h : Name.IsPlain name) : Text.IsTrimmed name :=
  Text.isTrimmed_of_not_blank (not_blank_of_isPlain h)

theorem WritesName.strip_eq {name t : Text} (h : WritesName name t) : Text.strip t = name :=
  h.2.strip_eq h.1.ne_nil (isTrimmed_of_isPlain h.1)

theorem parseName_iff {name t : Text} : parseName t = .ok name ↔ WritesName name t := by
  constructor
  · intro h
    obtain ⟨rfl, -⟩ := parseName_eq_ok.1 h
    exact ⟨plain_of_parseName h, Text.padded_strip t⟩
  · intro h
    exact parseName_eq_ok.2 ⟨h.strip_eq.symm, h.1.isValid⟩

theorem parseName_plain {name : Text} (h : Name.IsPlain name) : parseName name = .ok name :=
  parseName_iff.2 ⟨h, Padded.refl name⟩

/-- A code point that stands for itself in a key: no parenthesis and no comma. -/
def IsNeutral (c : CodePoint) : Prop := c ≠ .char '(' ∧ c ≠ .char ')' ∧ c ≠ .char ','

instance : DecidablePred IsNeutral := fun _ => inferInstanceAs (Decidable (_ ∧ _))

theorem neutral_of_isWordPart {c : CodePoint} (h : c.isWordPart = true) : IsNeutral c :=
  CodePoint.isWordPart_cases (P := IsNeutral) (by decide) h

theorem neutral_of_isBlank {c : CodePoint} (h : c.isBlank = true) : IsNeutral c := by
  refine ⟨?_, ?_, ?_⟩
  · rintro rfl
    exact absurd h (by decide)
  · rintro rfl
    exact absurd h (by decide)
  · rintro rfl
    exact absurd h (by decide)

theorem neutral_of_padded {t padded : Text} (h : Padded t padded) (ht : ∀ c ∈ t, IsNeutral c) :
    ∀ c ∈ padded, IsNeutral c := by
  obtain ⟨before, after, hbefore, hafter, rfl⟩ := h
  rw [List.forall_mem_append, List.forall_mem_append]
  exact ⟨fun c hc => neutral_of_isBlank (hbefore c hc), ht,
    fun c hc => neutral_of_isBlank (hafter c hc)⟩

theorem WritesName.neutral {name t : Text} (h : WritesName name t) : ∀ c ∈ t, IsNeutral c :=
  neutral_of_padded h.2 fun c hc => neutral_of_isWordPart (h.1.isWordPart c hc)

theorem head?_ne_of_isPlain {name : Text} (h : Name.IsPlain name) :
    ¬name.head? = some (.char '(') := by
  intro hc
  exact (neutral_of_isWordPart (h.isWordPart _ (List.mem_of_head? hc))).1 rfl

/-! ### Parentheses -/

theorem inner?_bracket (t : Text) : inner? (.char '(' :: t ++ [.char ')']) = some t := by
  rw [List.cons_append, inner?, List.getLast?_append, List.getLast?_singleton, Option.some_or,
    if_pos rfl, List.dropLast_concat]

theorem eq_bracket_of_inner? {t body : Text} (h : inner? t = some body) :
    t = .char '(' :: body ++ [.char ')'] := by
  unfold inner? at h
  split at h
  · split at h
    · rename_i rest hlast
      obtain ⟨inner, rfl⟩ := List.getLast?_eq_some_iff.1 hlast
      rw [List.dropLast_concat, Option.some.injEq] at h
      rw [h, List.cons_append]
    · cases h
  · cases h

/-- What stands in parentheses, by its parts between commas. -/
theorem padded_of_inner? {t body first : Text} {others : List Text}
    (hbody : inner? (Text.strip t) = some body)
    (hparts : Interleaves (fun c => decide (c = .char ',')) (first :: others) body) :
    Padded (bracketed first others) t := by
  have hpadded := Text.padded_strip t
  have hjoined := hparts.eq_flatMap fun c hc => of_decide_eq_true hc
  rw [eq_bracket_of_inner? hbody, hjoined] at hpadded
  exact hpadded

theorem bracketed_ne_nil (first : Text) (others : List Text) : bracketed first others ≠ [] :=
  List.cons_ne_nil _ _

theorem isTrimmed_bracketed (first : Text) (others : List Text) :
    Text.IsTrimmed (bracketed first others) :=
  Text.isTrimmed_bracket (by decide) (by decide) _

theorem strip_of_padded_bracketed {first t : Text} {others : List Text}
    (h : Padded (bracketed first others) t) : Text.strip t = bracketed first others :=
  h.strip_eq (bracketed_ne_nil first others) (isTrimmed_bracketed first others)

theorem keeps_bracketed {isSep : CodePoint → Bool} {depth : Nat} {first : Text}
    {others : List Text} (hs : depth ≠ 0 ∨ isSep (.char ')') = false)
    (h : ∀ t ∈ first :: others, Keeps isSep (depth + 1) t (depth + 1)) :
    Keeps isSep depth (bracketed first others) depth := by
  obtain ⟨hfirst, hothers⟩ := List.forall_mem_cons.1 h
  have hcomma : Keeps isSep (depth + 1) [.char ','] (depth + 1) :=
    Keeps.char (by decide) (by decide) (.inl (Nat.succ_ne_zero depth))
  have htail : Keeps isSep (depth + 1) (others.flatMap (.char ',' :: ·)) (depth + 1) :=
    Keeps.flatMap fun t ht => hcomma.append (hothers t ht)
  exact Keeps.parenthesized hs (hfirst.append htail)

/-! ### Partition columns -/

theorem parsePartition_name {name t : Text} (h : WritesName name t) :
    parsePartition (Text.strip t) = .ok [name] := by
  rw [h.strip_eq, parsePartition, if_neg (head?_ne_of_isPlain h.1), parseName_plain h.1]
  rfl

theorem parsePartition_list {names others : List Text} {first t : Text}
    (h : List.Forall₂ WritesName names (first :: others))
    (ht : Padded (bracketed first others) t) : parsePartition (Text.strip t) = .ok names := by
  have hcomma : ∀ item ∈ first :: others, ∀ c ∈ item, decide (c = .char ',') = false := by
    intro item hitem c hc
    obtain ⟨name, -, hname⟩ := exists_rel_of_mem_right h hitem
    exact decide_eq_false (hname.neutral c hc).2.2
  have hsplit : Text.splitOn (.char ',') (first ++ others.flatMap (.char ',' :: ·)) =
      first :: others := Text.split_flatMap (by decide) hcomma
  have hnames : (first :: others).mapM parseName = .ok names := by
    rw [mapM_eq_ok]
    exact h.flip.imp fun _ _ hname => parseName_iff.2 hname
  have hhead : (bracketed first others).head? = some (.char '(') := rfl
  rw [strip_of_padded_bracketed ht, parsePartition, if_pos hhead, bracketed, inner?_bracket]
  dsimp only
  rw [hsplit, hnames]

theorem parsePartition_iff {names : List Text} {t : Text} :
    parsePartition (Text.strip t) = .ok names ↔ WritesPartition names t := by
  constructor
  · intro h
    rw [parsePartition] at h
    split at h
    · split at h
      · rename_i inner hinner
        obtain ⟨first, others, hparts⟩ :=
          List.exists_cons_of_ne_nil (Text.split_ne_nil (· = .char ',') inner)
        have hwhole := interleaves_split (· = .char ',') inner
        rw [hparts] at hwhole
        rw [Text.splitOn, hparts, mapM_eq_ok] at h
        exact .list (h.flip.imp fun _ _ hname => parseName_iff.1 hname)
          (padded_of_inner? hinner hwhole)
      · cases h
    · obtain ⟨name, hname, hnames⟩ := bind_eq_ok.1 h
      cases hnames
      obtain ⟨hplain, hstripped⟩ := parseName_iff.1 hname
      exact .name ⟨hplain, hstripped.trans (Text.padded_strip t)⟩
  · intro h
    cases h with
    | name hname => exact parsePartition_name hname
    | list hnames ht => exact parsePartition_list hnames ht

/-! ### Clustering columns -/

theorem direction?_iff {word : Text} {descending : Bool} :
    direction? word = some descending ↔
      Text.toAsciiUpper? word = some (directionWord descending) := by
  rw [direction?]
  split
  · rename_i capitals hcapitals
    rw [hcapitals, Option.some.injEq]
    by_cases ha : capitals = "ASC"
    · subst ha
      cases descending <;> decide
    by_cases hd : capitals = "DESC"
    · subst hd
      cases descending <;> decide
    · rw [if_neg ha, if_neg hd]
      cases descending with
      | false => exact ⟨nofun, fun h => absurd h ha⟩
      | true => exact ⟨nofun, fun h => absurd h hd⟩
  · rename_i hnone
    rw [hnone]
    exact ⟨nofun, nofun⟩

theorem mem_of_lookup {n : Nat} {s : String} {entries : List (Nat × String)}
    (h : entries.lookup n = some s) : (n, s) ∈ entries := by
  obtain ⟨before, after, rfl, -⟩ := List.lookup_eq_some_iff.1 h
  exact List.mem_append_right before (List.mem_cons_self ..)

/-- The long s, which has the capital of the letter s. -/
def longS : CodePoint := .char '\u017F'

theorem part_of_toAsciiUpper? {c : CodePoint} {part : Text} {descending : Bool}
    (h : c.toAsciiUpper? = some part) (hpart : part <:+: directionWord descending) :
    c.isWordPart = true ∨ c = longS := by
  cases c with
  | lone half => cases h
  | char c =>
    by_cases hc : c.toNat < 128
    · have hascii := CodePoint.ascii_cases (P := fun c => ∀ descending, ∀ part ∈ c.toAsciiUpper?,
        part <:+: directionWord descending → c.isWordPart = true) (by decide) hc
      exact .inl (hascii descending part h hpart)
    · rw [CodePoint.toAsciiUpper?, if_neg hc] at h
      obtain ⟨s, hs, rfl⟩ := Option.map_eq_some_iff.1 h
      -- the sharp s has two letters of the directions for its capitals, but not side by side
      have hforms : ∀ descending, ∀ entry ∈ asciiCapitals,
          Text.ofString entry.2 <:+: directionWord descending → entry.1 = 0x17F := by decide
      have hlong := hforms descending _ (mem_of_lookup hs) hpart
      exact .inr (congrArg CodePoint.char (Char.toNat_inj.1 hlong))

theorem part_of_direction {word : Text} {descending : Bool}
    (h : Text.toAsciiUpper? word = some (directionWord descending)) :
    ∀ c ∈ word, c.isWordPart = true ∨ c = longS := by
  obtain ⟨parts, hparts, hwhole⟩ := Option.map_eq_some_iff.1 h
  intro c hc
  obtain ⟨part, hpart, hupper⟩ := exists_rel_of_mem_left (mapM_eq_some.1 hparts) hc
  have hinfix := List.infix_of_mem_flatten hpart
  rw [hwhole] at hinfix
  exact part_of_toAsciiUpper? hupper hinfix

theorem neutral_of_direction {word : Text} {descending : Bool}
    (h : Text.toAsciiUpper? word = some (directionWord descending)) :
    word ≠ [] ∧ ∀ c ∈ word, c.isBlank = false ∧ IsNeutral c := by
  constructor
  · rintro rfl
    cases descending <;> cases h
  · intro c hc
    rcases part_of_direction h c hc with hpart | rfl
    · exact ⟨CodePoint.isBlank_of_isWordPart hpart, neutral_of_isWordPart hpart⟩
    · decide

theorem strip_of_directed {name gap word t : Text} {descending : Bool} (hname : Name.IsPlain name)
    (hword : Text.toAsciiUpper? word = some (directionWord descending))
    (ht : Padded (name ++ (gap ++ word)) t) : Text.strip t = name ++ (gap ++ word) := by
  obtain ⟨hne, hneutral⟩ := neutral_of_direction hword
  have hwordt : Text.IsTrimmed word := Text.isTrimmed_of_not_blank fun c hc => (hneutral c hc).1
  refine ht.strip_eq ?_ ?_
  · exact List.append_ne_nil_of_left_ne_nil hname.ne_nil _
  · exact Text.isTrimmed_between hname.ne_nil hne (isTrimmed_of_isPlain hname) hwordt gap

theorem parseClustering_iff {key : ClusteringKey} {t : Text} :
    parseClustering (Text.strip t) = .ok key ↔ WritesClustering key t := by
  constructor
  · intro h
    have hpadded := Text.padded_strip t
    rw [parseClustering] at h
    split at h
    · rename_i raw hwords
      obtain ⟨name, hname, rfl⟩ := map_eq_ok.1 h
      obtain ⟨hplain, hraw⟩ := parseName_iff.1 hname
      exact .name ⟨hplain, hraw.trans ((Text.padded_of_words hwords).trans hpadded)⟩
    · rename_i raw word hwords
      split at h
      · rename_i descending hdirection
        obtain ⟨name, hname, rfl⟩ := map_eq_ok.1 h
        obtain ⟨hplain, before, after, hbefore, hafter, rfl⟩ := parseName_iff.1 hname
        obtain ⟨gap, hne, hgap, hpair⟩ := Text.padded_of_words_pair hwords
        -- blanks of the first word, which there are none of, would count to those around it
        have hdirected : Padded (name ++ ((after ++ gap) ++ word))
            (before ++ (name ++ after) ++ (gap ++ word)) :=
          ⟨before, [], hbefore, Text.isBlank_nil, by simp only [List.append_assoc, List.append_nil]⟩
        exact .directed hplain (List.append_ne_nil_of_right_ne_nil after hne) (hafter.append hgap)
          (direction?_iff.1 hdirection) (hdirected.trans (hpair.trans hpadded))
      · cases h
    · cases h
  · intro h
    cases h with
    | @name name _ h =>
      have hwords := Text.words_singleton h.1.ne_nil (not_blank_of_isPlain h.1)
      simp only [parseClustering, h.strip_eq, hwords, parseName_plain h.1, Except.map]
    | @directed name gap word _ descending hname hne hgap hword ht =>
      obtain ⟨hwne, hneutral⟩ := neutral_of_direction hword
      have hwords := Text.words_pair hname.ne_nil hwne (not_blank_of_isPlain hname)
        (fun c hc => (hneutral c hc).1) hne hgap
      simp only [parseClustering, strip_of_directed hname hword ht, hwords,
        direction?_iff.2 hword, parseName_plain hname, Except.map]

theorem WritesClustering.neutral {key : ClusteringKey} {t : Text} (h : WritesClustering key t) :
    ∀ c ∈ t, IsNeutral c := by
  cases h with
  | name h => exact h.neutral
  | directed hname _ hgap hword ht =>
    refine neutral_of_padded ht ?_
    rw [List.forall_mem_append, List.forall_mem_append]
    exact ⟨fun c hc => neutral_of_isWordPart (hname.isWordPart c hc),
      fun c hc => neutral_of_isBlank (hgap c hc),
      fun c hc => ((neutral_of_direction hword).2 c hc).2⟩

/-! ### Whole keys -/

theorem keeps_of_neutral {depth : Nat} {t : Text} (h : ∀ c ∈ t, IsNeutral c) :
    Keeps (fun c => decide (c = .char ',')) depth t depth :=
  Keeps.word fun c hc =>
    ⟨(h c hc).1, (h c hc).2.1, .inr (decide_eq_false (h c hc).2.2)⟩

theorem WritesPartition.keeps {names : List Text} {t : Text} (h : WritesPartition names t) :
    Keeps (fun c => decide (c = .char ',')) 0 t 0 := by
  cases h with
  | name h => exact keeps_of_neutral h.neutral
  | @list names others first t h ht =>
    obtain ⟨before, after, hbefore, hafter, rfl⟩ := ht
    have hitem : ∀ item ∈ first :: others,
        Keeps (fun c => decide (c = .char ',')) (0 + 1) item (0 + 1) := by
      intro item hitem
      obtain ⟨name, -, hname⟩ := exists_rel_of_mem_right h hitem
      exact keeps_of_neutral hname.neutral
    have hbracket := keeps_bracketed (.inr (by decide)) hitem
    exact (keeps_of_neutral fun c hc => neutral_of_isBlank (hbefore c hc)).append
      (hbracket.append (keeps_of_neutral fun c hc => neutral_of_isBlank (hafter c hc)))

/-- A text that denotes a key is a name, or a list in parentheses whose first item gives the
partition columns and every other one a clustering column. -/
theorem parse_cases {raw : Text} {key : PrimaryKey} (h : parse raw = .ok key) :
    (∃ name, parseName (Text.strip raw) = .ok name ∧ key = { partition := [name] }) ∨
      ∃ body parts first others, inner? (Text.strip raw) = some body ∧
        splitTopLevel (· = .char ',') body = .ok parts ∧
        parts.map Text.strip = first :: others ∧
        parsePartition first = .ok key.partition ∧
        others.mapM parseClustering = .ok key.clustering := by
  simp only [parse] at h
  split at h
  · simp at h
  split at h
  · simp only [bind_eq_ok, pure_eq_ok, Except.ok.injEq] at h
    obtain ⟨name, hname, rfl⟩ := h
    exact .inl ⟨name, hname, rfl⟩
  split at h
  · simp at h
  rename_i body hbody
  obtain ⟨parts, hparts, h⟩ := bind_eq_ok.1 h
  split at h
  · simp at h
  rename_i first others hitems
  split at h
  · simp at h
  simp only [bind_eq_ok, pure_eq_ok, Except.ok.injEq] at h
  obtain ⟨partition, hpartition, clustering, hclustering, rfl⟩ := h
  exact .inr ⟨body, parts, first, others, hbody, hparts, hitems, hpartition, hclustering⟩

theorem splitTopLevel_eq_ok {isSep : CodePoint → Bool} {t : Text} {parts : List Text} :
    splitTopLevel isSep t = .ok parts ↔ splitFrom isSep 0 t = some parts := by
  rw [splitTopLevel]
  cases splitFrom isSep 0 t <;> simp

theorem writes_of_parse {raw : Text} {key : PrimaryKey} (h : parse raw = .ok key) :
    Writes key raw := by
  rcases parse_cases h with
    ⟨name, hname, rfl⟩ |
    ⟨body, parts, first, others, hbody, hparts, hitems, hpartition, hclustering⟩
  · obtain ⟨hplain, hstripped⟩ := parseName_iff.1 hname
    exact .name ⟨hplain, hstripped.trans (Text.padded_strip raw)⟩
  · cases parts with
    | nil => cases hitems
    | cons part items =>
      obtain ⟨rfl, rfl⟩ := List.cons.inj hitems
      have hwhole := interleaves_splitFrom (splitTopLevel_eq_ok.1 hparts)
      rw [mapM_eq_ok, List.forall₂_map_left_iff] at hclustering
      have hitem := hclustering.flip.imp fun _ _ hc => parseClustering_iff.1 hc
      exact .list (parsePartition_iff.1 hpartition) hitem (padded_of_inner? hbody hwhole)

theorem WritesPartition.strip_ne_nil {names : List Text} {t : Text} (h : WritesPartition names t) :
    Text.strip t ≠ [] := by
  intro hnil
  have hparse := parsePartition_iff.2 h
  rw [hnil] at hparse
  cases hparse

theorem WritesClustering.strip_ne_nil {key : ClusteringKey} {t : Text}
    (h : WritesClustering key t) : Text.strip t ≠ [] := by
  intro hnil
  have hparse := parseClustering_iff.2 h
  rw [hnil] at hparse
  cases hparse

theorem splitTopLevel_items {partition : List Text} {clustering : List ClusteringKey} {part : Text}
    {items : List Text} (hp : WritesPartition partition part)
    (hc : List.Forall₂ WritesClustering clustering items) :
    splitTopLevel (· = .char ',') (part ++ items.flatMap (.char ',' :: ·)) =
      .ok (part :: items) := by
  have hkept : ∀ t ∈ part :: items, Keeps (fun c => decide (c = .char ',')) 0 t 0 := by
    refine List.forall_mem_cons.2 ⟨hp.keeps, fun item hitem => ?_⟩
    obtain ⟨column, -, hcolumn⟩ := exists_rel_of_mem_right hc hitem
    exact keeps_of_neutral hcolumn.neutral
  exact splitTopLevel_eq_ok.2 (splitFrom_flatMap (by decide) (by decide) (by decide) hkept)

theorem strip_items_ne_nil {partition : List Text} {clustering : List ClusteringKey} {part : Text}
    {items : List Text} (hp : WritesPartition partition part)
    (hc : List.Forall₂ WritesClustering clustering items) :
    ((part :: items).map Text.strip).any List.isEmpty = false := by
  rw [List.any_eq_false]
  simp only [List.isEmpty_iff, List.map_cons]
  -- an empty item would be no partition and no clustering column
  refine List.forall_mem_cons.2 ⟨hp.strip_ne_nil, List.forall_mem_map.2 fun item hitem => ?_⟩
  obtain ⟨column, -, hcolumn⟩ := exists_rel_of_mem_right hc hitem
  exact hcolumn.strip_ne_nil

theorem parse_of_writes {raw : Text} {key : PrimaryKey} (h : Writes key raw) :
    parse raw = .ok key := by
  cases h with
  | @name name raw h =>
    have hempty : name.isEmpty = false := by simp [h.1.ne_nil]
    simp only [parse, h.strip_eq, hempty, head?_ne_of_isPlain h.1, parseName_plain h.1, ok_bind,
      pure_eq_ok, Bool.false_eq_true, if_false, ne_eq, not_false_eq_true, if_true]
  | @list partition clustering part raw items hp hc ht =>
    have hpartition := parsePartition_iff.2 hp
    have hclustering : (items.map Text.strip).mapM parseClustering = .ok clustering := by
      rw [mapM_eq_ok, List.forall₂_map_left_iff]
      exact hc.flip.imp fun _ _ h => parseClustering_iff.2 h
    have hempty := strip_items_ne_nil hp hc
    have hne : (bracketed part items).isEmpty = false := rfl
    have hhead : (bracketed part items).head? = some (.char '(') := rfl
    have hinner : inner? (bracketed part items) = some (part ++ items.flatMap (.char ',' :: ·)) :=
      inner?_bracket _
    rw [List.map_cons] at hempty
    simp only [parse, strip_of_padded_bracketed ht, hne, hhead, hinner, splitTopLevel_items hp hc,
      ok_bind, List.map_cons, hempty, hpartition, hclustering, Bool.false_eq_true, if_false, ne_eq,
      not_true_eq_false, pure_eq_ok]

/-- A text denotes the keys that the grammar writes so, and is refused if there is none. -/
theorem parse_follows_grammar (raw : Text) :
    (∀ key, parse raw = .ok key ↔ Writes key raw) ∧
      ((∃ e, parse raw = .error e) ↔ ∀ key, ¬Writes key raw) := by
  have hdenotes : ∀ key, parse raw = .ok key ↔ Writes key raw :=
    fun key => ⟨writes_of_parse, parse_of_writes⟩
  refine ⟨hdenotes, ?_⟩
  simp only [← hdenotes]
  cases parse raw with
  | error e => exact ⟨fun _ => nofun, fun _ => ⟨e, rfl⟩⟩
  | ok key => exact ⟨nofun, fun h => absurd rfl (h key)⟩

/-- The long s has the capital of the letter s. -/
example : parse "( (a ,b)\n, c  De\u017Fc, d )" =
    .ok { partition := ["a", "b"], clustering := [⟨"c", true⟩, ⟨"d", false⟩] } := by decide

example : ∀ raw ∈ (["(a), (b)", "((a)(b), c)", "(a, (b, c))", "(a, b desc c)"] : List Text),
    (parse raw).isOk = false := by decide

end StructSchema.PrimaryKey
