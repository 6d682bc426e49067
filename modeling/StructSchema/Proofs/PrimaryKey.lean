import StructSchema.Proofs.KeyGrammar

/-!
# Primary keys as text

What a key that a text denotes is made of, and the text that denotes a given one: the written form
of a key of plain names denotes this key.
-/

namespace StructSchema.PrimaryKey

open Text (Padded)

theorem forall_columns {P : Text → Prop} {key : PrimaryKey} :
    (∀ n ∈ key.columns, P n) ↔ (∀ n ∈ key.partition, P n) ∧ ∀ c ∈ key.clustering, P c.name := by
  rw [columns, List.forall_mem_append, List.forall_mem_map]

/-! ### Keys that texts denote -/

theorem WritesPartition.plain {names : List Text} {t : Text} (h : WritesPartition names t) :
    names ≠ [] ∧ ∀ n ∈ names, Name.IsPlain n := by
  cases h with
  | name h => exact ⟨List.cons_ne_nil _ _, List.forall_mem_singleton.2 h.1⟩
  | list h _ =>
    constructor
    · rintro rfl
      cases h
    · intro n hn
      obtain ⟨item, -, hname⟩ := Fallible.exists_rel_of_mem_left h hn
      exact hname.1

theorem WritesClustering.plain {key : ClusteringKey} {t : Text} (h : WritesClustering key t) :
    Name.IsPlain key.name := by
  cases h with
  | name h => exact h.1
  | directed hname _ _ _ _ => exact hname

theorem Writes.plain {key : PrimaryKey} {t : Text} (h : Writes key t) :
    key.partition ≠ [] ∧ ∀ n ∈ key.columns, Name.IsPlain n := by
  rw [forall_columns]
  cases h with
  | name h =>
    exact ⟨List.cons_ne_nil _ _, List.forall_mem_singleton.2 h.1, fun c hc => by cases hc⟩
  | list hp hc _ =>
    refine ⟨hp.plain.1, hp.plain.2, fun c hmem => ?_⟩
    obtain ⟨item, -, hitem⟩ := Fallible.exists_rel_of_mem_left hc hmem
    exact hitem.plain

theorem plain_of_parse {raw : Text} {key : PrimaryKey} (h : parse raw = .ok key) :
    key.partition ≠ [] ∧ ∀ n ∈ key.columns, Name.IsPlain n :=
  (writes_of_parse h).plain

theorem valid_of_parse {raw : Text} {key : PrimaryKey} (h : parse raw = .ok key) :
    ∀ n ∈ key.columns, Name.isValid n = true :=
  fun n hn => ((plain_of_parse h).2 n hn).isValid

/-! ### Written keys -/

theorem renderPartition_cons_cons (first second : Text) (others : List Text) :
    renderPartition (first :: second :: others) =
      bracketed first ((second :: others).map (.char ' ' :: ·)) := by
  show Text.ofString "(" ++ Text.join (Text.ofString ", ") (first :: second :: others) ++
    Text.ofString ")" = _
  rw [Text.join_cons, bracketed, List.flatMap_map]
  rfl

theorem directionWord_cases {P : Text → Prop} (ha : P "ASC") (hd : P "DESC") (descending : Bool) :
    P (directionWord descending) := by
  cases descending with
  | false => exact ha
  | true => exact hd

theorem renderClustering_eq (key : ClusteringKey) :
    key.render = key.name ++ .char ' ' :: directionWord key.descending := by
  obtain ⟨name, descending⟩ := key
  cases descending with
  | false =>
    have hword : Text.ofString " ASC" = .char ' ' :: Text.ofString "ASC" := by decide
    exact congrArg (name ++ ·) hword
  | true =>
    have hword : Text.ofString " DESC" = .char ' ' :: Text.ofString "DESC" := by decide
    exact congrArg (name ++ ·) hword

/-- A written key is its items in parentheses, with a blank before each but the first. -/
theorem render_eq (key : PrimaryKey) :
    render key = bracketed (renderPartition key.partition)
      (key.clustering.map fun c => .char ' ' :: c.render) := by
  show Text.ofString "(" ++ Text.join (Text.ofString ", ")
    (renderPartition key.partition :: key.clustering.map ClusteringKey.render) ++
      Text.ofString ")" = _
  rw [Text.join_cons, bracketed, List.flatMap_map, List.flatMap_map]
  rfl

theorem padded_space (t : Text) : Padded t (.char ' ' :: t) :=
  ⟨[.char ' '], [], by decide, Text.isBlank_nil, by rw [List.append_nil]; rfl⟩

theorem writesPartition_render {partition : List Text} (hne : partition ≠ [])
    (h : ∀ n ∈ partition, Name.IsPlain n) :
    WritesPartition partition (renderPartition partition) := by
  match partition, hne with
  | [name], _ => exact .name ⟨h name (List.mem_singleton_self name), Padded.refl name⟩
  | first :: second :: others, _ =>
    obtain ⟨hfirst, hothers⟩ := List.forall_mem_cons.1 h
    rw [renderPartition_cons_cons]
    refine .list (.cons ⟨hfirst, Padded.refl first⟩ ?_) (Padded.refl _)
    rw [List.forall₂_map_right_iff, List.forall₂_same]
    exact fun name hname => ⟨hothers name hname, padded_space name⟩

theorem writesClustering_render {key : ClusteringKey} (h : Name.IsPlain key.name) :
    WritesClustering key (.char ' ' :: key.render) := by
  have hword : Text.toAsciiUpper? (directionWord key.descending) =
      some (directionWord key.descending) := by
    cases key.descending <;> decide
  rw [renderClustering_eq]
  have hgap : [CodePoint.char ' '] ≠ [] := List.cons_ne_nil _ _
  exact .directed h hgap (by decide) hword (padded_space _)

theorem writes_render {key : PrimaryKey} (hne : key.partition ≠ [])
    (h : ∀ n ∈ key.columns, Name.IsPlain n) : Writes key (render key) := by
  obtain ⟨hpartition, hclustering⟩ := forall_columns.1 h
  rw [render_eq]
  refine .list (writesPartition_render hne hpartition) ?_ (Padded.refl _)
  rw [List.forall₂_map_right_iff, List.forall₂_same]
  exact fun c hc => writesClustering_render (hclustering c hc)

/-- The written form of a key of plain names denotes this key. -/
theorem parse_render {key : PrimaryKey} (hne : key.partition ≠ [])
    (h : ∀ n ∈ key.columns, Name.IsPlain n) : parse (render key) = .ok key :=
  parse_of_writes (writes_render hne h)

/-! ### Written keys are kept whole -/

section Keeps

variable {isSep : CodePoint → Bool} {depth : Nat}

theorem keeps_name {name : Text} (h : Name.IsPlain name)
    (hs : depth ≠ 0 ∨ ∀ c, c.isWordPart = true → isSep c = false) :
    Keeps isSep depth name depth := by
  refine Keeps.word fun c hc => ?_
  have hpart := h.isWordPart c hc
  obtain ⟨ho, hc, -⟩ := neutral_of_isWordPart hpart
  exact ⟨ho, hc, hs.imp_right fun hs => hs c hpart⟩

theorem keeps_space : Keeps isSep (depth + 1) [.char ' '] (depth + 1) :=
  Keeps.char (by decide) (by decide) (.inl (Nat.succ_ne_zero depth))

theorem keeps_renderPartition {partition : List Text} (hne : partition ≠ [])
    (h : ∀ n ∈ partition, Name.IsPlain n) :
    Keeps isSep (depth + 1) (renderPartition partition) (depth + 1) := by
  have hd : depth + 1 ≠ 0 := Nat.succ_ne_zero depth
  match partition, hne with
  | [name], _ => exact keeps_name (h name (List.mem_singleton_self name)) (.inl hd)
  | first :: second :: others, _ =>
    obtain ⟨hfirst, hothers⟩ := List.forall_mem_cons.1 h
    rw [renderPartition_cons_cons]
    refine keeps_bracketed (.inl hd) (List.forall_mem_cons.2 ⟨?_, List.forall_mem_map.2 ?_⟩)
    · exact keeps_name hfirst (.inl (Nat.succ_ne_zero _))
    · intro name hname
      exact keeps_space.append (keeps_name (hothers name hname) (.inl (Nat.succ_ne_zero _)))

theorem keeps_renderClustering {key : ClusteringKey} (h : Name.IsPlain key.name) :
    Keeps isSep (depth + 1) key.render (depth + 1) := by
  have hd : depth + 1 ≠ 0 := Nat.succ_ne_zero depth
  have hword : ∀ c ∈ directionWord key.descending, c ≠ .char '(' ∧ c ≠ .char ')' :=
    directionWord_cases (P := fun t => ∀ c ∈ t, c ≠ .char '(' ∧ c ≠ .char ')') (by decide)
      (by decide) _
  rw [renderClustering_eq]
  refine (keeps_name h (.inl hd)).append (keeps_space.append (Keeps.word fun c hc => ?_))
  exact ⟨(hword c hc).1, (hword c hc).2, .inl hd⟩

theorem keeps_render {key : PrimaryKey} (hne : key.partition ≠ [])
    (h : ∀ n ∈ key.columns, Name.IsPlain n) (hs : isSep (.char ')') = false) :
    Keeps isSep 0 (render key) 0 := by
  obtain ⟨hpartition, hclustering⟩ := forall_columns.1 h
  rw [render_eq]
  refine keeps_bracketed (.inr hs) (List.forall_mem_cons.2
    ⟨keeps_renderPartition hne hpartition, List.forall_mem_map.2 fun c hc => ?_⟩)
  exact keeps_space.append (keeps_renderClustering (hclustering c hc))

end Keeps

/-! ### Characters of written keys -/

def isWrittenPart (c : CodePoint) : Bool :=
  c.isWordPart || c = .char '(' || c = .char ')' || c = .char ',' || c = .char ' '

theorem isWrittenPart_of_isPlain {name : Text} (h : Name.IsPlain name) :
    ∀ c ∈ name, isWrittenPart c = true := by
  intro c hc
  simp only [isWrittenPart, h.isWordPart c hc, Bool.true_or]

theorem isWrittenPart_bracketed {first : Text} {others : List Text}
    (h : ∀ t ∈ first :: others, ∀ c ∈ t, isWrittenPart c = true) :
    ∀ c ∈ bracketed first others, isWrittenPart c = true := by
  obtain ⟨hfirst, hothers⟩ := List.forall_mem_cons.1 h
  rw [bracketed, List.cons_append, List.forall_mem_cons, List.forall_mem_append,
    List.forall_mem_append, List.forall_mem_flatMap]
  refine ⟨by decide, ⟨hfirst, fun t ht => ?_⟩, by decide⟩
  exact List.forall_mem_cons.2 ⟨by decide, hothers t ht⟩

theorem isWrittenPart_renderPartition {partition : List Text} (hne : partition ≠ [])
    (h : ∀ n ∈ partition, Name.IsPlain n) :
    ∀ c ∈ renderPartition partition, isWrittenPart c = true := by
  match partition, hne with
  | [name], _ => exact isWrittenPart_of_isPlain (h name (List.mem_singleton_self name))
  | first :: second :: others, _ =>
    obtain ⟨hfirst, hothers⟩ := List.forall_mem_cons.1 h
    rw [renderPartition_cons_cons]
    refine isWrittenPart_bracketed (List.forall_mem_cons.2
      ⟨isWrittenPart_of_isPlain hfirst, List.forall_mem_map.2 fun n hn => ?_⟩)
    exact List.forall_mem_cons.2 ⟨by decide, isWrittenPart_of_isPlain (hothers n hn)⟩

theorem isWrittenPart_renderClustering {key : ClusteringKey} (h : Name.IsPlain key.name) :
    ∀ c ∈ key.render, isWrittenPart c = true := by
  rw [renderClustering_eq]
  simp only [List.forall_mem_append, List.forall_mem_cons]
  refine ⟨isWrittenPart_of_isPlain h, by decide, ?_⟩
  exact directionWord_cases (P := fun t => ∀ c ∈ t, isWrittenPart c = true)
    (by decide) (by decide) _

theorem isWrittenPart_render {key : PrimaryKey} (hne : key.partition ≠ [])
    (h : ∀ n ∈ key.columns, Name.IsPlain n) : ∀ c ∈ render key, isWrittenPart c = true := by
  obtain ⟨hpartition, hclustering⟩ := forall_columns.1 h
  rw [render_eq]
  refine isWrittenPart_bracketed (List.forall_mem_cons.2
    ⟨isWrittenPart_renderPartition hne hpartition, List.forall_mem_map.2 fun c hc => ?_⟩)
  exact List.forall_mem_cons.2 ⟨by decide, isWrittenPart_renderClustering (hclustering c hc)⟩

/-! ### Writing and reading -/

/-- Writing and reading are inverse: the keys that their written form denotes are those with a
partition column and plain names, and no text denotes any other. -/
theorem parse_inverts_render (key : PrimaryKey) :
    (parse (render key) = .ok key ↔
      key.partition ≠ [] ∧ ∀ n ∈ key.columns, Name.IsPlain n) ∧
    ∀ raw, parse raw = .ok key →
      (key.partition ≠ [] ∧ ∀ n ∈ key.columns, Name.IsPlain n) ∧ parse (render key) = .ok key := by
  refine ⟨⟨fun h => plain_of_parse h, fun h => parse_render h.1 h.2⟩, ?_⟩
  intro raw h
  obtain ⟨hne, hplain⟩ := plain_of_parse h
  exact ⟨⟨hne, hplain⟩, parse_render hne hplain⟩

/-- A key with columns that are named like directions. -/
theorem parse_render_directions :
    let key : PrimaryKey :=
      { partition := ["ASC", "b"], clustering := [⟨"DESC", true⟩, ⟨"c", false⟩] }
    parse " ((ASC,b) , DESC  desc, c\n) " = .ok key ∧
      parse (render key) = .ok key ∧ render key = "((ASC, b), DESC DESC, c ASC)" := by
  intro key
  have hraw : parse " ((ASC,b) , DESC  desc, c\n) " = .ok key := by decide
  exact ⟨hraw, ((parse_inverts_render key).2 _ hraw).2, by decide⟩

end StructSchema.PrimaryKey
