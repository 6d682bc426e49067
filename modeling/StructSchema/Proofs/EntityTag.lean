import Mathlib.Data.List.Perm.Basic
import StructSchema.Proofs.SchemaTag

/-!
# Entity tags as collections of options

The options of an entity tag are taken one after another, and what an option may still give depends
on what those before it gave. Still only the collection counts: every option is known, the name is
given at most once and the key exactly once, and each value is accepted. Main statement: an entity
tag is accepted exactly if its options are so, in whatever order they stand and under whichever of
its names the key is given.
-/

namespace StructSchema.SchemaTag

variable {options : List (Text × Text)} {option : Text × Text} {given : EntityOptions}

/-! ### What is wrong with a tag -/

theorem add_eq_error {fault : TagFault} (h : given.add option.1 option.2 = .error fault) :
    (∃ e, fault = .tag e) ∨
      isNameOption option.1 = true ∧ ∃ e, Name.normalize option.2 = .error e ∧ fault = .name e := by
  rw [EntityOptions.add] at h
  split at h
  · rename_i hname
    split at h
    · cases h
      exact .inl ⟨_, rfl⟩
    split at h
    · cases h
    · rename_i e hnormal
      cases h
      exact .inr ⟨decide_eq_true hname, e, hnormal, rfl⟩
  · -- neither a bad key nor an unknown option has to do with names
    split at h
    · split at h
      · cases h
        exact .inl ⟨_, rfl⟩
      split at h
      · cases h
      · cases h
        exact .inl ⟨_, rfl⟩
    · cases h
      exact .inl ⟨_, rfl⟩

/-- What is wrong with an entity tag: the tag itself, or a name, given by an option or, if there is
none, taken from the struct. -/
inductive Blames (struct : Text) (options : List (Text × Text)) : TagFault → Prop
  | tag (e : TagError) : Blames struct options (.tag e)
  | name {value : Text} {e : NameError}
    (hvalue : value ∈ valuesOf isNameOption options ∨
      valuesOf isNameOption options = [] ∧ value = struct)
    (h : Name.normalize value = .error e) : Blames struct options (.name e)

theorem blames_of_entity {struct tag : Text} {fault : TagFault}
    (h : TagOptions.parse tag = .ok options)
    (herror : entity struct tag = .error fault) : Blames struct options fault := by
  cases hrun : options.foldlM (fun given option => given.add option.1 option.2)
      ({} : EntityOptions) with
  | error e =>
    rw [entity, h] at herror
    simp only [Except.mapError, Fallible.ok_bind, hrun, Fallible.error_bind] at herror
    cases herror
    obtain ⟨option, hoption, given, hadd⟩ := Fallible.exists_of_foldlM_eq_error hrun
    rcases add_eq_error hadd with ⟨e, rfl⟩ | ⟨hn, e, hnormal, rfl⟩
    · exact .tag e
    · have hvalue : option.2 ∈ valuesOf isNameOption options :=
        List.mem_map_of_mem (List.mem_filter.2 ⟨hoption, hn⟩)
      exact .name (.inl hvalue) hnormal
  | ok given =>
    have hreads := run_add_iff.1 hrun
    rw [entity_of_reads h hreads] at herror
    split at herror
    · cases herror
      exact .tag _
    · cases herror
    · rename_i hkey hname
      -- no name has been given, so the struct's own is at fault
      have hnone : valuesOf isNameOption options = [] := Single.none_iff.1 (hname ▸ hreads.name)
      cases hnormal : Name.normalize struct with
      | ok n =>
        rw [hnormal] at herror
        cases herror
      | error e =>
        rw [hnormal] at herror
        cases herror
        exact .name (.inr ⟨hnone, rfl⟩) hnormal

/-! ### Options in another order -/

/-- An option with the key under one of its two names. -/
def canonical (option : Text × Text) : Text × Text :=
  (if isKeyOption option.1 then "primaryKey" else option.1, option.2)

/-- The same options in any order, with the key under either of its names. -/
def SameOptions (written options : List (Text × Text)) : Prop :=
  (written.map canonical).Perm (options.map canonical)

instance (written options : List (Text × Text)) : Decidable (SameOptions written options) :=
  inferInstanceAs (Decidable (List.Perm _ _))

theorem isKeyOption_canonical (option : Text × Text) :
    isKeyOption (canonical option).1 = isKeyOption option.1 := by
  simp only [canonical]
  split
  · rename_i h
    rw [h]
    decide
  · rfl

theorem isNameOption_canonical (option : Text × Text) :
    isNameOption (canonical option).1 = isNameOption option.1 := by
  simp only [canonical]
  split
  · rename_i h
    rw [not_isNameOption_of_isKeyOption h]
    decide
  · rfl

theorem valuesOf_canonical {isOption : Text → Bool}
    (h : ∀ option, isOption (canonical option).1 = isOption option.1)
    (options : List (Text × Text)) :
    valuesOf isOption (options.map canonical) = valuesOf isOption options := by
  simp only [valuesOf, List.filter_map, List.map_map, Function.comp_def, h]
  rfl

variable {written : List (Text × Text)}

theorem SameOptions.valuesOf (h : SameOptions written options) {isOption : Text → Bool}
    (hcanonical : ∀ option, isOption (canonical option).1 = isOption option.1) :
    (SchemaTag.valuesOf isOption written).Perm (SchemaTag.valuesOf isOption options) := by
  have hperm : (SchemaTag.valuesOf isOption (written.map canonical)).Perm
      (SchemaTag.valuesOf isOption (options.map canonical)) := (h.filter _).map _
  rwa [valuesOf_canonical hcanonical, valuesOf_canonical hcanonical] at hperm

theorem eq_of_perm_of_length_le_one {values others : List Text} (h : others.Perm values)
    (hone : values.length ≤ 1) : others = values := by
  cases values with
  | nil => exact h.eq_nil
  | cons value rest =>
    have hrest : rest = [] := by
      rw [List.length_cons] at hone
      exact List.length_eq_zero_iff.1 (by omega)
    subst hrest
    exact List.perm_singleton.1 h

theorem Gives.of_sameOptions {struct name : Text} {key : PrimaryKey}
    (hgives : Gives struct options name key) (h : SameOptions written options) :
    Gives struct written name key := by
  have hnames := h.valuesOf isNameOption_canonical
  have hkeys := h.valuesOf isKeyOption_canonical
  refine ⟨?_, ?_, ?_, ?_, ?_⟩
  · intro option hoption
    have hmem : canonical option ∈ options.map canonical := h.subset (List.mem_map_of_mem hoption)
    obtain ⟨other, hother, heq⟩ := List.mem_map.1 hmem
    rw [← isNameOption_canonical, ← isKeyOption_canonical, ← heq, isNameOption_canonical,
      isKeyOption_canonical]
    exact hgives.known other hother
  · rw [hnames.length_eq]
    exact hgives.name_once
  · rw [hkeys.length_eq]
    exact hgives.key_once
  · rw [eq_of_perm_of_length_le_one hnames hgives.name_once]
    exact hgives.name_accepted
  · intro value hvalue
    exact hgives.key_accepted value (hkeys.subset hvalue)

/-! ### The main statement -/

/-- What an entity tag comes to is told by its options, not by their order, and what is wrong with
it lies in the tag or in a name. -/
theorem entity_from_options (struct : Text) {tag : Text} (h : TagOptions.parse tag = .ok options) :
    (∀ name key, entity struct tag = .ok (name, key) ↔ Gives struct options name key) ∧
    (∀ other written, TagOptions.parse other = .ok written → SameOptions written options →
      (entity struct other).toOption = (entity struct tag).toOption) ∧
    ∀ fault, entity struct tag = .error fault → Blames struct options fault := by
  refine ⟨fun name key => entity_eq_ok_iff h, ?_, fun fault => blames_of_entity h⟩
  intro other written hwritten hsame
  have hiff : ∀ name key, entity struct other = .ok (name, key) ↔
      entity struct tag = .ok (name, key) := by
    intro name key
    rw [entity_eq_ok_iff hwritten, entity_eq_ok_iff h]
    exact ⟨fun hgives => hgives.of_sameOptions hsame.symm,
      fun hgives => hgives.of_sameOptions hsame⟩
  apply Option.ext
  rintro ⟨name, key⟩
  rw [Fallible.toOption_eq_some, Fallible.toOption_eq_some]
  exact hiff name key

/-- The key stands first and under its short name, or last and under its long one. -/
theorem entity_from_turned_options :
    let tag : Text := "key=((ID, Area), At DESC), name=Books"
    let other : Text := "name=Books primaryKey=((ID, Area), At DESC)"
    let key : PrimaryKey := ⟨["ID", "Area"], [⟨"At", true⟩]⟩
    ∃ options written, TagOptions.parse tag = .ok options ∧ TagOptions.parse other = .ok written ∧
      SameOptions written options ∧ Gives "Book" options "books" key ∧
      entity "Book" tag = .ok ("books", key) ∧
      (entity "Book" other).toOption = some (("books" : Text), key) := by
  intro tag other key
  have htag : TagOptions.parse tag =
      .ok [("key", "((ID, Area), At DESC)"), ("name", "Books")] := by decide +kernel
  have hother : TagOptions.parse other =
      .ok [("name", "Books"), ("primaryKey", "((ID, Area), At DESC)")] := by decide +kernel
  have hsame : SameOptions [("name", "Books"), ("primaryKey", "((ID, Area), At DESC)")]
      [("key", "((ID, Area), At DESC)"), ("name", "Books")] := by decide +kernel
  have hentity : entity "Book" tag = .ok ("books", key) := by decide +kernel
  have hmain := entity_from_options "Book" htag
  have hturned := hmain.2.1 other _ hother hsame
  rw [hentity] at hturned
  exact ⟨_, _, htag, hother, hsame, (hmain.1 _ _).1 hentity, hentity, hturned⟩

end StructSchema.SchemaTag
