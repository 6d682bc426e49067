import Mathlib.Data.List.Induction
import StructSchema.SchemaTag
import StructSchema.Proofs.Fallible
import StructSchema.Proofs.Name

/-!
# What schema tags say

An accepted tag has each option at most once. What it says can therefore be read off option by
option: the name is the value of the name option, the key that of the key option.
-/

namespace StructSchema

namespace SchemaTag

/-! ### Values of options -/

def value? (isOption : Text → Bool) (tag : Text) : Option Text :=
  match TagOptions.parse tag with
  | .ok options => (options.find? fun option => isOption option.1).map (·.2)
  | .error _ => none

def nameValue? (tag : Text) : Option Text := value? (· = "name") tag

def keyValue? (tag : Text) : Option Text := value? isKeyOption tag

def isNameOption (option : Text) : Bool := option = "name"

/-- The values of the options that are known by a name, in order. -/
def valuesOf (isOption : Text → Bool) (options : List (Text × Text)) : List Text :=
  (options.filter fun option => isOption option.1).map (·.2)

section Values

variable {isOption : Text → Bool} {options : List (Text × Text)} {option : Text × Text}

theorem valuesOf_append_singleton (h : isOption option.1 = true) :
    valuesOf isOption (options ++ [option]) = valuesOf isOption options ++ [option.2] := by
  simp only [valuesOf, List.filter_append, List.map_append, List.filter_singleton, h, cond_true,
    List.map_singleton]

theorem valuesOf_append_other (h : isOption option.1 = false) :
    valuesOf isOption (options ++ [option]) = valuesOf isOption options := by
  simp only [valuesOf, List.filter_append, List.filter_singleton, h, cond_false, List.append_nil]

end Values

theorem value?_eq {isOption : Text → Bool} {tag : Text} {options : List (Text × Text)}
    (h : TagOptions.parse tag = .ok options) :
    value? isOption tag = (valuesOf isOption options).head? := by
  simp only [value?, h, valuesOf, List.head?_map, List.head?_filter]

section Single

variable {ε α : Type} {read : Text → Except ε α} {values : List Text} {value : Text}
  {r : Option α}

/-- What is read from at most one value: nothing from none, and its reading from a single one. -/
inductive Single (read : Text → Except ε α) : List Text → Option α → Prop
  | none : Single read [] none
  | some {value : Text} {a : α} (h : read value = .ok a) : Single read [value] (some a)

theorem Single.none_iff : Single read values Option.none ↔ values = [] := by
  constructor
  · intro h
    cases h
    rfl
  · rintro rfl
    exact .none

theorem Single.append_singleton_iff :
    Single read (values ++ [value]) r ↔
      values = [] ∧ ∃ a, read value = .ok a ∧ r = Option.some a := by
  cases values with
  | nil =>
    constructor
    · intro h
      cases h with
      | some h => exact ⟨rfl, _, h, rfl⟩
    · rintro ⟨-, a, h, rfl⟩
      exact .some h
  | cons first rest =>
    constructor
    · intro h
      generalize hvalues : first :: rest ++ [value] = all at h
      cases h <;> simp at hvalues
    · rintro ⟨h, -⟩
      cases h

theorem Single.some_iff {a : α} :
    Single read values (Option.some a) ↔
      values.length = 1 ∧ ∀ value ∈ values, read value = .ok a := by
  constructor
  · intro h
    cases h with
    | some h => exact ⟨rfl, List.forall_mem_singleton.2 h⟩
  · rintro ⟨hlength, hread⟩
    obtain ⟨value, rfl⟩ := List.length_eq_one_iff.1 hlength
    exact .some (hread value (List.mem_singleton_self value))

/-- A value that may be left out, with another to be read in its place. -/
theorem Single.orElse_iff {a : α} {default : Text} :
    (∃ r, Single read values r ∧ (r = Option.some a ∨ r = Option.none ∧ read default = .ok a)) ↔
      values.length ≤ 1 ∧ read (values.head?.getD default) = .ok a := by
  constructor
  · rintro ⟨r, h, rfl | ⟨rfl, hdefault⟩⟩
    · cases h with
      | some h => exact ⟨Nat.le_refl 1, h⟩
    · cases h
      exact ⟨Nat.zero_le 1, hdefault⟩
  · rintro ⟨hlength, hread⟩
    cases values with
    | nil => exact ⟨Option.none, .none, .inr ⟨rfl, hread⟩⟩
    | cons value rest =>
      have hrest : rest = [] := by
        rw [List.length_cons] at hlength
        exact List.length_eq_zero_iff.1 (by omega)
      subst hrest
      exact ⟨Option.some a, .some hread, .inl rfl⟩

end Single

/-! ### Column tags -/

section Column

variable {options : List (Text × Text)} {option : Text × Text} {type : ColumnType}
  {field tag : Text} {c : Column}

theorem addColumnName_eq_ok_iff {given next : Option Text} :
    addColumnName given option.1 option.2 = .ok next ↔
      isNameOption option.1 = true ∧ given = none ∧
        ∃ name, Name.normalize option.2 = .ok name ∧ next = some name := by
  rw [addColumnName]
  by_cases hname : option.1 = ("name" : Text)
  · cases given with
    | some name => simp [hname]
    | none =>
      cases hnormal : Name.normalize option.2 with
      | error e => simp [hname]
      | ok name => simp [isNameOption, hname, eq_comm]
  · simp [isNameOption, hname]

theorem run_addColumnName_iff {r : Option Text} :
    options.foldlM (fun given option => addColumnName given option.1 option.2) none = .ok r ↔
      (∀ option ∈ options, isNameOption option.1 = true) ∧
        Single Name.normalize (valuesOf isNameOption options) r := by
  induction options using List.reverseRecOn generalizing r with
  | nil =>
    constructor
    · intro h
      cases h
      exact ⟨nofun, .none⟩
    · rintro ⟨-, h⟩
      cases h
      rfl
  | append_singleton before option ih =>
    rw [List.foldlM_append, Fallible.bind_eq_ok, List.forall_mem_append, List.forall_mem_singleton]
    simp only [List.foldlM_cons, List.foldlM_nil, bind_pure, ih, addColumnName_eq_ok_iff]
    constructor
    · rintro ⟨given, ⟨hbefore, hread⟩, hname, rfl, hnext⟩
      refine ⟨⟨hbefore, hname⟩, ?_⟩
      rw [valuesOf_append_singleton hname]
      exact Single.append_singleton_iff.2 ⟨Single.none_iff.1 hread, hnext⟩
    · rintro ⟨⟨hbefore, hname⟩, hread⟩
      rw [valuesOf_append_singleton hname, Single.append_singleton_iff] at hread
      exact ⟨none, ⟨hbefore, Single.none_iff.2 hread.1⟩, hname, rfl, hread.2⟩

/-- A tag gives a column exactly if it has no option but a name, at most one, and this name, or else
that of the field, is accepted. -/
theorem column_eq_ok_iff (h : TagOptions.parse tag = .ok options) :
    column type field tag = .ok c ↔
      (∀ option ∈ options, isNameOption option.1 = true) ∧
      (valuesOf isNameOption options).length ≤ 1 ∧
      ∃ name, Name.normalize ((valuesOf isNameOption options).head?.getD field) = .ok name ∧
        c = { name, type, field } := by
  rw [column, h]
  simp only [Except.mapError, Fallible.ok_bind, Fallible.bind_eq_ok, run_addColumnName_iff]
  constructor
  · rintro ⟨given, ⟨hknown, hread⟩, hcolumn⟩
    cases given with
    | some name =>
      cases hcolumn
      obtain ⟨hlength, hname⟩ := Single.orElse_iff.1 ⟨_, hread, .inl rfl⟩
      exact ⟨hknown, hlength, name, hname, rfl⟩
    | none =>
      obtain ⟨name, hnormal, hpure⟩ := Fallible.bind_eq_ok.1 hcolumn
      cases hpure
      obtain ⟨hlength, hname⟩ :=
        Single.orElse_iff.1 ⟨_, hread, .inr ⟨rfl, Fallible.mapError_eq_ok.1 hnormal⟩⟩
      exact ⟨hknown, hlength, name, hname, rfl⟩
  · rintro ⟨hknown, hlength, name, hname, rfl⟩
    obtain ⟨r, hread, rfl | ⟨rfl, hnormal⟩⟩ := Single.orElse_iff.2 ⟨hlength, hname⟩
    · exact ⟨_, ⟨hknown, hread⟩, rfl⟩
    · refine ⟨_, ⟨hknown, hread⟩, ?_⟩
      rw [hnormal]
      rfl

theorem column_eq_ok (h : column type field tag = .ok c) :
    c = { name := Text.toLower ((nameValue? tag).getD field), type, field } := by
  obtain ⟨options, hparsed, -⟩ := Fallible.bind_eq_ok.1 h
  have hoptions := Fallible.mapError_eq_ok.1 hparsed
  obtain ⟨-, -, name, hname, rfl⟩ := (column_eq_ok_iff hoptions).1 h
  have hvalue : nameValue? tag = (valuesOf isNameOption options).head? := value?_eq hoptions
  rw [hvalue, (Name.normalize_eq_ok_iff.1 hname).2]

end Column

/-! ### Entity tags -/

theorem name_ne_keyOption {option : Text} (h : option = ("name" : Text)) :
    isKeyOption option = false := by
  subst h
  decide

theorem not_isKeyOption_of_isNameOption {option : Text} (h : isNameOption option = true) :
    isKeyOption option = false := by
  rw [isNameOption, decide_eq_true_eq] at h
  exact name_ne_keyOption h

theorem not_isNameOption_of_isKeyOption {option : Text} (h : isKeyOption option = true) :
    isNameOption option = false := by
  rw [Bool.eq_false_iff]
  intro hn
  rw [not_isKeyOption_of_isNameOption hn] at h
  cases h

/-- What options have given: they are all known, and no name or key is given by two of them. -/
structure Reads (options : List (Text × Text)) (given : EntityOptions) : Prop where
  known : ∀ option ∈ options, isNameOption option.1 = true ∨ isKeyOption option.1 = true
  name : Single Name.normalize (valuesOf isNameOption options) given.name
  key : Single PrimaryKey.parse (valuesOf isKeyOption options) given.key

variable {options : List (Text × Text)} {option : Text × Text} {given next : EntityOptions}

theorem add_eq_ok_iff :
    given.add option.1 option.2 = .ok next ↔
      (isNameOption option.1 = true ∧ given.name = none ∧
        ∃ name, Name.normalize option.2 = .ok name ∧ next = { given with name := some name }) ∨
      (isKeyOption option.1 = true ∧ given.key = none ∧
        ∃ key, PrimaryKey.parse option.2 = .ok key ∧ next = { given with key := some key }) := by
  rw [EntityOptions.add]
  by_cases hname : option.1 = ("name" : Text)
  · have hkey : isKeyOption option.1 = false := name_ne_keyOption hname
    cases given.name with
    | some name => simp [isNameOption, hname, name_ne_keyOption]
    | none =>
      cases hnormal : Name.normalize option.2 with
      | error e => simp [isNameOption, hname, name_ne_keyOption]
      | ok name => simp [isNameOption, hname, name_ne_keyOption, eq_comm]
  · cases hkey : isKeyOption option.1 with
    | false => simp [isNameOption, hname]
    | true =>
      cases given.key with
      | some key => simp [isNameOption, hname]
      | none =>
        cases hparse : PrimaryKey.parse option.2 with
        | error e => simp [isNameOption, hname]
        | ok key => simp [isNameOption, hname, eq_comm]

theorem reads_append_singleton :
    Reads (options ++ [option]) next ↔
      ∃ given, Reads options given ∧ given.add option.1 option.2 = .ok next := by
  constructor
  · rintro ⟨hknown, hname, hkey⟩
    rw [List.forall_mem_append, List.forall_mem_singleton] at hknown
    rcases hknown.2 with hn | hk
    · rw [valuesOf_append_singleton hn, Single.append_singleton_iff] at hname
      rw [valuesOf_append_other (not_isKeyOption_of_isNameOption hn)] at hkey
      obtain ⟨hnil, name, hnormal, hnext⟩ := hname
      refine ⟨{ next with name := none }, ⟨hknown.1, Single.none_iff.2 hnil, hkey⟩, ?_⟩
      exact add_eq_ok_iff.2 (.inl ⟨hn, rfl, name, hnormal, by rw [← hnext]⟩)
    · have hn : isNameOption option.1 = false := not_isNameOption_of_isKeyOption hk
      rw [valuesOf_append_other hn] at hname
      rw [valuesOf_append_singleton hk, Single.append_singleton_iff] at hkey
      obtain ⟨hnil, key, hparse, hnext⟩ := hkey
      refine ⟨{ next with key := none }, ⟨hknown.1, hname, Single.none_iff.2 hnil⟩, ?_⟩
      exact add_eq_ok_iff.2 (.inr ⟨hk, rfl, key, hparse, by rw [← hnext]⟩)
  · rintro ⟨given, ⟨hknown, hname, hkey⟩, hadd⟩
    rcases add_eq_ok_iff.1 hadd with ⟨hn, hnone, name, hnormal, rfl⟩ | ⟨hk, hnone, key, hparse, rfl⟩
    · rw [hnone, Single.none_iff] at hname
      refine ⟨List.forall_mem_append.2 ⟨hknown, List.forall_mem_singleton.2 (.inl hn)⟩, ?_, ?_⟩
      · rw [valuesOf_append_singleton hn]
        exact Single.append_singleton_iff.2 ⟨hname, name, hnormal, rfl⟩
      · rw [valuesOf_append_other (not_isKeyOption_of_isNameOption hn)]
        exact hkey
    · have hn : isNameOption option.1 = false := not_isNameOption_of_isKeyOption hk
      rw [hnone, Single.none_iff] at hkey
      refine ⟨List.forall_mem_append.2 ⟨hknown, List.forall_mem_singleton.2 (.inr hk)⟩, ?_, ?_⟩
      · rw [valuesOf_append_other hn]
        exact hname
      · rw [valuesOf_append_singleton hk]
        exact Single.append_singleton_iff.2 ⟨hkey, key, hparse, rfl⟩

theorem run_add_iff :
    options.foldlM (fun given option => given.add option.1 option.2) ({} : EntityOptions) =
      .ok given ↔ Reads options given := by
  induction options using List.reverseRecOn generalizing given with
  | nil =>
    constructor
    · intro h
      cases h
      exact ⟨nofun, .none, .none⟩
    · rintro ⟨-, hname, hkey⟩
      obtain ⟨name, key⟩ := given
      cases hname
      cases hkey
      rfl
  | append_singleton before option ih =>
    rw [List.foldlM_append, Fallible.bind_eq_ok, reads_append_singleton]
    simp only [List.foldlM_cons, List.foldlM_nil, bind_pure, ih]

/-- What options give to a struct: they are all known, the name is given at most once and the key
exactly once, and both are accepted; a name that is not given is that of the struct. -/
structure Gives (struct : Text) (options : List (Text × Text)) (name : Text) (key : PrimaryKey) :
    Prop where
  known : ∀ option ∈ options, isNameOption option.1 = true ∨ isKeyOption option.1 = true
  name_once : (valuesOf isNameOption options).length ≤ 1
  key_once : (valuesOf isKeyOption options).length = 1
  name_accepted : Name.normalize ((valuesOf isNameOption options).head?.getD struct) = .ok name
  key_accepted : ∀ value ∈ valuesOf isKeyOption options, PrimaryKey.parse value = .ok key

section Entity

variable {struct tag name : Text} {key : PrimaryKey}

theorem gives_iff :
    Gives struct options name key ↔ ∃ given, Reads options given ∧ given.key = some key ∧
      (given.name = some name ∨ given.name = none ∧ Name.normalize struct = .ok name) := by
  constructor
  · rintro ⟨hknown, hnames, hkeys, hname, hkey⟩
    obtain ⟨r, hread, hr⟩ := Single.orElse_iff.2 ⟨hnames, hname⟩
    exact ⟨⟨r, some key⟩, ⟨hknown, hread, Single.some_iff.2 ⟨hkeys, hkey⟩⟩, rfl, hr⟩
  · rintro ⟨⟨r, _⟩, ⟨hknown, hread, hkey⟩, rfl, hr⟩
    obtain ⟨hnames, hname⟩ := Single.orElse_iff.1 ⟨r, hread, hr⟩
    obtain ⟨hkeys, hkey⟩ := Single.some_iff.1 hkey
    exact ⟨hknown, hnames, hkeys, hname, hkey⟩

theorem entity_of_reads {given : EntityOptions} (h : TagOptions.parse tag = .ok options)
    (hreads : Reads options given) :
    entity struct tag =
      match given.key, given.name with
      | none, _ => .error (.tag (.noKey tag))
      | some key, some name => .ok (name, key)
      | some key, none => ((Name.normalize struct).mapError .name).map (·, key) := by
  rw [entity, h]
  simp only [Except.mapError, Fallible.ok_bind, run_add_iff.2 hreads]
  cases given.key with
  | none => rfl
  | some key =>
    cases given.name with
    | some name => rfl
    | none => cases Name.normalize struct <;> rfl

/-- An entity tag comes to a name and a key exactly if its options give them. -/
theorem entity_eq_ok_iff (h : TagOptions.parse tag = .ok options) :
    entity struct tag = .ok (name, key) ↔ Gives struct options name key := by
  rw [gives_iff]
  constructor
  · intro hentity
    obtain ⟨parsed, hparsed, hrest⟩ := Fallible.bind_eq_ok.1 hentity
    rw [Fallible.mapError_eq_ok, h] at hparsed
    cases hparsed
    obtain ⟨given, hrun, -⟩ := Fallible.bind_eq_ok.1 hrest
    have hreads := run_add_iff.1 hrun
    refine ⟨given, hreads, ?_⟩
    rw [entity_of_reads h hreads] at hentity
    split at hentity
    · cases hentity
    · rename_i hkey hname
      cases hentity
      exact ⟨hkey, .inl hname⟩
    · rename_i hkey hname
      obtain ⟨n, hnormal, heq⟩ := Fallible.map_eq_ok.1 hentity
      cases heq
      exact ⟨hkey, .inr ⟨hname, Fallible.mapError_eq_ok.1 hnormal⟩⟩
  · rintro ⟨given, hreads, hkey, hname | ⟨hname, hnormal⟩⟩
    · rw [entity_of_reads h hreads, hkey, hname]
    · rw [entity_of_reads h hreads, hkey, hname, hnormal]
      rfl

/-- An entity is named by the name option of its tag, or else by its struct; its key is the one
that the key option denotes. -/
theorem entity_eq_ok (h : entity struct tag = .ok (name, key)) :
    name = Text.toLower ((nameValue? tag).getD struct) ∧
      ∃ value, keyValue? tag = some value ∧ PrimaryKey.parse value = .ok key := by
  obtain ⟨options, hparsed, -⟩ := Fallible.bind_eq_ok.1 h
  have hoptions := Fallible.mapError_eq_ok.1 hparsed
  obtain ⟨-, -, hkeys, hname, hkey⟩ := (entity_eq_ok_iff hoptions).1 h
  obtain ⟨value, hvalue⟩ := List.length_eq_one_iff.1 hkeys
  have hnameValue : nameValue? tag = (valuesOf isNameOption options).head? := value?_eq hoptions
  have hkeyValue : keyValue? tag = some value := by
    rw [keyValue?, value?_eq hoptions, hvalue, List.head?_cons]
  refine ⟨?_, value, hkeyValue, hkey value ?_⟩
  · rw [hnameValue]
    exact (Name.normalize_eq_ok_iff.1 hname).2
  · rw [hvalue]
    exact List.mem_singleton_self value

end Entity

/-! ### Tags with given options -/

theorem entity_of_options {struct tag name value : Text} {key : PrimaryKey}
    (hoptions : TagOptions.parse tag = .ok [("name", name), ("primaryKey", value)])
    (hname : Name.IsPlain name) (hkey : PrimaryKey.parse value = .ok key) :
    entity struct tag = .ok (Text.toLower name, key) := by
  have hnames : valuesOf isNameOption [("name", name), ("primaryKey", value)] = [name] := rfl
  have hkeys : valuesOf isKeyOption [("name", name), ("primaryKey", value)] = [value] := rfl
  rw [entity_eq_ok_iff hoptions]
  exact {
    known := by simp [isNameOption, isKeyOption]
    name_once := by rw [hnames]; exact Nat.le_refl 1
    key_once := by rw [hkeys, List.length_singleton]
    name_accepted := by rw [hnames]; exact hname.normalize_eq
    key_accepted := by rw [hkeys, List.forall_mem_singleton]; exact hkey }

theorem column_of_option {type : ColumnType} {field tag name : Text}
    (hoptions : TagOptions.parse tag = .ok [("name", name)]) (hname : Name.IsPlain name) :
    column type field tag = .ok { name := Text.toLower name, type, field } := by
  have hnames : valuesOf isNameOption [("name", name)] = [name] := rfl
  rw [column_eq_ok_iff hoptions, hnames]
  exact ⟨by simp [isNameOption], Nat.le_refl 1, _, hname.normalize_eq, rfl⟩

end SchemaTag

end StructSchema
