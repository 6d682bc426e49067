import Mathlib.Data.List.Induction
import StructSchema.Proofs.Coherence
import StructSchema.Proofs.PrimaryKey
import StructSchema.Proofs.SchemaTag

/-!
# The entity that a struct denotes

A struct is read here without steps and without state. Its live fields are those that no tag
leaves out; the markers among them are told from the others by their type. The columns come from
the others, field by field and name by name; name and key come from the last marker, and the
references of the key are looked up among all columns. Main statement: an entity that a struct
declares is the one that the struct denotes.
-/

namespace StructSchema

/-! ### Denotation -/

/-- A key with another text in the place of each name. -/
def PrimaryKey.rename (f : Text → Text) (key : PrimaryKey) : PrimaryKey where
  partition := key.partition.map f
  clustering := key.clustering.map fun c => { c with name := f c.name }

/-- The column that a key reference means: that of the field of this name, or else the one named
like the reference in small letters. -/
def Column.ofReference (columns : List Column) (reference : Text) : Text :=
  match columns.find? (·.field = reference) with
  | some c => c.name
  | none => Text.toLower reference

namespace PrimaryKey

variable {f g : Text → Text} {key : PrimaryKey}

theorem columns_rename : (key.rename f).columns = key.columns.map f := by
  simp only [columns, rename, List.map_append, List.map_map]
  rfl

theorem rename_congr (h : ∀ k ∈ key.columns, f k = g k) : key.rename f = key.rename g := by
  obtain ⟨hpartition, hclustering⟩ := forall_columns.1 h
  simp only [rename, PrimaryKey.mk.injEq]
  exact ⟨List.map_congr_left hpartition,
    List.map_congr_left fun c hc => by rw [hclustering c hc]⟩

end PrimaryKey

theorem Column.ofReference_field {columns : List Column} (h : (columns.map (·.field)).Nodup)
    {c : Column} (hc : c ∈ columns) : ofReference columns c.field = c.name := by
  simp only [ofReference]
  split
  · rename_i d hd
    have hfield : d.field = c.field := by simpa using List.find?_some hd
    rw [List.inj_on_of_nodup_map h (List.mem_of_find?_eq_some hd) hc hfield]
  · rename_i hnone
    have hne := List.find?_eq_none.1 hnone c hc
    simp at hne

namespace FieldDecl

/-- Whether no tag leaves the field out. -/
def isLive (markers : Markers) (field : FieldDecl) : Bool := field.schemaTag markers ≠ ("-" : Text)

def IsReadable (markers : Markers) (field : FieldDecl) : Prop :=
  field.readTag markers = .ok (field.schemaTag markers)

theorem isReadable_or (markers : Markers) (field : FieldDecl) :
    field.IsReadable markers ∨ ∃ e, field.readTag markers = .error e := by
  rw [IsReadable, schemaTag]
  cases field.readTag markers with
  | ok tag => exact .inl rfl
  | error e => exact .inr ⟨e, rfl⟩

theorem isReadable_iff {markers : Markers} {field : FieldDecl} :
    field.IsReadable markers ↔ (field.readTag markers).isOk = true := by
  rw [IsReadable, schemaTag]
  cases field.readTag markers with
  | ok tag => exact iff_of_true rfl rfl
  | error e => simp [Except.isOk, Except.toBool]

instance (markers : Markers) (field : FieldDecl) : Decidable (field.IsReadable markers) :=
  decidable_of_iff _ isReadable_iff.symm

theorem readable_of_readTag {markers : Markers} {field : FieldDecl} {tag : Text}
    (h : field.readTag markers = .ok tag) :
    field.IsReadable markers ∧ field.schemaTag markers = tag := by
  have htag : field.schemaTag markers = tag := by
    rw [schemaTag, h]
    rfl
  exact ⟨h.trans (congrArg _ htag.symm), htag⟩

theorem schemaTag_of_unreadable {markers : Markers} {field : FieldDecl} {e : LiteralError}
    (h : field.readTag markers = .error e) : field.schemaTag markers = [] := by
  rw [schemaTag, h]
  rfl

theorem isReadable_of_not_live {markers : Markers} {field : FieldDecl}
    (h : field.isLive markers = false) : field.IsReadable markers := by
  rcases field.isReadable_or markers with hreadable | ⟨e, he⟩
  · exact hreadable
  · rw [isLive, schemaTag_of_unreadable he] at h
    exact absurd h (by decide)

def isMarker (markers : Markers) (field : FieldDecl) : Bool :=
  field.typeLabel markers = markers.entityType

/-- The columns of the exported names of a field, all under the name that its tag gives, if it
gives one. -/
def columns (markers : Markers) (field : FieldDecl) : List Column :=
  (field.names.filter isExported).map fun name =>
    { name := Text.toLower ((SchemaTag.nameValue? (field.schemaTag markers)).getD name)
      type := .ofLabel (field.typeLabel markers)
      field := name }

end FieldDecl

namespace StructDecl

def liveFields (markers : Markers) (struct : StructDecl) : List FieldDecl :=
  struct.fields.filter (·.isLive markers)

/-- The columns of the live fields that are no markers. -/
def denotedColumns (markers : Markers) (struct : StructDecl) : List Column :=
  ((struct.liveFields markers).filter (!·.isMarker markers)).flatMap (·.columns markers)

/-- The last live field that is a marker. -/
def lastMarker? (markers : Markers) (struct : StructDecl) : Option FieldDecl :=
  ((struct.liveFields markers).filter (·.isMarker markers)).getLast?

/-- The entity that a struct denotes, if its last marker gives a key. -/
def denotation? (markers : Markers) (struct : StructDecl) : Option Entity := do
  let tag := (← struct.lastMarker? markers).schemaTag markers
  let key ← (PrimaryKey.parse (← SchemaTag.keyValue? tag)).toOption
  let columns := struct.denotedColumns markers
  return {
    struct := struct.name
    definition := {
      name := Text.toLower ((SchemaTag.nameValue? tag).getD struct.name)
      key := some (key.rename (Column.ofReference columns))
      columns }
    fieldOfColumn := .ofPairs (columns.map fun c => (c.name, c.field))
    columnOfField := .ofPairs (columns.map fun c => (c.field, c.name))
    file := struct.file
    line := struct.line }

/-! ### What the steps of a field give -/

section Steps

variable {markers : Markers} {struct : StructDecl} {field : FieldDecl}

theorem fieldSteps_of_readable (h : field.IsReadable markers) :
    struct.fieldSteps markers field =
      struct.stepsUnder markers field (field.schemaTag markers) := by
  rw [FieldDecl.IsReadable] at h
  rw [fieldSteps, h]

theorem fieldSteps_of_unreadable {e : LiteralError} (h : field.readTag markers = .error e) :
    struct.fieldSteps markers field = [.refused (.unreadable e)] := by
  rw [fieldSteps, h]

theorem readable_of_accepted
    (h : ∀ step ∈ struct.fieldSteps markers field, step.isRefused = false) :
    field.IsReadable markers := by
  rcases field.isReadable_or markers with hreadable | ⟨e, he⟩
  · exact hreadable
  · rw [fieldSteps_of_unreadable he] at h
    exact absurd (h _ (List.mem_singleton_self _)) (by simp [AssemblyStep.isRefused])

theorem fieldSteps_of_not_live (h : field.isLive markers = false) :
    struct.fieldSteps markers field = [.ignored field] := by
  rw [fieldSteps_of_readable (FieldDecl.isReadable_of_not_live h)]
  simp only [FieldDecl.isLive, ne_eq, decide_not, Bool.not_eq_false', decide_eq_true_eq] at h
  simp only [stepsUnder, h, if_true]

theorem fieldSteps_of_marker {name : Text} {key : PrimaryKey} (hr : field.IsReadable markers)
    (hl : field.isLive markers = true) (hm : field.isMarker markers = true)
    (he : SchemaTag.entity struct.name (field.schemaTag markers) = .ok (name, key)) :
    struct.fieldSteps markers field = [.marker name key] := by
  simp only [FieldDecl.isLive, ne_eq, decide_not, Bool.not_eq_true', decide_eq_false_iff_not] at hl
  simp only [FieldDecl.isMarker, decide_eq_true_eq] at hm
  rw [fieldSteps_of_readable hr]
  simp only [stepsUnder, if_neg hl, hm, if_true, he]

theorem fieldSteps_of_bad_marker {fault : TagFault} (hr : field.IsReadable markers)
    (hl : field.isLive markers = true) (hm : field.isMarker markers = true)
    (he : SchemaTag.entity struct.name (field.schemaTag markers) = .error fault) :
    struct.fieldSteps markers field = [.refused (.rejected (struct.rejectAt field
      (field.names.headD field.typeText) (.badEntityTag fault)))] := by
  simp only [FieldDecl.isLive, ne_eq, decide_not, Bool.not_eq_true', decide_eq_false_iff_not] at hl
  simp only [FieldDecl.isMarker, decide_eq_true_eq] at hm
  rw [fieldSteps_of_readable hr]
  simp only [stepsUnder, if_neg hl, hm, if_true, he]

theorem fieldSteps_of_not_marker (hr : field.IsReadable markers)
    (hl : field.isLive markers = true) (hm : field.isMarker markers = false) :
    struct.fieldSteps markers field =
      field.names.map
        (struct.nameStep field (field.typeLabel markers) (field.schemaTag markers)) := by
  simp only [FieldDecl.isLive, ne_eq, decide_not, Bool.not_eq_true', decide_eq_false_iff_not] at hl
  simp only [FieldDecl.isMarker, decide_eq_false_iff_not] at hm
  rw [fieldSteps_of_readable hr]
  simp only [stepsUnder, if_neg hl, if_neg hm]

/-- The step of a name that is not refused gives a column exactly if the name is exported. -/
theorem column?_nameStep {label tag name : Text}
    (h : (struct.nameStep field label tag name).isRefused = false) :
    (struct.nameStep field label tag name).column? =
      if isExported name then
        some { name := Text.toLower ((SchemaTag.nameValue? tag).getD name), type := .ofLabel label,
               field := name }
      else none := by
  simp only [nameStep] at h ⊢
  by_cases hx : isExported name = true
  · by_cases ht : ColumnType.ofLabel label = .invalid
    · simp [hx, ht, AssemblyStep.isRefused] at h
    · simp only [hx, ht, Bool.not_true, Bool.false_eq_true, if_false, if_true] at h ⊢
      cases hc : SchemaTag.column (ColumnType.ofLabel label) name tag with
      | error fault => simp [hc, AssemblyStep.isRefused] at h
      | ok c => rw [SchemaTag.column_eq_ok hc]; rfl
  · simp [hx, AssemblyStep.column?]

theorem marker?_nameStep (label tag name : Text) :
    (struct.nameStep field label tag name).marker? = none := by
  simp only [nameStep]
  split
  · rfl
  split
  · rfl
  split <;> rfl

theorem entity_of_marker (hl : field.isLive markers = true) (hm : field.isMarker markers = true)
    (h : ∀ step ∈ struct.fieldSteps markers field, step.isRefused = false) :
    ∃ name key, SchemaTag.entity struct.name (field.schemaTag markers) = .ok (name, key) ∧
      struct.fieldSteps markers field = [.marker name key] := by
  have hr := readable_of_accepted h
  cases he : SchemaTag.entity struct.name (field.schemaTag markers) with
  | ok r =>
    obtain ⟨name, key⟩ := r
    exact ⟨name, key, rfl, fieldSteps_of_marker hr hl hm he⟩
  | error fault =>
    rw [fieldSteps_of_bad_marker hr hl hm he] at h
    have hrefused := h _ (List.mem_singleton_self _)
    simp [AssemblyStep.isRefused] at hrefused

theorem columns_fieldSteps
    (h : ∀ step ∈ struct.fieldSteps markers field, step.isRefused = false) :
    (struct.fieldSteps markers field).filterMap AssemblyStep.column? =
      if field.isLive markers && !field.isMarker markers then field.columns markers else [] := by
  cases hl : field.isLive markers with
  | false =>
    rw [fieldSteps_of_not_live hl]
    rfl
  | true =>
    cases hm : field.isMarker markers with
    | true =>
      obtain ⟨name, key, -, hsteps⟩ := entity_of_marker hl hm h
      rw [hsteps]
      rfl
    | false =>
      have hr := readable_of_accepted h
      rw [fieldSteps_of_not_marker hr hl hm] at h ⊢
      rw [List.forall_mem_map] at h
      rw [List.filterMap_map, FieldDecl.columns, ← List.filterMap_eq_map, List.filterMap_filter]
      exact List.filterMap_congr fun name hname => column?_nameStep (h name hname)

theorem markers_of_not_marker (h : field.isLive markers = false ∨ field.isMarker markers = false) :
    (struct.fieldSteps markers field).filterMap AssemblyStep.marker? = [] := by
  rcases field.isReadable_or markers with hr | ⟨e, he⟩
  · cases hl : field.isLive markers with
    | false =>
      rw [fieldSteps_of_not_live hl]
      rfl
    | true =>
      have hm : field.isMarker markers = false := h.resolve_left (by simp [hl])
      rw [fieldSteps_of_not_marker hr hl hm, List.filterMap_map]
      simp [marker?_nameStep]
  · rw [fieldSteps_of_unreadable he]
    rfl

end Steps

/-! ### What all steps give -/

theorem readColumns_eq {markers : Markers} {struct : StructDecl}
    (h : ∀ step ∈ struct.steps markers, step.isRefused = false) :
    struct.readColumns markers = struct.denotedColumns markers := by
  simp only [readColumns, denotedColumns, liveFields, steps] at h ⊢
  generalize struct.fields = fields at h
  induction fields with
  | nil => rfl
  | cons field rest ih =>
    rw [List.flatMap_cons, List.forall_mem_append] at h
    rw [List.flatMap_cons, List.filterMap_append, columns_fieldSteps h.1, ih h.2]
    cases hl : field.isLive markers <;> cases hm : field.isMarker markers <;> simp [hl, hm]

theorem readMarker?_eq {markers : Markers} {struct : StructDecl}
    (h : ∀ step ∈ struct.steps markers, step.isRefused = false) :
    struct.readMarker? markers = (struct.lastMarker? markers).bind fun field =>
      (SchemaTag.entity struct.name (field.schemaTag markers)).toOption := by
  simp only [readMarker?, lastMarker?, liveFields, steps] at h ⊢
  generalize struct.fields = fields at h
  induction fields using List.reverseRecOn with
  | nil => rfl
  | append_singleton before field ih =>
    rw [List.flatMap_append, List.forall_mem_append, List.flatMap_singleton] at h
    rw [List.flatMap_append, List.flatMap_singleton, List.filterMap_append, List.filter_append,
      List.filter_append]
    by_cases hm : field.isLive markers = true ∧ field.isMarker markers = true
    · obtain ⟨name, key, hentity, hstep⟩ := entity_of_marker hm.1 hm.2 h.2
      rw [hstep]
      simp [hm.1, hm.2, hentity, AssemblyStep.marker?, Except.toOption]
    · have hnone : field.isLive markers = false ∨ field.isMarker markers = false := by
        simpa [imp_iff_not_or] using hm
      rw [markers_of_not_marker hnone, List.append_nil, ih h.1]
      rcases hnone with hl | hm
      · simp [hl]
      · cases hl : field.isLive markers <;> simp [hl, hm]

/-! ### The main statement -/

theorem resolve_assembled {struct : StructDecl} {name : Text} {columns : List Column}
    {marker : Option (Text × PrimaryKey)} (hfields : (columns.map (·.field)).Nodup)
    {reference : Text} (h : Name.isValid reference = true) :
    (struct.assembled name columns marker).resolve reference =
      Column.ofReference columns reference := by
  have hentries : (NameTable.ofPairs (columns.map fun c => (c.field, c.name))).entries =
      columns.map fun c => (c.field, c.name) :=
    NameTable.entries_ofPairs (by rw [List.map_map]; exact hfields)
  have hnormal : Name.normalize reference = .ok (Text.toLower reference) :=
    Name.normalize_eq_ok_iff.2 ⟨h, rfl⟩
  simp only [Entity.resolve, assembled, Column.ofReference, hnormal]
  cases hfind : columns.find? (·.field = reference) with
  | some c =>
    have hc : c.field = reference := by simpa using List.find?_some hfind
    have hget : (NameTable.ofPairs (columns.map fun c => (c.field, c.name))).get? reference =
        some c.name := by
      rw [NameTable.get?_eq_some_iff, hentries, ← hc]
      exact List.mem_map_of_mem (f := fun c : Column => (c.field, c.name))
        (List.mem_of_find?_eq_some hfind)
    rw [hget]
  | none =>
    have hget : (NameTable.ofPairs (columns.map fun c => (c.field, c.name))).get? reference =
        none := by
      rw [NameTable.get?_eq_none_iff, NameTable.keys, hentries, List.map_map]
      simpa using hfind
    rw [hget]

theorem resolveKeys_assembled {struct : StructDecl} {name entityName : Text}
    {columns : List Column} {key : PrimaryKey} (hfields : (columns.map (·.field)).Nodup)
    (hvalid : ∀ n ∈ key.columns, Name.isValid n = true) :
    (struct.assembled name columns (some (entityName, key))).resolveKeys =
      struct.assembled name columns
        (some (entityName, key.rename (Column.ofReference columns))) := by
  have hkey : (struct.assembled name columns (some (entityName, key))).resolveKey key =
      key.rename (Column.ofReference columns) := by
    simp only [PrimaryKey.columns, List.forall_mem_append, List.forall_mem_map] at hvalid
    simp only [Entity.resolveKey, PrimaryKey.rename, PrimaryKey.mk.injEq]
    exact ⟨List.map_congr_left fun n hn => resolve_assembled hfields (hvalid.1 n hn),
      List.map_congr_left fun c hc => by rw [resolve_assembled hfields (hvalid.2 c hc)]⟩
  have hdefinition : (struct.assembled name columns (some (entityName, key))).definition.key =
      some key := rfl
  rw [Entity.resolveKeys, hdefinition, Option.map_some, hkey]
  rfl

/-- What an entity that a struct declares is put together from: the columns of its live fields, and
the name and key that its last marker gives. -/
theorem exists_lastMarker_of_toEntity {markers : Markers} {struct : StructDecl} {entity : Entity}
    (h : struct.toEntity markers = .ok entity) :
    ∃ marker name entityName key, struct.lastMarker? markers = some marker ∧
      SchemaTag.entity struct.name (marker.schemaTag markers) = .ok (entityName, key) ∧
      entity = struct.assembled name (struct.denotedColumns markers)
        (some (entityName, key.rename (Column.ofReference (struct.denotedColumns markers)))) := by
  obtain ⟨name, -, hsteps, rfl, hvalid⟩ := toEntity_eq_ok_iff.1 h
  have hcoherent := coherent_of_valid hvalid
  rw [readColumns_eq hsteps, readMarker?_eq hsteps] at hcoherent ⊢
  have hfields : ((struct.denotedColumns markers).map (·.field)).Nodup := hcoherent.fields_nodup
  -- a key can only come from a marker that was read
  obtain ⟨_, hkey, -⟩ := hcoherent.key_valid
  obtain ⟨_, hmarker, -⟩ := Option.map_eq_some_iff.1 hkey
  obtain ⟨⟨entityName, key⟩, hread, -⟩ := Option.map_eq_some_iff.1 hmarker
  obtain ⟨marker, hlast, hentity⟩ := Option.bind_eq_some_iff.1 hread
  have hgiven := Fallible.toOption_eq_some.1 hentity
  obtain ⟨-, value, -, hparse⟩ := SchemaTag.entity_eq_ok hgiven
  refine ⟨marker, name, entityName, key, hlast, hgiven, ?_⟩
  rw [hread, resolveKeys_assembled hfields (PrimaryKey.valid_of_parse hparse)]

/-- An entity that a struct declares is the one that the struct denotes. -/
theorem toEntity_denotation {markers : Markers} {struct : StructDecl} {entity : Entity}
    (h : struct.toEntity markers = .ok entity) : struct.denotation? markers = some entity := by
  obtain ⟨marker, name, entityName, key, hlast, hentity, rfl⟩ := exists_lastMarker_of_toEntity h
  obtain ⟨rfl, value, hvalue, hparse⟩ := SchemaTag.entity_eq_ok hentity
  simp only [denotation?, hlast, hvalue, hparse, Option.bind_eq_bind, Option.bind_some,
    Except.toOption]
  rfl

theorem account_denotation : ∃ entity, account.toEntity {} = .ok entity ∧
    account.denotation? {} = some entity ∧
    entity.definition = {
      name := "account"
      key := some { partition := ["id", "region"], clustering := [⟨"created_at", true⟩] }
      columns := [⟨"id", .string, "ID"⟩, ⟨"region", .string, "Region"⟩,
        ⟨"created_at", .timestamp, "Created"⟩] } := by
  obtain ⟨entity, h⟩ := account_toEntity
  have hdefinition : (account.denotation? {}).map (·.definition) = some {
      name := "account"
      key := some { partition := ["id", "region"], clustering := [⟨"created_at", true⟩] }
      columns := [⟨"id", .string, "ID"⟩, ⟨"region", .string, "Region"⟩,
        ⟨"created_at", .timestamp, "Created"⟩] } := by decide +kernel
  have hdenoted := toEntity_denotation h
  rw [hdenoted] at hdefinition
  exact ⟨entity, h, hdenoted, Option.some.inj hdefinition⟩

end StructDecl

end StructSchema
