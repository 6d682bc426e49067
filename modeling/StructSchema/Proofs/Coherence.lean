import StructSchema.Proofs.Assembly

/-!
# Coherent entities

The two tables of an entity are kept beside its columns and are never compared with them by the
check. Main statement: in every entity that a struct declares they are nevertheless the graph of
the columns, with distinct names on both sides.
-/

namespace StructSchema

/-- An entity that is valid and whose tables have one entry for each column and no other. -/
structure Entity.Coherent (entity : Entity) : Prop where
  name_valid : Name.isValid entity.definition.name = true
  columns_ne_nil : entity.definition.columns ≠ []
  columnNames_valid : ∀ c ∈ entity.definition.columns, Name.isValid c.name = true
  types_mapped : ∀ c ∈ entity.definition.columns, c.type ≠ .invalid
  columnNames_nodup : (entity.definition.columns.map (·.name)).Nodup
  fields_nodup : (entity.definition.columns.map (·.field)).Nodup
  tables_inverse : ∀ column field, entity.fieldOfColumn.get? column = some field ↔
    entity.columnOfField.get? field = some column
  fieldOfColumn_entries :
    entity.fieldOfColumn.entries = entity.definition.columns.map fun c => (c.name, c.field)
  columnOfField_entries :
    entity.columnOfField.entries = entity.definition.columns.map fun c => (c.field, c.name)
  key_valid : ∃ key, entity.definition.key = some key ∧ key.partition ≠ [] ∧ key.columns.Nodup ∧
    ∀ k ∈ key.columns, k ∈ entity.definition.columns.map (·.name)

/-- The tables of columns with distinct names read each other backwards exactly if the fields of
the columns are distinct too. -/
theorem tables_inverse_iff {columns : List Column} (hn : (columns.map (·.name)).Nodup) :
    (∀ column field,
        (NameTable.ofPairs (columns.map fun c => (c.name, c.field))).get? column = some field ↔
          (NameTable.ofPairs (columns.map fun c => (c.field, c.name))).get? field = some column) ↔
      (columns.map (·.field)).Nodup := by
  have hkeys : ((columns.map fun c => (c.name, c.field)).map (·.1)).Nodup := by
    rw [List.map_map]
    exact hn
  have h := NameTable.ofPairs_swap_iff hkeys
  rw [List.map_map, List.map_map] at h
  exact h

namespace StructDecl

/-- What the check of an assembled entity leaves open follows from how it is assembled. -/
theorem coherent_of_valid {struct : StructDecl} {name : Text} {columns : List Column}
    {marker : Option (Text × PrimaryKey)}
    (h : (struct.assembled name columns marker).resolveKeys.Valid) :
    (struct.assembled name columns marker).resolveKeys.Coherent := by
  obtain ⟨⟨hname, hne, hnames, hnodup, htypes, hkey⟩, htables⟩ := h
  have hfields := (tables_inverse_iff hnodup).1 htables
  exact {
    name_valid := hname
    columns_ne_nil := hne
    columnNames_valid := hnames
    types_mapped := htypes
    columnNames_nodup := hnodup
    fields_nodup := hfields
    tables_inverse := htables
    fieldOfColumn_entries := NameTable.entries_ofPairs (by rw [List.map_map]; exact hnodup)
    columnOfField_entries := NameTable.entries_ofPairs (by rw [List.map_map]; exact hfields)
    key_valid := hkey }

/-- Every entity that a struct declares is coherent. -/
theorem toEntity_coherent {markers : Markers} {struct : StructDecl} {entity : Entity}
    (h : struct.toEntity markers = .ok entity) : entity.Coherent := by
  obtain ⟨name, -, -, rfl, hvalid⟩ := toEntity_eq_ok_iff.1 h
  exact coherent_of_valid hvalid

/-- A struct with two markers, of which the second counts, a private name and an ignored field, two
names in one declaration, and a key that refers to a renamed field and, in another letter case, to
a column. -/
def account : StructDecl where
  name := "Account"
  fields := [
    { names := [], shape := .identifier (some "Entity"), typeText := "Entity",
      tag := some "dosa:\"name=ledger primaryKey=Region\"" },
    { names := ["ID", "Region", "note"], shape := .identifier (some "string"),
      typeText := "string" },
    { names := ["Cache"], shape := .other, typeText := "map[string]int", tag := some "dosa:\"-\"" },
    { names := ["Created"], shape := .qualified (some "time") (some "Time"),
      typeText := "time.Time", tag := some "json:\"c\" dosa:\"name=created_at\"" },
    { names := [], shape := .qualified (some "dosa") (some "Entity"), typeText := "dosa.Entity",
      tag := some "dosa:\"primaryKey=((ID, region), Created DESC)\"" }]

theorem account_toEntity : ∃ entity, account.toEntity {} = .ok entity :=
  Fallible.exists_eq_ok_of_isOk (by decide +kernel)

theorem account_coherent : ∃ entity, account.toEntity {} = .ok entity ∧ entity.Coherent := by
  obtain ⟨entity, h⟩ := account_toEntity
  exact ⟨entity, h, toEntity_coherent h⟩

end StructDecl

end StructSchema
