import StructSchema.Proofs.Denotation

/-!
# Fields in another order

The columns of an entity stand in the order of the fields, and nothing else about it depends on that
order, as long as the same marker stays the last. The name and the key come from this marker; the
references of the key are looked up in a table that holds the same pairs in any order, because no
valid entity has two columns for one field. Main statement: a struct with its fields in another
order declares an entity exactly if it did before, and the two differ in the order of their columns
only.
-/

namespace StructSchema

/-! ### Entities in another order -/

/-- Whether two entities agree in all but the order of their columns and of the entries of their
tables. -/
structure Entity.Reordered (a b : Entity) : Prop where
  struct_eq : a.struct = b.struct
  file_eq : a.file = b.file
  line_eq : a.line = b.line
  name_eq : a.definition.name = b.definition.name
  key_eq : a.definition.key = b.definition.key
  columns_perm : a.definition.columns.Perm b.definition.columns
  fieldOfColumn_eq : ∀ column, a.fieldOfColumn.get? column = b.fieldOfColumn.get? column
  columnOfField_eq : ∀ field, a.columnOfField.get? field = b.columnOfField.get? field

namespace Entity

variable {a b : Entity}

theorem resolveKey_congr
    (h : ∀ field, a.columnOfField.get? field = b.columnOfField.get? field) (key : PrimaryKey) :
    a.resolveKey key = b.resolveKey key := by
  have hresolve : a.resolve = b.resolve := by
    funext reference
    simp only [resolve, h]
  simp only [resolveKey, hresolve]

theorem Reordered.valid (h : Reordered a b) (hb : b.Valid) : a.Valid := by
  obtain ⟨⟨hname, hne, hnames, hnodup, htypes, hkey⟩, htables⟩ := hb
  have hcolumnNames : a.definition.columnNames.Perm b.definition.columnNames :=
    h.columns_perm.map _
  refine ⟨⟨?_, ?_, ?_, ?_, ?_, ?_⟩, ?_⟩
  · rw [h.name_eq]
    exact hname
  · intro hnil
    have hperm := h.columns_perm
    rw [hnil] at hperm
    exact hne hperm.nil_eq.symm
  · intro c hc
    exact hnames c (h.columns_perm.subset hc)
  · exact hcolumnNames.nodup_iff.2 hnodup
  · intro c hc
    exact htypes c (h.columns_perm.subset hc)
  · obtain ⟨key, hk, hpartition, hdistinct, hknown⟩ := hkey
    refine ⟨key, h.key_eq.trans hk, hpartition, hdistinct, fun k hm => ?_⟩
    exact hcolumnNames.symm.subset (hknown k hm)
  · intro column field
    rw [h.fieldOfColumn_eq, h.columnOfField_eq]
    exact htables column field

end Entity

/-! ### Structs in another order -/

namespace StructDecl

variable {markers : Markers} {fields : List FieldDecl}

/-- Columns with distinct names and fields make up the same entity in any order. -/
theorem reordered_assembled (struct : StructDecl) (name : Text)
    (marker : Option (Text × PrimaryKey)) {columns others : List Column} (h : others.Perm columns)
    (hnames : (columns.map (·.name)).Nodup) (hfields : (columns.map (·.field)).Nodup) :
    (struct.assembled name others marker).resolveKeys.Reordered
      (struct.assembled name columns marker).resolveKeys := by
  have hcolumnOfField : ∀ field,
      (struct.assembled name others marker).columnOfField.get? field =
        (struct.assembled name columns marker).columnOfField.get? field :=
    NameTable.get?_ofPairs_perm (h.map _) (by rw [List.map_map]; exact hfields)
  have hfieldOfColumn : ∀ column,
      (struct.assembled name others marker).fieldOfColumn.get? column =
        (struct.assembled name columns marker).fieldOfColumn.get? column :=
    NameTable.get?_ofPairs_perm (h.map _) (by rw [List.map_map]; exact hnames)
  have hkey : (struct.assembled name others marker).resolveKeys.definition.key =
      (struct.assembled name columns marker).resolveKeys.definition.key := by
    cases marker with
    | none => rfl
    | some given => exact congrArg some (Entity.resolveKey_congr hcolumnOfField given.2)
  exact ⟨rfl, rfl, rfl, rfl, hkey, h, hfieldOfColumn, hcolumnOfField⟩

/-- A struct that declares an entity still does with its fields in another order, if its last marker
stays the last. -/
theorem exists_reordered_of_toEntity (struct : StructDecl) {entity : Entity}
    (hperm : fields.Perm struct.fields)
    (hlast : ({ struct with fields }).lastMarker? markers = struct.lastMarker? markers)
    (h : struct.toEntity markers = .ok entity) :
    ∃ other, ({ struct with fields }).toEntity markers = .ok other ∧ other.Reordered entity := by
  obtain ⟨name, hname, hsteps, rfl, hvalid⟩ := toEntity_eq_ok_iff.1 h
  have hcoherent := coherent_of_valid hvalid
  have hpermSteps : (({ struct with fields }).steps markers).Perm (struct.steps markers) :=
    hperm.flatMap_right _
  have hothers : ∀ step ∈ ({ struct with fields }).steps markers, step.isRefused = false :=
    fun step hstep => hsteps step (hpermSteps.subset hstep)
  have hcolumns :
      (({ struct with fields }).readColumns markers).Perm (struct.readColumns markers) :=
    hpermSteps.filterMap _
  have hmarker : ({ struct with fields }).readMarker? markers = struct.readMarker? markers := by
    rw [readMarker?_eq hothers, readMarker?_eq hsteps, hlast]
  have hreordered := reordered_assembled struct name (struct.readMarker? markers) hcolumns
    hcoherent.columnNames_nodup hcoherent.fields_nodup
  refine ⟨_, toEntity_eq_ok_iff.2 ⟨name, hname, hothers, rfl, ?_⟩, ?_⟩
  · rw [hmarker]
    exact hreordered.valid hvalid
  · rw [hmarker]
    exact hreordered

/-- The order of fields decides on the order of columns and, if the last marker stays the last, on
nothing else. -/
theorem toEntity_reordered {struct : StructDecl} (hperm : fields.Perm struct.fields)
    (hlast : ({ struct with fields }).lastMarker? markers = struct.lastMarker? markers) :
    ((∃ other, ({ struct with fields }).toEntity markers = .ok other) ↔
      ∃ entity, struct.toEntity markers = .ok entity) ∧
    ∀ entity other, struct.toEntity markers = .ok entity →
      ({ struct with fields }).toEntity markers = .ok other → other.Reordered entity := by
  refine ⟨⟨?_, ?_⟩, ?_⟩
  · rintro ⟨other, h⟩
    obtain ⟨entity, hentity, -⟩ :=
      exists_reordered_of_toEntity { struct with fields } hperm.symm hlast.symm h
    exact ⟨entity, hentity⟩
  · rintro ⟨entity, h⟩
    obtain ⟨other, hother, -⟩ := exists_reordered_of_toEntity struct hperm hlast h
    exact ⟨other, hother⟩
  · intro entity other h hother
    obtain ⟨found, hfound, hreordered⟩ := exists_reordered_of_toEntity struct hperm hlast h
    rw [hother] at hfound
    cases hfound
    exact hreordered

/-- The columns change places with each other and with both markers, which keep their order. -/
theorem account_reordered :
    let fields : List FieldDecl := [3, 0, 2, 4, 1].filterMap (account.fields[·]?)
    fields.Perm account.fields ∧
      ({ account with fields }).lastMarker? {} = account.lastMarker? {} ∧
      ∃ entity other, account.toEntity {} = .ok entity ∧
        ({ account with fields }).toEntity {} = .ok other ∧ other.Reordered entity := by
  intro fields
  have hperm : fields.Perm account.fields := by decide +kernel
  have hlast : ({ account with fields }).lastMarker? {} = account.lastMarker? {} := by
    decide +kernel
  have hmain := toEntity_reordered hperm hlast
  obtain ⟨entity, h⟩ := account_toEntity
  obtain ⟨other, hother⟩ := hmain.1.2 ⟨entity, h⟩
  exact ⟨hperm, hlast, entity, other, h, hother, hmain.2 entity other h hother⟩

end StructDecl

end StructSchema
