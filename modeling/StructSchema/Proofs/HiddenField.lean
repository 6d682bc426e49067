import StructSchema.Proofs.Denotation

/-!
# Fields outside the schema

A field that its tag leaves out takes no part in an entity, whatever its type, and neither does a
field that is no marker and exports no name, whatever its type and whatever stands under the tag
key. All that such a field gives are steps that leave the entity as it is. Main statement: it may
stand anywhere among the fields of a struct or be missing, and the struct declares the same entity
or fails with the same error. The value under the tag key is looked up first, though, and a field
for which that fails is not hidden.
-/

namespace StructSchema

/-! ### Idle steps -/

def AssemblyStep.isIdle : AssemblyStep → Bool
  | .ignored _ => true
  | .unexported _ => true
  | _ => false

theorem Entity.applyStep_of_isIdle (entity : Entity) {step : AssemblyStep}
    (h : step.isIdle = true) : entity.applyStep step = .ok entity := by
  cases step with
  | ignored field => rfl
  | unexported name => rfl
  | marker name key => cases h
  | column column => cases h
  | refused rejection => cases h

theorem Entity.run_of_isIdle (entity : Entity) {steps : List AssemblyStep}
    (h : ∀ step ∈ steps, step.isIdle = true) :
    steps.foldlM Entity.applyStep entity = .ok entity := by
  induction steps with
  | nil => rfl
  | cons step rest ih =>
    obtain ⟨hstep, hrest⟩ := List.forall_mem_cons.1 h
    rw [List.foldlM_cons, entity.applyStep_of_isIdle hstep, Fallible.ok_bind, ih hrest]

/-! ### Hidden fields -/

/-- Whether a field is outside the schema: its tag leaves it out, or its tag can be read, it is no
marker, and none of its names is exported. -/
inductive FieldDecl.IsHidden (markers : Markers) (field : FieldDecl) : Prop
  | ignored (h : field.schemaTag markers = "-")
  | unexported (hreadable : field.IsReadable markers)
    (hmarker : field.typeLabel markers ≠ markers.entityType)
    (hnames : ∀ name ∈ field.names, isExported name = false)

namespace StructDecl

variable {markers : Markers} {field : FieldDecl}

theorem isIdle_of_isHidden (struct : StructDecl) (h : field.IsHidden markers) :
    ∀ step ∈ struct.fieldSteps markers field, step.isIdle = true := by
  intro step hstep
  cases hlive : field.isLive markers with
  | false =>
    rw [fieldSteps_of_not_live hlive, List.mem_singleton] at hstep
    subst hstep
    rfl
  | true =>
    cases h with
    | ignored htag =>
      rw [FieldDecl.isLive, htag] at hlive
      cases hlive
    | unexported hreadable hmarker hnames =>
      have hnot : field.isMarker markers = false := decide_eq_false hmarker
      rw [fieldSteps_of_not_marker hreadable hlive hnot] at hstep
      obtain ⟨name, hname, rfl⟩ := List.mem_map.1 hstep
      simp only [nameStep, hnames name hname, Bool.not_false, if_true]
      rfl

/-- What a struct comes to depends on its fields by the runs over their steps alone. -/
theorem toEntity_congr (struct : StructDecl) {fields others : List FieldDecl}
    (h : ∀ entity, (fields.flatMap (struct.fieldSteps markers)).foldlM Entity.applyStep entity =
      (others.flatMap (struct.fieldSteps markers)).foldlM Entity.applyStep entity) :
    ({ struct with fields := fields }).toEntity markers =
      ({ struct with fields := others }).toEntity markers := by
  have hfields : ({ struct with fields := fields }).steps markers =
      fields.flatMap (struct.fieldSteps markers) := rfl
  have hothers : ({ struct with fields := others }).steps markers =
      others.flatMap (struct.fieldSteps markers) := rfl
  simp only [toEntity, hfields, hothers, h]
  rfl

/-- A field outside the schema changes nothing, wherever it stands. -/
theorem toEntity_insert_hidden (h : field.IsHidden markers) (struct : StructDecl)
    (before after : List FieldDecl) :
    ({ struct with fields := before ++ field :: after }).toEntity markers =
      ({ struct with fields := before ++ after }).toEntity markers := by
  apply toEntity_congr
  intro entity
  have hidle : ∀ entity : Entity,
      (struct.fieldSteps markers field).foldlM Entity.applyStep entity = .ok entity :=
    fun entity => entity.run_of_isIdle (struct.isIdle_of_isHidden h)
  rw [List.flatMap_append, List.flatMap_append, List.flatMap_cons, List.foldlM_append,
    List.foldlM_append]
  simp only [List.foldlM_append, hidle, Fallible.ok_bind]

/-- A private field with an unknown type and a bad tag in the middle, and behind the last marker
another one that is left out. -/
theorem account_with_hidden_fields :
    let lock : FieldDecl := { names := ["mu", "wait"], shape := .other, typeText := "chan int",
                              tag := some "dosa:\"key\"" }
    let marker : FieldDecl := { names := [], shape := .identifier (some "Entity"),
                                typeText := "Entity", tag := some "dosa:\" - \"" }
    lock.IsHidden {} ∧ marker.IsHidden {} ∧ ∃ entity, account.toEntity {} = .ok entity ∧
      ({ account with fields := account.fields.take 2 ++ lock :: account.fields.drop 2 }).toEntity
        {} = .ok entity ∧
      ({ account with fields := account.fields ++ [marker] }).toEntity {} = .ok entity := by
  intro lock marker
  have hlock : lock.IsHidden {} := .unexported (by decide +kernel) (by decide) (by decide)
  have hmarker : marker.IsHidden {} := .ignored (by decide +kernel)
  obtain ⟨entity, h⟩ := account_toEntity
  have hbetween := toEntity_insert_hidden hlock account (account.fields.take 2)
    (account.fields.drop 2)
  have hlast := toEntity_insert_hidden hmarker account account.fields []
  rw [List.take_append_drop] at hbetween
  rw [List.append_nil] at hlast
  exact ⟨hlock, hmarker, entity, h, hbetween.trans h, hlast.trans h⟩

/-- Being no marker and exporting nothing does not hide a field whose tag cannot be read. -/
theorem not_forall_toEntity_insert_private :
    ¬∀ (struct : StructDecl) (field : FieldDecl) (before after : List FieldDecl),
      field.typeLabel {} ≠ ({} : Markers).entityType →
        (∀ name ∈ field.names, isExported name = false) →
          ({ struct with fields := before ++ field :: after }).toEntity {} =
            ({ struct with fields := before ++ after }).toEntity {} := by
  intro h
  let lock : FieldDecl := {
    names := ["mu"], shape := .identifier (some "int64"), typeText := "int64"
    tag := some (Text.ofString "dosa:\"" ++ [.lone 0, .char '"']) }
  have hclaimed := h account lock account.fields [] (by decide) (by decide)
  obtain ⟨entity, hentity⟩ := account_toEntity
  rw [List.append_nil, hentity] at hclaimed
  have hbreaks : (({ account with fields := account.fields ++ [lock] }).toEntity {}).isOk =
      false := by decide +kernel
  rw [hclaimed] at hbreaks
  cases hbreaks

end StructDecl

end StructSchema
