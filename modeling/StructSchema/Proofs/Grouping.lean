import StructSchema.Proofs.HiddenField

/-!
# Grouped names

A declaration that binds several names to one type says no more than one declaration for each of
these names. A field that is left out takes no step in either form. A marker is read once in the one
form and once for each name in the other, and whatever a step does that gives no column, it does
only once. The names of any other field give their steps one by one. Main statement: a struct comes
to the same entity or to the same error, whether the names of a field are grouped or stand
alone.
-/

namespace StructSchema

/-- The declarations that bind the names of a field one by one. -/
def FieldDecl.separate (field : FieldDecl) : List FieldDecl :=
  field.names.map fun name => { field with names := [name] }

/-! ### Steps taken again -/

namespace Entity

theorem applyStep_again (entity : Entity) {step : AssemblyStep} (h : step.column? = none) :
    (entity.applyStep step >>= fun next => next.applyStep step) = entity.applyStep step := by
  cases step with
  | ignored field => rfl
  | unexported name => rfl
  | marker name key => rfl
  | column c => cases h
  | refused error => rfl

theorem run_again (entity : Entity) {step : AssemblyStep} (h : step.column? = none) (times : Nat) :
    (List.replicate (times + 1) step).foldlM applyStep entity = entity.applyStep step := by
  induction times generalizing entity with
  | zero =>
    rw [List.replicate_one, List.foldlM_cons]
    cases entity.applyStep step <;> rfl
  | succ times ih =>
    have hrest : (fun next : Entity => (List.replicate (times + 1) step).foldlM applyStep next) =
        fun next => next.applyStep step := by
      funext next
      exact ih next
    rw [List.replicate_succ, List.foldlM_cons, hrest, applyStep_again entity h]

end Entity

/-! ### Fields in both forms -/

namespace StructDecl

variable {markers : Markers} {field : FieldDecl}

theorem isHidden_of_not_live (h : field.isLive markers = false) : field.IsHidden markers :=
  .ignored (Decidable.not_not.1 (of_decide_eq_false h))

theorem separate_of_not_live (struct : StructDecl) (h : field.isLive markers = false) :
    ∀ step ∈ field.separate.flatMap (struct.fieldSteps markers), step.isIdle = true := by
  intro step hstep
  obtain ⟨alone, halone, hstep⟩ := List.mem_flatMap.1 hstep
  obtain ⟨name, -, rfl⟩ := List.mem_map.1 halone
  have hnot : ({ field with names := [name] }).isLive markers = false := h
  exact struct.isIdle_of_isHidden (isHidden_of_not_live hnot) step hstep

theorem separate_of_marker (struct : StructDecl) {name : Text} {key : PrimaryKey}
    (hreadable : field.IsReadable markers) (hlive : field.isLive markers = true)
    (hmarker : field.isMarker markers = true)
    (hentity : SchemaTag.entity struct.name (field.schemaTag markers) = .ok (name, key)) :
    field.separate.flatMap (struct.fieldSteps markers) =
      List.replicate field.names.length (.marker name key) := by
  have halone : ∀ n : Text, struct.fieldSteps markers { field with names := [n] } =
      [.marker name key] := fun n => fieldSteps_of_marker hreadable hlive hmarker hentity
  rw [FieldDecl.separate, List.flatMap_map]
  induction field.names with
  | nil => rfl
  | cons n names ih =>
    rw [List.flatMap_cons, halone, ih, List.length_cons, List.replicate_succ, List.singleton_append]

theorem separate_of_not_marker (struct : StructDecl) (hreadable : field.IsReadable markers)
    (hlive : field.isLive markers = true) (hmarker : field.isMarker markers = false) :
    field.separate.flatMap (struct.fieldSteps markers) = struct.fieldSteps markers field := by
  have halone : ∀ n : Text, struct.fieldSteps markers { field with names := [n] } =
      [struct.nameStep field (field.typeLabel markers) (field.schemaTag markers) n] :=
    fun n => fieldSteps_of_not_marker hreadable hlive hmarker
  rw [FieldDecl.separate, List.flatMap_map, fieldSteps_of_not_marker hreadable hlive hmarker]
  simp only [halone, List.map_eq_flatMap]

/-- The steps of a field come to the same, whether its names are grouped or stand alone. -/
theorem run_separate (struct : StructDecl) (h : field.names ≠ []) (entity : Entity) :
    (field.separate.flatMap (struct.fieldSteps markers)).foldlM Entity.applyStep entity =
      (struct.fieldSteps markers field).foldlM Entity.applyStep entity := by
  obtain ⟨first, others, hnames⟩ := List.exists_cons_of_ne_nil h
  rcases field.isReadable_or markers with hreadable | ⟨e, he⟩
  case inr =>
    -- both forms fail at once, and with the same error
    have hfirst : struct.fieldSteps markers { field with names := [first] } =
        [.refused (.unreadable e)] := fieldSteps_of_unreadable he
    rw [FieldDecl.separate, hnames, List.map_cons, List.flatMap_cons, hfirst,
      fieldSteps_of_unreadable he]
    rfl
  cases hlive : field.isLive markers with
  | false =>
    rw [entity.run_of_isIdle (struct.separate_of_not_live hlive),
      entity.run_of_isIdle (struct.isIdle_of_isHidden (isHidden_of_not_live hlive))]
  | true =>
    cases hmarker : field.isMarker markers with
    | false => rw [struct.separate_of_not_marker hreadable hlive hmarker]
    | true =>
      cases hentity : SchemaTag.entity struct.name (field.schemaTag markers) with
      | ok given =>
        have honce : ∀ times, (List.replicate (times + 1) (.marker given.1 given.2)).foldlM
            Entity.applyStep entity = entity.applyStep (.marker given.1 given.2) :=
          entity.run_again rfl
        rw [struct.separate_of_marker hreadable hlive hmarker hentity,
          fieldSteps_of_marker hreadable hlive hmarker hentity, hnames, List.length_cons, honce]
        exact (honce 0).symm
      | error fault =>
        -- both forms are refused at once, and the refusal is laid to the first name
        have hfirst : struct.fieldSteps markers { field with names := [first] } =
            [.refused (.rejected (struct.rejectAt field first (.badEntityTag fault)))] :=
          fieldSteps_of_bad_marker hreadable hlive hmarker hentity
        rw [FieldDecl.separate, hnames, List.map_cons, List.flatMap_cons, hfirst,
          fieldSteps_of_bad_marker hreadable hlive hmarker hentity, hnames]
        rfl

/-- Whether the names of a field are bound by one declaration or by one each makes no difference to
what a struct comes to. -/
theorem toEntity_separate (h : field.names ≠ []) (struct : StructDecl)
    (before after : List FieldDecl) :
    ({ struct with fields := before ++ field.separate ++ after }).toEntity markers =
      ({ struct with fields := before ++ field :: after }).toEntity markers := by
  apply toEntity_congr
  intro entity
  have hfield : ∀ entity : Entity,
      (field.separate.flatMap (struct.fieldSteps markers)).foldlM Entity.applyStep entity =
        (struct.fieldSteps markers field).foldlM Entity.applyStep entity := struct.run_separate h
  rw [List.append_assoc, List.flatMap_append, List.flatMap_append, List.flatMap_append,
    List.flatMap_cons]
  simp only [List.foldlM_append, hfield]

/-- A struct whose marker binds two names, and whose columns share the name that their tag gives. -/
def parcel : StructDecl where
  name := "Parcel"
  file := some "p.go"
  line := some 3
  fields := [
    { names := ["Meta", "Rest"], shape := .identifier (some "Entity"), typeText := "Entity",
      tag := some "dosa:\"primaryKey=Width\"", line := some 4 },
    { names := ["weight", "Width", "Height"], shape := .identifier (some "int64"),
      typeText := "int64", tag := some "dosa:\"name=size\"", line := some 5 }]

/-- With five declarations in the place of the two, the second column of the name is still the one
that the struct is rejected for. -/
theorem parcel_separate :
    let r := EntityError.rejected (parcel.reject (.invalid (.duplicateColumn "size")))
    (∀ field ∈ parcel.fields, field.names ≠ []) ∧ parcel.toEntity {} = .error r ∧
      ({ parcel with fields := parcel.fields.flatMap FieldDecl.separate }).toEntity {} =
        .error r := by
  intro r
  have hnames : ∀ field ∈ parcel.fields, field.names ≠ [] := by decide
  have h : parcel.toEntity {} = .error r := Fallible.error?_eq_some.1 (by decide +kernel)
  let marker : FieldDecl := parcel.fields[0]
  let sizes : FieldDecl := parcel.fields[1]
  have hmarker : ({ parcel with fields := marker.separate ++ [sizes] }).toEntity {} =
      parcel.toEntity {} := toEntity_separate (hnames marker (List.getElem_mem _)) parcel [] [sizes]
  have hsizes : ({ parcel with fields := marker.separate ++ sizes.separate ++ [] }).toEntity {} =
      ({ parcel with fields := marker.separate ++ [sizes] }).toEntity {} :=
    toEntity_separate (hnames sizes (List.getElem_mem _)) parcel marker.separate []
  exact ⟨hnames, h, hsizes.trans (hmarker.trans h)⟩

end StructDecl

end StructSchema
