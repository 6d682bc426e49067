import StructSchema.Assembly
import StructSchema.Proofs.Validity

/-!
# Assembled entities

What the steps of a struct come to. A step that is no refusal adds at most one column and
replaces at most the marker; hence a run of steps leads to the entity of all columns read and of
the last marker, with tables that are put together column by column. Main statement: an entity
that a struct declares is coherent: it is valid, and its tables are the graph of its columns.
-/

namespace StructSchema

/-! ### What a step gives -/

namespace AssemblyStep

def isRefused : AssemblyStep → Bool
  | .refused _ => true
  | _ => false

def refusal? : AssemblyStep → Option EntityError
  | .refused error => some error
  | _ => none

def column? : AssemblyStep → Option Column
  | .column c => some c
  | _ => none

def marker? : AssemblyStep → Option (Text × PrimaryKey)
  | .marker name key => some (name, key)
  | _ => none

theorem refusal?_eq_none_iff {step : AssemblyStep} :
    step.refusal? = none ↔ step.isRefused = false := by
  cases step <;> simp [refusal?, isRefused]

end AssemblyStep

/-! ### Runs of steps -/

namespace StructDecl

/-- The entity of a struct from columns in order and perhaps a marker; without one it has the
given name. -/
def assembled (struct : StructDecl) (name : Text) (columns : List Column)
    (marker : Option (Text × PrimaryKey)) : Entity where
  struct := struct.name
  definition := { name := (marker.map (·.1)).getD name, key := marker.map (·.2), columns }
  fieldOfColumn := .ofPairs (columns.map fun c => (c.name, c.field))
  columnOfField := .ofPairs (columns.map fun c => (c.field, c.name))
  file := struct.file
  line := struct.line

theorem emptyEntity_eq (struct : StructDecl) (name : Text) :
    struct.emptyEntity name = struct.assembled name [] none := rfl

theorem addColumn_assembled (struct : StructDecl) (name : Text) (columns : List Column)
    (marker : Option (Text × PrimaryKey)) (c : Column) :
    (struct.assembled name columns marker).addColumn c =
      struct.assembled name (columns ++ [c]) marker := by
  simp only [assembled, Entity.addColumn, List.map_append, List.map_cons, List.map_nil,
    NameTable.ofPairs_append_singleton]

theorem applyStep_assembled (struct : StructDecl) (name : Text) (columns : List Column)
    (marker : Option (Text × PrimaryKey)) {step : AssemblyStep} (h : step.isRefused = false) :
    (struct.assembled name columns marker).applyStep step =
      .ok (struct.assembled name (columns ++ step.column?.toList) (step.marker?.or marker)) := by
  cases step with
  | ignored field => simp [Entity.applyStep, AssemblyStep.column?, AssemblyStep.marker?]
  | unexported field => simp [Entity.applyStep, AssemblyStep.column?, AssemblyStep.marker?]
  | marker markerName key =>
    simp [Entity.applyStep, AssemblyStep.column?, AssemblyStep.marker?, assembled]
  | column c =>
    simp [Entity.applyStep, AssemblyStep.column?, AssemblyStep.marker?, addColumn_assembled]
  | refused error => simp [AssemblyStep.isRefused] at h

theorem run_assembled (struct : StructDecl) (name : Text) (columns : List Column)
    (marker : Option (Text × PrimaryKey)) {steps : List AssemblyStep}
    (h : ∀ step ∈ steps, step.isRefused = false) :
    steps.foldlM Entity.applyStep (struct.assembled name columns marker) =
      .ok (struct.assembled name (columns ++ steps.filterMap AssemblyStep.column?)
        ((steps.filterMap AssemblyStep.marker?).getLast?.or marker)) := by
  induction steps generalizing columns marker with
  | nil => simp
  | cons step rest ih =>
    obtain ⟨hstep, hrest⟩ := List.forall_mem_cons.1 h
    rw [List.foldlM_cons, applyStep_assembled struct name columns marker hstep, Fallible.ok_bind,
      ih _ _ hrest]
    have hcolumns : columns ++ step.column?.toList ++ rest.filterMap AssemblyStep.column? =
        columns ++ (step :: rest).filterMap AssemblyStep.column? := by
      rw [List.filterMap_cons]
      cases step.column? <;> simp
    have hmarker : (rest.filterMap AssemblyStep.marker?).getLast?.or (step.marker?.or marker) =
        ((step :: rest).filterMap AssemblyStep.marker?).getLast?.or marker := by
      rw [List.filterMap_cons]
      cases step.marker? with
      | none => simp
      | some m => simp [List.getLast?_cons]
    rw [hcolumns, hmarker]

theorem not_isRefused_of_run {steps : List AssemblyStep} {e e' : Entity}
    (h : steps.foldlM Entity.applyStep e = .ok e') : ∀ step ∈ steps, step.isRefused = false := by
  induction steps generalizing e with
  | nil => simp
  | cons step rest ih =>
    rw [List.foldlM_cons] at h
    obtain ⟨next, hstep, hrest⟩ := Fallible.bind_eq_ok.1 h
    refine List.forall_mem_cons.2 ⟨?_, ih hrest⟩
    cases step with
    | refused error => simp [Entity.applyStep] at hstep
    | _ => rfl

/-- A run of steps fails with the first error among them. -/
theorem run_eq_error_iff {steps : List AssemblyStep} {entity : Entity} {failure : EntityError} :
    steps.foldlM Entity.applyStep entity = .error failure ↔
      steps.findSome? AssemblyStep.refusal? = some failure := by
  induction steps generalizing entity with
  | nil => simp
  | cons step rest ih =>
    rw [List.foldlM_cons, List.findSome?_cons]
    cases step with
    | refused error => simp [Entity.applyStep, AssemblyStep.refusal?]
    | ignored field => exact ih
    | unexported name => exact ih
    | marker name key => exact ih
    | column column => exact ih

/-! ### Declared entities -/

def readColumns (markers : Markers) (struct : StructDecl) : List Column :=
  (struct.steps markers).filterMap AssemblyStep.column?

def readMarker? (markers : Markers) (struct : StructDecl) : Option (Text × PrimaryKey) :=
  ((struct.steps markers).filterMap AssemblyStep.marker?).getLast?

theorem run_steps {markers : Markers} {struct : StructDecl} (name : Text)
    (h : ∀ step ∈ struct.steps markers, step.isRefused = false) :
    (struct.steps markers).foldlM Entity.applyStep (struct.emptyEntity name) =
      .ok (struct.assembled name (struct.readColumns markers) (struct.readMarker? markers)) := by
  rw [emptyEntity_eq, run_assembled struct name [] none h]
  simp only [List.nil_append, Option.or_none]
  rfl

/-- A struct declares an entity exactly if its name is usable, no step is a refusal and the
entity put together from the steps is valid. -/
theorem toEntity_eq_ok_iff {markers : Markers} {struct : StructDecl} {entity : Entity} :
    struct.toEntity markers = .ok entity ↔
      ∃ name, Name.normalize struct.name = .ok name ∧
        (∀ step ∈ struct.steps markers, step.isRefused = false) ∧
        entity = (struct.assembled name (struct.readColumns markers)
          (struct.readMarker? markers)).resolveKeys ∧
        entity.Valid := by
  rw [toEntity]
  simp only [Fallible.bind_eq_ok, Fallible.mapError_eq_ok, Fallible.pure_eq_ok, Except.ok.injEq]
  constructor
  · rintro ⟨name, hname, e, hsteps, ⟨⟩, hcheck, rfl⟩
    have hn := not_isRefused_of_run hsteps
    rw [run_steps name hn] at hsteps
    cases hsteps
    exact ⟨name, hname, hn, rfl, (Entity.check_eq_ok_iff _).1 hcheck⟩
  · rintro ⟨name, hname, hn, rfl, hvalid⟩
    exact ⟨name, hname, _, run_steps name hn, (), (Entity.check_eq_ok_iff _).2 hvalid, rfl⟩

end StructDecl

end StructSchema
