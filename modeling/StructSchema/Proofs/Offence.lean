import StructSchema.Proofs.Denotation
import StructSchema.Proofs.TagPairs

/-!
# The first offence of a struct

A struct is judged from its name through its fields, each from its first name to its last, to the
entity that they make up. The first offence on this way decides the error and, if the struct is
rejected, where the rejection is laid. Fields that are left out and names that are not exported
cannot offend, but a tag that cannot be read can, whatever field it stands at. Main statement: a
struct fails exactly for its first offence, and fields behind the one that offends change nothing.
-/

namespace StructSchema

/-! ### Offences -/

namespace FieldDecl

/-- What is wrong with an exported name of a field that is no marker: its type has no column type,
or its tag gives it no column. -/
inductive NameOffence (markers : Markers) (field : FieldDecl) (name : Text) :
    RejectionReason → Prop
  | unmapped (hexported : isExported name = true)
    (htype : ColumnType.ofLabel (field.typeLabel markers) = .invalid) :
    NameOffence markers field name (.unmappedType name (field.typeLabel markers))
  | column {fault : TagFault} (hexported : isExported name = true)
    (htype : ColumnType.ofLabel (field.typeLabel markers) ≠ .invalid)
    (h : SchemaTag.column (.ofLabel (field.typeLabel markers)) name (field.schemaTag markers) =
      .error fault) :
    NameOffence markers field name (.badColumn name fault)

/-- What is wrong with a live field whose tag can be read, and the name that it is laid to: the tag
of a marker, laid to its first name or else to its type, or the first name of another field that
offends. -/
inductive Offence (markers : Markers) (struct : Text) (field : FieldDecl) :
    Text → RejectionReason → Prop
  | marker {fault : TagFault} (hreadable : field.IsReadable markers)
    (hlive : field.isLive markers = true) (hmarker : field.isMarker markers = true)
    (h : SchemaTag.entity struct (field.schemaTag markers) = .error fault) :
    Offence markers struct field (field.names.headD field.typeText) (.badEntityTag fault)
  | name {before after : List Text} {name : Text} {reason : RejectionReason}
    (hreadable : field.IsReadable markers)
    (hlive : field.isLive markers = true) (hmarker : field.isMarker markers = false)
    (hnames : field.names = before ++ name :: after)
    (hbefore : ∀ n ∈ before, ∀ reason, ¬field.NameOffence markers n reason)
    (h : field.NameOffence markers name reason) : Offence markers struct field name reason

end FieldDecl

namespace StructDecl

/-- The entity that the live fields of a struct make up, before it is judged; without a marker it
has the given name. -/
def collected (markers : Markers) (struct : StructDecl) (name : Text) : Entity :=
  (struct.assembled name (struct.denotedColumns markers)
    ((struct.lastMarker? markers).bind fun marker =>
      (SchemaTag.entity struct.name (marker.schemaTag markers)).toOption)).resolveKeys

/-- The error that a struct fails with at a field: that of a tag that cannot be read, or the
rejection for an offence. -/
inductive FieldError (markers : Markers) (struct : StructDecl) (field : FieldDecl) :
    EntityError → Prop
  | unreadable {e : LiteralError} (h : field.readTag markers = .error e) :
    FieldError markers struct field (.unreadable e)
  | offence {name : Text} {reason : RejectionReason}
    (h : field.Offence markers struct.name name reason) :
    FieldError markers struct field (.rejected
      { struct := struct.name, field := some name, file := struct.file,
        line := field.line.or struct.line, reason })

/-- The first offence of a struct, as the error that it leads to: its name, else the first of its
fields that fails, else the entity that they make up. -/
inductive FirstOffence (markers : Markers) (struct : StructDecl) : EntityError → Prop
  | name {e : NameError} (h : Name.normalize struct.name = .error e) :
    FirstOffence markers struct (.rejected
      { struct := struct.name, field := none, file := struct.file, line := struct.line,
        reason := .badStructName e })
  | field {before after : List FieldDecl} {field : FieldDecl} {failure : EntityError}
    (hname : Name.isValid struct.name = true)
    (hfields : struct.fields = before ++ field :: after)
    (hbefore : ∀ f ∈ before, ∀ failure, ¬struct.FieldError markers f failure)
    (h : struct.FieldError markers field failure) : FirstOffence markers struct failure
  | entity {name : Text} {e : ValidityError} (hname : Name.normalize struct.name = .ok name)
    (hfields : ∀ f ∈ struct.fields, ∀ failure, ¬struct.FieldError markers f failure)
    (h : (struct.collected markers name).check = .error e) :
    FirstOffence markers struct (.rejected
      { struct := struct.name, field := none, file := struct.file, line := struct.line,
        reason := .invalid e })

/-! ### Refused steps -/

variable {markers : Markers} {struct : StructDecl} {field : FieldDecl} {failure : EntityError}

theorem refusal?_nameStep {name : Text} :
    (struct.nameStep field (field.typeLabel markers) (field.schemaTag markers) name).refusal? =
        some failure ↔
      ∃ reason, field.NameOffence markers name reason ∧
        failure = .rejected (struct.rejectAt field name reason) := by
  rw [nameStep]
  constructor
  · intro h
    split at h
    · cases h
    rename_i hexported
    rw [Bool.not_eq_true', Bool.not_eq_false] at hexported
    split at h
    · rename_i htype
      cases h
      exact ⟨_, .unmapped hexported htype, rfl⟩
    rename_i htype
    split at h
    · cases h
    · rename_i fault hcolumn
      cases h
      exact ⟨_, .column hexported htype hcolumn, rfl⟩
  · rintro ⟨reason, hoffence, rfl⟩
    cases hoffence with
    | unmapped hexported htype =>
      simp only [hexported, htype, Bool.not_true, Bool.false_eq_true, if_false, if_true]
      rfl
    | column hexported htype h =>
      simp only [hexported, htype, h, Bool.not_true, Bool.false_eq_true, if_false]
      rfl

theorem refusal?_nameStep_eq_none {name : Text} :
    (struct.nameStep field (field.typeLabel markers) (field.schemaTag markers) name).refusal? =
        none ↔
      ∀ reason, ¬field.NameOffence markers name reason := by
  rw [Option.eq_none_iff_forall_ne_some]
  constructor
  · intro h reason hoffence
    exact h _ (refusal?_nameStep.2 ⟨reason, hoffence, rfl⟩)
  · intro h r hr
    obtain ⟨reason, hoffence, -⟩ := refusal?_nameStep.1 hr
    exact h reason hoffence

theorem refusal?_of_readable (hreadable : field.IsReadable markers) :
    (struct.fieldSteps markers field).findSome? AssemblyStep.refusal? = some failure ↔
      ∃ name reason, field.Offence markers struct.name name reason ∧
        failure = .rejected (struct.rejectAt field name reason) := by
  cases hlive : field.isLive markers with
  | false =>
    rw [fieldSteps_of_not_live hlive]
    constructor
    · intro h
      cases h
    · rintro ⟨name, reason, hoffence, -⟩
      cases hoffence with
      | marker _ h => exact absurd h (by rw [hlive]; exact Bool.false_ne_true)
      | name _ h => exact absurd h (by rw [hlive]; exact Bool.false_ne_true)
  | true =>
    cases hmarker : field.isMarker markers with
    | true =>
      constructor
      · intro h
        cases hentity : SchemaTag.entity struct.name (field.schemaTag markers) with
        | ok given =>
          rw [fieldSteps_of_marker hreadable hlive hmarker hentity] at h
          cases h
        | error fault =>
          rw [fieldSteps_of_bad_marker hreadable hlive hmarker hentity] at h
          cases h
          exact ⟨_, _, .marker hreadable hlive hmarker hentity, rfl⟩
      · rintro ⟨name, reason, hoffence, rfl⟩
        cases hoffence with
        | marker _ _ _ hentity =>
          rw [fieldSteps_of_bad_marker hreadable hlive hmarker hentity]
          rfl
        | name _ _ h => exact absurd (hmarker.symm.trans h) (by decide)
    | false =>
      -- the first refusal among the names of the field splits them as an offence does
      rw [fieldSteps_of_not_marker hreadable hlive hmarker, List.findSome?_map,
        List.findSome?_eq_some_iff]
      simp only [Function.comp_apply, refusal?_nameStep, refusal?_nameStep_eq_none]
      constructor
      · rintro ⟨before, name, after, hnames, ⟨reason, hoffence, rfl⟩, hbefore⟩
        exact ⟨name, reason, .name hreadable hlive hmarker hnames hbefore hoffence, rfl⟩
      · rintro ⟨name, reason, hoffence, rfl⟩
        cases hoffence with
        | marker _ _ h => exact absurd (hmarker.symm.trans h) (by decide)
        | name _ _ _ hnames hbefore hoffence =>
          exact ⟨_, _, _, hnames, ⟨reason, hoffence, rfl⟩, hbefore⟩

theorem not_offence_of_unreadable {e : LiteralError} (h : field.readTag markers = .error e)
    {name : Text} {reason : RejectionReason} : ¬field.Offence markers struct.name name reason := by
  have hnot : ¬field.IsReadable markers := by
    rw [FieldDecl.IsReadable, h]
    intro hok
    cases hok
  intro hoffence
  cases hoffence with
  | marker hreadable => exact hnot hreadable
  | name hreadable => exact hnot hreadable

theorem refusal?_fieldSteps :
    (struct.fieldSteps markers field).findSome? AssemblyStep.refusal? = some failure ↔
      struct.FieldError markers field failure := by
  rcases field.isReadable_or markers with hreadable | ⟨e, he⟩
  · rw [refusal?_of_readable hreadable]
    constructor
    · rintro ⟨name, reason, hoffence, rfl⟩
      exact .offence hoffence
    · intro h
      cases h with
      | unreadable h => rw [FieldDecl.IsReadable, h] at hreadable; cases hreadable
      | offence hoffence => exact ⟨_, _, hoffence, rfl⟩
  · rw [fieldSteps_of_unreadable he]
    constructor
    · intro h
      cases h
      exact .unreadable he
    · intro h
      cases h with
      | unreadable h =>
        rw [he] at h
        cases h
        rfl
      | offence hoffence => exact absurd hoffence (not_offence_of_unreadable he)

theorem refusal?_fieldSteps_eq_none :
    (struct.fieldSteps markers field).findSome? AssemblyStep.refusal? = none ↔
      ∀ failure, ¬struct.FieldError markers field failure := by
  simp only [Option.eq_none_iff_forall_ne_some, ne_eq, refusal?_fieldSteps]

theorem findSome?_steps :
    (struct.steps markers).findSome? AssemblyStep.refusal? =
      struct.fields.findSome? fun field =>
        (struct.fieldSteps markers field).findSome? AssemblyStep.refusal? := by
  rw [steps]
  induction struct.fields with
  | nil => rfl
  | cons field rest ih =>
    rw [List.flatMap_cons, List.findSome?_append, List.findSome?_cons, ih]
    cases (struct.fieldSteps markers field).findSome? AssemblyStep.refusal? <;> rfl

theorem refusal?_steps :
    (struct.steps markers).findSome? AssemblyStep.refusal? = some failure ↔
      ∃ before field after, struct.fields = before ++ field :: after ∧
        struct.FieldError markers field failure ∧
        ∀ f ∈ before, ∀ failure, ¬struct.FieldError markers f failure := by
  rw [findSome?_steps, List.findSome?_eq_some_iff]
  simp only [refusal?_fieldSteps, refusal?_fieldSteps_eq_none]

theorem steps_accepted_iff :
    (∀ step ∈ struct.steps markers, step.isRefused = false) ↔
      ∀ f ∈ struct.fields, ∀ failure, ¬struct.FieldError markers f failure := by
  simp only [← AssemblyStep.refusal?_eq_none_iff, ← refusal?_fieldSteps_eq_none,
    ← List.findSome?_eq_none_iff, findSome?_steps]

/-! ### Failing structs -/

/-- Without an offence the steps of a struct come to the entity that its fields make up. -/
theorem run_steps_of_accepted (name : Text)
    (h : ∀ f ∈ struct.fields, ∀ failure, ¬struct.FieldError markers f failure) :
    ∃ entity, (struct.steps markers).foldlM Entity.applyStep (struct.emptyEntity name) =
      .ok entity ∧ entity.resolveKeys = struct.collected markers name := by
  have hsteps := steps_accepted_iff.2 h
  refine ⟨_, run_steps name hsteps, ?_⟩
  rw [collected, readColumns_eq hsteps, readMarker?_eq hsteps]

theorem toEntity_of_refused (hname : Name.isValid struct.name = true)
    (h : (struct.steps markers).findSome? AssemblyStep.refusal? = some failure) :
    struct.toEntity markers = .error failure := by
  have hnormal := Name.normalize_eq_ok_iff.2 ⟨hname, rfl⟩
  rw [toEntity, hnormal, Except.mapError, Fallible.ok_bind, run_eq_error_iff.2 h]
  rfl

theorem toEntity_eq_error_iff :
    struct.toEntity markers = .error failure ↔ struct.FirstOffence markers failure := by
  rw [toEntity]
  constructor
  · intro h
    rcases Fallible.bind_eq_error.1 h with hname | ⟨name, hname, hsteps⟩
    · obtain ⟨e, herror, rfl⟩ := Fallible.mapError_eq_error.1 hname
      exact .name herror
    rw [Fallible.mapError_eq_ok] at hname
    rcases Fallible.bind_eq_error.1 hsteps with hrun | ⟨entity, hrun, hcheck⟩
    · obtain ⟨before, field, after, hfields, herror, hbefore⟩ :=
        refusal?_steps.1 (run_eq_error_iff.1 hrun)
      exact .field (Name.normalize_eq_ok_iff.1 hname).1 hfields hbefore herror
    have haccepted := steps_accepted_iff.1 (not_isRefused_of_run hrun)
    -- no step is refused, so what is at fault is the entity that the fields make up
    obtain ⟨other, hother, hcollected⟩ := run_steps_of_accepted name haccepted
    rw [hrun] at hother
    cases hother
    rcases Fallible.bind_eq_error.1 hcheck with herror | ⟨_, -, hpure⟩
    · obtain ⟨e, hfault, rfl⟩ := Fallible.mapError_eq_error.1 herror
      rw [hcollected] at hfault
      exact .entity hname haccepted hfault
    · cases hpure
  · intro h
    cases h with
    | name herror =>
      rw [herror]
      rfl
    | field hname hfields hbefore herror =>
      rw [← toEntity]
      exact toEntity_of_refused hname (refusal?_steps.2 ⟨_, _, _, hfields, herror, hbefore⟩)
    | @entity name e hname hfields hcheck =>
      obtain ⟨entity, hrun, hcollected⟩ := run_steps_of_accepted name hfields
      simp only [hname, Except.mapError, Fallible.ok_bind, hrun, hcollected, hcheck]
      rfl

/-! ### The main statement -/

/-- An error that is no rejection of the struct as a whole is the same with more fields. -/
theorem FirstOffence.append (h : struct.FirstOffence markers failure)
    (hfield : ∀ r, failure = .rejected r → r.field ≠ none) (more : List FieldDecl) :
    ({ struct with fields := struct.fields ++ more }).FirstOffence markers failure := by
  have hsame : ∀ (f : FieldDecl) (failure : EntityError), struct.FieldError markers f failure ↔
      ({ struct with fields := struct.fields ++ more }).FieldError markers f failure := by
    intro f failure
    rw [← refusal?_fieldSteps, ← refusal?_fieldSteps]
    rfl
  cases h with
  | name h => exact absurd rfl (hfield _ rfl)
  | @field before after field failure hname hfields hbefore herror =>
    have hmore : struct.fields ++ more = before ++ field :: (after ++ more) := by
      rw [hfields, List.append_assoc, List.cons_append]
    exact .field hname hmore (fun f hf failure hfailure => hbefore f hf failure ((hsame f failure).2
      hfailure)) ((hsame field failure).1 herror)
  | entity hname hfields hcheck => exact absurd rfl (hfield _ rfl)

theorem isReadable_of_encodable (h : ∀ tag ∈ field.tag, ∀ c ∈ tag, c.isEncodable = true) :
    field.IsReadable markers := by
  rcases field.isReadable_or markers with hreadable | ⟨e, he⟩
  · exact hreadable
  rw [FieldDecl.readTag] at he
  split at he
  · rename_i tag htag
    obtain ⟨c, hc, hnot, -⟩ := StructTag.unencodable_of_lookup
      (Fallible.map_eq_error.1 (Fallible.map_eq_error.1 he))
    rw [h tag htag c hc] at hnot
    cases hnot
  · cases he

theorem exists_rejected_of_toEntity
    (hfields : ∀ field ∈ struct.fields, field.IsReadable markers)
    (h : struct.toEntity markers = .error failure) : ∃ r, failure = .rejected r := by
  cases toEntity_eq_error_iff.1 h with
  | name h => exact ⟨_, rfl⟩
  | @field before after field _ hname hsplit hbefore herror =>
    cases herror with
    | unreadable he =>
      have hreadable := hfields field (by rw [hsplit]; simp)
      rw [FieldDecl.IsReadable, he] at hreadable
      cases hreadable
    | offence h => exact ⟨_, rfl⟩
  | entity hname hfields h => exact ⟨_, rfl⟩

/-- A struct fails exactly for its first offence; if that lies at a field, further fields leave the
error as it is. It is rejected whenever it fails, unless a tag holds a code point without bytes. -/
theorem toEntity_blames_first (markers : Markers) (struct : StructDecl) :
    (∀ failure, struct.toEntity markers = .error failure ↔ struct.FirstOffence markers failure) ∧
    (∀ failure, struct.toEntity markers = .error failure →
      (∀ r, failure = .rejected r → r.field ≠ none) → ∀ more,
        ({ struct with fields := struct.fields ++ more }).toEntity markers = .error failure) ∧
    ((∀ field ∈ struct.fields, ∀ tag ∈ field.tag, ∀ c ∈ tag, c.isEncodable = true) →
      ∀ failure, struct.toEntity markers = .error failure → ∃ r, failure = .rejected r) := by
  refine ⟨fun failure => toEntity_eq_error_iff, ?_, ?_⟩
  · intro failure h hfield more
    exact toEntity_eq_error_iff.2 ((toEntity_eq_error_iff.1 h).append hfield more)
  · intro htags failure h
    exact exists_rejected_of_toEntity
      (fun field hfield => isReadable_of_encodable (htags field hfield)) h

/-- A struct with an ignored field of a type without a column, and with a private name before the
name that offends, whose declaration has no line. -/
def ticket : StructDecl where
  name := "Ticket"
  file := some "t.go"
  line := some 7
  fields := [
    { names := [], shape := .identifier (some "Entity"), typeText := "Entity",
      tag := some "dosa:\"primaryKey=ID\"", line := some 8 },
    { names := ["Cache"], shape := .other, typeText := "chan int", tag := some "dosa:\"-\"" },
    { names := ["note", "Total", "Rest"], shape := .identifier (some "float32"),
      typeText := "float32" }]

/-- The offence stays where it is when a marker with a bad tag follows. -/
theorem ticket_blames_total :
    let r : EntityError := .rejected {
      struct := "Ticket", field := some "Total", file := some "t.go", line := some 7
      reason := .unmappedType "Total" "float32" }
    let more : List FieldDecl := [
      { names := [], shape := .identifier (some "Entity"), typeText := "Entity",
        tag := some "dosa:\"key\"" }]
    ticket.toEntity {} = .error r ∧ ticket.FirstOffence {} r ∧
      ({ ticket with fields := ticket.fields ++ more }).toEntity {} = .error r ∧
      ∃ rejection, r = .rejected rejection := by
  intro r more
  have hrefused : (ticket.steps {}).findSome? AssemblyStep.refusal? = some r := by decide +kernel
  have h : ticket.toEntity {} = .error r := toEntity_of_refused (by decide) hrefused
  obtain ⟨hfirst, hmore, hrejected⟩ := toEntity_blames_first {} ticket
  have hat : ∀ rejection, r = .rejected rejection → rejection.field ≠ none := by
    intro rejection hr
    rw [← EntityError.rejected.inj hr]
    exact Option.some_ne_none _
  exact ⟨h, (hfirst r).1 h, hmore r h hat more, hrejected (by decide) r h⟩

/-- Not every struct without an entity is rejected: here a tag that has no bytes stands before the
first offence. -/
theorem not_forall_toEntity_rejected :
    ¬∀ (struct : StructDecl) (failure : EntityError), struct.toEntity {} = .error failure →
      ∃ r, failure = .rejected r ∧ r.struct = struct.name ∧ r.file = struct.file := by
  intro h
  let lock : FieldDecl := {
    names := ["mu"], shape := .identifier (some "int64"), typeText := "int64"
    tag := some (Text.ofString "dosa:\"" ++ [.lone 0, .char '"']) }
  let total : FieldDecl := {
    names := ["Total"], shape := .identifier (some "complex64"), typeText := "complex64" }
  let struct : StructDecl := { name := "Parcel", fields := [lock, total] }
  let e : LiteralError := ⟨.unencodable (.lone 0), [.char '"', .lone 0, .char '"']⟩
  have hrefused : (struct.steps {}).findSome? AssemblyStep.refusal? = some (.unreadable e) := by
    decide +kernel
  obtain ⟨r, hr, -⟩ := h struct _ (toEntity_of_refused (by decide) hrefused)
  cases hr

end StructDecl

end StructSchema
