import StructSchema.Proofs.Offence

/-!
# What a rejection names

A struct is rejected as a whole or at one of its fields. Either way the rejection names the struct
and the file that it comes from; at a field it names the field too, by one of its names or, if it
has none, by its type.
-/

namespace StructSchema

inductive RejectedBy (struct : StructDecl) : Rejection → Prop
  | whole (reason : RejectionReason) : RejectedBy struct (struct.reject reason)
  | field {field : FieldDecl} (hfield : field ∈ struct.fields) {name : Text}
    (hname : name ∈ field.names ∨ name = field.typeText) (reason : RejectionReason) :
    RejectedBy struct (struct.rejectAt field name reason)

namespace RejectedBy

variable {struct : StructDecl} {r : Rejection}

theorem struct_eq (h : RejectedBy struct r) : r.struct = struct.name := by
  cases h with
  | whole reason => rfl
  | field hfield hname reason => rfl

theorem file_eq (h : RejectedBy struct r) : r.file = struct.file := by
  cases h with
  | whole reason => rfl
  | field hfield hname reason => rfl

theorem field_eq {name : Text} (h : RejectedBy struct r) (hname : r.field = some name) :
    ∃ field ∈ struct.fields, name ∈ field.names ∨ name = field.typeText := by
  cases h with
  | whole reason => cases hname
  | field hfield hnamed reason =>
    cases hname
    exact ⟨_, hfield, hnamed⟩

/-- Wherever a struct offends first, that is a place at which it can be rejected. -/
theorem of_firstOffence {markers : Markers} (h : struct.FirstOffence markers (.rejected r)) :
    RejectedBy struct r := by
  cases h with
  | name h => exact .whole _
  | @field before after field _ hname hfields hbefore herror =>
    have hfield : field ∈ struct.fields := by
      rw [hfields]
      exact List.mem_append_right before (List.mem_cons_self ..)
    cases herror with
    | offence hoffence =>
      refine .field hfield ?_ _
      cases hoffence with
      | marker hreadable hlive hmarker h =>
        cases hnames : field.names with
        | nil => exact .inr rfl
        | cons name rest => exact .inl (List.mem_cons_self ..)
      | name hreadable hlive hmarker hnames hbefore h =>
        rw [hnames]
        exact .inl (List.mem_append_right _ (List.mem_cons_self ..))
  | entity hname hfields h => exact .whole _

end RejectedBy

theorem StructDecl.rejectedBy_of_toEntity {markers : Markers} {struct : StructDecl} {r : Rejection}
    (h : struct.toEntity markers = .error (.rejected r)) : RejectedBy struct r :=
  .of_firstOffence (toEntity_eq_error_iff.1 h)

end StructSchema
