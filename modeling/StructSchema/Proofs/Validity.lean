import StructSchema.Entity
import StructSchema.Proofs.Fallible
import StructSchema.Proofs.NameTable

/-!
# Valid entities

What the check of an entity asks for, said as a property: usable and distinct names, mapped
types, a key over the columns, and two tables of which each reads the other backwards. Main
statement: the check passes exactly the valid entities.
-/

namespace StructSchema

/-- What the check of a definition asks for. -/
structure Definition.Valid (d : Definition) : Prop where
  name_valid : Name.isValid d.name = true
  columns_ne_nil : d.columns ≠ []
  columnNames_valid : ∀ c ∈ d.columns, Name.isValid c.name = true
  columnNames_nodup : d.columnNames.Nodup
  types_mapped : ∀ c ∈ d.columns, c.type ≠ .invalid
  key_valid : ∃ key, d.key = some key ∧ key.partition ≠ [] ∧ key.columns.Nodup ∧
    ∀ k ∈ key.columns, k ∈ d.columnNames

namespace Definition

open Fallible

theorem checkColumns_eq_ok {seen : List Text} {columns : List Column} :
    checkColumns seen columns = .ok () ↔
      (∀ c ∈ columns, Name.isValid c.name = true) ∧ (columns.map (·.name)).Nodup ∧
        (∀ c ∈ columns, c.name ∉ seen) ∧ ∀ c ∈ columns, c.type ≠ .invalid := by
  induction columns generalizing seen with
  | nil => simp [checkColumns]
  | cons c rest ih =>
    simp only [List.forall_mem_cons, List.map_cons, List.nodup_cons]
    by_cases hv : Name.isValid c.name = true
    · by_cases hs : c.name ∈ seen
      · simp [checkColumns, hv, hs]
      · by_cases ht : c.type = .invalid
        · simp [checkColumns, hv, hs, ht]
        · simp only [checkColumns, hv, hs, ht, Bool.not_true, Bool.false_eq_true, if_false, ih,
            List.mem_cons, not_or, true_and, not_false_eq_true, ne_eq, List.mem_map, not_exists,
            not_and]
          constructor
          · rintro ⟨h₁, h₂, h₃, h₄⟩
            exact ⟨h₁, ⟨fun x hx => (h₃ x hx).1, h₂⟩, fun x hx => (h₃ x hx).2, h₄⟩
          · rintro ⟨h₁, ⟨h₂, h₃⟩, h₄, h₅⟩
            exact ⟨h₁, h₃, fun x hx => ⟨h₂ x hx, h₄ x hx⟩, h₅⟩
    · simp [checkColumns, hv]

theorem checkKeyColumns_eq_ok {columns used names : List Text} :
    checkKeyColumns columns used names = .ok () ↔
      (∀ k ∈ names, k ∈ columns) ∧ names.Nodup ∧ ∀ k ∈ names, k ∉ used := by
  induction names generalizing used with
  | nil => simp [checkKeyColumns]
  | cons k rest ih =>
    simp only [List.forall_mem_cons, List.nodup_cons]
    by_cases hc : k ∈ columns
    · by_cases hu : k ∈ used
      · simp [checkKeyColumns, hc, hu]
      · simp only [checkKeyColumns, hc, hu, not_true_eq_false, if_false, ih, List.mem_cons, not_or,
          true_and, not_false_eq_true]
        constructor
        · rintro ⟨h₁, h₂, h₃⟩
          exact ⟨h₁, ⟨fun hk => (h₃ k hk).1 rfl, h₂⟩, fun x hx => (h₃ x hx).2⟩
        · rintro ⟨h₁, ⟨h₂, h₃⟩, h₄⟩
          exact ⟨h₁, h₃, fun x hx => ⟨fun e => h₂ (e ▸ hx), h₄ x hx⟩⟩
    · simp [checkKeyColumns, hc]

theorem check_cases (d : Definition) :
    d.check = .ok () ↔
      Name.isValid d.name = true ∧ d.columns ≠ [] ∧ checkColumns [] d.columns = .ok () ∧
        ∃ key, d.key = some key ∧ key.partition ≠ [] ∧
          checkKeyColumns d.columnNames [] key.columns = .ok () := by
  rw [check]
  by_cases hn : Name.isValid d.name = true
  · by_cases hc : d.columns = []
    · simp [hn, hc]
    · simp only [hn, hc, Bool.not_true, Bool.false_eq_true, if_false, List.isEmpty_iff, ne_eq,
        not_false_eq_true, true_and]
      cases d.key with
      | none => simp [seq_eq_ok]
      | some key =>
        by_cases hp : key.partition = []
        · simp [seq_eq_ok, hp]
        · simp [seq_eq_ok, hp]
  · simp [hn]

theorem check_eq_ok_iff (d : Definition) : d.check = .ok () ↔ d.Valid := by
  rw [check_cases, checkColumns_eq_ok]
  simp only [checkKeyColumns_eq_ok]
  constructor
  · rintro ⟨hn, hne, ⟨hv, hd, -, ht⟩, key, hk, hp, hm, hkd, -⟩
    exact ⟨hn, hne, hv, hd, ht, key, hk, hp, hkd, hm⟩
  · rintro ⟨hn, hne, hv, hd, ht, key, hk, hp, hkd, hm⟩
    exact ⟨hn, hne, ⟨hv, hd, fun _ _ => List.not_mem_nil, ht⟩, key, hk, hp, hm, hkd,
      fun _ _ => List.not_mem_nil⟩

end Definition

/-- What the check of an entity asks for. -/
structure Entity.Valid (entity : Entity) : Prop where
  definition_valid : entity.definition.Valid
  tables_inverse : ∀ column field, entity.fieldOfColumn.get? column = some field ↔
    entity.columnOfField.get? field = some column

theorem Entity.check_eq_ok_iff (entity : Entity) : entity.check = .ok () ↔ entity.Valid := by
  have htables : entity.check = .ok () ↔ entity.definition.check = .ok () ∧
      entity.columnOfField.inverse.agrees entity.fieldOfColumn = true ∧
        entity.columnOfField.inverse.size = entity.columnOfField.size := by
    rw [check, Fallible.seq_eq_ok]
    by_cases ha : entity.columnOfField.inverse.agrees entity.fieldOfColumn = true
    · by_cases hs : entity.columnOfField.inverse.size = entity.columnOfField.size
      · simp [ha, hs]
      · simp [ha, hs]
    · simp [ha]
  rw [htables, Definition.check_eq_ok_iff, NameTable.inverse_agrees_iff]
  exact ⟨fun ⟨hd, ht⟩ => ⟨hd, fun c f => ht f c⟩, fun ⟨hd, ht⟩ => ⟨hd, fun f c => ht c f⟩⟩

end StructSchema
