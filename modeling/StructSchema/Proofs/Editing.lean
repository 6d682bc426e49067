import StructSchema.Editing
import StructSchema.Proofs.Coherence

/-!
# Checks of edited entities

Whatever is done to an entity, the check of the state that is reached tells whether this state is
valid, and nothing depends on whether it was checked on the way. The check compares the two tables
by way of an inverse in which entries may be lost; the comparison of sizes makes good for that, also
for tables that no column stands for. Main statement: the check decides validity in every state that
actions lead to, it changes no state, and columns that are added with distinct names leave tables
inverse to each other exactly if their fields are distinct too.
-/

namespace StructSchema.Entity

/-! ### Sequences of actions -/

def reached (start : Entity) (actions : List Action) : Entity := (start.actAll actions).1

theorem reached_cons (start : Entity) (action : Action) (rest : List Action) :
    start.reached (action :: rest) = (start.act action).1.reached rest := rfl

theorem reached_filter (start : Entity) (actions : List Action) :
    start.reached (actions.filter (· ≠ .check)) = start.reached actions := by
  induction actions generalizing start with
  | nil => rfl
  | cons action rest ih =>
    by_cases h : action = .check
    · have hstart : (start.act action).1 = start := by rw [h]; rfl
      rw [List.filter_cons_of_neg (by simp [h]), ih, reached_cons, hstart]
    · rw [List.filter_cons_of_pos (by simp [h]), reached_cons, reached_cons, ih]

/-! ### Columns alone -/

/-- Whether nothing has been entered into an entity: it has no columns, and its tables are empty. -/
structure IsBlank (entity : Entity) : Prop where
  columns_eq : entity.definition.columns = []
  fieldOfColumn_eq : entity.fieldOfColumn = .empty
  columnOfField_eq : entity.columnOfField = .empty

theorem reached_addColumn (start : Entity) (columns : List Column) :
    let built := start.reached (columns.map .addColumn)
    built.definition.columns = start.definition.columns ++ columns ∧
      built.fieldOfColumn =
        start.fieldOfColumn.insertAll (columns.map fun c => (c.name, c.field)) ∧
      built.columnOfField =
        start.columnOfField.insertAll (columns.map fun c => (c.field, c.name)) := by
  induction columns generalizing start with
  | nil => exact ⟨(List.append_nil _).symm, rfl, rfl⟩
  | cons c rest ih =>
    obtain ⟨hcolumns, hfields, hnames⟩ := ih (start.addColumn c)
    refine ⟨hcolumns.trans ?_, hfields, hnames⟩
    rw [addColumn, List.append_assoc, List.singleton_append]

theorem IsBlank.tables_inverse_iff {start : Entity} (h : start.IsBlank) (columns : List Column) :
    let built := start.reached (columns.map .addColumn)
    built.definition.columnNames.Nodup →
      ((∀ column field, built.fieldOfColumn.get? column = some field ↔
          built.columnOfField.get? field = some column) ↔
        (built.definition.columns.map (·.field)).Nodup) := by
  obtain ⟨hcolumns, hfields, hnames⟩ := start.reached_addColumn columns
  intro built hdistinct
  rw [Definition.columnNames, hcolumns, h.columns_eq, List.nil_append] at hdistinct
  rw [hcolumns, hfields, hnames, h.columns_eq, h.fieldOfColumn_eq, h.columnOfField_eq,
    List.nil_append]
  exact StructSchema.tables_inverse_iff hdistinct

/-! ### The main statement -/

/-- In every state that actions lead to, a check succeeds exactly if the state is valid, and it
leaves the state as it is; so checks may be left out of the actions. Tables that come from added
columns of distinct names are inverse exactly if no two of the columns have one field. -/
theorem check_reached (start : Entity) (actions : List Action) :
    (((start.reached actions).act .check).2 = [.ok ()] ↔ (start.reached actions).Valid) ∧
    ((start.reached actions).act .check).1 = start.reached actions ∧
    start.reached (actions.filter (· ≠ .check)) = start.reached actions ∧
    (start.IsBlank → ∀ columns : List Column,
      let built := start.reached (columns.map .addColumn)
      built.definition.columnNames.Nodup →
        ((∀ column field, built.fieldOfColumn.get? column = some field ↔
            built.columnOfField.get? field = some column) ↔
          (built.definition.columns.map (·.field)).Nodup)) := by
  have hverdict : ((start.reached actions).act .check).2 = [(start.reached actions).check] := rfl
  refine ⟨?_, rfl, start.reached_filter actions, fun h columns => h.tables_inverse_iff columns⟩
  rw [hverdict, List.singleton_inj]
  exact check_eq_ok_iff _

/-- An entity with one column, whose tables also name a column that it does not have. The check in
between finds that only one of them does. -/
def ghostly : List Action := [
  .addColumn { name := "id", type := .int64, field := "ID" },
  .setKey (some { partition := ["ID"] }), .resolveKeys, .mapColumn "ghost" "Ghost", .check,
  .mapField "Old" "old", .mapField "Ghost" "ghost", .unmapField "Old", .rename "haunt"]

theorem check_ghostly :
    let start : Entity := { struct := "Haunt", definition := { name := "" } }
    let twins : List Column := [
      { name := "a", type := .string, field := "A" },
      { name := "b", type := .string, field := "A" }]
    let built := start.reached (twins.map .addColumn)
    (start.reached ghostly).Valid ∧
      start.reached (ghostly.filter (· ≠ .check)) = start.reached ghostly ∧
      start.IsBlank ∧ built.definition.columnNames.Nodup ∧
      ¬∀ column field, built.fieldOfColumn.get? column = some field ↔
        built.columnOfField.get? field = some column := by
  intro start twins built
  have hmain := start.check_reached ghostly
  have hverdict : ((start.reached ghostly).act .check).2 = [.ok ()] := by decide +kernel
  have hblank : start.IsBlank := ⟨rfl, rfl, rfl⟩
  have hnames : built.definition.columnNames.Nodup := by decide
  refine ⟨hmain.1.1 hverdict, hmain.2.2.1, hblank, hnames, fun hinverse => ?_⟩
  have hfields : (built.definition.columns.map (·.field)).Nodup :=
    (hmain.2.2.2 hblank twins hnames).1 hinverse
  exact absurd hfields (by decide)

end StructSchema.Entity
