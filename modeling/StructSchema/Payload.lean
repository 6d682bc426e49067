import StructSchema.ScanResult
import StructSchema.Value

/-!
# Payloads

Entities, rejections and counts as data: the form in which a scan is written out. The order of
the fields is the order in which they are written.
-/

namespace StructSchema

namespace Value

/-- A text that may be missing. -/
def ofText? : Option Text → Value
  | some t => .string t
  | none => .null

/-- A line that may be unknown. -/
def ofLine? : Option Int → Value
  | some n => .int n
  | none => .null

def ofNat (n : Nat) : Value := .int n

def ofTable (table : NameTable) : Value :=
  ofFields (table.entries.map fun (key, value) => (key, .string value))

end Value

def ClusteringKey.payload (key : ClusteringKey) : Value :=
  .ofFields [("name", key.name), ("descending", .bool key.descending)]

def PrimaryKey.payload (key : PrimaryKey) : Value :=
  .ofFields
    [("partition_keys", .ofTexts key.partition),
      ("clustering_keys", .list (key.clustering.map ClusteringKey.payload))]

def Column.payload (column : Column) : Value :=
  .ofFields
    [("name", column.name), ("type", .string column.type.name), ("field_name", column.field)]

def Entity.payload (entity : Entity) : Value :=
  .ofFields
    [("name", entity.definition.name),
      ("key", .ofOption (entity.definition.key.map PrimaryKey.payload)),
      ("columns", .list (entity.definition.columns.map Column.payload)),
      ("struct_name", entity.struct),
      ("col_to_field", .ofTable entity.fieldOfColumn),
      ("field_to_col", .ofTable entity.columnOfField),
      ("file_path", .ofText? entity.file),
      ("line", .ofLine? entity.line)]

def Rejection.payload (rejection : Rejection) : Value :=
  .ofFields
    [("struct_name", rejection.struct),
      ("field_name", .ofText? rejection.field),
      ("file_path", .ofText? rejection.file),
      ("line", .ofLine? rejection.line),
      ("message", rejection.message)]

def ScanStats.payload (stats : ScanStats) : Value :=
  .ofFields
    [("files_parsed", .ofNat stats.files),
      ("structs_seen", .ofNat stats.structs),
      ("candidates", .ofNat stats.candidates),
      ("entities_found", .ofNat stats.entities),
      ("warnings", .ofNat stats.warnings)]

def ScanResult.payload (result : ScanResult) : Value :=
  .ofFields
    [("entities", .list (result.entities.map Entity.payload)),
      ("warnings", .list (result.rejections.map Rejection.payload)),
      ("stats", result.stats.payload)]

end StructSchema
