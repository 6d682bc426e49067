import StructSchema.Text

/-!
# Column types

The closed set of column types and the labels of field types that map onto them.
-/

namespace StructSchema

/-- A column type; `invalid` is the type of every label without one. -/
inductive ColumnType
  | invalid
  | string
  | blob
  | bool
  | int32
  | int64
  | double
  | timestamp
  | uuid
  deriving DecidableEq, Repr

namespace ColumnType

def all : List ColumnType :=
  [.invalid, .string, .blob, .bool, .int32, .int64, .double, .timestamp, .uuid]

def name : ColumnType → String
  | .invalid => "invalid"
  | .string => "string"
  | .blob => "blob"
  | .bool => "bool"
  | .int32 => "int32"
  | .int64 => "int64"
  | .double => "double"
  | .timestamp => "timestamp"
  | .uuid => "uuid"

/-- The label that maps onto a column type, if one does. -/
def label? : ColumnType → Option String
  | .invalid => none
  | .string => some "string"
  | .blob => some "[]byte"
  | .bool => some "bool"
  | .int32 => some "int32"
  | .int64 => some "int64"
  | .double => some "float64"
  | .timestamp => some "time.Time"
  | .uuid => some "UUID"

/-- The column type of a label. The match is exact, and no other label has a type. -/
def ofLabel (label : Text) : ColumnType :=
  (all.find? fun type => type.label?.map Text.ofString == some label).getD .invalid

theorem ofLabel_label {type : ColumnType} {label : String} (h : type.label? = some label) :
    ofLabel label = type := by
  cases type <;> cases h <;> rfl

def ofName? (name : Text) : Option ColumnType :=
  all.find? fun type => name == Text.ofString type.name

end ColumnType

end StructSchema
