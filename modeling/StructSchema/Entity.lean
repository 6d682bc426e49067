import StructSchema.ColumnType
import StructSchema.NameTable
import StructSchema.PrimaryKey

/-!
# Entities

An entity is a struct seen as a stored record: a name, a primary key, columns with their types,
and two tables between columns and fields. Validity asks for usable and distinct names, mapped
types, a key over the columns and tables that are inverse to each other.
-/

namespace StructSchema

/-! ### Columns and definitions -/

structure Column where
  name : Text
  type : ColumnType
  field : Text
  deriving DecidableEq, Repr

structure Definition where
  name : Text
  key : Option PrimaryKey := none
  columns : List Column := []
  deriving DecidableEq, Repr

inductive ValidityError
  | badEntityName (name : Text)
  | noColumns (entity : Text)
  | badColumnName (column : Text)
  | duplicateColumn (column : Text)
  | badColumnType (column : Text)
  | noKey (entity : Text)
  | noPartitionKey (entity : Text)
  | unknownKeyColumn (column : Text)
  | repeatedKeyColumn (column : Text)
  | tablesDiffer (struct : Text)
  deriving DecidableEq, Repr

def ValidityError.message : ValidityError → Text
  | .badEntityName name => "entity name " ++ Text.quoted name ++ " is invalid"
  | .noColumns entity => "entity " ++ Text.quoted entity ++ " has no columns"
  | .badColumnName column => "column name " ++ Text.quoted column ++ " is invalid"
  | .duplicateColumn column => "duplicate column name " ++ Text.quoted column
  | .badColumnType column => "column " ++ Text.quoted column ++ " has an invalid type"
  | .noKey entity => "entity " ++ Text.quoted entity ++ " has no primary key"
  | .noPartitionKey entity =>
    "primary key of entity " ++ Text.quoted entity ++ " has no partition key"
  | .unknownKeyColumn column => "primary key references unknown column " ++ Text.quoted column
  | .repeatedKeyColumn column =>
    "column " ++ Text.quoted column ++ " appears more than once in the primary key"
  | .tablesDiffer struct =>
    "column and field mappings of " ++ Text.quoted struct ++ " are inconsistent"

namespace Definition

def columnNames (d : Definition) : List Text := d.columns.map (·.name)

/-- Judges columns in order; `seen` holds the names of those before. -/
def checkColumns (seen : List Text) : List Column → Except ValidityError Unit
  | [] => .ok ()
  | column :: rest =>
    if !Name.isValid column.name then .error (.badColumnName column.name)
    else if column.name ∈ seen then .error (.duplicateColumn column.name)
    else if column.type = .invalid then .error (.badColumnType column.name)
    else checkColumns (column.name :: seen) rest

/-- Judges key columns in order against the columns there are; `used` holds those before. -/
def checkKeyColumns (columns used : List Text) : List Text → Except ValidityError Unit
  | [] => .ok ()
  | column :: rest =>
    if column ∉ columns then .error (.unknownKeyColumn column)
    else if column ∈ used then .error (.repeatedKeyColumn column)
    else checkKeyColumns columns (column :: used) rest

/-- The first fault of a definition: its name, its columns, then its key. -/
def check (d : Definition) : Except ValidityError Unit := do
  if !Name.isValid d.name then throw (.badEntityName d.name)
  if d.columns.isEmpty then throw (.noColumns d.name)
  checkColumns [] d.columns
  match d.key with
  | none => throw (.noKey d.name)
  | some key =>
    if key.partition.isEmpty then throw (.noPartitionKey d.name)
    checkKeyColumns d.columnNames [] key.columns

end Definition

/-! ### Entities -/

/-- A definition with the struct it comes from and the tables between columns and fields. -/
structure Entity where
  struct : Text
  definition : Definition
  fieldOfColumn : NameTable := .empty
  columnOfField : NameTable := .empty
  file : Option Text := none
  line : Option Int := none

namespace Entity

/-- The entity with one more column, entered in both tables. -/
def addColumn (entity : Entity) (column : Column) : Entity :=
  { entity with
    definition := { entity.definition with columns := entity.definition.columns ++ [column] }
    fieldOfColumn := entity.fieldOfColumn.insert column.name column.field
    columnOfField := entity.columnOfField.insert column.field column.name }

/-- The column that a key reference means: the column of the field of that name, else the
normalized reference, else the reference itself. -/
def resolve (entity : Entity) (reference : Text) : Text :=
  match entity.columnOfField.get? reference with
  | some column => column
  | none =>
    match Name.normalize reference with
    | .ok name => name
    | .error _ => reference

def resolveKey (entity : Entity) (key : PrimaryKey) : PrimaryKey where
  partition := key.partition.map entity.resolve
  clustering := key.clustering.map fun c => { c with name := entity.resolve c.name }

def resolveKeys (entity : Entity) : Entity :=
  { entity with
    definition := { entity.definition with key := entity.definition.key.map entity.resolveKey } }

/-- The first fault of an entity: those of its definition, then tables that are not inverse. -/
def check (entity : Entity) : Except ValidityError Unit := do
  entity.definition.check
  let inverse := entity.columnOfField.inverse
  if !inverse.agrees entity.fieldOfColumn || inverse.size != entity.columnOfField.size then
    throw (.tablesDiffer entity.struct)

end Entity

end StructSchema
