import StructSchema.Declaration
import StructSchema.SchemaTag

/-!
# Assembly of entities

A struct declaration is read as a list of steps, one or more for each field: a field is skipped,
gives the entity its name and key, gives it a column, or is refused. The entity is built from the
steps in order; the first refusal rejects the whole struct, and so does an entity that is not
valid in the end.
-/

namespace StructSchema

/-! ### Rejections -/

inductive RejectionReason
  | badStructName (error : NameError)
  | badEntityTag (fault : TagFault)
  | unmappedType (field label : Text)
  | badColumn (field : Text) (fault : TagFault)
  | invalid (error : ValidityError)
  deriving DecidableEq, Repr

/-- A struct that was meant to be an entity and is none. -/
structure Rejection where
  struct : Text
  field : Option Text := none
  file : Option Text := none
  line : Option Int := none
  reason : RejectionReason
  deriving DecidableEq, Repr

/-- What is wrong, without its cause. -/
def RejectionReason.summary : RejectionReason → Text
  | .badStructName _ => "struct name is invalid"
  | .badEntityTag _ => "invalid entity tag"
  | .unmappedType field label =>
    "column " ++ Text.quoted field ++ " has invalid type " ++ Text.quoted label
  | .badColumn field _ => "column " ++ Text.quoted field
  | .invalid _ => "failed to parse entity"

def RejectionReason.cause? : RejectionReason → Option Text
  | .badStructName error => some error.message
  | .badEntityTag fault => some fault.message
  | .unmappedType .. => none
  | .badColumn _ fault => some fault.message
  | .invalid error => some error.message

/-- A message about a struct: the file and line if known, the struct, the message, the cause. -/
def structMessage (file : Option Text) (line : Option Int) (struct message : Text)
    (cause : Option Text) : Text :=
  let place : Text :=
    match file, line with
    | some (c :: path), some n => (c :: path) ++ ":" ++ Text.ofInt n ++ ": "
    | some (c :: path), none => (c :: path) ++ ": "
    | _, _ => []
  place ++ "struct " ++ Text.quoted struct ++ ": " ++ message ++
    (match cause with
    | some text => ": " ++ text
    | none => [])

def Rejection.message (r : Rejection) : Text :=
  structMessage r.file r.line r.struct r.reason.summary r.reason.cause?

/-- Why no entity comes of a struct: it is rejected, or one of its tags cannot be looked up in. -/
inductive EntityError
  | rejected (rejection : Rejection)
  | unreadable (error : LiteralError)
  deriving DecidableEq, Repr

/-! ### Steps -/

/-- What a field, or one of its names, does to the entity. -/
inductive AssemblyStep
  | ignored (field : FieldDecl)
  | unexported (name : Text)
  | marker (name : Text) (key : PrimaryKey)
  | column (column : Column)
  | refused (error : EntityError)
  deriving DecidableEq, Repr

namespace StructDecl

def rejectAt (struct : StructDecl) (field : FieldDecl) (name : Text) (reason : RejectionReason) :
    Rejection :=
  { struct := struct.name, field := some name, file := struct.file,
    line := field.line.or struct.line, reason }

def reject (struct : StructDecl) (reason : RejectionReason) : Rejection :=
  { struct := struct.name, file := struct.file, line := struct.line, reason }

def nameStep (struct : StructDecl) (field : FieldDecl) (label tag name : Text) : AssemblyStep :=
  if !isExported name then .unexported name
  else if ColumnType.ofLabel label = .invalid then
    .refused (.rejected (struct.rejectAt field name (.unmappedType name label)))
  else
    match SchemaTag.column (ColumnType.ofLabel label) name tag with
    | .ok column => .column column
    | .error fault => .refused (.rejected (struct.rejectAt field name (.badColumn name fault)))

/-- The steps of one field declaration under its tag value: the value `-` leaves the field out, the
marker type makes it the marker, and any other field is mapped name by name. -/
def stepsUnder (markers : Markers) (struct : StructDecl) (field : FieldDecl) (tag : Text) :
    List AssemblyStep :=
  if tag = "-" then [.ignored field]
  else
    let label := field.typeLabel markers
    if label = markers.entityType then
      match SchemaTag.entity struct.name tag with
      | .ok (name, key) => [.marker name key]
      | .error fault =>
        [.refused (.rejected
          (struct.rejectAt field (field.names.headD field.typeText) (.badEntityTag fault)))]
    else field.names.map (struct.nameStep field label tag)

def fieldSteps (markers : Markers) (struct : StructDecl) (field : FieldDecl) : List AssemblyStep :=
  match field.readTag markers with
  | .ok tag => struct.stepsUnder markers field tag
  | .error e => [.refused (.unreadable e)]

def steps (markers : Markers) (struct : StructDecl) : List AssemblyStep :=
  struct.fields.flatMap (struct.fieldSteps markers)

end StructDecl

/-! ### Entities from steps -/

/-- The entity after one more step, or why there is none. -/
def Entity.applyStep (entity : Entity) : AssemblyStep → Except EntityError Entity
  | .ignored _ => .ok entity
  | .unexported _ => .ok entity
  | .marker name key =>
    .ok { entity with definition := { entity.definition with name, key := some key } }
  | .column column => .ok (entity.addColumn column)
  | .refused e => .error e

namespace StructDecl

def emptyEntity (struct : StructDecl) (name : Text) : Entity :=
  { struct := struct.name, definition := { name }, file := struct.file, line := struct.line }

/-- The entity that a struct declares, or the first reason why it declares none: its name, then
its fields in order, then the entity as a whole. -/
def toEntity (markers : Markers) (struct : StructDecl) : Except EntityError Entity := do
  let name ← (Name.normalize struct.name).mapError fun e =>
    .rejected (struct.reject (.badStructName e))
  let entity ← (struct.steps markers).foldlM Entity.applyStep (struct.emptyEntity name)
  let entity := entity.resolveKeys
  entity.check.mapError fun e => .rejected (struct.reject (.invalid e))
  return entity

/-- The steps that are taken before the first refusal. -/
def stepsTaken (markers : Markers) (struct : StructDecl) : List AssemblyStep :=
  match Name.normalize struct.name with
  | .error _ => []
  | .ok _ => (struct.steps markers).takeWhile fun | .refused _ => false | _ => true

end StructDecl

end StructSchema
