import StructSchema.Entity

/-!
# Schema tags

What the options of a schema tag say. On the marker field they give the entity's primary key and
may give its name; on any other field they may give the column's name. A name that is not given
is that of the struct or of the field.
-/

namespace StructSchema

/-- What is wrong with a tag in its place: a name, the name taken from a field, or the tag. -/
inductive TagFault
  | name (error : NameError)
  | fieldName (field : Text) (error : NameError)
  | tag (error : TagError)
  deriving DecidableEq, Repr

def TagFault.message : TagFault → Text
  | .name error => error.message
  | .fieldName field error => "field " ++ Text.quoted field ++ ": " ++ error.message
  | .tag error => error.message

namespace SchemaTag

/-! ### Entity tags -/

/-- The name and key that the options of an entity tag have given so far. -/
structure EntityOptions where
  name : Option Text := none
  key : Option PrimaryKey := none
  deriving DecidableEq, Repr

def isKeyOption (option : Text) : Bool := option = "primaryKey" || option = "key"

/-- Takes one more option of an entity tag. -/
def EntityOptions.add (given : EntityOptions) (option value : Text) :
    Except TagFault EntityOptions :=
  if option = "name" then
    if given.name.isSome then .error (.tag (.repeated option))
    else
      match Name.normalize value with
      | .ok name => .ok { given with name := some name }
      | .error e => .error (.name e)
  else if isKeyOption option then
    if given.key.isSome then .error (.tag (.repeated option))
    else
      match PrimaryKey.parse value with
      | .ok key => .ok { given with key := some key }
      | .error e => .error (.tag e)
  else .error (.tag (.unknownEntityOption option))

/-- The entity name and primary key that a tag on the marker field of a struct gives. -/
def entity (struct tag : Text) : Except TagFault (Text × PrimaryKey) := do
  let options ← (TagOptions.parse tag).mapError .tag
  let given ← options.foldlM (fun given (option, value) => given.add option value)
    ({} : EntityOptions)
  match given.key, given.name with
  | none, _ => throw (.tag (.noKey tag))
  | some key, some name => return (name, key)
  | some key, none => return (← (Name.normalize struct).mapError .name, key)

/-! ### Column tags -/

/-- Takes one more option of a column tag, after the column name given so far. -/
def addColumnName (given : Option Text) (option value : Text) : Except TagFault (Option Text) :=
  if option ≠ "name" then .error (.tag (.unknownFieldOption option))
  else if given.isSome then .error (.tag (.repeated option))
  else
    match Name.normalize value with
    | .ok name => .ok (some name)
    | .error e => .error (.name e)

/-- The column of a field, named by its tag or else by the field. -/
def column (type : ColumnType) (field tag : Text) : Except TagFault Column := do
  let options ← (TagOptions.parse tag).mapError .tag
  let given ← options.foldlM (fun given (option, value) => addColumnName given option value) none
  match given with
  | some name => return { name, type, field }
  | none => return { name := ← (Name.normalize field).mapError (.fieldName field), type, field }

end SchemaTag

end StructSchema
