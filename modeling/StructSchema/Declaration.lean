import StructSchema.StructTag
import StructSchema.Text.Blank
import StructSchema.Text.Lowercase

/-!
# Struct declarations

What a source says about a struct: its name and its field declarations in order. A declaration
may bind several names to one type; an embedded field binds none. The type is kept as its shape
and as its source text.
-/

namespace StructSchema

/-- The shape of a declared type: a plain identifier, an array or slice with its element if that
is an identifier, a name qualified by a package, or anything else. -/
inductive TypeShape
  | identifier (name : Option Text)
  | array (element : Option Text)
  | qualified (package name : Option Text)
  | other
  deriving DecidableEq, Repr

/-- One field declaration. `tag` is the decoded struct tag. -/
structure FieldDecl where
  names : List Text
  shape : TypeShape
  typeText : Text
  tag : Option Text := none
  line : Option Int := none
  deriving DecidableEq, Repr

structure StructDecl where
  name : Text
  fields : List FieldDecl := []
  file : Option Text := none
  line : Option Int := none
  deriving DecidableEq, Repr

/-- The names by which entities are marked: the marker type, the struct tag key that holds
schema options, and the package that exports the marker and UUID types. -/
structure Markers where
  entityType : Text := "Entity"
  tagKey : Text := "dosa"
  package : Text := "dosa"
  deriving DecidableEq, Repr

def FieldDecl.isEmbedded (field : FieldDecl) : Bool := field.names.isEmpty

/-- Names are exported unless they begin with a small letter. -/
def isExported (name : Text) : Bool :=
  match name with
  | c :: _ => !c.isLowercase
  | [] => true

/-- The label by which a field's type is mapped. Identifiers keep their name, byte arrays become
`[]byte`, and of qualified types only `time.Time` and the marker and UUID types of the marker
package are known; any other type is labelled with its source text. -/
def FieldDecl.typeLabel (markers : Markers) (field : FieldDecl) : Text :=
  match field.shape with
  | .identifier (some name) => if name.isEmpty then field.typeText else name
  | .array element => if element = some "byte" then "[]byte" else field.typeText
  | .qualified package (some name) =>
    if package = some "time" ∧ name = "Time" then "time.Time"
    else if package = some markers.package ∧ (name = markers.entityType ∨ name = "UUID") then name
    else field.typeText
  | _ => field.typeText

/-- Looks up the value under the tag key, without blanks around it; empty for a field without it. -/
def FieldDecl.readTag (markers : Markers) (field : FieldDecl) : Except LiteralError Text :=
  match field.tag with
  | some tag => (StructTag.get tag markers.tagKey).map Text.strip
  | none => .ok []

def FieldDecl.schemaTag (markers : Markers) (field : FieldDecl) : Text :=
  (field.readTag markers).toOption.getD []

/-- Judges whether a struct is probably meant to be an entity: its first field has a value under the
tag key and, if its type is a plain identifier, the marker type. -/
def StructDecl.judge (markers : Markers) (struct : StructDecl) : Except LiteralError Bool :=
  let hasValue (tag : Text) : Except LiteralError Bool :=
    (StructTag.get tag markers.tagKey).map (!·.isEmpty)
  match struct.fields with
  | [] => .ok false
  | first :: _ =>
    match first.shape, first.tag with
    | _, none => .ok false
    | .identifier name, some tag =>
      if name = some markers.entityType then hasValue tag else .ok false
    | _, some tag => hasValue tag

def StructDecl.isCandidate (markers : Markers) (struct : StructDecl) : Bool :=
  (struct.judge markers).toOption.getD false

theorem StructDecl.isCandidate_iff {markers : Markers} {struct : StructDecl} :
    struct.isCandidate markers = true ↔ struct.judge markers = .ok true := by
  rw [isCandidate]
  cases struct.judge markers <;> simp [Except.toOption]

end StructSchema
