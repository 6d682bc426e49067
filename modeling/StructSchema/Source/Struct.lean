import StructSchema.Declaration
import StructSchema.Source.Tree

/-!
# Structs in a tree

The struct declarations of a syntax tree, in document order: the specs that bind a name to a
struct type and are reached through containers alone. What stands inside a spec, or below
anything that is neither container nor spec, is not looked at. A walk over the tree offers them one
by one, and breaks off at a tag that denotes nothing or where containers stand too deep.
-/

namespace StructSchema.Source

/-- Why a walk over a tree breaks off: a struct tag denotes nothing or cannot be looked up in, or
containers stand too deep inside one another. -/
inductive WalkError
  | tag (error : LiteralError)
  | tooDeep
  deriving DecidableEq, Repr

namespace Tree

/-! ### Specs -/

mutual

/-- The specs of a tree that are reached through containers. -/
def specs : Tree → List Tree
  | .leaf .. => []
  | .branch label kind line children =>
    if kind.isSpec then [.branch label kind line children]
    else if kind.isContainer then specsAll children
    else []

def specsAll : List Tree → List Tree
  | [] => []
  | t :: ts => specs t ++ specsAll ts

end

mutual

/-- The number of containers that stand inside one another on the way to the specs of a tree. -/
def nesting : Tree → Nat
  | .leaf .. => 0
  | .branch _ kind _ children =>
    if kind.isSpec then 0 else if kind.isContainer then nestingAll children + 1 else 0

def nestingAll : List Tree → Nat
  | [] => 0
  | t :: ts => max (nesting t) (nestingAll ts)

end

def structType? (spec : Tree) : Option Tree :=
  (spec.child? .type).filter (·.isKind .structType)

/-! ### Fields -/

/-- The text of the first child with a label; empty if there is none. -/
def textAt (label : Label) (t : Tree) : Text :=
  match t.child? label with
  | some child => child.text
  | none => []

def shape (type : Tree) : TypeShape :=
  if type.isToken .identifier then .identifier (some type.text)
  else if type.isKind .arrayType || type.isKind .sliceType then
    .array (((type.child? .element).filter (·.isToken .identifier)).map text)
  else if type.isKind .qualifiedType then
    .qualified (some (type.textAt .package)) (some (type.textAt .name))
  else .other

def isStringLiteral (t : Tree) : Bool := t.isToken .rawString || t.isToken .interpretedString

/-- The tag of a field declaration, decoded. What is no string literal is no tag. -/
def fieldTag (field : Tree) : Except LiteralError (Option Text) :=
  match (field.child? .tag).filter isStringLiteral with
  | some literal => (Literal.decode literal.text).map some
  | none => .ok none

/-- Whether a field embeds a pointer, whose star stands outside its type. -/
def embedsPointer (field : Tree) : Bool :=
  (field.childrenAt .name).isEmpty && field.children.any (·.isToken (.fixed "*"))

def fieldDecl (field : Tree) : Except LiteralError FieldDecl := do
  let star : Text := if field.embedsPointer then "*" else []
  return {
    names := (field.childrenAt .name).map text
    shape :=
      if field.embedsPointer then .other
      else
        match field.child? .type with
        | some type => type.shape
        | none => .other
    typeText := star ++ field.textAt .type
    tag := ← field.fieldTag
    line := some field.line }

def fieldTrees (struct : Tree) : List Tree :=
  match struct.children.find? (·.isKind .fieldList) with
  | some body => body.children.filter (·.isKind .fieldDeclaration)
  | none => []

/-! ### Structs -/

/-- The struct declaration of a spec in a file, given the struct type it binds. -/
def structDecl (file : Option Text) (spec struct : Tree) : Except LiteralError StructDecl := do
  return {
    name := spec.textAt .name
    fields := ← struct.fieldTrees.mapM fieldDecl
    file
    line := some spec.line }

def structSpecs (tree : Tree) : List (Tree × Tree) :=
  tree.specs.filterMap fun spec => spec.structType?.map (spec, ·)

/-- The struct declarations of a tree in document order. -/
def structs (file : Option Text) (tree : Tree) : Except LiteralError (List StructDecl) :=
  tree.structSpecs.mapM fun (spec, struct) => structDecl file spec struct

/-! ### Walks -/

mutual

/-- The specs that a walk visits, with room for containers inside one another up to a depth. -/
def visits (depth : Nat) : Tree → List (Except WalkError Tree)
  | .leaf .. => []
  | .branch label kind line children =>
    if kind.isSpec then [.ok (.branch label kind line children)]
    else if kind.isContainer then
      match depth with
      | 0 => [.error .tooDeep]
      | depth + 1 => visitsAll depth children
    else []

def visitsAll (depth : Nat) : List Tree → List (Except WalkError Tree)
  | [] => []
  | t :: ts => visits depth t ++ visitsAll depth ts

end

theorem visits_branch (depth : Nat) (label : Option Label) (kind : Kind) (line : Nat)
    (children : List Tree) :
    visits depth (.branch label kind line children) =
      if kind.isSpec then [.ok (.branch label kind line children)]
      else if kind.isContainer then
        match depth with
        | 0 => [.error .tooDeep]
        | depth + 1 => visitsAll depth children
      else [] := by
  cases depth <;> rw [visits]

/-- What comes of the visit to a spec: nothing, if it binds no struct type. -/
def offer? (file : Option Text) (visit : Except WalkError Tree) :
    Option (Except WalkError StructDecl) :=
  match visit with
  | .ok spec => spec.structType?.map fun struct => (structDecl file spec struct).mapError .tag
  | .error e => some (.error e)

/-- What a walk over a tree offers one after another; an error stands where it breaks off. -/
def offers (depth : Nat) (file : Option Text) (tree : Tree) : List (Except WalkError StructDecl) :=
  (tree.visits depth).filterMap (offer? file)

end Tree

end StructSchema.Source
