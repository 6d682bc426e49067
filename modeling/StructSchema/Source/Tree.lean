import StructSchema.Source.Token
import StructSchema.Text

/-!
# Syntax trees

A source is read into a tree whose leaves are its tokens. A branch has a kind, the line on which
it begins and its children in order; a tree may carry a label that tells what it is to its
parent.
-/

namespace StructSchema.Source

/-- What a subtree is to its parent. -/
inductive Label
  | name
  | type
  | tag
  | element
  | package
  deriving DecidableEq, Repr

inductive Kind
  | sourceFile
  | functionDeclaration
  | methodDeclaration
  | block
  | statementList
  | typeDeclaration
  | typeSpec
  | typeAlias
  | structType
  | fieldList
  | fieldDeclaration
  | qualifiedType
  | arrayType
  | sliceType
  | otherType
  | otherDeclaration
  | statement
  | expression
  | error
  | missing
  deriving DecidableEq, Repr

/-- A kind whose children may declare types that belong to the source: files, functions, methods,
blocks with their statements, and type declarations. -/
def Kind.isContainer : Kind → Bool
  | .sourceFile | .functionDeclaration | .methodDeclaration | .block | .statementList
  | .typeDeclaration => true
  | _ => false

/-- A kind that binds a name to a type. -/
def Kind.isSpec : Kind → Bool
  | .typeSpec | .typeAlias => true
  | _ => false

/-- A kind that stands for a fault: text that belongs to nothing, or something that is not there. -/
def Kind.isFault : Kind → Bool
  | .error | .missing => true
  | _ => false

inductive Tree
  | leaf (label : Option Label) (token : Token)
  | branch (label : Option Label) (kind : Kind) (line : Nat) (children : List Tree)
  deriving Repr

namespace Tree

def label : Tree → Option Label
  | .leaf label _ => label
  | .branch label .. => label

def withLabel (label : Label) : Tree → Tree
  | .leaf _ token => .leaf label token
  | .branch _ kind line children => .branch label kind line children

def line : Tree → Nat
  | .leaf _ token => token.line
  | .branch _ _ line _ => line

def children : Tree → List Tree
  | .leaf .. => []
  | .branch _ _ _ children => children

def isKind (kind : Kind) : Tree → Bool
  | .leaf .. => false
  | .branch _ k _ _ => k == kind

def isToken (kind : TokenKind) : Tree → Bool
  | .leaf _ token => token.kind == kind
  | .branch .. => false

def childrenAt (label : Label) (t : Tree) : List Tree := t.children.filter (·.label == some label)

def child? (label : Label) (t : Tree) : Option Tree := t.children.find? (·.label == some label)

mutual

def tokens : Tree → List Token
  | .leaf _ token => [token]
  | .branch _ _ _ children => tokensAll children

def tokensAll : List Tree → List Token
  | [] => []
  | t :: ts => tokens t ++ tokensAll ts

end

theorem tokensAll_append (ts us : List Tree) :
    tokensAll (ts ++ us) = tokensAll ts ++ tokensAll us := by
  induction ts with
  | nil => rfl
  | cons t ts ih => rw [List.cons_append, tokensAll, tokensAll, ih, List.append_assoc]

mutual

/-- The lines on which the faults of a tree begin, a fault before those inside it. -/
def faultLines : Tree → List Nat
  | .leaf .. => []
  | .branch _ kind line children =>
    if kind.isFault then line :: faultLinesAll children else faultLinesAll children

def faultLinesAll : List Tree → List Nat
  | [] => []
  | t :: ts => faultLines t ++ faultLinesAll ts

end

mutual

def size : Tree → Nat
  | .leaf .. => 1
  | .branch _ _ _ children => sizeAll children + 1

def sizeAll : List Tree → Nat
  | [] => 0
  | t :: ts => size t + sizeAll ts

end

theorem sizeAll_append (ts us : List Tree) : sizeAll (ts ++ us) = sizeAll ts + sizeAll us := by
  induction ts with
  | nil => rw [List.nil_append, sizeAll, Nat.zero_add]
  | cons t ts ih => rw [List.cons_append, sizeAll, sizeAll, ih, Nat.add_assoc]

/-- The source text of a tree: its tokens with the blanks and comments between them. -/
def text (t : Tree) : Text :=
  match t.tokens with
  | [] => []
  | first :: rest => (first.text ++ rest.flatMap fun token => token.lead ++ token.text).map .char

end Tree

end StructSchema.Source
