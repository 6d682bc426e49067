import StructSchema.Host
import StructSchema.Literal

/-!
# Sources and their faults

A source is accepted if its bytes are UTF-8, if the tree of its text is without faults, and if
every interpreted string literal in the tree denotes a string. The first of the three that fails is
its fault. Of the faults in a tree the first gives the line and all give the number; of several
literals that denote nothing the first in document order counts.
-/

namespace StructSchema.Source

/-- Why a source is refused, with the line of the place; `count` is the number of the faults in its
tree. -/
inductive Fault
  | encoding (line : Nat)
  | malformed (count line : Nat)
  | literal (line : Nat) (error : LiteralError)
  deriving DecidableEq, Repr

def Fault.line : Fault → Nat
  | .encoding line => line
  | .malformed _ line => line
  | .literal line _ => line

def Fault.count : Fault → Nat
  | .malformed count _ => count
  | _ => 1

/-- What can be said about a fault besides its place. -/
def Fault.reason? : Fault → Option Text
  | .encoding _ => some "invalid UTF-8 encoding"
  | .malformed .. => none
  | .literal _ error => some error.message

/-- A message about a source: its file and line, then the reason, or else the number of its
faults. -/
def message (file : Text) (line : Option Int) (reason : Option Text) (count : Int) : Text :=
  let place : Text :=
    match line with
    | some n => file ++ ":" ++ Text.ofInt n
    | none => file
  let detail : Text :=
    match reason with
    | some (c :: text) => c :: text
    | _ => "source contains " ++ Text.ofInt count ++ " syntax error(s)"
  place ++ ": " ++ detail

/-- A refused source under its file name. -/
structure Error where
  file : Text
  fault : Fault
  deriving DecidableEq, Repr

def Error.under (file : Text) (e : Error) : Error := { e with file }

def Error.message (e : Error) : Text :=
  Source.message e.file (some e.fault.line) e.fault.reason? e.fault.count

/-! ### Acceptance -/

/-- The fault of a token that is an interpreted literal and denotes no string. -/
def Token.literalFault? (token : Token) : Option Fault :=
  if token.kind = .interpretedString then
    match Literal.decode (token.text.map .char) with
    | .ok _ => none
    | .error e => some (.literal token.line e)
  else none

/-- The fault of the first interpreted literal that is met in the trees of a stack and denotes no
string. A leaf is judged; in the place of a branch its children are put on the stack. -/
def Tree.stackFault? : List Tree → Option Fault
  | [] => none
  | .leaf _ token :: stack =>
    match token.literalFault? with
    | some fault => some fault
    | none => stackFault? stack
  | .branch _ _ _ children :: stack => stackFault? (children ++ stack)
  termination_by stack => sizeAll stack
  decreasing_by
    · simp only [sizeAll, size]
      omega
    · simp only [sizeAll, size, sizeAll_append]
      omega

def Tree.literalFault? (tree : Tree) : Option Fault := stackFault? [tree]

def lineOfByte (bytes : List UInt8) (offset : Nat) : Nat := 1 + (bytes.take offset).count 10

def Tree.syntaxFault? (tree : Tree) : Option Fault :=
  match tree.faultLines with
  | [] => none
  | line :: others => some (.malformed (others.length + 1) line)

/-- The tree of a source, or its fault. -/
def read (host : Host) (bytes : List UInt8) : Except Fault Tree :=
  match Utf8.decode bytes with
  | .error offset => .error (.encoding (lineOfByte bytes offset))
  | .ok source =>
    let tree := host.tree source
    match tree.syntaxFault?.or tree.literalFault? with
    | some fault => .error fault
    | none => .ok tree

def readAs (host : Host) (file : Text) (bytes : List UInt8) : Except Error Tree :=
  (read host bytes).mapError (⟨file, ·⟩)

end StructSchema.Source
