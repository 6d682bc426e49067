import StructSchema.Assembly
import StructSchema.Source.Fault
import StructSchema.Source.Struct

/-!
# Recorders

A recorder gathers what the structs of one source after another come to. A struct that is no
candidate is only counted; a candidate becomes an entity or a rejection. A source that cannot be
read leaves the recorder as it was; a walk that breaks off leaves what it has recorded by then.
-/

namespace StructSchema

/-- The entities and rejections so far, and the numbers of structs and of candidates seen. -/
structure Recorder where
  entities : List Entity := []
  rejections : List Rejection := []
  structsSeen : Nat := 0
  candidates : Nat := 0

/-- Why a source was not recorded to its end: it was refused, or the walk over its tree broke
off. -/
inductive RecordError
  | source (error : Source.Error)
  | walk (error : Source.WalkError)
  deriving DecidableEq, Repr

namespace Recorder

/-- The recorder after one more struct, and the error of a tag in it that cannot be looked up in. -/
def addStruct (markers : Markers) (recorder : Recorder) (struct : StructDecl) :
    Recorder × Option LiteralError :=
  let seen := { recorder with structsSeen := recorder.structsSeen + 1 }
  match struct.judge markers with
  | .error e => (seen, some e)
  | .ok false => (seen, none)
  | .ok true =>
    let judged := { seen with candidates := seen.candidates + 1 }
    match struct.toEntity markers with
    | .ok entity => ({ judged with entities := judged.entities ++ [entity] }, none)
    | .error (.rejected rejection) =>
      ({ judged with rejections := judged.rejections ++ [rejection] }, none)
    | .error (.unreadable e) => (judged, some e)

/-- The recorder after what a walk offers, and the error that it breaks off with. -/
def addOffers (markers : Markers) (recorder : Recorder) :
    List (Except Source.WalkError StructDecl) → Recorder × Option Source.WalkError
  | [] => (recorder, none)
  | .error e :: _ => (recorder, some e)
  | .ok struct :: rest =>
    match recorder.addStruct markers struct with
    | (recorder, none) => recorder.addOffers markers rest
    | (recorder, some e) => (recorder, some (.tag e))

/-- The recorder after the structs of a tree that was read from a file. -/
def addTree (host : Host) (markers : Markers) (file : Option Text) (recorder : Recorder)
    (tree : Source.Tree) : Recorder × Option Source.WalkError :=
  recorder.addOffers markers (tree.offers host.depth file)

/-- The recorder after a source. The file name in the error of a refused source and the one kept
with its structs may differ. -/
def addSource (host : Host) (markers : Markers) (errorFile : Text) (file : Option Text)
    (recorder : Recorder) (bytes : List UInt8) : Recorder × Option RecordError :=
  match Source.readAs host errorFile bytes with
  | .error e => (recorder, some (.source e))
  | .ok tree =>
    let (recorder, error) := recorder.addTree host markers file tree
    (recorder, error.map .walk)

end Recorder

end StructSchema
