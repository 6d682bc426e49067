import StructSchema.Discovery
import StructSchema.ScanResult

/-!
# Scans of directories

A scan reads all sources of a directory before it records any of them: the first source that
cannot be read ends the scan without a result, and its error is given again under its path from the
directory.
-/

namespace StructSchema

/-- What is scanned, and how: a directory, the pattern of excluded files, whether directories
below are searched, and the markers. -/
structure ScanRequest where
  directory : Text := "."
  pattern : Text := []
  recursive : Bool := false
  markers : Markers := {}
  deriving DecidableEq, Repr

inductive ScanError
  | missingDirectory (directory : Text)
  | record (error : RecordError)
  deriving DecidableEq, Repr

namespace FileTree

/-- The trees of the sources of a directory, each with its path from there, or the first error. -/
def parseSources (host : Host) (directory pattern : Text) (recursive : Bool) (tree : FileTree) :
    Except Source.Error (List (Text × Source.Tree)) :=
  (tree.discover pattern recursive).mapM fun file =>
    match Source.readAs host (Path.join directory file.path) file.content with
    | .ok tree => .ok (file.path, tree)
    | .error e => .error (e.under file.path)

end FileTree

def Recorder.addTrees (host : Host) (markers : Markers) (recorder : Recorder) :
    List (Text × Source.Tree) → Except Source.WalkError Recorder
  | [] => .ok recorder
  | (path, tree) :: rest =>
    match recorder.addTree host markers (some path) tree with
    | (recorder, none) => recorder.addTrees host markers rest
    | (_, some e) => .error e

/-- The trees of the sources of the directory that a path leads to. -/
def FileSystem.parseDirectory (host : Host) (fs : FileSystem) (request : ScanRequest) :
    Except ScanError (List (Text × Source.Tree)) :=
  let directory := Path.absolute fs.here request.directory
  match fs.directory? directory with
  | none => .error (.missingDirectory directory)
  | some tree =>
    (tree.parseSources host directory request.pattern request.recursive).mapError
      (.record ∘ .source)

def FileSystem.scan (host : Host) (fs : FileSystem) (request : ScanRequest) :
    Except ScanError ScanResult := do
  let trees ← fs.parseDirectory host request
  let recorder ← (Recorder.addTrees host request.markers {} trees).mapError (.record ∘ .walk)
  return recorder.result trees.length

end StructSchema
