import StructSchema.FileSystem
import StructSchema.Glob

/-!
# Discovery of sources

The Go sources of a directory: the files whose names end in `.go` and do not match the exclusion
pattern, in the order of their paths. A recursive search also looks into the directories below,
but not into hidden ones nor into those with vendored, test or module data.
-/

namespace StructSchema

structure SourceFile where
  path : Text
  content : List UInt8
  deriving DecidableEq, Repr

namespace Discovery

def sourceSuffix : Text := ".go"

def isSourceName (name : Text) : Bool := sourceSuffix.isSuffixOf name

def skippedDirectories : List Text := ["vendor", "testdata", "node_modules"]

def isEntered (name : Text) : Bool :=
  name.head? != some (.char '.') && !skippedDirectories.contains name

def sourcesIn (base : Text) (entries : List (Text × FileTree)) : List SourceFile :=
  entries.filterMap fun (name, tree) =>
    match tree with
    | .file content => if isSourceName name then some ⟨base ++ name, content⟩ else none
    | .directory _ => none

mutual

/-- The sources of a directory, those below it included if the search is recursive. -/
def sources (recursive : Bool) (base : Text) : FileTree → List SourceFile
  | .file _ => []
  | .directory entries =>
    sourcesIn base entries ++ (if recursive then sourcesBelow base entries else [])

def sourcesBelow (base : Text) : List (Text × FileTree) → List SourceFile
  | [] => []
  | (name, tree) :: rest =>
    (if isEntered name then sources true (base ++ name ++ "/") tree else []) ++
      sourcesBelow base rest

end

end Discovery

namespace FileTree

def excludedSources (pattern : Text) (recursive : Bool) (tree : FileTree) : List SourceFile :=
  (Discovery.sources recursive [] tree).filter fun file => isExcluded pattern file.path

/-- The sources of a tree that a pattern does not exclude, sorted by path. -/
def discover (pattern : Text) (recursive : Bool) (tree : FileTree) : List SourceFile :=
  ((Discovery.sources recursive [] tree).filter fun file => !isExcluded pattern file.path).mergeSort
    fun a b => Text.le a.path b.path

end FileTree

/-- The sources of the directory that a path leads to; none if it leads to no directory. The path
is made absolute first. -/
def FileSystem.discover (fs : FileSystem) (path pattern : Text) (recursive : Bool) :
    List SourceFile :=
  match fs.directory? (Path.absolute fs.here path) with
  | some tree => tree.discover pattern recursive
  | none => []

end StructSchema
