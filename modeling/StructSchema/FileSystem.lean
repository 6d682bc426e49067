import StructSchema.Path

/-!
# File systems

A tree of directories and files with a working directory. Paths are followed name by name: every
name but the last must be that of a directory, and two dots lead to the directory above the one
that has been reached.
-/

namespace StructSchema

inductive FileTree
  | file (content : List UInt8)
  | directory (entries : List (Text × FileTree))
  deriving Repr

inductive PathError
  | missing
  | notDirectory
  | isDirectory
  | exists
  deriving DecidableEq, Repr

def PathError.message : PathError → Text
  | .missing => "no such file or directory"
  | .notDirectory => "not a directory"
  | .isDirectory => "is a directory"
  | .exists => "file exists"

namespace FileTree

def isDirectory : FileTree → Bool
  | .file _ => false
  | .directory _ => true

/-- The subtree at names from the top of a tree. -/
def get? (tree : FileTree) : List Text → Option FileTree
  | [] => some tree
  | name :: rest =>
    match tree with
    | .file _ => none
    | .directory entries =>
      match entries.lookup name with
      | some below => below.get? rest
      | none => none

/-- Entries with a tree under a name: in place of the old one, or at the end. -/
def putEntry (name : Text) (tree : FileTree) : List (Text × FileTree) → List (Text × FileTree)
  | [] => [(name, tree)]
  | (n, t) :: rest => if n = name then (name, tree) :: rest else (n, t) :: putEntry name tree rest

/-- A tree with a subtree put at names from its top; directories on the way are made. -/
def put (tree : FileTree) (names : List Text) (below : FileTree) : FileTree :=
  match names with
  | [] => below
  | name :: rest =>
    let entries :=
      match tree with
      | .file _ => []
      | .directory entries => entries
    .directory (putEntry name (((entries.lookup name).getD (.directory [])).put rest below) entries)

mutual

/-- The files at a path and below it, with their own paths. -/
def files (path : Text) : FileTree → List (Text × List UInt8)
  | .file content => [(path, content)]
  | .directory entries => filesIn path entries

def filesIn (path : Text) : List (Text × FileTree) → List (Text × List UInt8)
  | [] => []
  | (name, tree) :: rest => files (Path.join path name) tree ++ filesIn path rest

end

end FileTree

/-- A tree from the root, and the names from there to the working directory. -/
structure FileSystem where
  root : FileTree := .directory []
  here : List Text := []

namespace FileSystem

/-! ### Following paths -/

def follow (fs : FileSystem) (location : List Text) (name : Text) :
    Except PathError (List Text) :=
  match fs.root.get? location with
  | none => .error .missing
  | some tree =>
    if !tree.isDirectory then .error .notDirectory
    else
      let next := Path.enter location name
      if (fs.root.get? next).isSome then .ok next else .error .missing

def followAll (fs : FileSystem) (location : List Text) (names : List Text) :
    Except PathError (List Text) :=
  names.foldlM fs.follow location

def start (fs : FileSystem) (path : Text) : List Text :=
  if Path.isAbsolute path then [] else fs.here

def find (fs : FileSystem) (path : Text) : Except PathError FileTree :=
  if path.isEmpty then .error .missing
  else
    match fs.followAll (fs.start path) (Path.names path) with
    | .error e => .error e
    | .ok location =>
      match fs.root.get? location with
      | some tree => .ok tree
      | none => .error .missing

def directory? (fs : FileSystem) (path : Text) : Option FileTree :=
  match fs.find path with
  | .ok tree => if tree.isDirectory then some tree else none
  | .error _ => none

def read (fs : FileSystem) (path : Text) : Except PathError (List UInt8) :=
  match fs.find path with
  | .ok (.file content) => .ok content
  | .ok (.directory _) => .error .isDirectory
  | .error e => .error e

/-! ### Changing files -/

/-- The names of a path without the empty ones that slashes at its end leave. -/
def closedNames (path : Text) : List Text :=
  ((Path.names path).reverse.dropWhile List.isEmpty).reverse

def write (fs : FileSystem) (path : Text) (content : List UInt8) : Except PathError FileSystem := do
  if path.isEmpty then throw .missing
  let names := closedNames path
  let parent ← fs.followAll (fs.start path) names.dropLast
  match fs.root.get? parent, names.getLast? with
  | some (.directory _), some name =>
    let place := parent ++ [name]
    if name = "." ∨ name = ".." ∨ path.getLast? = some (.char '/') then throw .isDirectory
    else if (fs.root.get? place).any FileTree.isDirectory then throw .isDirectory
    else return { fs with root := fs.root.put place (.file content) }
  | some (.file _), some _ => throw .notDirectory
  | _, _ => throw .isDirectory

/-- The file system and the place after a name has been entered, for which a directory is made
in the one that has been reached if there is nothing. `last` tells that no name follows. -/
def enterMaking (last : Bool) (fs : FileSystem) (location : List Text) (name : Text) :
    Except PathError (FileSystem × List Text) :=
  let next := Path.enter location name
  match fs.root.get? next with
  | some (.directory _) => .ok (fs, next)
  | some (.file _) => .error (if last then .exists else .notDirectory)
  | none =>
    if (fs.root.get? location).any FileTree.isDirectory then
      .ok ({ fs with root := fs.root.put next (.directory []) }, next)
    else .error .missing

/-- The file system after directories have been made for names from a place on. -/
def makeAll (fs : FileSystem) (location : List Text) : List Text → Except PathError FileSystem
  | [] => .ok fs
  | name :: rest => do
    let (fs, next) ← fs.enterMaking rest.isEmpty location name
    fs.makeAll next rest

/-- The file system with a directory at a path; directories that are there stay. -/
def makeDirectories (fs : FileSystem) (path : Text) : Except PathError FileSystem :=
  if path.isEmpty then .error .missing
  else fs.makeAll (fs.start path) (closedNames path)

/-- The files of a file system that another one lacks or has with other bytes, with their paths. -/
def filesBeyond (fs old : FileSystem) : List (Text × List UInt8) :=
  let before := old.root.files "/"
  (fs.root.files "/").filter fun file => !before.contains file

end FileSystem

end StructSchema
