import StructSchema.Text

/-!
# Paths

Paths as text: names with slashes between them. A path is made absolute without looking at any
file, by taking its names one after another: a dot stays, two dots drop the name before.
-/

namespace StructSchema.Path

/-- The names of a path; an empty one stands before a slash at the start and between two slashes
that follow each other. -/
def names (path : Text) : List Text := Text.splitOn (.char '/') path

def isAbsolute (path : Text) : Bool := path.head? = some (.char '/')

def enter (location : List Text) (name : Text) : List Text :=
  if name.isEmpty ∨ name = "." then location
  else if name = ".." then location.dropLast
  else location ++ [name]

/-- The names from the root to which a path leads from a place. -/
def locate (here : List Text) (path : Text) : List Text :=
  (names path).foldl enter (if isAbsolute path then [] else here)

/-- The absolute path of names from the root. -/
def ofLocation (location : List Text) : Text := "/" ++ Text.join "/" location

/-- The absolute path to which a path leads from a place. Two slashes at its start are kept, any
other number of them becomes one. -/
def absolute (here : List Text) (path : Text) : Text :=
  let doubled := path.take 2 = "//" && (path.drop 2).head? != some (.char '/')
  (if doubled then "/" else "") ++ ofLocation (locate here path)

/-- A path followed by a second one; an absolute second one stands alone. -/
def join (base path : Text) : Text :=
  if isAbsolute path then path
  else if base.isEmpty ∨ base.getLast? = some (.char '/') then base ++ path
  else base ++ "/" ++ path

/-- A path without empty names and dots. -/
def tidy (path : Text) : Text :=
  let lead : Text :=
    if !isAbsolute path then []
    else if path.take 2 = "//" && (path.drop 2).head? != some (.char '/') then "//"
    else "/"
  let kept := (names path).filter fun name : Text => !name.isEmpty && name ≠ "."
  let text := lead ++ Text.join "/" kept
  if text.isEmpty then "." else text

def baseName (path : Text) : Text := (path.reverse.takeWhile (· ≠ .char '/')).reverse

/-- The part of a name from its last dot on; a dot at either end of the name begins none. -/
def extension (name : Text) : Text :=
  let tail := (name.reverse.takeWhile (· ≠ .char '.')).reverse
  if tail.isEmpty ∨ name.length ≤ tail.length + 1 then [] else .char '.' :: tail

end StructSchema.Path
