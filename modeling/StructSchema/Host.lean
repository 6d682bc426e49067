import StructSchema.Source.Tree
import StructSchema.Value

/-!
# Hosts

What a run takes from outside: a reader of Go sources, a reader of YAML, a reader of files with
variables, and the room that its recursions have. Nothing here depends on how a host does its part;
what is known of it is said where it is used.
-/

namespace StructSchema

/-- What a run takes from outside. A source always has a tree, in which faults of its syntax stand
as nodes. `envFile` gives the variables that a text sets, each once, where some are set already; a
variable may stand there without a value. Containers may stand inside one another up to `depth`. -/
structure Host where
  tree : List Char → Source.Tree
  depth : Nat
  yaml : List Char → Except ReadFault Value
  envFile : List (Text × Text) → Text → List (Text × Option Text)

end StructSchema
