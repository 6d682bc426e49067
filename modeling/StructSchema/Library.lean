import StructSchema.EnvFile
import StructSchema.Host
import StructSchema.Source.Grammar
import StructSchema.Yaml.Parse

/-!
# The host of the library

The readers of the library as a host. A source that its grammar cannot read gets a tree with one
fault, on the line where reading stopped.
-/

namespace StructSchema

/-- The tree of a source, or one that holds its fault alone. -/
def Source.parse (source : List Char) : Source.Tree :=
  match Tree.ofSource source with
  | .ok tree => tree
  | .error line => .branch none .sourceFile 1 [.branch none .error line []]

/-- The readers of the library, with room for 900 containers inside one another. -/
def Host.library : Host where
  tree := Source.parse
  depth := 900
  yaml := Yaml.parse
  envFile := EnvFile.settings

end StructSchema
