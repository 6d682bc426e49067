import StructSchema.TagOptions
import StructSchema.Text.Uppercase

/-!
# Primary keys

A primary key names one or more partition columns, then clustering columns with their order. It
is written `(PK, CK ASC)`, with several partition columns in parentheses of their own; reading
also takes a bare name, and directions in any letter case or left out.
-/

namespace StructSchema

structure ClusteringKey where
  name : Text
  descending : Bool := false
  deriving DecidableEq, Repr

/-- Partition columns followed by clustering columns. -/
structure PrimaryKey where
  partition : List Text := []
  clustering : List ClusteringKey := []
  deriving DecidableEq, Repr

/-! ### Writing -/

def ClusteringKey.render (key : ClusteringKey) : Text :=
  key.name ++ (if key.descending then " DESC" else " ASC")

namespace PrimaryKey

def columns (key : PrimaryKey) : List Text := key.partition ++ key.clustering.map (·.name)

/-- The partition columns: a single one alone, any other number in parentheses. -/
def renderPartition : List Text → Text
  | [name] => name
  | names => "(" ++ Text.join ", " names ++ ")"

def render (key : PrimaryKey) : Text :=
  let items := renderPartition key.partition :: key.clustering.map ClusteringKey.render
  "(" ++ Text.join ", " items ++ ")"

/-! ### Reading -/

def parseName (raw : Text) : Except TagError Text :=
  let name := Text.strip raw
  if Name.isValid name then .ok name else .error (.badKeyColumn name)

/-- Whether a direction word means descending; none if it is no direction. -/
def direction? (word : Text) : Option Bool :=
  match Text.toAsciiUpper? word with
  | some capitals =>
    if capitals = "ASC" then some false else if capitals = "DESC" then some true else none
  | none => none

def parseClustering (raw : Text) : Except TagError ClusteringKey :=
  match Text.words raw with
  | [name] => (parseName name).map fun name => { name }
  | [name, word] =>
    match direction? word with
    | some descending => (parseName name).map fun name => { name, descending }
    | none => .error (.badClusteringKey (Text.strip raw))
  | _ => .error (.badClusteringKey (Text.strip raw))

/-- The text between an opening parenthesis at its start and a closing one at its end. -/
def inner? (t : Text) : Option Text :=
  match t with
  | .char '(' :: rest => if rest.getLast? = some (.char ')') then some rest.dropLast else none
  | _ => none

/-- The partition columns, from the first item of a key. -/
def parsePartition (item : Text) : Except TagError (List Text) :=
  if item.head? = some (.char '(') then
    match inner? item with
    | some names => (Text.splitOn (.char ',') names).mapM parseName
    | none => .error (.badPartitionKey item)
  else do return [← parseName item]

def parse (raw : Text) : Except TagError PrimaryKey := do
  let text := Text.strip raw
  if text.isEmpty then throw .emptyKey
  if text.head? ≠ some (.char '(') then return { partition := [← parseName text] }
  match inner? text with
  | none => throw (.badKey text)
  | some body =>
    let items := (← splitTopLevel (· = .char ',') body).map Text.strip
    match items with
    | [] => throw (.badKey text)
    | first :: others =>
      if items.any List.isEmpty then throw (.badKey text)
      let partition ← parsePartition first
      let clustering ← others.mapM parseClustering
      return { partition, clustering }

end PrimaryKey

end StructSchema
