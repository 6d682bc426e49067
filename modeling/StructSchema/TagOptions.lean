import StructSchema.Name
import StructSchema.Text.Blank

/-!
# Tag options

The value of a schema tag is a list of options `option=value`, separated by spaces, tabs, line
breaks and commas that stand outside parentheses. Blanks around an equals sign do not count.
-/

namespace StructSchema

/-! ### Faults -/

inductive TagError
  | unbalanced (text : Text)
  | noValue (token : Text)
  | emptyValue (option : Text)
  | badKeyColumn (name : Text)
  | badClusteringKey (item : Text)
  | emptyKey
  | badKey (text : Text)
  | badPartitionKey (item : Text)
  | repeated (option : Text)
  | unknownEntityOption (option : Text)
  | unknownFieldOption (option : Text)
  | noKey (tag : Text)
  deriving DecidableEq, Repr

def TagError.message : TagError → Text
  | .unbalanced text => "unbalanced parentheses in " ++ Text.quoted text
  | .noValue token => "expected option=value, got " ++ Text.quoted token
  | .emptyValue option => "option " ++ Text.quoted option ++ " has an empty value"
  | .badKeyColumn name => "invalid key column name " ++ Text.quoted name
  | .badClusteringKey item => "invalid clustering key " ++ Text.quoted item
  | .emptyKey => "primary key cannot be empty"
  | .badKey text => "invalid primary key " ++ Text.quoted text
  | .badPartitionKey item => "invalid partition key " ++ Text.quoted item
  | .repeated option => "option " ++ Text.quoted option ++ " given more than once"
  | .unknownEntityOption option => "unrecognized entity tag option " ++ Text.quoted option
  | .unknownFieldOption option => "unrecognized field tag option " ++ Text.quoted option
  | .noKey tag => "entity tag " ++ Text.quoted tag ++ " does not declare a primaryKey"

/-! ### Splitting outside parentheses -/

/-- The parts of a text between the separators that stand outside parentheses, read inside
`depth` open ones; none if a parenthesis is closed too early or left open. -/
def splitFrom (isSep : CodePoint → Bool) (depth : Nat) : Text → Option (List Text)
  | [] => if depth = 0 then some [[]] else none
  | c :: rest =>
    if c = .char ')' ∧ depth = 0 then none
    else
      let depth := if c = .char '(' then depth + 1 else if c = .char ')' then depth - 1 else depth
      if depth = 0 ∧ isSep c then (splitFrom isSep depth rest).map ([] :: ·)
      else (splitFrom isSep depth rest).map fun
        | part :: parts => (c :: part) :: parts
        | [] => [[c]]

/-- The parts of a text between the separators that stand outside parentheses. -/
def splitTopLevel (isSep : CodePoint → Bool) (t : Text) : Except TagError (List Text) :=
  match splitFrom isSep 0 t with
  | some parts => .ok parts
  | none => .error (.unbalanced t)

/-! ### Options -/

namespace TagOptions

def isSeparator (c : CodePoint) : Bool :=
  c = .char ' ' || c = .char '\t' || c = .char '\n' || c = .char ','

/-- The text without the blanks next to equals signs; `after` tells that an equals sign and
nothing else but blanks stands before. -/
def squeezeFrom (after : Bool) : Text → Text
  | [] => []
  | c :: rest =>
    if c = .char '=' then c :: squeezeFrom true rest
    else if c.isBlank && (after || (Text.stripStart rest).head? == some (.char '=')) then
      squeezeFrom after rest
    else c :: squeezeFrom false rest

def squeeze (t : Text) : Text := squeezeFrom false t

/-- The two sides of the first equals sign of a token. -/
def ofToken (token : Text) : Except TagError (Text × Text) :=
  let option := token.takeWhile (· ≠ .char '=')
  match token.dropWhile (· ≠ .char '=') with
  | [] => .error (.noValue token)
  | _ :: value =>
    if option.isEmpty then .error (.noValue token)
    else if value.isEmpty then .error (.emptyValue option)
    else .ok (option, value)

def parse (tag : Text) : Except TagError (List (Text × Text)) := do
  let tokens ← splitTopLevel isSeparator (squeeze (Text.strip tag))
  (tokens.filter fun token => !token.isEmpty).mapM ofToken

end TagOptions

end StructSchema
