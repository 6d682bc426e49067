import StructSchema.Text.Quoted

/-!
# Names

Names of entities and columns, and the words that options must be. A word is made of ASCII
letters, digits and underscores and does not begin with a digit; one line break may follow it.
-/

namespace StructSchema

/-! ### Words -/

def CodePoint.isWordStart : CodePoint → Bool :=
  isAscii fun c => c.isAlpha || c == '_'

def CodePoint.isWordPart : CodePoint → Bool :=
  isAscii fun c => c.isAlphanum || c == '_'

/-- A non-empty text of word characters that does not begin with a digit. -/
def Text.isPlainWord : Text → Bool
  | [] => false
  | c :: rest => c.isWordStart && rest.all CodePoint.isWordPart

/-- A plain word, or a plain word with one line break after it. -/
def Text.isWord (t : Text) : Bool :=
  Text.isPlainWord t || (t.getLast? == some (.char '\n') && Text.isPlainWord t.dropLast)

/-! ### Names -/

namespace Name

/-- The greatest number of code points in a name. -/
def maxLength : Nat := 32

def isValid (name : Text) : Bool := Text.isWord name && name.length ≤ maxLength

end Name

inductive NameError
  | empty
  | tooLong (name : Text)
  | malformed (name : Text)
  deriving DecidableEq, Repr

def NameError.message : NameError → Text
  | .empty => "name cannot be empty"
  | .tooLong name =>
    "name " ++ Text.quoted name ++ " is too long (" ++ Text.ofNat name.length ++ " > " ++
      Text.ofNat Name.maxLength ++ ")"
  | .malformed name =>
    "name " ++ Text.quoted name ++
      " must start with a letter or underscore and contain only letters, digits and underscores"

namespace Name

/-- The name in small letters; its length is judged before its characters. -/
def normalize (name : Text) : Except NameError Text :=
  if name.isEmpty then .error .empty
  else if maxLength < name.length then .error (.tooLong name)
  else if !Text.isWord name then .error (.malformed name)
  else .ok (Text.toLower name)

end Name

end StructSchema
