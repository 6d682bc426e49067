import StructSchema.Decimal
import StructSchema.Text.Quoted

/-!
# Values

Data as configuration files and reports hold it. A mapping keeps its entries in the order in
which their keys were first given. Of data that are none of the usual kinds, such as dates, no more
is known than what may be asked of them.
-/

namespace StructSchema

/-- Why a text does not give a value: it is not well formed, or it names a number that is too
long or a code point that does not exist. -/
inductive ReadFault
  | malformed
  | outOfRange
  deriving DecidableEq, Repr

inductive Value
  | null
  | bool (b : Bool)
  | int (n : Int)
  | float (x : Float)
  | string (t : Text)
  | list (items : List Value)
  | mapping (entries : List (Value × Value))
  | object (text nested : Text) (given writable : Bool)

namespace Value

/-- The greatest number of digits of an integer that is read or written. -/
def maxDigits : Nat := 4300

instance : Inhabited Value := ⟨.null⟩

instance : Coe Text Value := ⟨.string⟩

/-! ### Text -/

mutual

/-- The text of a value inside another one: strings are quoted. -/
def nestedText : Value → Text
  | .null => "None"
  | .bool b => if b then "True" else "False"
  | .int n => Text.ofInt n
  | .float x => Decimal.render "inf" "nan" x
  | .string t => Text.quoted t
  | .list items => "[" ++ itemTexts items ++ "]"
  | .mapping entries => "\x7b" ++ entryTexts entries ++ "\x7d"
  | .object _ nested _ _ => nested

def itemTexts : List Value → Text
  | [] => []
  | [item] => nestedText item
  | item :: rest => nestedText item ++ ", " ++ itemTexts rest

def entryTexts : List (Value × Value) → Text
  | [] => []
  | [(key, value)] => nestedText key ++ ": " ++ nestedText value
  | (key, value) :: rest => nestedText key ++ ": " ++ nestedText value ++ ", " ++ entryTexts rest

end

/-- The text of a value: a string as it is, an object as it says, and anything else as it stands
inside other values. -/
def text : Value → Text
  | .string t => t
  | .object text _ _ _ => text
  | v => v.nestedText

mutual

/-- Whether a value has a text: no integer in it has too many digits, and no object refuses. -/
def isWritable : Value → Bool
  | .int n => decide (n.natAbs < Nat.pow 10 maxDigits)
  | .list items => itemsWritable items
  | .mapping entries => entriesWritable entries
  | .object _ _ _ writable => writable
  | _ => true

def itemsWritable : List Value → Bool
  | [] => true
  | item :: rest => isWritable item && itemsWritable rest

def entriesWritable : List (Value × Value) → Bool
  | [] => true
  | (key, value) :: rest => isWritable key && isWritable value && entriesWritable rest

end

/-- Values that count as given; what is empty or zero does not. -/
def isGiven : Value → Bool
  | .null => false
  | .bool b => b
  | .int n => n ≠ 0
  | .float x => x != 0.0
  | .string t => !t.isEmpty
  | .list items => !items.isEmpty
  | .mapping entries => !entries.isEmpty
  | .object _ _ given _ => given

/-! ### Mappings with text keys -/

def string? : Value → Option Text
  | .string t => some t
  | _ => none

/-- Whether a key is a string with a text. -/
def isKey (key : Text) : Value → Bool
  | .string t => t = key
  | _ => false

def lookup? (key : Text) (entries : List (Value × Value)) : Option Value :=
  (entries.find? fun (k, _) => k.isKey key).map (·.2)

/-- A mapping with text keys. -/
def ofFields (fields : List (Text × Value)) : Value :=
  .mapping (fields.map fun (key, value) => (.string key, value))

def ofTexts (texts : List Text) : Value := .list (texts.map .string)

def ofOption (value : Option Value) : Value := value.getD .null

/-- Entries with one more: an old value under the same key is replaced in its place. -/
def putEntry (key : Text) (value : Value) : List (Value × Value) → List (Value × Value)
  | [] => [(.string key, value)]
  | (k, v) :: rest => if k.isKey key then (k, value) :: rest else (k, v) :: putEntry key value rest

end Value

end StructSchema
