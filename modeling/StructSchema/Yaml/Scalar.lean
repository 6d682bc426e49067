import StructSchema.Value

/-!
# Plain scalars

The value of a scalar that stands without quotes, by the rules of YAML 1.1: words for null and
for the truth values, integers in five notations, floating-point numbers in base ten and sixty,
and strings for everything else. Dates and times are read apart.
-/

namespace StructSchema.Yaml

/-! ### Digits -/

/-- A decimal digit, or an underscore, which counts for nothing. -/
def isLooseDigit (c : Char) : Bool := c.isDigit || c == '_'

/-- The value of a digit in a base up to sixteen. -/
def digitValue (c : Char) : Nat :=
  if c.isDigit then c.toNat - '0'.toNat
  else if 'a' ≤ c ∧ c ≤ 'f' then c.toNat - 'a'.toNat + 10
  else c.toNat - 'A'.toNat + 10

/-- The number that digits denote in a base; underscores are left out. -/
def numeral (base : Nat) (digits : List Char) : Nat :=
  (digits.filter (· ≠ '_')).foldl (fun n c => n * base + digitValue c) 0

def digitCount (digits : List Char) : Nat := (digits.filter (· ≠ '_')).length

def splitSign (cs : List Char) : Bool × List Char :=
  match cs with
  | '-' :: rest => (true, rest)
  | '+' :: rest => (false, rest)
  | _ => (false, cs)

def splitColons (cs : List Char) : List (List Char) :=
  cs.foldr (fun c parts =>
    if c = ':' then [] :: parts
    else
      match parts with
      | part :: parts => (c :: part) :: parts
      | [] => [[c]]) [[]]

/-- One or two digits below sixty. -/
def isSixtieth (part : List Char) : Bool :=
  match part with
  | [a] => a.isDigit
  | [a, b] => '0' ≤ a && a ≤ '5' && b.isDigit
  | _ => false

/-! ### Integers -/

/-- Digits of a base that must be given and must not be too many. -/
def basedInteger (base : Nat) (digits : List Char) : Except ReadFault Nat :=
  if digitCount digits = 0 then .error .outOfRange else .ok (numeral base digits)

def decimalInteger (digits : List Char) : Except ReadFault Nat :=
  if Value.maxDigits < digitCount digits then .error .outOfRange else .ok (numeral 10 digits)

/-- An integer without its sign, in one of the five notations; none if it is no integer. -/
def integer? (cs : List Char) : Option (Except ReadFault Nat) :=
  match cs with
  | ['0'] => some (.ok 0)
  | '0' :: 'b' :: c :: rest =>
    if (c :: rest).all fun c => c == '0' || c == '1' || c == '_' then
      some (basedInteger 2 (c :: rest))
    else none
  | '0' :: 'x' :: c :: rest =>
    if (c :: rest).all fun c => isLooseDigit c || ('a' ≤ c && c ≤ 'f') || ('A' ≤ c && c ≤ 'F') then
      some (basedInteger 16 (c :: rest))
    else none
  | '0' :: rest =>
    if rest.all fun c => ('0' ≤ c && c ≤ '7') || c == '_' then some (.ok (numeral 8 rest)) else none
  | c :: _ =>
    if '1' ≤ c ∧ c ≤ '9' then
      match splitColons cs with
      | [] => none
      | [digits] => if digits.all isLooseDigit then some (decimalInteger digits) else none
      | first :: sixtieths =>
        if first.all isLooseDigit && sixtieths.all isSixtieth then
          some ((decimalInteger first).map fun n =>
            sixtieths.foldl (fun n part => n * 60 + numeral 10 part) n)
        else none
    else none
  | [] => none

/-! ### Floating-point numbers -/

/-- An exponent, whose sign must be given; zero if there is none. -/
def exponent? (cs : List Char) : Option Int :=
  match cs with
  | [] => some 0
  | e :: sign :: c :: rest =>
    if (e = 'e' ∨ e = 'E') ∧ (sign = '+' ∨ sign = '-') ∧ (c :: rest).all Char.isDigit then
      let n : Int := numeral 10 (c :: rest)
      some (if sign = '-' then -n else n)
    else none
  | _ => none

def pointed (whole places : List Char) (exponent : Int) : Float :=
  Decimal.ofDigits (numeral 10 (whole ++ places)) (exponent - digitCount places)

/-- A floating-point number without its sign; none if it is no such number. -/
def magnitude? (cs : List Char) : Option Float :=
  let whole := cs.takeWhile (· ≠ '.')
  match cs.dropWhile (· ≠ '.') with
  | [] => none
  | _ :: rest =>
    let places := rest.takeWhile isLooseDigit
    let behind := rest.dropWhile isLooseDigit
    match splitColons whole with
    | [digits] =>
      if digits.head?.any Char.isDigit && digits.all isLooseDigit then
        (exponent? behind).map (pointed digits places)
      else none
    | first :: sixtieths =>
      if first.head?.any Char.isDigit && first.all isLooseDigit && sixtieths.all isSixtieth &&
          behind.isEmpty then
        let units := pointed (sixtieths.getLast?.getD []) places 0
        let higher := (first :: sixtieths).dropLast.reverse.map fun part => pointed part [] 0
        some (higher.foldl (fun (sum, base) part => (sum + part * base, base * 60.0))
          (units, (60.0 : Float))).1
      else none
    | [] => none

def fraction? (cs : List Char) : Option Float :=
  match cs with
  | '.' :: c :: rest =>
    if c.isDigit then
      let places := c :: rest.takeWhile isLooseDigit
      (exponent? (rest.dropWhile isLooseDigit)).map (pointed [] places)
    else none
  | _ => none

def float? (cs : List Char) : Option Float :=
  let (negative, unsigned) := splitSign cs
  let word := String.ofList unsigned
  if [".nan", ".NaN", ".NAN"].contains (String.ofList cs) then some (0.0 / 0.0)
  else if [".inf", ".Inf", ".INF"].contains word then
    some (if negative then -1.0 / 0.0 else 1.0 / 0.0)
  else if let some x := fraction? cs then some x
  else (magnitude? unsigned).map fun x => if negative then -x else x

/-! ### Scalars -/

def nullWords : List String := ["", "~", "null", "Null", "NULL"]

def trueWords : List String := ["yes", "Yes", "YES", "true", "True", "TRUE", "on", "On", "ON"]

def falseWords : List String := ["no", "No", "NO", "false", "False", "FALSE", "off", "Off", "OFF"]

/-- Words that stand for something other than a value: a default, or entries to merge. -/
def refusedWords : List String := ["=", "<<"]

def plainValue (cs : List Char) : Except ReadFault Value :=
  let word := String.ofList cs
  if nullWords.contains word then .ok .null
  else if trueWords.contains word then .ok (.bool true)
  else if falseWords.contains word then .ok (.bool false)
  else if refusedWords.contains word then .error .malformed
  else if let some x := float? cs then .ok (.float x)
  else
    let (negative, unsigned) := splitSign cs
    match integer? unsigned with
    | some n => n.map fun n => .int (if negative then -(n : Int) else n)
    | none => .ok (.string (cs.map .char))

end StructSchema.Yaml
