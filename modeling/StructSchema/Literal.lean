import StructSchema.Text.Quoted
import StructSchema.Text.Utf8

/-!
# String literals

The value of a Go string literal. A raw literal stands between backticks and is taken as it is,
without carriage returns. An interpreted literal is a sequence of items, each of which denotes
bytes: a character denotes its encoding, `\x` and octal escapes one byte each, `\u` and `\U`
the encoding of a code point. The value is the lossless reading of all these bytes together, so
that neighbouring items may join into one character.
-/

namespace StructSchema

/-! ### Faults -/

/-- What is wrong with a literal: its syntax, or a code point in it that has no bytes. -/
inductive LiteralFault
  | notInterpreted
  | rawBacktick
  | unterminatedEscape
  | badHex (letter : Char)
  | badCodePoint (letter : Char) (digits : Text)
  | badOctal
  | octalRange (digits : Text)
  | unknownEscape (escape : CodePoint)
  | unencodable (c : CodePoint)
  deriving DecidableEq, Repr

def LiteralFault.isSyntax : LiteralFault → Bool
  | .unencodable _ => false
  | _ => true

/-- A text that is no string literal, with the reason. -/
structure LiteralError where
  fault : LiteralFault
  literal : Text
  deriving DecidableEq, Repr

def LiteralError.message (e : LiteralError) : Text :=
  let subject := Text.quoted e.literal
  match e.fault with
  | .notInterpreted => "invalid string literal " ++ subject
  | .rawBacktick => "invalid raw string literal " ++ subject
  | .unterminatedEscape => "unterminated escape in " ++ subject
  | .badHex letter => "invalid \\" ++ ([.char letter] : Text) ++ " escape in " ++ subject
  | .badCodePoint letter digits =>
    "escape \\" ++ ([.char letter] : Text) ++ digits ++ " is not a valid code point in " ++ subject
  | .badOctal => "invalid octal escape in " ++ subject
  | .octalRange digits => "octal escape \\" ++ digits ++ " exceeds 255 in " ++ subject
  | .unknownEscape escape => "unknown escape \\" ++ ([escape] : Text) ++ " in " ++ subject
  | .unencodable c =>
    "'utf-8' codec can't encode character '\\u" ++ Text.hexDigits 4 c.val ++
      "' in position 0: surrogates not allowed"

namespace Literal

/-! ### Items -/

def simpleEscape? : Char → Option UInt8
  | 'a' => some 7
  | 'b' => some 8
  | 'f' => some 12
  | 'n' => some 10
  | 'r' => some 13
  | 't' => some 9
  | 'v' => some 11
  | '\\' => some 92
  | '"' => some 34
  | _ => none

def hexWidth? : Char → Option Nat
  | 'x' => some 2
  | 'u' => some 4
  | 'U' => some 8
  | _ => none

def hexValue? : CodePoint → Option Nat
  | .char c =>
    if '0' ≤ c ∧ c ≤ '9' then some (c.toNat - '0'.toNat)
    else if 'a' ≤ c ∧ c ≤ 'f' then some (c.toNat - 'a'.toNat + 10)
    else if 'A' ≤ c ∧ c ≤ 'F' then some (c.toNat - 'A'.toNat + 10)
    else none
  | .lone _ => none

def octalValue? : CodePoint → Option Nat
  | .char c => if '0' ≤ c ∧ c ≤ '7' then some (c.toNat - '0'.toNat) else none
  | .lone _ => none

/-- The number that digits denote in a base. -/
def numeral (base : Nat) (digits : List Nat) : Nat :=
  digits.foldl (fun value digit => value * base + digit) 0

/-- The bytes of an escape, read from the text after its backslash, and the number of code
points that it takes there. -/
def escape (rest : Text) : Except LiteralFault (List UInt8 × Nat) :=
  match rest with
  | [] => .error .unterminatedEscape
  | .lone half :: _ => .error (.unknownEscape (.lone half))
  | .char c :: after =>
    if let some b := simpleEscape? c then .ok ([b], 1)
    else if let some width := hexWidth? c then
      let digits := after.take width
      match digits.mapM hexValue? with
      | none => .error (.badHex c)
      | some values =>
        let n := numeral 16 values
        if values.length ≠ width then .error (.badHex c)
        else if c = 'x' then .ok ([.ofNat n], width + 1)
        else if h : n.isValidChar then .ok (String.utf8EncodeChar (Char.ofNatAux n h), width + 1)
        else .error (.badCodePoint c digits)
    else if (octalValue? (.char c)).isSome then
      let digits := rest.take 3
      match digits.mapM octalValue? with
      | none => .error .badOctal
      | some values =>
        let n := numeral 8 values
        if values.length ≠ 3 then .error .badOctal
        else if 255 < n then .error (.octalRange digits)
        else .ok ([.ofNat n], 3)
    else .error (.unknownEscape (.char c))

/-- The bytes of a body past its first `skip` code points, which belong to an item already
read. A quote or a line break is no item. -/
def bytesFrom (skip : Nat) : Text → Except LiteralFault (List UInt8)
  | [] => .ok []
  | c :: rest =>
    match skip with
    | skip + 1 => bytesFrom skip rest
    | 0 =>
      if c = .char '"' ∨ c = .char '\n' then .error .notInterpreted
      else if c = .char '\\' then do
        let (bytes, width) ← escape rest
        return bytes ++ (← bytesFrom width rest)
      else
        match Utf8.encodePoint? c with
        | some bytes => return bytes ++ (← bytesFrom 0 rest)
        | none => .error (.unencodable c)

def bytes (body : Text) : Except LiteralFault (List UInt8) := bytesFrom 0 body

/-! ### Literals -/

/-- The body of a text that begins and ends with the same quote. -/
def body? (quote : Char) (literal : Text) : Option Text :=
  match literal with
  | first :: rest =>
    if first = .char quote ∧ rest.getLast? = some (.char quote) then some rest.dropLast else none
  | [] => none

/-- The value of a literal, or what is wrong with it. -/
def value (literal : Text) : Except LiteralFault Text :=
  if let some body := body? '\x60' literal then
    if body.contains (.char '\x60') then .error .rawBacktick
    else .ok (body.filter (· ≠ .char '\r'))
  else if let some body := body? '"' literal then
    (bytes body).map Utf8.decodeLossless
  else .error .notInterpreted

def decode (literal : Text) : Except LiteralError Text :=
  (value literal).mapError (⟨·, literal⟩)

end Literal

end StructSchema
