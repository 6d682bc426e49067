import StructSchema.Value

/-!
# Reading JSON

A reader of JSON text. Beyond the standard it takes `NaN`, `Infinity` and `-Infinity` as
numbers; a surrogate escape that has no partner stays as it is, and of several entries under one
key the last counts, in the place of the first.
-/

namespace StructSchema.Json

/-- A reading, with the text behind it. -/
abbrev Reading (α : Type) := Except ReadFault (α × List Char)

def skipBlanks (cs : List Char) : List Char :=
  cs.dropWhile fun c => c == ' ' || c == '\t' || c == '\n' || c == '\r'

/-! ### Strings -/

def hexNumber? (digits : List Char) : Option Nat :=
  digits.foldlM (fun n c =>
    if '0' ≤ c ∧ c ≤ '9' then some (n * 16 + (c.toNat - '0'.toNat))
    else if 'a' ≤ c ∧ c ≤ 'f' then some (n * 16 + (c.toNat - 'a'.toNat + 10))
    else if 'A' ≤ c ∧ c ≤ 'F' then some (n * 16 + (c.toNat - 'A'.toNat + 10))
    else none) 0

def simpleEscape? : Char → Option Char
  | '"' => some '"'
  | '\\' => some '\\'
  | '/' => some '/'
  | 'b' => some '\x08'
  | 'f' => some '\x0c'
  | 'n' => some '\n'
  | 'r' => some '\r'
  | 't' => some '\t'
  | _ => none

/-- A code point before a text; a high surrogate joins with a low one that begins it. -/
def joinSurrogate (c : CodePoint) (rest : Text) : Text :=
  match c, rest with
  | .lone high, .lone low :: after =>
    if high.val < 0x400 ∧ 0x400 ≤ low.val then
      .char (Char.ofNat (0x10000 + high.val * 0x400 + (low.val - 0x400))) :: after
    else c :: rest
  | _, _ => c :: rest

/-- The string behind an opening quote, up to the closing one. -/
def stringBody : List Char → Reading Text
  | [] => .error .malformed
  | '"' :: rest => .ok ([], rest)
  | '\\' :: 'u' :: a :: b :: c :: d :: rest =>
    match (hexNumber? [a, b, c, d]).bind CodePoint.ofNat?, stringBody rest with
    | some point, .ok (text, after) => .ok (joinSurrogate point text, after)
    | _, _ => .error .malformed
  | '\\' :: c :: rest =>
    match simpleEscape? c, stringBody rest with
    | some e, .ok (text, after) => .ok (.char e :: text, after)
    | _, _ => .error .malformed
  | c :: rest =>
    if c < ' ' ∨ c = '\\' then .error .malformed
    else
      match stringBody rest with
      | .ok (text, after) => .ok (.char c :: text, after)
      | .error e => .error e

/-! ### Numbers -/

/-- The number that decimal digits denote. -/
def digitsValue (digits : List Char) : Nat :=
  digits.foldl (fun n c => n * 10 + (c.toNat - '0'.toNat)) 0

/-- The digits of a fraction behind a point, and the text behind them. -/
def fraction (cs : List Char) : List Char × List Char :=
  match cs with
  | '.' :: rest =>
    if rest.head?.any Char.isDigit then
      (rest.takeWhile Char.isDigit, rest.dropWhile Char.isDigit)
    else ([], cs)
  | _ => ([], cs)

/-- An exponent with its letter, and the text behind it. -/
def exponent (cs : List Char) : Option Int × List Char :=
  match cs with
  | c :: rest =>
    if c = 'e' ∨ c = 'E' then
      let (negative, digits) :=
        match rest with
        | '-' :: digits => (true, digits)
        | '+' :: digits => (false, digits)
        | digits => (false, digits)
      if digits.head?.any Char.isDigit then
        let value : Int := digitsValue (digits.takeWhile Char.isDigit)
        (some (if negative then -value else value), digits.dropWhile Char.isDigit)
      else (none, cs)
    else (none, cs)
  | [] => (none, cs)

def magnitude (negative : Bool) (cs : List Char) : Reading Value :=
  let (whole, rest) :=
    match cs with
    | '0' :: rest => (['0'], rest)
    | _ => (cs.takeWhile Char.isDigit, cs.dropWhile Char.isDigit)
  if whole.isEmpty then .error .malformed
  else
    let (places, rest) := fraction rest
    let (power, rest) := exponent rest
    if places.isEmpty && power.isNone then
      if Value.maxDigits < whole.length then .error .outOfRange
      else
        let n : Int := digitsValue whole
        .ok (.int (if negative then -n else n), rest)
    else
      let x := Decimal.ofDigits (digitsValue (whole ++ places)) (power.getD 0 - places.length)
      .ok (.float (if negative then -x else x), rest)

/-! ### Values -/

/-- Reads the key of an entry with its colon. -/
def entryKey (cs : List Char) : Reading Text :=
  match cs with
  | '"' :: rest =>
    match stringBody rest with
    | .error e => .error e
    | .ok (key, rest) =>
      match skipBlanks rest with
      | ':' :: after => .ok (key, skipBlanks after)
      | _ => .error .malformed
  | _ => .error .malformed

mutual

/-- Reads a value that stands at the head of a text, to a depth of `fuel`. -/
def value (fuel : Nat) (cs : List Char) : Reading Value :=
  match fuel with
  | 0 => .error .malformed
  | fuel + 1 =>
    match cs with
    | '"' :: rest => (stringBody rest).map fun (text, after) => (.string text, after)
    | '[' :: rest =>
      match skipBlanks rest with
      | ']' :: after => .ok (.list [], after)
      | rest => (items fuel rest).map fun (items, after) => (.list items, after)
    | '\x7b' :: rest =>
      match skipBlanks rest with
      | '\x7d' :: after => .ok (.mapping [], after)
      | rest => (entries fuel [] rest).map fun (entries, after) => (.mapping entries, after)
    | 'n' :: 'u' :: 'l' :: 'l' :: after => .ok (.null, after)
    | 't' :: 'r' :: 'u' :: 'e' :: after => .ok (.bool true, after)
    | 'f' :: 'a' :: 'l' :: 's' :: 'e' :: after => .ok (.bool false, after)
    | 'N' :: 'a' :: 'N' :: after => .ok (.float (0.0 / 0.0), after)
    | 'I' :: 'n' :: 'f' :: 'i' :: 'n' :: 'i' :: 't' :: 'y' :: after =>
      .ok (.float (1.0 / 0.0), after)
    | '-' :: 'I' :: 'n' :: 'f' :: 'i' :: 'n' :: 'i' :: 't' :: 'y' :: after =>
      .ok (.float (-1.0 / 0.0), after)
    | '-' :: rest => magnitude true rest
    | _ => magnitude false cs

def items (fuel : Nat) (cs : List Char) : Reading (List Value) :=
  match fuel with
  | 0 => .error .malformed
  | fuel + 1 =>
    match value fuel cs with
    | .error e => .error e
    | .ok (item, rest) =>
      match skipBlanks rest with
      | ']' :: after => .ok ([item], after)
      | ',' :: rest => (items fuel (skipBlanks rest)).map fun (more, after) => (item :: more, after)
      | _ => .error .malformed

/-- Reads the entries of a mapping up to its closing brace, after those read so far. -/
def entries (fuel : Nat) (before : List (Value × Value)) (cs : List Char) :
    Reading (List (Value × Value)) :=
  match fuel with
  | 0 => .error .malformed
  | fuel + 1 =>
    match entryKey cs with
    | .error e => .error e
    | .ok (key, rest) =>
      match value fuel rest with
      | .error e => .error e
      | .ok (item, rest) =>
        match skipBlanks rest with
        | '\x7d' :: after => .ok (Value.putEntry key item before, after)
        | ',' :: rest => entries fuel (Value.putEntry key item before) (skipBlanks rest)
        | _ => .error .malformed

end

/-- The value of a JSON text. Every value takes at least one character, so the length of the
text bounds the depth. -/
def parse (cs : List Char) : Except ReadFault Value :=
  match value (2 * cs.length + 2) (skipBlanks cs) with
  | .error e => .error e
  | .ok (v, rest) => if (skipBlanks rest).isEmpty then .ok v else .error .malformed

end StructSchema.Json
