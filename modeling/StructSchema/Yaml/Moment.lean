import StructSchema.Yaml.Scalar

/-!
# Dates and times

Scalars that name a day, or a moment of one with or without its distance from universal time.
Their text is the day as it is written, or the moment in full with six places of the second; inside
other values they are shown as calls that make them.
-/

namespace StructSchema.Yaml

/-! ### Calendar -/

def isLeapYear (year : Nat) : Bool := year % 4 = 0 && (year % 100 ≠ 0 || year % 400 = 0)

/-- The number of days of a month; zero for a number that is no month. -/
def daysInMonth (year month : Nat) : Nat :=
  let february := if isLeapYear year then 29 else 28
  ([31, february, 31, 30, 31, 30, 31, 31, 30, 31, 30, 31][month - 1]?).getD 0

structure Day where
  year : Nat
  month : Nat
  day : Nat
  deriving DecidableEq, Repr

def Day.exists (d : Day) : Bool :=
  0 < d.year && 0 < d.month && 0 < d.day && d.day ≤ daysInMonth d.year d.month

/-- A time of day; `offset` is the distance from universal time in minutes. -/
structure Clock where
  hour : Nat
  minute : Nat
  second : Nat
  micros : Nat := 0
  offset : Option Int := none
  deriving DecidableEq, Repr

def Clock.exists (t : Clock) : Bool :=
  t.hour < 24 && t.minute < 60 && t.second < 60 && t.offset.all fun n => n.natAbs < 24 * 60

/-! ### Writing -/

def padded (width n : Nat) : Text :=
  let digits := Nat.toDigits 10 n
  (List.replicate (width - digits.length) '0' ++ digits).map .char

def Day.render (d : Day) : Text :=
  padded 4 d.year ++ "-" ++ padded 2 d.month ++ "-" ++ padded 2 d.day

def offsetText (n : Int) : Text :=
  let sign := if n < 0 then '-' else '+'
  .char sign :: padded 2 (n.natAbs / 60) ++ ":" ++ padded 2 (n.natAbs % 60)

def Clock.render (t : Clock) : Text :=
  let places : Text := if t.micros = 0 then [] else "." ++ padded 6 t.micros
  let offset : Text := (t.offset.map offsetText).getD []
  padded 2 t.hour ++ ":" ++ padded 2 t.minute ++ ":" ++ padded 2 t.second ++ places ++ offset

def listed (numbers : List Nat) : Text := Text.join ", " (numbers.map Text.ofNat)

def Day.nested (d : Day) : Text :=
  "datetime.date(" ++ listed [d.year, d.month, d.day] ++ ")"

def offsetNested (n : Int) : Text :=
  if n = 0 then "datetime.timezone.utc"
  else
    let days : Text := if n < 0 then "days=-1, " else []
    "datetime.timezone(datetime.timedelta(" ++ days ++ "seconds=" ++ Text.ofInt (n * 60 % 86400) ++
      "))"

/-- A moment inside another value; seconds are left out where nothing but zeros would follow. -/
def momentNested (d : Day) (t : Clock) : Text :=
  let ending :=
    if t.micros ≠ 0 then [t.second, t.micros] else if t.second ≠ 0 then [t.second] else []
  let offset : Text := (t.offset.map fun n => ", tzinfo=" ++ offsetNested n).getD []
  "datetime.datetime(" ++ listed ([d.year, d.month, d.day, t.hour, t.minute] ++ ending) ++ offset ++
    ")"

/-! ### Reading -/

/-- The number of the digits that a text begins with, at most `most` of them, and the text behind
them; none if there are fewer than `least`. -/
def digits? (least most : Nat) (cs : List Char) : Option (Nat × List Char) :=
  let run := (cs.take most).takeWhile Char.isDigit
  if least ≤ run.length then some (numeral 10 run, cs.drop run.length) else none

def behind? (sign : Char) (least most : Nat) (cs : List Char) : Option (Nat × List Char) :=
  match cs with
  | c :: rest => if c = sign then digits? least most rest else none
  | [] => none

def day? (cs : List Char) : Option (Day × List Char) := do
  let (year, rest) ← digits? 4 4 cs
  let (month, rest) ← behind? '-' 1 2 rest
  let (day, rest) ← behind? '-' 1 2 rest
  return (⟨year, month, day⟩, rest)

def isGap (c : Char) : Bool := c = ' ' || c = '\t'

/-- The text behind the sign or the blanks between a day and a time. -/
def skipSeparator? (cs : List Char) : Option (List Char) :=
  match cs with
  | [] => none
  | c :: rest =>
    if c = 'T' ∨ c = 't' then some rest else if isGap c then some (rest.dropWhile isGap) else none

/-- The millionths of a second that digits behind the point give. -/
def microsOf (digits : List Char) : Nat := numeral 10 ((digits ++ List.replicate 6 '0').take 6)

/-- The distance from universal time that a text gives; `some none` if it is empty. -/
def offset? (cs : List Char) : Option (Option Int) :=
  match cs.dropWhile isGap with
  | [] => if cs.isEmpty then some none else none
  | ['Z'] => some (some 0)
  | sign :: rest =>
    if sign = '+' ∨ sign = '-' then do
      let (hours, rest) ← digits? 1 2 rest
      let (minutes, rest) ← if rest.isEmpty then some (0, []) else behind? ':' 2 2 rest
      if rest.isEmpty then
        let n : Int := hours * 60 + minutes
        some (some (if sign = '-' then -n else n))
      else none
    else none

def clock? (cs : List Char) : Option Clock := do
  let (hour, rest) ← digits? 1 2 cs
  let (minute, rest) ← behind? ':' 2 2 rest
  let (second, rest) ← behind? ':' 2 2 rest
  let (places, rest) :=
    match rest with
    | '.' :: rest => (rest.takeWhile Char.isDigit, rest.dropWhile Char.isDigit)
    | _ => ([], rest)
  return { hour, minute, second, micros := microsOf places, offset := ← offset? rest }

/-- The day or moment that a scalar names; none if it names neither. A day without a time has two
digits for its month and two for its day. What the calendar or the clock does not have is out of
range. -/
def moment? (cs : List Char) : Option (Except ReadFault Value) :=
  match day? cs with
  | none => none
  | some (day, []) =>
    if cs.length ≠ 10 then none
    else if day.exists then some (.ok (.object day.render day.nested true true))
    else some (.error .outOfRange)
  | some (day, rest) =>
    match (skipSeparator? rest).bind clock? with
    | none => none
    | some time =>
      if day.exists && time.exists then
        some (.ok (.object (day.render ++ " " ++ time.render) (momentNested day time) true true))
      else some (.error .outOfRange)

/-- The value of a plain scalar, dates and times included. -/
def scalarValue (cs : List Char) : Except ReadFault Value :=
  match moment? cs with
  | some moment => moment
  | none => plainValue cs

end StructSchema.Yaml
