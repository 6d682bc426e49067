import StructSchema.Path

/-!
# Glob patterns

Patterns for file names. A star stands for any text, a question mark for any code point, and a
bracket expression for one code point of a set. A bracket that is not closed stands for itself.
A name matches only as a whole, and letter case counts.
-/

namespace StructSchema

namespace Glob

/-- The code points of a bracket expression: those that stand in its parts, and those from the
last of one part to the first of the next. A negated set holds all others. -/
structure Bracket where
  negated : Bool
  parts : List Text
  deriving DecidableEq, Repr

inductive Item
  | star
  | any
  | never
  | point (c : CodePoint)
  | bracket (set : Bracket)
  deriving DecidableEq, Repr

/-! ### Bracket expressions -/

def consPart (c : CodePoint) : List Text → List Text
  | part :: parts => (c :: part) :: parts
  | [] => [[c]]

/-- The parts of a bracket body between the hyphens that make ranges. The first `guard` code
points of a part are no such hyphens; of every later part that is the first two. -/
def splitRanges (guard : Nat) : Text → List Text
  | [] => [[]]
  | c :: rest =>
    match guard with
    | guard + 1 => consPart c (splitRanges guard rest)
    | 0 => if c = .char '-' then [] :: splitRanges 2 rest else consPart c (splitRanges 0 rest)

/-- A hyphen at the end makes no range; it belongs to the part before it. -/
def keepLastHyphen : List Text → List Text
  | [part, []] => [part ++ [.char '-']]
  | part :: parts => part :: keepLastHyphen parts
  | [] => []

/-- A range whose ends are in the wrong order holds nothing, and its ends are no members. -/
def dropReversed : List Text → List Text
  | [] => []
  | part :: parts =>
    match dropReversed parts with
    | [] => [part]
    | next :: more =>
      match part.getLast?, next.head? with
      | some low, some high =>
        if high.val < low.val then (part.dropLast ++ next.tail) :: more else part :: next :: more
      | _, _ => part :: next :: more

/-- The item of a bracket body. An exclamation mark that stands first once reversed ranges are
gone negates the set; a set of nothing never matches, and its negation always does. -/
def ofBody (body : Text) : Item :=
  let guard := if body.head? = some (.char '!') then 2 else 1
  match dropReversed (keepLastHyphen (splitRanges guard body)) with
  | [[]] => .never
  | [[.char '!']] => .any
  | [.char '!'] :: next :: more => .bracket ⟨true, (.char '-' :: next) :: more⟩
  | (.char '!' :: part) :: more => .bracket ⟨true, part :: more⟩
  | parts => .bracket ⟨false, parts⟩

/-- The code points up to the first closing bracket, if there is one. -/
def untilClose? (t : Text) : Option Text :=
  let body := t.takeWhile (· ≠ .char ']')
  if body.length < t.length then some body else none

/-- The body of a bracket expression behind its opening bracket. A closing bracket in the first
place, or behind an exclamation mark in the first place, is a member. -/
def body? (t : Text) : Option Text :=
  match t with
  | .char '!' :: .char ']' :: rest =>
    (untilClose? rest).map fun body => .char '!' :: .char ']' :: body
  | .char ']' :: rest => (untilClose? rest).map fun body => .char ']' :: body
  | _ => untilClose? t

/-! ### Patterns -/

/-- The items of a pattern past its first `skip` code points, which belong to a bracket
expression already read. -/
def itemsFrom (skip : Nat) : Text → List Item
  | [] => []
  | c :: rest =>
    match skip with
    | skip + 1 => itemsFrom skip rest
    | 0 =>
      if c = .char '*' then .star :: itemsFrom 0 rest
      else if c = .char '?' then .any :: itemsFrom 0 rest
      else if c = .char '[' then
        match body? rest with
        | some body => ofBody body :: itemsFrom (body.length + 1) rest
        | none => .point c :: itemsFrom 0 rest
      else .point c :: itemsFrom 0 rest

def items (pattern : Text) : List Item := itemsFrom 0 pattern

/-! ### Matching -/

def inRange (c : CodePoint) : List Text → Bool
  | part :: next :: more =>
    (match part.getLast?, next.head? with
      | some low, some high => low.val ≤ c.val && c.val ≤ high.val
      | _, _ => false) || inRange c (next :: more)
  | _ => false

def Bracket.holds (set : Bracket) (c : CodePoint) : Bool :=
  (set.parts.any (·.contains c) || inRange c set.parts) != set.negated

def Item.takes (item : Item) (c : CodePoint) : Bool :=
  match item with
  | .star => false
  | .any => true
  | .never => false
  | .point p => p = c
  | .bracket set => set.holds c

/-- For every ending of a text, the longest first, whether a star matches some beginning of it
such that what follows is accepted. -/
def afterStar : List Bool → List Bool
  | [] => []
  | accepted :: shorter =>
    let later := afterStar shorter
    (accepted || later.head?.getD false) :: later

/-- For every ending of a text, the longest first, whether an item takes its first code point
and the rest is accepted. -/
def afterItem (item : Item) : Text → List Bool → List Bool
  | c :: rest, _ :: shorter =>
    (item.takes c && shorter.head?.getD false) :: afterItem item rest shorter
  | _, _ => [false]

/-- For every ending of a text, the longest first, whether the items match it as a whole. -/
def endings (t : Text) : List Item → List Bool
  | [] => List.replicate t.length false ++ [true]
  | .star :: rest => afterStar (endings t rest)
  | item :: rest => afterItem item t (endings t rest)

def accepts (pattern t : Text) : Bool := (endings t (items pattern)).head?.getD false

end Glob

/-- Whether the base name of a file matches a pattern; the empty pattern excludes nothing. -/
def isExcluded (pattern file : Text) : Bool :=
  !pattern.isEmpty && Glob.accepts pattern (Path.baseName file)

end StructSchema
