import StructSchema.Yaml.Characters
import StructSchema.Yaml.Moment

/-!
# Reading YAML

A reader for one document of scalars, lists and mappings, in indented blocks or in brackets.
Keys stand on one line with their colon. Anchors, aliases, tags and explicit keys are refused.
-/

namespace StructSchema.Yaml

abbrev Reading (α : Type) := Except ReadFault (α × Marks)

/-- The greatest distance from the start of a key to its colon. -/
def maxKeyLength : Nat := 1024

/-- Whether what was read from `start` on is a key: its colon comes next, on the same line and
not too far away. -/
def isKeyEnd (start rest : Marks) : Bool :=
  rest.char == ':' && rest.line == start.line && start.length - rest.length ≤ maxKeyLength

def isKeyValue : Value → Bool
  | .list _ => false
  | .mapping _ => false
  | _ => true

/-- Entries with one more; of string keys each stands once. -/
def addEntry (key value : Value) (entries : List (Value × Value)) : List (Value × Value) :=
  match key with
  | .string t => Value.putEntry t value entries
  | _ => entries ++ [(key, value)]

def plain (flow : Bool) (least : Nat) (ms : Marks) : Reading Value :=
  let (chars, rest) := plainScalar flow least ms.length ms
  (scalarValue chars).map (·, rest)

def quoted (quote : Char) (ms : Marks) : Reading Value :=
  (quotedScalar quote (ms.length + 1) ms).map fun (t, rest) => (.string t, rest)

/-! ### Brackets -/

mutual

/-- A value in brackets or in quotes, or a plain scalar whose further lines stand at `least`
columns or more. `flow` tells that brackets stand around it. -/
def inline (fuel : Nat) (flow : Bool) (least : Nat) (ms : Marks) : Reading Value :=
  match fuel with
  | 0 => .error .malformed
  | fuel + 1 =>
    if ms.char = '[' then
      (flowItems fuel true (skipGap (ms.drop 1))).map fun (items, rest) => (.list items, rest)
    else if ms.char = '\x7b' then
      (flowEntries fuel [] true (skipGap (ms.drop 1))).map fun (entries, rest) =>
        (.mapping entries, rest)
    else if ms.char = '"' ∨ ms.char = '\'' then quoted ms.char (ms.drop 1)
    else if startsPlain flow ms && !(flow && ms.atBoundary) then plain flow least ms
    else .error .malformed

def flowItems (fuel : Nat) (first : Bool) (ms : Marks) : Reading (List Value) :=
  match fuel with
  | 0 => .error .malformed
  | fuel + 1 =>
    if ms.char = ']' then .ok ([], ms.drop 1)
    else
      let item := if first then ms else skipGap (ms.drop 1)
      if !first && ms.char ≠ ',' then .error .malformed
      else if item.char = ']' ∧ !first then .ok ([], item.drop 1)
      else
        match inline fuel true 0 item with
        | .error e => .error e
        | .ok (value, rest) =>
          let next := skipGap rest
          if isKeyEnd item next then
            match flowValue fuel ']' (next.drop 1) with
            | .error e => .error e
            | .ok (paired, rest) =>
              if isKeyValue value then
                (flowItems fuel false (skipGap rest)).map fun (items, rest) =>
                  (.mapping [(value, paired)] :: items, rest)
              else .error .malformed
          else
            (flowItems fuel false next).map fun (items, rest) => (value :: items, rest)

/-- The value behind a colon in brackets; null if none is given. -/
def flowValue (fuel : Nat) (closing : Char) (ms : Marks) : Reading Value :=
  match fuel with
  | 0 => .error .malformed
  | fuel + 1 =>
    let start := skipGap ms
    if start.char = ',' ∨ start.char = closing then .ok (.null, start)
    else inline fuel true 0 start

/-- The entries of a mapping in brackets behind those read so far, the first of them or those
behind the first. -/
def flowEntries (fuel : Nat) (before : List (Value × Value)) (first : Bool) (ms : Marks) :
    Reading (List (Value × Value)) :=
  match fuel with
  | 0 => .error .malformed
  | fuel + 1 =>
    if ms.char = '\x7d' then .ok (before, ms.drop 1)
    else
      let entry := if first then ms else skipGap (ms.drop 1)
      if !first && ms.char ≠ ',' then .error .malformed
      else if entry.char = '\x7d' ∧ !first then .ok (before, entry.drop 1)
      else
        match inline fuel true 0 entry with
        | .error e => .error e
        | .ok (key, rest) =>
          let next := skipGap rest
          if !isKeyValue key then .error .malformed
          else if isKeyEnd entry next then
            match flowValue fuel '\x7d' (next.drop 1) with
            | .error e => .error e
            | .ok (value, rest) => flowEntries fuel (addEntry key value before) false (skipGap rest)
          else flowEntries fuel (addEntry key .null before) false next

end

/-! ### Blocks -/

/-- Whether the text is at a line break, a comment or its end, once spaces are passed over. -/
def atLineEnd (ms : Marks) : Bool :=
  let rest := ms.skipSpaces
  rest.atEnd || isBreak rest.char || rest.char == '#'

/-- Whether a token belongs to a block whose items stand at `least` columns or more. -/
def isInside (least : Nat) (ms : Marks) : Bool :=
  !ms.atEnd && !ms.atBoundary && least ≤ ms.column

def blockText (folded : Bool) (least : Nat) (ms : Marks) : Reading Value :=
  match blockScalar? folded least ms with
  | some (chars, rest) => .ok (.string (chars.map .char), rest)
  | none => .error .malformed

mutual

/-- A value in a block, whose lines stand at `least` columns or more. `keyed` tells that it may
begin a collection here. -/
def block (fuel : Nat) (least : Nat) (keyed : Bool) (ms : Marks) : Reading Value :=
  match fuel with
  | 0 => .error .malformed
  | fuel + 1 =>
    if ms.atIndicator '-' then
      if keyed then
        (blockItems fuel true ms.column ms).map fun (items, rest) => (.list items, rest)
      else .error .malformed
    else if ms.char = '|' ∨ ms.char = '>' then blockText (ms.char = '>') least (ms.drop 1)
    else
      match inline fuel false least ms with
      | .error e => .error e
      | .ok (value, rest) =>
        let next := rest.skipSpaces
        if next.atIndicator ':' then
          if keyed && isKeyEnd ms next && isKeyValue value then
            (blockEntries fuel [] ms.column value (next.drop 1)).map fun (entries, rest) =>
              (.mapping entries, rest)
          else .error .malformed
        else if atLineEnd rest then .ok (value, rest)
        else .error .malformed

/-- The value that is nested in a collection at a column, behind the sign that asks for it; null
if none is given. -/
def nested (fuel : Nat) (keyed listed : Bool) (column : Nat) (ms : Marks) : Reading Value :=
  match fuel with
  | 0 => .error .malformed
  | fuel + 1 =>
    let start := skipGap ms
    if start.line = ms.line ∧ !start.atEnd then block fuel (column + 1) keyed start
    else if isInside (column + 1) start then block fuel (column + 1) true start
    else if listed && start.column == column && start.atIndicator '-' && !start.atBoundary then
      (blockItems fuel false column start).map fun (items, rest) => (.list items, rest)
    else .ok (.null, ms)

/-- The items of a list at a column. A list that stands at the column of the mapping around it
ends where the next key begins. -/
def blockItems (fuel : Nat) (own : Bool) (column : Nat) (ms : Marks) : Reading (List Value) :=
  match fuel with
  | 0 => .error .malformed
  | fuel + 1 =>
    match nested fuel true false column (ms.drop 1) with
    | .error e => .error e
    | .ok (value, rest) =>
      let next := skipGap rest
      if isInside column next then
        if next.column = column then
          if next.atIndicator '-' then
            (blockItems fuel own column next).map fun (items, rest) => (value :: items, rest)
          else if own then .error .malformed
          else .ok ([value], rest)
        else .error .malformed
      else .ok ([value], rest)

/-- The entries of a mapping at a column behind those read so far; the key of the next one and
its colon have been read. -/
def blockEntries (fuel : Nat) (before : List (Value × Value)) (column : Nat) (key : Value)
    (ms : Marks) : Reading (List (Value × Value)) :=
  match fuel with
  | 0 => .error .malformed
  | fuel + 1 =>
    match nested fuel false true column ms with
    | .error e => .error e
    | .ok (value, rest) =>
      let entries := addEntry key value before
      let next := skipGap rest
      if isInside column next then
        if next.column ≠ column then .error .malformed
        else
          match inline fuel false (column + 1) next with
          | .error e => .error e
          | .ok (key, after) =>
            let colon := after.skipSpaces
            if colon.atIndicator ':' && isKeyEnd next colon && isKeyValue key then
              blockEntries fuel entries column key (colon.drop 1)
            else .error .malformed
      else .ok (entries, rest)

end

/-! ### Documents -/

/-- The text behind the marks that end documents, if nothing else follows them. -/
def skipEnds : Nat → Marks → Bool
  | 0, _ => false
  | fuel + 1, ms =>
    let next := skipGap ms
    next.atEnd || (next.atDocument '.' && skipEnds fuel (next.drop 3))

/-- The text behind lines that give directives, and whether there was one. -/
def skipDirectives : Nat → Marks → Bool × Marks
  | 0, ms => (false, ms)
  | fuel + 1, ms =>
    let next := skipGap ms
    if next.char = '%' ∧ next.column = 0 then (true, (skipDirectives fuel next.skipLine).2)
    else (false, next)

/-- The value of a text that holds one document; null for a text without any. -/
def parse (cs : List Char) : Except ReadFault Value :=
  match marks? cs with
  | none => .error .malformed
  | some ms =>
    let fuel := 4 * cs.length + 16
    let (directed, start) := skipDirectives fuel ms
    let root : Reading Value :=
      if start.atDocument '-' then
        let body := skipGap (start.drop 3)
        if body.atEnd || body.atBoundary then .ok (.null, start.drop 3)
        else block fuel 0 (body.line ≠ start.line) body
      else if directed || start.atDocument '.' then .error .malformed
      else if start.atEnd then .ok (.null, start)
      else block fuel 0 true start
    match root with
    | .error e => .error e
    | .ok (value, rest) => if skipEnds fuel rest then .ok value else .error .malformed

end StructSchema.Yaml
