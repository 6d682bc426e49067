import StructSchema.Yaml.Mark

/-!
# Scalars in a text

The characters of the three forms of scalars. In plain and quoted ones a line break counts as a
space, and every further one for itself; blocks keep their lines or fold them, as their header
tells.
-/

namespace StructSchema.Yaml

/-! ### Line breaks -/

/-- What a line break stands for as a character. -/
def breakChar (c : Char) : Char := if c = '\u2028' ∨ c = '\u2029' then c else '\n'

/-- A line break with those that follow it: a single one becomes a space. -/
def foldBreaks (first : Char) (more : List Char) : List Char :=
  if breakChar first ≠ '\n' then breakChar first :: more
  else if more.isEmpty then [' ']
  else more

/-- The line breaks at the head of a text, up to where a document begins or ends; characters
that satisfy `isBlank` may stand between them. -/
def readBreaks (isBlank : Char → Bool) : Marks → List Char × Marks
  | [] => ([], [])
  | m :: rest =>
    if Marks.atBoundary (m :: rest) then ([], m :: rest)
    else if isBlank m.char then readBreaks isBlank rest
    else if isBreak m.char then
      let (breaks, after) := readBreaks isBlank rest
      (breakChar m.char :: breaks, after)
    else ([], m :: rest)

/-! ### Plain scalars -/

/-- The characters that part collections in brackets. -/
def isFlowSign (c : Char) : Bool := c == ',' || c == '[' || c == ']' || c == '\x7b' || c == '\x7d'

def endsPlain (flow : Bool) (ms : Marks) : Bool :=
  let next : Marks := ms.drop 1
  ms.atGap || (ms.char == ':' && (next.atGap || (flow && isFlowSign next.char))) ||
    (flow && (isFlowSign ms.char || ms.char == '?'))

def plainWord (flow : Bool) : Marks → List Char × Marks
  | [] => ([], [])
  | m :: rest =>
    if endsPlain flow (m :: rest) then ([], m :: rest)
    else
      let (word, after) := plainWord flow rest
      (m.char :: word, after)

/-- What stands between two words of a plain scalar, and the text behind it. -/
def plainGap (ms : Marks) : List Char × Marks :=
  match ms.skipSpaces with
  | [] => ([], [])
  | m :: rest =>
    if isBreak m.char then
      let (breaks, after) := readBreaks (· == ' ') rest
      (foldBreaks m.char breaks, after)
    else ((ms.takeWhile (·.char = ' ')).map (·.char), m :: rest)

/-- A plain scalar whose further lines stand at `least` columns or more, and the text behind its
last word. -/
def plainScalar (flow : Bool) (least : Nat) : Nat → Marks → List Char × Marks
  | 0, ms => ([], ms)
  | fuel + 1, ms =>
    let (word, rest) := plainWord flow ms
    if word.isEmpty then ([], ms)
    else
      let (gap, next) := plainGap rest
      if gap.isEmpty || next.char == '#' || (!flow && next.column < least) || next.atBoundary then
        (word, rest)
      else
        let (more, after) := plainScalar flow least fuel next
        if more.isEmpty then (word, rest) else (word ++ gap ++ more, after)

def startsPlain (flow : Bool) (ms : Marks) : Bool :=
  let isLight := ms.char == '-' || (!flow && (ms.char == '?' || ms.char == ':'))
  !ms.atGap &&
    (!("-?:,[]#&*!|>'\"%@\x60\x7b\x7d".toList.contains ms.char) ||
      (!Marks.atGap (ms.drop 1) && isLight))

/-! ### Quoted scalars -/

def simpleEscape? : Char → Option Char
  | '0' => some '\x00'
  | 'a' => some '\x07'
  | 'b' => some '\x08'
  | 't' => some '\t'
  | '\t' => some '\t'
  | 'n' => some '\n'
  | 'v' => some '\x0b'
  | 'f' => some '\x0c'
  | 'r' => some '\r'
  | 'e' => some '\x1b'
  | ' ' => some ' '
  | '"' => some '"'
  | '\\' => some '\\'
  | '/' => some '/'
  | 'N' => some '\x85'
  | '_' => some '\xA0'
  | 'L' => some '\u2028'
  | 'P' => some '\u2029'
  | _ => none

def escapeWidth? : Char → Option Nat
  | 'x' => some 2
  | 'u' => some 4
  | 'U' => some 8
  | _ => none

def hexValue? (digits : List Char) : Option Nat :=
  digits.foldlM (fun n c =>
    if c.isDigit then some (n * 16 + (c.toNat - '0'.toNat))
    else if 'a' ≤ c ∧ c ≤ 'f' then some (n * 16 + (c.toNat - 'a'.toNat + 10))
    else if 'A' ≤ c ∧ c ≤ 'F' then some (n * 16 + (c.toNat - 'A'.toNat + 10))
    else none) 0

/-- An escape behind its backslash: what it stands for, and the text behind it. -/
def readEscape (ms : Marks) : Except ReadFault (Text × Marks) :=
  let c := ms.char
  if let some e := simpleEscape? c then .ok ([.char e], ms.drop 1)
  else if let some width := escapeWidth? c then
    let digits := ((ms.drop 1).take width).map (·.char)
    match hexValue? digits with
    | none => .error .malformed
    | some n =>
      if digits.length < width then .error .malformed
      else
        match CodePoint.ofNat? n with
        | some point => .ok ([point], ms.drop (1 + width))
        | none => .error .outOfRange
  else if isBreak c then
    let (breaks, after) := readBreaks (fun c => c == ' ' || c == '\t') (ms.drop 1)
    if after.atBoundary then .error .malformed else .ok (breaks.map .char, after)
  else .error .malformed

/-- A quoted scalar behind its opening quote, and the text behind the closing one. -/
def quotedScalar (quote : Char) : Nat → Marks → Except ReadFault (Text × Marks)
  | 0, _ => .error .malformed
  | fuel + 1, ms =>
    let before (t : Text) (rest : Marks) : Except ReadFault (Text × Marks) :=
      (quotedScalar quote fuel rest).map fun (more, after) => (t ++ more, after)
    let c := ms.char
    if ms.atEnd then .error .malformed
    else if c = quote then
      if quote = '\'' ∧ Marks.char (ms.drop 1) = '\'' then before [.char '\''] (ms.drop 2)
      else .ok ([], ms.drop 1)
    else if quote = '"' ∧ c = '\\' then
      match readEscape (ms.drop 1) with
      | .ok (t, rest) => before t rest
      | .error e => .error e
    else if c = ' ' ∨ c = '\t' ∨ isBreak c then
      let isBlank (c : Char) : Bool := c == ' ' || c == '\t'
      let blanks := (ms.takeWhile fun m => isBlank m.char).map (·.char)
      match ms.dropWhile fun m => isBlank m.char with
      | [] => .error .malformed
      | m :: rest =>
        if isBreak m.char then
          let (breaks, after) := readBreaks isBlank rest
          if after.atBoundary then .error .malformed
          else before ((foldBreaks m.char breaks).map .char) after
        else before (blanks.map .char) (m :: rest)
    else before [.char c] (ms.drop 1)

/-! ### Blocks -/

/-- What the header of a block says: whether the line breaks at its end are kept (`+`), dropped
(`-`) or reduced to one, and how far its lines are indented. -/
structure BlockHeader where
  keep : Bool := false
  drop : Bool := false
  indent : Option Nat := none
  deriving DecidableEq, Repr

/-- Takes one more character of a header, which may give each of its two parts once. -/
def BlockHeader.add? (header : BlockHeader) (c : Char) : Option BlockHeader :=
  if c = '+' ∨ c = '-' then
    if header.keep || header.drop then none
    else some { header with keep := c == '+', drop := c == '-' }
  else if '1' ≤ c ∧ c ≤ '9' then
    if header.indent.isSome then none else some { header with indent := some (c.toNat - '0'.toNat) }
  else none

/-- The header of a block behind its sign, and the text from the next line on. -/
def blockHeader? (ms : Marks) : Option (BlockHeader × Marks) :=
  let isSign (m : Mark) : Bool := !isBreak m.char && m.char ≠ ' ' && m.char ≠ '\x00'
  let signs := (ms.takeWhile isSign).map (·.char)
  let rest := Marks.skipSpaces (ms.drop signs.length)
  match signs.foldlM BlockHeader.add? {} with
  | none => none
  | some header =>
    if rest.atEnd then some (header, rest)
    else if isBreak rest.char then some (header, rest.drop 1)
    else if rest.char = '#' then
      some (header, if rest.skipLine.atEnd then rest.skipLine else rest.skipLine.drop 1)
    else none

/-- The blank lines at the head of a block, of which up to `indent` spaces are passed over. -/
def blankLines (indent : Nat) : Marks → List Char × Marks
  | [] => ([], [])
  | m :: rest =>
    if isBreak m.char then
      let (breaks, after) := blankLines indent rest
      (breakChar m.char :: breaks, after)
    else if m.char = ' ' ∧ m.column < indent then blankLines indent rest
    else ([], m :: rest)

/-- The column of the first line of a block that is not blank, or of a longer blank one. -/
def detectIndent (widest : Nat) : Marks → Nat
  | [] => widest
  | m :: rest =>
    if isBreak m.char then detectIndent (max widest m.column) rest
    else if m.char = ' ' then detectIndent (max widest (m.column + 1)) rest
    else widest

def blockLines (folded : Bool) (header : BlockHeader) (indent : Nat) (breaks : List Char) :
    Nat → Marks → List Char × Marks
  | 0, ms => ([], ms)
  | fuel + 1, ms =>
    if ms.column ≠ indent ∨ ms.atEnd then
      (if header.keep then breaks else [], ms)
    else
      let line := (ms.takeWhile fun m => !isBreak m.char && m.char ≠ '\x00').map (·.char)
      let rest : Marks := ms.drop line.length
      let last := if rest.atEnd then [] else [breakChar rest.char]
      let (after, next) := blankLines indent (if rest.atEnd then rest else rest.drop 1)
      if next.column = indent ∧ !next.atEnd then
        let isBlank (c : Char) : Bool := c == ' ' || c == '\t'
        let joint :=
          if folded && last == ['\n'] && !isBlank ms.char && !isBlank next.char then
            (if after.isEmpty then [' '] else [])
          else last
        let (more, behind) := blockLines folded header indent after fuel next
        (breaks ++ line ++ joint ++ more, behind)
      else
        let tail := (if header.drop then [] else last) ++ (if header.keep then after else [])
        (breaks ++ line ++ tail, next)

/-- A block behind its sign; its lines stand at `least` columns or more. -/
def blockScalar? (folded : Bool) (least : Nat) (ms : Marks) : Option (List Char × Marks) :=
  (blockHeader? ms).map fun (header, body) =>
    let least := max 1 least
    let indent :=
      match header.indent with
      | some n => least + n - 1
      | none => max least (detectIndent 0 body)
    let (breaks, first) := blankLines indent body
    blockLines folded header indent breaks (ms.length + 1) first

end StructSchema.Yaml
