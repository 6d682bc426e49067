import Mathlib.Data.List.Forall2
import StructSchema.Proofs.Json
import StructSchema.Proofs.JsonNumber
import StructSchema.Proofs.JsonString
import StructSchema.Proofs.Mapping

/-!
# Reading JSON back

A value is read back from its JSON text, between any blanks and for any style. It comes back with
its mappings in the order in which they were written, its floating-point numbers as their digits say
and its strings as they were written. Data without floating-point numbers come back as they were.
-/

namespace StructSchema

namespace Json

/-! ### Blanks -/

theorem skipBlanks_newLine (level : Nat) (cs : List Char) :
    skipBlanks ((newLine level).chars ++ cs) = skipBlanks cs := by
  rw [newLine, Text.chars_map_char]
  refine List.dropWhile_append_of_pos ?_
  refine List.forall_mem_cons.2 ⟨rfl, fun c hc => ?_⟩
  rw [List.eq_of_mem_replicate hc]
  rfl

theorem stops_nil : Stops [] := by
  intro c hc
  cases hc

theorem stops_newLine (level : Nat) (cs : List Char) : Stops ((newLine level).chars ++ cs) := by
  intro c hc
  cases hc
  decide

theorem stops_comma (cs : List Char) : Stops (',' :: cs) := by
  intro c hc
  cases hc
  decide

/-- No value begins with a blank or with a bracket that closes a list. -/
theorem value_of_blank {fuel : Nat} {c : Char} (cs : List Char)
    (hc : c ∈ [' ', '\t', '\n', '\r', ']']) : value (fuel + 1) (c :: cs) = .error .malformed := by
  simp only [List.mem_cons, List.not_mem_nil, or_false] at hc
  rcases hc with rfl | rfl | rfl | rfl | rfl <;> rfl

/-! ### Lists and mappings -/

/-- Whether a text is read as a value, whatever stands behind it that is no part of a number. -/
def Reads (line : Text) (v : Value) : Prop :=
  ∀ fuel rest, line.chars.length < fuel → Stops rest →
    value fuel (line.chars ++ rest) = .ok (v, rest)

theorem Reads.of_succ {line : Text} {v : Value}
    (h : ∀ fuel rest, line.chars.length ≤ fuel → Stops rest →
      value (fuel + 1) (line.chars ++ rest) = .ok (v, rest)) : Reads line v := by
  intro fuel rest hfuel hrest
  cases fuel with
  | zero => cases hfuel
  | succ fuel => exact h fuel rest (Nat.le_of_lt_succ hfuel) hrest

theorem Reads.head {line : Text} {v : Value} (h : Reads line v) :
    ∃ c cs, line.chars = c :: cs ∧ c ∉ [' ', '\t', '\n', '\r', ']'] := by
  have hread := h (line.chars.length + 1) [] (Nat.lt_succ_self _) stops_nil
  rw [List.append_nil] at hread
  cases hline : line.chars with
  | nil =>
    rw [hline] at hread
    cases hread
  | cons c cs =>
    refine ⟨c, cs, rfl, fun hc => ?_⟩
    rw [hline, value_of_blank cs hc] at hread
    cases hread

theorem Reads.skipBlanks {line : Text} {v : Value} (h : Reads line v) (rest : List Char) :
    Json.skipBlanks (line.chars ++ rest) = line.chars ++ rest := by
  obtain ⟨c, cs, hline, hc⟩ := h.head
  rw [hline]
  refine List.dropWhile_cons_of_neg ?_
  simp only [List.mem_cons, List.not_mem_nil, or_false, not_or] at hc
  simp [hc]

theorem Reads.skipBlanks_join {line : Text} {v : Value} (h : Reads line v) (sep : Text)
    (lines : List Text) (rest : List Char) :
    Json.skipBlanks ((Text.join sep (line :: lines)).chars ++ rest) =
      (Text.join sep (line :: lines)).chars ++ rest := by
  rw [Text.join_cons, Text.chars_append, List.append_assoc]
  exact h.skipBlanks _

theorem Reads.head?_join {line : Text} {v : Value} (h : Reads line v) (sep : Text)
    (lines : List Text) (rest : List Char) :
    ((Text.join sep (line :: lines)).chars ++ rest).head? ≠ some ']' := by
  obtain ⟨c, cs, hline, hc⟩ := h.head
  rw [Text.join_cons, Text.chars_append, hline]
  intro heq
  cases heq
  exact hc (by decide)

theorem chars_join_cons_cons (level : Nat) (line next : Text) (lines : List Text) :
    (Text.join ("," ++ newLine level) (line :: next :: lines)).chars =
      line.chars ++ ',' :: ((newLine level).chars ++
        (Text.join ("," ++ newLine level) (next :: lines)).chars) := by
  rw [Text.join_cons, Text.join_cons, List.flatMap_cons]
  simp only [Text.chars_append, List.append_assoc]
  rfl

theorem items_lines {level : Nat} {line : Text} {lines : List Text} {v : Value}
    {values : List Value}
    (h : List.Forall₂ Reads (line :: lines) (v :: values)) {fuel : Nat} (rest : List Char)
    (hfuel : (Text.join ("," ++ newLine (level + 1)) (line :: lines)).chars.length + 1 < fuel) :
    items fuel ((Text.join ("," ++ newLine (level + 1)) (line :: lines)).chars ++
      ((newLine level).chars ++ ']' :: rest)) = .ok (v :: values, rest) := by
  obtain ⟨fuel, rfl⟩ : ∃ n, fuel = n + 1 := ⟨fuel - 1, by omega⟩
  induction lines generalizing line v values fuel with
  | nil =>
    cases h with
    | cons hline hnil =>
      cases hnil
      rw [Text.join_cons, List.flatMap_nil, List.append_nil] at hfuel ⊢
      rw [items, hline fuel _ (by omega) (stops_newLine level _)]
      dsimp only
      rw [skipBlanks_newLine]
      rfl
  | cons next lines ih =>
    cases h with
    | cons hline hlines =>
      cases hlines with
      | cons hnext hmore =>
        rw [chars_join_cons_cons] at hfuel ⊢
        simp only [List.length_append, List.length_cons] at hfuel
        obtain ⟨fuel, rfl⟩ : ∃ n, fuel = n + 1 := ⟨fuel - 1, by omega⟩
        have hrest := ih (.cons hnext hmore) fuel (by omega)
        simp only [List.append_assoc, List.cons_append]
        rw [items, hline (fuel + 1) _ (by omega) (stops_comma _)]
        dsimp only
        show Except.map _ (items (fuel + 1) (skipBlanks (_ ++ (_ ++ _)))) = _
        rw [skipBlanks_newLine, hnext.skipBlanks_join, hrest]
        rfl

/-! ### Entries -/

/-- Entries put one after another into a mapping. -/
def putAll (fields : List (Text × Value)) (before : List (Value × Value)) : List (Value × Value) :=
  fields.foldl (fun entries field => Value.putEntry field.1 field.2 entries) before

def entryLine (ascii : Bool) (line : Text × Text) : Text :=
  writeString ascii line.1 ++ ": " ++ line.2

theorem length_le_entryLine (ascii : Bool) (line : Text × Text) :
    line.2.chars.length ≤ (entryLine ascii line).chars.length := by
  rw [entryLine, Text.chars_append, List.length_append]
  omega

/-- Whether the line of an entry is read as a field. -/
structure ReadsEntry (ascii : Bool) (line : Text × Text) (field : Text × Value) : Prop where
  key : field.1 = rereadText ascii line.1
  reads : Reads line.2 field.2

theorem entryKey_entryLine {ascii : Bool} {line : Text × Text} {field : Text × Value}
    (h : ReadsEntry ascii line field) (rest : List Char) :
    entryKey ((entryLine ascii line).chars ++ rest) = .ok (field.1, line.2.chars ++ rest) := by
  have hline : (entryLine ascii line).chars ++ rest =
      (writeString ascii line.1).chars ++ (':' :: ' ' :: (line.2.chars ++ rest)) := by
    rw [entryLine, Text.chars_append, Text.chars_append, List.append_assoc, List.append_assoc]
    rfl
  have hblank : skipBlanks (' ' :: (line.2.chars ++ rest)) = line.2.chars ++ rest :=
    h.reads.skipBlanks rest
  rw [hline, chars_writeString, entryKey, stringBody_flatMap, h.key]
  show Except.ok (rereadText ascii line.1, skipBlanks (' ' :: (line.2.chars ++ rest))) = _
  rw [hblank]

theorem skipBlanks_entries (ascii : Bool) (sep : Text) (line : Text × Text)
    (lines : List (Text × Text)) (rest : List Char) :
    skipBlanks ((Text.join sep ((line :: lines).map (entryLine ascii))).chars ++ rest) =
      (Text.join sep ((line :: lines).map (entryLine ascii))).chars ++ rest := by
  rw [List.map_cons, Text.join_cons, entryLine, List.append_assoc, List.append_assoc,
    Text.chars_append, List.append_assoc, chars_writeString]
  rfl

theorem entries_lines {ascii : Bool} {level : Nat} {line : Text × Text} {lines : List (Text × Text)}
    {field : Text × Value} {fields : List (Text × Value)}
    (h : List.Forall₂ (ReadsEntry ascii) (line :: lines) (field :: fields)) {fuel : Nat}
    (before : List (Value × Value)) (rest : List Char)
    (hfuel : (Text.join ("," ++ newLine (level + 1))
      ((line :: lines).map (entryLine ascii))).chars.length + 1 < fuel) :
    entries fuel before ((Text.join ("," ++ newLine (level + 1))
      ((line :: lines).map (entryLine ascii))).chars ++ ((newLine level).chars ++ '\x7d' :: rest)) =
    .ok (putAll (field :: fields) before, rest) := by
  obtain ⟨fuel, rfl⟩ : ∃ n, fuel = n + 1 := ⟨fuel - 1, by omega⟩
  induction lines generalizing line field fields before fuel with
  | nil =>
    cases h with
    | cons hline hnil =>
      cases hnil
      rw [List.map_singleton, Text.join_cons, List.flatMap_nil, List.append_nil] at hfuel ⊢
      have hlength := length_le_entryLine ascii line
      rw [entries, entryKey_entryLine hline]
      dsimp only
      rw [hline.reads fuel _ (by omega) (stops_newLine level _)]
      dsimp only
      rw [skipBlanks_newLine]
      rfl
  | cons next lines ih =>
    cases h with
    | cons hline hlines =>
      cases hlines with
      | cons hnext hmore =>
        have hlength := length_le_entryLine ascii line
        rw [List.map_cons, List.map_cons, chars_join_cons_cons, ← List.map_cons] at hfuel ⊢
        simp only [List.length_append, List.length_cons] at hfuel
        obtain ⟨fuel, rfl⟩ : ∃ n, fuel = n + 1 := ⟨fuel - 1, by omega⟩
        have hrest := ih (.cons hnext hmore) (Value.putEntry field.1 field.2 before) fuel (by omega)
        simp only [List.append_assoc, List.cons_append]
        rw [entries, entryKey_entryLine hline]
        dsimp only
        rw [hline.reads (fuel + 1) _ (by omega) (stops_comma _)]
        show entries (fuel + 1) _ (skipBlanks (_ ++ (_ ++ _))) = _
        rw [skipBlanks_newLine, skipBlanks_entries, hrest]
        rfl

/-! ### Values -/

def rereadFloat (x : Float) : Value :=
  match value 1 (Decimal.render "Infinity" "NaN" x).chars with
  | .ok (v, _) => v
  | .error _ => .null

mutual

/-- A value as it is read back when it has been written. -/
def reread (style : Style) : Value → Value
  | .null => .null
  | .bool b => .bool b
  | .int n => .int n
  | .float x => rereadFloat x
  | .string t => .string (rereadText style.ascii t)
  | .list items => .list (rereadItems style items)
  | .mapping entries =>
    .mapping (putAll ((arrange style (rereadEntries style entries)).map fun (key, value) =>
      (rereadText style.ascii key, value)) [])
  | .object text _ _ _ => .string (rereadText style.ascii text)

def rereadItems (style : Style) : List Value → List Value
  | [] => []
  | item :: rest => reread style item :: rereadItems style rest

def rereadEntries (style : Style) : List (Value × Value) → List (Text × Value)
  | [] => []
  | (key, value) :: rest => (keyText key, reread style value) :: rereadEntries style rest

end

theorem rereadItems_eq (style : Style) (items : List Value) :
    rereadItems style items = items.map (reread style) := by
  induction items with
  | nil => rfl
  | cons item rest ih => rw [rereadItems, ih, List.map_cons]

theorem writeItems_eq (style : Style) (level : Nat) (items : List Value) :
    writeItems style level items = items.map (write style level) := by
  induction items with
  | nil => rfl
  | cons item rest ih => rw [writeItems, ih, List.map_cons]

/-- The entries of a mapping under the texts of their keys, in the order in which they are
written. -/
def fieldsOf (style : Style) (entries : List (Value × Value)) : List (Text × Value) :=
  arrange style (entries.map fun entry => (keyText entry.1, entry.2))

theorem arrange_map {α β : Type} (style : Style) (f : α → β) (lines : List (Text × α)) :
    arrange style (lines.map fun line => (line.1, f line.2)) =
      (arrange style lines).map fun line => (line.1, f line.2) := by
  rw [arrange, arrange]
  split
  · symm
    apply List.map_mergeSort
    intros
    rfl
  · rfl

theorem arrange_writeEntries (style : Style) (level : Nat) (entries : List (Value × Value)) :
    arrange style (writeEntries style level entries) =
      (fieldsOf style entries).map fun field => (field.1, write style level field.2) := by
  have hmap : writeEntries style level entries =
      (entries.map fun entry => (keyText entry.1, entry.2)).map
        fun field => (field.1, write style level field.2) := by
    induction entries with
    | nil => rfl
    | cons entry rest ih =>
      rw [writeEntries, ih]
      rfl
  rw [hmap, arrange_map, fieldsOf]

theorem arrange_rereadEntries (style : Style) (entries : List (Value × Value)) :
    arrange style (rereadEntries style entries) =
      (fieldsOf style entries).map fun field => (field.1, reread style field.2) := by
  have hmap : rereadEntries style entries =
      (entries.map fun entry => (keyText entry.1, entry.2)).map
        fun field => (field.1, reread style field.2) := by
    induction entries with
    | nil => rfl
    | cons entry rest ih =>
      rw [rereadEntries, ih]
      rfl
  rw [hmap, arrange_map, fieldsOf]

theorem value_rereadFloat (x : Float) :
    Reads (Decimal.render "Infinity" "NaN" x) (rereadFloat x) := by
  obtain ⟨y, hy⟩ := value_render x
  have hfloat : rereadFloat x = .float y := by
    have hread := hy 0 [] stops_nil
    rw [List.append_nil] at hread
    rw [rereadFloat, hread]
  rw [hfloat]
  exact .of_succ fun fuel rest _ hrest => hy fuel rest hrest

theorem reads_writeString (ascii : Bool) (t : Text) :
    Reads (writeString ascii t) (.string (rereadText ascii t)) := by
  refine .of_succ fun fuel rest _ _ => ?_
  rw [chars_writeString, value, stringBody_flatMap]
  rfl

theorem value_list {cs : List Char} (h : (skipBlanks cs).head? ≠ some ']') (fuel : Nat) :
    value (fuel + 1) ('[' :: cs) =
      (items fuel (skipBlanks cs)).map fun (items, after) => (.list items, after) := by
  rw [value]
  split
  · rename_i heq
    rw [heq] at h
    exact absurd rfl h
  · rfl

theorem value_mapping {cs : List Char} (h : (skipBlanks cs).head? ≠ some '\x7d') (fuel : Nat) :
    value (fuel + 1) ('\x7b' :: cs) =
      (entries fuel [] (skipBlanks cs)).map fun (entries, after) => (.mapping entries, after) := by
  rw [value]
  split
  · rename_i heq
    rw [heq] at h
    exact absurd rfl h
  · rfl

theorem chars_bracketed {opening closing : Text} {left right : Char}
    (hopening : opening.chars = [left])
    (hclosing : closing.chars = [right]) (level : Nat) (line : Text) (lines : List Text)
    (rest : List Char) :
    (bracketed opening closing level (line :: lines)).chars ++ rest =
      left :: ((newLine (level + 1)).chars ++
        ((Text.join ("," ++ newLine (level + 1)) (line :: lines)).chars ++
          ((newLine level).chars ++ right :: rest))) := by
  have hlines : (line :: lines).isEmpty = false := rfl
  simp only [bracketed, hlines, Bool.false_eq_true, if_false, Text.chars_append, hopening, hclosing,
    List.append_assoc, List.cons_append, List.nil_append]

theorem reads_items {level : Nat} {lines : List Text} {values : List Value}
    (h : List.Forall₂ Reads lines values) :
    Reads (bracketed "[" "]" level lines) (.list values) := by
  refine .of_succ fun fuel rest hfuel _ => ?_
  cases h with
  | nil => rfl
  | @cons line v lines values hline hlines =>
    have hchars := @chars_bracketed "[" "]" '[' ']' rfl rfl level line lines
    have hlength := congrArg List.length (hchars [])
    simp only [List.length_append, List.length_cons, List.length_nil] at hlength
    rw [hchars, value_list, skipBlanks_newLine, hline.skipBlanks_join,
      items_lines (.cons hline hlines) rest]
    · rfl
    · omega
    · rw [skipBlanks_newLine, hline.skipBlanks_join]
      exact hline.head?_join _ _ _

theorem reads_fields {ascii : Bool} {level : Nat} {lines : List (Text × Text)}
    {fields : List (Text × Value)} (h : List.Forall₂ (ReadsEntry ascii) lines fields) :
    Reads (bracketed "\x7b" "\x7d" level (lines.map (entryLine ascii)))
      (.mapping (putAll fields [])) := by
  refine .of_succ fun fuel rest hfuel _ => ?_
  cases h with
  | nil => rfl
  | @cons line field lines fields hline hlines =>
    have hchars := @chars_bracketed "\x7b" "\x7d" '\x7b' '\x7d' rfl rfl level (entryLine ascii line)
      (lines.map (entryLine ascii))
    have hlength := congrArg List.length (hchars [])
    simp only [List.length_append, List.length_cons, List.length_nil] at hlength
    have hread :=
      @entries_lines ascii level line lines field fields (.cons hline hlines) fuel [] rest
    have hskip := skipBlanks_entries ascii ("," ++ newLine (level + 1)) line lines
    rw [List.map_cons] at hfuel hread hskip ⊢
    rw [hchars, value_mapping, skipBlanks_newLine, hskip, hread]
    · rfl
    · omega
    · rw [skipBlanks_newLine, hskip, Text.join_cons, entryLine, List.append_assoc,
        List.append_assoc, Text.chars_append, List.append_assoc, chars_writeString]
      intro heq
      cases heq

theorem reads_list {style : Style} {level : Nat} {items : List Value}
    (h : ∀ item ∈ items, Reads (write style (level + 1) item) (reread style item)) :
    Reads (write style level (.list items)) (reread style (.list items)) := by
  rw [write, writeItems_eq, reread, rereadItems_eq]
  apply reads_items
  rw [List.forall₂_map_left_iff, List.forall₂_map_right_iff, List.forall₂_same]
  exact h

theorem reads_mapping {style : Style} {level : Nat} {entries : List (Value × Value)}
    (h : ∀ entry ∈ entries, Reads (write style (level + 1) entry.2) (reread style entry.2)) :
    Reads (write style level (.mapping entries)) (reread style (.mapping entries)) := by
  rw [write, arrange_writeEntries, reread, arrange_rereadEntries]
  apply reads_fields
  rw [List.map_map, List.forall₂_map_left_iff, List.forall₂_map_right_iff, List.forall₂_same]
  intro field hfield
  obtain ⟨entry, hentry, rfl⟩ := List.mem_map.1 ((perm_arrange style _).subset hfield)
  exact ⟨rfl, h entry hentry⟩

theorem reads_int {n : Int} (h : n.natAbs < Nat.pow 10 Value.maxDigits) :
    Reads (Text.ofInt n) (.int n) := .of_succ fun _ _ _ hrest => value_ofInt h hrest

mutual

/-- A written value is read back, whatever stands behind it that is no part of a number. -/
theorem reads_write (style : Style) : ∀ v : Value, v.isWritable = true →
    ∀ level, Reads (write style level v) (reread style v)
  | .null => by
    intro _ level
    rw [write]
    exact .of_succ fun fuel rest _ _ => rfl
  | .bool b => by
    intro _ level
    rw [write]
    refine .of_succ fun fuel rest _ _ => ?_
    cases b <;> rfl
  | .int n => by
    intro h level
    rw [Value.isWritable, decide_eq_true_eq] at h
    rw [write, reread]
    exact reads_int h
  | .float x => by
    intro _ level
    rw [write, reread]
    exact value_rereadFloat x
  | .string t => by
    intro _ level
    rw [write, reread]
    exact reads_writeString style.ascii t
  | .list items => by
    intro h level
    rw [Value.isWritable] at h
    exact reads_list (reads_writeItems style items h (level + 1))
  | .mapping entries => by
    intro h level
    rw [Value.isWritable] at h
    exact reads_mapping (reads_writeEntries style entries h (level + 1))
  | .object text nested given writable => by
    intro _ level
    rw [write, reread]
    exact reads_writeString style.ascii text

theorem reads_writeItems (style : Style) : ∀ items : List Value, Value.itemsWritable items = true →
    ∀ level, ∀ item ∈ items, Reads (write style level item) (reread style item)
  | [] => fun _ _ => List.forall_mem_nil _
  | item :: rest => by
    intro h level
    rw [Value.itemsWritable, Bool.and_eq_true] at h
    exact List.forall_mem_cons.2
      ⟨reads_write style item h.1 level, reads_writeItems style rest h.2 level⟩

theorem reads_writeEntries (style : Style) : ∀ entries : List (Value × Value),
    Value.entriesWritable entries = true →
      ∀ level, ∀ entry ∈ entries, Reads (write style level entry.2) (reread style entry.2)
  | [] => fun _ _ => List.forall_mem_nil _
  | (key, value) :: rest => by
    intro h level
    rw [Value.entriesWritable, Bool.and_eq_true, Bool.and_eq_true] at h
    exact List.forall_mem_cons.2
      ⟨reads_write style value h.1.2 level, reads_writeEntries style rest h.2 level⟩

end

/-- A value whose numbers are not too long to be read is read back from its text. -/
theorem parse_render (style : Style) {v : Value} (h : v.isWritable = true) {blanks : List Char}
    (hblanks : skipBlanks blanks = []) (hstops : Stops blanks) :
    parse ((render style v).chars ++ blanks) = .ok (reread style v) := by
  have hreads := reads_write style v h 0
  have hlength :
      (write style 0 v).chars.length < 2 * ((render style v).chars ++ blanks).length + 2 := by
    rw [List.length_append, render]
    omega
  rw [parse, render] at *
  rw [hreads.skipBlanks, hreads _ _ hlength hstops]
  dsimp only
  rw [hblanks]
  rfl

end Json

end StructSchema
