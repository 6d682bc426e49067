import StructSchema.Json.Render
import StructSchema.Proofs.Clean
import StructSchema.Proofs.Splitting

/-!
# Clean JSON

A value is clean if all its strings are, wherever they stand in it, keys included. The JSON text of
a clean value is clean: outside its strings it is ASCII, and a string is written point by point. In
ASCII the text of every value is clean.
-/

namespace StructSchema

/-- Whether every string in a value is clean, those of keys included. -/
inductive Value.IsClean : Value → Prop
  | null : IsClean .null
  | bool (b : Bool) : IsClean (.bool b)
  | int (n : Int) : IsClean (.int n)
  | float (x : Float) : IsClean (.float x)
  | string {t : Text} (h : t.IsClean) : IsClean (.string t)
  | list {items : List Value} (h : ∀ item ∈ items, IsClean item) : IsClean (.list items)
  | mapping {entries : List (Value × Value)} (keys : ∀ entry ∈ entries, IsClean entry.1)
    (values : ∀ entry ∈ entries, IsClean entry.2) : IsClean (.mapping entries)
  | object {text nested : Text} (htext : text.IsClean) (hnested : nested.IsClean)
    (given writable : Bool) : IsClean (.object text nested given writable)

/-! ### Numbers -/

namespace Decimal

theorem isClean_exponentText (n : Int) : (exponentText n).IsClean := by
  unfold exponentText
  exact Text.isClean_map_char _

theorem isClean_positional (digits : List Char) (point : Int) :
    (positional digits point).IsClean := by
  unfold positional
  split
  · split
    · rw [Text.isClean_append]
      exact ⟨Text.isClean_ofString _, Text.isClean_map_char _⟩
    · exact Text.isClean_map_char _
  · rw [Text.isClean_append]
    exact ⟨Text.isClean_map_char _, isClean_exponentText _⟩

theorem isClean_magnitudeText (b : Binary) : (magnitudeText b).IsClean := by
  unfold magnitudeText
  split
  · exact Text.isClean_ofString _
  · exact isClean_positional _ _

theorem isClean_render (infinite nan : String) (x : Float) : (render infinite nan x).IsClean := by
  unfold render
  split
  · rw [Text.isClean_append]
    exact ⟨Text.isClean_ofString _, isClean_magnitudeText _⟩
  · rw [Text.isClean_append]
    exact ⟨Text.isClean_ofString _, Text.isClean_ofString _⟩
  · exact Text.isClean_ofString _

end Decimal

/-! ### Values inside texts -/

namespace Value

mutual

theorem isClean_nestedText : ∀ v : Value, v.IsClean → v.nestedText.IsClean
  | .null, _ => by
    rw [nestedText]
    exact Text.isClean_ofString _
  | .bool b, _ => by
    rw [nestedText]
    split
    · exact Text.isClean_ofString _
    · exact Text.isClean_ofString _
  | .int n, _ => by
    rw [nestedText]
    exact Text.isClean_ofInt n
  | .float x, _ => by
    rw [nestedText]
    exact Decimal.isClean_render _ _ x
  | .string t, _ => by
    rw [nestedText]
    exact Text.isClean_quoted t
  | .list items, h => by
    cases h with
    | list hitems =>
      rw [nestedText, Text.isClean_append, Text.isClean_append]
      exact ⟨⟨Text.isClean_ofString _, isClean_itemTexts items hitems⟩, Text.isClean_ofString _⟩
  | .mapping entries, h => by
    cases h with
    | mapping hkeys hvalues =>
      rw [nestedText, Text.isClean_append, Text.isClean_append]
      exact ⟨⟨Text.isClean_ofString _, isClean_entryTexts entries hkeys hvalues⟩,
        Text.isClean_ofString _⟩
  | .object .., h => by
    cases h with
    | object htext hnested =>
      rw [nestedText]
      exact hnested

theorem isClean_itemTexts :
    ∀ items : List Value, (∀ item ∈ items, item.IsClean) → (itemTexts items).IsClean
  | [], _ => by
    rw [itemTexts]
    exact Text.isClean_nil
  | [item], h => by
    rw [itemTexts]
    exact isClean_nestedText item (h item (List.mem_singleton_self item))
  | item :: next :: rest, h => by
    obtain ⟨hitem, hrest⟩ := List.forall_mem_cons.1 h
    rw [itemTexts, Text.isClean_append, Text.isClean_append]
    · exact ⟨⟨isClean_nestedText item hitem, Text.isClean_ofString _⟩,
        isClean_itemTexts (next :: rest) hrest⟩
    · exact List.cons_ne_nil next rest

theorem isClean_entryTexts :
    ∀ entries : List (Value × Value), (∀ entry ∈ entries, entry.1.IsClean) →
      (∀ entry ∈ entries, entry.2.IsClean) → (entryTexts entries).IsClean
  | [], _, _ => by
    rw [entryTexts]
    exact Text.isClean_nil
  | [(key, value)], hkeys, hvalues => by
    have hkey : key.IsClean := hkeys _ (List.mem_singleton_self _)
    have hvalue : value.IsClean := hvalues _ (List.mem_singleton_self _)
    rw [entryTexts, Text.isClean_append, Text.isClean_append]
    exact ⟨⟨isClean_nestedText key hkey, Text.isClean_ofString _⟩, isClean_nestedText value hvalue⟩
  | (key, value) :: next :: rest, hkeys, hvalues => by
    obtain ⟨hkey, hkeys⟩ := List.forall_mem_cons.1 hkeys
    obtain ⟨hvalue, hvalues⟩ := List.forall_mem_cons.1 hvalues
    rw [entryTexts, Text.isClean_append, Text.isClean_append, Text.isClean_append,
      Text.isClean_append]
    · exact ⟨⟨⟨⟨isClean_nestedText key hkey, Text.isClean_ofString _⟩,
        isClean_nestedText value hvalue⟩, Text.isClean_ofString _⟩,
        isClean_entryTexts (next :: rest) hkeys hvalues⟩
    · exact List.cons_ne_nil next rest

end

end Value

/-! ### JSON text -/

namespace Json

theorem isClean_unitEscape (n : Nat) : (unitEscape n).IsClean := by
  rw [unitEscape, Text.isClean_append]
  exact ⟨Text.isClean_ofString _, Text.isClean_hexDigits 4 n⟩

theorem isClean_writePoint {ascii : Bool} {c : CodePoint}
    (h : ascii = false → c.isSurrogate = false) : (writePoint ascii c).IsClean := by
  have hlone : ascii = true → c.isSurrogate = true → 0xD800 ≤ c.val ∧ c.val < 0x10000 := by
    intro _ hc
    cases c with
    | char c => cases hc
    | lone half =>
      show 0xD800 ≤ 0xD800 + half.val ∧ 0xD800 + half.val < 0x10000
      omega
  unfold writePoint
  iterate 7
    split
    · exact Text.isClean_ofString _
  split
  · exact isClean_unitEscape _
  split
  · rw [Text.isClean_append]
    exact ⟨isClean_unitEscape _, isClean_unitEscape _⟩
  · rename_i hunit _
    refine Text.isClean_cons.2 ⟨?_, Text.isClean_nil⟩
    -- in ASCII a surrogate would have been written in figures
    cases hascii : ascii with
    | false => exact h hascii
    | true =>
      rw [← Bool.not_eq_true]
      intro hc
      obtain ⟨hlow, hhigh⟩ := hlone hascii hc
      exact hunit (.inr ⟨hascii, by omega, hhigh⟩)

theorem isClean_writeString {ascii : Bool} {t : Text} (h : ascii = false → t.IsClean) :
    (writeString ascii t).IsClean := by
  have hbody : Text.IsClean (t.flatMap (writePoint ascii)) :=
    Text.isClean_flatMap fun c hc => isClean_writePoint fun hascii => h hascii c hc
  rw [writeString, Text.isClean_append, Text.isClean_append]
  exact ⟨⟨Text.isClean_ofString _, hbody⟩, Text.isClean_ofString _⟩

theorem isClean_keyText {v : Value} (h : v.IsClean) : (keyText v).IsClean := by
  cases h with
  | null => exact Text.isClean_ofString _
  | bool b =>
    cases b with
    | true => exact Text.isClean_ofString _
    | false => exact Text.isClean_ofString _
  | int n => exact Value.isClean_nestedText (.int n) (.int n)
  | float x => exact Decimal.isClean_render _ _ x
  | string ht => exact ht
  | list hitems => exact Value.isClean_nestedText _ (.list hitems)
  | mapping hkeys hvalues => exact Value.isClean_nestedText _ (.mapping hkeys hvalues)
  | object htext hnested => exact htext

theorem isClean_newLine (level : Nat) : (newLine level).IsClean := Text.isClean_map_char _

theorem isClean_join {sep : Text} {parts : List Text} (hsep : sep.IsClean)
    (hparts : ∀ part ∈ parts, Text.IsClean part) : (Text.join sep parts).IsClean := by
  cases parts with
  | nil => exact Text.isClean_nil
  | cons first rest =>
    obtain ⟨hfirst, hrest⟩ := List.forall_mem_cons.1 hparts
    rw [Text.join_cons, Text.isClean_append]
    refine ⟨hfirst, Text.isClean_flatMap fun part hpart => ?_⟩
    exact Text.isClean_append.2 ⟨hsep, hrest part hpart⟩

theorem isClean_bracketed {opening closing : Text} (level : Nat) {lines : List Text}
    (hopening : opening.IsClean) (hclosing : closing.IsClean)
    (hlines : ∀ line ∈ lines, Text.IsClean line) :
    (bracketed opening closing level lines).IsClean := by
  have hsep : Text.IsClean (Text.ofString "," ++ newLine (level + 1)) :=
    Text.isClean_append.2 ⟨Text.isClean_ofString _, isClean_newLine _⟩
  unfold bracketed
  split
  · exact Text.isClean_append.2 ⟨hopening, hclosing⟩
  · simp only [Text.isClean_append]
    exact ⟨⟨⟨⟨hopening, isClean_newLine _⟩, isClean_join hsep hlines⟩, isClean_newLine _⟩, hclosing⟩

theorem perm_arrange {α : Type} (style : Style) (lines : List (Text × α)) :
    (arrange style lines).Perm lines := by
  unfold arrange
  split
  · exact List.mergeSort_perm _ _
  · exact .refl _

mutual

theorem isClean_write (style : Style) : ∀ (level : Nat) (v : Value),
    (style.ascii = false → v.IsClean) → (write style level v).IsClean
  | _, .null, _ => by
    rw [write]
    exact Text.isClean_ofString _
  | _, .bool b, _ => by
    rw [write]
    split
    · exact Text.isClean_ofString _
    · exact Text.isClean_ofString _
  | _, .int n, _ => by
    rw [write]
    exact Text.isClean_ofInt n
  | _, .float x, _ => by
    rw [write]
    exact Decimal.isClean_render _ _ x
  | _, .string t, h => by
    rw [write]
    refine isClean_writeString fun hascii => ?_
    cases h hascii with
    | string ht => exact ht
  | level, .list items, h => by
    have hitems : style.ascii = false → ∀ item ∈ items, item.IsClean := by
      intro hascii
      cases h hascii with
      | list hitems => exact hitems
    rw [write]
    exact isClean_bracketed level (Text.isClean_ofString _) (Text.isClean_ofString _)
      (isClean_writeItems style (level + 1) items hitems)
  | level, .mapping entries, h => by
    have hclean : style.ascii = false → ∀ entry ∈ entries, entry.1.IsClean ∧ entry.2.IsClean := by
      intro hascii
      cases h hascii with
      | mapping hkeys hvalues => exact fun entry hmem => ⟨hkeys entry hmem, hvalues entry hmem⟩
    have hentries := isClean_writeEntries style (level + 1) entries hclean
    rw [write]
    apply isClean_bracketed level (Text.isClean_ofString _) (Text.isClean_ofString _)
    intro line hline
    obtain ⟨⟨key, value⟩, hmem, rfl⟩ := List.mem_map.1 hline
    obtain ⟨hkey, hvalue⟩ := hentries _ ((perm_arrange style _).subset hmem)
    rw [Text.isClean_append, Text.isClean_append]
    exact ⟨⟨isClean_writeString hkey, Text.isClean_ofString _⟩, hvalue⟩
  | _, .object text nested given writable, h => by
    rw [write]
    refine isClean_writeString fun hascii => ?_
    cases h hascii with
    | object htext hnested => exact htext

theorem isClean_writeItems (style : Style) : ∀ (level : Nat) (items : List Value),
    (style.ascii = false → ∀ item ∈ items, item.IsClean) →
      ∀ line ∈ writeItems style level items, Text.IsClean line
  | _, [], _ => by
    rw [writeItems]
    exact List.forall_mem_nil _
  | level, item :: rest, h => by
    rw [writeItems]
    exact List.forall_mem_cons.2
      ⟨isClean_write style level item fun hascii => (List.forall_mem_cons.1 (h hascii)).1,
        isClean_writeItems style level rest fun hascii => (List.forall_mem_cons.1 (h hascii)).2⟩

theorem isClean_writeEntries (style : Style) : ∀ (level : Nat) (entries : List (Value × Value)),
    (style.ascii = false → ∀ entry ∈ entries, entry.1.IsClean ∧ entry.2.IsClean) →
      ∀ line ∈ writeEntries style level entries,
        (style.ascii = false → line.1.IsClean) ∧ line.2.IsClean
  | _, [], _ => by
    rw [writeEntries]
    exact List.forall_mem_nil _
  | level, (key, value) :: rest, h => by
    rw [writeEntries]
    refine List.forall_mem_cons.2
      ⟨⟨fun hascii => ?_, isClean_write style level value fun hascii => ?_⟩,
      isClean_writeEntries style level rest fun hascii => (List.forall_mem_cons.1 (h hascii)).2⟩
    · exact isClean_keyText (List.forall_mem_cons.1 (h hascii)).1.1
    · exact (List.forall_mem_cons.1 (h hascii)).1.2

end

theorem isClean_render (style : Style) {v : Value} (h : v.IsClean) : (render style v).IsClean :=
  isClean_write style 0 v fun _ => h

/-- In ASCII the text of every value is clean. -/
theorem isClean_render_ascii (sorted : Bool) (v : Value) : (render ⟨true, sorted⟩ v).IsClean :=
  isClean_write ⟨true, sorted⟩ 0 v fun hascii => absurd hascii.symm Bool.false_ne_true

end Json

end StructSchema
