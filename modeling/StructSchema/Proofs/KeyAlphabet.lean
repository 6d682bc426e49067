import StructSchema.Proofs.PrimaryKey

/-!
# The alphabet of keys

Between blanks, keys should be written in ASCII. A direction is known by its capitals, though, and
the long s shares its capital with the letter s. Main statement: the long s is the only other
character of a text that denotes a key, it stands in directions only, and with the letter s in its
place the text is in ASCII and denotes the same key.
-/

namespace StructSchema.PrimaryKey

open Fallible
open Text (IsBlank Padded)

/-- A blank, or one of the ASCII characters of written keys. -/
def InAlphabet (c : CodePoint) : Prop := c.isBlank = true ∨ c.val < 0x80 ∧ isWrittenPart c = true

instance : DecidablePred InAlphabet := fun _ => inferInstanceAs (Decidable (_ ∨ _))

theorem inAlphabet_of_isWordPart {c : CodePoint} (h : c.isWordPart = true) : InAlphabet c :=
  CodePoint.isWordPart_cases (P := InAlphabet) (by decide) h

theorem not_inAlphabet_longS : ¬InAlphabet longS := by decide

/-! ### Pieces of keys -/

/-- A property that texts have if it holds of the pieces that they are made of: single characters,
and directions with the blanks before them. -/
structure IsPiecewise (P : Text → Prop) : Prop where
  nil : P []
  append : ∀ {s t : Text}, P s → P t → P (s ++ t)
  char : ∀ {c : CodePoint}, InAlphabet c → P [c]
  direction : ∀ {gap word : Text} {descending : Bool}, gap ≠ [] → IsBlank gap →
    Text.toAsciiUpper? word = some (directionWord descending) → P (gap ++ word)

namespace IsPiecewise

variable {P : Text → Prop} {t : Text}

theorem cons (hP : IsPiecewise P) {c : CodePoint} (hc : InAlphabet c) (ht : P t) : P (c :: t) :=
  hP.append (s := [c]) (hP.char hc) ht

theorem text (hP : IsPiecewise P) (h : ∀ c ∈ t, InAlphabet c) : P t := by
  induction t with
  | nil => exact hP.nil
  | cons c t ih =>
    obtain ⟨hc, ht⟩ := List.forall_mem_cons.1 h
    exact hP.cons hc (ih ht)

theorem blank (hP : IsPiecewise P) (h : IsBlank t) : P t := hP.text fun c hc => .inl (h c hc)

theorem name (hP : IsPiecewise P) (h : Name.IsPlain t) : P t :=
  hP.text fun c hc => inAlphabet_of_isWordPart (h.isWordPart c hc)

theorem padded (hP : IsPiecewise P) {padded : Text} (h : Padded t padded) (ht : P t) :
    P padded := by
  obtain ⟨before, after, hbefore, hafter, rfl⟩ := h
  exact hP.append (hP.blank hbefore) (hP.append ht (hP.blank hafter))

theorem items (hP : IsPiecewise P) {items : List Text} (h : ∀ item ∈ items, P item) :
    P (items.flatMap (.char ',' :: ·)) := by
  induction items with
  | nil => exact hP.nil
  | cons item items ih =>
    obtain ⟨hitem, hitems⟩ := List.forall_mem_cons.1 h
    exact hP.append (hP.cons (by decide) hitem) (ih hitems)

theorem bracketed (hP : IsPiecewise P) {first : Text} {others : List Text} (hfirst : P first)
    (hothers : ∀ item ∈ others, P item) : P (bracketed first others) :=
  hP.append (hP.cons (by decide) (hP.append hfirst (hP.items hothers))) (hP.char (by decide))

theorem writesName (hP : IsPiecewise P) {name : Text} (h : WritesName name t) : P t :=
  hP.padded h.2 (hP.name h.1)

theorem writesPartition (hP : IsPiecewise P) {names : List Text} (h : WritesPartition names t) :
    P t := by
  cases h with
  | name h => exact hP.writesName h
  | @list names others first t h ht =>
    have hitem : ∀ item ∈ first :: others, P item := by
      intro item hmem
      obtain ⟨name, -, hname⟩ := exists_rel_of_mem_right h hmem
      exact hP.writesName hname
    obtain ⟨hfirst, hothers⟩ := List.forall_mem_cons.1 hitem
    exact hP.padded ht (hP.bracketed hfirst hothers)

theorem writesClustering (hP : IsPiecewise P) {key : ClusteringKey} (h : WritesClustering key t) :
    P t := by
  cases h with
  | name h => exact hP.writesName h
  | directed hname hne hgap hword ht =>
    exact hP.padded ht (hP.append (hP.name hname) (hP.direction hne hgap hword))

theorem writes (hP : IsPiecewise P) {key : PrimaryKey} (h : Writes key t) : P t := by
  cases h with
  | name h => exact hP.writesName h
  | list hp hc ht =>
    refine hP.padded ht (hP.bracketed (hP.writesPartition hp) ?_)
    intro item hmem
    obtain ⟨column, -, hcolumn⟩ := exists_rel_of_mem_right hc hmem
    exact hP.writesClustering hcolumn

end IsPiecewise

theorem isPiecewise_alphabet : IsPiecewise fun t => ∀ c ∈ t, InAlphabet c ∨ c = longS where
  nil := nofun
  append hs ht := List.forall_mem_append.2 ⟨hs, ht⟩
  char hc := List.forall_mem_singleton.2 (.inl hc)
  direction := by
    intro gap word descending _ hgap hword
    rw [List.forall_mem_append]
    refine ⟨fun c hc => .inl (.inl (hgap c hc)), fun c hc => ?_⟩
    exact (part_of_direction hword c hc).imp_left inAlphabet_of_isWordPart

/-! ### Where the long s stands -/

/-- A long s between these texts stands in a direction that has a blank before it. -/
def StandsInDirection (before after : Text) : Prop :=
  ∃ (start front back rest : Text) (blank : CodePoint) (descending : Bool),
    before = start ++ blank :: front ∧ after = back ++ rest ∧ blank.isBlank = true ∧
      Text.toAsciiUpper? (front ++ longS :: back) = some (directionWord descending)

namespace StandsInDirection

variable {before after : Text}

theorem append_left (h : StandsInDirection before after) (s : Text) :
    StandsInDirection (s ++ before) after := by
  obtain ⟨start, front, back, rest, blank, descending, rfl, hafter, hrest⟩ := h
  have hbefore := (List.append_assoc s start (blank :: front)).symm
  exact ⟨s ++ start, front, back, rest, blank, descending, hbefore, hafter, hrest⟩

theorem append_right (h : StandsInDirection before after) (t : Text) :
    StandsInDirection before (after ++ t) := by
  obtain ⟨start, front, back, rest, blank, descending, hbefore, rfl, hrest⟩ := h
  exact ⟨start, front, back, rest ++ t, blank, descending, hbefore, List.append_assoc .., hrest⟩

theorem of_word {gap front back : Text} {descending : Bool} (hne : gap ≠ []) (hgap : IsBlank gap)
    (h : Text.toAsciiUpper? (front ++ longS :: back) = some (directionWord descending)) :
    StandsInDirection (gap ++ front) back := by
  have hlast := List.dropLast_append_getLast hne
  have hblank := hgap _ (List.getLast_mem hne)
  have hrest := (List.append_nil back).symm
  refine ⟨gap.dropLast, front, back, [], gap.getLast hne, descending, ?_, hrest, hblank, h⟩
  rw [← List.singleton_append, ← List.append_assoc, hlast]

end StandsInDirection

/-- The places of a code point in two texts, one after the other. -/
theorem append_eq_append_cons {s t before after : Text} {c : CodePoint}
    (h : s ++ t = before ++ c :: after) :
    (∃ behind, s = before ++ c :: behind ∧ after = behind ++ t) ∨
      ∃ ahead, before = s ++ ahead ∧ t = ahead ++ c :: after := by
  rcases List.append_eq_append_iff.1 h with ⟨ahead, hbefore, ht⟩ | ⟨behind, hs, hrest⟩
  · exact .inr ⟨ahead, hbefore, ht⟩
  · cases behind with
    | nil => exact .inr ⟨[], by rw [hs]; simp, hrest.symm⟩
    | cons d behind =>
      obtain ⟨rfl, hafter⟩ := List.cons.inj hrest
      exact .inl ⟨behind, hs, hafter⟩

theorem isPiecewise_direction :
    IsPiecewise fun t => ∀ before after, t = before ++ longS :: after →
      StandsInDirection before after where
  nil := by
    intro before after h
    simp at h
  append := by
    intro s t hs ht before after h
    rcases append_eq_append_cons h with ⟨behind, hplace, rfl⟩ | ⟨ahead, rfl, hplace⟩
    · exact (hs before behind hplace).append_right t
    · exact (ht ahead after hplace).append_left s
  char := by
    intro c hc before after h
    have hmem : longS ∈ [c] := h ▸ List.mem_append_right before (List.mem_cons_self ..)
    rw [List.mem_singleton] at hmem
    exact absurd (hmem ▸ hc) not_inAlphabet_longS
  direction := by
    intro gap word descending hne hgap hword before after h
    rcases append_eq_append_cons h with ⟨behind, hplace, -⟩ | ⟨front, rfl, rfl⟩
    · have hmem : longS ∈ gap := hplace ▸ List.mem_append_right before (List.mem_cons_self ..)
      exact absurd (hgap longS hmem) (by decide)
    · exact .of_word hne hgap hword

/-! ### The letter s in its place -/

def shortS (c : CodePoint) : CodePoint := if c = longS then .char 's' else c

theorem shortS_of_inAlphabet {c : CodePoint} (h : InAlphabet c) : shortS c = c := by
  refine if_neg ?_
  rintro rfl
  exact not_inAlphabet_longS h

theorem inAlphabet_shortS {c : CodePoint} (h : InAlphabet c ∨ c = longS) :
    InAlphabet (shortS c) := by
  rcases h with h | rfl
  · rw [shortS_of_inAlphabet h]
    exact h
  · decide

theorem toAsciiUpper?_shortS (t : Text) :
    Text.toAsciiUpper? (t.map shortS) = Text.toAsciiUpper? t := by
  have hpoint : CodePoint.toAsciiUpper? ∘ shortS = CodePoint.toAsciiUpper? := by
    funext c
    by_cases hc : c = longS
    · subst hc
      decide
    · exact congrArg CodePoint.toAsciiUpper? (if_neg hc)
  rw [Text.toAsciiUpper?, List.mapM_map, hpoint, Text.toAsciiUpper?]

theorem map_shortS_eq {t : Text} (h : ∀ c ∈ t, InAlphabet c) : t.map shortS = t :=
  (List.map_congr_left fun c hc => shortS_of_inAlphabet (h c hc)).trans (List.map_id' t)

theorem map_shortS_of_isBlank {t : Text} (h : IsBlank t) : t.map shortS = t :=
  map_shortS_eq fun c hc => .inl (h c hc)

theorem padded_shortS {t padded : Text} (h : Padded t padded) :
    Padded (t.map shortS) (padded.map shortS) := by
  obtain ⟨before, after, hbefore, hafter, rfl⟩ := h
  refine ⟨before, after, hbefore, hafter, ?_⟩
  rw [List.map_append, List.map_append, map_shortS_of_isBlank hbefore, map_shortS_of_isBlank hafter]

theorem bracketed_shortS (first : Text) (others : List Text) :
    (bracketed first others).map shortS =
      bracketed (first.map shortS) (others.map (·.map shortS)) := by
  simp only [bracketed, List.map_cons, List.map_append, List.map_flatMap, List.flatMap_map,
    List.map_nil]
  rfl

theorem WritesName.map_shortS {name t : Text} (h : WritesName name t) :
    WritesName name (t.map shortS) := by
  have hname : name.map shortS = name :=
    map_shortS_eq fun c hc => inAlphabet_of_isWordPart (h.1.isWordPart c hc)
  have hpadded := padded_shortS h.2
  rw [hname] at hpadded
  exact ⟨h.1, hpadded⟩

theorem forall₂_shortS {α : Type} {R : α → Text → Prop} (hR : ∀ a t, R a t → R a (t.map shortS))
    {l : List α} {items : List Text} (h : List.Forall₂ R l items) :
    List.Forall₂ R l (items.map (·.map shortS)) := by
  rw [List.forall₂_map_right_iff]
  exact h.imp hR

theorem WritesPartition.map_shortS {names : List Text} {t : Text} (h : WritesPartition names t) :
    WritesPartition names (t.map shortS) := by
  cases h with
  | name h => exact .name h.map_shortS
  | list h ht =>
    have hpadded := padded_shortS ht
    rw [bracketed_shortS] at hpadded
    exact .list (forall₂_shortS (fun _ _ hname => hname.map_shortS) h) hpadded

theorem WritesClustering.map_shortS {key : ClusteringKey} {t : Text} (h : WritesClustering key t) :
    WritesClustering key (t.map shortS) := by
  cases h with
  | name h => exact .name h.map_shortS
  | @directed name gap word t descending hname hne hgap hword ht =>
    have hkept : name.map shortS = name :=
      map_shortS_eq fun c hc => inAlphabet_of_isWordPart (hname.isWordPart c hc)
    have hpadded := padded_shortS ht
    rw [List.map_append, List.map_append, hkept, map_shortS_of_isBlank hgap] at hpadded
    exact .directed hname hne hgap ((toAsciiUpper?_shortS word).trans hword) hpadded

theorem Writes.map_shortS {key : PrimaryKey} {t : Text} (h : Writes key t) :
    Writes key (t.map shortS) := by
  cases h with
  | name h => exact .name h.map_shortS
  | list hp hc ht =>
    have hpadded := padded_shortS ht
    rw [bracketed_shortS] at hpadded
    exact .list hp.map_shortS (forall₂_shortS (fun _ _ hcolumn => hcolumn.map_shortS) hc) hpadded

/-! ### The main statement -/

/-- A text that denotes a key is in ASCII between its blanks exactly if no long s stands in it. -/
theorem ascii_iff {raw : Text} (h : ∀ c ∈ raw, InAlphabet c ∨ c = longS) :
    (∀ c ∈ raw, c.isBlank = false → c.val < 0x80) ↔ longS ∉ raw := by
  constructor
  · intro hascii hlong
    have hval := hascii longS hlong (by decide)
    exact absurd hval (by decide)
  · intro hlong c hc hblank
    rcases h c hc with hin | rfl
    · rcases hin with hin | hin
      · rw [hin] at hblank
        cases hblank
      · exact hin.1
    · exact absurd hc hlong

/-- The characters of a text that denotes a key. -/
theorem parse_alphabet {raw : Text} {key : PrimaryKey} (h : parse raw = .ok key) :
    (∀ c ∈ raw, InAlphabet c ∨ c = longS) ∧
      ((∀ c ∈ raw, c.isBlank = false → c.val < 0x80) ↔ longS ∉ raw) ∧
      (∀ before after, raw = before ++ longS :: after → StandsInDirection before after) ∧
      (∀ c ∈ raw.map shortS, InAlphabet c) ∧ parse (raw.map shortS) = .ok key := by
  have hwrites := writes_of_parse h
  have halphabet := isPiecewise_alphabet.writes hwrites
  have hshort : ∀ c ∈ raw.map shortS, InAlphabet c :=
    List.forall_mem_map.2 fun c hc => inAlphabet_shortS (halphabet c hc)
  exact ⟨halphabet, ascii_iff halphabet, isPiecewise_direction.writes hwrites, hshort,
    parse_of_writes hwrites.map_shortS⟩

theorem parse_long_directions :
    let raw : Text := "((a, b),\u3000c A\u017FC, d\nDe\u017Fc )"
    let short : Text := "((a, b),\u3000c AsC, d\nDesc )"
    let key : PrimaryKey :=
      { partition := ["a", "b"], clustering := [⟨"c", false⟩, ⟨"d", true⟩] }
    parse raw = .ok key ∧ (∀ c ∈ raw, InAlphabet c ∨ c = longS) ∧
      ((∀ c ∈ raw, c.isBlank = false → c.val < 0x80) ↔ longS ∉ raw) ∧
      (∀ before after, raw = before ++ longS :: after → StandsInDirection before after) ∧
      (∀ c ∈ short, InAlphabet c) ∧ parse short = .ok key := by
  intro raw short key
  have hraw : parse raw = .ok key := by decide
  have hshort : raw.map shortS = short := by decide +kernel
  rw [← hshort]
  exact ⟨hraw, parse_alphabet hraw⟩

/-- A text that denotes a key need not be in ASCII between its blanks. -/
theorem not_forall_ascii :
    ¬∀ (raw : Text) (key : PrimaryKey), parse raw = .ok key →
      ∀ c ∈ raw, c.isBlank = false → c.val < 0x80 := by
  intro h
  have hraw : parse "(a, b de\u017Fc)" =
      .ok { partition := ["a"], clustering := [⟨"b", true⟩] } := by decide
  exact absurd (h _ _ hraw longS (by decide) (by decide)) (by decide)

end StructSchema.PrimaryKey
