import StructSchema.Proofs.Name
import StructSchema.Proofs.Validity

/-!
# Names and identifiers

A name should be an identifier of at most thirty-two code points. Checking and normalizing agree on
what they take for a name, but that is more: one line break may stand behind the identifier. Main
statement: exactly these texts are taken, normalizing leaves no capitals, and an entity that passes
its check has no other names.
-/

namespace StructSchema

/-! ### Characters of identifiers -/

namespace CodePoint

def IsCapital (c : CodePoint) : Prop := 0x41 ≤ c.val ∧ c.val ≤ 0x5A

def IsSmall (c : CodePoint) : Prop := 0x61 ≤ c.val ∧ c.val ≤ 0x7A

def IsDigit (c : CodePoint) : Prop := 0x30 ≤ c.val ∧ c.val ≤ 0x39

def IsNamePart (c : CodePoint) : Prop := c.IsCapital ∨ c.IsSmall ∨ c.IsDigit ∨ c.val = 0x5F

instance : DecidablePred IsCapital := fun _ => inferInstanceAs (Decidable (_ ∧ _))

instance : DecidablePred IsSmall := fun _ => inferInstanceAs (Decidable (_ ∧ _))

instance : DecidablePred IsDigit := fun _ => inferInstanceAs (Decidable (_ ∧ _))

instance : DecidablePred IsNamePart := fun _ => inferInstanceAs (Decidable (_ ∨ _))

theorem IsNamePart.val_lt {c : CodePoint} (h : c.IsNamePart) : c.val < 128 := by
  simp only [IsNamePart, IsCapital, IsSmall, IsDigit] at h
  omega

theorem val_lt_of_isAscii {p : Char → Bool} {c : CodePoint} (h : isAscii p c = true) :
    c.val < 128 := by
  cases c with
  | char c =>
    simp only [isAscii, Bool.and_eq_true, decide_eq_true_eq] at h
    exact h.1
  | lone half => cases h

theorem ascii_of_val_lt {P : CodePoint → Prop} (h : ∀ n : Fin 128, P (.char (Char.ofNat n)))
    {c : CodePoint} (hc : c.val < 128) : P c := by
  cases c with
  | char c => exact ascii_cases h hc
  | lone half =>
    simp only [val] at hc
    omega

theorem isWordPart_iff {c : CodePoint} : c.isWordPart = true ↔ c.IsNamePart := by
  by_cases hc : c.val < 128
  · exact ascii_of_val_lt (P := fun c => c.isWordPart = true ↔ c.IsNamePart) (by decide) hc
  · exact iff_of_false (fun h => hc (val_lt_of_isAscii h)) fun h => hc h.val_lt

theorem isWordStart_iff {c : CodePoint} : c.isWordStart = true ↔ c.IsNamePart ∧ ¬c.IsDigit := by
  by_cases hc : c.val < 128
  · exact ascii_of_val_lt (P := fun c => c.isWordStart = true ↔ c.IsNamePart ∧ ¬c.IsDigit)
      (by decide) hc
  · exact iff_of_false (fun h => hc (val_lt_of_isAscii h)) fun h => hc h.1.val_lt

end CodePoint

/-! ### Identifiers -/

/-- ASCII letters, digits and underscores, at least one, of which the first is no digit. -/
structure Text.IsIdentifier (t : Text) : Prop where
  ne_nil : t ≠ []
  parts : ∀ c ∈ t, c.IsNamePart
  head : ∀ c, t.head? = some c → ¬c.IsDigit

namespace Text

theorem isPlainWord_iff {t : Text} : isPlainWord t = true ↔ t.IsIdentifier := by
  cases t with
  | nil => exact iff_of_false (by decide) fun h => h.ne_nil rfl
  | cons c rest =>
    simp only [isPlainWord, Bool.and_eq_true, List.all_eq_true, CodePoint.isWordStart_iff,
      CodePoint.isWordPart_iff]
    constructor
    · intro h
      obtain ⟨⟨hc, hdigit⟩, hrest⟩ := h
      refine ⟨List.cons_ne_nil c rest, List.forall_mem_cons.2 ⟨hc, hrest⟩, ?_⟩
      intro d hd
      cases hd
      exact hdigit
    · intro h
      obtain ⟨hc, hrest⟩ := List.forall_mem_cons.1 h.parts
      exact ⟨⟨hc, h.head c rfl⟩, hrest⟩

theorem IsIdentifier.toLower {t : Text} (h : t.IsIdentifier) : (Text.toLower t).IsIdentifier :=
  isPlainWord_iff.1 (isPlainWord_toLower (isPlainWord_iff.2 h))

instance : DecidablePred IsIdentifier := fun _ => decidable_of_iff _ isPlainWord_iff

end Text

/-! ### Texts that are taken for names -/

namespace Name

/-- An identifier with a line break behind it. -/
def IsBroken (t : Text) : Prop := ∃ word : Text, word.IsIdentifier ∧ t = word ++ [.char '\n']

/-- An identifier, perhaps with a line break behind it, of at most thirty-two code points in all. -/
def IsTaken (t : Text) : Prop := (t.IsIdentifier ∨ IsBroken t) ∧ t.length ≤ 32

theorem isValid_iff {t : Text} : isValid t = true ↔ IsTaken t := by
  rw [isValid, Bool.and_eq_true, decide_eq_true_eq, Text.isWord_iff]
  simp only [Text.isPlainWord_iff]
  exact Iff.rfl

theorem exists_normalize_iff {t : Text} : (∃ name, normalize t = .ok name) ↔ IsTaken t := by
  simp only [normalize_eq_ok_iff, isValid_iff, exists_and_left, exists_eq, and_true]

theorem IsTaken.mem {t : Text} (h : IsTaken t) {c : CodePoint} (hc : c ∈ t) :
    c.isWordPart = true ∨ c = .char '\n' := by
  simp only [CodePoint.isWordPart_iff]
  rcases h.1 with hword | ⟨word, hword, rfl⟩
  · exact .inl (hword.parts c hc)
  · rcases List.mem_append.1 hc with hc | hc
    · exact .inl (hword.parts c hc)
    · exact .inr (List.mem_singleton.1 hc)

theorem IsBroken.not_isIdentifier {t : Text} (h : IsBroken t) : ¬t.IsIdentifier := by
  obtain ⟨word, -, rfl⟩ := h
  intro hword
  have hpart := hword.parts (.char '\n') (List.mem_append_right word (List.mem_singleton_self _))
  exact absurd hpart (by decide)

/-- An identifier of a fitting length is all that is taken, unless the text is a broken one. -/
theorem isTaken_iff_isIdentifier_iff {t : Text} :
    (IsTaken t ↔ t.IsIdentifier ∧ t.length ≤ 32) ↔ ¬(IsBroken t ∧ t.length ≤ 32) := by
  constructor
  · intro h hbroken
    have htaken : IsTaken t := ⟨.inr hbroken.1, hbroken.2⟩
    exact hbroken.1.not_isIdentifier (h.1 htaken).1
  · intro hbroken
    refine ⟨fun h => ⟨?_, h.2⟩, fun h => ⟨.inl h.1, h.2⟩⟩
    exact h.1.resolve_right fun hb => hbroken ⟨hb, h.2⟩

theorem IsTaken.toLower {t : Text} (h : IsTaken t) : IsTaken (Text.toLower t) := by
  refine ⟨?_, by rw [Text.length_toLower]; exact h.2⟩
  rcases h.1 with hword | ⟨word, hword, rfl⟩
  · exact .inl hword.toLower
  · exact .inr ⟨Text.toLower word, hword.toLower, List.map_append⟩

/-- The small form of a character in a name is no capital, and is its own small form. -/
theorem IsTaken.settled {t : Text} (h : IsTaken t) :
    ∀ c ∈ t, ¬c.toLower.IsCapital ∧ c.toLower.toLower = c.toLower := by
  intro c hc
  rcases h.mem hc with hpart | rfl
  · exact CodePoint.isWordPart_cases
      (P := fun c => ¬c.toLower.IsCapital ∧ c.toLower.toLower = c.toLower) (by decide) hpart
  · decide

theorem IsTaken.toLower_toLower {t : Text} (h : IsTaken t) :
    Text.toLower (Text.toLower t) = Text.toLower t := by
  simp only [Text.toLower, List.map_map]
  exact List.map_congr_left fun c hc => (h.settled c hc).2

end Name

/-! ### The main statements -/

/-- Every name that a definition holds: its own, its columns' and those in its key. -/
def Definition.names (d : Definition) : List Text :=
  d.name :: (d.columnNames ++ (d.key.map PrimaryKey.columns).getD [])

theorem Definition.Valid.isTaken {d : Definition} (h : d.Valid) :
    ∀ name ∈ d.names, Name.IsTaken name := by
  have hcolumns : ∀ name ∈ d.columnNames, Name.IsTaken name := by
    intro name hname
    obtain ⟨column, hcolumn, rfl⟩ := List.mem_map.1 hname
    exact Name.isValid_iff.1 (h.columnNames_valid column hcolumn)
  obtain ⟨key, hkey, -, -, hin⟩ := h.key_valid
  have hkeyed : ∀ name ∈ key.columns, Name.IsTaken name :=
    fun name hname => hcolumns name (hin name hname)
  rw [names, hkey, List.forall_mem_cons, List.forall_mem_append]
  exact ⟨Name.isValid_iff.1 h.name_valid, hcolumns, hkeyed⟩

namespace Name

/-- Checking and normalizing take the same texts for names: the identifiers of a fitting length, and
no others unless they are broken ones. A normalized name has no capitals and stays when it is
normalized again, and an entity that passes its check has no other names. -/
theorem taken_names (t : Text) :
    (isValid t = true ↔ IsTaken t) ∧ ((∃ name, normalize t = .ok name) ↔ IsTaken t) ∧
      ((isValid t = true ↔ t.IsIdentifier ∧ t.length ≤ 32) ↔ ¬(IsBroken t ∧ t.length ≤ 32)) ∧
      (∀ name, normalize t = .ok name →
        IsTaken name ∧ name.length = t.length ∧ (∀ c ∈ name, ¬c.IsCapital) ∧
          normalize name = .ok name) ∧
      ∀ entity : Entity, entity.check = .ok () → t ∈ entity.definition.names → IsTaken t := by
  refine ⟨isValid_iff, exists_normalize_iff, ?_, ?_, ?_⟩
  · rw [isValid_iff]
    exact isTaken_iff_isIdentifier_iff
  · intro name h
    obtain ⟨hvalid, rfl⟩ := normalize_eq_ok_iff.1 h
    have htaken := isValid_iff.1 hvalid
    refine ⟨htaken.toLower, Text.length_toLower t, ?_, ?_⟩
    · intro c hc
      obtain ⟨d, hd, rfl⟩ := List.mem_map.1 hc
      exact (htaken.settled d hd).1
    · exact normalize_eq_ok_iff.2 ⟨isValid_iff.2 htaken.toLower, htaken.toLower_toLower.symm⟩
  · intro entity h
    exact ((Entity.check_eq_ok_iff entity).1 h).definition_valid.isTaken t

/-- An entity each of whose names ends with a line break. -/
def broken : Entity where
  struct := "Broken"
  definition :=
    { name := "broken\n"
      key := some { partition := ["id\n"] }
      columns := [⟨"id\n", .int64, "ID"⟩] }
  fieldOfColumn := .ofPairs [("id\n", "ID")]
  columnOfField := .ofPairs [("ID", "id\n")]

theorem taken_with_break :
    normalize "Cd_9\n" = .ok "cd_9\n" ∧ IsTaken "cd_9\n" ∧ normalize "cd_9\n" = .ok "cd_9\n" ∧
      ¬(isValid "id\n" = true ↔ Text.IsIdentifier "id\n" ∧ (Text.ofString "id\n").length ≤ 32) ∧
      broken.check = .ok () ∧ Text.ofString "id\n" ∈ broken.definition.names ∧ IsTaken "id\n" := by
  have hnormalize : normalize "Cd_9\n" = .ok "cd_9\n" := by decide
  have hcheck : broken.check = .ok () := by decide
  have hmem : Text.ofString "id\n" ∈ broken.definition.names := by decide
  have hbroken : IsBroken "id\n" := ⟨"id", by decide, rfl⟩
  obtain ⟨-, -, -, hnormal, -⟩ := taken_names "Cd_9\n"
  obtain ⟨htaken, -, -, hagain⟩ := hnormal _ hnormalize
  obtain ⟨-, -, hdiffers, -, hentity⟩ := taken_names "id\n"
  exact ⟨hnormalize, htaken, hagain, fun h => hdiffers.1 h ⟨hbroken, by decide⟩, hcheck, hmem,
    hentity broken hcheck hmem⟩

/-- Neither validity nor normalizing nor the check of an entity keeps a line break out of names. -/
theorem not_forall_identifier :
    ¬(∀ t : Text, isValid t = true → t.IsIdentifier) ∧
      ¬(∀ t name : Text, normalize t = .ok name → t.IsIdentifier) ∧
      ¬∀ entity : Entity, entity.check = .ok () →
        ∀ name ∈ entity.definition.names, Text.IsIdentifier name := by
  refine ⟨fun h => ?_, fun h => ?_, fun h => ?_⟩
  · exact absurd (h "a\n" (by decide)) (by decide)
  · exact absurd (h "a\n" "a\n" (by decide)) (by decide)
  · exact absurd (h broken (by decide) "id\n" (by decide)) (by decide)

end Name

end StructSchema
