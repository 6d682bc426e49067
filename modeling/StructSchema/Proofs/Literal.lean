import Mathlib
import StructSchema.Literal
import StructSchema.Proofs.Fallible
import StructSchema.Proofs.Name
import StructSchema.Proofs.Utf8

/-!
# Items of string literals

The body of an interpreted literal is a sequence of items, and the bytes of the literal are those
of its items one after another. A string comes back from any literal that spells its characters,
and the bytes of a literal come back from its value. No other text has a value.
-/

namespace StructSchema.Literal

open Fallible

/-! ### Digits -/

/-- A digit of a base up to sixteen, in either letter case, with its value. -/
def IsDigit (base : Nat) (c : CodePoint) (value : Nat) : Prop :=
  value < base ∧ (c = .char value.digitChar ∨ c = .char value.digitChar.toUpper)

instance {base : Nat} {c : CodePoint} {value : Nat} : Decidable (IsDigit base c value) :=
  inferInstanceAs (Decidable (_ ∧ _))

/-- Exactly `width` digits that denote a number in a base. -/
def IsNumeral (base width : Nat) (digits : Text) (n : Nat) : Prop :=
  digits.length = width ∧ ∃ values, List.Forall₂ (IsDigit base) digits values ∧
    Nat.ofDigits base values.reverse = n

theorem numeral_eq_ofDigits (base : Nat) (values : List Nat) :
    numeral base values = Nat.ofDigits base values.reverse := by
  induction values using List.reverseRecOn with
  | nil => rfl
  | append_singleton values v ih =>
    rw [numeral, List.foldl_append, ← numeral, ih, List.reverse_append, List.reverse_singleton,
      List.singleton_append, Nat.ofDigits_cons, List.foldl_cons, List.foldl_nil, Nat.mul_comm,
      Nat.add_comm]

def Finds (base : Nat) (value? : CodePoint → Option Nat) : Prop :=
  ∀ c v, value? c = some v ↔ IsDigit base c v

/-- What is left to check of a table of digits: nothing past ASCII, and ASCII value by value. -/
theorem finds_of_ascii {base : Nat} {value? : CodePoint → Option Nat}
    (hlone : ∀ half, value? (.lone half) = none)
    (hhigh : ∀ c : Char, 128 ≤ c.toNat → value? (.char c) = none)
    (hlow : ∀ n : Fin 128, ∀ v ∈ value? (.char (Char.ofNat n)),
      IsDigit base (.char (Char.ofNat n)) v)
    (hdigit : ∀ v : Fin base, value? (.char (v : Nat).digitChar) = some v.val ∧
      value? (.char (v : Nat).digitChar.toUpper) = some v.val) : Finds base value? := by
  intro c v
  constructor
  · intro h
    cases c with
    | lone half =>
      rw [hlone] at h
      cases h
    | char c =>
      by_cases hc : c.toNat < 128
      · exact CodePoint.ascii_cases (P := fun c => ∀ v ∈ value? c, IsDigit base c v) hlow hc v h
      · rw [hhigh c (by omega)] at h
        cases h
  · rintro ⟨hv, rfl | rfl⟩
    · exact (hdigit ⟨v, hv⟩).1
    · exact (hdigit ⟨v, hv⟩).2

theorem toNat_le_of_le {c d : Char} (h : c ≤ d) : c.toNat ≤ d.toNat := UInt32.le_iff_toNat_le.1 h

theorem finds_hexValue? : Finds 16 hexValue? := by
  refine finds_of_ascii (fun _ => rfl) (fun c hc => ?_) (by decide) (by decide)
  have hpast : ∀ d : Char, d.toNat < 128 → ¬c ≤ d := by
    intro d hd h
    have hle := toNat_le_of_le h
    omega
  simp only [hexValue?]
  rw [if_neg fun h => hpast _ (by decide) h.2, if_neg fun h => hpast _ (by decide) h.2,
    if_neg fun h => hpast _ (by decide) h.2]

theorem finds_octalValue? : Finds 8 octalValue? := by
  refine finds_of_ascii (fun _ => rfl) (fun c hc => ?_) (by decide) (by decide)
  simp only [octalValue?]
  refine if_neg fun h => ?_
  have hle : c.toNat ≤ 55 := toNat_le_of_le h.2
  omega

theorem mapM_of_isNumeral {base width n : Nat} {value? : CodePoint → Option Nat} {digits : Text}
    (hf : Finds base value?) (h : IsNumeral base width digits n) :
    ∃ values, digits.mapM value? = some values ∧ values.length = width ∧
      numeral base values = n := by
  obtain ⟨hwidth, values, hvalues, hn⟩ := h
  refine ⟨values, mapM_eq_some.2 (hvalues.imp fun c v hv => (hf c v).2 hv), ?_, ?_⟩
  · rw [← hvalues.length_eq, hwidth]
  · rw [numeral_eq_ofDigits, hn]

theorem isNumeral_of_mapM {base : Nat} {value? : CodePoint → Option Nat} {digits : Text}
    {values : List Nat} (hf : Finds base value?) (h : digits.mapM value? = some values) :
    IsNumeral base values.length digits (numeral base values) := by
  rw [mapM_eq_some] at h
  exact ⟨h.length_eq, values, h.imp fun c v hv => (hf c v).1 hv, (numeral_eq_ofDigits ..).symm⟩

theorem IsNumeral.lt {base width n : Nat} {digits : Text} (hbase : 1 < base)
    (h : IsNumeral base width digits n) : n < base ^ width := by
  obtain ⟨hwidth, values, hvalues, rfl⟩ := h
  have hsmall : ∀ v ∈ values, v < base := ((List.forall₂_and_left _ _).1 hvalues.flip).1
  have hlt := Nat.ofDigits_lt_base_pow_length hbase fun v hv => hsmall v (List.mem_reverse.1 hv)
  rwa [List.length_reverse, ← hvalues.length_eq, hwidth] at hlt

/-! ### Items -/

/-- The letters of the one-letter escapes with the characters that they stand for. -/
def simpleEscapes : List (Char × Char) :=
  [('a', '\x07'), ('b', '\x08'), ('f', '\x0c'), ('n', '\n'), ('r', '\r'), ('t', '\t'),
    ('v', '\x0b'), ('\\', '\\'), ('"', '"')]

/-- An escape for a character: one letter, or its number in hexadecimal digits. -/
inductive IsCharEscape : Text → Char → Prop
  | simple {letter c : Char} (h : (letter, c) ∈ simpleEscapes) :
      IsCharEscape [.char '\\', .char letter] c
  | short {digits : Text} {c : Char} (h : IsNumeral 16 4 digits c.toNat) :
      IsCharEscape (.char '\\' :: .char 'u' :: digits) c
  | long {digits : Text} {c : Char} (h : IsNumeral 16 8 digits c.toNat) :
      IsCharEscape (.char '\\' :: .char 'U' :: digits) c

inductive IsByteEscape : Text → UInt8 → Prop
  | hex {digits : Text} {b : UInt8} (h : IsNumeral 16 2 digits b.toNat) :
      IsByteEscape (.char '\\' :: .char 'x' :: digits) b
  | octal {digits : Text} {b : UInt8} (h : IsNumeral 8 3 digits b.toNat) :
      IsByteEscape (.char '\\' :: digits) b

def IsPlain (c : CodePoint) : Prop := c ≠ .char '"' ∧ c ≠ .char '\\' ∧ c ≠ .char '\n'

instance : DecidablePred IsPlain := fun _ => inferInstanceAs (Decidable (_ ∧ _))

/-- An item and the bytes that it denotes. -/
inductive IsItem : Text → List UInt8 → Prop
  | plain {c : CodePoint} {bytes : List UInt8} (encodable : Utf8.encodePoint? c = some bytes)
    (h : IsPlain c) : IsItem [c] bytes
  | char {item : Text} {c : Char} (h : IsCharEscape item c) :
      IsItem item (String.utf8EncodeChar c)
  | byte {item : Text} {b : UInt8} (h : IsByteEscape item b) : IsItem item [b]

inductive IsBody : Text → List UInt8 → Prop
  | nil : IsBody [] []
  | cons {item rest : Text} {bytes more : List UInt8} (h : IsItem item bytes)
      (hrest : IsBody rest more) : IsBody (item ++ rest) (bytes ++ more)

/-! ### One escape -/

theorem simpleEscape?_of_mem {letter c : Char} (h : (letter, c) ∈ simpleEscapes) :
    ∃ b, simpleEscape? letter = some b ∧ String.utf8EncodeChar c = [b] := by
  have hall : ∀ p ∈ simpleEscapes, simpleEscape? p.1 = some (UInt8.ofNat p.2.toNat) ∧
      String.utf8EncodeChar p.2 = [UInt8.ofNat p.2.toNat] := by decide
  exact ⟨_, hall (letter, c) h⟩

theorem mem_of_simpleEscape? {letter : Char} {b : UInt8} (h : simpleEscape? letter = some b) :
    ∃ c, (letter, c) ∈ simpleEscapes ∧ String.utf8EncodeChar c = [b] := by
  have hmem : letter ∈ simpleEscapes.map (·.1) := by
    unfold simpleEscape? at h
    split at h
    case h_10 => cases h
    all_goals decide
  obtain ⟨⟨letter, c⟩, hc, rfl⟩ := List.mem_map.1 hmem
  obtain ⟨b', hb', hbytes⟩ := simpleEscape?_of_mem hc
  rw [h, Option.some.injEq] at hb'
  exact ⟨c, hc, hb' ▸ hbytes⟩

theorem escape_hex {letter : Char} {width n : Nat} {digits : Text}
    (hs : simpleEscape? letter = none) (hw : hexWidth? letter = some width)
    (h : IsNumeral 16 width digits n) (rest : Text) :
    escape (.char letter :: digits ++ rest) =
      if letter = 'x' then .ok ([.ofNat n], width + 1)
      else if h : n.isValidChar then .ok (String.utf8EncodeChar (Char.ofNatAux n h), width + 1)
      else .error (.badCodePoint letter digits) := by
  obtain ⟨values, hvalues, hlength, hn⟩ := mapM_of_isNumeral finds_hexValue? h
  have htake : (digits ++ rest).take width = digits := by rw [← h.1, List.take_left]
  unfold escape
  rw [List.cons_append]
  simp only [hs, hw, htake, hvalues, hlength, hn, ne_eq, not_true_eq_false, if_false]

theorem head_octal {c : CodePoint} {others : Text} {width n : Nat}
    (h : IsNumeral 8 width (c :: others) n) :
    ∃ d, c = .char d ∧ simpleEscape? d = none ∧ hexWidth? d = none ∧
      (octalValue? (.char d)).isSome = true := by
  obtain ⟨-, values, hvalues, -⟩ := h
  obtain ⟨v, _, ⟨hv, hc⟩, -, rfl⟩ := List.forall₂_cons_left_iff.1 hvalues
  have hall : ∀ v : Fin 8, (v : Nat).digitChar.toUpper = (v : Nat).digitChar ∧
      simpleEscape? (v : Nat).digitChar = none ∧ hexWidth? (v : Nat).digitChar = none ∧
      (octalValue? (.char (v : Nat).digitChar)).isSome = true := by decide
  obtain ⟨hupper, hrest⟩ := hall ⟨v, hv⟩
  dsimp only at hupper
  rw [hupper, or_self] at hc
  exact ⟨_, hc, hrest⟩

theorem escape_octal {digits : Text} {b : UInt8} (h : IsNumeral 8 3 digits b.toNat)
    (rest : Text) : escape (digits ++ rest) = .ok ([b], 3) := by
  obtain ⟨values, hvalues, hlength, hn⟩ := mapM_of_isNumeral finds_octalValue? h
  have htake : (digits ++ rest).take 3 = digits := by rw [← h.1, List.take_left]
  obtain ⟨c, others, rfl⟩ := List.exists_cons_of_length_eq_add_one h.1
  obtain ⟨d, rfl, hs, hw, ho⟩ := head_octal h
  unfold escape
  rw [List.cons_append] at htake ⊢
  have hle : ¬255 < b.toNat := by
    have hb := b.toNat_lt
    omega
  simp only [hs, hw, ho, htake, hvalues, hlength, hn, hle, ne_eq, not_true_eq_false, if_false,
    if_true, UInt8.ofNat_toNat]

theorem hexWidth?_cases {letter : Char} {width : Nat} (h : hexWidth? letter = some width) :
    (letter = 'x' ∧ width = 2) ∨ (letter = 'u' ∧ width = 4) ∨ (letter = 'U' ∧ width = 8) := by
  unfold hexWidth? at h
  split at h
  · exact .inl ⟨rfl, (Option.some.inj h).symm⟩
  · exact .inr (.inl ⟨rfl, (Option.some.inj h).symm⟩)
  · exact .inr (.inr ⟨rfl, (Option.some.inj h).symm⟩)
  · cases h

theorem isItem_of_hex {letter : Char} {width read n : Nat} {digits : Text} {bytes : List UInt8}
    (hw : hexWidth? letter = some width) (hn : IsNumeral 16 width digits n)
    (h : (if letter = 'x' then .ok ([.ofNat n], width + 1)
      else if h : n.isValidChar then .ok (String.utf8EncodeChar (Char.ofNatAux n h), width + 1)
      else .error (.badCodePoint letter digits)) = Except.ok (ε := LiteralFault) (bytes, read)) :
    read = width + 1 ∧ IsItem (.char '\\' :: .char letter :: digits) bytes := by
  rcases hexWidth?_cases hw with ⟨rfl, rfl⟩ | ⟨rfl, rfl⟩ | ⟨rfl, rfl⟩
  · cases h
    have hlt : n < 256 := hn.lt (by omega)
    refine ⟨rfl, .byte (.hex ?_)⟩
    rwa [Utf8.toNat_ofNat_of_lt hlt]
  · rw [if_neg (by decide)] at h
    split at h
    · cases h
      exact ⟨rfl, .char (.short hn)⟩
    · cases h
  · rw [if_neg (by decide)] at h
    split at h
    · cases h
      exact ⟨rfl, .char (.long hn)⟩
    · cases h

/-- What an escape is made of: one of the letters, digits behind a letter, or digits. -/
theorem isItem_of_escape {rest : Text} {bytes : List UInt8} {width : Nat}
    (h : escape rest = .ok (bytes, width)) :
    ∃ tail after, rest = tail ++ after ∧ width = tail.length ∧
      IsItem (.char '\\' :: tail) bytes := by
  unfold escape at h
  split at h
  · cases h
  · cases h
  rename_i c after
  split at h
  · rename_i b hb
    cases h
    obtain ⟨d, hd, hbytes⟩ := mem_of_simpleEscape? hb
    exact ⟨[.char c], after, rfl, rfl, hbytes ▸ .char (.simple hd)⟩
  split at h
  · rename_i count hcount
    dsimp only at h
    split at h
    · cases h
    rename_i values hvalues
    split at h
    · cases h
    rename_i hlength
    rw [not_not] at hlength
    have hnumeral := isNumeral_of_mapM finds_hexValue? hvalues
    rw [hlength] at hnumeral
    obtain ⟨rfl, hitem⟩ := isItem_of_hex hcount hnumeral h
    refine ⟨.char c :: after.take count, after.drop count, ?_, ?_, hitem⟩
    · rw [List.cons_append, List.take_append_drop]
    · rw [List.length_cons, hnumeral.1]
  split at h
  · dsimp only at h
    split at h
    · cases h
    rename_i values hvalues
    split at h
    · cases h
    rename_i hlength
    split at h
    · cases h
    rename_i hle
    cases h
    rw [not_not] at hlength
    have hnumeral := isNumeral_of_mapM finds_octalValue? hvalues
    rw [hlength] at hnumeral
    refine ⟨_, _, (List.take_append_drop 3 _).symm, hnumeral.1.symm, .byte (.octal ?_)⟩
    rwa [Utf8.toNat_ofNat_of_lt (by omega)]
  · cases h

theorem escape_of_charEscape {tail : Text} {c : Char} (h : IsCharEscape (.char '\\' :: tail) c)
    (rest : Text) : escape (tail ++ rest) = .ok (String.utf8EncodeChar c, tail.length) := by
  have hvalid : c.toNat.isValidChar := c.valid
  cases h with
  | @simple letter _ hmem =>
    obtain ⟨b, hb, hbytes⟩ := simpleEscape?_of_mem hmem
    rw [hbytes]
    unfold escape
    simp only [List.cons_append, List.nil_append, hb]
    rfl
  | @short digits _ hn =>
    rw [escape_hex rfl rfl hn, if_neg (by decide), dif_pos hvalid, List.length_cons, hn.1]
    rfl
  | @long digits _ hn =>
    rw [escape_hex rfl rfl hn, if_neg (by decide), dif_pos hvalid, List.length_cons, hn.1]
    rfl

theorem escape_of_byteEscape {tail : Text} {b : UInt8} (h : IsByteEscape (.char '\\' :: tail) b)
    (rest : Text) : escape (tail ++ rest) = .ok ([b], tail.length) := by
  cases h with
  | @hex digits _ hn =>
    rw [escape_hex rfl rfl hn, if_pos rfl, UInt8.ofNat_toNat, List.length_cons, hn.1]
  | octal hn => rw [escape_octal hn, hn.1]

/-! ### Whole bodies -/

theorem bytesFrom_eq_drop (skip : Nat) (body : Text) :
    bytesFrom skip body = bytes (body.drop skip) := by
  induction body generalizing skip with
  | nil => cases skip <;> rfl
  | cons c rest ih =>
    cases skip with
    | zero => rfl
    | succ skip => exact ih skip

theorem bytes_plain {c : CodePoint} {found : List UInt8} (hc : Utf8.encodePoint? c = some found)
    (h : IsPlain c) (rest : Text) : bytes (c :: rest) = (bytes rest).map (found ++ ·) := by
  have hstop : ¬(c = .char '"' ∨ c = .char '\n') := by
    rintro (hc | hc)
    · exact h.1 hc
    · exact h.2.2 hc
  rw [bytes, bytesFrom, if_neg hstop, if_neg h.2.1, hc, ← bytes]
  cases bytes rest <;> rfl

theorem bytes_escape {tail rest : Text} {found : List UInt8}
    (h : escape (tail ++ rest) = .ok (found, tail.length)) :
    bytes (.char '\\' :: tail ++ rest) = (bytes rest).map (found ++ ·) := by
  rw [List.cons_append, bytes, bytesFrom, if_neg (by decide), if_pos rfl, h, ok_bind]
  dsimp only
  rw [bytesFrom_eq_drop, List.drop_left]
  cases bytes rest <;> rfl

theorem bytes_item {item : Text} {found : List UInt8} (h : IsItem item found) (rest : Text) :
    bytes (item ++ rest) = (bytes rest).map (found ++ ·) := by
  cases h with
  | plain hc hplain => exact bytes_plain hc hplain rest
  | char hescape =>
    cases hescape with
    | simple hmem => exact bytes_escape (escape_of_charEscape (.simple hmem) rest)
    | short hn => exact bytes_escape (escape_of_charEscape (.short hn) rest)
    | long hn => exact bytes_escape (escape_of_charEscape (.long hn) rest)
  | byte hescape =>
    cases hescape with
    | hex hn => exact bytes_escape (escape_of_byteEscape (.hex hn) rest)
    | octal hn => exact bytes_escape (escape_of_byteEscape (.octal hn) rest)

theorem bytes_of_isBody {body : Text} {found : List UInt8} (h : IsBody body found) :
    bytes body = .ok found := by
  induction h with
  | nil => rfl
  | cons hitem _ ih =>
    rw [bytes_item hitem, ih]
    rfl

theorem isBody_of_bytes {body : Text} {found : List UInt8} (h : bytes body = .ok found) :
    IsBody body found := by
  -- on the length, since an escape takes several code points at once
  induction hl : body.length using Nat.strongRecOn generalizing body found with
  | ind n ih =>
    cases body with
    | nil =>
      cases h
      exact .nil
    | cons c rest =>
      rw [bytes, bytesFrom] at h
      split at h
      · cases h
      rename_i hstop
      split at h
      · rename_i hslash
        subst hslash
        obtain ⟨⟨first, width⟩, hescape, h⟩ := bind_eq_ok.1 h
        obtain ⟨tail, after, rfl, rfl, hitem⟩ := isItem_of_escape hescape
        dsimp only at h
        rw [bytesFrom_eq_drop, List.drop_left] at h
        obtain ⟨more, hmore, hfound⟩ := bind_eq_ok.1 h
        cases hfound
        have hlength : after.length < n := by
          rw [List.length_cons, List.length_append] at hl
          omega
        exact .cons hitem (ih after.length hlength hmore rfl)
      · rename_i hslash
        split at h
        case h_2 => cases h
        rename_i first hc
        obtain ⟨more, hmore, hfound⟩ := bind_eq_ok.1 h
        cases hfound
        have hlength : rest.length < n := by
          rw [List.length_cons] at hl
          omega
        have hplain : IsPlain c := ⟨fun hc => hstop (.inl hc), hslash, fun hc => hstop (.inr hc)⟩
        have hbody := ih rest.length hlength hmore rfl
        have hwhole : IsBody ([c] ++ rest) (first ++ more) := .cons (.plain hc hplain) hbody
        exact hwhole

theorem bytes_eq_ok_iff {body : Text} {found : List UInt8} :
    bytes body = .ok found ↔ IsBody body found :=
  ⟨isBody_of_bytes, bytes_of_isBody⟩

/-! ### Literals and their values -/

def interpreted (body : Text) : Text := .char '"' :: body ++ [.char '"']

def raw (body : Text) : Text := .char '\x60' :: body ++ [.char '\x60']

theorem body?_quoted (quote : Char) (body : Text) :
    body? quote (.char quote :: body ++ [.char quote]) = some body := by
  rw [List.cons_append, body?, List.getLast?_append, List.getLast?_singleton, Option.some_or,
    if_pos ⟨rfl, rfl⟩, List.dropLast_concat]

theorem eq_quoted_of_body? {quote : Char} {literal body : Text}
    (h : body? quote literal = some body) : literal = .char quote :: body ++ [.char quote] := by
  unfold body? at h
  split at h
  · split at h
    · rename_i hquotes
      obtain ⟨rfl, hlast⟩ := hquotes
      obtain ⟨inner, rfl⟩ := List.getLast?_eq_some_iff.1 hlast
      rw [List.dropLast_concat, Option.some.injEq] at h
      rw [h, List.cons_append]
    · cases h
  · cases h

theorem decode_interpreted (body : Text) :
    decode (interpreted body) =
      ((bytes body).map Utf8.decodeLossless).mapError (⟨·, interpreted body⟩) := by
  have hraw : body? '\x60' (interpreted body) = none := rfl
  rw [decode, value, hraw, interpreted, body?_quoted]

theorem decode_raw {body : Text} (h : .char '\x60' ∉ body) :
    decode (raw body) = .ok (body.filter (· ≠ .char '\r')) := by
  have hcontains : body.contains (.char '\x60') = false := by
    rw [List.contains_eq_mem, decide_eq_false_iff_not]
    exact h
  rw [decode, value, raw, body?_quoted]
  simp only [hcontains]
  rfl

theorem exists_body_of_decode {literal value : Text} (hquote : literal.head? = some (.char '"'))
    (h : decode literal = .ok value) : ∃ body, literal = interpreted body := by
  cases hraw : body? '\x60' literal with
  | some body =>
    rw [eq_quoted_of_body? hraw, List.cons_append, List.head?_cons] at hquote
    cases hquote
  | none =>
    cases hbody : body? '"' literal with
    | none =>
      rw [decode, Literal.value, hraw, hbody] at h
      cases h
    | some body => exact ⟨body, eq_quoted_of_body? hbody⟩

theorem IsBody.append {body rest : Text} {found more : List UInt8} (h : IsBody body found)
    (hrest : IsBody rest more) : IsBody (body ++ rest) (found ++ more) := by
  induction h with
  | nil => exact hrest
  | cons hitem _ ih =>
    rw [List.append_assoc, List.append_assoc]
    exact .cons hitem ih

theorem IsItem.isBody {item : Text} {found : List UInt8} (h : IsItem item found) :
    IsBody item found := by
  have hbody := IsBody.cons h .nil
  rwa [List.append_nil, List.append_nil] at hbody

/-! ### Spellings -/

/-- A way to write a character in an interpreted literal: the character itself, an escape for it, or
escapes for its bytes one by one. -/
inductive Spells (c : Char) : Text → Prop
  | itself (h : IsPlain (.char c)) : Spells c [.char c]
  | escape {item : Text} (h : IsCharEscape item c) : Spells c item
  | bytes {items : List Text} (h : List.Forall₂ IsByteEscape items (String.utf8EncodeChar c)) :
      Spells c items.flatten

theorem isBody_of_byteEscapes {items : List Text} {found : List UInt8}
    (h : List.Forall₂ IsByteEscape items found) : IsBody items.flatten found := by
  induction h with
  | nil => exact .nil
  | cons hitem _ ih => exact .cons (.byte hitem) ih

theorem Spells.isBody {c : Char} {t : Text} (h : Spells c t) :
    IsBody t (String.utf8EncodeChar c) := by
  cases h with
  | itself hplain => exact (IsItem.plain rfl hplain).isBody
  | escape hescape => exact (IsItem.char hescape).isBody
  | bytes hbytes => exact isBody_of_byteEscapes hbytes

theorem isBody_of_spells {s : List Char} {parts : List Text} (h : List.Forall₂ Spells s parts) :
    IsBody parts.flatten (s.flatMap String.utf8EncodeChar) := by
  induction h with
  | nil => exact .nil
  | cons hc _ ih => exact hc.isBody.append ih

theorem decode_of_spells {s : List Char} {parts : List Text} (h : List.Forall₂ Spells s parts) :
    decode (interpreted parts.flatten) = .ok (s.map .char) := by
  rw [decode_interpreted, bytes_of_isBody (isBody_of_spells h)]
  simp only [Except.map, Except.mapError, Utf8.decodeLossless_flatMap]

theorem isBody_iff_of_decode {body value : Text} (h : decode (interpreted body) = .ok value)
    (found : List UInt8) : IsBody body found ↔ Utf8.encode? value = some found := by
  rw [decode_interpreted, mapError_eq_ok, map_eq_ok] at h
  obtain ⟨given, hgiven, rfl⟩ := h
  rw [Utf8.encode?_decodeLossless, ← bytes_eq_ok_iff, hgiven, Except.ok.injEq, Option.some.injEq]

/-! ### The main statement -/

/-- Decoding gives back the string that a literal spells, in whatever way it is spelled, and no byte
of an accepted interpreted literal is lost, merged or invented. -/
theorem decode_faithful :
    (∀ (s : List Char) (parts : List Text), List.Forall₂ Spells s parts →
      decode (interpreted parts.flatten) = .ok (s.map .char)) ∧
    (∀ body : Text, .char '\x60' ∉ body →
      decode (raw body) = .ok (body.filter (· ≠ .char '\r'))) ∧
    ∀ literal value : Text, (∀ c ∈ literal, c.isEncodable = true) →
      literal.head? = some (.char '"') → decode literal = .ok value →
        ∃ body, literal = interpreted body ∧
          ∀ found, IsBody body found ↔ Utf8.encode? value = some found := by
  refine ⟨fun s parts h => decode_of_spells h, fun body h => decode_raw h, ?_⟩
  intro literal value _ hquote h
  obtain ⟨body, rfl⟩ := exists_body_of_decode hquote h
  exact ⟨body, rfl, isBody_iff_of_decode h⟩

/-- A text that is spelled in each of the four ways, and a literal with a byte that is no character
before two that join into one. -/
theorem decode_mixed :
    let parts : List Text := ["\\\"", "\\xC3\\251", "\\u20ac", "A"]
    let joined : Text := "\"\\xff\\303\\251é\""
    List.Forall₂ Spells ['"', 'é', '€', 'A'] parts ∧
      decode (interpreted parts.flatten) = .ok ("\"é€A" : Text) ∧
      decode (raw "\\\r\n") = .ok ("\\\n" : Text) ∧
      decode joined = .ok [.ofByte 0xff, .char 'é', .char 'é'] ∧
      ∃ body, joined = interpreted body ∧
        ∀ found, IsBody body found ↔ found = [0xff, 0xc3, 0xa9, 0xc3, 0xa9] := by
  intro parts joined
  obtain ⟨hspelled, hraw, hbytes⟩ := decode_faithful
  have hbyteC3 : IsByteEscape "\\xC3" 0xc3 :=
    .hex ⟨rfl, [12, 3], .cons (by decide) (.cons (by decide) .nil), rfl⟩
  have hbyteA9 : IsByteEscape "\\251" 0xa9 :=
    .octal ⟨rfl, [2, 5, 1], .cons (by decide) (.cons (by decide) (.cons (by decide) .nil)), rfl⟩
  have heuro : IsNumeral 16 4 "20ac" '€'.toNat :=
    ⟨rfl, [2, 0, 10, 12],
      .cons (by decide) (.cons (by decide) (.cons (by decide) (.cons (by decide) .nil))), rfl⟩
  have hbytewise : Spells 'é' (List.flatten ["\\xC3", "\\251"]) :=
    .bytes (.cons hbyteC3 (.cons hbyteA9 .nil))
  have hparts : List.Forall₂ Spells ['"', 'é', '€', 'A'] parts :=
    .cons (.escape (.simple (by decide))) (.cons hbytewise
      (.cons (.escape (.short heuro)) (.cons (.itself (by decide)) .nil)))
  have hjoined : decode joined = .ok [.ofByte 0xff, .char 'é', .char 'é'] := by decide
  obtain ⟨body, hbody, hiff⟩ := hbytes joined _ (by decide) rfl hjoined
  have hencode : Utf8.encode? [.ofByte 0xff, .char 'é', .char 'é'] =
      some [0xff, 0xc3, 0xa9, 0xc3, 0xa9] := by decide
  refine ⟨hparts, hspelled _ _ hparts, hraw _ (by decide), hjoined, body, hbody, fun found => ?_⟩
  rw [hiff, hencode, Option.some.injEq, eq_comm]

/-! ### Which texts are literals -/

/-- A text without backticks between two backticks, or items between two quotes. -/
inductive IsLiteral : Text → Prop
  | raw {body : Text} (h : .char '\x60' ∉ body) : IsLiteral (raw body)
  | interpreted {items : List Text} (h : ∀ item ∈ items, ∃ found, IsItem item found) :
      IsLiteral (interpreted items.flatten)

theorem exists_isBody_iff {body : Text} :
    (∃ found, IsBody body found) ↔
      ∃ items : List Text, items.flatten = body ∧ ∀ item ∈ items, ∃ found, IsItem item found := by
  constructor
  · rintro ⟨found, h⟩
    induction h with
    | nil => exact ⟨[], rfl, nofun⟩
    | @cons item rest bytes _ hitem _ ih =>
      obtain ⟨items, rfl, hitems⟩ := ih
      exact ⟨item :: items, rfl, List.forall_mem_cons.2 ⟨⟨bytes, hitem⟩, hitems⟩⟩
  · rintro ⟨items, rfl, h⟩
    induction items with
    | nil => exact ⟨[], .nil⟩
    | cons item items ih =>
      obtain ⟨⟨bytes, hitem⟩, hitems⟩ := List.forall_mem_cons.1 h
      obtain ⟨more, hmore⟩ := ih hitems
      exact ⟨bytes ++ more, .cons hitem hmore⟩

/-- A text with a value stands between two backticks and holds no other, or stands between two
quotes and has bytes. -/
theorem quoted_of_decode {literal value : Text} (h : decode literal = .ok value) :
    (∃ body, literal = raw body ∧ .char '\x60' ∉ body) ∨
      ∃ body found, literal = interpreted body ∧ bytes body = .ok found := by
  rw [decode, mapError_eq_ok, Literal.value] at h
  split at h
  · rename_i body hbody
    split at h
    · cases h
    · rename_i hcontains
      rw [List.contains_eq_mem, decide_eq_true_eq] at hcontains
      exact .inl ⟨body, eq_quoted_of_body? hbody, hcontains⟩
  · split at h
    · rename_i body hbody
      obtain ⟨found, hfound, -⟩ := map_eq_ok.1 h
      exact .inr ⟨body, found, eq_quoted_of_body? hbody, hfound⟩
    · cases h

theorem isLiteral_of_decode {literal value : Text} (h : decode literal = .ok value) :
    IsLiteral literal := by
  rcases quoted_of_decode h with ⟨body, rfl, hbody⟩ | ⟨body, found, rfl, hbytes⟩
  · exact .raw hbody
  · have hitems := exists_isBody_iff.1 ⟨found, isBody_of_bytes hbytes⟩
    obtain ⟨items, rfl, hitem⟩ := hitems
    exact .interpreted hitem

theorem IsLiteral.exists_decode {literal : Text} (h : IsLiteral literal) :
    ∃ value, decode literal = .ok value := by
  cases h with
  | raw hbody => exact ⟨_, decode_raw hbody⟩
  | interpreted hitem =>
    obtain ⟨found, hbody⟩ := exists_isBody_iff.2 ⟨_, rfl, hitem⟩
    refine ⟨Utf8.decodeLossless found, ?_⟩
    rw [decode_interpreted, bytes_of_isBody hbody]
    rfl

/-! ### Faults of syntax -/

theorem isSyntax_of_escape {rest : Text} {fault : LiteralFault} (h : escape rest = .error fault) :
    fault.isSyntax = true := by
  unfold escape at h
  split at h
  · cases h
    rfl
  · cases h
    rfl
  split at h
  · cases h
  split at h
  · dsimp only at h
    split at h
    · cases h
      rfl
    split at h
    · cases h
      rfl
    split at h
    · cases h
    split at h
    · cases h
    · cases h
      rfl
  split at h
  · dsimp only at h
    split at h
    · cases h
      rfl
    split at h
    · cases h
      rfl
    split at h
    · cases h
      rfl
    · cases h
  · cases h
    rfl

/-- What is no fault of syntax is a code point of the literal that has no bytes. -/
theorem unencodable_of_bytes {body : Text} {fault : LiteralFault} (h : bytes body = .error fault)
    (hform : fault.isSyntax = false) :
    ∃ c ∈ body, c.isEncodable = false ∧ fault = .unencodable c := by
  induction hl : body.length using Nat.strongRecOn generalizing body with
  | ind n ih =>
    cases body with
    | nil => cases h
    | cons c rest =>
      rw [List.length_cons] at hl
      rw [bytes, bytesFrom] at h
      split at h
      · cases h
        cases hform
      split at h
      · rcases bind_eq_error.1 h with hescape | ⟨⟨first, width⟩, -, h⟩
        · rw [isSyntax_of_escape hescape] at hform
          cases hform
        rcases bind_eq_error.1 h with hmore | ⟨more, -, h⟩
        · rw [bytesFrom_eq_drop] at hmore
          have hafter : (rest.drop width).length < n := by
            rw [List.length_drop]
            omega
          obtain ⟨d, hd, hfound⟩ := ih _ hafter hmore rfl
          exact ⟨d, List.mem_cons_of_mem _ (List.mem_of_mem_drop hd), hfound⟩
        · cases h
      split at h
      · rcases bind_eq_error.1 h with hmore | ⟨more, -, h⟩
        · obtain ⟨d, hd, hfound⟩ := ih rest.length (by omega) hmore rfl
          exact ⟨d, List.mem_cons_of_mem _ hd, hfound⟩
        · cases h
      · rename_i hnone
        cases h
        refine ⟨c, List.mem_cons_self .., ?_, rfl⟩
        rw [← Utf8.isSome_encodePoint?, hnone, Option.isSome_none]

theorem unencodable_of_decode {literal : Text} {e : LiteralError} (h : decode literal = .error e)
    (hform : e.fault.isSyntax = false) :
    ∃ c ∈ literal, c.isEncodable = false ∧ e.fault = .unencodable c := by
  obtain ⟨fault, hvalue, rfl⟩ := mapError_eq_error.1 h
  rw [Literal.value] at hvalue
  split at hvalue
  · split at hvalue
    · cases hvalue
      cases hform
    · cases hvalue
  split at hvalue
  · rename_i body hbody
    obtain ⟨c, hc, hfound⟩ := unencodable_of_bytes (map_eq_error.1 hvalue) hform
    refine ⟨c, ?_, hfound⟩
    rw [eq_quoted_of_body? hbody]
    exact List.mem_cons_of_mem _ (List.mem_append_left _ hc)
  · cases hvalue
    cases hform

/-- If every code point of a literal has bytes, nothing but its syntax can be wrong. -/
theorem isSyntax_of_decode {literal : Text} {e : LiteralError}
    (hencodable : ∀ c ∈ literal, c.isEncodable = true) (h : decode literal = .error e) :
    e.fault.isSyntax = true := by
  by_contra hform
  rw [Bool.not_eq_true] at hform
  obtain ⟨c, hc, hnone, -⟩ := unencodable_of_decode h hform
  rw [hencodable c hc] at hnone
  cases hnone

/-- The texts that have a value are the literals, and on every other text decoding ends with an
error of syntax that names the text. -/
theorem decode_accepts_literals (literal : Text)
    (hencodable : ∀ c ∈ literal, c.isEncodable = true) :
    ((∃ value, decode literal = .ok value) ↔ IsLiteral literal) ∧
      (¬IsLiteral literal ↔
        ∃ fault, fault.isSyntax = true ∧ decode literal = .error ⟨fault, literal⟩) := by
  have haccepted : (∃ value, decode literal = .ok value) ↔ IsLiteral literal :=
    ⟨fun ⟨_, h⟩ => isLiteral_of_decode h, fun h => h.exists_decode⟩
  refine ⟨haccepted, ?_⟩
  rw [← haccepted]
  cases hvalue : Literal.value literal with
  | ok value =>
    have hdecode : decode literal = .ok value := by rw [decode, hvalue]; rfl
    constructor
    · intro h
      exact absurd ⟨value, hdecode⟩ h
    · rintro ⟨fault, -, h⟩
      rw [hdecode] at h
      cases h
  | error fault =>
    have hdecode : decode literal = .error ⟨fault, literal⟩ := by rw [decode, hvalue]; rfl
    constructor
    · intro _
      exact ⟨fault, isSyntax_of_decode hencodable hdecode, hdecode⟩
    · rintro _ ⟨value, h⟩
      rw [hdecode] at h
      cases h

/-- The greatest octal escape is an item; one that is greater, or that the closing quote cuts off,
is none. -/
theorem decode_accepts_octal :
    let whole : Text := "\"\\377\""
    let great : Text := "\"\\400\""
    let cut : Text := "\"\\37\""
    IsLiteral whole ∧ ¬IsLiteral great ∧ ¬IsLiteral cut := by
  intro whole great cut
  have hwhole : decode whole = .ok [.ofByte 0xff] := by decide
  have hgreat : decode great = .error ⟨.octalRange "400", great⟩ := by decide
  have hcut : decode cut = .error ⟨.badOctal, cut⟩ := by decide
  refine ⟨(decode_accepts_literals whole (by decide)).1.1 ⟨_, hwhole⟩, ?_, ?_⟩
  · exact (decode_accepts_literals great (by decide)).2.2 ⟨_, rfl, hgreat⟩
  · exact (decode_accepts_literals cut (by decide)).2.2 ⟨_, rfl, hcut⟩

end StructSchema.Literal
