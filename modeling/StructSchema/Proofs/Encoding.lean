import StructSchema.Library
import StructSchema.Proofs.Fault
import StructSchema.Proofs.Utf8

/-!
# Sources that are not UTF-8

Bytes are well-formed if an encoder writes them for some characters. Reading takes the longest well-
formed beginning and fails behind it, so it fails exactly on bytes that are not well-formed. Main
statement: a source is refused for its encoding if and only if it is not well-formed, whatever else
may be wrong with it, and on the line that stands at the end of its longest well-formed beginning.
-/

namespace StructSchema

namespace Utf8

/-! ### Well-formed bytes -/

def IsWellFormed (bytes : List UInt8) : Prop :=
  ∃ cs : List Char, bytes = cs.flatMap String.utf8EncodeChar

/-- The longest beginning of a byte string that is well-formed. -/
structure IsLongestWellFormed (good bytes : List UInt8) : Prop where
  begins : good <+: bytes
  wellFormed : IsWellFormed good
  longest : ∀ other, other <+: bytes → IsWellFormed other → other.length ≤ good.length

/-- Any bytes are those of some characters and then bytes that begin no character. -/
theorem exists_split (bytes : List UInt8) :
    ∃ good bad, bytes = good ++ bad ∧ IsWellFormed good ∧ scalar? bad = none := by
  -- on the length, since a character takes several bytes at once
  induction hl : bytes.length using Nat.strongRecOn generalizing bytes with
  | ind n ih =>
    cases hread : scalar? bytes with
    | none => exact ⟨[], bytes, rfl, ⟨[], rfl⟩, hread⟩
    | some read =>
      obtain ⟨c, width⟩ := read
      obtain ⟨s, rest, hbytes, hs, -⟩ := encodes_of_scalar? hread
      have hlength : rest.length < n := by
        rw [← hl, hbytes]
        exact hs.length_lt rest
      obtain ⟨good, bad, hrest, ⟨cs, hgood⟩, hbad⟩ := ih rest.length hlength rest rfl
      refine ⟨s ++ good, bad, ?_, ⟨c :: cs, ?_⟩, hbad⟩
      · rw [hbytes, hrest, List.append_assoc]
      · rw [List.flatMap_cons, hgood, eq_utf8EncodeChar hs]

theorem decode_of_scalar?_eq_none {bad : List UInt8} (hne : bad ≠ []) (h : scalar? bad = none) :
    decode bad = .error 0 := by
  obtain ⟨b, rest, rfl⟩ := List.exists_cons_of_ne_nil hne
  rw [decode, decodeFrom, h]

/-- Reading fails behind well-formed bytes at those that begin no character. -/
theorem decode_append_of_scalar?_eq_none {good bad : List UInt8} (hgood : IsWellFormed good)
    (hne : bad ≠ []) (hbad : scalar? bad = none) : decode (good ++ bad) = .error good.length := by
  obtain ⟨cs, rfl⟩ := hgood
  rw [decode_flatMap_append, decode_of_scalar?_eq_none hne hbad]
  exact congrArg Except.error (Nat.zero_add _)

theorem isWellFormed_of_decode {bytes : List UInt8} {cs : List Char} (h : decode bytes = .ok cs) :
    IsWellFormed bytes := by
  obtain ⟨good, bad, hbytes, hgood, hbad⟩ := exists_split bytes
  by_cases hne : bad = []
  · rw [hbytes, hne, List.append_nil]
    exact hgood
  · rw [hbytes, decode_append_of_scalar?_eq_none hgood hne hbad] at h
    cases h

theorem not_isWellFormed_of_decode {bytes : List UInt8} {n : Nat} (h : decode bytes = .error n) :
    ¬IsWellFormed bytes := by
  intro hwell
  obtain ⟨cs, rfl⟩ := hwell
  rw [decode_flatMap] at h
  cases h

theorem length_le_of_decode {bytes other : List UInt8} {n : Nat} (h : decode bytes = .error n)
    (hother : other <+: bytes) (hwell : IsWellFormed other) : other.length ≤ n := by
  obtain ⟨rest, rfl⟩ := hother
  obtain ⟨cs, rfl⟩ := hwell
  rw [decode_flatMap_append] at h
  cases hrest : decode rest with
  | ok more =>
    rw [hrest] at h
    cases h
  | error m =>
    rw [hrest] at h
    cases h
    exact Nat.le_add_left _ _

/-- Reading fails at the end of the longest well-formed beginning. -/
theorem isLongestWellFormed_of_decode {bytes : List UInt8} {n : Nat} (h : decode bytes = .error n) :
    IsLongestWellFormed (bytes.take n) bytes := by
  obtain ⟨good, bad, hbytes, hgood, hbad⟩ := exists_split bytes
  have hne : bad ≠ [] := by
    intro hnil
    rw [hnil, List.append_nil] at hbytes
    exact not_isWellFormed_of_decode h (hbytes ▸ hgood)
  have hn : good.length = n := by
    rw [hbytes, decode_append_of_scalar?_eq_none hgood hne hbad] at h
    exact Except.error.inj h
  have htake : bytes.take n = good := by rw [hbytes, ← hn, List.take_left]
  rw [htake]
  refine ⟨⟨bad, hbytes.symm⟩, hgood, fun other hother hwell => ?_⟩
  rw [hn]
  exact length_le_of_decode h hother hwell

/-! ### Malformed sequences -/

def twoBytes (n : Nat) : List UInt8 := [.ofNat (0xC0 + n / 64), .ofNat (0x80 + n % 64)]

def threeBytes (n : Nat) : List UInt8 :=
  [.ofNat (0xE0 + n / 4096), .ofNat (0x80 + n / 64 % 64), .ofNat (0x80 + n % 64)]

def fourBytes (n : Nat) : List UInt8 :=
  [.ofNat (0xF0 + n / 262144), .ofNat (0x80 + n / 4096 % 64), .ofNat (0x80 + n / 64 % 64),
    .ofNat (0x80 + n % 64)]

/-- Bytes that begin with a number in a longer form than it needs, with a surrogate or with a number
past U+10FFFF, and the bytes of a character that are cut off at the end. -/
inductive Malformed : List UInt8 → Prop
  | longTwo {n : Nat} (high : n < 0x80) (rest : List UInt8) : Malformed (twoBytes n ++ rest)
  | longThree {n : Nat} (high : n < 0x800) (rest : List UInt8) : Malformed (threeBytes n ++ rest)
  | longFour {n : Nat} (high : n < 0x10000) (rest : List UInt8) : Malformed (fourBytes n ++ rest)
  | surrogate {n : Nat} (low : 0xD800 ≤ n) (high : n ≤ 0xDFFF) (rest : List UInt8) :
    Malformed (threeBytes n ++ rest)
  | beyond {n : Nat} (low : 0x110000 ≤ n) (high : n < 0x200000) (rest : List UInt8) :
    Malformed (fourBytes n ++ rest)
  | cutOff {c : Char} {s : List UInt8} (hne : s ≠ []) (hs : s <+: String.utf8EncodeChar c)
    (hcut : s ≠ String.utf8EncodeChar c) : Malformed s

theorem scalar?_twoBytes {n : Nat} (h : n < 0x80) (rest : List UInt8) :
    scalar? (twoBytes n ++ rest) = none := by
  have ha : (UInt8.ofNat (0xC0 + n / 64)).toNat = 0xC0 + n / 64 := toNat_ofNat_of_lt (by omega)
  simp only [twoBytes, List.cons_append, scalar?, UInt8.lt_iff_toNat_lt, UInt8.reduceToNat]
  rw [if_neg (by omega), if_pos (by omega)]

theorem scalar?_threeBytes {n : Nat} (h : n < 0x800 ∨ 0xD800 ≤ n ∧ n ≤ 0xDFFF)
    (rest : List UInt8) : scalar? (threeBytes n ++ rest) = none := by
  have ha : (UInt8.ofNat (0xE0 + n / 4096)).toNat = 0xE0 + n / 4096 := toNat_ofNat_of_lt (by omega)
  have hb : (UInt8.ofNat (0x80 + n / 64 % 64)).toNat = 0x80 + n / 64 % 64 :=
    toNat_ofNat_of_lt (by omega)
  simp only [threeBytes, List.cons_append, scalar?, UInt8.lt_iff_toNat_lt, UInt8.reduceToNat,
    isTail_iff, Bool.and_eq_true, Bool.or_eq_true, decide_eq_true_eq, ne_eq, ← UInt8.toNat_inj,
    UInt8.le_iff_toNat_le]
  rw [if_neg (by omega), if_neg (by omega), if_neg (by omega), if_pos (by omega),
    if_neg (by omega)]

theorem scalar?_fourBytes {n : Nat} (h : n < 0x10000 ∨ 0x110000 ≤ n ∧ n < 0x200000)
    (rest : List UInt8) : scalar? (fourBytes n ++ rest) = none := by
  have ha : (UInt8.ofNat (0xF0 + n / 262144)).toNat = 0xF0 + n / 262144 :=
    toNat_ofNat_of_lt (by omega)
  have hb : (UInt8.ofNat (0x80 + n / 4096 % 64)).toNat = 0x80 + n / 4096 % 64 :=
    toNat_ofNat_of_lt (by omega)
  simp only [fourBytes, List.cons_append, scalar?, UInt8.lt_iff_toNat_lt, UInt8.reduceToNat,
    isTail_iff, Bool.and_eq_true, Bool.or_eq_true, decide_eq_true_eq, ne_eq, ← UInt8.toNat_inj,
    UInt8.le_iff_toNat_le]
  rw [if_neg (by omega), if_neg (by omega), if_neg (by omega), if_neg (by omega)]
  split
  · rw [if_neg (by omega)]
  · rfl

theorem scalar?_cutOff {c : Char} {s : List UInt8} (hs : s <+: String.utf8EncodeChar c)
    (hcut : s ≠ String.utf8EncodeChar c) : scalar? s = none := by
  cases hread : scalar? s with
  | none => rfl
  | some read =>
    -- what begins with a whole character has all the bytes that this character has
    obtain ⟨d, width⟩ := read
    obtain ⟨t, rest, rfl, ht, -⟩ := encodes_of_scalar? hread
    obtain ⟨more, hmore⟩ := hs
    have hd := scalar?_of_encodes ht (rest ++ more)
    have hc := scalar?_of_encodes (encodes_utf8EncodeChar c) []
    rw [List.append_nil, ← hmore, List.append_assoc, hd] at hc
    have hlength : t.length = (t ++ (rest ++ more)).length :=
      congrArg Prod.snd (Option.some.inj hc)
    rw [List.length_append, List.length_append] at hlength
    have hnil : more = [] := List.eq_nil_of_length_eq_zero (by omega)
    rw [hnil, List.append_nil] at hmore
    exact absurd hmore hcut

theorem Malformed.scalar?_eq_none {bad : List UInt8} (h : Malformed bad) : scalar? bad = none := by
  cases h with
  | longTwo high rest => exact scalar?_twoBytes high rest
  | longThree high rest => exact scalar?_threeBytes (.inl high) rest
  | longFour high rest => exact scalar?_fourBytes (.inl high) rest
  | surrogate low high rest => exact scalar?_threeBytes (.inr ⟨low, high⟩) rest
  | beyond low high rest => exact scalar?_fourBytes (.inr ⟨low, high⟩) rest
  | cutOff hne hs hcut => exact scalar?_cutOff hs hcut

theorem Malformed.ne_nil {bad : List UInt8} (h : Malformed bad) : bad ≠ [] := by
  cases h with
  | cutOff hne hs hcut => exact hne
  | _ => exact List.cons_ne_nil _ _

end Utf8

/-! ### Reasons -/

theorem LiteralError.message_ne (e : LiteralError) : e.message ≠ "invalid UTF-8 encoding" := by
  -- the two differ in the words with which every message about a literal begins
  have hne : ∀ {words rest : Text}, ¬words <+: "invalid UTF-8 encoding" →
      words ++ rest ≠ "invalid UTF-8 encoding" := by
    intro words rest hwords heq
    exact hwords ⟨rest, heq⟩
  rw [message]
  cases e.fault with
  | notInterpreted => exact hne (by decide)
  | rawBacktick => exact hne (by decide)
  | unterminatedEscape => exact hne (by decide)
  | badHex letter =>
    simp only [List.append_assoc]
    exact hne (by decide)
  | badCodePoint letter digits =>
    simp only [List.append_assoc]
    exact hne (by decide)
  | badOctal => exact hne (by decide)
  | octalRange digits =>
    simp only [List.append_assoc]
    exact hne (by decide)
  | unknownEscape escape =>
    simp only [List.append_assoc]
    exact hne (by decide)
  | unencodable c =>
    simp only [List.append_assoc]
    exact hne (by decide)

namespace Source

theorem Fault.reason?_eq_iff {fault : Fault} :
    fault.reason? = some "invalid UTF-8 encoding" ↔ ∃ line, fault = .encoding line := by
  cases fault with
  | encoding line => exact ⟨fun _ => ⟨line, rfl⟩, fun _ => rfl⟩
  | malformed count line => simp [reason?]
  | literal line error => simp [reason?, error.message_ne]

variable {host : Host}

/-- The encoding is at fault where reading the characters fails, and nowhere else. -/
theorem read_eq_encoding_iff {bytes : List UInt8} {line : Nat} :
    read host bytes = .error (.encoding line) ↔
      ∃ n, Utf8.decode bytes = .error n ∧ lineOfByte bytes n = line := by
  rw [read]
  cases hdecode : Utf8.decode bytes with
  | error n => simp
  | ok source =>
    dsimp only
    cases hsyntax : (host.tree source).syntaxFault? with
    | some fault =>
      obtain ⟨count, place, rfl⟩ := Tree.exists_of_syntaxFault? hsyntax
      simp
    | none =>
      cases hliteral : (host.tree source).literalFault? with
      | none => simp
      | some fault =>
        obtain ⟨place, e, rfl⟩ := Tree.exists_of_literalFault? hliteral
        simp

/-! ### Refusal -/

theorem readAs_encoding_iff {file : Text} {bytes : List UInt8} {error : Error} :
    readAs host file bytes = .error error ∧
        error.fault.reason? = some "invalid UTF-8 encoding" ↔
      ∃ n, Utf8.decode bytes = .error n ∧ error = ⟨file, .encoding (lineOfByte bytes n)⟩ := by
  constructor
  · intro h
    obtain ⟨hread, hreason⟩ := h
    obtain ⟨fault, hfault, rfl⟩ := Fallible.mapError_eq_error.1 hread
    obtain ⟨line, rfl⟩ := Fault.reason?_eq_iff.1 hreason
    obtain ⟨n, hn, rfl⟩ := read_eq_encoding_iff.1 hfault
    exact ⟨n, hn, rfl⟩
  · intro h
    obtain ⟨n, hn, rfl⟩ := h
    have hfault : read host bytes = .error (.encoding (lineOfByte bytes n)) :=
      read_eq_encoding_iff.2 ⟨n, hn, rfl⟩
    exact ⟨Fallible.mapError_eq_error.2 ⟨_, hfault, rfl⟩, rfl⟩

/-- A source is refused for its encoding if and only if its bytes are not the encoding of any
characters, and the line is the one at the end of their longest well-formed beginning. In particular
long forms, surrogates, numbers past the last and sequences that are cut off are refused where they
begin. -/
theorem readAs_encoding (host : Host) (file : Text) (bytes : List UInt8) :
    ((∃ error, readAs host file bytes = .error error ∧
        error.fault.reason? = some "invalid UTF-8 encoding") ↔ ¬Utf8.IsWellFormed bytes) ∧
      (∀ error, readAs host file bytes = .error error →
        error.fault.reason? = some "invalid UTF-8 encoding" →
        ∃ good, Utf8.IsLongestWellFormed good bytes ∧
          error = ⟨file, .encoding (1 + good.count 10)⟩) ∧
      ∀ good bad, bytes = good ++ bad → Utf8.IsWellFormed good → Utf8.Malformed bad →
        readAs host file bytes = .error ⟨file, .encoding (1 + good.count 10)⟩ := by
  refine ⟨⟨?_, ?_⟩, ?_, ?_⟩
  · intro h
    obtain ⟨error, herror⟩ := h
    obtain ⟨n, hn, -⟩ := readAs_encoding_iff.1 herror
    exact Utf8.not_isWellFormed_of_decode hn
  · intro h
    cases hdecode : Utf8.decode bytes with
    | ok cs => exact absurd (Utf8.isWellFormed_of_decode hdecode) h
    | error n => exact ⟨_, readAs_encoding_iff.2 ⟨n, hdecode, rfl⟩⟩
  · intro error hread hreason
    obtain ⟨n, hn, heq⟩ := readAs_encoding_iff.1 ⟨hread, hreason⟩
    exact ⟨bytes.take n, Utf8.isLongestWellFormed_of_decode hn, heq⟩
  · intro good bad hbytes hgood hbad
    have hn : Utf8.decode bytes = .error good.length := by
      rw [hbytes, Utf8.decode_append_of_scalar?_eq_none hgood hbad.ne_nil hbad.scalar?_eq_none]
    have hline : lineOfByte bytes good.length = 1 + good.count 10 := by
      rw [lineOfByte, hbytes, List.take_left]
    rw [← hline]
    exact (readAs_encoding_iff.2 ⟨good.length, hn, rfl⟩).1

/-- The beginning of a source with a syntax error and a literal that denotes nothing. -/
def brokenStart : List UInt8 :=
  "package m\nfunc (\nvar s = \"\\q\"".toList.flatMap String.utf8EncodeChar

/-- Bytes that begin with a surrogate and end with one that no character has. -/
def brokenEnd : List UInt8 := Utf8.threeBytes 0xD800 ++ [0x0A, 0xFF]

theorem readAs_broken : Utf8.IsWellFormed brokenStart ∧ Utf8.Malformed brokenEnd ∧
    ¬Utf8.IsWellFormed (brokenStart ++ brokenEnd) ∧
    readAs .library "a.go" (brokenStart ++ brokenEnd) = .error ⟨"a.go", .encoding 3⟩ ∧
    ∃ good, Utf8.IsLongestWellFormed good (brokenStart ++ brokenEnd) ∧
      1 + good.count 10 = 3 := by
  obtain ⟨hiff, hlongest, hmalformed⟩ := readAs_encoding .library "a.go" (brokenStart ++ brokenEnd)
  have hstart : Utf8.IsWellFormed brokenStart := ⟨_, rfl⟩
  have hend : Utf8.Malformed brokenEnd := .surrogate (by decide) (by decide) _
  have hline : 1 + brokenStart.count 10 = 3 := by decide +kernel
  have hread := hmalformed brokenStart brokenEnd rfl hstart hend
  rw [hline] at hread
  obtain ⟨good, hgood, heq⟩ := hlongest _ hread rfl
  have hcount : 3 = 1 + good.count 10 := by simpa using heq
  exact ⟨hstart, hend, hiff.1 ⟨_, hread, rfl⟩, hread, good, hgood, hcount.symm⟩

end Source

end StructSchema
