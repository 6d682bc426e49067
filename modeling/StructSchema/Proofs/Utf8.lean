import StructSchema.Text.Utf8

/-!
# Reading back what UTF-8 writes

`Encodes` is the table of sequences of one to four bytes. Writing a character gives the sequence
of its number, and one step of reading takes exactly such a sequence, so characters come back from
their bytes, and any bytes at all come back from the text that they are read as.
-/

namespace StructSchema

/-- A code point that has bytes: a character, or a surrogate that stands for a byte. -/
def CodePoint.isEncodable (c : CodePoint) : Bool := !c.isSurrogate || c.byte?.isSome

namespace Utf8

/-! ### The table of sequences -/

/-- The bytes of the character with number `n`. -/
inductive Encodes (n : Nat) : List UInt8 → Prop
  | one {a : UInt8} (high : n < 0x80) (ha : a.toNat = n) : Encodes n [a]
  | two {a b : UInt8} (low : 0x80 ≤ n) (high : n < 0x800) (ha : a.toNat = 0xC0 + n / 64)
      (hb : b.toNat = 0x80 + n % 64) : Encodes n [a, b]
  | three {a b c : UInt8} (low : 0x800 ≤ n) (high : n < 0x10000)
      (scalar : n < 0xD800 ∨ 0xDFFF < n) (ha : a.toNat = 0xE0 + n / 4096)
      (hb : b.toNat = 0x80 + n / 64 % 64) (hc : c.toNat = 0x80 + n % 64) : Encodes n [a, b, c]
  | four {a b c d : UInt8} (low : 0x10000 ≤ n) (high : n < 0x110000)
      (ha : a.toNat = 0xF0 + n / 262144) (hb : b.toNat = 0x80 + n / 4096 % 64)
      (hc : c.toNat = 0x80 + n / 64 % 64) (hd : d.toNat = 0x80 + n % 64) : Encodes n [a, b, c, d]

theorem toNat_ofNat_of_lt {n : Nat} (h : n < 256) : (UInt8.ofNat n).toNat = n := by
  rw [UInt8.toNat_ofNat']
  omega

theorem encodes_utf8EncodeChar (c : Char) : Encodes c.toNat (String.utf8EncodeChar c) := by
  have hvalid : c.toNat < 0xD800 ∨ 0xDFFF < c.toNat ∧ c.toNat < 0x110000 := c.valid
  have hval : c.val.toNat = c.toNat := rfl
  unfold String.utf8EncodeChar
  dsimp only
  rw [hval]
  split
  · exact .one (by omega) (toNat_ofNat_of_lt (by omega))
  split
  · refine .two (by omega) (by omega) ?_ ?_ <;> rw [toNat_ofNat_of_lt (by omega)] <;> omega
  split
  · refine .three (by omega) (by omega) (by omega) ?_ ?_ ?_ <;>
      rw [toNat_ofNat_of_lt (by omega)] <;> omega
  · refine .four (by omega) (by omega) ?_ ?_ ?_ ?_ <;>
      rw [toNat_ofNat_of_lt (by omega)] <;> omega

theorem Encodes.unique {n : Nat} {s t : List UInt8} (hs : Encodes n s) (ht : Encodes n t) :
    s = t := by
  cases hs <;> cases ht <;> first
    | omega
    | simp only [List.cons.injEq, ← UInt8.toNat_inj, and_true]
      omega

/-! ### One step of reading -/

theorem isTail_iff {b : UInt8} : isTail b = true ↔ 0x80 ≤ b.toNat ∧ b.toNat ≤ 0xBF := by
  simp only [isTail, Bool.and_eq_true, decide_eq_true_eq, UInt8.le_iff_toNat_le]
  rfl

theorem ofNat_eq_of_toNat {c : Char} {n : Nat} (h : n = c.toNat) : Char.ofNat n = c := by
  rw [h, Char.ofNat_toNat]

/-- The bytes of a character are read as this character, whatever follows. -/
theorem scalar?_of_encodes {c : Char} {s : List UInt8} (h : Encodes c.toNat s)
    (rest : List UInt8) : scalar? (s ++ rest) = some (c, s.length) := by
  cases h with
  | @one a high ha =>
    simp only [List.cons_append, List.nil_append, scalar?, UInt8.lt_iff_toNat_lt, UInt8.reduceToNat]
    rw [if_pos (by omega), ofNat_eq_of_toNat ha]
    rfl
  | @two a b low high ha hb =>
    have hn : a.toNat % 32 * 64 + tailBits b = c.toNat := by
      unfold tailBits
      omega
    simp only [List.cons_append, List.nil_append, scalar?, UInt8.lt_iff_toNat_lt, UInt8.reduceToNat,
      isTail_iff]
    rw [if_neg (by omega), if_neg (by omega), if_pos (by omega), if_pos (by omega),
      ofNat_eq_of_toNat hn]
    rfl
  | @three a b d low high scalar ha hb hd =>
    have hn : a.toNat % 16 * 4096 + tailBits b * 64 + tailBits d = c.toNat := by
      unfold tailBits
      omega
    simp only [List.cons_append, List.nil_append, scalar?, UInt8.lt_iff_toNat_lt, UInt8.reduceToNat,
      isTail_iff, Bool.and_eq_true, Bool.or_eq_true, decide_eq_true_eq, ne_eq, ← UInt8.toNat_inj,
      UInt8.le_iff_toNat_le]
    rw [if_neg (by omega), if_neg (by omega), if_neg (by omega), if_pos (by omega),
      if_pos (by omega), ofNat_eq_of_toNat hn]
    rfl
  | @four a b d e low high ha hb hd he =>
    have hn :
        a.toNat % 8 * 262144 + tailBits b * 4096 + tailBits d * 64 + tailBits e = c.toNat := by
      unfold tailBits
      omega
    simp only [List.cons_append, List.nil_append, scalar?, UInt8.lt_iff_toNat_lt, UInt8.reduceToNat,
      isTail_iff, Bool.and_eq_true, Bool.or_eq_true, decide_eq_true_eq, ne_eq, ← UInt8.toNat_inj,
      UInt8.le_iff_toNat_le]
    rw [if_neg (by omega), if_neg (by omega), if_neg (by omega), if_neg (by omega),
      if_pos (by omega), if_pos (by omega), ofNat_eq_of_toNat hn]
    rfl

theorem toNat_ofNat_of_scalar {n : Nat} (h : n < 0xD800 ∨ 0xDFFF < n ∧ n < 0x110000) :
    (Char.ofNat n).toNat = n := by
  have hvalid : n.isValidChar := h
  rw [Char.ofNat, dif_pos hvalid]
  rfl

theorem encodes_of_scalar? {bytes : List UInt8} {c : Char} {width : Nat}
    (h : scalar? bytes = some (c, width)) :
    ∃ s rest, bytes = s ++ rest ∧ Encodes c.toNat s ∧ width = s.length := by
  -- the ranges of the second byte exclude long forms and surrogates, so the number that the bits
  -- give is one of the row that the first byte announces
  unfold scalar? at h
  simp only [UInt8.lt_iff_toNat_lt, UInt8.reduceToNat, isTail_iff, Bool.and_eq_true,
    Bool.or_eq_true, decide_eq_true_eq, ne_eq, ← UInt8.toNat_inj, UInt8.le_iff_toNat_le] at h
  split at h
  · cases h
  rename_i a rest
  split at h
  · rename_i ha
    cases h
    have hn : (Char.ofNat a.toNat).toNat = a.toNat := toNat_ofNat_of_scalar (by omega)
    exact ⟨[a], rest, rfl, .one (by omega) hn.symm, rfl⟩
  split at h
  · cases h
  split at h
  · split at h
    · rename_i b rest
      split at h
      · cases h
        unfold tailBits
        have hn := toNat_ofNat_of_scalar (n := a.toNat % 32 * 64 + b.toNat % 64) (by omega)
        refine ⟨[a, b], rest, rfl, ?_, rfl⟩
        rw [hn]
        apply Encodes.two <;> omega
      · cases h
    · cases h
  split at h
  · split at h
    · rename_i b d rest
      split at h
      · cases h
        unfold tailBits
        have hn := toNat_ofNat_of_scalar
          (n := a.toNat % 16 * 4096 + b.toNat % 64 * 64 + d.toNat % 64) (by omega)
        refine ⟨[a, b, d], rest, rfl, ?_, rfl⟩
        rw [hn]
        apply Encodes.three <;> omega
      · cases h
    · cases h
  split at h
  · split at h
    · rename_i b d e rest
      split at h
      · cases h
        unfold tailBits
        have hn := toNat_ofNat_of_scalar
          (n := a.toNat % 8 * 262144 + b.toNat % 64 * 4096 + d.toNat % 64 * 64 + e.toNat % 64)
          (by omega)
        refine ⟨[a, b, d, e], rest, rfl, ?_, rfl⟩
        rw [hn]
        apply Encodes.four <;> omega
      · cases h
    · cases h
  · cases h

theorem Encodes.ne_nil {n : Nat} {s : List UInt8} (h : Encodes n s) : s ≠ [] := by
  cases h <;> exact List.cons_ne_nil _ _

theorem Encodes.length_lt {n : Nat} {s : List UInt8} (h : Encodes n s) (rest : List UInt8) :
    rest.length < (s ++ rest).length := by
  have hpos := List.length_pos_iff.2 h.ne_nil
  rw [List.length_append]
  omega

theorem eq_utf8EncodeChar {c : Char} {s : List UInt8} (h : Encodes c.toNat s) :
    s = String.utf8EncodeChar c := h.unique (encodes_utf8EncodeChar c)

theorem scalar?_ne_none_of_lt {b : UInt8} (h : b.toNat < 0x80) (rest : List UInt8) :
    scalar? (b :: rest) ≠ none := by
  have hb : b < 0x80 := UInt8.lt_iff_toNat_lt.2 h
  simp only [scalar?, if_pos hb, ne_eq, reduceCtorEq, not_false_eq_true]

/-! ### Whole texts -/

theorem losslessFrom_eq_drop (skip : Nat) (bytes : List UInt8) :
    losslessFrom skip bytes = decodeLossless (bytes.drop skip) := by
  induction bytes generalizing skip with
  | nil => cases skip <;> rfl
  | cons b rest ih =>
    cases skip with
    | zero => rfl
    | succ skip => exact ih skip

theorem decodeLossless_char {c : Char} {s : List UInt8} (h : Encodes c.toNat s)
    (rest : List UInt8) : decodeLossless (s ++ rest) = .char c :: decodeLossless rest := by
  obtain ⟨b, s, rfl⟩ := List.exists_cons_of_ne_nil h.ne_nil
  have hread := scalar?_of_encodes h rest
  rw [List.cons_append] at hread
  rw [List.cons_append, decodeLossless, losslessFrom, hread]
  dsimp only
  rw [List.length_cons, Nat.add_sub_cancel, losslessFrom_eq_drop, List.drop_left]

theorem decodeLossless_byte {b : UInt8} {rest : List UInt8} (h : scalar? (b :: rest) = none) :
    decodeLossless (b :: rest) = CodePoint.ofByte b :: decodeLossless rest := by
  rw [decodeLossless, losslessFrom, h]
  rfl

theorem decodeLossless_flatMap (cs : List Char) :
    decodeLossless (cs.flatMap String.utf8EncodeChar) = cs.map .char := by
  induction cs with
  | nil => rfl
  | cons c cs ih =>
    rw [List.flatMap_cons, decodeLossless_char (encodes_utf8EncodeChar c), ih, List.map_cons]

theorem decodeFrom_append (s rest : List UInt8) :
    decodeFrom s.length (s ++ rest) = (decode rest).mapError (· + s.length) := by
  induction s with
  | nil =>
    rw [List.nil_append, List.length_nil, ← decode]
    cases decode rest <;> rfl
  | cons b s ih =>
    rw [List.cons_append, List.length_cons, decodeFrom, ih]
    cases decode rest <;> rfl

theorem decode_char {c : Char} {s : List UInt8} (hs : Encodes c.toNat s) (rest : List UInt8) :
    decode (s ++ rest) = ((decode rest).map (c :: ·)).mapError (· + s.length) := by
  obtain ⟨b, s, rfl⟩ := List.exists_cons_of_ne_nil hs.ne_nil
  have hread := scalar?_of_encodes hs rest
  rw [List.cons_append] at hread
  rw [List.cons_append, decode, decodeFrom, hread]
  dsimp only
  rw [List.length_cons, Nat.add_sub_cancel, decodeFrom_append]
  cases decode rest <;> rfl

/-- Strict reading takes the bytes of characters as these characters and goes on behind them. -/
theorem decode_flatMap_append (cs : List Char) (rest : List UInt8) :
    decode (cs.flatMap String.utf8EncodeChar ++ rest) =
      ((decode rest).map (cs ++ ·)).mapError (· + (cs.flatMap String.utf8EncodeChar).length) := by
  induction cs with
  | nil =>
    rw [List.flatMap_nil, List.nil_append]
    cases decode rest <;> rfl
  | cons c cs ih =>
    rw [List.flatMap_cons, List.append_assoc, decode_char (encodes_utf8EncodeChar c), ih]
    cases decode rest with
    | ok more => rfl
    | error n =>
      have hlength : n + (cs.flatMap String.utf8EncodeChar).length +
          (String.utf8EncodeChar c).length =
            n + (String.utf8EncodeChar c ++ cs.flatMap String.utf8EncodeChar).length := by
        rw [List.length_append]
        omega
      exact congrArg Except.error hlength

theorem decode_flatMap (cs : List Char) : decode (cs.flatMap String.utf8EncodeChar) = .ok cs := by
  have h := decode_flatMap_append cs []
  rw [List.append_nil] at h
  rw [h]
  exact congrArg Except.ok (List.append_nil cs)

theorem encode?_cons {c : CodePoint} {t : Text} {bytes more : List UInt8}
    (hc : encodePoint? c = some bytes) (ht : encode? t = some more) :
    encode? (c :: t) = some (bytes ++ more) := by
  obtain ⟨parts, hparts, rfl⟩ := Option.map_eq_some_iff.1 ht
  rw [encode?, List.mapM_cons, hc, hparts]
  rfl

theorem mapM_char? (cs : List Char) : (cs.map CodePoint.char).mapM CodePoint.char? = some cs := by
  induction cs with
  | nil => rfl
  | cons c cs ih =>
    rw [List.map_cons, List.mapM_cons, ih]
    rfl

theorem encodeStrict?_map_char (cs : List Char) :
    encodeStrict? (cs.map .char) = some (cs.flatMap String.utf8EncodeChar) := by
  rw [encodeStrict?, mapM_char?]
  rfl

theorem eq_map_char_of_mapM {t : Text} {cs : List Char} (h : t.mapM CodePoint.char? = some cs) :
    t = cs.map .char := by
  induction t generalizing cs with
  | nil =>
    cases h
    rfl
  | cons c t ih =>
    rw [List.mapM_cons] at h
    obtain ⟨d, hd, h⟩ := Option.bind_eq_some_iff.1 h
    obtain ⟨ds, hds, h⟩ := Option.bind_eq_some_iff.1 h
    cases h
    cases c with
    | lone half => cases hd
    | char c =>
      cases hd
      rw [List.map_cons, ← ih hds]

/-- Strict writing succeeds on characters only, which strict reading gives back. -/
theorem exists_chars_of_encodeStrict? {t : Text} {bytes : List UInt8}
    (h : encodeStrict? t = some bytes) :
    ∃ cs : List Char, t = cs.map .char ∧ decode bytes = .ok cs := by
  obtain ⟨cs, hcs, rfl⟩ := Option.map_eq_some_iff.1 h
  exact ⟨cs, eq_map_char_of_mapM hcs, decode_flatMap cs⟩

theorem byte?_ofByte {b : UInt8} (h : 0x80 ≤ b.toNat) : (CodePoint.ofByte b).byte? = some b := by
  have hb := b.toNat_lt
  simp only [CodePoint.ofByte, CodePoint.byte?]
  rw [if_pos (by omega), Nat.add_sub_cancel_left, UInt8.ofNat_toNat]

theorem encodePoint?_ofByte {b : UInt8} (h : 0x80 ≤ b.toNat) :
    encodePoint? (CodePoint.ofByte b) = some [b] := by
  have hbyte := byte?_ofByte h
  rw [CodePoint.ofByte] at hbyte ⊢
  rw [encodePoint?, hbyte]
  rfl

theorem isSome_encodePoint? (c : CodePoint) : (encodePoint? c).isSome = c.isEncodable := by
  cases c with
  | char c => rfl
  | lone half => rw [encodePoint?, Option.isSome_map, CodePoint.isEncodable]; rfl

/-- Lossless reading gives no code point but characters and surrogates that stand for a byte. -/
theorem isEncodable_losslessFrom (skip : Nat) (bytes : List UInt8) :
    ∀ c ∈ losslessFrom skip bytes, c.isEncodable = true := by
  induction bytes generalizing skip with
  | nil =>
    rw [losslessFrom]
    exact List.forall_mem_nil _
  | cons b rest ih =>
    cases skip with
    | succ skip => exact ih skip
    | zero =>
      cases hread : scalar? (b :: rest) with
      | some read =>
        rw [losslessFrom, hread]
        exact List.forall_mem_cons.2 ⟨rfl, ih _⟩
      | none =>
        have hb : 0x80 ≤ b.toNat :=
          Nat.le_of_not_lt fun hlt => scalar?_ne_none_of_lt hlt rest hread
        have hbyte : (CodePoint.ofByte b).isEncodable = true := by
          rw [CodePoint.isEncodable, byte?_ofByte hb, Option.isSome_some, Bool.or_true]
        rw [losslessFrom, hread]
        exact List.forall_mem_cons.2 ⟨hbyte, ih 0⟩

/-- No byte is lost, merged or invented: any bytes come back from the text that they are read as. -/
theorem encode?_decodeLossless (bytes : List UInt8) :
    encode? (decodeLossless bytes) = some bytes := by
  -- on the length, since a character takes several bytes at once
  induction hl : bytes.length using Nat.strongRecOn generalizing bytes with
  | ind n ih =>
    cases bytes with
    | nil => rfl
    | cons b rest =>
      cases hread : scalar? (b :: rest) with
      | none =>
        have hb : 0x80 ≤ b.toNat :=
          Nat.le_of_not_lt fun hlt => scalar?_ne_none_of_lt hlt rest hread
        have hrest : encode? (decodeLossless rest) = some rest :=
          ih rest.length (by simp [← hl]) rest rfl
        rw [decodeLossless_byte hread]
        exact encode?_cons (encodePoint?_ofByte hb) hrest
      | some read =>
        obtain ⟨c, width⟩ := read
        obtain ⟨s, after, hbytes, hs, -⟩ := encodes_of_scalar? hread
        have hlength : after.length < n := by
          rw [← hl, hbytes]
          exact hs.length_lt after
        have hafter : encode? (decodeLossless after) = some after :=
          ih after.length hlength after rfl
        have hc : encodePoint? (.char c) = some s := congrArg some (eq_utf8EncodeChar hs).symm
        rw [hbytes, decodeLossless_char hs]
        exact encode?_cons hc hafter

end Utf8

end StructSchema
