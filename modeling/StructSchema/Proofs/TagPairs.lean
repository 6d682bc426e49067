import Mathlib.Logic.ExistsUnique
import StructSchema.Proofs.Literal
import StructSchema.StructTag

/-!
# Pairs of struct tags

There is one way to take a tag apart into pairs and a rest that begins with none. What stands under
a key is decided by the first of these pairs with the key, so neither the rest nor text behind the
tag can change it.
-/

namespace StructSchema.StructTag

/-! ### Quoted text -/

/-- What may stand between the quotes of a value: a backslash takes the next code point with it. -/
inductive QuotedBody : Text → Prop
  | nil : QuotedBody []
  | plain {c : CodePoint} {rest : Text} (quote : c ≠ .char '"') (backslash : c ≠ .char '\\')
      (h : QuotedBody rest) : QuotedBody (c :: rest)
  | escaped {c : CodePoint} {rest : Text} (h : QuotedBody rest) :
      QuotedBody (.char '\\' :: c :: rest)

theorem quotedBody?_of_quotedBody {body : Text} (h : QuotedBody body) (after : Text) :
    quotedBody? (body ++ .char '"' :: after) = some (body, after) := by
  induction h with
  | nil => rfl
  | plain hq hb _ ih =>
    rw [List.cons_append, quotedBody?, ih]
    · rfl
    · exact hq
    · simp [hb]
    · simp [hb]
  | escaped _ ih =>
    rw [List.cons_append, List.cons_append, quotedBody?, ih]
    rfl

theorem quotedBody_of_quotedBody? {t body after : Text} (h : quotedBody? t = some (body, after)) :
    QuotedBody body ∧ t = body ++ .char '"' :: after := by
  fun_induction quotedBody? t generalizing body with
  | case1 => cases h
  | case2 rest =>
    cases h
    exact ⟨.nil, rfl⟩
  | case3 => cases h
  | case4 c rest ih =>
    obtain ⟨⟨inner, behind⟩, hinner, heq⟩ := Option.map_eq_some_iff.1 h
    cases heq
    obtain ⟨hbody, rfl⟩ := ih hinner
    exact ⟨.escaped hbody, rfl⟩
  | case5 c rest hq hb hs ih =>
    obtain ⟨⟨inner, behind⟩, hinner, heq⟩ := Option.map_eq_some_iff.1 h
    cases heq
    obtain ⟨hbody, rfl⟩ := ih hinner
    -- a backslash at the end of the text is no body, and before anything else it takes that along
    have hbackslash : c ≠ .char '\\' := by
      intro hc
      obtain ⟨next, others, hrest⟩ : ∃ next others, inner ++ .char '"' :: after = next :: others :=
        List.exists_cons_of_ne_nil (by simp)
      exact hs next others hc hrest
    exact ⟨.plain hq hbackslash hbody, rfl⟩

theorem quotedBody_iff {body : Text} :
    QuotedBody body ↔ quotedBody? (body ++ [.char '"']) = some (body, []) :=
  ⟨fun h => quotedBody?_of_quotedBody h [], fun h => (quotedBody_of_quotedBody? h).1⟩

instance : DecidablePred QuotedBody := fun _ => decidable_of_iff _ quotedBody_iff.symm

/-! ### Pairs as they are written -/

/-- A pair with the spaces before it. -/
structure WrittenPair where
  spaces : Nat
  key : Text
  body : Text
  key_ne_nil : key ≠ []
  key_parts : ∀ c ∈ key, ' '.toNat < c.val ∧ c ≠ .char ':' ∧ c ≠ .char '"' ∧ c ≠ .char '\x7f'
  body_quoted : QuotedBody body

namespace WrittenPair

def literal (p : WrittenPair) : Text := .char '"' :: p.body ++ [.char '"']

def text (p : WrittenPair) : Text :=
  List.replicate p.spaces (.char ' ') ++ (p.key ++ .char ':' :: p.literal)

def pair (p : WrittenPair) : TagPair := ⟨p.key, p.literal⟩

theorem text_append (p : WrittenPair) (rest : Text) :
    p.text ++ rest = List.replicate p.spaces (.char ' ') ++
      (p.key ++ .char ':' :: .char '"' :: (p.body ++ .char '"' :: rest)) := by
  simp only [text, literal, List.append_assoc, List.cons_append, List.nil_append]

end WrittenPair

theorem isKeyPart_iff {c : CodePoint} : isKeyPart c = true ↔
    ' '.toNat < c.val ∧ c ≠ .char ':' ∧ c ≠ .char '"' ∧ c ≠ .char '\x7f' := by
  simp only [isKeyPart, Bool.and_eq_true, decide_eq_true_eq, and_assoc]

theorem dropWhile_replicate_append {t : Text} (n : Nat) (h : t.head? ≠ some (.char ' ')) :
    (List.replicate n (CodePoint.char ' ') ++ t).dropWhile (· = .char ' ') = t := by
  have hspaces : ∀ c ∈ List.replicate n (CodePoint.char ' '), decide (c = .char ' ') = true := by
    intro c hc
    exact decide_eq_true (List.eq_of_mem_replicate hc)
  rw [List.dropWhile_append_of_pos hspaces]
  cases t with
  | nil => rfl
  | cons c t =>
    have hc : c ≠ .char ' ' := fun hc => h (congrArg some hc)
    rw [List.dropWhile_cons_of_neg (by simpa using hc)]

theorem pair?_text (p : WrittenPair) (rest : Text) :
    pair? (p.text ++ rest) = some (p.pair, rest) := by
  have hkey : ∀ c ∈ p.key, isKeyPart c = true := fun c hc => isKeyPart_iff.2 (p.key_parts c hc)
  have hstart : (p.text ++ rest).dropWhile (· = .char ' ') =
      p.key ++ .char ':' :: .char '"' :: (p.body ++ .char '"' :: rest) := by
    rw [p.text_append, dropWhile_replicate_append]
    obtain ⟨c, key, hcons⟩ := List.exists_cons_of_ne_nil p.key_ne_nil
    have hc := p.key_parts c (hcons ▸ List.mem_cons_self ..)
    rw [hcons, List.cons_append, List.head?_cons]
    rintro ⟨⟩
    exact absurd hc.1 (by decide)
  have htake : (p.key ++ .char ':' :: .char '"' :: (p.body ++ .char '"' :: rest)).takeWhile
      isKeyPart = p.key := by
    rw [List.takeWhile_append_of_pos hkey, List.takeWhile_cons_of_neg (by decide), List.append_nil]
  have hdrop : (p.key ++ .char ':' :: .char '"' :: (p.body ++ .char '"' :: rest)).dropWhile
      isKeyPart = .char ':' :: .char '"' :: (p.body ++ .char '"' :: rest) := by
    rw [List.dropWhile_append_of_pos hkey, List.dropWhile_cons_of_neg (by decide)]
  have hempty : p.key.isEmpty = false := List.isEmpty_eq_false_iff.2 p.key_ne_nil
  simp only [pair?, hstart, htake, hdrop, hempty, quotedBody?_of_quotedBody p.body_quoted]
  rfl

theorem exists_spaces (tag : Text) :
    ∃ n, tag = List.replicate n (.char ' ') ++ tag.dropWhile (· = .char ' ') := by
  have hspaces : ∀ c ∈ tag.takeWhile (· = .char ' '), c = .char ' ' := fun c hc =>
    of_decide_eq_true (List.all_eq_true.1 List.all_takeWhile c hc)
  refine ⟨(tag.takeWhile (· = .char ' ')).length, ?_⟩
  rw [← List.eq_replicate_of_mem hspaces, List.takeWhile_append_dropWhile]

theorem exists_text_of_pair? {tag after : Text} {q : TagPair} (h : pair? tag = some (q, after)) :
    ∃ p : WrittenPair, tag = p.text ++ after ∧ p.pair = q := by
  obtain ⟨spaces, htag⟩ := exists_spaces tag
  unfold pair? at h
  dsimp only at h
  generalize tag.dropWhile (· = .char ' ') = start at h htag
  have hstart : start.takeWhile isKeyPart ++ start.dropWhile isKeyPart = start :=
    List.takeWhile_append_dropWhile
  have hparts : ∀ c ∈ start.takeWhile isKeyPart, isKeyPart c = true := fun c hc =>
    List.all_eq_true.1 List.all_takeWhile c hc
  generalize start.takeWhile isKeyPart = key at h hstart hparts
  split at h
  · rename_i rest hrest
    rw [hrest] at hstart
    split at h
    · cases h
    rename_i hempty
    simp only [Option.map_eq_some_iff, Prod.mk.injEq] at h
    obtain ⟨⟨body, behind⟩, hbody, rfl, rfl⟩ := h
    obtain ⟨hquoted, rfl⟩ := quotedBody_of_quotedBody? hbody
    refine ⟨⟨spaces, key, body, ?_, ?_, hquoted⟩, ?_, rfl⟩
    · exact fun hnil => hempty (List.isEmpty_iff.2 hnil)
    · exact fun c hc => isKeyPart_iff.1 (hparts c hc)
    · rw [WrittenPair.text_append, hstart, ← htag]
  · cases h

/-- A text begins with one pair at most. -/
theorem text_append_inj {p q : WrittenPair} {rest after : Text}
    (h : p.text ++ rest = q.text ++ after) : p = q ∧ rest = after := by
  have hread := pair?_text p rest
  rw [h, pair?_text, Option.some.injEq, Prod.mk.injEq] at hread
  obtain ⟨hpair, rfl⟩ := hread
  refine ⟨?_, rfl⟩
  rw [List.append_cancel_right_eq] at h
  obtain ⟨n, key, body, _, _, _⟩ := p
  obtain ⟨m, key', body', _, _, _⟩ := q
  simp only [WrittenPair.pair, WrittenPair.literal, TagPair.mk.injEq, List.cons_append,
    List.cons.injEq, true_and, List.append_cancel_right_eq] at hpair
  obtain ⟨rfl, rfl⟩ := hpair
  -- with one key and one body the texts can differ in the number of spaces only
  have hlength := congrArg List.length h
  simp only [WrittenPair.text, WrittenPair.literal, List.length_append,
    List.length_replicate] at hlength
  have hspaces : n = m := by omega
  rw [hspaces]

theorem ne_text_append {rest : Text} (h : pair? rest = none) (p : WrittenPair) (after : Text) :
    rest ≠ p.text ++ after := by
  rintro rfl
  rw [pair?_text] at h
  cases h

/-! ### Decompositions -/

/-- A tag taken apart into pairs and a rest that begins with none. -/
structure Decomposes (tag : Text) (ps : List WrittenPair) (rest : Text) : Prop where
  tag_eq : tag = ps.flatMap WrittenPair.text ++ rest
  maximal : ∀ (p : WrittenPair) (after : Text), rest ≠ p.text ++ after

theorem Decomposes.cons {tag rest : Text} {ps : List WrittenPair} (p : WrittenPair)
    (h : Decomposes tag ps rest) : Decomposes (p.text ++ tag) (p :: ps) rest where
  tag_eq := by rw [h.tag_eq, List.flatMap_cons, List.append_assoc]
  maximal := h.maximal

theorem exists_decomposes (tag : Text) : ∃ ps rest, Decomposes tag ps rest := by
  induction hl : tag.length using Nat.strongRecOn generalizing tag with
  | ind n ih =>
    cases hread : pair? tag with
    | none => exact ⟨[], tag, rfl, ne_text_append hread⟩
    | some read =>
      obtain ⟨q, after⟩ := read
      obtain ⟨p, rfl, -⟩ := exists_text_of_pair? hread
      have hlength : after.length < n := hl ▸ length_of_pair? hread
      obtain ⟨ps, rest, h⟩ := ih after.length hlength after rfl
      exact ⟨p :: ps, rest, h.cons p⟩

theorem Decomposes.unique {tag rest after : Text} {ps qs : List WrittenPair}
    (hp : Decomposes tag ps rest) (hq : Decomposes tag qs after) : ps = qs ∧ rest = after := by
  induction ps generalizing tag qs with
  | nil =>
    have htag : tag = rest := hp.tag_eq
    subst htag
    cases qs with
    | nil => exact ⟨rfl, hq.tag_eq⟩
    | cons q qs =>
      have hbegins := hq.tag_eq
      rw [List.flatMap_cons, List.append_assoc] at hbegins
      exact absurd hbegins (hp.maximal q _)
  | cons p ps ih =>
    have htag := hp.tag_eq
    rw [List.flatMap_cons, List.append_assoc] at htag
    cases qs with
    | nil =>
      have hafter : tag = after := hq.tag_eq
      exact absurd (hafter.symm.trans htag) (hq.maximal p _)
    | cons q qs =>
      have hsame := hq.tag_eq
      rw [List.flatMap_cons, List.append_assoc, htag] at hsame
      obtain ⟨rfl, htail⟩ := text_append_inj hsame
      obtain ⟨rfl, rfl⟩ := ih ⟨rfl, hp.maximal⟩ ⟨htail, hq.maximal⟩
      exact ⟨rfl, rfl⟩

/-- Text behind a tag leaves its pairs as they are and may add more. -/
theorem Decomposes.append {tag rest : Text} {ps : List WrittenPair} (h : Decomposes tag ps rest)
    (more : Text) :
    ∃ qs after, Decomposes (tag ++ more) (ps ++ qs) after := by
  obtain ⟨qs, after, hq⟩ := exists_decomposes (rest ++ more)
  refine ⟨qs, after, ?_, hq.maximal⟩
  rw [h.tag_eq, List.append_assoc, hq.tag_eq, List.flatMap_append, List.append_assoc]

/-! ### Looking up -/

theorem pairs_cons {tag after : Text} {p : TagPair} (h : pair? tag = some (p, after)) :
    pairs tag = p :: pairs after := by
  rw [pairs]
  split
  · rename_i p' after' h'
    rw [h, Option.some.injEq, Prod.mk.injEq] at h'
    rw [h'.1, h'.2]
  · rename_i h'
    rw [h] at h'
    cases h'

theorem pairs_of_decomposes {tag rest : Text} {ps : List WrittenPair}
    (h : Decomposes tag ps rest) : pairs tag = ps.map WrittenPair.pair := by
  induction ps generalizing tag with
  | nil =>
    obtain rfl : tag = rest := h.tag_eq
    rw [pairs]
    split
    · rename_i q after hread
      obtain ⟨p, htag, -⟩ := exists_text_of_pair? hread
      exact absurd htag (h.maximal p after)
    · rfl
  | cons p ps ih =>
    have htag := h.tag_eq
    rw [List.flatMap_cons, List.append_assoc] at htag
    rw [htag, pairs_cons (pair?_text p _), ih ⟨rfl, h.maximal⟩, List.map_cons]

theorem find?_pair_eq_none {key : Text} {ps : List WrittenPair} (h : ∀ p ∈ ps, p.key ≠ key) :
    (ps.map WrittenPair.pair).find? (·.key = key) = none := by
  rw [List.find?_eq_none]
  intro q hq
  obtain ⟨p, hp, rfl⟩ := List.mem_map.1 hq
  exact fun hsame => h p hp (of_decide_eq_true hsame)

theorem lookup_of_forall_ne {tag rest key : Text} {ps : List WrittenPair}
    (h : Decomposes tag ps rest) (hkey : ∀ p ∈ ps, p.key ≠ key) : lookup tag key = .ok none := by
  rw [lookup, pairs_of_decomposes h, find?_pair_eq_none hkey]

/-- What the literal of a pair means to a search: its value, nothing if it is malformed, or the
error of a code point that has no bytes. -/
def found (literal : Text) : Except LiteralError (Option Text) :=
  match Literal.decode literal with
  | .ok value => .ok (some value)
  | .error e => if e.fault.isSyntax then .ok none else .error e

theorem found_of_ok {literal value : Text} (h : Literal.decode literal = .ok value) :
    found literal = .ok (some value) := by
  rw [found, h]

theorem found_of_error {literal : Text} {e : LiteralError}
    (h : Literal.decode literal = .error e) :
    found literal = if e.fault.isSyntax then .ok none else .error e := by
  rw [found, h]

theorem lookup_append_cons {tag rest key : Text} {before after : List WrittenPair}
    {p : WrittenPair} (h : Decomposes tag (before ++ p :: after) rest)
    (hbefore : ∀ q ∈ before, q.key ≠ key) (hkey : p.key = key) :
    lookup tag key = found p.literal := by
  have hfound : (p.pair :: after.map WrittenPair.pair).find? (·.key = key) = some p.pair :=
    List.find?_cons_of_pos (decide_eq_true hkey)
  rw [lookup, pairs_of_decomposes h, List.map_append, List.map_cons, List.find?_append,
    find?_pair_eq_none hbefore, Option.none_or, hfound]
  rfl

theorem key_cases (ps : List WrittenPair) (key : Text) :
    (∀ p ∈ ps, p.key ≠ key) ∨ ∃ before p after, ps = before ++ p :: after ∧
      (∀ q ∈ before, q.key ≠ key) ∧ p.key = key := by
  induction ps with
  | nil => exact .inl fun p hp => absurd hp List.not_mem_nil
  | cons p ps ih =>
    by_cases hp : p.key = key
    · exact .inr ⟨[], p, ps, rfl, fun q hq => absurd hq List.not_mem_nil, hp⟩
    rcases ih with hnone | ⟨before, q, after, rfl, hbefore, hq⟩
    · exact .inl (List.forall_mem_cons.2 ⟨hp, hnone⟩)
    · exact .inr ⟨p :: before, q, after, rfl, List.forall_mem_cons.2 ⟨hp, hbefore⟩, hq⟩

/-- Text behind a tag in which a key is found does not change what is found. -/
theorem lookup_append {tag key value : Text} (h : lookup tag key = .ok (some value))
    (more : Text) : lookup (tag ++ more) key = .ok (some value) := by
  obtain ⟨ps, rest, hparts⟩ := exists_decomposes tag
  obtain ⟨qs, behind, hmore⟩ := hparts.append more
  rcases key_cases ps key with hnone | ⟨before, p, after, rfl, hbefore, hp⟩
  · rw [lookup_of_forall_ne hparts hnone] at h
    cases h
  · rw [lookup_append_cons hparts hbefore hp] at h
    rw [List.append_assoc, List.cons_append] at hmore
    rw [lookup_append_cons hmore hbefore hp, h]

theorem mem_tag_of_mem_literal {tag : Text} {p : TagPair} (h : p ∈ pairs tag) :
    ∀ c ∈ p.literal, c ∈ tag := by
  obtain ⟨ps, rest, hparts⟩ := exists_decomposes tag
  rw [pairs_of_decomposes hparts] at h
  obtain ⟨written, hwritten, rfl⟩ := List.mem_map.1 h
  intro c hc
  rw [hparts.tag_eq]
  refine List.mem_append_left _ (List.mem_flatMap.2 ⟨written, hwritten, ?_⟩)
  rw [WrittenPair.text]
  exact List.mem_append_right _ (List.mem_append_right _ (List.mem_cons_of_mem _ hc))

/-- An error of a search names a code point of the tag that has no bytes. -/
theorem unencodable_of_lookup {tag key : Text} {e : LiteralError} (h : lookup tag key = .error e) :
    ∃ c ∈ tag, c.isEncodable = false ∧ e.fault = .unencodable c := by
  rw [lookup] at h
  split at h
  · cases h
  rename_i p hp
  split at h
  · cases h
  rename_i fault hdecode
  split at h
  · cases h
  rename_i hform
  cases h
  rw [Bool.not_eq_true] at hform
  obtain ⟨c, hc, hfault⟩ := Literal.unencodable_of_decode hdecode hform
  exact ⟨c, mem_tag_of_mem_literal (List.mem_of_find?_eq_some hp) c hc, hfault⟩

/-- A key is looked up among the pairs that a tag is made of: the first one with the key decides,
and neither the rest nor any text behind the tag counts. Nothing but a code point without bytes in
the literal of that pair makes the search fail. -/
theorem lookup_convention (tag key : Text) :
    (∃! parts : List WrittenPair × Text, Decomposes tag parts.1 parts.2) ∧
    (∀ ps rest, Decomposes tag ps rest →
      (∀ before p after, ps = before ++ p :: after → (∀ q ∈ before, q.key ≠ key) → p.key = key →
        (∀ value, Literal.decode p.literal = .ok value → lookup tag key = .ok (some value)) ∧
        ∀ e, Literal.decode p.literal = .error e →
          lookup tag key = if e.fault.isSyntax then .ok none else .error e) ∧
      ((∀ p ∈ ps, p.key ≠ key) → lookup tag key = .ok none)) ∧
    (∀ e, lookup tag key = .error e →
      ∃ c ∈ tag, c.isEncodable = false ∧ e.fault = .unencodable c) ∧
    ∀ value more, lookup tag key = .ok (some value) →
      lookup (tag ++ more) key = .ok (some value) := by
  refine ⟨?_, ?_, fun e h => unencodable_of_lookup h, fun value more h => lookup_append h more⟩
  · obtain ⟨ps, rest, h⟩ := exists_decomposes tag
    refine ⟨(ps, rest), h, ?_⟩
    rintro ⟨qs, after⟩ h'
    obtain ⟨rfl, rfl⟩ := h'.unique h
    rfl
  · intro ps rest h
    refine ⟨?_, fun hnone => lookup_of_forall_ne h hnone⟩
    rintro before p after rfl hbefore hp
    have hlookup := lookup_append_cons h hbefore hp
    exact ⟨fun value hvalue => hlookup.trans (found_of_ok hvalue),
      fun e he => hlookup.trans (found_of_error he)⟩

/-- A tag with an unreadable value, two values under one key, and a rest that only looks like a
pair. -/
def crowded : Text := " a:\"\\q\"  k:\"\\\"\\303\\251\\\"\"k:\"other\" z :\"late\""

def crowdedPairs : List WrittenPair :=
  [⟨1, "a", "\\q", by decide, by decide, by decide⟩,
    ⟨2, "k", "\\\"\\303\\251\\\"", by decide, by decide, by decide⟩,
    ⟨0, "k", "other", by decide, by decide, by decide⟩]

theorem lookup_crowded :
    Decomposes crowded crowdedPairs " z :\"late\"" ∧
      lookup crowded "a" = .ok none ∧ lookup crowded "z" = .ok none ∧
      lookup crowded "k" = .ok (some ("\"é\"" : Text)) ∧
      lookup (crowded ++ Text.ofString "\" k:\"more\"") "k" = .ok (some ("\"é\"" : Text)) := by
  have h : Decomposes crowded crowdedPairs " z :\"late\"" := ⟨by decide, ne_text_append (by decide)⟩
  obtain ⟨-, ha, -⟩ := lookup_convention crowded "a"
  obtain ⟨-, hz, -⟩ := lookup_convention crowded "z"
  obtain ⟨-, hk, -, hmore⟩ := lookup_convention crowded "k"
  have hfirst : lookup crowded "a" = .ok none :=
    ((ha _ _ h).1 [] _ _ rfl (by decide) rfl).2 ⟨.unknownEscape (.char 'q'), "\"\\q\""⟩ (by decide)
  have hfound : lookup crowded "k" = .ok (some ("\"é\"" : Text)) :=
    ((hk _ _ h).1 (crowdedPairs.take 1) _ _ rfl (by decide) rfl).1 _ (by decide)
  exact ⟨h, hfirst, (hz _ _ h).2 (by decide), hfound, hmore _ _ hfound⟩

/-- A pair whose value is a surrogate that stands for no byte. -/
def strayPair : WrittenPair := ⟨0, "k", [.lone 0], by decide, by decide, by decide⟩

/-- Not every literal that cannot be decoded is passed over. -/
theorem not_forall_lookup_found :
    ¬∀ (tag key : Text) (ps : List WrittenPair) (rest : Text) (before : List WrittenPair)
      (p : WrittenPair) (after : List WrittenPair), Decomposes tag ps rest →
        ps = before ++ p :: after → (∀ q ∈ before, q.key ≠ key) → p.key = key →
          lookup tag key = .ok (Literal.decode p.literal).toOption := by
  intro h
  have hparts : Decomposes strayPair.text ([] ++ [strayPair]) [] :=
    ⟨by decide, ne_text_append (by decide)⟩
  have hclaimed := h strayPair.text "k" [strayPair] [] [] strayPair [] hparts rfl
    (fun q hq => absurd hq List.not_mem_nil) rfl
  have hdecode : Literal.decode strayPair.literal =
      .error ⟨.unencodable (.lone 0), strayPair.literal⟩ := by decide
  have hlookup : lookup strayPair.text "k" = found strayPair.literal :=
    lookup_append_cons hparts (fun q hq => absurd hq List.not_mem_nil) rfl
  rw [hlookup, found_of_error hdecode] at hclaimed
  cases hclaimed

end StructSchema.StructTag
