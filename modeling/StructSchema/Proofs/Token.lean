import StructSchema.Source.Token

/-!
# Raw strings among tokens

What is known of the text of a raw string token: it stands between two backticks and holds no
other.
-/

namespace StructSchema.Source

/-- Between backticks, and without one inside. -/
def IsRawText (text : List Char) : Prop :=
  ∃ body, text = '\x60' :: (body ++ ['\x60']) ∧ '\x60' ∉ body

theorem wordKind_ne_rawString (word : List Char) : wordKind word ≠ .rawString := by
  rw [wordKind]
  split <;> simp

/-- What stands before the first occurrence of a character, with this character. -/
theorem take_takeWhile_ne {c : Char} {cs : List Char}
    (h : (cs.takeWhile (· ≠ c)).length < cs.length) :
    cs.take ((cs.takeWhile (· ≠ c)).length + 1) = cs.takeWhile (· ≠ c) ++ [c] := by
  induction cs with
  | nil => simp at h
  | cons d cs ih =>
    by_cases hd : d = c
    · subst hd
      simp
    · rw [List.takeWhile_cons_of_pos (by simpa using hd)] at h ⊢
      rw [List.length_cons, List.take_succ_cons, ih (by simpa using h), List.cons_append]

theorem tokenAt_rawString {c : Char} {rest : List Char} {more : Nat}
    (h : tokenAt c rest = some (.rawString, more)) : IsRawText (c :: rest.take more) := by
  rw [tokenAt] at h
  split at h
  · simp only [Option.some.injEq, Prod.mk.injEq] at h
    exact absurd h.1 (wordKind_ne_rawString _)
  split at h
  · obtain ⟨_, -, h⟩ := Option.map_eq_some_iff.1 h
    cases h
  split at h
  · rename_i hc
    dsimp only at h
    split at h
    · rename_i hlength
      simp only [Option.some.injEq, Prod.mk.injEq, true_and] at h
      rw [hc, ← h, take_takeWhile_ne hlength]
      refine ⟨_, rfl, fun hmem => ?_⟩
      have hne := List.all_eq_true.1 List.all_takeWhile _ hmem
      simp at hne
    · cases h
  split at h
  · obtain ⟨_, -, h⟩ := Option.map_eq_some_iff.1 h
    cases h
  split at h
  · cases h
  · obtain ⟨_, -, h⟩ := Option.map_eq_some_iff.1 h
    cases h

theorem isRawText_of_tokensFrom {line : Nat} {cs : List Char} {tokens : List Token}
    (h : tokensFrom line cs = .ok tokens) :
    ∀ token ∈ tokens, token.kind = .rawString → IsRawText token.text := by
  fun_induction tokensFrom line cs generalizing tokens with
  | case1 => cases h
  | case2 =>
    cases h
    refine List.forall_mem_singleton.2 fun hkind => ?_
    cases hkind
  | case3 => cases h
  | case4 =>
    rename_i htoken _ _ hrest ih
    cases h
    refine List.forall_mem_cons.2 ⟨?_, ih hrest⟩
    rintro rfl
    exact tokenAt_rawString htoken
  | case5 => cases h

theorem isRawText_of_tokens {source : List Char} {tokens : List Token}
    (h : Source.tokens source = .ok tokens) :
    ∀ token ∈ tokens, token.kind = .rawString → IsRawText token.text := by
  unfold Source.tokens at h
  split at h
  · exact isRawText_of_tokensFrom h
  · exact isRawText_of_tokensFrom h

end StructSchema.Source
