import StructSchema.Proofs.Fallible
import StructSchema.Source.Grammar

/-!
# What a rule reads

A rule reads a beginning of a token list and leaves the rest: the leaves of the trees it reads are
the tokens before the rest, each once and in order. So the tokens of a source's tree are those of
the source up to its end.
-/

namespace StructSchema.Source

namespace Tree

theorem tokens_withLabel (label : Label) (t : Tree) : (t.withLabel label).tokens = t.tokens := by
  cases t with
  | leaf _ token => rfl
  | branch _ kind line children => rw [withLabel, tokens, tokens]

theorem tokensAll_withLabel (label : Label) (ts : List Tree) :
    tokensAll (ts.map (withLabel label)) = tokensAll ts := by
  induction ts with
  | nil => rfl
  | cons t ts ih => rw [List.map_cons, tokensAll, tokensAll, tokens_withLabel, ih]

end Tree

namespace Rule

variable {σ : Type} {grammar : σ → Rule σ}

/-- A relation between the tokens before a reading, its trees and the tokens behind it, that holds
of what a rule reads if it holds of what the parts of a rule read. -/
structure Composes (P : List Token → List Tree → List Token → Prop) : Prop where
  nothing : ∀ tokens, P tokens [] tokens
  token : ∀ t rest, t.kind ≠ .endOfSource → P (t :: rest) [.leaf none t] rest
  append : ∀ {tokens trees rest more left}, P tokens trees rest → P rest more left →
    P tokens (trees ++ more) left
  node : ∀ {tokens trees rest} (kind : Kind), P tokens trees rest →
    P tokens [.branch none kind ((tokens.head?.map (·.line)).getD 0) trees] rest
  labelled : ∀ {tokens trees rest} (label : Label), P tokens trees rest →
    P tokens (trees.map (Tree.withLabel label)) rest

variable {P : List Token → List Tree → List Token → Prop}

theorem Composes.readToken (h : Composes P) {test : Token → Bool} {tokens rest : List Token}
    {trees : List Tree} (hread : Rule.readToken test tokens = some (trees, rest)) :
    P tokens trees rest := by
  cases tokens with
  | nil => cases hread
  | cons t ts =>
    rw [Rule.readToken] at hread
    split at hread
    · rename_i ht
      cases hread
      rw [Bool.and_eq_true, decide_eq_true_eq] at ht
      exact h.token _ _ ht.1
    · cases hread

theorem Composes.readNothing (h : Composes P) {test : Token → Bool} {tokens rest : List Token}
    {trees : List Tree} (hread : Rule.readNothing test tokens = some (trees, rest)) :
    P tokens trees rest := by
  cases tokens with
  | nil => cases hread
  | cons t ts =>
    rw [Rule.readNothing] at hread
    split at hread
    · cases hread
      exact h.nothing _
    · cases hread

/-- What holds of the parts of a reading holds of the reading. -/
theorem Composes.read (h : Composes P) {fuel : Nat} {rule : Rule σ} {tokens rest : List Token}
    {trees : List Tree} (hread : Rule.read grammar fuel rule tokens = some (trees, rest)) :
    P tokens trees rest := by
  -- every rule reads through rules that are given less fuel
  induction fuel generalizing rule tokens trees rest with
  | zero => cases hread
  | succ fuel ih =>
    cases rule with
    | token kind => exact h.readToken hread
    | word spelling => exact h.readToken hread
    | sameLine => exact h.readNothing hread
    | newLine => exact h.readNothing hread
    | atEnd => exact h.readNothing hread
    | empty =>
      cases hread
      exact h.nothing _
    | seq first second =>
      rw [Rule.read] at hread
      split at hread
      · cases hread
      rename_i head middle hfirst
      split at hread
      · cases hread
      rename_i more left hsecond
      cases hread
      exact h.append (ih hfirst) (ih hsecond)
    | alt first second =>
      rw [Rule.read] at hread
      split at hread
      · rename_i reading hfirst
        cases hread
        exact ih hfirst
      · exact ih hread
    | many body =>
      rw [Rule.read] at hread
      split at hread
      · cases hread
        exact h.nothing _
      rename_i head middle hbody
      split at hread
      · cases hread
      rename_i more left hmore
      cases hread
      exact h.append (ih hbody) (ih hmore)
    | ahead body =>
      rw [Rule.read] at hread
      obtain ⟨_, -, hread⟩ := Option.map_eq_some_iff.1 hread
      cases hread
      exact h.nothing _
    | symbol name =>
      rw [Rule.read] at hread
      exact ih hread
    | node kind body =>
      rw [Rule.read] at hread
      obtain ⟨reading, hbody, hread⟩ := Option.map_eq_some_iff.1 hread
      cases hread
      exact h.node kind (ih hbody)
    | labelled label body =>
      rw [Rule.read] at hread
      obtain ⟨reading, hbody, hread⟩ := Option.map_eq_some_iff.1 hread
      cases hread
      exact h.labelled label (ih hbody)

/-! ### Tokens of a reading -/

/-- The leaves of what a rule reads are the tokens before those it leaves. -/
theorem splits_read {fuel : Nat} {rule : Rule σ} {tokens rest : List Token} {trees : List Tree}
    (h : Rule.read grammar fuel rule tokens = some (trees, rest)) :
    tokens = Tree.tokensAll trees ++ rest := by
  have hparts : Composes fun tokens trees rest => tokens = Tree.tokensAll trees ++ rest := {
    nothing := fun _ => rfl
    token := fun _ _ _ => rfl
    append := fun hfirst hsecond => by
      rw [hfirst, hsecond, Tree.tokensAll_append, List.append_assoc]
    node := fun kind h => by
      rw [Tree.tokensAll, Tree.tokensAll, Tree.tokens, List.append_nil, ← h]
    labelled := fun label h => by rw [Tree.tokensAll_withLabel, ← h] }
  exact hparts.read h

end Rule

/-! ### Sources -/

theorem Tree.tokens_ofTokens {tokens : List Token} {tree : Tree}
    (h : Tree.ofTokens tokens = .ok tree) :
    ∃ last rest, last.kind = .endOfSource ∧ tokens = tree.tokens ++ last :: rest := by
  rw [Tree.ofTokens] at h
  split at h
  · cases h
  rename_i trees rest hread
  split at h
  · cases h
  rename_i last rest
  split at h
  · rename_i hend
    cases h
    refine ⟨last, rest, hend, ?_⟩
    rw [Tree.tokens]
    exact Rule.splits_read hread
  · cases h

theorem tokens_of_ofSource {source : List Char} {tree : Tree}
    (h : Tree.ofSource source = .ok tree) :
    ∃ last rest, Source.tokens source = .ok (tree.tokens ++ last :: rest) := by
  obtain ⟨tokens, htokens, hread⟩ := Fallible.bind_eq_ok.1 h
  obtain ⟨last, rest, -, heq⟩ := Tree.tokens_ofTokens hread
  exact ⟨last, rest, heq ▸ htokens⟩

end StructSchema.Source
