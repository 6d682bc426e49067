import StructSchema.Proofs.Reading
import StructSchema.Source.Struct

/-!
# Source order

The lines of a tree, from the root down and from left to right, never decrease if its nodes stand in
the order of the source. The tokens of a source come line after line, a rule reads them in order,
and a branch begins where its first token does; so the tree of every source is in order. The lines
of the specs in a tree are among its lines and keep their order.
-/

namespace StructSchema.Source

/-! ### Lines of a tree -/

namespace Tree

mutual

/-- The lines on which the nodes of a tree begin, a node before what stands below it. -/
def lines : Tree → List Nat
  | .leaf _ token => [token.line]
  | .branch _ _ line children => line :: linesAll children

def linesAll : List Tree → List Nat
  | [] => []
  | t :: ts => lines t ++ linesAll ts

end

/-- Whether the nodes of a tree stand in the order of the source. -/
def InOrder (t : Tree) : Prop := t.lines.Pairwise (· ≤ ·)

theorem linesAll_append (ts us : List Tree) : linesAll (ts ++ us) = linesAll ts ++ linesAll us := by
  induction ts with
  | nil => rfl
  | cons t ts ih => rw [List.cons_append, linesAll, linesAll, ih, List.append_assoc]

theorem lines_withLabel (label : Label) (t : Tree) : (t.withLabel label).lines = t.lines := by
  cases t with
  | leaf _ token => rfl
  | branch _ kind line children => rw [withLabel, lines, lines]

theorem linesAll_withLabel (label : Label) (ts : List Tree) :
    linesAll (ts.map (withLabel label)) = linesAll ts := by
  induction ts with
  | nil => rfl
  | cons t ts ih => rw [List.map_cons, linesAll, linesAll, lines_withLabel, ih]

mutual

theorem lines_specs : ∀ t : Tree, (t.specs.map line).Sublist t.lines
  | .leaf .. => by
    rw [specs]
    exact List.nil_sublist _
  | .branch label kind line children => by
    rw [specs, lines]
    split
    · exact (List.nil_sublist _).cons_cons line
    split
    · exact (lines_specsAll children).cons line
    · exact List.nil_sublist _

theorem lines_specsAll : ∀ ts : List Tree, ((specsAll ts).map line).Sublist (linesAll ts)
  | [] => by
    rw [specsAll]
    exact List.nil_sublist _
  | t :: ts => by
    rw [specsAll, linesAll, List.map_append]
    exact (lines_specs t).append (lines_specsAll ts)

end

theorem InOrder.specs {t : Tree} (h : t.InOrder) : (t.specs.map line).Pairwise (· ≤ ·) :=
  h.sublist (lines_specs t)

end Tree

/-! ### Lines of tokens -/

/-- Tokens that come line after line up to the end of the source. -/
structure Lined (tokens : List Token) : Prop where
  ends : ∃ token ∈ tokens, token.kind = .endOfSource
  sorted : (tokens.map (·.line)).Pairwise (· ≤ ·)

theorem Lined.cons {t : Token} {rest : List Token} (h : Lined rest)
    (ht : ∀ token ∈ rest, t.line ≤ token.line) : Lined (t :: rest) where
  ends := by
    obtain ⟨token, htoken, hend⟩ := h.ends
    exact ⟨token, List.mem_cons_of_mem t htoken, hend⟩
  sorted := by
    rw [List.map_cons, List.pairwise_cons, List.forall_mem_map]
    exact ⟨ht, h.sorted⟩

theorem Lined.tail {t : Token} {rest : List Token} (h : Lined (t :: rest))
    (ht : t.kind ≠ .endOfSource) : Lined rest where
  ends := by
    obtain ⟨token, htoken, hend⟩ := h.ends
    rcases List.mem_cons.1 htoken with rfl | htoken
    · exact absurd hend ht
    · exact ⟨token, htoken, hend⟩
  sorted := by
    have hsorted := h.sorted
    rw [List.map_cons, List.pairwise_cons] at hsorted
    exact hsorted.2

theorem lined_of_tokensFrom {line : Nat} {cs : List Char} {tokens : List Token}
    (h : tokensFrom line cs = .ok tokens) : Lined tokens ∧ ∀ token ∈ tokens, line ≤ token.line := by
  fun_induction tokensFrom line cs generalizing tokens with
  | case1 => cases h
  | case2 =>
    cases h
    refine ⟨⟨⟨_, List.mem_singleton_self _, rfl⟩, List.pairwise_singleton _ _⟩, ?_⟩
    exact List.forall_mem_singleton.2 (Nat.le_add_right _ _)
  | case3 => cases h
  | case4 =>
    rename_i hrest ih
    cases h
    -- what follows begins behind the token, and the token begins behind its blanks
    obtain ⟨hlined, hlater⟩ := ih hrest
    refine ⟨hlined.cons fun token htoken => ?_, List.forall_mem_cons.2 ⟨?_, fun token htoken => ?_⟩⟩
    · exact Nat.le_trans (Nat.le_add_right _ _) (hlater token htoken)
    · exact Nat.le_add_right _ _
    · have hbehind := hlater token htoken
      omega
  | case5 => cases h

theorem lined_of_tokens {source : List Char} {tokens : List Token}
    (h : Source.tokens source = .ok tokens) : Lined tokens ∧ ∀ token ∈ tokens, 1 ≤ token.line := by
  unfold Source.tokens at h
  split at h
  · exact lined_of_tokensFrom h
  · exact lined_of_tokensFrom h

/-! ### Lines of a reading -/

/-- What a rule reads in order: the lines of the trees and of the tokens behind them never decrease,
and all of them are lines of the tokens before the reading. -/
structure Orderly (tokens : List Token) (trees : List Tree) (rest : List Token) : Prop where
  lined : Lined rest
  sorted : (Tree.linesAll trees ++ rest.map (·.line)).Pairwise (· ≤ ·)
  within : ∀ l ∈ Tree.linesAll trees ++ rest.map (·.line), l ∈ tokens.map (·.line)

theorem Orderly.append {tokens rest left : List Token} {trees more : List Tree}
    (hfirst : Orderly tokens trees rest) (hsecond : Orderly rest more left) :
    Orderly tokens (trees ++ more) left := by
  have hwithin : ∀ l ∈ Tree.linesAll more ++ left.map (·.line), l ∈ rest.map (·.line) :=
    hsecond.within
  obtain ⟨htrees, -, hbefore⟩ := List.pairwise_append.1 hfirst.sorted
  refine ⟨hsecond.lined, ?_, fun l hl => hfirst.within l ?_⟩
  · rw [Tree.linesAll_append, List.append_assoc, List.pairwise_append]
    exact ⟨htrees, hsecond.sorted, fun a ha b hb => hbefore a ha b (hwithin b hb)⟩
  · rw [Tree.linesAll_append, List.append_assoc] at hl
    rcases List.mem_append.1 hl with hl | hl
    · exact List.mem_append_left _ hl
    · exact List.mem_append_right _ (hwithin l hl)

theorem Orderly.node {tokens rest : List Token} {trees : List Tree} (hlined : Lined tokens)
    (h : Orderly tokens trees rest) (kind : Kind) :
    Orderly tokens [.branch none kind ((tokens.head?.map (·.line)).getD 0) trees] rest := by
  cases tokens with
  | nil =>
    obtain ⟨token, htoken, -⟩ := hlined.ends
    cases htoken
  | cons t ts =>
    have hfirst : ∀ l ∈ (t :: ts).map (·.line), t.line ≤ l := by
      rw [List.map_cons, List.forall_mem_cons]
      exact ⟨Nat.le_refl _, (List.pairwise_cons.1 (List.map_cons ▸ hlined.sorted)).1⟩
    have hlines : Tree.linesAll [.branch none kind t.line trees] ++ rest.map (·.line) =
        t.line :: (Tree.linesAll trees ++ rest.map (·.line)) := by
      rw [Tree.linesAll, Tree.linesAll, Tree.lines, List.append_nil, List.cons_append]
    refine ⟨h.lined, ?_, ?_⟩
    · show (Tree.linesAll [.branch none kind t.line trees] ++ rest.map (·.line)).Pairwise (· ≤ ·)
      rw [hlines, List.pairwise_cons]
      exact ⟨fun l hl => hfirst l (h.within l hl), h.sorted⟩
    · show ∀ l ∈ Tree.linesAll [.branch none kind t.line trees] ++ rest.map (·.line),
        l ∈ (t :: ts).map (·.line)
      rw [hlines, List.forall_mem_cons]
      exact ⟨List.mem_cons_self .., h.within⟩

theorem composes_orderly :
    Rule.Composes fun tokens trees rest => Lined tokens → Orderly tokens trees rest where
  nothing := fun tokens hlined => ⟨hlined, hlined.sorted, fun _ hl => hl⟩
  token := fun t rest hkind hlined => ⟨hlined.tail hkind, hlined.sorted, fun _ hl => hl⟩
  append := fun hfirst hsecond hlined => (hfirst hlined).append (hsecond (hfirst hlined).lined)
  node := fun kind h hlined => (h hlined).node hlined kind
  labelled := fun label h hlined => by
    obtain ⟨hrest, hsorted, hwithin⟩ := h hlined
    refine ⟨hrest, ?_, ?_⟩
    · rw [Tree.linesAll_withLabel]
      exact hsorted
    · rw [Tree.linesAll_withLabel]
      exact hwithin

/-! ### Sources -/

theorem Tree.inOrder_ofTokens {tokens : List Token} {tree : Tree} (hlined : Lined tokens)
    (hpositive : ∀ token ∈ tokens, 1 ≤ token.line) (h : Tree.ofTokens tokens = .ok tree) :
    tree.InOrder := by
  rw [Tree.ofTokens] at h
  split at h
  · cases h
  rename_i trees rest hread
  split at h
  · cases h
  split at h
  · cases h
    have horderly := composes_orderly.read hread hlined
    obtain ⟨hsorted, -, -⟩ := List.pairwise_append.1 horderly.sorted
    rw [InOrder, lines, List.pairwise_cons]
    refine ⟨fun l hl => ?_, hsorted⟩
    obtain ⟨token, htoken, rfl⟩ :=
      List.mem_map.1 (horderly.within l (List.mem_append_left _ hl))
    exact hpositive token htoken
  · cases h

theorem Tree.inOrder_ofSource {source : List Char} {tree : Tree}
    (h : Tree.ofSource source = .ok tree) : tree.InOrder := by
  obtain ⟨tokens, htokens, hread⟩ := Fallible.bind_eq_ok.1 h
  obtain ⟨hlined, hpositive⟩ := lined_of_tokens htokens
  exact inOrder_ofTokens hlined hpositive hread

end StructSchema.Source
