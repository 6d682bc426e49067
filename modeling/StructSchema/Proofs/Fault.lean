import StructSchema.Proofs.Fallible
import StructSchema.Source.Fault

/-!
# What is at fault in a source

A source is refused for its bytes, for the syntax of its tree or for a literal in the tree, and
accepted if none of the three is at fault. The search for a literal meets all leaves of the tree in
document order.
-/

namespace StructSchema.Source

/-! ### Literals -/

theorem Token.literalFault?_eq_some_iff {token : Token} {fault : Fault} :
    token.literalFault? = some fault ↔ token.kind = .interpretedString ∧
      ∃ e, Literal.decode (token.text.map .char) = .error e ∧ fault = .literal token.line e := by
  rw [literalFault?]
  split
  · rename_i hkind
    cases hdecode : Literal.decode (token.text.map .char) with
    | ok value => simp
    | error e => simp [hkind, eq_comm]
  · rename_i hkind
    simp [hkind]

theorem Token.literalFault?_eq_none_iff {token : Token} :
    token.literalFault? = none ↔ (token.kind = .interpretedString →
      ∃ value, Literal.decode (token.text.map .char) = .ok value) := by
  rw [literalFault?]
  split
  · rename_i hkind
    cases hdecode : Literal.decode (token.text.map .char) with
    | ok value => simp
    | error e => simp [hkind]
  · rename_i hkind
    simp [hkind]

/-- The trees on a stack are searched token by token, in document order. -/
theorem Tree.stackFault?_eq (stack : List Tree) :
    stackFault? stack = (tokensAll stack).findSome? Token.literalFault? := by
  fun_induction stackFault? stack with
  | case1 => rfl
  | case2 label token stack fault hfault =>
    rw [tokensAll, tokens, List.singleton_append, List.findSome?_cons, hfault]
  | case3 label token stack hnone ih =>
    rw [tokensAll, tokens, List.singleton_append, List.findSome?_cons, hnone]
    exact ih
  | case4 label kind line children stack ih =>
    rw [tokensAll, tokens, ← tokensAll_append]
    exact ih

theorem Tree.literalFault?_eq (tree : Tree) :
    tree.literalFault? = tree.tokens.findSome? Token.literalFault? := by
  rw [literalFault?, stackFault?_eq, tokensAll, tokensAll, List.append_nil]

theorem Tree.exists_of_literalFault? {tree : Tree} {fault : Fault}
    (h : tree.literalFault? = some fault) : ∃ line e, fault = .literal line e := by
  rw [literalFault?_eq] at h
  obtain ⟨token, -, hfault⟩ := List.exists_of_findSome?_eq_some h
  obtain ⟨-, e, -, heq⟩ := Token.literalFault?_eq_some_iff.1 hfault
  exact ⟨token.line, e, heq⟩

/-! ### Syntax -/

theorem Tree.syntaxFault?_eq_none_iff {tree : Tree} :
    tree.syntaxFault? = none ↔ tree.faultLines = [] := by
  rw [syntaxFault?]
  split <;> simp [*]

theorem Tree.exists_of_syntaxFault? {tree : Tree} {fault : Fault}
    (h : tree.syntaxFault? = some fault) : ∃ count line, fault = .malformed count line := by
  rw [syntaxFault?] at h
  split at h
  · cases h
  · cases h
    exact ⟨_, _, rfl⟩

/-! ### Sources -/

variable {host : Host} {bytes : List UInt8} {source : List Char} {tree : Tree}

theorem read_eq_ok_iff :
    read host bytes = .ok tree ↔ ∃ source, Utf8.decode bytes = .ok source ∧
      host.tree source = tree ∧ tree.faultLines = [] ∧ tree.literalFault? = none := by
  rw [read]
  cases hdecode : Utf8.decode bytes with
  | error offset => simp
  | ok source =>
    dsimp only
    cases hsyntax : (host.tree source).syntaxFault? with
    | some fault =>
      have hfaults : (host.tree source).faultLines ≠ [] := by
        rw [Ne, ← Tree.syntaxFault?_eq_none_iff, hsyntax]
        exact Option.some_ne_none fault
      simp only [Option.some_or, reduceCtorEq, false_iff]
      rintro ⟨_, heq, rfl, hnone, -⟩
      cases heq
      exact hfaults hnone
    | none =>
      have hfaults := Tree.syntaxFault?_eq_none_iff.1 hsyntax
      rw [Option.none_or]
      cases hliteral : (host.tree source).literalFault? with
      | some fault =>
        simp only [reduceCtorEq, false_iff]
        rintro ⟨_, heq, rfl, -, hnone⟩
        cases heq
        rw [hliteral] at hnone
        cases hnone
      | none =>
        constructor
        · rintro h
          cases h
          exact ⟨source, rfl, rfl, hfaults, hliteral⟩
        · rintro ⟨_, heq, rfl, -, -⟩
          cases heq
          rfl

theorem readAs_eq_ok {file : Text} :
    readAs host file bytes = .ok tree ↔ read host bytes = .ok tree := by
  rw [readAs, Fallible.mapError_eq_ok]

/-- A source whose tree is without faults is judged by its literals alone. -/
theorem readAs_eq (hbytes : Utf8.decode bytes = .ok source)
    (hfaultless : (host.tree source).faultLines = []) (file : Text) :
    readAs host file bytes = match (host.tree source).literalFault? with
      | some fault => .error ⟨file, fault⟩
      | none => .ok (host.tree source) := by
  rw [readAs, read, hbytes]
  dsimp only
  rw [Tree.syntaxFault?_eq_none_iff.2 hfaultless, Option.none_or]
  cases (host.tree source).literalFault? <;> rfl

end StructSchema.Source
