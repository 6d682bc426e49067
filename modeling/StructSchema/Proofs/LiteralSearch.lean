import StructSchema.Proofs.Fault
import StructSchema.Proofs.Host
import StructSchema.Proofs.Utf8

/-!
# The first literal at fault

A literal may stand at any depth of a tree, and the search for one that denotes nothing meets the
leaves in the order of their addresses, which is the order of their texts in the source. Main
statement: a source whose tree is without faults is refused exactly if an interpreted literal
somewhere in the tree denotes no string, and it is refused for the first of these, with the line on
which it begins.
-/

namespace StructSchema.Source

namespace Tree

/-! ### Literals in a tree -/

def LiteralAt (t : Tree) (address : Address) (token : Token) : Prop :=
  (∃ label, t.at? address = some (.leaf label token)) ∧ token.kind = .interpretedString

/-- The first interpreted literal of a tree that denotes no string, and what is wrong with it. -/
structure FirstFault (t : Tree) (address : Address) (token : Token) (e : LiteralError) : Prop where
  stands : t.LiteralAt address token
  fails : Literal.decode (token.text.map .char) = .error e
  first : ∀ other earlier, other < address → t.LiteralAt other earlier →
    ∃ value, Literal.decode (earlier.text.map .char) = .ok value

theorem findSome?_eq_some_iff_of_pairwise {α β : Type} {l : List (Address × α)}
    (h : l.Pairwise fun a b => a.1 < b.1) {f : Address × α → Option β} {b : β} :
    l.findSome? f = some b ↔ ∃ x ∈ l, f x = some b ∧ ∀ y ∈ l, y.1 < x.1 → f y = none := by
  rw [List.findSome?_eq_some_iff]
  constructor
  · intro hsplit
    obtain ⟨before, x, after, rfl, hx, hbefore⟩ := hsplit
    rw [List.pairwise_append, List.pairwise_cons] at h
    obtain ⟨-, ⟨hafter, -⟩, -⟩ := h
    refine ⟨x, List.mem_append_right _ (List.mem_cons_self ..), hx, fun y hy hlt => ?_⟩
    rcases List.mem_append.1 hy with hy | hy
    · exact hbefore y hy
    rcases List.mem_cons.1 hy with rfl | hy
    · exact absurd hlt (List.lt_irrefl _)
    · exact absurd hlt (List.lt_asymm (hafter y hy))
  · intro hleast
    obtain ⟨x, hx, hfx, hfirst⟩ := hleast
    obtain ⟨before, after, rfl⟩ := List.append_of_mem hx
    rw [List.pairwise_append] at h
    obtain ⟨-, -, hbefore⟩ := h
    refine ⟨before, x, after, rfl, hfx, fun y hy => ?_⟩
    exact hfirst y (List.mem_append_left _ hy) (hbefore y hy x (List.mem_cons_self ..))

theorem literalFault?_eq_some_iff {t : Tree} {fault : Fault} :
    t.literalFault? = some fault ↔
      ∃ address token e, t.FirstFault address token e ∧ fault = .literal token.line e := by
  rw [literalFault?_eq, ← map_leavesAt, List.findSome?_map,
    findSome?_eq_some_iff_of_pairwise (pairwise_leavesAt t)]
  constructor
  · intro hleast
    obtain ⟨⟨address, token⟩, hmem, hfault, hfirst⟩ := hleast
    obtain ⟨hkind, e, hfails, heq⟩ := Token.literalFault?_eq_some_iff.1 hfault
    refine ⟨address, token, e, ⟨⟨mem_leavesAt.1 hmem, hkind⟩, hfails, ?_⟩, heq⟩
    intro other earlier hlt hliteral
    have hnone := hfirst (other, earlier) (mem_leavesAt.2 hliteral.1) hlt
    exact Token.literalFault?_eq_none_iff.1 hnone hliteral.2
  · intro hfault
    obtain ⟨address, token, e, ⟨⟨hat, hkind⟩, hfails, hfirst⟩, heq⟩ := hfault
    refine ⟨(address, token), mem_leavesAt.2 hat,
      Token.literalFault?_eq_some_iff.2 ⟨hkind, e, hfails, heq⟩, fun found hfound hlt => ?_⟩
    refine Token.literalFault?_eq_none_iff.2 fun hinterpreted => ?_
    exact hfirst found.1 found.2 hlt ⟨mem_leavesAt.1 hfound, hinterpreted⟩

theorem literalFault?_eq_none_iff {t : Tree} :
    t.literalFault? = none ↔ ∀ address token, t.LiteralAt address token →
      ∃ value, Literal.decode (token.text.map .char) = .ok value := by
  rw [literalFault?_eq, ← map_leavesAt, List.findSome?_map, List.findSome?_eq_none_iff]
  constructor
  · intro h address token hliteral
    have hnone := h (address, token) (mem_leavesAt.2 hliteral.1)
    exact Token.literalFault?_eq_none_iff.1 hnone hliteral.2
  · intro h found hfound
    refine Token.literalFault?_eq_none_iff.2 fun hinterpreted => ?_
    exact h found.1 found.2 ⟨mem_leavesAt.1 hfound, hinterpreted⟩

end Tree

/-! ### Sources -/

/-- A source whose tree is without faults is refused if and only if an interpreted literal somewhere
in the tree denotes no string, and otherwise its tree is given. The error is that of the first such
literal: the reason is that of the literal, and the line is the one on which it begins in the
source. -/
theorem readAs_of_faultless {host : Host} {bytes : List UInt8} {source : List Char}
    (hbytes : Utf8.decode bytes = .ok source) (hfaultless : (host.tree source).faultLines = [])
    (file : Text) :
    ((∃ error, readAs host file bytes = .error error) ↔
        ∃ address token e, (host.tree source).LiteralAt address token ∧
          Literal.decode (token.text.map .char) = .error e) ∧
      (∀ error, readAs host file bytes = .error error → ∃ address token e,
        (host.tree source).FirstFault address token e ∧
          (host.ReadsGo → token.Placed source ((host.tree source).tokensBefore address)) ∧
          error = ⟨file, .literal token.line e⟩ ∧ error.fault.reason? = some e.message) ∧
      ((∀ address token, (host.tree source).LiteralAt address token →
          ∃ value, Literal.decode (token.text.map .char) = .ok value) →
        readAs host file bytes = .ok (host.tree source)) := by
  rw [readAs_eq hbytes hfaultless]
  cases hfault : (host.tree source).literalFault? with
  | none =>
    have hdecodes := Tree.literalFault?_eq_none_iff.1 hfault
    refine ⟨⟨?_, ?_⟩, ?_, fun _ => rfl⟩
    · intro hrefused
      obtain ⟨error, herror⟩ := hrefused
      cases herror
    · intro hfaulty
      obtain ⟨address, token, e, hliteral, hfails⟩ := hfaulty
      obtain ⟨value, hvalue⟩ := hdecodes address token hliteral
      rw [hvalue] at hfails
      cases hfails
    · intro error herror
      cases herror
  | some fault =>
    obtain ⟨address, token, e, hfirst, rfl⟩ := Tree.literalFault?_eq_some_iff.1 hfault
    obtain ⟨label, hat⟩ := hfirst.stands.1
    refine ⟨⟨fun _ => ⟨address, token, e, hfirst.stands, hfirst.fails⟩, fun _ => ⟨_, rfl⟩⟩, ?_, ?_⟩
    · intro error herror
      cases herror
      refine ⟨address, token, e, hfirst, fun hgo => ?_, rfl, rfl⟩
      exact hgo.placed source hfaultless address label token hat
    · intro hdecodes
      obtain ⟨value, hvalue⟩ := hdecodes address token hfirst.stands
      have hfails := hfirst.fails
      rw [hvalue] at hfails
      cases hfails

/-- A source with an import, a literal at fault in a function and another one in a struct tag. -/
def faultySource : List Char :=
  ("package m\nimport \"fmt\"\nfunc f() \x7b\n\tfmt.Print(\"a\", \"\\q\")\n\x7d\n" ++
    "type Item struct \x7b\n\tID int64 \"\\400\"\n\x7d\n").toList

theorem readAs_faultySource : ∃ address token e,
    Utf8.decode (faultySource.flatMap String.utf8EncodeChar) = .ok faultySource ∧
    (Host.library.tree faultySource).faultLines = [] ∧
    (Host.library.tree faultySource).FirstFault address token e ∧
    token.Placed faultySource ((Host.library.tree faultySource).tokensBefore address) ∧
    token.line = 4 ∧ e.message = "unknown escape \\q in '\"\\\\q\"'" ∧
    readAs .library "a.go" (faultySource.flatMap String.utf8EncodeChar) =
      .error ⟨"a.go", .literal token.line e⟩ := by
  let fault : Fault := .literal 4 ⟨.unknownEscape (.char 'q'), "\"\\q\""⟩
  have hbytes := Utf8.decode_flatMap faultySource
  have hfaultless : (Host.library.tree faultySource).faultLines = [] := by decide +kernel
  have hfault : (Host.library.tree faultySource).literalFault? = some fault := by decide +kernel
  have hread : readAs .library "a.go" (faultySource.flatMap String.utf8EncodeChar) =
      .error ⟨"a.go", fault⟩ := by
    rw [readAs_eq hbytes hfaultless, hfault]
  obtain ⟨-, hrefused, -⟩ := readAs_of_faultless hbytes hfaultless "a.go"
  obtain ⟨address, token, e, hfirst, hplaced, heq, -⟩ := hrefused _ hread
  obtain ⟨hline, he⟩ : 4 = token.line ∧ ⟨.unknownEscape (.char 'q'), "\"\\q\""⟩ = e := by
    simpa [fault] using heq
  refine ⟨address, token, e, hbytes, hfaultless, hfirst, hplaced Host.readsGo_library, hline.symm,
    ?_, ?_⟩
  · rw [← he]
    decide +kernel
  · rw [hread, heq]

end StructSchema.Source
