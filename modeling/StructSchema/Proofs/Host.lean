import StructSchema.Library
import StructSchema.Proofs.Address
import StructSchema.Proofs.Placement
import StructSchema.Proofs.SourceOrder
import StructSchema.Proofs.Token

/-!
# What is relied on in a reader of sources

What a host promises about the trees of sources that have no fault of syntax: how their raw strings
are written, where their leaves stand in the source, and that their nodes come in its order. The
reader of the library keeps the three promises.
-/

namespace StructSchema

/-- What a host promises about the tree of a source without faults. -/
structure Host.ReadsGo (host : Host) : Prop where
  raw : ∀ source, (host.tree source).faultLines = [] → ∀ token ∈ (host.tree source).tokens,
    token.kind = .rawString → Source.IsRawText token.text
  placed : ∀ source, (host.tree source).faultLines = [] → ∀ address label token,
    (host.tree source).at? address = some (.leaf label token) →
      token.Placed source ((host.tree source).tokensBefore address)
  inOrder : ∀ source, (host.tree source).faultLines = [] → (host.tree source).InOrder

theorem Host.ReadsGo.withDepth {host : Host} (h : host.ReadsGo) (depth : Nat) :
    ({ host with depth } : Host).ReadsGo := ⟨h.raw, h.placed, h.inOrder⟩

namespace Source

theorem ofSource_of_faultless {source : List Char} (h : (parse source).faultLines = []) :
    Tree.ofSource source = .ok (parse source) := by
  rw [parse] at h ⊢
  cases hsource : Tree.ofSource source with
  | ok tree => rfl
  | error line =>
    rw [hsource] at h
    cases h

theorem isRawText_of_ofSource {source : List Char} {tree : Tree}
    (h : Tree.ofSource source = .ok tree) :
    ∀ token ∈ tree.tokens, token.kind = .rawString → IsRawText token.text := by
  obtain ⟨last, rest, htokens⟩ := tokens_of_ofSource h
  intro token htoken
  exact isRawText_of_tokens htokens token (List.mem_append_left _ htoken)

/-- Every leaf of the tree of a source stands there behind the leaves before it. -/
theorem placed_of_ofSource {source : List Char} {tree : Tree} {address : Address}
    {label : Option Label} {token : Token} (h : Tree.ofSource source = .ok tree)
    (hat : tree.at? address = some (.leaf label token)) :
    token.Placed source (tree.tokensBefore address) := by
  obtain ⟨last, rest, htokens⟩ := tokens_of_ofSource h
  obtain ⟨after, hafter⟩ := Tree.exists_tokens_eq (Tree.mem_leavesAt.2 ⟨label, hat⟩)
  rw [hafter, List.append_assoc, List.cons_append] at htokens
  exact placed_of_tokens htokens

end Source

theorem Host.readsGo_library : Host.library.ReadsGo where
  raw := fun _ h => Source.isRawText_of_ofSource (Source.ofSource_of_faultless h)
  placed := fun _ h _ _ _ hat => Source.placed_of_ofSource (Source.ofSource_of_faultless h) hat
  inOrder := fun _ h => Source.Tree.inOrder_ofSource (Source.ofSource_of_faultless h)

end StructSchema
