import StructSchema.Proofs.Fault
import StructSchema.Proofs.Host
import StructSchema.Proofs.Literal

/-!
# Literals of accepted sources

A source is accepted only if its interpreted literals denote strings, and a reader promises that its
raw literals are written so that they do. Hence the structs of an accepted source can be read off
its tree: no struct tag in it is left to fail.
-/

namespace StructSchema

theorem Literal.decode_rawText {text : List Char} (h : Source.IsRawText text) :
    ∃ value, decode (text.map .char) = .ok value := by
  obtain ⟨body, rfl, hnone⟩ := h
  have hraw : ('\x60' :: (body ++ ['\x60'])).map CodePoint.char = raw (body.map .char) := by
    rw [List.map_cons, List.map_append, List.map_singleton, raw, List.cons_append]
  have hbacktick : CodePoint.char '\x60' ∉ body.map .char := by
    rw [List.mem_map]
    rintro ⟨c, hc, hq⟩
    cases hq
    exact hnone hc
  exact ⟨_, hraw ▸ decode_raw hbacktick⟩

namespace Source

namespace Tree

/-! ### Trees whose literals denote strings -/

/-- Every string literal of the tree denotes a string. -/
def Decodes (tree : Tree) : Prop :=
  ∀ token ∈ tree.tokens, token.kind = .rawString ∨ token.kind = .interpretedString →
    ∃ value, Literal.decode (token.text.map .char) = .ok value

theorem Decodes.of_tokens {t u : Tree} (h : t.Decodes) (hu : ∀ token ∈ u.tokens, token ∈ t.tokens) :
    u.Decodes := fun token htoken => h token (hu token htoken)

theorem Decodes.at? {t node : Tree} {address : Address} (h : t.Decodes)
    (hat : t.at? address = some node) : node.Decodes :=
  h.of_tokens (tokens_of_at? hat)

theorem Decodes.child {t child : Tree} (h : t.Decodes) (hc : child ∈ t.children) : child.Decodes :=
  h.of_tokens (tokens_of_mem_children hc)

theorem Decodes.literal {t : Tree} (h : t.Decodes) (hl : t.isStringLiteral = true) :
    ∃ value, Literal.decode t.text = .ok value := by
  cases t with
  | branch label kind line children => simp [isStringLiteral, isToken] at hl
  | leaf label token =>
    have hkind : token.kind = .rawString ∨ token.kind = .interpretedString := by
      simpa [isStringLiteral, isToken] using hl
    have htext : (leaf label token).text = token.text.map .char := by
      simp [text, tokens]
    rw [htext]
    exact h token (List.mem_singleton_self token) hkind

theorem Decodes.fieldTag {field : Tree} (h : field.Decodes) :
    ∃ tag, field.fieldTag = .ok tag := by
  rw [Tree.fieldTag]
  cases htag : (field.child? .tag).filter isStringLiteral with
  | none => exact ⟨none, rfl⟩
  | some literal =>
    obtain ⟨hchild, hliteral⟩ := Option.filter_eq_some_iff.1 htag
    have hmem : literal ∈ field.children := List.mem_of_find?_eq_some hchild
    obtain ⟨value, hvalue⟩ := (h.child hmem).literal hliteral
    refine ⟨some value, ?_⟩
    dsimp only
    rw [hvalue]
    rfl

theorem Decodes.fieldDecl {field : Tree} (h : field.Decodes) :
    ∃ decl, field.fieldDecl = .ok decl := by
  obtain ⟨tag, htag⟩ := h.fieldTag
  rw [Tree.fieldDecl, htag]
  exact ⟨_, rfl⟩

theorem Decodes.structDecl {file : Option Text} {spec struct : Tree} (h : struct.Decodes) :
    ∃ decl, structDecl file spec struct = .ok decl := by
  have hfields : ∀ field ∈ struct.fieldTrees, ∃ decl, field.fieldDecl = .ok decl := by
    intro field hfield
    rw [fieldTrees] at hfield
    split at hfield
    · rename_i body hbody
      have hmem : body ∈ struct.children := List.mem_of_find?_eq_some hbody
      exact ((h.child hmem).child (List.mem_filter.1 hfield).1).fieldDecl
    · cases hfield
  obtain ⟨fields, hfields⟩ := Fallible.mapM_total hfields
  rw [Tree.structDecl, hfields]
  exact ⟨_, rfl⟩

theorem Decodes.structs {tree : Tree} (h : tree.Decodes) (file : Option Text) :
    ∃ structs, tree.structs file = .ok structs := by
  refine Fallible.mapM_total fun (spec, struct) hmem => Decodes.structDecl ?_
  obtain ⟨s, hs, hstruct⟩ := List.mem_filterMap.1 hmem
  obtain ⟨t, ht, heq⟩ := Option.map_eq_some_iff.1 hstruct
  cases heq
  obtain ⟨address, hat⟩ := exists_at?_of_mem_specs hs
  have hchild : struct ∈ spec.children :=
    List.mem_of_find?_eq_some (Option.filter_eq_some_iff.1 ht).1
  exact (h.at? hat).child hchild

end Tree

/-! ### Accepted sources -/

/-- Every string literal of an accepted source denotes a string. -/
theorem decodes_of_read {host : Host} (hgo : host.ReadsGo) {bytes : List UInt8} {tree : Tree}
    (h : read host bytes = .ok tree) : tree.Decodes := by
  obtain ⟨source, -, rfl, hfaultless, hfault⟩ := read_eq_ok_iff.1 h
  rw [Tree.literalFault?_eq] at hfault
  intro token htoken hkind
  -- a raw literal is one by the reader's promise, an interpreted one has been tried
  rcases hkind with hraw | hinterpreted
  · exact Literal.decode_rawText (hgo.raw source hfaultless token htoken hraw)
  · have hnone := List.findSome?_eq_none_iff.1 hfault token htoken
    exact Token.literalFault?_eq_none_iff.1 hnone hinterpreted

end Source

end StructSchema
