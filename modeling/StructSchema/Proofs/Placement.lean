import StructSchema.Source.Token

/-!
# Tokens in their source

The tokens of a source, each with the blanks and comments before it, are the whole text of the
source in order. So a token stands behind what the tokens before it are written as, and the line
that it carries is the one on which its text begins there.
-/

namespace StructSchema.Source

/-- The text of a token with what stands before it. -/
def Token.written (token : Token) : List Char := token.lead ++ token.text

/-- Whether a token stands in a source behind other tokens and on the line that it carries. A mark
at the start of the source belongs to no token. -/
structure Token.Placed (source : List Char) (before : List Token) (token : Token) : Prop where
  text_eq : ∃ mark after, mark <+: ['\uFEFF'] ∧
    source = mark ++ before.flatMap written ++ token.lead ++ token.text ++ after
  line_eq : token.line = 1 + (before.flatMap written ++ token.lead).count '\n'

/-! ### From a line on -/

/-- Whether a text from a line on is what tokens are written as, each on its line. -/
inductive Lays : Nat → List Char → List Token → Prop
  | nil (line : Nat) : Lays line [] []
  | cons {line : Nat} {token : Token} {rest : List Char} {tokens : List Token}
    (hline : token.line = line + token.lead.count '\n')
    (hrest : Lays (token.line + token.text.count '\n') rest tokens) :
    Lays line (token.lead ++ token.text ++ rest) (token :: tokens)

theorem lays_of_tokensFrom {line : Nat} {cs : List Char} {tokens : List Token}
    (h : tokensFrom line cs = .ok tokens) : Lays line cs tokens := by
  fun_induction tokensFrom line cs generalizing tokens with
  | case1 => cases h
  | case2 line cs width newline hwidth lead start =>
    rename_i hend
    cases h
    let token : Token := ⟨.endOfSource, [], lead, start, newline⟩
    have hline : token.line = line + token.lead.count '\n' := rfl
    have hcs : cs = lead ++ [] ++ [] := by
      rw [List.append_nil, List.append_nil, ← List.take_append_drop width cs, hend, List.append_nil]
    rw [hcs]
    exact .cons hline (.nil _)
  | case3 => cases h
  | case4 line cs width newline hwidth lead start c rest hdrop kind more htoken text later hrest =>
    rename_i ih
    cases h
    let token : Token := ⟨kind, text, lead, start, newline⟩
    have hline : token.line = line + token.lead.count '\n' := rfl
    have hcs : cs = lead ++ text ++ rest.drop more := by
      rw [List.append_assoc, List.cons_append, List.take_append_drop, ← hdrop,
        List.take_append_drop]
    rw [hcs]
    exact .cons hline (ih hrest)
  | case5 => cases h

theorem Lays.text_eq {line : Nat} {cs : List Char} {tokens : List Token} (h : Lays line cs tokens) :
    cs = tokens.flatMap Token.written := by
  induction h with
  | nil line => rfl
  | cons hline hrest ih =>
    rw [List.flatMap_cons, Token.written, ← ih]

theorem Lays.line_eq {line : Nat} {cs : List Char} {before after : List Token} {token : Token}
    (h : Lays line cs (before ++ token :: after)) :
    token.line = line + (before.flatMap Token.written ++ token.lead).count '\n' := by
  induction before generalizing line cs with
  | nil =>
    cases h with
    | cons hline hrest => exact hline
  | cons first before ih =>
    cases h with
    | cons hline hrest =>
      have hlater := ih hrest
      simp only [List.flatMap_cons, Token.written, List.count_append] at hlater ⊢
      omega

/-! ### Whole sources -/

theorem placed_of_tokens {source : List Char} {before after : List Token} {token : Token}
    (h : tokens source = .ok (before ++ token :: after)) : token.Placed source before := by
  have hplaced : ∀ {mark cs : List Char}, mark <+: ['\uFEFF'] → source = mark ++ cs →
      tokensFrom 1 cs = .ok (before ++ token :: after) → token.Placed source before := by
    intro mark cs hmark hsource htokens
    have hlays := lays_of_tokensFrom htokens
    refine ⟨⟨mark, after.flatMap Token.written, hmark, ?_⟩, hlays.line_eq⟩
    rw [hsource, hlays.text_eq, List.flatMap_append, List.flatMap_cons, Token.written]
    simp only [List.append_assoc]
  unfold tokens at h
  split at h
  · exact hplaced List.prefix_rfl rfl h
  · exact hplaced List.nil_prefix rfl h

end StructSchema.Source
