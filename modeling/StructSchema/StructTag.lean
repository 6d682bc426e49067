import StructSchema.Literal

/-!
# Struct tags

A struct tag is a sequence of pairs `key:"value"`. Spaces may stand before a pair; the key is a
run of characters above the space other than the colon, the quote and U+007F; the value is an
interpreted literal. What follows the last pair is ignored, so a key is looked up among the pairs
only.
-/

namespace StructSchema

/-- A key and the literal after its colon. -/
structure TagPair where
  key : Text
  literal : Text
  deriving DecidableEq, Repr

namespace StructTag

def isKeyPart (c : CodePoint) : Bool :=
  ' '.toNat < c.val && c ≠ .char ':' && c ≠ .char '"' && c ≠ .char '\x7f'

/-- The body of a quoted text read after its opening quote, and the text after the closing one.
A backslash takes the next code point with it. -/
def quotedBody? : Text → Option (Text × Text)
  | [] => none
  | .char '"' :: rest => some ([], rest)
  | [.char '\\'] => none
  | .char '\\' :: c :: rest =>
    (quotedBody? rest).map fun (body, after) => (.char '\\' :: c :: body, after)
  | c :: rest => (quotedBody? rest).map fun (body, after) => (c :: body, after)

theorem length_of_quotedBody? {t body after : Text} (h : quotedBody? t = some (body, after)) :
    after.length < t.length := by
  fun_induction quotedBody? t generalizing body with
  | case1 => simp at h
  | case2 rest =>
    simp only [Option.some.injEq, Prod.mk.injEq] at h
    simp [← h.2]
  | case3 => simp at h
  | case4 c rest ih =>
    simp only [Option.map_eq_some_iff, Prod.mk.injEq] at h
    obtain ⟨⟨b, a⟩, hb, -, rfl⟩ := h
    have := ih hb
    simp only [List.length_cons] at this ⊢
    omega
  | case5 c rest _ _ _ ih =>
    simp only [Option.map_eq_some_iff, Prod.mk.injEq] at h
    obtain ⟨⟨b, a⟩, hb, -, rfl⟩ := h
    have := ih hb
    simp only [List.length_cons] at this ⊢
    omega

/-- The pair that a tag begins with, after any spaces, and the text behind it. -/
def pair? (tag : Text) : Option (TagPair × Text) :=
  let start := tag.dropWhile (· = .char ' ')
  let key := start.takeWhile isKeyPart
  match start.dropWhile isKeyPart with
  | .char ':' :: .char '"' :: rest =>
    if key.isEmpty then none
    else (quotedBody? rest).map fun (body, after) =>
      (⟨key, .char '"' :: body ++ [.char '"']⟩, after)
  | _ => none

theorem length_of_pair? {tag after : Text} {p : TagPair} (h : pair? tag = some (p, after)) :
    after.length < tag.length := by
  have hs : (tag.dropWhile (· = .char ' ')).length ≤ tag.length :=
    (List.dropWhile_sublist _).length_le
  have hk : ((tag.dropWhile (· = .char ' ')).dropWhile isKeyPart).length ≤
      (tag.dropWhile (· = .char ' ')).length := (List.dropWhile_sublist _).length_le
  simp only [pair?] at h
  split at h
  · rename_i rest hd
    rw [hd] at hk
    simp only [List.length_cons] at hk
    split at h
    · simp at h
    · simp only [Option.map_eq_some_iff, Prod.mk.injEq] at h
      obtain ⟨⟨b, a⟩, hb, -, rfl⟩ := h
      have hl : a.length < rest.length := length_of_quotedBody? hb
      dsimp only
      omega
  · simp at h

def pairs (tag : Text) : List TagPair :=
  match _h : pair? tag with
  | some (p, after) => p :: pairs after
  | none => []
  termination_by tag.length
  decreasing_by exact length_of_pair? _h

/-- The value of the first pair with a key. A literal that is malformed gives none, but one with a
code point that has no bytes is an error. -/
def lookup (tag key : Text) : Except LiteralError (Option Text) :=
  match (pairs tag).find? (·.key = key) with
  | none => .ok none
  | some p =>
    match Literal.decode p.literal with
    | .ok value => .ok (some value)
    | .error e => if e.fault.isSyntax then .ok none else .error e

def get (tag key : Text) : Except LiteralError Text :=
  (lookup tag key).map fun value? => value?.getD []

end StructTag

end StructSchema
