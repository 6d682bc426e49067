import StructSchema.Proofs.Literal
import StructSchema.Proofs.TagPairs

/-!
# Written struct tags

The value of a key in a struct tag whose first pair has this key: if the value is written without
escapes, looking up the key gives it back as it stands.
-/

namespace StructSchema

/-! ### Plain literals -/

namespace Literal

def isPlainPart : CodePoint → Bool :=
  CodePoint.isAscii fun c => c != '"' && c != '\\' && c != '\n'

theorem isPlainPart_cases {c : CodePoint} (h : isPlainPart c = true) :
    ∃ d : Char, c = .char d ∧ IsPlain c := by
  cases c with
  | lone half => simp [isPlainPart, CodePoint.isAscii] at h
  | char d =>
    simp only [isPlainPart, CodePoint.isAscii, Bool.and_eq_true, bne_iff_ne, ne_eq] at h
    obtain ⟨-, ⟨hquote, hslash⟩, hbreak⟩ := h
    refine ⟨d, rfl, ?_, ?_, ?_⟩
    · exact fun hc => hquote (CodePoint.char.inj hc)
    · exact fun hc => hslash (CodePoint.char.inj hc)
    · exact fun hc => hbreak (CodePoint.char.inj hc)

theorem exists_spells_plain {body : Text} (h : ∀ c ∈ body, isPlainPart c = true) :
    ∃ (s : List Char) (parts : List Text), List.Forall₂ Spells s parts ∧ parts.flatten = body ∧
      s.map .char = body := by
  induction body with
  | nil => exact ⟨[], [], .nil, rfl, rfl⟩
  | cons c body ih =>
    obtain ⟨hc, hbody⟩ := List.forall_mem_cons.1 h
    obtain ⟨d, rfl, hplain⟩ := isPlainPart_cases hc
    obtain ⟨s, parts, hspells, hflatten, hmap⟩ := ih hbody
    refine ⟨d :: s, [.char d] :: parts, .cons (.itself hplain) hspells, ?_, ?_⟩
    · rw [List.flatten_cons, hflatten, List.singleton_append]
    · rw [List.map_cons, hmap]

theorem decode_plain {body : Text} (h : ∀ c ∈ body, isPlainPart c = true) :
    decode (interpreted body) = .ok body := by
  obtain ⟨s, parts, hspells, hflatten, hmap⟩ := exists_spells_plain h
  have hdecode := decode_of_spells hspells
  rwa [hflatten, hmap] at hdecode

end Literal

/-! ### The first pair -/

namespace StructTag

theorem quotedBody_plain {body : Text} (h : ∀ c ∈ body, Literal.isPlainPart c = true) :
    QuotedBody body := by
  induction body with
  | nil => exact .nil
  | cons c body ih =>
    obtain ⟨hc, hbody⟩ := List.forall_mem_cons.1 h
    obtain ⟨-, -, hquote, hslash, -⟩ := Literal.isPlainPart_cases hc
    exact .plain hquote hslash (ih hbody)

def renderPair (key value : Text) : Text :=
  key ++ .char ':' :: .char '"' :: (value ++ [.char '"'])

theorem get_renderPair {key value : Text} (hne : key ≠ [])
    (hkey : ∀ c ∈ key, isKeyPart c = true) (hvalue : ∀ c ∈ value, Literal.isPlainPart c = true)
    (rest : Text) : get (renderPair key value ++ rest) key = .ok value := by
  let written : WrittenPair :=
    ⟨0, key, value, hne, fun c hc => isKeyPart_iff.1 (hkey c hc), quotedBody_plain hvalue⟩
  have htext : renderPair key value = written.text := rfl
  obtain ⟨ps, behind, hrest⟩ := exists_decomposes rest
  have hparts : Decomposes (written.text ++ rest) ([] ++ written :: ps) behind := hrest.cons written
  have hfound := lookup_append_cons hparts (fun q hq => absurd hq List.not_mem_nil) rfl
  have hdecode : Literal.decode written.literal = .ok value := Literal.decode_plain hvalue
  rw [get, htext, hfound, found_of_ok hdecode]
  rfl

end StructTag

end StructSchema
