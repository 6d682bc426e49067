import StructSchema.Proofs.Clean
import StructSchema.Proofs.Offence
import StructSchema.Proofs.Walk

/-!
# Structs whose tags have bytes

A tag that comes from a tree is the value of a literal in it. The literal is made of characters and
its value of characters and single bytes, so every code point of the tag has bytes, and so has every
literal inside the tag. Hence a struct that a walk offers can be judged, and if it declares no
entity it is rejected.
-/

namespace StructSchema

/-! ### Texts with bytes -/

/-- Whether every code point of the text has bytes. -/
def Text.IsEncodable (t : Text) : Prop := ∀ c ∈ t, c.isEncodable = true

theorem Text.IsClean.isEncodable {t : Text} (h : t.IsClean) : t.IsEncodable := by
  intro c hc
  rw [CodePoint.isEncodable, h c hc]
  rfl

theorem Literal.isEncodable_of_decode {literal value : Text} (hliteral : literal.IsEncodable)
    (h : decode literal = .ok value) : value.IsEncodable := by
  have hvalue : Literal.value literal = .ok value := Fallible.mapError_eq_ok.1 h
  rw [Literal.value] at hvalue
  split at hvalue
  · rename_i body hbody
    split at hvalue
    · cases hvalue
    · cases hvalue
      -- a raw literal loses its quotes and carriage returns and gains nothing
      intro c hc
      apply hliteral
      rw [eq_quoted_of_body? hbody]
      exact List.mem_append_left _ (List.mem_cons_of_mem _ (List.mem_filter.1 hc).1)
  split at hvalue
  · obtain ⟨bytes, -, rfl⟩ := Fallible.map_eq_ok.1 hvalue
    exact Utf8.isEncodable_losslessFrom 0 bytes
  · cases hvalue

/-- Whether a tag and the literals of its pairs have bytes. -/
structure StructTag.Encodable (tag : Text) : Prop where
  whole : tag.IsEncodable
  literals : ∀ p ∈ pairs tag, p.literal.IsEncodable

theorem StructTag.encodable_of_isEncodable {tag : Text} (h : tag.IsEncodable) :
    StructTag.Encodable tag where
  whole := h
  literals := fun _ hp c hc => h c (mem_tag_of_mem_literal hp c hc)

/-! ### Structs -/

namespace StructDecl

variable {markers : Markers} {struct : StructDecl}

/-- Whether the tags of all fields have bytes. -/
def HasBytes (struct : StructDecl) : Prop :=
  ∀ field ∈ struct.fields, ∀ tag ∈ field.tag, StructTag.Encodable tag

theorem exists_get {tag : Text} (h : tag.IsEncodable) (key : Text) :
    ∃ value, StructTag.get tag key = .ok value := by
  rw [StructTag.get]
  cases hlookup : StructTag.lookup tag key with
  | ok value? => exact ⟨value?.getD [], rfl⟩
  | error e =>
    obtain ⟨c, hc, hnot, -⟩ := StructTag.unencodable_of_lookup hlookup
    rw [h c hc] at hnot
    cases hnot

theorem HasBytes.judge (h : struct.HasBytes) (markers : Markers) :
    ∃ candidate, struct.judge markers = .ok candidate := by
  rw [StructDecl.judge]
  split
  · exact ⟨false, rfl⟩
  rename_i first rest hfields
  have hget : ∀ tag, first.tag = some tag → ∃ candidate,
      (StructTag.get tag markers.tagKey).map (!·.isEmpty) = .ok candidate := by
    intro tag htag
    have hfirst : first ∈ struct.fields := by
      rw [hfields]
      exact List.mem_cons_self ..
    obtain ⟨value, hvalue⟩ := exists_get (h first hfirst tag htag).whole markers.tagKey
    exact ⟨!value.isEmpty, by rw [hvalue]; rfl⟩
  split
  · exact ⟨false, rfl⟩
  · rename_i name tag hshape htag
    split
    · exact hget tag htag
    · exact ⟨false, rfl⟩
  · rename_i tag htag hshape
    exact hget tag htag

theorem HasBytes.rejected (h : struct.HasBytes) {failure : EntityError}
    (hfailure : struct.toEntity markers = .error failure) : ∃ r, failure = .rejected r := by
  refine exists_rejected_of_toEntity (fun field hfield => ?_) hfailure
  exact isReadable_of_encodable fun tag htag => (h field hfield tag htag).whole

end StructDecl

/-! ### Structs of a tree -/

namespace Source.Tree

theorem isClean_text (t : Tree) : t.text.IsClean := by
  rw [text]
  split
  · exact Text.isClean_nil
  · exact Text.isClean_map_char _

theorem isEncodable_of_fieldTag {field : Tree} {tag : Text} (h : field.fieldTag = .ok (some tag)) :
    tag.IsEncodable := by
  rw [fieldTag] at h
  split at h
  · rename_i literal _
    obtain ⟨value, hvalue, heq⟩ := Fallible.map_eq_ok.1 h
    cases heq
    exact Literal.isEncodable_of_decode literal.isClean_text.isEncodable hvalue
  · cases h

theorem fieldTag_of_fieldDecl {field : Tree} {decl : FieldDecl} (h : field.fieldDecl = .ok decl) :
    field.fieldTag = .ok decl.tag := by
  rw [fieldDecl] at h
  obtain ⟨tag, htag, hdecl⟩ := Fallible.bind_eq_ok.1 h
  cases hdecl
  exact htag

theorem hasBytes_of_gives {b : Binding} {file : Option Text} {struct : StructDecl}
    (h : b.Gives file struct) : struct.HasBytes := by
  intro field hfield tag htag
  obtain ⟨tree, -, hdecl⟩ := exists_fieldDecl_of_mem h hfield
  have hread := fieldTag_of_fieldDecl hdecl
  rw [htag] at hread
  exact StructTag.encodable_of_isEncodable (isEncodable_of_fieldTag hread)

theorem hasBytes_of_structs {t : Tree} {file : Option Text} {structs : List StructDecl}
    (h : t.structs file = .ok structs) {struct : StructDecl} (hstruct : struct ∈ structs) :
    struct.HasBytes := by
  obtain ⟨b, -, hb⟩ := Fallible.exists_rel_of_mem_right (structs_eq_ok.1 h) hstruct
  exact hasBytes_of_gives hb

theorem hasBytes_of_offered {t : Tree} {depth : Nat} {file : Option Text} {struct : StructDecl}
    (h : struct ∈ (t.offered depth file).1) : struct.HasBytes := by
  obtain ⟨begun, -, hgives, -⟩ := exists_offered depth file t
  obtain ⟨b, -, hb⟩ := Fallible.exists_rel_of_mem_right hgives h
  exact hasBytes_of_gives hb

end Source.Tree

end StructSchema
