import StructSchema.Proofs.Denotation

/-!
# Structs that open with their marker

Whether a struct is worth reading is told by its first field alone, but its name and key come from
its last marker. A first field of a plain identifier type has to be a marker; one of any other type
only has to carry a tag. So a struct that is recorded as an entity opens with a marker, or it opens
with a tagged field of some other type and has its marker further down.
-/

namespace StructSchema

variable {markers : Markers} {struct : StructDecl} {entity : Entity}

/-! ### The first field -/

def FieldDecl.isTagged (markers : Markers) (field : FieldDecl) : Bool :=
  field.tag.any fun tag => (StructTag.get tag markers.tagKey).toOption.any (!·.isEmpty)

def FieldDecl.isPlainType (field : FieldDecl) : Bool :=
  match field.shape with
  | .identifier _ => true
  | _ => false

theorem isMarker_of_identifier {field : FieldDecl} (hword : Text.isWord markers.entityType = true)
    (h : field.shape = .identifier (some markers.entityType)) : field.isMarker markers = true := by
  have hne : markers.entityType.isEmpty = false := by
    rw [List.isEmpty_eq_false_iff]
    intro hnil
    rw [hnil] at hword
    exact absurd hword (by decide)
  rw [FieldDecl.isMarker, FieldDecl.typeLabel, h]
  simp only [hne, Bool.false_eq_true, if_false, decide_true]

namespace StructDecl

def opensWithMarker (markers : Markers) (struct : StructDecl) : Bool :=
  struct.fields.head?.any (·.isMarker markers)

theorem isTagged_of_hasValue {field : FieldDecl} {tag : Text} (htag : field.tag = some tag)
    (h : (StructTag.get tag markers.tagKey).map (!·.isEmpty) = .ok true) :
    field.isTagged markers = true := by
  obtain ⟨value, hvalue, hne⟩ := Fallible.map_eq_ok.1 h
  rw [FieldDecl.isTagged, htag, Option.any_some, hvalue]
  exact hne

/-- A candidate opens with a tagged field, which is a marker if its type is a plain identifier. -/
theorem opening_of_isCandidate (hword : Text.isWord markers.entityType = true)
    (h : struct.isCandidate markers = true) :
    ∃ first rest, struct.fields = first :: rest ∧ first.isTagged markers = true ∧
      (first.isPlainType = true → first.isMarker markers = true) := by
  have hjudged := isCandidate_iff.1 h
  unfold judge at hjudged
  dsimp only at hjudged
  split at hjudged
  · cases hjudged
  rename_i first rest hfields
  refine ⟨first, rest, hfields, ?_⟩
  split at hjudged
  · cases hjudged
  · rename_i name tag hshape htag
    split at hjudged
    · rename_i hname
      rw [hname] at hshape
      exact ⟨isTagged_of_hasValue htag hjudged, fun _ => isMarker_of_identifier hword hshape⟩
    · cases hjudged
  · rename_i tag htag hother
    refine ⟨isTagged_of_hasValue htag hjudged, ?_⟩
    intro hplain
    unfold FieldDecl.isPlainType at hplain
    split at hplain
    · rename_i name hidentifier
      exact (hother name hidentifier).elim
    · cases hplain

/-! ### The marker -/

theorem exists_marker_of_toEntity (h : struct.toEntity markers = .ok entity) :
    ∃ marker ∈ struct.fields, marker.isLive markers = true ∧ marker.isMarker markers = true := by
  obtain ⟨marker, _, _, _, hlast, -⟩ := exists_lastMarker_of_toEntity h
  have hmem := List.mem_of_getLast? hlast
  obtain ⟨hlive, hmarker⟩ := List.mem_filter.1 hmem
  obtain ⟨hfield, hlive⟩ := List.mem_filter.1 hlive
  exact ⟨marker, hfield, hlive, hmarker⟩

/-- A recorded struct opens with its marker, or with a tagged field whose type is no plain
identifier; then the marker comes later. -/
theorem opening_of_entity (hword : Text.isWord markers.entityType = true)
    (hcandidate : struct.isCandidate markers = true) (h : struct.toEntity markers = .ok entity) :
    ∃ first rest, struct.fields = first :: rest ∧ first.isTagged markers = true ∧
      (first.isMarker markers = true ∨ first.isPlainType = false ∧
        ∃ marker ∈ rest, marker.isLive markers = true ∧ marker.isMarker markers = true) := by
  obtain ⟨first, rest, hfields, htagged, hplain⟩ := opening_of_isCandidate hword hcandidate
  refine ⟨first, rest, hfields, htagged, ?_⟩
  cases hfirst : first.isMarker markers with
  | true => exact .inl rfl
  | false =>
    have htype : first.isPlainType = false := by
      rw [Bool.eq_false_iff]
      intro htype
      rw [hplain htype] at hfirst
      cases hfirst
    obtain ⟨marker, hmem, hlive, hmarker⟩ := exists_marker_of_toEntity h
    rw [hfields, List.mem_cons] at hmem
    rcases hmem with rfl | hmem
    · rw [hmarker] at hfirst
      cases hfirst
    · exact .inr ⟨htype, marker, hmem, hlive, hmarker⟩

/-- A struct that opens with a tagged column and ends with its marker. -/
def blob : StructDecl where
  name := "Blob"
  fields := [
    { names := ["ID"], shape := .array (some "byte"), typeText := "[]byte",
      tag := some "dosa:\"name=id\"" },
    { names := [], shape := .identifier (some "Entity"), typeText := "Entity",
      tag := some "dosa:\"primaryKey=ID\"" }]

theorem blob_toEntity : ∃ entity, blob.toEntity {} = .ok entity :=
  Fallible.exists_eq_ok_of_isOk (by decide +kernel)

theorem opening_of_blob :
    Text.isWord ({} : Markers).entityType = true ∧ blob.isCandidate {} = true ∧
      ∃ entity, blob.toEntity {} = .ok entity ∧
        ∃ first rest, blob.fields = first :: rest ∧ first.isTagged {} = true ∧
          (first.isMarker {} = true ∨ first.isPlainType = false ∧
            ∃ marker ∈ rest, marker.isLive {} = true ∧ marker.isMarker {} = true) := by
  have hword : Text.isWord ({} : Markers).entityType = true := by decide
  have hcandidate : blob.isCandidate {} = true := by decide +kernel
  obtain ⟨entity, h⟩ := blob_toEntity
  exact ⟨hword, hcandidate, entity, h, opening_of_entity hword hcandidate h⟩

/-- A recorded struct need not open with its marker. -/
theorem not_forall_opensWithMarker :
    ¬∀ (markers : Markers) (struct : StructDecl) (entity : Entity),
      Text.isWord markers.entityType = true → Text.isWord markers.tagKey = true →
        Text.isWord markers.package = true → struct.isCandidate markers = true →
          struct.toEntity markers = .ok entity → struct.opensWithMarker markers = true := by
  intro hclaim
  obtain ⟨entity, h⟩ := blob_toEntity
  have hopens := hclaim {} blob entity (by decide) (by decide) (by decide) (by decide +kernel) h
  exact absurd hopens (by decide)

end StructDecl

end StructSchema
