import StructSchema.Artifact
import StructSchema.Payload
import StructSchema.Proofs.Denotation
import StructSchema.Proofs.Json
import StructSchema.Proofs.Recording
import StructSchema.Proofs.Scan

/-!
# Clean payloads

What a scan of an accepted source writes out is clean, although the tags that it read need not be.
Names of structs and fields are text of the source. Names of entities, columns and keys have passed
the check of names. Messages quote what they mention. So the schemas can be written as UTF-8.
-/

namespace StructSchema

/-! ### Values -/

namespace Value

theorem isClean_ofFields {fields : List (Text × Value)} :
    (ofFields fields).IsClean ↔ ∀ field ∈ fields, field.1.IsClean ∧ field.2.IsClean := by
  rw [ofFields]
  constructor
  · intro h
    cases h with
    | mapping hkeys hvalues =>
      rw [List.forall_mem_map] at hkeys hvalues
      intro field hfield
      have hkey := hkeys field hfield
      cases hkey with
      | string hkey => exact ⟨hkey, hvalues field hfield⟩
  · intro h
    refine .mapping ?_ ?_
    · rw [List.forall_mem_map]
      exact fun field hfield => .string (h field hfield).1
    · rw [List.forall_mem_map]
      exact fun field hfield => (h field hfield).2

theorem isClean_ofText? {text : Option Text} (h : ∀ t, text = some t → t.IsClean) :
    (ofText? text).IsClean := by
  cases text with
  | none => exact .null
  | some t => exact .string (h t rfl)

theorem isClean_ofLine? (line : Option Int) : (ofLine? line).IsClean := by
  cases line with
  | none => exact .null
  | some n => exact .int n

theorem isClean_ofTexts {texts : List Text} (h : ∀ t ∈ texts, Text.IsClean t) :
    (ofTexts texts).IsClean := by
  refine .list ?_
  rw [List.forall_mem_map]
  exact fun t ht => .string (h t ht)

theorem isClean_ofTable {table : NameTable}
    (h : ∀ entry ∈ table.entries, entry.1.IsClean ∧ entry.2.IsClean) : (ofTable table).IsClean := by
  rw [ofTable, isClean_ofFields, List.forall_mem_map]
  exact fun entry hentry => ⟨(h entry hentry).1, .string (h entry hentry).2⟩

end Value

/-! ### Structs of a source -/

/-- Whether the names and types that a struct gives, and its file, are clean. Its tags need not
be. -/
structure StructDecl.IsClean (struct : StructDecl) : Prop where
  name : struct.name.IsClean
  file : ∀ path, struct.file = some path → path.IsClean
  names : ∀ field ∈ struct.fields, ∀ name ∈ field.names, Text.IsClean name
  types : ∀ field ∈ struct.fields, field.typeText.IsClean

namespace Source.Tree

theorem isClean_textAt (label : Label) (t : Tree) : (t.textAt label).IsClean := by
  rw [textAt]
  split
  · exact isClean_text _
  · exact Text.isClean_nil

theorem isClean_of_fieldDecl {t : Tree} {field : FieldDecl} (h : t.fieldDecl = .ok field) :
    (∀ name ∈ field.names, Text.IsClean name) ∧ field.typeText.IsClean := by
  rw [fieldDecl] at h
  obtain ⟨tag, -, hfield⟩ := Fallible.bind_eq_ok.1 h
  cases hfield
  refine ⟨?_, ?_⟩
  · rw [List.forall_mem_map]
    exact fun child _ => child.isClean_text
  · rw [Text.isClean_append]
    refine ⟨?_, isClean_textAt _ t⟩
    split
    · exact Text.isClean_ofString _
    · exact Text.isClean_nil

theorem isClean_of_offered {t : Tree} {depth : Nat} {file : Option Text}
    (hfile : ∀ path, file = some path → path.IsClean) {struct : StructDecl}
    (h : struct ∈ (t.offered depth file).1) : struct.IsClean := by
  obtain ⟨begun, -, hbegun, -⟩ := exists_offered depth file t
  obtain ⟨b, -, hgives⟩ := Fallible.exists_rel_of_mem_right hbegun h
  have hfield : ∀ field ∈ struct.fields,
      (∀ name ∈ field.names, Text.IsClean name) ∧ field.typeText.IsClean := by
    intro field hfield
    obtain ⟨tree, -, hdecl⟩ := exists_fieldDecl_of_mem hgives hfield
    exact isClean_of_fieldDecl hdecl
  refine ⟨?_, ?_, fun field hmem => (hfield field hmem).1, fun field hmem => (hfield field hmem).2⟩
  · rw [hgives.name]
    exact isClean_textAt _ b.spec
  · rw [hgives.file]
    exact hfile

end Source.Tree

/-! ### Entities -/

section Entities

variable {markers : Markers} {struct : StructDecl} {entity : Entity}

theorem Column.isClean_payload {c : Column} (hname : c.name.IsClean) (hfield : c.field.IsClean) :
    c.payload.IsClean := by
  rw [payload, Value.isClean_ofFields]
  simp only [List.forall_mem_cons, Text.isClean_ofString, true_and]
  exact ⟨.string hname, .string (Text.isClean_ofString _), .string hfield, List.forall_mem_nil _⟩

theorem PrimaryKey.isClean_payload {key : PrimaryKey}
    (h : ∀ name ∈ key.columns, Text.IsClean name) : key.payload.IsClean := by
  obtain ⟨hpartition, hclustering⟩ := forall_columns.1 h
  rw [payload, Value.isClean_ofFields]
  simp only [List.forall_mem_cons, Text.isClean_ofString, true_and]
  refine ⟨Value.isClean_ofTexts hpartition, .list ?_, List.forall_mem_nil _⟩
  rw [List.forall_mem_map]
  intro c hc
  rw [ClusteringKey.payload, Value.isClean_ofFields]
  simp only [List.forall_mem_cons, Text.isClean_ofString, true_and]
  exact ⟨.string (hclustering c hc), .bool _, List.forall_mem_nil _⟩

theorem StructDecl.field_of_mem_denotedColumns {c : Column}
    (h : c ∈ struct.denotedColumns markers) : ∃ field ∈ struct.fields, c.field ∈ field.names := by
  obtain ⟨field, hfield, hc⟩ := List.mem_flatMap.1 h
  obtain ⟨name, hname, rfl⟩ := List.mem_map.1 hc
  exact ⟨field, (List.mem_filter.1 (List.mem_filter.1 hfield).1).1, (List.mem_filter.1 hname).1⟩

/-- The entity of a clean struct is clean as data, whatever its tags hold. -/
theorem Entity.isClean_payload (hstruct : struct.IsClean)
    (h : struct.toEntity markers = .ok entity) : entity.payload.IsClean := by
  have hcoherent : entity.Coherent := by
    obtain ⟨name, -, -, rfl, hvalid⟩ := StructDecl.toEntity_eq_ok_iff.1 h
    exact StructDecl.coherent_of_valid hvalid
  obtain ⟨marker, name, entityName, key, -, -, heq⟩ := StructDecl.exists_lastMarker_of_toEntity h
  have hcolumns : entity.definition.columns = struct.denotedColumns markers := by
    rw [heq]
    rfl
  have hname : entity.struct = struct.name := by
    rw [heq]
    rfl
  have hfile : entity.file = struct.file := by
    rw [heq]
    rfl
  have hclean : ∀ c ∈ entity.definition.columns, c.name.IsClean ∧ c.field.IsClean := by
    intro c hc
    refine ⟨Name.isClean_of_isValid (hcoherent.columnNames_valid c hc), ?_⟩
    rw [hcolumns] at hc
    obtain ⟨field, hfield, hfieldName⟩ := StructDecl.field_of_mem_denotedColumns hc
    exact hstruct.names field hfield _ hfieldName
  obtain ⟨key, hkey, -, -, hkeyColumns⟩ := hcoherent.key_valid
  have hkeyClean : key.payload.IsClean := by
    apply PrimaryKey.isClean_payload
    intro k hk
    obtain ⟨c, hc, rfl⟩ := List.mem_map.1 (hkeyColumns k hk)
    exact (hclean c hc).1
  rw [payload, Value.isClean_ofFields]
  simp only [List.forall_mem_cons, Text.isClean_ofString, true_and]
  refine ⟨.string (Name.isClean_of_isValid hcoherent.name_valid), ?_, ?_, ?_, ?_, ?_, ?_, ?_,
    List.forall_mem_nil _⟩
  · rw [hkey]
    exact hkeyClean
  · refine .list ?_
    rw [List.forall_mem_map]
    exact fun c hc => Column.isClean_payload (hclean c hc).1 (hclean c hc).2
  · rw [hname]
    exact .string hstruct.name
  · apply Value.isClean_ofTable
    rw [hcoherent.fieldOfColumn_entries, List.forall_mem_map]
    exact hclean
  · apply Value.isClean_ofTable
    rw [hcoherent.columnOfField_entries, List.forall_mem_map]
    exact fun c hc => ⟨(hclean c hc).2, (hclean c hc).1⟩
  · rw [hfile]
    exact Value.isClean_ofText? hstruct.file
  · exact Value.isClean_ofLine? _

theorem Rejection.isClean_payload {r : Rejection} (hstruct : struct.IsClean)
    (h : struct.toEntity markers = .error (.rejected r)) : r.payload.IsClean := by
  have hrejected := StructDecl.rejectedBy_of_toEntity h
  have hfile : ∀ path, r.file = some path → path.IsClean := by
    rw [hrejected.file_eq]
    exact hstruct.file
  rw [payload, Value.isClean_ofFields]
  simp only [List.forall_mem_cons, Text.isClean_ofString, true_and]
  refine ⟨?_, ?_, Value.isClean_ofText? hfile, Value.isClean_ofLine? _,
    .string (Rejection.isClean_message hfile), List.forall_mem_nil _⟩
  · rw [hrejected.struct_eq]
    exact .string hstruct.name
  · apply Value.isClean_ofText?
    intro name hname
    obtain ⟨field, hfield, hnamed | rfl⟩ := hrejected.field_eq hname
    · exact hstruct.names field hfield name hnamed
    · exact hstruct.types field hfield

end Entities

/-! ### Results -/

/-- What is written for clean data has bytes, from which it is read back. -/
theorem Artifact.decode_schemaText {payload : Value} (h : payload.IsClean) :
    ∃ bytes cs, Utf8.encodeStrict? (schemaText payload) = some bytes ∧
      schemaText payload = cs.map .char ∧ Utf8.decode bytes = .ok cs := by
  have hclean : (schemaText payload).IsClean := by
    rw [schemaText, Text.isClean_append]
    exact ⟨Json.isClean_render _ h, Text.isClean_ofString _⟩
  obtain ⟨cs, hcs⟩ := Text.exists_chars hclean
  refine ⟨cs.flatMap String.utf8EncodeChar, cs, ?_, hcs, Utf8.decode_flatMap cs⟩
  rw [hcs, Utf8.encodeStrict?_map_char]

namespace ScanResult

theorem isClean_payload {result : ScanResult}
    (hentities : ∀ entity ∈ result.entities, entity.payload.IsClean)
    (hrejections : ∀ r ∈ result.rejections, r.payload.IsClean) : result.payload.IsClean := by
  have hstats : result.stats.payload.IsClean := by
    rw [ScanStats.payload, Value.isClean_ofFields]
    simp only [List.forall_mem_cons, Text.isClean_ofString, true_and]
    exact ⟨.int _, .int _, .int _, .int _, .int _, List.forall_mem_nil _⟩
  rw [payload, Value.isClean_ofFields]
  simp only [List.forall_mem_cons, Text.isClean_ofString, true_and]
  refine ⟨.list ?_, .list ?_, hstats, List.forall_mem_nil _⟩
  · rw [List.forall_mem_map]
    exact hentities
  · rw [List.forall_mem_map]
    exact hrejections

theorem exists_tree_of_ofSource {host : Host} {markers : Markers} {file : Text}
    {bytes : List UInt8} {result : ScanResult} (h : ofSource host markers file bytes = .ok result) :
    ∃ tree, Source.read host bytes = .ok tree ∧
      result = (Recorder.addTree host markers (some file) {} tree).1.result 1 := by
  rw [ofSource, Recorder.addSource] at h
  cases hread : Source.readAs host file bytes with
  | error e =>
    rw [hread] at h
    cases h
  | ok tree =>
    rw [hread] at h
    dsimp only at h
    refine ⟨tree, Source.readAs_eq_ok.1 hread, ?_⟩
    cases hadded : Recorder.addTree host markers (some file) {} tree with
    | mk recorder error =>
      rw [hadded] at h
      cases error with
      | some e => cases h
      | none =>
        cases h
        rfl

/-- The result of a source under a clean file name is clean as data, with all names and messages in
it, so that it can be written as UTF-8. An accepted source has a result if there is room for its
containers. -/
theorem ofSource_clean (host : Host) (markers : Markers) {file : Text} (hfile : file.IsClean)
    (bytes : List UInt8) :
    (∀ result, ofSource host markers file bytes = .ok result → result.payload.IsClean ∧
      ∃ written cs, Utf8.encodeStrict? (Artifact.schemaText result.payload) = some written ∧
        Artifact.schemaText result.payload = cs.map .char ∧ Utf8.decode written = .ok cs) ∧
    (host.ReadsGo → ∀ tree, Source.read host bytes = .ok tree → tree.nesting ≤ host.depth →
      ∃ result, ofSource host markers file bytes = .ok result) := by
  refine ⟨fun result hresult => ?_, fun hgo tree hread hroom => ?_⟩
  · obtain ⟨tree, -, rfl⟩ := exists_tree_of_ofSource hresult
    have hclean : ∀ struct ∈ (tree.offered host.depth (some file)).1, struct.IsClean := by
      intro struct hstruct
      refine Source.Tree.isClean_of_offered ?_ hstruct
      intro path hpath
      cases hpath
      exact hfile
    have htakes := (Recorder.takesAll_addTree host markers (some file) {} tree).1
    have hholds : (Recorder.addTree host markers (some file) {} tree).1.Holds
        (fun entity => entity.payload.IsClean) (fun r => r.payload.IsClean) := by
      refine htakes.holds ⟨List.forall_mem_nil _, List.forall_mem_nil _⟩ ?_ ?_
      · intro struct hstruct entity hentity
        exact Entity.isClean_payload (hclean struct hstruct) hentity
      · intro struct hstruct r hr
        exact Rejection.isClean_payload (hclean struct hstruct) hr
    have hpayload : ((Recorder.addTree host markers (some file) {} tree).1.result
        1).payload.IsClean := isClean_payload hholds.entities hholds.rejections
    exact ⟨hpayload, Artifact.decode_schemaText hpayload⟩
  · exact @SourceFile.exists_scan host hgo markers ⟨file, bytes⟩ tree hread hroom

theorem exists_ofSource_escaped : ∃ result,
    ofSource .library {} "a.go" Recorder.escapedSource = .ok result ∧
    (result.rejections.map Rejection.message == [Text.ofString
      ("a.go:6: struct 'Item': column 'Note': name '\\udcff' must start with a letter or " ++
        "underscore and contain only letters, digits and underscores")]) = true :=
  Fallible.exists_eq_ok_of_any (by decide +kernel)

/-- The byte that the tag of the source holds is shown as an escape. -/
theorem ofSource_escaped : ∃ result, Text.IsClean "a.go" ∧
    ofSource .library {} "a.go" Recorder.escapedSource = .ok result ∧
    result.rejections.map Rejection.message = [Text.ofString
      ("a.go:6: struct 'Item': column 'Note': name '\\udcff' must start with a letter or " ++
        "underscore and contain only letters, digits and underscores")] ∧
    result.payload.IsClean ∧
    ∃ written cs, Utf8.encodeStrict? (Artifact.schemaText result.payload) = some written ∧
      Artifact.schemaText result.payload = cs.map .char ∧ Utf8.decode written = .ok cs := by
  obtain ⟨tree, hread, hfacts⟩ := Recorder.exists_tree_escaped
  rw [Bool.and_eq_true, decide_eq_true_eq] at hfacts
  have hfile : Text.IsClean "a.go" := Text.isClean_ofString _
  obtain ⟨hclean, hexists⟩ := ofSource_clean .library {} hfile Recorder.escapedSource
  obtain ⟨result, hresult⟩ := hexists Host.readsGo_library tree hread hfacts.2
  obtain ⟨found, hfound, hmessages⟩ := exists_ofSource_escaped
  rw [hresult] at hfound
  cases hfound
  obtain ⟨hpayload, hwritten⟩ := hclean result hresult
  exact ⟨result, hfile, hresult, eq_of_beq hmessages, hpayload, hwritten⟩

end ScanResult

end StructSchema
