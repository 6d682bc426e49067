import StructSchema.Proofs.Denotation
import StructSchema.Proofs.StructTag
import StructSchema.Proofs.TagOptions

/-!
# Written entities

An outline is what an entity is made of: a name, columns with their types and fields, and a key over
the fields. It is written as a struct whose first field carries the name and the key in its tag and
whose other fields carry one column each. Main statement: such a struct is a candidate, and the
entity that it declares is the one of the outline, with columns in the place of fields in its key.
-/

namespace StructSchema

/-! ### Outlines -/

/-- A name, columns and a key over the fields of the columns. -/
structure Outline where
  name : Text
  columns : List Column
  key : PrimaryKey

/-- A column that can be written: plain names, that of the column in small letters and that of the
field exported, and a mapped type. -/
structure Column.Plain (c : Column) : Prop where
  field_plain : Name.IsPlain c.field
  field_exported : isExported c.field = true
  name_plain : Name.IsPlain c.name
  name_lower : Text.toLower c.name = c.name
  type_mapped : c.type ≠ .invalid

/-- An outline that can be written: a plain name, columns with distinct names and fields, and a key
over the fields with a partition column. -/
structure Outline.Plain (outline : Outline) : Prop where
  name_plain : Name.IsPlain outline.name
  columns_ne_nil : outline.columns ≠ []
  columns_plain : ∀ c ∈ outline.columns, c.Plain
  columnNames_nodup : (outline.columns.map (·.name)).Nodup
  fields_nodup : (outline.columns.map (·.field)).Nodup
  partition_ne_nil : outline.key.partition ≠ []
  key_nodup : outline.key.columns.Nodup
  key_fields : ∀ k ∈ outline.key.columns, k ∈ outline.columns.map (·.field)

instance (c : Column) : Decidable c.Plain :=
  decidable_of_iff (Name.IsPlain c.field ∧ isExported c.field = true ∧ Name.IsPlain c.name ∧
      Text.toLower c.name = c.name ∧ c.type ≠ .invalid)
    ⟨fun ⟨h₁, h₂, h₃, h₄, h₅⟩ => ⟨h₁, h₂, h₃, h₄, h₅⟩,
      fun ⟨h₁, h₂, h₃, h₄, h₅⟩ => ⟨h₁, h₂, h₃, h₄, h₅⟩⟩

theorem Outline.Plain.key_plain {outline : Outline} (h : outline.Plain) :
    ∀ k ∈ outline.key.columns, Name.IsPlain k := by
  intro k hk
  obtain ⟨c, hc, rfl⟩ := List.mem_map.1 (h.key_fields k hk)
  exact (h.columns_plain c hc).field_plain

/-! ### Writing -/

inductive ColumnType.IsSpelled : ColumnType → TypeShape → Prop
  | string : IsSpelled .string (.identifier (some "string"))
  | bytes : IsSpelled .blob (.array (some "byte"))
  | bool : IsSpelled .bool (.identifier (some "bool"))
  | int32 : IsSpelled .int32 (.identifier (some "int32"))
  | int64 : IsSpelled .int64 (.identifier (some "int64"))
  | float64 : IsSpelled .double (.identifier (some "float64"))
  | time : IsSpelled .timestamp (.qualified (some "time") (some "Time"))
  | uuid : IsSpelled .uuid (.identifier (some "UUID"))
  | packageUuid : IsSpelled .uuid (.qualified (some "dosa") (some "UUID"))

def markerTag (name : Text) (key : PrimaryKey) : Text :=
  "dosa:\"name=" ++ name ++ " primaryKey=" ++ key.render ++ "\""

def columnTag (name : Text) : Text := "dosa:\"name=" ++ name ++ "\""

structure FieldDecl.Writes (field : FieldDecl) (column : Column) : Prop where
  names : field.names = [column.field]
  shape : column.type.IsSpelled field.shape
  tag : field.tag = some (columnTag column.name)

/-- A struct that is written for an outline: a marker, then a field for each column. -/
def StructDecl.Writes (struct : StructDecl) (outline : Outline) : Prop :=
  ∃ marker others, struct.fields = marker :: others ∧ marker.names = [] ∧
    marker.shape = .identifier (some "Entity") ∧
    marker.tag = some (markerTag outline.name outline.key) ∧
    List.Forall₂ FieldDecl.Writes others outline.columns

/-! ### Tag values -/

theorem isPlainPart_of_isWrittenPart {c : CodePoint} (h : PrimaryKey.isWrittenPart c = true) :
    Literal.isPlainPart c = true ∧ c ≠ .char '=' := by
  simp only [PrimaryKey.isWrittenPart, Bool.or_eq_true, decide_eq_true_eq] at h
  rcases h with (((h | rfl) | rfl) | rfl) | rfl
  · exact CodePoint.isWordPart_cases
      (P := fun c => Literal.isPlainPart c = true ∧ c ≠ .char '=') (by decide) h
  · decide
  · decide
  · decide
  · decide

theorem not_isSeparator_of_isWordPart {c : CodePoint} (h : c.isWordPart = true) :
    TagOptions.isSeparator c = false :=
  CodePoint.isWordPart_cases (P := fun c => TagOptions.isSeparator c = false) (by decide) h

theorem isWritable_of_keeps {option value : Text}
    (hoption : option = "name" ∨ option = "primaryKey")
    (hne : value ≠ []) (ht : Text.IsTrimmed value)
    (hw : ∀ c ∈ value, PrimaryKey.isWrittenPart c = true)
    (hk : Keeps TagOptions.isSeparator 0 value 0) : TagOptions.IsWritable (option, value) := by
  have hname : option ≠ [] ∧ (∀ c ∈ option, c.isBlank = false) ∧ .char '=' ∉ option ∧
      ∀ c ∈ option, c ≠ .char '(' ∧ c ≠ .char ')' ∧ TagOptions.isSeparator c = false := by
    rcases hoption with rfl | rfl <;> decide
  exact {
    name_ne_nil := hname.1
    value_ne_nil := hne
    name_trimmed := Text.isTrimmed_of_not_blank hname.2.1
    value_trimmed := ht
    name_no_equals := hname.2.2.1
    value_no_equals := fun h => (isPlainPart_of_isWrittenPart (hw _ h)).2 rfl
    name_kept := Keeps.word fun c hc => by
      obtain ⟨ho, hc, hs⟩ := hname.2.2.2 c hc
      exact ⟨ho, hc, .inr hs⟩
    value_kept := hk }

theorem isWritable_name {name : Text} (h : Name.IsPlain name) :
    TagOptions.IsWritable ("name", name) :=
  isWritable_of_keeps (.inl rfl) h.ne_nil
    (PrimaryKey.isTrimmed_of_isPlain h) (PrimaryKey.isWrittenPart_of_isPlain h)
    (PrimaryKey.keeps_name h (.inr fun _ hc => not_isSeparator_of_isWordPart hc))

theorem isWritable_key {key : PrimaryKey} (hne : key.partition ≠ [])
    (h : ∀ n ∈ key.columns, Name.IsPlain n) : TagOptions.IsWritable ("primaryKey", key.render) := by
  have hbracket := PrimaryKey.render_eq key
  refine isWritable_of_keeps (.inr rfl) ?_ ?_ (PrimaryKey.isWrittenPart_render hne h)
    (PrimaryKey.keeps_render hne h (by decide))
  · rw [hbracket]
    exact PrimaryKey.bracketed_ne_nil _ _
  · rw [hbracket]
    exact PrimaryKey.isTrimmed_bracketed _ _

/-- The value of a tag that holds one pair of the tag key is what is written in it. -/
theorem readTag_eq {field : FieldDecl} {value : Text}
    (htag : field.tag = some (StructTag.renderPair "dosa" value)) (ht : Text.IsTrimmed value)
    (h : ∀ c ∈ value, Literal.isPlainPart c = true) : field.readTag {} = .ok value := by
  have hkey : ∀ c ∈ Text.ofString "dosa", StructTag.isKeyPart c = true := by decide
  have hget := StructTag.get_renderPair (by decide) hkey h []
  rw [List.append_nil] at hget
  simp only [FieldDecl.readTag, htag, hget, Except.map, Text.strip_of_isTrimmed ht]

theorem columnTag_eq (name : Text) :
    columnTag name = StructTag.renderPair "dosa" (TagOptions.render ("name", name)) := by
  have hstart : Text.ofString "dosa:\"name=" = Text.ofString "dosa" ++
      .char ':' :: .char '"' :: (Text.ofString "name" ++ [.char '=']) := by decide
  rw [columnTag, hstart, StructTag.renderPair, TagOptions.render]
  simp only [List.append_assoc, List.cons_append, List.nil_append]
  rfl

theorem markerTag_eq (name : Text) (key : PrimaryKey) :
    markerTag name key = StructTag.renderPair "dosa"
      (TagOptions.renderAll ("name", name) [("primaryKey", key.render)]) := by
  have hstart : Text.ofString "dosa:\"name=" = Text.ofString "dosa" ++
      .char ':' :: .char '"' :: (Text.ofString "name" ++ [.char '=']) := by decide
  have hkey : Text.ofString " primaryKey=" =
      .char ' ' :: (Text.ofString "primaryKey" ++ [.char '=']) := by decide
  rw [markerTag, hstart, hkey, StructTag.renderPair, TagOptions.renderAll, List.map_singleton,
    List.flatMap_singleton, TagOptions.render, TagOptions.render]
  simp only [List.append_assoc, List.cons_append, List.nil_append]
  rfl

/-! ### Fields -/

theorem typeLabel_of_isSpelled {type : ColumnType} {field : FieldDecl}
    (h : type.IsSpelled field.shape) :
    ∃ label, type.label? = some label ∧ field.typeLabel {} = label := by
  obtain ⟨names, shape, typeText, tag, line⟩ := field
  cases h <;> exact ⟨_, rfl, rfl⟩

theorem label_ne_entity {type : ColumnType} {label : String} (h : type.label? = some label) :
    Text.ofString label ≠ "Entity" := by
  cases type <;> cases h <;> decide

theorem isPlainPart_render {option value : Text}
    (hoption : ∀ c ∈ option, Literal.isPlainPart c = true)
    (hvalue : ∀ c ∈ value, PrimaryKey.isWrittenPart c = true) :
    ∀ c ∈ TagOptions.render (option, value), Literal.isPlainPart c = true := by
  rw [TagOptions.render, List.forall_mem_append, List.forall_mem_cons]
  exact ⟨hoption, by decide, fun c hc => (isPlainPart_of_isWrittenPart (hvalue c hc)).1⟩

/-- A tag that holds options is not the one that leaves a field out. -/
theorem isLive_of_options {field : FieldDecl} {options : List (Text × Text)}
    (h : TagOptions.parse (field.schemaTag {}) = .ok options) : field.isLive {} = true := by
  have hdash : (TagOptions.parse "-").isOk = false := by decide
  have hne : field.schemaTag {} ≠ ("-" : Text) := by
    intro he
    rw [← he, h] at hdash
    cases hdash
  exact decide_eq_true hne

section Fields

variable {struct : StructDecl} {outline : Outline}

theorem options_marker (hp : outline.Plain) {marker : FieldDecl}
    (htag : marker.tag = some (markerTag outline.name outline.key)) :
    marker.IsReadable {} ∧ TagOptions.parse (marker.schemaTag {}) =
      .ok [("name", outline.name), ("primaryKey", outline.key.render)] := by
  have hoptions : ∀ option ∈ [(("name", outline.name) : Text × Text),
      ("primaryKey", outline.key.render)], TagOptions.IsWritable option := by
    refine List.forall_mem_cons.2 ⟨isWritable_name hp.name_plain, ?_⟩
    exact List.forall_mem_singleton.2 (isWritable_key hp.partition_ne_nil hp.key_plain)
  have hread : marker.readTag {} =
      .ok (TagOptions.renderAll ("name", outline.name) [("primaryKey", outline.key.render)]) := by
    refine readTag_eq (by rw [htag, markerTag_eq]) (TagOptions.isTrimmed_renderAll hoptions) ?_
    rw [TagOptions.renderAll, List.map_singleton, List.flatMap_singleton, List.forall_mem_append,
      List.forall_mem_cons]
    exact ⟨isPlainPart_render (by decide) (PrimaryKey.isWrittenPart_of_isPlain hp.name_plain),
      by decide, isPlainPart_render (by decide)
        (PrimaryKey.isWrittenPart_render hp.partition_ne_nil hp.key_plain)⟩
  obtain ⟨hreadable, hvalue⟩ := FieldDecl.readable_of_readTag hread
  exact ⟨hreadable, by rw [hvalue, TagOptions.parse_renderAll hoptions]⟩

theorem options_column {field : FieldDecl} {name : Text} (htag : field.tag = some (columnTag name))
    (hname : Name.IsPlain name) :
    field.IsReadable {} ∧ TagOptions.parse (field.schemaTag {}) = .ok [("name", name)] := by
  have hoption := isWritable_name hname
  have hread : field.readTag {} = .ok (TagOptions.renderAll ("name", name) []) := by
    refine readTag_eq (by rw [htag, columnTag_eq]; simp [TagOptions.renderAll])
      (TagOptions.isTrimmed_renderAll (List.forall_mem_singleton.2 hoption)) ?_
    rw [TagOptions.renderAll, List.map_nil, List.flatMap_nil, List.append_nil]
    exact isPlainPart_render (by decide) (PrimaryKey.isWrittenPart_of_isPlain hname)
  obtain ⟨hreadable, hvalue⟩ := FieldDecl.readable_of_readTag hread
  refine ⟨hreadable, ?_⟩
  rw [hvalue, TagOptions.parse_renderAll (List.forall_mem_singleton.2 hoption)]

theorem fieldSteps_marker (hp : outline.Plain) {marker : FieldDecl}
    (hshape : marker.shape = .identifier (some "Entity"))
    (htag : marker.tag = some (markerTag outline.name outline.key)) :
    struct.fieldSteps {} marker = [.marker (Text.toLower outline.name) outline.key] := by
  obtain ⟨hreadable, hoptions⟩ := options_marker hp htag
  have hlabel : marker.isMarker {} = true := by
    rw [FieldDecl.isMarker, FieldDecl.typeLabel, hshape]
    rfl
  exact StructDecl.fieldSteps_of_marker hreadable (isLive_of_options hoptions) hlabel
    (SchemaTag.entity_of_options hoptions hp.name_plain
      (PrimaryKey.parse_render hp.partition_ne_nil hp.key_plain))

theorem fieldSteps_column {field : FieldDecl} {c : Column} (hc : c.Plain) (h : field.Writes c) :
    struct.fieldSteps {} field = [.column c] := by
  obtain ⟨hreadable, hoption⟩ := options_column h.tag hc.name_plain
  obtain ⟨label, hlabel, hfieldLabel⟩ := typeLabel_of_isSpelled h.shape
  have hmarker : field.isMarker {} = false := by
    rw [FieldDecl.isMarker, hfieldLabel]
    exact decide_eq_false (label_ne_entity hlabel)
  have hcolumn : SchemaTag.column c.type c.field (field.schemaTag {}) = .ok c := by
    rw [SchemaTag.column_of_option hoption hc.name_plain, hc.name_lower]
  rw [StructDecl.fieldSteps_of_not_marker hreadable (isLive_of_options hoption) hmarker, h.names,
    List.map_singleton, StructDecl.nameStep, hc.field_exported, hfieldLabel,
    ColumnType.ofLabel_label hlabel, if_neg hc.type_mapped, hcolumn]
  rfl

theorem flatMap_fieldSteps {fields : List FieldDecl} {columns : List Column}
    (hp : ∀ c ∈ columns, c.Plain) (hw : List.Forall₂ FieldDecl.Writes fields columns) :
    fields.flatMap (struct.fieldSteps {}) = columns.map .column := by
  induction hw with
  | nil => rfl
  | cons hfield _ ih =>
    obtain ⟨hc, hrest⟩ := List.forall_mem_cons.1 hp
    rw [List.flatMap_cons, fieldSteps_column hc hfield, ih hrest]
    rfl

theorem steps_of_writes (hp : outline.Plain) (hw : struct.Writes outline) :
    struct.steps {} =
      .marker (Text.toLower outline.name) outline.key :: outline.columns.map .column := by
  obtain ⟨marker, others, hfields, -, hshape, htag, hothers⟩ := hw
  rw [StructDecl.steps, hfields, List.flatMap_cons, fieldSteps_marker hp hshape htag,
    flatMap_fieldSteps hp.columns_plain hothers]
  rfl

theorem isCandidate_of_writes (hp : outline.Plain) (hw : struct.Writes outline) :
    struct.isCandidate {} = true := by
  obtain ⟨marker, others, hfields, -, hshape, htag, -⟩ := hw
  obtain ⟨hreadable, hoptions⟩ := options_marker hp htag
  rw [FieldDecl.IsReadable, FieldDecl.readTag, htag] at hreadable
  obtain ⟨value, hvalue, hstrip⟩ := Fallible.map_eq_ok.1 hreadable
  have hne : value.isEmpty = false := by
    rw [List.isEmpty_eq_false_iff]
    intro hnil
    rw [← hstrip, hnil] at hoptions
    cases hoptions
  rw [StructDecl.isCandidate_iff, StructDecl.judge]
  simp only [hfields, hshape, htag, if_true, hvalue, Except.map, hne]
  rfl

end Fields

/-! ### The main statement -/

theorem valid_of_plain {outline : Outline} (hp : outline.Plain) {rename : Text → Text}
    (hr : ∀ c ∈ outline.columns, rename c.field = c.name) (struct : StructDecl) (name : Text) :
    (struct.assembled name outline.columns
      (some (Text.toLower outline.name, outline.key.rename rename))).Valid := by
  have hrename :
      ∀ k ∈ outline.key.columns, ∃ c ∈ outline.columns, c.field = k ∧ rename k = c.name := by
    intro k hk
    obtain ⟨c, hc, rfl⟩ := List.mem_map.1 (hp.key_fields k hk)
    exact ⟨c, hc, rfl, hr c hc⟩
  refine ⟨?_, (tables_inverse_iff hp.columnNames_nodup).2 hp.fields_nodup⟩
  refine {
    name_valid := hp.name_plain.toLower.isValid
    columns_ne_nil := hp.columns_ne_nil
    columnNames_valid := fun c hc => (hp.columns_plain c hc).name_plain.isValid
    columnNames_nodup := hp.columnNames_nodup
    types_mapped := fun c hc => (hp.columns_plain c hc).type_mapped
    key_valid := ⟨_, rfl, ?_, ?_, ?_⟩ }
  · exact fun hnil => hp.partition_ne_nil (List.map_eq_nil_iff.1 hnil)
  · -- two fields of the key with one column name would be fields of one column
    rw [PrimaryKey.columns_rename]
    refine List.Nodup.map_on (fun k hk l hl he => ?_) hp.key_nodup
    obtain ⟨c, hc, rfl, hck⟩ := hrename k hk
    obtain ⟨d, hd, rfl, hdl⟩ := hrename l hl
    have hnames : c.name = d.name := by rw [← hck, ← hdl, he]
    rw [List.inj_on_of_nodup_map hp.columnNames_nodup hc hd hnames]
  · rw [PrimaryKey.columns_rename]
    refine List.forall_mem_map.2 fun k hk => ?_
    obtain ⟨c, hc, -, hck⟩ := hrename k hk
    rw [hck]
    exact List.mem_map_of_mem hc

/-- A struct that is written for an outline is a candidate and declares the entity of the outline,
with its columns in the place of its fields in the key. -/
theorem toEntity_of_writes {struct : StructDecl} {outline : Outline} (rename : Text → Text)
    (hs : Name.IsPlain struct.name) (hp : outline.Plain) (hw : struct.Writes outline)
    (hr : ∀ c ∈ outline.columns, rename c.field = c.name) :
    struct.isCandidate {} = true ∧ ∃ entity, struct.toEntity {} = .ok entity ∧
      entity.definition = {
        name := Text.toLower outline.name
        key := some (outline.key.rename rename)
        columns := outline.columns } := by
  have hsteps := steps_of_writes hp hw
  have hcolumns : struct.readColumns {} = outline.columns := by
    rw [StructDecl.readColumns, hsteps, List.filterMap_cons, List.filterMap_map]
    exact List.filterMap_some
  have hmarker : struct.readMarker? {} = some (Text.toLower outline.name, outline.key) := by
    have hnone : outline.columns.filterMap (AssemblyStep.marker? ∘ AssemblyStep.column) = [] :=
      List.filterMap_eq_nil_iff.2 fun c _ => rfl
    rw [StructDecl.readMarker?, hsteps, List.filterMap_cons, List.filterMap_map, hnone]
    rfl
  have hrefused : ∀ step ∈ struct.steps {}, step.isRefused = false := by
    rw [hsteps, List.forall_mem_cons, List.forall_mem_map]
    exact ⟨rfl, fun c _ => rfl⟩
  -- every reference of the key is a field, so the column of a reference is that of the field
  have hkey : outline.key.rename (Column.ofReference outline.columns) =
      outline.key.rename rename := by
    refine PrimaryKey.rename_congr fun k hk => ?_
    obtain ⟨c, hc, rfl⟩ := List.mem_map.1 (hp.key_fields k hk)
    rw [Column.ofReference_field hp.fields_nodup hc, hr c hc]
  have hresolved : (struct.assembled (Text.toLower struct.name) (struct.readColumns {})
      (struct.readMarker? {})).resolveKeys = struct.assembled (Text.toLower struct.name)
        outline.columns (some (Text.toLower outline.name, outline.key.rename rename)) := by
    rw [hcolumns, hmarker, StructDecl.resolveKeys_assembled hp.fields_nodup
      (fun k hk => (hp.key_plain k hk).isValid), hkey]
  refine ⟨isCandidate_of_writes hp hw, _, StructDecl.toEntity_eq_ok_iff.2 ⟨_, hs.normalize_eq,
    hrefused, hresolved.symm, valid_of_plain hp hr struct _⟩, rfl⟩

/-- An outline whose fields are named like directions and whose key uses all of them. -/
def ledger : Outline where
  name := "Ledger"
  columns := [⟨"account", .uuid, "ASC"⟩, ⟨"day", .timestamp, "DESC"⟩, ⟨"entry", .int64, "Entry"⟩,
    ⟨"body", .blob, "_body"⟩]
  key := { partition := ["ASC", "Entry"], clustering := [⟨"DESC", true⟩] }

/-- A struct that is written for `ledger`. -/
def ledgerStruct : StructDecl where
  name := "Row"
  fields := [
    { names := [], shape := .identifier (some "Entity"), typeText := "Entity",
      tag := some "dosa:\"name=Ledger primaryKey=((ASC, Entry), DESC DESC)\"" },
    { names := ["ASC"], shape := .qualified (some "dosa") (some "UUID"), typeText := "dosa.UUID",
      tag := some "dosa:\"name=account\"" },
    { names := ["DESC"], shape := .qualified (some "time") (some "Time"), typeText := "time.Time",
      tag := some "dosa:\"name=day\"" },
    { names := ["Entry"], shape := .identifier (some "int64"), typeText := "int64",
      tag := some "dosa:\"name=entry\"" },
    { names := ["_body"], shape := .array (some "byte"), typeText := "[]byte",
      tag := some "dosa:\"name=body\"" }]

theorem plain_ledger : ledger.Plain where
  name_plain := by decide
  columns_ne_nil := by decide
  columns_plain := by decide
  columnNames_nodup := by decide
  fields_nodup := by decide
  partition_ne_nil := by decide
  key_nodup := by decide
  key_fields := by decide

theorem writes_ledger : ledgerStruct.Writes ledger := by
  refine ⟨_, _, rfl, rfl, rfl, by decide, ?_⟩
  refine .cons ⟨rfl, .packageUuid, by decide⟩ (.cons ⟨rfl, .time, by decide⟩ ?_)
  exact .cons ⟨rfl, .int64, by decide⟩ (.cons ⟨rfl, .bytes, by decide⟩ .nil)

theorem toEntity_ledger : Name.IsPlain ledgerStruct.name ∧ ledger.Plain ∧
    ledgerStruct.Writes ledger ∧ ledgerStruct.isCandidate {} = true ∧
    ∃ entity, ledgerStruct.toEntity {} = .ok entity ∧
      entity.definition = {
        name := "ledger"
        key := some { partition := ["account", "entry"], clustering := [⟨"day", true⟩] }
        columns := ledger.columns } := by
  have hs : Name.IsPlain ledgerStruct.name := by decide
  obtain ⟨hcandidate, entity, hentity, hdefinition⟩ := toEntity_of_writes
    (Column.ofReference ledger.columns) hs plain_ledger writes_ledger (by decide)
  refine ⟨hs, plain_ledger, writes_ledger, hcandidate, entity, hentity, ?_⟩
  rw [hdefinition]
  decide

end StructSchema
