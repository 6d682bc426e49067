import StructSchema.Run
import StructSchema.Proofs.JsonReading
import StructSchema.Proofs.Utf8

/-!
# What artifacts tell

The schemas are read back from their text as they were. From the report, which is sorted and in
ASCII, each of its entries can be read back.
-/

namespace StructSchema

/-- Data without floating-point numbers: its mappings have different strings as keys. -/
inductive Value.IsData : Value → Prop
  | null : IsData .null
  | bool (b : Bool) : IsData (.bool b)
  | int (n : Int) : IsData (.int n)
  | string (t : Text) : IsData (.string t)
  | list {items : List Value} (h : ∀ item ∈ items, IsData item) : IsData (.list items)
  | fields {fields : List (Text × Value)} (distinct : (fields.map (·.1)).Nodup)
    (h : ∀ field ∈ fields, IsData field.2) : IsData (.ofFields fields)

namespace Json

/-! ### Entries under different keys -/

theorem putEntry_of_forall {key : Text} (value : Value) {entries : List (Value × Value)}
    (h : ∀ entry ∈ entries, entry.1 ≠ .string key) :
    Value.putEntry key value entries = entries ++ [(.string key, value)] := by
  induction entries with
  | nil => rfl
  | cons entry rest ih =>
    obtain ⟨hentry, hrest⟩ := List.forall_mem_cons.1 h
    rw [Value.putEntry, if_neg (fun hk => hentry (Value.isKey_iff.1 hk)), ih hrest,
      List.cons_append]

theorem putAll_of_forall {fields : List (Text × Value)} (hdistinct : (fields.map (·.1)).Nodup)
    {before : List (Value × Value)}
    (h : ∀ field ∈ fields, ∀ entry ∈ before, entry.1 ≠ .string field.1) :
    putAll fields before = before ++ fields.map fun field => (.string field.1, field.2) := by
  induction fields generalizing before with
  | nil => exact (List.append_nil _).symm
  | cons field rest ih =>
    obtain ⟨hfield, hrest⟩ := List.forall_mem_cons.1 h
    rw [List.map_cons, List.nodup_cons] at hdistinct
    have hput := putEntry_of_forall field.2 hfield
    have hdone : ∀ other ∈ rest, ∀ entry ∈ before ++ [(.string field.1, field.2)],
        entry.1 ≠ .string other.1 := by
      intro other hother
      refine List.forall_mem_append.2 ⟨hrest other hother, List.forall_mem_singleton.2 ?_⟩
      intro heq
      rw [Value.string.injEq] at heq
      exact hdistinct.1 (heq ▸ List.mem_map_of_mem hother)
    have hall := ih hdistinct.2 hdone
    rw [putAll, List.foldl_cons, hput]
    rw [putAll] at hall
    rw [hall, List.append_assoc, List.map_cons, List.singleton_append]

theorem putAll_of_nodup {fields : List (Text × Value)} (h : (fields.map (·.1)).Nodup) :
    putAll fields [] = fields.map fun field => (.string field.1, field.2) := by
  have hnone : ∀ field ∈ fields, ∀ entry ∈ ([] : List (Value × Value)), entry.1 ≠ .string field.1 :=
    fun _ _ => List.forall_mem_nil _
  exact putAll_of_forall h hnone

theorem lookup?_of_mem {fields : List (Text × Value)} (hdistinct : (fields.map (·.1)).Nodup)
    {field : Text × Value} (h : field ∈ fields) :
    Value.lookup? field.1 (fields.map fun field => (.string field.1, field.2)) = some field.2 := by
  induction fields with
  | nil => cases h
  | cons first rest ih =>
    rw [List.map_cons, List.nodup_cons] at hdistinct
    rw [List.map_cons, Value.lookup?_cons]
    rcases List.mem_cons.1 h with rfl | hrest
    · rw [if_pos (Value.isKey_iff.2 rfl)]
    · rw [if_neg, ih hdistinct.2 hrest]
      intro hkey
      have heq := Value.isKey_iff.1 hkey
      rw [Value.string.injEq] at heq
      exact hdistinct.1 (heq ▸ List.mem_map_of_mem hrest)

/-! ### Data -/

theorem writePoint_lone (half : Fin 2048) : writePoint false (.lone half) = [.lone half] := by
  have hval : ¬(CodePoint.lone half).val < 0x20 := by
    show ¬0xD800 + half.val < 0x20
    omega
  rw [writePoint]
  iterate 7
    split
    · rename_i heq
      cases heq
  rw [if_neg, if_neg]
  · exact fun h => Bool.false_ne_true h.1
  · exact fun h => h.elim hval fun hascii => Bool.false_ne_true hascii.1

theorem isClean_of_writeString {t : Text} (h : (writeString false t).IsClean) : t.IsClean := by
  rw [writeString, Text.isClean_append, Text.isClean_append] at h
  intro c hc
  cases c with
  | char c => rfl
  | lone half =>
    have hmem : CodePoint.lone half ∈ t.flatMap (writePoint false) := by
      refine List.mem_flatMap.2 ⟨_, hc, ?_⟩
      rw [writePoint_lone]
      exact List.mem_singleton_self _
    exact h.1.2 _ hmem

theorem isClean_of_mem_join {sep : Text} {lines : List Text} (h : (Text.join sep lines).IsClean)
    {line : Text} (hline : line ∈ lines) : line.IsClean := by
  cases lines with
  | nil => cases hline
  | cons first rest =>
    rw [Text.join_cons, Text.isClean_append] at h
    rcases List.mem_cons.1 hline with rfl | hrest
    · exact h.1
    · intro c hc
      exact h.2 c (List.mem_flatMap.2 ⟨line, hrest, List.mem_append_right _ hc⟩)

theorem isClean_of_mem_bracketed {opening closing : Text} {level : Nat} {lines : List Text}
    (h : (bracketed opening closing level lines).IsClean) {line : Text} (hline : line ∈ lines) :
    line.IsClean := by
  rw [bracketed, if_neg] at h
  · simp only [Text.isClean_append] at h
    exact isClean_of_mem_join h.1.1.2 hline
  · rw [List.isEmpty_iff]
    exact List.ne_nil_of_mem hline

theorem fieldsOf_fields (fields : List (Text × Value)) :
    fieldsOf ⟨false, false⟩ (fields.map fun field => (.string field.1, field.2)) = fields := by
  rw [fieldsOf, List.map_map]
  exact List.map_id _

/-- Data are read back as they were, if their text is clean and not sorted. -/
theorem reread_of_isData {v : Value} (h : v.IsData) :
    ∀ level, (write ⟨false, false⟩ level v).IsClean → reread ⟨false, false⟩ v = v := by
  induction h with
  | null => exact fun _ _ => rfl
  | bool b => exact fun _ _ => rfl
  | int n => exact fun _ _ => rfl
  | string t =>
    intro level hclean
    rw [write] at hclean
    rw [reread, rereadText_of_isClean false (isClean_of_writeString hclean)]
  | @list items _ ih =>
    intro level hclean
    rw [write, writeItems_eq] at hclean
    have hitems : ∀ item ∈ items, reread ⟨false, false⟩ item = item := fun item hitem =>
      ih item hitem (level + 1) (isClean_of_mem_bracketed hclean (List.mem_map_of_mem hitem))
    rw [reread, rereadItems_eq, List.map_congr_left hitems, List.map_id']
  | @fields fields hdistinct _ ih =>
    intro level hclean
    rw [Value.ofFields] at hclean ⊢
    rw [write, arrange_writeEntries, fieldsOf_fields, List.map_map] at hclean
    have hfields : ∀ field ∈ fields,
        (rereadText false field.1, reread ⟨false, false⟩ field.2) = field := by
      intro field hfield
      have hline := isClean_of_mem_bracketed hclean (List.mem_map_of_mem hfield)
      rw [Function.comp_apply, Text.isClean_append, Text.isClean_append] at hline
      rw [rereadText_of_isClean false (isClean_of_writeString hline.1.1),
        ih field hfield (level + 1) hline.2]
    rw [reread, arrange_rereadEntries, fieldsOf_fields, List.map_map]
    have hall : fields.map ((fun field => (rereadText false field.1, field.2)) ∘
        fun field => (field.1, reread ⟨false, false⟩ field.2)) = fields :=
      (List.map_congr_left hfields).trans (List.map_id' _)
    rw [← putAll_of_nodup hdistinct]
    exact congrArg (fun fields => Value.mapping (putAll fields [])) hall

/-! ### Entries of what is read -/

/-- The entries of a mapping whose keys stay different are all found in what is read back. -/
theorem lookup?_reread {style : Style} {entries : List (Value × Value)}
    (hdistinct : (entries.map fun entry => rereadText style.ascii (keyText entry.1)).Nodup) :
    ∃ found, reread style (.mapping entries) = .mapping found ∧ ∀ entry ∈ entries,
      Value.lookup? (rereadText style.ascii (keyText entry.1)) found =
        some (reread style entry.2) := by
  have hperm :
      (fieldsOf style entries).Perm (entries.map fun entry => (keyText entry.1, entry.2)) :=
    perm_arrange style _
  let fields := (fieldsOf style entries).map fun field =>
    (rereadText style.ascii field.1, reread style field.2)
  have hkeys : (fields.map (·.1)).Nodup := by
    rw [List.map_map]
    refine (hperm.map _).nodup_iff.2 ?_
    rw [List.map_map]
    exact hdistinct
  refine ⟨putAll fields [], by rw [reread, arrange_rereadEntries, List.map_map]; rfl, ?_⟩
  intro entry hentry
  rw [putAll_of_nodup hkeys]
  have hfield : (keyText entry.1, entry.2) ∈ fieldsOf style entries :=
    hperm.mem_iff.2 (List.mem_map.2 ⟨entry, hentry, rfl⟩)
  exact lookup?_of_mem hkeys (List.mem_map.2 ⟨_, hfield, rfl⟩)

end Json

/-! ### Schemas -/

namespace Value

theorem isData_list_map {α : Type} {l : List α} {f : α → Value} (h : ∀ a ∈ l, (f a).IsData) :
    (Value.list (l.map f)).IsData := by
  refine .list ?_
  rw [List.forall_mem_map]
  exact h

theorem isData_ofText? (t : Option Text) : (ofText? t).IsData := by
  cases t with
  | none => exact .null
  | some t => exact .string t

theorem isData_ofLine? (line : Option Int) : (ofLine? line).IsData := by
  cases line with
  | none => exact .null
  | some n => exact .int n

theorem isData_ofTable (table : NameTable) : (ofTable table).IsData := by
  refine .fields ?_ ?_
  · rw [List.map_map]
    exact table.distinct
  · rw [List.forall_mem_map]
    exact fun entry _ => .string entry.2

end Value

theorem ClusteringKey.isData_payload (key : ClusteringKey) : key.payload.IsData := by
  refine .fields (show (["name", "descending"] : List Text).Nodup by decide) ?_
  simp only [List.forall_mem_cons]
  exact ⟨.string _, .bool _, List.forall_mem_nil _⟩

theorem PrimaryKey.isData_payload (key : PrimaryKey) : key.payload.IsData := by
  refine .fields (show (["partition_keys", "clustering_keys"] : List Text).Nodup by decide) ?_
  simp only [List.forall_mem_cons]
  exact ⟨Value.isData_list_map fun _ _ => .string _,
    Value.isData_list_map fun c _ => c.isData_payload, List.forall_mem_nil _⟩

theorem Column.isData_payload (column : Column) : column.payload.IsData := by
  refine .fields (show (["name", "type", "field_name"] : List Text).Nodup by decide) ?_
  simp only [List.forall_mem_cons]
  exact ⟨.string _, .string _, .string _, List.forall_mem_nil _⟩

theorem Entity.isData_payload (entity : Entity) : entity.payload.IsData := by
  refine .fields (show (["name", "key", "columns", "struct_name", "col_to_field", "field_to_col",
    "file_path", "line"] : List Text).Nodup by decide) ?_
  have hkey : (Value.ofOption (entity.definition.key.map PrimaryKey.payload)).IsData := by
    cases entity.definition.key with
    | none => exact .null
    | some key => exact key.isData_payload
  simp only [List.forall_mem_cons]
  exact ⟨.string _, hkey, Value.isData_list_map fun c _ => c.isData_payload, .string _,
    Value.isData_ofTable _, Value.isData_ofTable _, Value.isData_ofText? _, Value.isData_ofLine? _,
    List.forall_mem_nil _⟩

theorem Rejection.isData_payload (r : Rejection) : r.payload.IsData := by
  refine .fields (show (["struct_name", "field_name", "file_path", "line", "message"] :
    List Text).Nodup by decide) ?_
  simp only [List.forall_mem_cons]
  exact ⟨.string _, Value.isData_ofText? _, Value.isData_ofText? _, Value.isData_ofLine? _,
    .string _, List.forall_mem_nil _⟩

theorem ScanStats.isData_payload (stats : ScanStats) : stats.payload.IsData := by
  refine .fields (show (["files_parsed", "structs_seen", "candidates", "entities_found",
    "warnings"] : List Text).Nodup by decide) ?_
  simp only [List.forall_mem_cons]
  exact ⟨.int _, .int _, .int _, .int _, .int _, List.forall_mem_nil _⟩

theorem ScanResult.isData_payload (result : ScanResult) : result.payload.IsData := by
  refine .fields (show (["entities", "warnings", "stats"] : List Text).Nodup by decide) ?_
  simp only [List.forall_mem_cons]
  exact ⟨Value.isData_list_map fun e _ => e.isData_payload,
    Value.isData_list_map fun r _ => r.isData_payload, result.stats.isData_payload,
    List.forall_mem_nil _⟩

namespace Artifact

theorem isClean_of_eq_map_char {t : Text} {cs : List Char} (h : t = cs.map .char) : t.IsClean := by
  rw [h]
  exact Text.isClean_map_char cs

/-- The schemas are read back from their text, if there is no number in them that is too long. -/
theorem parse_schemaText (result : ScanResult) (hwritable : result.payload.isWritable = true)
    {cs : List Char} (h : schemaText result.payload = cs.map .char) :
    Json.parse cs = .ok result.payload := by
  have hchars : cs = (Json.render ⟨false, false⟩ result.payload).chars ++ ['\n'] := by
    have hcs := congrArg Text.chars h
    rw [schemaText, Text.chars_append, Text.chars_map_char] at hcs
    exact hcs.symm
  have hclean := isClean_of_eq_map_char h
  rw [schemaText, Text.isClean_append] at hclean
  have hparse := @Json.parse_render ⟨false, false⟩ _ hwritable ['\n'] rfl (Json.stops_newLine 0 [])
  rw [hchars, hparse, Json.reread_of_isData result.isData_payload 0 hclean.1]

/-- A report can be written, whatever it tells. -/
theorem exists_encodeStrict?_reportText (report : List (Value × Value)) (run time : Text) :
    ∃ bytes, Utf8.encodeStrict? (reportText report run time) = some bytes := by
  obtain ⟨cs, hcs⟩ := Text.exists_chars
    (Json.isClean_render_ascii true (.mapping (reportEntries report run time)))
  exact ⟨_, (congrArg Utf8.encodeStrict? hcs).trans (Utf8.encodeStrict?_map_char cs)⟩

/-- Each entry of a report is found in what is read from its text. -/
theorem parse_reportText {report : List (Value × Value)} {run time : Text}
    (hdistinct : ((reportEntries report run time).map fun entry =>
      Json.rereadText true (Json.keyText entry.1)).Nodup)
    (hwritable : Value.entriesWritable (reportEntries report run time) = true) {cs : List Char}
    (h : reportText report run time = cs.map .char) :
    ∃ found, Json.parse cs = .ok (.mapping found) ∧ ∀ entry ∈ reportEntries report run time,
      Value.lookup? (Json.rereadText true (Json.keyText entry.1)) found =
        some (Json.reread ⟨true, true⟩ entry.2) := by
  have hchars : cs =
      (Json.render ⟨true, true⟩ (.mapping (reportEntries report run time))).chars ++ [] := by
    have hcs := congrArg Text.chars h
    rw [reportText, Text.chars_map_char] at hcs
    rw [List.append_nil, hcs]
  have hparse := @Json.parse_render ⟨true, true⟩ (.mapping (reportEntries report run time))
    (by rw [Value.isWritable]; exact hwritable) [] rfl Json.stops_nil
  obtain ⟨found, hfound, hlookup⟩ := @Json.lookup?_reread ⟨true, true⟩ _ hdistinct
  rw [hfound] at hparse
  rw [hchars]
  exact ⟨found, hparse, hlookup⟩

end Artifact

end StructSchema
