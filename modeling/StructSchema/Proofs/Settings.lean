import StructSchema.Proofs.Identifier
import StructSchema.Proofs.Layers
import StructSchema.Proofs.Mapping
import StructSchema.Proofs.Trimmed

/-!
# Settings in a mapping

What a mapping of any values gives to the settings of a scan. Main statements: the configuration is
in normal form, and the mapping of its settings gives it again; null under the key of a text counts
as no key for a setting that may be left out, but for the others it counts as the text `None`.
-/

namespace StructSchema

open Fallible

theorem Setting.key_injective (s s' : Setting) : s.key = s'.key → s = s' := by
  cases s <;> cases s' <;> decide

namespace ScanConfig

variable {entries other : List (Value × Value)} {key : Text}

/-! ### Checks of a mapping -/

theorem unknownKeys_cons (k v : Value) :
    unknownKeys ((k, v) :: entries) =
      if knownKeys.any (k.isKey ·) then unknownKeys entries else k :: unknownKeys entries := by
  rw [unknownKeys, List.map_cons, List.filter_cons, unknownKeys]
  cases knownKeys.any (k.isKey ·) <;> rfl

theorem any_knownKeys {k : Value} (hkey : key ∈ knownKeys) (hk : k.isKey key = true) :
    knownKeys.any (k.isKey ·) = true :=
  List.any_eq_true.2 ⟨key, hkey, hk⟩

theorem unknownKeys_putEntry (hkey : key ∈ knownKeys) (value : Value) :
    unknownKeys (Value.putEntry key value entries) = unknownKeys entries := by
  induction entries with
  | nil =>
    have hknown := any_knownKeys hkey (Value.isKey_iff.2 rfl)
    rw [Value.putEntry, unknownKeys_cons, if_pos hknown]
  | cons entry rest ih =>
    obtain ⟨k, v⟩ := entry
    rw [Value.putEntry]
    split
    · rw [unknownKeys_cons, unknownKeys_cons]
    · rw [unknownKeys_cons, unknownKeys_cons, ih]

theorem unknownKeys_eraseEntry (hkey : key ∈ knownKeys) :
    unknownKeys (Value.eraseEntry key entries) = unknownKeys entries := by
  induction entries with
  | nil => rfl
  | cons entry rest ih =>
    obtain ⟨k, v⟩ := entry
    rw [Value.eraseEntry] at ih ⊢
    by_cases hk : k.isKey key = true
    · rw [List.filter_cons_of_neg (by simp [hk]), ih, unknownKeys_cons,
        if_pos (any_knownKeys hkey hk)]
    · rw [List.filter_cons_of_pos (by simp [hk]), unknownKeys_cons, unknownKeys_cons, ih]

theorem checkKeys_congr (h : unknownKeys entries = unknownKeys other) :
    checkKeys entries = checkKeys other := by
  rw [checkKeys, checkKeys, h]

theorem checkFlag_congr (h : Value.lookup? key entries = Value.lookup? key other) :
    checkFlag entries key = checkFlag other key := by
  rw [checkFlag, checkFlag, h]

theorem checkText_congr (h : Value.lookup? key entries = Value.lookup? key other) :
    checkText entries key = checkText other key := by
  rw [checkText, checkText, h]

/-- The text of null is a word, so that no setting refuses it. -/
theorem checkText_of_null (h : Value.lookup? key entries = some .null) :
    checkText entries key = .ok () := by
  have hword : Text.isWord (strippedText .null) = true := by decide
  rw [checkText_eq_ok, h]
  intro v hv
  cases hv
  exact ⟨rfl, fun _ => hword⟩

/-! ### Normal configurations -/

/-- Texts without blanks around them, none of them empty but the pattern, and identifiers. -/
structure IsNormal (config : ScanConfig) : Prop where
  sourceDir_ne_nil : config.sourceDir ≠ []
  sourceDir_trimmed : Text.IsTrimmed config.sourceDir
  exclude_trimmed : Text.IsTrimmed config.exclude
  entityType_identifier : Text.IsIdentifier config.markers.entityType
  package_identifier : Text.IsIdentifier config.markers.package
  tagKey_identifier : Text.IsIdentifier config.markers.tagKey
  outputFile_given : ∀ t ∈ config.outputFile, t ≠ [] ∧ Text.IsTrimmed t
  reportDir_given : ∀ t ∈ config.reportDir, t ≠ [] ∧ Text.IsTrimmed t

theorem trimmed_directory : directory entries ≠ [] ∧ Text.IsTrimmed (directory entries) := by
  have hdefault : Text.ofString "." ≠ [] ∧ Text.IsTrimmed (Text.ofString ".") := by decide
  unfold directory
  split
  · exact hdefault
  split
  · exact hdefault
  · rename_i hempty
    exact ⟨fun hnil => hempty (List.isEmpty_iff.2 hnil), Text.isTrimmed_strip _⟩

theorem trimmed_pattern : Text.IsTrimmed (pattern entries) := by
  have hnone : Text.IsTrimmed [] := by decide
  unfold pattern
  split
  · exact hnone
  split
  · exact Text.isTrimmed_strip _
  · exact hnone

theorem trimmed_optionalText : ∀ t ∈ optionalText entries key, t ≠ [] ∧ Text.IsTrimmed t := by
  intro t ht
  unfold optionalText at ht
  split at ht
  · cases ht
  · cases ht
  split at ht
  · cases ht
  · rename_i hempty
    cases ht
    exact ⟨fun hnil => hempty (List.isEmpty_iff.2 hnil), Text.isTrimmed_strip _⟩

theorem identifier_word {default : Text} (hkey : key ∈ wordKeys)
    (hcheck : checkText entries key = .ok ()) (hdefault : default.IsIdentifier) :
    Text.IsIdentifier (word entries key default) := by
  unfold word
  split
  · rename_i v hv
    have hword := (checkText_eq_ok.1 hcheck v hv).2 hkey
    have htrimmed := Text.isTrimmed_strip v.text
    exact Text.isPlainWord_iff.1 (Text.isPlainWord_of_isWord hword htrimmed.2)
  · exact hdefault

theorem isNormal_of_ofEntries {config : ScanConfig} (h : ofEntries entries = .ok config) :
    config.IsNormal := by
  obtain ⟨-, -, htexts, rfl⟩ := ofEntries_eq_ok.1 h
  exact {
    sourceDir_ne_nil := trimmed_directory.1
    sourceDir_trimmed := trimmed_directory.2
    exclude_trimmed := trimmed_pattern
    entityType_identifier := identifier_word (by decide) (htexts _ (by decide)) (by decide)
    package_identifier := identifier_word (by decide) (htexts _ (by decide)) (by decide)
    tagKey_identifier := identifier_word (by decide) (htexts _ (by decide)) (by decide)
    outputFile_given := trimmed_optionalText
    reportDir_given := trimmed_optionalText }

/-! ### Settings read again -/

theorem lookup?_entries (config : ScanConfig) (s : Setting) :
    Value.lookup? s.key config.entries = some (config.get s) := by
  cases s with
  | _ => rfl

theorem strip_of_isIdentifier {t : Text} (h : t.IsIdentifier) : Text.strip t = t := by
  refine Text.strip_of_isTrimmed (Text.isTrimmed_of_not_blank fun c hc => ?_)
  exact CodePoint.isBlank_of_isWordPart (CodePoint.isWordPart_iff.2 (h.parts c hc))

/-- A setting of a normal configuration stays when it is read as a value of a file. -/
theorem IsNormal.ofFile_get {config : ScanConfig} (h : config.IsNormal) (s : Setting) :
    s.ofFile (config.get s) = config.get s := by
  have hoptional : ∀ t : Option Text, (∀ given ∈ t, given ≠ [] ∧ Text.IsTrimmed given) →
      Setting.ofFile .outputFile (textSetting t) = textSetting t := by
    intro t ht
    cases t with
    | none => rfl
    | some given =>
      obtain ⟨hne, htrimmed⟩ := ht given rfl
      have hstrip : Text.strip (Value.string given).text = given := Text.strip_of_isTrimmed htrimmed
      simp only [textSetting, Setting.ofFile, hstrip, if_neg hne]
  cases s with
  | sourceDir =>
    have hstrip := Text.strip_of_isTrimmed h.sourceDir_trimmed
    simp only [get, Setting.ofFile, Value.text, hstrip, if_neg h.sourceDir_ne_nil]
  | exclude =>
    have hstrip := Text.strip_of_isTrimmed h.exclude_trimmed
    simp only [get, Setting.ofFile, Value.text, Value.isGiven, hstrip]
    cases config.exclude <;> rfl
  | recursive => rfl
  | entityType => exact congrArg Value.string (strip_of_isIdentifier h.entityType_identifier)
  | package => exact congrArg Value.string (strip_of_isIdentifier h.package_identifier)
  | tagKey => exact congrArg Value.string (strip_of_isIdentifier h.tagKey_identifier)
  | outputFile => exact hoptional config.outputFile h.outputFile_given
  | reportDir =>
    rw [Setting.ofFile_reportDir]
    exact hoptional config.reportDir h.reportDir_given
  | failOnWarnings => rfl

theorem checkFlag_entries (config : ScanConfig) :
    ∀ key ∈ flagKeys, checkFlag config.entries key = .ok () := by
  have hflag : ∀ (s : Setting) (b : Bool), config.get s = .bool b →
      checkFlag config.entries s.key = .ok () := by
    intro s b hb
    rw [checkFlag, lookup?_entries, hb]
  rw [flagKeys, List.forall_mem_cons, List.forall_mem_singleton]
  exact ⟨hflag .recursive _ rfl, hflag .failOnWarnings _ rfl⟩

theorem IsNormal.checkText_entries {config : ScanConfig} (h : config.IsNormal) :
    ∀ key ∈ textKeys, checkText config.entries key = .ok () := by
  have htext : ∀ (s : Setting) (t : Text), config.get s = .string t →
      (s.key ∈ wordKeys → Text.IsIdentifier t) → checkText config.entries s.key = .ok () := by
    intro s t ht hword
    rw [checkText_eq_ok, lookup?_entries, ht]
    intro v hv
    cases hv
    refine ⟨rfl, fun hkey => ?_⟩
    have hstrip : strippedText (.string t) = t := strip_of_isIdentifier (hword hkey)
    rw [hstrip]
    exact Text.isWord_iff.2 (.inl (Text.isPlainWord_iff.2 (hword hkey)))
  have hoptional : ∀ (s : Setting) (t : Option Text), config.get s = textSetting t →
      s.key ∉ wordKeys → checkText config.entries s.key = .ok () := by
    intro s t ht hkey
    cases t with
    | none => exact checkText_of_null ((lookup?_entries config s).trans (congrArg some ht))
    | some t => exact htext s t ht fun hword => absurd hword hkey
  simp only [textKeys, List.forall_mem_cons]
  exact ⟨htext .sourceDir _ rfl fun hkey => absurd hkey (by decide),
    htext .exclude _ rfl fun hkey => absurd hkey (by decide),
    htext .entityType _ rfl fun _ => h.entityType_identifier,
    htext .package _ rfl fun _ => h.package_identifier,
    htext .tagKey _ rfl fun _ => h.tagKey_identifier,
    hoptional .outputFile _ rfl (by decide), hoptional .reportDir _ rfl (by decide), nofun⟩

theorem IsNormal.ofEntries_entries {config : ScanConfig} (h : config.IsNormal) :
    ofEntries config.entries = .ok config := by
  have hkeys : unknownKeys config.entries = unknownKeys ({} : ScanConfig).entries := rfl
  have hknown : unknownKeys ({} : ScanConfig).entries = [] := by decide
  refine ofEntries_eq_ok.2
    ⟨hkeys.trans hknown, checkFlag_entries config, h.checkText_entries, get_ext fun s => ?_⟩
  rw [get_settings (checkFlag_entries config), lookup?_entries]
  exact h.ofFile_get s

/-- A configuration that a mapping gives is normal and stays when it is read again, and the normal
configurations are those that stay. -/
theorem ofEntries_normal :
    (∀ (entries : List (Value × Value)) (config : ScanConfig), ofEntries entries = .ok config →
      config.IsNormal ∧ ofEntries config.entries = .ok config) ∧
    ∀ config : ScanConfig, ofEntries config.entries = .ok config ↔ config.IsNormal := by
  refine ⟨fun entries config h => ?_, fun config => ⟨isNormal_of_ofEntries, ?_⟩⟩
  · have hnormal := isNormal_of_ofEntries h
    exact ⟨hnormal, hnormal.ofEntries_entries⟩
  · exact IsNormal.ofEntries_entries

/-- A mapping with values of many kinds. -/
def motley : List (Value × Value) :=
  [(.string "report_dir", .string "\u2003"), (.string "tag_key", .string " db\n"),
    (.string "exclude", .list [.int 7, .string "a"]), (.string "entity_type_name", .null),
    (.string "output_file", .bool false), (.string "source_dir", .string "\ta b ")]

theorem ofEntries_motley :
    let config : ScanConfig :=
      { sourceDir := "a b"
        exclude := "[7, 'a']"
        markers := { entityType := "None", tagKey := "db" }
        outputFile := some "False" }
    ofEntries motley = .ok config ∧ config.IsNormal ∧ ofEntries config.entries = .ok config := by
  intro config
  have hconfig : (ofEntries motley).toOption = some config := by decide +kernel
  rw [toOption_eq_some] at hconfig
  exact ⟨hconfig, ofEntries_normal.1 motley config hconfig⟩

/-! ### Null -/

/-- The configuration in which a setting has the text of null, if it has to have one. -/
def withNull (config : ScanConfig) : Setting → ScanConfig
  | .sourceDir => { config with sourceDir := "None" }
  | .entityType => { config with markers := { config.markers with entityType := "None" } }
  | .package => { config with markers := { config.markers with package := "None" } }
  | .tagKey => { config with markers := { config.markers with tagKey := "None" } }
  | _ => config

theorem get_withNull_of_ne {s s' : Setting} (h : s' ≠ s) (config : ScanConfig) :
    (config.withNull s).get s' = config.get s' := by
  cases s with
  | sourceDir => cases s' with
    | sourceDir => exact absurd rfl h
    | _ => rfl
  | entityType => cases s' with
    | entityType => exact absurd rfl h
    | _ => rfl
  | package => cases s' with
    | package => exact absurd rfl h
    | _ => rfl
  | tagKey => cases s' with
    | tagKey => exact absurd rfl h
    | _ => rfl
  | _ => rfl

theorem get_settings_congr {s : Setting}
    (h : Value.lookup? s.key entries = Value.lookup? s.key other) :
    (settings entries).get s = (settings other).get s := by
  cases s with
  | _ =>
    rw [Setting.key] at h
    simp only [get, settings, directory, pattern, flag, word, optionalText, h]

theorem key_mem_knownKeys (s : Setting) : s.key ∈ knownKeys := by
  cases s <;> decide

theorem lookup?_null (entries : List (Value × Value)) (s : Setting) :
    Value.lookup? s.key (Value.putEntry s.key .null entries) = some .null ∧
      Value.lookup? s.key (Value.eraseEntry s.key entries) = none ∧
      ∀ key, key ≠ s.key → Value.lookup? key (Value.putEntry s.key .null entries) =
        Value.lookup? key (Value.eraseEntry s.key entries) := by
  refine ⟨?_, ?_, fun key hkey => ?_⟩
  · rw [Value.lookup?_putEntry, if_pos rfl]
  · rw [Value.lookup?_eraseEntry, if_pos rfl]
  · rw [Value.lookup?_putEntry, Value.lookup?_eraseEntry, if_neg hkey, if_neg hkey]

theorem settings_null {s : Setting} (hs : s.key ∈ textKeys) :
    settings (Value.putEntry s.key .null entries) =
      (settings (Value.eraseEntry s.key entries)).withNull s := by
  obtain ⟨hnull, hnone, hsame⟩ := lookup?_null entries s
  refine get_ext fun s' => ?_
  by_cases h : s' = s
  · subst h
    -- the setting is what it is in the mappings that hold null and nothing
    have hput : (settings (Value.putEntry s'.key .null entries)).get s' =
        (settings [(.string s'.key, .null)]).get s' := by
      refine get_settings_congr (hnull.trans ?_)
      rw [Value.lookup?_cons, if_pos (Value.isKey_iff.2 rfl)]
    have herase : (settings (Value.eraseEntry s'.key entries)).get s' = (settings []).get s' :=
      get_settings_congr hnone
    cases s' with
    | sourceDir => exact hput
    | exclude => exact hput.trans herase.symm
    | recursive => exact absurd hs (by decide)
    | entityType => exact hput
    | package => exact hput
    | tagKey => exact hput
    | outputFile => exact hput.trans herase.symm
    | reportDir => exact hput.trans herase.symm
    | failOnWarnings => exact absurd hs (by decide)
  · have hkey : s'.key ≠ s.key := by
      intro hkey
      exact h (Setting.key_injective s' s hkey)
    rw [get_withNull_of_ne h, get_settings_congr (hsame s'.key hkey)]

/-- Null passes the checks that a key passes which is not there. -/
theorem ofEntries_putEntry_null (entries : List (Value × Value)) {s : Setting}
    (hs : s.key ∈ textKeys) :
    ofEntries (Value.putEntry s.key .null entries) =
      (ofEntries (Value.eraseEntry s.key entries)).map (·.withNull s) := by
  obtain ⟨hnull, hnone, hsame⟩ := lookup?_null entries s
  have hkeys : checkKeys (Value.putEntry s.key .null entries) =
      checkKeys (Value.eraseEntry s.key entries) := by
    refine checkKeys_congr ?_
    rw [unknownKeys_putEntry (key_mem_knownKeys s), unknownKeys_eraseEntry (key_mem_knownKeys s)]
  have hflags : flagKeys.forM (checkFlag (Value.putEntry s.key .null entries)) =
      flagKeys.forM (checkFlag (Value.eraseEntry s.key entries)) := by
    have hother : ∀ key ∈ flagKeys, key ∉ textKeys := by decide
    refine forM_congr fun key hkey => checkFlag_congr (hsame key ?_)
    intro heq
    rw [← heq] at hs
    exact hother key hkey hs
  have htexts : textKeys.forM (checkText (Value.putEntry s.key .null entries)) =
      textKeys.forM (checkText (Value.eraseEntry s.key entries)) := by
    refine forM_congr fun key _ => ?_
    by_cases hkey : key = s.key
    · subst hkey
      have hmissing : checkText (Value.eraseEntry s.key entries) s.key = .ok () := by
        rw [checkText_eq_ok, hnone]
        nofun
      rw [checkText_of_null hnull, hmissing]
    · exact checkText_congr (hsame key hkey)
  rw [ofEntries, ofEntries, hkeys, hflags, htexts, settings_null hs]
  cases checkKeys (Value.eraseEntry s.key entries) with
  | error e => rfl
  | ok _ =>
    cases flagKeys.forM (checkFlag (Value.eraseEntry s.key entries)) with
    | error e => rfl
    | ok _ => cases textKeys.forM (checkText (Value.eraseEntry s.key entries)) <;> rfl

theorem withNull_eq_iff {config : ScanConfig} {s : Setting} (hs : s.key ∈ textKeys)
    (h : config.get s = ({} : ScanConfig).get s) :
    config.withNull s = config ↔ s ∈ [Setting.exclude, .outputFile, .reportDir] := by
  have hrequired : (config.withNull s).get s = .string "None" →
      ({} : ScanConfig).get s ≠ .string "None" → config.withNull s ≠ config := by
    intro hnull hdefault heq
    rw [heq, h] at hnull
    exact hdefault hnull
  have htext : ∀ {t : Text}, t ≠ "None" → Value.string t ≠ .string "None" := by
    intro t ht heq
    exact ht (Value.string.inj heq)
  cases s with
  | recursive => exact absurd hs (by decide)
  | failOnWarnings => exact absurd hs (by decide)
  | exclude => exact iff_of_true rfl (by decide)
  | outputFile => exact iff_of_true rfl (by decide)
  | reportDir => exact iff_of_true rfl (by decide)
  | sourceDir => exact iff_of_false (hrequired rfl (htext (by decide))) (by decide)
  | entityType => exact iff_of_false (hrequired rfl (htext (by decide))) (by decide)
  | package => exact iff_of_false (hrequired rfl (htext (by decide))) (by decide)
  | tagKey => exact iff_of_false (hrequired rfl (htext (by decide))) (by decide)

/-- Null under the key of a text is no key at all for a setting that may be left out; for the others
it is the text `None`, and the outcome differs unless the mapping is refused. -/
theorem ofEntries_null (entries : List (Value × Value)) {s : Setting} (hs : s.key ∈ textKeys) :
    ofEntries (Value.putEntry s.key .null entries) =
        (ofEntries (Value.eraseEntry s.key entries)).map (·.withNull s) ∧
      (ofEntries (Value.putEntry s.key .null entries) =
          ofEntries (Value.eraseEntry s.key entries) ↔
        s ∈ [Setting.exclude, .outputFile, .reportDir] ∨
          ∃ e, ofEntries (Value.eraseEntry s.key entries) = .error e) := by
  have hnull := ofEntries_putEntry_null entries hs
  refine ⟨hnull, ?_⟩
  rw [hnull]
  cases h : ofEntries (Value.eraseEntry s.key entries) with
  | error e => exact iff_of_true rfl (.inr ⟨e, rfl⟩)
  | ok config =>
    obtain ⟨-, -, -, rfl⟩ := ofEntries_eq_ok.1 h
    have hdefault : (settings (Value.eraseEntry s.key entries)).get s = (settings []).get s :=
      get_settings_congr (lookup?_null entries s).2.1
    have heq := withNull_eq_iff hs hdefault
    simp only [Except.map, Except.ok.injEq, heq, reduceCtorEq, exists_false, or_false]

theorem ofEntries_null_motley :
    Setting.package.key ∈ textKeys ∧
      ofEntries (Value.putEntry Setting.package.key .null motley) =
        (ofEntries (Value.eraseEntry Setting.package.key motley)).map (·.withNull .package) ∧
      ofEntries (Value.putEntry Setting.package.key .null motley) ≠
        ofEntries (Value.eraseEntry Setting.package.key motley) := by
  have hkey : Setting.package.key ∈ textKeys := by decide
  obtain ⟨hnull, hsame⟩ := ofEntries_null motley hkey
  have hread : (ofEntries (Value.eraseEntry Setting.package.key motley)).isOk = true := by
    decide +kernel
  obtain ⟨config, hconfig⟩ := exists_eq_ok_of_isOk hread
  refine ⟨hkey, hnull, fun heq => ?_⟩
  rcases hsame.1 heq with hoptional | ⟨e, he⟩
  · exact absurd hoptional (by decide)
  · rw [hconfig] at he
    cases he

/-- Null does not always mean that nothing is configured. -/
theorem not_forall_null_erased :
    ¬∀ (entries : List (Value × Value)) (key : Text), key ∈ textKeys →
      ofEntries (Value.putEntry key .null entries) = ofEntries (Value.eraseEntry key entries) := by
  intro h
  have heq := h [] "source_dir" (by decide)
  have hnull : (ofEntries (Value.putEntry "source_dir" .null [])).toOption.map (·.sourceDir) =
      some "None" := by decide +kernel
  have hnone : (ofEntries (Value.eraseEntry "source_dir" [])).toOption.map (·.sourceDir) =
      some "." := by decide +kernel
  rw [heq, hnone] at hnull
  exact absurd hnull (by decide)

end ScanConfig

end StructSchema
