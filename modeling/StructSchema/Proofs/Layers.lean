import Mathlib.Data.List.Basic
import StructSchema.Library
import StructSchema.Run
import StructSchema.Proofs.Config

/-!
# Layers of settings

A setting of a run may be given on the command line, by a variable, by a line of the environment's
file and by the configuration file, and it has a default. Main statement: the highest of these
layers that gives it decides it, and what is given for other settings does not matter.
-/

namespace StructSchema

open Fallible

inductive Setting
  | sourceDir
  | exclude
  | recursive
  | entityType
  | package
  | tagKey
  | outputFile
  | reportDir
  | failOnWarnings
  deriving DecidableEq, Repr

namespace Setting

/-! ### What each layer gives -/

def key : Setting → Text
  | .sourceDir => "source_dir"
  | .exclude => "exclude"
  | .recursive => "recursive"
  | .entityType => "entity_type_name"
  | .package => "entity_package"
  | .tagKey => "tag_key"
  | .outputFile => "output_file"
  | .reportDir => "report_dir"
  | .failOnWarnings => "fail_on_warnings"

def variableName? : Setting → Option Text
  | .exclude => some "ENTITYSCAN_EXCLUDE"
  | .recursive => some "ENTITYSCAN_RECURSIVE"
  | .failOnWarnings => some "ENTITYSCAN_FAIL_ON_WARNINGS"
  | _ => none

def ofVariable (s : Setting) (t : Text) : Value :=
  match s with
  | .exclude => .string (Text.strip t)
  | _ => .bool ((["1", "true", "yes", "on"] : List Text).contains (Text.toLower (Text.strip t)))

def ofFile (s : Setting) (v : Value) : Value :=
  match s, v with
  | .sourceDir, v => .string (if Text.strip v.text = [] then "." else Text.strip v.text)
  | .exclude, v => .string (if v.isGiven then Text.strip v.text else [])
  | .recursive, v | .failOnWarnings, v => v
  | .entityType, v | .package, v | .tagKey, v => .string (Text.strip v.text)
  | .outputFile, .null | .reportDir, .null => .null
  | .outputFile, v | .reportDir, v =>
    if Text.strip v.text = [] then .null else .string (Text.strip v.text)

theorem ofFile_reportDir : ofFile .reportDir = ofFile .outputFile := by
  funext v
  cases v <;> rfl

end Setting

def ScanConfig.get (config : ScanConfig) : Setting → Value
  | .sourceDir => .string config.sourceDir
  | .exclude => .string config.exclude
  | .recursive => .bool config.recursive
  | .entityType => .string config.markers.entityType
  | .package => .string config.markers.package
  | .tagKey => .string config.markers.tagKey
  | .outputFile => textSetting config.outputFile
  | .reportDir => textSetting config.reportDir
  | .failOnWarnings => .bool config.failOnWarnings

def Options.value? (options : Options) : Setting → Option Value
  | .sourceDir => options.sourceDir.map .string
  | .exclude => options.exclude.map .string
  | .recursive => options.recursive.map .bool
  | .outputFile => options.outputFile.map .string
  | .reportDir => options.reportDir.map .string
  | .failOnWarnings => options.failOnWarnings.map .bool
  | _ => none

/-- The layers of a setting, the highest first, with what each of them gives to it. -/
def layers (host : Host) (options : Options) (env : Environment) (entries : List (Value × Value))
    (s : Setting) : List (Option Value) :=
  [options.value? s,
    (s.variableName?.bind fun name => env.values.lookup name).map s.ofVariable,
    (s.variableName?.bind (env.fileValue? host)).map s.ofVariable,
    (Value.lookup? s.key entries).map s.ofFile,
    some (({} : ScanConfig).get s)]

/-! ### One layer on another -/

theorem ScanConfig.get_ext {config other : ScanConfig} (h : ∀ s, config.get s = other.get s) :
    config = other := by
  have htext : ∀ a b : Option Text, textSetting a = textSetting b → a = b := by
    intro a b hab
    cases a <;> cases b <;> cases hab <;> rfl
  have hsource := h .sourceDir
  have hexclude := h .exclude
  have hrecursive := h .recursive
  have hentity := h .entityType
  have hpackage := h .package
  have htag := h .tagKey
  have houtput := htext _ _ (h .outputFile)
  have hreport := htext _ _ (h .reportDir)
  have hfail := h .failOnWarnings
  obtain ⟨_, _, _, ⟨_, _, _⟩, _, _, _⟩ := config
  obtain ⟨_, _, _, ⟨_, _, _⟩, _, _, _⟩ := other
  simp only [get, Value.string.injEq, Value.bool.injEq] at *
  simp [*]

theorem Options.get_apply (options : Options) (config : ScanConfig) (s : Setting) :
    (options.apply config).get s = (options.value? s).getD (config.get s) := by
  have htext : ∀ given above : Option Text, ScanConfig.textSetting (given.or above) =
      (given.map Value.string).getD (ScanConfig.textSetting above) := by
    intro given above
    cases given <;> rfl
  cases s with
  | sourceDir => exact (Option.getD_map _ _ _).symm
  | exclude => exact (Option.getD_map _ _ _).symm
  | recursive => exact (Option.getD_map _ _ _).symm
  | entityType => rfl
  | package => rfl
  | tagKey => rfl
  | outputFile => exact htext options.outputFile config.outputFile
  | reportDir => exact htext options.reportDir config.reportDir
  | failOnWarnings => exact (Option.getD_map _ _ _).symm

theorem Environment.get_apply (host : Host) (env : Environment) (config : ScanConfig)
    (s : Setting) :
    (env.apply host config).get s =
      ((s.variableName?.bind (env.get? host)).map s.ofVariable).getD (config.get s) := by
  have hflag : ∀ (name : Text) (b : Bool), Value.bool (((env.get? host name).map isOn).getD b) =
      ((env.get? host name).map (Setting.ofVariable .recursive)).getD (.bool b) := by
    intro name b
    have hon : Setting.ofVariable .recursive = Value.bool ∘ isOn := rfl
    rw [hon, ← Option.map_map, Option.getD_map]
  cases s with
  | exclude =>
    have htrimmed : Setting.ofVariable .exclude = Value.string ∘ Text.strip := rfl
    rw [htrimmed, ← Option.map_map]
    exact (Option.getD_map _ _ _).symm
  | recursive => exact hflag recursiveName config.recursive
  | failOnWarnings => exact hflag failName config.failOnWarnings
  | _ => rfl

namespace ScanConfig

variable {entries : List (Value × Value)}

theorem get_flag {key : Text} (h : checkFlag entries key = .ok ()) :
    Value.bool (flag entries key) = (Value.lookup? key entries).getD (.bool false) := by
  unfold checkFlag at h
  unfold flag
  split at h
  · rename_i hnone
    rw [hnone]
    rfl
  · rename_i b hbool
    rw [hbool]
    rfl
  · cases h

theorem get_word (key default : Text) :
    Value.string (word entries key default) =
      ((Value.lookup? key entries).map fun v => .string (Text.strip v.text)).getD
        (.string default) := by
  unfold word
  cases Value.lookup? key entries <;> rfl

theorem textSetting_optionalText (key : Text) :
    textSetting (optionalText entries key) =
      ((Value.lookup? key entries).map (Setting.ofFile .outputFile)).getD .null := by
  unfold optionalText
  cases Value.lookup? key entries with
  | none => rfl
  | some v =>
    cases v with
    | null => rfl
    | _ =>
      simp only [Option.map_some, Option.getD_some, Setting.ofFile, strippedText,
        List.isEmpty_iff]
      split <;> rfl

theorem get_settings (hflags : ∀ key ∈ flagKeys, checkFlag entries key = .ok ()) (s : Setting) :
    (settings entries).get s =
      ((Value.lookup? s.key entries).map s.ofFile).getD (({} : ScanConfig).get s) := by
  have hflag : ∀ key ∈ flagKeys, Value.bool (flag entries key) =
      ((Value.lookup? key entries).map (Setting.ofFile .recursive)).getD (.bool false) := by
    intro key hkey
    have hid : Setting.ofFile .recursive = id := rfl
    rw [hid, Option.map_id]
    exact get_flag (hflags key hkey)
  cases s with
  | sourceDir =>
    simp only [get, settings, directory, Setting.key, strippedText, List.isEmpty_iff]
    cases Value.lookup? "source_dir" entries <;> rfl
  | exclude =>
    simp only [get, settings, pattern, Setting.key, strippedText]
    cases Value.lookup? "exclude" entries <;> rfl
  | recursive => exact hflag "recursive" (by decide)
  | entityType => exact get_word _ _
  | package => exact get_word _ _
  | tagKey => exact get_word _ _
  | outputFile => exact textSetting_optionalText _
  | reportDir =>
    rw [Setting.ofFile_reportDir]
    exact textSetting_optionalText _
  | failOnWarnings => exact hflag "fail_on_warnings" (by decide)

end ScanConfig

/-! ### References between variables -/

namespace EnvFile

/-- The variables to which the values of a file refer. -/
def references (t : Text) : List Text :=
  (bindings t).flatMap fun (_, value) => (pieces (value.getD [])).filterMap fun
    | .point _ => none
    | .reference name _ => some name

theorem resolve_congr {t : Text} {set set' : List (Text × Text)}
    (h : ∀ name ∈ references t, set'.lookup name = set.lookup name) :
    resolve set' t = resolve set t := by
  unfold resolve
  apply List.foldl_ext
  intro above binding hbinding
  obtain ⟨key, value⟩ := binding
  cases value with
  | none => rfl
  | some v =>
    have hpieces : (pieces v).flatMap (Piece.text (valueAbove? set' above)) =
        (pieces v).flatMap (Piece.text (valueAbove? set above)) := by
      apply List.flatMap_congr
      intro piece hpiece
      cases piece with
      | point c => rfl
      | reference name default =>
        have hname : name ∈ references t :=
          List.mem_flatMap.2 ⟨_, hbinding, List.mem_filterMap.2 ⟨_, hpiece, rfl⟩⟩
        rw [Piece.text, Piece.text, valueAbove?, valueAbove?, h name hname]
    simp only [Option.map_some, hpieces]

end EnvFile

/-- A variable that is set matters for a line of the file only if the file refers to it, as the
library reads it. -/
theorem Environment.fileValue?_congr {env : Environment} {set : List (Text × Text)}
    (h : ∀ name ∈ EnvFile.references env.file, set.lookup name = env.values.lookup name)
    (name : Text) :
    ({ env with values := set }).fileValue? .library name = env.fileValue? .library name := by
  have hsettings : EnvFile.settings set env.file = EnvFile.settings env.values env.file := by
    rw [EnvFile.settings, EnvFile.settings, EnvFile.resolve_congr h]
  exact congrArg (fun values => (values.lookup name).join) hsettings

/-! ### The main statement -/

theorem findSome?_layers (option set line entry : Option Value) (default : Value) :
    [option, set, line, entry, some default].findSome? id =
      some (option.getD ((set.or line).getD (entry.getD default))) := by
  cases option <;> cases set <;> cases line <;> cases entry <;> rfl

/-- Command line, environment and file one on another, setting by setting. -/
theorem layers_apply {entries : List (Value × Value)} {file : ScanConfig}
    (h : ScanConfig.ofEntries entries = .ok file) (host : Host) (options : Options)
    (env : Environment) (s : Setting) :
    (layers host options env entries s).findSome? id =
      some ((options.apply (env.apply host file)).get s) := by
  obtain ⟨-, hflags, -, hfile⟩ := ScanConfig.ofEntries_eq_ok.1 h
  have hget : s.variableName?.bind (env.get? host) =
      (s.variableName?.bind fun name => env.values.lookup name).or
        (s.variableName?.bind (env.fileValue? host)) := by
    cases s.variableName? <;> rfl
  rw [layers, findSome?_layers, Options.get_apply, Environment.get_apply, ← hfile,
    ScanConfig.get_settings hflags, hget, Option.map_or]

/-- Two runs are given the same for a setting, layer by layer. A line of the environment's file may
refer to a variable: it gives another text then where that variable is set to another one. -/
structure SameGiven (host : Host) (options options' : Options) (env env' : Environment)
    (entries entries' : List (Value × Value)) (s : Setting) : Prop where
  option : options'.value? s = options.value? s
  set : ∀ name, s.variableName? = some name → env'.values.lookup name = env.values.lookup name
  line : ∀ name, s.variableName? = some name → env'.fileValue? host name = env.fileValue? host name
  entry : Value.lookup? s.key entries' = Value.lookup? s.key entries

theorem layers_congr {host : Host} {options options' : Options} {env env' : Environment}
    {entries entries' : List (Value × Value)} {s : Setting}
    (h : SameGiven host options options' env env' entries entries' s) :
    layers host options' env' entries' s = layers host options env entries s := by
  have hset : s.variableName?.bind (fun name => env'.values.lookup name) =
      s.variableName?.bind fun name => env.values.lookup name :=
    Option.bind_congr fun name hname => h.set name hname
  have hline : s.variableName?.bind (env'.fileValue? host) =
      s.variableName?.bind (env.fileValue? host) :=
    Option.bind_congr fun name hname => h.line name hname
  rw [layers, layers, h.option, h.entry, hset, hline]

namespace Options

theorem configure_eq_ok {host : Host} {options : Options} {fs : FileSystem} {env : Environment}
    {config : ScanConfig} :
    options.configure host fs env = .ok config ↔ ∃ entries file,
      ScanConfig.readEntries host fs (options.config.getD []) = .ok entries ∧
      ScanConfig.ofEntries entries = .ok file ∧ env.checkFile host = .ok () ∧
      options.apply (env.apply host file) = config := by
  rw [configure, map_eq_ok]
  simp only [ScanConfig.load, bind_eq_ok]
  constructor
  · intro h
    obtain ⟨loaded, ⟨entries, hentries, file, hfile, _, hcheck, hloaded⟩, hconfig⟩ := h
    cases hloaded
    exact ⟨entries, file, hentries, hfile, hcheck, hconfig⟩
  · intro h
    obtain ⟨entries, file, hentries, hfile, hcheck, hconfig⟩ := h
    exact ⟨_, ⟨entries, hentries, file, hfile, (), hcheck, rfl⟩, hconfig⟩

/-- The configuration of a run, setting by setting. What is given for a setting decides it, whatever
is given for others; of the variables that are set, a line of the environment's file depends on
those alone to which the file refers. -/
theorem configure_layers (host : Host) (options : Options) (env : Environment) :
    (∀ entries file, ScanConfig.ofEntries entries = .ok file → ∀ s,
      (layers host options env entries s).findSome? id =
        some ((options.apply (env.apply host file)).get s)) ∧
    (∀ fs config, options.configure host fs env = .ok config ↔ ∃ entries,
      ScanConfig.readEntries host fs (options.config.getD []) = .ok entries ∧
      (∃ file, ScanConfig.ofEntries entries = .ok file) ∧ env.checkFile host = .ok () ∧
      ∀ s, (layers host options env entries s).findSome? id = some (config.get s)) ∧
    (∀ entries file options' env' entries' file',
      ScanConfig.ofEntries entries = .ok file → ScanConfig.ofEntries entries' = .ok file' →
        ∀ s, SameGiven host options options' env env' entries entries' s →
          (options'.apply (env'.apply host file')).get s =
            (options.apply (env.apply host file)).get s) ∧
    ∀ set : List (Text × Text),
      (∀ name ∈ EnvFile.references env.file, set.lookup name = env.values.lookup name) →
        ∀ name, ({ env with values := set }).fileValue? .library name =
          env.fileValue? .library name := by
  refine ⟨fun entries file h => layers_apply h host options env, fun fs config => ?_, ?_,
    fun set => Environment.fileValue?_congr⟩
  · rw [configure_eq_ok]
    constructor
    · intro h
      obtain ⟨entries, file, hentries, hfile, hcheck, rfl⟩ := h
      exact ⟨entries, hentries, ⟨file, hfile⟩, hcheck, layers_apply hfile host options env⟩
    · intro h
      obtain ⟨entries, hentries, ⟨file, hfile⟩, hcheck, hlayers⟩ := h
      refine ⟨entries, file, hentries, hfile, hcheck, ScanConfig.get_ext fun s => ?_⟩
      have hs := hlayers s
      rw [layers_apply hfile, Option.some.injEq] at hs
      exact hs
  · intro entries file options' env' entries' file' hfile hfile' s hsame
    have hs := layers_apply hfile' host options' env' s
    rw [layers_congr hsame, layers_apply hfile, Option.some.injEq] at hs
    exact hs.symm

/-- A configuration file, with a value for four settings. -/
def stack : FileSystem where
  root := .directory [("c.json", .file (Utf8.ofString
    ("\x7b\"source_dir\": \" src \", \"exclude\": \"a\", " ++
      "\"recursive\": true, \"tag_key\": \"db\"\x7d")))]

def sparse : Options where
  config := some "c.json"
  exclude := some []

/-- A variable that is set to nothing, and a file with a line for it and for another one. -/
def mixed : Environment where
  values := [("ENTITYSCAN_RECURSIVE", [])]
  file := "ENTITYSCAN_RECURSIVE=1\nENTITYSCAN_FAIL_ON_WARNINGS= Yes\n"

def stacked : ScanConfig where
  sourceDir := "src"
  markers := { tagKey := "db" }
  failOnWarnings := true

theorem configure_stack :
    sparse.configure .library stack mixed = .ok stacked ∧
    ∃ entries file, ScanConfig.readEntries .library stack "c.json" = .ok entries ∧
      ScanConfig.ofEntries entries = .ok file ∧
      (layers .library sparse mixed entries .sourceDir).findSome? id = some (.string "src") ∧
      (layers .library sparse mixed entries .exclude).findSome? id = some (.string []) ∧
      (layers .library sparse mixed entries .recursive).findSome? id = some (.bool false) ∧
      (layers .library sparse mixed entries .package).findSome? id = some (.string "dosa") ∧
      (layers .library sparse mixed entries .failOnWarnings).findSome? id = some (.bool true) ∧
      (({ sparse with sourceDir := some "x" }).apply (mixed.apply .library file)).get .tagKey =
        (sparse.apply (mixed.apply .library file)).get .tagKey ∧
      ∀ name, ({ mixed with values := [] }).fileValue? .library name =
        mixed.fileValue? .library name := by
  have hstacked : (sparse.configure .library stack mixed).toOption = some stacked := by
    decide +kernel
  rw [toOption_eq_some] at hstacked
  obtain ⟨-, hrun, hsame, hset⟩ := configure_layers .library sparse mixed
  obtain ⟨entries, hentries, ⟨file, hfile⟩, -, hlayers⟩ := (hrun stack stacked).1 hstacked
  have hother :
      SameGiven .library sparse { sparse with sourceDir := some "x" } mixed mixed entries entries
      .tagKey := ⟨rfl, fun _ _ => rfl, fun _ _ => rfl, rfl⟩
  have hnone : EnvFile.references mixed.file = [] := by decide +kernel
  refine ⟨hstacked, entries, file, hentries, hfile, hlayers .sourceDir, hlayers .exclude,
    hlayers .recursive, hlayers .package, hlayers .failOnWarnings,
    hsame entries file _ mixed entries file hfile hfile .tagKey hother, hset [] ?_⟩
  intro name hname
  rw [hnone] at hname
  cases hname

end Options

end StructSchema
