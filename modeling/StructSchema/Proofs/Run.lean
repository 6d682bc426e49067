import StructSchema.Proofs.Artifact
import StructSchema.Proofs.FileSystem
import StructSchema.Proofs.Scan

/-!
# Outcomes of runs

Which exit status a run has, what it prints and which files it leaves behind. A run that cannot scan
prints nothing and leaves all files as they were; every other run that ends has the schemas either
in the file named for them or in its output, and a report exactly if a directory is named for it.
From these texts the schemas can be read back, and from the report what they say of the scan.
-/

namespace StructSchema

open Fallible

variable {host : Host} {options : Options} {fs : FileSystem} {env : Environment}

/-! ### When sources are read -/

theorem FileSystem.parseDirectory_isOk_iff {request : ScanRequest} :
    (∃ trees, fs.parseDirectory host request = .ok trees) ↔
      (∃ tree, fs.directory? (Path.absolute fs.here request.directory) = some tree) ∧
        ∀ file ∈ fs.discover request.directory request.pattern request.recursive,
          file.Accepted host := by
  cases hdirectory : fs.directory? (Path.absolute fs.here request.directory) with
  | none =>
    rw [parseDirectory, hdirectory]
    constructor
    · intro h
      obtain ⟨trees, htrees⟩ := h
      cases htrees
    · intro h
      obtain ⟨⟨tree, htree⟩, -⟩ := h
      cases htree
  | some tree =>
    rw [parseDirectory_eq hdirectory]
    constructor
    · intro h
      obtain ⟨trees, htrees⟩ := h
      rw [mapError_eq_ok] at htrees
      refine ⟨⟨tree, rfl⟩, fun file hfile => ?_⟩
      obtain ⟨entry, hentry⟩ := exists_eq_ok_of_mapM htrees hfile
      obtain ⟨source, hsource, -⟩ := map_eq_ok.1 hentry
      exact ⟨source, Source.readAs_eq_ok.1 hsource⟩
    · intro h
      obtain ⟨trees, htrees⟩ := mapM_total fun file hfile => (h.2 file hfile).parse
      exact ⟨trees, mapError_eq_ok.2 htrees⟩

/-- A scan fails for what is recorded only after all sources have been read. -/
theorem FileSystem.scan_eq_error {request : ScanRequest} {e : ScanError}
    (h : fs.scan host request = .error e) :
    (∃ trees, fs.parseDirectory host request = .ok trees) ↔ ∃ w, e = .record (.walk w) := by
  rcases bind_eq_error.1 h with hparse | ⟨trees, htrees, hrest⟩
  · refine iff_of_false ?_ ?_
    · intro htrees
      obtain ⟨trees, htrees⟩ := htrees
      rw [hparse] at htrees
      cases htrees
    · intro hwalk
      obtain ⟨w, rfl⟩ := hwalk
      rw [parseDirectory] at hparse
      cases hdirectory : fs.directory? (Path.absolute fs.here request.directory) with
      | none =>
        rw [hdirectory] at hparse
        cases hparse
      | some tree =>
        rw [hdirectory] at hparse
        obtain ⟨error, -, herror⟩ := mapError_eq_error.1 hparse
        cases herror
  · refine iff_of_true ⟨trees, htrees⟩ ?_
    rcases bind_eq_error.1 hrest with hadd | ⟨recorder, -, hdone⟩
    · obtain ⟨w, -, rfl⟩ := mapError_eq_error.1 hadd
      exact ⟨w, rfl⟩
    · cases hdone

/-- Why a run cannot scan: it has no configuration, there is no directory to scan, or one of the
sources in it is refused. -/
inductive Options.CannotScan (host : Host) (options : Options) (fs : FileSystem)
    (env : Environment) : Prop
  | configuration {e : ConfigError} (h : options.configure host fs env = .error e)
    (he : e.isReported = true)
  | directory {config : ScanConfig} (h : options.configure host fs env = .ok config)
    (hnone : fs.directory? (Path.absolute fs.here config.sourceDir) = none)
  | source {config : ScanConfig} {file : SourceFile}
      (h : options.configure host fs env = .ok config)
    (hfile : file ∈ fs.discover config.sourceDir config.exclude config.recursive)
    (hrefused : ¬file.Accepted host)

theorem Options.cannotScan_iff {config : ScanConfig}
    (hconfig : options.configure host fs env = .ok config) :
    options.CannotScan host fs env ↔
      ¬∃ trees, fs.parseDirectory host config.request = .ok trees := by
  rw [FileSystem.parseDirectory_isOk_iff]
  constructor
  · intro h hread
    obtain ⟨⟨tree, htree⟩, haccepted⟩ := hread
    cases h with
    | configuration h _ =>
      rw [hconfig] at h
      cases h
    | directory h hnone =>
      rw [hconfig] at h
      cases h
      rw [show config.request.directory = config.sourceDir from rfl, hnone] at htree
      cases htree
    | source h hfile hrefused =>
      rw [hconfig] at h
      cases h
      exact hrefused (haccepted _ hfile)
  · intro h
    by_contra hcan
    refine h ⟨?_, fun file hfile => ?_⟩
    · rw [← Option.ne_none_iff_exists']
      exact fun hnone => hcan (.directory hconfig hnone)
    · by_contra hrefused
      exact hcan (.source hconfig hfile hrefused)

theorem Options.not_cannotScan {config : ScanConfig} {result : ScanResult}
    (hconfig : options.configure host fs env = .ok config)
    (hscan : fs.scan host config.request = .ok result) : ¬options.CannotScan host fs env := by
  obtain ⟨trees, htrees, -⟩ := bind_eq_ok.1 hscan
  exact fun hcan => (cannotScan_iff hconfig).1 hcan ⟨trees, htrees⟩

namespace Run

/-! ### Artifacts -/

/-- Whether files are the file of a text at a path, if there is one: its bytes are the text. -/
def HasText (fs : FileSystem) (path : Option Text) (text : Text)
    (files : List (List Text × List UInt8)) : Prop :=
  match path with
  | none => files = []
  | some path => ∃ bytes cs, files = [(fs.place path, bytes)] ∧ Utf8.decode bytes = .ok cs ∧
      text = cs.map .char

theorem becomes_writeText {fs after : FileSystem} {directory path text : Text}
    (h : ((fs.makeDirectories directory).mapError .path >>= fun made =>
      Artifact.writeText made path text) = .ok after) :
    ∃ files, fs.Becomes after files ∧ HasText fs (some path) text files := by
  obtain ⟨made, hmake, hwrite⟩ := bind_eq_ok.1 h
  rw [mapError_eq_ok] at hmake
  rw [Artifact.writeText] at hwrite
  cases hbytes : Utf8.encodeStrict? text with
  | none =>
    rw [hbytes] at hwrite
    cases hwrite
  | some bytes =>
    rw [hbytes] at hwrite
    dsimp only at hwrite
    rw [mapError_eq_ok] at hwrite
    obtain ⟨cs, hcs, hdecode⟩ := Utf8.exists_chars_of_encodeStrict? hbytes
    have hdone : (fs.makeDirectories directory >>= fun made => made.write path bytes) = .ok after :=
      bind_eq_ok.2 ⟨made, hmake, hwrite⟩
    exact ⟨_, FileSystem.becomes_write_made hdone, bytes, cs, rfl, hdecode, hcs⟩

def reportPath? (config : ScanConfig) (stamp : Stamp) : Option Text :=
  (given? config.reportDir).map fun directory => Artifact.reportPath directory stamp.id

theorem becomes_writeSchemas {fs after : FileSystem} {config : ScanConfig} {result : ScanResult}
    {output : Text} {told : List Log.Action}
    (h : writeSchemas fs config result = .ok (after, output, told)) :
    output = (if (given? config.outputFile).isSome then [] else printed result.payload) ∧
      ∃ files, fs.Becomes after files ∧
        HasText fs (given? config.outputFile) (Artifact.schemaText result.payload) files := by
  unfold writeSchemas at h
  cases hfile : given? config.outputFile with
  | none =>
    simp only [hfile] at h
    cases h
    exact ⟨rfl, [], FileSystem.Becomes.refl fs, rfl⟩
  | some path =>
    simp only [hfile] at h
    obtain ⟨written, hwritten, hout⟩ := map_eq_ok.1 h
    cases hout
    exact ⟨rfl, becomes_writeText hwritten⟩

theorem becomes_writeReport {fs after : FileSystem} {config : ScanConfig} {stamp : Stamp}
    {result : ScanResult} {told : List Log.Action}
    (h : writeReport fs config stamp result = .ok (after, told)) :
    ∃ files, fs.Becomes after files ∧ HasText fs (reportPath? config stamp)
      (Artifact.reportText (report config stamp result) stamp.id stamp.time) files := by
  unfold writeReport at h
  unfold reportPath?
  cases hdirectory : given? config.reportDir with
  | none =>
    simp only [hdirectory] at h
    cases h
    exact ⟨[], FileSystem.Becomes.refl fs, rfl⟩
  | some directory =>
    simp only [hdirectory] at h
    obtain ⟨written, hwritten, hout⟩ := map_eq_ok.1 h
    cases hout
    exact becomes_writeText hwritten

theorem HasText.of_place_eq {fs middle : FileSystem} {path : Option Text} {text : Text}
    {files : List (List Text × List UInt8)} (h : HasText middle path text files)
    (hplace : ∀ path, middle.place path = fs.place path) : HasText fs path text files := by
  cases path with
  | none => exact h
  | some path =>
    obtain ⟨bytes, cs, hfiles, htext⟩ := h
    rw [hplace] at hfiles
    exact ⟨bytes, cs, hfiles, htext⟩

theorem finish_eq_ok {fs : FileSystem} {config : ScanConfig} {stamp : Stamp}
    {before : List Log.Action} {result : ScanResult} {outcome : Outcome}
    (h : finish fs config stamp before result = .ok outcome) :
    outcome.status = statusOf config result ∧
      outcome.output = (if (given? config.outputFile).isSome then [] else printed result.payload) ∧
      ∃ schemas reports, fs.Becomes outcome.files (reports ++ schemas) ∧
        HasText fs (given? config.outputFile) (Artifact.schemaText result.payload) schemas ∧
        HasText fs (reportPath? config stamp)
          (Artifact.reportText (report config stamp result) stamp.id stamp.time) reports := by
  obtain ⟨⟨middle, output, written⟩, hschemas, h⟩ := bind_eq_ok.1 h
  obtain ⟨⟨after, reported⟩, hreport, h⟩ := bind_eq_ok.1 h
  cases h
  obtain ⟨houtput, schemas, hmiddle, htext⟩ := becomes_writeSchemas hschemas
  obtain ⟨reports, hafter, hreports⟩ := becomes_writeReport hreport
  exact ⟨rfl, houtput, schemas, reports, hmiddle.trans hafter, htext,
    hreports.of_place_eq hmiddle.place_eq⟩

/-! ### What the report tells -/

def field? (key : Text) : Value → Option Value
  | .mapping entries => Value.lookup? key entries
  | _ => none

theorem reportEntries_report (config : ScanConfig) (stamp : Stamp) (result : ScanResult) :
    Artifact.reportEntries (report config stamp result) stamp.id stamp.time =
      report config stamp result ++
        [(.string "run_id", .string stamp.id), (.string "timestamp_utc", .string stamp.time)] := rfl

theorem distinct_reportEntries (config : ScanConfig) (stamp : Stamp) (result : ScanResult) :
    ((Artifact.reportEntries (report config stamp result) stamp.id stamp.time).map fun entry =>
      Json.rereadText true (Json.keyText entry.1)).Nodup := by
  rw [reportEntries_report]
  show (["source_dir", "exclude", "elapsed_seconds", "stats", "warnings", "run_id",
    "timestamp_utc"].map fun key => Json.rereadText true (Text.ofString key)).Nodup
  decide

theorem writable_reportEntries {config : ScanConfig} {stamp : Stamp} {result : ScanResult}
    (h : result.payload.isWritable = true) : Value.entriesWritable
      (Artifact.reportEntries (report config stamp result) stamp.id stamp.time) = true := by
  simp only [ScanResult.payload, Value.ofFields, List.map_cons, List.map_nil, Value.isWritable,
    Value.entriesWritable, Bool.and_true, Bool.and_eq_true] at h
  obtain ⟨-, ⟨-, hwarnings⟩, -, hstats⟩ := h
  rw [reportEntries_report, report]
  simp only [List.cons_append, List.nil_append, Value.entriesWritable, Value.isWritable, hstats,
    Bool.and_true]
  exact hwarnings

/-- What is read from the report tells of the scan what the schemas tell, in its own style. -/
theorem parse_report {config : ScanConfig} {stamp : Stamp} {result : ScanResult}
    (hwritable : result.payload.isWritable = true) {cs : List Char}
    (h : Artifact.reportText (report config stamp result) stamp.id stamp.time = cs.map .char) :
    ∃ found, Json.parse cs = .ok (.mapping found) ∧
      ∀ key ∈ (["stats", "warnings"] : List Text), ∃ value,
        field? key result.payload = some value ∧
          Value.lookup? key found = some (Json.reread ⟨true, true⟩ value) := by
  obtain ⟨found, hparse, hfound⟩ := Artifact.parse_reportText
    (distinct_reportEntries config stamp result) (writable_reportEntries hwritable) h
  refine ⟨found, hparse, fun key hkey => ?_⟩
  rw [List.mem_pair] at hkey
  rcases hkey with rfl | rfl
  · refine ⟨result.stats.payload, rfl, ?_⟩
    exact hfound (.string "stats", result.stats.payload)
      (by rw [reportEntries_report]; simp [report])
  · refine ⟨.list (result.rejections.map Rejection.payload), rfl, ?_⟩
    exact hfound (.string "warnings", .list (result.rejections.map Rejection.payload))
      (by rw [reportEntries_report]; simp [report])

theorem lookup?_reread_stats (stats : ScanStats) :
    ∃ counts, Json.reread ⟨true, true⟩ stats.payload = .mapping counts ∧
      Value.lookup? "structs_seen" counts = some (.int stats.structs) ∧
      Value.lookup? "warnings" counts = some (.int stats.warnings) := by
  have hdistinct : (["files_parsed", "structs_seen", "candidates", "entities_found",
      "warnings"].map fun key => Json.rereadText true (Text.ofString key)).Nodup := by decide
  obtain ⟨counts, hcounts, hlookup⟩ := @Json.lookup?_reread ⟨true, true⟩
    [(.string "files_parsed", .int stats.files), (.string "structs_seen", .int stats.structs),
      (.string "candidates", .int stats.candidates),
      (.string "entities_found", .int stats.entities), (.string "warnings", .int stats.warnings)]
    hdistinct
  exact ⟨counts, hcounts, hlookup (.string "structs_seen", .int stats.structs) (by simp),
    hlookup (.string "warnings", .int stats.warnings) (by simp)⟩

end Run

/-! ### From the start to the end of a run -/

/-- What is known at the end of a scan: the run has failed without a trace, or there is a result. -/
inductive Run.Scanned.From (host : Host) (options : Options) (fs : FileSystem) (env : Environment) :
    Run.Scanned → Prop
  | failed {outcome : Run.Outcome} (h : options.CannotScan host fs env)
    (hstatus : outcome.status = .failed) (houtput : outcome.output = [])
    (hfiles : outcome.files = fs) : From host options fs env (.failed outcome)
  | found {config : ScanConfig} {result : ScanResult} {journal : List Log.Action}
    (hcan : ¬options.CannotScan host fs env) (hconfig : options.configure host fs env = .ok config)
    (hscan : fs.scan host config.request = .ok result) :
    From host options fs env (.found config result journal)

theorem Options.from_of_scan {id : Text} {scanned : Run.Scanned}
    (h : options.scan host fs env id = .ok scanned) : scanned.From host options fs env := by
  rw [Options.scan] at h
  cases hconfig : options.configure host fs env with
  | error e =>
    simp only [hconfig] at h
    split at h
    · rename_i hreported
      cases h
      exact .failed (.configuration hconfig hreported) rfl rfl rfl
    · cases h
  | ok config =>
    simp only [hconfig] at h
    cases hscan : fs.scan host config.request with
    | error e =>
      have hcan := (cannotScan_iff hconfig).trans (not_congr (FileSystem.scan_eq_error hscan))
      simp only [hscan] at h
      cases e with
      | missingDirectory directory =>
        cases h
        exact .failed (hcan.2 fun hwalk => hwalk.elim fun w hw => by cases hw) rfl rfl rfl
      | record error =>
        cases error with
        | source error =>
          cases h
          exact .failed (hcan.2 fun hwalk => hwalk.elim fun w hw => by cases hw) rfl rfl rfl
        | walk error => cases h
    | ok result =>
      simp only [hscan] at h
      cases h
      exact .found (not_cannotScan hconfig hscan) hconfig hscan

theorem Options.isOk_scan (h : options.CannotScan host fs env) (id : Text) :
    ∃ scanned, options.scan host fs env id = .ok scanned := by
  rw [Options.scan]
  cases hconfig : options.configure host fs env with
  | error e =>
    cases h with
    | configuration h he =>
      rw [hconfig] at h
      cases h
      simp only [he, if_true]
      exact ⟨_, rfl⟩
    | directory h _ =>
      rw [hconfig] at h
      cases h
    | source h _ _ =>
      rw [hconfig] at h
      cases h
  | ok config =>
    dsimp only
    cases hscan : fs.scan host config.request with
    | error e =>
      cases e with
      | missingDirectory directory => exact ⟨_, rfl⟩
      | record error =>
        cases error with
        | source error => exact ⟨_, rfl⟩
        | walk w =>
          have hread := (FileSystem.scan_eq_error hscan).2 ⟨w, rfl⟩
          exact absurd hread ((cannotScan_iff hconfig).1 h)
    | ok result => exact ⟨_, rfl⟩

namespace Run

/-! ### The main statement -/

theorem code_eq_one {status : Status} : status.code = 1 ↔ status = .failed := by
  cases status with
  | finished => exact ⟨nofun, nofun⟩
  | failed => exact ⟨fun _ => rfl, fun _ => rfl⟩
  | warned => exact ⟨nofun, nofun⟩

theorem code_statusOf (config : ScanConfig) (result : ScanResult) :
    (statusOf config result).code =
      if result.rejections ≠ [] ∧ config.failOnWarnings = true then 2 else 0 := by
  unfold statusOf
  cases config.failOnWarnings with
  | false => simp [Status.code]
  | true => cases result.rejections with
    | nil => simp [Status.code]
    | cons first rest => simp [Status.code]

/-- A run fails, and leaves no trace, exactly if it cannot scan. Every other run that ends gives
what the scan has found: in its status, in the schemas, which are printed unless a file is named
for them, and in the report, which tells of the scan what the schemas tell. -/
theorem run_outcome (host : Host) (options : Options) (fs : FileSystem) (env : Environment)
    (stamp : Stamp) :
    (options.CannotScan host fs env →
      ∃ outcome, options.run host fs env stamp = .ok outcome ∧ outcome.status.code = 1) ∧
    ∀ outcome, options.run host fs env stamp = .ok outcome →
      (outcome.status.code = 1 ↔ options.CannotScan host fs env) ∧
      (outcome.status.code = 1 → outcome.output = [] ∧ outcome.files = fs) ∧
      (outcome.status.code ≠ 1 → ∃ config result,
        options.configure host fs env = .ok config ∧ fs.scan host config.request = .ok result ∧
        outcome.status.code =
          (if result.rejections ≠ [] ∧ config.failOnWarnings = true then 2 else 0) ∧
        outcome.output =
          (if (given? config.outputFile).isSome then [] else Artifact.schemaText result.payload) ∧
        (∃ schemas reports, fs.Becomes outcome.files (reports ++ schemas) ∧
          HasText fs (given? config.outputFile) (Artifact.schemaText result.payload) schemas ∧
          HasText fs (reportPath? config stamp)
            (Artifact.reportText (report config stamp result) stamp.id stamp.time) reports) ∧
        (result.payload.isWritable = true →
          (∀ cs, Artifact.schemaText result.payload = cs.map .char →
            Json.parse cs = .ok result.payload) ∧
          ∀ cs, Artifact.reportText (report config stamp result) stamp.id stamp.time =
              cs.map .char →
            ∃ found, Json.parse cs = .ok (.mapping found) ∧
              ∀ key ∈ (["stats", "warnings"] : List Text), ∃ value,
                field? key result.payload = some value ∧
                  Value.lookup? key found = some (Json.reread ⟨true, true⟩ value))) := by
  have hfrom : ∀ scanned, options.scan host fs env stamp.id = .ok scanned →
      options.run host fs env stamp = (scanned.finish fs stamp).mapError .file := by
    intro scanned hscanned
    rw [Options.run, hscanned]
    rfl
  constructor
  · intro hcannot
    obtain ⟨scanned, hscanned⟩ := Options.isOk_scan hcannot stamp.id
    rw [hfrom scanned hscanned]
    cases Options.from_of_scan hscanned with
    | failed _ hstatus _ _ => exact ⟨_, rfl, code_eq_one.2 hstatus⟩
    | found hcan _ _ => exact absurd hcannot hcan
  · intro outcome houtcome
    obtain ⟨scanned, hscanned, hfinish⟩ := bind_eq_ok.1 houtcome
    rw [mapError_eq_ok] at hfinish
    cases Options.from_of_scan hscanned with
    | failed hcannot hstatus houtput hfiles =>
      cases hfinish
      have hcode := code_eq_one.2 hstatus
      exact ⟨iff_of_true hcode hcannot, fun _ => ⟨houtput, hfiles⟩, fun h => absurd hcode h⟩
    | @found config result journal hcan hconfig hscan =>
      obtain ⟨hstatus, houtput, hfiles⟩ := finish_eq_ok hfinish
      have hcode : outcome.status.code =
          if result.rejections ≠ [] ∧ config.failOnWarnings = true then 2 else 0 := by
        rw [hstatus, code_statusOf]
      have hne : outcome.status.code ≠ 1 := by
        rw [hcode]
        split <;> omega
      refine ⟨iff_of_false hne hcan, fun h => absurd h hne, fun _ => ?_⟩
      refine ⟨config, result, hconfig, hscan, hcode, houtput, hfiles, fun hwritable => ?_⟩
      exact ⟨fun cs hcs => Artifact.parse_schemaText result hwritable hcs,
        fun cs hcs => parse_report hwritable hcs⟩

theorem exists_run {config : ScanConfig} {result : ScanResult} {stamp : Stamp}
    {after done : FileSystem} {output : Text} {told reported : List Log.Action}
    (hconfig : options.configure host fs env = .ok config)
    (hscan : fs.scan host config.request = .ok result)
    (hschemas : writeSchemas fs config result = .ok (after, output, told))
    (hreport : writeReport after config stamp result = .ok (done, reported)) :
    ∃ outcome, options.run host fs env stamp = .ok outcome := by
  simp only [Options.run, Options.scan, hconfig, hscan, ok_bind, Scanned.finish, finish, hschemas,
    hreport, pure_eq_ok, Except.mapError]
  exact ⟨_, rfl⟩

/-- A source with a struct that asks for an entity and has a field that no column can hold. -/
def strayedSource : List UInt8 := Utf8.ofString
  "type Stray struct \x7b\nEntity \x60dosa:\"primaryKey=ID\"\x60\nID complex64\n\x7d\n"

def yard : FileSystem where
  root := .directory [("src", .directory [("a.go", .file strayedSource)])]

def thorough : Options where
  sourceDir := some "src"
  outputFile := some "out/s.json"
  reportDir := some "rep"
  failOnWarnings := some true

def settled : ScanConfig where
  sourceDir := "src"
  outputFile := some "out/s.json"
  reportDir := some "rep"
  failOnWarnings := true

theorem configure_thorough : thorough.configure .library yard {} = .ok settled := rfl

/-- The run has a report: its text always has bytes. -/
theorem exists_run_yard : ∃ outcome, thorough.run .library yard {} ⟨"r", "t", 0⟩ = .ok outcome := by
  have hok : (yard.scan .library settled.request).toOption.any (fun result =>
      (writeSchemas yard settled result).toOption.any fun written =>
        (written.1.makeDirectories "rep").toOption.any fun made =>
          (made.write (Artifact.reportPath "rep" "r") []).isOk) = true := by decide +kernel
  obtain ⟨result, hscan, hok⟩ := exists_eq_ok_of_any hok
  obtain ⟨⟨after, output, told⟩, hschemas, hok⟩ := exists_eq_ok_of_any hok
  obtain ⟨made, hmake, hok⟩ := exists_eq_ok_of_any hok
  obtain ⟨written, hwritten⟩ := exists_eq_ok_of_isOk hok
  obtain ⟨bytes, hbytes⟩ := Artifact.exists_encodeStrict?_reportText
    (report settled ⟨"r", "t", 0⟩ result) "r" "t"
  obtain ⟨done, hdone⟩ := FileSystem.exists_write hwritten bytes
  have hreport : Artifact.writeReport after "rep" (report settled ⟨"r", "t", 0⟩ result) "r" "t" =
      .ok done := by
    rw [Artifact.writeReport, hmake]
    show Artifact.writeText made _ _ = _
    rw [Artifact.writeText, hbytes]
    exact mapError_eq_ok.2 hdone
  exact exists_run configure_thorough hscan hschemas (map_eq_ok.2 ⟨done, hreport, rfl⟩)

theorem exists_scan_yard : ∃ result, yard.scan .library settled.request = .ok result ∧
    result.payload.isWritable = true ∧ result.rejections ≠ [] ∧
    result.stats = { files := 1, structs := 1, candidates := 1, warnings := 1 } := by
  have hok : (yard.scan .library settled.request).toOption.any (fun result =>
      result.payload.isWritable && (!result.rejections.isEmpty &&
        result.stats == { files := 1, structs := 1, candidates := 1, warnings := 1 })) = true := by
    decide +kernel
  obtain ⟨result, hscan, hfacts⟩ := exists_eq_ok_of_any hok
  rw [Bool.and_eq_true, Bool.and_eq_true, Bool.not_eq_true', List.isEmpty_eq_false_iff,
    beq_iff_eq] at hfacts
  exact ⟨result, hscan, hfacts⟩

/-- The run finds a struct and rejects it, which both its files tell. -/
theorem run_yard :
    (∃ (outcome : Outcome) (result : ScanResult),
      thorough.run .library yard {} ⟨"r", "t", 0⟩ = .ok outcome ∧
      outcome.status.code = 2 ∧ outcome.output = [] ∧
      outcome.files.content? ["src", "a.go"] = some strayedSource ∧
      (∃ written read, outcome.files.content? ["out", "s.json"] = some written ∧
        Utf8.decode written = .ok read ∧ Json.parse read = .ok result.payload) ∧
      ∃ written read found, outcome.files.content? ["rep", "scan_r.json"] = some written ∧
        Utf8.decode written = .ok read ∧ Json.parse read = .ok (.mapping found) ∧
        ∃ counts, Value.lookup? "stats" found = some (.mapping counts) ∧
          Value.lookup? "structs_seen" counts = some (.int 1) ∧
          Value.lookup? "warnings" counts = some (.int 1)) ∧
    ∃ outcome, ({ thorough with sourceDir := some "gone" } : Options).run .library yard {}
        ⟨"r", "t", 0⟩ = .ok outcome ∧
      outcome.status.code = 1 ∧ outcome.output = [] ∧ outcome.files = yard := by
  constructor
  · obtain ⟨outcome, hrun⟩ := exists_run_yard
    obtain ⟨result, hscan, hwritable, hrejections, hstats⟩ := exists_scan_yard
    obtain ⟨hone, -, hdone⟩ := (run_outcome .library thorough yard {} ⟨"r", "t", 0⟩).2 outcome hrun
    have hcan := Options.not_cannotScan configure_thorough hscan
    obtain ⟨config, found, hconfig, hfound, hcode, houtput, hfiles, hparse⟩ :=
      hdone fun h => hcan (hone.1 h)
    rw [configure_thorough] at hconfig
    cases hconfig
    rw [hscan] at hfound
    cases hfound
    obtain ⟨schemas, reports, hafter, hschemas, hreports⟩ := hfiles
    obtain ⟨bytes, cs, rfl, hdecode, htext⟩ := hschemas
    obtain ⟨bytes', cs', rfl, hdecode', htext'⟩ := hreports
    obtain ⟨hschemaRead, hreportRead⟩ := hparse hwritable
    obtain ⟨entries, hentries, hkeys⟩ := hreportRead cs' htext'
    obtain ⟨value, hvalue, hfound⟩ := hkeys "stats" (List.mem_cons_self ..)
    cases hvalue
    obtain ⟨counts, hcounts, hstructs, hwarnings⟩ := lookup?_reread_stats result.stats
    rw [hcounts] at hfound
    rw [hstats] at hstructs hwarnings
    refine ⟨outcome, result, hrun, hcode.trans (if_pos ⟨hrejections, rfl⟩), houtput, ?_,
      ⟨bytes, cs, ?_, hdecode, hschemaRead cs htext⟩,
      bytes', cs', entries, ?_, hdecode', hentries, counts, hfound, hstructs, hwarnings⟩
    · rw [hafter.content]
      rfl
    · rw [hafter.content]
      rfl
    · rw [hafter.content]
      rfl
  · have hgone :
        ({ thorough with sourceDir := some "gone" } : Options).CannotScan .library yard {} :=
      @Options.CannotScan.directory _ _ _ _ { settled with sourceDir := "gone" } rfl rfl
    obtain ⟨hfails, hall⟩ :=
      run_outcome .library { thorough with sourceDir := some "gone" } yard {} ⟨"r", "t", 0⟩
    obtain ⟨outcome, hrun, hcode⟩ := hfails hgone
    obtain ⟨houtput, hfiles⟩ := (hall outcome hrun).2.1 hcode
    exact ⟨outcome, hrun, hcode, houtput, hfiles⟩

end Run

end StructSchema
