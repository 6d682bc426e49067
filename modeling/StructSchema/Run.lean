import StructSchema.Artifact
import StructSchema.CommandLine
import StructSchema.Environment
import StructSchema.Journal
import StructSchema.Payload

/-!
# Runs

A run takes its settings from the command line, the environment and a file, scans a directory
and writes the schemas and perhaps a report. Its exit status is 1 if the configuration cannot be
loaded or the sources cannot be read, and then nothing is written; 2 if there are warnings and they
are to fail the run; and 0 otherwise. Any other error breaks the run off without a status.
-/

namespace StructSchema

/-! ### Settings -/

/-- The configuration with the settings of a command line, which override all others. -/
def Options.apply (options : Options) (config : ScanConfig) : ScanConfig :=
  { config with
    sourceDir := options.sourceDir.getD config.sourceDir
    exclude := options.exclude.getD config.exclude
    recursive := options.recursive.getD config.recursive
    outputFile := options.outputFile.or config.outputFile
    reportDir := options.reportDir.or config.reportDir
    failOnWarnings := options.failOnWarnings.getD config.failOnWarnings }

def Options.configure (host : Host) (options : Options) (fs : FileSystem) (env : Environment) :
    Except ConfigError ScanConfig :=
  (ScanConfig.load host fs (options.config.getD []) env).map options.apply

/-- What a configuration asks to be scanned. -/
def ScanConfig.request (config : ScanConfig) : ScanRequest where
  directory := config.sourceDir
  pattern := config.exclude
  recursive := config.recursive
  markers := config.markers

namespace Run

/-! ### Outcomes -/

inductive Status
  | finished
  | failed
  | warned
  deriving DecidableEq, Repr

def Status.code : Status → Nat
  | .finished => 0
  | .failed => 1
  | .warned => 2

/-- What marks a run: its number, the time of its report and how long the scan took. -/
structure Stamp where
  id : Text
  time : Text
  millis : Nat := 0
  deriving DecidableEq, Repr

/-- What a run comes to: its exit status, what it prints, the files after it, and what it tells
the log. -/
structure Outcome where
  status : Status
  output : Text := []
  files : FileSystem
  journal : List Log.Action

/-- Why a run breaks off without an exit status. -/
inductive Break
  | config (error : ConfigError)
  | walk (error : Source.WalkError)
  | file (error : WriteError)
  deriving DecidableEq, Repr

def Break.message : Break → Text
  | .config error => error.message
  | .walk (.tag error) => error.message
  | .walk .tooDeep => "containers are nested too deep"
  | .file error => error.message

/-! ### Journal -/

def telling (level : Log.Level) (message : Text) : Log.Action :=
  .emit ⟨level, "run_finder", message⟩

def flagText (b : Bool) : Text := (Value.bool b).text

/-- What is told about variables that override settings. -/
def overrideJournal (host : Host) (env : Environment) : List Log.Action :=
  if (env.overridden host).isEmpty then []
  else
    [.emit ⟨.debug, "core.scan_config",
      "Environment overrides: " ++ (Value.ofTexts (env.overridden host)).text⟩]

def settingsJournal (config : ScanConfig) : List Log.Action :=
  let pattern : Text := if config.exclude.isEmpty then "<none>" else config.exclude
  [telling .info ("Source directory : " ++ config.sourceDir),
    telling .info ("Exclude pattern  : " ++ pattern),
    telling .info ("Recursive        : " ++ flagText config.recursive)]

def scanJournal (host : Host) (fs : FileSystem) (config : ScanConfig) : List Log.Action :=
  .enter (.phase "scan" (some config.sourceDir)) :: fs.scanJournal host config.request ++ [.leave]

def hundredths (n : Nat) : Text :=
  let rest := Nat.toDigits 10 (n % 100)
  Text.ofNat (n / 100) ++ "." ++ (if rest.length < 2 then '0' :: rest else rest).map CodePoint.char

def endJournal (stamp : Stamp) (result : ScanResult) : Log.Action :=
  telling .info
    ("Scan finished in " ++ hundredths ((stamp.millis + 5) / 10) ++ "s: " ++ result.stats.summary)

/-! ### Writing -/

def report (config : ScanConfig) (stamp : Stamp) (result : ScanResult) : List (Value × Value) :=
  [(.string "source_dir", .string config.sourceDir),
    (.string "exclude", .string config.exclude),
    (.string "elapsed_seconds", .float (Decimal.ofDigits stamp.millis (-3))),
    (.string "stats", result.stats.payload),
    (.string "warnings", .list (result.rejections.map Rejection.payload))]

/-- What is printed of schemas: JSON with a line break at the end. -/
def printed (payload : Value) : Text := Json.render ⟨false, false⟩ payload ++ "\n"

/-- A setting that is given and not empty. -/
def given? (setting : Option Text) : Option Text := setting.filter fun t => !t.isEmpty

/-- Writes the schemas to the file that the settings name, or prints them. -/
def writeSchemas (fs : FileSystem) (config : ScanConfig) (result : ScanResult) :
    Except WriteError (FileSystem × Text × List Log.Action) :=
  match given? config.outputFile with
  | none => .ok (fs, printed result.payload, [])
  | some path =>
    (Artifact.writeSchema fs path result.payload).map fun fs =>
      (fs, [],
        [telling .info
          ("Wrote " ++ Text.ofNat result.entities.length ++ " entities to " ++ path)])

/-- Writes the report to the directory that the settings name, if they name one. -/
def writeReport (fs : FileSystem) (config : ScanConfig) (stamp : Stamp) (result : ScanResult) :
    Except WriteError (FileSystem × List Log.Action) :=
  match given? config.reportDir with
  | none => .ok (fs, [])
  | some directory =>
    (Artifact.writeReport fs directory (report config stamp result) stamp.id stamp.time).map
      fun fs =>
        (fs, [telling .info ("Wrote run report to " ++ Artifact.reportPath directory stamp.id)])

def statusOf (config : ScanConfig) (result : ScanResult) : Status :=
  if config.failOnWarnings && !result.rejections.isEmpty then .warned else .finished

/-- What a run comes to once its scan has a result; `before` is what it has told by then. -/
def finish (fs : FileSystem) (config : ScanConfig) (stamp : Stamp) (before : List Log.Action)
    (result : ScanResult) : Except WriteError Outcome := do
  let (fs, output, written) ← writeSchemas fs config result
  let (fs, reported) ← writeReport fs config stamp result
  return {
    status := statusOf config result
    output
    files := fs
    journal :=
      before ++ [.enter (.phase "write" none)] ++ written ++ reported ++ [.leave] ++
        [endJournal stamp result] }

end Run

/-! ### Whole runs -/

/-- A run when its scan is over: it has failed, or there is a result to be written. -/
inductive Run.Scanned
  | failed (outcome : Run.Outcome)
  | found (config : ScanConfig) (result : ScanResult) (journal : List Log.Action)

/-- A run that has failed, with what it tells the log in the end. -/
def Run.Scanned.ofFailure (fs : FileSystem) (journal : List Log.Action) (message : Text) :
    Run.Scanned :=
  .failed { status := .failed, files := fs, journal := journal ++ [Run.telling .error message] }

/-- A run up to the end of its scan. -/
def Options.scan (host : Host) (options : Options) (fs : FileSystem) (env : Environment)
    (id : Text) : Except Run.Break Run.Scanned :=
  let start := [Log.Action.configure options.logLevel.rank, Log.Action.setRun [] id]
  match options.configure host fs env with
  | .error e =>
    if e.isReported then .ok (.ofFailure fs start ("Configuration error: " ++ e.message))
    else .error (.config e)
  | .ok config =>
    let journal :=
      start ++ Run.overrideJournal host env ++ Run.settingsJournal config ++
        Run.scanJournal host fs config
    match fs.scan host config.request with
    | .error (.missingDirectory directory) =>
      .ok (.ofFailure fs journal ("File error: Directory not found: " ++ directory))
    | .error (.record (.source e)) =>
      .ok (.ofFailure fs journal ("Parse error, scan aborted: " ++ e.message))
    | .error (.record (.walk e)) => .error (.walk e)
    | .ok result => .ok (.found config result journal)

def Run.Scanned.finish (scanned : Run.Scanned) (fs : FileSystem) (stamp : Run.Stamp) :
    Except WriteError Run.Outcome :=
  match scanned with
  | .failed outcome => .ok outcome
  | .found config result journal => Run.finish fs config stamp journal result

def Run.Scanned.journal : Run.Scanned → List Log.Action
  | .failed outcome => outcome.journal
  | .found _ _ journal => journal

def Options.run (host : Host) (options : Options) (fs : FileSystem) (env : Environment)
    (stamp : Run.Stamp) : Except Run.Break Run.Outcome := do
  let scanned ← options.scan host fs env stamp.id
  (scanned.finish fs stamp).mapError .file

def Run.Outcome.lines (outcome : Run.Outcome) : List Text :=
  (Log.State.runAll {} outcome.journal).2

end StructSchema
