import StructSchema.FileSystem
import StructSchema.Json.Render
import StructSchema.Text.Utf8

/-!
# Artifacts

The files that a run leaves behind: the schemas, in UTF-8 and in the order of their fields, and
the report, in ASCII and sorted, which is named after the run and gets its number and time unless
it brings its own. A text that holds a surrogate cannot be written.
-/

namespace StructSchema

inductive WriteError
  | path (error : PathError)
  | encoding
  deriving DecidableEq, Repr

def WriteError.message : WriteError → Text
  | .path error => error.message
  | .encoding => "surrogates not allowed"

namespace Artifact

def writeText (fs : FileSystem) (path text : Text) : Except WriteError FileSystem :=
  match Utf8.encodeStrict? text with
  | some bytes => (fs.write path bytes).mapError .path
  | none => .error .encoding

/-! ### Schemas -/

/-- What a file of schemas holds: JSON with a line break at the end. -/
def schemaText (payload : Value) : Text := Json.render ⟨false, false⟩ payload ++ "\n"

/-- The file system with schemas at a path; directories on the way to it are made. -/
def writeSchema (fs : FileSystem) (path : Text) (payload : Value) :
    Except WriteError FileSystem := do
  let directory := Path.ofLocation (Path.locate fs.here path).dropLast
  let fs ← (fs.makeDirectories directory).mapError .path
  writeText fs path (schemaText payload)

/-! ### Reports -/

/-- Entries with a value under a key that is not there yet. -/
def putDefault (key : Text) (value : Value) (entries : List (Value × Value)) :
    List (Value × Value) :=
  if (Value.lookup? key entries).isSome then entries else entries ++ [(.string key, value)]

def reportEntries (report : List (Value × Value)) (run time : Text) : List (Value × Value) :=
  putDefault "timestamp_utc" time (putDefault "run_id" run report)

def reportText (report : List (Value × Value)) (run time : Text) : Text :=
  Json.render ⟨true, true⟩ (.mapping (reportEntries report run time))

def reportPath (directory run : Text) : Text := Path.join directory ("scan_" ++ run ++ ".json")

def defaultReportDirectory : Text := "output/scan_reports"

def writeReport (fs : FileSystem) (directory : Text) (report : List (Value × Value))
    (run time : Text) : Except WriteError FileSystem := do
  let fs ← (fs.makeDirectories directory).mapError .path
  writeText fs (reportPath directory run) (reportText report run time)

end Artifact

end StructSchema
