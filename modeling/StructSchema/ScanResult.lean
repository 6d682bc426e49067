import StructSchema.Recorder

/-!
# Scan results

What a scan of one or more sources comes to: the entities and rejections in order, and how many
files, structs and candidates there were.
-/

namespace StructSchema

structure ScanStats where
  files : Nat := 0
  structs : Nat := 0
  candidates : Nat := 0
  entities : Nat := 0
  warnings : Nat := 0
  deriving DecidableEq, Repr

def ScanStats.summary (stats : ScanStats) : Text :=
  "ScanStats(files=" ++ Text.ofNat stats.files ++ ", structs=" ++ Text.ofNat stats.structs ++
    ", candidates=" ++ Text.ofNat stats.candidates ++ ", entities=" ++ Text.ofNat stats.entities ++
    ", warnings=" ++ Text.ofNat stats.warnings ++ ")"

structure ScanResult where
  entities : List Entity := []
  rejections : List Rejection := []
  stats : ScanStats := {}

/-- The result that a recorder holds after some number of files. -/
def Recorder.result (recorder : Recorder) (files : Nat) : ScanResult where
  entities := recorder.entities
  rejections := recorder.rejections
  stats :=
    { files, structs := recorder.structsSeen, candidates := recorder.candidates,
      entities := recorder.entities.length, warnings := recorder.rejections.length }

/-- The scan of one source under a file name. -/
def ScanResult.ofSource (host : Host) (markers : Markers) (file : Text) (bytes : List UInt8) :
    Except RecordError ScanResult :=
  match Recorder.addSource host markers file (some file) {} bytes with
  | (recorder, none) => .ok (recorder.result 1)
  | (_, some e) => .error e

end StructSchema
