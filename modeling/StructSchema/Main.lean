import Std.Time.Format
import StructSchema.Library
import StructSchema.Run

/-!
# Command line

Runs the program on the disk. The part of the disk that a run looks at is read into a file
system, the run is carried out on it, and the files that it leaves there are written back. The
schemas go to standard output if no file is named for them, and the log to standard error.
-/

namespace StructSchema.Main

/-! ### Input -/

/-- The tree at a path of the disk, without the files that are no sources and the directories
that no search enters; directories below it are empty unless the search is recursive. -/
partial def readTree (recursive : Bool) (path : String) : IO FileTree := do
  let place := (← IO.currentDir) / path
  if !(← place.isDir) then return .file (← IO.FS.readBinFile place).toList
  let mut entries : List (Text × FileTree) := []
  for entry in ← place.readDir do
    let name := Text.ofString entry.fileName
    if ← entry.path.isDir then
      if recursive && Discovery.isEntered name then
        entries := (name, ← readTree recursive entry.path.toString) :: entries
    else if Discovery.isSourceName name then
      entries := (name, ← readTree recursive entry.path.toString) :: entries
  return .directory entries

def load (fs : FileSystem) (recursive : Bool) (path : Text) : IO FileSystem := do
  let some name := path.toString? | return fs
  if name.isEmpty || !(← ((← IO.currentDir) / name).pathExists) then return fs
  return { fs with root := fs.root.put (Path.locate fs.here path) (← readTree recursive name) }

/-- A file system that has only its working directory, which is that of the disk. -/
def workingDirectory : IO FileSystem := do
  let here := Path.locate [] (Text.ofString (← IO.currentDir).toString)
  return { root := FileTree.put (.directory []) here (.directory []), here }

def environment : IO Environment := do
  let place := (← IO.currentDir) / ".env"
  let file ← if ← place.pathExists then
      pure (Utf8.decodeLossless (← IO.FS.readBinFile place).toList)
    else pure []
  let names := Environment.overrides.map (·.1) ++ EnvFile.names file
  let values ← names.filterMapM fun name => do
    let some key := name.toString? | return none
    return (← IO.getEnv key).map fun value => (name, Text.ofString value)
  return { values, file }

/-- The number of a run: twelve random hexadecimal digits. -/
def runId : IO Text := do
  return (← IO.getRandomBytes 6).toList.flatMap fun byte => Text.hexDigits 2 byte.toNat

/-! ### Output -/

def write (stream : IO.FS.Stream) (text : Text) : IO Unit := do
  stream.write ⟨((Utf8.encode? text).getD []).toArray⟩
  stream.flush

/-- Writes the lines of a journal to standard error, each behind the time. -/
def log (journal : List Log.Action) : IO Unit := do
  let now := (← Std.Time.DateTime.now).format "uuuu-MM-dd HH:mm:ss,SSS"
  for line in (Log.State.runAll {} journal).2 do
    write (← IO.getStderr) (now ++ " | " ++ line)

/-- Writes to the disk the files by which a file system differs from an older one. -/
def save (fs old : FileSystem) : IO Unit := do
  for (path, content) in fs.filesBeyond old do
    let directory := Path.ofLocation (Path.locate [] path).dropLast
    if let (some path, some directory) := (path.toString?, directory.toString?) then
      IO.FS.createDirAll directory
      IO.FS.writeBinFile path ⟨content.toArray⟩

def breakOff (reason : Run.Break) : IO UInt32 := do
  write (← IO.getStderr) (reason.message ++ "\n")
  return 1

/-! ### Runs -/

def run (options : Options) : IO UInt32 := do
  let id ← runId
  let env ← environment
  let path := options.config.getD []
  let base ← workingDirectory
  let settings ← load base false path
  let start ← IO.monoMsNow
  let fs ← match options.configure .library settings env with
    | .ok config => load (← load base config.recursive config.sourceDir) false path
    | .error _ => pure settings
  match options.scan .library fs env id with
  | .error reason => breakOff reason
  | .ok scanned =>
    let now ← Std.Time.Timestamp.now
    let stamp : Run.Stamp :=
      { id
        time := (Std.Time.DateTime.ofTimestampWithZone now .UTC).format
          "uuuu-MM-dd'T'HH:mm:ss.SSSSSSxxx"
        millis := (← IO.monoMsNow) - start }
    match scanned.finish fs stamp with
    | .error e =>
      log scanned.journal
      breakOff (.file e)
    | .ok outcome =>
      if (Utf8.encodeStrict? outcome.output).isNone then
        log scanned.journal
        breakOff (.file .encoding)
      else
        write (← IO.getStdout) outcome.output
        save outcome.files fs
        log outcome.journal
        return .ofNat outcome.status.code

end StructSchema.Main

def main (args : List String) : IO UInt32 := do
  match StructSchema.CommandLine.parse (args.map StructSchema.Text.ofString) with
  | .ok options => StructSchema.Main.run options
  | .error stop =>
    let stream ← match stop with
      | .help => IO.getStdout
      | .wrong => IO.getStderr
    StructSchema.Main.write stream StructSchema.CommandLine.usage
    return .ofNat stop.status
