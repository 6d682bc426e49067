import StructSchema.Config
import StructSchema.Text.Blank

/-!
# Environments

Variables that override settings of a configuration. Some are set for the run itself; a file gives
others, but none that is set already. What a line of the file gives may depend on the variables that
are set.
-/

namespace StructSchema

/-- The variables of a run, and the text of the file that gives others. -/
structure Environment where
  values : List (Text × Text) := []
  file : Text := []
  deriving DecidableEq, Repr

namespace Environment

/-- Whether a variable can have a name and a value: the name is not empty and holds no equals sign,
no U+0000 stands in either, and both have bytes. -/
def isSettable (name value : Text) : Bool :=
  !name.isEmpty && !name.contains (.char '=') && !(name ++ value).contains (.char '\x00') &&
    (Utf8.encode? (name ++ value)).isSome

def fileValues (host : Host) (env : Environment) : List (Text × Option Text) :=
  host.envFile env.values env.file

def fileValue? (host : Host) (env : Environment) (name : Text) : Option Text :=
  ((env.fileValues host).lookup name).join

/-- The value of a variable; the file counts only for one that is not set. -/
def get? (host : Host) (env : Environment) (name : Text) : Option Text :=
  (env.values.lookup name).or (env.fileValue? host name)

/-- Refuses a file that gives a value to a variable that is not set and cannot have it. -/
def checkFile (host : Host) (env : Environment) : Except ConfigError Unit :=
  let isRefused (name : Text) : Bool :=
    (env.values.lookup name).isNone &&
      (env.fileValue? host name).any fun value => !isSettable name value
  match ((env.fileValues host).map (·.1)).find? isRefused with
  | some name => .error (.unsettable name)
  | none => .ok ()

def onTexts : List Text := ["1", "true", "yes", "on"]

def isOn (t : Text) : Bool := onTexts.contains (Text.toLower (Text.strip t))

def excludeName : Text := "ENTITYSCAN_EXCLUDE"

def recursiveName : Text := "ENTITYSCAN_RECURSIVE"

def failName : Text := "ENTITYSCAN_FAIL_ON_WARNINGS"

def apply (host : Host) (env : Environment) (config : ScanConfig) : ScanConfig :=
  { config with
    exclude := ((env.get? host excludeName).map Text.strip).getD config.exclude
    recursive := ((env.get? host recursiveName).map isOn).getD config.recursive
    failOnWarnings := ((env.get? host failName).map isOn).getD config.failOnWarnings }

def overrides : List (Text × Text) :=
  [(excludeName, "exclude"), (failName, "fail_on_warnings"), (recursiveName, "recursive")]

def overridden (host : Host) (env : Environment) : List Text :=
  overrides.filterMap fun (name, key) => (env.get? host name).map fun _ => key

end Environment

/-- The configuration of a file with what the environment overrides. -/
def ScanConfig.load (host : Host) (fs : FileSystem) (path : Text) (env : Environment) :
    Except ConfigError ScanConfig := do
  let entries ← readEntries host fs path
  let config ← ofEntries entries
  env.checkFile host
  return env.apply host config

end StructSchema
