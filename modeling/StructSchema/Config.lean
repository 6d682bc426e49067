import StructSchema.Declaration
import StructSchema.FileSystem
import StructSchema.Host
import StructSchema.Json.Parse
import StructSchema.Name

/-!
# Configurations

The settings of a scan, read from a mapping with known keys. A key that is missing leaves the
default; values that are no strings count as their text, but for the two flags, which must be
truth values.
-/

namespace StructSchema

structure ScanConfig where
  sourceDir : Text := "."
  exclude : Text := []
  recursive : Bool := false
  markers : Markers := {}
  outputFile : Option Text := none
  reportDir : Option Text := none
  failOnWarnings : Bool := false
  deriving DecidableEq, Repr

inductive ConfigError
  | missingFile (path : Text)
  | encoding
  | unparsable (path : Text)
  | outOfRange
  | notMapping
  | keyNotText
  | unknownKeys (keys : List Text)
  | notBoolean (key : Text)
  | notIdentifier (key value : Text)
  | unsettable (name : Text)
  deriving DecidableEq, Repr

namespace ConfigError

/-- Whether the error is one of the file or its settings, which a run reports and ends with;
others break the run off. -/
def isReported : ConfigError → Bool
  | .encoding | .outOfRange | .keyNotText | .unsettable _ => false
  | _ => true

def message : ConfigError → Text
  | .missingFile path => "Config file not found: " ++ path
  | .encoding => "config is not UTF-8"
  | .unparsable path => "Failed to parse config " ++ path
  | .outOfRange => "config holds a number that is out of range"
  | .notMapping => "config must be an object"
  | .keyNotText => "config holds a key that is no text"
  | .unknownKeys keys => "Unknown config keys: " ++ Text.join ", " keys
  | .notBoolean key => key ++ " must be a boolean"
  | .notIdentifier key value => key ++ " must be a Go identifier, got " ++ Text.quoted value
  | .unsettable name => "no variable can be set so: " ++ Text.quoted name

end ConfigError

/-! ### Settings from a mapping -/

namespace ScanConfig

def knownKeys : List Text :=
  ["source_dir", "exclude", "recursive", "entity_type_name", "entity_package", "tag_key",
    "output_file", "report_dir", "fail_on_warnings"]

def unknownKeys (entries : List (Value × Value)) : List Value :=
  (entries.map (·.1)).filter fun key => !knownKeys.any (key.isKey ·)

/-- Refuses keys that are none of the settings; those that are texts are listed in order. -/
def checkKeys (entries : List (Value × Value)) : Except ConfigError Unit :=
  match unknownKeys entries with
  | [] => .ok ()
  | keys =>
    match keys.mapM Value.string? with
    | some texts => .error (.unknownKeys (texts.mergeSort Text.le))
    | none => .error .keyNotText

def flagKeys : List Text := ["recursive", "fail_on_warnings"]

def checkFlag (entries : List (Value × Value)) (key : Text) : Except ConfigError Unit :=
  match Value.lookup? key entries with
  | none | some (.bool _) => .ok ()
  | some _ => .error (.notBoolean key)

def strippedText (value : Value) : Text := Text.strip value.text

def wordKeys : List Text := ["entity_type_name", "entity_package", "tag_key"]

def textKeys : List Text :=
  ["source_dir", "exclude", "entity_type_name", "entity_package", "tag_key", "output_file",
    "report_dir"]

/-- Refuses a value that has no text, and one that must be a word and is none. -/
def checkText (entries : List (Value × Value)) (key : Text) : Except ConfigError Unit :=
  match Value.lookup? key entries with
  | none => .ok ()
  | some v =>
    if !v.isWritable then .error .outOfRange
    else if wordKeys.contains key && !Text.isWord (strippedText v) then
      .error (.notIdentifier key (strippedText v))
    else .ok ()

def flag (entries : List (Value × Value)) (key : Text) : Bool :=
  match Value.lookup? key entries with
  | some (.bool b) => b
  | _ => false

def word (entries : List (Value × Value)) (key default : Text) : Text :=
  match Value.lookup? key entries with
  | some v => strippedText v
  | none => default

/-- A setting that may be left out, be null or be blank, which all mean the same. -/
def optionalText (entries : List (Value × Value)) (key : Text) : Option Text :=
  match Value.lookup? key entries with
  | none | some .null => none
  | some v => if (strippedText v).isEmpty then none else some (strippedText v)

/-- The directory to scan; a blank one is the working directory. -/
def directory (entries : List (Value × Value)) : Text :=
  match Value.lookup? "source_dir" entries with
  | none => "."
  | some v => if (strippedText v).isEmpty then "." else strippedText v

/-- The exclusion pattern; a value that is empty, zero or false excludes nothing. -/
def pattern (entries : List (Value × Value)) : Text :=
  match Value.lookup? "exclude" entries with
  | none => []
  | some v => if v.isGiven then strippedText v else []

def settings (entries : List (Value × Value)) : ScanConfig where
  sourceDir := directory entries
  exclude := pattern entries
  recursive := flag entries "recursive"
  markers :=
    { entityType := word entries "entity_type_name" "Entity"
      tagKey := word entries "tag_key" "dosa"
      package := word entries "entity_package" "dosa" }
  outputFile := optionalText entries "output_file"
  reportDir := optionalText entries "report_dir"
  failOnWarnings := flag entries "fail_on_warnings"

def ofEntries (entries : List (Value × Value)) : Except ConfigError ScanConfig := do
  checkKeys entries
  flagKeys.forM (checkFlag entries)
  textKeys.forM (checkText entries)
  return settings entries

def textSetting : Option Text → Value
  | some t => .string t
  | none => .null

def entries (config : ScanConfig) : List (Value × Value) :=
  [(.string "source_dir", .string config.sourceDir),
    (.string "exclude", .string config.exclude),
    (.string "recursive", .bool config.recursive),
    (.string "entity_type_name", .string config.markers.entityType),
    (.string "entity_package", .string config.markers.package),
    (.string "tag_key", .string config.markers.tagKey),
    (.string "output_file", textSetting config.outputFile),
    (.string "report_dir", textSetting config.reportDir),
    (.string "fail_on_warnings", .bool config.failOnWarnings)]

/-! ### Settings from a file -/

/-- Whether a file is read as JSON: its extension is `.json` in any letter case. -/
def isJsonPath (path : Text) : Bool := Text.toLower (Path.extension (Path.baseName path)) = ".json"

/-- The value in a file; a byte order mark is no part of JSON. -/
def readValue (host : Host) (path : Text) (content : List UInt8) : Except ConfigError Value :=
  match Utf8.decode content with
  | .error _ => .error .encoding
  | .ok cs =>
    let read := if isJsonPath path then Json.parse else host.yaml
    match read (joinBreaks '\r' '\n' false cs) with
    | .ok value => .ok value
    | .error .malformed => .error (.unparsable path)
    | .error .outOfRange => .error .outOfRange

def entriesOf : Value → Except ConfigError (List (Value × Value))
  | .null => .ok []
  | .mapping entries => .ok entries
  | _ => .error .notMapping

/-- The mapping in the file that a path leads to; none is read for an empty path. -/
def readEntries (host : Host) (fs : FileSystem) (path : Text) :
    Except ConfigError (List (Value × Value)) :=
  if path.isEmpty then .ok []
  else
    let path := Path.tidy path
    match fs.read path with
    | .error _ => .error (.missingFile path)
    | .ok content => readValue host path content >>= entriesOf

end ScanConfig

end StructSchema
