import StructSchema.Log
import StructSchema.Scan
import StructSchema.Value

/-!
# Journals

What a scan tells the log on its way: the files it leaves out and reads, the fields and structs
it passes over, and what it records or rejects.
-/

namespace StructSchema

namespace Journal

def reading (level : Log.Level) (message : Text) : Log.Action :=
  .emit ⟨level, "finder.parser", message⟩

def walking (level : Log.Level) (message : Text) : Log.Action :=
  .emit ⟨level, "finder.traversal", message⟩

def assembling (message : Text) : Log.Action := .emit ⟨.debug, "finder.translator", message⟩

def scanning (message : Text) : Log.Action := .emit ⟨.info, "finder.scanner", message⟩

/-! ### Structs -/

def ofStep (struct : StructDecl) : AssemblyStep → List Log.Action
  | .ignored field =>
    let subject := if field.names.isEmpty then field.typeText else (Value.ofTexts field.names).text
    [assembling (struct.name ++ ": skipping ignored field " ++ subject)]
  | .unexported name => [assembling (struct.name ++ ": skipping unexported field " ++ name)]
  | _ => []

def ofStruct (markers : Markers) (file : Text) (struct : StructDecl) : List Log.Action :=
  match struct.judge markers with
  | .error _ => []
  | .ok false => [walking .debug (file ++ ": " ++ struct.name ++ " is not an entity candidate")]
  | .ok true =>
    (struct.stepsTaken markers).flatMap (ofStep struct) ++
      match struct.toEntity markers with
      | .ok entity =>
        [walking .debug
          ("Recorded entity " ++ entity.definition.name ++ " from struct " ++ struct.name)]
      | .error (.rejected rejection) =>
        [walking .warning ("Skipping entity candidate: " ++ rejection.message)]
      | .error (.unreadable _) => []

/-! ### Files -/

def ofReading (host : Host) (directory : Text) (file : SourceFile) : List Log.Action :=
  let path := Path.join directory file.path
  let parsed : List Log.Action :=
    [reading .debug "Created tree-sitter Go parser",
      reading .debug ("Parsed " ++ Text.ofNat file.content.length ++ " bytes of Go code")]
  match Source.read host file.content with
  | .ok _ => parsed ++ [reading .debug ("Successfully parsed file: " ++ path)]
  | .error fault =>
    (match fault with
      | .encoding _ => []
      | _ => parsed) ++
      [reading .error ("Cannot parse " ++ file.path ++ ": " ++ Source.Error.message ⟨path, fault⟩)]

def ofReadings (host : Host) (directory : Text) : List SourceFile → List Log.Action
  | [] => []
  | file :: rest =>
    ofReading host directory file ++
      match Source.read host file.content with
      | .ok _ => ofReadings host directory rest
      | .error _ => []

/-- What is told about the structs of a file, and how many entities and rejections there are. -/
def ofTree (host : Host) (markers : Markers) (path : Text) (tree : Source.Tree) :
    List Log.Action :=
  let structs := (tree.offers host.depth (some path)).filterMap Except.toOption
  let recorder := (Recorder.addTree host markers (some path) {} tree).1
  .enter (.file path) :: structs.flatMap (ofStruct markers path) ++
    [.leave,
      scanning
        ("Scanned " ++ path ++ ": " ++ Text.ofNat recorder.entities.length ++ " entities, " ++
          Text.ofNat recorder.rejections.length ++ " warnings")]

end Journal

def FileSystem.scanJournal (host : Host) (fs : FileSystem) (request : ScanRequest) :
    List Log.Action :=
  let directory := Path.absolute fs.here request.directory
  match fs.directory? directory with
  | none => []
  | some tree =>
    let excluded := tree.excludedSources request.pattern request.recursive
    let files := tree.discover request.pattern request.recursive
    excluded.map (fun file =>
      Journal.reading .debug
        ("Excluding " ++ Path.baseName file.path ++ " (matches " ++ Text.quoted request.pattern ++
          ")")) ++
      [Journal.reading .info
        ("Found " ++ Text.ofNat files.length ++ " Go files in " ++ directory)] ++
      Journal.ofReadings host directory files ++
      match fs.parseDirectory host request, fs.scan host request with
      | .ok trees, .ok result =>
        trees.flatMap (fun (path, tree) => Journal.ofTree host request.markers path tree) ++
          [Journal.scanning ("Scan complete: " ++ result.stats.summary)]
      | _, _ => []

end StructSchema
