import StructSchema.Proofs.Acceptance
import StructSchema.Proofs.Accounting
import StructSchema.Proofs.Discovery
import StructSchema.Proofs.Recorder

/-!
# Scans of directories and of single sources

A directory is scanned with one recorder for all its sources, a single source with a recorder of its
own. Main statement: the scan of a directory comes to the results of its sources scanned one by one,
in the order of their paths; and if one of them is refused, to the error of the first that is.
-/

namespace StructSchema

open Fallible

def SourceFile.Accepted (host : Host) (file : SourceFile) : Prop :=
  ∃ tree, Source.read host file.content = .ok tree

def SourceFile.scan (host : Host) (markers : Markers) (file : SourceFile) :
    Except RecordError ScanResult :=
  ScanResult.ofSource host markers file.path file.content

/-! ### Reading all sources -/

def SourceFile.parse (host : Host) (file : SourceFile) : Except Source.Error (Text × Source.Tree) :=
  (Source.readAs host file.path file.content).map (file.path, ·)

/-- Under whatever path a source is read, its error is given under its path from the directory. -/
theorem FileTree.parseSources_eq (host : Host) (directory pattern : Text) (recursive : Bool)
    (tree : FileTree) :
    tree.parseSources host directory pattern recursive =
      (tree.discover pattern recursive).mapM (SourceFile.parse host) := by
  rw [parseSources]
  refine congrArg (fun f => (tree.discover pattern recursive).mapM f) (funext fun file => ?_)
  rw [SourceFile.parse, Source.readAs, Source.readAs]
  cases Source.read host file.content with
  | error fault => rfl
  | ok tree => rfl

theorem SourceFile.Accepted.parse {host : Host} {file : SourceFile} (h : file.Accepted host) :
    ∃ entry, file.parse host = .ok entry := by
  obtain ⟨tree, htree⟩ := h
  exact ⟨(file.path, tree), map_eq_ok.2 ⟨tree, Source.readAs_eq_ok.2 htree, rfl⟩⟩

/-! ### Recording all sources -/

/-- A source scanned by itself gives what its tree leaves in an empty recorder. -/
theorem SourceFile.scan_of_parse {host : Host} {markers : Markers} {file : SourceFile}
    {entry : Text × Source.Tree} (h : file.parse host = .ok entry) :
    file.scan host markers =
      ((Recorder.part host markers entry).map (·.result 1)).mapError .walk := by
  obtain ⟨tree, htree, rfl⟩ := map_eq_ok.1 h
  rw [scan, ScanResult.ofSource, Recorder.addSource, htree, Recorder.part]
  dsimp only
  cases Recorder.addTree host markers (some file.path) {} tree with
  | mk recorder error => cases error <;> rfl

theorem mapM_scan_of_parse {host : Host} {markers : Markers} {files : List SourceFile}
    {trees : List (Text × Source.Tree)}
    (h : List.Forall₂ (fun file entry => file.parse host = .ok entry) files trees) :
    files.mapM (SourceFile.scan host markers) =
      ((trees.mapM (Recorder.part host markers)).map (·.map (·.result 1))).mapError .walk := by
  induction h with
  | nil => rfl
  | cons hentry _ ih =>
    have hscan := @SourceFile.scan_of_parse host markers _ _ hentry
    rw [List.mapM_cons, List.mapM_cons, ih, hscan]
    cases Recorder.part host markers _ with
    | error e => rfl
    | ok part => cases List.mapM (Recorder.part host markers) _ <;> rfl

theorem SourceFile.files_scan {host : Host} {markers : Markers} {file : SourceFile}
    {result : ScanResult} (h : file.scan host markers = .ok result) : result.stats.files = 1 := by
  rw [scan, ScanResult.ofSource] at h
  split at h
  · cases h
    rfl
  · cases h

theorem SourceFile.accepted_of_scan {host : Host} {markers : Markers} {file : SourceFile}
    {result : ScanResult} (h : file.scan host markers = .ok result) : file.Accepted host := by
  rw [scan, ScanResult.ofSource, Recorder.addSource] at h
  cases hread : Source.readAs host file.path file.content with
  | error e =>
    rw [hread] at h
    cases h
  | ok tree => exact ⟨tree, Source.readAs_eq_ok.1 hread⟩

theorem files_concat {host : Host} {markers : Markers} {files : List SourceFile}
    {results : List ScanResult}
    (h : List.Forall₂ (fun file result => file.scan host markers = .ok result) files results) :
    (ScanResult.concat results).stats.files = files.length := by
  induction h with
  | nil => rfl
  | cons hresult _ ih =>
    have hone := SourceFile.files_scan hresult
    simp only [ScanResult.concat, List.foldr_cons, ScanStats.add, List.length_cons] at ih ⊢
    omega

theorem SourceFile.exists_scan {host : Host} (hgo : host.ReadsGo) (markers : Markers)
    {file : SourceFile} {tree : Source.Tree} (hread : Source.read host file.content = .ok tree)
    (hroom : tree.nesting ≤ host.depth) : ∃ result, file.scan host markers = .ok result := by
  obtain ⟨structs, hstructs⟩ := (Source.decodes_of_read hgo hread).structs (some file.path)
  have hend := (Recorder.takesAll_addTree host markers (some file.path) {} tree).2
  rw [Source.Tree.offered_of_structs hroom hstructs] at hend
  rw [scan, ScanResult.ofSource, Recorder.addSource, Source.readAs_eq_ok.2 hread]
  dsimp only
  rw [hend]
  exact ⟨_, rfl⟩

/-! ### The main statement -/

namespace FileSystem

variable {host : Host} {fs : FileSystem} {request : ScanRequest} {tree : FileTree}

theorem parseDirectory_eq
    (h : fs.directory? (Path.absolute fs.here request.directory) = some tree) :
    fs.parseDirectory host request = ((fs.discover request.directory request.pattern
      request.recursive).mapM (SourceFile.parse host)).mapError (.record ∘ .source) := by
  rw [parseDirectory, discover, h]
  dsimp only
  rw [FileTree.parseSources_eq]

/-- If all sources are accepted, one recorder for all of them comes to what a recorder for each
comes to: the results one behind another, or the error of the first that breaks off. -/
theorem scan_of_accepted (h : fs.directory? (Path.absolute fs.here request.directory) = some tree)
    (haccepted : ∀ file ∈ fs.discover request.directory request.pattern request.recursive,
      file.Accepted host) :
    fs.scan host request =
      (((fs.discover request.directory request.pattern request.recursive).mapM
        (SourceFile.scan host request.markers)).map ScanResult.concat).mapError .record := by
  obtain ⟨trees, htrees⟩ := mapM_total fun file hfile => (haccepted file hfile).parse
  rw [scan, parseDirectory_eq h, htrees, mapM_scan_of_parse (mapM_eq_ok.1 htrees)]
  simp only [Except.mapError, ok_bind, Recorder.addTrees_eq, Recorder.empty_append]
  cases hparts : trees.mapM (Recorder.part host request.markers) with
  | error e => rfl
  | ok parts =>
    have hlength : trees.length = parts.length := (mapM_eq_ok.1 hparts).length_eq
    simp only [Except.map, ok_bind, pure_eq_ok, hlength, ScanResult.result_appendAll]

theorem scan_of_refused (h : fs.directory? (Path.absolute fs.here request.directory) = some tree)
    {before after : List SourceFile} {file : SourceFile} {error : Source.Error}
    (hfiles : fs.discover request.directory request.pattern request.recursive =
      before ++ file :: after) (hbefore : ∀ earlier ∈ before, earlier.Accepted host)
    (herror : Source.readAs host file.path file.content = .error error) :
    fs.scan host request = .error (.record (.source error)) := by
  have hparse : (before ++ file :: after).mapM (SourceFile.parse host) = .error error :=
    mapM_eq_error (fun earlier hearlier => (hbefore earlier hearlier).parse)
      (map_eq_error.2 herror)
  rw [scan, parseDirectory_eq h, hfiles, hparse]
  rfl

/-- The scan of a directory and the scans of its sources one by one, in the order of their paths. If
all sources are accepted the scan comes to the same as they do, and each comes to a result for which
there is room; and if not, the scan fails for the first that is refused as reading it by itself
does, under its path from the directory. -/
theorem scan_sources (host : Host)
    (h : fs.directory? (Path.absolute fs.here request.directory) = some tree) :
    let files := fs.discover request.directory request.pattern request.recursive
    (tree.WellFormed → (files.map (·.path)).Pairwise Text.Before) ∧
    ((∀ file ∈ files, file.Accepted host) →
      fs.scan host request = ((files.mapM fun file =>
          ScanResult.ofSource host request.markers file.path file.content).map
        ScanResult.concat).mapError .record) ∧
    (∀ results, (files.mapM fun file =>
        ScanResult.ofSource host request.markers file.path file.content) = .ok results →
      fs.scan host request = .ok (ScanResult.concat results) ∧
        (ScanResult.concat results).stats.files = files.length) ∧
    (host.ReadsGo → (∀ file ∈ files, ∃ source, Source.read host file.content = .ok source ∧
        source.nesting ≤ host.depth) →
      ∃ results, (files.mapM fun file =>
        ScanResult.ofSource host request.markers file.path file.content) = .ok results) ∧
    ∀ before file after error, files = before ++ file :: after →
      (∀ earlier ∈ before, earlier.Accepted host) →
      Source.readAs host file.path file.content = .error error →
        fs.scan host request = .error (.record (.source error)) ∧ error.file = file.path := by
  intro files
  refine ⟨fun hw => ?_, scan_of_accepted h, fun results hresults => ?_, fun hgo hread => ?_, ?_⟩
  · show ((fs.discover request.directory request.pattern request.recursive).map
      (·.path)).Pairwise Text.Before
    rw [discover, h]
    exact FileTree.pairwise_before_discover hw request.pattern request.recursive
  · have haccepted : ∀ file ∈ files, file.Accepted host := by
      intro file hfile
      obtain ⟨result, hresult⟩ := exists_eq_ok_of_mapM hresults hfile
      exact SourceFile.accepted_of_scan hresult
    refine ⟨?_, files_concat (mapM_eq_ok.1 hresults)⟩
    rw [scan_of_accepted h haccepted]
    show ((files.mapM (SourceFile.scan host request.markers)).map _).mapError _ = _
    rw [show files.mapM (SourceFile.scan host request.markers) = .ok results from hresults]
    rfl
  · refine mapM_total fun file hfile => ?_
    obtain ⟨source, hsource, hroom⟩ := hread file hfile
    exact SourceFile.exists_scan hgo request.markers hsource hroom
  · intro before file after error hfiles hbefore herror
    refine ⟨scan_of_refused h hfiles hbefore herror, ?_⟩
    obtain ⟨fault, -, rfl⟩ := mapError_eq_error.1 herror
    rfl

def itemSource : List UInt8 := Utf8.ofString
  "type Item struct \x7b\nEntity \x60dosa:\"primaryKey=ID\"\x60\nID int64\n\x7d\n"

def plainSource : List UInt8 := Utf8.ofString "package b\ntype Plain struct \x7b\x7d\n"

/-- A directory with two sources, listed out of order, and another file. -/
def whole : FileTree := .directory [
  ("b.go", .file plainSource),
  ("notes", .file []),
  ("a.go", .file itemSource)]

/-- A directory in which the second and the third source are refused. -/
def torn : FileTree := .directory [
  ("c.go", .file [0xFF]),
  ("b.go", .file [0x0A, 0xFF]),
  ("a.go", .file plainSource)]

def shelf : FileSystem where
  root := .directory [("whole", whole), ("torn", torn)]

theorem accepted_of_isOk {host : Host} {file : SourceFile}
    (h : (Source.read host file.content).isOk = true) : file.Accepted host :=
  exists_eq_ok_of_isOk h

theorem exists_read_of_any {file : SourceFile}
    (h : (Source.read .library file.content).toOption.any
      (fun source => decide (source.nesting ≤ Host.library.depth)) = true) :
    ∃ source, Source.read .library file.content = .ok source ∧
      source.nesting ≤ Host.library.depth := by
  obtain ⟨source, hread, hroom⟩ := exists_eq_ok_of_any h
  exact ⟨source, hread, of_decide_eq_true hroom⟩

theorem wellFormed_whole : whole.WellFormed := by
  refine .directory (by decide) (by decide) (List.forall_mem_cons.2 ⟨.file _, ?_⟩)
  exact List.forall_mem_cons.2 ⟨.file _, List.forall_mem_singleton.2 (.file _)⟩

theorem scan_shelf :
    shelf.directory? (Path.absolute shelf.here "whole") = some whole ∧
    shelf.directory? (Path.absolute shelf.here "torn") = some torn ∧
    ((shelf.discover "whole" [] false).map (·.path)).Pairwise Text.Before ∧
    (∃ results, (shelf.discover "whole" [] false).mapM (fun file =>
          ScanResult.ofSource .library {} file.path file.content) = .ok results ∧
      shelf.scan .library { directory := "whole" } = .ok (ScanResult.concat results) ∧
      (ScanResult.concat results).stats =
        { files := 2, structs := 2, candidates := 1, entities := 1 }) ∧
    Source.readAs .library "b.go" [0x0A, 0xFF] = .error ⟨"b.go", .encoding 2⟩ ∧
    shelf.scan .library { directory := "torn" } =
      .error (.record (.source ⟨"b.go", .encoding 2⟩)) := by
  have hwholeDirectory : shelf.directory? (Path.absolute shelf.here "whole") = some whole := rfl
  have htornDirectory : shelf.directory? (Path.absolute shelf.here "torn") = some torn := rfl
  have hwhole := @scan_sources shelf { directory := "whole" } whole .library hwholeDirectory
  have htorn := @scan_sources shelf { directory := "torn" } torn .library htornDirectory
  have hfound : shelf.discover "whole" [] false =
      [⟨"a.go", itemSource⟩, ⟨"b.go", plainSource⟩] :=
    FileTree.discover_eq_of_perm (by decide +kernel) (by decide +kernel)
  have hread : ∀ file ∈ shelf.discover "whole" [] false, ∃ source,
      Source.read .library file.content = .ok source ∧
        source.nesting ≤ Host.library.depth := by
    rw [hfound]
    exact List.forall_mem_cons.2 ⟨exists_read_of_any (by decide +kernel),
      List.forall_mem_singleton.2 (exists_read_of_any (by decide +kernel))⟩
  have hrefused : shelf.discover "torn" [] false =
      [⟨"a.go", plainSource⟩] ++ ⟨"b.go", [0x0A, 0xFF]⟩ :: [⟨"c.go", [0xFF]⟩] :=
    FileTree.discover_eq_of_perm (by decide +kernel) (by decide +kernel)
  have hbefore : ∀ file ∈ [(⟨"a.go", plainSource⟩ : SourceFile)], file.Accepted .library :=
    List.forall_mem_singleton.2 (accepted_of_isOk (by decide +kernel))
  have herror : Source.readAs .library "b.go" [0x0A, 0xFF] = .error ⟨"b.go", .encoding 2⟩ := rfl
  obtain ⟨results, hresults⟩ := hwhole.2.2.2.1 Host.readsGo_library hread
  obtain ⟨hscan, -⟩ := hwhole.2.2.1 results hresults
  refine ⟨hwholeDirectory, htornDirectory, hwhole.1 wellFormed_whole,
    ⟨results, hresults, hscan, ?_⟩, herror,
    (htorn.2.2.2.2 _ _ _ _ hrefused hbefore herror).1⟩
  have hstats : (([⟨"a.go", itemSource⟩, ⟨"b.go", plainSource⟩] : List SourceFile).mapM fun file =>
      ScanResult.ofSource .library {} file.path file.content).toOption.map
        (fun results => (ScanResult.concat results).stats) =
      some { files := 2, structs := 2, candidates := 1, entities := 1 } := by decide +kernel
  rw [hfound] at hresults
  rw [hresults] at hstats
  exact Option.some.inj hstats

/-- A file system with one source, at whose function a walk with little room breaks off. -/
def pit : FileSystem where
  root := .directory [("c.go", .file Recorder.sunkSource)]

/-- The scan of accepted sources need not come to a result. -/
theorem not_forall_scan_returns :
    ¬∀ (host : Host) (fs : FileSystem) (request : ScanRequest) (tree : FileTree), host.ReadsGo →
      fs.directory? (Path.absolute fs.here request.directory) = some tree →
      (∀ file ∈ fs.discover request.directory request.pattern request.recursive,
        file.Accepted host) →
      ∃ result, fs.scan host request = .ok result := by
  intro h
  have hfound : pit.discover "." [] false = [⟨"c.go", Recorder.sunkSource⟩] :=
    FileTree.discover_eq_of_perm (by decide +kernel) (by decide +kernel)
  have haccepted : ∀ file ∈ pit.discover "." [] false, file.Accepted Recorder.narrow := by
    rw [hfound]
    exact List.forall_mem_singleton.2 (accepted_of_isOk (by decide +kernel))
  have hdirectory : pit.directory? (Path.absolute pit.here ".") = some pit.root := rfl
  obtain ⟨result, hscan⟩ := h Recorder.narrow pit {} pit.root
    (Host.readsGo_library.withDepth 2) hdirectory haccepted
  have hdeep : (([⟨"c.go", Recorder.sunkSource⟩] : List SourceFile).mapM
      (SourceFile.scan Recorder.narrow {})).isOk = false := by decide +kernel
  obtain ⟨e, he⟩ := exists_eq_error_of_not_isOk hdeep
  rw [@scan_of_accepted Recorder.narrow pit {} pit.root hdirectory haccepted] at hscan
  dsimp only at hscan
  rw [hfound, he] at hscan
  cases hscan

end FileSystem

end StructSchema
