import Mathlib.Data.List.DropRight
import StructSchema.Proofs.Discovery
import StructSchema.Proofs.FileTree
import StructSchema.Proofs.Splitting

/-!
# What a search finds

A search finds the files with the ending of sources that the pattern leaves, in the directory itself
or, if it is recursive, below it where no directory on the way is passed by. So it finds the same in
whichever order directories list their entries.
-/

namespace StructSchema

/-! ### Paths of places -/

theorem Text.before_append_left (base a b : Text) :
    Before (base ++ a) (base ++ b) ↔ Before a b := by
  induction base with
  | nil => rfl
  | cons c base ih =>
    rw [← ih]
    simp only [Before, List.cons_append, le_cons_iff, Nat.lt_irrefl, true_and, false_or, ne_eq,
      List.cons.injEq]

theorem Text.join_singleton (sep part : Text) : join sep ([] ++ [part]) = part := by
  rw [List.nil_append, join_cons, List.flatMap_nil, List.append_nil]

theorem Text.join_slash_cons (first : Text) {rest : List Text} (h : rest ≠ []) :
    join "/" (first :: rest) = first ++ "/" ++ join "/" rest := by
  cases rest with
  | nil => exact absurd rfl h
  | cons second rest =>
    rw [join_cons, join_cons, List.flatMap_cons, List.append_assoc, List.append_assoc]

namespace Path

theorem baseName_of_not_mem {name : Text} (h : .char '/' ∉ name) : baseName name = name := by
  have hself : name.rtakeWhile (· ≠ .char '/') = name := by
    rw [List.rtakeWhile_eq_self_iff]
    intro c hc
    rw [decide_eq_true_iff]
    intro heq
    rw [heq] at hc
    exact h hc
  exact hself

theorem baseName_below (directory rest : Text) :
    baseName (directory ++ "/" ++ rest) = baseName rest := by
  have hslash : ((directory ++ "/" : Text).reverse.takeWhile (· ≠ .char '/')) = [] := by
    rw [List.reverse_append]
    rfl
  unfold baseName
  rw [List.reverse_append, List.takeWhile_append, hslash]
  split
  · rename_i hlength
    have hself := (List.takeWhile_sublist _).eq_of_length hlength
    rw [hself, List.append_nil]
  · rfl

theorem baseName_join {directories : List Text} {name : Text} (h : .char '/' ∉ name) :
    baseName (Text.join "/" (directories ++ [name])) = name := by
  induction directories with
  | nil =>
    rw [Text.join_singleton]
    exact baseName_of_not_mem h
  | cons directory rest ih =>
    have hne : rest ++ [name] ≠ [] := List.append_ne_nil_of_right_ne_nil _ (List.cons_ne_nil _ _)
    rw [List.cons_append, Text.join_slash_cons directory hne, baseName_below]
    exact ih

end Path

namespace Discovery

/-! ### Members of a walk -/

theorem mem_sourcesBelow {base : Text} {entries : List (Text × FileTree)} {file : SourceFile} :
    file ∈ sourcesBelow base entries ↔ ∃ name tree, (name, tree) ∈ entries ∧
      isEntered name = true ∧ file ∈ sources true (base ++ name ++ "/") tree := by
  induction entries with
  | nil => simp [sourcesBelow]
  | cons entry rest ih =>
    obtain ⟨name, tree⟩ := entry
    rw [sourcesBelow, List.mem_append, ih]
    constructor
    · intro h
      rcases h with h | ⟨other, below, hentry, hentered, hfile⟩
      · split at h
        · rename_i hentered
          exact ⟨name, tree, List.mem_cons_self .., hentered, h⟩
        · cases h
      · exact ⟨other, below, List.mem_cons_of_mem _ hentry, hentered, hfile⟩
    · intro h
      obtain ⟨other, below, hentry, hentered, hfile⟩ := h
      rcases List.mem_cons.1 hentry with heq | hentry
      · cases heq
        rw [if_pos hentered]
        exact .inl hfile
      · exact .inr ⟨other, below, hentry, hentered, hfile⟩

/-- A file stands where a search looks for it: at a place with a source name at its end, under
directories that are all entered. -/
structure Stands (recursive : Bool) (tree : FileTree) (directories : List Text) (name : Text)
    (content : List UInt8) : Prop where
  found : tree.get? (directories ++ [name]) = some (.file content)
  isSource : isSourceName name = true
  isReached : directories = [] ∨ recursive = true
  areEntered : ∀ directory ∈ directories, isEntered directory = true

section

variable {entries : List (Text × FileTree)} {recursive : Bool} {name : Text} {content : List UInt8}

theorem stands_nil (hnodup : (entries.map (·.1)).Nodup) :
    Stands recursive (.directory entries) [] name content ↔
      (name, FileTree.file content) ∈ entries ∧ isSourceName name = true := by
  have hfound : (FileTree.directory entries).get? ([] ++ [name]) = some (.file content) ↔
      (name, FileTree.file content) ∈ entries := by
    rw [List.nil_append, FileTree.get?_cons_eq_some hnodup]
    simp only [FileTree.get?_nil, Option.some.injEq, exists_eq_right]
  constructor
  · intro h
    exact ⟨hfound.1 h.found, h.isSource⟩
  · intro h
    exact ⟨hfound.2 h.1, h.2, .inl rfl, nofun⟩

theorem stands_cons (hnodup : (entries.map (·.1)).Nodup) {directory : Text} {rest : List Text} :
    Stands recursive (.directory entries) (directory :: rest) name content ↔
      recursive = true ∧ isEntered directory = true ∧
        ∃ tree, (directory, tree) ∈ entries ∧ Stands true tree rest name content := by
  constructor
  · intro h
    obtain ⟨tree, hentry, hfound⟩ := (FileTree.get?_cons_eq_some hnodup).1 h.found
    obtain ⟨hdirectory, hrest⟩ := List.forall_mem_cons.1 h.areEntered
    have hrecursive := h.isReached.resolve_left (List.cons_ne_nil _ _)
    exact ⟨hrecursive, hdirectory, tree, hentry, hfound, h.isSource, .inr rfl, hrest⟩
  · intro h
    obtain ⟨hrecursive, hdirectory, tree, hentry, hbelow⟩ := h
    have hfound := (FileTree.get?_cons_eq_some hnodup).2 ⟨tree, hentry, hbelow.found⟩
    have hentered : ∀ step ∈ directory :: rest, isEntered step = true :=
      List.forall_mem_cons.2 ⟨hdirectory, hbelow.areEntered⟩
    exact ⟨hfound, hbelow.isSource, .inr hrecursive, hentered⟩

end

theorem mem_sources {tree : FileTree} (hw : tree.WellFormed) {recursive : Bool} {base : Text}
    {file : SourceFile} :
    file ∈ sources recursive base tree ↔ ∃ directories name,
      Stands recursive tree directories name file.content ∧
        file.path = base ++ Text.join "/" (directories ++ [name]) := by
  -- on the tree: a file in a directory stands at no further name, one below at one name more
  induction hw generalizing recursive base with
  | file content =>
    rw [sources]
    constructor
    · intro h
      cases h
    · intro h
      obtain ⟨directories, name, hstands, -⟩ := h
      have hfound := hstands.found
      cases directories <;> cases hfound
  | @directory entries hnodup hnames htrees ih =>
    have hpath : ∀ directory rest name,
        base ++ directory ++ "/" ++ Text.join "/" (rest ++ [name]) =
          base ++ Text.join "/" (directory :: rest ++ [name]) := by
      intro directory rest name
      have hne : rest ++ [name] ≠ [] := List.append_ne_nil_of_right_ne_nil _ (List.cons_ne_nil _ _)
      rw [List.cons_append, Text.join_slash_cons directory hne]
      simp only [List.append_assoc]
    rw [sources, List.mem_append, mem_sourcesIn]
    constructor
    · intro h
      rcases h with ⟨name, hentry, hfile, hsource⟩ | h
      · rw [← Text.join_singleton "/" name] at hfile
        exact ⟨[], name, (stands_nil hnodup).2 ⟨hentry, hsource⟩, hfile⟩
      · split at h
        · rename_i hrecursive
          obtain ⟨directory, tree, hentry, hentered, hfile⟩ := mem_sourcesBelow.1 h
          obtain ⟨rest, name, hstands, hbelow⟩ := (ih _ hentry).1 hfile
          rw [hpath] at hbelow
          exact ⟨directory :: rest, name,
            (stands_cons hnodup).2 ⟨hrecursive, hentered, tree, hentry, hstands⟩, hbelow⟩
        · cases h
    · intro h
      obtain ⟨directories, name, hstands, hfile⟩ := h
      cases directories with
      | nil =>
        obtain ⟨hentry, hsource⟩ := (stands_nil hnodup).1 hstands
        rw [Text.join_singleton] at hfile
        exact .inl ⟨name, hentry, hfile, hsource⟩
      | cons directory rest =>
        obtain ⟨hrecursive, hentered, tree, hentry, hbelow⟩ := (stands_cons hnodup).1 hstands
        rw [← hpath] at hfile
        rw [if_pos hrecursive, mem_sourcesBelow]
        exact .inr ⟨directory, tree, hentry, hentered, (ih _ hentry).2 ⟨rest, name, hbelow, hfile⟩⟩

end Discovery

namespace FileTree

/-! ### Members of a search -/

theorem WellFormed.not_mem_slash {tree below : FileTree} (hw : tree.WellFormed)
    {directories : List Text} {name : Text}
    (h : tree.get? (directories ++ [name]) = some below) : .char '/' ∉ name := by
  induction directories generalizing tree with
  | nil =>
    cases hw with
    | file content => cases h
    | directory hnodup hnames _ =>
      obtain ⟨tree, hentry, -⟩ := (get?_cons_eq_some hnodup).1 h
      exact hnames _ hentry
  | cons directory rest ih =>
    cases hw with
    | file content => cases h
    | directory hnodup _ htrees =>
      obtain ⟨tree, hentry, hbelow⟩ := (get?_cons_eq_some hnodup).1 h
      exact ih (htrees _ hentry) hbelow

theorem mem_discover {pattern : Text} {recursive : Bool} {tree : FileTree} {file : SourceFile} :
    file ∈ tree.discover pattern recursive ↔
      file ∈ Discovery.sources recursive [] tree ∧ isExcluded pattern file.path = false := by
  rw [discover, List.mem_mergeSort, List.mem_filter, Bool.not_eq_true']

theorem isExcluded_eq_false {pattern path : Text} :
    isExcluded pattern path = false ↔
      pattern = [] ∨ Glob.accepts pattern (Path.baseName path) = false := by
  rw [isExcluded, Bool.and_eq_false_iff, Bool.not_eq_false', List.isEmpty_iff]

theorem isEntered_eq_true {name : Text} :
    Discovery.isEntered name = true ↔
      name.head? ≠ some (.char '.') ∧
        name ∉ (["vendor", "testdata", "node_modules"] : List Text) := by
  rw [Discovery.isEntered, Bool.and_eq_true, bne_iff_ne, Bool.not_eq_true', List.contains_eq_mem,
    decide_eq_false_iff_not]
  rfl

/-- What a search finds, by the place at which each file stands. -/
theorem mem_discover_iff {tree : FileTree} (hw : tree.WellFormed) {pattern : Text}
    {recursive : Bool} {file : SourceFile} :
    file ∈ tree.discover pattern recursive ↔ ∃ directories name,
      tree.content? (directories ++ [name]) = some file.content ∧
      file.path = Text.join "/" (directories ++ [name]) ∧
      (".go" : Text) <:+ name ∧
      (pattern = [] ∨ Glob.accepts pattern name = false) ∧
      (directories = [] ∨ recursive = true) ∧
      ∀ directory ∈ directories, directory.head? ≠ some (.char '.') ∧
        directory ∉ (["vendor", "testdata", "node_modules"] : List Text) := by
  rw [mem_discover, Discovery.mem_sources hw, isExcluded_eq_false]
  constructor
  · intro h
    obtain ⟨⟨directories, name, hstands, hpath⟩, hkept⟩ := h
    rw [List.nil_append] at hpath
    rw [hpath, Path.baseName_join (hw.not_mem_slash hstands.found)] at hkept
    have hfound := content?_eq_some.2 hstands.found
    refine ⟨directories, name, hfound, hpath, ?_, hkept, hstands.isReached, ?_⟩
    · exact List.isSuffixOf_iff_suffix.1 hstands.isSource
    · intro directory hdirectory
      exact isEntered_eq_true.1 (hstands.areEntered directory hdirectory)
  · intro h
    obtain ⟨directories, name, hfound, hpath, hsource, hkept, hreached, hentered⟩ := h
    rw [content?_eq_some] at hfound
    rw [hpath, Path.baseName_join (hw.not_mem_slash hfound)]
    refine ⟨⟨directories, name, ⟨hfound, ?_, hreached, ?_⟩, rfl⟩, hkept⟩
    · exact List.isSuffixOf_iff_suffix.2 hsource
    · intro directory hdirectory
      exact isEntered_eq_true.2 (hentered directory hdirectory)

/-! ### The order of entries -/

/-- A tree with the entries of its directories, at whatever depth, listed in another order. -/
inductive Reordered : FileTree → FileTree → Prop
  | refl (tree : FileTree) : Reordered tree tree
  | permuted {entries entries' : List (Text × FileTree)} :
    entries.Perm entries' → Reordered (.directory entries) (.directory entries')
  | inside {before after : List (Text × FileTree)} {name : Text} {tree tree' : FileTree} :
    Reordered tree tree' →
      Reordered (.directory (before ++ (name, tree) :: after))
        (.directory (before ++ (name, tree') :: after))
  | trans {tree middle tree' : FileTree} :
    Reordered tree middle → Reordered middle tree' → Reordered tree tree'

theorem Reordered.wellFormed {tree tree' : FileTree} (h : tree.Reordered tree')
    (hw : tree.WellFormed) : tree'.WellFormed := by
  induction h with
  | refl tree => exact hw
  | permuted hperm =>
    cases hw with
    | directory hnodup hnames htrees =>
      refine .directory ((hperm.map _).nodup_iff.1 hnodup) ?_ ?_
      · intro entry hentry
        exact hnames entry (hperm.mem_iff.2 hentry)
      · intro entry hentry
        exact htrees entry (hperm.mem_iff.2 hentry)
  | @inside before after name tree tree' _ ih =>
    cases hw with
    | directory hnodup hnames htrees =>
      have hkeys : (before ++ (name, tree') :: after).map (·.1) =
          (before ++ (name, tree) :: after).map (·.1) := by
        simp only [List.map_append, List.map_cons]
      rw [← hkeys] at hnodup
      rw [List.forall_mem_append, List.forall_mem_cons] at hnames htrees
      refine .directory hnodup ?_ ?_
      · rw [List.forall_mem_append, List.forall_mem_cons]
        exact hnames
      · rw [List.forall_mem_append, List.forall_mem_cons]
        exact ⟨htrees.1, ih htrees.2.1, htrees.2.2⟩
  | trans _ _ ih ih' => exact ih' (ih hw)

theorem Reordered.content?_eq {tree tree' : FileTree} (h : tree.Reordered tree')
    (hw : tree.WellFormed) (place : List Text) : tree'.content? place = tree.content? place := by
  induction h generalizing place with
  | refl tree => rfl
  | permuted hperm =>
    cases hw with
    | directory hnodup _ _ =>
      cases place with
      | nil => rfl
      | cons name rest =>
        rw [content?_directory_cons, content?_directory_cons,
          NameTable.lookup_perm hperm.symm hnodup]
  | @inside before after name tree tree' _ ih =>
    cases hw with
    | directory _ _ htrees =>
      have hw := htrees (name, tree) (List.mem_append_right _ (List.mem_cons_self ..))
      cases place with
      | nil => rfl
      | cons first rest =>
        rw [content?_directory_cons, content?_directory_cons, List.lookup_append,
          List.lookup_append, List.lookup_cons, List.lookup_cons]
        cases before.lookup first with
        | some below => rfl
        | none =>
          by_cases hfirst : first = name
          · rw [beq_iff_eq.2 hfirst]
            exact ih hw rest
          · rw [beq_false_of_ne hfirst]
  | trans h _ ih ih' => rw [ih' (h.wellFormed hw), ih hw]

/-- A search finds the same in two trees with the same files. -/
theorem discover_congr {tree other : FileTree} (hw : tree.WellFormed) (hw' : other.WellFormed)
    (h : ∀ place, other.content? place = tree.content? place) (pattern : Text) (recursive : Bool) :
    other.discover pattern recursive = tree.discover pattern recursive := by
  have hnodup : ∀ {tree : FileTree}, tree.WellFormed → (tree.discover pattern recursive).Nodup :=
    fun hw => (nodup_discover hw pattern recursive).of_map
  have hsame : (tree.discover pattern recursive).Perm (other.discover pattern recursive) := by
    rw [List.perm_ext_iff_of_nodup (hnodup hw) (hnodup hw')]
    intro file
    rw [mem_discover_iff hw, mem_discover_iff hw']
    simp only [h]
  exact discover_eq_of_perm (hsame.trans (List.mergeSort_perm _ _))
    (pairwise_before_discover hw pattern recursive)

/-! ### Patterns and depths -/

theorem discover_subset (pattern : Text) {tree : FileTree} :
    tree.discover pattern false ⊆ tree.discover pattern true := by
  intro file hfile
  rw [mem_discover] at hfile ⊢
  refine ⟨?_, hfile.2⟩
  cases tree with
  | file content => exact hfile.1
  | directory entries =>
    rw [Discovery.sources] at hfile ⊢
    rcases List.mem_append.1 hfile.1 with h | h
    · exact List.mem_append_left _ h
    · cases h

/-- A search with a pattern finds what one without finds and the pattern leaves. -/
theorem discover_eq_filter {tree : FileTree} (hw : tree.WellFormed) (pattern : Text)
    (recursive : Bool) :
    tree.discover pattern recursive =
      (tree.discover [] recursive).filter fun file => !isExcluded pattern file.path := by
  apply discover_eq_of_perm
  · have hall :
        (Discovery.sources recursive [] tree).filter (fun file => !isExcluded [] file.path) =
        Discovery.sources recursive [] tree := List.filter_true _
    rw [discover, hall]
    exact (List.mergeSort_perm _ _).filter _
  · exact (pairwise_before_discover hw [] recursive).sublist (List.filter_sublist.map _)

end FileTree

/-! ### The main statement -/

namespace FileSystem

/-- What a search of the directory that a path leads to finds. -/
theorem discover_found {fs : FileSystem} {path : Text} {tree : FileTree}
    (h : fs.directory? (Path.absolute fs.here path) = some tree) (hw : tree.WellFormed)
    (pattern : Text) (recursive : Bool) :
    (∀ base, ((fs.discover path pattern recursive).map fun file => base ++ file.path).Pairwise
      Text.Before) ∧
    (∀ file, file ∈ fs.discover path pattern recursive ↔ ∃ directories name,
      tree.content? (directories ++ [name]) = some file.content ∧
      file.path = Text.join "/" (directories ++ [name]) ∧
      (".go" : Text) <:+ name ∧
      (pattern = [] ∨ Glob.accepts pattern name = false) ∧
      (directories = [] ∨ recursive = true) ∧
      ∀ directory ∈ directories, directory.head? ≠ some (.char '.') ∧
        directory ∉ (["vendor", "testdata", "node_modules"] : List Text)) ∧
    (∀ tree', tree.Reordered tree' →
      tree'.discover pattern recursive = fs.discover path pattern recursive) ∧
    fs.discover path pattern false ⊆ fs.discover path pattern true ∧
    fs.discover path pattern recursive =
      (fs.discover path [] recursive).filter fun file => !isExcluded pattern file.path := by
  have hdiscover : ∀ pattern recursive,
      fs.discover path pattern recursive = tree.discover pattern recursive := by
    intro pattern recursive
    rw [discover, h]
  simp only [hdiscover]
  refine ⟨fun base => ?_, fun file => FileTree.mem_discover_iff hw, fun tree' htree' => ?_,
    FileTree.discover_subset pattern, FileTree.discover_eq_filter hw pattern recursive⟩
  · have hordered := FileTree.pairwise_before_discover hw pattern recursive
    rw [List.pairwise_map] at hordered ⊢
    exact hordered.imp fun hbefore => (Text.before_append_left base _ _).2 hbefore
  · exact FileTree.discover_congr hw (htree'.wellFormed hw) (htree'.content?_eq hw) pattern
      recursive

/-- A directory with sources at several depths, some of them where no search looks. -/
def nested : FileTree := .directory [
  ("sub", .directory [("vendor", .directory [("v.go", .file [1])]), ("c.go", .file [2])]),
  ("b.go", .file [3]),
  ("b_test.go", .file [4]),
  (".git", .directory [("h.go", .file [5])]),
  ("notes", .file [])]

def nestedReversed : FileTree := .directory [
  ("notes", .file []),
  (".git", .directory [("h.go", .file [5])]),
  ("b_test.go", .file [4]),
  ("b.go", .file [3]),
  ("sub", .directory [("vendor", .directory [("v.go", .file [1])]), ("c.go", .file [2])])]

def cellar : FileSystem where
  root := .directory [("vendor", nested)]

theorem wellFormed_nested : nested.WellFormed := by
  have hsub : FileTree.WellFormed
      (.directory [("vendor", .directory [("v.go", .file [1])]), ("c.go", .file [2])]) := by
    have hvendor : FileTree.WellFormed (.directory [("v.go", .file [1])]) :=
      .directory (by decide) (by decide) (List.forall_mem_singleton.2 (.file _))
    refine .directory (by decide) (by decide) (List.forall_mem_cons.2 ⟨hvendor, ?_⟩)
    exact List.forall_mem_singleton.2 (.file _)
  have hgit : FileTree.WellFormed (.directory [("h.go", .file [5])]) :=
    .directory (by decide) (by decide) (List.forall_mem_singleton.2 (.file _))
  refine .directory (by decide) (by decide) (List.forall_mem_cons.2 ⟨hsub, ?_⟩)
  refine List.forall_mem_cons.2 ⟨.file _, List.forall_mem_cons.2 ⟨.file _, ?_⟩⟩
  exact List.forall_mem_cons.2 ⟨hgit, List.forall_mem_singleton.2 (.file _)⟩

theorem discover_cellar :
    cellar.directory? (Path.absolute cellar.here "vendor") = some nested ∧
    (⟨"sub/c.go", [2]⟩ : SourceFile) ∈ cellar.discover "vendor" "*_test.go" true ∧
    (cellar.discover "vendor" "*_test.go" true).map (·.path) = ["b.go", "sub/c.go"] ∧
    nestedReversed.discover "*_test.go" true = cellar.discover "vendor" "*_test.go" true := by
  have hdirectory : cellar.directory? (Path.absolute cellar.here "vendor") = some nested := rfl
  obtain ⟨-, hmem, horder, -, -⟩ :=
    discover_found hdirectory wellFormed_nested "*_test.go" true
  have hstands : (⟨"sub/c.go", [2]⟩ : SourceFile) ∈ cellar.discover "vendor" "*_test.go" true :=
    (hmem _).2 ⟨["sub"], "c.go", rfl, by decide, by decide, .inr (by decide +kernel), .inr rfl,
      by decide⟩
  have hfound : cellar.discover "vendor" "*_test.go" true = [⟨"b.go", [3]⟩, ⟨"sub/c.go", [2]⟩] :=
    FileTree.discover_eq_of_perm (by decide +kernel) (by decide +kernel)
  have hreversed : nested.Reordered nestedReversed := .permuted (List.reverse_perm _).symm
  refine ⟨hdirectory, hstands, ?_, horder _ hreversed⟩
  rw [hfound]
  rfl

end FileSystem

end StructSchema
