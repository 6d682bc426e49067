import Mathlib.Data.List.DropRight
import StructSchema.Proofs.Fallible
import StructSchema.Proofs.FileTree

/-!
# Changes of a file system

What can be read from a file system after a file has been written: the bytes at the place to which
the path leads, and everywhere else what was there before. Directories that are made hold no file
and replace none.
-/

namespace StructSchema.FileSystem

open Fallible

def content? (fs : FileSystem) (place : List Text) : Option (List UInt8) := fs.root.content? place

def place (fs : FileSystem) (path : Text) : List Text := Path.locate fs.here path

/-! ### Places of paths -/

theorem enter_of_isEmpty {name : Text} (h : name.isEmpty = true) (location : List Text) :
    Path.enter location name = location := by
  unfold Path.enter
  rw [if_pos (.inl h)]

theorem foldl_enter_of_isEmpty {names : List Text} (h : ∀ name ∈ names, name.isEmpty = true)
    (location : List Text) : names.foldl Path.enter location = location := by
  induction names with
  | nil => rfl
  | cons name rest ih =>
    obtain ⟨hname, hrest⟩ := List.forall_mem_cons.1 h
    rw [List.foldl_cons, enter_of_isEmpty hname]
    exact ih hrest

theorem place_eq (fs : FileSystem) (path : Text) :
    fs.place path = (closedNames path).foldl Path.enter (fs.start path) := by
  have hsplit : closedNames path ++ (Path.names path).rtakeWhile List.isEmpty = Path.names path :=
    List.rdropWhile_append_rtakeWhile
  have hempty : ∀ name ∈ (Path.names path).rtakeWhile List.isEmpty, name.isEmpty = true :=
    fun name hname => List.mem_rtakeWhile_imp hname
  rw [place, Path.locate, ← hsplit, List.foldl_append, foldl_enter_of_isEmpty hempty]
  rfl

theorem not_isEmpty_of_getLast? {path name : Text} (h : (closedNames path).getLast? = some name) :
    name.isEmpty = false := by
  have hne : closedNames path ≠ [] := by
    intro hnil
    rw [hnil] at h
    cases h
  have hlast := List.rdropWhile_last_not List.isEmpty (Path.names path) hne
  rw [List.getLast?_eq_some_getLast hne, Option.some.injEq] at h
  rw [← h]
  exact Bool.eq_false_iff.2 hlast

theorem follow_eq_ok {fs : FileSystem} {location next : List Text} {name : Text}
    (h : fs.follow location name = .ok next) : next = Path.enter location name := by
  unfold follow at h
  split at h
  · cases h
  · split at h
    · cases h
    · dsimp only at h
      split at h
      · cases h
        rfl
      · cases h

theorem followAll_eq_ok {fs : FileSystem} {location found : List Text} {names : List Text}
    (h : fs.followAll location names = .ok found) : found = names.foldl Path.enter location := by
  induction names generalizing location with
  | nil =>
    cases h
    rfl
  | cons name rest ih =>
    rw [followAll, List.foldlM_cons] at h
    obtain ⟨next, hnext, h⟩ := bind_eq_ok.1 h
    rw [List.foldl_cons, ← follow_eq_ok hnext]
    exact ih h

/-! ### Writing a file -/

/-- What a file system becomes: its working directory stays, and of the files only those listed
change, of which the first at a place counts. -/
structure Becomes (fs after : FileSystem) (files : List (List Text × List UInt8)) : Prop where
  here : after.here = fs.here
  content : ∀ place, after.content? place = (files.lookup place).or (fs.content? place)

theorem Becomes.refl (fs : FileSystem) : fs.Becomes fs [] where
  here := rfl
  content _ := rfl

theorem Becomes.trans {fs middle after : FileSystem} {files later : List (List Text × List UInt8)}
    (h : fs.Becomes middle files) (h' : middle.Becomes after later) :
    fs.Becomes after (later ++ files) where
  here := h'.here.trans h.here
  content place := by
    rw [h'.content, h.content, List.lookup_append, Option.or_assoc]

theorem Becomes.place_eq {fs after : FileSystem} {files : List (List Text × List UInt8)}
    (h : fs.Becomes after files) (path : Text) : after.place path = fs.place path := by
  rw [place, place, h.here]

theorem becomes_write {fs after : FileSystem} {path : Text} {content : List UInt8}
    (h : fs.write path content = .ok after) : fs.Becomes after [(fs.place path, content)] := by
  unfold write at h
  split at h
  · cases h
  obtain ⟨parent, hparent, h⟩ := bind_eq_ok.1 h
  dsimp only at h
  split at h
  · rename_i entries name hentries hname
    split at h
    · cases h
    rename_i hplain
    split at h
    · cases h
    rename_i hfree
    cases h
    rw [not_or, not_or] at hplain
    have hfound := followAll_eq_ok hparent
    have hsplit : closedNames path = (closedNames path).dropLast ++ [name] :=
      (List.dropLast_append_getLast? name hname).symm
    have hplace : fs.place path = parent ++ [name] := by
      have henter : Path.enter parent name = parent ++ [name] := by
        unfold Path.enter
        rw [not_isEmpty_of_getLast? hname]
        simp [hplain.1, hplain.2.1]
      rw [place_eq, hsplit, List.foldl_append, ← hfound]
      exact henter
    refine ⟨rfl, fun place => ?_⟩
    rw [hplace, content?, content?, FileTree.content?_put_file hentries (Bool.eq_false_iff.2 hfree)]
    simp only [List.lookup_cons, List.lookup_nil]
    by_cases hsame : place = parent ++ [name]
    · simp [hsame]
    · have hother : (place == parent ++ [name]) = false := by simpa using hsame
      rw [hother, if_neg hsame]
      rfl
  · cases h
  · cases h

/-- Where a file can be written, it can be with any bytes. -/
theorem exists_write {fs after : FileSystem} {path : Text} {content : List UInt8}
    (h : fs.write path content = .ok after) (other : List UInt8) :
    ∃ after, fs.write path other = .ok after := by
  unfold write at h ⊢
  split at h
  · cases h
  · rename_i hpath
    rw [if_neg hpath]
    dsimp only
    obtain ⟨parent, hparent, h⟩ := bind_eq_ok.1 h
    rw [hparent, ok_bind]
    dsimp only at h ⊢
    split at h
    · rename_i hentries hname
      split at h
      · cases h
      · rename_i hplain
        split at h
        · cases h
        · rename_i hfree
          rw [if_neg hplain, if_neg hfree]
          exact ⟨_, rfl⟩
    · cases h
    · cases h
/-! ### Making directories -/

theorem isDirectory_of_any {tree : Option FileTree} (h : tree.any FileTree.isDirectory = true) :
    ∃ entries, tree = some (.directory entries) := by
  cases tree with
  | none => cases h
  | some found =>
    cases found with
    | file content => cases h
    | directory entries => exact ⟨entries, rfl⟩

/-- A name that leads to nothing leads neither to where one is nor above it. -/
theorem enter_of_missing {tree : FileTree} {location : List Text} {name : Text}
    (hlocation : tree.get? location ≠ none) (h : tree.get? (Path.enter location name) = none) :
    Path.enter location name = location ++ [name] := by
  unfold Path.enter at h ⊢
  by_cases hstay : name.isEmpty = true ∨ name = "."
  · rw [if_pos hstay] at h
    exact absurd h hlocation
  · rw [if_neg hstay] at h ⊢
    by_cases hup : name = ".."
    · rw [if_pos hup] at h
      exact absurd h (FileTree.get?_ne_none_of_prefix (List.dropLast_prefix _) hlocation)
    · rw [if_neg hup]

theorem becomes_enterMaking {fs after : FileSystem} {last : Bool} {location next : List Text}
    {name : Text} (h : fs.enterMaking last location name = .ok (after, next)) :
    fs.Becomes after [] := by
  unfold enterMaking at h
  dsimp only at h
  split at h
  · cases h
    exact Becomes.refl fs
  · cases h
  · rename_i hnone
    split at h
    · rename_i hlocation
      cases h
      obtain ⟨entries, hentries⟩ := isDirectory_of_any hlocation
      have hexists : fs.root.get? location ≠ none := by
        rw [hentries]
        exact Option.some_ne_none _
      have hnext := enter_of_missing hexists hnone
      refine ⟨rfl, fun place => ?_⟩
      rw [hnext] at hnone
      rw [content?, hnext]
      exact FileTree.content?_put_directory hentries hnone place
    · cases h

theorem becomes_makeAll {fs after : FileSystem} {location : List Text} {names : List Text}
    (h : fs.makeAll location names = .ok after) : fs.Becomes after [] := by
  induction names generalizing fs location with
  | nil =>
    cases h
    exact Becomes.refl _
  | cons name rest ih =>
    rw [makeAll] at h
    obtain ⟨⟨middle, next⟩, hmiddle, h⟩ := bind_eq_ok.1 h
    exact (becomes_enterMaking hmiddle).trans (ih h)

theorem becomes_makeDirectories {fs after : FileSystem} {path : Text}
    (h : fs.makeDirectories path = .ok after) : fs.Becomes after [] := by
  unfold makeDirectories at h
  split at h
  · cases h
  · exact becomes_makeAll h

/-- A file that is written once its directory has been made is the only one that changes. -/
theorem becomes_write_made {fs after : FileSystem} {directory path : Text} {content : List UInt8}
    (h : (fs.makeDirectories directory >>= fun made => made.write path content) = .ok after) :
    fs.Becomes after [(fs.place path, content)] := by
  obtain ⟨made, hmake, hwrite⟩ := bind_eq_ok.1 h
  have hmade := becomes_makeDirectories hmake
  have hdone := hmade.trans (becomes_write hwrite)
  rw [hmade.place_eq] at hdone
  exact hdone

end StructSchema.FileSystem
