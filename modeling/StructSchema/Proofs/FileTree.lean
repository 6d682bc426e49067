import StructSchema.FileSystem
import StructSchema.Proofs.NameTable

/-!
# Files at their places

The place of a file is the list of names that leads to it from the top of its tree. A subtree that
is put into a directory changes what stands at its own place and below, and nothing anywhere else.
-/

namespace StructSchema.FileTree

/-! ### Places -/

def content? (tree : FileTree) (place : List Text) : Option (List UInt8) :=
  match tree.get? place with
  | some (.file content) => some content
  | _ => none

@[simp] theorem get?_nil (tree : FileTree) : tree.get? [] = some tree := by
  rw [get?]

@[simp] theorem get?_file_cons (content : List UInt8) (name : Text) (rest : List Text) :
    (file content).get? (name :: rest) = none := rfl

theorem get?_directory_cons (entries : List (Text × FileTree)) (name : Text) (rest : List Text) :
    (directory entries).get? (name :: rest) = (entries.lookup name).bind (·.get? rest) := by
  rw [get?]
  cases entries.lookup name with
  | none => rfl
  | some below => rfl

theorem get?_cons_eq_some {entries : List (Text × FileTree)} (h : (entries.map (·.1)).Nodup)
    {name : Text} {rest : List Text} {found : FileTree} :
    (directory entries).get? (name :: rest) = some found ↔
      ∃ tree, (name, tree) ∈ entries ∧ tree.get? rest = some found := by
  rw [get?_directory_cons, Option.bind_eq_some_iff]
  simp only [NameTable.lookup_eq_some_iff h]

theorem get?_append (tree : FileTree) (place rest : List Text) :
    tree.get? (place ++ rest) = (tree.get? place).bind (·.get? rest) := by
  induction place generalizing tree with
  | nil => rw [List.nil_append, get?_nil, Option.bind_some]
  | cons name place ih =>
    cases tree with
    | file content => rfl
    | directory entries =>
      rw [List.cons_append, get?_directory_cons, get?_directory_cons]
      cases entries.lookup name with
      | none => rfl
      | some below => exact ih below

theorem get?_ne_none_of_prefix {tree : FileTree} {above place : List Text} (h : above <+: place)
    (hplace : tree.get? place ≠ none) : tree.get? above ≠ none := by
  obtain ⟨rest, rfl⟩ := h
  intro hnone
  rw [get?_append, hnone] at hplace
  exact hplace rfl

theorem content?_eq_some {tree : FileTree} {place : List Text} {content : List UInt8} :
    tree.content? place = some content ↔ tree.get? place = some (.file content) := by
  unfold content?
  split
  · rename_i found hfound
    simp [hfound]
  · rename_i hother
    constructor
    · intro h
      cases h
    · intro h
      exact (hother content h).elim

theorem content?_file_cons (content : List UInt8) (name : Text) (rest : List Text) :
    (file content).content? (name :: rest) = none := rfl

theorem content?_directory_cons (entries : List (Text × FileTree)) (name : Text)
    (rest : List Text) :
    (directory entries).content? (name :: rest) = (entries.lookup name).bind (·.content? rest) := by
  unfold content?
  rw [get?_directory_cons]
  cases entries.lookup name with
  | none => rfl
  | some below => rfl

theorem content?_append_of_none {tree : FileTree} {place : List Text}
    (h : tree.get? place = none) (rest : List Text) : tree.content? (place ++ rest) = none := by
  unfold content?
  rw [get?_append, h]
  rfl

/-! ### Putting a subtree -/

theorem lookup_putEntry (name key : Text) (tree : FileTree) (entries : List (Text × FileTree)) :
    (putEntry name tree entries).lookup key =
      if key = name then some tree else entries.lookup key := by
  induction entries with
  | nil =>
    simp only [putEntry, List.lookup_cons, List.lookup_nil]
    split <;> simp_all
  | cons entry rest ih =>
    obtain ⟨n, t⟩ := entry
    by_cases h : n = name
    · subst h
      simp only [putEntry, if_true, List.lookup_cons]
      split <;> simp_all
    · simp only [putEntry, h, if_false, List.lookup_cons, ih]
      split <;> simp_all

theorem put_directory_cons (entries : List (Text × FileTree)) (name : Text) (rest : List Text)
    (below : FileTree) :
    (directory entries).put (name :: rest) below =
      .directory (putEntry name
        (((entries.lookup name).getD (.directory [])).put rest below) entries) := by
  rw [put]

@[simp] theorem put_nil (tree below : FileTree) : tree.put [] below = below := by
  rw [put]

/-- What stands in a tree after a subtree has been put under a name of one of its directories. -/
theorem content?_put {tree : FileTree} {location : List Text} {entries : List (Text × FileTree)}
    (h : tree.get? location = some (.directory entries)) (name : Text) (below : FileTree)
    (place : List Text) :
    (tree.put (location ++ [name]) below).content? place =
      if location ++ [name] <+: place then below.content? (place.drop (location.length + 1))
      else tree.content? place := by
  induction location generalizing tree place with
  | nil =>
    rw [get?_nil, Option.some.injEq] at h
    rw [h, List.nil_append, put_directory_cons, put_nil]
    cases place with
    | nil => rfl
    | cons first rest =>
      rw [content?_directory_cons, content?_directory_cons, lookup_putEntry]
      simp only [List.cons_prefix_cons, List.nil_prefix, and_true]
      by_cases hfirst : first = name
      · simp [hfirst]
      · have hother : ¬name = first := fun heq => hfirst heq.symm
        simp [hfirst, hother]
  | cons step location ih =>
    cases tree with
    | file content => cases h
    | directory siblings =>
      rw [get?_directory_cons, Option.bind_eq_some_iff] at h
      obtain ⟨child, hchild, h⟩ := h
      rw [List.cons_append, put_directory_cons, hchild, Option.getD_some]
      cases place with
      | nil => rfl
      | cons first rest =>
        rw [content?_directory_cons, content?_directory_cons, lookup_putEntry]
        simp only [List.cons_prefix_cons]
        by_cases hfirst : first = step
        · subst hfirst
          simp only [if_true, Option.bind_some, hchild, true_and, List.length_cons,
            List.drop_succ_cons]
          exact ih h rest
        · have hother : ¬step = first := fun heq => hfirst heq.symm
          simp [hfirst, hother]

section Directory

variable {tree : FileTree} {location : List Text} {entries : List (Text × FileTree)} {name : Text}

/-- A file that is put where there is no directory is the only one that changes. -/
theorem content?_put_file (h : tree.get? location = some (.directory entries))
    (hplace : (tree.get? (location ++ [name])).any isDirectory = false) (content : List UInt8)
    (place : List Text) :
    (tree.put (location ++ [name]) (.file content)).content? place =
      if place = location ++ [name] then some content else tree.content? place := by
  rw [content?_put h]
  by_cases hprefix : location ++ [name] <+: place
  · obtain ⟨rest, rfl⟩ := hprefix
    rw [if_pos (List.prefix_append _ _), List.append_assoc, List.singleton_append,
      List.drop_append, List.drop_eq_nil_of_le (by omega)]
    cases rest with
    | nil => simp [content?]
    | cons first rest =>
      have hdrop : (name :: first :: rest).drop (location.length + 1 - location.length) =
          first :: rest := by
        rw [show location.length + 1 - location.length = 1 by omega]
        rfl
      have hlonger : ¬location ++ name :: first :: rest = location ++ [name] := by simp
      rw [List.nil_append, hdrop, content?_file_cons, if_neg hlonger]
      -- below a file, or below nothing, there is no file
      have hbelow : tree.get? (location ++ [name] ++ first :: rest) = none := by
        rw [get?_append]
        cases hfound : tree.get? (location ++ [name]) with
        | none => rfl
        | some found =>
          cases found with
          | file content => rfl
          | directory siblings =>
            rw [hfound] at hplace
            cases hplace
      rw [List.append_assoc, List.singleton_append] at hbelow
      unfold content?
      rw [hbelow]
  · have hne : place ≠ location ++ [name] := by
      rintro rfl
      exact hprefix List.prefix_rfl
    rw [if_neg hprefix, if_neg hne]

/-- An empty directory that is put where there is nothing changes no file. -/
theorem content?_put_directory (h : tree.get? location = some (.directory entries))
    (hplace : tree.get? (location ++ [name]) = none) (place : List Text) :
    (tree.put (location ++ [name]) (.directory [])).content? place = tree.content? place := by
  rw [content?_put h]
  by_cases hprefix : location ++ [name] <+: place
  · obtain ⟨rest, rfl⟩ := hprefix
    rw [if_pos (List.prefix_append _ _), content?_append_of_none hplace]
    cases (location ++ [name] ++ rest).drop (location.length + 1) with
    | nil => rfl
    | cons first rest => rfl
  · rw [if_neg hprefix]

end Directory

end StructSchema.FileTree
