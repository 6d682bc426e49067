import StructSchema.Discovery
import Mathlib.Data.List.Nodup

/-!
# The order of discovered sources

The order by code points is linear on texts, and in a tree in which no directory has two entries of
one name no two sources have one path. So the sources that a search finds are strictly ordered by
their paths.
-/

namespace StructSchema

/-! ### The order by code points -/

theorem CodePoint.val_injective {c d : CodePoint} (h : c.val = d.val) : c = d := by
  cases c with
  | char c =>
    cases d with
    | char d => rw [Char.toNat_inj.1 h]
    | lone half =>
      have hc : c.toNat = 0xD800 + half.val := h
      have hvalid : c.toNat < 0xD800 ∨ 0xDFFF < c.toNat ∧ c.toNat < 0x110000 := c.valid
      omega
  | lone half =>
    cases d with
    | char d =>
      have hd : 0xD800 + half.val = d.toNat := h
      have hvalid : d.toNat < 0xD800 ∨ 0xDFFF < d.toNat ∧ d.toNat < 0x110000 := d.valid
      omega
    | lone half' =>
      have heq : 0xD800 + half.val = 0xD800 + half'.val := h
      have hhalf : half = half' := Fin.ext (by omega)
      rw [hhalf]

namespace Text

theorem le_cons_iff {a b : CodePoint} {as bs : Text} :
    le (a :: as) (b :: bs) = true ↔ a.val < b.val ∨ a.val = b.val ∧ le as bs = true := by
  simp [le]

theorem le_total (a b : Text) : (le a b || le b a) = true := by
  induction a generalizing b with
  | nil => simp [le]
  | cons a as ih =>
    cases b with
    | nil => simp [le]
    | cons b bs =>
      rw [Bool.or_eq_true, le_cons_iff, le_cons_iff]
      have hrest := ih bs
      rw [Bool.or_eq_true] at hrest
      rcases Nat.lt_trichotomy a.val b.val with h | h | h
      · exact .inl (.inl h)
      · rcases hrest with hrest | hrest
        · exact .inl (.inr ⟨h, hrest⟩)
        · exact .inr (.inr ⟨h.symm, hrest⟩)
      · exact .inr (.inl h)

theorem le_trans {a b c : Text} (hab : le a b = true) (hbc : le b c = true) : le a c = true := by
  induction a generalizing b c with
  | nil => rfl
  | cons a as ih =>
    cases b with
    | nil => cases hab
    | cons b bs =>
      cases c with
      | nil => cases hbc
      | cons c cs =>
        rw [le_cons_iff] at hab hbc ⊢
        rcases hab with hab | ⟨hab, has⟩
        · rcases hbc with hbc | ⟨hbc, -⟩
          · exact .inl (by omega)
          · exact .inl (by omega)
        · rcases hbc with hbc | ⟨hbc, hbs⟩
          · exact .inl (by omega)
          · exact .inr ⟨by omega, ih has hbs⟩

theorem le_antisymm {a b : Text} (hab : le a b = true) (hba : le b a = true) : a = b := by
  induction a generalizing b with
  | nil =>
    cases b with
    | nil => rfl
    | cons b bs => cases hba
  | cons a as ih =>
    cases b with
    | nil => cases hab
    | cons b bs =>
      rw [le_cons_iff] at hab hba
      have hval : a.val = b.val := by omega
      have has : le as bs = true := (hab.resolve_left (by omega)).2
      have hbs : le bs as = true := (hba.resolve_left (by omega)).2
      rw [CodePoint.val_injective hval, ih has hbs]

/-- Strictly before in the order by code points. -/
def Before (a b : Text) : Prop := le a b = true ∧ a ≠ b

instance : DecidableRel Before := fun _ _ => inferInstanceAs (Decidable (_ ∧ _))

end Text

/-! ### Paths below a directory -/

/-- No directory of the tree has two entries of one name, and no name holds a slash. -/
inductive FileTree.WellFormed : FileTree → Prop
  | file (content : List UInt8) : WellFormed (.file content)
  | directory {entries : List (Text × FileTree)} :
    (entries.map (·.1)).Nodup → (∀ entry ∈ entries, .char '/' ∉ entry.1) →
      (∀ entry ∈ entries, WellFormed entry.2) → WellFormed (.directory entries)

namespace Discovery

theorem name_eq_of_append_slash {m n s t : Text} (hm : .char '/' ∉ m) (hn : .char '/' ∉ n)
    (h : m ++ .char '/' :: s = n ++ .char '/' :: t) : m = n := by
  induction m generalizing n with
  | nil =>
    cases n with
    | nil => rfl
    | cons d n =>
      rw [List.nil_append, List.cons_append, List.cons.injEq] at h
      exact absurd (h.1 ▸ List.mem_cons_self ..) hn
  | cons c m ih =>
    cases n with
    | nil =>
      rw [List.nil_append, List.cons_append, List.cons.injEq] at h
      exact absurd (h.1 ▸ List.mem_cons_self ..) hm
    | cons d n =>
      rw [List.cons_append, List.cons_append, List.cons.injEq] at h
      rw [List.mem_cons, not_or] at hm hn
      rw [h.1, ih hm.2 hn.2 h.2]

theorem mem_sourcesIn {base : Text} {entries : List (Text × FileTree)} {file : SourceFile} :
    file ∈ sourcesIn base entries ↔ ∃ name, (name, FileTree.file file.content) ∈ entries ∧
      file.path = base ++ name ∧ isSourceName name = true := by
  unfold sourcesIn
  rw [List.mem_filterMap]
  constructor
  · intro h
    obtain ⟨⟨name, tree⟩, hentry, hfile⟩ := h
    cases tree with
    | directory _ => cases hfile
    | file content =>
      dsimp only at hfile
      split at hfile
      · rename_i hsource
        cases hfile
        exact ⟨name, hentry, rfl, hsource⟩
      · cases hfile
  · intro h
    obtain ⟨name, hentry, hpath, hsource⟩ := h
    refine ⟨(name, .file file.content), hentry, ?_⟩
    dsimp only
    rw [if_pos hsource, ← hpath]

theorem path_of_mem_sourcesIn {base : Text} {entries : List (Text × FileTree)} {file : SourceFile}
    (h : file ∈ sourcesIn base entries) : ∃ entry ∈ entries, file.path = base ++ entry.1 := by
  obtain ⟨name, hentry, hpath, -⟩ := mem_sourcesIn.1 h
  exact ⟨_, hentry, hpath⟩

mutual

theorem path_of_mem_sources {recursive : Bool} {base : Text} {file : SourceFile} :
    ∀ tree : FileTree, file ∈ sources recursive base tree → ∃ suffix, file.path = base ++ suffix
  | .file _, h => by
    rw [sources] at h
    cases h
  | .directory entries, h => by
    rw [sources, List.mem_append] at h
    rcases h with h | h
    · obtain ⟨entry, -, hpath⟩ := path_of_mem_sourcesIn h
      exact ⟨_, hpath⟩
    · split at h
      · obtain ⟨name, -, suffix, hpath⟩ := path_of_mem_sourcesBelow entries h
        exact ⟨_, hpath⟩
      · cases h

theorem path_of_mem_sourcesBelow {base : Text} {file : SourceFile} :
    ∀ entries : List (Text × FileTree), file ∈ sourcesBelow base entries →
      ∃ entry ∈ entries, ∃ suffix, file.path = base ++ (entry.1 ++ .char '/' :: suffix)
  | [], h => by
    rw [sourcesBelow] at h
    cases h
  | (name, tree) :: rest, h => by
    rw [sourcesBelow, List.mem_append] at h
    rcases h with h | h
    · split at h
      · obtain ⟨suffix, hpath⟩ := path_of_mem_sources tree h
        refine ⟨(name, tree), List.mem_cons_self .., suffix, ?_⟩
        rw [hpath, List.append_assoc, List.append_assoc]
        rfl
      · cases h
    · obtain ⟨entry, hentry, hsuffix⟩ := path_of_mem_sourcesBelow rest h
      exact ⟨entry, List.mem_cons_of_mem _ hentry, hsuffix⟩

end

theorem nodup_sourcesIn {base : Text} {entries : List (Text × FileTree)}
    (h : (entries.map (·.1)).Nodup) : ((sourcesIn base entries).map (·.path)).Nodup := by
  induction entries with
  | nil => exact .nil
  | cons entry rest ih =>
    obtain ⟨name, tree⟩ := entry
    rw [List.map_cons, List.nodup_cons] at h
    have hrest := ih h.2
    cases tree with
    | directory _ => exact hrest
    | file content =>
      by_cases hsource : isSourceName name = true
      · have hcons : sourcesIn base ((name, .file content) :: rest) =
            ⟨base ++ name, content⟩ :: sourcesIn base rest :=
          List.filterMap_cons_some (by simp [hsource])
        rw [hcons, List.map_cons, List.nodup_cons]
        refine ⟨fun hmem => ?_, hrest⟩
        obtain ⟨file, hfile, hpath⟩ := List.mem_map.1 hmem
        obtain ⟨entry, hentry, hentryPath⟩ := path_of_mem_sourcesIn hfile
        have hname : entry.1 = name := List.append_cancel_left (hentryPath.symm.trans hpath)
        exact h.1 (List.mem_map.2 ⟨entry, hentry, hname⟩)
      · have hcons : sourcesIn base ((name, .file content) :: rest) = sourcesIn base rest :=
          List.filterMap_cons_none (by simp [hsource])
        rw [hcons]
        exact hrest

mutual

theorem nodup_sources {recursive : Bool} {base : Text} :
    ∀ tree : FileTree, tree.WellFormed → ((sources recursive base tree).map (·.path)).Nodup
  | .file _, _ => by
    rw [sources]
    exact .nil
  | .directory entries, .directory hnodup hnames htrees => by
    rw [sources, List.map_append, List.nodup_append]
    refine ⟨nodup_sourcesIn hnodup, ?_, ?_⟩
    · split
      · exact nodup_sourcesBelow entries hnodup hnames htrees
      · exact .nil
    · -- a path in the directory ends with a name, one below it has a slash there
      intro path hpath below hbelow heq
      obtain ⟨file, hfile, rfl⟩ := List.mem_map.1 hpath
      obtain ⟨entry, hentry, hin⟩ := path_of_mem_sourcesIn hfile
      split at hbelow
      · obtain ⟨other, hother, rfl⟩ := List.mem_map.1 hbelow
        obtain ⟨directory, -, suffix, hunder⟩ := path_of_mem_sourcesBelow entries hother
        rw [hin, hunder] at heq
        have hslash : .char '/' ∈ entry.1 := by
          rw [List.append_cancel_left heq]
          exact List.mem_append_right _ (List.mem_cons_self ..)
        exact hnames entry hentry hslash
      · cases hbelow

theorem nodup_sourcesBelow {base : Text} :
    ∀ entries : List (Text × FileTree), (entries.map (·.1)).Nodup →
      (∀ entry ∈ entries, .char '/' ∉ entry.1) → (∀ entry ∈ entries, entry.2.WellFormed) →
        ((sourcesBelow base entries).map (·.path)).Nodup
  | [], _, _, _ => by
    rw [sourcesBelow]
    exact .nil
  | (name, tree) :: rest, hnodup, hnames, htrees => by
    rw [List.map_cons, List.nodup_cons] at hnodup
    obtain ⟨hname, hrestNames⟩ := List.forall_mem_cons.1 hnames
    obtain ⟨htree, hrestTrees⟩ := List.forall_mem_cons.1 htrees
    rw [sourcesBelow, List.map_append, List.nodup_append]
    refine ⟨?_, nodup_sourcesBelow rest hnodup.2 hrestNames hrestTrees, ?_⟩
    · split
      · exact nodup_sources tree htree
      · exact .nil
    · -- paths below different directories differ before their first slash
      intro path hpath later hlater heq
      split at hpath
      · obtain ⟨file, hfile, rfl⟩ := List.mem_map.1 hpath
        obtain ⟨suffix, hunder⟩ := path_of_mem_sources tree hfile
        obtain ⟨other, hother, rfl⟩ := List.mem_map.1 hlater
        obtain ⟨entry, hentry, suffix', hunder'⟩ := path_of_mem_sourcesBelow rest hother
        rw [hunder, hunder', List.append_assoc, List.append_assoc] at heq
        have hsame : name = entry.1 := name_eq_of_append_slash hname (hrestNames entry hentry)
          (List.append_cancel_left heq)
        exact hnodup.1 (List.mem_map.2 ⟨entry, hentry, hsame.symm⟩)
      · cases hpath

end

end Discovery

/-! ### Discovered sources -/

namespace FileTree

theorem pairwise_le_discover (pattern : Text) (recursive : Bool) (tree : FileTree) :
    (tree.discover pattern recursive).Pairwise fun a b => Text.le a.path b.path = true := by
  have htrans : ∀ a b c : SourceFile, Text.le a.path b.path = true →
      Text.le b.path c.path = true → Text.le a.path c.path = true := fun _ _ _ => Text.le_trans
  have htotal : ∀ a b : SourceFile, (Text.le a.path b.path || Text.le b.path a.path) = true :=
    fun a b => Text.le_total a.path b.path
  exact List.pairwise_mergeSort htrans htotal _

theorem nodup_discover {tree : FileTree} (h : tree.WellFormed) (pattern : Text)
    (recursive : Bool) : ((tree.discover pattern recursive).map (·.path)).Nodup := by
  have hperm := List.mergeSort_perm ((Discovery.sources recursive [] tree).filter fun file =>
    !isExcluded pattern file.path) fun a b => Text.le a.path b.path
  have hsources : ((Discovery.sources recursive [] tree).map (·.path)).Nodup :=
    Discovery.nodup_sources tree h
  rw [discover, (hperm.map (·.path)).nodup_iff]
  exact hsources.sublist (List.filter_sublist.map _)

/-- The paths of the sources that a search finds are strictly ordered. -/
theorem pairwise_before_discover {tree : FileTree} (h : tree.WellFormed) (pattern : Text)
    (recursive : Bool) : ((tree.discover pattern recursive).map (·.path)).Pairwise Text.Before := by
  have hle : ((tree.discover pattern recursive).map (·.path)).Pairwise fun a b =>
      Text.le a b = true := by
    rw [List.pairwise_map]
    exact pairwise_le_discover pattern recursive tree
  exact hle.and (nodup_discover h pattern recursive)

/-- A search finds the one arrangement of the sources that are left which is strictly ordered. -/
theorem discover_eq_of_perm {pattern : Text} {recursive : Bool} {tree : FileTree}
    {files : List SourceFile}
    (hperm : files.Perm ((Discovery.sources recursive [] tree).filter fun file =>
      !isExcluded pattern file.path))
    (hordered : (files.map (·.path)).Pairwise Text.Before) :
    tree.discover pattern recursive = files := by
  have hfound : (tree.discover pattern recursive).Perm files :=
    (List.mergeSort_perm _ _).trans hperm.symm
  have hnodup : (files.map (·.path)).Nodup := hordered.imp fun h => h.2
  have hle : files.Pairwise fun a b => Text.le a.path b.path = true := by
    rw [List.pairwise_map] at hordered
    exact hordered.imp fun h => h.1
  refine List.Perm.eq_of_pairwise (fun a b ha hb hab hba => ?_)
    (pairwise_le_discover pattern recursive tree) hle hfound
  exact List.inj_on_of_nodup_map hnodup (hfound.subset ha) hb (Text.le_antisymm hab hba)

end FileTree

end StructSchema
