import Mathlib.Data.List.Nodup
import Mathlib.Data.List.Perm.Subperm
import StructSchema.NameTable

/-!
# Tables of pairs

A table is read off the pairs that were put into it one after another. If no key stands twice
among the pairs the table has just these entries; otherwise it is smaller. From this follows when
a table and the inverse of another agree: exactly if each reads the other backwards.
-/

namespace StructSchema.NameTable

/-! ### Keys and values -/

def keys (table : NameTable) : List Text := table.entries.map (·.1)

def values (table : NameTable) : List Text := table.entries.map (·.2)

theorem lookup_eq_some_iff {α : Type} {entries : List (Text × α)} (h : (entries.map (·.1)).Nodup)
    {key : Text} {value : α} : entries.lookup key = some value ↔ (key, value) ∈ entries := by
  induction entries with
  | nil => simp
  | cons e rest ih =>
    obtain ⟨k, v⟩ := e
    simp only [List.map_cons, List.nodup_cons] at h
    rw [List.lookup_cons]
    by_cases hk : key = k
    · subst hk
      have hrest : (key, value) ∉ rest := fun hm => h.1 (List.mem_map_of_mem hm)
      simp [hrest, eq_comm]
    · rw [show (key == k) = false by simpa using hk]
      simp [hk, ih h.2]

theorem lookup_perm {α : Type} {entries others : List (Text × α)} (h : others.Perm entries)
    (hkeys : (entries.map (·.1)).Nodup) (key : Text) : others.lookup key = entries.lookup key := by
  have hothers : (others.map (·.1)).Nodup := (h.map (·.1)).nodup_iff.2 hkeys
  ext value
  rw [lookup_eq_some_iff hothers, lookup_eq_some_iff hkeys, h.mem_iff]

theorem get?_eq_some_iff (table : NameTable) (k v : Text) :
    table.get? k = some v ↔ (k, v) ∈ table.entries := lookup_eq_some_iff table.distinct

theorem get?_eq_none_iff (table : NameTable) (k : Text) : table.get? k = none ↔ k ∉ table.keys := by
  simp only [keys, List.mem_map, not_exists, not_and, Option.eq_none_iff_forall_not_mem,
    Option.mem_def, get?_eq_some_iff]
  exact ⟨fun h e he hk => h e.2 (by rw [← hk]; exact he), fun h v hv => h (k, v) hv rfl⟩

/-! ### Putting pairs one after another -/

theorem putEntry_of_not_mem {key : Text} (value : Text) {entries : List (Text × Text)}
    (h : key ∉ entries.map (·.1)) : putEntry key value entries = entries ++ [(key, value)] := by
  induction entries with
  | nil => rfl
  | cons e rest ih =>
    obtain ⟨k, v⟩ := e
    simp only [List.map_cons, List.mem_cons, not_or] at h
    have hk : ¬k = key := fun e => h.1 e.symm
    simp only [putEntry, if_neg hk, ih h.2, List.cons_append]

theorem size_insert (table : NameTable) (key value : Text) :
    (table.insert key value).size =
      if key ∈ table.keys then table.size else table.size + 1 := by
  have h := congrArg List.length (keys_putEntry key value table.entries)
  simp only [List.length_map] at h
  show (putEntry key value table.entries).length = _
  rw [h]
  simp only [keys, size]
  by_cases hm : key ∈ table.entries.map (·.1) <;> simp [hm]

theorem mem_keys_insert (table : NameTable) (key value k : Text) :
    k ∈ (table.insert key value).keys ↔ k = key ∨ k ∈ table.keys := by
  have h : (table.insert key value).keys = _ := keys_putEntry key value table.entries
  rw [h]
  simp only [keys]
  split
  · rename_i hm
    exact ⟨Or.inr, fun hk => hk.elim (fun e => e ▸ hm) id⟩
  · simp only [List.mem_append, List.mem_singleton]
    exact or_comm

def insertAll (table : NameTable) (pairs : List (Text × Text)) : NameTable :=
  pairs.foldl (fun table pair => table.insert pair.1 pair.2) table

def ofPairs (pairs : List (Text × Text)) : NameTable := empty.insertAll pairs

theorem ofPairs_append_singleton (pairs : List (Text × Text)) (key value : Text) :
    ofPairs (pairs ++ [(key, value)]) = (ofPairs pairs).insert key value := by
  simp only [ofPairs, insertAll, List.foldl_append, List.foldl_cons, List.foldl_nil]

theorem size_insertAll_le (table : NameTable) (pairs : List (Text × Text)) :
    (table.insertAll pairs).size ≤ table.size + pairs.length := by
  induction pairs generalizing table with
  | nil => exact Nat.le_refl _
  | cons p rest ih =>
    have h := ih (table.insert p.1 p.2)
    have hs := size_insert table p.1 p.2
    simp only [insertAll, List.foldl_cons, List.length_cons] at h ⊢
    split at hs <;> omega

theorem size_insertAll_iff (table : NameTable) (pairs : List (Text × Text)) :
    (table.insertAll pairs).size = table.size + pairs.length ↔
      (pairs.map (·.1)).Nodup ∧ ∀ k ∈ pairs.map (·.1), k ∉ table.keys := by
  induction pairs generalizing table with
  | nil => simp [insertAll]
  | cons p rest ih =>
    have hs := size_insert table p.1 p.2
    have hle := size_insertAll_le (table.insert p.1 p.2) rest
    have hstep : table.insertAll (p :: rest) = (table.insert p.1 p.2).insertAll rest := rfl
    rw [hstep, List.length_cons]
    by_cases hm : p.1 ∈ table.keys
    · rw [if_pos hm] at hs
      constructor
      · intro h
        omega
      · intro h
        exact absurd hm (h.2 p.1 (by simp))
    · rw [if_neg hm] at hs
      have hih := ih (table.insert p.1 p.2)
      rw [hs] at hih
      rw [show table.size + (rest.length + 1) = table.size + 1 + rest.length by omega, hih]
      simp only [mem_keys_insert, List.map_cons, List.nodup_cons, List.forall_mem_cons, not_or]
      constructor
      · rintro ⟨hn, hr⟩
        exact ⟨⟨fun hp => (hr p.1 hp).1 rfl, hn⟩, hm, fun k hk => (hr k hk).2⟩
      · rintro ⟨⟨hp, hn⟩, -, hr⟩
        exact ⟨hn, fun k hk => ⟨fun e => hp (e ▸ hk), hr k hk⟩⟩

theorem entries_insertAll (table : NameTable) {pairs : List (Text × Text)}
    (hn : (pairs.map (·.1)).Nodup) (hk : ∀ k ∈ pairs.map (·.1), k ∉ table.keys) :
    (table.insertAll pairs).entries = table.entries ++ pairs := by
  induction pairs generalizing table with
  | nil => simp [insertAll]
  | cons p rest ih =>
    simp only [List.map_cons, List.nodup_cons, List.forall_mem_cons] at hn hk
    have hput : (table.insert p.1 p.2).entries = table.entries ++ [p] :=
      putEntry_of_not_mem p.2 hk.1
    have hrest : ∀ k ∈ rest.map (·.1), k ∉ (table.insert p.1 p.2).keys := by
      intro k hk' hm
      rcases (mem_keys_insert table p.1 p.2 k).1 hm with rfl | hm
      · exact hn.1 hk'
      · exact hk.2 k hk' hm
    show ((table.insert p.1 p.2).insertAll rest).entries = _
    rw [ih _ hn.2 hrest, hput, List.append_assoc, List.singleton_append]

theorem entries_ofPairs {pairs : List (Text × Text)} (h : (pairs.map (·.1)).Nodup) :
    (ofPairs pairs).entries = pairs :=
  entries_insertAll empty h fun _ _ => List.not_mem_nil

theorem get?_ofPairs_perm {pairs others : List (Text × Text)} (h : others.Perm pairs)
    (hkeys : (pairs.map (·.1)).Nodup) (key : Text) :
    (ofPairs others).get? key = (ofPairs pairs).get? key := by
  have hothers : (others.map (·.1)).Nodup := (h.map (·.1)).nodup_iff.2 hkeys
  rw [get?, get?, entries_ofPairs hothers, entries_ofPairs hkeys]
  exact lookup_perm h hkeys key

/-! ### Inverse tables -/

theorem inverse_eq_ofPairs (table : NameTable) :
    table.inverse = ofPairs (table.entries.map Prod.swap) := by
  simp only [inverse, ofPairs, insertAll, List.foldl_map, Prod.fst_swap, Prod.snd_swap]

/-- The inverse is as large as the table exactly if no value stands under two keys. -/
theorem size_inverse_iff (table : NameTable) :
    table.inverse.size = table.size ↔ table.values.Nodup := by
  have h := size_insertAll_iff empty (table.entries.map Prod.swap)
  simp only [List.length_map, List.map_map] at h
  rw [inverse_eq_ofPairs, ofPairs, values]
  have hz : empty.size + table.entries.length = table.size := Nat.zero_add _
  rw [hz] at h
  exact h.trans ⟨fun hv => hv.1, fun hv => ⟨hv, fun _ _ => List.not_mem_nil⟩⟩

theorem mem_map_swap {pairs : List (Text × Text)} {k v : Text} :
    (v, k) ∈ pairs.map Prod.swap ↔ (k, v) ∈ pairs := by
  rw [List.mem_map]
  constructor
  · rintro ⟨e, he, hs⟩
    rw [← Prod.swap_swap e, hs] at he
    exact he
  · exact fun he => ⟨_, he, rfl⟩

theorem get?_inverse {table : NameTable} (h : table.values.Nodup) (k v : Text) :
    table.inverse.get? v = some k ↔ table.get? k = some v := by
  have hn : ((table.entries.map Prod.swap).map (·.1)).Nodup := by
    rw [List.map_map]
    exact h
  rw [get?_eq_some_iff, get?_eq_some_iff, inverse_eq_ofPairs, entries_ofPairs hn, mem_map_swap]

/-! ### Agreement -/

theorem agrees_iff (a b : NameTable) :
    a.agrees b = true ↔ ∀ k v, a.get? k = some v ↔ b.get? k = some v := by
  have hsub : (∀ e ∈ a.entries, b.get? e.1 = some e.2) ↔ a.entries ⊆ b.entries := by
    simp only [get?_eq_some_iff, List.subset_def]
  simp only [agrees, Bool.and_eq_true, beq_iff_eq, List.all_eq_true]
  rw [show (∀ e ∈ a.entries, _) ↔ _ from hsub]
  simp only [get?_eq_some_iff]
  have ha : a.entries.Nodup := List.Nodup.of_map _ a.distinct
  have hb : b.entries.Nodup := List.Nodup.of_map _ b.distinct
  constructor
  · rintro ⟨hs, hsub⟩ k v
    have hp : a.entries.Perm b.entries :=
      (List.subperm_of_subset ha hsub).perm_of_length_le (Nat.le_of_eq hs.symm)
    exact hp.mem_iff
  · intro h
    have hp : a.entries.Perm b.entries := (List.perm_ext_iff_of_nodup ha hb).2 fun e => h e.1 e.2
    exact ⟨hp.length_eq, hp.subset⟩

/-- A table agrees with an inverse of full size exactly if each of the two tables reads the other
backwards. -/
theorem inverse_agrees_iff (forth back : NameTable) :
    (forth.inverse.agrees back = true ∧ forth.inverse.size = forth.size) ↔
      ∀ k v, back.get? v = some k ↔ forth.get? k = some v := by
  rw [size_inverse_iff, agrees_iff]
  constructor
  · rintro ⟨hag, hv⟩ k v
    rw [← hag, get?_inverse hv]
  · intro h
    have hv : forth.values.Nodup := by
      refine List.Nodup.map_on ?_ (List.Nodup.of_map _ forth.distinct)
      rintro ⟨k, v⟩ hk ⟨k', v'⟩ hk' rfl
      have h₁ := (h k v).2 ((get?_eq_some_iff ..).2 hk)
      have h₂ := (h k' v).2 ((get?_eq_some_iff ..).2 hk')
      rw [h₁] at h₂
      cases h₂
      rfl
    exact ⟨fun v k => by rw [get?_inverse hv, h], hv⟩

/-- The tables of the same pairs, forth and back, read each other backwards exactly if no value
stands in two pairs. -/
theorem ofPairs_swap_iff {pairs : List (Text × Text)} (hk : (pairs.map (·.1)).Nodup) :
    (∀ k v, (ofPairs pairs).get? k = some v ↔ (ofPairs (pairs.map Prod.swap)).get? v = some k) ↔
      (pairs.map (·.2)).Nodup := by
  have hforth : ∀ k v, (ofPairs pairs).get? k = some v ↔ (k, v) ∈ pairs := by
    intro k v
    rw [get?_eq_some_iff, entries_ofPairs hk]
  constructor
  · intro h
    refine List.Nodup.map_on ?_ (List.Nodup.of_map _ hk)
    rintro ⟨k, v⟩ hkv ⟨k', v'⟩ hkv' rfl
    have h₁ := (h k v).1 ((hforth k v).2 hkv)
    have h₂ := (h k' v).1 ((hforth k' v).2 hkv')
    rw [h₁] at h₂
    cases h₂
    rfl
  · intro hv k v
    have hn : ((pairs.map Prod.swap).map (·.1)).Nodup := by
      rw [List.map_map]
      exact hv
    rw [hforth, get?_eq_some_iff, entries_ofPairs hn, mem_map_swap]

end StructSchema.NameTable
