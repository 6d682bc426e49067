import StructSchema.Text

/-!
# Name tables

A table maps names to names. It keeps its entries in the order in which their keys were first
put, and no key stands twice.
-/

namespace StructSchema

namespace NameTable

/-- The entries with a value put under a key: in place of the old value, or at the end. -/
def putEntry (key value : Text) : List (Text × Text) → List (Text × Text)
  | [] => [(key, value)]
  | (k, v) :: rest => if k = key then (key, value) :: rest else (k, v) :: putEntry key value rest

theorem keys_putEntry (key value : Text) (entries : List (Text × Text)) :
    (putEntry key value entries).map (·.1) =
      if key ∈ entries.map (·.1) then entries.map (·.1) else entries.map (·.1) ++ [key] := by
  induction entries with
  | nil => simp [putEntry]
  | cons e rest ih =>
    obtain ⟨k, v⟩ := e
    by_cases h : k = key
    · simp [putEntry, h]
    · have h' : ¬key = k := fun e => h e.symm
      simp only [putEntry, h, if_false, List.map_cons, ih, List.mem_cons, h', false_or]
      split <;> simp

theorem lookup_putEntry (key value k : Text) (entries : List (Text × Text)) :
    (putEntry key value entries).lookup k = if k = key then some value else entries.lookup k := by
  induction entries with
  | nil => simp only [putEntry, List.lookup_cons, List.lookup_nil]; split <;> simp_all
  | cons e rest ih =>
    obtain ⟨k', v⟩ := e
    by_cases h : k' = key
    · subst h
      simp only [putEntry, if_true, List.lookup_cons]
      split <;> simp_all
    · simp only [putEntry, h, if_false, List.lookup_cons, ih]
      split <;> simp_all

end NameTable

/-- A map from names to names in the order of first entry. -/
structure NameTable where
  entries : List (Text × Text)
  distinct : (entries.map (·.1)).Nodup

namespace NameTable

def empty : NameTable := ⟨[], List.nodup_nil⟩

instance : Inhabited NameTable := ⟨empty⟩

def get? (table : NameTable) (key : Text) : Option Text := table.entries.lookup key

def insert (table : NameTable) (key value : Text) : NameTable where
  entries := putEntry key value table.entries
  distinct := by
    rw [keys_putEntry]
    split
    · exact table.distinct
    · rename_i h
      exact List.nodup_append.2
        ⟨table.distinct, by simp, by intro a ha b hb e; simp_all⟩

def erase (table : NameTable) (key : Text) : NameTable where
  entries := table.entries.filter (·.1 ≠ key)
  distinct := table.distinct.sublist (List.filter_sublist.map _)

def size (table : NameTable) : Nat := table.entries.length

/-- The table from values to keys; of two keys with one value the later counts. -/
def inverse (table : NameTable) : NameTable :=
  table.entries.foldl (fun inverted (key, value) => inverted.insert value key) empty

/-- Whether two tables hold the same values under the same keys, in any order. -/
def agrees (a b : NameTable) : Bool :=
  a.size == b.size && a.entries.all fun (key, value) => b.get? key == some value

end NameTable

end StructSchema
