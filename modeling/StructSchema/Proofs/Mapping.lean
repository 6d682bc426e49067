import Mathlib.Data.List.Basic
import StructSchema.Value

/-!
# Mappings with and without a key

What stands under a text key after an entry has been put into a mapping or taken out of it.
-/

namespace StructSchema

namespace Value

variable {entries : List (Value × Value)} {key : Text}

theorem isKey_iff {v : Value} : isKey key v = true ↔ v = .string key := by
  cases v with
  | string t => simp only [isKey, decide_eq_true_eq, string.injEq]
  | _ => exact iff_of_false nofun nofun

theorem isKey_iff_eq {other : Text} {v : Value} (h : isKey key v = true) :
    isKey other v = true ↔ other = key := by
  rw [isKey_iff.1 h, isKey_iff, string.injEq, eq_comm]

theorem lookup?_cons (k v : Value) :
    lookup? key ((k, v) :: entries) =
      if k.isKey key = true then some v else lookup? key entries := by
  by_cases h : k.isKey key = true
  · simp [lookup?, h]
  · simp [lookup?, h]

theorem lookup?_putEntry (key other : Text) (value : Value) (entries : List (Value × Value)) :
    lookup? other (putEntry key value entries) =
      if other = key then some value else lookup? other entries := by
  induction entries with
  | nil =>
    have hkey : (Value.string key).isKey key = true := isKey_iff.2 rfl
    rw [putEntry, lookup?_cons]
    simp only [isKey_iff_eq hkey]
  | cons entry rest ih =>
    obtain ⟨k, v⟩ := entry
    by_cases hk : k.isKey key = true
    · rw [putEntry, if_pos hk, lookup?_cons, lookup?_cons]
      simp only [isKey_iff_eq hk]
      by_cases ho : other = key <;> simp [ho]
    · rw [putEntry, if_neg hk, lookup?_cons, lookup?_cons, ih]
      by_cases ho : other = key <;> simp [ho, hk]

/-- The entries of a mapping that stand under other keys. -/
def eraseEntry (key : Text) (entries : List (Value × Value)) : List (Value × Value) :=
  entries.filter fun (k, _) => !k.isKey key

theorem lookup?_eraseEntry (key other : Text) (entries : List (Value × Value)) :
    lookup? other (eraseEntry key entries) =
      if other = key then none else lookup? other entries := by
  induction entries with
  | nil => split <;> rfl
  | cons entry rest ih =>
    obtain ⟨k, v⟩ := entry
    rw [eraseEntry] at ih ⊢
    by_cases hk : k.isKey key = true
    · rw [List.filter_cons_of_neg (by simp [hk]), ih, lookup?_cons]
      simp only [isKey_iff_eq hk]
      by_cases ho : other = key <;> simp [ho]
    · rw [List.filter_cons_of_pos (by simp [hk]), lookup?_cons, lookup?_cons, ih]
      by_cases ho : other = key <;> simp [ho, hk]

end Value

end StructSchema
