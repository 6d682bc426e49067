import StructSchema.Proofs.Fallible
import StructSchema.Scan

/-!
# Recorders do not remember

What a recorder makes of a struct does not depend on what it holds: every step puts the outcome for
an empty recorder behind what is there. So the structs of several sources leave one recorder with
the outcomes of the single sources, one behind another.
-/

namespace StructSchema

open Fallible

namespace Recorder

/-! ### One recorder behind another -/

def append (first second : Recorder) : Recorder where
  entities := first.entities ++ second.entities
  rejections := first.rejections ++ second.rejections
  structsSeen := first.structsSeen + second.structsSeen
  candidates := first.candidates + second.candidates

theorem append_empty (recorder : Recorder) : recorder.append {} = recorder := by
  simp only [append, List.append_nil, Nat.add_zero]

theorem empty_append (recorder : Recorder) : append {} recorder = recorder := by
  simp only [append, List.nil_append, Nat.zero_add]

theorem append_assoc (r s t : Recorder) : (r.append s).append t = r.append (s.append t) := by
  simp only [append, List.append_assoc, Nat.add_assoc]

/-! ### Steps -/

theorem addStruct_eq_append (markers : Markers) (recorder : Recorder) (struct : StructDecl) :
    recorder.addStruct markers struct =
      (recorder.append (addStruct markers {} struct).1, (addStruct markers {} struct).2) := by
  simp only [addStruct]
  split
  · simp [append]
  · simp [append]
  · split <;> simp [append]

/-- What a walk offers is recorded behind what is there as it is in an empty recorder. -/
theorem addOffers_eq_append (markers : Markers) (recorder : Recorder)
    (offers : List (Except Source.WalkError StructDecl)) :
    recorder.addOffers markers offers =
      (recorder.append (addOffers markers {} offers).1, (addOffers markers {} offers).2) := by
  induction offers generalizing recorder with
  | nil => rw [addOffers, addOffers, append_empty]
  | cons offer rest ih =>
    cases offer with
    | error e => rw [addOffers, addOffers, append_empty]
    | ok struct =>
      rw [addOffers, addOffers, addStruct_eq_append markers recorder]
      cases hadded : addStruct markers {} struct with
      | mk part error =>
        cases error with
        | some e => rfl
        | none =>
          -- the rest is recorded behind the first struct, whatever the recorder held before it
          dsimp only
          rw [ih, ih part, append_assoc]

theorem addTree_eq_append (host : Host) (markers : Markers) (file : Option Text)
    (recorder : Recorder) (tree : Source.Tree) :
    recorder.addTree host markers file tree =
      (recorder.append (addTree host markers file {} tree).1,
        (addTree host markers file {} tree).2) :=
  addOffers_eq_append markers recorder (tree.offers host.depth file)

/-! ### Runs -/

def appendAll (parts : List Recorder) : Recorder := parts.foldr append {}

def part (host : Host) (markers : Markers) (entry : Text × Source.Tree) :
    Except Source.WalkError Recorder :=
  match addTree host markers (some entry.1) {} entry.2 with
  | (recorder, none) => .ok recorder
  | (_, some e) => .error e

/-- Trees one after another are recorded as each is in an empty recorder. -/
theorem addTrees_eq (host : Host) (markers : Markers) (trees : List (Text × Source.Tree))
    (recorder : Recorder) :
    recorder.addTrees host markers trees =
      (trees.mapM (part host markers)).map fun parts => recorder.append (appendAll parts) := by
  induction trees generalizing recorder with
  | nil =>
    rw [addTrees, List.mapM_nil, pure_eq_ok, Except.map, appendAll, List.foldr_nil, append_empty]
  | cons entry rest ih =>
    obtain ⟨path, tree⟩ := entry
    rw [addTrees, addTree_eq_append]
    cases hadded : addTree host markers (some path) {} tree with
    | mk added error =>
      cases error with
      | some e =>
        have hpart : part host markers (path, tree) = .error e := by rw [part, hadded]
        rw [mapM_cons_error rest hpart]
        rfl
      | none =>
        have hpart : part host markers (path, tree) = .ok added := by rw [part, hadded]
        rw [mapM_cons_ok rest hpart]
        dsimp only
        rw [ih]
        cases rest.mapM (part host markers) with
        | error e => rfl
        | ok parts =>
          simp only [Except.map, append_assoc]
          rfl

end Recorder

/-! ### Results -/

def ScanStats.add (first second : ScanStats) : ScanStats where
  files := first.files + second.files
  structs := first.structs + second.structs
  candidates := first.candidates + second.candidates
  entities := first.entities + second.entities
  warnings := first.warnings + second.warnings

namespace ScanResult

/-- The results of several scans as one: entities and rejections one behind another, counts added
up. -/
def concat (results : List ScanResult) : ScanResult where
  entities := results.flatMap (·.entities)
  rejections := results.flatMap (·.rejections)
  stats := results.foldr (fun result stats => result.stats.add stats) {}

/-- The result of recorders one behind another, each of which has seen one file. -/
theorem result_appendAll (parts : List Recorder) :
    (Recorder.appendAll parts).result parts.length = concat (parts.map (·.result 1)) := by
  induction parts with
  | nil => rfl
  | cons part parts ih =>
    have hcons : Recorder.appendAll (part :: parts) = part.append (Recorder.appendAll parts) := rfl
    simp only [Recorder.result, concat, ScanResult.mk.injEq] at ih
    obtain ⟨hentities, hrejections, hstats⟩ := ih
    simp only [hcons, Recorder.result, Recorder.append, concat, List.map_cons, List.flatMap_cons,
      List.foldr_cons, List.length_append, List.length_cons, ScanResult.mk.injEq]
    refine ⟨by rw [hentities], by rw [hrejections], ?_⟩
    rw [← hstats, ScanStats.add, Nat.add_comm parts.length]

end ScanResult

end StructSchema
