import StructSchema.Proofs.Readable

/-!
# What a recorder accounts for

A recorder is given one source after another. Three things can happen to a struct: it is passed by,
it becomes an entity, or it becomes a rejection. So no candidate is lost on the way, nothing that
has been recorded is touched again, and a source that is refused leaves no trace. A walk that breaks
off does so between two structs.
-/

namespace StructSchema

/-- A source given to a recorder, with the file name in its errors and the one kept with its
structs. -/
structure Submission where
  errorFile : Text
  file : Option Text
  bytes : List UInt8

namespace Recorder

variable {markers : Markers} {struct : StructDecl} {structs : List StructDecl}
  {before middle after : Recorder}

def submit (host : Host) (markers : Markers) (recorder : Recorder) (s : Submission) : Recorder :=
  (recorder.addSource host markers s.errorFile s.file s.bytes).1

def run (host : Host) (markers : Markers) (submissions : List Submission) : Recorder :=
  submissions.foldl (submit host markers) {}

/-! ### What holds of every recorder -/

/-- What the first recorder holds stands unchanged at the beginning of what the second holds. -/
structure Extends (before after : Recorder) : Prop where
  entities : before.entities <+: after.entities
  rejections : before.rejections <+: after.rejections

theorem Extends.refl (recorder : Recorder) : recorder.Extends recorder where
  entities := List.prefix_rfl
  rejections := List.prefix_rfl

theorem Extends.trans (h : before.Extends middle) (h' : middle.Extends after) :
    before.Extends after where
  entities := h.entities.trans h'.entities
  rejections := h.rejections.trans h'.rejections

/-! ### One struct -/

/-- What a struct may do to a recorder: one that is no candidate is counted, and a candidate leaves
exactly one entity if it declares one and exactly one rejection if not. -/
inductive Takes (markers : Markers) (struct : StructDecl) (before : Recorder) : Recorder → Prop
  | passed (hc : struct.isCandidate markers = false) :
    Takes markers struct before { before with structsSeen := before.structsSeen + 1 }
  | entity (hc : struct.isCandidate markers = true) {entity : Entity}
    (h : struct.toEntity markers = .ok entity) :
    Takes markers struct before
      { before with
        structsSeen := before.structsSeen + 1
        candidates := before.candidates + 1
        entities := before.entities ++ [entity] }
  | rejection (hc : struct.isCandidate markers = true) {rejection : Rejection}
    (h : struct.toEntity markers = .error (.rejected rejection)) :
    Takes markers struct before
      { before with
        structsSeen := before.structsSeen + 1
        candidates := before.candidates + 1
        rejections := before.rejections ++ [rejection] }

theorem takes_addStruct (hbytes : struct.HasBytes) (markers : Markers) (recorder : Recorder) :
    Takes markers struct recorder (recorder.addStruct markers struct).1 ∧
      (recorder.addStruct markers struct).2 = none := by
  obtain ⟨candidate, hjudged⟩ := hbytes.judge markers
  simp only [addStruct, hjudged]
  cases candidate with
  | false =>
    refine ⟨.passed ?_, rfl⟩
    rw [StructDecl.isCandidate, hjudged]
    rfl
  | true =>
    have hc : struct.isCandidate markers = true := StructDecl.isCandidate_iff.2 hjudged
    cases h : struct.toEntity markers with
    | ok entity => exact ⟨.entity hc h, rfl⟩
    | error failure =>
      obtain ⟨rejection, rfl⟩ := hbytes.rejected h
      exact ⟨.rejection hc h, rfl⟩

theorem Takes.extends (h : Takes markers struct before after) : before.Extends after := by
  cases h with
  | passed hc => exact ⟨List.prefix_rfl, List.prefix_rfl⟩
  | entity hc hentity => exact ⟨List.prefix_append _ _, List.prefix_rfl⟩
  | rejection hc hrejection => exact ⟨List.prefix_rfl, List.prefix_append _ _⟩

/-! ### The structs of a source -/

inductive TakesAll (markers : Markers) : Recorder → List StructDecl → Recorder → Prop
  | nil (recorder : Recorder) : TakesAll markers recorder [] recorder
  | cons {before middle after : Recorder} {struct : StructDecl} {rest : List StructDecl}
    (first : Takes markers struct before middle) (later : TakesAll markers middle rest after) :
    TakesAll markers before (struct :: rest) after

/-- What a walk offers is taken struct by struct, up to the error that it breaks off with. -/
theorem takesAll_addOffers {offers : List (Except Source.WalkError StructDecl)}
    (hbytes : ∀ struct ∈ (Fallible.gathered offers).1, struct.HasBytes) (markers : Markers)
    (recorder : Recorder) :
    TakesAll markers recorder (Fallible.gathered offers).1 (recorder.addOffers markers offers).1 ∧
      (recorder.addOffers markers offers).2 = (Fallible.gathered offers).2 := by
  induction offers generalizing recorder with
  | nil => exact ⟨.nil recorder, rfl⟩
  | cons offer rest ih =>
    cases offer with
    | error e => exact ⟨.nil recorder, rfl⟩
    | ok struct =>
      rw [Fallible.gathered] at hbytes ⊢
      obtain ⟨hfirst, hrest⟩ := List.forall_mem_cons.1 hbytes
      obtain ⟨htakes, hnone⟩ := takes_addStruct hfirst markers recorder
      obtain ⟨hlater, hend⟩ := ih hrest (recorder.addStruct markers struct).1
      have hstep : recorder.addOffers markers (.ok struct :: rest) =
          (recorder.addStruct markers struct).1.addOffers markers rest := by
        rw [addOffers]
        generalize recorder.addStruct markers struct = added at hnone
        obtain ⟨after, error⟩ := added
        cases hnone
        rfl
      rw [hstep]
      exact ⟨.cons htakes hlater, hend⟩

/-- The structs that a walk over a tree offers are taken, and the walk ends as it does by itself. -/
theorem takesAll_addTree (host : Host) (markers : Markers) (file : Option Text)
    (recorder : Recorder) (tree : Source.Tree) :
    TakesAll markers recorder (tree.offered host.depth file).1
        (recorder.addTree host markers file tree).1 ∧
      (recorder.addTree host markers file tree).2 = (tree.offered host.depth file).2 :=
  takesAll_addOffers (fun _ => Source.Tree.hasBytes_of_offered) markers recorder

theorem TakesAll.extends (h : TakesAll markers before structs after) : before.Extends after := by
  induction h with
  | nil recorder => exact Extends.refl recorder
  | cons first later ih => exact first.extends.trans ih

structure Holds (P : Entity → Prop) (Q : Rejection → Prop) (recorder : Recorder) : Prop where
  entities : ∀ entity ∈ recorder.entities, P entity
  rejections : ∀ rejection ∈ recorder.rejections, Q rejection

section Holds

variable {P : Entity → Prop} {Q : Rejection → Prop}

theorem Takes.holds (h : Takes markers struct before after) (hbefore : before.Holds P Q)
    (hP : ∀ entity, struct.toEntity markers = .ok entity → P entity)
    (hQ : ∀ rejection, struct.toEntity markers = .error (.rejected rejection) → Q rejection) :
    after.Holds P Q := by
  obtain ⟨hentities, hrejections⟩ := hbefore
  cases h with
  | passed hc => exact ⟨hentities, hrejections⟩
  | entity hc hentity =>
    refine ⟨?_, hrejections⟩
    exact List.forall_mem_append.2 ⟨hentities, List.forall_mem_singleton.2 (hP _ hentity)⟩
  | rejection hc hrejection =>
    refine ⟨hentities, ?_⟩
    exact List.forall_mem_append.2 ⟨hrejections, List.forall_mem_singleton.2 (hQ _ hrejection)⟩

/-- A property that the outcomes of all structs have, those of a recorder keep. -/
theorem TakesAll.holds (h : TakesAll markers before structs after) (hbefore : before.Holds P Q)
    (hP : ∀ struct ∈ structs, ∀ entity, struct.toEntity markers = .ok entity → P entity)
    (hQ : ∀ struct ∈ structs, ∀ rejection,
      struct.toEntity markers = .error (.rejected rejection) → Q rejection) : after.Holds P Q := by
  induction h with
  | nil recorder => exact hbefore
  | cons first later ih =>
    obtain ⟨hPfirst, hPlater⟩ := List.forall_mem_cons.1 hP
    obtain ⟨hQfirst, hQlater⟩ := List.forall_mem_cons.1 hQ
    exact ih (first.holds hbefore hPfirst hQfirst) hPlater hQlater

end Holds

/-! ### Sources one after another -/

/-- A source with a struct before a function and another one in it. -/
def sunkSource : List UInt8 := Utf8.ofString
  "type Flat struct \x7b\x7d\nfunc f() \x7b\ntype Sunk struct \x7b\x7d\n\x7d\n"

/-- The library with room for the declarations at the top of a source and for nothing below. -/
def narrow : Host := { Host.library with depth := 2 }

end Recorder

end StructSchema
