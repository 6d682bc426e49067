import StructSchema.Proofs.Acceptance
import StructSchema.Proofs.Accounting
import StructSchema.Proofs.Rejection

/-!
# Recording accepted sources

Once a source is accepted no tag in it can stop its structs from being recorded. Every string
literal in its tree denotes a string, wherever it stands, so every struct tag that is met can be
decoded. The values hold no code point that is without bytes, so the literals inside a tag can be
tried in their turn. What is wrong with a candidate ends as its rejection. What does stop the
recorder are containers for which it has no room.
-/

namespace StructSchema

/-! ### Rejections of candidates -/

namespace Recorder

variable {markers : Markers} {before after : Recorder} {structs : List StructDecl}
  {struct : StructDecl} {r : Rejection}

theorem Takes.mem_rejections (h : Takes markers struct before after)
    (hc : struct.isCandidate markers = true) (hr : struct.toEntity markers = .error (.rejected r)) :
    r ∈ after.rejections := by
  cases h with
  | passed hpassed =>
    rw [hc] at hpassed
    cases hpassed
  | entity _ hentity =>
    rw [hr] at hentity
    cases hentity
  | rejection _ hrejection =>
    rw [hr] at hrejection
    cases hrejection
    exact List.mem_append_right _ (List.mem_singleton_self r)

/-- Among the structs taken one after another, every candidate that declares no entity leaves its
rejection. -/
theorem TakesAll.mem_rejections (h : TakesAll markers before structs after)
    (hmem : struct ∈ structs) (hc : struct.isCandidate markers = true)
    (hr : struct.toEntity markers = .error (.rejected r)) : r ∈ after.rejections := by
  induction h with
  | nil recorder => cases hmem
  | cons first later ih =>
    rcases List.mem_cons.1 hmem with rfl | hmem
    · exact later.extends.rejections.subset (first.mem_rejections hc hr)
    · exact ih hmem

/-! ### Accepted sources -/

theorem offered_of_accepted {host : Host} (hgo : host.ReadsGo) {bytes : List UInt8}
    {tree : Source.Tree} (h : Source.read host bytes = .ok tree) (depth : Nat)
    (file : Option Text) :
    (tree.offered depth file).2 = if tree.nesting ≤ depth then none else some .tooDeep := by
  obtain ⟨structs, hstructs⟩ := (Source.decodes_of_read hgo h).structs file
  obtain ⟨begun, -, -, hend⟩ := Source.Tree.exists_offered depth file tree
  rcases hend with ⟨b, hb, e, he, -⟩ | ⟨hroom, -, hnone⟩ | ⟨hroom, hdeep⟩
  · -- the structs of all bindings can be read
    obtain ⟨struct, -, hgives⟩ :=
      Fallible.exists_rel_of_mem_left (Source.Tree.structs_eq_ok.1 hstructs) hb
    rw [Source.Tree.structDecl_eq_ok.2 hgives] at he
    cases he
  · rw [hnone, if_pos hroom]
  · rw [hdeep, if_neg (Nat.not_le.2 hroom)]

/-- The literals of an accepted source denote strings at every address, its tags can be looked up
in, and its candidates come to entities or to rejections of their own. So it is recorded to its end
if there is room for its containers, and if not, nothing but the want of room breaks the recorder
off. -/
theorem addTree_of_accepted {host : Host} (hgo : host.ReadsGo) {bytes : List UInt8}
    {tree : Source.Tree} (h : Source.read host bytes = .ok tree) :
    (∀ address literal, tree.at? address = some literal → literal.isStringLiteral = true →
      ∃ value, Literal.decode literal.text = .ok value ∧ value.IsEncodable) ∧
    ∀ file, ∃ structs, tree.structs file = .ok structs ∧ (∀ struct ∈ structs, struct.HasBytes) ∧
      ∀ markers (recorder : Recorder),
        ((recorder.addTree host markers file tree).2 =
          if tree.nesting ≤ host.depth then none else some .tooDeep) ∧
        (tree.nesting ≤ host.depth →
          TakesAll markers recorder structs (recorder.addTree host markers file tree).1) ∧
        ∀ struct ∈ structs, (∃ candidate, struct.judge markers = .ok candidate) ∧
          ∀ failure, struct.toEntity markers = .error failure →
            ∃ r, failure = .rejected r ∧ RejectedBy struct r ∧
              (struct.isCandidate markers = true → tree.nesting ≤ host.depth →
                r ∈ (recorder.addTree host markers file tree).1.rejections) := by
  have hdecodes := Source.decodes_of_read hgo h
  refine ⟨?_, fun file => ?_⟩
  · intro address literal hat hliteral
    obtain ⟨value, hvalue⟩ := (hdecodes.at? hat).literal hliteral
    exact ⟨value, hvalue, Literal.isEncodable_of_decode literal.isClean_text.isEncodable hvalue⟩
  · obtain ⟨structs, hstructs⟩ := hdecodes.structs file
    have hbytes : ∀ struct ∈ structs, struct.HasBytes := fun _ hstruct =>
      Source.Tree.hasBytes_of_structs hstructs hstruct
    refine ⟨structs, hstructs, hbytes, fun markers recorder => ?_⟩
    obtain ⟨htakes, hend⟩ := takesAll_addTree host markers file recorder tree
    have htaken (hroom : tree.nesting ≤ host.depth) :
        TakesAll markers recorder structs (recorder.addTree host markers file tree).1 := by
      rw [Source.Tree.offered_of_structs hroom hstructs] at htakes
      exact htakes
    refine ⟨hend.trans (offered_of_accepted hgo h host.depth file), htaken, ?_⟩
    intro struct hstruct
    refine ⟨(hbytes struct hstruct).judge markers, fun failure hfailure => ?_⟩
    obtain ⟨r, rfl⟩ := (hbytes struct hstruct).rejected hfailure
    refine ⟨r, rfl, StructDecl.rejectedBy_of_toEntity hfailure, fun hc hroom => ?_⟩
    exact (htaken hroom).mem_rejections hstruct hc hfailure

/-- A source with a struct in a function whose last tag holds a byte outside UTF-8. -/
def escapedSource : List UInt8 := Utf8.ofString
  ("package m\nfunc f() \x7b\ntype Item struct \x7b\nEntity \x60dosa:\"primaryKey=ID\"\x60\n" ++
    "ID int64\nNote string \"dosa:\\\"name=\\xff\\\"\"\n\x7d\n\x7d\n")

theorem exists_tree_escaped : ∃ tree, Source.read .library escapedSource = .ok tree ∧
    ((tree.at? [1, 4, 1, 0, 1, 1, 1, 3, 2]).any (fun literal => literal.isStringLiteral &&
        (Literal.decode literal.text).toOption.any (·.any CodePoint.isSurrogate)) &&
      (tree.structs (some "a.go")).toOption.any (·.any fun struct =>
        struct.isCandidate {} && !(struct.toEntity {}).isOk) &&
      decide (tree.nesting ≤ Host.library.depth)) = true :=
  Fallible.exists_eq_ok_of_any (by decide +kernel)

/-- The tag is decoded all the same, and its struct is recorded as a rejection. -/
theorem addTree_of_escaped : ∃ tree structs struct r,
    Source.read .library escapedSource = .ok tree ∧ tree.structs (some "a.go") = .ok structs ∧
    tree.nesting ≤ Host.library.depth ∧
    (addTree .library {} (some "a.go") {} tree).2 = none ∧
    TakesAll {} {} structs (addTree .library {} (some "a.go") {} tree).1 ∧ struct ∈ structs ∧
    struct.isCandidate {} = true ∧ struct.toEntity {} = .error (.rejected r) ∧
    r ∈ (addTree .library {} (some "a.go") {} tree).1.rejections ∧ RejectedBy struct r ∧
    ∃ literal value, tree.at? [1, 4, 1, 0, 1, 1, 1, 3, 2] = some literal ∧
      literal.isStringLiteral = true ∧ Literal.decode literal.text = .ok value ∧
      value.IsEncodable ∧ ¬value.IsClean := by
  obtain ⟨tree, hread, hfacts⟩ := exists_tree_escaped
  rw [Bool.and_eq_true, Bool.and_eq_true, decide_eq_true_eq] at hfacts
  obtain ⟨⟨hliteral, hstructs⟩, hroom⟩ := hfacts
  obtain ⟨literal, hat, hfacts⟩ := (Option.any_eq_true _ _).1 hliteral
  rw [Bool.and_eq_true] at hfacts
  obtain ⟨hkind, hsurrogate⟩ := hfacts
  obtain ⟨value, hvalue, hsurrogate⟩ := Fallible.exists_eq_ok_of_any hsurrogate
  obtain ⟨structs, hstructs, hstruct⟩ := Fallible.exists_eq_ok_of_any hstructs
  obtain ⟨struct, hmem, hfacts⟩ := List.any_eq_true.1 hstruct
  rw [Bool.and_eq_true, Bool.not_eq_true'] at hfacts
  obtain ⟨hcandidate, herror⟩ := hfacts
  obtain ⟨failure, hfailure⟩ := Fallible.exists_eq_error_of_not_isOk herror
  have htotal := addTree_of_accepted Host.readsGo_library hread
  obtain ⟨found, hfound, hencodable⟩ := htotal.1 _ literal hat hkind
  rw [hvalue] at hfound
  cases hfound
  obtain ⟨others, hothers, -, hrecord⟩ := htotal.2 (some "a.go")
  rw [hstructs] at hothers
  cases hothers
  obtain ⟨hend, htakes, houtcomes⟩ := hrecord {} {}
  rw [if_pos hroom] at hend
  obtain ⟨r, rfl, hrejected, hmem'⟩ := (houtcomes struct hmem).2 failure hfailure
  refine ⟨tree, structs, struct, r, hread, hstructs, hroom, hend, htakes hroom, hmem, hcandidate,
    hfailure, hmem' hcandidate hroom, hrejected, literal, value, hat, hkind, hvalue, hencodable, ?_⟩
  intro hclean
  obtain ⟨c, hc, hlone⟩ := List.any_eq_true.1 hsurrogate
  rw [hclean c hc] at hlone
  cases hlone

/-- Not every accepted source is recorded to its end. -/
theorem not_forall_addTree_completes :
    ¬∀ (host : Host) (bytes : List UInt8) (tree : Source.Tree), host.ReadsGo →
      Source.read host bytes = .ok tree → ∀ markers file (recorder : Recorder),
        (recorder.addTree host markers file tree).2 = none := by
  intro h
  have hgo : narrow.ReadsGo := Host.readsGo_library.withDepth 2
  obtain ⟨tree, hread, hdeep⟩ : ∃ tree, Source.read narrow sunkSource = .ok tree ∧
      decide (narrow.depth < tree.nesting) = true :=
    Fallible.exists_eq_ok_of_any (by decide +kernel)
  have hend := (takesAll_addTree narrow {} none {} tree).2
  rw [h narrow _ tree hgo hread, offered_of_accepted hgo hread,
    if_neg (Nat.not_le.2 (of_decide_eq_true hdeep))] at hend
  cases hend

end Recorder

end StructSchema
