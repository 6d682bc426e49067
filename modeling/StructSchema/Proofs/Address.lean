import Mathlib.Data.List.Infix
import StructSchema.Source.Struct

/-!
# Addresses in a tree

A node is found by its address, the list of the children to enter from the root down. In the order
of lists a node comes before what stands below it and before its later siblings, so addresses in
increasing order are in document order. The specs of a tree are collected here with their addresses:
they are exactly the specs with nothing but containers above them, in document order. The leaves are
collected likewise, with their tokens: these are all the tokens of the tree.
-/

namespace StructSchema.Source

/-- Which child to enter at each branch, from the root down. -/
abbrev Address := List Nat

namespace Tree

def isContainer : Tree → Bool
  | .leaf .. => false
  | .branch _ kind _ _ => kind.isContainer

def isSpec : Tree → Bool
  | .leaf .. => false
  | .branch _ kind _ _ => kind.isSpec

def at? : Tree → Address → Option Tree
  | t, [] => some t
  | t, i :: rest => t.children[i]?.bind fun child => child.at? rest

/-- Whether every node above an address is a container. -/
def Reaches (t : Tree) (address : Address) : Prop :=
  ∀ above, above <+: address → above ≠ address →
    ∃ node, t.at? above = some node ∧ node.isContainer = true

theorem at?_cons {t node : Tree} {i : Nat} {rest : Address} :
    t.at? (i :: rest) = some node ↔
      ∃ child, t.children[i]? = some child ∧ child.at? rest = some node := by
  rw [at?, Option.bind_eq_some_iff]

theorem reaches_nil (t : Tree) : t.Reaches [] := by
  intro above hprefix hne
  exact absurd (List.prefix_nil.1 hprefix) hne

theorem reaches_cons {t child : Tree} {i : Nat} {rest : Address}
    (hchild : t.children[i]? = some child) :
    t.Reaches (i :: rest) ↔ t.isContainer = true ∧ child.Reaches rest := by
  constructor
  · intro h
    refine ⟨?_, fun above hprefix hne => ?_⟩
    · obtain ⟨node, hnode, hcontainer⟩ := h [] List.nil_prefix (List.cons_ne_nil i rest).symm
      cases hnode
      exact hcontainer
    · have hbelow : i :: above ≠ i :: rest := fun heq => hne (List.cons_inj_right i |>.1 heq)
      obtain ⟨node, hnode, hcontainer⟩ :=
        h (i :: above) ((List.prefix_cons_inj i).2 hprefix) hbelow
      obtain ⟨found, hfound, hnode⟩ := at?_cons.1 hnode
      rw [hchild] at hfound
      cases hfound
      exact ⟨node, hnode, hcontainer⟩
  · rintro ⟨hcontainer, h⟩ above hprefix hne
    cases above with
    | nil => exact ⟨t, rfl, hcontainer⟩
    | cons j above =>
      obtain ⟨rfl, hbelow⟩ := List.cons_prefix_cons.1 hprefix
      obtain ⟨node, hnode, hcontainer⟩ := h above hbelow fun heq => hne (by rw [heq])
      exact ⟨node, at?_cons.2 ⟨child, hchild, hnode⟩, hcontainer⟩

/-! ### Tokens of a node -/

theorem tokens_of_mem_tokensAll {t : Tree} {ts : List Tree} (h : t ∈ ts) :
    ∀ token ∈ t.tokens, token ∈ tokensAll ts := by
  induction ts with
  | nil => cases h
  | cons u ts ih =>
    intro token htoken
    rw [tokensAll, List.mem_append]
    rcases List.mem_cons.1 h with rfl | h
    · exact .inl htoken
    · exact .inr (ih h token htoken)

theorem tokens_of_mem_children {t child : Tree} (h : child ∈ t.children) :
    ∀ token ∈ child.tokens, token ∈ t.tokens := by
  cases t with
  | leaf label token => cases h
  | branch label kind line children =>
    rw [tokens]
    exact tokens_of_mem_tokensAll h

theorem tokens_of_at? {t node : Tree} {address : Address} (h : t.at? address = some node) :
    ∀ token ∈ node.tokens, token ∈ t.tokens := by
  induction address generalizing t with
  | nil =>
    cases h
    exact fun _ htoken => htoken
  | cons i rest ih =>
    obtain ⟨child, hchild, hnode⟩ := at?_cons.1 h
    intro token htoken
    exact tokens_of_mem_children (List.mem_of_getElem? hchild) token (ih hnode token htoken)

/-! ### What is found in children -/

section InChildren

variable {α : Type}

/-- What is found in several trees that are children from some number on, each with its address. -/
def inChildren (k : Nat) : List (List (Address × α)) → List (Address × α)
  | [] => []
  | found :: more => found.map (fun f => (k :: f.1, f.2)) ++ inChildren (k + 1) more

theorem mem_inChildren {a : α} {address : Address} {k : Nat} {founds : List (List (Address × α))} :
    (address, a) ∈ inChildren k founds ↔
      ∃ i rest found, address = (k + i) :: rest ∧ founds[i]? = some found ∧ (rest, a) ∈ found := by
  induction founds generalizing k with
  | nil =>
    rw [inChildren]
    simp
  | cons found more ih =>
    rw [inChildren, List.mem_append, List.mem_map, ih]
    constructor
    · rintro (⟨⟨rest, b⟩, hfound, heq⟩ | ⟨i, rest, other, rfl, hother, hfound⟩)
      · cases heq
        exact ⟨0, rest, found, rfl, rfl, hfound⟩
      · refine ⟨i + 1, rest, other, ?_, hother, hfound⟩
        rw [Nat.add_assoc, Nat.add_comm 1 i]
    · rintro ⟨i, rest, other, rfl, hother, hfound⟩
      cases i with
      | zero =>
        cases hother
        exact .inl ⟨(rest, a), hfound, rfl⟩
      | succ i =>
        refine .inr ⟨i, rest, other, ?_, hother, hfound⟩
        rw [Nat.add_assoc, Nat.add_comm 1 i]

theorem cons_mem_inChildren {a : α} {i : Nat} {rest : Address} {f : Tree → List (Address × α)}
    {ts : List Tree} :
    (i :: rest, a) ∈ inChildren 0 (ts.map f) ↔ ∃ t, ts[i]? = some t ∧ (rest, a) ∈ f t := by
  rw [mem_inChildren]
  constructor
  · rintro ⟨j, below, found, heq, hfound, ha⟩
    rw [Nat.zero_add] at heq
    cases heq
    rw [List.getElem?_map] at hfound
    obtain ⟨t, ht, rfl⟩ := Option.map_eq_some_iff.1 hfound
    exact ⟨t, ht, ha⟩
  · rintro ⟨t, ht, ha⟩
    refine ⟨i, rest, f t, by rw [Nat.zero_add], ?_, ha⟩
    rw [List.getElem?_map, ht, Option.map_some]

theorem nil_notMem_inChildren {a : α} {k : Nat} {founds : List (List (Address × α))} :
    ([], a) ∉ inChildren k founds := by
  rw [mem_inChildren]
  rintro ⟨i, rest, found, heq, -⟩
  cases heq

/-- If what is found in each child is in document order, all of it is. -/
theorem pairwise_inChildren {k : Nat} {founds : List (List (Address × α))}
    (h : ∀ found ∈ founds, found.Pairwise fun a b => a.1 < b.1) :
    (inChildren k founds).Pairwise fun a b => a.1 < b.1 := by
  induction founds generalizing k with
  | nil => exact .nil
  | cons found more ih =>
    obtain ⟨hfound, hmore⟩ := List.forall_mem_cons.1 h
    rw [inChildren, List.pairwise_append]
    refine ⟨?_, ih hmore, ?_⟩
    · rw [List.pairwise_map]
      exact hfound.imp fun hlt => List.cons_lt_cons_iff.2 (.inr ⟨rfl, hlt⟩)
    · intro a ha b hb
      obtain ⟨f, -, rfl⟩ := List.mem_map.1 ha
      -- what stands in a later child has an address that begins with a larger number
      have hlater : (b.1, b.2) ∈ inChildren (k + 1) more := hb
      obtain ⟨i, rest, other, heq, -, -⟩ := mem_inChildren.1 hlater
      rw [heq]
      have hlt : k < k + 1 + i := by omega
      exact List.cons_lt_cons_iff.2 (.inl hlt)

end InChildren

/-! ### Specs with their addresses -/

mutual

def specsAt : Tree → List (Address × Tree)
  | .leaf .. => []
  | .branch label kind line children =>
    if kind.isSpec then [([], .branch label kind line children)]
    else if kind.isContainer then specsAtAll 0 children
    else []

def specsAtAll (i : Nat) : List Tree → List (Address × Tree)
  | [] => []
  | t :: ts => (specsAt t).map (fun found => (i :: found.1, found.2)) ++ specsAtAll (i + 1) ts

end

mutual

theorem map_specsAt : ∀ t : Tree, t.specsAt.map (·.2) = t.specs
  | .leaf .. => by
    rw [specsAt, specs]
    rfl
  | .branch label kind line children => by
    rw [specsAt, specs]
    split
    · rfl
    split
    · exact map_specsAtAll 0 children
    · rfl

theorem map_specsAtAll (i : Nat) : ∀ ts : List Tree, (specsAtAll i ts).map (·.2) = specsAll ts
  | [] => by
    rw [specsAtAll, specsAll]
    rfl
  | t :: ts => by
    rw [specsAtAll, specsAll, List.map_append, List.map_map, map_specsAtAll (i + 1) ts,
      ← map_specsAt t]
    rfl

end

theorem specsAtAll_eq (k : Nat) (ts : List Tree) :
    specsAtAll k ts = inChildren k (ts.map specsAt) := by
  induction ts generalizing k with
  | nil => rw [specsAtAll, List.map_nil, inChildren]
  | cons t ts ih => rw [specsAtAll, ih, List.map_cons, inChildren]

theorem Kind.isContainer_of_isSpec {kind : Kind} (h : kind.isSpec = true) :
    kind.isContainer = false := by
  cases kind <;> first | rfl | cases h

theorem nil_mem_specsAt {t spec : Tree} :
    ([], spec) ∈ t.specsAt ↔ t = spec ∧ t.isSpec = true := by
  cases t with
  | leaf label token =>
    rw [specsAt]
    simp [isSpec]
  | branch label kind line children =>
    rw [specsAt, isSpec]
    split
    · rename_i hspec
      simp [hspec, eq_comm]
    · rename_i hspec
      have hnone : ([], spec) ∉ specsAtAll 0 children := by
        rw [specsAtAll_eq]
        exact nil_notMem_inChildren
      split <;> simp [hspec, hnone]

theorem cons_mem_specsAt {t spec : Tree} {i : Nat} {rest : Address} :
    (i :: rest, spec) ∈ t.specsAt ↔
      t.isContainer = true ∧
        ∃ child, t.children[i]? = some child ∧ (rest, spec) ∈ child.specsAt := by
  cases t with
  | leaf label token =>
    rw [specsAt]
    simp [isContainer]
  | branch label kind line children =>
    rw [specsAt, isContainer, Tree.children]
    split
    · rename_i hspec
      simp [Kind.isContainer_of_isSpec hspec]
    split
    · rename_i hcontainer
      rw [specsAtAll_eq, cons_mem_inChildren]
      simp [hcontainer]
    · rename_i hcontainer
      simp [hcontainer]

/-- The specs that are collected are those with nothing but containers above them. -/
theorem mem_specsAt {t spec : Tree} {address : Address} :
    (address, spec) ∈ t.specsAt ↔
      t.at? address = some spec ∧ spec.isSpec = true ∧ t.Reaches address := by
  induction address generalizing t with
  | nil =>
    rw [nil_mem_specsAt, at?, Option.some.injEq]
    constructor
    · rintro ⟨rfl, hspec⟩
      exact ⟨rfl, hspec, reaches_nil t⟩
    · rintro ⟨rfl, hspec, -⟩
      exact ⟨rfl, hspec⟩
  | cons i rest ih =>
    rw [cons_mem_specsAt, at?_cons]
    constructor
    · rintro ⟨hcontainer, child, hchild, hfound⟩
      obtain ⟨hnode, hspec, hreaches⟩ := ih.1 hfound
      exact ⟨⟨child, hchild, hnode⟩, hspec, (reaches_cons hchild).2 ⟨hcontainer, hreaches⟩⟩
    · rintro ⟨⟨child, hchild, hnode⟩, hspec, hreaches⟩
      obtain ⟨hcontainer, hreaches⟩ := (reaches_cons hchild).1 hreaches
      exact ⟨hcontainer, child, hchild, ih.2 ⟨hnode, hspec, hreaches⟩⟩

mutual

theorem pairwise_specsAt : ∀ t : Tree, t.specsAt.Pairwise fun a b => a.1 < b.1
  | .leaf .. => by
    rw [specsAt]
    exact .nil
  | .branch label kind line children => by
    rw [specsAt]
    split
    · exact List.pairwise_singleton _ _
    split
    · rw [specsAtAll_eq]
      exact pairwise_inChildren (List.forall_mem_map.2 (pairwise_specsAtAll children))
    · exact .nil

theorem pairwise_specsAtAll :
    ∀ ts : List Tree, ∀ t ∈ ts, t.specsAt.Pairwise fun a b => a.1 < b.1
  | [] => List.forall_mem_nil _
  | t :: ts => List.forall_mem_cons.2 ⟨pairwise_specsAt t, pairwise_specsAtAll ts⟩

end

theorem exists_at?_of_mem_specs {t spec : Tree} (h : spec ∈ t.specs) :
    ∃ address, t.at? address = some spec := by
  rw [← map_specsAt, List.mem_map] at h
  obtain ⟨⟨address, found⟩, hfound, rfl⟩ := h
  exact ⟨address, (mem_specsAt.1 hfound).1⟩

/-! ### Leaves with their addresses -/

mutual

def leavesAt : Tree → List (Address × Token)
  | .leaf _ token => [([], token)]
  | .branch _ _ _ children => leavesAtAll 0 children

def leavesAtAll (i : Nat) : List Tree → List (Address × Token)
  | [] => []
  | t :: ts => (leavesAt t).map (fun found => (i :: found.1, found.2)) ++ leavesAtAll (i + 1) ts

end

mutual

theorem map_leavesAt : ∀ t : Tree, t.leavesAt.map (·.2) = t.tokens
  | .leaf .. => by
    rw [leavesAt, tokens]
    rfl
  | .branch label kind line children => by
    rw [leavesAt, tokens]
    exact map_leavesAtAll 0 children

theorem map_leavesAtAll (i : Nat) : ∀ ts : List Tree, (leavesAtAll i ts).map (·.2) = tokensAll ts
  | [] => by
    rw [leavesAtAll, tokensAll]
    rfl
  | t :: ts => by
    rw [leavesAtAll, tokensAll, List.map_append, List.map_map, map_leavesAtAll (i + 1) ts,
      ← map_leavesAt t]
    rfl

end

theorem leavesAtAll_eq (k : Nat) (ts : List Tree) :
    leavesAtAll k ts = inChildren k (ts.map leavesAt) := by
  induction ts generalizing k with
  | nil => rw [leavesAtAll, List.map_nil, inChildren]
  | cons t ts ih => rw [leavesAtAll, ih, List.map_cons, inChildren]

theorem mem_leavesAt {t : Tree} {address : Address} {token : Token} :
    (address, token) ∈ t.leavesAt ↔ ∃ label, t.at? address = some (.leaf label token) := by
  induction address generalizing t with
  | nil =>
    cases t with
    | leaf label found => simp [leavesAt, at?, eq_comm]
    | branch label kind line children =>
      rw [leavesAt, leavesAtAll_eq]
      simp [nil_notMem_inChildren, at?]
  | cons i rest ih =>
    simp only [at?_cons]
    cases t with
    | leaf label found => simp [leavesAt, children]
    | branch label kind line children =>
      rw [leavesAt, leavesAtAll_eq, cons_mem_inChildren, Tree.children]
      constructor
      · rintro ⟨child, hchild, hfound⟩
        obtain ⟨label, hat⟩ := ih.1 hfound
        exact ⟨label, child, hchild, hat⟩
      · rintro ⟨label, child, hchild, hat⟩
        exact ⟨child, hchild, ih.2 ⟨label, hat⟩⟩

mutual

theorem pairwise_leavesAt : ∀ t : Tree, t.leavesAt.Pairwise fun a b => a.1 < b.1
  | .leaf .. => by
    rw [leavesAt]
    exact List.pairwise_singleton _ _
  | .branch label kind line children => by
    rw [leavesAt, leavesAtAll_eq]
    exact pairwise_inChildren (List.forall_mem_map.2 (pairwise_leavesAtAll children))

theorem pairwise_leavesAtAll :
    ∀ ts : List Tree, ∀ t ∈ ts, t.leavesAt.Pairwise fun a b => a.1 < b.1
  | [] => List.forall_mem_nil _
  | t :: ts => List.forall_mem_cons.2 ⟨pairwise_leavesAt t, pairwise_leavesAtAll ts⟩

end

/-! ### Tokens before an address -/

def tokensBefore (t : Tree) (address : Address) : List Token :=
  (t.leavesAt.filter (·.1 < address)).map (·.2)

theorem exists_tokens_eq {t : Tree} {address : Address} {token : Token}
    (h : (address, token) ∈ t.leavesAt) :
    ∃ after, t.tokens = t.tokensBefore address ++ token :: after := by
  obtain ⟨before, after, hsplit⟩ := List.append_of_mem h
  have hsorted := pairwise_leavesAt t
  rw [hsplit, List.pairwise_append, List.pairwise_cons] at hsorted
  obtain ⟨-, ⟨hafter, -⟩, hbefore⟩ := hsorted
  have hkept : before.filter (·.1 < address) = before := by
    rw [List.filter_eq_self]
    intro found hfound
    exact decide_eq_true (hbefore found hfound _ (List.mem_cons_self ..))
  have hdropped : ((address, token) :: after).filter (·.1 < address) = [] := by
    rw [List.filter_eq_nil_iff]
    intro found hfound hlt
    rw [decide_eq_true_eq] at hlt
    rcases List.mem_cons.1 hfound with rfl | hfound
    · exact List.lt_irrefl _ hlt
    · exact List.lt_asymm hlt (hafter found hfound)
  refine ⟨after.map (·.2), ?_⟩
  rw [tokensBefore, ← map_leavesAt, hsplit, List.filter_append, hkept, hdropped, List.append_nil,
    List.map_append, List.map_cons]

/-! ### Replacing a node -/

/-- Whether no node above an address is a spec. -/
def OutsideSpecs (t : Tree) (address : Address) : Prop :=
  ∀ above node, above <+: address → above ≠ address → t.at? above = some node → node.isSpec = false

theorem outsideSpecs_iff {t : Tree} {address : Address} :
    t.OutsideSpecs address ↔
      ∀ above ∈ address.inits, above ≠ address → (t.at? above).all (!·.isSpec) = true := by
  simp only [OutsideSpecs, List.mem_inits, Option.all_eq_true, Bool.not_eq_true']
  constructor
  · intro h above hprefix hne node hnode
    exact h above node hprefix hne hnode
  · intro h above node hprefix hne hnode
    exact h above hprefix hne node hnode

instance (t : Tree) (address : Address) : Decidable (t.OutsideSpecs address) :=
  decidable_of_iff' _ outsideSpecs_iff

theorem OutsideSpecs.isSpec {t : Tree} {i : Nat} {rest : Address} (h : t.OutsideSpecs (i :: rest)) :
    t.isSpec = false := by
  apply h [] t List.nil_prefix _ rfl
  exact (List.cons_ne_nil i rest).symm

theorem OutsideSpecs.child {t child : Tree} {i : Nat} {rest : Address}
    (h : t.OutsideSpecs (i :: rest)) (hchild : t.children[i]? = some child) :
    child.OutsideSpecs rest := by
  intro above node hprefix hne hnode
  refine h (i :: above) node ((List.prefix_cons_inj i).2 hprefix) ?_ ?_
  · intro heq
    cases heq
    exact hne rfl
  · exact at?_cons.2 ⟨child, hchild, hnode⟩

end Tree

end StructSchema.Source
