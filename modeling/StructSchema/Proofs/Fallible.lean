import Mathlib.Data.List.Forall2

/-!
# Fallible steps

What it takes for a chain of steps that may fail to come to a result, and where a list of such
steps fails first.
-/

namespace StructSchema.Fallible

variable {ε ε' α β : Type}

/-! ### One step after another -/

@[simp] theorem ok_bind (a : α) (f : α → Except ε β) : (Except.ok a >>= f) = f a := rfl

@[simp] theorem error_bind (e : ε) (f : α → Except ε β) :
    (Except.error e >>= f) = .error e := rfl

@[simp] theorem throw_eq_error (e : ε) : (throw e : Except ε α) = .error e := rfl

@[simp] theorem pure_eq_ok (a : α) : (pure a : Except ε α) = .ok a := rfl

theorem bind_eq_ok {x : Except ε α} {f : α → Except ε β} {b : β} :
    x >>= f = .ok b ↔ ∃ a, x = .ok a ∧ f a = .ok b := by
  cases x <;> simp

theorem bind_eq_error {x : Except ε α} {f : α → Except ε β} {e : ε} :
    x >>= f = .error e ↔ x = .error e ∨ ∃ a, x = .ok a ∧ f a = .error e := by
  cases x <;> simp

theorem seq_eq_ok {x : Except ε Unit} {y : Except ε β} {b : β} :
    (do x; y) = .ok b ↔ x = .ok () ∧ y = .ok b := by
  cases x <;> simp

theorem map_eq_ok {x : Except ε α} {f : α → β} {b : β} :
    x.map f = .ok b ↔ ∃ a, x = .ok a ∧ f a = b := by
  cases x <;> simp [Except.map]

theorem map_eq_error {x : Except ε α} {f : α → β} {e : ε} : x.map f = .error e ↔ x = .error e := by
  cases x <;> simp [Except.map]

theorem exists_eq_ok_of_isOk {x : Except ε α} (h : x.isOk = true) : ∃ a, x = .ok a := by
  cases x with
  | error e => cases h
  | ok a => exact ⟨a, rfl⟩

theorem exists_eq_error_of_not_isOk {x : Except ε α} (h : x.isOk = false) : ∃ e, x = .error e := by
  cases x with
  | error e => exact ⟨e, rfl⟩
  | ok a => cases h

theorem exists_eq_ok_of_any {x : Except ε α} {p : α → Bool} (h : x.toOption.any p = true) :
    ∃ a, x = .ok a ∧ p a = true := by
  cases x with
  | error e => cases h
  | ok a => exact ⟨a, rfl, h⟩

theorem toOption_eq_some {x : Except ε α} {a : α} : x.toOption = some a ↔ x = .ok a := by
  cases x <;> simp [Except.toOption]

def error? : Except ε α → Option ε
  | .error e => some e
  | .ok _ => none

theorem error?_eq_some {x : Except ε α} {e : ε} : error? x = some e ↔ x = .error e := by
  cases x <;> simp [error?]

theorem mapError_eq_ok {x : Except ε α} {f : ε → ε'} {a : α} :
    x.mapError f = .ok a ↔ x = .ok a := by
  cases x <;> simp [Except.mapError]

theorem mapError_eq_error {x : Except ε α} {f : ε → ε'} {e : ε'} :
    x.mapError f = .error e ↔ ∃ d, x = .error d ∧ f d = e := by
  cases x <;> simp [Except.mapError]

/-! ### A list of steps -/

theorem mapM_cons_ok {f : α → Except ε β} {a : α} {b : β} (l : List α) (h : f a = .ok b) :
    (a :: l).mapM f = (l.mapM f).map (b :: ·) := by
  rw [List.mapM_cons, h]
  cases l.mapM f <;> rfl

theorem mapM_cons_error {f : α → Except ε β} {a : α} {e : ε} (l : List α) (h : f a = .error e) :
    (a :: l).mapM f = .error e := by
  rw [List.mapM_cons, h]
  rfl

/-- All steps of a list have results exactly if the list of these is the result. -/
theorem mapM_eq_ok {f : α → Except ε β} {l : List α} {bs : List β} :
    l.mapM f = .ok bs ↔ List.Forall₂ (fun a b => f a = .ok b) l bs := by
  induction l generalizing bs with
  | nil => simp [List.forall₂_nil_left_iff, eq_comm]
  | cons a l ih =>
    cases h : f a with
    | error e =>
      rw [mapM_cons_error l h, List.forall₂_cons_left_iff]
      simp [h]
    | ok b =>
      rw [mapM_cons_ok l h, map_eq_ok, List.forall₂_cons_left_iff]
      simp only [h, Except.ok.injEq, ih]
      constructor
      · rintro ⟨bs, hbs, rfl⟩
        exact ⟨b, bs, rfl, hbs, rfl⟩
      · rintro ⟨_, bs, rfl, hbs, rfl⟩
        exact ⟨bs, hbs, rfl⟩

theorem mapM_total {f : α → Except ε β} {l : List α} (h : ∀ a ∈ l, ∃ b, f a = .ok b) :
    ∃ bs, l.mapM f = .ok bs := by
  induction l with
  | nil => exact ⟨[], rfl⟩
  | cons a l ih =>
    obtain ⟨⟨b, hb⟩, hl⟩ := List.forall_mem_cons.1 h
    obtain ⟨bs, hbs⟩ := ih hl
    exact ⟨b :: bs, by rw [mapM_cons_ok l hb, hbs]; rfl⟩

theorem exists_rel_of_mem_left {R : α → β → Prop} {l : List α} {bs : List β}
    (h : List.Forall₂ R l bs) {a : α} (ha : a ∈ l) : ∃ b ∈ bs, R a b := by
  induction h with
  | nil => cases ha
  | cons hr _ ih =>
    rcases List.mem_cons.1 ha with rfl | ha
    · exact ⟨_, List.mem_cons_self .., hr⟩
    · obtain ⟨b, hb, hab⟩ := ih ha
      exact ⟨b, List.mem_cons_of_mem _ hb, hab⟩

theorem exists_rel_of_mem_right {R : α → β → Prop} {l : List α} {bs : List β}
    (h : List.Forall₂ R l bs) {b : β} (hb : b ∈ bs) : ∃ a ∈ l, R a b :=
  exists_rel_of_mem_left h.flip hb

theorem exists_of_mem_mapM {f : α → Except ε β} {l : List α} {bs : List β} (h : l.mapM f = .ok bs)
    {b : β} (hb : b ∈ bs) : ∃ a ∈ l, f a = .ok b :=
  exists_rel_of_mem_right (mapM_eq_ok.1 h) hb

theorem exists_eq_ok_of_mapM {f : α → Except ε β} {l : List α} {bs : List β}
    (h : l.mapM f = .ok bs) {a : α} (ha : a ∈ l) : ∃ b, f a = .ok b := by
  obtain ⟨b, -, hab⟩ := exists_rel_of_mem_left (mapM_eq_ok.1 h) ha
  exact ⟨b, hab⟩

/-- A list of steps fails with the error of the first step that fails. -/
theorem mapM_eq_error {f : α → Except ε β} {before after : List α} {a : α} {e : ε}
    (hb : ∀ x ∈ before, ∃ b, f x = .ok b) (ha : f a = .error e) :
    (before ++ a :: after).mapM f = .error e := by
  induction before with
  | nil => exact mapM_cons_error after ha
  | cons x before ih =>
    obtain ⟨b, hx⟩ := hb x (List.mem_cons_self ..)
    rw [List.cons_append, mapM_cons_ok _ hx, ih fun y hy => hb y (List.mem_cons_of_mem _ hy)]
    rfl

theorem mapM_eq_some {f : α → Option β} {l : List α} {bs : List β} :
    l.mapM f = some bs ↔ List.Forall₂ (fun a b => f a = some b) l bs := by
  induction l generalizing bs with
  | nil => simp [List.forall₂_nil_left_iff, eq_comm]
  | cons a l ih =>
    rw [List.forall₂_cons_left_iff]
    simp only [List.mapM_cons, Option.bind_eq_bind, Option.bind_eq_some_iff, Option.pure_def,
      Option.some.injEq, ih]
    constructor
    · rintro ⟨b, hb, bs, hbs, rfl⟩
      exact ⟨b, bs, hb, hbs, rfl⟩
    · rintro ⟨b, bs, hb, hbs, rfl⟩
      exact ⟨b, hb, bs, hbs, rfl⟩

theorem mapM_eq_none {f : α → Option β} {l : List α} :
    l.mapM f = none ↔ ∃ a ∈ l, f a = none := by
  induction l with
  | nil => simp
  | cons a l ih =>
    rw [List.mapM_cons]
    simp only [List.mem_cons, exists_eq_or_imp, ← ih]
    cases f a with
    | none => simp
    | some b => cases l.mapM f with
      | none => simp
      | some bs => simp

theorem exists_of_foldlM_eq_error {f : β → α → Except ε β} {l : List α} {b : β} {e : ε}
    (h : l.foldlM f b = .error e) : ∃ a ∈ l, ∃ b', f b' a = .error e := by
  induction l generalizing b with
  | nil => cases h
  | cons a l ih =>
    rw [List.foldlM_cons] at h
    rcases bind_eq_error.1 h with ha | ⟨next, -, hl⟩
    · exact ⟨a, List.mem_cons_self .., b, ha⟩
    · obtain ⟨a', ha', hstep⟩ := ih hl
      exact ⟨a', List.mem_cons_of_mem a ha', hstep⟩

/-! ### A list of checks -/

theorem forM_eq_ok {f : α → Except ε Unit} {l : List α} :
    l.forM f = .ok () ↔ ∀ a ∈ l, f a = .ok () := by
  induction l with
  | nil => exact ⟨fun _ => nofun, fun _ => rfl⟩
  | cons a l ih =>
    have hcons : (a :: l).forM f = f a >>= fun _ => l.forM f := rfl
    rw [hcons, bind_eq_ok, List.forall_mem_cons, ← ih]
    constructor
    · rintro ⟨_, ha, hl⟩
      exact ⟨ha, hl⟩
    · intro h
      exact ⟨(), h.1, h.2⟩

theorem forM_congr {f g : α → Except ε Unit} {l : List α} (h : ∀ a ∈ l, f a = g a) :
    l.forM f = l.forM g := by
  induction l with
  | nil => rfl
  | cons a l ih =>
    obtain ⟨ha, hl⟩ := List.forall_mem_cons.1 h
    have hcons : ∀ check : α → Except ε Unit,
        (a :: l).forM check = check a >>= fun _ => l.forM check := fun _ => rfl
    rw [hcons, hcons, ha, ih hl]

theorem forM_eq_error {f : α → Except ε Unit} {l : List α} {e : ε} :
    l.forM f = .error e ↔
      ∃ before a after, l = before ++ a :: after ∧ (∀ b ∈ before, f b = .ok ()) ∧
        f a = .error e := by
  induction l with
  | nil =>
    constructor
    · intro h
      cases h
    · rintro ⟨before, a, after, h, -⟩
      cases before <;> cases h
  | cons a l ih =>
    have hcons : (a :: l).forM f = f a >>= fun _ => l.forM f := rfl
    rw [hcons, bind_eq_error]
    constructor
    · rintro (ha | ⟨_, ha, hl⟩)
      · exact ⟨[], a, l, rfl, nofun, ha⟩
      · obtain ⟨before, c, after, rfl, hbefore, hc⟩ := ih.1 hl
        exact ⟨a :: before, c, after, rfl, List.forall_mem_cons.2 ⟨ha, hbefore⟩, hc⟩
    · rintro ⟨before, c, after, h, hbefore, hc⟩
      cases before with
      | nil =>
        cases h
        exact .inl hc
      | cons b before =>
        cases h
        obtain ⟨ha, hrest⟩ := List.forall_mem_cons.1 hbefore
        exact .inr ⟨(), ha, ih.2 ⟨before, c, after, rfl, hrest, hc⟩⟩

/-! ### Up to the first failure -/

/-- What steps one after another give before the first that fails, and the error of this one. -/
def gathered : List (Except ε α) → List α × Option ε
  | [] => ([], none)
  | .error e :: _ => ([], some e)
  | .ok a :: rest => (a :: (gathered rest).1, (gathered rest).2)

theorem gathered_map_ok (l : List α) :
    gathered (l.map (.ok : α → Except ε α)) = (l, none) := by
  induction l with
  | nil => rfl
  | cons a l ih => rw [List.map_cons, gathered, ih]

/-- A list of steps with nothing to be gathered behind it gives what a beginning of it gives: either
one of the steps fails, or all of them come to a result. -/
theorem exists_gathered_map (f : α → Except ε β) (l : List α) {later : List (Except ε β)}
    (hlater : (gathered later).1 = []) :
    ∃ begun, begun <+: l ∧
      List.Forall₂ (fun a b => f a = .ok b) begun (gathered (l.map f ++ later)).1 ∧
      (begun = l ∧ (gathered (l.map f ++ later)).2 = (gathered later).2 ∨
        ∃ a ∈ l, ∃ e, f a = .error e ∧ (gathered (l.map f ++ later)).2 = some e) := by
  induction l with
  | nil =>
    refine ⟨[], List.prefix_rfl, ?_, .inl ⟨rfl, rfl⟩⟩
    rw [List.map_nil, List.nil_append, hlater]
    exact .nil
  | cons a l ih =>
    rw [List.map_cons, List.cons_append]
    cases ha : f a with
    | error e =>
      exact ⟨[], List.nil_prefix, .nil, .inr ⟨a, List.mem_cons_self .., e, ha, rfl⟩⟩
    | ok b =>
      obtain ⟨begun, hbegun, hgives, hend⟩ := ih
      refine ⟨a :: begun, (List.prefix_cons_inj a).2 hbegun, .cons ha hgives, ?_⟩
      rcases hend with ⟨rfl, hend⟩ | ⟨c, hc, e, he, hend⟩
      · exact .inl ⟨rfl, hend⟩
      · exact .inr ⟨c, List.mem_cons_of_mem a hc, e, he, hend⟩

end StructSchema.Fallible
