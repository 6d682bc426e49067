import Mathlib.Data.List.Basic
import StructSchema.Log

/-!
# Logs over whole runs

A log that begins with the empty context and without handlers. Scopes that are entered and left in
nested order give the context back as it was, however the run and the handlers are set inside; and
once a level has been configured, each record is written once or, if its level is below that one or
not above zero, not at all.
-/

namespace StructSchema.Log

/-! ### Parts of a context -/

inductive Field
  | run
  | phase
  | source
  | file
  deriving DecidableEq, Repr

def Context.get (context : Context) : Field → Text
  | .run => context.run
  | .phase => context.phase
  | .source => context.source
  | .file => context.file

/-- What an action gives to a part of the context, if it names this part. -/
def Action.value? : Action → Field → Option Text
  | .setRun id fresh, .run => some (if id.isEmpty then fresh else id)
  | .enter (.phase name _), .phase => some name
  | .enter (.phase _ source), .source => source
  | .enter (.file name), .file => some name
  | _, _ => none

/-! ### Nested scopes -/

/-- Actions that leave each scope they enter, the innermost first, and no other. -/
inductive WellNested : List Action → Prop
  | nil : WellNested []
  | step {action : Action} {rest : List Action} (he : ∀ scope, action ≠ .enter scope)
      (hl : action ≠ .leave) (hrest : WellNested rest) : WellNested (action :: rest)
  | scope {scope : Scope} {inside rest : List Action} (hinside : WellNested inside)
      (hrest : WellNested rest) : WellNested (.enter scope :: (inside ++ .leave :: rest))

/-- The place where a scope is left among nested ones is behind the place where it is entered, with
nested actions in between. -/
theorem WellNested.exists_enter {before after : List Action}
    (h : WellNested (before ++ .leave :: after)) :
    ∃ earlier scope inside, before = earlier ++ .enter scope :: inside ∧ WellNested inside := by
  generalize hactions : before ++ .leave :: after = actions at h
  induction h generalizing before after with
  | nil =>
    have hlength := congrArg List.length hactions
    simp at hlength
  | @step action rest _ hl _ ih =>
    cases before with
    | nil =>
      cases hactions
      exact absurd rfl hl
    | cons first before =>
      obtain ⟨rfl, hrest⟩ := List.cons.inj hactions
      obtain ⟨earlier, scope, inside, rfl, hinside⟩ := ih hrest
      exact ⟨first :: earlier, scope, inside, rfl, hinside⟩
  | @scope scope inside rest hinside _ ihinside ihrest =>
    cases before with
    | nil => cases hactions
    | cons first before =>
      obtain ⟨rfl, hbehind⟩ := List.cons.inj hactions
      -- the scope is left inside the first one, at the end of the first one, or behind it
      obtain ⟨between, hbefore, hrest⟩ | ⟨between, hin, hafter⟩ :=
        List.append_eq_append_iff.1 hbehind
      · cases between with
        | nil =>
          rw [List.append_nil] at hbefore
          subst hbefore
          exact ⟨[], scope, _, rfl, hinside⟩
        | cons left between =>
          obtain ⟨rfl, -⟩ := List.cons.inj hrest
          obtain ⟨earlier, inner, within, rfl, hwithin⟩ := ihinside hbefore.symm
          exact ⟨.enter scope :: earlier, inner, within, rfl, hwithin⟩
      · cases between with
        | nil =>
          rw [List.append_nil] at hin
          subst hin
          exact ⟨[], scope, _, rfl, hinside⟩
        | cons left between =>
          obtain ⟨rfl, hlater⟩ := List.cons.inj hafter
          obtain ⟨earlier, inner, within, rfl, hwithin⟩ := ihrest hlater.symm
          refine ⟨.enter scope :: (inside ++ .leave :: earlier), inner, within, ?_, hwithin⟩
          rw [hin]
          simp only [List.cons_append, List.append_assoc]

namespace State

/-! ### Runs in parts -/

theorem runAll_cons (state : State) (action : Action) (rest : List Action) :
    state.runAll (action :: rest) =
      (((state.run action).1.runAll rest).1,
        (state.run action).2 ++ ((state.run action).1.runAll rest).2) := rfl

theorem runAll_append (state : State) (actions rest : List Action) :
    state.runAll (actions ++ rest) =
      (((state.runAll actions).1.runAll rest).1,
        (state.runAll actions).2 ++ ((state.runAll actions).1.runAll rest).2) := by
  induction actions generalizing state with
  | nil => rfl
  | cons action actions ih =>
    rw [List.cons_append, runAll_cons, ih, runAll_cons, List.append_assoc]

/-- What each action keeps, a run keeps. -/
theorem runAll_keeps {P : State → Prop} {actions : List Action} {state : State}
    (hstep : ∀ state, ∀ action ∈ actions, P state → P (state.run action).1) (h : P state) :
    P (state.runAll actions).1 := by
  induction actions generalizing state with
  | nil => exact h
  | cons action actions ih =>
    have hfirst : P (state.run action).1 := hstep state action (List.mem_cons_self ..) h
    exact ih (fun state other ho => hstep state other (List.mem_cons_of_mem _ ho)) hfirst

def reached (actions : List Action) : State := (runAll {} actions).1

def written (actions : List Action) : List Text := (runAll {} actions).2

theorem reached_append (actions rest : List Action) :
    reached (actions ++ rest) = ((reached actions).runAll rest).1 := by
  rw [reached, runAll_append, reached]

theorem reached_append_singleton (actions : List Action) (action : Action) :
    reached (actions ++ [action]) = ((reached actions).run action).1 := by
  rw [reached_append, runAll_cons]
  rfl

theorem written_append_singleton (actions : List Action) (action : Action) :
    written (actions ++ [action]) = written actions ++ ((reached actions).run action).2 := by
  rw [written, runAll_append, runAll_cons]
  show _ ++ (_ ++ []) = _
  rw [List.append_nil]
  rfl

/-! ### One action -/

section Step

variable {state : State} {action : Action}

theorem get_run (hl : action ≠ .leave) (field : Field) :
    (state.run action).1.context.get field =
      (action.value? field).getD (state.context.get field) := by
  cases action with
  | leave => exact absurd rfl hl
  | setRun id fresh => cases field <;> rfl
  | configure level => cases field <;> rfl
  | emit record => cases field <;> rfl
  | enter scope =>
    cases scope with
    | file name => cases field <;> rfl
    | phase name source => cases source <;> cases field <;> rfl

theorem outer_run (he : ∀ scope, action ≠ .enter scope) (hl : action ≠ .leave) :
    (state.run action).1.outer = state.outer := by
  cases action with
  | enter scope => exact absurd rfl (he scope)
  | leave => exact absurd rfl hl
  | setRun id fresh => rfl
  | configure level => rfl
  | emit record => rfl

theorem settings_run (hc : ∀ level, action ≠ .configure level) :
    (state.run action).1.handlers = state.handlers ∧ (state.run action).1.level = state.level := by
  cases action with
  | configure level => exact absurd rfl (hc level)
  | leave =>
    show state.leave.handlers = _ ∧ state.leave.level = _
    unfold leave
    split <;> exact ⟨rfl, rfl⟩
  | setRun id fresh => exact ⟨rfl, rfl⟩
  | enter scope => exact ⟨rfl, rfl⟩
  | emit record => exact ⟨rfl, rfl⟩

theorem lines_run (he : ∀ record, action ≠ .emit record) : (state.run action).2 = [] := by
  cases action with
  | emit record => exact absurd rfl (he record)
  | setRun id fresh => rfl
  | enter scope => rfl
  | leave => rfl
  | configure level => rfl

end Step

/-! ### Whole runs -/

theorem outer_runAll {actions : List Action} (h : WellNested actions) (state : State) :
    (state.runAll actions).1.outer = state.outer := by
  induction h generalizing state with
  | nil => rfl
  | step he hl _ ih => rw [runAll_cons, ih, outer_run he hl]
  | @scope scope inside rest _ _ ihinside ihrest =>
    have hinside := ihinside (state.enter scope)
    have hleft : (((state.enter scope).runAll inside).1.leave).outer = state.outer := by
      rw [leave, hinside]
      rfl
    rw [runAll_cons, runAll_append, runAll_cons]
    exact (ihrest _).trans hleft

/-- Leaving a scope gives back the context from before it was entered. -/
theorem context_of_scope {inside : List Action} (h : WellNested inside) (state : State)
    (scope : Scope) :
    (state.runAll (.enter scope :: (inside ++ [.leave]))).1.context = state.context := by
  have houter := outer_runAll h (state.enter scope)
  rw [runAll_cons, runAll_append, runAll_cons]
  show (((state.enter scope).runAll inside).1.leave).context = state.context
  rw [leave, houter]
  rfl

/-- No handler, or one with one context filter. -/
def IsPlain (state : State) : Prop :=
  state.handlers = [] ∨ state.handlers = [{ filters := 1 }]

theorem IsPlain.handlers_configure {state : State} (h : state.IsPlain) (level : Int) :
    (state.configure level).handlers = [{ filters := 1 }] := by
  rcases h with h | h
  · simp only [configure, h]
    rfl
  · simp only [configure, h]
    rfl

theorem IsPlain.run {state : State} (h : state.IsPlain) (action : Action) :
    (state.run action).1.IsPlain := by
  by_cases hc : ∃ level, action = .configure level
  · obtain ⟨level, rfl⟩ := hc
    exact .inr (h.handlers_configure level)
  · rw [not_exists] at hc
    rw [IsPlain, (settings_run hc).1]
    exact h

theorem isPlain_reached (actions : List Action) : (reached actions).IsPlain :=
  runAll_keeps (fun _ action _ h => h.run action) (.inl rfl)

theorem handlers_reached (before after : List Action) (level : Int) :
    (reached (before ++ .configure level :: after)).handlers = [{ filters := 1 }] := by
  have hplain := isPlain_reached before
  have hconfigured := hplain.handlers_configure level
  rw [reached_append, runAll_cons]
  -- a level that is configured later finds the one handler and gives it no second filter
  refine runAll_keeps (P := fun state => state.handlers = [{ filters := 1 }]) ?_ hconfigured
  intro state action _ h
  by_cases hc : ∃ level, action = .configure level
  · obtain ⟨level, rfl⟩ := hc
    exact IsPlain.handlers_configure (.inr h) level
  · rw [not_exists] at hc
    rw [(settings_run hc).1]
    exact h

theorem level_reached {before after : List Action} {level : Int}
    (h : ∀ other, .configure other ∉ after) :
    (reached (before ++ .configure level :: after)).level = level := by
  rw [reached_append, runAll_cons]
  refine runAll_keeps (P := fun state => state.level = level) ?_ rfl
  intro state action ha hlevel
  have hc : ∀ other, action ≠ .configure other := by
    rintro other rfl
    exact h other ha
  rw [(settings_run hc).2]
  exact hlevel

/-- A record is written once, in the context that is current, if its level is above zero and the
level configured last does not pass it over. -/
theorem linesOf_reached {after : List Action} (h : ∀ other, .configure other ∉ after)
    (before : List Action) (level : Int) (record : Record) :
    (reached (before ++ .configure level :: after)).linesOf record =
      if 0 < record.level.rank ∧ level ≤ record.level then
        [record.line (reached (before ++ .configure level :: after)).context]
      else [] := by
  rw [linesOf, level_reached h, handlers_reached, List.map_singleton]

/-! ### The main statement -/

/-- What holds at every moment of a run: a scope that is left gives back the whole context, an
action changes only the parts that it names, there is one handler with one filter once a level
has been configured, and a record is written once in the current context unless its level is not
above zero or is below the one configured last; then it is passed over. -/
theorem logged_in_scope :
    (∀ before after : List Action, WellNested (before ++ .leave :: after) →
      ∃ earlier scope inside,
        before = earlier ++ .enter scope :: inside ∧ WellNested inside) ∧
    (∀ (earlier : List Action) (scope : Scope) (inside : List Action), WellNested inside →
      (reached (earlier ++ .enter scope :: (inside ++ [.leave]))).context =
        (reached earlier).context) ∧
    (∀ (before : List Action) (action : Action), action ≠ .leave → ∀ field,
      (reached (before ++ [action])).context.get field =
        (action.value? field).getD ((reached before).context.get field)) ∧
    (∀ (before after : List Action) (level : Int),
      (reached (before ++ .configure level :: after)).handlers = [{ filters := 1 }]) ∧
    (∀ (before : List Action) (action : Action), (∀ record, action ≠ .emit record) →
      written (before ++ [action]) = written before) ∧
    ∀ (before after : List Action) (level : Int) (record : Record),
      (∀ other, .configure other ∉ after) →
        let told := before ++ .configure level :: after
        written (told ++ [.emit record]) = written told ++
          if 0 < record.level.rank ∧ level ≤ record.level then
            [record.line (reached told).context]
          else [] := by
  refine ⟨?_, ?_, ?_, handlers_reached, ?_, ?_⟩
  · intro before after h
    exact h.exists_enter
  · intro earlier scope inside h
    rw [reached_append]
    exact context_of_scope h (reached earlier) scope
  · intro before action hl field
    rw [reached_append_singleton]
    exact get_run hl field
  · intro before action he
    rw [written_append_singleton, lines_run he, List.append_nil]
  · intro before after level record h told
    have hlines := linesOf_reached h before level record
    rw [written_append_singleton]
    exact congrArg (written told ++ ·) hlines

/-- A scope in which another is entered, the run gets a fresh number and the level is configured
again. -/
theorem logged_in_nested_scopes :
    let start : List Action := [.configure (-1), .setRun "r1" "f1"]
    let inside : List Action := [.enter (.file "a.go"), .setRun "" "f2", .leave, .configure (-1)]
    let record : Record := ⟨.error, "scan", "lost"⟩
    let silent : Record := ⟨⟨0⟩, "scan", "none"⟩
    let whole : List Action := .enter (.phase "scan" (some "m")) :: (inside ++ [.leave])
    WellNested (start ++ whole) ∧
      (∃ earlier scope within,
        start ++ .enter (.phase "scan" (some "m")) :: inside =
          earlier ++ .enter scope :: within ∧ WellNested within) ∧
      (reached (start ++ whole)).context = { run := "r1" } ∧
      (reached (start ++ [.setRun "" "f3"])).context.get .run = "f3" ∧
      (reached (start ++ whole)).handlers = [{ filters := 1 }] ∧
      written (start ++ whole) = [] ∧
      written (start ++ whole ++ [.emit record]) =
        ["ERROR | run_id=r1 | phase=- | source=- | file=- | scan | lost\n"] ∧
      written (start ++ whole ++ [.emit silent]) = [] := by
  intro start inside record silent whole
  obtain ⟨hleft, hscope, hnamed, hhandlers, hsilent, hwritten⟩ := logged_in_scope
  have hfile : WellNested [.setRun "" "f2"] := .step nofun nofun .nil
  have hbehind : WellNested [.configure (-1)] := .step nofun nofun .nil
  have hinside : WellNested inside := .scope hfile hbehind
  have hwhole : WellNested whole := .scope hinside .nil
  have hnested : WellNested (.configure (-1) :: .setRun "r1" "f1" :: whole) :=
    .step nofun nofun (.step nofun nofun hwhole)
  have hlines : written (start ++ whole) = [] := by decide
  have hemit := hwritten (start ++ [.enter (.phase "scan" (some "m")), .enter (.file "a.go"),
    .setRun "" "f2", .leave]) [.leave] (-1)
  refine ⟨hnested, hleft (start ++ .enter (.phase "scan" (some "m")) :: inside) [] hnested, ?_, ?_,
    ?_, hlines, ?_, ?_⟩
  · exact (hscope start _ inside hinside).trans (by decide)
  · exact hnamed start (.setRun "" "f3") nofun .run
  · exact hhandlers [] (.setRun "r1" "f1" :: whole) (-1)
  · exact (hemit record (by simp)).trans (by decide)
  · exact (hemit silent (by simp)).trans (by decide)

end State

end StructSchema.Log
