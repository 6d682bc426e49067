import StructSchema.Text

/-!
# Logging

Log records are written with the context that is current: the run, its phase, the scanned
directory and the file at hand. A scope changes what it names and gives the whole context back
when it is left. Records below the level that was configured last are not written, and at a level
of zero or less none is made at all.
-/

namespace StructSchema.Log

/-! ### Levels and contexts -/

/-- How much a record matters. -/
structure Level where
  rank : Int
  deriving DecidableEq, Repr

namespace Level

def debug : Level := ⟨10⟩

def info : Level := ⟨20⟩

def warning : Level := ⟨30⟩

def error : Level := ⟨40⟩

def critical : Level := ⟨50⟩

/-- A level as a bound. -/
instance : Coe Level Int := ⟨fun level => level.rank⟩

/-- The levels that have names of their own, the least first. -/
def named : List (Level × String) :=
  [(debug, "DEBUG"), (info, "INFO"), (warning, "WARNING"), (error, "ERROR"),
    (critical, "CRITICAL")]

def name (level : Level) : Text :=
  match named.lookup level with
  | some name => name
  | none => "Level " ++ Text.ofInt level.rank

def ofName? (name : Text) : Option Level :=
  (named.find? fun entry => name == Text.ofString entry.2).map (·.1)

end Level

/-- What stands for a part of the context that has not been set. -/
def unset : Text := "-"

structure Context where
  run : Text := unset
  phase : Text := unset
  source : Text := unset
  file : Text := unset
  deriving DecidableEq, Repr

structure Record where
  level : Level
  logger : Text
  message : Text
  deriving DecidableEq, Repr

/-- A record on a line, without the time. -/
def Record.line (record : Record) (context : Context) : Text :=
  record.level.name ++ " | run_id=" ++ context.run ++ " | phase=" ++ context.phase ++
    " | source=" ++ context.source ++ " | file=" ++ context.file ++ " | " ++ record.logger ++
    " | " ++ record.message ++ "\n"

/-! ### Scopes -/

/-- What a scope changes: the phase and perhaps the directory, or the file. -/
inductive Scope
  | phase (name : Text) (source : Option Text)
  | file (name : Text)
  deriving DecidableEq, Repr

def Context.enter (context : Context) : Scope → Context
  | .phase name (some source) => { context with phase := name, source }
  | .phase name none => { context with phase := name }
  | .file name => { context with file := name }

/-! ### The log -/

/-- A place where records are written, with the number of its context filters. -/
structure Handler where
  filters : Nat := 0
  deriving DecidableEq, Repr

/-- The state of the log: the context, those of the scopes around it with the innermost first,
the handlers, and the level below which nothing is written. The latter may be any number. -/
structure State where
  context : Context := {}
  outer : List Context := []
  handlers : List Handler := []
  level : Int := Level.warning
  deriving DecidableEq, Repr

/-- What can be done with the log. A run whose number is left empty gets a fresh one. -/
inductive Action
  | setRun (id fresh : Text)
  | enter (scope : Scope)
  | leave
  | configure (level : Int)
  | emit (record : Record)
  deriving DecidableEq, Repr

namespace State

/-- The log with another run. -/
def setRun (state : State) (id fresh : Text) : State :=
  { state with context := { state.context with run := if id.isEmpty then fresh else id } }

def enter (state : State) (scope : Scope) : State :=
  { state with context := state.context.enter scope, outer := state.context :: state.outer }

def leave (state : State) : State :=
  match state.outer with
  | context :: outer => { state with context, outer }
  | [] => state

/-- The log with a level. A first handler is put in if there is none, and each handler has a
context filter after it. -/
def configure (state : State) (level : Int) : State :=
  let handlers := if state.handlers.isEmpty then [{}] else state.handlers
  { state with
    level
    handlers := handlers.map fun handler => { handler with filters := max 1 handler.filters } }

/-- The lines that a record is written as, one for each handler. -/
def linesOf (state : State) (record : Record) : List Text :=
  if 0 < record.level.rank ∧ state.level ≤ record.level then
    state.handlers.map fun _ => record.line state.context
  else []

/-- The log after an action, and the lines it writes. -/
def run (state : State) : Action → State × List Text
  | .setRun id fresh => (state.setRun id fresh, [])
  | .enter scope => (state.enter scope, [])
  | .leave => (state.leave, [])
  | .configure level => (state.configure level, [])
  | .emit record => (state, state.linesOf record)

def runAll (state : State) : List Action → State × List Text
  | [] => (state, [])
  | action :: rest =>
    let (state, lines) := state.run action
    let (state, more) := state.runAll rest
    (state, lines ++ more)

end State

end StructSchema.Log
