import StructSchema.Log
import StructSchema.Text.Letter

/-!
# Command lines

The options of the program. An option may be cut short as long as it stays unique, and its value
stands behind an equals sign or is the next argument. All arguments are classed before any is
taken, so an ambiguous option is refused whatever else stands there; other mistakes count in
order, and arguments that belong to no option are refused in the end.
-/

namespace StructSchema

structure Options where
  sourceDir : Option Text := none
  exclude : Option Text := none
  recursive : Option Bool := none
  config : Option Text := none
  outputFile : Option Text := none
  reportDir : Option Text := none
  failOnWarnings : Option Bool := none
  logLevel : Log.Level := .info
  deriving DecidableEq, Repr

/-- Why a command line gives no settings: help was asked for, or it is wrong. -/
inductive UsageEnd
  | help
  | wrong
  deriving DecidableEq, Repr

def UsageEnd.status : UsageEnd → Nat
  | .help => 0
  | .wrong => 2

namespace CommandLine

/-! ### Options -/

inductive Flag
  | help
  | sourceDir
  | exclude
  | recursive
  | config
  | outputFile
  | reportDir
  | failOnWarnings
  | logLevel
  deriving DecidableEq, Repr

def flags : List (Text × Flag) :=
  [("--help", .help), ("--source-dir", .sourceDir), ("--exclude", .exclude),
    ("--recursive", .recursive), ("--config", .config), ("--output-file", .outputFile),
    ("--report-dir", .reportDir), ("--fail-on-warnings", .failOnWarnings),
    ("--log-level", .logLevel)]

def Flag.takesValue : Flag → Bool
  | .help | .recursive | .failOnWarnings => false
  | _ => true

/-- The levels that may be asked for. -/
def logLevels : List Log.Level := [.debug, .info, .warning, .error]

def usage : Text :=
  let form : Text × Flag → Text := fun (name, flag) =>
    " [" ++ name ++ (if flag.takesValue then " VALUE]" else "]")
  "usage: structschema" ++ flags.flatMap form ++ "\n"

/-! ### Arguments -/

/-- What an argument is: a value, an option perhaps with its value, something that looks like an
option, or the sign behind which everything is a value. -/
inductive Argument
  | value (text : Text)
  | option (flag : Flag) (explicit : Option Text)
  | unknown
  | divider
  deriving DecidableEq, Repr

/-- A minus sign with a decimal number behind it; one line break may follow. -/
def isNegativeNumber (arg : Text) : Bool :=
  let isDigit (c : CodePoint) : Bool := c.char?.any isDecimalDigit
  match if arg.getLast? = some (.char '\n') then arg.dropLast else arg with
  | .char '-' :: rest =>
    let whole := rest.takeWhile isDigit
    match rest.dropWhile isDigit with
    | [] => !whole.isEmpty
    | .char '.' :: places => !places.isEmpty && places.all isDigit
    | _ => false
  | _ => false

/-- An argument with one hyphen: the short form of help, its letter once or several times and
no equals sign or hyphen behind it; or something else. -/
def classifyShort (arg : Text) : Argument :=
  match arg with
  | .char '-' :: .char 'h' :: rest =>
    let more := rest.dropWhile (· = .char 'h')
    if more.head? = some (.char '=') ∨ more.head? = some (.char '-') then .option .help (some more)
    else .option .help none
  | _ => if isNegativeNumber arg || arg.contains (.char ' ') then .value arg else .unknown

def splitEquals (arg : Text) : Text × Option Text :=
  match arg.dropWhile (· ≠ .char '=') with
  | [] => (arg, none)
  | _ :: value => (arg.takeWhile (· ≠ .char '='), some value)

/-- An argument with two hyphens; it is refused if several options begin with its name. -/
def classifyLong (arg : Text) : Except UsageEnd Argument :=
  let (name, explicit) := splitEquals arg
  match flags.lookup name with
  | some flag => .ok (.option flag explicit)
  | none =>
    match flags.filter fun (long, _) => name.isPrefixOf long with
    | [(_, flag)] => .ok (.option flag explicit)
    | [] => .ok (if arg.contains (.char ' ') then .value arg else .unknown)
    | _ => .error .wrong

def classify (arg : Text) : Except UsageEnd Argument :=
  if arg = "--" then .ok .divider
  else
    match arg with
    | .char '-' :: .char '-' :: _ => classifyLong arg
    | .char '-' :: _ :: _ => .ok (classifyShort arg)
    | _ => .ok (.value arg)

/-- What the arguments are; behind a divider all are values. -/
def classifyAll : List Text → Except UsageEnd (List Argument)
  | [] => .ok []
  | arg :: rest =>
    match classify arg with
    | .error e => .error e
    | .ok .divider => .ok (.divider :: rest.map .value)
    | .ok argument => (classifyAll rest).map (argument :: ·)

/-! ### Settings -/

def setFlag (options : Options) : Flag → Except UsageEnd Options
  | .help => .error .help
  | .recursive => .ok { options with recursive := some true }
  | .failOnWarnings => .ok { options with failOnWarnings := some true }
  | _ => .error .wrong

def setValue (options : Options) (flag : Flag) (value : Text) : Except UsageEnd Options :=
  match flag with
  | .sourceDir => .ok { options with sourceDir := some value }
  | .exclude => .ok { options with exclude := some value }
  | .config => .ok { options with config := some value }
  | .outputFile => .ok { options with outputFile := some value }
  | .reportDir => .ok { options with reportDir := some value }
  | .logLevel =>
    match logLevels.find? fun level => value = level.name with
    | some level => .ok { options with logLevel := level }
    | none => .error .wrong
  | _ => .error .wrong

/-- The settings that arguments give; `rest` tells that some before belong to no option. -/
def settings (options : Options) (rest : Bool) : List Argument → Except UsageEnd Options
  | [] => if rest then .error .wrong else .ok options
  | .option flag (some value) :: more =>
    match setValue options flag value with
    | .ok options => settings options rest more
    | .error e => .error e
  | .option flag none :: .value value :: more =>
    if flag.takesValue then
      match setValue options flag value with
      | .ok options => settings options rest more
      | .error e => .error e
    else
      match setFlag options flag with
      | .ok options => settings options true more
      | .error e => .error e
  | .option flag none :: more =>
    match setFlag options flag with
    | .ok options => settings options rest more
    | .error e => .error e
  | _ :: more => settings options true more

def parse (args : List Text) : Except UsageEnd Options :=
  classifyAll args >>= settings {} false

end CommandLine

end StructSchema
