import FunctionManual.Files.Path
import FunctionManual.Text.Case
import FunctionManual.Text.Letter
import FunctionManual.Validation.Validator

/-!
# Settings

* `Settings`: what a run is set to do, with the usual values.
* `Settings.Problem`: why a variable of the environment is refused.
* `Settings.ofEnvironment`: the settings of an environment. The first variable that is refused, in
  the order of the fields, is the one that is reported.
-/

namespace FunctionManual

open FunctionManual.Text

/-- The variables of an environment. -/
abbrev Environment := List (String × String)

/-- What a run is set to do. -/
structure Settings where
  root : Path := .read "docs/reference"
  repository : Option String := none
  limit : TimeLimit := .usual
  strict : Bool := false
  failureMatch : FailureMatch := .kindAndMessage
  workers : Workers := none
  logLevel : String := "WARNING"

namespace Settings

/-- Why a variable is refused; its value is given. -/
inductive Problem
  | noSeconds (raw : String)
  | noPositiveSeconds (raw : String)
  | noTruthValue (raw : String)
  | noFailureMatch (raw : String)
  | noWorkers (raw : String)
  | noInteger (raw : String)
  | longInteger (digits : Nat)
  | noLogLevel (raw : String)
  deriving DecidableEq, Repr

/-- The wording of a problem. -/
def Problem.message : Problem → String
  | .noSeconds raw => s!"EXPRDOC_EXAMPLE_TIMEOUT must be a number of seconds, got {quoted raw}"
  | .noPositiveSeconds raw =>
    s!"EXPRDOC_EXAMPLE_TIMEOUT must be a positive finite number, got {quoted raw}"
  | .noTruthValue raw => s!"EXPRDOC_STRICT must be a boolean, got {quoted raw}"
  | .noFailureMatch raw =>
    let allowed := ", ".intercalate (FailureMatch.all.map (·.name))
    s!"EXPRDOC_FAILURE_MATCH must be one of {allowed}, got {quoted raw}"
  | .noWorkers raw => s!"EXPRDOC_WORKERS must be a positive integer, got {quoted raw}"
  | .noInteger raw => s!"invalid literal for int() with base 10: {quoted raw}"
  | .longInteger digits => Integer.tooLongMessage digits
  | .noLogLevel raw => s!"EXPRDOC_LOG_LEVEL is not a logging level: {quoted raw}"

/-! ## Values of variables -/

/-- The value of a variable, empty where it is not set. -/
def raw (env : Environment) (name : String) : String := (env.lookup name).getD ""

/-- A text that is not empty. -/
def nonEmpty? (s : String) : Option String := if s.isEmpty then none else some s

/-- A number of seconds, which must be positive and finite. -/
def positiveSeconds? (x : Binary64) : Option TimeLimit :=
  if x.isFinite && !x.isNonPositive then some (.fraction x) else none

/-- The time limit that a variable sets. -/
def readLimit (s : String) : Except Problem TimeLimit :=
  if isBlankText s then .ok .usual
  else
    match Binary64.read s with
    | none => .error (.noSeconds s)
    | some x =>
      match positiveSeconds? x with
      | some t => .ok t
      | none => .error (.noPositiveSeconds s)

/-- The truth value that a variable sets. -/
def readTruthValue (s : String) : Except Problem Bool :=
  let word := lower (strip s)
  if ["1", "true", "yes", "on"].contains word then .ok true
  else if ["0", "false", "no", "off", ""].contains word then .ok false
  else .error (.noTruthValue word)

/-- The way to compare failures that a variable sets. -/
def readFailureMatch (s : String) : Except Problem FailureMatch :=
  let word := lower (strip s)
  if word.isEmpty then .ok .kindAndMessage
  else
    match FailureMatch.ofName? word with
    | some m => .ok m
    | none => .error (.noFailureMatch word)

/-- The number of workers that a variable sets. -/
def readWorkers (s : String) : Except Problem Workers :=
  let word := strip s
  if word.isEmpty then .ok none
  else if !word.toList.all isDigit then .error (.noWorkers word)
  else
    match Integer.read word with
    | .ok i => if i < 1 then .error (.noWorkers word) else .ok (some i)
    | .error .malformed => .error (.noInteger word)
    | .error (.tooLong n) => .error (.longInteger n)

/-- The names of the levels of log messages. -/
def logLevels : List String :=
  ["CRITICAL", "FATAL", "ERROR", "WARN", "WARNING", "INFO", "DEBUG", "NOTSET"]

/-- The level of log messages that a variable sets. -/
def readLogLevel (s : String) : Except Problem String :=
  let word := upper (strip (if s.isEmpty then "WARNING" else s))
  if logLevels.contains word then .ok word else .error (.noLogLevel word)

/-! ## Settings -/

/-- The settings of an environment. -/
def ofEnvironment (env : Environment) : Except Problem Settings := do
  let usual : Settings := {}
  let root := ((nonEmpty? (raw env "EXPRDOC_ARTIFACT_DIR")).map Path.read).getD usual.root
  let repository := nonEmpty? (raw env "EXPRDOC_REPOSITORY")
  let limit ← readLimit (raw env "EXPRDOC_EXAMPLE_TIMEOUT")
  let strict ← readTruthValue (raw env "EXPRDOC_STRICT")
  let failureMatch ← readFailureMatch (raw env "EXPRDOC_FAILURE_MATCH")
  let workers ← readWorkers (raw env "EXPRDOC_WORKERS")
  let logLevel ← readLogLevel (raw env "EXPRDOC_LOG_LEVEL")
  return { root, repository, limit, strict, failureMatch, workers, logLevel }

/-- The validator of a registry under settings. -/
def validator (s : Settings) (r : Registry) : Validator :=
  { evaluate := r.trial, limit := s.limit, failureMatch := s.failureMatch }

end Settings

end FunctionManual
