import FunctionManual.Evaluation.Run
import FunctionManual.Validation.TimeLimit

/-!
# Trials of examples

* `Response`: what an evaluation gives back.
* `Evaluate`: any way to evaluate a program on an event.
* `Example.attempt`: evaluates an example within a time limit; whatever the evaluation does, the
  outcome has one of five statuses.
* `Registry.trial`: evaluation with the functions of a registry.
-/

namespace FunctionManual

open FunctionManual.Text

/-! ## Responses -/

/-- What an evaluation gives back: a result, a value that is no result, or an exception; or nothing,
because it stopped the program that it runs in. -/
inductive Response
  | result (value : Result)
  | bare (typeWord : String)
  | raised (label message : String)
  | nothing

namespace Response

/-- The classes of exceptions that stop a program. -/
def stopping : List String := ["BaseException", "GeneratorExit", "KeyboardInterrupt", "SystemExit"]

/-- The response of an evaluation that ends in an exception. -/
def ofException (label message : String) : Response :=
  if stopping.contains label then .nothing else .raised label message

end Response

/-- An evaluation: the time it took in milliseconds, and its response. -/
structure Trial where
  elapsed : Nat
  response : Response

/-- A way to evaluate a program on an event. -/
abbrev Evaluate := Slot → Value → Trial

/-- The trial that an evaluation is. -/
def Trial.ofEvaluation (e : Evaluation) : Trial :=
  match e.outcome with
  | .ok r => ⟨e.elapsed, .result r⟩
  | .error f => ⟨e.elapsed, .ofException f.label f.message⟩

/-- Evaluation with the functions of a registry. -/
def Registry.trial (r : Registry) : Evaluate := fun source event =>
  match source with
  | .text s => .ofEvaluation (evaluate r s event)
  | .other v => ⟨0, .raised "TypeError" s!"object of type '{v.longTypeWord}' has no len()"⟩

/-! ## Results in one line -/

/-- One line that shows a failure to readers. -/
def Failure.describe (f : Failure) : String :=
  let head := s!"error[{f.kind}]"
  if f.message.isEmpty then head else head ++ ": " ++ f.message

/-- One line that shows a result to readers. -/
def Result.describe : Option Result → String
  | some (.ok x) => x.describe
  | some (.error f) => f.describe
  | none => "<no result>"

/-- A declared result. -/
def Result.ofExpected (e : Except Failure Value) : Result := e.map Snapshot.ofValue

/-! ## Outcomes -/

/-- How the trial of an example ends. -/
inductive Status
  | completed
  | didNotParse
  | timedOut
  | skipped
  | failedInside
  deriving DecidableEq, Repr

/-- The name of a status. -/
def Status.name : Status → String
  | .completed => "completed"
  | .didNotParse => "did_not_parse"
  | .timedOut => "timed_out"
  | .skipped => "skipped"
  | .failedInside => "internal"

/-- The outcome of the trial of an example. -/
structure Outcome where
  status : Status
  result : Option Result := none
  detail : Option String := none

/-- Whether a failure comes from the text of a program, not from running it. -/
def Failure.isOfText (f : Failure) : Bool :=
  f.kind = Phase.parse.name || f.kind = Phase.compile.name

/-- The outcome of a response. -/
def Outcome.ofResponse : Response → Except Fault Outcome
  | .result (.ok x) => .ok ⟨.completed, some (.ok x), none⟩
  | .result (.error f) =>
    if f.isOfText then .ok ⟨.didNotParse, some (.error f), some f.message⟩
    else .ok ⟨.completed, some (.error f), none⟩
  | .bare word =>
    .ok ⟨.failedInside, none, some s!"evaluator returned {word}, expected Ok or Err"⟩
  | .raised label message => .ok ⟨.failedInside, none, some s!"{label}: {message}"⟩
  | .nothing => .error (.badKey (.string "result"))

/-- Evaluates an example within a time limit, unless it needs a host. -/
def Example.attempt (evaluate : Evaluate) (limit : TimeLimit) (e : Example) :
    Except Fault Outcome := do
  if e.requiresHost then
    return ⟨.skipped, none, some "example depends on host runtime state"⟩
  limit.wait
  let trial := evaluate e.source e.input
  if limit.exceededBy trial.elapsed then
    return ⟨.timedOut, none, some s!"evaluation did not finish within {limit.brief}s"⟩
  Outcome.ofResponse trial.response

end FunctionManual
