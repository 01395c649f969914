import FunctionManual.Doc.Builder
import FunctionManual.Main
import FunctionManual.Proofs.Collection.Boundary
import FunctionManual.Proofs.Collection.Views
import FunctionManual.Proofs.Evaluation.Blame
import FunctionManual.Proofs.Evaluation.Frame
import FunctionManual.Proofs.Evaluation.Passing
import FunctionManual.Proofs.Evaluation.ReadBack
import FunctionManual.Proofs.Evaluation.SourceText
import FunctionManual.Proofs.Registry.Runs
import FunctionManual.Proofs.Standard.Codec
import FunctionManual.Proofs.Standard.Folding
import FunctionManual.Proofs.Standard.Totality
import FunctionManual.Proofs.Syntax.Nesting
import FunctionManual.Proofs.Syntax.Parsing
import FunctionManual.Proofs.TypeSpec.CanonicalText
import FunctionManual.Proofs.TypeSpec.Union
import FunctionManual.Proofs.Validation.Collecting
import FunctionManual.Proofs.Validation.Examples
import FunctionManual.Proofs.Validation.Lossless
import FunctionManual.Proofs.Validation.Returned
import FunctionManual.Proofs.Value.Equivalence
import FunctionManual.Proofs.Standard.Snakecase
import FunctionManual.Proofs.Syntax.Pointing
import FunctionManual.Proofs.Validation.Attempts
import FunctionManual.Proofs.Gate.Differing
import FunctionManual.Proofs.Settings.Variables
import FunctionManual.Proofs.Syntax.Joining
import FunctionManual.Proofs.Validation.Calls
import FunctionManual.Proofs.Collection.Rows
