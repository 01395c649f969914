import FunctionManual.Evaluation.Error
import FunctionManual.TypeSpec.Reader
import FunctionManual.Value.Equal
import FunctionManual.Value.Json

/-!
# Faults

* `Fault`: everything that can keep an operation from giving an answer.
* `Fault.label`: the class of a fault, as reports name it.
* `Fault.message`: the wording of a fault.
-/

namespace FunctionManual

open FunctionManual.Text

/-- A refusal by the file system. -/
inductive FileProblem
  | missing
  | exists
  | notDirectory
  | isDirectory
  | nameTooLong
  | zeroCharacter
  deriving DecidableEq, Repr

namespace FileProblem

/-- The wording of a refusal by the file system, with its number where it has one. -/
def text : FileProblem → String
  | .missing => "[Errno 2] No such file or directory"
  | .exists => "[Errno 17] File exists"
  | .notDirectory => "[Errno 20] Not a directory"
  | .isDirectory => "[Errno 21] Is a directory"
  | .nameTooLong => "[Errno 36] File name too long"
  | .zeroCharacter => "embedded null byte"

/-- The wording of a refusal of a path. -/
def message (p : FileProblem) (path : String) : String :=
  match p with
  | .zeroCharacter => p.text
  | _ => s!"{p.text}: {quoted path}"

/-- The class of a refusal by the file system. -/
def label : FileProblem → String
  | .missing => "FileNotFoundError"
  | .exists => "FileExistsError"
  | .notDirectory => "NotADirectoryError"
  | .isDirectory => "IsADirectoryError"
  | .nameTooLong => "OSError"
  | .zeroCharacter => "ValueError"

end FileProblem

/-- Everything that can keep an operation from giving an answer. -/
inductive Fault
  | expression (error : ExpressionError)
  | typeSpec (error : TypeSpec.Error)
  | pattern (source : String) (error : Regex.Error)
  | incomplete (identifier : String) (missing : List String)
  | duplicate (identifier : String) (existing : Option String)
  | malformed (path : Option String) (reason : String)
  | missingArtifact (repository identifier path : String)
  | file (problem : FileProblem) (path : String)
  | badValue (message : String)
  | badType (message : String)
  | badKey (key : Scalar)
  | noAttribute (message : String)
  | overflow (message : String)
  | raised (label message : String)

namespace Fault

/-- The class of a fault. -/
def label : Fault → String
  | .expression _ => "ExpressionError"
  | .typeSpec _ => "TypeSpecError"
  | .pattern _ e =>
    match e with
    | .problem _ _ => "error"
    | .hugeCount => "OverflowError"
    | .hugeNumber _ | .bothTables => "ValueError"
  | .incomplete _ _ => "IncompleteMetadata"
  | .duplicate _ _ => "DuplicateIdentifier"
  | .malformed _ _ => "MalformedArtifact"
  | .missingArtifact _ _ _ => "MissingArtifact"
  | .file p _ => p.label
  | .badValue _ => "ValueError"
  | .badType _ => "TypeError"
  | .badKey _ => "KeyError"
  | .noAttribute _ => "AttributeError"
  | .overflow _ => "OverflowError"
  | .raised label _ => label

/-- The wording of a fault. -/
def message : Fault → String
  | .expression e => e.message
  | .typeSpec e => e.message
  | .pattern source e => e.message source.toList
  | .incomplete identifier missing =>
    let name := if identifier.isEmpty then "<unnamed>" else identifier
    s!"Function '{name}' is missing required fields: " ++ ", ".intercalate missing
  | .duplicate identifier existing =>
    match existing with
    | some other =>
      if other = identifier then s!"Function '{identifier}' is already registered"
      else s!"Function '{identifier}' collides with '{other}' (both map to the same artifact file)"
    | none => s!"Function '{identifier}' is already registered"
  | .malformed path reason => path.getD "<artifact>" ++ ": " ++ reason
  | .missingArtifact repository identifier path =>
    s!"{path}: no artifact for function '{identifier}' of repository '{repository}'"
  | .file p path => p.message path
  | .badValue m | .badType m | .noAttribute m | .overflow m | .raised _ m => m
  | .badKey k => k.display

/-- The fault of a program that is not read. -/
def ofRefusal : Syntax.Refusal → Fault
  | .error e => .expression (.parse e)
  | .hugeInteger n => .badValue (Integer.tooLongMessage n)
  | .pattern source e => .pattern source e

/-- The fault of a value that has no kind. -/
def ofNoKind (e : Value.NoKind) : Fault := .badType (notAValueMessage e.typeWord)

/-- The fault of a value that JSON cannot hold. -/
def ofNotJson (e : Value.NotJson) : Fault := .badType e.message

end Fault

end FunctionManual
