import FunctionManual.Json.Reader
import FunctionManual.Text.Utf8
import FunctionManual.Fault
import FunctionManual.Files.Path

/-!
# What is wrong with an artifact

* `Artifact.Problem`: the causes for which an artifact or a manifest is refused.
* `Artifact.readText`, `Artifact.readJson`: the steps before the content is looked at.
* `Artifact.textField`, …: the members of an object, checked for their types.
* `Artifact.Problem.raised`: the fault that a problem raises where it is found.
* `Artifact.handle`: what the clauses of a reader make of a fault; others are passed on.
-/

namespace FunctionManual.Artifact

open FunctionManual.Text

/-- Why an artifact or a manifest is refused. -/
inductive Problem
  | encoding (error : Utf8.Error)
  | json (source : String) (error : Json.Error)
  | notObject (found : String)
  | notIndexable (value : Json)
  | missingMember (name : String)
  | wrongMember (name wanted found : String)
  | wrongItems (name wanted : String)
  | typeSpec (error : TypeSpec.Error)
  | unknownCategory (name : String)
  | outcome (members : List String)
  | fallibility
  | incomplete (missing : List String)
  | noRepository
  | noFunctions
  | repeatedFunction

/-- The wording of a problem. -/
def Problem.message : Problem → String
  | .encoding e => e.message
  | .json source e => e.message source
  | .notObject found => s!"expected a JSON object, got {found}"
  | .notIndexable j =>
    match j with
    | .array _ => "list indices must be integers or slices, not str"
    | .string _ => "string indices must be integers, not 'str'"
    | _ => s!"'{j.typeWord}' object is not subscriptable"
  | .missingMember n => s!"missing key {quoted n}"
  | .wrongMember n wanted found => s!"'{n}' must be {wanted}, got {found}"
  | .wrongItems n wanted => s!"'{n}' must be a list of {wanted}"
  | .typeSpec e => s!"invalid type spec: {e.message}"
  | .unknownCategory n => s!"{quoted n} is not a valid Category"
  | .outcome members =>
    "expected result must have exactly one of 'ok' or 'error', got [" ++
      ", ".intercalate (members.map quoted) ++ "]"
  | .fallibility => "'fallible' disagrees with 'internal_failure_reasons'"
  | .incomplete missing => "incomplete function doc: " ++ ", ".intercalate missing
  | .noRepository => "'repository' must be a non-empty string"
  | .noFunctions => "'functions' must be a list of identifiers"
  | .repeatedFunction => "'functions' lists an identifier twice"

/-- The content of an artifact or a manifest: its bytes, or a text. -/
inductive Content
  | bytes (value : List UInt8)
  | text (value : String)

/-- The text of a content. -/
def readText : Content → Except Problem String
  | .bytes b => (Utf8.decode b).mapError .encoding
  | .text s => .ok s

/-- The JSON tree of a content. -/
def readJson (content : Content) : Except Problem Json := do
  let source ← readText content
  (Json.read false source).mapError (.json source)

/-! ## Members -/

/-- The members of a JSON object. -/
abbrev Fields := List (String × Json)

/-- A member that must be there. -/
def member (d : Fields) (name : String) : Except Problem Json :=
  match d.lookup name with
  | some j => .ok j
  | none => .error (.missingMember name)

/-- A member that is a text. -/
def textField (d : Fields) (name : String) : Except Problem String := do
  match ← member d name with
  | .string s => return s
  | j => throw (.wrongMember name "a string" j.typeWord)

/-- A member that is a text or null. -/
def optionalTextField (d : Fields) (name : String) : Except Problem (Option String) := do
  match ← member d name with
  | .string s => return some s
  | .null => return none
  | j => throw (.wrongMember name "a string or null" j.typeWord)

/-- A member that is a truth value. -/
def booleanField (d : Fields) (name : String) : Except Problem Bool := do
  match ← member d name with
  | .boolean b => return b
  | j => throw (.wrongMember name "a boolean" j.typeWord)

/-- A member that is an object. -/
def objectField (d : Fields) (name : String) : Except Problem Fields := do
  match ← member d name with
  | .object members => return members
  | j => throw (.wrongMember name "an object" j.typeWord)

/-- A member that is an array. -/
def arrayField (d : Fields) (name : String) : Except Problem (List Json) := do
  match ← member d name with
  | .array items => return items
  | j => throw (.wrongMember name "a list" j.typeWord)

/-- The members of a JSON object, where it is one. -/
def fields? : Json → Option Fields
  | .object members => some members
  | _ => none

/-- The text of a JSON string, where it is one. -/
def string? : Json → Option String
  | .string s => some s
  | _ => none

/-- A member that is an array of objects. -/
def objectsField (d : Fields) (name : String) : Except Problem (List Fields) := do
  match (← arrayField d name).mapM fields? with
  | some ds => return ds
  | none => throw (.wrongItems name "objects")

/-- A member that is an array of texts. -/
def textsField (d : Fields) (name : String) : Except Problem (List String) := do
  match (← arrayField d name).mapM string? with
  | some ts => return ts
  | none => throw (.wrongItems name "strings")

/-- A member that is the text of a type. -/
def typeField (d : Fields) (name : String) : Except Problem TypeSpec := do
  (TypeSpec.read (← textField d name)).mapError .typeSpec

/-! ## Faults and clauses -/

/-- The refusal of the artifact or the manifest that lies at a path, if one is given. -/
def refusal (path : Option Path) (reason : String) : Fault :=
  .malformed (path.map Path.text) reason

/-- The fault that a problem raises where it is found. What is found once all members are read is
refused at once. -/
def Problem.raised (path : Option Path) (p : Problem) : Fault :=
  match p with
  | .encoding _ => .raised "UnicodeDecodeError" p.message
  | .json _ (.problem _ _) => .raised "JSONDecodeError" p.message
  | .notIndexable _ => .badType p.message
  | .missingMember name => .badKey (.string name)
  | .typeSpec e => .typeSpec e
  | .incomplete _ | .noRepository | .noFunctions | .repeatedFunction => refusal path p.message
  | _ => .badValue p.message

/-- The classes of a fault: its own, and the one above it where clauses know it. -/
def classes (f : Fault) : List String :=
  let special := ["TypeSpecError", "UnicodeDecodeError", "JSONDecodeError"].contains f.label
  f.label :: if special then ["ValueError"] else []

/-- A clause that words faults of some classes anew. -/
structure Clause where
  caught : List String
  reason : Fault → String

/-- What clauses make of a fault: the first that catches it makes it a refusal. A fault that none
catches is passed on. -/
def handle (clauses : List Clause) (path : Option Path) (f : Fault) : Fault :=
  match clauses.find? fun c => c.caught.any (classes f).contains with
  | some c => refusal path (c.reason f)
  | none => f

/-- The clause for members that are missing. -/
def missingClause : Clause := ⟨["KeyError"], fun f => "missing key " ++ f.message⟩

/-- The clauses of the reader of artifacts. -/
def artifactClauses : List Clause := [
  missingClause,
  ⟨["TypeSpecError"], fun f => "invalid type spec: " ++ f.message⟩,
  ⟨["ValueError", "TypeError", "AttributeError"], Fault.message⟩]

/-- The clauses of the reader of manifests. -/
def manifestClauses : List Clause := [
  missingClause,
  ⟨["ValueError", "TypeError"], Fault.message⟩]

end FunctionManual.Artifact
