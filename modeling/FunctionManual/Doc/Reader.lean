import FunctionManual.Artifact.Problem
import FunctionManual.Doc.Writer

/-!
# Reading artifacts

* `FunctionDoc.ofFields`: the doc of an artifact's members.
* `FunctionDoc.ofArtifact`: the complete doc of an artifact, or why it is refused.
-/

namespace FunctionManual

open FunctionManual.Artifact

/-- The variant of an artifact's members. -/
def Variant.ofFields (d : Fields) : Except Problem Variant := do
  let value ← member d "value"
  let description ← textField d "description"
  return ⟨.ofJson value, description⟩

/-- The parameter of an artifact's members. -/
def Parameter.ofFields (d : Fields) : Except Problem Parameter := do
  let name ← textField d "name"
  let type ← typeField d "type"
  let description ← textField d "description"
  let required ← booleanField d "required"
  let default ← member d "default"
  let variants ← (← objectsField d "enum").mapM Variant.ofFields
  return ⟨name, some type, description, required, .ofJson default, variants⟩

/-- The declared outcome of an artifact's members. -/
def expectedOfFields (d : Fields) : Except Problem (Except Failure Value) :=
  match d with
  | [("ok", j)] => .ok (.ok (.ofJson j))
  | [("error", _)] => do
    let e ← objectField d "error"
    let kind ← textField e "kind"
    let message ← textField e "message"
    return .error ⟨kind, message⟩
  | _ => .error (.outcome (sortedDistinct (d.map (·.1))))

/-- The example of an artifact's members. -/
def Example.ofFields (d : Fields) : Except Problem Example := do
  let source ← textField d "source"
  let expected ← expectedOfFields (← objectField d "result")
  let title ← optionalTextField d "title"
  let notes ← optionalTextField d "notes"
  let input ← member d "input"
  let requiresHost ← booleanField d "requires_host"
  return ⟨source, some expected, title, notes, .ofJson input, requiresHost⟩

/-- The category of an artifact's members. -/
def categoryField (d : Fields) : Except Problem Category := do
  let name ← textField d "category"
  match Category.ofName? name with
  | some c => return c
  | none => throw (.unknownCategory name)

namespace FunctionDoc

/-- The doc of an artifact's members. -/
def ofFields (d : Fields) : Except Problem FunctionDoc := do
  let r ← objectField d "returns"
  let identifier ← textField d "identifier"
  let summary ← textField d "summary"
  let description ← textField d "description"
  let category ← categoryField d
  let parameters ← (← objectsField d "parameters").mapM Parameter.ofFields
  let type ← typeField r "type"
  let returned ← textField r "description"
  let rules ← textsField r "rules"
  let reasons ← textsField d "internal_failure_reasons"
  let examples ← (← objectsField d "examples").mapM Example.ofFields
  let notices ← textsField d "notices"
  let doc : FunctionDoc :=
    { identifier, summary, description, category := some category, parameters,
      returns := some ⟨some type, returned, rules⟩,
      failureReasons := reasons.map Slot.text, examples, notices }
  if (← booleanField d "fallible") ≠ doc.fallible then throw .fallibility
  return doc

/-- The doc of an artifact's content. -/
def ofContent (content : Content) : Except Problem FunctionDoc := do
  match ← readJson content with
  | .object d =>
    let doc ← ofFields d
    if doc.isComplete then return doc else throw (.incomplete doc.missing)
  | j => throw (.notObject j.typeWord)

/-- The complete doc of an artifact, which lies at a path if one is given. -/
def ofArtifact (content : Content) (path : Option Path) : Except Fault FunctionDoc :=
  (ofContent content).mapError fun p => handle artifactClauses path (p.raised path)

end FunctionDoc

end FunctionManual
