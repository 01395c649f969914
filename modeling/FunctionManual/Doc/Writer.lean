import FunctionManual.Doc.Completeness
import FunctionManual.Fault

/-!
# Docs as artifacts

* `FunctionDoc.toValue`: the tree of a doc. Every field is written, also one that is absent.
* `FunctionDoc.generate`: the text of the artifact of a complete doc.
-/

namespace FunctionManual

/-- A text that may be absent. -/
def optionalText (s : Option String) : Value := (s.map Value.string).getD .null

/-- The name of a type that must be there. -/
def renderedType : Option TypeSpec → Except Fault Value
  | some t => .ok (.string t.render)
  | none => .error (.badType "Unknown type spec: <class 'NoneType'>")

/-- The tree of a variant. -/
def Variant.toValue (v : Variant) : Value :=
  .record [("value", v.value), ("description", .string v.description)]

/-- The tree of a parameter. -/
def Parameter.toValue (p : Parameter) : Except Fault Value := do
  return .record [
    ("name", p.name.toValue),
    ("type", ← renderedType p.type),
    ("description", p.description.toValue),
    ("required", .boolean p.required),
    ("default", p.default),
    ("enum", .array (p.variants.map Variant.toValue))]

/-- The tree of a return spec. -/
def ReturnSpec.toValue (r : ReturnSpec) : Except Fault Value := do
  return .record [
    ("type", ← renderedType r.type),
    ("description", r.description.toValue),
    ("rules", .array (r.rules.map Value.string))]

/-- The tree of a failure. -/
def Failure.toValue (f : Failure) : Value :=
  .record [("kind", .string f.kind), ("message", .string f.message)]

/-- The tree of a declared outcome. -/
def Example.expectedValue (e : Example) : Except Fault Value :=
  match e.expected with
  | some (.ok v) => .ok (.record [("ok", v)])
  | some (.error f) => .ok (.record [("error", f.toValue)])
  | none => .error (.badType "Unknown expected result: <class 'NoneType'>")

/-- The tree of an example. -/
def Example.toValue (e : Example) : Except Fault Value := do
  return .record [
    ("title", optionalText e.title),
    ("source", e.source.toValue),
    ("input", e.input),
    ("result", ← e.expectedValue),
    ("notes", optionalText e.notes),
    ("requires_host", .boolean e.requiresHost)]

namespace FunctionDoc

/-- The name of the category. -/
def categoryValue (d : FunctionDoc) : Except Fault Value :=
  match d.category with
  | some c => .ok (.string c.name)
  | none => .error (.noAttribute "'NoneType' object has no attribute 'value'")

/-- The tree of what is returned. -/
def returnsValue (d : FunctionDoc) : Except Fault Value :=
  match d.returns with
  | some r => r.toValue
  | none => .error (.noAttribute "'NoneType' object has no attribute 'type'")

/-- The tree of a doc. -/
def toValue (d : FunctionDoc) : Except Fault Value := do
  let category ← d.categoryValue
  let parameters ← d.parameters.mapM Parameter.toValue
  let returns ← d.returnsValue
  let examples ← d.examples.mapM Example.toValue
  return .record [
    ("identifier", .string d.identifier),
    ("summary", d.summary.toValue),
    ("description", d.description.toValue),
    ("category", category),
    ("fallible", .boolean d.fallible),
    ("parameters", .array parameters),
    ("returns", returns),
    ("internal_failure_reasons", .array (d.failureReasons.map Slot.toValue)),
    ("examples", .array examples),
    ("notices", .array (d.notices.map Value.string))]

end FunctionDoc

/-- The text of an artifact: its tree and a newline. -/
def artifactText (v : Value) : Except Fault String :=
  match v.toJson with
  | .ok j => .ok (j.pretty ++ "\n")
  | .error e => .error (.ofNotJson e)

/-- The text of the artifact of a complete doc. -/
def FunctionDoc.generate (d : FunctionDoc) : Except Fault String :=
  if d.isComplete then d.toValue >>= artifactText
  else .error (.incomplete d.identifier d.missing)

end FunctionManual
