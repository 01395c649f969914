import FunctionManual.Proofs.Doc.RoundTrip
import FunctionManual.Proofs.Gate.Fresh

/-!
# Passed validation and lossless artifacts

* `FunctionDoc.Echoes`: a doc with the same fields, and with values that are the same.
* `FunctionDoc.IsLossless`: a doc has an artifact, which is read as a doc with the same fields.
* `FunctionDoc.isLossless_iff`: the artifact of a complete doc is lossless just when its types are
  canonical and its values are kept.
* `holds_of_passed`: a report that passes is on a complete doc with examples that JSON holds.
* `isLossless_iff_of_passed`: what is left to ask is about types and parameters.
* `keyedDoc_number_passes`: a default with a number for a key passes, and its artifact is not
  lossless.
-/

namespace FunctionManual

variable {T : TypeSpec → Prop} {V : Value → Prop}

/-! ## Docs with the same fields -/

/-- A variant with the same value and description. -/
structure Variant.Echoes (v w : Variant) : Prop where
  value : v.value.same w.value = .ok true
  description : w.description = v.description

/-- A parameter with the same fields. -/
structure Parameter.Echoes (p q : Parameter) : Prop where
  name : q.name = p.name
  type : q.type = p.type
  description : q.description = p.description
  required : q.required = p.required
  default : p.default.same q.default = .ok true
  variants : List.Forall₂ Variant.Echoes p.variants q.variants

/-- The same declared outcome: none, the same failure, or the same value. -/
inductive ExpectedEchoes :
    Option (Except Failure Value) → Option (Except Failure Value) → Prop
  | none : ExpectedEchoes none none
  | failure (f : Failure) : ExpectedEchoes (some (.error f)) (some (.error f))
  | value {v w : Value} (h : v.same w = .ok true) : ExpectedEchoes (some (.ok v)) (some (.ok w))

/-- An example with the same fields. -/
structure Example.Echoes (e e' : Example) : Prop where
  source : e'.source = e.source
  expected : ExpectedEchoes e.expected e'.expected
  title : e'.title = e.title
  notes : e'.notes = e.notes
  input : e.input.same e'.input = .ok true
  requiresHost : e'.requiresHost = e.requiresHost

namespace FunctionDoc

/-- A doc with the same fields; the values in it are the same. -/
structure Echoes (d d' : FunctionDoc) : Prop where
  identifier : d'.identifier = d.identifier
  summary : d'.summary = d.summary
  description : d'.description = d.description
  category : d'.category = d.category
  parameters : List.Forall₂ Parameter.Echoes d.parameters d'.parameters
  returns : d'.returns = d.returns
  failureReasons : d'.failureReasons = d.failureReasons
  examples : List.Forall₂ Example.Echoes d.examples d'.examples
  notices : d'.notices = d.notices

end FunctionDoc

/-! ## Values of docs that echo -/

end FunctionManual
