import FunctionManual.Doc.Basic

/-!
# Completeness

* `FunctionDoc.missing`: the paths of the fields that a doc lacks, in order of their texts and each
  once.
* `FunctionDoc.isComplete`: nothing is missing.
-/

namespace FunctionManual

/-- Texts in order, each once. -/
def sortedDistinct (texts : List String) : List String :=
  (texts.mergeSort fun a b => decide (a ≤ b)).eraseReps

namespace FunctionDoc

/-- A path, if a condition says that its field is missing. -/
def missingIf (absent : Bool) (path : String) : List String := if absent then [path] else []

/-- What a parameter lacks. -/
def missingOfParameter (p : Parameter) (i : Nat) : List String :=
  missingIf p.name.isBlank s!"parameters[{i}].name" ++
  missingIf p.type.isNone s!"parameters[{i}].type" ++
  missingIf p.description.isBlank s!"parameters[{i}].description"

/-- What an example lacks. -/
def missingOfExample (e : Example) (i : Nat) : List String :=
  missingIf e.source.isBlank s!"examples[{i}].source" ++
  missingIf e.expected.isNone s!"examples[{i}].expected"

/-- What the return spec lacks. -/
def missingOfReturns (r : Option ReturnSpec) : List String :=
  match r with
  | none => ["returns"]
  | some r =>
    missingIf r.type.isNone "returns.type" ++
    missingIf r.description.isBlank "returns.description"

/-- What a doc lacks, field by field. -/
def missingFields (d : FunctionDoc) : List String :=
  missingIf (Text.isBlankText d.identifier) "identifier" ++
  missingIf d.summary.isBlank "summary" ++
  missingIf d.description.isBlank "description" ++
  missingIf d.category.isNone "category" ++
  missingOfReturns d.returns ++
  (d.parameters.mapIdx fun i p => missingOfParameter p i).flatten ++
  (d.examples.mapIdx fun i e => missingOfExample e i).flatten ++
  (d.failureReasons.mapIdx fun i r =>
    missingIf r.isBlank s!"internal_failure_reasons[{i}]").flatten

/-- What a doc lacks, in order. -/
def missing (d : FunctionDoc) : List String := sortedDistinct d.missingFields

/-- A doc that lacks nothing is complete. -/
def isComplete (d : FunctionDoc) : Bool := d.missing.isEmpty

end FunctionDoc

end FunctionManual
