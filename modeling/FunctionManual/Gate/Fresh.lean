import FunctionManual.Artifact.Manifest
import FunctionManual.Artifact.Names
import FunctionManual.Files.Basic
import FunctionManual.Text.Utf8
import FunctionManual.Validation.Validator

/-!
# Fresh artifacts

* `Fresh`: the report on a function and its artifact, if one can be generated.
* `Registry.refresh`: the fresh artifacts of a registry, in the order of registration.
* `Artifact.orphans`: artifacts of functions that are not registered any more.
-/

namespace FunctionManual

open FunctionManual.Text

/-- The report on a function, and the bytes of its artifact if it can be generated. -/
structure Fresh where
  identifier : String
  report : Report
  artifact : Option (List UInt8)

namespace Fresh

/-- A declared result or an event that an artifact cannot hold has been reported. -/
def isUnwritable (i : Issue) : Bool :=
  i.complaint = .resultNotWritable || i.complaint = .inputNotWritable

/-- Whether a fault says that a value has the wrong type or the wrong form. -/
def isFaultOfValue (f : Fault) : Bool :=
  f.label = "TypeError" || f.label = "ValueError"

/-- The report and the artifact of a function. -/
def ofEntry (v : Validator) (e : Entry) : Except Fault Fresh := do
  let report ← v.validate e.doc
  if report.errors.any isUnwritable then return ⟨e.identifier, report, none⟩
  match e.doc.generate with
  | .ok text => return ⟨e.identifier, report, some (Utf8.encode text)⟩
  | .error f =>
    if isFaultOfValue f then
      let issue : Issue := ⟨.noArtifact f.message, none⟩
      return ⟨e.identifier, { report with issues := report.issues ++ [issue] }, none⟩
    else throw f

end Fresh

/-- The fresh artifacts of a registry. -/
def Registry.refresh (r : Registry) (v : Validator) (workers : Workers) :
    Except Fault (List Fresh) := do
  checkWorkers workers r
  r.entries.mapM (Fresh.ofEntry v)

namespace Artifact

/-- Whether a name is that of an artifact. -/
def isName (name : String) : Bool := ".json".toList.isSuffixOf name.toList

/-- The files among the artifacts below a root whose names are not expected, in order. -/
def orphans (f : Files) (root : Path) (expected : List String) : Except Fault (List Path) := do
  let dir := directory root
  if !(← f.isDirectory dir) then return []
  let names := ((f.list dir).map (·.1)).filter isName
  let found ← names.filterM fun name => f.isFile (dir.child name)
  let unexpected := found.filter fun name => !expected.contains name
  return (unexpected.mergeSort fun a b => decide (a ≤ b)).map dir.child

end Artifact

end FunctionManual
