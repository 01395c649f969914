import FunctionManual.Artifact.Manifest
import FunctionManual.Artifact.Names
import FunctionManual.Doc.Writer
import FunctionManual.Evaluation.Action

/-!
# Registries

* `Entry`: a documented function.
* `Registry`: documented functions in the order of their registration, and who holds the name of
  each artifact.
* `RegistryAction`: a step that changes a registry, and may fail.
* `RegistryAction.enroll`: adds a function whose doc is complete, unless its identifier or the name
  of its artifact is taken.
* `Registry.register`: the registry with a function added.
-/

namespace FunctionManual

open FunctionManual.Text

/-- A documented function. -/
structure Entry where
  identifier : String
  doc : FunctionDoc
  evaluator : Evaluator

/-- The safe form of an identifier, and the identifier that holds it. -/
def Entry.holder (e : Entry) : String × String := (Artifact.safeName e.identifier, e.identifier)

/-- Documented functions of one repository, in the order of their registration. The holders say for
each safe form that is taken which identifier has it. -/
structure Registry where
  name : String
  categories : List Category := Category.all
  entries : List Entry := []
  holders : List (String × String) := []

namespace Registry

/-- The function with an identifier. -/
def find? (r : Registry) (identifier : String) : Option Entry :=
  r.entries.find? (·.identifier = identifier)

/-- Whether an identifier is registered. -/
def has (r : Registry) (identifier : String) : Bool := (r.find? identifier).isSome

/-- The identifiers in order. -/
def identifiers (r : Registry) : List String := r.entries.map (·.identifier)

/-- The number of functions. -/
def size (r : Registry) : Nat := r.entries.length

/-- The identifier that has the artifact of another. -/
def holderOf? (r : Registry) (identifier : String) : Option String :=
  r.holders.lookup (Artifact.safeName identifier)

/-- What keeps a doc from being registered under an identifier. -/
def lacking (r : Registry) (identifier : String) (doc : FunctionDoc)
    (evaluator : Option Evaluator) : List String :=
  sortedDistinct (doc.missing ++
    FunctionDoc.missingIf (!doc.category.any r.categories.contains) "category" ++
    FunctionDoc.missingIf (doc.identifier ≠ identifier) "identifier" ++
    FunctionDoc.missingIf evaluator.isNone "evaluator")

end Registry

/-! ## Adding functions -/

/-- A step that changes a registry, and may fail; what it changed before it fails stays changed. -/
abbrev RegistryAction := ExceptT Fault (StateM Registry)

/-- What is offered for registration without an identifier: a function that carries its doc, or
anything else, as messages show it. -/
inductive Candidate
  | documented (doc : FunctionDoc) (evaluator : Evaluator)
  | other (shown : String)

/-- The complaint about something that is offered as a function but carries no doc. -/
def Candidate.refusal (shown : String) : Fault :=
  .badType (shown ++ " does not provide a FunctionDoc; decorate it with @documented")

namespace RegistryAction

/-- Looks at the registry. -/
def look {α : Type} (f : Registry → α) : RegistryAction α := fun r => (.ok (f r), r)

/-- Changes the registry. -/
def change (f : Registry → Registry) : RegistryAction Unit := fun r => (.ok (), f r)

/-- Ends in a fault. -/
def fail {α : Type} (f : Fault) : RegistryAction α := fun r => (.error f, r)

/-- Adds a function. -/
def enroll (identifier : String) (doc : FunctionDoc) (evaluator : Option Evaluator) :
    RegistryAction Entry := do
  if ← look (·.has identifier) then fail (.duplicate identifier none)
  match ← look (·.lacking identifier doc evaluator), evaluator with
  | [], some e =>
    match ← look (·.holderOf? identifier) with
    | some other => fail (.duplicate identifier (some other))
    | none =>
      let entry : Entry := ⟨identifier, doc, e⟩
      change fun r => { r with entries := r.entries ++ [entry] }
      change fun r => { r with holders := r.holders ++ [entry.holder] }
      return entry
  | lacks, _ => fail (.incomplete identifier lacks)

/-- Adds a function under the identifier of the doc that it carries. -/
def enrollCandidate : Candidate → RegistryAction Entry
  | .documented doc evaluator => enroll doc.identifier doc (some evaluator)
  | .other shown => fail (Candidate.refusal shown)

end RegistryAction

namespace Registry

/-- The registry with a function added. -/
def register (r : Registry) (identifier : String) (doc : FunctionDoc)
    (evaluator : Option Evaluator) : Except Fault Registry :=
  match RegistryAction.enroll identifier doc evaluator r with
  | (.ok _, r') => .ok r'
  | (.error f, _) => .error f

/-- The complaint about a value that is offered as a function. -/
def undocumented (v : Value) : Fault := Candidate.refusal v.display

/-- How messages show a registry. -/
def display (r : Registry) : String :=
  s!"FunctionRegistry({quoted r.name}, {r.size} functions)"

/-- The manifest of a registry; another name that is not empty takes the place of its own. -/
def manifest (r : Registry) (repository : Option String) : Manifest :=
  let other := repository.getD ""
  ⟨if other.isEmpty then r.name else other, r.identifiers⟩

end Registry

end FunctionManual
