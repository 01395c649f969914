import FunctionManual.Doc.Basic
import FunctionManual.Fault
import FunctionManual.Text.Prose

/-!
# Writing docs by hand

Types are given as texts and read at once, so a slip in one is found where it is written.

* `Parameter.positional`, `Parameter.keyword`: required and optional parameters.
* `ReturnSpec.of`, `Failure.declared`, `Example.of`: the other parts.
* `FunctionDoc.build`: a doc whose description and notices lose the indentation of the source.
-/

namespace FunctionManual

open FunctionManual.Text

/-- The type of a text. -/
def readType (source : String) : Except Fault TypeSpec :=
  (TypeSpec.read source).mapError .typeSpec

/-- The category with a name. -/
def readCategory (name : String) : Except Fault Category :=
  match Category.ofName? name with
  | some c => .ok c
  | none => .error (.badValue s!"{quoted name} is not a valid Category")

/-- A required parameter. -/
def Parameter.positional (name type description : String) : Except Fault Parameter := do
  return { name, type := some (← readType type), description }

/-- An optional parameter. -/
def Parameter.keyword (name type description : String) (default : Value)
    (variants : List Variant) : Except Fault Parameter := do
  return { name, type := some (← readType type), description, required := false, default, variants }

/-- What a function returns. -/
def ReturnSpec.of (type description : String) (rules : List String) : Except Fault ReturnSpec := do
  return { type := some (← readType type), description, rules }

/-- A declared failure; by default any failure of a call. -/
def Failure.declared (kind : Option String) (message : Option String) : Failure :=
  ⟨kind.getD Phase.call.name, message.getD ""⟩

/-- What the author of a doc states; `usage` is another name for the description. -/
structure DocInput where
  identifier : String
  summary : String
  category : String
  returns : ReturnSpec
  description : Option String := none
  usage : Option String := none
  parameters : List Parameter := []
  failures : List String := []
  examples : List Example := []
  notices : List String := []

/-- A doc. Stating both a description and a different usage is an error. -/
def FunctionDoc.build (i : DocInput) : Except Fault FunctionDoc := do
  if i.description.isSome && i.usage.isSome && i.description ≠ i.usage then
    throw (.badValue (s!"Function '{i.identifier}': 'usage' is an alias of 'description'; " ++
      "pass one of them"))
  let category ← readCategory i.category
  return {
    identifier := i.identifier
    summary := i.summary
    description := prose ((i.description <|> i.usage).getD "")
    category := some category
    parameters := i.parameters
    returns := some i.returns
    failureReasons := i.failures.map Slot.text
    examples := i.examples
    notices := i.notices.map prose }

end FunctionManual
