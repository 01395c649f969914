import FunctionManual.Doc.Category
import FunctionManual.TypeSpec.Basic
import FunctionManual.Value.Equal

/-!
# Documented functions

* `Slot`: a field that should hold a text.
* `Parameter`, `ReturnSpec`, `Example`: the parts of a doc.
* `FunctionDoc`: all that is written about one function.
* `FunctionDoc.fallible`: a function is fallible when it names a reason for failing.

A doc may be incomplete; `FunctionDoc.missing` of the module on completeness says what it lacks.
-/

namespace FunctionManual

open FunctionManual.Text

/-- A field that should hold a text, with what its author put there. -/
inductive Slot
  | text (value : String)
  | other (value : Value)

namespace Slot

instance : Coe String Slot := ⟨Slot.text⟩

/-- A slot as a value. -/
def toValue : Slot → Value
  | .text s => .string s
  | .other v => v

/-- The text of a slot that holds one. -/
def text? : Slot → Option String
  | .text s => some s
  | .other _ => none

/-- A slot inside a message. -/
def plain (s : Slot) : String := s.toValue.plain

/-- Whether a slot holds no text, or nothing but blanks. -/
def isBlank : Slot → Bool
  | .text s => isBlankText s
  | .other _ => true

end Slot

/-! ## Parts -/

/-- One of the values that a parameter is restricted to. -/
structure Variant where
  value : Value
  description : String

/-- A parameter. A null default means that the function has its own behaviour without it. -/
structure Parameter where
  name : Slot
  type : Option TypeSpec
  description : Slot
  required : Bool := true
  default : Value := .null
  variants : List Variant := []

/-- What a function returns. -/
structure ReturnSpec where
  type : Option TypeSpec
  description : Slot
  rules : List String := []

/-- A failure of an evaluation. In a declared failure an empty message asks for the kind alone. -/
structure Failure where
  kind : String
  message : String := ""
  deriving DecidableEq, Repr

/-- An expression and its declared outcome. -/
structure Example where
  source : Slot
  expected : Option (Except Failure Value)
  title : Option String := none
  notes : Option String := none
  input : Value := .null
  requiresHost : Bool := false

/-- Whether an example declares a failure. -/
def Example.expectsFailure (e : Example) : Bool :=
  match e.expected with
  | some (.error _) => true
  | _ => false

/-! ## Docs -/

/-- All that is written about one function. -/
structure FunctionDoc where
  identifier : String
  summary : Slot
  description : Slot
  category : Option Category
  parameters : List Parameter
  returns : Option ReturnSpec
  failureReasons : List Slot := []
  examples : List Example := []
  notices : List String := []

namespace FunctionDoc

/-- A function that names a reason for failing is fallible. -/
def fallible (d : FunctionDoc) : Bool := !d.failureReasons.isEmpty

/-- The first parameter with a name. -/
def parameter? (d : FunctionDoc) (name : String) : Option Parameter :=
  d.parameters.find? fun p => p.name.text? = some name

/-- The required parameters in order. -/
def requiredParameters (d : FunctionDoc) : List Parameter := d.parameters.filter (·.required)

end FunctionDoc

end FunctionManual
