import FunctionManual.Value.Basic

/-!
# Type specs

* `TypeSpec`: the kinds of value that a parameter takes or a function returns.
* `TypeSpec.union`: a choice between types, nested choices opened and repetitions dropped.
* `TypeSpec.accepts`: whether a value has a type. It looks at values through a view, so the same
  rule holds of trees and of values in a store.
-/

namespace FunctionManual

/-- Types without parts: any value at all, or the values of one kind. -/
inductive Primitive
  | any
  | string
  | integer
  | float
  | boolean
  | null
  | regex
  | timestamp
  deriving DecidableEq, Repr

namespace Primitive

/-- All primitive types. -/
def all : List Primitive := [any, string, integer, float, boolean, null, regex, timestamp]

/-- The name of a primitive type. -/
def name : Primitive → String
  | .any => "any"
  | .string => "string"
  | .integer => "integer"
  | .float => "float"
  | .boolean => "boolean"
  | .null => "null"
  | .regex => "regex"
  | .timestamp => "timestamp"

/-- The primitive type with a name. -/
def ofName? (n : String) : Option Primitive := all.find? (·.name = n)

/-- Whether a value of this kind has the type; a value without a kind has the type `any` only. -/
def acceptsKind (p : Primitive) (kind : Option Kind) : Bool :=
  match p with
  | .any => true
  | .string => kind = some .string
  | .integer => kind = some .integer
  | .float => kind = some .float
  | .boolean => kind = some .boolean
  | .null => kind = some .null
  | .regex => kind = some .regex
  | .timestamp => kind = some .timestamp

end Primitive

/-- A type spec. An array or object without a type for its parts admits any parts. -/
inductive TypeSpec
  | primitive (type : Primitive)
  | array (element : Option TypeSpec)
  | object (value : Option TypeSpec)
  | oneOf (members : List TypeSpec)

namespace TypeSpec

/-! ## Equality -/

mutual

/-- Equality of type specs is decidable. -/
def decEq : (s t : TypeSpec) → Decidable (s = t)
  | .primitive p, .primitive q => decidable_of_iff (p = q) (by simp)
  | .array s, .array t =>
    have := decEqOption s t
    decidable_of_iff (s = t) (by simp)
  | .object s, .object t =>
    have := decEqOption s t
    decidable_of_iff (s = t) (by simp)
  | .oneOf s, .oneOf t =>
    have := decEqList s t
    decidable_of_iff (s = t) (by simp)
  | .primitive _, .array _ | .primitive _, .object _ | .primitive _, .oneOf _
  | .array _, .primitive _ | .array _, .object _ | .array _, .oneOf _
  | .object _, .primitive _ | .object _, .array _ | .object _, .oneOf _
  | .oneOf _, .primitive _ | .oneOf _, .array _ | .oneOf _, .object _ => isFalse nofun

/-- Equality of types for parts is decidable. -/
def decEqOption : (s t : Option TypeSpec) → Decidable (s = t)
  | none, none => isTrue rfl
  | some s, some t =>
    have := decEq s t
    decidable_of_iff (s = t) (by simp)
  | none, some _ | some _, none => isFalse nofun

/-- Equality of lists of type specs is decidable. -/
def decEqList : (s t : List TypeSpec) → Decidable (s = t)
  | [], [] => isTrue rfl
  | a :: s, b :: t =>
    have := decEq a b
    have := decEqList s t
    decidable_of_iff (a = b ∧ s = t) (by simp)
  | [], _ :: _ | _ :: _, [] => isFalse nofun

end

instance : DecidableEq TypeSpec := decEq

/-! ## Choices -/

/-- The alternatives of a type: those of a choice, or the type alone. -/
def alternatives : TypeSpec → List TypeSpec
  | .oneOf members => members
  | t => [t]

/-- Adds the alternatives that are not there yet, in order. -/
def addNew (types : List TypeSpec) : List TypeSpec → List TypeSpec
  | [] => types
  | t :: rest => addNew (if t ∈ types then types else types ++ [t]) rest

/-- The choice between types; a single alternative is that type. -/
def union (types : List TypeSpec) : TypeSpec :=
  match addNew [] (types.flatMap alternatives) with
  | [t] => t
  | members => .oneOf members

/-! ## Writing -/

mutual

/-- The canonical text of a type. -/
def render : TypeSpec → String
  | .primitive p => p.name
  | .array none => "array"
  | .array (some t) => "array<" ++ render t ++ ">"
  | .object none => "object"
  | .object (some t) => "object<" ++ render t ++ ">"
  | .oneOf members => " | ".intercalate (renderAll members)

/-- The canonical texts of types. -/
def renderAll : List TypeSpec → List String
  | [] => []
  | t :: rest => render t :: renderAll rest

end

/-! ## Values of a type -/

mutual

/-- Whether a value, seen through `view`, has a type. -/
def accepts {α : Type} (view : α → View α) : TypeSpec → α → Bool
  | .primitive p, v => p.acceptsKind (view v).kind?
  | .array none, v => (view v).kind? = some .array
  | .array (some t), v =>
    match view v with
    | .array items => items.all fun item => accepts view t item
    | _ => false
  | .object none, v => (view v).kind? = some .object
  | .object (some t), v =>
    match view v with
    | .object members => members.all fun (_, value) => accepts view t value
    | _ => false
  | .oneOf members, v => acceptsAny view members v

/-- Whether a value has one of the types. -/
def acceptsAny {α : Type} (view : α → View α) : List TypeSpec → α → Bool
  | [], _ => false
  | t :: rest, v => accepts view t v || acceptsAny view rest v

end

/-- Whether a tree has a type. -/
def admits (t : TypeSpec) (v : Value) : Bool := t.accepts Value.view v

end TypeSpec

end FunctionManual
