import FunctionManual.Registry.Basic

/-!
# Functions of the standard library

* `Builtin`: a doc, the arguments that the function takes, and what it does with them.
* `Builtin.evaluator`: refuses arguments that the function does not take.
* `Store.isTrue`: what counts as true where a truth value is expected.
-/

namespace FunctionManual

/-- A function of the standard library. `word` names it in complaints about its arguments. -/
structure Builtin where
  doc : FunctionDoc
  word : String
  required : List String
  optional : List String := []
  body : Arguments → Action Datum

namespace Builtin

/-- Names in quotation marks, with `and` before the last. -/
def listNames : List String → String
  | [] => ""
  | [a] => s!"'{a}'"
  | [a, b] => s!"'{a}' and '{b}'"
  | a :: rest => s!"'{a}', " ++ listNames rest

/-- The complaint about the names of arguments, if there is one. -/
def checkNames (b : Builtin) (arguments : Arguments) : Except Fault Unit := do
  match arguments.find? fun (n, _) => !(b.required ++ b.optional).contains n with
  | some (n, _) => throw (.badType s!"{b.word}() got an unexpected keyword argument '{n}'")
  | none =>
    match b.required.filter fun n => !arguments.has n with
    | [] => return ()
    | lacks =>
      let plural := if lacks.length = 1 then "" else "s"
      throw (.badType (s!"{b.word}() missing {lacks.length} required positional argument{plural}: "
        ++ listNames lacks))

/-- What the function does with named arguments. -/
def evaluator (b : Builtin) : Evaluator := fun arguments => do
  Action.ofExcept (b.checkNames arguments)
  b.body arguments

end Builtin

namespace Arguments

/-- The value of an argument, null when it is absent. -/
def get (name : String) (a : Arguments) : Datum := (a.lookup name).getD (.scalar .null)

end Arguments

/-- Whether a datum counts as true: zero, nothing and everything empty does not. -/
def Store.isTrue (s : Store) (d : Datum) : Bool :=
  match s.view d with
  | .scalar v =>
    match v with
    | .null => false
    | .boolean b => b
    | .integer i => i ≠ 0
    | .float x => !x.equalsInt 0
    | .string t => !t.isEmpty
    | .bytes b => !b.isEmpty
    | _ => true
  | .array items => !items.isEmpty
  | .object members => !members.isEmpty

namespace Action

/-- A function's reason for failing. -/
def refuse {α : Type} (text : String) : Action α := fail (.expression (.reason text))

/-- The name of the kind of a datum that must have one. -/
def kindName (d : Datum) : Action String := do
  let v ← look fun s => s.view d
  match v.kind? with
  | some k => return k.name
  | none => fail (.ofNoKind ⟨v.typeWord⟩)

/-- The complaint about a value that does not have an operation. -/
def lacks {α : Type} (d : Datum) (operation : String) : Action α := do
  let v ← look fun s => s.view d
  fail (.noAttribute s!"'{v.longTypeWord}' object has no attribute '{operation}'")

/-- The complaint about a value that has no length. -/
def lacksLength {α : Type} (d : Datum) : Action α := do
  let v ← look fun s => s.view d
  fail (.badType s!"object of type '{v.longTypeWord}' has no len()")

/-- The text of a datum on which an operation of texts is used. -/
def textOf (d : Datum) (operation : String) : Action String :=
  match d with
  | .scalar (.string s) => return s
  | _ => lacks d operation

/-- A text as a datum. -/
def text (s : String) : Action Datum := return .scalar (.string s)

end Action

end FunctionManual
