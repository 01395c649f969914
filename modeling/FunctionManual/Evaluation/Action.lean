import FunctionManual.Fault
import FunctionManual.Store.Snapshot

/-!
# Actions

* `Machine`: the store of a running program and the time it has taken.
* `Action`: a step of a running program, which may end in a fault.
* `Evaluator`: what a function does with its named arguments.
-/

namespace FunctionManual

/-- The state of a running program. Time is in milliseconds; only waiting takes any. -/
structure Machine where
  store : Store := {}
  elapsed : Nat := 0

/-- A step of a running program. -/
abbrev Action := ExceptT Fault (StateM Machine)

namespace Action

/-- Looks at the store. -/
def look {α : Type} (f : Store → α) : Action α := fun m => (.ok (f m.store), m)

/-- Changes the store. -/
def change {α : Type} (f : Store → α × Store) : Action α := fun m =>
  let (a, s) := f m.store
  (.ok a, { m with store := s })

/-- Lets time pass. -/
def wait (milliseconds : Nat) : Action Unit := fun m =>
  (.ok (), { m with elapsed := m.elapsed + milliseconds })

/-- Ends in a fault. -/
def fail {α : Type} (f : Fault) : Action α := fun m => (.error f, m)

/-- A result, or the fault that stands for it. -/
def ofExcept {α : Type} (r : Except Fault α) : Action α := fun m => (r, m)

/-- Takes an action; the error of an expression is changed on the way out. -/
def mapExpressionError {α : Type} (f : ExpressionError → ExpressionError) (a : Action α) :
    Action α := fun m =>
  match a m with
  | (.error (.expression e), m') => (.error (.expression (f e)), m')
  | r => r

/-- Puts a tree into fresh containers. -/
def load (v : Value) : Action Datum := change fun s => s.load v

end Action

/-- Named arguments, in the order in which they were bound. -/
abbrev Arguments := List (String × Datum)

namespace Arguments

/-- Binds an argument; one that is bound keeps its place. -/
def bind (name : String) (value : Datum) : Arguments → Arguments
  | [] => [(name, value)]
  | (n, d) :: rest => if n = name then (n, value) :: rest else (n, d) :: bind name value rest

/-- Whether an argument is bound. -/
def has (name : String) (a : Arguments) : Bool := (a.lookup name).isSome

end Arguments

/-- What a function does with its named arguments. -/
abbrev Evaluator := Arguments → Action Datum

end FunctionManual
