import FunctionManual.Syntax.Token
import FunctionManual.Value.Scalar

/-!
# Trees of programs

    program    = statement (separator statement)*
    statement  = assignment | expression
    assignment = (variable | path) "=" expression
    expression = literal | array | object | path | variable | call | "(" expression ")"
    call       = name ["!"] "(" [argument ("," argument)*] ")"
    argument   = [name ":"] expression

* `Expr`, `Statement`: the parts of a program.
* `Program.calls`: every call of a program, the outer before the inner.
-/

namespace FunctionManual

/-- An expression. A path without names is the event itself; `mayFail` says that a call is marked
by an exclamation mark. -/
inductive Expr
  | literal (value : Scalar)
  | array (items : List Expr)
  | object (entries : List (String × Expr))
  | variable (name : String) (span : Span)
  | path (names : List String)
  | call (name : String) (arguments : List (Option String × Expr)) (mayFail : Bool) (span : Span)

/-- What an assignment sets. -/
inductive Target
  | variable (name : String) (span : Span)
  | path (names : List String)
  deriving DecidableEq, Repr

/-- A statement. -/
inductive Statement
  | expr (value : Expr)
  | assign (target : Target) (value : Expr)

/-- A program is a list of statements. -/
abbrev Program := List Statement

/-- A call of a program. -/
structure Call where
  name : String
  arguments : List (Option String × Expr)
  mayFail : Bool
  span : Span

mutual

/-- The calls of an expression, the outer before the inner. -/
def Expr.calls : Expr → List Call
  | .literal _ | .variable _ _ | .path _ => []
  | .array items => callsOfItems items
  | .object entries => callsOfEntries entries
  | .call name arguments mayFail span =>
    ⟨name, arguments, mayFail, span⟩ :: callsOfArguments arguments

/-- The calls of items. -/
def callsOfItems : List Expr → List Call
  | [] => []
  | e :: rest => e.calls ++ callsOfItems rest

/-- The calls of entries. -/
def callsOfEntries : List (String × Expr) → List Call
  | [] => []
  | (_, e) :: rest => e.calls ++ callsOfEntries rest

/-- The calls of arguments. -/
def callsOfArguments : List (Option String × Expr) → List Call
  | [] => []
  | (_, e) :: rest => e.calls ++ callsOfArguments rest

end

/-- The calls of a statement. -/
def Statement.calls : Statement → List Call
  | .expr e => e.calls
  | .assign _ e => e.calls

/-- The calls of a program. -/
def Program.calls (p : Program) : List Call := p.flatMap Statement.calls

end FunctionManual
