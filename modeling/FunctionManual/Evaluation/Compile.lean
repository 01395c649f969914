import FunctionManual.Registry.Basic
import FunctionManual.Syntax.Tree

/-!
# Checking programs before they run

Every call names a registered function, binds each parameter at most once and every required one at
least once, and is marked when the function may fail.

* `checkArguments`: the arguments of a call against a doc.
* `compile`: all calls of a program, in order.
-/

namespace FunctionManual

/-- The names of the first parameters of a doc. -/
def firstNames (doc : FunctionDoc) (count : Nat) : List Slot :=
  (doc.parameters.take count).map (·.name)

/-- Whether a name is among slots. -/
def namesHave (slots : List Slot) (name : String) : Bool :=
  slots.any fun s => s.text? = some name

/-- The problem of the arguments left, after `positional` arguments and those named `seen`; without
one, the number of positional arguments and the names. -/
def checkEach (doc : FunctionDoc) (positional : Nat) (seen : List String) :
    List (Option String × Expr) → Except CompileProblem (Nat × List String)
  | [] => .ok (positional, seen)
  | (none, _) :: rest =>
    if !seen.isEmpty then .error .positionalAfterNamed
    else if doc.parameters.length ≤ positional then
      .error (.tooManyArguments doc.parameters.length)
    else checkEach doc (positional + 1) seen rest
  | (some name, _) :: rest =>
    if (doc.parameter? name).isNone then .error (.unknownArgument name)
    else if seen.contains name || namesHave (firstNames doc positional) name then
      .error (.givenTwice name)
    else checkEach doc positional (seen ++ [name]) rest

/-- The problem of the arguments of a call, if there is one. -/
def checkArguments (doc : FunctionDoc) (arguments : List (Option String × Expr)) :
    Except CompileProblem Unit := do
  let (positional, seen) ← checkEach doc 0 [] arguments
  let bound (p : Parameter) : Bool :=
    match p.name.text? with
    | some name => seen.contains name || namesHave (firstNames doc positional) name
    | none => false
  match doc.requiredParameters.find? fun p => !bound p with
  | some p => throw (.missingArgument p.name.plain)
  | none => return ()

/-- The problem of a call, if there is one. -/
def checkCall (r : Registry) (c : Call) : Except CompileProblem Unit :=
  match r.find? c.name with
  | none => .error .undefinedFunction
  | some entry => do
    checkArguments entry.doc c.arguments
    if entry.doc.fallible && !c.mayFail then throw .unmarked

/-- Checks the calls of a program in order. -/
def compile (r : Registry) (p : Program) : Except CompileError Unit :=
  p.calls.forM fun c => (checkCall r c).mapError fun problem => ⟨problem, c.name, c.span⟩

end FunctionManual
