import FunctionManual.Syntax.Problem

/-!
# Errors of expressions

* `Phase`: the part of an evaluation that fails.
* `CompileProblem`: why a program that was read is not run.
* `ExpressionError`: any error of an expression, with its phase and its wording.
-/

namespace FunctionManual

/-- The part of an evaluation that fails. -/
inductive Phase
  | parse
  | compile
  | call
  deriving DecidableEq, Repr

/-- The name under which failures of a phase are known. -/
def Phase.name : Phase → String
  | .parse => "parse"
  | .compile => "compile"
  | .call => "function_call"

/-- Why a call or a variable is refused. -/
inductive CompileProblem
  | undefinedFunction
  | unmarked
  | positionalAfterNamed
  | tooManyArguments (limit : Nat)
  | unknownArgument (name : String)
  | givenTwice (name : String)
  | missingArgument (name : String)
  | undefinedVariable
  deriving DecidableEq, Repr

/-- A refused call or variable, with its name and place. -/
structure CompileError where
  problem : CompileProblem
  name : String
  span : Span
  deriving DecidableEq, Repr

/-- The wording of a refusal. -/
def CompileError.message (e : CompileError) : String :=
  let text := match e.problem with
    | .undefinedFunction => s!"call to undefined function \"{e.name}\""
    | .unmarked => s!"call to fallible function \"{e.name}\" must be marked with \"!\""
    | .positionalAfterNamed => s!"positional argument after named argument in \"{e.name}\""
    | .tooManyArguments n => s!"too many arguments for \"{e.name}\": expected at most {n}"
    | .unknownArgument a => s!"unknown argument \"{a}\" for function \"{e.name}\""
    | .givenTwice a => s!"argument \"{a}\" given twice to \"{e.name}\""
    | .missingArgument a => s!"missing required argument \"{a}\" for function \"{e.name}\""
    | .undefinedVariable => s!"undefined variable \"{e.name}\""
  s!"{text} at {e.span.text}"

/-- An error of an expression: of its text, of a call or variable in it, of a call while it runs, or
the reason that a function gives for failing. -/
inductive ExpressionError
  | parse (error : Syntax.Error)
  | compile (error : CompileError)
  | call (function : String) (span : Span) (because : String)
  | reason (text : String)
  deriving DecidableEq, Repr

namespace ExpressionError

/-- The phase of an error. -/
def phase : ExpressionError → Phase
  | .parse _ => .parse
  | .compile _ => .compile
  | .call _ _ _ | .reason _ => .call

/-- The wording of an error. -/
def message : ExpressionError → String
  | .parse e => e.message
  | .compile e => e.message
  | .call f span because => s!"function call error for \"{f}\" at {span.text}: {because}"
  | .reason text => text

end ExpressionError

end FunctionManual
