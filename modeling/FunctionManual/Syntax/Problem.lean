import FunctionManual.Syntax.Token
import FunctionManual.Regex.Problem

/-!
# What is wrong with a program's text

* `Syntax.Problem`: the causes for which a program is not read.
* `Syntax.Error`: a problem and where it is.
* `Syntax.Refusal`: an error of the program, or a literal that is beyond all limits.
-/

namespace FunctionManual.Syntax

open FunctionManual.Text

/-- What was expected where something else was found. -/
inductive Expected
  | mark (text : String)
  | expression
  | key
  | statementEnd
  deriving DecidableEq, Repr

/-- The wording of an expectation. -/
def Expected.message : Expected → String
  | .mark text => s!"expected '{text}'"
  | .expression => "expected an expression"
  | .key => "expected a string key"
  | .statementEnd => "expected end of statement"

/-- Why a program is not read. -/
inductive Problem
  | unterminatedLiteral
  | unterminatedString
  | invalidEscape (escaped : Option Char)
  | unexpectedCharacter (c : Char)
  | unexpected (found : String) (expected : Expected)
  | invalidRegex (source : String) (error : Regex.Error)
  deriving DecidableEq, Repr

/-- The wording of a problem. -/
def Problem.message : Problem → String
  | .unterminatedLiteral => "unterminated literal"
  | .unterminatedString => "unterminated string literal"
  | .invalidEscape none => "invalid escape '\\'"
  | .invalidEscape (some c) => s!"invalid escape '\\{c}'"
  | .unexpectedCharacter c => s!"unexpected character {quoted c.toString}"
  | .unexpected found e => s!"unexpected {found}, {e.message}"
  | .invalidRegex source e => s!"invalid regex: {e.message source.toList}"

/-- A problem and the part of the program it is about. -/
structure Error where
  problem : Problem
  span : Span
  deriving DecidableEq, Repr

/-- The wording of an error. -/
def Error.message (e : Error) : String := s!"{e.problem.message} at {e.span.text}"

/-- Why no tree is built: an error of the program; an integer of too many digits; or a pattern with
a number or switches that no pattern can have. -/
inductive Refusal
  | error (error : Error)
  | hugeInteger (digits : Nat)
  | pattern (source : String) (error : Regex.Error)
  deriving DecidableEq, Repr

end FunctionManual.Syntax
