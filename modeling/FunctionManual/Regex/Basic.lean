import FunctionManual.Regex.Search

/-!
# Regular expressions as values

* `Regex`: the text of a pattern that can be read.
* `Regex.compile`: the regular expression of a text, or why its pattern is refused.
* `Regex.display`: how messages show it.
-/

namespace FunctionManual

open FunctionManual.Text

/-- A regular expression: the text of a pattern that can be read. -/
structure Regex where
  source : String
  readable : (Regex.readPattern source.toList).toOption.isSome
  deriving DecidableEq

namespace Regex

/-- The regular expression with a text. -/
def compile (source : String) : Except Regex.Error Regex :=
  match h : readPattern source.toList with
  | .ok _ => .ok ⟨source, by simp [h, Except.toOption]⟩
  | .error e => .error e

/-- The pattern that a regular expression was compiled to. -/
def pattern (r : Regex) : Pattern := (readPattern r.source.toList).toOption.get r.readable

/-- The names of the switches that differ from those every pattern has. -/
def flagNames (f : Flags) : List String :=
  (if f.template then ["re.TEMPLATE"] else []) ++
  (if f.ignoreCase then ["re.IGNORECASE"] else []) ++
  (if f.multiline then ["re.MULTILINE"] else []) ++
  (if f.dotAll then ["re.DOTALL"] else []) ++
  (if f.verbose then ["re.VERBOSE"] else []) ++
  (if f.ascii then ["re.ASCII"] else [])

/-- The call that compiles a regular expression, at most two hundred characters of its text. -/
def display (r : Regex) : String :=
  let text := String.ofList ((quotedChars r.source.toList).take 200)
  match flagNames r.pattern.flags with
  | [] => s!"re.compile({text})"
  | names => "re.compile(" ++ text ++ ", " ++ "|".intercalate names ++ ")"

end Regex

end FunctionManual
