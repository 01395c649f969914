import FunctionManual.Text.Blank
import FunctionManual.Text.Lines

/-!
# Prose written with the indentation of its surroundings

* `dedent`: takes the longest common indentation off every line; lines of blanks count as empty.
* `prose`: dedented and stripped.
-/

namespace FunctionManual.Text

/-- The indentation of a line: its leading spaces and tabs. -/
def indentation (line : List Char) : List Char := line.takeWhile fun c => c = ' ' || c = '\t'

/-- The longest common beginning of two texts. -/
def commonStart : List Char → List Char → List Char
  | a :: as, b :: bs => if a = b then a :: commonStart as bs else []
  | _, _ => []

/-- Empties a line of spaces and tabs. -/
def clearBlank (line : List Char) : List Char :=
  if line.all fun c => c = ' ' || c = '\t' then [] else line

/-- The indentation that all lines with text share. -/
def margin (lines : List (List Char)) : List Char :=
  match lines.filter (· ≠ []) with
  | [] => []
  | first :: rest => rest.foldl (fun m line => commonStart m (indentation line)) (indentation first)

/-- Takes `m` off the beginning of a line that has it. -/
def dropMargin (m line : List Char) : List Char :=
  if m.isPrefixOf line then line.drop m.length else line

/-- Takes the shared indentation off every line. -/
def dedent (s : String) : String :=
  let lines := (splitAtChar '\n' s.toList).map clearBlank
  let m := margin lines
  String.ofList (['\n'].intercalate (lines.map (dropMargin m)))

/-- The text as prose: dedented and stripped. -/
def prose (s : String) : String := strip (dedent s)

end FunctionManual.Text
