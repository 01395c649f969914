import FunctionManual.Gate.Publish
import FunctionManual.Validation.Printer

/-!
# The texts of the gate

* `Audit.text`: rejected functions, files that are not what they should be, and a summary.
* `Publication.text`: what was written and removed, or why nothing was.
-/

namespace FunctionManual

/-- A difference on lines of its own. -/
def endLine (s : String) : String := if s.toList.getLast? = some '\n' then s else s ++ "\n"

/-- The lines about a file that is not what it should be. -/
def Check.text (c : Check) : String :=
  s!"  × {c.label}: {c.standing.name} ({c.path.text})\n" ++
  match c.standing with
  | .different d => endLine d
  | _ => ""

/-- The text of an audit. -/
def Audit.text (a : Audit) (strict : Bool) : String :=
  let current := (a.checks.filter fun c => !c.isDrift).length
  reportTexts (a.rejected strict) strict ++
  String.join (a.drift.map Check.text) ++
  s!"\n  {current}/{a.checks.length} artifacts up to date under {a.root.text}\n" ++
  (if a.passed strict then "" else "  Run with --mode write to regenerate.\n")

/-- The text of a publication. -/
def Publication.text (p : Publication) (strict : Bool) : String :=
  if p.refused then
    reportTexts (p.rejected strict) strict ++ "\n  Validation failed; no artifacts written.\n"
  else
    String.join (p.written.map fun q => s!"  wrote   {q.text}\n") ++
    String.join (p.removed.map fun q => s!"  removed {q.text}\n") ++
    s!"\n  {p.written.length} written, {p.unchanged.length} unchanged, " ++
    s!"{p.removed.length} removed under {p.root.text}\n"

end FunctionManual
