import FunctionManual.Validation.Report
import FunctionManual.Json.Basic
import FunctionManual.Number.Integer

/-!
# Reports for readers and for programs

* `Report.text`: the lines about one function.
* `validationText`: the lines about the functions that need attention, and a summary.
* `Report.toJson`: a report as JSON.
-/

namespace FunctionManual

/-- The lines of a mismatch. -/
def Mismatch.lines (m : Mismatch) : List String :=
  let detail := m.detail.getD ""
  [s!"    - example {m.index}: {m.reason.name}",
    s!"        expected: {m.expected}",
    s!"        actual:   {m.actual}"] ++
  (if detail.isEmpty then [] else [s!"        detail:   {detail}"])

/-- The line of an issue. -/
def Issue.line (i : Issue) : String :=
  let path := i.path.getD ""
  let place := if path.isEmpty then "" else s!" {path}:"
  let level := if i.isError then "ERROR" else "WARNING"
  s!"    - [{i.complaint.rule}]{place} {i.complaint.message} ({level})"

namespace Report

/-- The lines of a report. -/
def lines (r : Report) (strict : Bool) : List String :=
  let mark := if r.passed strict then "✓" else "×"
  let missing := ", ".intercalate r.missing
  [s!"  {mark} {r.identifier}"] ++
  (if r.missing.isEmpty then [] else [s!"    - missing fields: {missing}"]) ++
  r.mismatches.flatMap Mismatch.lines ++
  r.issues.map Issue.line

/-- The text of a report. -/
def text (r : Report) (strict : Bool) : String := "\n".intercalate (r.lines strict)

/-- Whether a report is shown: functions without any issue are shown only on demand. -/
def isShown (r : Report) (strict verbose : Bool) : Bool :=
  verbose || !r.passed strict || !r.issues.isEmpty

end Report

/-- The texts of reports, each on lines of its own. -/
def reportTexts (reports : List Report) (strict : Bool) : String :=
  String.join (reports.map fun r => r.text strict ++ "\n")

/-- The summary of reports. -/
def summaryLine (reports : List Report) (strict : Bool) : String :=
  let failed := (reports.filter fun r => !r.passed strict).length
  let passed := reports.length - failed
  let warned := (reports.filter fun r => !r.warnings.isEmpty).length
  let examples := (reports.flatMap (·.mismatches)).length
  let rules := if strict then " (strict)" else ""
  s!"\n  {reports.length} functions validated: {passed} passed, {failed} failed, " ++
    s!"{examples} failing examples, {warned} with warnings{rules}\n"

/-- The text about the reports on a registry. -/
def validationText (reports : List Report) (strict verbose : Bool) : String :=
  reportTexts (reports.filter (·.isShown strict verbose)) strict ++ summaryLine reports strict

/-! ## JSON -/

/-- A text that may be absent, as JSON. -/
def optionalJson (s : Option String) : Json := (s.map Json.string).getD .null

/-- A mismatch as JSON. -/
def Mismatch.toJson (m : Mismatch) : Json :=
  .object [("example_index", .integer m.index), ("reason", .string m.reason.name),
    ("expected", .string m.expected), ("actual", .string m.actual),
    ("detail", optionalJson m.detail)]

/-- An issue as JSON. -/
def Issue.toJson (i : Issue) : Json :=
  .object [("check", .string i.complaint.rule), ("severity", .string i.complaint.severity.name),
    ("message", .string i.complaint.message), ("path", optionalJson i.path)]

/-- A report as JSON. -/
def Report.toJson (r : Report) (strict : Bool) : Json :=
  .object [("identifier", .string r.identifier), ("passed", .boolean (r.passed strict)),
    ("missing_fields", .array (r.missing.map Json.string)),
    ("example_failures", .array (r.mismatches.map Mismatch.toJson)),
    ("issues", .array (r.issues.map Issue.toJson))]

end FunctionManual
