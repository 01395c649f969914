/-!
# Reports

* `Complaint`: what can be wrong with a doc, with its wording and its severity.
* `Issue`: a complaint and the path of the field that it is about.
* `Mismatch`: an example whose outcome is not the declared one.
* `Report`: all that was found about one function. `Report.passed` says whether it is accepted.
-/

namespace FunctionManual

/-! ## Issues -/

/-- Whether an issue is fatal. A warning is fatal only under strict rules. -/
inductive Severity
  | error
  | warning
  deriving DecidableEq, Repr

/-- The name of a severity. -/
def Severity.name : Severity → String
  | .error => "error"
  | .warning => "warning"

/-- What can be wrong with a doc. Names and values are held as they are shown. -/
inductive Complaint
  | summaryLines
  | repeatedParameter (name : String)
  | requiredAfterOptional (name : String)
  | defaultOnRequired (name : String)
  | defaultType (value name type : String)
  | repeatedVariant (name : String)
  | variantType (value name type : String)
  | defaultNoVariant (value name : String)
  | repeatedReason
  | noExamples (identifier : String)
  | notCalled (identifier : String)
  | notRun (detail : String)
  | resultNotWritable
  | inputNotWritable
  | resultType (value type : String)
  | undeclaredFailure
  | noArtifact (reason : String)
  deriving DecidableEq, Repr

namespace Complaint

/-- The name of the rule that is broken. -/
def rule : Complaint → String
  | .summaryLines => "summary_single_line"
  | .repeatedParameter _ => "parameter_names_unique"
  | .requiredAfterOptional _ => "parameter_order"
  | .defaultOnRequired _ => "default_on_required"
  | .defaultType _ _ _ => "default_type"
  | .repeatedVariant _ => "enum_values_unique"
  | .variantType _ _ _ => "enum_value_type"
  | .defaultNoVariant _ _ => "enum_default"
  | .repeatedReason => "failure_reasons_distinct"
  | .noExamples _ => "no_examples"
  | .notCalled _ => "example_calls_function"
  | .notRun _ => "example_skipped"
  | .resultNotWritable | .inputNotWritable => "example_value_serializable"
  | .resultType _ _ => "example_return_type"
  | .undeclaredFailure => "failure_undeclared"
  | .noArtifact _ => "artifact_serializable"

/-- Docs without examples, and examples that say nothing about the function, are warned about. -/
def severity : Complaint → Severity
  | .noExamples _ | .notCalled _ | .notRun _ => .warning
  | _ => .error

/-- The wording of a complaint. -/
def message : Complaint → String
  | .summaryLines => "Summary must fit on one line"
  | .repeatedParameter name => s!"Duplicate parameter '{name}'"
  | .requiredAfterOptional name =>
    s!"Required parameter '{name}' follows an optional parameter"
  | .defaultOnRequired name => s!"Required parameter '{name}' declares a default"
  | .defaultType value name type => s!"Default {value} of '{name}' is not {type}"
  | .repeatedVariant name => s!"Parameter '{name}' repeats an enum value"
  | .variantType value name type => s!"Enum value {value} of '{name}' is not {type}"
  | .defaultNoVariant value name =>
    s!"Default {value} of '{name}' is not one of its enum values"
  | .repeatedReason => "Internal failure reasons must be distinct"
  | .noExamples identifier => s!"Function '{identifier}' has no examples"
  | .notCalled identifier => s!"Example does not call '{identifier}'"
  | .notRun detail => s!"Example not executed: {detail}"
  | .resultNotWritable => "Expected value cannot be written to an artifact"
  | .inputNotWritable => "Example input cannot be written to an artifact"
  | .resultType value type => s!"Expected value {value} is not {type}"
  | .undeclaredFailure =>
    "Example expects a failure but the function declares no internal failure reasons"
  | .noArtifact reason => s!"Artifact cannot be generated: {reason}"

end Complaint

/-- A complaint about a field of a doc, or about the whole doc. -/
structure Issue where
  complaint : Complaint
  path : Option String := none
  deriving DecidableEq, Repr

/-- Whether an issue is an error. -/
def Issue.isError (i : Issue) : Bool := i.complaint.severity = .error

/-! ## Mismatches -/

/-- Why an example does not do what it declares. -/
inductive Reason
  | didNotParse
  | timedOut
  | mismatch
  | failedInside
  deriving DecidableEq, Repr

/-- The name of a reason. -/
def Reason.name : Reason → String
  | .didNotParse => "ExampleDidNotParse"
  | .timedOut => "ExampleTimedOut"
  | .mismatch => "ExampleMismatch"
  | .failedInside => "ExampleInternalError"

/-- An example whose outcome is not the declared one; both are held as they are shown. -/
structure Mismatch where
  index : Nat
  expected : String
  actual : String
  reason : Reason
  detail : Option String := none
  deriving DecidableEq, Repr

/-! ## Reports -/

/-- All that was found about one function. -/
structure Report where
  identifier : String
  missing : List String := []
  mismatches : List Mismatch := []
  issues : List Issue := []
  deriving DecidableEq, Repr

namespace Report

/-- The issues that are errors. -/
def errors (r : Report) : List Issue := r.issues.filter (·.isError)

/-- The issues that are warnings. -/
def warnings (r : Report) : List Issue := r.issues.filter fun i => !i.isError

/-- Whether a function is accepted. Strict rules do not accept warnings. -/
def passed (r : Report) (strict : Bool) : Bool :=
  r.missing.isEmpty && r.mismatches.isEmpty && r.errors.isEmpty &&
    !(strict && !r.warnings.isEmpty)

end Report

end FunctionManual
