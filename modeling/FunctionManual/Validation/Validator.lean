import FunctionManual.Doc.Completeness
import FunctionManual.Text.Blank
import FunctionManual.Text.Letter
import FunctionManual.Validation.Metadata
import FunctionManual.Validation.Trial

/-!
# Validation

* `Validator`: a way to evaluate, a time limit, and how closely failures are compared.
* `callsFunction`: whether a text seems to call a function.
* `Validator.validate`: the report on one doc; every example is evaluated and compared.
* `Validator.validateAll`: the reports on a registry, in the order of registration.
-/

namespace FunctionManual

open FunctionManual.Text

/-- How closely a failure is compared with the declared one. -/
inductive FailureMatch
  | kind
  | kindAndMessage
  deriving DecidableEq, Repr

namespace FailureMatch

/-- The name of a way to compare. -/
def name : FailureMatch → String
  | .kind => "kind"
  | .kindAndMessage => "kind_and_message"

/-- All ways to compare. -/
def all : List FailureMatch := [kind, kindAndMessage]

/-- The way to compare with a name. -/
def ofName? (n : String) : Option FailureMatch := all.find? (·.name = n)

/-- The way to compare with a name. -/
def read (n : String) : Except Fault FailureMatch :=
  match ofName? n with
  | some m => .ok m
  | none => .error (.badValue s!"{quoted n} is not a valid FailureMatch")

end FailureMatch

/-- What docs are validated with. -/
structure Validator where
  evaluate : Evaluate
  limit : TimeLimit := .usual
  failureMatch : FailureMatch := .kindAndMessage

/-! ## Calls in a text -/

/-- A character that continues a word. -/
def isWordPart (c : Char) : Bool := isAlphanumeric c || c = '_'

/-- What follows a text, where it stands at the start of `s`. -/
def dropStart? : List Char → List Char → Option (List Char)
  | [], s => some s
  | a :: rest, c :: s => if a = c then dropStart? rest s else none
  | _ :: _, [] => none

/-- Whether an opening bracket follows, behind blanks and at most one exclamation mark. -/
def bracketFollows (s : List Char) : Bool :=
  match s.dropWhile isBlank with
  | '(' :: _ => true
  | '!' :: rest => (rest.dropWhile isBlank).head? = some '('
  | _ => false

/-- Whether a word starts or ends at the start of `s`, behind the character `before`. -/
def isWordEdge (before : Option Char) (s : List Char) : Bool :=
  before.any isWordPart != s.head?.any isWordPart

/-- Whether a call of a name starts in `s`, behind the character `before`. -/
def callsFrom (name : List Char) (before : Option Char) (s : List Char) : Bool :=
  (isWordEdge before s && (dropStart? name s).any bracketFollows) ||
    match s with
    | [] => false
    | c :: rest => callsFrom name (some c) rest

/-- Whether a text seems to call a function: its name stands at the edge of a word, and an opening
bracket follows. -/
def callsFunction (identifier source : String) : Bool :=
  callsFrom identifier.toList none source.toList

/-! ## Examples -/

/-- The issue of a declared result that the artifact cannot hold or that has another type. -/
def checkExpected (d : FunctionDoc) (e : Example) (path : String) : Except Fault (List Issue) :=
  match e.expected with
  | some (.ok v) =>
    if !v.isJson then .ok [⟨.resultNotWritable, some path⟩]
    else
      match d.returns with
      | none => .error (.noAttribute "'NoneType' object has no attribute 'type'")
      | some r =>
        if hasType r.type v then .ok []
        else do
          let shown ← v.line
          let type ← typeName r.type
          return [⟨.resultType shown type, some path⟩]
  | some (.error _) => .ok (issueIf (!d.fallible) .undeclaredFailure path)
  | none => .ok []

/-- The issues of what an example declares. -/
def checkDeclaration (d : FunctionDoc) (e : Example) (path : String) :
    Except Fault (List Issue) := do
  let expected ← checkExpected d e s!"{path}.expected"
  return expected ++
    issueIf (!e.input.isNull && !e.input.isJson) .inputNotWritable s!"{path}.input"

/-- The warning about an example that does not call its function. -/
def checkCalls (d : FunctionDoc) (e : Example) (path : String) : Except Fault (List Issue) :=
  match e.source with
  | .text s => .ok (issueIf (!callsFunction d.identifier s) (.notCalled d.identifier) path)
  | .other v =>
    .error (.badType s!"expected string or bytes-like object, got '{v.longTypeWord}'")

/-- Whether a failure is the declared one. A declared failure without a message stands for every
failure of its kind. -/
def Failure.agrees (m : FailureMatch) (declared actual : Failure) : Bool :=
  declared.kind = actual.kind &&
    (m = .kind || declared.message.isEmpty || declared.message = actual.message)

/-- Whether a result is the declared one. -/
def Result.agrees (m : FailureMatch) (declared : Option (Except Failure Value))
    (actual : Option Result) : Bool :=
  match declared, actual with
  | some (.ok v), some (.ok x) => (x.toValue?).any fun w => v.isSame w
  | some (.error f), some (.error g) => f.agrees m g
  | _, _ => false

/-- The mismatch of an outcome with what an example declares, if there is one. -/
def compare (m : FailureMatch) (index : Nat) (e : Example) (o : Outcome) : Option Mismatch :=
  let expected := Result.describe (e.expected.map Result.ofExpected)
  match o.status with
  | .didNotParse =>
    some ⟨index, expected, Result.describe o.result, .didNotParse, o.detail⟩
  | .timedOut => some ⟨index, expected, "<timed out>", .timedOut, o.detail⟩
  | .failedInside => some ⟨index, expected, "<internal error>", .failedInside, o.detail⟩
  | .skipped | .completed =>
    if Result.agrees m e.expected o.result then none
    else some ⟨index, expected, Result.describe o.result, .mismatch, none⟩

/-- A result that is compared must have a text. -/
def checkWritable : Option Result → Except Fault Unit
  | some (.ok x) =>
    if x.isWritable then .ok () else .error (.badValue Integer.unwritableMessage)
  | _ => .ok ()

/-- The mismatch of an outcome with what an example declares, where both results have a text. -/
def judge (m : FailureMatch) (index : Nat) (e : Example) (o : Outcome) :
    Except Fault (Option Mismatch) := do
  checkWritable (e.expected.map Result.ofExpected)
  checkWritable o.result
  return compare m index e o

namespace Validator

/-- What is found when the example at a place is tried: a warning if it is not run, and otherwise
whether it does what it declares. -/
def tryExample (v : Validator) (index : Nat) (e : Example) (path : String) :
    Except Fault (List Issue × Option Mismatch) := do
  let outcome ← e.attempt v.evaluate v.limit
  if outcome.status = .skipped then
    return ([⟨.notRun (outcome.detail.getD "None"), some path⟩], none)
  let mismatch ← judge v.failureMatch index e outcome
  return ([], mismatch)

/-- What is found about the example at a place. -/
def validateExample (v : Validator) (d : FunctionDoc) (index : Nat) (e : Example) :
    Except Fault (List Issue × Option Mismatch) := do
  let path := s!"examples[{index}]"
  let declared ← checkDeclaration d e path
  let calls ← checkCalls d e path
  let (tried, mismatch) ← v.tryExample index e path
  return (declared ++ calls ++ tried, mismatch)

/-- What is found about the examples from a place on. -/
def validateExamples (v : Validator) (d : FunctionDoc) (index : Nat) :
    List Example → Except Fault (List Issue × List Mismatch)
  | [] => .ok ([], [])
  | e :: rest => do
    let (issues, mismatch) ← v.validateExample d index e
    let (laterIssues, later) ← v.validateExamples d (index + 1) rest
    return (issues ++ laterIssues, mismatch.toList ++ later)

/-- The report on a doc. -/
def validate (v : Validator) (d : FunctionDoc) : Except Fault Report := do
  let metadata ← checkMetadata d
  let none : List Issue := if d.examples.isEmpty then [⟨.noExamples d.identifier, .none⟩] else []
  let (issues, mismatches) ← v.validateExamples d 0 d.examples
  return ⟨d.identifier, d.missing, mismatches, metadata ++ none ++ issues⟩

end Validator

/-! ## Registries -/

/-- The number of workers that share the work on the functions of a registry; zero, or no number,
leaves the choice to the machine. It changes no report. -/
abbrev Workers := Option Int

/-- Work on functions needs a worker. -/
def checkWorkers (workers : Workers) (r : Registry) : Except Fault Unit :=
  if !r.entries.isEmpty && workers.any (· < 0) then
    .error (.badValue "max_workers must be greater than 0")
  else .ok ()

/-- Keeps the reports on functions under their identifiers, in the order in which the work on them
ends. -/
def Validator.gather (v : Validator) (reports : List (String × Report)) :
    List Entry → Except Fault (List (String × Report))
  | [] => .ok reports
  | e :: rest => do
    let report ← v.validate e.doc
    v.gather ((e.identifier, report) :: reports) rest

/-- The report that was kept under an identifier. -/
def reportOn (reports : List (String × Report)) (identifier : String) : Except Fault Report :=
  match reports.lookup identifier with
  | some report => .ok report
  | none => .error (.badKey (.string identifier))

/-- The reports on a registry, in the order of registration; the work on its functions may end in
another. -/
def Validator.validateAll (v : Validator) (r : Registry) (workers : Workers)
    (ended : List Entry := r.entries) : Except Fault (List Report) := do
  checkWorkers workers r
  let reports ← v.gather [] ended
  r.entries.mapM fun e => reportOn reports e.identifier

end FunctionManual
