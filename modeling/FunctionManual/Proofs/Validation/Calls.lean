import FunctionManual.Proofs.Doc.Metadata
import FunctionManual.Proofs.Validation.Examples
import FunctionManual.Proofs.Validation.Search

/-!
# Warnings about calls

* `Issue.WarnsOfCalls`: the warning about an example that does not call its function.
* `warned_of_validateExamples`: it is given of the examples in which the search finds nothing.
* `validate_warns_iff`: so of those whose program has no call that the search finds, and whose text
  has nothing else that it finds.
-/

namespace FunctionManual

open Syntax

variable {v : Validator} {d : FunctionDoc} {e : Example}

/-! ## Issues -/

/-- The path of the example at a place. -/
def examplePath (index : Nat) : String := s!"examples[{index}]"

theorem examplePath_inj {i j : Nat} (h : examplePath i = examplePath j) : i = j := by
  have hlist := congrArg String.toList h
  simp only [examplePath, String.toList_append, List.append_cancel_right_eq,
    List.append_cancel_left_eq, String.toList_inj] at hlist
  exact Nat.repr_inj.mp hlist

/-- An issue is the warning about an example that does not call its function. -/
def Issue.WarnsOfCalls (x : Issue) (path : String) : Prop :=
  x.complaint.rule = "example_calls_function" ∧ x.path = some path

theorem Issue.not_warnsOfCalls {x : Issue} (h : x.isError) (path : String) :
    ¬ x.WarnsOfCalls path := by
  have warning {c : Complaint} (hc : c.rule = "example_calls_function") :
      c.severity = .warning := by
    cases c with
    | notCalled _ => rfl
    | _ => simp [Complaint.rule] at hc
  rintro ⟨hrule, -⟩
  rw [Issue.isError, warning hrule] at h
  cases h

theorem isError_of_checkExpected {path : String} {issues : List Issue}
    (h : checkExpected d e path = .ok issues) : ∀ x ∈ issues, x.isError := by
  unfold checkExpected at h
  split at h
  next w _ =>
    split at h
    next =>
      cases h
      exact List.forall_mem_singleton.mpr rfl
    next =>
      split at h
      next => cases h
      next r _ =>
        split at h
        next =>
          cases h
          exact List.forall_mem_nil _
        next =>
          obtain ⟨shown, -, h⟩ := bind_eq_ok h
          obtain ⟨type, -, h⟩ := bind_eq_ok h
          cases h
          exact List.forall_mem_singleton.mpr rfl
  next =>
    cases h
    exact isError_of_mem_issueIf rfl
  next =>
    cases h
    exact List.forall_mem_nil _

/-- Whatever is wrong with what an example declares is an error. -/
theorem isError_of_checkDeclaration {path : String} {issues : List Issue}
    (h : checkDeclaration d e path = .ok issues) : ∀ x ∈ issues, x.isError := by
  obtain ⟨expected, hexpected, h⟩ := bind_eq_ok h
  cases h
  exact List.forall_mem_append.mpr ⟨isError_of_checkExpected hexpected, isError_of_mem_issueIf rfl⟩

theorem not_warned_of_tryExample {index : Nat} {path path' : String} {issues : List Issue}
    {mismatch : Option Mismatch} (h : v.tryExample index e path = .ok (issues, mismatch)) :
    ¬ ∃ x ∈ issues, x.WarnsOfCalls path' := by
  obtain ⟨o, -, h⟩ := bind_eq_ok h
  split at h
  next =>
    cases h
    simp [Issue.WarnsOfCalls, Complaint.rule]
  next =>
    obtain ⟨m, -, h⟩ := bind_eq_ok h
    cases h
    simp

theorem warned_of_checkCalls {path path' : String} {issues : List Issue}
    (h : checkCalls d e path = .ok issues) : (∃ x ∈ issues, x.WarnsOfCalls path') ↔
      path = path' ∧
        ∃ source, e.source = .text source ∧ callsFunction d.identifier source = false := by
  unfold checkCalls at h
  split at h
  next source hsource =>
    cases h
    cases hc : callsFunction d.identifier source <;>
      simp [issueIf, Issue.WarnsOfCalls, Complaint.rule, hsource, hc]
  next => cases h

/-! ## Reports -/

/-- The warning about calls is given of an example in which the search finds nothing. -/
theorem warned_of_validateExample {index : Nat} {issues : List Issue}
    {mismatch : Option Mismatch} (h : v.validateExample d index e = .ok (issues, mismatch))
    (path : String) : (∃ x ∈ issues, x.WarnsOfCalls path) ↔
      examplePath index = path ∧
        ∃ source, e.source = .text source ∧ callsFunction d.identifier source = false := by
  obtain ⟨declared, hdeclared, h⟩ := bind_eq_ok h
  obtain ⟨calls, hcalls, h⟩ := bind_eq_ok h
  obtain ⟨⟨tried, found⟩, htried, h⟩ := bind_eq_ok h
  cases h
  have hdeclared : ¬ ∃ x ∈ declared, x.WarnsOfCalls path := fun ⟨x, hx, hw⟩ =>
    x.not_warnsOfCalls (isError_of_checkDeclaration hdeclared x hx) path hw
  have htried : ¬ ∃ x ∈ tried, x.WarnsOfCalls path := not_warned_of_tryExample htried
  simp only [List.mem_append, or_and_right, exists_or, hdeclared, htried, or_false, false_or]
  exact warned_of_checkCalls hcalls

theorem warned_of_validateExamples {index : Nat} {es : List Example} {issues : List Issue}
    {mismatches : List Mismatch} (h : v.validateExamples d index es = .ok (issues, mismatches))
    (path : String) : (∃ x ∈ issues, x.WarnsOfCalls path) ↔
      ∃ i e, es[i]? = some e ∧ examplePath (index + i) = path ∧
        ∃ source, e.source = .text source ∧ callsFunction d.identifier source = false := by
  induction es generalizing index issues mismatches with
  | nil =>
    cases h
    simp
  | cons e es ih =>
    obtain ⟨⟨found, mismatch⟩, he, h⟩ := bind_eq_ok h
    obtain ⟨⟨later, others⟩, hs, h⟩ := bind_eq_ok h
    cases h
    simp only [List.mem_append, or_and_right, exists_or]
    rw [warned_of_validateExample he, ih hs]
    constructor
    · rintro (hhere | ⟨i, e', hi, hpath, hsource⟩)
      · exact ⟨0, e, rfl, hhere⟩
      · exact ⟨i + 1, e', hi, by rwa [← Nat.add_assoc, Nat.add_right_comm], hsource⟩
    · rintro ⟨i, e', hi, hpath, hsource⟩
      cases i with
      | zero =>
        cases hi
        exact .inl ⟨hpath, hsource⟩
      | succ i =>
        rw [← Nat.add_assoc, Nat.add_right_comm] at hpath
        exact .inr ⟨i, e', hi, hpath, hsource⟩

/-- A report warns that an example does not call its function when its program has no call of it
whose bracket no comment is before, and its text nothing that only seems to be one. -/
theorem validate_warns_iff {report : Report} {i : Nat} {source : String} {p : Program}
    (h : v.validate d = .ok report) (hd : IsIdentifier d.identifier)
    (he : d.examples[i]? = some e) (hs : e.source = .text source) (hp : parse source = .ok p) :
    (∃ x ∈ report.issues, x.WarnsOfCalls (examplePath i)) ↔
      ¬ ((∃ c ∈ p.calls, c.name = d.identifier ∧ ¬ IsInterrupted source c) ∨
        ∃ k, IsFeigned source d.identifier k) := by
  obtain ⟨metadata, hmetadata, h⟩ := bind_eq_ok h
  obtain ⟨⟨issues, mismatches⟩, hissues, h⟩ := bind_eq_ok h
  cases h
  have hmeta : ¬ ∃ x ∈ metadata, x.WarnsOfCalls (examplePath i) := fun ⟨x, hx, hw⟩ =>
    x.not_warnsOfCalls (isError_of_checkMetadata hmetadata x hx) _ hw
  have hnone : ¬ ∃ x ∈ (if d.examples.isEmpty then [⟨.noExamples d.identifier, none⟩] else [] :
      List Issue), x.WarnsOfCalls (examplePath i) := by
    split <;> simp [Issue.WarnsOfCalls]
  simp only [List.mem_append, or_and_right, exists_or, hmeta, hnone, false_or]
  rw [warned_of_validateExamples hissues, ← parse_calls_iff hp hd, Bool.not_eq_true]
  constructor
  · rintro ⟨j, e', hj, hpath, source', hsource, hcalls⟩
    rw [Nat.zero_add] at hpath
    obtain rfl := examplePath_inj hpath
    obtain rfl := Option.some.inj (hj.symm.trans he)
    obtain rfl : source' = source := by rw [hs] at hsource; cases hsource; rfl
    exact hcalls
  · exact fun hcalls => ⟨i, e, he, by rw [Nat.zero_add], source, hs, hcalls⟩

/-- The doc of a function with one example. -/
def shownDoc (source : String) : FunctionDoc where
  identifier := "f"
  summary := "S."
  description := "D."
  category := some .string
  parameters := []
  returns := some ⟨some (.primitive .string), .text "R.", []⟩
  examples := [{ source := .text source, expected := some (.ok (.string "x")) }]

/-- A validator with which every program has the same text. -/
def shownValidator : Validator where
  evaluate := fun _ _ => ⟨0, .result (.ok (.ofValue (.string "x")))⟩

/-- The program of a call. -/
def shownProgram : Program := [.expr (.call "f" [(none, .literal (.integer 1))] false ⟨0, 5⟩)]

/-- An example with a call behind a blank, about which there is a warning just when there is none. -/
theorem validate_warns_iff_plain :
    parse "f (1)" = .ok shownProgram ∧ IsIdentifier (shownDoc "f (1)").identifier ∧
    ∃ report, shownValidator.validate (shownDoc "f (1)") = .ok report ∧
      ((∃ x ∈ report.issues, x.WarnsOfCalls (examplePath 0)) ↔
        ¬ ((∃ c ∈ shownProgram.calls, c.name = "f" ∧ ¬ IsInterrupted "f (1)" c) ∨
          ∃ k, IsFeigned "f (1)" "f" k)) := by
  have hp : parse "f (1)" = .ok shownProgram := by cbv
  have hname : IsIdentifier (shownDoc "f (1)").identifier := by
    show scan "f" = _
    cbv
  obtain ⟨report, h⟩ := exists_ok_of_isSome (x := shownValidator.validate (shownDoc "f (1)"))
    (by decide +kernel)
  exact ⟨hp, hname, report, h, validate_warns_iff h hname rfl rfl hp⟩

/-- A text in quotes is no call, and yet there is no warning; a call with a comment before its
bracket is one, and there is. -/
theorem warnings_differ_from_calls :
    (∃ report p, shownValidator.validate (shownDoc "\"f(\"") = .ok report ∧
      parse "\"f(\"" = .ok p ∧ p.calls = [] ∧ report.issues = []) ∧
    ∃ report p, shownValidator.validate (shownDoc "(f # c\n())") = .ok report ∧
      parse "(f # c\n())" = .ok p ∧ (∃ c ∈ p.calls, c.name = "f") ∧
      ∃ x ∈ report.issues, x.WarnsOfCalls (examplePath 0) := by
  have validated (source : String) (issues : List Issue)
      (h : (shownValidator.validate (shownDoc source)).toOption.any (·.issues = issues)) :
      ∃ report, shownValidator.validate (shownDoc source) = .ok report ∧ report.issues = issues := by
    obtain ⟨report, hr, hi⟩ := exists_ok_of_any h
    exact ⟨report, hr, of_decide_eq_true hi⟩
  obtain ⟨quoted, hq, hqi⟩ := validated "\"f(\"" [] (by decide +kernel)
  obtain ⟨commented, hc, hci⟩ := validated "(f # c\n())"
    [⟨.notCalled "f", some "examples[0]"⟩] (by decide +kernel)
  refine ⟨⟨quoted, [.expr (.literal (.string "f("))], hq, by cbv, rfl, hqi⟩, commented,
    [.expr (.call "f" [] false ⟨1, 9⟩)], hc, by cbv, ⟨_, List.mem_cons_self, rfl⟩, ?_⟩
  rw [hci]
  exact ⟨_, List.mem_cons_self, rfl, rfl⟩

end FunctionManual
