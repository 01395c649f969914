import FunctionManual.Proofs.Except
import FunctionManual.Proofs.Value.Equality
import FunctionManual.Validation.Validator

/-!
# What a report tells of examples

* `Matches`: a declared result, and one that is returned and as good.
* `Validator.Confirms`: the evaluation of an example returns a matching result in time.
* `compare_eq_none_iff`: an outcome is no mismatch just when the evaluation confirms its example.
* `Verdict`: what is found about one example, and about those from a place on.
* `validate_tells_examples`: a report has a mismatch for each example that is run and not confirmed,
  and a warning for each that is not run.
-/

namespace FunctionManual

variable {v v' : Validator} {d : FunctionDoc} {e : Example} {o : Outcome}

/-! ## Matching results -/

/-- A result that is as good as the declared one: the same value, or a failure of the same kind
while the program runs, with the same message where messages count and one is declared. -/
inductive Matches (m : FailureMatch) : Except Failure Value → Result → Prop
  | value {v w : Value} {x : Snapshot} (hx : x.toValue? = some w) (h : v.same w = .ok true) :
      Matches m (.ok v) (.ok x)
  | failure {kind declared actual : String} (hp : kind ≠ "parse") (hc : kind ≠ "compile")
      (h : m = .kind ∨ declared = "" ∨ declared = actual) :
      Matches m (.error ⟨kind, declared⟩) (.error ⟨kind, actual⟩)

/-- The evaluation of an example returns, within the limit, a result that matches. -/
def Validator.Confirms (v : Validator) (e : Example) : Prop :=
  ∃ declared actual elapsed, e.expected = some declared ∧
    v.evaluate e.source e.input = ⟨elapsed, .result actual⟩ ∧ v.limit.exceededBy elapsed = false ∧
    Matches v.failureMatch declared actual

theorem Failure.isOfText_iff {f : Failure} :
    f.isOfText ↔ f.kind = "parse" ∨ f.kind = "compile" := by
  rw [isOfText, Bool.or_eq_true, decide_eq_true_eq, decide_eq_true_eq]
  rfl

theorem Failure.agrees_iff {m : FailureMatch} {f g : Failure} :
    f.agrees m g ↔ f.kind = g.kind ∧ (m = .kind ∨ f.message = "" ∨ f.message = g.message) := by
  simp only [agrees, Bool.and_eq_true, Bool.or_eq_true, decide_eq_true_eq, String.isEmpty_iff,
    or_assoc]

theorem Matches.not_isOfText {m : FailureMatch} {declared : Except Failure Value} {f : Failure}
    (h : Matches m declared (.error f)) : ¬ f.isOfText := by
  cases h with
  | failure hp hc _ => exact fun ht => (Failure.isOfText_iff.mp ht).elim hp hc

/-- What is returned agrees with what is declared when it matches; a failure of the text does not
come so far. -/
theorem agrees_iff {m : FailureMatch} {declared : Option (Except Failure Value)} {actual : Result}
    (hn : ∀ f, actual = .error f → ¬ f.isOfText) :
    Result.agrees m declared (some actual) ↔ ∃ w, declared = some w ∧ Matches m w actual := by
  constructor
  · intro h
    obtain _ | ⟨kind, message⟩ | w := declared
    · cases h
    · obtain g | x := actual
      · obtain ⟨rfl, h⟩ := Failure.agrees_iff.mp h
        have htext := hn g rfl
        rw [Failure.isOfText_iff, not_or] at htext
        exact ⟨_, rfl, .failure htext.1 htext.2 h⟩
      · cases h
    · obtain g | x := actual
      · cases h
      · obtain ⟨u, hu, hs⟩ := (Option.any_eq_true ..).mp h
        exact ⟨_, rfl, .value hu (Value.isSame_iff.mp hs)⟩
  · rintro ⟨_, rfl, h⟩
    cases h with
    | value hx h => exact (Option.any_eq_true ..).mpr ⟨_, hx, Value.isSame_iff.mpr h⟩
    | failure _ _ h => exact Failure.agrees_iff.mpr ⟨rfl, h⟩

/-! ## Outcomes -/

theorem attempt_of_requiresHost {evaluate : Evaluate} {limit : TimeLimit} (h : e.requiresHost) :
    e.attempt evaluate limit =
      .ok ⟨.skipped, none, some "example depends on host runtime state"⟩ := by
  rw [Example.attempt, if_pos h]
  rfl

/-- An example that is run needs a clock that can wait for it; then it takes too long, or has the
outcome of the response. -/
theorem attempt_eq_ok_iff {evaluate : Evaluate} {limit : TimeLimit} (hh : e.requiresHost = false) :
    e.attempt evaluate limit = .ok o ↔ limit.wait = .ok () ∧
      ((limit.exceededBy (evaluate e.source e.input).elapsed = true ∧
          o = ⟨.timedOut, none, some s!"evaluation did not finish within {limit.brief}s"⟩) ∨
        limit.exceededBy (evaluate e.source e.input).elapsed = false ∧
          Outcome.ofResponse (evaluate e.source e.input).response = .ok o) := by
  rw [Example.attempt, if_neg (by rw [hh]; exact Bool.false_ne_true)]
  cases limit.wait with
  | error f => exact iff_of_false nofun fun h => absurd h.1 nofun
  | ok u =>
    rw [and_iff_right rfl]
    cases ht : limit.exceededBy (evaluate e.source e.input).elapsed with
    | true =>
      simp only [bind, Except.bind, ht, if_true, true_and, Bool.true_eq_false, false_and, or_false]
      exact ⟨fun h => (Except.ok.inj h).symm, fun h => congrArg Except.ok h.symm⟩
    | false =>
      simp only [bind, Except.bind, ht, Bool.false_eq_true, if_false, false_and, false_or,
        true_and]

/-- An example that is run takes too long, or has the outcome of the response. -/
theorem attempt_eq_ok {evaluate : Evaluate} {limit : TimeLimit} (hh : e.requiresHost = false)
    (h : e.attempt evaluate limit = .ok o) :
    (limit.exceededBy (evaluate e.source e.input).elapsed = true ∧ o.status = .timedOut) ∨
      limit.exceededBy (evaluate e.source e.input).elapsed = false ∧
        Outcome.ofResponse (evaluate e.source e.input).response = .ok o := by
  obtain ⟨-, ⟨ht, rfl⟩ | h⟩ := (attempt_eq_ok_iff hh).mp h
  · exact .inl ⟨ht, rfl⟩
  · exact .inr h

theorem compare_completed_iff {m : FailureMatch} {i : Nat} {x : Option Result} :
    compare m i e ⟨.completed, x, none⟩ = none ↔ Result.agrees m e.expected x := by
  cases h : Result.agrees m e.expected x <;> simp [compare, h]

/-- The outcome of a response is no mismatch just when it is a result that matches. The cases are
the responses, and failures of the text apart from others. -/
theorem compare_ofResponse_iff {m : FailureMatch} {i : Nat} {x : Response}
    (h : Outcome.ofResponse x = .ok o) :
    compare m i e o = none ↔ ∃ declared actual, e.expected = some declared ∧ x = .result actual ∧
      Matches m declared actual := by
  have completed {actual : Result} (hn : ∀ f, actual = .error f → ¬ f.isOfText) :
      compare m i e ⟨.completed, some actual, none⟩ = none ↔
        ∃ declared actual', e.expected = some declared ∧ .result actual = Response.result actual' ∧
          Matches m declared actual' := by
    rw [compare_completed_iff, agrees_iff hn]
    simp only [Response.result.injEq, exists_and_left, exists_eq_left']
  cases x with
  | result actual =>
    obtain f | x := actual
    · rw [Outcome.ofResponse] at h
      split at h
      next ht =>
        cases h
        refine iff_of_false nofun ?_
        rintro ⟨_, _, -, hx, hm⟩
        cases hx
        exact hm.not_isOfText ht
      next ht =>
        cases h
        exact completed fun g hg => by cases hg; exact ht
    · cases h
      exact completed nofun
  | bare word => cases h; exact iff_of_false nofun nofun
  | raised label message => cases h; exact iff_of_false nofun nofun
  | nothing => cases h

/-- An example that is run has no mismatch just when its evaluation confirms it. -/
theorem compare_eq_none_iff {i : Nat} (hh : e.requiresHost = false)
    (h : e.attempt v.evaluate v.limit = .ok o) :
    compare v.failureMatch i e o = none ↔ v.Confirms e := by
  obtain ⟨ht, hs⟩ | ⟨ht, ho⟩ := attempt_eq_ok hh h
  · refine iff_of_false (by simp [compare, hs]) ?_
    rintro ⟨_, _, elapsed, -, hx, hlimit, -⟩
    rw [hx, hlimit] at ht
    cases ht
  · rw [compare_ofResponse_iff ho]
    constructor
    · rintro ⟨declared, actual, he, hx, hm⟩
      exact ⟨declared, actual, _, he, congrArg (Trial.mk _) hx, ht, hm⟩
    · rintro ⟨declared, actual, elapsed, he, hx, -, hm⟩
      exact ⟨declared, actual, he, by rw [hx], hm⟩

/-! ## Verdicts -/

/-- The warning about an example that is not run. -/
def Issue.notRun (index : Nat) : Issue :=
  ⟨.notRun "example depends on host runtime state", some s!"examples[{index}]"⟩

/-- What is found about the example at a place: a mismatch when it is run and not confirmed, and a
warning when it is not run. -/
structure Verdict (v : Validator) (index : Nat) (e : Example) (issues : List Issue)
    (mismatch : Option Mismatch) : Prop where
  placed : ∀ x ∈ mismatch, x.index = index
  told : mismatch.isSome ↔ e.requiresHost = false ∧ ¬ v.Confirms e
  skipped : e.requiresHost → Issue.notRun index ∈ issues

theorem index_of_compare {m : FailureMatch} {i : Nat} {x : Mismatch}
    (h : compare m i e o = some x) : x.index = i := by
  unfold compare at h
  cases hs : o.status <;> simp only [hs] at h
  case skipped | completed =>
    split at h <;> cases h
    rfl
  all_goals cases h; rfl

theorem status_of_ofResponse {x : Response} (h : Outcome.ofResponse x = .ok o) :
    o.status ≠ .skipped := by
  unfold Outcome.ofResponse at h
  split at h
  case h_2 => split at h <;> cases h <;> simp
  case h_5 => cases h
  all_goals cases h; simp

theorem compare_of_judge {m : FailureMatch} {index : Nat} {e : Example} {o : Outcome}
    {mismatch : Option Mismatch} (h : judge m index e o = .ok mismatch) :
    mismatch = compare m index e o := by
  obtain ⟨⟨⟩, -, h⟩ := bind_eq_ok h
  obtain ⟨⟨⟩, -, h⟩ := bind_eq_ok h
  cases h
  rfl

theorem tryExample_of_requiresHost {index : Nat} (hh : e.requiresHost) :
    v.tryExample index e s!"examples[{index}]" = .ok ([Issue.notRun index], none) := by
  rw [Validator.tryExample, attempt_of_requiresHost hh]
  rfl

/-- An example that is run is compared with its outcome, and nothing else is found about it. -/
theorem tryExample_eq_ok_iff {index : Nat} {path : String} (hh : e.requiresHost = false)
    {found : List Issue × Option Mismatch} :
    v.tryExample index e path = .ok found ↔ ∃ o, e.attempt v.evaluate v.limit = .ok o ∧
      ∃ mismatch, judge v.failureMatch index e o = .ok mismatch ∧ found = ([], mismatch) := by
  have hstatus : ∀ o, e.attempt v.evaluate v.limit = .ok o → o.status ≠ .skipped := by
    intro o ho
    obtain ⟨-, hs⟩ | ⟨-, hr⟩ := attempt_eq_ok hh ho
    · rw [hs]; exact nofun
    · exact status_of_ofResponse hr
  constructor
  · intro h
    obtain ⟨o, ho, h⟩ := bind_eq_ok h
    rw [if_neg (hstatus o ho)] at h
    obtain ⟨mismatch, hm, h⟩ := bind_eq_ok h
    cases h
    exact ⟨o, ho, mismatch, hm, rfl⟩
  · rintro ⟨o, ho, mismatch, hm, rfl⟩
    simp only [Validator.tryExample, ho, hm, bind, Except.bind, if_neg (hstatus o ho)]
    rfl

theorem validateExample_verdict {index : Nat} {issues : List Issue} {mismatch : Option Mismatch}
    (h : v.validateExample d index e = .ok (issues, mismatch)) :
    Verdict v index e issues mismatch := by
  obtain ⟨declared, -, h⟩ := bind_eq_ok h
  obtain ⟨calls, -, h⟩ := bind_eq_ok h
  obtain ⟨found, ht, h⟩ := bind_eq_ok h
  cases hh : e.requiresHost with
  | true =>
    rw [tryExample_of_requiresHost hh] at ht
    cases ht
    cases h
    refine ⟨nofun, iff_of_false nofun fun hn => ?_, fun _ => List.mem_append_right _ ?_⟩
    · rw [hh] at hn
      cases hn.1
    · exact List.mem_singleton_self _
  | false =>
    obtain ⟨o, ho, x, hm, rfl⟩ := (tryExample_eq_ok_iff hh).mp ht
    cases h
    rw [compare_of_judge hm]
    refine ⟨fun x hx => index_of_compare hx, ?_, fun ht => absurd (hh.symm.trans ht) nofun⟩
    rw [Option.isSome_iff_ne_none, Ne, compare_eq_none_iff hh ho]
    exact (and_iff_right hh).symm

/-- What is found about the examples from a place on: mismatches in order, one for each that is run
and not confirmed, and a warning for each that is not run. -/
structure Verdicts (v : Validator) (index : Nat) (es : List Example) (issues : List Issue)
    (mismatches : List Mismatch) : Prop where
  inOrder : mismatches.Pairwise fun x y => x.index < y.index
  behind : ∀ x ∈ mismatches, index ≤ x.index
  told : ∀ i, (∃ x ∈ mismatches, x.index = index + i) ↔
    ∃ e, es[i]? = some e ∧ e.requiresHost = false ∧ ¬ v.Confirms e
  skipped : ∀ i e, es[i]? = some e → e.requiresHost → Issue.notRun (index + i) ∈ issues

/-- What is found about one more example in front. -/
theorem Verdicts.cons {index : Nat} {es : List Example} {issues later : List Issue}
    {mismatch : Option Mismatch} {mismatches : List Mismatch}
    (h : Verdict v index e issues mismatch) (hs : Verdicts v (index + 1) es later mismatches) :
    Verdicts v index (e :: es) (issues ++ later) (mismatch.toList ++ mismatches) where
  inOrder := by
    refine List.pairwise_append.mpr ⟨?_, hs.inOrder, fun x hx y hy => ?_⟩
    · cases mismatch with
      | none => exact .nil
      | some x => exact List.pairwise_singleton _ x
    · have := h.placed x (Option.mem_toList.mp hx)
      have := hs.behind y hy
      omega
  behind := by
    refine List.forall_mem_append.mpr ⟨fun x hx => ?_, fun x hx => ?_⟩
    · have := h.placed x (Option.mem_toList.mp hx)
      omega
    · have := hs.behind x hx
      omega
  told i := by
    cases i with
    | zero =>
      rw [List.getElem?_cons_zero]
      simp only [Option.some.injEq, exists_eq_left', Nat.add_zero, List.mem_append,
        Option.mem_toList]
      rw [← h.told, Option.isSome_iff_exists]
      constructor
      · rintro ⟨x, hx | hx, hi⟩
        · exact ⟨x, hx⟩
        · have := hs.behind x hx
          omega
      · rintro ⟨x, hx⟩
        exact ⟨x, .inl hx, h.placed x hx⟩
    | succ i =>
      rw [List.getElem?_cons_succ, ← hs.told i]
      have hi : index + (i + 1) = index + 1 + i := by omega
      simp only [List.mem_append, Option.mem_toList, hi]
      constructor
      · rintro ⟨x, hx | hx, hi⟩
        · have := h.placed x hx
          omega
        · exact ⟨x, hx, hi⟩
      · rintro ⟨x, hx, hi⟩
        exact ⟨x, .inr hx, hi⟩
  skipped i e' he hh := by
    cases i with
    | zero =>
      cases he
      exact List.mem_append_left _ (h.skipped hh)
    | succ i =>
      have hi : index + (i + 1) = index + 1 + i := by omega
      exact List.mem_append_right _ (hi ▸ hs.skipped i e' he hh)

theorem validateExamples_verdicts {index : Nat} {es : List Example} {issues : List Issue}
    {mismatches : List Mismatch}
    (h : v.validateExamples d index es = .ok (issues, mismatches)) :
    Verdicts v index es issues mismatches := by
  induction es generalizing index issues mismatches with
  | nil =>
    cases h
    exact ⟨.nil, nofun, fun i => iff_of_false (by simp) (by simp), by simp⟩
  | cons e es ih =>
    obtain ⟨⟨found, mismatch⟩, he, h⟩ := bind_eq_ok h
    obtain ⟨⟨later, others⟩, hs, h⟩ := bind_eq_ok h
    cases h
    exact .cons (validateExample_verdict he) (ih hs)

/-! ## Validators that agree -/

/-- Validators that agree on the limit, on how failures are compared, and on the examples that are
run. -/
structure Validator.AgreesOn (v v' : Validator) (es : List Example) : Prop where
  limit : v'.limit = v.limit
  failureMatch : v'.failureMatch = v.failureMatch
  evaluate : ∀ e ∈ es, e.requiresHost = false →
    v'.evaluate e.source e.input = v.evaluate e.source e.input

theorem attempt_congr (h : v.AgreesOn v' [e]) :
    e.attempt v'.evaluate v'.limit = e.attempt v.evaluate v.limit := by
  cases hh : e.requiresHost with
  | true => rw [attempt_of_requiresHost hh, attempt_of_requiresHost hh]
  | false =>
    unfold Example.attempt
    rw [h.limit, h.evaluate e List.mem_cons_self hh]

theorem validateExamples_congr {es : List Example} (h : v.AgreesOn v' es) (index : Nat) :
    v'.validateExamples d index es = v.validateExamples d index es := by
  induction es generalizing index with
  | nil => rfl
  | cons e es ih =>
    have he : v.AgreesOn v' [e] := ⟨h.limit, h.failureMatch, fun x hx =>
      h.evaluate x (List.mem_singleton.mp hx ▸ List.mem_cons_self)⟩
    have hes : v.AgreesOn v' es := ⟨h.limit, h.failureMatch, fun x hx =>
      h.evaluate x (List.mem_cons_of_mem _ hx)⟩
    have hexample : v'.validateExample d index e = v.validateExample d index e := by
      rw [Validator.validateExample, Validator.validateExample, Validator.tryExample,
        Validator.tryExample, attempt_congr he, h.failureMatch]
    rw [Validator.validateExamples, Validator.validateExamples, hexample]
    simp only [ih hes]

/-! ## Reports -/

/-- A report has mismatches in the order of the examples, one for each example that is run and whose
evaluation does not return a matching result, and none else. It warns about each example that is not
run, and is the same whatever evaluating that one would do. -/
theorem validate_tells_examples {report : Report} (h : v.validate d = .ok report) :
    (report.mismatches.Pairwise fun x y => x.index < y.index) ∧
    (∀ i, (∃ x ∈ report.mismatches, x.index = i) ↔
      ∃ e, d.examples[i]? = some e ∧ e.requiresHost = false ∧ ¬ v.Confirms e) ∧
    (∀ i e, d.examples[i]? = some e → e.requiresHost → Issue.notRun i ∈ report.warnings) ∧
    ∀ v', v.AgreesOn v' d.examples → v'.validate d = .ok report := by
  have hcongr (v') (ha : v.AgreesOn v' d.examples) : v'.validate d = v.validate d := by
    rw [Validator.validate, Validator.validate, validateExamples_congr ha]
  obtain ⟨metadata, -, hreport⟩ := bind_eq_ok h
  obtain ⟨⟨issues, mismatches⟩, hs, hreport⟩ := bind_eq_ok hreport
  cases hreport
  have hv := validateExamples_verdicts hs
  refine ⟨hv.inOrder, fun i => ?_, fun i e he hh => ?_, fun v' ha => (hcongr v' ha).trans h⟩
  · rw [← hv.told i, Nat.zero_add]
  · have hm := hv.skipped i e he hh
    rw [Nat.zero_add] at hm
    exact List.mem_filter.mpr ⟨List.mem_append_right _ hm, rfl⟩

/-- The doc of a function with an example that holds, one that does not, and one that needs a
host. -/
def tickDoc : FunctionDoc where
  identifier := "tick"
  summary := "S."
  description := "D."
  category := some .string
  parameters := []
  returns := some ⟨some (.primitive .integer), .text "R.", []⟩
  examples := [
    { source := "tick()", expected := some (.ok (.integer 1)) },
    { source := "tick()", expected := some (.ok (.integer 2)) },
    { source := "tick()", expected := some (.ok (.integer 3)), requiresHost := true }]

/-- A validator with which every program has the value 1. -/
def ticker : Validator where
  evaluate := fun _ _ => ⟨0, .result (.ok (.ofValue (.integer 1)))⟩

theorem validate_tells_examples_tick :
    ∃ report, ticker.validate tickDoc = .ok report ∧ (∃ x ∈ report.mismatches, x.index = 1) ∧
      Issue.notRun 2 ∈ report.warnings := by
  obtain ⟨report, h⟩ : ∃ report, ticker.validate tickDoc = .ok report :=
    exists_ok_of_isSome (by decide +kernel)
  obtain ⟨-, htold, hskipped, -⟩ := validate_tells_examples h
  refine ⟨report, h, (htold 1).mpr ⟨_, rfl, rfl, ?_⟩, hskipped 2 _ rfl rfl⟩
  rintro ⟨_, _, _, he, hx, -, hm⟩
  cases he
  cases hx
  cases hm with
  | value hx h =>
    cases hx
    cases h

end FunctionManual
