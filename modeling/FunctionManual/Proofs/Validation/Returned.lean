import FunctionManual.Proofs.Validation.Examples
import FunctionManual.Proofs.Value.Acceptance

/-!
# What functions really return

Only the declared result of an example is checked against the type that the doc promises.

* `Report.Clears`: a report finds nothing wrong with the result of the example at a place.
* `Validator.Returns`: the evaluation of an example returns a value.
* `returned_value_conforms`: equal values have the same types; so what an example returns that a
  report clears has the promised type, and JSON holds it.
-/

namespace FunctionManual

variable {v : Validator} {d : FunctionDoc} {e : Example}

/-- The path of what the example at a place declares. -/
def expectedPath (index : Nat) : String :=
  let path := s!"examples[{index}]"
  s!"{path}.expected"

/-- A report finds nothing wrong with the result of the example at a place: there is no mismatch,
and what is declared can be written and has the promised type. -/
structure Report.Clears (r : Report) (index : Nat) : Prop where
  confirmed : ∀ x ∈ r.mismatches, x.index ≠ index
  declared : ∀ x ∈ r.issues, x.path = some (expectedPath index) →
    x.complaint.rule ≠ "example_return_type" ∧ x.complaint.rule ≠ "example_value_serializable"

instance (r : Report) (index : Nat) : Decidable (r.Clears index) :=
  decidable_of_iff (_ ∧ _) ⟨fun h => ⟨h.1, h.2⟩, fun h => ⟨h.confirmed, h.declared⟩⟩

/-- The evaluation of an example returns a value. -/
def Validator.Returns (v : Validator) (e : Example) (w : Value) : Prop :=
  ∃ elapsed x, v.evaluate e.source e.input = ⟨elapsed, .result (.ok x)⟩ ∧ x.toValue? = some w

/-! ## The declared result -/

/-- A declared value without an issue can be written and has the promised type. -/
theorem declared_of_checkExpected {path : String} {u : Value} {found : List Issue}
    (he : e.expected = some (.ok u)) (h : checkExpected d e path = .ok found)
    (hno : ∀ x ∈ found, x.path = some path → x.complaint.rule ≠ "example_return_type" ∧
      x.complaint.rule ≠ "example_value_serializable") :
    u.isJson ∧ ∃ r t, d.returns = some r ∧ r.type = some t ∧ t.admits u := by
  rw [checkExpected, he] at h
  simp only at h
  split at h
  next =>
    cases h
    exact absurd rfl (hno _ (List.mem_singleton_self _) rfl).2
  next hj =>
    cases hr : d.returns with
    | none =>
      rw [hr] at h
      cases h
    | some r =>
      rw [hr] at h
      simp only at h
      split at h
      next ht =>
        obtain ⟨t, htype, hadmits⟩ := (Option.any_eq_true ..).mp ht
        exact ⟨by simpa using hj, r, t, rfl, htype, hadmits⟩
      next =>
        obtain ⟨shown, -, h⟩ := bind_eq_ok h
        obtain ⟨type, -, h⟩ := bind_eq_ok h
        cases h
        exact absurd rfl (hno _ (List.mem_singleton_self _) rfl).1

theorem checkExpected_of_validateExample {index : Nat} {issues : List Issue}
    {mismatch : Option Mismatch} (h : v.validateExample d index e = .ok (issues, mismatch)) :
    ∃ found, checkExpected d e (expectedPath index) = .ok found ∧
      ∀ x ∈ found, x ∈ issues := by
  obtain ⟨declared, hd, h⟩ := bind_eq_ok h
  obtain ⟨calls, -, h⟩ := bind_eq_ok h
  obtain ⟨tried, -, h⟩ := bind_eq_ok h
  obtain ⟨found, hf, hd⟩ := bind_eq_ok hd
  cases hd
  cases h
  refine ⟨found, hf, fun x hx => ?_⟩
  exact List.mem_append_left _ (List.mem_append_left _ (List.mem_append_left _ hx))

/-- What is found about the declared result of an example is told. -/
theorem checkExpected_of_validateExamples {index i : Nat} {es : List Example}
    {issues : List Issue} {mismatches : List Mismatch}
    (h : v.validateExamples d index es = .ok (issues, mismatches)) (he : es[i]? = some e) :
    ∃ found, checkExpected d e (expectedPath (index + i)) = .ok found ∧
      ∀ x ∈ found, x ∈ issues := by
  induction es generalizing index i issues mismatches with
  | nil => cases he
  | cons e' es ih =>
    obtain ⟨⟨now, mismatch⟩, hnow, h⟩ := bind_eq_ok h
    obtain ⟨⟨later, others⟩, hlater, h⟩ := bind_eq_ok h
    cases h
    cases i with
    | zero =>
      cases he
      obtain ⟨found, hf, hmem⟩ := checkExpected_of_validateExample hnow
      exact ⟨found, hf, fun x hx => List.mem_append_left _ (hmem x hx)⟩
    | succ i =>
      obtain ⟨found, hf, hmem⟩ := ih hlater he
      rw [Nat.add_right_comm] at hf
      exact ⟨found, hf, fun x hx => List.mem_append_right _ (hmem x hx)⟩

/-! ## The returned value -/

/-- What an example returns that a report clears equals what is declared. -/
theorem exists_same_of_clears {report : Report} {i : Nat} {u : Value}
    (h : v.validate d = .ok report) (hc : report.Clears i) (he : d.examples[i]? = some e)
    (hh : e.requiresHost = false) (hu : e.expected = some (.ok u)) :
    (∃ w, v.Returns e w ∧ u.same w = .ok true) ∧
      u.isJson ∧ ∃ r t, d.returns = some r ∧ r.type = some t ∧ t.admits u := by
  obtain ⟨metadata, -, h⟩ := bind_eq_ok h
  obtain ⟨⟨issues, mismatches⟩, hs, h⟩ := bind_eq_ok h
  cases h
  constructor
  · have htold := (validateExamples_verdicts hs).told i
    rw [Nat.zero_add] at htold
    have hconfirms : v.Confirms e := by
      by_contra hn
      obtain ⟨x, hx, hi⟩ := htold.mpr ⟨e, he, hh, hn⟩
      exact hc.confirmed x hx hi
    obtain ⟨declared, actual, elapsed, hdeclared, heval, -, hm⟩ := hconfirms
    rw [hu] at hdeclared
    cases hdeclared
    cases hm with
    | value hx hsame => exact ⟨_, ⟨elapsed, _, heval, hx⟩, hsame⟩
  · obtain ⟨found, hf, hmem⟩ := checkExpected_of_validateExamples hs he
    rw [Nat.zero_add] at hf
    exact declared_of_checkExpected hu hf fun x hx =>
      hc.declared x (List.mem_append_right _ (hmem x hx))

/-- Values of the language that are the same have the same types, and JSON holds both or neither.
So an example that declares a value, and with whose result a report finds nothing wrong, returns a
value of the promised type that JSON holds. -/
theorem returned_value_conforms :
    (∀ u w : Value, u.IsMadeOf .proper → u.Distinct → u.same w = .ok true →
      (∀ t : TypeSpec, t.admits u = t.admits w) ∧ u.isJson = w.isJson) ∧
    ∀ (v : Validator) (d : FunctionDoc) (report : Report) (i : Nat) (e : Example) (u : Value),
      v.validate d = .ok report → report.Clears i → d.examples[i]? = some e →
      e.requiresHost = false → e.expected = some (.ok u) → u.Distinct →
      ∃ w r t, v.Returns e w ∧ d.returns = some r ∧ r.type = some t ∧ t.admits w ∧ w.isJson := by
  refine ⟨fun u w hu hd h => ⟨fun t => Value.accepts_eq_of_same t hu hd h,
    Value.isJson_eq_of_same hu hd h⟩, fun v d report i e u h hc he hh hu hd => ?_⟩
  obtain ⟨⟨w, hw, hsame⟩, hj, r, t, hr, ht, hadmits⟩ := exists_same_of_clears h hc he hh hu
  have hproper := Value.isMadeOf_of_isJson hd hj
  refine ⟨w, r, t, hw, hr, ht, ?_, ?_⟩
  · rw [TypeSpec.admits, ← Value.accepts_eq_of_same t hproper hd hsame]
    exact hadmits
  · rw [← Value.isJson_eq_of_same hproper hd hsame]
    exact hj

/-- An example that declares a record. -/
def pairExample : Example where
  source := "pair()"
  expected := some (.ok (.record [("a", .integer 1), ("b", .integer 2)]))

/-- The doc of a function that promises integers under names. -/
def pairDoc : FunctionDoc where
  identifier := "pair"
  summary := "S."
  description := "D."
  category := some .object
  parameters := []
  returns := some ⟨some (.object (some (.primitive .integer))), .text "R.", []⟩
  examples := [pairExample]

/-- A validator with which every program has the same record, in another order than declared. -/
def pairValidator : Validator where
  evaluate := fun _ _ =>
    ⟨0, .result (.ok (.ofValue (.record [("b", .integer 2), ("a", .integer 1)])))⟩

/-- The record that is returned has the types of the one that is declared; the report clears the
example, so the promised type is among them. -/
theorem returned_value_conforms_pair :
    (∀ t : TypeSpec, t.admits (.record [("a", .integer 1), ("b", .integer 2)]) =
      t.admits (.record [("b", .integer 2), ("a", .integer 1)])) ∧
    ∃ report, pairValidator.validate pairDoc = .ok report ∧ report.Clears 0 ∧
      ∃ w r t, pairValidator.Returns pairExample w ∧ pairDoc.returns = some r ∧ r.type = some t ∧
        t.admits w ∧ w.isJson := by
  have hdistinct : (Value.record [("a", .integer 1), ("b", .integer 2)]).Distinct :=
    .object (Value.hasNames_record (by decide)).different
      fun | _, .head _ => .scalar _ | _, .tail _ (.head _) => .scalar _
  have hproper := Value.isMadeOf_of_isJson hdistinct rfl
  obtain ⟨hequal, hreturned⟩ := returned_value_conforms
  refine ⟨(hequal _ _ hproper hdistinct rfl).1, ?_⟩
  have hclear : (pairValidator.validate pairDoc).toOption.any fun r => decide (r.Clears 0) := by
    decide +kernel
  obtain ⟨report, h, hc⟩ := exists_ok_of_any hclear
  have hc : report.Clears 0 := of_decide_eq_true hc
  exact ⟨report, h, hc, hreturned _ _ report 0 _ _ h hc rfl rfl rfl hdistinct⟩

end FunctionManual
