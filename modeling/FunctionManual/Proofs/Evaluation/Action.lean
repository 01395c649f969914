import FunctionManual.Standard.Builtin

/-!
# Runs of actions

* `bind_run`, `bind_of_ok`, `bind_of_error`: how one action follows another.
* `bind_eq_ok`, `bind_eq_error`: what is known of two actions from how both end.
* `mapExpressionError_eq_ok`, `mapExpressionError_eq_error`: a changed error was one before.
-/

namespace FunctionManual.Action

variable {α β : Type} {m m' : Machine} {x : Action α} {k : α → Action β}

/-! ## One action after another -/

theorem bind_run (x : Action α) (k : α → Action β) (m : Machine) :
    (x >>= k) m = match x m with
      | (.ok a, m') => k a m'
      | (.error f, m') => (.error f, m') := by
  show StateT.bind x (ExceptT.bindCont k) m = _
  unfold StateT.bind
  cases x m with
  | mk r m' => cases r <;> rfl

theorem bind_of_ok {a : α} (h : x m = (.ok a, m')) : (x >>= k) m = k a m' := by
  rw [bind_run, h]

theorem bind_of_error {f : Fault} (h : x m = (.error f, m')) : (x >>= k) m = (.error f, m') := by
  rw [bind_run, h]

/-- An action that succeeds after another had that one succeed. -/
theorem bind_eq_ok {b : β} (h : (x >>= k) m = (.ok b, m')) :
    ∃ a m₁, x m = (.ok a, m₁) ∧ k a m₁ = (.ok b, m') := by
  rw [bind_run] at h
  split at h
  next a m₁ hx => exact ⟨a, m₁, hx, h⟩
  next => cases h

/-- Of two actions that end in a fault, the first does or the second does after it. -/
theorem bind_eq_error {f : Fault} (h : (x >>= k) m = (.error f, m')) :
    x m = (.error f, m') ∨ ∃ a m₁, x m = (.ok a, m₁) ∧ k a m₁ = (.error f, m') := by
  rw [bind_run] at h
  split at h
  next a m₁ hx => exact .inr ⟨a, m₁, hx, h⟩
  next f' m₁ hx =>
    cases h
    exact .inl hx

/-! ## Single actions -/

@[simp] theorem pure_run (a : α) (m : Machine) : (pure a : Action α) m = (.ok a, m) := rfl

@[simp] theorem look_run (f : Store → α) (m : Machine) : look f m = (.ok (f m.store), m) := rfl

@[simp] theorem ofExcept_run (r : Except Fault α) (m : Machine) : ofExcept r m = (r, m) := rfl

theorem mapExpressionError_eq_ok {g : ExpressionError → ExpressionError} {a : α}
    (h : mapExpressionError g x m = (.ok a, m')) : x m = (.ok a, m') := by
  unfold mapExpressionError at h
  split at h
  · cases h
  · exact h

/-- The changed error of an expression was one before; any other fault is as it was. -/
theorem mapExpressionError_eq_error {g : ExpressionError → ExpressionError} {f : Fault}
    (h : mapExpressionError g x m = (.error f, m')) :
    (∃ e, x m = (.error (.expression e), m') ∧ f = .expression (g e)) ∨
      (x m = (.error f, m') ∧ ∀ e, f ≠ .expression e) := by
  unfold mapExpressionError at h
  split at h
  next e m₁ hx =>
    cases h
    exact .inl ⟨e, hx, rfl⟩
  next hne => exact .inr ⟨h, fun e he => hne e m' (he ▸ h)⟩

end FunctionManual.Action
