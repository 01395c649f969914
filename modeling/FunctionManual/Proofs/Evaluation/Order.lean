import FunctionManual.Proofs.Evaluation.Visiting
import Mathlib.Data.List.Perm.Basic

/-!
# The order of calls

* `Expr.callsInOrder`, `Program.callsInOrder`: calls in the order in which they are made, the
  arguments of a call before the call.
* `Expr.callsInOrder_perm`, `Program.callsInOrder_perm`: they are all the calls there are.
* `Expr.Returns`, `Program.Returns`: a run comes to a call, and the call has a value.
* `Reaches.calls_before_return`: the calls before one whose arguments have values have returned.
-/

namespace FunctionManual

/-! ## The order -/

/-- The call that an expression is itself. -/
def Expr.own : Expr → List Call
  | .call name arguments mayFail span => [⟨name, arguments, mayFail, span⟩]
  | .literal _ | .array _ | .object _ | .variable _ _ | .path _ => []

theorem Expr.mem_own {e : Expr} {c : Call} : c ∈ e.own ↔ e = c.expr := by
  cases e with
  | call name arguments mayFail span =>
    obtain ⟨name', arguments', mayFail', span'⟩ := c
    simp only [own, Call.expr, List.mem_singleton, Call.mk.injEq, Expr.call.injEq, eq_comm]
  | _ => simp [own, Call.expr]

mutual

/-- The calls of an expression in order: those of its parts, and then the call that it is. -/
def Expr.callsInOrder : Expr → List Call
  | .literal _ | .variable _ _ | .path _ => []
  | .array items => itemsInOrder items
  | .object entries => entriesInOrder entries
  | .call name arguments mayFail span =>
    argumentsInOrder arguments ++ [⟨name, arguments, mayFail, span⟩]

/-- The calls of items in order. -/
def itemsInOrder : List Expr → List Call
  | [] => []
  | e :: rest => e.callsInOrder ++ itemsInOrder rest

/-- The calls of entries in order. -/
def entriesInOrder : List (String × Expr) → List Call
  | [] => []
  | (_, e) :: rest => e.callsInOrder ++ entriesInOrder rest

/-- The calls of arguments in order. -/
def argumentsInOrder : List (Option String × Expr) → List Call
  | [] => []
  | (_, e) :: rest => e.callsInOrder ++ argumentsInOrder rest

end

/-- The calls of a program in order. -/
def Program.callsInOrder (p : Program) : List Call := p.flatMap fun s => s.value.callsInOrder

theorem itemsInOrder_eq (es : List Expr) : itemsInOrder es = es.flatMap Expr.callsInOrder := by
  induction es with
  | nil => rfl
  | cons e es ih => rw [itemsInOrder, ih, List.flatMap_cons]

theorem entriesInOrder_eq (es : List (String × Expr)) :
    entriesInOrder es = (es.map (·.2)).flatMap Expr.callsInOrder := by
  induction es with
  | nil => rfl
  | cons e es ih => rw [entriesInOrder, ih, List.map_cons, List.flatMap_cons]

theorem argumentsInOrder_eq (es : List (Option String × Expr)) :
    argumentsInOrder es = (es.map (·.2)).flatMap Expr.callsInOrder := by
  induction es with
  | nil => rfl
  | cons e es ih => rw [argumentsInOrder, ih, List.map_cons, List.flatMap_cons]

namespace Expr

theorem callsInOrder_eq (e : Expr) :
    e.callsInOrder = e.parts.flatMap callsInOrder ++ e.own := by
  cases e with
  | literal _ | «variable» _ _ | path _ => rfl
  | array items => rw [callsInOrder, itemsInOrder_eq, own, List.append_nil, parts]
  | object entries => rw [callsInOrder, entriesInOrder_eq, own, List.append_nil, parts]
  | call name arguments mayFail span => rw [callsInOrder, argumentsInOrder_eq, own, parts]

theorem calls_eq (e : Expr) : e.calls = e.own ++ e.parts.flatMap calls := by
  cases e with
  | literal _ | «variable» _ _ | path _ => rfl
  | array items => rw [calls, callsOfItems_eq, own, List.nil_append, parts]
  | object entries => rw [calls, callsOfEntries_eq, own, List.nil_append, parts]
  | call name arguments mayFail span => rw [calls, callsOfArguments_eq, own, parts]; rfl

theorem callsInOrder_perm (e : Expr) : e.callsInOrder.Perm e.calls := by
  induction e using Expr.induct with
  | h e ih =>
  rw [callsInOrder_eq, calls_eq]
  exact List.perm_append_comm.trans ((List.Perm.flatMap_left _ ih).append_left _)

end Expr

theorem Program.callsInOrder_perm (p : Program) : p.callsInOrder.Perm p.calls := by
  refine List.Perm.flatMap_left _ fun s _ => ?_
  rw [s.calls_eq]
  exact s.value.callsInOrder_perm

/-! ## Calls that return -/

variable {r : Registry} {scope scope' : Scope} {m m' m₁ m₂ : Machine} {e x : Expr} {c : Call}
  {d : Datum}

/-- Evaluating an expression comes to a call, which has a value. -/
def Expr.Returns (r : Registry) (scope : Scope) (m : Machine) (e : Expr) (c : Call) : Prop :=
  ∃ m₁ d m₂, Visits r scope m e m₁ c.expr ∧ evalExpr r scope c.expr m₁ = (.ok d, m₂)

theorem Expr.Returns.part {before after : List Expr} {ds : List Datum}
    (he : e.parts = before ++ x :: after) (hb : evalItems r scope before m = (.ok ds, m₁))
    (h : x.Returns r scope m₁ c) : e.Returns r scope m c := by
  obtain ⟨m₂, d, m₃, hv, hd⟩ := h
  exact ⟨m₂, d, m₃, .part he hb hv, hd⟩

/-- Parts that have values have made their calls, when this is known of each of them. -/
theorem returns_of_parts {es rest : List Expr} {ds : List Datum} (he : e.parts = es ++ rest)
    (h : evalItems r scope es m = (.ok ds, m'))
    (ih : ∀ x ∈ es, ∀ {m d m'}, evalExpr r scope x m = (.ok d, m') →
      ∀ c ∈ x.callsInOrder, x.Returns r scope m c) :
    ∀ c ∈ es.flatMap Expr.callsInOrder, e.Returns r scope m c := by
  intro c hc
  obtain ⟨x, hx, hcx⟩ := List.mem_flatMap.mp hc
  obtain ⟨before, after, rfl⟩ := List.append_of_mem hx
  rw [evalItems_append] at h
  obtain ⟨ds₁, m₁, hb, h⟩ := Action.bind_eq_ok h
  rw [evalItems, bind_assoc] at h
  obtain ⟨d, m₂, hd, -⟩ := Action.bind_eq_ok h
  have he : e.parts = before ++ x :: (after ++ rest) := by rw [he, List.append_assoc]; rfl
  exact Expr.Returns.part he hb (ih x hx hd c hcx)

/-- An expression that has a value has made its calls. -/
theorem returns_of_eq_ok (he : e.IsChecked r) (h : evalExpr r scope e m = (.ok d, m')) :
    ∀ c ∈ e.callsInOrder, e.Returns r scope m c := by
  induction e using Expr.induct generalizing m d m' with
  | h e ih =>
  have hparts := h
  rw [evalExpr_eq he] at hparts
  obtain ⟨ds, m₁, hparts, -⟩ := Action.bind_eq_ok hparts
  intro c hc
  rw [Expr.callsInOrder_eq, List.mem_append] at hc
  obtain hc | hc := hc
  · exact returns_of_parts (List.append_nil _).symm hparts
      (fun x hx _ _ _ hok => ih x hx (he.part hx) hok) c hc
  · obtain rfl := Expr.mem_own.mp hc
    exact ⟨m, d, m', .here _ _, h⟩

/-- Evaluation that comes to a call whose arguments have values has made the calls before it. -/
theorem Visits.calls_before_return (h : Visits r scope m e m₁ c.expr) (he : e.IsChecked r)
    {ds : List Datum} (hargs : evalItems r scope c.expr.parts m₁ = (.ok ds, m₂)) :
    ∃ before after, e.callsInOrder = before ++ c :: after ∧
      ∀ b ∈ before, e.Returns r scope m b := by
  generalize hx : c.expr = x at h hargs
  induction h with
  | here m e =>
    subst hx
    refine ⟨c.expr.parts.flatMap Expr.callsInOrder, [], Expr.callsInOrder_eq _, ?_⟩
    exact returns_of_parts (List.append_nil _).symm hargs
      fun x hx _ _ _ hok => returns_of_eq_ok (he.part hx) hok
  | @part m m₃ m' e y e' bs as ds' hp hb _ ih =>
    obtain ⟨before, after, hy, hret⟩ := ih (he.part (mem_of_parts_eq hp)) hx hargs
    refine ⟨bs.flatMap Expr.callsInOrder ++ before,
      after ++ (as.flatMap Expr.callsInOrder ++ e.own), ?_, ?_⟩
    · rw [Expr.callsInOrder_eq, hp, List.flatMap_append, List.flatMap_cons, hy]
      simp only [List.append_assoc, List.cons_append]
    · refine List.forall_mem_append.mpr ⟨?_, fun b hb' => (hret b hb').part hp hb⟩
      exact returns_of_parts hp hb fun x hx _ _ _ hok =>
        returns_of_eq_ok (he.part (hp ▸ List.mem_append_left _ hx)) hok

/-! ## Programs -/

/-- A run comes to a call, which has a value. -/
def Program.Returns (r : Registry) (p : Program) (scope : Scope) (m : Machine) (c : Call) : Prop :=
  ∃ scope' m₁ d m₂, Reaches r p scope m scope' m₁ c.expr ∧
    evalExpr r scope' c.expr m₁ = (.ok d, m₂)

theorem Expr.Returns.visit {s : Statement} {rest : Program} (h : s.value.Returns r scope m c) :
    Program.Returns r (s :: rest) scope m c := by
  obtain ⟨m₁, d, m₂, hv, hd⟩ := h
  exact ⟨scope, m₁, d, m₂, .visit hv, hd⟩

theorem Program.Returns.later {s : Statement} {rest : Program}
    (hs : runStatement r scope s m = (.ok (d, scope'), m₁))
    (h : Program.Returns r rest scope' m₁ c) : Program.Returns r (s :: rest) scope m c := by
  obtain ⟨scope₂, m₂, d', m₃, hr, hd⟩ := h
  exact ⟨scope₂, m₂, d', m₃, .later hs hr, hd⟩

/-- A statement that was run had a value for its expression. -/
theorem evalExpr_of_runStatement {s : Statement}
    (h : runStatement r scope s m = (.ok (d, scope'), m')) :
    ∃ d' m₁, evalExpr r scope s.value m = (.ok d', m₁) := by
  cases s <;> exact (Action.bind_eq_ok h).imp fun d' hd => hd.imp fun m₁ hm => hm.1

/-- A run that comes to a call whose arguments have values has made the calls before it. -/
theorem Reaches.calls_before_return {p : Program}
    (h : Reaches r p scope m scope' m₁ c.expr) (hp : p.IsChecked r) {ds : List Datum}
    (hargs : evalItems r scope' c.expr.parts m₁ = (.ok ds, m₂)) :
    ∃ before after, p.callsInOrder = before ++ c :: after ∧
      ∀ b ∈ before, p.Returns r scope m b := by
  generalize hx : c.expr = x at h
  induction h with
  | @visit s rest scope m m' e hv =>
    subst hx
    obtain ⟨before, after, hs, hret⟩ := hv.calls_before_return (hp _ List.mem_cons_self) hargs
    refine ⟨before, after ++ Program.callsInOrder rest, ?_, fun b hb => (hret b hb).visit⟩
    rw [Program.callsInOrder, List.flatMap_cons, hs, List.append_assoc]
    rfl
  | @later s rest scope scope₁ scope' m m₁ m' d e hs _ ih =>
    obtain ⟨before, after, hrest, hret⟩ :=
      ih (fun s hs => hp s (List.mem_cons_of_mem _ hs)) hargs hx
    refine ⟨s.value.callsInOrder ++ before, after, ?_, ?_⟩
    · rw [Program.callsInOrder, List.flatMap_cons, List.append_assoc, ← hrest]
      rfl
    · obtain ⟨d', m₂, hd⟩ := evalExpr_of_runStatement hs
      exact List.forall_mem_append.mpr
        ⟨fun b hb => (returns_of_eq_ok (hp _ List.mem_cons_self) hd b hb).visit,
          fun b hb => (hret b hb).later hs⟩

end FunctionManual
