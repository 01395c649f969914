import FunctionManual.Evaluation.Run
import FunctionManual.Proofs.Evaluation.Action
import FunctionManual.Proofs.Store.Soundness

/-!
# Actions that change no container that exists

* `Action.Spares`: an action that only adds containers, whatever it ends in.
* `Registry.Spares`: the evaluators of a registry are such actions.
* `evalExpr_spares`: then expressions are, checked or not.
-/

namespace FunctionManual

variable {α β : Type}

/-! ## Actions -/

namespace Action

/-- Whatever the action ends in, it has changed no container that existed before. -/
def Spares (x : Action α) : Prop := ∀ m : Machine, m.store.Grows (x m).2.store

theorem Spares.grows {x : Action α} {m m' : Machine} {r : Except Fault α} (h : x.Spares)
    (hx : x m = (r, m')) : m.store.Grows m'.store := by
  have hm := h m
  rwa [hx] at hm

theorem spares_pure (a : α) : (pure a : Action α).Spares := fun m => .refl m.store

theorem spares_look (f : Store → α) : (look f).Spares := fun m => .refl m.store

theorem spares_ofExcept (r : Except Fault α) : (ofExcept r).Spares := fun m => .refl m.store

theorem spares_fail (f : Fault) : (fail f : Action α).Spares := fun m => .refl m.store

theorem spares_change {f : Store → α × Store} (h : ∀ s : Store, s.Grows (f s).2) :
    (change f).Spares := fun m => h m.store

theorem spares_addArray (ds : List Datum) : (change fun s => s.addArray ds).Spares :=
  spares_change fun s => s.grows_add _

theorem spares_addObject (ms : Members Datum) : (change fun s => s.addObject ms).Spares :=
  spares_change fun s => s.grows_add _

theorem spares_load (v : Value) : (load v).Spares := fun m => m.store.load_grows v

theorem Spares.bind {x : Action α} {k : α → Action β} (hx : x.Spares)
    (hk : ∀ a m m', x m = (.ok a, m') → (k a).Spares) : (x >>= k).Spares := by
  intro m
  have h := hx m
  rcases hm : x m with ⟨f | a, m'⟩
  · rw [bind_of_error hm]
    rwa [hm] at h
  · rw [bind_of_ok hm]
    rw [hm] at h
    exact h.trans (hk a m m' hm m')

theorem Spares.mapExpressionError {x : Action α} (h : x.Spares)
    (g : ExpressionError → ExpressionError) : (mapExpressionError g x).Spares := by
  intro m
  have hm := h m
  unfold Action.mapExpressionError
  split
  next hx => rwa [hx] at hm
  next => exact hm

end Action

/-! ## Expressions -/

/-- No evaluator changes a container that exists. -/
def Registry.Spares (r : Registry) : Prop :=
  ∀ entry ∈ r.entries, ∀ bound : Arguments, (entry.evaluator bound).Spares

variable {r : Registry} {scope : Scope}

theorem bindParameters_spares (parameters : List Parameter) (bound : Arguments) :
    (bindParameters parameters bound).Spares := by
  induction parameters generalizing bound with
  | nil => exact Action.spares_pure _
  | cons p rest ih =>
    rw [bindParameters]
    cases bound.lookup p.name.plain with
    | some d =>
      refine (Action.spares_look _).bind fun checked _ _ _ => ?_
      exact (Action.spares_ofExcept checked).bind fun _ _ _ _ => ih bound
    | none =>
      simp only
      split
      · exact ih bound
      · exact (Action.spares_load _).bind fun _ _ _ _ => ih _

theorem callEntry_spares (hr : r.Spares) {entry : Entry} (he : entry ∈ r.entries) (span : Span)
    (given : Arguments) : (callEntry entry span given).Spares := by
  refine Action.Spares.mapExpressionError ?_ _
  exact (bindParameters_spares _ given).bind fun bound _ _ _ => hr entry he bound

theorem entryOf_spares (name : String) : (entryOf r name).Spares := by
  unfold entryOf
  cases r.find? name with
  | none => exact Action.spares_fail _
  | some entry => exact Action.spares_pure entry

theorem mem_of_entryOf {name : String} {entry : Entry} {m m' : Machine}
    (h : entryOf r name m = (.ok entry, m')) : entry ∈ r.entries := by
  unfold entryOf at h
  cases hf : r.find? name with
  | none =>
    rw [hf] at h
    cases h
  | some entry =>
    rw [hf] at h
    cases h
    exact List.mem_of_find?_eq_some hf

theorem argumentName_spares (doc : FunctionDoc) (place : Nat) (name : Option String) :
    (argumentName doc place name).Spares := by
  unfold argumentName
  cases name with
  | some n => exact Action.spares_pure n
  | none =>
    cases doc.parameters[place]? with
    | some p => exact Action.spares_pure _
    | none => exact Action.spares_fail _

theorem readVariable_spares (name : String) (span : Span) :
    (readVariable scope name span).Spares := by
  unfold readVariable
  cases scope.assigned.lookup name with
  | some d => exact Action.spares_pure d
  | none => exact Action.spares_fail _

mutual

/-- An expression changes no container that exists. -/
theorem evalExpr_spares (hr : r.Spares) : (e : Expr) → (evalExpr r scope e).Spares
  | .literal _ => Action.spares_pure _
  | .array items => by
    rw [evalExpr]
    exact (evalItems_spares hr items).bind fun ds _ _ _ => Action.spares_addArray ds
  | .object entries => by
    rw [evalExpr]
    exact (evalEntries_spares hr entries).bind fun ms _ _ _ => Action.spares_addObject _
  | .variable name span => by
    rw [evalExpr]
    exact readVariable_spares name span
  | .path _ => by
    rw [evalExpr]
    exact Action.spares_look _
  | .call name arguments _ span => by
    rw [evalExpr]
    refine (entryOf_spares name).bind fun entry _ _ he => ?_
    refine (evalArguments_spares hr entry.doc 0 [] arguments).bind fun given _ _ _ => ?_
    exact callEntry_spares hr (mem_of_entryOf he) span given

theorem evalItems_spares (hr : r.Spares) : (es : List Expr) → (evalItems r scope es).Spares
  | [] => Action.spares_pure _
  | e :: es => by
    rw [evalItems]
    refine (evalExpr_spares hr e).bind fun _ _ _ _ => ?_
    exact (evalItems_spares hr es).bind fun _ _ _ _ => Action.spares_pure _

theorem evalEntries_spares (hr : r.Spares) :
    (entries : List (String × Expr)) → (evalEntries r scope entries).Spares
  | [] => Action.spares_pure _
  | (_, e) :: entries => by
    rw [evalEntries]
    refine (evalExpr_spares hr e).bind fun _ _ _ _ => ?_
    exact (evalEntries_spares hr entries).bind fun _ _ _ _ => Action.spares_pure _

theorem evalArguments_spares (hr : r.Spares) (doc : FunctionDoc) (place : Nat)
    (bound : Arguments) : (arguments : List (Option String × Expr)) →
      (evalArguments r scope doc place bound arguments).Spares
  | [] => Action.spares_pure _
  | (n, e) :: arguments => by
    rw [evalArguments]
    refine (argumentName_spares doc place n).bind fun _ _ _ _ => ?_
    refine (evalExpr_spares hr e).bind fun _ _ _ _ => ?_
    exact evalArguments_spares hr doc _ _ arguments

end

end FunctionManual
