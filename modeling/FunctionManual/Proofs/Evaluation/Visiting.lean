import FunctionManual.Proofs.Evaluation.Action
import FunctionManual.Proofs.Evaluation.Arguments
import Mathlib.Data.List.ReduceOption

/-!
# What a run comes to

* `Expr.parts`, `Expr.finish`: the parts of an expression, and what it does with their values.
* `evalExpr_eq`: an expression that is checked has its parts evaluated in order and is finished.
* `Visits`, `Reaches`: the expressions that a run comes to, with the machine it has then.
* `FailsAt`: an expression whose parts have values has none itself.
* `runProgram_eq_error_iff`: a run ends in a fault just when it reaches an expression that fails so.
-/

namespace FunctionManual

/-! ## Parts of expressions -/

namespace Expr

/-- The expressions whose values an expression needs, in the order of their evaluation. -/
def parts : Expr → List Expr
  | .literal _ | .variable _ _ | .path _ => []
  | .array items => items
  | .object entries => entries.map (·.2)
  | .call _ arguments _ _ => arguments.map (·.2)

theorem sizeOf_snd_lt_of_mem {α : Type} [SizeOf α] {l : List (α × Expr)} {x : Expr}
    (h : x ∈ l.map (·.2)) : sizeOf x < sizeOf l := by
  obtain ⟨a, hm, hx⟩ := List.mem_map.mp h
  have hlt := List.sizeOf_lt_of_mem hm
  cases a with
  | mk k y =>
    subst hx
    rw [Prod.mk.sizeOf_spec] at hlt
    show sizeOf y < _
    omega

theorem sizeOf_lt_of_mem_parts {e x : Expr} (h : x ∈ e.parts) : sizeOf x < sizeOf e := by
  cases e with
  | literal _ | «variable» _ _ | path _ => cases h
  | array items =>
    have hlt : sizeOf x < sizeOf items := List.sizeOf_lt_of_mem h
    rw [array.sizeOf_spec]
    omega
  | object entries =>
    have hlt := sizeOf_snd_lt_of_mem h
    rw [object.sizeOf_spec]
    omega
  | call name arguments mayFail span =>
    have hlt := sizeOf_snd_lt_of_mem h
    rw [call.sizeOf_spec]
    omega

/-- What follows for an expression from all of its parts holds of every expression. -/
@[elab_as_elim]
theorem induct {motive : Expr → Prop} (h : ∀ e, (∀ x ∈ e.parts, motive x) → motive e) (e : Expr) :
    motive e :=
  h e fun x _ => induct h x
termination_by sizeOf e
decreasing_by exact sizeOf_lt_of_mem_parts ‹_›

end Expr

/-- A call as an expression. -/
def Call.expr (c : Call) : Expr := .call c.name c.arguments c.mayFail c.span

theorem callsOfItems_eq (es : List Expr) : callsOfItems es = es.flatMap Expr.calls := by
  induction es with
  | nil => rfl
  | cons e es ih => rw [callsOfItems, ih, List.flatMap_cons]

theorem callsOfEntries_eq (es : List (String × Expr)) :
    callsOfEntries es = (es.map (·.2)).flatMap Expr.calls := by
  induction es with
  | nil => rfl
  | cons e es ih => rw [callsOfEntries, ih, List.map_cons, List.flatMap_cons]

theorem callsOfArguments_eq (es : List (Option String × Expr)) :
    callsOfArguments es = (es.map (·.2)).flatMap Expr.calls := by
  induction es with
  | nil => rfl
  | cons e es ih => rw [callsOfArguments, ih, List.map_cons, List.flatMap_cons]

namespace Expr

theorem calls_part {e x : Expr} (h : x ∈ e.parts) : x.calls ⊆ e.calls := by
  have hsub : x.calls ⊆ e.parts.flatMap calls := fun c hc => List.mem_flatMap.mpr ⟨x, h, hc⟩
  cases e with
  | literal _ | «variable» _ _ | path _ => cases h
  | array items => rwa [calls, callsOfItems_eq]
  | object entries => rwa [calls, callsOfEntries_eq]
  | call name arguments mayFail span =>
    rw [calls, callsOfArguments_eq]
    exact List.subset_cons_of_subset _ hsub

end Expr

theorem Call.mem_calls (c : Call) : c ∈ c.expr.calls := by
  rw [Call.expr, Expr.calls]
  exact List.mem_cons_self

/-! ## Checked expressions -/

variable {r : Registry} {scope scope' : Scope} {m m' m₁ : Machine} {e x : Expr} {f : Fault}

/-- All calls of an expression were checked. -/
def Expr.IsChecked (r : Registry) (e : Expr) : Prop := ∀ c ∈ e.calls, checkCall r c = .ok ()

theorem Expr.IsChecked.part (h : e.IsChecked r) (hx : x ∈ e.parts) : x.IsChecked r :=
  fun c hc => h c (Expr.calls_part hx hc)

/-- A call that was checked is one of a registered function, and its arguments fit. -/
theorem Expr.IsChecked.call {c : Call} (h : c.expr.IsChecked r) :
    ∃ entry names, r.find? c.name = some entry ∧ Fits entry.doc c.arguments names := by
  have hc := h c c.mem_calls
  unfold checkCall at hc
  split at hc
  · cases hc
  next entry hf =>
    obtain ⟨⟨⟩, ha, -⟩ := bind_eq_ok hc
    obtain ⟨names, hn⟩ := checkArguments_fits ha
    exact ⟨entry, names, hf, hn⟩

theorem forM_eq_ok {α ε : Type} {g : α → Except ε Unit} {l : List α} :
    l.forM g = .ok () ↔ ∀ a ∈ l, g a = .ok () := by
  induction l with
  | nil => exact iff_of_true rfl (by simp)
  | cons a l ih =>
    rw [List.forall_mem_cons, ← ih]
    show (g a >>= fun _ => l.forM g) = .ok () ↔ _
    cases g a with
    | error e => exact iff_of_false nofun nofun
    | ok u => exact (and_iff_right rfl).symm

/-- A program is compiled when all of its calls are checked. -/
theorem compile_eq_ok {p : Program} :
    compile r p = .ok () ↔ ∀ c ∈ p.calls, checkCall r c = .ok () := by
  simp only [compile, forM_eq_ok, mapError_eq_ok]

/-! ## Evaluation by parts -/

/-- Binds values to names one after another. -/
def Arguments.bindAll (names : List String) (ds : List Datum) (bound : Arguments) : Arguments :=
  (names.zip ds).foldl (fun a x => a.bind x.1 x.2) bound

theorem argumentName_eq {doc : FunctionDoc} {place : Nat} {a : Option String × Expr}
    {name : String} (h : designation doc place a = some name) :
    argumentName doc place a.1 = pure name := by
  obtain ⟨_ | n, e⟩ := a
  · obtain ⟨p, hp, rfl⟩ := Option.map_eq_some_iff.mp h
    simp only [argumentName, hp]
  · cases h
    rfl

theorem evalEntries_eq (entries : List (String × Expr)) :
    evalEntries r scope entries = do
      let ds ← evalItems r scope (entries.map (·.2))
      return (entries.map fun x => Key.text x.1).zip ds := by
  induction entries with
  | nil => rw [evalEntries, List.map_nil, evalItems]; rfl
  | cons x entries ih =>
    obtain ⟨k, e⟩ := x
    simp only [evalEntries, ih, List.map_cons, evalItems, bind_assoc, pure_bind, List.zip_cons_cons]

theorem evalArguments_eq {doc : FunctionDoc} {arguments : List (Option String × Expr)}
    {place : Nat} {names : List String} (bound : Arguments)
    (h : arguments.mapIdx (fun i a => designation doc (place + i) a) = names.map some) :
    evalArguments r scope doc place bound arguments = do
      let ds ← evalItems r scope (arguments.map (·.2))
      return Arguments.bindAll names ds bound := by
  induction arguments generalizing place names bound with
  | nil =>
    obtain rfl := List.map_eq_nil_iff.mp h.symm
    rw [evalArguments, List.map_nil, evalItems]
    rfl
  | cons a arguments ih =>
    obtain ⟨name, names, rfl⟩ : ∃ name rest, names = name :: rest := by
      cases names with
      | nil => simp at h
      | cons name names => exact ⟨name, names, rfl⟩
    simp only [List.mapIdx_cons, List.map_cons, List.cons.injEq, Nat.add_zero] at h
    have hrest : arguments.mapIdx (fun i a => designation doc (place + 1 + i) a) =
        names.map some := by
      rw [← h.2]
      congr 1
      funext i a
      congr 1
      omega
    simp only [evalArguments, argumentName_eq h.1, List.map_cons, evalItems, bind_assoc, pure_bind,
      ih _ hrest]
    rfl

/-- What an expression does with the values of its parts. The arguments of a call are bound under
the names that they have; those of a checked call have all one. -/
def Expr.finish (r : Registry) (scope : Scope) : Expr → List Datum → Action Datum
  | .literal v, _ => return .scalar v
  | .array _, ds => Action.change fun s => s.addArray ds
  | .object entries, ds => Action.change fun s =>
    s.addObject (Members.ofList ((entries.map fun x => Key.text x.1).zip ds))
  | .variable name span, _ => readVariable scope name span
  | .path names, _ => Action.look fun s => readPath s scope.event names
  | .call name arguments _ span, ds => do
    let entry ← entryOf r name
    let names := (arguments.mapIdx (designation entry.doc)).reduceOption
    callEntry entry span (Arguments.bindAll names ds [])

theorem Fits.reduceOption_eq {doc : FunctionDoc} {arguments : List (Option String × Expr)}
    {names : List String} (h : Fits doc arguments names) :
    (arguments.mapIdx (designation doc)).reduceOption = names := by
  rw [h.designated, List.reduceOption, List.filterMap_map]
  exact List.filterMap_some

theorem Fits.evalArguments_eq {doc : FunctionDoc} {arguments : List (Option String × Expr)}
    {names : List String} (h : Fits doc arguments names) :
    evalArguments r scope doc 0 [] arguments = do
      let ds ← evalItems r scope (arguments.map (·.2))
      return Arguments.bindAll names ds [] := by
  refine FunctionManual.evalArguments_eq [] ?_
  simpa only [Nat.zero_add] using h.designated

theorem entryOf_eq {name : String} {entry : Entry} (h : r.find? name = some entry) :
    entryOf r name = pure entry := by
  rw [entryOf, h]

/-- An expression that is checked has its parts evaluated in order and is finished. -/
theorem evalExpr_eq (h : e.IsChecked r) :
    evalExpr r scope e = evalItems r scope e.parts >>= e.finish r scope := by
  cases e with
  | literal v => rw [evalExpr, Expr.parts, evalItems, pure_bind, Expr.finish]
  | «variable» name span => rw [evalExpr, Expr.parts, evalItems, pure_bind, Expr.finish]
  | path names => rw [evalExpr, Expr.parts, evalItems, pure_bind, Expr.finish]
  | array items => rw [evalExpr, Expr.parts]; rfl
  | object entries =>
    rw [evalExpr, Expr.parts, evalEntries_eq]
    simp only [bind_assoc, pure_bind]
    rfl
  | call name arguments mayFail span =>
    obtain ⟨entry, names, hf, hn⟩ := Expr.IsChecked.call (c := ⟨name, arguments, mayFail, span⟩) h
    rw [evalExpr, Expr.parts, entryOf_eq hf, pure_bind, hn.evalArguments_eq]
    simp only [bind_assoc, pure_bind]
    refine congrArg (evalItems r scope _ >>= ·) (funext fun ds => ?_)
    rw [Expr.finish, entryOf_eq hf, pure_bind, hn.reduceOption_eq]

/-! ## Items in order -/

theorem evalItems_append (es es' : List Expr) :
    evalItems r scope (es ++ es') = do
      let ds ← evalItems r scope es
      let ds' ← evalItems r scope es'
      return ds ++ ds' := by
  induction es with
  | nil => simp [evalItems]
  | cons e es ih => simp [evalItems, ih]

/-- Items have no values just when one of them has none behind others that have. -/
theorem evalItems_eq_error_iff {es : List Expr} :
    evalItems r scope es m = (.error f, m') ↔ ∃ before x after ds m₁, es = before ++ x :: after ∧
      evalItems r scope before m = (.ok ds, m₁) ∧ evalExpr r scope x m₁ = (.error f, m') := by
  constructor
  · intro h
    induction es generalizing m with
    | nil => cases h
    | cons e es ih =>
      rw [evalItems] at h
      obtain h | ⟨d, m₁, hd, h⟩ := Action.bind_eq_error h
      · exact ⟨[], e, es, [], m, rfl, by rw [evalItems]; rfl, h⟩
      · obtain h | ⟨ds, m₂, -, h⟩ := Action.bind_eq_error h
        · obtain ⟨before, x, after, ds, m₂, rfl, hb, hx⟩ := ih h
          refine ⟨e :: before, x, after, d :: ds, m₂, rfl, ?_, hx⟩
          rw [evalItems, Action.bind_of_ok hd, Action.bind_of_ok hb, Action.pure_run]
        · cases h
  · rintro ⟨before, x, after, ds, m₁, rfl, hb, hx⟩
    rw [evalItems_append, Action.bind_of_ok hb, evalItems, bind_assoc, Action.bind_of_error hx]

theorem length_of_evalItems {es : List Expr} {ds : List Datum}
    (h : evalItems r scope es m = (.ok ds, m')) : ds.length = es.length := by
  induction es generalizing m ds with
  | nil => cases h; rfl
  | cons e es ih =>
    rw [evalItems] at h
    obtain ⟨d, m₁, -, h⟩ := Action.bind_eq_ok h
    obtain ⟨ds, m₂, hds, h⟩ := Action.bind_eq_ok h
    cases h
    rw [List.length_cons, ih hds, List.length_cons]

/-! ## Visited expressions -/

/-- Evaluating an expression comes to another one, when all that is evaluated before has a value. -/
inductive Visits (r : Registry) (scope : Scope) : Machine → Expr → Machine → Expr → Prop
  | here (m : Machine) (e : Expr) : Visits r scope m e m e
  | part {m m₁ m' : Machine} {e x e' : Expr} {before after : List Expr} {ds : List Datum}
      (he : e.parts = before ++ x :: after) (hb : evalItems r scope before m = (.ok ds, m₁))
      (h : Visits r scope m₁ x m' e') : Visits r scope m e m' e'

theorem mem_of_parts_eq {before after : List Expr} (he : e.parts = before ++ x :: after) :
    x ∈ e.parts := by
  rw [he]
  exact List.mem_append_right _ List.mem_cons_self

theorem Visits.calls_subset (h : Visits r scope m e m' x) : x.calls ⊆ e.calls := by
  induction h with
  | here => exact List.Subset.refl _
  | part he _ _ ih => exact List.Subset.trans ih (Expr.calls_part (mem_of_parts_eq he))

theorem Visits.isChecked (h : Visits r scope m e m' x) (he : e.IsChecked r) : x.IsChecked r :=
  fun c hc => he c (h.calls_subset hc)

/-- An expression that evaluation comes to and that has no value leaves the whole without one. -/
theorem Visits.eq_error (h : Visits r scope m e m₁ x) (he : e.IsChecked r)
    (hx : evalExpr r scope x m₁ = (.error f, m')) : evalExpr r scope e m = (.error f, m') := by
  induction h with
  | here => exact hx
  | part hp hb _ ih =>
    have hf := ih (he.part (mem_of_parts_eq hp)) hx
    rw [evalExpr_eq he]
    exact Action.bind_of_error (evalItems_eq_error_iff.mpr ⟨_, _, _, _, _, hp, hb, hf⟩)

/-! ## Expressions that fail -/

/-- An expression whose parts have values has none itself: a variable that was not assigned, or a
call of a registered function that fails once its arguments are there. -/
inductive FailsAt (r : Registry) (scope : Scope) : Expr → Machine → Fault → Machine → Prop
  | unassigned {name : String} {span : Span} {m : Machine} (h : scope.assigned.lookup name = none) :
      FailsAt r scope (.variable name span) m
        (.expression (.compile ⟨.undefinedVariable, name, span⟩)) m
  | call {c : Call} {entry : Entry} {given : Arguments} {m m₁ m' : Machine} {f : Fault}
      (hf : r.find? c.name = some entry)
      (hg : evalArguments r scope entry.doc 0 [] c.arguments m = (.ok given, m₁))
      (h : callEntry entry c.span given m₁ = (.error f, m')) : FailsAt r scope c.expr m f m'

theorem FailsAt.eq_error (h : FailsAt r scope e m f m') :
    evalExpr r scope e m = (.error f, m') := by
  cases h with
  | unassigned h =>
    rw [evalExpr, readVariable, h]
    rfl
  | call hf hg h =>
    rw [Call.expr, evalExpr, entryOf_eq hf, pure_bind, Action.bind_of_ok hg, h]

/-- Finishing fails where the expression does. -/
theorem failsAt_of_finish (he : e.IsChecked r) {ds : List Datum}
    (hp : evalItems r scope e.parts m = (.ok ds, m₁))
    (h : e.finish r scope ds m₁ = (.error f, m')) : FailsAt r scope e m f m' := by
  cases e with
  | literal v => cases h
  | array items => cases h
  | object entries => cases h
  | path names => cases h
  | «variable» name span =>
    rw [Expr.parts, evalItems] at hp
    cases hp
    rw [Expr.finish, readVariable] at h
    cases hn : scope.assigned.lookup name with
    | some d => rw [hn] at h; cases h
    | none =>
      rw [hn] at h
      cases h
      exact .unassigned hn
  | call name arguments mayFail span =>
    let c : Call := ⟨name, arguments, mayFail, span⟩
    obtain ⟨entry, names, hf, hn⟩ := Expr.IsChecked.call (c := c) he
    rw [Expr.finish, entryOf_eq hf, pure_bind, hn.reduceOption_eq] at h
    have hg : evalArguments r scope entry.doc 0 [] arguments m =
        (.ok (Arguments.bindAll names ds []), m₁) := by
      rw [hn.evalArguments_eq]
      exact Action.bind_of_ok hp
    exact FailsAt.call (c := c) hf hg h

/-- A fault comes from an expression that evaluation comes to. -/
theorem exists_visits_of_eq_error (he : e.IsChecked r)
    (h : evalExpr r scope e m = (.error f, m')) :
    ∃ m₁ x, Visits r scope m e m₁ x ∧ FailsAt r scope x m₁ f m' := by
  induction e using Expr.induct generalizing m with
  | h e ih =>
  rw [evalExpr_eq he] at h
  -- either a part has no value, and the fault comes from there, or finishing fails
  obtain h | ⟨ds, m₁, hp, h⟩ := Action.bind_eq_error h
  · obtain ⟨before, x, after, ds, m₁, hp, hb, hx⟩ := evalItems_eq_error_iff.mp h
    have hm := mem_of_parts_eq hp
    obtain ⟨m₂, y, hv, hy⟩ := ih x hm (he.part hm) hx
    exact ⟨m₂, y, .part hp hb hv, hy⟩
  · exact ⟨m, e, .here m e, failsAt_of_finish he hp h⟩

/-! ## Programs -/

/-- The expression of a statement. -/
def Statement.value : Statement → Expr
  | .expr e => e
  | .assign _ e => e

theorem Statement.calls_eq (s : Statement) : s.calls = s.value.calls := by cases s <;> rfl

/-- A statement fails just when its expression does; an assignment itself does not fail. -/
theorem runStatement_eq_error_iff {s : Statement} :
    runStatement r scope s m = (.error f, m') ↔ evalExpr r scope s.value m = (.error f, m') := by
  constructor
  · intro h
    cases s with
    | expr e =>
      obtain h | ⟨d, m₁, -, h⟩ := Action.bind_eq_error h
      · exact h
      · cases h
    | assign target e =>
      obtain h | ⟨d, m₁, -, h⟩ := Action.bind_eq_error h
      · exact h
      · cases target with
        | «variable» name span => cases h
        | path names =>
          obtain h | ⟨scope', m₂, -, h⟩ := Action.bind_eq_error h
          · cases names <;> cases h
          · cases h
  · intro h
    cases s <;> exact Action.bind_of_error h

/-- A run comes to an expression, in the scope and with the machine that it has then. -/
inductive Reaches (r : Registry) : Program → Scope → Machine → Scope → Machine → Expr → Prop
  | visit {s : Statement} {rest : Program} {scope : Scope} {m m' : Machine} {e : Expr}
      (h : Visits r scope m s.value m' e) : Reaches r (s :: rest) scope m scope m' e
  | later {s : Statement} {rest : Program} {scope scope₁ scope' : Scope} {m m₁ m' : Machine}
      {d : Datum} {e : Expr} (hs : runStatement r scope s m = (.ok (d, scope₁), m₁))
      (h : Reaches r rest scope₁ m₁ scope' m' e) : Reaches r (s :: rest) scope m scope' m' e

/-- All calls of a program were checked. -/
def Program.IsChecked (r : Registry) (p : Program) : Prop := ∀ s ∈ p, s.value.IsChecked r

theorem compile_eq_ok_iff {p : Program} : compile r p = .ok () ↔ p.IsChecked r := by
  rw [compile_eq_ok]
  simp only [Program.calls, List.mem_flatMap, Program.IsChecked, Expr.IsChecked,
    Statement.calls_eq]
  exact ⟨fun h s hs c hc => h c ⟨s, hs, hc⟩, fun h c ⟨s, hs, hc⟩ => h s hs c hc⟩

theorem Reaches.isChecked {p : Program} (h : Reaches r p scope m scope' m' e)
    (hp : p.IsChecked r) : e.IsChecked r := by
  induction h with
  | visit h => exact h.isChecked (hp _ List.mem_cons_self)
  | later _ _ ih => exact ih fun s hs => hp s (List.mem_cons_of_mem _ hs)

/-- A run ends in a fault just when it reaches an expression that fails so. -/
theorem runProgram_eq_error_iff {p : Program} (hp : p.IsChecked r) (last : Datum) :
    runProgram r scope last p m = (.error f, m') ↔
      ∃ scope' m₁ x, Reaches r p scope m scope' m₁ x ∧ FailsAt r scope' x m₁ f m' := by
  induction p generalizing scope m last with
  | nil =>
    refine iff_of_false (fun h => by cases h) ?_
    rintro ⟨_, _, _, h, -⟩
    cases h
  | cons s rest ih =>
    have hs := hp s List.mem_cons_self
    have hrest : Program.IsChecked r rest := fun s hs => hp s (List.mem_cons_of_mem _ hs)
    rw [runProgram]
    constructor
    · intro h
      obtain h | ⟨⟨d, scope₁⟩, m₁, hok, h⟩ := Action.bind_eq_error h
      · obtain ⟨m₁, x, hv, hx⟩ := exists_visits_of_eq_error hs (runStatement_eq_error_iff.mp h)
        exact ⟨scope, m₁, x, .visit hv, hx⟩
      · obtain ⟨scope', m₂, x, hr, hx⟩ := (ih hrest d).mp h
        exact ⟨scope', m₂, x, .later hok hr, hx⟩
    · rintro ⟨scope', m₁, x, hr, hx⟩
      cases hr with
      | visit hv =>
        exact Action.bind_of_error (runStatement_eq_error_iff.mpr (hv.eq_error hs hx.eq_error))
      | later hok hr =>
        rw [Action.bind_of_ok hok]
        exact (ih hrest _).mpr ⟨scope', m₁, x, hr, hx⟩

end FunctionManual
