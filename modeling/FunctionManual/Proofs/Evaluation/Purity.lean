import FunctionManual.Proofs.Evaluation.Admission
import FunctionManual.Proofs.Evaluation.Kinds
import FunctionManual.Proofs.Store.Shown

/-!
# Evaluators that see values only

* `Action.EndAlike`: two runs end with what is alike, or in the same fault.
* `Evaluator.IsPure`: an evaluator depends on nothing but the value of each argument.
* `bindParameters_endAlike`, `callEntry_endAlike`: the checks and the defaults of a call do not
  depend on more, either.
* `evalExpr_endAlike`: so the value of an expression depends on the values in its scope only.
-/

namespace FunctionManual

variable {α β : Type}

/-! ## Runs that end alike -/

namespace Action

/-- Two runs end with results that are the same in the stores that they leave, or in one fault. -/
inductive EndAlike (same : Store → Store → α → α → Prop) :
    Except Fault α × Machine → Except Fault α × Machine → Prop
  | ok {a b : α} {m m' : Machine} (h : same m.store m'.store a b) :
      EndAlike same (.ok a, m) (.ok b, m')
  | error (f : Fault) (m m' : Machine) : EndAlike same (.error f, m) (.error f, m')

variable {same : Store → Store → α → α → Prop} {same' : Store → Store → β → β → Prop}
  {x y : Action α} {m m' : Machine}

/-- What follows two runs that end alike may rely on all that they leave as it was. -/
theorem EndAlike.bind {k l : α → Action β} (h : EndAlike same (x m) (y m')) (hx : x.Spares)
    (hy : y.Spares)
    (hk : ∀ a b m₁ m₁', m.store.Grows m₁.store → m'.store.Grows m₁'.store →
      same m₁.store m₁'.store a b → EndAlike same' (k a m₁) (l b m₁')) :
    EndAlike same' ((x >>= k) m) ((y >>= l) m') := by
  have hx := hx m
  have hy := hy m'
  rw [bind_run, bind_run]
  generalize x m = u at h hx
  generalize y m' = w at h hy
  cases h with
  | ok h => exact hk _ _ _ _ hx hy h
  | error f m m' => exact .error f m m'

/-- A run that ends like one that has a result has a result. -/
theorem EndAlike.exists_ok {a : α} {m₁ : Machine} (h : EndAlike same (x m) (y m'))
    (hx : x m = (.ok a, m₁)) : ∃ b m₁', y m' = (.ok b, m₁') ∧ same m₁.store m₁'.store a b := by
  rw [hx] at h
  generalize hy : y m' = w at h
  cases h with
  | ok h => exact ⟨_, _, rfl, h⟩

theorem EndAlike.mapExpressionError (h : EndAlike same (x m) (y m'))
    (g : ExpressionError → ExpressionError) :
    EndAlike same (mapExpressionError g x m) (mapExpressionError g y m') := by
  unfold Action.mapExpressionError
  generalize x m = u at h
  generalize y m' = w at h
  cases h with
  | ok h => exact .ok h
  | error f m m' => cases f <;> exact .error _ m m'

end Action

open Action (EndAlike)

/-! ## Arguments with the same values -/

variable {s s' t t' : Store} {d d' : Datum} {a a' : Arguments}

namespace Arguments

/-- Arguments that give values that are alike to the same names. -/
def Alike (s s' : Store) (a a' : Arguments) : Prop :=
  ∀ name, Option.Rel (s.Alike s') (a.lookup name) (a'.lookup name)

theorem Alike.grow (h : a.Alike s s' a') (hs : s.Grows t) (hs' : s'.Grows t') :
    a.Alike t t' a' :=
  fun name => rel_mono (h name) fun _ _ hd => hd.grow hs hs'

/-- Arguments with values that are alike, and no name twice on either side. -/
structure Match (s s' : Store) (a a' : Arguments) : Prop where
  alike : a.Alike s s' a'
  nodup : (a.map (·.1)).Nodup
  nodup' : (a'.map (·.1)).Nodup

namespace Match

theorem nil : Match s s' [] [] := ⟨fun _ => .none, List.nodup_nil, List.nodup_nil⟩

theorem grow (h : a.Match s s' a') (hs : s.Grows t) (hs' : s'.Grows t') : a.Match t t' a' :=
  ⟨h.alike.grow hs hs', h.nodup, h.nodup'⟩

theorem bind (h : a.Match s s' a') (name : String) (hd : s.Alike s' d d') :
    (a.bind name d).Match s s' (a'.bind name d') := by
  refine ⟨fun other => ?_, nodup_bind h.nodup name d, nodup_bind h.nodup' name d'⟩
  rw [lookup_bind, lookup_bind]
  split
  · exact .some hd
  · exact h.alike other

/-- A name that is not there yet is added behind all others. -/
theorem add (h : a.Match s s' a') {name : String} (hn : a.lookup name = none)
    (hd : s.Alike s' d d') : (a ++ [(name, d)]).Match s s' (a' ++ [(name, d')]) := by
  have hn' : a'.lookup name = none := by
    have hr := h.alike name
    cases hl : a'.lookup name with
    | none => rfl
    | some d =>
      rw [hn, hl] at hr
      cases hr
  rw [lookup_eq_none_iff_not_mem] at hn hn'
  rw [← bind_of_not_mem hn, ← bind_of_not_mem hn']
  exact h.bind name hd

end Match

end Arguments

/-! ## Pure evaluators -/

/-- An evaluator changes no container that exists, and what it ends in depends on the values of its
arguments only: neither on their order, nor on where containers stand and which of them are shared,
nor on anything else in the store. -/
structure Evaluator.IsPure (f : Evaluator) : Prop where
  spares : ∀ bound, (f bound).Spares
  determined : ∀ (bound bound' : Arguments) (m m' : Machine),
    bound.Match m.store m'.store bound' → EndAlike Store.Alike (f bound m) (f bound' m')

/-- The evaluators of a registry are pure. -/
def Registry.IsPure (r : Registry) : Prop := ∀ entry ∈ r.entries, entry.evaluator.IsPure

variable {r : Registry} {m m' : Machine}

theorem Registry.IsPure.spares (hr : r.IsPure) : r.Spares :=
  fun entry he => (hr entry he).spares

/-! ## Calls -/

/-- Two data that hold the same value are both of no kind or have the same name of their kind. -/
theorem kindName_eq_of_alike (h : s.Alike s' d d') : kindName s d = kindName s' d' := by
  have hr := h.related
  unfold kindName
  generalize s.view d = v at hr
  generalize s'.view d' = w at hr
  cases hr <;> rfl

theorem equalsValue_eq_of_alike (h : s.Alike s' d d') (v : Value) :
    equalsValue s d v = equalsValue s' d' v := by
  rw [equalsValue, equalsValue, h.toValue?_eq]

/-- What data that hold the same value choose holds the same values. -/
theorem Store.Alike.chosen (h : s.Alike s' d d') :
    List.Forall₂ (s.Alike s') (s.chosen d) (s'.chosen d') := by
  cases d with
  | scalar x =>
    obtain rfl := h.scalar_eq
    exact .cons h .nil
  | array a =>
    obtain ⟨b, rfl, hs⟩ := h.items
    exact hs
  | object a =>
    obtain ⟨b, rfl, -⟩ := h.members
    exact .cons h .nil

theorem amongVariants_eq_of_alike (h : s.Alike s' d d') (variants : List Variant) :
    amongVariants s variants d = amongVariants s' variants d' := by
  have hall : (s.chosen d).all (fun c => variants.any fun v => equalsValue s c v.value) =
      (s'.chosen d').all fun c => variants.any fun v => equalsValue s' c v.value :=
    all_eq_of_forall₂ h.chosen fun x y hxy => by simp only [equalsValue_eq_of_alike hxy]
  cases d <;> cases d' <;> exact hall

/-- The complaint about the value of a parameter depends on the value only. -/
theorem checkValue_eq_of_alike (h : s.Alike s' d d') (p : Parameter) :
    checkValue s p d = checkValue s' p d' := by
  simp only [checkValue, acceptsDatum, h.accepts_eq, kindName_eq_of_alike h,
    amongVariants_eq_of_alike h]

theorem load_endAlike (v : Value) (m m' : Machine) :
    EndAlike Store.Alike (Action.load v m) (Action.load v m') :=
  .ok (Store.alike_of_holds (m.store.holds_load v) (m'.store.holds_load v))

theorem bindParameters_endAlike (parameters : List Parameter)
    (h : a.Match m.store m'.store a') :
    EndAlike Arguments.Match (bindParameters parameters a m) (bindParameters parameters a' m') := by
  induction parameters generalizing a a' m m' with
  | nil => exact .ok h
  | cons p rest ih =>
    have hr := h.alike p.name.plain
    rw [bindParameters, bindParameters]
    cases hl : a.lookup p.name.plain with
    | some d =>
      cases hl' : a'.lookup p.name.plain with
      | none => rw [hl, hl'] at hr; cases hr
      | some d' =>
        rw [hl, hl'] at hr
        cases hr with
        | some hd =>
          simp only
          rw [Action.bind_of_ok (Action.look_run _ m), Action.bind_of_ok (Action.look_run _ m'),
            checkValue_eq_of_alike hd]
          cases checkValue m'.store p d' with
          | error f => exact .error f m m'
          | ok u => exact ih h
    | none =>
      cases hl' : a'.lookup p.name.plain with
      | some d' => rw [hl, hl'] at hr; cases hr
      | none =>
        simp only
        split
        · exact ih h
        · have hload := Action.spares_load p.default
          exact (load_endAlike p.default m m').bind hload hload fun d d' m₁ m₁' hg hg' hdd =>
            ih ((h.grow hg hg').add hl hdd)

/-- A call of a pure function depends on the values of its arguments only. -/
theorem callEntry_endAlike {entry : Entry} (hp : entry.evaluator.IsPure) (span : Span)
    (h : a.Match m.store m'.store a') :
    EndAlike Store.Alike (callEntry entry span a m) (callEntry entry span a' m') := by
  refine EndAlike.mapExpressionError ?_ _
  have hbind := bindParameters_spares entry.doc.parameters
  exact (bindParameters_endAlike _ h).bind (hbind a) (hbind a') fun bound bound' m₁ m₁' _ _ hb =>
    hp.determined bound bound' m₁ m₁' hb

/-! ## Expressions -/

/-- Scopes with the same event and the same variables, up to where containers stand. -/
structure Scope.Alike (s s' : Store) (scope scope' : Scope) : Prop where
  event : s.Alike s' scope.event scope'.event
  assigned : scope.assigned.Alike s s' scope'.assigned

theorem Scope.Alike.grow {scope scope' : Scope} (h : scope.Alike s s' scope') (hs : s.Grows t)
    (hs' : s'.Grows t') : scope.Alike t t' scope' :=
  ⟨h.event.grow hs hs', h.assigned.grow hs hs'⟩

/-- In a typed store, a typed scope is like itself. -/
theorem Scope.IsTyped.alike_self {scope : Scope} (h : scope.IsTyped s) (hs : s.IsTyped) :
    scope.Alike s s scope := by
  refine ⟨hs.alike_self h.event, fun name => ?_⟩
  cases hl : scope.assigned.lookup name with
  | none => exact .none
  | some d => exact .some (hs.alike_self (h.assigned _ (mem_of_lookup_eq_some hl)))

theorem getD_alike {o o' : Option Datum} (h : Option.Rel (s.Alike s') o o')
    (hd : s.Alike s' d d') : s.Alike s' (o.getD d) (o'.getD d') := by
  cases h with
  | none => exact hd
  | some h => exact h

/-- Names lead to the same value through data that hold the same. -/
theorem readPath_alike (h : s.Alike s' d d') (names : List String) :
    s.Alike s' (readPath s d names) (readPath s' d' names) := by
  induction names generalizing d d' with
  | nil => exact h
  | cons name names ih =>
    cases d with
    | scalar x =>
      obtain rfl := h.scalar_eq
      exact s.alike_scalar s' .null
    | array a =>
      obtain ⟨b, rfl, -⟩ := h.items
      exact s.alike_scalar s' .null
    | object a =>
      obtain ⟨b, rfl, hms⟩ := h.members
      rw [readPath, readPath]
      exact ih (getD_alike (rel_find?_of_forall₂ (.text name) hms) (s.alike_scalar s' .null))

theorem argumentName_endAlike (doc : FunctionDoc) (place : Nat) (name : Option String)
    (m m' : Machine) :
    EndAlike (fun _ _ n n' => n = n') (argumentName doc place name m)
      (argumentName doc place name m') := by
  unfold argumentName
  cases name with
  | some n => exact .ok rfl
  | none =>
    cases doc.parameters[place]? with
    | some p => exact .ok rfl
    | none => exact .error _ m m'

variable {scope scope' : Scope}

mutual

/-- Where evaluators are pure, an expression depends on nothing but the values in its scope. -/
theorem evalExpr_endAlike (hr : r.IsPure) : (e : Expr) → {m m' : Machine} →
    scope.Alike m.store m'.store scope' →
    EndAlike Store.Alike (evalExpr r scope e m) (evalExpr r scope' e m')
  | .literal v, m, m', _ => .ok (Store.alike_scalar _ _ v)
  | .array items, m, m', h => by
    rw [evalExpr, evalExpr]
    exact (evalItems_endAlike hr items h).bind (evalItems_spares hr.spares items)
      (evalItems_spares hr.spares items) fun _ _ _ _ _ _ hds => .ok (Store.alike_addArray hds)
  | .object entries, m, m', h => by
    rw [evalExpr, evalExpr]
    exact (evalEntries_endAlike hr entries h).bind (evalEntries_spares hr.spares entries)
      (evalEntries_spares hr.spares entries) fun _ _ _ _ _ _ hms =>
        .ok (Store.alike_addObject hms.ofList)
  | .variable name span, m, m', h => by
    rw [evalExpr, evalExpr, readVariable, readVariable]
    have hv := h.assigned name
    generalize scope.assigned.lookup name = o at hv
    generalize scope'.assigned.lookup name = o' at hv
    cases hv with
    | none => exact .error _ m m'
    | some hd => exact .ok hd
  | .path names, m, m', h => by
    rw [evalExpr, evalExpr]
    exact .ok (readPath_alike h.event names)
  | .call name arguments _ span, m, m', h => by
    rw [evalExpr, evalExpr]
    cases hf : r.find? name with
    | none =>
      simp only [entryOf, hf]
      exact .error _ m m'
    | some entry =>
      rw [entryOf_eq hf, pure_bind, pure_bind]
      have hpure := hr entry (List.mem_of_find?_eq_some hf)
      refine (evalArguments_endAlike hr entry.doc 0 .nil arguments h).bind
        (evalArguments_spares hr.spares entry.doc 0 [] arguments)
        (evalArguments_spares hr.spares entry.doc 0 [] arguments)
        fun given given' m₁ m₁' _ _ hg => ?_
      exact callEntry_endAlike hpure span hg

theorem evalItems_endAlike (hr : r.IsPure) : (es : List Expr) → {m m' : Machine} →
    scope.Alike m.store m'.store scope' →
    EndAlike (fun s s' => List.Forall₂ (s.Alike s')) (evalItems r scope es m)
      (evalItems r scope' es m')
  | [], m, m', _ => .ok .nil
  | e :: es, m, m', h => by
    rw [evalItems, evalItems]
    refine (evalExpr_endAlike hr e h).bind (evalExpr_spares hr.spares e)
      (evalExpr_spares hr.spares e) fun d d' m₁ m₁' hg hg' hd => ?_
    refine (evalItems_endAlike hr es (h.grow hg hg')).bind (evalItems_spares hr.spares es)
      (evalItems_spares hr.spares es) fun ds ds' m₂ m₂' hg hg' hds => ?_
    exact .ok (.cons (hd.grow hg hg') hds)

theorem evalEntries_endAlike (hr : r.IsPure) : (entries : List (String × Expr)) →
    {m m' : Machine} → scope.Alike m.store m'.store scope' →
    EndAlike Store.MembersAlike (evalEntries r scope entries m) (evalEntries r scope' entries m')
  | [], m, m', _ => .ok .nil
  | (k, e) :: entries, m, m', h => by
    rw [evalEntries, evalEntries]
    refine (evalExpr_endAlike hr e h).bind (evalExpr_spares hr.spares e)
      (evalExpr_spares hr.spares e) fun d d' m₁ m₁' hg hg' hd => ?_
    refine (evalEntries_endAlike hr entries (h.grow hg hg')).bind
      (evalEntries_spares hr.spares entries) (evalEntries_spares hr.spares entries)
      fun ms ms' m₂ m₂' hg hg' hms => ?_
    exact .ok (.cons ⟨rfl, hd.grow hg hg'⟩ hms)

theorem evalArguments_endAlike (hr : r.IsPure) (doc : FunctionDoc) (place : Nat) :
    {bound bound' : Arguments} → {m m' : Machine} → bound.Match m.store m'.store bound' →
    (arguments : List (Option String × Expr)) → scope.Alike m.store m'.store scope' →
    EndAlike Arguments.Match (evalArguments r scope doc place bound arguments m)
      (evalArguments r scope' doc place bound' arguments m')
  | _, _, m, m', hb, [], _ => .ok hb
  | bound, bound', m, m', hb, (n, e) :: arguments, h => by
    rw [evalArguments, evalArguments]
    refine (argumentName_endAlike doc place n m m').bind (argumentName_spares doc place n)
      (argumentName_spares doc place n) fun name _ m₁ m₁' hg hg' he => ?_
    subst he
    have h := h.grow hg hg'
    have hb := hb.grow hg hg'
    refine (evalExpr_endAlike hr e h).bind (evalExpr_spares hr.spares e)
      (evalExpr_spares hr.spares e) fun d d' m₂ m₂' hg hg' hd => ?_
    exact evalArguments_endAlike hr doc (place + 1) ((hb.grow hg hg').bind name hd) arguments
      (h.grow hg hg')

end

end FunctionManual
