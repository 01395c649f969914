import FunctionManual.Proofs.Evaluation.Sparing
import FunctionManual.Proofs.Lookup
import FunctionManual.Proofs.Store.Kinds

/-!
# Runs keep addresses to their kinds

* `Action.Yields`: an action that, when it has a value, leaves a typed store.
* `Registry.IsTyped`: evaluators that return typed values for typed arguments.
* `evalExpr_yields`, `runStatement_yields`: what one step leaves typed.
* `runProgram_yields`, `startScope_yields`: so a run starts typed and stays typed.
-/

namespace FunctionManual

variable {α β : Type}

/-! ## Actions -/

/-- When the action has a value, it leaves a typed store and the value is as wanted. -/
def Action.Yields (good : Store → α → Prop) (x : Action α) (m : Machine) : Prop :=
  ∀ a m', x m = (.ok a, m') → m.store.Retains m'.store ∧ good m'.store a

namespace Action

variable {good : Store → α → Prop} {good' : Store → β → Prop} {m : Machine}

theorem yields_pure {a : α} (hs : m.store.IsTyped) (ha : good m.store a) :
    (pure a : Action α).Yields good m := by
  intro b m' h
  cases h
  exact ⟨.refl hs, ha⟩

theorem yields_look {f : Store → α} (hs : m.store.IsTyped) (ha : good m.store (f m.store)) :
    (look f).Yields good m := by
  intro b m' h
  cases h
  exact ⟨.refl hs, ha⟩

theorem yields_ofExcept {r : Except Fault α} (hs : m.store.IsTyped)
    (hr : ∀ a, r = .ok a → good m.store a) : (ofExcept r).Yields good m := by
  intro a m' h
  cases h
  exact ⟨.refl hs, hr a rfl⟩

theorem yields_change {f : Store → α × Store} (hf : m.store.Retains (f m.store).2)
    (ha : good (f m.store).2 (f m.store).1) : (change f).Yields good m := by
  intro b m' h
  cases h
  exact ⟨hf, ha⟩

theorem yields_fail (f : Fault) : (fail f : Action α).Yields good m := nofun

theorem Yields.bind {x : Action α} {k : α → Action β} (hx : x.Yields good m)
    (hk : ∀ a m', x m = (.ok a, m') → m.store.Retains m'.store → good m'.store a →
      (k a).Yields good' m') : (x >>= k).Yields good' m := by
  intro b m' h
  obtain ⟨a, m₁, ha, h⟩ := bind_eq_ok h
  obtain ⟨hr, hg⟩ := hx a m₁ ha
  obtain ⟨hr', hg'⟩ := hk a m₁ ha hr hg b m' h
  exact ⟨hr.trans hr', hg'⟩

theorem Yields.mapExpressionError {x : Action α} (h : x.Yields good m)
    (g : ExpressionError → ExpressionError) : (mapExpressionError g x).Yields good m :=
  fun a m' ha => h a m' (mapExpressionError_eq_ok ha)

end Action

theorem Store.yields_addArray {m : Machine} {ds : List Datum} (hs : m.store.IsTyped)
    (hd : ∀ d ∈ ds, d.IsTyped m.store) :
    (Action.change fun s => s.addArray ds).Yields (fun s d => d.IsTyped s) m :=
  Action.yields_change (retains_add hs hd) (kindAt?_add _ _)

theorem Store.yields_addObject {m : Machine} {ms : Members Datum} (hs : m.store.IsTyped)
    (hm : ∀ x ∈ ms, x.2.IsTyped m.store) :
    (Action.change fun s => s.addObject ms).Yields (fun s d => d.IsTyped s) m :=
  Action.yields_change (retains_add hs hm) (kindAt?_add _ _)

theorem Action.yields_load {m : Machine} (hs : m.store.IsTyped) (v : Value) :
    (Action.load v).Yields (fun s d => d.IsTyped s) m :=
  let ⟨h, hd⟩ := Store.retains_load hs v
  yields_change h hd

/-! ## Calls -/

/-- The values of arguments are typed. -/
def Arguments.IsTyped (s : Store) (a : Arguments) : Prop := ∀ x ∈ a, x.2.IsTyped s

theorem Arguments.IsTyped.mono {s s' : Store} {a : Arguments} (h : a.IsTyped s)
    (hs : s.KeepsKinds s') : a.IsTyped s' := fun x hx => (h x hx).mono hs

theorem Arguments.IsTyped.bind {s : Store} {a : Arguments} (h : a.IsTyped s) (name : String)
    {d : Datum} (hd : d.IsTyped s) : (a.bind name d).IsTyped s := by
  induction a with
  | nil => exact List.forall_mem_singleton.mpr hd
  | cons x a ih =>
    obtain ⟨hx, ha⟩ := List.forall_mem_cons.mp h
    rw [Arguments.bind]
    split
    · exact List.forall_mem_cons.mpr ⟨hd, ha⟩
    · exact List.forall_mem_cons.mpr ⟨hx, ih ha⟩

/-- The event and the variables are typed. -/
structure Scope.IsTyped (s : Store) (scope : Scope) : Prop where
  event : scope.event.IsTyped s
  assigned : scope.assigned.IsTyped s

theorem Scope.IsTyped.mono {s s' : Store} {scope : Scope} (h : scope.IsTyped s)
    (hs : s.KeepsKinds s') : scope.IsTyped s' := ⟨h.event.mono hs, h.assigned.mono hs⟩

/-- Evaluators return typed values for typed arguments, and leave every container the kind that it
has. What it holds they may change. -/
def Registry.IsTyped (r : Registry) : Prop :=
  ∀ entry ∈ r.entries, ∀ (bound : Arguments) (m : Machine), m.store.IsTyped →
    bound.IsTyped m.store → (entry.evaluator bound).Yields (fun s d => d.IsTyped s) m

variable {r : Registry} {scope : Scope} {m : Machine}

theorem bindParameters_yields (parameters : List Parameter) {bound : Arguments}
    (hs : m.store.IsTyped) (hb : bound.IsTyped m.store) :
    (bindParameters parameters bound).Yields (fun s a => a.IsTyped s) m := by
  induction parameters generalizing bound m with
  | nil => exact Action.yields_pure hs hb
  | cons p rest ih =>
    rw [bindParameters]
    cases bound.lookup p.name.plain with
    | some d =>
      have hlook : (Action.look fun s => checkValue s p d).Yields (fun _ _ => True) m :=
        Action.yields_look hs trivial
      refine hlook.bind fun checked m₁ _ h₁ _ => ?_
      have hcheck : (Action.ofExcept checked).Yields (fun _ _ => True) m₁ :=
        Action.yields_ofExcept h₁.typed fun _ _ => trivial
      refine hcheck.bind fun _ m₂ _ h₂ _ => ?_
      exact ih h₂.typed (hb.mono (h₁.trans h₂).kinds)
    | none =>
      simp only
      split
      · exact ih hs hb
      · refine (Action.yields_load hs _).bind fun d m₁ _ h₁ hd => ih h₁.typed ?_
        exact List.forall_mem_append.mpr ⟨hb.mono h₁.kinds, List.forall_mem_singleton.mpr hd⟩

theorem callEntry_yields (hr : r.IsTyped) {entry : Entry} (he : entry ∈ r.entries) (span : Span)
    {given : Arguments} (hs : m.store.IsTyped) (hg : given.IsTyped m.store) :
    (callEntry entry span given).Yields (fun s d => d.IsTyped s) m := by
  refine Action.Yields.mapExpressionError ?_ _
  refine (bindParameters_yields _ hs hg).bind fun bound m₁ _ h₁ hb => ?_
  exact hr entry he bound m₁ h₁.typed hb

/-! ## Expressions -/

theorem readVariable_yields (hs : m.store.IsTyped) (hscope : scope.IsTyped m.store)
    (name : String) (span : Span) :
    (readVariable scope name span).Yields (fun s d => d.IsTyped s) m := by
  unfold readVariable
  cases hl : scope.assigned.lookup name with
  | some d => exact Action.yields_pure hs (hscope.assigned _ (mem_of_lookup_eq_some hl))
  | none => exact Action.yields_fail _

theorem readPath_isTyped {s : Store} (hs : s.IsTyped) {d : Datum} (hd : d.IsTyped s)
    (names : List String) : (readPath s d names).IsTyped s := by
  induction names generalizing d with
  | nil => exact hd
  | cons name names ih =>
    cases d with
    | scalar _ | array _ => exact trivial
    | object a =>
      rw [readPath]
      refine ih ?_
      cases hf : (s.members a).find? (.text name) with
      | none => exact trivial
      | some d => exact hs.find? hf

theorem Members.isTyped_ofList {s : Store} {ms : List (Key × Datum)}
    (h : ∀ x ∈ ms, x.2.IsTyped s) : ∀ x ∈ Members.ofList ms, x.2.IsTyped s := by
  have hall : ∀ x ∈ ms, True ∧ x.2.IsTyped s := fun x hx => ⟨trivial, h x hx⟩
  exact fun x hx => (forall_ofList (K := fun _ => True) hall x hx).2

mutual

/-- An expression that has a value has a typed one, and leaves the store typed. -/
theorem evalExpr_yields (hr : r.IsTyped) : (e : Expr) → {m : Machine} → m.store.IsTyped →
    scope.IsTyped m.store → (evalExpr r scope e).Yields (fun s d => d.IsTyped s) m
  | .literal _, _, hs, _ => Action.yields_pure hs trivial
  | .array items, _, hs, hscope => by
    rw [evalExpr]
    exact (evalItems_yields hr items hs hscope).bind fun _ _ _ h₁ hd =>
      Store.yields_addArray h₁.typed hd
  | .object entries, _, hs, hscope => by
    rw [evalExpr]
    exact (evalEntries_yields hr entries hs hscope).bind fun _ _ _ h₁ hm =>
      Store.yields_addObject h₁.typed (Members.isTyped_ofList hm)
  | .variable name span, _, hs, hscope => by
    rw [evalExpr]
    exact readVariable_yields hs hscope name span
  | .path names, _, hs, hscope => by
    rw [evalExpr]
    exact Action.yields_look hs (readPath_isTyped hs hscope.event names)
  | .call name arguments _ span, m, hs, hscope => by
    rw [evalExpr]
    have hentry : (entryOf r name).Yields (fun _ _ => True) m := by
      unfold entryOf
      cases r.find? name with
      | none => exact Action.yields_fail _
      | some entry => exact Action.yields_pure hs trivial
    refine hentry.bind fun entry m₁ he h₁ _ => ?_
    have hnil : Arguments.IsTyped m₁.store [] := List.forall_mem_nil _
    refine (evalArguments_yields hr entry.doc 0 hnil arguments h₁.typed
      (hscope.mono h₁.kinds)).bind fun given m₂ _ h₂ hg => ?_
    exact callEntry_yields hr (mem_of_entryOf he) span h₂.typed hg

theorem evalItems_yields (hr : r.IsTyped) : (es : List Expr) → {m : Machine} → m.store.IsTyped →
    scope.IsTyped m.store → (evalItems r scope es).Yields (fun s ds => ∀ d ∈ ds, d.IsTyped s) m
  | [], _, hs, _ => Action.yields_pure hs (List.forall_mem_nil _)
  | e :: es, _, hs, hscope => by
    rw [evalItems]
    refine (evalExpr_yields hr e hs hscope).bind fun d m₁ _ h₁ hd => ?_
    refine (evalItems_yields hr es h₁.typed (hscope.mono h₁.kinds)).bind fun ds m₂ _ h₂ hds => ?_
    exact Action.yields_pure h₂.typed (List.forall_mem_cons.mpr ⟨hd.mono h₂.kinds, hds⟩)

theorem evalEntries_yields (hr : r.IsTyped) : (entries : List (String × Expr)) → {m : Machine} →
    m.store.IsTyped → scope.IsTyped m.store →
    (evalEntries r scope entries).Yields (fun s ms => ∀ x ∈ ms, x.2.IsTyped s) m
  | [], _, hs, _ => Action.yields_pure hs (List.forall_mem_nil _)
  | (_, e) :: entries, _, hs, hscope => by
    rw [evalEntries]
    refine (evalExpr_yields hr e hs hscope).bind fun d m₁ _ h₁ hd => ?_
    refine (evalEntries_yields hr entries h₁.typed (hscope.mono h₁.kinds)).bind
      fun ms m₂ _ h₂ hms => ?_
    exact Action.yields_pure h₂.typed (List.forall_mem_cons.mpr ⟨hd.mono h₂.kinds, hms⟩)

theorem evalArguments_yields (hr : r.IsTyped) (doc : FunctionDoc) (place : Nat)
    {bound : Arguments} {m : Machine} (hb : bound.IsTyped m.store) :
    (arguments : List (Option String × Expr)) → m.store.IsTyped → scope.IsTyped m.store →
    (evalArguments r scope doc place bound arguments).Yields (fun s a => a.IsTyped s) m
  | [], hs, _ => Action.yields_pure hs hb
  | (n, e) :: arguments, hs, hscope => by
    rw [evalArguments]
    have hname : (argumentName doc place n).Yields (fun _ _ => True) m := by
      unfold argumentName
      cases n with
      | some name => exact Action.yields_pure hs trivial
      | none =>
        cases doc.parameters[place]? with
        | some p => exact Action.yields_pure hs trivial
        | none => exact Action.yields_fail _
    refine hname.bind fun name m₁ _ h₁ _ => ?_
    refine (evalExpr_yields hr e h₁.typed (hscope.mono h₁.kinds)).bind fun d m₂ _ h₂ hd => ?_
    have h := h₁.trans h₂
    exact evalArguments_yields hr doc (place + 1) ((hb.mono h.kinds).bind name hd) arguments
      h.typed (hscope.mono h.kinds)

end

/-! ## Statements -/

theorem writePath_retains {s : Store} {value : Datum} (names : List String) {a : Nat}
    (hs : s.IsTyped) (ha : s.kindAt? a = some .object) (hv : value.IsTyped s) :
    s.Retains (writePath value a names s) := by
  induction names generalizing s a with
  | nil => exact .refl hs
  | cons name rest ih =>
    cases rest with
    | nil => exact Store.retains_write hs ha _ hv
    | cons next rest =>
      rw [writePath]
      · split
        next child hf => exact ih hs (hs.find? hf) hv
        next =>
          -- the object that is missing is added and set before the way goes on below it
          have hempty : (Cell.object []).IsTyped s := List.forall_mem_nil _
          have hadd := Store.retains_add hs hempty
          have hchild : (Datum.object s.cells.size).IsTyped (s.add (.object [])).2 :=
            Store.kindAt?_add s _
          have hwrite :=
            Store.retains_write hadd.typed (hadd.kinds a _ ha) (.text name) hchild
          have h := hadd.trans hwrite
          exact h.trans (ih h.typed (hchild.mono hwrite.kinds) (hv.mono h.kinds))
      · nofun

theorem assignPath_yields {names : List String} {value : Datum} (hs : m.store.IsTyped)
    (hscope : scope.IsTyped m.store) (hv : value.IsTyped m.store) :
    (assignPath scope names value).Yields (fun s scope => scope.IsTyped s) m := by
  unfold assignPath
  split
  · exact Action.yields_pure hs ⟨hv, hscope.assigned⟩
  · cases he : scope.event with
    | object a =>
      have ha : (Datum.object a).IsTyped m.store := he ▸ hscope.event
      have h := writePath_retains names hs ha hv
      exact Action.yields_change h (hscope.mono h.kinds)
    | scalar _ | array _ =>
      have hempty : (Cell.object []).IsTyped m.store := List.forall_mem_nil _
      have hadd := Store.retains_add hs hempty
      have hroot : (Datum.object m.store.cells.size).IsTyped (m.store.add (.object [])).2 :=
        Store.kindAt?_add m.store _
      have hwrite := writePath_retains names hadd.typed hroot (hv.mono hadd.kinds)
      have h := hadd.trans hwrite
      exact Action.yields_change h ⟨hroot.mono hwrite.kinds, hscope.assigned.mono h.kinds⟩

/-- A statement that has a value leaves the store and the scope typed. -/
theorem runStatement_yields (hr : r.IsTyped) (s : Statement) (hs : m.store.IsTyped)
    (hscope : scope.IsTyped m.store) :
    (runStatement r scope s).Yields (fun s x => x.1.IsTyped s ∧ x.2.IsTyped s) m := by
  cases s with
  | expr e =>
    refine (evalExpr_yields hr e hs hscope).bind fun d m₁ _ h₁ hd => ?_
    exact Action.yields_pure h₁.typed ⟨hd, hscope.mono h₁.kinds⟩
  | assign target e =>
    refine (evalExpr_yields hr e hs hscope).bind fun d m₁ _ h₁ hd => ?_
    have hscope₁ := hscope.mono h₁.kinds
    cases target with
    | «variable» name span =>
      exact Action.yields_pure h₁.typed ⟨hd, hscope₁.event, hscope₁.assigned.bind name hd⟩
    | path names =>
      refine (assignPath_yields h₁.typed hscope₁ hd).bind fun scope' m₂ _ h₂ hscope₂ => ?_
      exact Action.yields_pure h₂.typed ⟨hd.mono h₂.kinds, hscope₂⟩

/-! ## Runs -/

/-- A run starts with a typed event, whatever the bindings. -/
theorem startScope_yields (bindings : Value) (hs : m.store.IsTyped) :
    (startScope bindings).Yields (fun s scope => scope.IsTyped s) m := by
  refine (Action.yields_load hs _).bind fun d m₁ _ h₁ hd => ?_
  exact Action.yields_pure h₁.typed ⟨hd, List.forall_mem_nil _⟩

/-- A run that starts typed stays typed. The induction is on the statements. -/
theorem runProgram_yields (hr : r.IsTyped) (p : Program) {last : Datum} (hs : m.store.IsTyped)
    (hscope : scope.IsTyped m.store) (hl : last.IsTyped m.store) :
    (runProgram r scope last p).Yields (fun s x => x.1.IsTyped s ∧ x.2.IsTyped s) m := by
  induction p generalizing scope last m with
  | nil => exact Action.yields_pure hs ⟨hl, hscope⟩
  | cons s rest ih =>
    rw [runProgram]
    refine (runStatement_yields hr s hs hscope).bind fun x m₁ _ h₁ hx => ?_
    exact ih h₁.typed hx.2 hx.1

end FunctionManual
