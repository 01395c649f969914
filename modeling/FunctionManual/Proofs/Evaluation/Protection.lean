import FunctionManual.Proofs.Evaluation.Keeping
import FunctionManual.Proofs.Registry.Built

/-!
# Docs without errors protect evaluators

* `startScope_isSound`: a program starts with a sound store, whatever the event is.
* `metadata_protects_evaluators`: what evaluators are given where no doc has an error.
-/

namespace FunctionManual

variable {c : Material} {r : Registry} {p : Program}

/-! ## The start of a run -/

/-- A program starts with a copy of the event. -/
theorem startScope_isSound {bindings : Value} (hb : bindings.IsMadeOf c) {scope : Scope}
    {m m' : Machine} (hs : m.store.IsSound c) (h : startScope bindings m = (.ok scope, m')) :
    m'.store.IsSound c ∧ scope.IsSound c m'.store := by
  obtain ⟨event, m₁, hl, h⟩ := Action.bind_eq_ok h
  cases h
  have hv : (if bindings.isNull then Value.object [] else bindings).IsMadeOf c := by
    split
    · exact .object nofun nofun
    · exact hb
  obtain ⟨he, hd⟩ := (Action.keeps_load hs hv).of_eq hl
  exact ⟨he.sound, hd, nofun⟩

/-! ## Where everything is allowed -/

theorem Value.isMadeOf_any (v : Value) : v.IsMadeOf .any := by
  cases v with
  | scalar _ => exact .scalar trivial
  | array vs =>
    refine .array fun v hv => ?_
    have := List.sizeOf_lt_of_mem hv
    exact isMadeOf_any v
  | object ms =>
    refine .object (fun _ _ => trivial) fun x hx => ?_
    have := List.sizeOf_lt_of_mem hx
    have hsnd : sizeOf x.2 < sizeOf x := by
      rw [Prod.mk.sizeOf_spec x.1 x.2]
      omega
    exact isMadeOf_any x.2
termination_by sizeOf v

theorem Expr.isMadeOf_any (e : Expr) : e.IsMadeOf .any := by
  induction e using Expr.induct with
  | h e ih => exact .mk (fun _ _ => trivial) ih

/-- The docs of a registry that was built are regular when they have no errors. -/
theorem Registry.Built.isSafe (hr : r.Built) (hm : ∀ entry ∈ r.entries, entry.doc.HasNoErrors)
    (hs : ∀ entry ∈ r.entries, entry.IsSafe .any) : r.IsSafe .any where
  docs entry he := (hm entry he).isRegular fun p hp =>
    ((FunctionDoc.stated_of_isComplete (hr.isComplete entry he)).parameters p hp).name
  defaults _ _ _ _ := Value.isMadeOf_any _
  evaluators := hs

/-- In a registry that was built and whose docs have no errors, let no evaluator lose a container.
Then whenever a run of a program that was compiled enters an evaluator, in any sound scope and so
with any event, the arguments meet the doc: they have different names, each that of a parameter
whose type and variants admit the value, supplied or filled in, and the required parameters are
among them. -/
theorem metadata_protects_evaluators (hr : r.Built)
    (hm : ∀ entry ∈ r.entries, entry.doc.HasNoErrors)
    (hs : ∀ entry ∈ r.entries, entry.IsSafe .any) (h : compile r p = .ok ()) :
    (∀ (scope : Scope) (m : Machine), m.store.IsSound .any → scope.IsSound .any m.store →
      ∀ x : Entrance r p scope m, x.bound.Meet x.machine.store x.entry.doc) ∧
    ∀ (bindings : Value) (scope : Scope) (m : Machine), startScope bindings {} = (.ok scope, m) →
      ∀ x : Entrance r p scope m, x.bound.Meet x.machine.store x.entry.doc := by
  have hp := compile_eq_ok_iff.mp h
  have hl : p.IsMadeOf .any := fun s _ => s.value.isMadeOf_any
  have hsafe := hr.isSafe hm hs
  refine ⟨fun scope m hstore hscope x => (x.meets hsafe hp hl hstore hscope).2.2,
    fun bindings scope m hstart x => ?_⟩
  obtain ⟨hstore, hscope⟩ := startScope_isSound bindings.isMadeOf_any Store.isSound_empty hstart
  exact (x.meets hsafe hp hl hstore hscope).2.2

/-! ## A registry of one function -/

theorem pickRegistry_built : pickRegistry.Built := by
  have complete : pickDoc.isComplete := by
    rw [FunctionDoc.isComplete_iff]
    decide
  have h : Registry.register { name := "main" } "pick" pickDoc
      (some fun a => pure ((a.lookup "value").getD (.scalar .null))) = .ok pickRegistry :=
    Registry.register_eq_ok_iff.mpr
      ⟨⟨rfl, complete, ⟨.string, by decide, rfl⟩, rfl, rfl, rfl⟩, _, rfl, rfl⟩
  exact .register (.empty "main" Category.all) h

/-- The inner call enters the evaluator with the default of its second parameter. -/
def pickOneEntrance : Entrance pickRegistry [.expr pickTwice.expr] ⟨.object 0, []⟩
    ⟨⟨#[.object []]⟩, 0⟩ where
  call := pickOne
  entry := ⟨"pick", pickDoc, fun a => pure ((a.lookup "value").getD (.scalar .null))⟩
  current := ⟨.object 0, []⟩
  before := ⟨⟨#[.object []]⟩, 0⟩
  given := [("value", .scalar (.integer 1))]
  evaluated := ⟨⟨#[.object []]⟩, 0⟩
  bound := [("value", .scalar (.integer 1)), ("mode", .scalar (.string "first"))]
  machine := ⟨⟨#[.object []]⟩, 0⟩
  reached := .visit (.part (show pickTwice.expr.parts = [] ++ pickOne.expr :: _ from rfl) rfl
    (.here _ _))
  registered := rfl
  supplied := rfl
  admitted := rfl

theorem pickRegistry_isSafe : ∀ entry ∈ pickRegistry.entries, entry.IsSafe .any := by
  refine List.forall_mem_singleton.mpr fun bound m hs hb _ => Action.keeps_pure hs ?_
  cases hv : bound.lookup "value" with
  | none => exact trivial
  | some d => exact hb _ (mem_of_lookup_eq_some hv)

theorem metadata_protects_evaluators_pick :
    startScope .null {} = (.ok ⟨.object 0, []⟩, ⟨⟨#[.object []]⟩, 0⟩) ∧
      pickOneEntrance.bound.Meet pickOneEntrance.machine.store pickDoc :=
  have hm : ∀ entry ∈ pickRegistry.entries, entry.doc.HasNoErrors :=
    List.forall_mem_singleton.mpr ⟨[], rfl, nofun⟩
  have hstart : startScope .null {} = (.ok ⟨.object 0, []⟩, ⟨⟨#[.object []]⟩, 0⟩) := rfl
  ⟨hstart, (metadata_protects_evaluators pickRegistry_built hm pickRegistry_isSafe rfl).2 .null _ _
    hstart pickOneEntrance⟩

end FunctionManual
