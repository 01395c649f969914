import FunctionManual.Proofs.Store.Soundness
import FunctionManual.TypeSpec.Basic
import FunctionManual.Store.Snapshot
import FunctionManual.Value.Equal
import Mathlib.Data.List.Forall2

/-!
# Types of values in a store

* `View.Related`: layers of the same form, with related parts.
* `accepts_eq_of_related`: things that look alike through their views have the same types.
* `Store.Holds`: a datum was made from a tree; it has the types that the tree has.
* `Grows.accepts_eq`: containers that are new change no type.
-/

namespace FunctionManual

/-! ## Things that look alike -/

/-- Layers of the same form, whose parts are related one by one. -/
inductive View.Related {α β : Type} (R : α → β → Prop) : View α → View β → Prop
  | scalar (x : Scalar) : Related R (.scalar x) (.scalar x)
  | array {xs : List α} {ys : List β} (h : List.Forall₂ R xs ys) :
      Related R (.array xs) (.array ys)
  | object {ms : Members α} {ns : Members β}
      (h : List.Forall₂ (fun x y => x.1 = y.1 ∧ R x.2 y.2) ms ns) :
      Related R (.object ms) (.object ns)

theorem View.Related.kind?_eq {α β : Type} {R : α → β → Prop} {v : View α} {w : View β}
    (h : Related R v w) : v.kind? = w.kind? := by
  cases h <;> rfl

theorem all_eq_of_forall₂ {α β : Type} {R : α → β → Prop} {f : α → Bool} {g : β → Bool}
    {xs : List α} {ys : List β} (h : List.Forall₂ R xs ys) (hR : ∀ a b, R a b → f a = g b) :
    xs.all f = ys.all g := by
  induction h with
  | nil => rfl
  | cons hab _ ih => rw [List.all_cons, List.all_cons, hR _ _ hab, ih]

section

variable {α β : Type} {R : α → β → Prop} {v : α → View α} {w : β → View β}

mutual

/-- Things whose layers are related all the way down have the same types. -/
theorem accepts_eq_of_related (hR : ∀ a b, R a b → View.Related R (v a) (w b)) :
    (t : TypeSpec) → {a : α} → {b : β} → R a b → t.accepts v a = t.accepts w b
  | .primitive p, a, b, h => by simp only [TypeSpec.accepts, (hR a b h).kind?_eq]
  | .array none, a, b, h => by simp only [TypeSpec.accepts, (hR a b h).kind?_eq]
  | .object none, a, b, h => by simp only [TypeSpec.accepts, (hR a b h).kind?_eq]
  | .array (some t), a, b, h => by
    have hv := hR a b h
    simp only [TypeSpec.accepts]
    generalize v a = va at hv
    generalize w b = wb at hv
    cases hv with
    | array hs => exact all_eq_of_forall₂ hs fun _ _ h => accepts_eq_of_related hR t h
    | scalar _ | object _ => rfl
  | .object (some t), a, b, h => by
    have hv := hR a b h
    simp only [TypeSpec.accepts]
    generalize v a = va at hv
    generalize w b = wb at hv
    cases hv with
    | object hs => exact all_eq_of_forall₂ hs fun _ _ h => accepts_eq_of_related hR t h.2
    | scalar _ | array _ => rfl
  | .oneOf ts, _, _, h => by
    simp only [TypeSpec.accepts]
    exact acceptsAny_eq_of_related hR ts h

theorem acceptsAny_eq_of_related (hR : ∀ a b, R a b → View.Related R (v a) (w b)) :
    (ts : List TypeSpec) → {a : α} → {b : β} → R a b →
      TypeSpec.acceptsAny v ts a = TypeSpec.acceptsAny w ts b
  | [], _, _, _ => rfl
  | t :: ts, _, _, h => by
    simp only [TypeSpec.acceptsAny, accepts_eq_of_related hR t h, acceptsAny_eq_of_related hR ts h]

end

end

/-! ## Trees in a store -/

namespace Store

variable {c : Material} {s s' : Store}

/-- A datum was made from a tree. -/
def Holds (s : Store) (d : Datum) (v : Value) : Prop :=
  ∃ s₀ : Store, (s₀.load v).1 = d ∧ (s₀.load v).2.Grows s

theorem Holds.mono {d : Datum} {v : Value} (h : s.Holds d v) (hs : s.Grows s') : s'.Holds d v := by
  obtain ⟨s₀, hd, hg⟩ := h
  exact ⟨s₀, hd, hg.trans hs⟩

theorem holds_load (s : Store) (v : Value) : (s.load v).2.Holds (s.load v).1 v :=
  ⟨s, rfl, .refl _⟩

theorem holds_loadItems {s₀ : Store} {vs : List Value} (h : (s₀.loadItems vs).2.Grows s) :
    List.Forall₂ s.Holds (s₀.loadItems vs).1 vs := by
  induction vs generalizing s₀ with
  | nil => exact .nil
  | cons v vs ih =>
    have hg := (loadItems_grows (s₀.load v).2 vs).trans h
    exact .cons ((holds_load s₀ v).mono hg) (ih h)

theorem holds_loadMembers {s₀ : Store} {ms : List (Key × Value)}
    (h : (s₀.loadMembers ms).2.Grows s) :
    List.Forall₂ (fun x y => x.1 = y.1 ∧ s.Holds x.2 y.2) (s₀.loadMembers ms).1 ms := by
  induction ms generalizing s₀ with
  | nil => exact .nil
  | cons x ms ih =>
    obtain ⟨k, v⟩ := x
    have hg := (loadMembers_grows (s₀.load v).2 ms).trans h
    exact .cons ⟨rfl, (holds_load s₀ v).mono hg⟩ (ih h)

theorem Holds.scalar_eq {d : Datum} {x : Scalar} (h : s.Holds d (.scalar x)) : d = .scalar x := by
  obtain ⟨s₀, rfl, -⟩ := h
  rfl

/-- An array was made from the items of a tree. -/
theorem Holds.exists_array {d : Datum} {vs : List Value} (h : s.Holds d (.array vs)) :
    ∃ a, d = .array a ∧ List.Forall₂ s.Holds (s.items a) vs := by
  obtain ⟨s₀, rfl, hg⟩ := h
  refine ⟨(s₀.loadItems vs).2.cells.size, rfl, ?_⟩
  have hlt : (s₀.loadItems vs).2.cells.size < (s₀.load (.array vs)).2.cells.size :=
    addArray_isSound (c := .any) _ _
  rw [hg.items_eq hlt]
  exact items_addArray _ _ ▸ holds_loadItems ((grows_add _ _).trans hg)

/-- An object was made from the members of a tree. -/
theorem Holds.exists_object {d : Datum} {ms : List (Key × Value)} (h : s.Holds d (.object ms)) :
    ∃ a, d = .object a ∧
      List.Forall₂ (fun x y => x.1 = y.1 ∧ s.Holds x.2 y.2) (s.members a) ms := by
  obtain ⟨s₀, rfl, hg⟩ := h
  refine ⟨(s₀.loadMembers ms).2.cells.size, rfl, ?_⟩
  have hlt : (s₀.loadMembers ms).2.cells.size < (s₀.load (.object ms)).2.cells.size :=
    addObject_isSound (c := .any) _ _
  rw [hg.members_eq hlt]
  exact members_addObject _ _ ▸ holds_loadMembers ((grows_add _ _).trans hg)

/-- A datum has the layers of the tree from which it was made. -/
theorem Holds.related {d : Datum} {v : Value} (h : s.Holds d v) :
    View.Related s.Holds (s.view d) v.view := by
  cases v with
  | scalar x =>
    obtain rfl := h.scalar_eq
    exact .scalar x
  | array vs =>
    obtain ⟨a, rfl, hs⟩ := h.exists_array
    exact .array hs
  | object ms =>
    obtain ⟨a, rfl, hs⟩ := h.exists_object
    exact .object hs

/-- A datum has the types of the tree from which it was made. -/
theorem Holds.accepts_eq {d : Datum} {v : Value} (h : s.Holds d v) (t : TypeSpec) :
    t.accepts s.view d = t.admits v :=
  accepts_eq_of_related (fun _ _ h => h.related) t h

/-! ## Containers that are new -/

/-- Where containers are added, a sound datum keeps its layers. -/
theorem Grows.related (h : s.Grows s') (hs : s.IsSound c) {d : Datum} (hd : d.IsSound c s) :
    View.Related (fun d d' => d = d' ∧ d.IsSound c s) (s.view d) (s'.view d) := by
  cases d with
  | scalar x => exact .scalar x
  | array a =>
    simp only [view, h.items_eq hd]
    exact .array (List.forall₂_same.mpr fun x hx => ⟨rfl, hs.items a x hx⟩)
  | object a =>
    simp only [view, h.members_eq hd]
    exact .object (List.forall₂_same.mpr fun x hx => ⟨rfl, rfl, (hs.members a x hx).2⟩)

/-- Where containers are added, a sound datum keeps its types. -/
theorem Grows.accepts_eq (h : s.Grows s') (hs : s.IsSound c) {d : Datum} (hd : d.IsSound c s)
    (t : TypeSpec) : t.accepts s.view d = t.accepts s'.view d :=
  accepts_eq_of_related (R := fun d d' => d = d' ∧ d.IsSound c s)
    (fun _ _ ⟨he, hd⟩ => he ▸ h.related hs hd) t ⟨rfl, hd⟩

/-! ## Snapshots -/

/-- Compared with a scalar, a datum is that scalar up to the kinds of numbers; a container is no
scalar, whatever it holds. -/
theorem snapshot_toValue?_any (s : Store) (d : Datum) (x : Scalar) :
    ((s.snapshot d).toValue?).any (fun w => w.looselyEqual (.scalar x)) =
      match d with
      | .scalar y => y.looselyEqual x
      | _ => false := by
  cases d with
  | scalar y => rfl
  | array a =>
    rw [snapshot, snapshotUnder, List.findIdx?_nil]
    simp only [Snapshot.toValue?]
    cases Snapshot.itemsToValue? _ <;> rfl
  | object a =>
    rw [snapshot, snapshotUnder, List.findIdx?_nil]
    simp only [Snapshot.toValue?]
    cases Snapshot.membersToValue? _ <;> rfl

end Store

end FunctionManual
