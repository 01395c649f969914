import FunctionManual.Proofs.Except
import FunctionManual.Proofs.Store.Alike
import Mathlib.Data.List.Perm.Subperm

/-!
# Data that hold trees

* `Store.Shows`: a datum holds a finite tree.
* `Shows.eq`: it holds one tree only.
* `Store.IsWay`: a way down through different containers, with enough steps left for all others.
* `toValue?_snapshot_eq_some_iff`: the snapshot of a datum has just the tree that the datum holds.
* `Alike.toValue?_eq`: so snapshots of data that hold the same value have the same tree, if any.
-/

namespace FunctionManual

/-! ## Trees of snapshots -/

namespace Snapshot

variable {f : Datum → Snapshot}

theorem itemsToValue?_map {xs : List Datum} {vs : List Value} :
    itemsToValue? (xs.map f) = some vs ↔
      List.Forall₂ (fun x v => (f x).toValue? = some v) xs vs := by
  induction xs generalizing vs with
  | nil =>
    rw [List.map_nil, itemsToValue?, List.forall₂_nil_left_iff, Option.some.injEq]
    exact eq_comm
  | cons x xs ih =>
    rw [List.map_cons, itemsToValue?, List.forall₂_cons_left_iff]
    simp only [Option.bind_eq_bind, Option.bind_eq_some_iff, Option.some.injEq, ih]
    constructor
    · rintro ⟨v, hv, vs, hvs, rfl⟩
      exact ⟨v, vs, hv, hvs, rfl⟩
    · rintro ⟨v, vs, hv, hvs, rfl⟩
      exact ⟨v, hv, vs, hvs, rfl⟩

theorem membersToValue?_map {ms : Members Datum} {ns : Members Value} :
    membersToValue? (ms.map fun x => (x.1, f x.2)) = some ns ↔
      List.Forall₂ (fun x y => x.1 = y.1 ∧ (f x.2).toValue? = some y.2) ms ns := by
  induction ms generalizing ns with
  | nil =>
    rw [List.map_nil, membersToValue?, List.forall₂_nil_left_iff, Option.some.injEq]
    exact eq_comm
  | cons x ms ih =>
    rw [List.map_cons, membersToValue?, List.forall₂_cons_left_iff]
    simp only [Option.bind_eq_bind, Option.bind_eq_some_iff, Option.some.injEq, ih]
    constructor
    · rintro ⟨v, hv, vs, hvs, rfl⟩
      exact ⟨(x.1, v), vs, ⟨rfl, hv⟩, hvs, rfl⟩
    · rintro ⟨⟨k, v⟩, vs, ⟨rfl, hv⟩, hvs, rfl⟩
      exact ⟨v, hv, vs, hvs, rfl⟩

end Snapshot

/-! ## Data with trees -/

namespace Value

variable {P Q : Value → Prop}

mutual

/-- Trees with the same layers are one tree. -/
theorem eq_of_bisimilar : (v : Value) → {w : Value} → View.Bisimilar P Q view view v w → v = w
  | .scalar x, w, h => by
    have hr := h.related
    cases w with
    | scalar y => cases hr; rfl
    | array _ | object _ => cases hr
  | .array vs, w, h => by
    have hr := h.related
    cases w with
    | scalar _ | object _ => cases hr
    | array ws =>
      cases hr with
      | array hr => rw [items_eq_of_bisimilar vs hr]
  | .object ms, w, h => by
    have hr := h.related
    cases w with
    | scalar _ | array _ => cases hr
    | object ns =>
      cases hr with
      | object hr => rw [members_eq_of_bisimilar ms hr]

theorem items_eq_of_bisimilar : (vs : List Value) → {ws : List Value} →
    List.Forall₂ (View.Bisimilar P Q view view) vs ws → vs = ws
  | [], _, h => by cases h; rfl
  | v :: vs, _, h => by
    cases h with
    | cons hv h => rw [eq_of_bisimilar v hv, items_eq_of_bisimilar vs h]

theorem members_eq_of_bisimilar : (ms : List (Key × Value)) → {ns : List (Key × Value)} →
    List.Forall₂ (fun x y => x.1 = y.1 ∧ View.Bisimilar P Q view view x.2 y.2) ms ns → ms = ns
  | [], _, h => by cases h; rfl
  | (k, v) :: ms, _, h => by
    cases h with
    | @cons _ y _ _ hv h =>
      obtain ⟨l, w⟩ := y
      obtain ⟨rfl, hv⟩ : k = l ∧ View.Bisimilar P Q view view v w := hv
      rw [eq_of_bisimilar v hv, members_eq_of_bisimilar ms h]

end

end Value

namespace Store

variable {s s' : Store} {d d' : Datum} {v w : Value}

/-- A typed datum holds a tree. -/
def Shows (s : Store) (d : Datum) (v : Value) : Prop :=
  View.Bisimilar (Datum.IsTyped s) (fun _ => True) s.view Value.view d v

theorem Shows.related (h : s.Shows d v) : View.Related s.Shows (s.view d) v.view :=
  View.Bisimilar.related h

theorem Alike.shows (h : s.Alike s' d d') (hv : s.Shows d v) : s'.Shows d' v :=
  View.Bisimilar.trans h.symm hv

/-- A datum holds one tree only. -/
theorem Shows.eq (h : s.Shows d v) (h' : s.Shows d w) : v = w :=
  v.eq_of_bisimilar (View.Bisimilar.trans (View.Bisimilar.symm h) h')

/-! ## Ways down -/

/-- A way down through different containers, innermost first. The steps that are left are enough
for all other containers and for a scalar behind them. -/
structure IsWay (s : Store) (above : List Nat) (steps : Nat) : Prop where
  nodup : above.Nodup
  below : ∀ a ∈ above, a < s.cells.size
  room : s.cells.size + 1 ≤ steps + above.length

namespace IsWay

variable {above : List Nat} {steps a : Nat}

theorem pos (h : s.IsWay above steps) : 0 < steps := by
  have hsub : above ⊆ List.range s.cells.size := fun a ha => List.mem_range.mpr (h.below a ha)
  have hlen := (List.subperm_of_subset h.nodup hsub).length_le
  rw [List.length_range] at hlen
  have := h.room
  omega

theorem cons (h : s.IsWay above (steps + 1)) (ha : a ∉ above) (hlt : a < s.cells.size) :
    s.IsWay (a :: above) steps := by
  refine ⟨List.nodup_cons.mpr ⟨ha, h.nodup⟩, List.forall_mem_cons.mpr ⟨hlt, h.below⟩, ?_⟩
  have := h.room
  rw [List.length_cons]
  omega

end IsWay

theorem isWay_nil (s : Store) : s.IsWay [] (s.cells.size + 2) :=
  ⟨List.nodup_nil, List.forall_mem_nil _, Nat.le_succ _⟩

section

variable {above : List Nat} {steps a : Nat}

theorem findIdx?_eq_none_iff_not_mem : above.findIdx? (· = a) = none ↔ a ∉ above := by
  rw [List.findIdx?_eq_none_iff]
  exact ⟨fun h ha => of_decide_eq_false (h a ha) rfl,
    fun h b hb => decide_eq_false fun he => h (he ▸ hb)⟩

/-- The snapshot of an array has a tree when the array is not on the way and its items have. -/
theorem toValue?_under_array :
    (s.snapshotUnder (steps + 1) above (.array a)).toValue? = some v ↔ a ∉ above ∧
      ∃ vs, v = .array vs ∧ List.Forall₂
        (fun x v => (s.snapshotUnder steps (a :: above) x).toValue? = some v) (s.items a) vs := by
  rw [snapshotUnder, ← findIdx?_eq_none_iff_not_mem]
  split
  next i hi =>
    refine iff_of_false (fun h => ?_) fun h => ?_
    · cases h
    · rw [hi] at h
      cases h.1
  next hi =>
    rw [and_iff_right hi, Snapshot.toValue?]
    simp only [Option.map_eq_map, Option.map_eq_some_iff, Snapshot.itemsToValue?_map]
    constructor
    · rintro ⟨vs, h, rfl⟩
      exact ⟨vs, rfl, h⟩
    · rintro ⟨vs, rfl, h⟩
      exact ⟨vs, h, rfl⟩

/-- The snapshot of an object has a tree when the object is not on the way and its members have. -/
theorem toValue?_under_object :
    (s.snapshotUnder (steps + 1) above (.object a)).toValue? = some v ↔ a ∉ above ∧
      ∃ ms, v = .object ms ∧ List.Forall₂ (fun x y => x.1 = y.1 ∧
        (s.snapshotUnder steps (a :: above) x.2).toValue? = some y.2) (s.members a) ms := by
  rw [snapshotUnder, ← findIdx?_eq_none_iff_not_mem]
  split
  next i hi =>
    refine iff_of_false (fun h => ?_) fun h => ?_
    · cases h
    · rw [hi] at h
      cases h.1
  next hi =>
    rw [and_iff_right hi, Snapshot.toValue?]
    simp only [Option.map_eq_map, Option.map_eq_some_iff, Snapshot.membersToValue?_map]
    constructor
    · rintro ⟨ms, h, rfl⟩
      exact ⟨ms, rfl, h⟩
    · rintro ⟨ms, rfl, h⟩
      exact ⟨ms, h, rfl⟩

/-! ## Snapshots of data with trees -/

/-- The tree of a snapshot is one that the datum holds. -/
theorem shows_of_toValue? (hd : s.Alike s d d) (hw : s.IsWay above steps)
    (h : (s.snapshotUnder steps above d).toValue? = some v) : s.Shows d v := by
  induction steps generalizing above d v with
  | zero => exact absurd hw.pos (Nat.lt_irrefl 0)
  | succ steps ih =>
    have hr := hd.related
    cases d with
    | scalar x =>
      cases h
      exact View.Bisimilar.fold trivial trivial (.scalar x)
    | array a =>
      obtain ⟨ha, vs, rfl, hs⟩ := toValue?_under_array.mp h
      cases hr with
      | array hr =>
        have hw := hw.cons ha (lt_of_kindAt? hd.left)
        refine View.Bisimilar.fold hd.left trivial (.array ?_)
        exact forall₂_imp_of_mem hs fun x hx v _ h => ih (List.forall₂_same.mp hr x hx) hw h
    | object a =>
      obtain ⟨ha, ms, rfl, hs⟩ := toValue?_under_object.mp h
      cases hr with
      | object hr =>
        have hw := hw.cons ha (lt_of_kindAt? hd.left)
        refine View.Bisimilar.fold hd.left trivial (.object ?_)
        exact forall₂_imp_of_mem hs fun x hx y _ h =>
          ⟨h.1, ih (List.forall₂_same.mp hr x hx).2 hw h.2⟩

/-- Every container on the way holds a tree that is larger than a given one. -/
def Exceeds (s : Store) (above : List Nat) (v : Value) : Prop :=
  ∀ a ∈ above, ∃ c w, (c = Datum.array a ∨ c = .object a) ∧ s.Shows c w ∧ sizeOf v < sizeOf w

/-- A container with a tree is not on a way through larger ones. -/
theorem Exceeds.not_mem (h : s.Exceeds above v) (hd : s.Shows d v)
    (ha : d = .array a ∨ d = .object a) : a ∉ above := by
  intro hm
  obtain ⟨c, w, hc, hcw, hlt⟩ := h a hm
  obtain rfl : d = c := by
    have htd := hd.left
    have htc := hcw.left
    -- one address does not have two kinds
    rcases ha with rfl | rfl <;> rcases hc with rfl | rfl
    · rfl
    · cases htd.symm.trans htc
    · cases htd.symm.trans htc
    · rfl
  exact Nat.lt_irrefl _ (hd.eq hcw ▸ hlt)

theorem Exceeds.cons (h : s.Exceeds above v) (hd : s.Shows d v)
    (ha : d = .array a ∨ d = .object a) (hlt : sizeOf w < sizeOf v) :
    s.Exceeds (a :: above) w := by
  refine List.forall_mem_cons.mpr ⟨⟨d, v, ha, hd, hlt⟩, fun b hb => ?_⟩
  obtain ⟨c, u, hc, hcu, hvu⟩ := h b hb
  exact ⟨c, u, hc, hcu, Nat.lt_trans hlt hvu⟩

/-- The snapshot of a datum with a tree has this tree: a container that is met again on the way
would hold a tree larger than its own. -/
theorem toValue?_of_shows (h : s.Shows d v) (hw : s.IsWay above steps) (hv : s.Exceeds above v) :
    (s.snapshotUnder steps above d).toValue? = some v := by
  induction steps generalizing above d v with
  | zero => exact absurd hw.pos (Nat.lt_irrefl 0)
  | succ steps ih =>
    have hr := h.related
    cases d with
    | scalar x =>
      cases v with
      | scalar y => cases hr; rfl
      | array _ | object _ => cases hr
    | array a =>
      cases v with
      | scalar _ | object _ => cases hr
      | array vs =>
        have ha := hv.not_mem h (.inl rfl)
        refine toValue?_under_array.mpr ⟨ha, vs, rfl, ?_⟩
        cases hr with
        | array hr =>
          have hw := hw.cons ha (lt_of_kindAt? h.left)
          refine forall₂_imp_of_mem hr fun x _ w hm hx => ih hx hw (hv.cons h (.inl rfl) ?_)
          have := List.sizeOf_lt_of_mem hm
          rw [Value.array.sizeOf_spec]
          omega
    | object a =>
      cases v with
      | scalar _ | array _ => cases hr
      | object ms =>
        have ha := hv.not_mem h (.inr rfl)
        refine toValue?_under_object.mpr ⟨ha, ms, rfl, ?_⟩
        cases hr with
        | object hr =>
          have hw := hw.cons ha (lt_of_kindAt? h.left)
          refine forall₂_imp_of_mem hr fun x _ y hm hx =>
            ⟨hx.1, ih hx.2 hw (hv.cons h (.inr rfl) ?_)⟩
          have := List.sizeOf_lt_of_mem hm
          obtain ⟨k, w⟩ := y
          rw [Prod.mk.sizeOf_spec] at this
          rw [Value.object.sizeOf_spec]
          show sizeOf w < _
          omega

end

/-- The snapshot of a datum has a tree just when the datum holds it. -/
theorem toValue?_snapshot_eq_some_iff (hd : s.Alike s d d) :
    (s.snapshot d).toValue? = some v ↔ s.Shows d v :=
  ⟨shows_of_toValue? hd s.isWay_nil,
    fun h => toValue?_of_shows h s.isWay_nil (List.forall_mem_nil _)⟩

/-- Snapshots of data that hold the same value have the same tree, if any. -/
theorem Alike.toValue?_eq (h : s.Alike s' d d') :
    (s.snapshot d).toValue? = (s'.snapshot d').toValue? := by
  refine Option.ext fun v => ?_
  rw [toValue?_snapshot_eq_some_iff (h.trans h.symm),
    toValue?_snapshot_eq_some_iff (h.symm.trans h)]
  exact ⟨h.shows, h.symm.shows⟩

end Store

end FunctionManual
