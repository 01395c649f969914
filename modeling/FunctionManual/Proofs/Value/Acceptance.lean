import FunctionManual.Proofs.Except
import FunctionManual.Proofs.Store.Holding
import FunctionManual.Proofs.Value.Equivalence

/-!
# Types and JSON respect equality

* `Value.kind?_eq_of_same`: values that are the same are of one kind.
* `Value.exists_perm_of_same`: the members of objects that are the same are so one by one, up to
  their order.
* `Value.accepts_eq_of_same`, `Value.isJson_eq_of_same`: values that are the same have the same
  types, and JSON holds both or neither.
-/

namespace FunctionManual

theorem Binary64.isFinite_eq_of_equals {x y : Binary64} (h : x.equals y) :
    x.isFinite = y.isFinite := by
  cases x <;> cases y <;> first | rfl | cases h

namespace Value

variable {v w : Value}

/-! ## What is the same -/

/-- Values that are the same are of one kind. -/
theorem kind?_eq_of_same (h : v.same w = .ok true) : v.kind? = w.kind? := by
  cases v with
  | scalar a =>
    obtain ⟨b, k, rfl, ha, hb, -⟩ := same_scalar_iff.mp h
    exact ha.trans hb.symm
  | array xs =>
    obtain ⟨ys, rfl, -⟩ := same_array_iff.mp h
    rfl
  | object ms =>
    obtain ⟨ns, rfl, -⟩ := same_object_iff.mp h
    rfl

/-- The members of an object are, in some order, the same as those of one that it equals. -/
theorem exists_perm_of_same {ms : List (Key × Value)} (hn : HasNames ms)
    (h : (object ms).same w = .ok true) :
    ∃ ns ps, w = .object ns ∧ ps.Perm ns ∧
      List.Forall₂ (fun m p => m.1 = p.1 ∧ m.2.same p.2 = .ok true) ms ps := by
  obtain ⟨ns, rfl, hlen, hs⟩ := same_object_iff.mp h
  let partner (m : Key × Value) : Key × Value := (m.1, (Members.find? m.1 ns).getD .null)
  have hpartner : ∀ m ∈ ms, partner m ∈ ns ∧ m.2.same (partner m).2 = .ok true := by
    intro m hm
    obtain ⟨u, hu, hmu⟩ := hs m hm
    have htext := hn.text m hm
    simp only [partner, hu, Option.getD_some]
    cases hkey : m.1 with
    | text name => exact ⟨mem_of_find?_text (hkey ▸ hu), hmu⟩
    | _ => rw [hkey] at htext; cases htext
  have hnodup : (ms.map partner).Nodup := by
    refine List.Nodup.of_map Prod.fst ?_
    rw [List.map_map]
    exact hn.nodup
  have hsub : (ms.map partner).Subperm ns := by
    refine List.subperm_of_subset hnodup fun p hp => ?_
    obtain ⟨m, hm, rfl⟩ := List.mem_map.mp hp
    exact (hpartner m hm).1
  refine ⟨ns, ms.map partner, rfl, hsub.perm_of_length_le (by rw [List.length_map, hlen]), ?_⟩
  refine List.forall₂_map_right_iff.mpr (List.forall₂_same.mpr fun m hm => ?_)
  exact ⟨rfl, (hpartner m hm).2⟩

/-! ## Tests of all parts -/

/-- A test that agrees on items that are the same holds of all items of both arrays, or of
neither. -/
theorem all_eq_of_same {f : Value → Bool} {xs ys : List Value}
    (hs : List.Forall₂ (fun x y => x.same y = .ok true) xs ys)
    (hf : ∀ x ∈ xs, ∀ y, x.same y = .ok true → f x = f y) : xs.all f = ys.all f :=
  all_eq_of_forall₂ (forall₂_imp_of_mem hs fun x hx y _ => hf x hx y) fun _ _ h => h

/-- A test that agrees on members that are the same holds of all members of both objects, or of
neither. -/
theorem exists_all_eq_of_same {f : Key × Value → Bool} {ms : List (Key × Value)} (hn : HasNames ms)
    (h : (object ms).same w = .ok true)
    (hf : ∀ m ∈ ms, ∀ y, m.2.same y = .ok true → f m = f (m.1, y)) :
    ∃ ns, w = .object ns ∧ ms.all f = ns.all f := by
  obtain ⟨ns, ps, rfl, hperm, hps⟩ := exists_perm_of_same hn h
  refine ⟨ns, rfl, Eq.trans ?_ hperm.all_eq⟩
  refine all_eq_of_forall₂ (forall₂_imp_of_mem hps fun m hm p _ hmp => ?_) fun _ _ h => h
  rw [hf m hm p.2 hmp.2, hmp.1]

/-! ## Types -/

mutual

/-- Values that are the same have the same types. -/
theorem accepts_eq_of_same : (t : TypeSpec) → {v w : Value} → v.IsMadeOf .proper → v.Distinct →
    v.same w = .ok true → t.accepts view v = t.accepts view w
  | .primitive p, v, w, _, _, h => congrArg p.acceptsKind (kind?_eq_of_same h)
  | .array none, v, w, _, _, h => by
    have hk : v.view.kind? = w.view.kind? := kind?_eq_of_same h
    simp only [TypeSpec.accepts, hk]
  | .object none, v, w, _, _, h => by
    have hk : v.view.kind? = w.view.kind? := kind?_eq_of_same h
    simp only [TypeSpec.accepts, hk]
  | .array (some t), v, w, hv, hd, h => by
    simp only [TypeSpec.accepts]
    cases hd with
    | scalar a =>
      obtain ⟨b, _, rfl, -⟩ := same_scalar_iff.mp h
      rfl
    | object _ _ =>
      obtain ⟨ns, rfl, -⟩ := same_object_iff.mp h
      rfl
    | array hds =>
      cases hv with
      | array hvs =>
        obtain ⟨ys, rfl, hys⟩ := same_array_iff.mp h
        exact all_eq_of_same hys fun x hx _ => accepts_eq_of_same t (hvs x hx) (hds x hx)
  | .object (some t), v, w, hv, hd, h => by
    simp only [TypeSpec.accepts]
    cases hd with
    | scalar a =>
      obtain ⟨b, _, rfl, -⟩ := same_scalar_iff.mp h
      rfl
    | array _ =>
      obtain ⟨ys, rfl, -⟩ := same_array_iff.mp h
      rfl
    | @object ms hn hds =>
      cases hv with
      | object hk hvs =>
        let test (m : Key × Value) : Bool := t.accepts view m.2
        have htest : ∀ m ∈ ms, ∀ y, m.2.same y = .ok true → test m = test (m.1, y) :=
          fun m hm y => accepts_eq_of_same t (hvs m hm) (hds m hm)
        obtain ⟨ns, rfl, hall⟩ := exists_all_eq_of_same ⟨hk, hn⟩ h htest
        exact hall
  | .oneOf ts, _, _, hv, hd, h => by
    simp only [TypeSpec.accepts]
    exact acceptsAny_eq_of_same ts hv hd h

theorem acceptsAny_eq_of_same : (ts : List TypeSpec) → {v w : Value} → v.IsMadeOf .proper →
    v.Distinct → v.same w = .ok true →
    TypeSpec.acceptsAny view ts v = TypeSpec.acceptsAny view ts w
  | [], _, _, _, _, _ => rfl
  | t :: ts, _, _, hv, hd, h => by
    simp only [TypeSpec.acceptsAny, accepts_eq_of_same t hv hd h, acceptsAny_eq_of_same ts hv hd h]

end

/-! ## JSON -/

/-- Scalars that are the same can both be written as JSON, or neither can. -/
theorem isJson_scalar_eq {a b : Scalar} {k : Kind} (ha : a.kind? = some k) (hb : b.kind? = some k)
    (h : a.looselyEqual b) : (scalar a).isJson = (scalar b).isJson := by
  cases a <;> cases ha <;> cases b <;> cases hb <;>
    first | rfl | exact Binary64.isFinite_eq_of_equals h

/-- JSON holds both of two values that are the same, or neither. -/
theorem isJson_eq_of_same (hv : v.IsMadeOf .proper) (hd : v.Distinct) (h : v.same w = .ok true) :
    v.isJson = w.isJson := by
  induction hd generalizing w with
  | scalar a =>
    obtain ⟨b, k, rfl, ha, hb, hab⟩ := same_scalar_iff.mp h
    exact isJson_scalar_eq ha hb hab
  | @array xs _ ih =>
    cases hv with
    | array hvs =>
      obtain ⟨ys, rfl, hys⟩ := same_array_iff.mp h
      have hall := all_eq_of_same hys fun x hx y => ih x hx (hvs x hx)
      rw [Bool.eq_iff_iff, List.all_eq_true, List.all_eq_true] at hall
      exact Bool.eq_iff_iff.mpr (itemsAreJson_iff.trans (hall.trans itemsAreJson_iff.symm))
  | @object ms hn _ ih =>
    cases hv with
    | object hk hvs =>
      let test (m : Key × Value) : Bool := m.1.isText && m.2.isJson
      have htest : ∀ m ∈ ms, ∀ y, m.2.same y = .ok true → test m = test (m.1, y) :=
        fun m hm y hy => congrArg (m.1.isText && ·) (ih m hm (hvs m hm) hy)
      obtain ⟨ns, rfl, hall⟩ := exists_all_eq_of_same ⟨hk, hn⟩ h htest
      rw [Bool.eq_iff_iff] at hall
      simp only [List.all_eq_true, test, Bool.and_eq_true] at hall
      exact Bool.eq_iff_iff.mpr (membersAreJson_iff.trans (hall.trans membersAreJson_iff.symm))

/-- Values that JSON holds are values of the language. -/
theorem isMadeOf_of_isJson (hd : v.Distinct) (hj : v.isJson) : v.IsMadeOf .proper := by
  induction hd with
  | scalar s => cases s <;> first | exact .scalar rfl | cases hj
  | array _ ih => exact .array fun v hv => ih v hv (itemsAreJson_iff.mp hj v hv)
  | object _ _ ih =>
    have hms := membersAreJson_iff.mp hj
    exact .object (fun m hm => (hms m hm).1) fun m hm => ih m hm (hms m hm).2

end Value

end FunctionManual
