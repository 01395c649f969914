import FunctionManual.Proofs.Except
import FunctionManual.Value.Equal

/-!
# Equality of values

* `Scalar.looselyEqual_comm`: it does not matter which of two scalars comes first.
* `Scalar.looselyEqual_self`, `Scalar.looselyEqual_trans`: scalars of one kind but NaN equal
  themselves, and what two of them equal is equal.
* `Members.eq_text_of_same`: a key that names the same member as a text is that text.
* `Value.looselyEqual_scalar`: what equals a scalar is a scalar.
* `Value.isSame_iff`: values are the same when comparing them says so.
* `Value.same_scalar_iff`, `Value.same_array_iff`, `Value.same_object_iff`: what is the same as a
  scalar, as an array and as an object.
-/

namespace FunctionManual

theorem Timestamp.same_comm (t u : Timestamp) : t.same u = u.same t := by
  unfold Timestamp.same
  cases t.offset <;> cases u.offset
  · exact BEq.comm
  · rfl
  · rfl
  · exact BEq.comm

theorem Binary64.equals_comm (x y : Binary64) : x.equals y = y.equals x := by
  cases x <;> cases y <;> first | rfl | exact BEq.comm

/-- Scalars that count as no numbers are compared as they are, and numbers by value. -/
theorem Scalar.looselyEqual_comm (a b : Scalar) : a.looselyEqual b = b.looselyEqual a := by
  induction a generalizing b with
  | set a ih => cases b <;> first | rfl | exact ih _
  | _ =>
    cases b <;>
      first | rfl | exact BEq.comm | exact Timestamp.same_comm _ _ | exact Binary64.equals_comm _ _

/-- Timestamps are the same at one moment, if both have an offset or none has. -/
theorem Timestamp.same_iff {t u : Timestamp} :
    t.same u ↔ t.offset.isSome = u.offset.isSome ∧
      t.localMicros - t.offset.getD 0 = u.localMicros - u.offset.getD 0 := by
  unfold Timestamp.same
  cases t.offset <;> cases u.offset <;> simp

theorem Timestamp.same_trans {t u v : Timestamp} (h : t.same u) (h' : u.same v) : t.same v := by
  rw [Timestamp.same_iff] at *
  exact ⟨h.1.trans h'.1, h.2.trans h'.2⟩

theorem Binary64.equals_trans {x y z : Binary64} (h : x.equals y) (h' : y.equals z) :
    x.equals z := by
  cases x <;> cases y <;> cases z <;>
    first | cases h | cases h' | (simp only [equals, beq_iff_eq] at *; exact h.trans h')

/-- Every scalar of the language but NaN equals itself. -/
theorem Scalar.looselyEqual_self {a : Scalar} (hk : a.kind?.isSome) (hn : a ≠ .float .nan) :
    a.looselyEqual a := by
  cases a with
  | null => rfl
  | boolean b => cases b <;> rfl
  | integer i => exact beq_self_eq_true i
  | string s => exact beq_self_eq_true s
  | regex r => exact beq_self_eq_true r
  | timestamp t => exact Timestamp.same_iff.mpr ⟨rfl, rfl⟩
  | float x =>
    show x.equals x = true
    cases x with
    | nan => exact absurd rfl hn
    | infinite negative => exact beq_self_eq_true negative
    | finite => exact beq_self_eq_true _
  | bytes _ | set _ => cases hk

/-- Equality of scalars of one kind passes over to a third. -/
theorem Scalar.looselyEqual_trans {a b c : Scalar} {k : Kind} (ha : a.kind? = some k)
    (hb : b.kind? = some k) (hc : c.kind? = some k) (h : a.looselyEqual b)
    (h' : b.looselyEqual c) : a.looselyEqual c := by
  cases a <;> cases ha <;> cases b <;> cases hb <;> cases c <;> cases hc
  case null => rfl
  case boolean p q r => cases p <;> cases q <;> first | exact h' | cases h
  case integer | string | regex =>
    exact beq_iff_eq.mpr ((eq_of_beq h).trans (eq_of_beq h'))
  case timestamp => exact Timestamp.same_trans h h'
  case float => exact Binary64.equals_trans h h'

theorem Value.looselyEqual_scalar {x : Scalar} {v : Value}
    (h : (Value.scalar x).looselyEqual v) : ∃ y, v = .scalar y ∧ x.looselyEqual y := by
  cases v with
  | scalar y => exact ⟨y, rfl, h⟩
  | array _ | object _ => cases h

theorem Value.isSame_iff {v w : Value} : v.isSame w ↔ v.same w = .ok true := by
  unfold isSame
  cases v.same w with
  | error e => exact iff_of_false nofun nofun
  | ok b => exact Except.ok.injEq .. ▸ Iff.rfl

namespace Members

theorem same_text (a b : String) : (Key.text a).same (.text b) = (a == b) := by
  simp [Key.same, Key.toScalar, Scalar.looselyEqual]

/-- A key that names the same member as a text is that text. -/
theorem eq_text_of_same {k : Key} {name : String} (h : k.same (.text name)) : k = .text name := by
  cases k with
  | text s => rw [same_text, beq_iff_eq] at h; rw [h]
  | null | boolean _ | integer _ | float _ =>
    simp [Key.same, Key.toScalar, Scalar.looselyEqual, Scalar.number?] at h

end Members

namespace Value

theorem same_scalar_iff {a : Scalar} {w : Value} :
    (scalar a).same w = .ok true ↔
      ∃ b k, w = .scalar b ∧ a.kind? = some k ∧ b.kind? = some k ∧ a.looselyEqual b := by
  constructor
  · intro h
    unfold same at h
    obtain ⟨k, hk, h⟩ := bind_eq_ok h
    obtain ⟨k', hk', h⟩ := bind_eq_ok h
    split at h
    · cases h
    next hne =>
      obtain rfl : k = k' := not_not.mp hne
      cases w with
      | scalar b =>
        refine ⟨b, k, rfl, ?_, ?_, Except.ok.inj h⟩
        · unfold kind at hk
          split at hk <;> cases hk
          assumption
        · unfold kind at hk'
          split at hk' <;> cases hk'
          assumption
      | array _ | object _ => cases h
  · rintro ⟨b, k, rfl, ha, hb, h⟩
    have hka : (scalar a).kind = .ok k := by
      unfold kind
      rw [show (scalar a).kind? = some k from ha]
    have hkb : (scalar b).kind = .ok k := by
      unfold kind
      rw [show (scalar b).kind? = some k from hb]
    unfold same
    simp only [hka, hkb, bind, Except.bind, ne_eq, not_true_eq_false, if_false, h]
    rfl

theorem sameItems_iff {xs ys : List Value} (hl : xs.length = ys.length) :
    sameItems xs ys = .ok true ↔ List.Forall₂ (fun x y => x.same y = .ok true) xs ys := by
  induction xs generalizing ys with
  | nil =>
    obtain rfl := List.eq_nil_of_length_eq_zero hl.symm
    exact iff_of_true rfl .nil
  | cons x xs ih =>
    cases ys with
    | nil => cases hl
    | cons y ys =>
      rw [List.forall₂_cons, ← ih (Nat.succ.inj hl), sameItems]
      constructor
      · intro h
        obtain ⟨b, hb, h⟩ := bind_eq_ok h
        cases b with
        | false => cases h
        | true => exact ⟨hb, h⟩
      · rintro ⟨hx, hxs⟩
        rw [hx]
        exact hxs

theorem same_array_iff {xs : List Value} {w : Value} :
    (array xs).same w = .ok true ↔
      ∃ ys, w = .array ys ∧ List.Forall₂ (fun x y => x.same y = .ok true) xs ys := by
  constructor
  · intro h
    unfold same at h
    cases w with
    | array ys =>
      dsimp only at h
      split at h
      next hl => exact ⟨ys, rfl, (sameItems_iff (eq_of_beq hl)).mp h⟩
      next => cases h
    | scalar _ | object _ =>
      obtain ⟨k, -, h⟩ := bind_eq_ok h
      cases h
  · rintro ⟨ys, rfl, h⟩
    unfold same
    dsimp only
    rw [if_pos (beq_iff_eq.mpr h.length_eq)]
    exact (sameItems_iff h.length_eq).mpr h

theorem sameMembers_iff {ms ns : List (Key × Value)} :
    sameMembers ms ns = .ok true ↔
      ∀ m ∈ ms, ∃ w, Members.find? m.1 ns = some w ∧ m.2.same w = .ok true := by
  induction ms with
  | nil => exact iff_of_true rfl nofun
  | cons m ms ih =>
    obtain ⟨k, v⟩ := m
    rw [List.forall_mem_cons, ← ih, sameMembers]
    cases hf : Members.find? k ns with
    | none => exact iff_of_false nofun fun h => by simp at h
    | some w =>
      dsimp only
      constructor
      · intro h
        obtain ⟨b, hb, h⟩ := bind_eq_ok h
        cases b with
        | false => cases h
        | true => exact ⟨⟨w, rfl, hb⟩, h⟩
      · rintro ⟨⟨w', hw, hb⟩, h⟩
        cases hw
        rw [hb]
        exact h

theorem same_object_iff {ms : List (Key × Value)} {w : Value} :
    (object ms).same w = .ok true ↔ ∃ ns, w = .object ns ∧ ms.length = ns.length ∧
      ∀ m ∈ ms, ∃ u, Members.find? m.1 ns = some u ∧ m.2.same u = .ok true := by
  constructor
  · intro h
    unfold same at h
    cases w with
    | object ns =>
      dsimp only at h
      split at h
      next hk =>
        simp only [sameKeys, Bool.and_eq_true, beq_iff_eq] at hk
        exact ⟨ns, rfl, hk.1, sameMembers_iff.mp h⟩
      next => cases h
    | scalar _ | array _ =>
      obtain ⟨k, -, h⟩ := bind_eq_ok h
      cases h
  · rintro ⟨ns, rfl, hl, h⟩
    have hkeys : sameKeys ms ns := by
      simp only [sameKeys, Bool.and_eq_true, beq_iff_eq, List.all_eq_true]
      refine ⟨hl, fun m hm => ?_⟩
      obtain ⟨u, hu, -⟩ := h m hm
      rw [Members.has, hu]
      rfl
    unfold same
    dsimp only
    rw [if_pos hkeys]
    exact sameMembers_iff.mpr h

end Value

end FunctionManual
