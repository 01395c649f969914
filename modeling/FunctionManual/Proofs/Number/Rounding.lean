import FunctionManual.Number.Decimal
import Mathlib.Algebra.Ring.Nat

/-!
# Rounding of ratios and decimals

* `ofRatio_congr`: the nearest double depends on the ratio alone.
* `ofDecimal_eq_ofRatio`: settling far magnitudes first changes no answer.
* `ofDecimal_shift`: zeros behind the digits count like places of the exponent.
* `ofDecimal_exact`, `ofDecimal_shortest`: the exact value of a double and its shortest digits round
  to that double.
-/

namespace FunctionManual.Binary64

/-! ## Binary digits -/

theorem lt_pow_bitLength (n : Nat) : n < 2 ^ bitLength n := by
  unfold bitLength
  split
  · simp_all
  · exact Nat.lt_log2_self

theorem pow_bitLength_le {n : Nat} (hn : n ≠ 0) : 2 ^ (bitLength n - 1) ≤ n := by
  simpa [bitLength, hn] using Nat.log2_self_le hn

theorem bitLength_lt_of_pow_le {n k : Nat} (h : 2 ^ k ≤ n) : k < bitLength n :=
  (Nat.pow_lt_pow_iff_right (by decide)).mp (Nat.lt_of_le_of_lt h (lt_pow_bitLength n))

theorem bitLength_le_of_lt_pow {n k : Nat} (h : n < 2 ^ k) : bitLength n ≤ k := by
  by_cases hn : n = 0
  · simp [bitLength, hn]
  · have := (Nat.pow_lt_pow_iff_right (by decide)).mp (Nat.lt_of_le_of_lt (pow_bitLength_le hn) h)
    omega

/-! ## Ratios -/

theorem roundQuot_mul_right (n d : Nat) {k : Nat} (hk : 0 < k) :
    roundQuot (n * k) (d * k) = roundQuot n d := by
  have h₁ : 2 * (n % d * k) < d * k ↔ 2 * (n % d) < d := by
    rw [← Nat.mul_assoc, Nat.mul_lt_mul_right hk]
  have h₂ : d * k < 2 * (n % d * k) ↔ d < 2 * (n % d) := by
    rw [← Nat.mul_assoc, Nat.mul_lt_mul_right hk]
  simp only [roundQuot, Nat.mul_div_mul_right _ _ hk, Nat.mul_mod_mul_right, h₁, h₂]

/-- A multiple is its own rounding. -/
theorem roundQuot_mul_self (m : Nat) {d : Nat} (hd : 0 < d) : roundQuot (m * d) d = m := by
  simp [roundQuot, Nat.mul_div_cancel _ hd, hd]

theorem ofScaled_mul_right (negative : Bool) (n d : Nat) {k : Nat} (hk : 0 < k) :
    ofScaled negative (n * k) (d * k) = ofScaled negative n d := by
  have h (u : Nat) : d * k * Nat.pow 2 u = d * Nat.pow 2 u * k := Nat.mul_right_comm _ _ _
  simp only [ofScaled, Nat.mul_div_mul_right _ _ hk, h, roundQuot_mul_right _ _ hk]

/-- The nearest double depends on the ratio alone. -/
theorem ofRatio_congr (negative : Bool) {n d n' d' : Nat} (hd : 0 < d) (hd' : 0 < d')
    (h : n * d' = n' * d) : ofRatio negative n d = ofRatio negative n' d' := by
  unfold ofRatio
  rw [← ofScaled_mul_right negative (n * scale) d hd',
    ← ofScaled_mul_right negative (n' * scale) d' hd, Nat.mul_right_comm n, h,
    Nat.mul_right_comm n', Nat.mul_comm d]

/-- Below half of the smallest unit. -/
theorem ofScaled_small (negative : Bool) {n d : Nat} (h : 2 * n < d) :
    ofScaled negative n d = zero negative := by
  have h' : n < d := by omega
  simp [ofScaled, bitLength, roundQuot, ofFields, zero, Canonical, Nat.div_eq_of_lt h',
    Nat.mod_eq_of_lt h', h]

theorem ofRatio_zero (negative : Bool) {d : Nat} (hd : 0 < d) :
    ofRatio negative 0 d = zero negative := by
  rw [ofRatio, Nat.zero_mul]
  exact ofScaled_small negative hd

/-! ## Far magnitudes -/

theorem scale_eq {k : Nat} (hk : k = 1074) : scale = 2 ^ k := by
  unfold scale
  rw [← hk, Nat.pow_eq]

/-- Past the largest double. -/
theorem ofRatio_large (negative : Bool) {n d k : Nat} (hd : 0 < d) (hk : 1100 ≤ k)
    (h : d * 2 ^ k ≤ n) : ofRatio negative n d = .infinite negative := by
  -- the exponent of the scale has a name, so that no step computes the power
  obtain ⟨s, hs⟩ : ∃ s, s = 1074 := ⟨_, rfl⟩
  have hq : 2 ^ (k + s) ≤ n * scale / d := by
    rw [Nat.le_div_iff_mul_le hd, Nat.pow_add, Nat.mul_comm, ← Nat.mul_assoc, ← scale_eq hs]
    exact Nat.mul_le_mul_right scale h
  have hb := bitLength_lt_of_pow_le hq
  have far (m u : Nat) (hu : 2045 < u) : ofFields negative m u = .infinite negative := by
    have : ¬ Canonical m u := fun h => by have := h.2.2; omega
    simp [ofFields, this]
  simp only [ofRatio, ofScaled]
  split
  · exact far _ _ (by omega)
  · exact far _ _ (by omega)

/-- Below half of the smallest double. -/
theorem ofRatio_small (negative : Bool) {n d k : Nat} (hk : 1075 ≤ k) (h : n * 2 ^ k < d) :
    ofRatio negative n d = zero negative := by
  obtain ⟨s, hs⟩ : ∃ s, s = 1074 := ⟨_, rfl⟩
  refine ofScaled_small negative (Nat.lt_of_le_of_lt ?_ h)
  rw [scale_eq hs, Nat.mul_left_comm, ← Nat.pow_succ']
  exact Nat.mul_le_mul_left n (Nat.pow_le_pow_right (by decide) (by omega))

private theorem pow_two_le_pow_ten {k j : Nat} (h : k ≤ 3 * j) : 2 ^ k ≤ 10 ^ j :=
  calc 2 ^ k ≤ 2 ^ (3 * j) := Nat.pow_le_pow_right (by decide) h
    _ = 8 ^ j := Nat.pow_mul ..
    _ ≤ 10 ^ j := Nat.pow_le_pow_left (by decide) j

/-- A number of `b` binary digits has at least a quarter as many decimal ones. -/
private theorem pow_ten_le_two_mul {n : Nat} (hn : n ≠ 0) : 10 ^ (bitLength n / 4) ≤ 2 * n := by
  have hb : 0 < bitLength n := by simp [bitLength, hn]
  calc 10 ^ (bitLength n / 4) ≤ 16 ^ (bitLength n / 4) := Nat.pow_le_pow_left (by decide) _
    _ = 2 ^ (4 * (bitLength n / 4)) := by rw [Nat.pow_mul]
    _ ≤ 2 ^ (1 + (bitLength n - 1)) := Nat.pow_le_pow_right (by decide) (by omega)
    _ = 2 * 2 ^ (bitLength n - 1) := by rw [Nat.pow_add, Nat.pow_one]
    _ ≤ 2 * n := Nat.mul_le_mul_left 2 (pow_bitLength_le hn)

/-- A decimal of far too many digits is past any power that a double can have. -/
private theorem decimal_large {digits : Nat} (hn : digits ≠ 0) {exponent : Int} {k : Nat}
    (hk : k ≤ 1200) (h : exponent + (bitLength digits : Int) / 4 > 400) :
    10 ^ (-exponent).toNat * 2 ^ k ≤ digits * 10 ^ exponent.toNat := by
  obtain ⟨j, hj⟩ : ∃ j, j = 401 := ⟨_, rfl⟩
  have hp : 2 * 2 ^ k ≤ 10 ^ j := by
    rw [← Nat.pow_succ']
    exact pow_two_le_pow_ten (by omega)
  refine Nat.le_of_mul_le_mul_left ?_ Nat.zero_lt_two
  calc 2 * (10 ^ (-exponent).toNat * 2 ^ k)
      = 10 ^ (-exponent).toNat * (2 * 2 ^ k) := Nat.mul_left_comm ..
    _ ≤ 10 ^ (-exponent).toNat * 10 ^ j := Nat.mul_le_mul_left _ hp
    _ = 10 ^ ((-exponent).toNat + j) := (Nat.pow_add ..).symm
    _ ≤ 10 ^ (bitLength digits / 4 + exponent.toNat) :=
        Nat.pow_le_pow_right (by decide) (by omega)
    _ = 10 ^ (bitLength digits / 4) * 10 ^ exponent.toNat := Nat.pow_add ..
    _ ≤ 2 * digits * 10 ^ exponent.toNat := Nat.mul_le_mul_right _ (pow_ten_le_two_mul hn)
    _ = 2 * (digits * 10 ^ exponent.toNat) := Nat.mul_assoc ..

/-- A decimal of far too many places is below any power that a double can have. -/
private theorem decimal_small {digits : Nat} {exponent : Int} {k : Nat} (hk : k ≤ 1200)
    (h : exponent + (bitLength digits : Int) < -400) :
    digits * 10 ^ exponent.toNat * 2 ^ k < 10 ^ (-exponent).toNat := by
  have he : exponent.toNat = 0 := by omega
  rw [he, Nat.pow_zero, Nat.mul_one]
  obtain ⟨j, hj⟩ : ∃ j, j = 401 := ⟨_, rfl⟩
  calc digits * 2 ^ k < 2 ^ bitLength digits * 2 ^ k :=
        Nat.mul_lt_mul_of_pos_right (lt_pow_bitLength digits) (Nat.pow_pos (by decide))
    _ ≤ 10 ^ bitLength digits * 10 ^ j :=
        Nat.mul_le_mul (Nat.pow_le_pow_left (by decide) _) (pow_two_le_pow_ten (by omega))
    _ = 10 ^ (bitLength digits + j) := (Nat.pow_add ..).symm
    _ ≤ 10 ^ (-exponent).toNat := Nat.pow_le_pow_right (by decide) (by omega)

/-! ## Decimals -/

/-- Settling far magnitudes first changes no answer. -/
theorem ofDecimal_eq_ofRatio (negative : Bool) (digits : Nat) (exponent : Int) :
    ofDecimal negative digits exponent =
      ofRatio negative (digits * 10 ^ exponent.toNat) (10 ^ (-exponent).toNat) := by
  have hd : 0 < 10 ^ (-exponent).toNat := Nat.pow_pos (by decide)
  by_cases hn : digits = 0
  · simp [ofDecimal, hn, ofRatio_zero negative hd]
  obtain ⟨k, hk⟩ : ∃ k, k = 1100 := ⟨_, rfl⟩
  by_cases hl : exponent + (bitLength digits : Int) / 4 > 400
  · have h := ofRatio_large negative hd (by omega) (decimal_large (k := k) hn (by omega) hl)
    simp only [ofDecimal, hn, hl, if_true, if_false, h]
  by_cases hs : exponent + (bitLength digits : Int) < -400
  · have h := ofRatio_small negative (by omega) (decimal_small (k := k) (by omega) hs)
    simp only [ofDecimal, hn, hl, hs, if_true, if_false, h]
  simp only [ofDecimal, hn, hl, hs, if_false]
  cases exponent with
  | ofNat e => simp
  | negSucc e =>
    have h : (Int.negSucc e).toNat = 0 := by omega
    simp [h]

/-- Zeros behind the digits count like places of the exponent. -/
theorem ofDecimal_shift (negative : Bool) (digits k : Nat) (exponent : Int) :
    ofDecimal negative (digits * 10 ^ k) exponent = ofDecimal negative digits (exponent + k) := by
  rw [ofDecimal_eq_ofRatio, ofDecimal_eq_ofRatio]
  refine ofRatio_congr negative (Nat.pow_pos (by decide)) (Nat.pow_pos (by decide)) ?_
  have h : k + (exponent.toNat + (-(exponent + k)).toNat) =
      (exponent + k).toNat + (-exponent).toNat := by omega
  rw [Nat.mul_assoc, Nat.mul_assoc, Nat.mul_assoc, ← Nat.pow_add, ← Nat.pow_add, ← Nat.pow_add, h]

/-! ## Doubles that are met exactly -/

/-- The value of a double rounds to that double. -/
theorem ofScaled_canonical (negative : Bool) {m u : Nat} (h : Canonical m u) :
    ofScaled negative (m * 2 ^ u) 1 = .finite negative m u h := by
  have hlt : m < 2 ^ 53 := h.1
  have hu : bitLength (m * 2 ^ u) - 53 = u := by
    have hle : bitLength (m * 2 ^ u) ≤ 53 + u := by
      refine bitLength_le_of_lt_pow ?_
      rw [Nat.pow_add]
      exact Nat.mul_lt_mul_of_pos_right hlt (Nat.pow_pos (by decide))
    -- a significand without its first bit stands at the lowest place only
    rcases h.2.1 with hm | rfl
    · have hm : 2 ^ 52 ≤ m := hm
      have hge : 52 + u < bitLength (m * 2 ^ u) := by
        refine bitLength_lt_of_pow_le ?_
        rw [Nat.pow_add]
        exact Nat.mul_le_mul_right _ hm
      omega
    · omega
  have hr : roundQuot (m * 2 ^ u) (1 * Nat.pow 2 u) = m := by
    rw [Nat.one_mul, Nat.pow_eq]
    exact roundQuot_mul_self m (Nat.pow_pos (by decide))
  have hne : m ≠ Nat.pow 2 53 := Nat.ne_of_lt hlt
  simp only [ofScaled, Nat.div_one, hu, hr, hne, if_false, ofFields, h, dif_pos]

theorem exact_eq (m u : Nat) {s : Nat} (hs : s = 1074) :
    exact m u = ⟨m * 2 ^ u * 5 ^ s, -(s : Int)⟩ := by
  unfold exact
  rw [Decimal.mk.injEq]
  refine ⟨?_, by omega⟩
  rw [← hs, Nat.pow_eq, Nat.pow_eq]

/-- The exact value of a double is read as that double. -/
theorem ofDecimal_exact (negative : Bool) {m u : Nat} (h : Canonical m u) :
    ofDecimal negative (exact m u).digits (exact m u).exponent = .finite negative m u h := by
  obtain ⟨s, hs⟩ : ∃ s, s = 1074 := ⟨_, rfl⟩
  have hten : 5 ^ s * 2 ^ s = 10 ^ s := (Nat.mul_pow 5 2 s).symm
  rw [exact_eq m u hs, ofDecimal_eq_ofRatio, Int.neg_neg, Int.toNat_natCast, Int.toNat_neg_natCast,
    Nat.pow_zero, Nat.mul_one, ofRatio, scale_eq hs, Nat.mul_assoc, hten, ← Nat.one_mul (10 ^ s),
    ← Nat.mul_assoc, Nat.mul_one, ofScaled_mul_right negative _ _ (Nat.pow_pos (by decide)),
    ofScaled_canonical]

/-- The sign of a result is the sign that is given, and the fields do not depend on it. -/
theorem ofDecimal_fields (digits : Nat) (exponent : Int) :
    ∃ m u, ∀ negative, ofDecimal negative digits exponent = ofFields negative m u := by
  simp only [ofDecimal_eq_ofRatio, ofRatio, ofScaled]
  split
  · exact ⟨_, _, fun _ => rfl⟩
  · exact ⟨_, _, fun _ => rfl⟩

theorem ofDecimal_of_false {digits m u : Nat} {exponent : Int} (h : Canonical m u)
    (hf : ofDecimal false digits exponent = ofFields false m u) (negative : Bool) :
    ofDecimal negative digits exponent = .finite negative m u h := by
  obtain ⟨m', u', hall⟩ := ofDecimal_fields digits exponent
  rw [hall] at hf ⊢
  -- fields that are not canonical round to an infinity, which is no finite double
  by_cases hc : Canonical m' u'
  · simp only [ofFields, h, hc, dif_pos, finite.injEq, true_and] at hf ⊢
    exact hf
  · simp [ofFields, h, hc] at hf

/-! ## Shortest digits -/

theorem nearestAccepted_reads {reads : Decimal → Bool} {n d : Nat} {e : Int} {x : Decimal}
    (h : nearestAccepted reads n d e = some x) : reads x := by
  simp only [nearestAccepted] at h
  split at h
  next hb =>
    rw [Bool.and_eq_true] at hb
    split at h
    · cases h; exact hb.1
    split at h
    · cases h; exact hb.2
    split at h
    · cases h; exact hb.1
    · cases h; exact hb.2
  split at h
  next hl => cases h; exact hl
  split at h
  next hr => cases h; exact hr
  · cases h

/-- What is found is accepted: the search gives no candidate that it did not test. -/
theorem firstAccepted_reads {reads : Decimal → Bool} {n d : Nat} {top : Int} {left : Nat}
    {x : Decimal} (h : firstAccepted reads n d top left = some x) : reads x := by
  induction left with
  | zero => simp [firstAccepted] at h
  | succ left ih =>
    unfold firstAccepted at h
    split at h
    next y hy =>
      cases h
      exact nearestAccepted_reads hy
    next => exact ih h

/-- The shortest digits of a double are read as that double. -/
theorem ofDecimal_shortest (negative : Bool) {m u : Nat} (h : Canonical m u) :
    ofDecimal negative (shortest m u).digits (shortest m u).exponent = .finite negative m u h := by
  simp only [shortest]
  cases hx : firstAccepted (fun x : Decimal => ofDecimal false x.digits x.exponent ==
      ofFields false m u) (m * Nat.pow 2 u) scale (magnitude (m * Nat.pow 2 u) scale) 17 with
  | none => exact ofDecimal_exact negative h
  | some x => exact ofDecimal_of_false h (eq_of_beq (firstAccepted_reads hx)) negative

end FunctionManual.Binary64
