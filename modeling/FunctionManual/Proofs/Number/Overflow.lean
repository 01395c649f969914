import FunctionManual.Proofs.Number.Numeral
import Mathlib.Tactic.Ring

/-!
# Numbers that are too large

* `Binary64.overflowBound`: the least number that is nearer to infinity than to any double.
* `Binary64.isFinite_ofRatio_iff`: a ratio rounds to a finite double just below that bound.
* `Numeral.Overflows`: the value of a numeral reaches the bound; `Numeral.value_cases`: it is read
  as infinity then, and as a finite double otherwise.
-/

namespace FunctionManual

namespace Binary64

/-! ## Rounding -/

theorem roundQuot_bounds (n d : Nat) : n / d ≤ roundQuot n d ∧ roundQuot n d ≤ n / d + 1 := by
  unfold roundQuot
  dsimp only
  split
  · omega
  · split
    · omega
    · split <;> omega

/-- What is halfway to an even number is rounded to it. -/
theorem lt_roundQuot_iff {n d k : Nat} (hd : 0 < d) (hk : k % 2 = 1) :
    k < roundQuot n d ↔ (2 * k + 1) * d ≤ 2 * n := by
  obtain ⟨hle, hge⟩ := roundQuot_bounds n d
  have hn : n / d * d + n % d = n := Nat.div_add_mod' n d
  have hr := Nat.mod_lt n hd
  have hmul : (2 * k + 1) * d = 2 * (k * d) + d := by rw [Nat.add_mul, Nat.mul_assoc, Nat.one_mul]
  rcases Nat.lt_trichotomy k (n / d) with hlt | heq | hgt
  · have := Nat.mul_le_mul_right d (Nat.succ_le_of_lt hlt)
    rw [Nat.succ_mul] at this
    exact iff_of_true (by omega) (by omega)
  · have hup : k < roundQuot n d ↔ d ≤ 2 * (n % d) := by
      unfold roundQuot
      dsimp only
      split
      · omega
      · split
        · omega
        · split <;> omega
    rw [hup, hmul, heq]
    omega
  · have := Nat.mul_le_mul_right d (Nat.succ_le_of_lt hgt)
    rw [Nat.succ_mul] at this
    exact iff_of_false (by omega) (by omega)

/-! ## The bound -/

/-- The least number that rounds to infinity: halfway between the largest double and the power of
two behind it. -/
def overflowBound : Nat := (2 ^ 54 - 1) * 2 ^ 970

theorem isFinite_ofFields_iff (negative : Bool) (m u : Nat) :
    (ofFields negative m u).isFinite ↔ Canonical m u := by
  unfold ofFields
  split
  next h => exact iff_of_true rfl h
  next h => exact iff_of_false Bool.false_ne_true h

/-- A quotient has as many digits as a full mantissa in the unit that its size asks for; it has fewer
only where the unit is the smallest. -/
theorem quotient_bounds {q u : Nat} (hu : u = bitLength q - 53) :
    q < 2 ^ (53 + u) ∧ (0 < u → 2 ^ (52 + u) ≤ q) := by
  constructor
  · exact Nat.lt_of_lt_of_le (lt_pow_bitLength q) (Nat.pow_le_pow_right (by decide) (by omega))
  · intro hpos
    have hne : q ≠ 0 := by
      rintro rfl
      simp [bitLength] at hu
      omega
    exact Nat.le_trans (Nat.pow_le_pow_right (by decide) (by omega)) (pow_bitLength_le hne)

/-- The mantissa of a ratio, in the unit that its size asks for, is at most one past the largest; it
is a full one unless the unit is the smallest. -/
theorem mantissa_bounds {n d u : Nat} (hu : u = bitLength (n / d) - 53) :
    roundQuot n (d * 2 ^ u) ≤ 2 ^ 53 ∧ (2 ^ 52 ≤ roundQuot n (d * 2 ^ u) ∨ u = 0) := by
  obtain ⟨hle, hge⟩ := roundQuot_bounds n (d * 2 ^ u)
  obtain ⟨hlt, hfull⟩ := quotient_bounds hu
  rw [← Nat.div_div_eq_div_mul] at hle hge
  have hpos : 0 < 2 ^ u := Nat.pow_pos (by decide)
  constructor
  · rw [Nat.pow_add] at hlt
    have := (Nat.div_lt_iff_lt_mul hpos).mpr hlt
    omega
  · rcases Nat.eq_zero_or_pos u with hz | hu'
    · exact .inr hz
    · have hb := hfull hu'
      rw [Nat.pow_add] at hb
      exact .inl (Nat.le_trans ((Nat.le_div_iff_mul_le hpos).mpr hb) hle)

/-- A ratio of smallest units rounds to a finite double when neither its unit nor its mantissa is
past the range. -/
theorem isFinite_ofScaled_iff (negative : Bool) {n d u : Nat}
    (hu : u = bitLength (n / d) - 53) :
    (ofScaled negative n d).isFinite ↔
      u < 2045 ∨ u = 2045 ∧ ¬ 2 ^ 53 - 1 < roundQuot n (d * 2 ^ u) := by
  obtain ⟨hle, hfull⟩ := mantissa_bounds hu
  rw [ofScaled, ← hu]
  simp only [Nat.pow_eq]
  generalize roundQuot n (d * 2 ^ u) = m at hle hfull
  split
  next hm =>
    rw [isFinite_ofFields_iff]
    simp only [Canonical, Nat.pow_eq]
    omega
  next hm =>
    rw [isFinite_ofFields_iff]
    simp only [Canonical, Nat.pow_eq]
    omega

/-- The bound of ratios, in smallest units: halfway from the largest mantissa to the next, in the
largest unit. -/
theorem overflowBound_le_iff {n d e : Nat} (he : e = 2045) :
    overflowBound * d ≤ n ↔ (2 * (2 ^ 53 - 1) + 1) * (d * 2 ^ e) ≤ 2 * (n * scale) := by
  -- the exponents have names, so that no step computes the powers
  obtain ⟨s, hs⟩ : ∃ s, s = 1074 := ⟨_, rfl⟩
  obtain ⟨k, hk⟩ : ∃ k, k = 970 := ⟨_, rfl⟩
  have hbound : overflowBound = (2 ^ 54 - 1) * 2 ^ k := by rw [overflowBound, hk]
  have hpos : 0 < 2 ^ s * 2 := Nat.mul_pos (Nat.pow_pos (by decide)) (by decide)
  have hleft : (2 ^ 54 - 1) * 2 ^ k * d * (2 ^ s * 2) = (2 ^ 54 - 1) * (d * 2 ^ e) := by
    rw [show e = k + (s + 1) by omega, Nat.pow_add, Nat.pow_succ]
    ring
  have hright : n * (2 ^ s * 2) = 2 * (n * 2 ^ s) := by ring
  have hodd : 2 ^ 54 - 1 = 2 * (2 ^ 53 - 1) + 1 := by decide
  rw [hbound, scale_eq hs, ← Nat.mul_le_mul_right_iff hpos, hleft, hright, hodd]

/-- A ratio rounds to a finite double just below the bound. -/
theorem isFinite_ofRatio_iff (negative : Bool) {n d : Nat} (hd : 0 < d) :
    (ofRatio negative n d).isFinite ↔ n < overflowBound * d := by
  obtain ⟨e, he⟩ : ∃ e, e = 2045 := ⟨_, rfl⟩
  obtain ⟨u, hu⟩ : ∃ u, u = bitLength (n * scale / d) - 53 := ⟨_, rfl⟩
  have hbound : n < overflowBound * d ↔
      ¬ (2 * (2 ^ 53 - 1) + 1) * (d * 2 ^ e) ≤ 2 * (n * scale) := by
    rw [← overflowBound_le_iff he, Nat.not_le]
  rw [ofRatio, isFinite_ofScaled_iff negative hu, hbound, ← he]
  have hscaled (k : Nat) : 2 ^ (k + e) * d = 2 ^ k * (d * 2 ^ e) := by rw [Nat.pow_add]; ring
  obtain ⟨hbelow, habove⟩ := quotient_bounds hu
  rcases Nat.lt_trichotomy u e with hlt | heq | hgt
  · have hq : n * scale / d < 2 ^ (52 + e) :=
      Nat.lt_of_lt_of_le hbelow (Nat.pow_le_pow_right (by decide) (by omega))
    have hn := (Nat.div_lt_iff_lt_mul hd).mp hq
    rw [hscaled] at hn
    exact iff_of_true (.inl hlt) (by omega)
  · have hD : 0 < d * 2 ^ e := Nat.mul_pos hd (Nat.pow_pos (by decide))
    rw [← lt_roundQuot_iff hD (by decide), heq]
    simp only [Nat.lt_irrefl, true_and, false_or]
  · have hq : 2 ^ (53 + e) ≤ n * scale / d :=
      Nat.le_trans (Nat.pow_le_pow_right (by decide) (by omega)) (habove (by omega))
    have hn := (Nat.le_div_iff_mul_le hd).mp hq
    rw [hscaled] at hn
    exact iff_of_false (by omega) (by omega)

end Binary64

namespace Numeral

/-- The value of a numeral reaches the bound past which numbers round to infinity. -/
def Overflows (n : Numeral) : Prop :=
  let exponent := n.shift - n.fraction.length
  Binary64.overflowBound * 10 ^ (-exponent).toNat ≤
    digitsValue (n.whole ++ n.fraction) * 10 ^ exponent.toNat

/-- A numeral is read as a finite double, unless its value is too large; then it is read as the
infinity of its sign. -/
theorem value_cases (n : Numeral) :
    ¬ n.Overflows ∧ n.value.isFinite ∨ n.Overflows ∧ n.value = .infinite n.negative := by
  have hfinite : n.value.isFinite ↔ ¬ n.Overflows := by
    rw [value, Binary64.ofDecimal_eq_ofRatio,
      Binary64.isFinite_ofRatio_iff n.negative (Nat.pow_pos (by decide)), Overflows, Nat.not_le]
  by_cases ho : n.Overflows
  · obtain ⟨m, u, hall⟩ := Binary64.ofDecimal_fields (digitsValue (n.whole ++ n.fraction))
      (n.shift - n.fraction.length)
    have hvalue : n.value = .ofFields n.negative m u := hall n.negative
    refine .inr ⟨ho, ?_⟩
    rw [hvalue] at hfinite ⊢
    unfold Binary64.ofFields at hfinite ⊢
    split
    next h =>
      rw [dif_pos h] at hfinite
      exact absurd ho (hfinite.mp rfl)
    next => rfl
  · exact .inl ⟨ho, hfinite.mpr ho⟩

end Numeral

end FunctionManual
