import FunctionManual.Number.Integer

/-!
# Double precision numbers

A finite double is `mantissa * 2 ^ unit / 2 ^ 1074`, so all of its arithmetic is exact arithmetic
on natural numbers.

* `Binary64`: the two infinities, one NaN, and the finite doubles in their canonical form.
* `ofRatio`, `ofDecimal`: the nearest double, ties to the even mantissa.
* `equals`, `equalsInt`: numeric equality; zeros are equal, NaN differs from itself.
* `truncate`: the integer part, toward zero.
-/

namespace FunctionManual

/-- The mantissa and unit of a finite double: below the smallest unit the mantissa is full. -/
def Binary64.Canonical (mantissa unit : Nat) : Prop :=
  mantissa < Nat.pow 2 53 ∧ (Nat.pow 2 52 ≤ mantissa ∨ unit = 0) ∧ unit ≤ 2045

instance (m u : Nat) : Decidable (Binary64.Canonical m u) :=
  inferInstanceAs (Decidable (_ ∧ _ ∧ _))

/-- A double precision number. -/
inductive Binary64
  | nan
  | infinite (negative : Bool)
  | finite (negative : Bool) (mantissa unit : Nat) (canonical : Binary64.Canonical mantissa unit)
  deriving DecidableEq

namespace Binary64

/-- Zero, of either sign. -/
def zero (negative : Bool) : Binary64 := .finite negative 0 0 (by decide)

/-- The finite double with these fields; fields past the range are an infinity. -/
def ofFields (negative : Bool) (mantissa unit : Nat) : Binary64 :=
  if h : Canonical mantissa unit then .finite negative mantissa unit h else .infinite negative

/-- The number of smallest units in one. -/
def scale : Nat := Nat.pow 2 1074

/-- Neither an infinity nor NaN. -/
def isFinite : Binary64 → Bool
  | .finite .. => true
  | _ => false

/-! ## Rounding -/

/-- The quotient rounded to the nearest integer, a half to the even neighbour. -/
def roundQuot (n d : Nat) : Nat :=
  let q := n / d
  let r := n % d
  if 2 * r < d then q else if d < 2 * r then q + 1 else if q % 2 = 0 then q else q + 1

/-- The number of binary digits of `n`. -/
def bitLength (n : Nat) : Nat := if n = 0 then 0 else Nat.log2 n + 1

/-- The double nearest to `n / d` smallest units. -/
def ofScaled (negative : Bool) (n d : Nat) : Binary64 :=
  let unit := bitLength (n / d) - 53
  let m := roundQuot n (d * Nat.pow 2 unit)
  if m = Nat.pow 2 53 then ofFields negative (Nat.pow 2 52) (unit + 1) else ofFields negative m unit

/-- The double nearest to `n / d`. -/
def ofRatio (negative : Bool) (n d : Nat) : Binary64 := ofScaled negative (n * scale) d

/-- The double nearest to `digits * 10 ^ exponent`; magnitudes far outside the range are settled
before any power is computed. -/
def ofDecimal (negative : Bool) (digits : Nat) (exponent : Int) : Binary64 :=
  if digits = 0 then zero negative
  else
    let places : Int := (bitLength digits : Int) / 4
    if exponent + places > 400 then .infinite negative
    else if exponent + (bitLength digits : Int) < -400 then zero negative
    else match exponent with
      | .ofNat e => ofRatio negative (digits * Nat.pow 10 e) 1
      | .negSucc e => ofRatio negative digits (Nat.pow 10 (e + 1))

/-! ## Comparing -/

/-- The value of a finite double in smallest units. -/
def scaled? : Binary64 → Option Int
  | .finite negative m u _ => some (Integer.signed negative (m * Nat.pow 2 u))
  | _ => none

/-- Numeric equality. -/
def equals (x y : Binary64) : Bool :=
  match x, y with
  | .infinite s, .infinite t => s == t
  | .finite .., .finite .. => x.scaled? == y.scaled?
  | _, _ => false

/-- Numeric equality with an integer. -/
def equalsInt (x : Binary64) (i : Int) : Bool := x.scaled? == some (i * scale)

/-- At most zero. -/
def isNonPositive : Binary64 → Bool
  | .nan => false
  | .infinite negative => negative
  | .finite negative m _ _ => negative || m == 0

/-- The integer part, toward zero. -/
def truncate? : Binary64 → Option Int
  | .finite negative m u _ => some (Integer.signed negative (m * Nat.pow 2 u / scale))
  | _ => none

end Binary64

end FunctionManual
