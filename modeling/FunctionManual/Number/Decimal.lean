import FunctionManual.Number.Binary64

/-!
# Doubles as texts

* `Binary64.shortest`: the fewest decimal digits that read back, the nearest such digits, and of
  two equally near the even ones.
* `Binary64.text`: positional from `1e-4` up to `1e16`, scientific elsewhere; a whole number keeps
  one zero behind the point.
* `Binary64.brief`: six significant digits, trailing zeros dropped.
* `Binary64.read`: a sign, digits of any script with single underscores, a fraction, an exponent;
  or a name of infinity or NaN; blanks around.
-/

namespace FunctionManual.Binary64

open FunctionManual.Text

/-! ## Shortest digits -/

/-- `digits * 10 ^ exponent`. -/
structure Decimal where
  digits : Nat
  exponent : Int
  deriving DecidableEq, Repr

/-- The number of decimal digits of `n`. -/
def decimalLength (n : Nat) : Nat := (toString n).length

/-- `n / d / 10 ^ e` as a fraction. -/
def scaleDown (n d : Nat) (e : Int) : Nat × Nat :=
  match e with
  | .ofNat k => (n, d * Nat.pow 10 k)
  | .negSucc k => (n * Nat.pow 10 (k + 1), d)

/-- The exponent `k` with `10 ^ (k - 1) ≤ n / d < 10 ^ k`. -/
def magnitude (n d : Nat) : Int :=
  if n / d = 0 then
    -- the quotient below one: count the zeros behind the point
    let k := decimalLength (d / n)
    if n * Nat.pow 10 (k - 1) ≥ d then -((k - 1 : Nat) : Int) + 1 else -(k : Int) + 1
  else decimalLength (n / d)

/-- The better of the two neighbours of `n / d` on the grid `10 ^ e` among those that `reads`
accepts. -/
def nearestAccepted (reads : Decimal → Bool) (n d : Nat) (e : Int) : Option Decimal :=
  let (a, b) := scaleDown n d e
  let q := a / b
  let r := a % b
  let low := reads ⟨q, e⟩
  let high := reads ⟨q + 1, e⟩
  if low && high then
    if 2 * r < b then some ⟨q, e⟩
    else if b < 2 * r then some ⟨q + 1, e⟩
    else if q % 2 = 0 then some ⟨q, e⟩ else some ⟨q + 1, e⟩
  else if low then some ⟨q, e⟩
  else if high then some ⟨q + 1, e⟩
  else none

/-- The first grid, from one digit to seventeen, on which a neighbour is accepted. -/
def firstAccepted (reads : Decimal → Bool) (n d : Nat) (top : Int) : Nat → Option Decimal
  | 0 => none
  | left + 1 =>
    match nearestAccepted reads n d (top - (17 - left : Nat)) with
    | some x => some x
    | none => firstAccepted reads n d top left

/-- The exact decimal value of a finite double. -/
def exact (m u : Nat) : Decimal := ⟨m * Nat.pow 2 u * Nat.pow 5 1074, -1074⟩

/-- The shortest decimal that reads back as the double with these fields. -/
def shortest (m u : Nat) : Decimal :=
  let n := m * Nat.pow 2 u
  let reads (x : Decimal) : Bool := ofDecimal false x.digits x.exponent == ofFields false m u
  (firstAccepted reads n scale (magnitude n scale) 17).getD (exact m u)

/-! ## Layout -/

/-- The digits of a decimal without trailing zeros, and the place of its point: the value is
`0.digits * 10 ^ point`. -/
def significant (x : Decimal) : List Char × Int :=
  let ds := (toString x.digits).toList
  let trimmed := (ds.reverse.dropWhile (· = '0')).reverse
  (trimmed, x.exponent + ds.length)

/-- An exponent with its sign and at least two digits. -/
def exponentText (e : Int) : List Char :=
  let ds := (toString e.natAbs).toList
  (if e < 0 then '-' else '+') :: (if ds.length < 2 then '0' :: ds else ds)

/-- Digits with a point behind the first, and the exponent. -/
def scientific (ds : List Char) (point : Int) : List Char :=
  let lead := match ds with
    | [] => ['0']
    | [d] => [d]
    | d :: rest => d :: '.' :: rest
  lead ++ 'e' :: exponentText (point - 1)

/-- Digits with zeros and a point in place; `whole` follows a number without a fraction. -/
def positional (ds : List Char) (point : Int) (whole : List Char) : List Char :=
  if point ≤ 0 then '0' :: '.' :: (List.replicate (-point).toNat '0' ++ ds)
  else
    let p := point.toNat
    if ds.length ≤ p then ds ++ List.replicate (p - ds.length) '0' ++ whole
    else ds.take p ++ '.' :: ds.drop p

/-- The text of a double. -/
def text (x : Binary64) : String :=
  match x with
  | .nan => "nan"
  | .infinite negative => if negative then "-inf" else "inf"
  | .finite negative m u _ =>
    let body :=
      if m = 0 then "0.0".toList
      else
        let (ds, point) := significant (shortest m u)
        if -4 < point ∧ point ≤ 16 then positional ds point ['.', '0'] else scientific ds point
    String.ofList (if negative then '-' :: body else body)

/-- The text of a double with at most six significant digits. -/
def brief (x : Binary64) : String :=
  match x with
  | .nan => "nan"
  | .infinite negative => if negative then "-inf" else "inf"
  | .finite negative m u _ =>
    let body :=
      if m = 0 then ['0']
      else
        let n := m * Nat.pow 2 u
        let e := magnitude n scale - 6
        let (a, b) := scaleDown n scale e
        let (ds, point) := significant ⟨roundQuot a b, e⟩
        if -4 < point ∧ point ≤ 6 then positional ds point [] else scientific ds point
    String.ofList (if negative then '-' :: body else body)

/-! ## Reading -/

/-- An underscore may stand only between two digits; `none` when one stands elsewhere. -/
def dropUnderscores (afterDigit : Bool) : List Char → Option (List Char)
  | [] => some []
  | c :: rest =>
    if c = '_' then
      match rest with
      | d :: _ => if afterDigit && isDecimal d then dropUnderscores false rest else none
      | [] => none
    else (dropUnderscores (isDecimal c) rest).map (c :: ·)

/-- The values of leading decimal digits, and what follows. -/
def spanDigits : List Char → List Nat × List Char
  | [] => ([], [])
  | c :: rest =>
    match decimalValue? c with
    | some d => let (ds, r) := spanDigits rest; (d :: ds, r)
    | none => ([], c :: rest)

/-- A fraction: a point and digits, or nothing. -/
def spanFraction : List Char → List Nat × List Char
  | '.' :: rest => spanDigits rest
  | s => ([], s)

/-- An exponent: `e`, an optional sign and digits; `none` when digits are missing. -/
def readExponent : List Char → Option Int
  | [] => some 0
  | c :: rest =>
    if c = 'e' ∨ c = 'E' then
      let (negative, body) := Integer.takeSign rest
      match spanDigits body with
      | ([], _) => none
      | (ds, []) => some (Integer.signed negative (Integer.ofDigits ds))
      | _ => none
    else none

/-- Reads a decimal number without its sign. -/
def readUnsigned (negative : Bool) (s : List Char) : Option Binary64 :=
  let (whole, afterWhole) := spanDigits s
  let (fraction, afterFraction) := spanFraction afterWhole
  if whole.isEmpty && fraction.isEmpty then none
  else do
    let e ← readExponent afterFraction
    some (ofDecimal negative (Integer.ofDigits (whole ++ fraction)) (e - fraction.length))

/-- Reads a text as a double. -/
def read (s : String) : Option Binary64 := do
  let body ← dropUnderscores false (trimBy isNumberBlank s.toList)
  let (negative, unsigned) := Integer.takeSign body
  let word := String.ofList (unsigned.map Char.toLower)
  if word = "inf" ∨ word = "infinity" then some (.infinite negative)
  else if word = "nan" then some .nan
  else readUnsigned negative unsigned

end FunctionManual.Binary64
