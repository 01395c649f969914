import FunctionManual.Text.Case

/-!
# Characters that differ in case only

* `Regex.Case.fold`: the character that stands for all cases of a character.
* `Regex.Case.variants`: the characters that a pattern may name to match a given one.
* `Regex.Case.isCased`: whether case matters to a character.
-/

namespace FunctionManual.Regex.Case

open FunctionManual.Text

/-- Lower case characters with one upper case; each of a row matches the others. -/
def shared : List (List Nat) := [
  [0x69, 0x131], [0x73, 0x17F], [0xB5, 0x3BC], [0x345, 0x3B9, 0x1FBE], [0x390, 0x1FD3],
  [0x3B0, 0x1FE3], [0x3B2, 0x3D0], [0x3B5, 0x3F5], [0x3B8, 0x3D1], [0x3BA, 0x3F0],
  [0x3C0, 0x3D6], [0x3C1, 0x3F1], [0x3C2, 0x3C3], [0x3C6, 0x3D5], [0x432, 0x1C80],
  [0x434, 0x1C81], [0x43E, 0x1C82], [0x441, 0x1C83], [0x442, 0x1C84, 0x1C85], [0x44A, 0x1C86],
  [0x463, 0x1C87], [0xA64B, 0x1C88], [0x1E61, 0x1E9B], [0xFB05, 0xFB06]]

/-- The character that stands for all cases of `c`; under `ascii` only ASCII letters have cases. -/
def fold (ascii : Bool) (c : Char) : Char :=
  if ascii then c.toLower else foldCase c

/-- The characters with the same upper case as the lower case character `n`, itself first. -/
def siblings (n : Nat) : List Nat :=
  match shared.find? (·.contains n) with
  | some row => n :: row.filter (· ≠ n)
  | none => [n]

/-- The characters whose lower case is `n`. -/
def unfold (n : Nat) : List Nat :=
  let moved := lowerRuns.toList.filterMap fun r =>
    let c : Int := n - r.delta
    if r.first ≤ c && c ≤ r.last && (c - r.first) % r.step == 0 then some c.toNat else none
  let capital := if n < 128 then [(Char.ofNat n).toUpper.toNat] else []
  let dotted := if n = 0x69 then [0x130] else []
  n :: (capital ++ dotted ++ moved)

/-- The characters that match `c` when case is ignored. -/
def variants (ascii : Bool) (c : Char) : List Nat :=
  if ascii then [c.toNat, c.toLower.toNat, c.toUpper.toNat]
  else (siblings (foldCase c).toNat).flatMap unfold

/-- The code point that stands for all cases of a code point. -/
def foldCode (code : Nat) : Nat := (foldCase (Char.ofNat code)).toNat

/-- Whether a range has a character that has cases. -/
def rangeIsCased (ascii : Bool) (low high : Nat) : Bool :=
  if ascii then meets 65 90 || meets 97 122 else bicameralSet.meets low high
where
  /-- Whether the range meets another. -/
  meets (first last : Nat) : Bool := max low first ≤ min high last

/-- Whether a character has cases. -/
def isCased (ascii : Bool) (code : Nat) : Bool := rangeIsCased ascii code code

end FunctionManual.Regex.Case
