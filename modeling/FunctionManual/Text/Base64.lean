import FunctionManual.Text.Utf8

/-!
# Base64

* `Base64.encode`: three bytes become four digits; the last group is filled up with equals signs.
* `Base64.decode`: the bytes of digits, or the first flaw.
* `Base64.toSafe`, `Base64.ofSafe`: the digits that need no escaping in addresses.
-/

namespace FunctionManual.Base64

/-- The digit of a value below sixty-four. -/
def digit (n : Nat) : Char :=
  if n < 26 then Char.ofNat (65 + n)
  else if n < 52 then Char.ofNat (71 + n)
  else if n < 62 then Char.ofNat (n - 4)
  else if n = 62 then '+' else '/'

/-- The value of a digit. -/
def digitValue? (c : Char) : Option Nat :=
  if 'A' ≤ c && c ≤ 'Z' then some (c.toNat - 65)
  else if 'a' ≤ c && c ≤ 'z' then some (c.toNat - 71)
  else if '0' ≤ c && c ≤ '9' then some (c.toNat + 4)
  else if c = '+' then some 62
  else if c = '/' then some 63
  else none

/-- The digits of bytes. -/
def encode : List UInt8 → List Char
  | [] => []
  | [a] =>
    let n := a.toNat * 65536
    [digit (n / 262144), digit (n / 4096 % 64), '=', '=']
  | [a, b] =>
    let n := a.toNat * 65536 + b.toNat * 256
    [digit (n / 262144), digit (n / 4096 % 64), digit (n / 64 % 64), '=']
  | a :: b :: c :: rest =>
    let n := a.toNat * 65536 + b.toNat * 256 + c.toNat
    digit (n / 262144) :: digit (n / 4096 % 64) :: digit (n / 64 % 64) :: digit (n % 64)
      :: encode rest

/-- The digits that stand for `+` and `/` in addresses. -/
def toSafe (c : Char) : Char := if c = '+' then '-' else if c = '/' then '_' else c

/-- The digits that `toSafe` replaces. -/
def ofSafe (c : Char) : Char := if c = '-' then '+' else if c = '_' then '/' else c

/-! ## Reading -/

/-- Why digits are refused. -/
inductive Flaw
  | notAscii
  | leadingPadding
  | dataAfterPadding
  | foreignCharacter
  | paddingInside
  | loneDigit (digits : Nat)
  | shortPadding
  deriving DecidableEq, Repr

/-- The wording of a flaw. -/
def Flaw.message : Flaw → String
  | .notAscii => "string argument should contain only ASCII characters"
  | .leadingPadding => "Leading padding not allowed"
  | .dataAfterPadding => "Excess data after padding"
  | .foreignCharacter => "Only base64 data is allowed"
  | .paddingInside => "Discontinuous padding not allowed"
  | .loneDigit n =>
    s!"Invalid base64-encoded string: number of data characters ({n}) cannot be 1 more " ++
      "than a multiple of 4"
  | .shortPadding => "Incorrect padding"

/-- A group of digits being read: how many there are, the bits that belong to no byte yet, the
equals signs behind the last digit, and whether there was an equals sign at all. -/
structure Group where
  digits : Nat := 0
  bits : Nat := 0
  pads : Nat := 0
  padded : Bool := false
  /-- The digits of all groups so far. -/
  count : Nat := 0

/-- A digit continues a group and may finish a byte. -/
def Group.add (g : Group) (value : Nat) : Group × List UInt8 :=
  let count := g.count + 1
  match g.digits with
  | 0 => (⟨1, value, 0, g.padded, count⟩, [])
  | 1 => (⟨2, value % 16, 0, g.padded, count⟩, [(g.bits * 4 + value / 16).toUInt8])
  | 2 => (⟨3, value % 4, 0, g.padded, count⟩, [(g.bits * 16 + value / 4).toUInt8])
  | _ => (⟨0, 0, 0, g.padded, count⟩, [(g.bits * 64 + value).toUInt8])

/-- The bytes of the digits behind a group. -/
def decodeFrom (g : Group) : List Char → Except Flaw (List UInt8)
  | [] =>
    if g.digits = 0 then .ok []
    else if g.digits = 1 then .error (.loneDigit g.count)
    else .error .shortPadding
  | c :: rest =>
    if c = '=' then
      if 2 ≤ g.digits then
        if 4 ≤ g.digits + (g.pads + 1) then
          if rest.isEmpty then .ok [] else .error .dataAfterPadding
        else decodeFrom { g with pads := g.pads + 1, padded := true } rest
      else decodeFrom { g with padded := true } rest
    else
      match digitValue? c with
      | none => .error .foreignCharacter
      | some value =>
        if g.padded then .error .paddingInside
        else
          let (g', bytes) := g.add value
          (decodeFrom g' rest).map (bytes ++ ·)

/-- The bytes of digits. -/
def decode (s : List Char) : Except Flaw (List UInt8) :=
  if s.any fun c => 128 ≤ c.toNat then .error .notAscii
  else if s.head? = some '=' then .error .leadingPadding
  else decodeFrom {} s

end FunctionManual.Base64
