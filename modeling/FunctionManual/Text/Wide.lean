import FunctionManual.Text.Utf8

/-!
# Texts in units of two or four bytes

* `Layout.detect?`: the layout that the first bytes show, and the bytes of its mark.
* `decode`: the text of well-formed units, or the first flaw with its place.

A surrogate that stands alone is read as U+FFFD: neither is a character of any notation.
-/

namespace FunctionManual.Text.Wide

/-- A unit has four bytes or two, and begins with its highest or its lowest byte. -/
structure Layout where
  long : Bool
  highFirst : Bool
  deriving DecidableEq, Repr

namespace Layout

/-- The number of bytes of a unit. -/
def width (l : Layout) : Nat := if l.long then 4 else 2

theorem width_pos (l : Layout) : 0 < l.width := by
  unfold width
  split <;> decide

/-- The name of a layout. -/
def name (l : Layout) : String :=
  (if l.long then "utf-32" else "utf-16") ++ (if l.highFirst then "-be" else "-le")

/-- The layout of bytes that begin with its mark, or whose first character is ASCII and therefore
shows a zero byte; beside it stands the length of the mark. -/
def detect? : List UInt8 → Option (Layout × Nat)
  | 0xFF :: 0xFE :: 0 :: 0 :: _ => some (⟨true, false⟩, 4)
  | 0 :: 0 :: 0xFE :: 0xFF :: _ => some (⟨true, true⟩, 4)
  | 0xFF :: 0xFE :: _ => some (⟨false, false⟩, 2)
  | 0xFE :: 0xFF :: _ => some (⟨false, true⟩, 2)
  | 0 :: b :: _ :: _ :: _ => some (⟨b = 0, true⟩, 0)
  | _ :: 0 :: c :: d :: _ => some (⟨c = 0 && d = 0, false⟩, 0)
  | [0, _] => some (⟨false, true⟩, 0)
  | [_, 0] => some (⟨false, false⟩, 0)
  | _ => none

/-- The value of a unit. -/
def value (l : Layout) (unit : List UInt8) : Nat :=
  (if l.highFirst then unit else unit.reverse).foldl (fun n b => n * 256 + b.toNat) 0

end Layout

/-- Why bytes are no text of a layout. -/
inductive Flaw
  | truncated
  | tooLarge
  deriving DecidableEq, Repr

/-- The wording of a flaw. -/
def Flaw.reason : Flaw → String
  | .truncated => "truncated data"
  | .tooLarge => "code point not in range(0x110000)"

/-- A flaw of the bytes `covered`, the first of which stands at `start`. -/
structure Error where
  layout : Layout
  flaw : Flaw
  covered : List UInt8
  start : Nat
  deriving DecidableEq, Repr

/-- The wording of a flaw and its place. -/
def Error.message (e : Error) : String :=
  let place :=
    match e.covered with
    | [b] => s!"byte 0x{String.ofList (hexDigits 2 b.toNat)} in position {e.start}"
    | bytes => s!"bytes in position {e.start}-{e.start + bytes.length - 1}"
  s!"'{e.layout.name}' codec can't decode {place}: {e.flaw.reason}"

/-- The values of the units of bytes whose first stands at `start`; a value past the last character
is a flaw, and so are bytes too few for a unit. -/
def readUnits (l : Layout) (start : Nat) (bytes : List UInt8) : Except Error (List Nat) :=
  let unit := bytes.take l.width
  let n := l.value unit
  if l.width ≤ bytes.length then
    if 0x110000 ≤ n then .error ⟨l, .tooLarge, unit, start⟩
    else (readUnits l (start + l.width) (bytes.drop l.width)).map (n :: ·)
  else if bytes.isEmpty then .ok []
  else .error ⟨l, .truncated, unit, start⟩
termination_by bytes.length
decreasing_by
  have := l.width_pos
  simp only [List.length_drop]
  omega

/-- The characters of units of two bytes; a high surrogate and a low one make one character. -/
def joinPairs : List Nat → List Char
  | high :: low :: rest =>
    if 0xD800 ≤ high && high < 0xDC00 && 0xDC00 ≤ low && low < 0xE000 then
      Char.ofNat (0x10000 + (high - 0xD800) * 1024 + (low - 0xDC00)) :: joinPairs rest
    else single high :: joinPairs (low :: rest)
  | [n] => [single n]
  | [] => []
where
  /-- The character of one unit. -/
  single (n : Nat) : Char := if 0xD800 ≤ n && n < 0xE000 then Utf8.replacement else Char.ofNat n

/-- The text of bytes in a layout, of which the first `mark` are its mark. -/
def decode (l : Layout) (mark : Nat) (bytes : List UInt8) : Except Error String :=
  (readUnits l mark (bytes.drop mark)).map fun units =>
    String.ofList (if l.long then units.map joinPairs.single else joinPairs units)

end FunctionManual.Text.Wide
