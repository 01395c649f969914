import FunctionManual.Text.Quoted

/-!
# UTF-8

Bytes are read one at a time by a state that remembers an unfinished character.

* `encode`: the bytes of a text.
* `decode`: the text of well-formed bytes, or the first flaw with its place.
* `decodeLossy`: every flaw becomes one U+FFFD and reading goes on behind it.
* `maskSurrogates`: the three bytes of a surrogate become those of U+FFFD.
-/

namespace FunctionManual.Text.Utf8

/-- Why bytes are no UTF-8. -/
inductive Flaw
  | invalidStart
  | invalidContinuation
  | unexpectedEnd
  deriving DecidableEq, Repr

/-- The wording of a flaw. -/
def Flaw.reason : Flaw → String
  | .invalidStart => "invalid start byte"
  | .invalidContinuation => "invalid continuation byte"
  | .unexpectedEnd => "unexpected end of data"

/-- A flaw that covers `length` bytes from `start`; `first` is the byte there. -/
structure Error where
  flaw : Flaw
  first : UInt8
  start : Nat
  length : Nat
  deriving DecidableEq, Repr

/-- The wording of a flaw and its place. -/
def Error.message (e : Error) : String :=
  if e.length = 1 then
    let byte := String.ofList (hexDigits 2 e.first.toNat)
    s!"'utf-8' codec can't decode byte 0x{byte} in position {e.start}: {e.flaw.reason}"
  else
    let last := e.start + e.length - 1
    s!"'utf-8' codec can't decode bytes in position {e.start}-{last}: {e.flaw.reason}"

/-! ## Writing -/

/-- The bytes of one character. -/
def encodeChar (c : Char) : List UInt8 :=
  let n := c.toNat
  if n < 0x80 then [n.toUInt8]
  else if n < 0x800 then [(0xC0 + n / 64).toUInt8, (0x80 + n % 64).toUInt8]
  else if n < 0x10000 then
    [(0xE0 + n / 4096).toUInt8, (0x80 + n / 64 % 64).toUInt8, (0x80 + n % 64).toUInt8]
  else
    [(0xF0 + n / 262144).toUInt8, (0x80 + n / 4096 % 64).toUInt8, (0x80 + n / 64 % 64).toUInt8,
      (0x80 + n % 64).toUInt8]

/-- The bytes of a text. -/
def encode (s : String) : List UInt8 := s.toList.flatMap encodeChar

/-! ## Reading -/

/-- A character whose first `taken` bytes are read: `missing` more must follow, the next of them
between `low` and `high`. -/
structure Pending where
  missing : Nat
  bits : Nat
  low : Nat
  high : Nat
  first : UInt8
  taken : Nat
  deriving DecidableEq, Repr

/-- What a byte begins. -/
inductive Start
  | char (c : Char)
  | opened (p : Pending)
  | invalid
  deriving DecidableEq, Repr

/-- What the byte `b` begins; overlong forms, surrogates and codes past the last character are
excluded by the range of the second byte. -/
def start (b : UInt8) : Start :=
  let n := b.toNat
  if n < 0x80 then .char (Char.ofNat n)
  else if n < 0xC2 then .invalid
  else if n < 0xE0 then .opened ⟨1, n - 0xC0, 0x80, 0xBF, b, 1⟩
  else if n < 0xF0 then
    .opened ⟨2, n - 0xE0, if n = 0xE0 then 0xA0 else 0x80, if n = 0xED then 0x9F else 0xBF, b, 1⟩
  else if n < 0xF5 then
    .opened ⟨3, n - 0xF0, if n = 0xF0 then 0x90 else 0x80, if n = 0xF4 then 0x8F else 0xBF, b, 1⟩
  else .invalid

/-- The outcome of giving a byte to an unfinished character. -/
inductive Advance
  | done (c : Char)
  | more (p : Pending)
  | refused
  deriving DecidableEq, Repr

/-- Gives the byte `b` to an unfinished character. -/
def Pending.advance (p : Pending) (b : UInt8) : Advance :=
  let n := b.toNat
  if p.low ≤ n ∧ n ≤ p.high then
    let bits := p.bits * 64 + (n - 0x80)
    if p.missing ≤ 1 then .done (Char.ofNat bits)
    else .more ⟨p.missing - 1, bits, 0x80, 0xBF, p.first, p.taken + 1⟩
  else .refused

/-- Reads `bytes`, whose first byte stands at `pos`. -/
def decodeFrom (pos : Nat) (pending : Option Pending) : List UInt8 → Except Error (List Char)
  | [] =>
    match pending with
    | none => .ok []
    | some p => .error ⟨.unexpectedEnd, p.first, pos - p.taken, p.taken⟩
  | b :: rest =>
    match pending with
    | none =>
      match start b with
      | .char c => (decodeFrom (pos + 1) none rest).map (c :: ·)
      | .opened p => decodeFrom (pos + 1) (some p) rest
      | .invalid => .error ⟨.invalidStart, b, pos, 1⟩
    | some p =>
      match p.advance b with
      | .done c => (decodeFrom (pos + 1) none rest).map (c :: ·)
      | .more q => decodeFrom (pos + 1) (some q) rest
      | .refused => .error ⟨.invalidContinuation, p.first, pos - p.taken, p.taken⟩

/-- The text of well-formed bytes. -/
def decode (bytes : List UInt8) : Except Error String :=
  (decodeFrom 0 none bytes).map String.ofList

/-- The character that stands for a flaw. -/
def replacement : Char := Char.ofNat 0xFFFD

/-- Reads `bytes` with every flaw replaced; a refused byte is read again as a start. -/
def decodeLossyFrom (pending : Option Pending) : List UInt8 → List Char
  | [] => if pending.isSome then [replacement] else []
  | b :: rest =>
    let fresh (before : List Char) : List Char :=
      match start b with
      | .char c => before ++ c :: decodeLossyFrom none rest
      | .opened p => before ++ decodeLossyFrom (some p) rest
      | .invalid => before ++ replacement :: decodeLossyFrom none rest
    match pending with
    | none => fresh []
    | some p =>
      match p.advance b with
      | .done c => c :: decodeLossyFrom none rest
      | .more q => decodeLossyFrom (some q) rest
      | .refused => fresh [replacement]

/-- The text of any bytes. -/
def decodeLossy (bytes : List UInt8) : String := String.ofList (decodeLossyFrom none bytes)

/-- Puts U+FFFD in the place of every surrogate. It has three bytes too, so the other flaws keep
their places. -/
def maskSurrogates : List UInt8 → List UInt8
  | 0xED :: b :: c :: rest =>
    if 0xA0 ≤ b && b ≤ 0xBF && 0x80 ≤ c && c ≤ 0xBF then
      encodeChar replacement ++ maskSurrogates rest
    else 0xED :: maskSurrogates (b :: c :: rest)
  | b :: rest => b :: maskSurrogates rest
  | [] => []

end FunctionManual.Text.Utf8
