import FunctionManual.Fault

/-!
# Time limits

* `TimeLimit`: a number of seconds after which an evaluation is given up.
* `TimeLimit.ofValue`: a limit is a positive number, and a truth value counts as one.
* `TimeLimit.wait`: a clock can wait only for a number of seconds in its range.
* `TimeLimit.exceededBy`: whether an evaluation took longer than a limit.
-/

namespace FunctionManual

/-- A number of seconds. -/
inductive TimeLimit
  | whole (seconds : Int)
  | fraction (seconds : Binary64)
  deriving DecidableEq

namespace TimeLimit

/-- The limit where none is given: five seconds. -/
def usual : TimeLimit := .fraction (.ofRatio false 5 1)

/-- The complaint about a number that is no limit. -/
def notPositive (v : Scalar) : Fault := .badValue s!"timeout must be positive, got {v.plain}"

/-- The limit that a value counts as. -/
def ofValue (v : Value) : Except Fault TimeLimit :=
  match v with
  | .scalar (.boolean b) => if b then .ok (.whole 1) else .error (notPositive (.boolean b))
  | .scalar (.integer i) => if i ≤ 0 then .error (notPositive (.integer i)) else .ok (.whole i)
  | .scalar (.float x) =>
    if x.isNonPositive then .error (notPositive (.float x)) else .ok (.fraction x)
  | w => .error (.badType
      s!"'<=' not supported between instances of '{w.longTypeWord}' and 'int'")

/-- A limit as a value. -/
def toValue : TimeLimit → Value
  | .whole i => .integer i
  | .fraction x => .scalar (.float x)

/-- The whole number of seconds from which on no clock counts. -/
def clockEnd : Nat := 9223372037

/-- The microseconds from which on no clock counts a number that is not whole. -/
def clockEndMicroseconds : Nat := 9223372036854776

/-- A limit in the smallest units of a double. -/
def scaled? : TimeLimit → Option Int
  | .whole i => some (i * Binary64.scale)
  | .fraction x => x.scaled?

/-- The fault of waiting for a number of seconds outside the range of the clock. -/
def wait : TimeLimit → Except Fault Unit
  | .whole i =>
    if clockEnd ≤ i then .error (.overflow "timestamp too large to convert to C _PyTime_t")
    else .ok ()
  | .fraction .nan => .error (.badValue "Invalid value NaN (not a number)")
  | .fraction x =>
    let last := Binary64.ofDecimal false clockEndMicroseconds (-6)
    match x.scaled?, last.scaled? with
    | some a, some b =>
      if b ≤ a then .error (.overflow "timestamp out of range for platform time_t") else .ok ()
    | _, _ => .error (.overflow "timestamp out of range for platform time_t")

/-- Whether an evaluation that took some milliseconds took longer than a limit. -/
def exceededBy (t : TimeLimit) (milliseconds : Nat) : Bool :=
  t.scaled?.any fun s => s * 1000 < (milliseconds : Int) * Binary64.scale

/-- A limit with at most six significant digits. -/
def brief : TimeLimit → String
  | .whole i => (Binary64.ofRatio (i < 0) i.natAbs 1).brief
  | .fraction x => x.brief

end TimeLimit

end FunctionManual
