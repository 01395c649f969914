import FunctionManual.Standard.Builtin
import FunctionManual.Text.Blank

/-!
# Coercion to integers

* `toInt`: the integer that a value counts as.
-/

namespace FunctionManual.Standard

open FunctionManual.Text

/-- The doc of `to_int`. -/
def toInt.doc : FunctionDoc where
  identifier := "to_int"
  summary := "Coerce a value to an integer."
  description := "Coerces the `value` into an integer."
  category := some .coerce
  parameters := [
    { name := "value",
      type := some (.oneOf [
                     .primitive .integer, .primitive .float, .primitive .boolean,
                     .primitive .string, .primitive .timestamp, .primitive .null]),
      description := "The value to convert to an integer." }]
  returns := some
    { type := some (.primitive .integer),
      description := "The integer value of `value`.",
      rules := [
        "If `value` is an integer, it is returned unchanged.",
        "If `value` is a float, it is truncated toward zero.",
        ("If `value` is a string, it must be the string representation of an integer or " ++
         "else an error is raised."),
        "If `value` is a Boolean, `0` is returned for `false` and `1` is returned for `true`.",
        "If `value` is a timestamp, a Unix timestamp (in seconds) is returned.",
        "If `value` is null, `0` is returned."] }
  failureReasons := [
    "`value` is a string but the text is not an integer.",
    "`value` is a float that is not finite."]
  examples := [
    { title := some "Coerce to an int (string)",
      source := "to_int!(\"2\")",
      expected := some (.ok (.integer 2)) },
    { title := some "Coerce to an int (float)",
      source := "to_int!(5.6)",
      expected := some (.ok (.integer 5)) },
    { title := some "Coerce to an int (negative float)",
      source := "to_int!(-5.6)",
      expected := some (.ok (.integer (-5))) },
    { title := some "Coerce to an int (boolean)",
      source := "to_int!(true)",
      expected := some (.ok (.integer 1)) },
    { title := some "Coerce to an int (null)",
      source := "to_int!(null)",
      expected := some (.ok (.integer 0)) },
    { title := some "Invalid string",
      source := "to_int!(\"hi\")",
      expected := some (.error ⟨"function_call", ""⟩) }]

/-- The integer that a scalar counts as, or why it counts as none; containers and foreign values are
left to the caller. -/
def integerOf? : Scalar → Option (Except String Int)
  | .null => some (.ok 0)
  | .boolean b => some (.ok (if b then 1 else 0))
  | .integer i => some (.ok i)
  | .float x =>
    match x.truncate? with
    | some i => some (.ok i)
    | none => some (.error s!"cannot convert {x.text} to integer")
  | .timestamp t => some (.ok t.unixSeconds)
  | .string s =>
    match Integer.read (strip s) with
    | .ok i => some (.ok i)
    | .error _ => some (.error s!"invalid integer {quoted s}")
  | _ => none

/-- The integer that a value counts as. -/
def toInt : Builtin where
  doc := toInt.doc
  word := "to_int"
  required := ["value"]
  body := fun a => do
    let d := a.get "value"
    let v ← Action.look fun s => s.view d
    let found := match v with
      | .scalar x => integerOf? x
      | _ => none
    match found with
    | some (.ok i) => return .scalar (.integer i)
    | some (.error reason) => Action.refuse reason
    | none => do
      let kind ← Action.kindName d
      Action.refuse s!"cannot convert {kind} to integer"

end FunctionManual.Standard
