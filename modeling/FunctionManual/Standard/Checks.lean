import FunctionManual.Standard.Builtin

/-!
# Checks of kinds

* `boolean`: the value itself, if it is a truth value.
* `isInteger`, `isString`: whether a value has a kind.
-/

namespace FunctionManual.Standard

/-- The doc of `bool`. -/
def boolean.doc : FunctionDoc where
  identifier := "bool"
  summary := "Assert that a value is a Boolean."
  description :=
    ("Returns `value` if it is a Boolean, otherwise returns an error. This enables\nthe " ++
     "type checker to guarantee that the returned value is a Boolean and can be\nused in " ++
     "any function that expects a Boolean.")
  category := some .type
  parameters := [
    { name := "value", type := some (.primitive .any),
      description := "The value to check if it is a Boolean." }]
  returns := some
    { type := some (.primitive .boolean),
      description := "`value`, unchanged.",
      rules := [
        "Returns `value` if it's a Boolean.",
        "Raises an error if not a Boolean."] }
  failureReasons := [
    "`value` is not a Boolean."]
  examples := [
    { title := some "Valid Boolean",
      source := "bool!(false)",
      expected := some (.ok (.boolean false)) },
    { title := some "Invalid Boolean",
      source := "bool!(42)",
      expected :=
        some (.error ⟨"function_call", ("function call error for \"bool\" at (0:9): " ++
                                        "expected boolean, got integer")⟩) },
    { title := some "Valid Boolean from path",
      source := ". = \x7b \"value\": true \x7d\nbool!(.value)",
      expected := some (.ok (.boolean true)) },
    { title := some "Boolean from the event",
      source := "bool!(.enabled)",
      expected := some (.ok (.boolean true)),
      input := .record [("enabled", .boolean true)] }]

/-- The value itself, if it is a truth value. -/
def boolean : Builtin where
  doc := boolean.doc
  word := "boolean"
  required := ["value"]
  body := fun a =>
    match a.get "value" with
    | .scalar (.boolean b) => return .scalar (.boolean b)
    | d => do
      let kind ← Action.kindName d
      Action.refuse s!"expected boolean, got {kind}"

/-- Whether the value of an argument has a kind. -/
def hasKind (kind : Kind) (d : Datum) : Action Datum := do
  let name ← Action.kindName d
  return .scalar (.boolean (name = kind.name))

/-- The doc of `is_integer`. -/
def isInteger.doc : FunctionDoc where
  identifier := "is_integer"
  summary := "Check if a value is an integer."
  description := "Check if the `value`'s type is an integer."
  category := some .type
  parameters := [
    { name := "value", type := some (.primitive .any),
      description := "The value to check if it is an integer." }]
  returns := some
    { type := some (.primitive .boolean),
      description := "Whether `value` is an integer.",
      rules := [
        "Returns `true` if `value` is an integer.",
        "Returns `false` if `value` is anything else."] }
  examples := [
    { title := some "Valid integer",
      source := "is_integer(1)",
      expected := some (.ok (.boolean true)) },
    { title := some "Non-matching type",
      source := "is_integer(\"a string\")",
      expected := some (.ok (.boolean false)) },
    { title := some "Null",
      source := "is_integer(null)",
      expected := some (.ok (.boolean false)) },
    { title := some "Floats are not integers",
      source := "is_integer(1.0)",
      expected := some (.ok (.boolean false)) }]

/-- Whether the value is an integer. -/
def isInteger : Builtin where
  doc := isInteger.doc
  word := "is_integer"
  required := ["value"]
  body := fun a => hasKind .integer (a.get "value")

/-- The doc of `is_string`. -/
def isString.doc : FunctionDoc where
  identifier := "is_string"
  summary := "Check if a value is a string."
  description := "Check if the `value`'s type is a string."
  category := some .type
  parameters := [
    { name := "value", type := some (.primitive .any),
      description := "The value to check if it is a string." }]
  returns := some
    { type := some (.primitive .boolean),
      description := "Whether `value` is a string.",
      rules := [
        "Returns `true` if `value` is a string.",
        "Returns `false` if `value` is anything else."] }
  examples := [
    { title := some "Valid string",
      source := "is_string(\"a string\")",
      expected := some (.ok (.boolean true)) },
    { title := some "Non-matching type",
      source := "is_string([1, 2, 3])",
      expected := some (.ok (.boolean false)) }]

/-- Whether the value is a string. -/
def isString : Builtin where
  doc := isString.doc
  word := "is_string"
  required := ["value"]
  body := fun a => hasKind .string (a.get "value")

end FunctionManual.Standard
