import FunctionManual.Standard.Builtin

/-!
# The contents of containers

* `keys`, `values`: the parts of an object in order.
* `length`: the number of parts of a container, or of characters of a text.
-/

namespace FunctionManual.Standard

/-- The doc of `keys`. -/
def keys.doc : FunctionDoc where
  identifier := "keys"
  summary := "Get the keys of an object."
  description := "Returns the keys from the object passed into the function."
  category := some .enumerate
  parameters := [
    { name := "value", type := some (.object none),
      description := "The object to extract keys from." }]
  returns := some
    { type := some (.array (some (.primitive .string))),
      description := "The keys of `value`, in insertion order.",
      rules := [
        "Returns an array of all the keys."] }
  examples := [
    { title := some "Get keys from the object",
      source := "keys(\x7b\n    \"key1\": \"val1\",\n    \"key2\": \"val2\"\n\x7d)",
      expected := some (.ok (.array [.string "key1", .string "key2"])) }]

/-- The members of an argument that is an object. -/
def membersOf (d : Datum) (operation : String) : Action (Members Datum) :=
  match d with
  | .object a => Action.look fun s => s.members a
  | _ => Action.lacks d operation

/-- The keys of an object. -/
def keys : Builtin where
  doc := keys.doc
  word := "keys"
  required := ["value"]
  body := fun a => do
    let members ← membersOf (a.get "value") "keys"
    Action.change fun s => s.addArray (members.map fun (k, _) => .scalar k.toScalar)

/-- The doc of `values`. -/
def values.doc : FunctionDoc where
  identifier := "values"
  summary := "Get the values of an object."
  description := "Returns the values from the object passed into the function."
  category := some .enumerate
  parameters := [
    { name := "value", type := some (.object none),
      description := "The object to extract values from." }]
  returns := some
    { type := some (.array none),
      description := "The values of `value`, in insertion order.",
      rules := [
        "Returns an array of all the values."] }
  examples := [
    { title := some "Get values from the object",
      source := "values(\x7b\"key1\": \"val1\", \"key2\": \"val2\"\x7d)",
      expected := some (.ok (.array [.string "val1", .string "val2"])) },
    { title := some "Get values from a complex object",
      source :=
        ("values(\x7b\"key1\": \"val1\", \"key2\": [1, 2, 3], \"key3\": \x7b\"foo\": " ++
         "\"bar\"\x7d\x7d)"),
      expected :=
        some (.ok (.array [
          .string "val1",
          .array [.integer 1, .integer 2, .integer 3],
          .record [("foo", .string "bar")]])) }]

/-- The values of an object. -/
def values : Builtin where
  doc := values.doc
  word := "values"
  required := ["value"]
  body := fun a => do
    let members ← membersOf (a.get "value") "values"
    Action.change fun s => s.addArray (members.map (·.2))

/-- The doc of `length`. -/
def length.doc : FunctionDoc where
  identifier := "length"
  summary := "Get the length of a collection or string."
  description :=
    ("Returns the length of `value`.\n\n* If `value` is an array, returns the number of " ++
     "elements.\n* If `value` is an object, returns the number of top-level keys.\n* If " ++
     "`value` is a string, returns the number of characters.")
  category := some .enumerate
  parameters := [
    { name := "value", type := some (.oneOf [.array none, .object none, .primitive .string]),
      description := "The array, object or string." }]
  returns := some
    { type := some (.primitive .integer),
      description := "The length of `value`." }
  examples := [
    { title := some "Length (object)",
      source := "length(\x7b\"portland\": \"Trail Blazers\", \"seattle\": \"Supersonics\"\x7d)",
      expected := some (.ok (.integer 2)) },
    { title := some "Length (nested object)",
      source := "length(\x7b\"home\": \x7b\"city\": \"Portland\"\x7d\x7d)",
      expected := some (.ok (.integer 1)) },
    { title := some "Length (array)",
      source := "length([\"Trail Blazers\", \"Supersonics\", \"Grizzlies\"])",
      expected := some (.ok (.integer 3)) },
    { title := some "Length (string)",
      source := "length(\"The Planet of the Apes Musical\")",
      expected := some (.ok (.integer 30)) }]

/-- The number of parts of a value, where it has parts. -/
def partCount : View Datum → Option Nat
  | .array items => some items.length
  | .object members => some members.length
  | .scalar v =>
    match v with
    | .string s => some s.length
    | .bytes b => some b.length
    | .set _ => some 1
    | _ => none

/-- The number of parts of a container, or of characters of a text. -/
def length : Builtin where
  doc := length.doc
  word := "length"
  required := ["value"]
  body := fun a => do
    let d := a.get "value"
    let v ← Action.look fun s => s.view d
    match partCount v with
    | some n => return .scalar (.integer n)
    | none => Action.lacksLength d

end FunctionManual.Standard
