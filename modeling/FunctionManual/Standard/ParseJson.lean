import FunctionManual.Json.Reader
import FunctionManual.Standard.Builtin
import FunctionManual.Text.Wide

/-!
# Parsing JSON

* `Json.limitDepth`: containers below a depth become their own text.
* `parseJson`: the value of a JSON text.
-/

namespace FunctionManual

namespace Json

mutual

/-- A tree in which containers deeper than `most` are replaced by their text; the tree itself stands
at the depth `depth`. -/
def limitDepth (most : Int) (depth : Nat) : Json → Json
  | .array items =>
    if most < depth then .string (Json.array items).compact
    else .array (limitItems most (depth + 1) items)
  | .object members =>
    if most < depth then .string (Json.object members).compact
    else .object (limitMembers most (depth + 1) members)
  | j => j

/-- Items with the depth limited. -/
def limitItems (most : Int) (depth : Nat) : List Json → List Json
  | [] => []
  | j :: rest => limitDepth most depth j :: limitItems most depth rest

/-- Members with the depth limited. -/
def limitMembers (most : Int) (depth : Nat) : List (String × Json) → List (String × Json)
  | [] => []
  | (n, j) :: rest => (n, limitDepth most depth j) :: limitMembers most depth rest

end

end Json

namespace Standard

/-- The advice of all general parsers. -/
def preferSpecific : String :=
  "Before reaching for a general-purpose parser, check whether a purpose-specific\n" ++
    "`parse_*` function already exists for your format."

/-- The doc of `parse_json`. -/
def parseJson.doc : FunctionDoc where
  identifier := "parse_json"
  summary := "Parse a JSON document."
  description :=
    ("Parses the `value` as JSON. Only JSON types are returned; the special float\nvalues " ++
     "`NaN` and `Infinity` are rejected.")
  category := some .parse
  parameters := [
    { name := "value", type := some (.primitive .string),
      description := "The string representation of the JSON to parse." },
    { name := "max_depth", type := some (.primitive .integer),
      description :=
        ("Number of layers to parse for nested JSON documents. Deeper values are kept as " ++
         "JSON text. Must be between 1 and 128."),
      required := false }]
  returns := some
    { type := some (.primitive .any),
      description := "The parsed JSON value." }
  failureReasons := [
    "`value` is not a valid JSON-formatted payload.",
    "`max_depth` is not between 1 and 128."]
  examples := [
    { title := some "Parse JSON",
      source := "parse_json!(\"\x7b\\\"key\\\": \\\"val\\\"\x7d\")",
      expected := some (.ok (.record [("key", .string "val")])) },
    { title := some "Parse JSON with max_depth",
      source :=
        ("parse_json!(\"\x7b\\\"top_level\\\": \x7b\\\"key\\\": \\\"value\\\"\x7d\x7d\", " ++
         "max_depth: 1)"),
      expected := some (.ok (.record [("top_level", .string "\x7b\"key\":\"value\"\x7d")])) },
    { title := some "Parse a JSON array",
      source := "parse_json!(\"[1, 2.5, null]\")",
      expected := some (.ok (.array [.integer 1, .scalar (.float (.ofRatio false 5 2)), .null])) },
    { title := some "Invalid JSON",
      source := "parse_json!(\"\x7b invalid\")",
      expected := some (.error ⟨"function_call", ""⟩) }]
  notices := [preferSpecific]

/-- The depth that a number sets, if it lies between 1 and 128; a fraction is cut off. -/
def depthOf? : Scalar.Number → Option Int
  | .integer i => if 1 ≤ i && i ≤ 128 then some i else none
  | .float x => do
    let units ← x.scaled?
    if (Binary64.scale : Int) ≤ units && units ≤ 128 * Binary64.scale then x.truncate? else none

/-- The complaint about a limit out of range, which shows the limit. An integer of too many digits
cannot be shown, which is a fault of its own. -/
def refuseDepth (x : Scalar) : Action (Option Int) :=
  let complaint := Action.refuse s!"max_depth value should be between 1 and 128, got {x.plain}"
  match x with
  | .integer i =>
    if Integer.isWritable i then complaint else Action.fail (.badValue Integer.unwritableMessage)
  | _ => complaint

/-- The limit that an argument sets; null sets none. -/
def readDepth (d : Datum) : Action (Option Int) := do
  match d with
  | .scalar .null => return none
  | .scalar x =>
    match x.number? with
    | some n =>
      match depthOf? n with
      | some limit => return some limit
      | none => refuseDepth x
    | none => mismatch x.longTypeWord
  | _ => mismatch (← Action.look fun s => (s.view d).longTypeWord)
where
  /-- The complaint about a limit that cannot be compared with a number. -/
  mismatch (word : String) : Action (Option Int) :=
    Action.fail (.badType s!"'<=' not supported between instances of 'int' and '{word}'")

/-- The text of bytes, whose encoding their beginning shows; a leading mark is no part of it, and a
surrogate that stands alone is read as U+FFFD. -/
def decodeText (bytes : List UInt8) : Except String String :=
  match Text.Wide.Layout.detect? bytes with
  | some (layout, mark) => (Text.Wide.decode layout mark bytes).mapError (·.message)
  | none =>
    let unmarked :=
      match bytes with
      | 0xEF :: 0xBB :: 0xBF :: rest => rest
      | _ => bytes
    (Text.Utf8.decode (Text.Utf8.maskSurrogates unmarked)).mapError (·.message)

/-- Reads the JSON text that an argument holds; numbers that are not finite are refused. -/
def readDocument (d : Datum) : Action Json := do
  match d with
  | .scalar (.string s) => checked s (Json.read true s)
  | .scalar (.bytes b) =>
    match decodeText b with
    | .ok s => checked s (Json.readUnmarked true s)
    | .error message => Action.refuse s!"unable to parse json: {message}"
  | _ =>
    let v ← Action.look fun s => s.view d
    Action.fail (.badType (s!"the JSON object must be str, bytes or bytearray, not {v.typeWord}"))
where
  /-- The outcome of reading `source`, with its complaint worded. -/
  checked (source : String) : Except Json.Error Json → Action Json
    | .ok j => return j
    | .error e => Action.refuse s!"unable to parse json: {e.message source}"

/-- The value of a JSON text; numbers that are not finite are refused. -/
def parseJson : Builtin where
  doc := parseJson.doc
  word := "parse_json"
  required := ["value"]
  optional := ["max_depth"]
  body := fun a => do
    let limit ← readDepth (a.get "max_depth")
    let j ← readDocument (a.get "value")
    match limit with
    | none => Action.load (.ofJson j)
    | some n => Action.load (.ofJson (j.limitDepth n 1))

end Standard

end FunctionManual
