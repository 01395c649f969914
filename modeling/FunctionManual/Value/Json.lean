import FunctionManual.Value.Basic

/-!
# Values as JSON

* `Value.ofJson`: every JSON tree is a value.
* `Value.isJson`: values that JSON holds without loss.
* `Value.toJson`: the JSON tree of a value, or the first part that JSON cannot hold.
* `Value.render`: one line for readers; parts that JSON cannot hold are described in a string.
-/

namespace FunctionManual.Value

mutual

/-- A JSON tree as a value. -/
def ofJson : Json → Value
  | .null => .scalar .null
  | .boolean b => .scalar (.boolean b)
  | .integer i => .scalar (.integer i)
  | .float x => .scalar (.float x)
  | .string s => .scalar (.string s)
  | .array items => .array (itemsOfJson items)
  | .object members => .object (membersOfJson members)

/-- JSON items as values. -/
def itemsOfJson : List Json → List Value
  | [] => []
  | j :: rest => ofJson j :: itemsOfJson rest

/-- JSON members as members. -/
def membersOfJson : List (String × Json) → Members Value
  | [] => []
  | (n, j) :: rest => (.text n, ofJson j) :: membersOfJson rest

end

mutual

/-- Whether a value can be written as JSON and read back unchanged. -/
def isJson : Value → Bool
  | .scalar s =>
    match s with
    | .null | .boolean _ | .integer _ | .string _ => true
    | .float x => x.isFinite
    | _ => false
  | .array items => itemsAreJson items
  | .object members => membersAreJson members

/-- Whether all items can. -/
def itemsAreJson : List Value → Bool
  | [] => true
  | v :: rest => isJson v && itemsAreJson rest

/-- Whether all members can; their keys must be texts. -/
def membersAreJson : List (Key × Value) → Bool
  | [] => true
  | (k, v) :: rest => k.isText && isJson v && membersAreJson rest

end

/-- A scalar as JSON, where there is a form for it. -/
def scalarToJson? : Scalar → Option Json
  | .null => some .null
  | .boolean b => some (.boolean b)
  | .integer i => some (.integer i)
  | .float x => some (.float x)
  | .string s => some (.string s)
  | _ => none

/-- JSON cannot hold a value of the named type. -/
structure NotJson where
  typeWord : String
  deriving DecidableEq, Repr

/-- The wording of the failure. -/
def NotJson.message (e : NotJson) : String :=
  s!"Object of type {e.typeWord} is not JSON serializable"

mutual

/-- The JSON tree of a value; keys are shown by their names. -/
def toJson : Value → Except NotJson Json
  | .scalar s =>
    match scalarToJson? s with
    | some j => .ok j
    | none => .error ⟨s.typeWord⟩
  | .array items => .array <$> itemsToJson items
  | .object members => .object <$> membersToJson members

/-- Items as JSON. -/
def itemsToJson : List Value → Except NotJson (List Json)
  | [] => .ok []
  | v :: rest => do
    let j ← toJson v
    let js ← itemsToJson rest
    return j :: js

/-- Members as JSON. -/
def membersToJson : List (Key × Value) → Except NotJson (List (String × Json))
  | [] => .ok []
  | (k, v) :: rest => do
    let j ← toJson v
    let js ← membersToJson rest
    return (k.jsonName, j) :: js

end

mutual

/-- The JSON tree that shows a value to readers. -/
def shown : Value → Json
  | .scalar s => (scalarToJson? s).getD (.string s.describe)
  | .array items => .array (shownItems items)
  | .object members => .object (shownMembers members)

/-- Items as shown. -/
def shownItems : List Value → List Json
  | [] => []
  | v :: rest => shown v :: shownItems rest

/-- Members as shown. -/
def shownMembers : List (Key × Value) → List (String × Json)
  | [] => []
  | (k, v) :: rest => (k.jsonName, shown v) :: shownMembers rest

end

/-- One line that shows a value to readers. -/
def render (v : Value) : String := v.shown.spaced

end FunctionManual.Value
