import FunctionManual.Number.Decimal

/-!
# JSON trees

* `Json`: a tree whose objects keep the order of their members.
* `Json.member?`: the member of an object with a name.
* `Json.insert`: sets a member; a name that is there keeps its place.
-/

namespace FunctionManual

/-- A JSON tree. Numbers written with a point or an exponent are doubles. -/
inductive Json
  | null
  | boolean (value : Bool)
  | integer (value : Int)
  | float (value : Binary64)
  | string (value : String)
  | array (items : List Json)
  | object (members : List (String × Json))

namespace Json

/-- The members of an object, with the value of one name set. -/
def insert (name : String) (value : Json) : List (String × Json) → List (String × Json)
  | [] => [(name, value)]
  | (n, v) :: rest =>
    if n = name then (n, value) :: rest else (n, v) :: insert name value rest

/-- Members read in order: a later value of a name replaces the earlier one in its place. -/
def ofMembers (members : List (String × Json)) : List (String × Json) :=
  members.foldl (fun done (n, v) => insert n v done) []

/-- The word for the type of a value in messages. -/
def typeWord : Json → String
  | .null => "NoneType"
  | .boolean _ => "bool"
  | .integer _ => "int"
  | .float _ => "float"
  | .string _ => "str"
  | .array _ => "list"
  | .object _ => "dict"

end Json

end FunctionManual
