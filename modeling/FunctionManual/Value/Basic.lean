import FunctionManual.Value.Scalar
import FunctionManual.Json.Writer

/-!
# Values

* `Key`: the name of a member of an object. Names other than texts come from outside.
* `Members`: members in the order they were first set.
* `Value`: a finite tree of scalars, arrays and objects.
* `View`: one layer of anything that has the shape of a value.
-/

namespace FunctionManual

open FunctionManual.Text

/-! ## Keys and members -/

/-- The name of a member. -/
inductive Key
  | text (value : String)
  | null
  | boolean (value : Bool)
  | integer (value : Int)
  | float (value : Binary64)
  deriving DecidableEq

namespace Key

/-- A key as a scalar. -/
def toScalar : Key → Scalar
  | .text s => .string s
  | .null => .null
  | .boolean b => .boolean b
  | .integer i => .integer i
  | .float x => .float x

/-- Whether two keys name the same member; numbers are compared by value. -/
def same (a b : Key) : Bool := a.toScalar.looselyEqual b.toScalar

/-- Whether a key is a text. -/
def isText : Key → Bool
  | .text _ => true
  | _ => false

/-- The name under which JSON shows a key. -/
def jsonName : Key → String
  | .text s => s
  | .null => "null"
  | .boolean b => Json.booleanText b
  | .integer i => Integer.text i
  | .float x => Json.floatText x

end Key

/-- The members of an object, in the order they were first set. -/
abbrev Members (α : Type) := List (Key × α)

namespace Members

variable {α : Type}

/-- The value of a key. -/
def find? (key : Key) : Members α → Option α
  | [] => none
  | (k, v) :: rest => if k.same key then some v else find? key rest

/-- Sets the value of a key; a key that is there keeps its place and its spelling. -/
def insert (key : Key) (value : α) : Members α → Members α
  | [] => [(key, value)]
  | (k, v) :: rest => if k.same key then (k, value) :: rest else (k, v) :: insert key value rest

/-- Sets the members of a list one after another. -/
def ofList (entries : List (Key × α)) : Members α :=
  entries.foldl (fun done (k, v) => insert k v done) []

/-- Whether a key is set. -/
def has (key : Key) (members : Members α) : Bool := (find? key members).isSome

end Members

/-! ## Trees -/

/-- One layer of a value: a scalar, or a container and its parts. -/
inductive View (α : Type)
  | scalar (value : Scalar)
  | array (items : List α)
  | object (members : Members α)

namespace View

variable {α : Type}

/-- The kind of a value, where it has one. -/
def kind? : View α → Option Kind
  | .scalar s => s.kind?
  | .array _ => some .array
  | .object _ => some .object

/-- The word for the type of a value in messages. -/
def typeWord : View α → String
  | .scalar s => s.typeWord
  | .array _ => "list"
  | .object _ => "dict"

/-- The word for the type of a value in complaints about an operation that it does not have. -/
def longTypeWord : View α → String
  | .scalar s => s.longTypeWord
  | v => v.typeWord

end View

/-- A finite tree of scalars, arrays and objects. -/
inductive Value
  | scalar (value : Scalar)
  | array (items : List Value)
  | object (members : List (Key × Value))

namespace Value

/-- The outermost layer of a value. -/
def view : Value → View Value
  | .scalar s => .scalar s
  | .array items => .array items
  | .object members => .object members

/-- Null. -/
def null : Value := .scalar .null

/-- A truth value. -/
def boolean (b : Bool) : Value := .scalar (.boolean b)

/-- An integer. -/
def integer (i : Int) : Value := .scalar (.integer i)

/-- A text. -/
def string (s : String) : Value := .scalar (.string s)

/-- An object whose keys are texts. -/
def record (entries : List (String × Value)) : Value :=
  .object (entries.map fun (k, v) => (.text k, v))

/-- Whether a value is null. -/
def isNull : Value → Bool
  | .scalar .null => true
  | _ => false

/-- The kind of a value, where it has one. -/
def kind? (v : Value) : Option Kind := v.view.kind?

/-- The word for the type of a value in messages. -/
def typeWord (v : Value) : String := v.view.typeWord

/-- The word for the type of a value in complaints about an operation that it does not have. -/
def longTypeWord (v : Value) : String := v.view.longTypeWord

/-! ## Texts -/

mutual

/-- How messages show a value. -/
def display : Value → String
  | .scalar s => s.display
  | .array items => "[" ++ ", ".intercalate (displayItems items) ++ "]"
  | .object members => "\x7b" ++ ", ".intercalate (displayMembers members) ++ "\x7d"

/-- The items of an array as messages show them. -/
def displayItems : List Value → List String
  | [] => []
  | v :: rest => display v :: displayItems rest

/-- The members of an object as messages show them. -/
def displayMembers : List (Key × Value) → List String
  | [] => []
  | (k, v) :: rest => (k.toScalar.display ++ ": " ++ display v) :: displayMembers rest

end

mutual

/-- Whether every part of a value has a text. -/
def isWritable : Value → Bool
  | .scalar s => s.isWritable
  | .array items => itemsAreWritable items
  | .object members => membersAreWritable members

/-- Whether all items have. -/
def itemsAreWritable : List Value → Bool
  | [] => true
  | v :: rest => isWritable v && itemsAreWritable rest

/-- Whether all members have, with their keys. -/
def membersAreWritable : List (Key × Value) → Bool
  | [] => true
  | (k, v) :: rest => k.toScalar.isWritable && isWritable v && membersAreWritable rest

end

/-- How messages show a value inside a text of their own. -/
def plain : Value → String
  | .scalar s => s.plain
  | v => v.display

end Value

/-- Messages about a value that has no kind. -/
def notAValueMessage (typeWord : String) : String := s!"Not an expression value: {typeWord}"

end FunctionManual
