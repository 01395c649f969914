import FunctionManual.Regex.Basic
import FunctionManual.Timestamp

/-!
# Values without parts

* `Kind`: the kinds of value that the language knows.
* `Scalar`: a value without parts. Raw bytes and sets come from outside and have no kind.
* `Scalar.looselyEqual`: equality across numbers and truth values, which count as zero and one.
-/

namespace FunctionManual

open FunctionManual.Text

/-- The kinds of value of the language. -/
inductive Kind
  | null
  | boolean
  | integer
  | float
  | string
  | array
  | object
  | regex
  | timestamp
  deriving DecidableEq, Repr

/-- The name of a kind. -/
def Kind.name : Kind → String
  | .null => "null"
  | .boolean => "boolean"
  | .integer => "integer"
  | .float => "float"
  | .string => "string"
  | .array => "array"
  | .object => "object"
  | .regex => "regex"
  | .timestamp => "timestamp"

/-- A value without parts. A set holds exactly one member. -/
inductive Scalar
  | null
  | boolean (value : Bool)
  | integer (value : Int)
  | float (value : Binary64)
  | string (value : String)
  | regex (value : Regex)
  | timestamp (value : Timestamp)
  | bytes (value : List UInt8)
  | set (member : Scalar)
  deriving DecidableEq

namespace Scalar

/-- The kind of a scalar, where it has one. -/
def kind? : Scalar → Option Kind
  | .null => some .null
  | .boolean _ => some .boolean
  | .integer _ => some .integer
  | .float _ => some .float
  | .string _ => some .string
  | .regex _ => some .regex
  | .timestamp _ => some .timestamp
  | .bytes _ | .set _ => none

/-- The word for the type of a scalar in messages. -/
def typeWord : Scalar → String
  | .null => "NoneType"
  | .boolean _ => "bool"
  | .integer _ => "int"
  | .float _ => "float"
  | .string _ => "str"
  | .regex _ => "Pattern"
  | .timestamp _ => "datetime"
  | .bytes _ => "bytes"
  | .set _ => "set"

/-- The word for the type of a scalar in complaints about an operation that it does not have. -/
def longTypeWord : Scalar → String
  | .regex _ => "re.Pattern"
  | .timestamp _ => "datetime.datetime"
  | s => s.typeWord

/-! ## Equality -/

/-- A number. -/
inductive Number
  | integer (value : Int)
  | float (value : Binary64)

/-- Numeric equality. -/
def Number.equals : Number → Number → Bool
  | .integer i, .integer j => i == j
  | .integer i, .float x => x.equalsInt i
  | .float x, .integer i => x.equalsInt i
  | .float x, .float y => x.equals y

/-- The number that a scalar counts as: truth values count as one and zero. -/
def number? : Scalar → Option Number
  | .boolean b => some (.integer (if b then 1 else 0))
  | .integer i => some (.integer i)
  | .float x => some (.float x)
  | _ => none

/-- Equality across numbers and truth values. -/
def looselyEqual : Scalar → Scalar → Bool
  | .null, .null => true
  | .string s, .string t => s == t
  | .regex r, .regex q => r == q
  | .timestamp t, .timestamp u => t.same u
  | .bytes a, .bytes b => a == b
  | .set a, .set b => looselyEqual a b
  | a, b =>
    match a.number?, b.number? with
    | some m, some n => m.equals n
    | _, _ => false

/-! ## Texts -/

/-- How messages show a scalar: texts are quoted. -/
def display : Scalar → String
  | .null => "None"
  | .boolean b => if b then "True" else "False"
  | .integer i => Integer.text i
  | .float x => x.text
  | .string s => quoted s
  | .regex r => r.display
  | .timestamp t => t.display
  | .bytes b => quotedBytes b
  | .set member => "\x7b" ++ display member ++ "\x7d"

/-- How messages show a scalar inside a text of their own: texts stand for themselves. -/
def plain : Scalar → String
  | .string s => s
  | .timestamp t => t.textWith " "
  | s => s.display

/-- The text that stands for a scalar that JSON cannot hold. -/
def describe : Scalar → String
  | .regex r => s!"r'{r.source}'"
  | .timestamp t => t.text
  | .set member => "<set " ++ (Scalar.set member).display ++ ">"
  | s => s.display

/-- Whether a scalar has a text; an integer with too many digits has none. -/
def isWritable : Scalar → Bool
  | .integer i => Integer.isWritable i
  | .set member => isWritable member
  | _ => true

end Scalar

end FunctionManual
