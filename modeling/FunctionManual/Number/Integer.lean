import FunctionManual.Text.Blank
import FunctionManual.Text.Letter

/-!
# Integers as texts

* `Integer.ofDigits`: the value of a row of decimal digits.
* `Integer.read`: an optional sign and digits of any script, single underscores between digits,
  blanks around; at most `digitLimit` digits.
* `Integer.readPlain`: a sign and ASCII digits whose form is already known.
* `Integer.text`: the decimal digits of an integer.
* `Integer.isWritable`: whether these digits are within the limit, where it holds for writing too.
-/

namespace FunctionManual.Integer

open FunctionManual.Text

/-- The number of digits beyond which no text is read as an integer. -/
def digitLimit : Nat := 4300

/-- Why a text is no integer. -/
inductive ReadError
  | malformed
  | tooLong (digits : Nat)
  deriving DecidableEq, Repr

/-- The wording of the limit on digits. -/
def tooLongMessage (digits : Nat) : String :=
  s!"Exceeds the limit ({digitLimit} digits) for integer string conversion: value has " ++
    s!"{digits} digits; use sys.set_int_max_str_digits() to increase the limit"

/-- The value of a row of decimal digits, most significant first. -/
def ofDigits (digits : List Nat) : Nat := digits.foldl (fun n d => 10 * n + d) 0

/-- The values of leading digits with single underscores between them, and what follows; a
digit row must neither begin nor end with an underscore. -/
def takeDigits (afterDigit : Bool) : List Char → Option (List Nat × List Char)
  | [] => if afterDigit then some ([], []) else none
  | c :: rest =>
    if c = '_' then
      if afterDigit then takeDigits false rest else none
    else match decimalValue? c with
      | some d => (takeDigits true rest).map fun (ds, r) => (d :: ds, r)
      | none => if afterDigit then some ([], c :: rest) else none

/-- Splits an optional sign off. -/
def takeSign : List Char → Bool × List Char
  | '-' :: rest => (true, rest)
  | '+' :: rest => (false, rest)
  | s => (false, s)

/-- Applies a sign. -/
def signed (negative : Bool) (n : Nat) : Int := if negative then -(n : Int) else n

/-- Reads a text as an integer. -/
def read (s : String) : Except ReadError Int :=
  let (negative, body) := takeSign (trimBy isNumberBlank s.toList)
  match takeDigits false body with
  | none => .error .malformed
  | some (digits, rest) =>
    if digits.length > digitLimit then .error (.tooLong digits.length)
    else if rest.isEmpty then .ok (signed negative (ofDigits digits))
    else .error .malformed

/-- Reads a sign and ASCII digits; the form is the caller's business, the limit is checked. -/
def readPlain (s : List Char) : Except ReadError Int :=
  let (negative, body) := takeSign s
  if body.length > digitLimit then .error (.tooLong body.length)
  else .ok (signed negative (ofDigits (body.map fun c => c.toNat - 48)))

/-! ## Writing -/

/-- The decimal text of a natural number. -/
def natText (n : Nat) : String := toString n

/-- The decimal text of an integer. -/
def text (i : Int) : String :=
  match i with
  | .ofNat n => natText n
  | .negSucc n => "-" ++ natText (n + 1)

/-- Whether an integer has at most `digitLimit` digits. -/
def isWritable (i : Int) : Bool := (Nat.toDigits 10 i.natAbs).length ≤ digitLimit

/-- The wording of the limit on digits where a text is written. -/
def unwritableMessage : String :=
  s!"Exceeds the limit ({digitLimit} digits) for integer string conversion; " ++
    "use sys.set_int_max_str_digits() to increase the limit"

end FunctionManual.Integer
