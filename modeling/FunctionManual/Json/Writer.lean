import FunctionManual.Json.Basic
import FunctionManual.Text.Quoted

/-!
# Writing JSON

* `Json.spaced`: one line, a space behind commas and colons.
* `Json.compact`: one line without spaces.
* `Json.pretty`: two spaces of indentation for each level; empty containers stay on one line.

Characters beyond ASCII are written as they are.
-/

namespace FunctionManual.Json

open FunctionManual.Text

/-- How a string shows one character. -/
def escapeChar (c : Char) : List Char :=
  if c = '"' then ['\\', '"']
  else if c = '\\' then ['\\', '\\']
  else if c = '\n' then ['\\', 'n']
  else if c = '\r' then ['\\', 'r']
  else if c = '\t' then ['\\', 't']
  else if c = '\x0c' then ['\\', 'f']
  else if c = '\x08' then ['\\', 'b']
  else if c.toNat < 32 then '\\' :: 'u' :: hexDigits 4 c.toNat
  else [c]

/-- A string in quotation marks. -/
def stringChars (s : String) : List Char := '"' :: s.toList.flatMap escapeChar ++ ['"']

/-- A double, with names for the numbers that are not finite. -/
def floatText (x : Binary64) : String :=
  match x with
  | .nan => "NaN"
  | .infinite negative => if negative then "-Infinity" else "Infinity"
  | .finite .. => x.text

/-- A truth value. -/
def booleanText (b : Bool) : String := if b then "true" else "false"

/-! ## One line -/

mutual

/-- The text of a value on one line; `gap` follows commas and colons. -/
def lineChars (gap : List Char) : Json → List Char
  | .null => "null".toList
  | .boolean b => (booleanText b).toList
  | .integer i => (Integer.text i).toList
  | .float x => (floatText x).toList
  | .string s => stringChars s
  | .array items => '[' :: itemsChars gap items ++ [']']
  | .object members => '\x7b' :: membersChars gap members ++ ['\x7d']

/-- Items with commas between them. -/
def itemsChars (gap : List Char) : List Json → List Char
  | [] => []
  | [j] => lineChars gap j
  | j :: k :: rest => lineChars gap j ++ ',' :: gap ++ itemsChars gap (k :: rest)

/-- Members with commas between them. -/
def membersChars (gap : List Char) : List (String × Json) → List Char
  | [] => []
  | [(n, j)] => stringChars n ++ ':' :: gap ++ lineChars gap j
  | (n, j) :: m :: rest =>
    stringChars n ++ ':' :: gap ++ lineChars gap j ++ ',' :: gap ++ membersChars gap (m :: rest)

end

/-- One line with spaces. -/
def spaced (j : Json) : String := String.ofList (lineChars [' '] j)

/-- One line without spaces. -/
def compact (j : Json) : String := String.ofList (lineChars [] j)

/-! ## Many lines -/

/-- A new line at a level of indentation. -/
def newLine (level : Nat) : List Char := '\n' :: List.replicate (2 * level) ' '

mutual

/-- The text of a value that stands at a level of indentation. -/
def prettyChars (level : Nat) : Json → List Char
  | .null => "null".toList
  | .boolean b => (booleanText b).toList
  | .integer i => (Integer.text i).toList
  | .float x => (floatText x).toList
  | .string s => stringChars s
  | .array items =>
    if items.isEmpty then ['[', ']']
    else '[' :: prettyItems (level + 1) items ++ newLine level ++ [']']
  | .object members =>
    if members.isEmpty then ['\x7b', '\x7d']
    else '\x7b' :: prettyMembers (level + 1) members ++ newLine level ++ ['\x7d']

/-- Items, each on a line of its own. -/
def prettyItems (level : Nat) : List Json → List Char
  | [] => []
  | [j] => newLine level ++ prettyChars level j
  | j :: k :: rest => newLine level ++ prettyChars level j ++ ',' :: prettyItems level (k :: rest)

/-- Members, each on a line of its own. -/
def prettyMembers (level : Nat) : List (String × Json) → List Char
  | [] => []
  | [(n, j)] => newLine level ++ stringChars n ++ ':' :: ' ' :: prettyChars level j
  | (n, j) :: m :: rest =>
    newLine level ++ stringChars n ++ ':' :: ' ' :: prettyChars level j
      ++ ',' :: prettyMembers level (m :: rest)

end

/-- Many lines. -/
def pretty (j : Json) : String := String.ofList (prettyChars 0 j)

end FunctionManual.Json
