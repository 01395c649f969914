import FunctionManual.Json.Basic
import FunctionManual.Text.Lines

/-!
# Reading JSON

A reading function takes the text that is left and returns what is left behind its value, so the
place of a problem is known by what was left there.

* `Json.read`: the value of a text, with nothing but blanks around it.
* `Json.Error.message`: the wording of a problem with its line, column and position.
-/

namespace FunctionManual.Json

open FunctionManual.Text

/-- What is wrong with a text. -/
inductive Problem
  | value
  | name
  | colon
  | comma
  | extra
  | unterminated
  | control
  | escape
  | unicodeEscape
  | byteOrderMark
  deriving DecidableEq, Repr

/-- The wording of a problem. -/
def Problem.message : Problem → String
  | .value => "Expecting value"
  | .name => "Expecting property name enclosed in double quotes"
  | .colon => "Expecting ':' delimiter"
  | .comma => "Expecting ',' delimiter"
  | .extra => "Extra data"
  | .unterminated => "Unterminated string starting at"
  | .control => "Invalid control character at"
  | .escape => "Invalid \\escape"
  | .unicodeEscape => "Invalid \\uXXXX escape"
  | .byteOrderMark => "Unexpected UTF-8 BOM (decode using utf-8-sig)"

/-- Why a text is not read: a problem, with the number of characters left from its place on; an
integer of too many digits; or the name of a number that is not allowed. -/
inductive Error
  | problem (problem : Problem) (left : Nat)
  | tooLong (digits : Nat)
  | constant (name : String)
  deriving DecidableEq, Repr

/-- The wording of an error in the text `source`. -/
def Error.message (source : String) : Error → String
  | .problem p left =>
    let chars := source.toList
    let pos := chars.length - left
    let (line, column) := lineColumn chars pos
    s!"{p.message}: line {line} column {column} (char {pos})"
  | .tooLong n => Integer.tooLongMessage n
  | .constant name => s!"{name} is not valid JSON"

/-- Refuses at the place from which `rest` is left, or `back` characters before it. -/
def refuse {α : Type} (p : Problem) (rest : List Char) (back : Nat) : Except Error α :=
  .error (.problem p (rest.length + back))

/-- Blanks between tokens. -/
def isSpace (c : Char) : Bool := c = ' ' || c = '\t' || c = '\n' || c = '\r'

/-- The text behind leading blanks. -/
def skipSpace (s : List Char) : List Char := s.dropWhile isSpace

/-! ## Strings -/

/-- The value of a hexadecimal digit. -/
def hexValue? (c : Char) : Option Nat :=
  if isAsciiDigit c then some (c.toNat - 48)
  else if 'a' ≤ c && c ≤ 'f' then some (c.toNat - 87)
  else if 'A' ≤ c && c ≤ 'F' then some (c.toNat - 55)
  else none

/-- The value of four hexadecimal digits and the text behind them. -/
def hex4? : List Char → Option (Nat × List Char)
  | a :: b :: c :: d :: rest => do
    let a ← hexValue? a
    let b ← hexValue? b
    let c ← hexValue? c
    let d ← hexValue? d
    some (((a * 16 + b) * 16 + c) * 16 + d, rest)
  | _ => none

/-- The character of a backslash and one letter. -/
def simpleEscape? : Char → Option Char
  | '"' => some '"'
  | '\\' => some '\\'
  | '/' => some '/'
  | 'b' => some '\x08'
  | 'f' => some '\x0c'
  | 'n' => some '\n'
  | 'r' => some '\r'
  | 't' => some '\t'
  | _ => none

/-- The first half of a pair of codes. -/
def isHighHalf (n : Nat) : Bool := 0xD800 ≤ n && n ≤ 0xDBFF

/-- The second half of a pair of codes. -/
def isLowHalf (n : Nat) : Bool := 0xDC00 ≤ n && n ≤ 0xDFFF

/-- The character of a code; half a pair becomes the replacement character. -/
def codeChar (n : Nat) : Char :=
  if isHighHalf n || isLowHalf n then Char.ofNat 0xFFFD else Char.ofNat n

/-- The character of an escaped code whose `u` is taken, and the text behind it; a pair of codes is
one character. The escaped code must not end the text. -/
def readCode (s : List Char) : Except Error (Char × List Char) :=
  if s.length ≤ 4 then refuse .unicodeEscape s 1
  else
    match hex4? s with
    | none => refuse .unicodeEscape s 1
    | some (high, rest) =>
      match rest with
      | '\\' :: 'u' :: more =>
        if isHighHalf high && 4 < more.length then
          match hex4? more with
          | none => refuse .unicodeEscape more 1
          | some (low, rest') =>
            if isLowHalf low then
              .ok (Char.ofNat (0x10000 + (high - 0xD800) * 1024 + (low - 0xDC00)), rest')
            else .ok (codeChar high, rest)
        else .ok (codeChar high, rest)
      | _ => .ok (codeChar high, rest)

/-- The characters of a string up to its closing mark; `whole` is the text from its opening mark
on. -/
def readChars (whole : List Char) : Nat → List Char → Except Error (List Char × List Char)
  | 0, s => refuse .unterminated s 0
  | fuel + 1, s =>
    match s with
    | [] => refuse .unterminated whole 0
    | '"' :: rest => .ok ([], rest)
    | '\\' :: rest =>
      match rest with
      | [] => refuse .unterminated whole 0
      | 'u' :: more => do
        let (c, rest') ← readCode more
        let (cs, rest'') ← readChars whole fuel rest'
        .ok (c :: cs, rest'')
      | e :: more =>
        match simpleEscape? e with
        | none => refuse .escape rest 1
        | some c => do
          let (cs, rest') ← readChars whole fuel more
          .ok (c :: cs, rest')
    | c :: rest =>
      if c.toNat < 32 then refuse .control s 0
      else do
        let (cs, rest') ← readChars whole fuel rest
        .ok (c :: cs, rest')

/-- A string whose opening mark is taken. -/
def readString (s : List Char) : Except Error (String × List Char) := do
  let (cs, rest) ← readChars ('"' :: s) (s.length + 1) s
  .ok (String.ofList cs, rest)

/-! ## Numbers -/

/-- The digits of the whole part: a zero, or digits that do not begin with one. -/
def spanWhole (s : List Char) : List Char × List Char :=
  match s with
  | '0' :: rest => (['0'], rest)
  | _ => s.span isAsciiDigit

/-- A point and the digits behind it, where there are any. -/
def spanPoint (s : List Char) : List Char × List Char :=
  match s with
  | '.' :: rest =>
    let (ds, rest') := rest.span isAsciiDigit
    if ds.isEmpty then ([], s) else ('.' :: ds, rest')
  | _ => ([], s)

/-- An exponent, where there is a complete one. -/
def spanExponent (s : List Char) : List Char × List Char :=
  match s with
  | e :: rest =>
    if e = 'e' || e = 'E' then
      let (sign, body) := match rest with
        | '+' :: r => (['+'], r)
        | '-' :: r => (['-'], r)
        | _ => ([], rest)
      let (ds, rest') := body.span isAsciiDigit
      if ds.isEmpty then ([], s) else (e :: sign ++ ds, rest')
    else ([], s)
  | [] => ([], s)

/-- A number. -/
def readNumber (s : List Char) : Except Error (Json × List Char) :=
  let (sign, body) := match s with
    | '-' :: rest => (['-'], rest)
    | _ => ([], s)
  let (whole, afterWhole) := spanWhole body
  if whole.isEmpty then refuse .value s 0
  else
    let (fraction, afterFraction) := spanPoint afterWhole
    let (exponent, rest) := spanExponent afterFraction
    if fraction.isEmpty && exponent.isEmpty then
      match Integer.readPlain (sign ++ whole) with
      | .ok i => .ok (.integer i, rest)
      | .error (.tooLong n) => .error (.tooLong n)
      | .error .malformed => refuse .value s 0
    else
      match Binary64.read (String.ofList (sign ++ whole ++ fraction ++ exponent)) with
      | some x => .ok (.float x, rest)
      | none => refuse .value s 0

/-! ## Values -/

/-- The words that stand for values. -/
def words : List (List Char × Json) := [
  ("null".toList, .null), ("true".toList, .boolean true), ("false".toList, .boolean false)]

/-- The words for numbers that are not finite. -/
def constants : List (List Char × Binary64) := [
  ("NaN".toList, .nan), ("Infinity".toList, .infinite false), ("-Infinity".toList, .infinite true)]

/-- The word with which a text begins, with its meaning and the text behind it. -/
def leading? {α : Type} (table : List (List Char × α)) (s : List Char) :
    Option (List Char × α × List Char) :=
  (table.find? fun (w, _) => w.isPrefixOf s).map fun (w, v) => (w, v, s.drop w.length)

/-- A value that is no container and no string. -/
def readSimple (strict : Bool) (s : List Char) : Except Error (Json × List Char) :=
  match leading? words s with
  | some (_, v, rest) => .ok (v, rest)
  | none =>
    match leading? constants s with
    | some (w, x, rest) =>
      if strict then .error (.constant (String.ofList w)) else .ok (.float x, rest)
    | none => readNumber s

mutual

/-- A value and the text behind it. -/
def readValue (strict : Bool) : Nat → List Char → Except Error (Json × List Char)
  | 0, s => refuse .value s 0
  | fuel + 1, s =>
    match s with
    | '"' :: rest => do
      let (t, rest') ← readString rest
      .ok (.string t, rest')
    | '[' :: rest =>
      match skipSpace rest with
      | ']' :: rest' => .ok (.array [], rest')
      | s' => do
        let (items, rest') ← readItems strict fuel s'
        .ok (.array items, rest')
    | '\x7b' :: rest =>
      match skipSpace rest with
      | '\x7d' :: rest' => .ok (.object [], rest')
      | s' => do
        let (members, rest') ← readMembers strict fuel s'
        .ok (.object (ofMembers members), rest')
    | _ => readSimple strict s

/-- Items up to the closing bracket. -/
def readItems (strict : Bool) : Nat → List Char → Except Error (List Json × List Char)
  | 0, s => refuse .value s 0
  | fuel + 1, s => do
    let (j, rest) ← readValue strict fuel s
    match skipSpace rest with
    | ']' :: rest' => .ok ([j], rest')
    | ',' :: rest' => do
      let (items, rest'') ← readItems strict fuel (skipSpace rest')
      .ok (j :: items, rest'')
    | rest' => refuse .comma rest' 0

/-- Members up to the closing brace. -/
def readMembers (strict : Bool) :
    Nat → List Char → Except Error (List (String × Json) × List Char)
  | 0, s => refuse .name s 0
  | fuel + 1, s =>
    match s with
    | '"' :: rest => do
      let (n, rest') ← readString rest
      match skipSpace rest' with
      | ':' :: rest'' => do
        let (j, left) ← readValue strict fuel (skipSpace rest'')
        match skipSpace left with
        | '\x7d' :: left' => .ok ([(n, j)], left')
        | ',' :: left' => do
          let (members, left'') ← readMembers strict fuel (skipSpace left')
          .ok ((n, j) :: members, left'')
        | left' => refuse .comma left' 0
      | rest'' => refuse .colon rest'' 0
    | _ => refuse .name s 0

end

/-- Reads a text, with nothing but blanks around its value; `strict` refuses the names of numbers
that are not finite. No character takes more than two steps. -/
def readUnmarked (strict : Bool) (source : String) : Except Error Json := do
  let s := source.toList
  let (j, rest) ← readValue strict (2 * s.length + 2) (skipSpace s)
  match skipSpace rest with
  | [] => .ok j
  | rest' => refuse .extra rest' 0

/-- Reads a text; one that begins with the mark of an encoding is refused. -/
def read (strict : Bool) (source : String) : Except Error Json :=
  if source.toList.head? = some (Char.ofNat 0xFEFF) then refuse .byteOrderMark source.toList 0
  else readUnmarked strict source

end FunctionManual.Json
