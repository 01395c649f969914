import FunctionManual.Text.CharName.Aliases
import FunctionManual.Text.CharName.Alphabets
import FunctionManual.Text.CharName.Pictures
import FunctionManual.Text.CharName.Scripts
import FunctionManual.Text.CharName.Signs
import FunctionManual.Text.Lines

/-!
# Characters by name

The names of Unicode 14.

* `syllable?`: a Hangul syllable is named by its three parts.
* `ideograph?`: an ideograph is named by its code point.
* `find?`: the code point of a name. Names from the tables may be written in small letters.
-/

namespace FunctionManual.Text.CharName

/-! ## Tables -/

/-- The names of a run: how many words each keeps from the name before it, and the words behind
those. The text before the first of them is returned too. -/
def splitNames : List Char → List Char × List (Nat × List Char)
  | [] => ([], [])
  | c :: rest =>
    let (text, names) := splitNames rest
    if c.isLower then ([], (c.toNat - 97, text) :: names) else (c :: text, names)

/-- The words of a text. -/
def words (text : List Char) : List (List Char) :=
  if text.isEmpty then [] else splitAtChar ' ' text

/-- The code point of a name among those of a run from the code point `code` on, behind the name
`before`. -/
def findInRun (wanted : List (List Char)) (code : Nat) (before : List (List Char)) :
    List (Nat × List Char) → Option Nat
  | [] => none
  | (kept, text) :: rest =>
    let name := before.take kept ++ words text
    if name = wanted then some code else findInRun wanted (code + 1) name rest

/-- The code point of a name in a table of runs. -/
def findInTable (wanted : List (List Char)) (table : List (Nat × List String)) : Option Nat :=
  table.findSome? fun (first, lines) =>
    findInRun wanted first [] (lines.flatMap fun line => (splitNames line.toList).2)

/-! ## Rules -/

/-- The value of hexadecimal digits, letters being capitals. -/
def hexValue? (digits : List Char) : Option Nat :=
  digits.foldlM (fun n c => (digit? c).map (n * 16 + ·)) 0
where
  /-- The value of a digit. -/
  digit? (c : Char) : Option Nat :=
    if c.isDigit then some (c.toNat - 48)
    else if 'A' ≤ c && c ≤ 'F' then some (c.toNat - 55)
    else none

/-- The ideographs that are named by their code points. -/
def ideographs : List (Nat × Nat) := [
  (0x3400, 0x4DBF), (0x4E00, 0x9FFF), (0x20000, 0x2A6DF), (0x2A700, 0x2B738), (0x2B740, 0x2B81D),
  (0x2B820, 0x2CEA1), (0x2CEB0, 0x2EBE0), (0x30000, 0x3134A)]

/-- The ideograph that four or five digits name. -/
def ideograph? (digits : List Char) : Option Nat := do
  let code ← hexValue? digits
  if (digits.length = 4 || digits.length = 5)
      && ideographs.any fun (first, last) => first ≤ code && code ≤ last then some code
  else none

/-- Characters whose names are a text and their code points in at least four digits. -/
def numbered : List (String × List (Nat × Nat)) := [
  ("CJK COMPATIBILITY IDEOGRAPH-", [(0xF900, 0xFA6D), (0xFA70, 0xFAD9), (0x2F800, 0x2FA1D)]),
  ("KHITAN SMALL SCRIPT CHARACTER-", [(0x18B00, 0x18CD5)]),
  ("NUSHU CHARACTER-", [(0x1B170, 0x1B2FB)])]

/-- What follows a text at the start of a name. -/
def dropText? (start : String) (name : List Char) : Option (List Char) :=
  if start.toList.isPrefixOf name then some (name.drop start.length) else none

/-- The character that is named by its code point. -/
def numbered? (name : List Char) : Option Nat :=
  numbered.findSome? fun (start, ranges) => do
    let digits ← dropText? start name
    let code ← hexValue? digits
    let least := if code < 0x10000 then 4 else 5
    if digits.length = least && ranges.any fun (first, last) => first ≤ code && code ≤ last then
      some code
    else none

/-- The first parts of syllables. -/
def leads : List String :=
  ["G", "GG", "N", "D", "DD", "R", "M", "B", "BB", "S", "SS", "", "J", "JJ", "C", "K", "T", "P",
   "H"]

/-- The middle parts of syllables. -/
def vowels : List String :=
  ["A", "AE", "YA", "YAE", "EO", "E", "YEO", "YE", "O", "WA", "WAE", "OE", "YO", "U", "WEO", "WE",
   "WI", "YU", "EU", "YI", "I"]

/-- The last parts of syllables. -/
def tails : List String :=
  ["", "G", "GG", "GS", "N", "NJ", "NH", "D", "L", "LG", "LM", "LB", "LS", "LT", "LP", "LH", "M",
   "B", "BS", "S", "SS", "NG", "J", "C", "K", "T", "P", "H"]

/-- The longest part at the start of a text: its place among the parts, and what follows it. -/
def takePart? (parts : List String) (text : List Char) : Option (Nat × List Char) :=
  (List.range parts.length).foldl (fun best i =>
    match dropText? (parts.getD i "") text with
    | some rest =>
      if best.any fun (_, other) => other.length ≤ rest.length then best else some (i, rest)
    | none => best) none

/-- The syllable with three parts. -/
def syllable? (text : List Char) : Option Nat := do
  let (lead, text) ← takePart? leads text
  let (vowel, text) ← takePart? vowels text
  let (tail, text) ← takePart? tails text
  if text.isEmpty then some (0xAC00 + (lead * 21 + vowel) * 28 + tail) else none

/-- The code point of a further name. -/
def alias? (name : List Char) : Option Nat :=
  match dropText? "VS" name with
  | some digits => selector? digits
  | none =>
    let text := String.ofList name
    (aliases.find? fun (_, names) => names.contains text).map (·.1)
where
  /-- The variation selector with a number. -/
  selector? (digits : List Char) : Option Nat :=
    (List.range 256).findSome? fun i =>
      if (toString (i + 1)).toList = digits then
        some (if i < 16 then 0xFE00 + i else 0xE0100 + (i - 16))
      else none

/-- The code point of a name. -/
def find? (name : String) : Option Nat :=
  let s := name.toList
  match dropText? "HANGUL SYLLABLE " s, dropText? "CJK UNIFIED IDEOGRAPH-" s with
  | some text, _ => syllable? text
  | none, some digits => ideograph? digits
  | none, none =>
    let capitals := s.map Char.toUpper
    let wanted := words capitals
    (numbered? capitals).orElse fun _ =>
      (alias? capitals).orElse fun _ =>
        [alphabets, signs, scripts, pictures].findSome? (findInTable wanted)

end FunctionManual.Text.CharName
