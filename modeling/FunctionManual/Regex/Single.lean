import FunctionManual.Regex.Alike
import FunctionManual.Regex.Syntax
import FunctionManual.Text.Blank
import FunctionManual.Text.Letter

/-!
# Items that take one character

* `Regex.Single.takes`: the characters that an item takes.
* `Regex.Single.isPlain`, `Regex.Single.isFolded`: how an item is tested. A plain item compares
  characters as they are; a folded one first replaces them by one for all their cases.
-/

namespace FunctionManual.Regex

open FunctionManual.Text

/-- Blanks that a verbose pattern ignores. -/
def isVerboseBlank (c : Char) : Bool :=
  c = ' ' || c = '\t' || c = '\n' || c = '\r' || c = '\x0b' || c = '\x0c'

/-! ## What an item takes -/

/-- Whether a character is in a class. -/
def CharClass.holds (ascii : Bool) (c : Char) : CharClass → Bool
  | .digit => if ascii then isAsciiDigit c else isDecimal c
  | .space => if ascii then isVerboseBlank c else isBlank c
  | .word => c = '_' || if ascii then c.isAlphanum else isAlphanumeric c

/-- The codes that the character `c` stands for. -/
def codesOf (flags : Flags) (c : Char) : List Nat :=
  if flags.ignoreCase then Case.variants flags.ascii c else [c.toNat]

/-- The first code point that no table of sets reaches. -/
def tableLimit : Nat := 0x10000

/-- Whether a set item admits a character that is seen as `seen` and stands for all of `codes`.
Where case is ignored, code points beyond the tables are compared with what is seen: a single one
must be the same, and a range must hold it or its capital. -/
def SetItem.holds (flags : Flags) (seen : Char) (codes : List Nat) : SetItem → Bool
  | .char code =>
    if flags.ignoreCase && tableLimit ≤ code then seen.toNat = code else codes.contains code
  | .range low high =>
    let within (n : Nat) : Bool := low ≤ n && n ≤ high
    if flags.ignoreCase && tableLimit ≤ high then
      codes.any (fun n => n < tableLimit && within n) || within seen.toNat
        || within (raiseCase seen).toNat
    else codes.any within
  | .category cls negated => cls.holds flags.ascii seen != negated

/-- Whether an item takes the character `c`. -/
def Single.takes (flags : Flags) (c : Char) : Single → Bool
  | .char code => (codesOf flags c).contains code
  | .notChar code => !(codesOf flags c).contains code
  | .any => flags.dotAll || c ≠ '\n'
  | .set negated items =>
    let seen := if flags.ignoreCase then Case.fold flags.ascii c else c
    items.any (SetItem.holds flags seen (codesOf flags c)) != negated

/-! ## How an item is tested -/

/-- Whether a set item is looked up by folded characters where case is ignored. -/
def SetItem.isFolded (ascii : Bool) : SetItem → Bool
  | .char code => tableLimit ≤ code || Case.isCased ascii code
  | .range low high => tableLimit ≤ high || Case.rangeIsCased ascii low high
  | .category _ _ => false

/-- Whether an item is one character, or a set, that case does not matter to. -/
def Single.isPlain (flags : Flags) : Single → Bool
  | .char code => !(flags.ignoreCase && Case.isCased flags.ascii code)
  | .set _ items => !(flags.ignoreCase && items.any (·.isFolded flags.ascii))
  | .notChar _ | .any => false

/-- Whether an item is tested as a set of folded characters. -/
def Single.isFolded (flags : Flags) : Single → Bool
  | .char code | .notChar code =>
    flags.ignoreCase && !flags.ascii && (Case.siblings (Case.foldCode code)).length > 1
  | .set _ items => flags.ignoreCase && items.any (·.isFolded flags.ascii)
  | .any => false

/-- The character that an item is, if it is one that case does not matter to. -/
def Single.literal? (flags : Flags) (s : Single) : Option Nat :=
  match s with
  | .char code => if s.isPlain flags then some code else none
  | _ => none

end FunctionManual.Regex
