import FunctionManual.Fault
import FunctionManual.Text.Blank
import FunctionManual.Text.Case
import FunctionManual.Text.Letter

/-!
# The words of a text

A text is cut at separators, and the pieces at changes between capitals, small letters and digits.

* `Words.Convention`: how the words of a text are joined.
* `Words.Boundary`: the changes at which a word may begin.
* `Words.split`: the words of a text in a given case, or in any.
-/

namespace FunctionManual.Standard

open FunctionManual.Text

namespace Words

/-- The cases that a text may be known to have. -/
inductive Convention
  | camelCase
  | pascalCase
  | screamingSnake
  | snakeCase
  | kebabCase
  deriving DecidableEq, Repr

/-- The convention with a name. -/
def Convention.ofName? : String → Option Convention
  | "camelCase" => some .camelCase
  | "PascalCase" => some .pascalCase
  | "SCREAMING_SNAKE" => some .screamingSnake
  | "snake_case" => some .snakeCase
  | "kebab-case" => some .kebabCase
  | _ => none

/-- The convention with a name that must be known. -/
def Convention.read (name : String) : Except Fault Convention :=
  match Convention.ofName? name with
  | some c => .ok c
  | none => .error (.badKey (.string name))

/-- The changes at which a word may begin. -/
inductive Boundary
  | lowerUpper
  | upperLower
  | acronym
  | lowerDigit
  | upperDigit
  | digitLower
  | digitUpper
  deriving DecidableEq, Repr

/-- The name of a boundary. -/
def Boundary.name : Boundary → String
  | .lowerUpper => "lower_upper"
  | .upperLower => "upper_lower"
  | .acronym => "acronym"
  | .lowerDigit => "lower_digit"
  | .upperDigit => "upper_digit"
  | .digitLower => "digit_lower"
  | .digitUpper => "digit_upper"

/-- The boundaries that are used unless excluded. A capital and a small letter are none of them, or
every capitalized word would be cut behind its first letter. -/
def usual : List Boundary :=
  [.lowerUpper, .acronym, .lowerDigit, .upperDigit, .digitLower, .digitUpper]

/-- The usual boundaries without those that have an excluded name. -/
def usualBut (excluded : List String) : List Boundary :=
  usual.filter fun b => !excluded.contains b.name

/-- What a boundary asks of a character. -/
inductive Trait
  | small
  | capital
  | digit
  deriving DecidableEq, Repr

/-- Whether a character has a trait. -/
def Trait.holds : Trait → Char → Bool
  | .small => isLower
  | .capital => isUpper
  | .digit => isDigit

/-- The traits of the characters before and behind a boundary, and of the one that follows, where
the boundary asks for it. -/
def Boundary.traits : Boundary → Trait × Trait × Option Trait
  | .lowerUpper => (.small, .capital, none)
  | .upperLower => (.capital, .small, none)
  | .acronym => (.capital, .capital, some .small)
  | .lowerDigit => (.small, .digit, none)
  | .upperDigit => (.capital, .digit, none)
  | .digitLower => (.digit, .small, none)
  | .digitUpper => (.digit, .capital, none)

/-- Whether a boundary lies between two characters; `next` follows the second. -/
def Boundary.lies (previous current : Char) (next : Option Char) (b : Boundary) : Bool :=
  let (before, behind, further) := b.traits
  before.holds previous && behind.holds current && further.all fun t => next.any t.holds

/-- The words of a piece behind the character `previous`; `word` is the word being read, in
reverse. -/
def cutFrom (boundaries : List Boundary) (previous : Char) (word : List Char) :
    List Char → List (List Char)
  | [] => [word.reverse]
  | c :: rest =>
    if boundaries.any (Boundary.lies previous c rest.head?) then
      word.reverse :: cutFrom boundaries c [c] rest
    else cutFrom boundaries c (c :: word) rest

/-- The words of a piece. -/
def cut (boundaries : List Boundary) : List Char → List (List Char)
  | [] => []
  | c :: rest => cutFrom boundaries c [c] rest

/-- The pieces between separators that are not empty; `piece` is the piece being read, in
reverse. -/
def piecesFrom (separates : Char → Bool) (piece : List Char) : List Char → List (List Char)
  | [] => if piece.isEmpty then [] else [piece.reverse]
  | c :: rest =>
    if separates c then
      if piece.isEmpty then piecesFrom separates [] rest
      else piece.reverse :: piecesFrom separates [] rest
    else piecesFrom separates (c :: piece) rest

/-- The pieces between separators that are not empty. -/
def pieces (separates : Char → Bool) (s : List Char) : List (List Char) :=
  piecesFrom separates [] s

/-- What separates the words of a text of no known convention. -/
def separatesAny (c : Char) : Bool := c = '_' || c = '-' || c = '.' || isBlank c

/-- What separates words under a convention. -/
def separator : Option Convention → Char → Bool
  | none => separatesAny
  | some .snakeCase | some .screamingSnake => (· = '_')
  | some .kebabCase => (· = '-')
  | some .camelCase | some .pascalCase => fun _ => false

/-- Whether words are cut at boundaries under a convention. -/
def usesBoundaries : Option Convention → Bool
  | none | some .camelCase | some .pascalCase => true
  | some .snakeCase | some .screamingSnake | some .kebabCase => false

/-- The words of a text; boundaries with an excluded name are not used. -/
def split (value : String) (convention : Option Convention) (excluded : List String) :
    List String :=
  let found := pieces (separator convention) value.toList
  let words :=
    if usesBoundaries convention then
      found.flatMap (cut (usualBut excluded))
    else found
  words.map String.ofList

end Words

end FunctionManual.Standard
