/-!
# Regular expressions as trees

* `Regex.Flags`: the switches that a pattern turns on for itself or for a group.
* `Regex.Single`: an item that takes one character.
* `Regex.Node`: one item of a pattern; a pattern is a list of items that match one after another.
* `Regex.choiceOf`: a choice, with what its alternatives have in common taken out of it.
* `Regex.width`: the least and greatest number of characters an item can match.
-/

namespace FunctionManual.Regex

/-- The switches of a pattern. -/
structure Flags where
  ignoreCase : Bool := false
  multiline : Bool := false
  dotAll : Bool := false
  verbose : Bool := false
  ascii : Bool := false
  unicode : Bool := false
  template : Bool := false
  deriving DecidableEq, Repr

namespace Flags

/-- The switches on in either. -/
def union (f g : Flags) : Flags :=
  ⟨f.ignoreCase || g.ignoreCase, f.multiline || g.multiline, f.dotAll || g.dotAll,
    f.verbose || g.verbose, f.ascii || g.ascii, f.unicode || g.unicode, f.template || g.template⟩

/-- The switches on in both. -/
def inter (f g : Flags) : Flags :=
  ⟨f.ignoreCase && g.ignoreCase, f.multiline && g.multiline, f.dotAll && g.dotAll,
    f.verbose && g.verbose, f.ascii && g.ascii, f.unicode && g.unicode, f.template && g.template⟩

/-- The switches on in the first and off in the second. -/
def without (f g : Flags) : Flags :=
  ⟨f.ignoreCase && !g.ignoreCase, f.multiline && !g.multiline, f.dotAll && !g.dotAll,
    f.verbose && !g.verbose, f.ascii && !g.ascii, f.unicode && !g.unicode,
    f.template && !g.template⟩

/-- No switch is on. -/
def isEmpty (f : Flags) : Bool := f = {}

/-- Switches that choose the character tables exclude each other. -/
def hasTable (f : Flags) : Bool := f.ascii || f.unicode

/-- The switches inside a group that adds some and removes some. -/
def enter (f add remove : Flags) : Flags :=
  let base := if add.hasTable then { f with ascii := false, unicode := false } else f
  (base.union add).without remove

end Flags

/-- The character classes that patterns name. -/
inductive CharClass
  | digit
  | space
  | word
  deriving DecidableEq, Repr

/-- A member of a bracketed set. -/
inductive SetItem
  | char (code : Nat)
  | range (low high : Nat)
  | category (category : CharClass) (negated : Bool)
  deriving DecidableEq, Repr

/-- An item that takes one character. -/
inductive Single
  | char (code : Nat)
  | notChar (code : Nat)
  | any
  | set (negated : Bool) (items : List SetItem)
  deriving DecidableEq, Repr

/-- A condition on a position. -/
inductive Anchor
  | textStart
  | textEnd
  | lineStart
  | lineEnd
  | wordEdge
  | notWordEdge
  deriving DecidableEq, Repr

/-- In which order a loop tries its counts: many first, few first, or many for good. -/
inductive Greed
  | greedy
  | lazy
  | possessive
  deriving DecidableEq, Repr

/-- One item of a pattern. -/
inductive Node
  | one (item : Single)
  | anchor (anchor : Anchor)
  | group (index : Option Nat) (add remove : Flags) (body : List Node)
  | atomic (body : List Node)
  | branch (alternatives : List (List Node))
  | loop (greed : Greed) (least : Nat) (most : Option Nat) (body : List Node)
  | ahead (negated : Bool) (body : List Node)
  | behind (negated : Bool) (least most : Nat) (body : List Node)
  | backref (index : Nat)
  | conditional (index : Nat) (yes no : List Node)

/-! ## Widths -/

/-- Widths are not told apart from here on. -/
def maxWidth : Nat := Nat.pow 2 64

mutual

/-- The least and greatest width of one item, given the widths of the closed groups. -/
def Node.width (groups : Nat → Nat × Nat) : Node → Nat × Nat
  | .one _ => (1, 1)
  | .anchor _ | .ahead .. | .behind .. => (0, 0)
  | .group _ _ _ body => width groups body
  | .atomic body => width groups body
  | .branch alternatives => widest groups alternatives
  | .loop _ least most body =>
    let (lo, hi) := width groups body
    (lo * least, match most with
      | some m => hi * m
      | none => if hi = 0 then 0 else maxWidth)
  | .backref i => groups i
  | .conditional _ yes no =>
    let (a, b) := width groups yes
    let (c, d) := width groups no
    (min a c, max b d)

/-- The least and greatest width of items in a row. -/
def width (groups : Nat → Nat × Nat) : List Node → Nat × Nat
  | [] => (0, 0)
  | n :: rest =>
    let (a, b) := n.width groups
    let (c, d) := width groups rest
    (min (a + c) maxWidth, min (b + d) maxWidth)

/-- The least and greatest width of a choice. -/
def widest (groups : Nat → Nat × Nat) : List (List Node) → Nat × Nat
  | [] => (maxWidth, 0)
  | n :: rest =>
    let (a, b) := width groups n
    let (c, d) := widest groups rest
    (min a c, max b d)

end

/-! ## Choices -/

/-- Whether two items without a body are the same; items with a body are never alike. -/
def Node.isAlike : Node → Node → Bool
  | .one a, .one b => a = b
  | .anchor a, .anchor b => a = b
  | .backref i, .backref j => i = j
  | _, _ => false

/-- The items that a row and all others begin with, and what is left of the row and of the
others. -/
def commonStart : List Node → List (List Node) → List Node × List Node × List (List Node)
  | [], others => ([], [], others)
  | n :: rest, others =>
    if others.all fun row => row.head?.any n.isAlike then
      let (shared, row, left) := commonStart rest (others.map List.tail)
      (n :: shared, row, left)
    else ([], n :: rest, others)

/-- The members of the set that a row of one character or one set is. -/
def setOfRow? : List Node → Option (List SetItem)
  | [.one (.char code)] => some [.char code]
  | [.one (.set false items)] => some items
  | _ => none

/-- A choice between rows: items that all begin with come before it, and a choice between
characters is a set. -/
def choiceOf (first : List Node) (others : List (List Node)) : List Node :=
  let (shared, row, left) := commonStart first others
  shared ++ match (row :: left).mapM setOfRow? with
    | some sets => [.one (.set false sets.flatten.eraseDups)]
    | none => [.branch (row :: left)]

end FunctionManual.Regex
