import FunctionManual.Text.Lines

/-!
# Differences of texts

Two lists of lines are compared by their longest common runs: the longest run of equal lines splits
both lists, and the parts before and behind it are compared in the same way.

* `Difference.blocks`: the common runs in order. They lie in both lists in the same order.
* `Difference.edits`: the parts that are kept, removed, added or replaced.
* `Difference.hunks`: the changes, each with up to three kept lines around it.
* `Difference.unified`: the text of a difference; equal texts have an empty one.
-/

namespace FunctionManual.Text.Difference

/-! ## Common runs -/

/-- A run of `size` equal lines, from line `left` of one list and line `right` of the other. -/
structure Block where
  left : Nat
  right : Nat
  size : Nat
  deriving DecidableEq, Repr

/-- In a long list, a line at more than one place in a hundred starts no run. -/
def isCommon (total places : Nat) : Bool := 200 ≤ total && total / 100 + 1 < places

/-- The places of a line among lines counted from `i`. -/
def placesFrom (line : String) (i : Nat) : List String → List Nat
  | [] => []
  | l :: rest =>
    if l = line then i :: placesFrom line (i + 1) rest else placesFrom line (i + 1) rest

/-- The places of a line from which a run may grow. -/
def places (lines : List String) (line : String) : List Nat :=
  let found := placesFrom line 0 lines
  if isCommon lines.length found.length then [] else found

/-- The lengths of the runs that end at one line of the left list: each continues the run that ended
at the line before and one place earlier. Places are in order. -/
def continueRuns : List (Nat × Nat) → List Nat → List (Nat × Nat)
  | _, [] => []
  | before, j :: rest =>
    let here := before.dropWhile fun (i, _) => i + 1 < j
    let size := match here with
      | (i, k) :: _ => if i + 1 = j then k + 1 else 1
      | [] => 1
    (j, size) :: continueRuns here rest

/-- The longer of a block and the runs that end at the line `i`; the first wins. -/
def longer (i : Nat) (best : Block) (runs : List (Nat × Nat)) : Block :=
  runs.foldl (fun b (j, k) => if b.size < k then ⟨i + 1 - k, j + 1 - k, k⟩ else b) best

/-- The longest run that grows in a part of both lists; `starts` holds the places of every line of
the left list. -/
def longestIn (starts : Array (List Nat)) (left leftEnd right rightEnd : Nat) : Block :=
  ((List.range' left (leftEnd - left)).foldl (fun (best, before) i =>
    let js := (starts[i]?.getD []).filter fun j => right ≤ j && j < rightEnd
    let runs := continueRuns before js
    (longer i best runs, runs)) (⟨left, right, 0⟩, ([] : List (Nat × Nat)))).1

/-- Extends a block to the front as far as the lines are equal. -/
def extendFront (a b : Array String) (left right : Nat) : Nat → Nat → Nat → Block
  | i + 1, j + 1, k =>
    if left ≤ i && right ≤ j && a[i]? = b[j]? then extendFront a b left right i j (k + 1)
    else ⟨i + 1, j + 1, k⟩
  | i, j, k => ⟨i, j, k⟩

/-- The number of equal lines from two places on, at most `n`. -/
def equalFrom (a b : Array String) (i j : Nat) : Nat → Nat
  | 0 => 0
  | n + 1 => if a[i]? = b[j]? then equalFrom a b (i + 1) (j + 1) n + 1 else 0

/-- The longest run in a part of both lists, extended by equal lines at both ends. -/
def longestBlock (a b : Array String) (starts : Array (List Nat))
    (left leftEnd right rightEnd : Nat) : Block :=
  let seed := longestIn starts left leftEnd right rightEnd
  let front := extendFront a b left right seed.left seed.right seed.size
  let i := front.left + front.size
  let j := front.right + front.size
  { front with size := front.size + equalFrom a b i j (min (leftEnd - i) (rightEnd - j)) }

/-- The common runs in a part of both lists, in order. -/
def blocksIn (a b : Array String) (starts : Array (List Nat))
    (left leftEnd right rightEnd : Nat) : List Block :=
  match longestBlock a b starts left leftEnd right rightEnd with
  | ⟨i, j, k⟩ =>
    if _h : 0 < k ∧ left ≤ i ∧ i + k ≤ leftEnd then
      let before := if left < i && right < j then blocksIn a b starts left i right j else []
      let behind :=
        if i + k < leftEnd && j + k < rightEnd then
          blocksIn a b starts (i + k) leftEnd (j + k) rightEnd
        else []
      before ++ ⟨i, j, k⟩ :: behind
    else []
termination_by leftEnd - left
decreasing_by all_goals omega

/-- Joins runs that touch in both lists; `m` is the run before. -/
def joinTouching (m : Block) : List Block → List Block
  | [] => if m.size = 0 then [] else [m]
  | n :: rest =>
    if m.left + m.size = n.left ∧ m.right + m.size = n.right then
      joinTouching { m with size := m.size + n.size } rest
    else if m.size = 0 then joinTouching n rest
    else m :: joinTouching n rest

/-- The common runs of two lists, in order. -/
def blocks (a b : List String) : List Block :=
  let starts := (a.map (places b)).toArray
  joinTouching ⟨0, 0, 0⟩ (blocksIn a.toArray b.toArray starts 0 a.length 0 b.length)

/-! ## Edits -/

/-- A part of both lists that is kept, or changed from the left to the right. -/
structure Edit where
  kept : Bool
  left : Nat
  leftEnd : Nat
  right : Nat
  rightEnd : Nat
  deriving DecidableEq, Repr

/-- The edit between two runs, if there is anything between them. -/
def gap (i j left right : Nat) : List Edit :=
  if i < left || j < right then [⟨false, i, left, j, right⟩] else []

/-- The edits from two places on. -/
def editsFrom (i j : Nat) (leftEnd rightEnd : Nat) : List Block → List Edit
  | [] => gap i j leftEnd rightEnd
  | m :: rest =>
    gap i j m.left m.right ++
      ⟨true, m.left, m.left + m.size, m.right, m.right + m.size⟩ ::
        editsFrom (m.left + m.size) (m.right + m.size) leftEnd rightEnd rest

/-- The edits that make the right list out of the left one. -/
def edits (a b : List String) : List Edit := editsFrom 0 0 a.length b.length (blocks a b)

/-! ## Hunks -/

/-- The number of kept lines around a change. -/
def context : Nat := 3

/-- The last kept lines of an edit. -/
def Edit.lastLines (e : Edit) : Edit :=
  { e with left := max e.left (e.leftEnd - context), right := max e.right (e.rightEnd - context) }

/-- The first kept lines of an edit. -/
def Edit.firstLines (e : Edit) : Edit :=
  { e with
    leftEnd := min e.leftEnd (e.left + context)
    rightEnd := min e.rightEnd (e.right + context) }

/-- Cuts kept lines at the start down to the last of them. -/
def trimStart : List Edit → List Edit
  | [] => []
  | e :: rest => (if e.kept then e.lastLines else e) :: rest

/-- Cuts kept lines at the end down to the first of them. -/
def trimEnd : List Edit → List Edit
  | [] => []
  | [e] => [if e.kept then e.firstLines else e]
  | e :: rest => e :: trimEnd rest

/-- A group of edits that changes something. -/
def closeGroup (group : List Edit) : List (List Edit) :=
  if group.any fun e => !e.kept then [group] else []

/-- Groups edits; many kept lines end a group and begin the next. -/
def groupEdits (group : List Edit) : List Edit → List (List Edit)
  | [] => closeGroup group
  | e :: rest =>
    if e.kept && context + context < e.leftEnd - e.left then
      (group ++ [e.firstLines]) :: groupEdits [e.lastLines] rest
    else groupEdits (group ++ [e]) rest

/-- The changes, each with the kept lines around it. -/
def hunks (a b : List String) : List (List Edit) := groupEdits [] (trimEnd (trimStart (edits a b)))

/-! ## Text -/

/-- A range of lines: the first and their number, or the first alone. An empty range names the line
before it. -/
def rangeText (start stop : Nat) : String :=
  if stop - start = 1 then s!"{start + 1}"
  else
    let first := if stop - start = 0 then start else start + 1
    s!"{first},{stop - start}"

/-- Lines with a mark in front. -/
def marked (mark : String) (lines : List String) : String :=
  String.join (lines.map fun l => mark ++ l)

/-- The lines of a part of a list. -/
def slice (lines : List String) (start stop : Nat) : List String :=
  (lines.drop start).take (stop - start)

/-- The lines of an edit. -/
def Edit.text (a b : List String) (e : Edit) : String :=
  if e.kept then marked " " (slice a e.left e.leftEnd)
  else marked "-" (slice a e.left e.leftEnd) ++ marked "+" (slice b e.right e.rightEnd)

/-- The head of a hunk: the ranges of both lists. -/
def hunkHead (group : List Edit) : String :=
  match group.head?, group.getLast? with
  | some first, some last =>
    let left := rangeText first.left last.leftEnd
    let right := rangeText first.right last.rightEnd
    s!"@@ -{left} +{right} @@\n"
  | _, _ => ""

/-- The text of a hunk. -/
def hunkText (a b : List String) (group : List Edit) : String :=
  hunkHead group ++ String.join (group.map fun e => e.text a b)

/-- The text of a difference under the names of both sides. -/
def unified (left right leftName rightName : String) : String :=
  let a := splitLines left
  let b := splitLines right
  match hunks a b with
  | [] => ""
  | groups =>
    s!"--- {leftName}\n+++ {rightName}\n" ++ String.join (groups.map fun g => hunkText a b g)

end FunctionManual.Text.Difference
