import FunctionManual.Regex.Matcher
import FunctionManual.Regex.Reader

/-!
# Searching

* `Regex.Start`: what is known of the character with which a match starts.
* `Regex.Match`: where a match starts and the trail that it leaves.
* `Regex.findAll`: the leftmost matches of a text that do not overlap.
-/

namespace FunctionManual.Regex

/-! ## Starts -/

/-- What is known of the character with which a match starts. -/
inductive Start
  | unknown
  | literal
  | set (negated : Bool) (items : List SetItem)

/-- The set of the plain characters with which rows begin, if all do. -/
def startsOfRows (flags : Flags) : List (List Node) → Option (List SetItem)
  | [] => some []
  | (.one (.char code) :: _) :: rest =>
    if (Single.char code).isPlain flags then (startsOfRows flags rest).map (.char code :: ·)
    else none
  | _ => none

/-- Whether case matters to a member of a set; of characters beyond the tables it may. -/
def SetItem.isCased (ascii : Bool) : SetItem → Bool
  | .char code => Case.isCased ascii code
  | .range low high => tableLimit ≤ high || Case.rangeIsCased ascii low high
  | .category _ _ => false

mutual

/-- The set with which an item begins. -/
def Node.startSet? : Node → Flags → Option (Bool × List SetItem)
  | .one (.set negated items), flags =>
    if flags.ignoreCase && items.any (·.isCased flags.ascii) then none else some (negated, items)
  | .group _ add remove body, flags => startSet? body (flags.enter add remove)
  | .branch alternatives, flags => (startsOfRows flags alternatives).map fun items => (false, items)
  | _, _ => none

/-- The set with which items in a row begin. -/
def startSet? : List Node → Flags → Option (Bool × List SetItem)
  | [], _ => none
  | n :: _, flags => n.startSet? flags

end

/-- Whether instructions begin with a certain character, behind marks. -/
def startsLiterally : List Instruction → Bool
  | .mark _ :: rest => startsLiterally rest
  | instructions => (literalStart? instructions none).isSome

/-- What is known of the start of a match; of one that may be empty nothing is. -/
def Pattern.start (p : Pattern) : Start :=
  if p.least = 0 then .unknown
  else if startsLiterally (instructions p.items p.flags none) then .literal
  else
    match startSet? p.items p.flags with
    | some (negated, items) => .set negated items
    | none => .unknown

/-! ## Matches -/

/-- A match: where it starts, and the trail that it leaves. -/
structure Match where
  start : Nat
  trail : Trail

namespace Match

/-- Where a match ends. -/
def stop (m : Match) : Nat := m.trail.reached

/-- The span of a group, zero being the whole match. -/
def span? (m : Match) (group : Nat) : Option (Nat × Nat) :=
  if group = 0 then some (m.start, m.stop) else m.trail.span? group

/-- The text of a group, zero being the whole match. -/
def group? (m : Match) (subject : Array Char) (group : Nat) : Option String :=
  (m.span? group).map fun (start, stop) =>
    String.ofList (subject.extract start stop).toList

/-- Whether no group ends before it starts. -/
def isSound (m : Match) (groups : Nat) : Bool :=
  (List.range groups).all fun i => (m.trail.span? (i + 1)).all fun (start, stop) => start ≤ stop

end Match

/-! ## Searching -/

/-- A pattern with what is known before the search. -/
structure Plan where
  instructions : List Instruction
  flags : Flags
  groups : Nat
  least : Nat
  start : Start

/-- The plan of a pattern. -/
def Plan.ofPattern (p : Pattern) : Plan :=
  ⟨Regex.instructions p.items p.flags none, p.flags, p.groups, p.least, p.start⟩

namespace Plan

/-- The match that starts at a position; `advance` refuses an empty one. -/
def matchAt (plan : Plan) (subject : Array Char) (advance : Bool) (start : Nat) : Option Match :=
  let origin : Trail := { reached := start, marks := Array.replicate (2 * plan.groups) none }
  match matchAll subject plan.instructions false start origin fun pos t =>
      if advance && pos = start then (false, t) else (true, t.at_ pos) with
  | (true, t) => some ⟨start, t⟩
  | (false, _) => none

/-- Whether a match is looked for at a position. -/
def mayStart (plan : Plan) (subject : Array Char) (pos : Nat) : Bool :=
  match plan.start, subject[pos]? with
  | .unknown, _ => true
  | _, none => false
  | .literal, some _ => true
  | .set negated items, some c =>
    (Single.set negated items).takes { plan.flags with ignoreCase := false } c

/-- The last position at which a match is looked for, behind `start`. -/
def lastStart (plan : Plan) (subject : Array Char) (start : Nat) : Nat :=
  match plan.start with
  | .unknown => max start (subject.size - (plan.least - 1))
  | .literal | .set _ _ => subject.size

/-- The leftmost match from a position on; `advance` refuses an empty match there. -/
def findFrom (plan : Plan) (subject : Array Char) (last : Nat) : Nat → Bool → Nat → Option Match
  | 0, _, _ => none
  | fuel + 1, advance, pos =>
    if last < pos then none
    else if !plan.mayStart subject pos then plan.findFrom subject last fuel false (pos + 1)
    else
      match plan.matchAt subject advance pos with
      | some m => some m
      | none => plan.findFrom subject last fuel false (pos + 1)

/-- The leftmost match from a position on, where there is room for one. -/
def find? (plan : Plan) (subject : Array Char) (advance : Bool) (start : Nat) : Option Match :=
  if subject.size < start + plan.least then none
  else plan.findFrom subject (plan.lastStart subject start) (subject.size + 1) advance start

/-- The matches from a position on: each starts where the last one ends, and at the end of an empty
match no second empty match is found. -/
def findAllFrom (plan : Plan) (subject : Array Char) : Nat → Bool → Nat → List Match
  | 0, _, _ => []
  | fuel + 1, advance, start =>
    match plan.find? subject advance start with
    | some m => m :: plan.findAllFrom subject fuel (m.stop = m.start) m.stop
    | none => []

end Plan

/-- All matches of a pattern in a text. -/
def findAll (pattern : Pattern) (subject : Array Char) : List Match :=
  (Plan.ofPattern pattern).findAllFrom subject (2 * subject.size + 2) false 0

end FunctionManual.Regex
