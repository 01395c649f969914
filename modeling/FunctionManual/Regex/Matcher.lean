import FunctionManual.Regex.Instruction

/-!
# Matching

Instructions mean a function from a position, a trail and a continuation to an outcome: it offers
the continuation one way to match after another, in the pattern's own order, and stops at the first
that succeeds. An attempt that fails hands its trail back: how far it came, and the marks it set.

* `Regex.Trail`: the marks set so far, and the position reached.
* `Trail.back`: what is kept of the trail of a failed attempt. Outside of loops a mark that an
  attempt has moved stays moved.
* `Regex.matchAll`: the meaning of instructions in a row.
-/

namespace FunctionManual.Regex

open FunctionManual.Text

/-- The position reached and the marks set so far. Marks from `live` on count as not set. -/
structure Trail where
  reached : Nat
  marks : Array (Option Nat)
  live : Nat := 0

/-- Whether an attempt succeeds, and the trail that it leaves. -/
abbrev Outcome := Bool × Trail

/-- What comes after an instruction, at a position. -/
abbrev Continuation := Nat → Trail → Outcome

/-- The meaning of an instruction, from a position on. -/
abbrev Step := Nat → Trail → Continuation → Outcome

namespace Trail

/-- The trail with another position reached. -/
def at_ (t : Trail) (pos : Nat) : Trail := { t with reached := pos }

/-- Sets a mark; marks passed over are no longer set. -/
def mark (t : Trail) (index pos : Nat) : Trail :=
  let cleared :=
    if index ≤ t.live then t.marks
    else t.marks.mapIdx fun i m => if t.live ≤ i && i < index then none else m
  { t with marks := cleared.setIfInBounds index (some pos), live := max t.live (index + 1) }

/-- The position of a mark that is set. -/
def mark? (t : Trail) (index : Nat) : Option Nat :=
  if index < t.live then t.marks[index]?.join else none

/-- Where a group starts and ends, if it has been matched. -/
def span? (t : Trail) (group : Nat) : Option (Nat × Nat) := do
  let stop ← t.mark? (stopMark group)
  let start ← t.mark? (startMark group)
  some (start, stop)

/-- The span of a group that ends where it starts, or later. -/
def soundSpan? (t : Trail) (group : Nat) : Option (Nat × Nat) :=
  (t.span? group).filter fun (start, stop) => start ≤ stop

/-- Goes back to `saved` from a failed attempt. Fewer marks count as set; those that still do are
moved back only if `restores`. -/
def back (t saved : Trail) (restores : Bool) : Trail :=
  { t with marks := if restores then saved.marks else t.marks, live := saved.live }

end Trail

/-- Ends an attempt here. -/
def finish : Continuation := fun pos t => (true, t.at_ pos)

/-- The outcome with `pos` as the position reached by a failure. -/
def Outcome.orFrom (o : Outcome) (pos : Nat) : Outcome :=
  match o with
  | (true, t) => (true, t)
  | (false, t) => (false, t.at_ pos)

/-! ## Positions -/

/-- Whether there is a word character at a position. -/
def wordAt (flags : Flags) (subject : Array Char) (pos : Nat) : Bool :=
  (subject[pos]?).any fun c => CharClass.word.holds flags.ascii c

/-- Whether a word starts or ends at a position. -/
def wordEdgeAt (flags : Flags) (subject : Array Char) (pos : Nat) : Bool :=
  wordAt flags subject pos != (0 < pos && wordAt flags subject (pos - 1))

/-- Whether an anchor holds at a position. -/
def Anchor.holds (flags : Flags) (subject : Array Char) (pos : Nat) : Anchor → Bool
  | .textStart => pos = 0
  | .textEnd => pos = subject.size
  | .lineStart => pos = 0 || (flags.multiline && subject[pos - 1]? = some '\n')
  | .lineEnd =>
    pos = subject.size
      || ((flags.multiline || pos + 1 = subject.size) && subject[pos]? = some '\n')
  | .wordEdge => !subject.isEmpty && wordEdgeAt flags subject pos
  | .notWordEdge => !subject.isEmpty && !wordEdgeAt flags subject pos

/-- Whether the text at a position repeats the text of a span. -/
def repeats (flags : Flags) (subject : Array Char) (start stop pos : Nat) : Bool :=
  let seen (c : Char) : Char := if flags.ignoreCase then Case.fold flags.ascii c else c
  pos + (stop - start) ≤ subject.size &&
    (List.range (stop - start)).all fun i =>
      (subject[start + i]?).map seen == (subject[pos + i]?).map seen

/-- Whether a character stands at a position. -/
def standsAt (subject : Array Char) (code pos : Nat) : Bool :=
  (subject[pos]?).any fun c => c.toNat = code

/-! ## Runs -/

/-- Where characters that `takes` accepts end, at most `limit` of them from a position on. -/
def runEnd (takes : Char → Bool) (subject : Array Char) : Nat → Nat → Nat
  | 0, pos => pos
  | limit + 1, pos =>
    if (subject[pos]?).any takes then runEnd takes subject limit (pos + 1) else pos

/-- Offers the continuation the positions from `first + extra` down to `first`; where `next` is
certain, only those where it stands. -/
def tryDown (subject : Array Char) (restores : Bool) (next : Option Nat) (saved : Trail)
    (first : Nat) (k : Continuation) (extra : Nat) (t : Trail) : Outcome :=
  let pos := first + extra
  let o : Outcome :=
    if next.all fun code => standsAt subject code pos then
      match k pos (t.at_ pos) with
      | (true, u) => (true, u)
      | (false, u) => (false, u.back saved restores)
    else (false, t)
  match o, extra with
  | (true, u), _ => (true, u)
  | (false, u), 0 => (false, u)
  | (false, u), n + 1 => tryDown subject restores next saved first k n u

/-- Offers the continuation the positions from `pos` up, as long as `takes` accepts the characters
passed over and at most `budget` of them. A `folded` test counts as an attempt of its own. -/
def tryUp (takes : Char → Bool) (folded : Bool) (subject : Array Char) (restores : Bool)
    (saved : Trail) (k : Continuation) : Nat → Option Nat → Nat → Trail → Outcome
  | 0, _, _, t => (false, t)
  | fuel + 1, budget, pos, t =>
    match k pos (t.at_ pos) with
    | (true, u) => (true, u)
    | (false, u) =>
      let u := (u.back saved restores).at_ pos
      if (subject[pos]?).any takes then
        let u := if folded then u.at_ (pos + 1) else u
        if budget = some 0 then (false, u)
        else tryUp takes folded subject restores saved k fuel (budget.map (· - 1)) (pos + 1) u
      else (false, u)

/-- Repeats an item that takes one character. -/
def runStep (subject : Array Char) (restores : Bool) (greed : Greed) (least : Nat)
    (most : Option Nat) (flags : Flags) (item : Single) (next : Option Nat) : Step :=
  fun pos t k =>
    let room := subject.size - pos
    if room < least then (false, t)
    else
      let takes (c : Char) : Bool := item.takes flags c
      let folded := item.isFolded flags
      let limit :=
        match greed with
        | .lazy => least
        | .greedy | .possessive => min room (most.getD room)
      let stop := runEnd takes subject limit pos
      let t := t.at_ (if folded then stop else pos)
      if stop - pos < least then (false, t)
      else
        match greed with
        | .greedy => tryDown subject restores next t (pos + least) k (stop - pos - least) t
        | .lazy =>
          tryUp takes folded subject restores t k (room + 1) (most.map (· - least)) stop t
        | .possessive => k stop t

/-! ## Loops -/

/-- Repeats a step as often as possible first; a step that stays in place is not taken twice. -/
def loopDown (step : Step) (least : Nat) (most : Option Nat) :
    Nat → Nat → Option Nat → Nat → Trail → Continuation → Outcome
  | 0, _, _, _, t, _ => (false, t)
  | fuel + 1, count, last, pos, t, k =>
    let t := t.at_ pos
    if count < least then
      Outcome.orFrom
        (step pos t fun q u => loopDown step least most fuel (count + 1) last q u k) pos
    else if most.any (· ≤ count) || last = some pos then Outcome.orFrom (k pos t) pos
    else
      match step pos t fun q u =>
          loopDown step least most fuel (count + 1) (some pos) q u k with
      | (true, u) => (true, u)
      | (false, _) => Outcome.orFrom (k pos t) pos

/-- Repeats a step as seldom as possible first; a step that stays in place is not taken twice. -/
def loopUp (step : Step) (restores : Bool) (least : Nat) (most : Option Nat) :
    Nat → Nat → Option Nat → Nat → Trail → Continuation → Outcome
  | 0, _, _, _, t, _ => (false, t)
  | fuel + 1, count, last, pos, t, k =>
    let t := t.at_ pos
    if count < least then
      Outcome.orFrom
        (step pos t fun q u => loopUp step restores least most fuel (count + 1) last q u k) pos
    else
      match k pos t with
      | (true, u) => (true, u)
      | (false, u) =>
        let u := (u.back t restores).at_ pos
        if most.any (· ≤ count) || last = some pos then (false, u)
        else
          Outcome.orFrom
            (step pos u fun q v =>
              loopUp step restores least most fuel (count + 1) (some pos) q v k) pos

/-- Repeats a step `n` times, each time in the first way that succeeds. -/
def holdLeast (step : Step) : Nat → Trail → Outcome
  | 0, t => (true, t)
  | n + 1, t =>
    match step t.reached t finish with
    | (true, u) => holdLeast step n u
    | (false, u) => (false, u)

/-- Repeats a step as often as possible, each time in the first way that succeeds. The position that
the last attempt reached stands, also if it failed. -/
def hold (step : Step) : Nat → Option Nat → Option Nat → Trail → Trail
  | 0, _, _, t => t
  | fuel + 1, budget, last, t =>
    if budget = some 0 || last = some t.reached then t
    else
      match step t.reached t finish with
      | (true, u) => hold step fuel (budget.map (· - 1)) (some t.reached) u
      | (false, u) => u.back t true

/-- More rounds than a loop over a text of `size` characters takes. -/
def rounds (least size : Nat) : Nat := least + (size + 2) * (size + 2)

/-- Repeats a step at least `least` and at most `most` times. -/
def loopStep (step : Step) (restores : Bool) (size : Nat) (greed : Greed) (least : Nat)
    (most : Option Nat) : Step :=
  fun pos t k =>
    let fuel := rounds least size
    match greed with
    | .greedy => loopDown step least most fuel 0 none pos t k
    | .lazy => loopUp step restores least most fuel 0 none pos t k
    | .possessive =>
      match holdLeast step least (t.at_ pos) with
      | (true, u) =>
        let v := hold step fuel (most.map (· - least)) none u
        k v.reached v
      | (false, u) => (false, u.at_ pos)

/-! ## Instructions -/

/-- Whether instructions begin with a plain item that does not take what stands at a position. -/
def refusedAtOnce (subject : Array Char) (pos : Nat) : List Instruction → Bool
  | .one flags item :: _ =>
    item.isPlain flags && !(subject[pos]?).any fun c => item.takes flags c
  | _ => false

mutual

/-- The meaning of one instruction; `inLoop` inside of a loop that may give matches back. -/
def Instruction.step (subject : Array Char) : Instruction → Bool → Step
  | .one flags item, _, pos, t, k =>
    match subject[pos]? with
    | some c => if item.takes flags c then k (pos + 1) t else (false, t)
    | none => (false, t)
  | .mark index, _, pos, t, k => k pos (t.mark index pos)
  | .anchor flags a, _, pos, t, k => if a.holds flags subject pos then k pos t else (false, t)
  | .choice alternatives, inLoop, pos, t, k => matchAny subject alternatives inLoop t pos t k
  | .run greed least most flags item next, inLoop, pos, t, k =>
    runStep subject inLoop greed least most flags item next pos t k
  | .loop greed least most body, inLoop, pos, t, k =>
    let inside := match greed with
      | .greedy | .lazy => true
      | .possessive => inLoop
    loopStep (matchAll subject body inside) inLoop subject.size greed least most pos t k
  | .atomic body, inLoop, pos, t, k =>
    match matchAll subject body inLoop pos (t.at_ pos) finish with
    | (true, u) => k u.reached u
    | (false, u) => (false, u.at_ pos)
  | .look negated back body, inLoop, pos, t, k =>
    if pos < back then if negated then k pos t else (false, t)
    else
      match matchAll subject body inLoop (pos - back) (t.at_ (pos - back)) finish with
      | (true, u) => if negated then (false, u) else k pos u
      | (false, u) => if negated then k pos (u.back t inLoop) else (false, u)
  | .backref flags group, _, pos, t, k =>
    match t.soundSpan? group with
    | some (start, stop) =>
      if repeats flags subject start stop pos then k (pos + (stop - start)) t else (false, t)
    | none => (false, t)
  | .condition group yes no, inLoop, pos, t, k =>
    if (t.soundSpan? group).isSome then matchAll subject yes inLoop pos t k
    else matchAll subject no inLoop pos t k

/-- The meaning of instructions in a row. -/
def matchAll (subject : Array Char) : List Instruction → Bool → Step
  | [], _, pos, t, k => k pos t
  | i :: rest, inLoop, pos, t, k =>
    i.step subject inLoop pos t fun q u => matchAll subject rest inLoop q u k

/-- The meaning of a choice that is entered with the trail `saved`: the earlier alternative goes
first. -/
def matchAny (subject : Array Char) : List (List Instruction) → Bool → Trail → Step
  | [], _, _, _, t, _ => (false, t)
  | row :: rest, inLoop, saved, pos, t, k =>
    if refusedAtOnce subject pos row then matchAny subject rest inLoop saved pos t k
    else
      match matchAll subject row inLoop pos (t.at_ pos) k with
      | (true, u) => (true, u)
      | (false, u) => matchAny subject rest inLoop saved pos (u.back saved inLoop) k

end

end FunctionManual.Regex
