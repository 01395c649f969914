import FunctionManual.Regex.Single

/-!
# Patterns as instructions

Groups become marks where they start and end, and switches are spread over the instructions that
they rule.

* `Regex.Instruction`: one step of matching.
* `Regex.instructions`: the instructions of items in a row.
-/

namespace FunctionManual.Regex

/-- One step of matching. A run repeats an item that takes one character, and knows the character
that comes next at once, if that is certain. -/
inductive Instruction
  | one (flags : Flags) (item : Single)
  | mark (index : Nat)
  | anchor (flags : Flags) (anchor : Anchor)
  | choice (alternatives : List (List Instruction))
  | run (greed : Greed) (least : Nat) (most : Option Nat) (flags : Flags) (item : Single)
      (next : Option Nat)
  | loop (greed : Greed) (least : Nat) (most : Option Nat) (body : List Instruction)
  | atomic (body : List Instruction)
  | look (negated : Bool) (back : Nat) (body : List Instruction)
  | backref (flags : Flags) (index : Nat)
  | condition (index : Nat) (yes no : List Instruction)

/-- The mark where a group starts. -/
def startMark (index : Nat) : Nat := 2 * (index - 1)

/-- The mark where a group ends. -/
def stopMark (index : Nat) : Nat := 2 * (index - 1) + 1

mutual

/-- The item that takes one character, if a node is no more than that. -/
def Node.single? : Node → Flags → Option (Flags × Single)
  | .one item, flags => some (flags, item)
  | .group none add remove body, flags => single? body (flags.enter add remove)
  | _, _ => none

/-- The item that takes one character, if a row is no more than that. -/
def single? : List Node → Flags → Option (Flags × Single)
  | [n], flags => n.single? flags
  | _, _ => none

end

/-- The character that instructions begin with, if it is certain; `next` comes behind them. -/
def literalStart? (instructions : List Instruction) (next : Option Nat) : Option Nat :=
  match instructions with
  | [] => next
  | .one flags item :: _ => item.literal? flags
  | _ => none

mutual

/-- The instructions of one item; `next` is the character that comes at once behind it, if that is
certain. -/
def Node.instructions : Node → Flags → Option Nat → List Instruction
  | .one item, flags, _ => [.one flags item]
  | .anchor a, flags, _ => [.anchor flags a]
  | .group index add remove body, flags, next =>
    match index with
    | none => instructions body (flags.enter add remove) next
    | some i =>
      .mark (startMark i) :: instructions body (flags.enter add remove) none ++
        [.mark (stopMark i)]
  | .atomic body, flags, _ => [.atomic (instructions body flags none)]
  | .branch alternatives, flags, _ => [.choice (instructionsOfAll alternatives flags)]
  | .loop greed least most body, flags, next =>
    match single? body flags with
    | some (inner, item) => [.run greed least most inner item next]
    | none => [.loop greed least most (instructions body flags none)]
  | .ahead negated body, flags, _ => [.look negated 0 (instructions body flags none)]
  | .behind negated width _ body, flags, _ => [.look negated width (instructions body flags none)]
  | .backref i, flags, _ => [.backref flags i]
  | .conditional i yes no, flags, next =>
    let after := if no.isEmpty then next else none
    [.condition i (instructions yes flags after) (instructions no flags next)]

/-- The instructions of items in a row. -/
def instructions : List Node → Flags → Option Nat → List Instruction
  | [], _, _ => []
  | n :: rest, flags, next =>
    let later := instructions rest flags next
    n.instructions flags (literalStart? later next) ++ later

/-- The instructions of alternatives. -/
def instructionsOfAll : List (List Node) → Flags → List (List Instruction)
  | [], _ => []
  | row :: rest, flags => instructions row flags none :: instructionsOfAll rest flags

end

end FunctionManual.Regex
