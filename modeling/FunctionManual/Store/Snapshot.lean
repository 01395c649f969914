import FunctionManual.Store.Basic
import FunctionManual.Value.Equal
import FunctionManual.Value.Json

/-!
# Snapshots

* `Snapshot`: what a datum holds, as a finite tree; a container that holds itself is marked at the
  inner place by the number of levels up to it.
* `Store.snapshot`: the snapshot of a datum.
* `Snapshot.toValue?`: the tree of a snapshot without such marks.
* `Snapshot.describe`: one line for readers.
-/

namespace FunctionManual

/-- What a datum holds. One level up is the container that directly holds the mark. -/
inductive Snapshot
  | scalar (value : Scalar)
  | array (items : List Snapshot)
  | object (members : List (Key × Snapshot))
  | back (levels : Nat)

namespace Store

/-- The snapshot of a datum inside the containers `above`, innermost first. -/
def snapshotUnder (s : Store) : Nat → List Nat → Datum → Snapshot
  | 0, _, _ => .scalar .null
  | fuel + 1, above, d =>
    match d with
    | .scalar v => .scalar v
    | .array a =>
      match above.findIdx? (· = a) with
      | some i => .back (i + 1)
      | none => .array ((s.items a).map fun x => s.snapshotUnder fuel (a :: above) x)
    | .object a =>
      match above.findIdx? (· = a) with
      | some i => .back (i + 1)
      | none =>
        .object ((s.members a).map fun (k, x) => (k, s.snapshotUnder fuel (a :: above) x))

/-- The snapshot of a datum. No path of distinct containers is longer than their number. -/
def snapshot (s : Store) (d : Datum) : Snapshot := s.snapshotUnder (s.cells.size + 2) [] d

end Store

namespace Snapshot

mutual

/-- The tree of a snapshot that holds no container twice on one path. -/
def toValue? : Snapshot → Option Value
  | .scalar v => some (.scalar v)
  | .array items => .array <$> itemsToValue? items
  | .object members => .object <$> membersToValue? members
  | .back _ => none

/-- The trees of items. -/
def itemsToValue? : List Snapshot → Option (List Value)
  | [] => some []
  | x :: rest => do
    let v ← toValue? x
    let vs ← itemsToValue? rest
    some (v :: vs)

/-- The trees of members. -/
def membersToValue? : List (Key × Snapshot) → Option (Members Value)
  | [] => some []
  | (k, x) :: rest => do
    let v ← toValue? x
    let vs ← membersToValue? rest
    some ((k, v) :: vs)

end

mutual

/-- A tree as a snapshot. -/
def ofValue : Value → Snapshot
  | .scalar v => .scalar v
  | .array items => .array (itemsOfValue items)
  | .object members => .object (membersOfValue members)

/-- Items as snapshots. -/
def itemsOfValue : List Value → List Snapshot
  | [] => []
  | v :: rest => ofValue v :: itemsOfValue rest

/-- Members as snapshots. -/
def membersOfValue : List (Key × Value) → List (Key × Snapshot)
  | [] => []
  | (k, v) :: rest => (k, ofValue v) :: membersOfValue rest

end

mutual

/-- How messages show a snapshot inside containers; `above` holds what stands for each of them,
innermost first. -/
def displayUnder (above : List String) : Snapshot → String
  | .scalar v => v.display
  | .array items => "[" ++ ", ".intercalate (displayItems ("[...]" :: above) items) ++ "]"
  | .object members =>
    "\x7b" ++ ", ".intercalate (displayMembers ("\x7b...\x7d" :: above) members) ++ "\x7d"
  | .back levels => above.getD (levels - 1) "..."

/-- The items of an array as messages show them. -/
def displayItems (above : List String) : List Snapshot → List String
  | [] => []
  | x :: rest => displayUnder above x :: displayItems above rest

/-- The members of an object as messages show them. -/
def displayMembers (above : List String) : List (Key × Snapshot) → List String
  | [] => []
  | (k, x) :: rest =>
    (k.toScalar.display ++ ": " ++ displayUnder above x) :: displayMembers above rest

end

mutual

/-- Whether every part of a snapshot has a text. -/
def isWritable : Snapshot → Bool
  | .scalar v => v.isWritable
  | .array items => itemsAreWritable items
  | .object members => membersAreWritable members
  | .back _ => true

/-- Whether all items have. -/
def itemsAreWritable : List Snapshot → Bool
  | [] => true
  | x :: rest => isWritable x && itemsAreWritable rest

/-- Whether all members have, with their keys. -/
def membersAreWritable : List (Key × Snapshot) → Bool
  | [] => true
  | (k, x) :: rest => k.toScalar.isWritable && isWritable x && membersAreWritable rest

end

/-- How messages show a snapshot. -/
def display (x : Snapshot) : String := x.displayUnder []

/-- One line for readers: JSON where the snapshot is a tree. -/
def describe (x : Snapshot) : String :=
  match x.toValue? with
  | some v => v.render
  | none => x.display

end Snapshot

end FunctionManual
