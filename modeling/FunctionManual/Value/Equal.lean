import FunctionManual.Value.Basic

/-!
# Equality of values

* `Value.looselyEqual`: compares numbers and truth values by what they count as.
* `Value.same`: compares kinds first, so `true`, `1` and `1.0` all differ. It fails on values that
  have no kind.

Neither regards the order of members.
-/

namespace FunctionManual.Value

mutual

/-- Equality across numbers and truth values. -/
def looselyEqual : Value → Value → Bool
  | .scalar a, .scalar b => a.looselyEqual b
  | .array xs, .array ys => itemsLooselyEqual xs ys
  | .object ms, .object ns => ms.length == ns.length && membersLooselyEqual ms ns
  | _, _ => false

/-- Equality of arrays item by item. -/
def itemsLooselyEqual : List Value → List Value → Bool
  | [], [] => true
  | x :: xs, y :: ys => looselyEqual x y && itemsLooselyEqual xs ys
  | _, _ => false

/-- Every member of the first is a member of the second. -/
def membersLooselyEqual : List (Key × Value) → List (Key × Value) → Bool
  | [], _ => true
  | (k, v) :: rest, ns =>
    (match Members.find? k ns with
      | some w => looselyEqual v w
      | none => false) && membersLooselyEqual rest ns

end

/-- A value that has no kind was met; its type is named. -/
structure NoKind where
  typeWord : String
  deriving DecidableEq, Repr

/-- The kind of a value that must have one. -/
def kind (v : Value) : Except NoKind Kind :=
  match v.kind? with
  | some k => .ok k
  | none => .error ⟨v.typeWord⟩

/-- The same keys in any order. -/
def sameKeys (ms ns : Members Value) : Bool :=
  ms.length == ns.length && ms.all fun (k, _) => Members.has k ns

mutual

/-- The same kind and the same content. -/
def same : Value → Value → Except NoKind Bool
  | .scalar a, w => do
    let k ← (scalar a).kind
    if k ≠ (← w.kind) then return false
    match w with
    | .scalar b => return a.looselyEqual b
    | _ => return false
  | .array xs, w => do
    match w with
    | .array ys => if xs.length == ys.length then sameItems xs ys else return false
    | _ => do
      let _ ← w.kind
      return false
  | .object ms, w => do
    match w with
    | .object ns => if sameKeys ms ns then sameMembers ms ns else return false
    | _ => do
      let _ ← w.kind
      return false

/-- The same items in the same order, compared up to the first that differs. -/
def sameItems : List Value → List Value → Except NoKind Bool
  | x :: xs, y :: ys => do
    if ← same x y then sameItems xs ys else return false
  | _, _ => return true

/-- The same values for all keys of the first, compared up to the first that differs. -/
def sameMembers : List (Key × Value) → List (Key × Value) → Except NoKind Bool
  | [], _ => return true
  | (k, v) :: rest, ns =>
    match Members.find? k ns with
    | some w => do
      if ← same v w then sameMembers rest ns else return false
    | none => return false

end

/-- The same value; one that has no kind is never the same. -/
def isSame (v w : Value) : Bool := (same v w).toOption.getD false

end FunctionManual.Value
