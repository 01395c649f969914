import FunctionManual.Value.Basic

/-!
# Shared values

While a program runs, arrays and objects live in a store and values hold their addresses, so two
places can hold the same container and a container can hold itself.

* `Datum`: a scalar, or the address of a container.
* `Store`: the containers.
* `Store.view`: one layer of a datum.
* `Store.write`: changes one member of one object.
* `Store.load`: puts a tree into fresh containers.
-/

namespace FunctionManual

/-- A value of a running program. -/
inductive Datum
  | scalar (value : Scalar)
  | array (address : Nat)
  | object (address : Nat)
  deriving DecidableEq

/-- A container. -/
inductive Cell
  | array (items : List Datum)
  | object (members : Members Datum)

/-- The containers of a running program; an address is a place among them. -/
structure Store where
  cells : Array Cell := #[]

namespace Store

/-- The items of an array. -/
def items (s : Store) (address : Nat) : List Datum :=
  match s.cells[address]? with
  | some (.array xs) => xs
  | _ => []

/-- The members of an object. -/
def members (s : Store) (address : Nat) : Members Datum :=
  match s.cells[address]? with
  | some (.object ms) => ms
  | _ => []

/-- One layer of a datum. -/
def view (s : Store) : Datum → View Datum
  | .scalar v => .scalar v
  | .array a => .array (s.items a)
  | .object a => .object (s.members a)

/-- Adds a container and returns its address. -/
def add (s : Store) (cell : Cell) : Nat × Store := (s.cells.size, ⟨s.cells.push cell⟩)

/-- Adds an array. -/
def addArray (s : Store) (xs : List Datum) : Datum × Store :=
  let (a, s') := s.add (.array xs)
  (.array a, s')

/-- Adds an object. -/
def addObject (s : Store) (ms : Members Datum) : Datum × Store :=
  let (a, s') := s.add (.object ms)
  (.object a, s')

/-- Sets one member of an object. -/
def write (s : Store) (address : Nat) (key : Key) (value : Datum) : Store :=
  ⟨s.cells.setIfInBounds address (.object ((s.members address).insert key value))⟩

mutual

/-- Puts a tree into fresh containers. -/
def load (s : Store) : Value → Datum × Store
  | .scalar v => (.scalar v, s)
  | .array items =>
    let (xs, s') := loadItems s items
    s'.addArray xs
  | .object members =>
    let (ms, s') := loadMembers s members
    s'.addObject ms

/-- Puts the items of an array into fresh containers. -/
def loadItems (s : Store) : List Value → List Datum × Store
  | [] => ([], s)
  | v :: rest =>
    let (d, s') := load s v
    let (ds, s'') := loadItems s' rest
    (d :: ds, s'')

/-- Puts the members of an object into fresh containers. -/
def loadMembers (s : Store) : List (Key × Value) → Members Datum × Store
  | [] => ([], s)
  | (k, v) :: rest =>
    let (d, s') := load s v
    let (ms, s'') := loadMembers s' rest
    ((k, d) :: ms, s'')

end

/-- The kind of a datum, where it has one. -/
def kind? (s : Store) (d : Datum) : Option Kind := (s.view d).kind?

end Store

/-- Whether a datum is null. -/
def Datum.isNull : Datum → Bool
  | .scalar .null => true
  | _ => false

end FunctionManual
