import FunctionManual.Evaluation.Compile
import FunctionManual.Syntax.Parser

/-!
# Running programs

* `Scope`: the event and the variables of one run.
* `evalExpr`: the value of an expression; only its calls act.
* `runStatement`: assignments change the scope, or one member of one object.
* `evaluate`: reads, checks and runs a program.
-/

namespace FunctionManual

/-- The event and the variables of one run, in the order of their first assignment. -/
structure Scope where
  event : Datum
  assigned : Arguments := []

/-! ## Paths -/

/-- Follows names through objects; what is missing is null. -/
def readPath (s : Store) (d : Datum) : List String → Datum
  | [] => d
  | name :: rest =>
    match d with
    | .object a => readPath s (((s.members a).find? (.text name)).getD (.scalar .null)) rest
    | _ => .scalar .null

/-- Sets the last of the names below an object; what is missing on the way is made an object. -/
def writePath (value : Datum) (address : Nat) : List String → Store → Store
  | [], s => s
  | [name], s => s.write address (.text name) value
  | name :: rest, s =>
    match (s.members address).find? (.text name) with
    | some (.object child) => writePath value child rest s
    | _ =>
      let (child, s') := s.add (.object [])
      writePath value child rest (s'.write address (.text name) (.object child))

/-- Assigns to a path; an event that is no object is replaced by an empty one first. -/
def assignPath (scope : Scope) (names : List String) (value : Datum) : Action Scope :=
  match names with
  | [] => return { scope with event := value }
  | _ => Action.change fun s =>
    match scope.event with
    | .object a => (scope, writePath value a names s)
    | _ =>
      let (a, s') := s.add (.object [])
      ({ scope with event := .object a }, writePath value a names s')

/-! ## Calls -/

/-- Whether a datum equals a tree. -/
def equalsValue (s : Store) (d : Datum) (v : Value) : Bool :=
  ((s.snapshot d).toValue?).any fun w => w.looselyEqual v

/-- Whether all chosen values are among the variants: those of an array, or the value itself. -/
def amongVariants (s : Store) (variants : List Variant) (d : Datum) : Bool :=
  let chosen := match d with
    | .array a => s.items a
    | _ => [d]
  chosen.all fun c => variants.any fun v => equalsValue s c v.value

/-- The variants as a message lists them. -/
def variantList (variants : List Variant) : String :=
  ", ".intercalate (variants.map fun v => "\"" ++ v.value.plain ++ "\"")

/-- The name of the kind of a datum. -/
def kindName (s : Store) (d : Datum) : Except Fault String :=
  match (s.view d).kind? with
  | some k => .ok k.name
  | none => .error (.ofNoKind ⟨(s.view d).typeWord⟩)

/-- Whether a value has the type of a parameter; without a type it has none. -/
def acceptsDatum (s : Store) (type : Option TypeSpec) (d : Datum) : Bool :=
  type.any fun t => t.accepts s.view d

/-- The complaint about the value of a parameter, if there is one. -/
def checkValue (s : Store) (p : Parameter) (d : Datum) : Except Fault Unit := do
  if !acceptsDatum s p.type d then
    let wanted := (p.type.map TypeSpec.render).getD ""
    let found ← kindName s d
    throw (.expression (.reason
      s!"expected {wanted} for argument \"{p.name.plain}\", got {found}"))
  if !p.variants.isEmpty && !amongVariants s p.variants d then
    let allowed := variantList p.variants
    throw (.expression (.reason
      s!"invalid value for argument \"{p.name.plain}\": expected one of {allowed}"))

/-- Checks the bound parameters and binds the defaults of the others, in the order of the doc. -/
def bindParameters : List Parameter → Arguments → Action Arguments
  | [], bound => return bound
  | p :: rest, bound => do
    let name := p.name.plain
    match bound.lookup name with
    | some d =>
      let checked ← Action.look fun s => checkValue s p d
      Action.ofExcept checked
      bindParameters rest bound
    | none =>
      if p.default.isNull then bindParameters rest bound
      else
        let d ← Action.load p.default
        bindParameters rest (bound ++ [(name, d)])

/-- Calls a function with the arguments given; its complaints name the call. -/
def callEntry (entry : Entry) (span : Span) (given : Arguments) : Action Datum :=
  Action.mapExpressionError (fun e => .call entry.identifier span e.message) do
    let bound ← bindParameters entry.doc.parameters given
    entry.evaluator bound

/-- The function of a call. A program that was checked calls no other. -/
def entryOf (r : Registry) (name : String) : Action Entry :=
  match r.find? name with
  | some entry => return entry
  | none => Action.fail (.raised "AssertionError" "compile() guarantees the function exists")

/-- The parameter of an argument: the one named, or the one at its place. -/
def argumentName (doc : FunctionDoc) (place : Nat) (name : Option String) : Action String :=
  match name with
  | some n => return n
  | none =>
    match doc.parameters[place]? with
    | some p => return p.name.plain
    | none => Action.fail (.raised "IndexError" "tuple index out of range")

/-! ## Expressions -/

/-- The value of a variable. -/
def readVariable (scope : Scope) (name : String) (span : Span) : Action Datum :=
  match scope.assigned.lookup name with
  | some d => return d
  | none => Action.fail (.expression (.compile ⟨.undefinedVariable, name, span⟩))

mutual

/-- The value of an expression. -/
def evalExpr (r : Registry) (scope : Scope) : Expr → Action Datum
  | .literal v => return .scalar v
  | .array items => do
    let ds ← evalItems r scope items
    Action.change fun s => s.addArray ds
  | .object entries => do
    let ms ← evalEntries r scope entries
    Action.change fun s => s.addObject (Members.ofList ms)
  | .variable name span => readVariable scope name span
  | .path names => Action.look fun s => readPath s scope.event names
  | .call name arguments _ span => do
    let entry ← entryOf r name
    let given ← evalArguments r scope entry.doc 0 [] arguments
    callEntry entry span given

/-- The values of items in order. -/
def evalItems (r : Registry) (scope : Scope) : List Expr → Action (List Datum)
  | [] => return []
  | e :: rest => do
    let d ← evalExpr r scope e
    let ds ← evalItems r scope rest
    return d :: ds

/-- The values of entries in order. -/
def evalEntries (r : Registry) (scope : Scope) : List (String × Expr) → Action (Members Datum)
  | [] => return []
  | (k, e) :: rest => do
    let d ← evalExpr r scope e
    let ms ← evalEntries r scope rest
    return (.text k, d) :: ms

/-- Binds the values of arguments in order; `place` is the place of the next one. -/
def evalArguments (r : Registry) (scope : Scope) (doc : FunctionDoc) (place : Nat)
    (bound : Arguments) : List (Option String × Expr) → Action Arguments
  | [] => return bound
  | (n, e) :: rest => do
    let name ← argumentName doc place n
    let d ← evalExpr r scope e
    evalArguments r scope doc (place + 1) (bound.bind name d) rest

end

/-! ## Programs -/

/-- Runs a statement; an assignment has the value that it assigns. -/
def runStatement (r : Registry) (scope : Scope) : Statement → Action (Datum × Scope)
  | .expr e => do
    let d ← evalExpr r scope e
    return (d, scope)
  | .assign target e => do
    let d ← evalExpr r scope e
    match target with
    | .variable name _ => return (d, { scope with assigned := scope.assigned.bind name d })
    | .path names =>
      let scope' ← assignPath scope names d
      return (d, scope')

/-- Runs statements; the value is that of the last, or null. -/
def runProgram (r : Registry) (scope : Scope) (last : Datum) : Program → Action (Datum × Scope)
  | [] => return (last, scope)
  | s :: rest => do
    let (d, scope') ← runStatement r scope s
    runProgram r scope' d rest

/-- The scope in which a program starts: its event is a copy of the bindings, or an empty object. -/
def startScope (bindings : Value) : Action Scope := do
  let event ← Action.load (if bindings.isNull then .object [] else bindings)
  return { event }

/-- Reads and checks a program. -/
def prepare (r : Registry) (source : String) : Except Fault Program := do
  let p ← (Syntax.parse source).mapError Fault.ofRefusal
  (compile r p).mapError fun e => .expression (.compile e)
  return p

/-- Reads, checks and runs a program. -/
def perform (r : Registry) (source : String) (bindings : Value) : Action Snapshot := do
  let p ← Action.ofExcept (prepare r source)
  let scope ← startScope bindings
  let (d, _) ← runProgram r scope (.scalar .null) p
  Action.look fun s => s.snapshot d

/-- The result of an evaluation. -/
abbrev Result := Except Failure Snapshot

/-- An evaluation: the time it took, and its result or the fault it ended in. -/
structure Evaluation where
  elapsed : Nat
  outcome : Except Fault Result

/-- The failure that an error of an expression is reported as. -/
def Failure.ofError (e : ExpressionError) : Failure := ⟨e.phase.name, e.message⟩

/-- Evaluates a program in a machine of its own. Errors of expressions are results. -/
def evaluate (r : Registry) (source : String) (bindings : Value) : Evaluation :=
  match perform r source bindings {} with
  | (.ok x, m) => ⟨m.elapsed, .ok (.ok x)⟩
  | (.error (.expression e), m) => ⟨m.elapsed, .ok (.error (.ofError e))⟩
  | (.error f, m) => ⟨m.elapsed, .error f⟩

end FunctionManual
