import FunctionManual.Standard.Library

/-!
# Registries by name

* `Catalog`: modules with named attributes, some of which are registries or make one.
* `Catalog.load`: the registry that a target `module:attribute` names.
-/

namespace FunctionManual

open FunctionManual.Text

/-- An attribute of a module. A factory makes a registry, or fails, or is interrupted. -/
inductive Attribute
  | registry (value : Registry)
  | factory (made : Except Fault Registry)
  | interrupt
  | other (typeWord : String)

/-- A module. Modules with longer names may lie below a package only. -/
structure Module where
  name : String
  isPackage : Bool
  attributes : List (String × Attribute)

/-- Modules by their names. -/
abbrev Catalog := List Module

namespace Catalog

/-- Why a target names no registry. -/
inductive Problem
  | badTarget (target : String)
  | noModule (name missing : String) (below : Option String)
  | noAttribute (name member : String)
  | noRegistry (target typeWord : String)
  deriving DecidableEq, Repr

/-- The wording of a problem. -/
def Problem.message : Problem → String
  | .badTarget target =>
    s!"Registry must be given as 'module:attribute', got {quoted target}"
  | .noModule name missing below =>
    let place := match below with
      | some parent => s!"; {quoted parent} is not a package"
      | none => ""
    s!"Could not import {quoted name}: No module named {quoted missing}{place}"
  | .noAttribute name member => s!"Module {quoted name} has no attribute {quoted member}"
  | .noRegistry target word =>
    s!"{target} did not produce a FunctionRegistry (got {word})"

/-- Why no registry is loaded: the target names none, or making it fails or is interrupted. -/
inductive Failure
  | problem (problem : Problem)
  | fault (fault : Fault)
  | interrupted

/-- The texts before and behind the first colon; the latter is empty without a colon. -/
def splitTarget (target : String) : String × String :=
  let cs := target.toList
  (String.ofList (cs.takeWhile (· ≠ ':')), String.ofList ((cs.dropWhile (· ≠ ':')).drop 1))

/-- The names that a dotted name begins with, itself the last. -/
def dottedStarts (name : String) : List String :=
  let parts := (splitAtChar '.' name.toList).map String.ofList
  (List.range parts.length).map fun i => ".".intercalate (parts.take (i + 1))

/-- The module with a name. -/
def module? (c : Catalog) (name : String) : Option Module := c.find? (·.name = name)

/-- The first name that is missing, and the module that it is below if that is no package. -/
def missing? (c : Catalog) (above : Option Module) : List String → Option (String × Option String)
  | [] => none
  | name :: rest =>
    match above.filter fun m => !m.isPackage with
    | some m => some (name, some m.name)
    | none =>
      match c.module? name with
      | none => some (name, none)
      | some m => c.missing? (some m) rest

/-- The attributes of a module with a name. -/
def attributes (c : Catalog) (name : String) : Except Failure (List (String × Attribute)) :=
  if name.toList.head? = some '.' then
    .error (.fault (.badType ("the 'package' argument is required to perform a relative import " ++
      s!"for {quoted name}")))
  else
    match c.missing? none (dottedStarts name) with
    | some (missing, below) => .error (.problem (.noModule name missing below))
    | none => .ok (((c.module? name).map (·.attributes)).getD [])

/-- The registry that a target names. -/
def load (c : Catalog) (target : String) : Except Failure Registry := do
  let (name, member) := splitTarget target
  if name.isEmpty || member.isEmpty then throw (.problem (.badTarget target))
  match (← c.attributes name).lookup member with
  | none => throw (.problem (.noAttribute name member))
  | some (.registry r) => return r
  | some (.factory (.ok r)) => return r
  | some (.factory (.error f)) => throw (.fault f)
  | some .interrupt => throw .interrupted
  | some (.other word) => throw (.problem (.noRegistry target word))

end Catalog

/-- The modules that are always there. -/
def Catalog.standard : Catalog := [
  ⟨"exprdoc", true, []⟩,
  ⟨"exprdoc.stdlib", true, [
    ("build_registry", .factory (.ok Standard.registry)),
    ("REPOSITORY", .other "str"),
    ("ALL_FUNCTIONS", .other "tuple")]⟩]

end FunctionManual
