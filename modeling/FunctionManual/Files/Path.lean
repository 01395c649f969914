/-!
# Paths

* `Path`: a root, which is empty for a relative path, and the names below it.
* `Path.read`: empty names and single points are dropped, double points are kept.
* `Path.join`: what a text names from a path; a text with a root of its own leads away.
* `Path.text`: the canonical text; a path without names is a single point.
-/

namespace FunctionManual

/-- A path of names from a root. -/
structure Path where
  root : String := ""
  names : List String := []
  deriving DecidableEq, Repr

namespace Path

/-- The pieces of a text between slashes. -/
def pieces (s : List Char) : List (List Char) :=
  match s with
  | [] => [[]]
  | c :: rest =>
    match pieces rest with
    | [] => [[c]]
    | p :: ps => if c = '/' then [] :: p :: ps else (c :: p) :: ps

/-- The root of a path: two slashes that are not three are a root of their own. -/
def rootOf (s : List Char) : String :=
  match s with
  | '/' :: '/' :: '/' :: _ => "/"
  | '/' :: '/' :: _ => "//"
  | '/' :: _ => "/"
  | _ => ""

/-- Reads a path. -/
def read (s : String) : Path :=
  let names := (pieces s.toList).map String.ofList
  ⟨rootOf s.toList, names.filter fun n => n ≠ "" && n ≠ "."⟩

/-- The path that a text names from a path: one below it, or one of its own where the text has a
root. -/
def join (p : Path) (s : String) : Path :=
  let q := read s
  if q.root.isEmpty then { p with names := p.names ++ q.names } else q

/-- The canonical text of a path. -/
def text (p : Path) : String :=
  if p.root.isEmpty && p.names.isEmpty then "." else p.root ++ "/".intercalate p.names

/-- The path of a name below a path. -/
def child (p : Path) (name : String) : Path := { p with names := p.names ++ [name] }

/-- The path that a path is directly below. -/
def parent (p : Path) : Path := { p with names := p.names.dropLast }

/-- The last name of a path. -/
def name (p : Path) : String := p.names.getLast?.getD ""

end Path

end FunctionManual
