import FunctionManual.Fault
import FunctionManual.Files.Path
import FunctionManual.Text.Utf8

/-!
# Files

* `Place`: the names on the way from the working directory, or from the root.
* `Files`: files and directories by their places.
* `Files.locate`: the place that a path names; every name on the way must be a directory.
* `FileAction`: a step that reads or changes files, and may fail.
* `FileAction.ensureDirectory`: makes a directory and those above it, where they are missing.
-/

namespace FunctionManual

/-- The names on the way to a file or directory: from the working directory, through double points
above it, or from the root where the first name is a slash. -/
abbrev Place := List String

namespace Place

/-- The working directory. -/
def start : Place := []

/-- The root. -/
def root : Place := ["/"]

/-- The working directory and those above it, and the root. -/
def isGround (p : Place) : Bool := p = root || p.all (· = "..")

/-- The place above a place. -/
def above (p : Place) : Place :=
  if p = root then p else if p.all (· = "..") then p ++ [".."] else p.dropLast

/-- Whether a place lies below the working directory. -/
def isBelow (p : Place) : Bool :=
  match p.head? with
  | some name => name ≠ "/" && name ≠ ".."
  | none => false

/-- The text of a place, as a path. -/
def text (p : Place) : String :=
  match p with
  | "/" :: names => "/" ++ "/".intercalate names
  | names => "/".intercalate names

end Place

/-- What lies at a place. -/
inductive Item
  | file (content : List UInt8)
  | directory
  deriving DecidableEq, Repr

/-- Files and directories by their places. -/
structure Files where
  items : List (Place × Item) := []

namespace Files

/-- What lies at a place. The working directory, those above it and the root are always there. -/
def item? (f : Files) (p : Place) : Option Item :=
  if p.isGround then some .directory else f.items.lookup p

/-- Puts something at a place; what lies there already is replaced. -/
def put (f : Files) (p : Place) (i : Item) : Files :=
  ⟨(p, i) :: f.items.filter fun (q, _) => q ≠ p⟩

/-- Clears a place. -/
def erase (f : Files) (p : Place) : Files := ⟨f.items.filter fun (q, _) => q ≠ p⟩

/-- The names directly below a place, with what lies there. -/
def children (f : Files) (p : Place) : List (String × Item) :=
  f.items.filterMap fun (q, i) =>
    match q.getLast? with
    | some name => if q.dropLast = p then some (name, i) else none
    | none => none

/-- The places of all files below the working directory. -/
def filePlaces (f : Files) : List Place :=
  f.items.filterMap fun (p, i) =>
    match i with
    | .file _ => if p.isBelow then some p else none
    | .directory => none

/-! ## Paths -/

/-- The most bytes that a name may have. -/
def nameLimit : Nat := 255

/-- The most bytes that the text of a path may have. -/
def pathLimit : Nat := 4095

/-- The place that names lead to from a place. -/
def locateFrom (f : Files) (here : Place) : List String → Except FileProblem Place
  | [] => .ok here
  | name :: rest =>
    match f.item? here with
    | none => .error .missing
    | some (.file _) => .error .notDirectory
    | some .directory =>
      if name = ".." then f.locateFrom here.above rest
      else if nameLimit < (Text.Utf8.encode name).length then .error .nameTooLong
      else f.locateFrom (here ++ [name]) rest

/-- The place of a path; no name may hold the zero character, and the text has its limit too. -/
def locate (f : Files) (p : Path) : Except FileProblem Place :=
  if p.names.any fun name => name.toList.contains '\x00' then .error .zeroCharacter
  else if pathLimit < (Text.Utf8.encode p.text).length then .error .nameTooLong
  else f.locateFrom (if p.root.isEmpty then Place.start else Place.root) p.names

/-- What a path names, if it is there. -/
def find? (f : Files) (p : Path) : Except Fault (Option Item) :=
  match f.locate p with
  | .ok place => .ok (f.item? place)
  | .error .nameTooLong => .error (.file .nameTooLong p.text)
  | .error _ => .ok none

/-- Whether a path names a file. -/
def isFile (f : Files) (p : Path) : Except Fault Bool := do
  match ← f.find? p with
  | some (.file _) => return true
  | _ => return false

/-- Whether a path names a directory. -/
def isDirectory (f : Files) (p : Path) : Except Fault Bool := do
  return (← f.find? p) = some .directory

/-- The content of the file that a path names. -/
def read (f : Files) (p : Path) : Except Fault (List UInt8) :=
  match f.locate p with
  | .error e => .error (.file e p.text)
  | .ok place =>
    match f.item? place with
    | some (.file content) => .ok content
    | some .directory => .error (.file .isDirectory p.text)
    | none => .error (.file .missing p.text)

/-- The names directly below a path and what lies there; none below what is no directory. -/
def list (f : Files) (p : Path) : List (String × Item) :=
  match f.locate p with
  | .ok place => f.children place
  | .error _ => []

end Files

/-! ## Steps -/

/-- A step that reads or changes files, and may fail. -/
abbrev FileAction := ExceptT Fault (StateM Files)

namespace FileAction

/-- Looks at the files. -/
def look {α : Type} (f : Files → Except Fault α) : FileAction α := fun s => (f s, s)

/-- A result, or the fault that stands for it. -/
def ofExcept {α : Type} (r : Except Fault α) : FileAction α := fun s => (r, s)

/-- Writes a file; its directory must be there. -/
def write (p : Path) (content : List UInt8) : FileAction Unit := fun s =>
  match s.locate p with
  | .error e => (.error (.file e p.text), s)
  | .ok place =>
    match s.item? place with
    | some .directory => (.error (.file .isDirectory p.text), s)
    | _ => (.ok (), s.put place (.file content))

/-- Removes a file. -/
def remove (p : Path) : FileAction Unit := fun s =>
  match s.locate p with
  | .error e => (.error (.file e p.text), s)
  | .ok place =>
    match s.item? place with
    | some (.file _) => (.ok (), s.erase place)
    | some .directory => (.error (.file .isDirectory p.text), s)
    | none => (.error (.file .missing p.text), s)

/-- Makes one directory, or says what keeps it from being made. -/
def makeDirectory (s : Files) (p : Path) : Except FileProblem Files := do
  let place ← s.locate p
  if (s.item? place).isSome then throw .exists
  return s.put place .directory

/-- A directory that could not be made is no fault where there is one. -/
def unlessDirectory (p : Path) (e : FileProblem) : FileAction Unit := fun s =>
  match s.isDirectory p with
  | .ok true => (.ok (), s)
  | .ok false => (.error (.file e p.text), s)
  | .error f => (.error f, s)

/-- Makes a directory that lies in one. -/
def makeBelow (p : Path) : FileAction Unit := fun s =>
  match makeDirectory s p with
  | .ok s' => (.ok (), s')
  | .error .missing => (.error (.file .missing p.text), s)
  | .error e => unlessDirectory p e s

/-- Makes a directory and those above it, where they are missing. -/
def ensureDirectory (p : Path) : FileAction Unit := fun s =>
  match makeDirectory s p with
  | .ok s' => (.ok (), s')
  | .error .missing =>
    if _h : p.names = [] then (.error (.file .missing p.text), s)
    else
      match ensureDirectory p.parent s with
      | (.ok (), s') => makeBelow p s'
      | r => r
  | .error e => unlessDirectory p e s
termination_by p.names.length
decreasing_by
  have := List.length_pos_iff.mpr ‹¬p.names = []›
  simp only [Path.parent, List.length_dropLast]
  omega

end FileAction

end FunctionManual
