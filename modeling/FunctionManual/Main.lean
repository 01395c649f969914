import FunctionManual.CommandLine.Run

/-!
# The program

Reads the files that a command line is about, runs it on them, and writes what has changed.

* `gather`: the artifacts below the roots that a command line names.
* `settle`: makes the files what they are after the run.
-/

namespace FunctionManual.CommandLine

/-! ## Before the run -/

/-- The variables that settings are read from. -/
def settingNames : List String := [
  "EXPRDOC_ARTIFACT_DIR", "EXPRDOC_REPOSITORY", "EXPRDOC_EXAMPLE_TIMEOUT", "EXPRDOC_STRICT",
  "EXPRDOC_FAILURE_MATCH", "EXPRDOC_WORKERS", "EXPRDOC_LOG_LEVEL"]

/-- The variables that are set. -/
def environment : IO Environment :=
  settingNames.filterMapM fun name => do
    return (← IO.getEnv name).map fun value => (name, value)

/-- The roots of the artifacts that a command is about. -/
def roots (env : Environment) (command : Command) (c : Choices) : List Path :=
  match command with
  | .validate => []
  | .generate => ((settings env c).toOption.map fun s => [s.root]).getD []
  | .reference => ((readSources [] c.sources).toOption.map fun ss => ss.map (·.2)).getD []

/-- What lies at a path. -/
def inspect (path : String) : IO (Option Item) := do
  let place := (← IO.currentDir) / path
  if ← place.isDir then return some .directory
  if ← place.pathExists then return some (.file (← IO.FS.readBinFile place).toList)
  return none

/-- Adds what lies at a path and on the way to it. -/
def survey (f : Files) (p : Path) : IO Files :=
  (List.range p.names.length).foldlM (fun f i => do
    let q : Path := { p with names := p.names.take (i + 1) }
    match f.locate q, ← inspect q.text with
    | .ok place, some item => return f.put place item
    | _, _ => return f) f

/-- The paths of what lies in a directory. -/
def listing (p : Path) : IO (List Path) := do
  let place := (← IO.currentDir) / p.text
  if !(← place.isDir) then return []
  return (← place.readDir).toList.map fun e => p.child e.fileName

/-- The paths that matter to a root. -/
def pathsBelow (root : Path) : IO (List Path) := do
  let dir := Artifact.directory root
  return [root, dir, Artifact.manifestPath root] ++ (← listing dir)

/-- The files that a command line is about. -/
def gather (env : Environment) (words : List String) : IO Files := do
  match read words with
  | .ok (some (command, c)) => do
    let below ← (roots env command c).mapM pathsBelow
    let output := (c.output.map Path.read).toList
    (below.flatten ++ output).foldlM survey {}
  | _ => return {}

/-! ## After the run -/

/-- Makes what lies at a place what it is after the run. -/
def settleItem (before : Files) (p : Place) (item : Item) : IO Unit :=
  if before.item? p = some item then return ()
  else
    match item with
    | .directory => IO.FS.createDirAll p.text
    | .file content => IO.FS.writeBinFile p.text ⟨content.toArray⟩

/-- Makes the files what they are after the run: directories first, those above before those below,
then files; files that are gone are removed. -/
def settle (before after : Files) : IO Unit := do
  let isDirectory (e : Place × Item) : Bool := e.2 = .directory
  let directories := (after.items.filter isDirectory).mergeSort fun a b => a.1.length ≤ b.1.length
  for (p, item) in directories ++ after.items.filter fun e => !isDirectory e do
    settleItem before p item
  for (p, _) in before.items do
    if (after.item? p).isNone then IO.FS.removeFile p.text

/-- A whole run, with the files that it is about. -/
def runOnDisk (words : List String) : IO UInt32 := do
  let env ← environment
  let before ← gather env words
  let (finish, after) := run Catalog.standard env words before
  settle before after
  IO.print finish.stdout
  IO.eprint finish.stderr
  return finish.exit.toUInt32

end FunctionManual.CommandLine

/-- Runs the command line. -/
def main (words : List String) : IO UInt32 := FunctionManual.CommandLine.runOnDisk words
