import FunctionManual.Collection.Reference
import FunctionManual.CommandLine.Catalog
import FunctionManual.CommandLine.Reader
import FunctionManual.Gate.Printer

/-!
# Running commands

* `Finish`: the exit code and the output of a run.
* `Ending`: why a run ends early.
* `runCommand`: what a command does with files.
* `run`: a whole run, from the words of its command line.
-/

namespace FunctionManual.CommandLine

open FunctionManual.Text

/-- The exit code and the output of a run. -/
structure Finish where
  exit : Nat
  stdout : String := ""
  stderr : String := ""
  deriving DecidableEq, Repr

/-! ## Early endings -/

/-- Why a run ends before its command is done. -/
inductive Ending
  | message (text : String)
  | fault (fault : Fault)
  | interrupted

/-- The finish of an early ending. -/
def Ending.finish : Ending → Finish
  | .message text => ⟨2, "", text ++ "\n"⟩
  | .fault f => ⟨2, "", s!"Internal error: {f.label}: {f.message}\n"⟩
  | .interrupted => ⟨130, "", "\nOperation cancelled by user.\n"⟩

/-- The full name of a command. -/
def fullName : Option Command → String
  | none => programName
  | some c => programName ++ " " ++ c.name

/-- The usage line of a command. -/
def usage (command : Option Command) : String :=
  let options := match command with
    | none => [helpOption]
    | some c => c.options
  let words := options.map fun o =>
    "[" ++ " | ".intercalate o.flags ++ (if o.takesValue then " VALUE]" else "]")
  let commands := match command with
    | none => [" COMMAND ..."]
    | some _ => []
  s!"usage: {fullName command} " ++ " ".intercalate words ++ String.join commands ++ "\n"

/-- The help text of a command. -/
def helpText (command : Option Command) : String :=
  usage command ++
  match command with
  | none => "\ncommands: " ++ ", ".intercalate (Command.all.map (·.name)) ++ "\n"
  | some _ => ""

/-- The finish of a command line that asks for help or is refused. -/
def Stop.finish : Stop → Finish
  | .help command => ⟨0, helpText command, ""⟩
  | .refused command p =>
    ⟨2, "", usage command ++ s!"{fullName command}: error: {p.message}\n"⟩

/-! ## Commands -/

/-- The settings of an environment, as far as options do not set others. -/
def settings (env : Environment) (c : Choices) : Except Ending Settings :=
  match Settings.ofEnvironment env with
  | .ok s => .ok (c.override s)
  | .error p => .error (.message s!"Invalid configuration: {p.message}")

/-- Whether a fault is one of docs and artifacts. -/
def isFaultOfDocs : Fault → Bool
  | .expression _ | .incomplete _ _ | .duplicate _ _ | .malformed _ _
  | .missingArtifact _ _ _ => true
  | _ => false

/-- The registry that a target names. -/
def loadRegistry (catalog : Catalog) (target : String) : Except Ending Registry :=
  match catalog.load target with
  | .ok r => .ok r
  | .error (.problem p) => .error (.message s!"Could not load registry: {p.message}")
  | .error (.fault f) =>
    .error (if isFaultOfDocs f then .message s!"Invalid registry: {f.message}" else .fault f)
  | .error .interrupted => .error .interrupted

/-- The settings and the registry of a command. -/
def prepareEngine (catalog : Catalog) (env : Environment) (c : Choices) :
    Except Ending (Settings × Registry) := do
  let s ← settings env c
  let r ← loadRegistry catalog c.registry
  return (s, r)

/-- Success, or failure of a check. -/
def exitCode (passed : Bool) : Nat := if passed then 0 else 1

/-- Validates the functions of a registry. -/
def validate (catalog : Catalog) (env : Environment) (c : Choices) : Except Ending Finish := do
  let (s, r) ← prepareEngine catalog env c
  let reports ← ((s.validator r).validateAll r s.workers).mapError .fault
  let text :=
    if c.json then (Json.array (reports.map (·.toJson s.strict))).pretty ++ "\n"
    else validationText reports s.strict c.verbose
  return ⟨exitCode (reports.all (·.passed s.strict)), text, ""⟩

/-- Compares the artifacts of a registry with files. -/
def check (r : Registry) (s : Settings) (f : Files) : Except Ending Finish := do
  let a ← (r.check (s.validator r) s.workers s.repository s.root f).mapError .fault
  return ⟨exitCode (a.passed s.strict), a.text s.strict, ""⟩

/-- Writes the artifacts of a registry. -/
def write (r : Registry) (s : Settings) (f : Files) : Except Ending Finish × Files :=
  match r.publish (s.validator r) s.strict s.workers s.repository s.root f with
  | (.ok p, f') => (.ok ⟨exitCode (!p.refused), p.text s.strict, ""⟩, f')
  | (.error e, f') => (.error (.fault e), f')

/-- Compares or writes the artifacts of a registry. -/
def generate (catalog : Catalog) (env : Environment) (c : Choices) (f : Files) :
    Except Ending Finish × Files :=
  match prepareEngine catalog env c with
  | .error e => (.error e, f)
  | .ok (s, r) =>
    match c.mode with
    | .check => (check r s f, f)
    | .write => write r s f

/-- The repository and the root of a source, written with an equals sign between them. -/
def readSource (word : String) : Except Ending (String × Path) :=
  match splitEquals word.toList with
  | (name, some root) =>
    if name.isEmpty || root.isEmpty then .error (badSource word) else .ok (name, .read root)
  | (_, none) => .error (badSource word)
where
  /-- The complaint about a source of another form. -/
  badSource (word : String) : Ending :=
    .message s!"--source must look like NAME=DIR, got {quoted word}"

/-- The sources that words name; no repository is named twice. -/
def readSources (done : Sources) : List String → Except Ending Sources
  | [] => .ok done
  | word :: rest => do
    let (name, root) ← readSource word
    if (done.lookup name).isSome then throw (.message s!"Repository {quoted name} given twice")
    readSources (done ++ [(name, root)]) rest

/-- The collection of the sources that are named. -/
def loadCollection (env : Environment) (c : Choices) (f : Files) : Except Ending Collection := do
  let _ ← settings env c
  let sources ← readSources [] c.sources
  match Collection.load f sources with
  | .ok collection => return collection
  | .error e =>
    throw (if isFaultOfDocs e then .message s!"Cannot build reference: {e.message}" else .fault e)

/-- Prints the reference page, or writes it to a file. -/
def reference (env : Environment) (c : Choices) (f : Files) : Except Ending Finish × Files :=
  match loadCollection env c f with
  | .error e => (.error e, f)
  | .ok collection =>
    let text := collection.reference c.title
    let output := c.output.getD ""
    if output.isEmpty then (.ok ⟨0, text, ""⟩, f)
    else
      match FileAction.write (.read output) (Utf8.encode text) f with
      | (.ok (), f') =>
        (.ok ⟨0, s!"Wrote reference for {collection.size} functions to {output}\n", ""⟩, f')
      | (.error e, f') => (.error (.fault e), f')

/-- What a command does with files. -/
def runCommand (catalog : Catalog) (env : Environment) (command : Command) (c : Choices)
    (f : Files) : Except Ending Finish × Files :=
  match command with
  | .validate => (validate catalog env c, f)
  | .generate => generate catalog env c f
  | .reference => reference env c f

/-- A run with the words of a command line. -/
def run (catalog : Catalog) (env : Environment) (words : List String) (f : Files) :
    Finish × Files :=
  match read words with
  | .error stop => (stop.finish, f)
  | .ok none => (⟨2, helpText none, ""⟩, f)
  | .ok (some (command, c)) =>
    match runCommand catalog env command c f with
    | (.ok finish, f') => (finish, f')
    | (.error ending, f') => (ending.finish, f')

end FunctionManual.CommandLine
