import FunctionManual.Collection.Reference
import FunctionManual.Settings

/-!
# Options of commands

* `Command`: what the program can be told to do.
* `OptionKind`: what an option sets; `OptionSpec` gives its flags and whether it takes a value.
* `Choices`: what the options of a command line have set.
* `Choices.take`: sets what one option sets, or says why its value is refused.
-/

namespace FunctionManual.CommandLine

open FunctionManual.Text

/-! ## Commands -/

/-- What the program can be told to do. -/
inductive Command
  | validate
  | generate
  | reference
  deriving DecidableEq, Repr

namespace Command

/-- All commands in order. -/
def all : List Command := [validate, generate, reference]

/-- The name of a command. -/
def name : Command → String
  | .validate => "validate"
  | .generate => "generate"
  | .reference => "reference"

/-- The command with a name. -/
def ofName? (n : String) : Option Command := all.find? (·.name = n)

end Command

/-- What `generate` does: compare artifacts, or write them. -/
inductive Mode
  | check
  | write
  deriving DecidableEq, Repr

/-- The name of a mode. -/
def Mode.name : Mode → String
  | .check => "check"
  | .write => "write"

/-- All modes in order. -/
def Mode.all : List Mode := [check, write]

/-! ## Options -/

/-- What an option sets. -/
inductive OptionKind
  | help
  | json
  | registry
  | strict
  | timeout
  | failureMatch
  | workers
  | verbose
  | mode
  | root
  | repository
  | source
  | title
  | output
  deriving DecidableEq, Repr

/-- An option: its flags in order, and whether a value follows it. -/
structure OptionSpec where
  kind : OptionKind
  flags : List String
  takesValue : Bool
  deriving DecidableEq, Repr

/-- The option that asks for help. -/
def helpOption : OptionSpec := ⟨.help, ["-h", "--help"], false⟩

/-- The option that asks for more output. -/
def verboseOption : OptionSpec := ⟨.verbose, ["--verbose", "-v"], false⟩

/-- The options about the evaluation of examples. -/
def engineOptions : List OptionSpec := [
  ⟨.registry, ["--registry"], true⟩,
  ⟨.strict, ["--strict", "--no-strict"], false⟩,
  ⟨.timeout, ["--timeout"], true⟩,
  ⟨.failureMatch, ["--failure-match"], true⟩,
  ⟨.workers, ["--workers"], true⟩,
  verboseOption]

/-- The options of a command, in order. -/
def Command.options : Command → List OptionSpec
  | .validate => helpOption :: ⟨.json, ["--json"], false⟩ :: engineOptions
  | .generate =>
    [helpOption, ⟨.mode, ["--mode"], true⟩, ⟨.root, ["--artifact-dir"], true⟩,
      ⟨.repository, ["--repository"], true⟩] ++ engineOptions
  | .reference =>
    [helpOption, ⟨.source, ["--source"], true⟩, ⟨.title, ["--title"], true⟩,
      ⟨.output, ["--output", "-o"], true⟩, verboseOption]

/-- The name of an option in complaints: its flags. -/
def OptionSpec.name (o : OptionSpec) : String := "/".intercalate o.flags

/-! ## Choices -/

/-- The registry where none is named. -/
def usualRegistry : String := "exprdoc.stdlib:build_registry"

/-- What the options of a command line have set. -/
structure Choices where
  registry : String := usualRegistry
  strict : Option Bool := none
  limit : Option TimeLimit := none
  failureMatch : Option FailureMatch := none
  workers : Option Int := none
  verbose : Bool := false
  json : Bool := false
  mode : Mode := .check
  root : Option Path := none
  repository : Option String := none
  sources : List String := []
  title : String := usualTitle
  output : Option String := none

namespace Choices

/-- The time limit that a value of an option sets, or the complaint about it. -/
def readLimit (s : String) : Except String TimeLimit :=
  match Binary64.read s with
  | none => .error s!"not a number of seconds: {quoted s}"
  | some x =>
    match Settings.positiveSeconds? x with
    | some t => .ok t
    | none => .error s!"must be a positive finite number, got {quoted s}"

/-- The way to compare failures that a value of an option sets, or the complaint about it. -/
def readFailureMatch (s : String) : Except String FailureMatch :=
  match FailureMatch.ofName? s with
  | some m => .ok m
  | none => .error s!"invalid FailureMatch value: {quoted s}"

/-- The number of workers that a value of an option sets, or the complaint about it. -/
def readWorkers (s : String) : Except String Int :=
  match Integer.read s with
  | .ok i => .ok i
  | .error _ => .error s!"invalid int value: {quoted s}"

/-- The complaint about a word that is none of those allowed. -/
def invalidChoice (word : String) (allowed : List String) : String :=
  let names := ", ".intercalate (allowed.map quoted)
  s!"invalid choice: {quoted word} (choose from {names})"

/-- The mode that a value of an option sets, or the complaint about it. -/
def readMode (s : String) : Except String Mode :=
  match Mode.all.find? (·.name = s) with
  | some m => .ok m
  | none => .error (invalidChoice s (Mode.all.map (·.name)))

/-- Sets what an option sets; the flag that was used and the value that follows it are given. -/
def take (c : Choices) (kind : OptionKind) (flag value : String) : Except String Choices := do
  match kind with
  | .help => return c
  | .json => return { c with json := true }
  | .registry => return { c with registry := value }
  | .strict => return { c with strict := some (flag = "--strict") }
  | .timeout => return { c with limit := some (← readLimit value) }
  | .failureMatch => return { c with failureMatch := some (← readFailureMatch value) }
  | .workers => return { c with workers := some (← readWorkers value) }
  | .verbose => return { c with verbose := true }
  | .mode => return { c with mode := ← readMode value }
  | .root => return { c with root := some (.read value) }
  | .repository => return { c with repository := some value }
  | .source => return { c with sources := c.sources ++ [value] }
  | .title => return { c with title := value }
  | .output => return { c with output := some value }

/-- The settings of an environment, as far as the options do not set others. -/
def override (c : Choices) (s : Settings) : Settings :=
  { s with
    root := c.root.getD s.root
    repository := c.repository <|> s.repository
    limit := c.limit.getD s.limit
    strict := c.strict.getD s.strict
    failureMatch := c.failureMatch.getD s.failureMatch
    workers := c.workers <|> s.workers }

end Choices

end FunctionManual.CommandLine
