import FunctionManual.CommandLine.Options

/-!
# Reading command lines

* `Problem`: why a command line is refused.
* `Stop`: a command line that asks for help, or is refused.
* `classify`: tells flags from words. A flag may be shortened as long as one flag only begins with
  it, and may have its value behind an equals sign.
* `readOptions`: takes the options of a command one after another.
* `read`: the command of a line and what its options set.
-/

namespace FunctionManual.CommandLine

open FunctionManual.Text

/-- The name of the program. -/
def programName : String := "exprdoc"

/-! ## Problems -/

/-- Why a command line is refused. Options are given by their names. -/
inductive Problem
  | ambiguous (given : String) (flags : List String)
  | noValue (option : String)
  | strayValue (option value : String)
  | badValue (option complaint : String)
  | lacking (options : List String)
  | unknownWords (words : List String)
  | unknownCommand (word : String)
  deriving DecidableEq, Repr

/-- The wording of a problem. -/
def Problem.message : Problem → String
  | .ambiguous given flags =>
    s!"ambiguous option: {given} could match " ++ ", ".intercalate flags
  | .noValue o => s!"argument {o}: expected one argument"
  | .strayValue o v => s!"argument {o}: ignored explicit argument {quoted v}"
  | .badValue o complaint => s!"argument {o}: {complaint}"
  | .lacking options => "the following arguments are required: " ++ ", ".intercalate options
  | .unknownWords words => "unrecognized arguments: " ++ " ".intercalate words
  | .unknownCommand word =>
    "argument command: " ++ Choices.invalidChoice word (Command.all.map (·.name))

/-- A command line that asks for help, or is refused; `command` is the one that was being read. -/
inductive Stop
  | help (command : Option Command)
  | refused (command : Option Command) (problem : Problem)
  deriving DecidableEq, Repr

/-! ## Flags -/

/-- A flag of an option, with a value if one was written together with it. `byEquals` says that it
stands behind an equals sign. -/
structure Flag where
  option : OptionSpec
  flag : String
  attached : Option String := none
  byEquals : Bool := false
  deriving DecidableEq, Repr

/-- What a word of a command line is. -/
inductive Word
  | plain
  | separator
  | flag (flag : Flag)
  | unknownFlag
  deriving DecidableEq, Repr

/-- All flags of options, with their options. -/
def allFlags (options : List OptionSpec) : List (String × OptionSpec) :=
  options.flatMap fun o => o.flags.map fun f => (f, o)

/-- The option with a flag. -/
def findFlag? (options : List OptionSpec) (flag : String) : Option OptionSpec :=
  (allFlags options).lookup flag

/-- The text before the first equals sign, and the text behind it if there is one. -/
def splitEquals (s : List Char) : String × Option String :=
  let before := s.takeWhile (· ≠ '=')
  match s.dropWhile (· ≠ '=') with
  | [] => (String.ofList before, none)
  | _ :: value => (String.ofList before, some (String.ofList value))

/-- Whether a word is a negative number: digits, or digits around a point. -/
def isNegativeNumber : List Char → Bool
  | '-' :: rest =>
    let digits := rest.takeWhile isDecimal
    match rest.dropWhile isDecimal with
    | [] => !digits.isEmpty
    | ['\n'] => !digits.isEmpty
    | '.' :: fraction =>
      let decimals := fraction.takeWhile isDecimal
      let after := fraction.dropWhile isDecimal
      !decimals.isEmpty && (after = [] || after = ['\n'])
    | _ => false
  | _ => false

/-- The flags that a word with two hyphens may be short for. -/
def longCandidates (options : List OptionSpec) (word : List Char) : List Flag :=
  let (start, value) := splitEquals word
  (allFlags options).filterMap fun (f, o) =>
    if start.toList.isPrefixOf f.toList then some ⟨o, f, value, value.isSome⟩ else none

/-- The flags that a word with one hyphen may be short for, or begin with. -/
def shortCandidates (options : List OptionSpec) (word : List Char) : List Flag :=
  (allFlags options).filterMap fun (f, o) =>
    if f.toList = word.take 2 then some ⟨o, f, some (String.ofList (word.drop 2)), false⟩
    else if word.isPrefixOf f.toList then some ⟨o, f, none, false⟩
    else none

/-- The flags that a word may stand for. -/
def candidates (options : List OptionSpec) (word : List Char) : List Flag :=
  match word with
  | '-' :: '-' :: _ => longCandidates options word
  | _ => shortCandidates options word

/-- What a word that begins with a hyphen is, if it is no flag as it stands. -/
def classifyOther (options : List OptionSpec) (word : String) : Except Problem Word :=
  match candidates options word.toList with
  | [f] => .ok (.flag f)
  | [] =>
    if isNegativeNumber word.toList || word.toList.contains ' ' then .ok .plain
    else .ok .unknownFlag
  | fs => .error (.ambiguous word (fs.map (·.flag)))

/-- What a word is. -/
def classify (options : List OptionSpec) (word : String) : Except Problem Word :=
  match word.toList with
  | '-' :: _ :: _ =>
    match findFlag? options word with
    | some o => .ok (.flag ⟨o, word, none, false⟩)
    | none =>
      match splitEquals word.toList with
      | (flag, some value) =>
        match findFlag? options flag with
        | some o => .ok (.flag ⟨o, flag, some value, true⟩)
        | none => classifyOther options word
      | (_, none) => classifyOther options word
  | _ => .ok .plain

/-- What the words of a command line are; behind a separator all are plain. -/
def classifyAll (options : List OptionSpec) : List String → Except Problem (List (String × Word))
  | [] => .ok []
  | word :: rest =>
    if word = "--" then .ok ((word, .separator) :: rest.map fun w => (w, .plain))
    else do
      let kind ← classify options word
      let kinds ← classifyAll options rest
      return (word, kind) :: kinds

/-! ## Clusters -/

/-- Flags that are written together: those without a value, the last of them, which may have one,
and what is no flag. -/
structure Cluster where
  before : List Flag
  last : Option Flag
  unknown : Option String
  deriving DecidableEq, Repr

/-- Puts a flag in front of a cluster. -/
def Cluster.push (f : Flag) (c : Cluster) : Cluster := { c with before := f :: c.before }

/-- Whether a flag has one hyphen. -/
def isShort (flag : String) : Bool :=
  match flag.toList with
  | '-' :: c :: _ => c ≠ '-'
  | _ => false

/-- Takes apart a flag that takes no value and what is attached to it: more flags of one letter. -/
def splitLetters (options : List OptionSpec) (f : Flag) :
    List Char → Except Problem Cluster
  | [] => .ok ⟨[], some { f with attached := none }, none⟩
  | c :: rest =>
    if f.byEquals || c = '-' then .error (.strayValue f.option.name (String.ofList (c :: rest)))
    else
      let flag := String.ofList ['-', c]
      match findFlag? options flag with
      | none => .ok ⟨[f], none, some (String.ofList ('-' :: c :: rest))⟩
      | some o =>
        if o.takesValue then
          match rest with
          | [] => .ok ⟨[f], some ⟨o, flag, none, false⟩, none⟩
          | '=' :: value => .ok ⟨[f], some ⟨o, flag, some (String.ofList value), true⟩, none⟩
          | _ => .ok ⟨[f], some ⟨o, flag, some (String.ofList rest), false⟩, none⟩
        else
          match rest with
          | '=' :: value =>
            .error (.strayValue o.name (String.ofList value))
          | _ => Cluster.push f <$> splitLetters options ⟨o, flag, none, false⟩ rest

/-- Takes a flag and what is attached to it apart. -/
def splitFlag (options : List OptionSpec) (f : Flag) : Except Problem Cluster :=
  match f.attached with
  | none => .ok ⟨[], some f, none⟩
  | some value =>
    if f.option.takesValue then .ok ⟨[], some f, none⟩
    else if isShort f.flag && !value.isEmpty then splitLetters options f value.toList
    else .error (.strayValue f.option.name value)

/-! ## Options -/

/-- The stop of a problem. -/
def refuse {α : Type} (command : Option Command) (p : Problem) : Except Stop α :=
  .error (.refused command p)

/-- Takes an option with its value. -/
def takeFlag (command : Option Command) (c : Choices) (f : Flag) (value : String) :
    Except Stop Choices :=
  match f.option.kind with
  | .help => .error (.help command)
  | kind =>
    match c.take kind f.flag value with
    | .ok c' => .ok c'
    | .error complaint => refuse command (.badValue f.option.name complaint)

/-- The value of the last flag of a cluster, and whether it is the word behind it. -/
def lastValue (f : Flag) (next : Option String) : Except Problem (String × Bool) :=
  if !f.option.takesValue then .ok ("", false)
  else
    match f.attached, next with
    | some value, _ => .ok (value, false)
    | none, some word => .ok (word, true)
    | none, none => .error (.noValue f.option.name)

/-- Takes all flags of a cluster. -/
def takeCluster (command : Option Command) (c : Choices) (k : Cluster) (value : String) :
    Except Stop Choices := do
  let c' ← k.before.foldlM (fun c f => takeFlag command c f "") c
  match k.last with
  | some f => takeFlag command c' f value
  | none => return c'

/-- Takes a flag before the word `next`: what it sets, what is left of it, and whether `next` is its
value. -/
def takeWord (options : List OptionSpec) (command : Option Command) (c : Choices) (f : Flag)
    (next : Option String) : Except Stop (Choices × List String × Bool) := do
  let k ← (splitFlag options f).mapError (.refused command)
  let (value, used) ← match k.last with
    | some l => (lastValue l next).mapError (.refused command)
    | none => pure ("", false)
  let c' ← takeCluster command c k value
  return (c', k.unknown.toList, used)

/-- The word at the start that can be a value. -/
def nextValue : List (String × Word) → Option String
  | (word, .plain) :: _ => some word
  | _ => none

/-- What words set, and those of them that are no options. -/
def readWords (options : List OptionSpec) (command : Command) (c : Choices) :
    List (String × Word) → Except Stop (Choices × List String)
  | [] => .ok (c, [])
  | (word, kind) :: rest =>
    match kind with
    | .plain | .separator | .unknownFlag => do
      let (c', left) ← readWords options command c rest
      return (c', word :: left)
    | .flag f => do
      let (c', unknown, used) ← takeWord options (some command) c f (nextValue rest)
      let (c'', left) ← readWords options command c' (rest.drop (if used then 1 else 0))
      return (c'', unknown ++ left)
termination_by words => words.length
decreasing_by all_goals simp only [List.length_cons, List.length_drop]; omega

/-- The options of a command without which it does nothing. -/
def lacking (command : Command) (c : Choices) : List String :=
  if command = .reference && c.sources.isEmpty then ["--source"] else []

/-- What the options behind a command set, and the words that are no options. -/
def readOptions (command : Command) (words : List String) :
    Except Stop (Choices × List String) := do
  let kinds ← (classifyAll command.options words).mapError (.refused (some command))
  let (c, left) ← readWords command.options command {} kinds
  match lacking command c with
  | [] => return (c, left)
  | options => refuse (some command) (.lacking options)

/-! ## Command lines -/

/-- The command that a line names and what is set for it; `left` are the words before it that are
no options. A line without a command asks for nothing. -/
def readCommand (left : List String) : List (String × Word) →
    Except Stop (Option (Command × Choices))
  | [] => if left.isEmpty then .ok none else refuse none (.unknownWords left)
  | (word, kind) :: rest =>
    match kind with
    | .unknownFlag => readCommand (left ++ [word]) rest
    | .flag f => do
      let (_, unknown, _) ← takeWord [helpOption] none {} f none
      readCommand (left ++ unknown) rest
    | .plain | .separator =>
      if kind = .separator && rest.isEmpty then refuse none (.unknownWords (left ++ [word]))
      else
        match Command.ofName? word with
        | none => refuse none (.unknownCommand word)
        | some command => do
          let (c, more) ← readOptions command (rest.map (·.1))
          match left ++ more with
          | [] => return some (command, c)
          | words => refuse none (.unknownWords words)

/-- The command of a line and what its options set. -/
def read (words : List String) : Except Stop (Option (Command × Choices)) := do
  let kinds ← (classifyAll [helpOption] words).mapError (.refused none)
  readCommand [] kinds

end FunctionManual.CommandLine
