import FunctionManual.Syntax.Lexer
import FunctionManual.Syntax.Tree
import FunctionManual.Number.Decimal

/-!
# Reading programs

A reading function takes the tokens that are left and returns its tree and the tokens behind it.

* `Syntax.readExpr`: an expression.
* `Syntax.parse`: the program of a text.
-/

namespace FunctionManual.Syntax

open FunctionManual.Text

/-- The meaning of the words that are no names. -/
def keyword? : String → Option Scalar
  | "true" => some (.boolean true)
  | "false" => some (.boolean false)
  | "null" => some .null
  | _ => none

/-! ## Tokens -/

/-- The next token is the punctuation `mark`. -/
def atMark (mark : String) (ts : List Token) : Bool := (ts.head?).any (·.isMark mark)

/-- Refuses the next token; a program ends at `stop`. -/
def unexpected {α : Type} (stop : Nat) (expected : Expected) (ts : List Token) :
    Except Refusal α :=
  let found := ts.head?.getD (Token.endAt stop)
  .error (.error ⟨.unexpected found.describe expected, found.span⟩)

/-- Takes the punctuation `mark` and returns the tokens behind it. -/
def takeMark (stop : Nat) (mark : String) (ts : List Token) :
    Except Refusal (Token × List Token) :=
  match ts with
  | t :: rest => if t.isMark mark then .ok (t, rest) else unexpected stop (.mark mark) ts
  | [] => unexpected stop (.mark mark) ts

/-! ## Literals and paths -/

/-- The value of an integer token. -/
def integerValue (text : String) : Except Refusal Scalar :=
  match Integer.readPlain text.toList with
  | .ok i => .ok (.integer i)
  | .error (.tooLong n) => .error (.hugeInteger n)
  | .error .malformed => .error (.hugeInteger 0)

/-- The value of a regex token. -/
def regexValue (t : Token) : Except Refusal Scalar :=
  match Regex.compile t.text with
  | .ok r => .ok (.regex r)
  | .error e =>
    match e with
    | .problem _ _ => .error (.error ⟨.invalidRegex t.text e, t.span⟩)
    | _ => .error (.pattern t.text e)

/-- The names behind the first of a path: each a point and a name. -/
def readNames : List Token → List String × List Token
  | dot :: name :: rest =>
    if dot.isMark "." && name.kind = .identifier then
      let (names, rest') := readNames rest
      (name.text :: names, rest')
    else ([], dot :: name :: rest)
  | ts => ([], ts)

/-- The names of a path whose point is taken. The first name touches the point, else the path is the
event itself. -/
def readPath (dot : Token) : List Token → List String × List Token
  | name :: rest =>
    if name.kind = .identifier && name.span.start = dot.span.stop then
      let (names, rest') := readNames rest
      (name.text :: names, rest')
    else ([], name :: rest)
  | [] => ([], [])

/-- Whether an identifier is called: a parenthesis follows, with or without an exclamation mark. -/
def atCall (ts : List Token) : Bool :=
  atMark "(" ts || (atMark "!" ts && atMark "(" (ts.drop 1))

/-! ## Expressions -/

mutual

/-- An expression and the tokens behind it. -/
def readExpr (stop : Nat) : Nat → List Token → Except Refusal (Expr × List Token)
  | 0, ts => unexpected stop .expression ts
  | _, [] => unexpected stop .expression []
  | fuel + 1, t :: rest =>
    match t.kind with
    | .string | .rawString => .ok (.literal (.string t.text), rest)
    | .regex => do return (.literal (← regexValue t), rest)
    | .integer => do return (.literal (← integerValue t.text), rest)
    | .float => .ok (.literal (.float ((Binary64.read t.text).getD .nan)), rest)
    | .identifier =>
      match keyword? t.text with
      | some v => .ok (.literal v, rest)
      | none =>
        if atCall rest then do
          let mayFail := atMark "!" rest
          let (_, inside) ← takeMark stop "(" (if mayFail then rest.drop 1 else rest)
          let (arguments, rest') ← readArguments stop fuel inside
          let (close, rest'') ← takeMark stop ")" rest'
          return (.call t.text arguments mayFail ⟨t.span.start, close.span.stop⟩, rest'')
        else .ok (.variable t.text t.span, rest)
    | .punctuation =>
      if t.isMark "[" then do
        let (items, rest') ← readItems stop fuel rest
        let (_, rest'') ← takeMark stop "]" rest'
        return (.array items, rest'')
      else if t.isMark "\x7b" then do
        let (entries, rest') ← readEntries stop fuel rest
        let (_, rest'') ← takeMark stop "\x7d" rest'
        return (.object entries, rest'')
      else if t.isMark "." then
        let (names, rest') := readPath t rest
        .ok (.path names, rest')
      else if t.isMark "(" then do
        let (inner, rest') ← readExpr stop fuel rest
        let (_, rest'') ← takeMark stop ")" rest'
        return (inner, rest'')
      else unexpected stop .expression (t :: rest)
    | .newline | .endOfInput => unexpected stop .expression (t :: rest)

/-- Items up to a closing bracket or an item without a comma behind it. -/
def readItems (stop : Nat) : Nat → List Token → Except Refusal (List Expr × List Token)
  | 0, ts => .ok ([], ts)
  | fuel + 1, ts =>
    if atMark "]" ts then .ok ([], ts)
    else do
      let (item, rest) ← readExpr stop fuel ts
      if atMark "," rest then
        let (items, rest') ← readItems stop fuel (rest.drop 1)
        return (item :: items, rest')
      else return ([item], rest)

/-- Entries up to a closing brace or an entry without a comma behind it. -/
def readEntries (stop : Nat) :
    Nat → List Token → Except Refusal (List (String × Expr) × List Token)
  | 0, ts => .ok ([], ts)
  | fuel + 1, ts =>
    if atMark "\x7d" ts then .ok ([], ts)
    else match ts with
      | [] => unexpected stop .key ts
      | key :: rest =>
        if key.kind = .string || key.kind = .rawString then do
          let (_, rest') ← takeMark stop ":" rest
          let (value, rest'') ← readExpr stop fuel rest'
          if atMark "," rest'' then
            let (entries, left) ← readEntries stop fuel (rest''.drop 1)
            return ((key.text, value) :: entries, left)
          else return ([(key.text, value)], rest'')
        else unexpected stop .key ts

/-- Arguments up to a closing parenthesis or an argument without a comma behind it. -/
def readArguments (stop : Nat) :
    Nat → List Token → Except Refusal (List (Option String × Expr) × List Token)
  | 0, ts => .ok ([], ts)
  | fuel + 1, ts =>
    if atMark ")" ts then .ok ([], ts)
    else do
      let (name, body) := match ts with
        | t :: rest =>
          if t.kind = .identifier && atMark ":" rest then (some t.text, rest.drop 1)
          else (none, ts)
        | [] => (none, ts)
      let (value, rest) ← readExpr stop fuel body
      if atMark "," rest then
        let (arguments, rest') ← readArguments stop fuel (rest.drop 1)
        return ((name, value) :: arguments, rest')
      else return ([(name, value)], rest)

end

/-- Enough steps to read an expression from these tokens. -/
def enough (ts : List Token) : Nat := 2 * ts.length + 2

/-! ## Statements -/

/-- A statement and the tokens behind it. -/
def readStatement (stop : Nat) (ts : List Token) : Except Refusal (Statement × List Token) :=
  match ts with
  | [] => unexpected stop .expression ts
  | t :: rest =>
    if t.kind = .identifier && (keyword? t.text).isNone && atMark "=" rest then do
      let (value, rest') ← readExpr stop (enough ts) (rest.drop 1)
      return (.assign (.variable t.text t.span) value, rest')
    else if t.isMark "." then
      let (names, rest') := readPath t rest
      if atMark "=" rest' then do
        let (value, rest'') ← readExpr stop (enough ts) (rest'.drop 1)
        return (.assign (.path names) value, rest'')
      else .ok (.expr (.path names), rest')
    else do
      let (value, rest') ← readExpr stop (enough ts) ts
      return (.expr value, rest')

/-- Statements up to the end; between two of them stands a separator. -/
def readStatements (stop : Nat) : Nat → List Token → Except Refusal Program
  | 0, _ => .ok []
  | fuel + 1, ts =>
    match ts.dropWhile Token.isSeparator with
    | [] => .ok []
    | ts' => do
      let (s, rest) ← readStatement stop ts'
      match rest with
      | [] => return [s]
      | t :: _ =>
        if t.isSeparator then return s :: (← readStatements stop fuel rest)
        else unexpected stop .statementEnd rest

/-- Reads a program. -/
def parse (source : String) : Except Refusal Program := do
  match scan source with
  | .error e => .error (.error e)
  | .ok ts => readStatements source.length (ts.length + 1) ts

end FunctionManual.Syntax
