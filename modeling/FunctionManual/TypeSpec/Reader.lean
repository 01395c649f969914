import FunctionManual.TypeSpec.Basic

/-!
# Reading type specs

    type    := member ("|" member)*
    member  := name | "array" ["<" type ">"] | "object" ["<" type ">"]

* `TypeSpec.tokens`: words of small ASCII letters and the marks `<`, `>` and `|`.
* `TypeSpec.read`: the type of a text.
-/

namespace FunctionManual.TypeSpec

open FunctionManual.Text

/-- Why a text is no type. Each message shows the whole text. -/
inductive Problem
  | empty
  | unexpectedCharacter (c : Char)
  | unexpectedEnd
  | unexpectedToken (token : String)
  | unclosed
  | unknown (name : String)
  deriving DecidableEq, Repr

/-- A problem of a text. -/
structure Error where
  problem : Problem
  source : String
  deriving DecidableEq, Repr

/-- The wording of an error. -/
def Error.message (e : Error) : String :=
  let source := quoted e.source
  match e.problem with
  | .empty => "Empty type spec"
  | .unexpectedCharacter c => s!"Unexpected character {quoted c.toString} in type {source}"
  | .unexpectedEnd => s!"Unexpected end of type {source}"
  | .unexpectedToken t => s!"Unexpected {quoted t} in type {source}"
  | .unclosed => s!"Expected '>' in type {source}"
  | .unknown n => s!"Unknown type {quoted n} in {source}"

/-! ## Tokens -/

/-- Small ASCII letters make up names. -/
def isNameLetter (c : Char) : Bool := 'a' ≤ c && c ≤ 'z'

/-- The marks of the grammar. -/
def isMark (c : Char) : Bool := c = '<' || c = '>' || c = '|'

/-- The tokens of a text; `word` holds the letters of the name being read, in reverse. -/
def tokensFrom (word : List Char) : List Char → Except Problem (List String)
  | [] => .ok (flush [])
  | c :: rest =>
    if isNameLetter c then tokensFrom (c :: word) rest
    else if isMark c then (fun ts => flush (c.toString :: ts)) <$> tokensFrom [] rest
    else if isBlank c then flush <$> tokensFrom [] rest
    else .error (.unexpectedCharacter c)
where
  /-- Puts the finished name before the tokens behind it. -/
  flush (tokens : List String) : List String :=
    if word.isEmpty then tokens else String.ofList word.reverse :: tokens

/-- The tokens of a text. -/
def tokens (source : String) : Except Problem (List String) := tokensFrom [] source.toList

/-! ## Grammar -/

mutual

/-- A type and the tokens behind it. -/
def readUnion : Nat → List String → Except Problem (TypeSpec × List String)
  | 0, _ => .error .unexpectedEnd
  | fuel + 1, ts => do
    let (first, rest) ← readMember fuel ts
    let (others, rest') ← readOthers fuel rest
    .ok (union (first :: others), rest')

/-- The members behind the first. -/
def readOthers : Nat → List String → Except Problem (List TypeSpec × List String)
  | 0, ts => .ok ([], ts)
  | fuel + 1, ts =>
    match ts with
    | "|" :: rest => do
      let (next, rest') ← readMember fuel rest
      let (others, rest'') ← readOthers fuel rest'
      .ok (next :: others, rest'')
    | _ => .ok ([], ts)

/-- A member and the tokens behind it. -/
def readMember : Nat → List String → Except Problem (TypeSpec × List String)
  | 0, _ => .error .unexpectedEnd
  | _, [] => .error .unexpectedEnd
  | fuel + 1, name :: rest =>
    if name = "array" then do
      let (element, rest') ← readParts fuel rest
      .ok (.array element, rest')
    else if name = "object" then do
      let (value, rest') ← readParts fuel rest
      .ok (.object value, rest')
    else match Primitive.ofName? name with
      | some p => .ok (.primitive p, rest)
      | none => .error (.unknown name)

/-- The type of the parts of a container, where it is given. -/
def readParts : Nat → List String → Except Problem (Option TypeSpec × List String)
  | 0, ts => .ok (none, ts)
  | fuel + 1, ts =>
    match ts with
    | "<" :: rest => do
      let (t, rest') ← readUnion fuel rest
      match rest' with
      | ">" :: rest'' => .ok (some t, rest'')
      | [] => .error .unexpectedEnd
      | _ :: _ => .error .unclosed
    | _ => .ok (none, ts)

end

/-- The type that tokens spell. -/
def ofTokens (ts : List String) : Except Problem TypeSpec := do
  let (t, rest) ← readUnion (4 * ts.length + 4) ts
  match rest with
  | [] => .ok t
  | token :: _ => .error (.unexpectedToken token)

/-- Reads a type. -/
def read (source : String) : Except Error TypeSpec :=
  let found := if isBlankText source then .error .empty else tokens source >>= ofTokens
  found.mapError fun p => ⟨p, source⟩

end FunctionManual.TypeSpec
