import FunctionManual.Syntax.Problem
import FunctionManual.Text.Blank
import FunctionManual.Text.Letter

/-!
# Tokens of a program

A step takes one character and a number of characters behind it, and yields at most one token.

* `Syntax.step`: what comes next.
* `Syntax.scan`: the tokens of a program, without the end of input.
* `Syntax.tokenize`: the tokens of a program.

Newlines are tokens outside of brackets and blanks inside them.
-/

namespace FunctionManual.Syntax

open FunctionManual.Text

/-- One step of scanning: the token it yields, the number of characters taken behind the first, and
the depth of brackets behind it. -/
structure Step where
  token : Option (TokenKind × String)
  more : Nat
  depth : Nat

/-! ## Character classes -/

/-- The punctuation of the language. -/
def isPunctuation (c : Char) : Bool := "()[]\x7b\x7d,:;=!.".toList.contains c

/-- An opening bracket. -/
def isOpening (c : Char) : Bool := c = '(' || c = '[' || c = '\x7b'

/-- A closing bracket. -/
def isClosing (c : Char) : Bool := c = ')' || c = ']' || c = '\x7d'

/-- A character that may begin an identifier. -/
def isIdentifierStart (c : Char) : Bool := isLetter c || c = '_'

/-- A character that may continue an identifier. -/
def isIdentifierPart (c : Char) : Bool := isAlphanumeric c || c = '_'

/-- The depth of brackets behind a punctuation character; a bracket too many closes nothing. -/
def depthAfter (depth : Nat) (c : Char) : Nat :=
  if isOpening c then depth + 1 else if isClosing c then depth - 1 else depth

/-! ## Literals -/

/-- The character that an escape stands for. -/
def escapeValue? : Char → Option Char
  | 'n' => some '\n'
  | 't' => some '\t'
  | 'r' => some '\r'
  | '0' => some '\x00'
  | '\\' => some '\\'
  | '"' => some '"'
  | '\'' => some '\''
  | '\x7b' => some '\x7b'
  | '\x7d' => some '\x7d'
  | _ => none

/-- The content of a string and the number of characters up to its closing mark, that mark counted.
The string begins at `start`, and the characters are read from `pos` on. -/
def scanString (start pos : Nat) : List Char → Except Error (List Char × Nat)
  | [] => .error ⟨.unterminatedString, ⟨start, pos⟩⟩
  | '"' :: _ => .ok ([], 1)
  | '\\' :: rest =>
    match rest with
    | [] => .error ⟨.invalidEscape none, ⟨pos, pos + 2⟩⟩
    | e :: rest' =>
      match escapeValue? e with
      | none => .error ⟨.invalidEscape (some e), ⟨pos, pos + 2⟩⟩
      | some c => (scanString start (pos + 2) rest').map fun (cs, n) => (c :: cs, n + 2)
  | c :: rest => (scanString start (pos + 1) rest).map fun (cs, n) => (c :: cs, n + 1)

/-- The characters that continue a number, and whether a fraction is among them. A point belongs to
the number when a digit follows and there was no point before. -/
def spanNumber (fraction : Bool) : List Char → List Char × Bool
  | [] => ([], fraction)
  | c :: rest =>
    if isAsciiDigit c || c = '_' then
      let (cs, f) := spanNumber fraction rest
      (c :: cs, f)
    else if c = '.' && !fraction && (rest.head?).any isAsciiDigit then
      let (cs, f) := spanNumber true rest
      (c :: cs, f)
    else ([], fraction)

/-! ## Scanning -/

/-- What the character `c` at the position `pos`, followed by `rest`, begins. -/
def step (depth pos : Nat) (c : Char) (rest : List Char) : Except Error Step :=
  if c = '\n' then
    .ok ⟨if depth = 0 then some (.newline, "\n") else none, 0, depth⟩
  else if isBlank c then .ok ⟨none, 0, depth⟩
  else if c = '#' then .ok ⟨none, (rest.takeWhile (· ≠ '\n')).length, depth⟩
  else if c = '"' then
    (scanString pos (pos + 1) rest).map fun (cs, n) =>
      ⟨some (.string, String.ofList cs), n, depth⟩
  else if (c = 'r' || c = 's') && rest.head? = some '\'' then
    let content := (rest.drop 1).takeWhile (· ≠ '\'')
    if content.length + 1 < rest.length then
      let kind := if c = 'r' then TokenKind.regex else TokenKind.rawString
      .ok ⟨some (kind, String.ofList content), content.length + 2, depth⟩
    else .error ⟨.unterminatedLiteral, ⟨pos, pos + 1 + rest.length⟩⟩
  else if isAsciiDigit c || (c = '-' && (rest.head?).any isAsciiDigit) then
    let (cs, fraction) := spanNumber false rest
    let kind := if fraction then TokenKind.float else TokenKind.integer
    .ok ⟨some (kind, String.ofList ((c :: cs).filter (· ≠ '_'))), cs.length, depth⟩
  else if isIdentifierStart c then
    let cs := rest.takeWhile isIdentifierPart
    .ok ⟨some (.identifier, String.ofList (c :: cs)), cs.length, depth⟩
  else if isPunctuation c then
    .ok ⟨some (.punctuation, c.toString), 0, depthAfter depth c⟩
  else .error ⟨.unexpectedCharacter c, ⟨pos, pos + 1⟩⟩

/-- The tokens of the rest of a program that begins at `pos`. -/
def scanFrom (depth pos : Nat) (s : List Char) : Except Error (List Token) :=
  match s with
  | [] => .ok []
  | c :: rest => do
    let next ← step depth pos c rest
    let stop := pos + 1 + next.more
    let tokens ← scanFrom next.depth stop (rest.drop next.more)
    match next.token with
    | some (kind, text) => return ⟨kind, text, ⟨pos, stop⟩⟩ :: tokens
    | none => return tokens
termination_by s.length
decreasing_by simp only [List.length_drop, List.length_cons]; omega

/-- The tokens of a program, without the end of input. -/
def scan (source : String) : Except Error (List Token) := scanFrom 0 0 source.toList

/-- The tokens of a program. -/
def tokenize (source : String) : Except Error (List Token) :=
  (scan source).map (· ++ [Token.endAt source.length])

end FunctionManual.Syntax
