import FunctionManual.Text.Quoted

/-!
# Tokens

* `Span`: a range of positions of a program, counted in characters.
* `Token`: a kind, a text and a span.
* `Token.describe`: how messages name a token.
-/

namespace FunctionManual

open FunctionManual.Text

/-- The positions from `start` up to, not including, `stop`. -/
structure Span where
  start : Nat
  stop : Nat
  deriving DecidableEq, Repr

/-- A span as messages show it. -/
def Span.text (s : Span) : String := s!"({s.start}:{s.stop})"

/-- The kinds of token. -/
inductive TokenKind
  | identifier
  | string
  | rawString
  | regex
  | integer
  | float
  | punctuation
  | newline
  | endOfInput
  deriving DecidableEq, Repr

/-- The name of a kind of token. -/
def TokenKind.name : TokenKind → String
  | .identifier => "identifier"
  | .string => "string"
  | .rawString => "raw string"
  | .regex => "regex"
  | .integer => "integer"
  | .float => "float"
  | .punctuation => "punctuation"
  | .newline => "newline"
  | .endOfInput => "end of input"

/-- A token. The text of a string is its content, that of a number is without underscores. -/
structure Token where
  kind : TokenKind
  text : String
  span : Span
  deriving DecidableEq, Repr

namespace Token

/-- The end of a program of `length` characters. -/
def endAt (length : Nat) : Token := ⟨.endOfInput, "", ⟨length, length⟩⟩

/-- The kind of a token, and its text where that says more. -/
def describe (t : Token) : String :=
  match t.kind with
  | .endOfInput | .newline => t.kind.name
  | k => s!"{k.name} {quoted t.text}"

/-- Whether a token is the punctuation `mark`. -/
def isMark (t : Token) (mark : String) : Bool := t.kind = .punctuation && t.text = mark

/-- Whether a token separates statements. -/
def isSeparator (t : Token) : Bool := t.kind = .newline || t.isMark ";"

end Token

end FunctionManual
