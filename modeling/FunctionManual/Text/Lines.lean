/-!
# Lines

* `splitLines`: the lines of a text, each with its line end.
* `splitAtChar`: the pieces between the occurrences of one character.
* `lineColumn`: line and column of a position, both counted from one.
-/

namespace FunctionManual.Text

/-- A character that ends a line; a carriage return swallows a newline behind it. -/
def isLineEnd (c : Char) : Bool :=
  let n := c.toNat
  (10 ≤ n && n ≤ 13) || (28 ≤ n && n ≤ 30) || n == 0x85 || n == 0x2028 || n == 0x2029

/-- The lines of `s`, each with its end; `line` is the current line in reverse. -/
def splitLinesFrom (line : List Char) : List Char → List (List Char)
  | [] => if line.isEmpty then [] else [line.reverse]
  | [c] => [(c :: line).reverse]
  | c :: d :: rest =>
    if c = '\r' ∧ d = '\n' then (d :: c :: line).reverse :: splitLinesFrom [] rest
    else if isLineEnd c then (c :: line).reverse :: splitLinesFrom [] (d :: rest)
    else splitLinesFrom (c :: line) (d :: rest)

/-- The lines of a text, each with its end. -/
def splitLines (s : String) : List String := (splitLinesFrom [] s.toList).map String.ofList

/-- Splits at every `mark`; the pieces are one more than the marks. -/
def splitAtChar (mark : Char) (s : List Char) : List (List Char) :=
  match s with
  | [] => [[]]
  | c :: rest =>
    let pieces := splitAtChar mark rest
    if c = mark then [] :: pieces
    else match pieces with
      | [] => [[c]]
      | p :: ps => (c :: p) :: ps

/-- Line and column of the position `pos`, counting newlines; both start at one. -/
def lineColumn (s : List Char) (pos : Nat) : Nat × Nat :=
  let before := s.take pos
  (before.count '\n' + 1, (before.reverse.takeWhile (· ≠ '\n')).length + 1)

end FunctionManual.Text
