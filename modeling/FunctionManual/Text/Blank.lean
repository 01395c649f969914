/-!
# Blank characters and stripping

* `isBlank`: the white space of Unicode together with the four separator controls.
* `strip`: a text without the blanks at its two ends.
* `isBlankText`: nothing but blanks.
* `isNumberBlank`: the blanks that may surround a number; the separator controls may not.
-/

namespace FunctionManual.Text

/-- White space, and the information separators U+001C to U+001F. -/
def isBlank (c : Char) : Bool :=
  let n := c.toNat
  (9 ≤ n && n ≤ 13) || (28 ≤ n && n ≤ 32) || n == 0x85 || n == 0xA0 || n == 0x1680 ||
    (0x2000 ≤ n && n ≤ 0x200A) || n == 0x2028 || n == 0x2029 || n == 0x202F || n == 0x205F ||
    n == 0x3000

/-- The characters without those at both ends that `drop` accepts. -/
def trimBy (drop : Char → Bool) (s : List Char) : List Char :=
  ((s.dropWhile drop).reverse.dropWhile drop).reverse

/-- The characters without the blanks at both ends. -/
def stripChars (s : List Char) : List Char := trimBy isBlank s

/-- The text without the blanks at both ends. -/
def strip (s : String) : String := String.ofList (stripChars s.toList)

/-- A text that holds nothing but blanks. -/
def isBlankText (s : String) : Bool := s.toList.all isBlank

/-- A blank that may stand before or behind a number. -/
def isNumberBlank (c : Char) : Bool := isBlank c && !(28 ≤ c.toNat && c.toNat ≤ 31)

end FunctionManual.Text
