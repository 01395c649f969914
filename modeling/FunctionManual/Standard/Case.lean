import FunctionManual.Standard.Builtin
import FunctionManual.Text.Blank
import FunctionManual.Text.Case

/-!
# Texts: case and blanks

* `upcase`, `downcase`: the text in upper or lower case.
* `stripWhitespace`: the text without the blanks at its ends.
-/

namespace FunctionManual.Standard

open FunctionManual.Text

/-! ## Bytes -/

/-- A byte in upper case, if it is an ASCII letter. -/
def upperByte (b : UInt8) : UInt8 := if 97 ≤ b && b ≤ 122 then b - 32 else b

/-- A byte in lower case, if it is an ASCII letter. -/
def lowerByte (b : UInt8) : UInt8 := if 65 ≤ b && b ≤ 90 then b + 32 else b

/-- Whether a byte is an ASCII blank. -/
def isBlankByte (b : UInt8) : Bool := b = 32 || (9 ≤ b && b ≤ 13)

/-- Bytes without the blanks at their ends. -/
def stripBytes (bytes : List UInt8) : List UInt8 :=
  ((bytes.dropWhile isBlankByte).reverse.dropWhile isBlankByte).reverse

/-- Changes the argument, which is a text or, where no type is checked, bytes. -/
def changeText (operation : String) (onText : String → String)
    (onBytes : List UInt8 → List UInt8) (a : Arguments) : Action Datum := do
  match a.get "value" with
  | .scalar (.bytes b) => return .scalar (.bytes (onBytes b))
  | d => do
    let s ← Action.textOf d operation
    Action.text (onText s)

/-! ## Functions -/

/-- The doc of `upcase`. -/
def upcase.doc : FunctionDoc where
  identifier := "upcase"
  summary := "Upcase a string."
  description :=
    ("Upcases `value`, where upcase is defined according to the Unicode Derived Core " ++
     "Property Uppercase.")
  category := some .string
  parameters := [
    { name := "value", type := some (.primitive .string),
      description := "The string to convert to uppercase." }]
  returns := some
    { type := some (.primitive .string),
      description := "`value` with every character uppercased." }
  examples := [
    { title := some "Upcase a string",
      source := "upcase(\"abc\")",
      expected := some (.ok (.string "ABC")) },
    { title := some "Mixed case with punctuation",
      source := "upcase(\"Hello, World!\")",
      expected := some (.ok (.string "HELLO, WORLD!")) }]

/-- The text in upper case. -/
def upcase : Builtin where
  doc := upcase.doc
  word := "upcase"
  required := ["value"]
  body := changeText "upper" upper (·.map upperByte)

/-- The doc of `downcase`. -/
def downcase.doc : FunctionDoc where
  identifier := "downcase"
  summary := "Downcase a string."
  description :=
    ("Downcases `value`, where downcase is defined according to the Unicode Derived Core " ++
     "Property Lowercase.")
  category := some .string
  parameters := [
    { name := "value", type := some (.primitive .string),
      description := "The string to convert to lowercase." }]
  returns := some
    { type := some (.primitive .string),
      description := "`value` with every character lowercased." }
  examples := [
    { title := some "Downcase a string",
      source := "downcase(\"Hello, World!\")",
      expected := some (.ok (.string "hello, world!")) }]

/-- The text in lower case. -/
def downcase : Builtin where
  doc := downcase.doc
  word := "downcase"
  required := ["value"]
  body := changeText "lower" lower (·.map lowerByte)

/-- The doc of `strip_whitespace`. -/
def stripWhitespace.doc : FunctionDoc where
  identifier := "strip_whitespace"
  summary := "Strip leading and trailing whitespace."
  description :=
    ("Strips whitespace from the start and end of `value`, where whitespace is\ndefined by " ++
     "the Unicode `White_Space` property.")
  category := some .string
  parameters := [
    { name := "value", type := some (.primitive .string),
      description := "The string to trim." }]
  returns := some
    { type := some (.primitive .string),
      description := "`value` without surrounding whitespace." }
  examples := [
    { title := some "Strip whitespace",
      source := "strip_whitespace(\"  A sentence.  \")",
      expected := some (.ok (.string "A sentence.")) },
    { title := some "Tabs and newlines",
      source := "strip_whitespace(\"\\t\\tline\\n\")",
      expected := some (.ok (.string "line")) }]

/-- The text without the blanks at its ends. -/
def stripWhitespace : Builtin where
  doc := stripWhitespace.doc
  word := "strip_whitespace"
  required := ["value"]
  body := changeText "strip" strip stripBytes

end FunctionManual.Standard
