import FunctionManual.Standard.Case
import FunctionManual.Standard.Checks
import FunctionManual.Standard.Codec
import FunctionManual.Standard.Contents
import FunctionManual.Standard.ParseRegex
import FunctionManual.Standard.Snakecase
import FunctionManual.Standard.ToInt

/-!
# The standard library

* `Standard.all`: its functions in the order of their registration.
* `Standard.registry`: the registry of its functions.
-/

namespace FunctionManual.Standard

/-- The name of the repository of the standard library. -/
def repository : String := "stdlib"

/-- The functions of the standard library. -/
def all : List Builtin := [
  upcase, downcase, snakecase, stripWhitespace,
  boolean, isInteger, isString,
  keys, values, length,
  parseJson, parseRegexAll,
  encodeBase64, decodeBase64,
  toInt]

/-- The function with an identifier. -/
def find? (identifier : String) : Option Builtin :=
  all.find? (·.doc.identifier = identifier)

/-- A function of the standard library as an entry. -/
def entry (b : Builtin) : Entry := ⟨b.doc.identifier, b.doc, b.evaluator⟩

/-- The registry of the standard library. -/
def registry : Registry where
  name := repository
  entries := all.map entry
  holders := all.map fun b => (entry b).holder

end FunctionManual.Standard
