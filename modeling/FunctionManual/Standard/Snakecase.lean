import FunctionManual.Standard.Builtin
import FunctionManual.Standard.Words

/-!
# Snake case

* `snakecase`: the words of a text in lower case with underscores between them.
* `Words.refuseCut`: how cutting fails on a value that is no text.
-/

namespace FunctionManual.Standard

open FunctionManual.Text

/-- The conventions that may be named. -/
def caseVariants : List Variant := [
  ⟨.string "camelCase",
    "[camelCase](https://en.wikipedia.org/wiki/Camel_case)"⟩,
  ⟨.string "PascalCase",
    "[PascalCase](https://en.wikipedia.org/wiki/Camel_case)"⟩,
  ⟨.string "SCREAMING_SNAKE",
    "[SCREAMING_SNAKE](https://en.wikipedia.org/wiki/Snake_case)"⟩,
  ⟨.string "snake_case",
    "[snake_case](https://en.wikipedia.org/wiki/Snake_case)"⟩,
  ⟨.string "kebab-case",
    "[kebab-case](https://en.wikipedia.org/wiki/Letter_case#Kebab_case)"⟩]

/-- The boundaries that may be excluded. -/
def boundaryVariants : List Variant := [
  ⟨.string "lower_upper",
    "Lowercase to uppercase transitions (e.g., 'camelCase' → 'camel' + 'case')"⟩,
  ⟨.string "upper_lower",
    "Uppercase to lowercase transitions (e.g., 'CamelCase' → 'Camel' + 'Case')"⟩,
  ⟨.string "acronym",
    "Acronyms from words (e.g., 'XMLHttpRequest' → 'xmlhttp' + 'request')"⟩,
  ⟨.string "lower_digit",
    "Lowercase to digit transitions (e.g., 'foo2bar' → 'foo2_bar')"⟩,
  ⟨.string "upper_digit",
    "Uppercase to digit transitions (e.g., 'versionV2' → 'version_v2')"⟩,
  ⟨.string "digit_lower",
    "Digit to lowercase transitions (e.g., 'Foo123barBaz' → 'foo' + '123bar' + 'baz')"⟩,
  ⟨.string "digit_upper",
    "Digit to uppercase transitions (e.g., 'Version123Test' → 'version' + '123test')"⟩]

/-- The doc of `snakecase`. -/
def snakecase.doc : FunctionDoc where
  identifier := "snakecase"
  summary := "Convert a string to snake_case."
  description :=
    ("Takes the `value` string, and turns it into snake_case. Optionally, you can\npass in " ++
     "the existing case of the function, or else we will try to figure out\nthe case " ++
     "automatically.")
  category := some .string
  parameters := [
    { name := "value", type := some (.primitive .string),
      description := "The string to convert to snake_case." },
    { name := "original_case", type := some (.primitive .string),
      description := "Optional hint on the original case type.",
      required := false,
      variants := caseVariants },
    { name := "excluded_boundaries", type := some (.array (some (.primitive .string))),
      description := "Case boundaries to exclude during conversion.",
      required := false,
      variants := boundaryVariants }]
  returns := some
    { type := some (.primitive .string),
      description := "`value` in snake_case." }
  examples := [
    { title := some "snake_case a string",
      source := "snakecase(\"input-string\")",
      expected := some (.ok (.string "input_string")) },
    { title := some "snake_case a string with original case",
      source := "snakecase(\"input-string\", original_case: \"kebab-case\")",
      expected := some (.ok (.string "input_string")) },
    { title := some "snake_case with excluded boundaries",
      source := "snakecase(\"s3BucketDetails\", excluded_boundaries: [\"lower_digit\"])",
      expected := some (.ok (.string "s3_bucket_details")) },
    { title := some "snake_case an acronym",
      source := "snakecase(\"XMLHttpRequest\")",
      expected := some (.ok (.string "xml_http_request")) }]

/-! ## Arguments -/

/-- The convention that an argument names; null names none. -/
def readConvention (d : Datum) : Action (Option Words.Convention) :=
  match d with
  | .scalar .null => return none
  | .scalar (.string s) => do
    let c ← Action.ofExcept (Words.Convention.read s)
    return some c
  | .scalar (.set _) => Action.fail (.badType "unhashable type: 'set'")
  | .scalar v => Action.fail (.badKey v)
  | _ => do
    let word ← Action.look fun s => (s.view d).typeWord
    Action.fail (.badType s!"unhashable type: '{word}'")

/-- The texts among the parts of an argument, whose parts must be values that can be compared all at
once. -/
def readTexts (d : Datum) : Action (List String) := do
  if !(← Action.look fun s => s.isTrue d) then return []
  let v ← Action.look fun s => s.view d
  match v with
  | .array items => items.filterMapM textOf?
  | .object members => return members.filterMap fun (k, _) =>
    match k with
    | .text t => some t
    | _ => none
  | .scalar x =>
    match x with
    | .string _ | .bytes _ => return []
    | .set member => do
      let t ← textOf? (.scalar member)
      return t.toList
    | _ => Action.fail (.badType s!"'{v.longTypeWord}' object is not iterable")
where
  /-- The text of a part, if it is one; containers are refused. -/
  textOf? : Datum → Action (Option String)
    | .scalar (.string t) => return some t
    | .scalar (.set _) => Action.fail (.badType "unhashable type: 'set'")
    | .scalar _ => return none
    | .array _ => Action.fail (.badType "unhashable type: 'list'")
    | .object _ => Action.fail (.badType "unhashable type: 'dict'")

/-! ## Values that are no texts -/

namespace Words

/-- The operation that finds out about a trait. -/
def Trait.operation : Trait → String
  | .small => "islower"
  | .capital => "isupper"
  | .digit => "isdigit"

/-- Whether a whole text has a trait. -/
def Trait.holdsOfText (t : Trait) (s : List Char) : Bool :=
  match t with
  | .small => isLowerText s
  | .capital => isUpperText s
  | .digit => !s.isEmpty && s.all isDigit

/-- Bytes as characters; a byte that is not ASCII has no trait. -/
def asciiText (bytes : List UInt8) : List Char :=
  bytes.map fun b => if b < 128 then Char.ofNat b.toNat else '\x00'

/-- Whether a part has a trait. Only texts and bytes know. -/
def Trait.heldBy (t : Trait) : Datum → Action Bool
  | .scalar (.string s) => return t.holdsOfText s.toList
  | .scalar (.bytes b) => return t.holdsOfText (asciiText b)
  | d => Action.lacks d t.operation

/-- The part of a value at an index. An object is asked for a member of that name. -/
def partAt (v : View Datum) (index : Nat) : Action Datum :=
  match v with
  | .array items => return items.getD index (.scalar .null)
  | .object members =>
    match Members.find? (.integer index) members with
    | some d => return d
    | none => Action.fail (.badKey (.integer index))
  | .scalar (.bytes b) => return .scalar (.integer (b.getD index 0).toNat)
  | .scalar s => return .scalar s

/-- Whether one of the boundaries lies in front of the part at an index, behind which `next`
follows. -/
def liesAt (v : View Datum) (index : Nat) (next : Datum) : List Boundary → Action Bool
  | [] => return false
  | b :: rest => do
    let (before, behind, further) := b.traits
    let previous ← partAt v (index - 1)
    let current ← partAt v index
    if ← before.heldBy previous then
      if ← behind.heldBy current then
        match further with
        | none => return true
        | some t => if ← t.heldBy next then return true
    liesAt v index next rest

/-- The complaint about a value of which no piece can be taken, if it is one. -/
def checkPieces : View Datum → Action Unit
  | .object _ => Action.fail (.badType "unhashable type: 'slice'")
  | .scalar (.set _) => Action.fail (.badType "'set' object is not subscriptable")
  | _ => return ()

/-- Looks for boundaries in front of parts; a piece is taken at each. -/
def lookForBoundaries (v : View Datum) (size : Nat) (boundaries : List Boundary) :
    List Nat → Action Unit
  | [] => return ()
  | index :: rest => do
    let next ← if index + 1 < size then partAt v (index + 1) else pure (.scalar (.string ""))
    if ← liesAt v index next boundaries then checkPieces v
    lookForBoundaries v size boundaries rest

/-- How cutting fails on a value that is no text. Where there are separators it fails at once.
Otherwise a value that does not count as true has no words; any other is asked for its length and
its parts, and its pieces are no words in the end. -/
def refuseCut (convention : Option Convention) (excluded : Action (List String)) (d : Datum) :
    Action Datum := do
  let v ← Action.look fun s => s.view d
  if convention = some .camelCase || convention = some .pascalCase then
    let boundaries := usualBut (← excluded)
    if !(← Action.look fun s => s.isTrue d) then Action.text ""
    else
      let size ← sizeOf v
      lookForBoundaries v size boundaries (List.range' 1 (size - 1))
      checkPieces v
      match v with
      | .scalar _ =>
        Action.fail (.badType "sequence item 0: expected str instance, bytes found")
      | _ => Action.lacks d "lower"
  else
    match v with
    | .scalar (.bytes _) =>
      Action.fail (.badType "cannot use a string pattern on a bytes-like object")
    | _ =>
      Action.fail (.badType s!"expected string or bytes-like object, got '{v.longTypeWord}'")
where
  /-- The number of parts. -/
  sizeOf : View Datum → Action Nat
    | .array items => return items.length
    | .object members => return members.length
    | .scalar (.bytes b) => return b.length
    | .scalar (.set _) => return 1
    | .scalar _ => Action.lacksLength d

end Words

/-- The words of the text in lower case with underscores between them. -/
def snakecase : Builtin where
  doc := snakecase.doc
  word := "snakecase"
  required := ["value"]
  optional := ["original_case", "excluded_boundaries"]
  body := fun a => do
    let convention ← readConvention (a.get "original_case")
    let excluded := readTexts (a.get "excluded_boundaries")
    match a.get "value" with
    | .scalar (.string s) => do
      let names ← if Words.usesBoundaries convention then excluded else pure []
      Action.text ("_".intercalate ((Words.split s convention names).map lower))
    | d => Words.refuseCut convention excluded d

end FunctionManual.Standard
