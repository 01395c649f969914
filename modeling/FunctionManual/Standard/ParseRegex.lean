import FunctionManual.Standard.ParseJson

/-!
# Parsing with regular expressions

* `captures`: the groups of a match, by name and, if asked for, by number.
* `parseRegexAll`: the captures of all matches.
-/

namespace FunctionManual.Standard

/-- The doc of `parse_regex_all`. -/
def parseRegexAll.doc : FunctionDoc where
  identifier := "parse_regex_all"
  summary := "Parse every regex match in a string."
  description :=
    ("Parses the `value` using the provided " ++
     "[Regex](https://en.wikipedia.org/wiki/Regular_expression) `pattern`.\n\nThis function " ++
     "differs from the `parse_regex` function in that it returns _all_ matches, not just " ++
     "the first.")
  category := some .parse
  parameters := [
    { name := "value", type := some (.primitive .any),
      description := "The string to search." },
    { name := "pattern", type := some (.primitive .regex),
      description := "The regular expression pattern to search against." },
    { name := "numeric_groups", type := some (.primitive .boolean),
      description :=
        ("If `true`, the index of each group in the regular expression is also captured. " ++
         "Index `0` contains the whole match."),
      required := false, default := .boolean false }]
  returns := some
    { type := some (.array (some (.object none))),
      description := "One object of captures per match.",
      rules := [
        "Matches return all capture groups corresponding to the leftmost matches in the text.",
        "Returns an empty array if nothing matches."] }
  failureReasons := [
    "`value` is not a string."]
  examples := [
    { title := some "Parse using Regex (all matches)",
      source :=
        ("parse_regex_all!(\"first group and second group.\", r'(?P<number>\\w+) group', " ++
         "numeric_groups: true)"),
      expected :=
        some (.ok (.array [
          .record [
            ("number", .string "first"),
            ("0", .string "first group"),
            ("1", .string "first")],
          .record [
            ("number", .string "second"),
            ("0", .string "second group"),
            ("1", .string "second")]])) },
    { title := some "Parse using Regex (simple match)",
      source :=
        ("parse_regex_all!(\"apples and carrots, peaches and peas\", r'(?P<fruit>[\\w\\.]+) " ++
         "and (?P<veg>[\\w]+)')"),
      expected :=
        some (.ok (.array [
          .record [("fruit", .string "apples"), ("veg", .string "carrots")],
          .record [("fruit", .string "peaches"), ("veg", .string "peas")]])) },
    { title := some "Parse using Regex (all numeric groups)",
      source :=
        ("parse_regex_all!(\"apples and carrots, peaches and peas\", r'(?P<fruit>[\\w\\.]+) " ++
         "and (?P<veg>[\\w]+)', numeric_groups: true)"),
      expected :=
        some (.ok (.array [
          .record [
            ("fruit", .string "apples"),
            ("veg", .string "carrots"),
            ("0", .string "apples and carrots"),
            ("1", .string "apples"),
            ("2", .string "carrots")],
          .record [
            ("fruit", .string "peaches"),
            ("veg", .string "peas"),
            ("0", .string "peaches and peas"),
            ("1", .string "peaches"),
            ("2", .string "peas")]])) },
    { title := some "Not a string",
      source := "parse_regex_all!(42, r'\\d+')",
      expected := some (.error ⟨"function_call", ""⟩) }]
  notices := [
    preferSpecific,
    ("All values are returned as strings. We recommend manually coercing values to\ndesired " ++
     "types as you see fit.")]

/-- The text of a group, or null when it took no part in the match. -/
def groupDatum (subject : Array Char) (m : Regex.Match) (index : Nat) : Datum :=
  match m.group? subject index with
  | some t => .scalar (.string t)
  | none => .scalar .null

/-- The groups of a match: the named ones in the order in which they open, then all of them by
number if `numeric` asks for it. -/
def captures (pattern : Regex.Pattern) (subject : Array Char) (numeric : Bool)
    (m : Regex.Match) : Members Datum :=
  let named := pattern.names.map fun (name, index) =>
    (Key.text name, groupDatum subject m index)
  let numbered := (List.range (pattern.groups + 1)).map fun index =>
    (Key.text (toString index), groupDatum subject m index)
  Members.ofList (if numeric then named ++ numbered else named)

/-- Adds objects to the store. -/
def addObjects : List (Members Datum) → Action (List Datum)
  | [] => return []
  | ms :: rest => do
    let d ← Action.change fun s => s.addObject ms
    let ds ← addObjects rest
    return d :: ds

/-- The fault of a match in which a group ends before it starts. -/
def wrongSpan : Fault :=
  .raised "SystemError"
    "The span of capturing group is wrong, please report a bug for the re module."

/-- The captures of all matches of a pattern. -/
def parseRegexAll : Builtin where
  doc := parseRegexAll.doc
  word := "parse_regex_all"
  required := ["value", "pattern"]
  optional := ["numeric_groups"]
  body := fun a => do
    match a.get "value", a.get "pattern" with
    | .scalar (.string s), .scalar (.regex r) =>
      let numeric ← Action.look fun store => store.isTrue (a.get "numeric_groups")
      let subject := s.toList.toArray
      let found := Regex.findAll r.pattern subject
      if found.any fun m => !m.isSound r.pattern.groups then Action.fail wrongSpan
      let ds ← addObjects (found.map (captures r.pattern subject numeric))
      Action.change fun store => store.addArray ds
    | .scalar (.string _), d => Action.lacks d "finditer"
    | d, _ => do
      let kind ← Action.kindName d
      Action.refuse s!"expected string, got {kind}"

end FunctionManual.Standard
