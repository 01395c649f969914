import FunctionManual.Collection.Basic
import FunctionManual.Validation.Trial

/-!
# The reference page

* `Collection.reference`: a Markdown page of all docs of a collection, by category.

Texts of docs are written as they are.
-/

namespace FunctionManual

/-- A part of a page, if a condition says that it is there. -/
def partIf (present : Bool) (s : String) : String := if present then s else ""

/-- Texts on lines of their own. -/
def lineTexts (lines : List String) : String := String.join (lines.map fun l => l ++ "\n")

/-- A text between backquotes. -/
def code (s : String) : String := "`" ++ s ++ "`"

/-- The name of a type, where there is one. -/
def shownType (t : Option TypeSpec) : String := (t.map TypeSpec.render).getD ""

/-- The title of a category: its name with a capital. -/
def Category.title (c : Category) : String :=
  match c.name.toList with
  | [] => ""
  | h :: rest => String.ofList (h.toUpper :: rest)

/-- A variant in the table of parameters. -/
def Variant.cell (v : Variant) : String := "<br>" ++ code v.value.render ++ ": " ++ v.description

/-- The row of a parameter in the table of parameters. -/
def Parameter.row (p : Parameter) : String :=
  let required := if p.required then "yes" else "no"
  let default := partIf (!p.default.isNull) (code p.default.render)
  let variants := String.join (p.variants.map Variant.cell)
  "| " ++ code p.name.plain ++ " | " ++ code (shownType p.type) ++ " | " ++ required ++ " | " ++
    default ++ " | " ++ p.description.plain ++ variants ++ " |"

/-- The table of parameters. -/
def parameterTable (parameters : List Parameter) : String :=
  lineTexts (["| Parameter | Type | Required | Default | Description |",
    "|-----------|------|----------|---------|-------------|"] ++ parameters.map Parameter.row)
  ++ "\n"

/-- The part about what is returned. -/
def ReturnSpec.part (r : ReturnSpec) : String :=
  "**Returns** " ++ code (shownType r.type) ++ ": " ++ r.description.plain ++ "\n\n" ++
  lineTexts (r.rules.map fun rule => "- " ++ rule) ++ partIf (!r.rules.isEmpty) "\n"

/-- The part about failures. -/
def failurePart (reasons : List Slot) : String :=
  "**Fails when:**\n\n" ++ lineTexts (reasons.map fun r => "- " ++ r.plain) ++ "\n"

/-- The part about an example. -/
def Example.part (e : Example) : String :=
  let title := e.title.getD ""
  let notes := e.notes.getD ""
  let result := Result.describe (e.expected.map Result.ofExpected)
  "#### " ++ (if title.isEmpty then "Example" else title) ++ "\n\n" ++
  partIf (!e.input.isNull) ("Input event: " ++ code e.input.render ++ "\n\n") ++
  "```\n" ++ e.source.plain ++ "\n```\n\nResult: " ++ code result ++ "\n\n" ++
  partIf (!notes.isEmpty) (notes ++ "\n\n")

/-- The part about a function. -/
def Listing.part (l : Listing) : String :=
  let d := l.doc
  "### " ++ code d.identifier ++ partIf d.fallible " (fallible)" ++ "\n\n" ++
  "_" ++ l.repository ++ "_: " ++ d.summary.plain ++ "\n\n" ++ d.description.plain ++ "\n\n" ++
  partIf (!d.parameters.isEmpty) (parameterTable d.parameters) ++
  (d.returns.map ReturnSpec.part).getD "" ++
  partIf d.fallible (failurePart d.failureReasons) ++
  String.join (d.notices.map fun n => "> **Notice:** " ++ n ++ "\n\n") ++
  String.join (d.examples.map Example.part)

/-- The part about a category. -/
def categoryPart (c : Category) (listings : List Listing) : String :=
  "## " ++ c.title ++ "\n\n" ++ String.join (listings.map Listing.part)

/-- The title of a page, where none is given. -/
def usualTitle : String := "Function reference"

/-- The page of a collection under a title. -/
def Collection.reference (c : Collection) (title : String) : String :=
  "# " ++ title ++ "\n\nFunctions from: " ++ ", ".intercalate c.repositories ++ "\n\n" ++
  String.join (c.byCategory.map fun (k, ls) => categoryPart k ls)

end FunctionManual
