import FunctionManual.Files.Path

/-!
# Where artifacts lie

    <root>/manifest.json
    <root>/functions/<identifier made safe>.json

* `Artifact.safeName`: an identifier with every character that is no ASCII letter, digit, underscore
  or hyphen replaced by an underscore.
-/

namespace FunctionManual.Artifact

/-- A character that may stand in the name of an artifact. -/
def isSafe (c : Char) : Bool := c.isAlphanum || c = '_' || c = '-'

/-- An identifier made safe. -/
def safeName (identifier : String) : String :=
  String.ofList (identifier.toList.map fun c => if isSafe c then c else '_')

/-- The name of the artifact of a function. -/
def fileName (identifier : String) : String := safeName identifier ++ ".json"

/-- The directory of artifacts below a root. -/
def directory (root : Path) : Path := root.child "functions"

/-- The manifest below a root. -/
def manifestPath (root : Path) : Path := root.child "manifest.json"

/-- The artifact of a function below a root. -/
@[irreducible]
def artifactPath (root : Path) (identifier : String) : Path :=
  (directory root).join (fileName identifier)

end FunctionManual.Artifact
