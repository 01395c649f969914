import FunctionManual.Artifact.Problem
import FunctionManual.Json.Writer

/-!
# Manifests

* `Manifest`: the name of a repository and the identifiers of its functions in order.
* `Manifest.generate`, `Manifest.ofContent`: its text, and its reading.
-/

namespace FunctionManual

open FunctionManual.Artifact

/-- The functions of a repository. -/
structure Manifest where
  repository : String
  functions : List String
  deriving DecidableEq, Repr

namespace Manifest

/-- The text of a manifest. -/
def generate (m : Manifest) : String :=
  (Json.object [("repository", .string m.repository),
    ("functions", .array (m.functions.map Json.string))]).pretty ++ "\n"

/-- The manifest with these members. A repository has a name, and no function is listed twice. -/
def ofMembers (repository functions : Json) : Except Problem Manifest :=
  match string? repository with
  | none => .error .noRepository
  | some name =>
    if name.isEmpty then .error .noRepository
    else
      match functions with
      | .array items =>
        match items.mapM string? with
        | none => .error .noFunctions
        | some names =>
          if names.eraseDups.length = names.length then .ok ⟨name, names⟩
          else .error .repeatedFunction
      | _ => .error .noFunctions

/-- The manifest of a content. -/
def ofContent (content : Content) : Except Problem Manifest := do
  match ← readJson content with
  | .object d =>
    let repository ← member d "repository"
    let functions ← member d "functions"
    ofMembers repository functions
  | j => throw (.notIndexable j)

/-- The manifest of a content that lies at a path if one is given. -/
def read (content : Content) (path : Option Path) : Except Fault Manifest :=
  (ofContent content).mapError fun p => handle manifestClauses path (p.raised path)

end Manifest

end FunctionManual
