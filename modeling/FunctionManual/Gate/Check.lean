import FunctionManual.Doc.Reader
import FunctionManual.Gate.Fresh
import FunctionManual.Text.Difference

/-!
# The check of artifacts

* `Standing`: how a file stands to the registry.
* `Check`: the standing of one artifact or of the manifest, with a difference where there is one.
* `Registry.check`: the checks of a registry against the files below a root. It changes nothing.
-/

namespace FunctionManual

open FunctionManual.Text

/-- How a file stands to the registry. -/
inductive Standing
  | upToDate
  | different (difference : String)
  | missingFile
  | unregistered
  deriving DecidableEq, Repr

/-- The name of a standing. -/
def Standing.name : Standing → String
  | .upToDate => "match"
  | .different _ => "mismatch"
  | .missingFile => "missing_on_disk"
  | .unregistered => "missing_in_registry"

/-- The difference that a standing shows, empty where there is none. -/
def Standing.difference : Standing → String
  | .different d => d
  | _ => ""

/-- The standing of one file. The manifest has no identifier. -/
structure Check where
  identifier : Option String
  path : Path
  standing : Standing
  deriving DecidableEq, Repr

/-- The name of a check: the identifier, or the name of the file. -/
def Check.label (c : Check) : String := c.identifier.getD c.path.name

/-- Whether the file of a check is not what it should be. -/
def Check.isDrift (c : Check) : Bool := c.standing ≠ .upToDate

/-- The checks of a registry and the reports on its functions. -/
structure Audit where
  root : Path
  checks : List Check
  reports : List Report

namespace Audit

/-- The checks of files that are not what they should be. -/
def drift (a : Audit) : List Check := a.checks.filter (·.isDrift)

/-- The reports on functions that are not accepted. -/
def rejected (a : Audit) (strict : Bool) : List Report :=
  a.reports.filter fun r => !r.passed strict

/-- Whether all files are what they should be, and all functions are accepted. -/
def passed (a : Audit) (strict : Bool) : Bool := a.drift.isEmpty && (a.rejected strict).isEmpty

end Audit

/-- The standing of a file that should have a content; `name` names it in differences. -/
def standing (f : Files) (path : Path) (content : List UInt8) (name : String) :
    Except Fault Standing := do
  if !(← f.isFile path) then return .missingFile
  let found ← f.read path
  if found = content then return .upToDate
  return .different (Difference.unified (Utf8.decodeLossy found) (Utf8.decodeLossy content)
    s!"a/{name} (checked in)" s!"b/{name} (generated)")

/-- The name of a file without its ending. -/
def stem (name : String) : String :=
  let before := name.toList.reverse.dropWhile (· ≠ '.')
  match before with
  | '.' :: rest =>
    if rest.isEmpty || name.toList.getLast? = some '.' then name else String.ofList rest.reverse
  | _ => name

/-- The identifier of an orphan: that of its doc, or its name where it holds none. -/
def orphanIdentifier (f : Files) (path : Path) : Except Fault String := do
  let content ← f.read path
  match FunctionDoc.ofArtifact (.bytes content) (some path) with
  | .ok d => return d.identifier
  | .error _ => return stem path.name

/-- The check of a fresh artifact, if there is one. -/
def checkFresh (f : Files) (root : Path) (a : Fresh) : Except Fault (Option Check) :=
  match a.artifact with
  | none => return none
  | some content => do
    let path := Artifact.artifactPath root a.identifier
    let s ← standing f path content s!"functions/{Artifact.fileName a.identifier}"
    return some ⟨some a.identifier, path, s⟩

/-- The check of an orphan. -/
def checkOrphan (f : Files) (path : Path) : Except Fault Check := do
  return ⟨some (← orphanIdentifier f path), path, .unregistered⟩

/-- The bytes of the manifest of a registry. -/
def Registry.manifestBytes (r : Registry) (repository : Option String) : List UInt8 :=
  Utf8.encode (r.manifest repository).generate

/-- Compares the fresh artifacts of a registry with the files below a root. -/
def Registry.check (r : Registry) (v : Validator) (workers : Workers) (repository : Option String)
    (root : Path) (f : Files) : Except Fault Audit := do
  let fresh ← r.refresh v workers
  let registered ← fresh.filterMapM (checkFresh f root)
  let orphans ← Artifact.orphans f root (fresh.map fun a => Artifact.fileName a.identifier)
  let unregistered ← orphans.mapM (checkOrphan f)
  let path := Artifact.manifestPath root
  let manifest ← standing f path (r.manifestBytes repository) path.name
  return ⟨root, registered ++ unregistered ++ [⟨none, path, manifest⟩], fresh.map (·.report)⟩

end FunctionManual
