import FunctionManual.Gate.Check

/-!
# Publishing artifacts

* `Publication`: what was written, left unchanged and removed; or that nothing was written because
  a function is not accepted.
* `Registry.publish`: writes the artifacts and the manifest of a registry below a root, and removes
  orphans.
-/

namespace FunctionManual

/-- What publishing did. -/
structure Publication where
  root : Path
  reports : List Report
  written : List Path := []
  unchanged : List Path := []
  removed : List Path := []
  refused : Bool := false

/-- The reports on functions that are not accepted. -/
def Publication.rejected (p : Publication) (strict : Bool) : List Report :=
  p.reports.filter fun r => !r.passed strict

/-- Writes a file, and says whether it had this content before. -/
def writeContent (path : Path) (content : List UInt8) : FileAction Bool := do
  let same ← FileAction.look fun f => do
    if ← f.isFile path then return decide ((← f.read path) = content)
    return false
  FileAction.write path content
  return same

/-- Writes files, and says of each whether it had its content before. -/
def writeContents : List (Path × List UInt8) → FileAction (List (Path × Bool))
  | [] => return []
  | (path, content) :: rest => do
    let same ← writeContent path content
    let later ← writeContents rest
    return (path, same) :: later

/-- The artifacts that could be generated, with their paths. -/
def artifactContents (root : Path) (fresh : List Fresh) : List (Path × List UInt8) :=
  fresh.filterMap fun a => a.artifact.map fun c => (Artifact.artifactPath root a.identifier, c)

/-- Writes fresh artifacts and a manifest below a root, and removes orphans. -/
def publishFresh (root : Path) (fresh : List Fresh) (manifest : List UInt8) :
    FileAction Publication := do
  FileAction.ensureDirectory (Artifact.directory root)
  let artifacts ← writeContents (artifactContents root fresh)
  let expected := fresh.map fun a => Artifact.fileName a.identifier
  let removed ← FileAction.look fun f => Artifact.orphans f root expected
  removed.forM FileAction.remove
  let last ← writeContents [(Artifact.manifestPath root, manifest)]
  let all := artifacts ++ last
  return {
    root, reports := fresh.map (·.report), removed
    written := (all.filter fun (_, same) => !same).map (·.1)
    unchanged := (all.filter fun (_, same) => same).map (·.1) }

/-- Writes the artifacts of a registry below a root, unless a function is not accepted. -/
def Registry.publish (r : Registry) (v : Validator) (strict : Bool) (workers : Workers)
    (repository : Option String) (root : Path) : FileAction Publication := do
  let fresh ← FileAction.ofExcept (r.refresh v workers)
  let reports := fresh.map (·.report)
  if reports.any fun x => !x.passed strict then return { root, reports, refused := true }
  publishFresh root fresh (r.manifestBytes repository)

end FunctionManual
