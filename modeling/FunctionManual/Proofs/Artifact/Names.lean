import FunctionManual.Artifact.Names

/-!
# Artifacts lie directly below their directory

* `Path.join_eq_child`: a text without a slash that is no point leads to a name below a path.
* `Artifact.slash_not_mem_fileName`: no identifier, whatever stands in it, puts a slash into the
  name of its artifact.
* `Artifact.artifactPath_eq_child`: so every artifact lies directly below the directory of
  artifacts.
-/

namespace FunctionManual

namespace Path

variable {s : List Char} {name : String}

/-- A text without a slash is one piece. -/
theorem pieces_eq_singleton (h : '/' ∉ s) : pieces s = [s] := by
  induction s with
  | nil => rfl
  | cons c s ih =>
    obtain ⟨hc, hs⟩ := List.ne_and_not_mem_of_not_mem_cons h
    rw [pieces, ih hs]
    exact if_neg hc.symm

theorem rootOf_eq_empty (h : '/' ∉ s) : rootOf s = "" := by
  unfold rootOf
  split <;> simp_all

/-- A text without a slash that is no point is read as a single name. -/
theorem read_eq_name (hs : '/' ∉ name.toList) (he : name ≠ "") (hp : name ≠ ".") :
    read name = ⟨"", [name]⟩ := by
  have kept : [name].filter (fun n => n ≠ "" && n ≠ ".") = [name] := by simp [he, hp]
  simp only [read, rootOf_eq_empty hs, pieces_eq_singleton hs, List.map_cons, List.map_nil,
    String.ofList_toList]
  rw [kept]

theorem join_eq_child (p : Path) (hs : '/' ∉ name.toList) (he : name ≠ "") (hp : name ≠ ".") :
    p.join name = p.child name := by
  rw [join, read_eq_name hs he hp]
  rfl

end Path

namespace Artifact

variable (root : Path) (identifier : String)

/-- What is safe is no slash. -/
theorem slash_not_mem_fileName : '/' ∉ (fileName identifier).toList := by
  have unsafe_slash : isSafe '/' = false := by decide
  have safe : '/' ∉ (safeName identifier).toList := by
    rw [safeName, String.toList_ofList, List.mem_map]
    rintro ⟨c, -, hc⟩
    split at hc
    next hs => rw [hc, unsafe_slash] at hs; cases hs
    next => exact absurd hc (by decide)
  rw [fileName, String.toList_append, List.mem_append, not_or]
  exact ⟨safe, by decide⟩

theorem length_fileName : 5 ≤ (fileName identifier).length := by
  have ending : ".json".length = 5 := by decide
  rw [fileName, String.length_append, ending]
  exact Nat.le_add_left _ _

/-- The artifact of a function lies directly below the directory of artifacts. -/
theorem artifactPath_eq_child :
    artifactPath root identifier = (directory root).child (fileName identifier) := by
  have long := length_fileName identifier
  rw [artifactPath]
  refine Path.join_eq_child _ (slash_not_mem_fileName identifier) ?_ ?_
  · intro h
    rw [h] at long
    exact absurd long (by decide)
  · intro h
    rw [h] at long
    exact absurd long (by decide)

end Artifact

end FunctionManual
