import FunctionManual.Artifact.Manifest
import FunctionManual.Proofs.Doc.Writing

/-!
# Manifests are read again

* `length_eraseDups_eq_iff`: a list is as long without its repeated items just when it repeats none.
* `Manifest.read_generate`: what is generated for a repository with a name, whose functions are all
  different, is read as its manifest.
-/

namespace FunctionManual

open FunctionManual.Artifact

/-- Where no item is repeated, none is dropped. -/
theorem eraseDups_of_nodup {l : List String} (h : l.Nodup) : l.eraseDups = l := by
  induction l with
  | nil => rfl
  | cons a l ih =>
    obtain ⟨ha, hl⟩ := List.nodup_cons.mp h
    have hkept : l.filter (fun b => !b == a) = l := by
      refine List.filter_eq_self.mpr fun b hb => ?_
      rw [Bool.not_eq_true', beq_eq_false_iff_ne]
      rintro rfl
      exact ha hb
    rw [List.eraseDups_cons, hkept, ih hl]

theorem length_eraseDups_le (l : List String) : l.eraseDups.length ≤ l.length := by
  match l with
  | [] => simp
  | a :: l =>
    have hkept := List.length_filter_le (fun b => !b == a) l
    have hdups := length_eraseDups_le (l.filter fun b => !b == a)
    rw [List.eraseDups_cons, List.length_cons, List.length_cons]
    omega
termination_by l.length
decreasing_by exact Nat.lt_succ_of_le hkept

/-- A list is as long without its repeated items just when it repeats none. -/
theorem length_eraseDups_eq_iff {l : List String} : l.eraseDups.length = l.length ↔ l.Nodup := by
  refine ⟨fun h => ?_, fun h => by rw [eraseDups_of_nodup h]⟩
  induction l with
  | nil => exact List.nodup_nil
  | cons a l ih =>
    have hkept := List.length_filter_le (fun b => !b == a) l
    have hdups := length_eraseDups_le (l.filter fun b => !b == a)
    rw [List.eraseDups_cons, List.length_cons, List.length_cons] at h
    -- the first item is not repeated, or the rest would lose one
    have hrest : l.filter (fun b => !b == a) = l :=
      List.filter_sublist.eq_of_length (by omega)
    rw [hrest] at h
    refine List.nodup_cons.mpr ⟨fun ha => ?_, ih (by omega)⟩
    have hne := List.filter_eq_self.mp hrest a ha
    simp at hne

namespace Manifest

variable {m : Manifest}

/-- A repository with a name, and functions that are all different. -/
theorem ofMembers_eq_ok (hr : m.repository ≠ "") (hf : m.functions.Nodup) :
    ofMembers (.string m.repository) (.array (m.functions.map Json.string)) = .ok m := by
  have hname : m.repository.isEmpty = false := by simpa using hr
  simp only [ofMembers, string?, hname, mapM_strings, eraseDups_of_nodup hf, if_true]
  rfl

theorem read_generate (hr : m.repository ≠ "") (hf : m.functions.Nodup) (path : Option Path) :
    read (.bytes (Text.Utf8.encode m.generate)) path = .ok m := by
  have tidy : (Json.object [("repository", .string m.repository),
      ("functions", .array (m.functions.map Json.string))]).IsTidy :=
    .object (by simp) (by simp [tidy_strings, Json.IsTidy.string])
  rw [read, ofContent, readJson, readText, Text.Utf8.decode_encode, generate]
  simp only [bind, Except.bind, Except.mapError, Json.read_pretty tidy]
  rw [member_of_lookup (.string m.repository) (by simp),
    member_of_lookup (.array (m.functions.map Json.string)) (by simp [List.lookup_cons])]
  simp only [ofMembers_eq_ok hr hf]

end Manifest

end FunctionManual
