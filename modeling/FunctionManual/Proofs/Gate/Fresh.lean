import FunctionManual.Gate.Fresh
import FunctionManual.Proofs.Except
import FunctionManual.Proofs.Files.Locating
import FunctionManual.Proofs.Registry.Built

/-!
# Fresh artifacts and orphans

* `Validator.artifact?`: the bytes that stand for a function, where they can be generated.
* `Fresh.ofEntry_eq_ok`: a fresh artifact has these bytes, and without them its report fails.
* `Registry.refresh_eq_ok`: so have the fresh artifacts of a registry, in its order.
* `Artifact.IsOrphan`, `Artifact.orphans_eq_ok`: orphans are the files with the name of an artifact
  that are not expected, in order.
-/

namespace FunctionManual

open FunctionManual.Text FunctionManual.Artifact

/-! ## Artifacts -/

/-- The bytes of the artifact of a function, unless a value was reported that it cannot hold or no
text is generated. -/
def Validator.artifact? (v : Validator) (e : Entry) : Option (List UInt8) :=
  match v.validate e.doc with
  | .error _ => none
  | .ok report =>
    if report.errors.any Fresh.isUnwritable then none
    else
      match e.doc.generate with
      | .ok text => some (Utf8.encode text)
      | .error _ => none

theorem Validator.artifact?_eq_some {v : Validator} {e : Entry} {c : List UInt8}
    (h : v.artifact? e = some c) : ∃ text, e.doc.generate = .ok text ∧ c = Utf8.encode text := by
  unfold artifact? at h
  split at h
  · cases h
  split at h
  · cases h
  split at h <;> cases h
  exact ⟨_, ‹_›, rfl⟩

/-- The report on a function: what validation found, and that no artifact can be generated where
generating it failed. -/
def Validator.Reports (v : Validator) (e : Entry) (report : Report) : Prop :=
  ∃ found, v.validate e.doc = .ok found ∧
    (report = found ∨ v.artifact? e = none ∧
      ∃ message, report = { found with issues := found.issues ++ [⟨.noArtifact message, none⟩] })

namespace Fresh

/-- A report with an error is no report of success. -/
theorem passed_eq_false {r : Report} {i : Issue} (hi : i ∈ r.errors) (strict : Bool) :
    r.passed strict = false := by
  have h : r.errors.isEmpty = false := List.isEmpty_eq_false_iff.mpr (List.ne_nil_of_mem hi)
  simp [Report.passed, h]

/-- What is fresh about a function: its artifact, if it has one, and a report that fails if it has
none. -/
structure IsOf (v : Validator) (e : Entry) (a : Fresh) : Prop where
  identifier : a.identifier = e.identifier
  artifact : a.artifact = v.artifact? e
  report : v.Reports e a.report
  fails : a.artifact = none → ∀ strict, a.report.passed strict = false

theorem ofEntry_eq_ok {v : Validator} {e : Entry} {a : Fresh} (h : ofEntry v e = .ok a) :
    IsOf v e a := by
  obtain ⟨found, hv, h⟩ := bind_eq_ok h
  split at h
  next hu =>
    cases h
    have none : v.artifact? e = none := by simp only [Validator.artifact?, hv, hu, if_true]
    obtain ⟨i, hi, -⟩ := List.any_eq_true.mp hu
    exact ⟨rfl, none.symm, ⟨found, hv, .inl rfl⟩, fun _ => passed_eq_false hi⟩
  next hu =>
    split at h
    next text hg =>
      cases h
      have some : v.artifact? e = some (Utf8.encode text) := by
        simp only [Validator.artifact?, hv, hu, hg]
        rfl
      refine ⟨rfl, some.symm, ⟨found, hv, .inl rfl⟩, fun hn => ?_⟩
      cases hn
    next f hg =>
      have none : v.artifact? e = none := by
        simp only [Validator.artifact?, hv, hu, hg]
        rfl
      split at h <;> cases h
      refine ⟨rfl, none.symm, ⟨found, hv, .inr ⟨none, _, rfl⟩⟩, fun _ => ?_⟩
      refine passed_eq_false (i := ⟨.noArtifact f.message, .none⟩) ?_
      simp [Report.errors, Issue.isError, Complaint.severity]

end Fresh

/-- The functions of a registry are all validated, in the order of registration. -/
theorem Registry.refresh_eq_ok {r : Registry} {v : Validator} {workers : Workers}
    {fresh : List Fresh} (h : r.refresh v workers = .ok fresh) :
    checkWorkers workers r = .ok () ∧ List.Forall₂ (Fresh.IsOf v) r.entries fresh := by
  obtain ⟨_, hw, h⟩ := bind_eq_ok h
  exact ⟨hw, (mapM_eq_ok.mp h).imp fun _ _ => Fresh.ofEntry_eq_ok⟩

section Lists

variable {v : Validator} {entries : List Entry} {fresh : List Fresh}

theorem fileNames_fresh (h : List.Forall₂ (Fresh.IsOf v) entries fresh) :
    fresh.map (fun a => fileName a.identifier) = entries.map fun e => fileName e.identifier := by
  induction h with
  | nil => rfl
  | cons ha _ ih => rw [List.map_cons, List.map_cons, ha.identifier, ih]

theorem exists_fresh (h : List.Forall₂ (Fresh.IsOf v) entries fresh) :
    ∀ e ∈ entries, ∃ a ∈ fresh, Fresh.IsOf v e a := by
  induction h with
  | nil => simp
  | cons ha _ ih =>
    refine List.forall_mem_cons.mpr ⟨⟨_, List.mem_cons_self .., ha⟩, fun e he => ?_⟩
    obtain ⟨a, hm, ha⟩ := ih e he
    exact ⟨a, List.mem_cons_of_mem _ hm, ha⟩

/-- Where all reports are good, every function has an artifact. -/
theorem artifact_of_passed {strict : Bool} (h : List.Forall₂ (Fresh.IsOf v) entries fresh)
    (hp : ∀ a ∈ fresh, a.report.passed strict) : ∀ e ∈ entries, (v.artifact? e).isSome := by
  intro e he
  obtain ⟨a, hm, ha⟩ := exists_fresh h e he
  rw [← ha.artifact, Option.isSome_iff_ne_none]
  intro hn
  have := hp a hm
  rw [ha.fails hn] at this
  cases this

end Lists

/-! ## Orphans -/

namespace Artifact

/-- A file among the artifacts below a root whose name is one of an artifact and not expected. -/
def IsOrphan (f : Files) (root : Path) (expected : List String) (name : String) : Prop :=
  isName name ∧ (f.content? ((directory root).child name)).isSome ∧ name ∉ expected

theorem isName_ne {name : String} (h : isName name) : name ≠ ".." := by
  rintro rfl
  exact absurd h (by decide)

theorem isGround_child {name : String} (h : isName name) (place : Place) :
    Place.isGround (place ++ [name]) = false := by
  have hne := isName_ne h
  have hroot : name ≠ "/" := by
    rintro rfl
    exact absurd h (by decide)
  rw [Place.isGround, Place.root, Bool.or_eq_false_iff]
  refine ⟨decide_eq_false fun heq => hroot ?_, by simp [hne]⟩
  simpa using congrArg List.getLast? heq

theorem isName_fileName (identifier : String) : isName (fileName identifier) := by
  rw [isName, List.isSuffixOf_iff_suffix, fileName, String.toList_append]
  exact List.suffix_append _ _

/-- Names are sorted. -/
theorem pairwise_sortedNames (names : List String) :
    (names.mergeSort fun a b => decide (a ≤ b)).Pairwise (· ≤ ·) := by
  refine (List.pairwise_mergeSort ?_ ?_ _).imp fun h => of_decide_eq_true h
  · intro a b c hab hbc
    exact decide_eq_true (String.le_trans (of_decide_eq_true hab) (of_decide_eq_true hbc))
  · intro a b
    simpa using String.le_total a b

/-- Orphans come in order; they are distinct where files are a table. -/
theorem orphans_eq_ok {f : Files} {root : Path} {expected : List String} {paths : List Path}
    (h : orphans f root expected = .ok paths) :
    ∃ names : List String, paths = names.map (directory root).child ∧ names.Pairwise (· ≤ ·) ∧
      (f.Distinct → names.Nodup) ∧ ∀ n, n ∈ names ↔ IsOrphan f root expected n := by
  obtain ⟨present, hd, h⟩ := bind_eq_ok h
  split at h
  next hp =>
    cases h
    refine ⟨[], rfl, .nil, fun _ => List.nodup_nil, fun n => iff_of_false (by simp) ?_⟩
    rintro ⟨hn, hs, -⟩
    obtain ⟨c, hc⟩ := Option.isSome_iff_exists.mp hs
    obtain ⟨q, hl, -⟩ := Files.content?_eq_some.mp hc
    obtain ⟨place, hl, -⟩ := Files.locate_child (isName_ne hn) hl
    exact absurd ((Files.isDirectory_eq_ok hd).mpr ⟨place, hl⟩) (by simpa using hp)
  next hp =>
    obtain ⟨found, hf, h⟩ := bind_eq_ok h
    cases h
    have hf := filterM_eq_ok (fun _ _ => Files.isFile_eq_ok) hf
    refine ⟨_, rfl, pairwise_sortedNames _, fun hdist => ?_, fun n => ?_⟩
    · rw [(List.mergeSort_perm _ _).nodup_iff, hf]
      exact (((Files.nodup_list hdist _).filter _).filter _).filter _
    · simp only [List.mem_mergeSort, List.mem_filter, hf, IsOrphan]
      constructor
      · rintro ⟨⟨⟨-, hn⟩, hs⟩, he⟩
        exact ⟨hn, hs, by simpa using he⟩
      · rintro ⟨hn, hs, he⟩
        obtain ⟨c, hc⟩ := Option.isSome_iff_exists.mp hs
        obtain ⟨q, hl, hi⟩ := Files.content?_eq_some.mp hc
        obtain ⟨place, hd, rfl⟩ := Files.locate_child (isName_ne hn) hl
        have listed := (Files.mem_list hd (isGround_child hn place)).mpr (by rw [hi]; rfl)
        exact ⟨⟨⟨listed, hn⟩, hs⟩, by simpa using he⟩

section Orphans

variable {f g : Files} {root : Path} {expected : List String} {place : Place}

/-- Where orphans are found, every name of an artifact is looked up. -/
theorem isFile_of_orphans {paths : List Path} {n : String}
    (hd : f.DirectoryAt (directory root) place) (h : orphans f root expected = .ok paths)
    (hn : isName n) (hi : (f.item? (place ++ [n])).isSome) :
    ∃ b, f.isFile ((directory root).child n) = .ok b := by
  simp only [orphans, hd.isDirectory, bind, Except.bind] at h
  obtain ⟨found, hf, -⟩ := bind_eq_ok h
  exact filterM_ok_iff.mp ⟨found, hf⟩ n
    (List.mem_filter.mpr ⟨(Files.mem_list hd (isGround_child hn place)).mpr hi, hn⟩)

/-- A state with no more names than one in which orphans are found, and without orphans, has none to
find. -/
theorem orphans_eq_nil {paths : List Path} (hf : f.DirectoryAt (directory root) place)
    (hg : g.DirectoryAt (directory root) place) (h : orphans f root expected = .ok paths)
    (hsub : ∀ n, isName n → (g.item? (place ++ [n])).isSome → (f.item? (place ++ [n])).isSome)
    (hno : ∀ n, ¬ IsOrphan g root expected n) : orphans g root expected = .ok [] := by
  have tested : ∃ found, (((g.list (directory root)).map (·.1)).filter isName).filterM
      (fun name => g.isFile ((directory root).child name)) = .ok found := by
    refine filterM_ok_iff.mpr fun n hm => ?_
    obtain ⟨hm, hn⟩ := List.mem_filter.mp hm
    have hi := (Files.mem_list hg (isGround_child hn place)).mp hm
    obtain ⟨b, hb⟩ := isFile_of_orphans hf h hn (hsub n hn hi)
    exact Files.isFile_ok_congr (Files.locate_child_congr (isName_ne hn) hf hg) hb
  obtain ⟨found, tested⟩ := tested
  have total : ∃ paths, orphans g root expected = .ok paths := by
    simp only [orphans, hg.isDirectory, bind, Except.bind, tested]
    exact ⟨_, rfl⟩
  obtain ⟨paths', total⟩ := total
  obtain ⟨names, rfl, -, -, ho⟩ := orphans_eq_ok total
  have names_nil : names = [] := List.eq_nil_iff_forall_not_mem.mpr fun n hm => hno n ((ho n).mp hm)
  rw [total, names_nil]
  rfl

end Orphans

end Artifact

/-! ## The artifact of one function -/

/-- A validator whose evaluation never answers. -/
def silent : Validator := ⟨fun _ _ => ⟨0, .nothing⟩, .whole 5, .kind⟩

/-- The report on a function without examples. -/
def soleReport : Report := ⟨"f", [], [], [⟨.noExamples "f", none⟩]⟩

/-- A complete doc of this name without examples and without issues is only warned about. -/
theorem validate_silent {d : FunctionDoc} (hd : d.isComplete) (hm : checkMetadata d = .ok [])
    (hi : d.identifier = "f") (he : d.examples = []) : silent.validate d = .ok soleReport := by
  have missing : d.missing = [] := List.isEmpty_iff.mp hd
  simp only [Validator.validate, hm, he, missing, hi]
  rfl

theorem refresh_silent {d : FunctionDoc} {evaluator : Evaluator} {r : Registry} {text : String}
    (hr : r.entries = [⟨"f", d, evaluator⟩]) (hv : silent.validate d = .ok soleReport)
    (hg : d.generate = .ok text) :
    r.refresh silent none = .ok [⟨"f", soleReport, some (Utf8.encode text)⟩] := by
  have fresh : Fresh.ofEntry silent ⟨"f", d, evaluator⟩ =
      .ok ⟨"f", soleReport, some (Utf8.encode text)⟩ := by
    simp only [Fresh.ofEntry, hv, hg, bind, Except.bind]
    rfl
  have workers : checkWorkers none r = .ok () := by
    simp [checkWorkers]
  rw [Registry.refresh, hr, List.mapM_cons, fresh, workers]
  rfl

end FunctionManual
