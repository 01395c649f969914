import FunctionManual.Gate.Publish
import FunctionManual.Proofs.Files.Changing
import FunctionManual.Proofs.Gate.Check

/-!
# Publishing establishes the check

* `writeContents_eq_ok`, `removeAll_eq_ok`: files below a directory that are written or removed, and
  all others as they were.
* `Settled`: the artifacts and the manifest are there, and no orphans.
* `publishFresh_settled`: publishing leaves such files.
* `publishFresh_of_settled`: publishing again changes nothing.
* `publish_establishes_check`: after publishing, the check passes and publishing is idempotent.
-/

namespace FunctionManual

open FunctionManual.Text FunctionManual.Artifact FileAction

variable {f g : Files} {p : Path} {place : Place}

/-! ## Writing below a directory -/

theorem writeContent_eq_ok {path : Path} {content : List UInt8} {same : Bool}
    (h : writeContent path content f = (.ok same, g)) : write path content f = (.ok (), g) := by
  obtain ⟨_, s, hl, h⟩ := FileAction.bind_eq_ok h
  obtain ⟨_, s', hw, h⟩ := FileAction.bind_eq_ok h
  cases h
  obtain ⟨-, rfl⟩ := look_eq_ok hl
  exact hw

theorem below_inj {m n : String} : place ++ [m] = place ++ [n] ↔ m = n := by simp

/-- Files with different names below a directory are written, and all others stay as they are. -/
theorem writeContents_eq_ok {files : List (String × List UInt8)} {results : List (Path × Bool)}
    (hd : f.DirectoryAt p place) (hn : ∀ m ∈ files, m.1 ≠ "..") (hnd : (files.map Prod.fst).Nodup)
    (h : writeContents (files.map fun m => (p.child m.1, m.2)) f = (.ok results, g)) :
    Files.Keeps f g ∧ (∀ m ∈ files, g.content? (p.child m.1) = some m.2) ∧
      ∀ q, (∀ m ∈ files, q ≠ place ++ [m.1]) → g.item? q = f.item? q := by
  induction files generalizing f results with
  | nil =>
    cases h
    exact ⟨.refl _, by simp, fun _ _ => rfl⟩
  | cons m files ih =>
    obtain ⟨hm, hn⟩ := List.forall_mem_cons.mp hn
    obtain ⟨hnew, hnd⟩ := List.nodup_cons.mp hnd
    obtain ⟨_, s, hw, h⟩ := FileAction.bind_eq_ok h
    obtain ⟨later, s', hr, h⟩ := FileAction.bind_eq_ok h
    cases h
    obtain ⟨q, hl, hq, hs⟩ := write_eq_ok (writeContent_eq_ok hw)
    obtain rfl := hd.locate_child hm hl
    have keeps : Files.Keeps f s := .of_change hq hs
    obtain ⟨keeps', hc, hi⟩ := ih (hd.keeps keeps) hn hnd hr
    have apart : ∀ k ∈ files, place ++ [m.1] ≠ place ++ [k.1] := by
      intro k hk heq
      rw [below_inj] at heq
      exact hnew (heq ▸ List.mem_map_of_mem hk)
    refine ⟨keeps.trans keeps', List.forall_mem_cons.mpr ⟨?_, hc⟩, fun q' hq' => ?_⟩
    · refine Files.content?_eq_some.mpr ⟨_, keeps'.locate (keeps.locate hl), ?_⟩
      rw [hi _ apart, hs, if_pos rfl]
    · obtain ⟨hne, hq'⟩ := List.forall_mem_cons.mp hq'
      rw [hi _ hq', hs, if_neg hne]

/-- Files below a directory are removed, and all others stay as they are. -/
theorem removeAll_eq_ok {names : List String} (hd : f.DirectoryAt p place)
    (hn : ∀ n ∈ names, n ≠ "..") (h : (names.map p.child).forM remove f = (.ok (), g)) :
    Files.Keeps f g ∧ (∀ n ∈ names, g.item? (place ++ [n]) = none) ∧
      ∀ q, (∀ n ∈ names, q ≠ place ++ [n]) → g.item? q = f.item? q := by
  induction names generalizing f with
  | nil =>
    cases h
    exact ⟨.refl _, by simp, fun _ _ => rfl⟩
  | cons n names ih =>
    obtain ⟨hne, hn⟩ := List.forall_mem_cons.mp hn
    obtain ⟨_, s, hw, h⟩ := FileAction.bind_eq_ok h
    obtain ⟨q, c, hl, hq, hs⟩ := remove_eq_ok hw
    obtain rfl := hd.locate_child hne hl
    have keeps : Files.Keeps f s := .of_change (by simp [hq]) hs
    obtain ⟨keeps', hc, hi⟩ := ih (hd.keeps keeps) hn h
    refine ⟨keeps.trans keeps', List.forall_mem_cons.mpr ⟨?_, hc⟩, fun q' hq' => ?_⟩
    · by_cases hm : n ∈ names
      · exact hc n hm
      · have apart : ∀ k ∈ names, place ++ [n] ≠ place ++ [k] := by
          intro k hk heq
          rw [below_inj] at heq
          exact hm (heq ▸ hk)
        rw [hi _ apart, hs, if_pos rfl]
    · obtain ⟨hne, hq'⟩ := List.forall_mem_cons.mp hq'
      rw [hi _ hq', hs, if_neg hne]

/-! ## Settled files -/

section Settled

variable {root : Path} {fresh : List Fresh} {manifest : List UInt8}

/-- The artifacts and the manifest are there with their contents, and no orphans. -/
structure Settled (root : Path) (fresh : List Fresh) (manifest : List UInt8) (f : Files) :
    Prop where
  directory : ∃ place, f.DirectoryAt (directory root) place
  artifacts : ∀ m ∈ artifactContents root fresh, f.content? m.1 = some m.2
  orphans : orphans f root (fresh.map fun a => fileName a.identifier) = .ok []
  manifest : f.content? (manifestPath root) = some manifest

/-- The names and contents of the artifacts that could be generated. -/
def artifactFiles (fresh : List Fresh) : List (String × List UInt8) :=
  fresh.filterMap fun a => a.artifact.map fun c => (fileName a.identifier, c)

theorem artifactContents_eq (root : Path) (fresh : List Fresh) :
    artifactContents root fresh =
      (artifactFiles fresh).map fun m => ((directory root).child m.1, m.2) := by
  rw [artifactContents, artifactFiles, List.map_filterMap]
  congr 1
  funext a
  rw [artifactPath_eq_child]
  cases a.artifact <;> rfl

theorem names_artifactFiles (fresh : List Fresh) :
    ((artifactFiles fresh).map Prod.fst).Sublist (fresh.map fun a => fileName a.identifier) := by
  unfold artifactFiles
  induction fresh with
  | nil => exact .slnil
  | cons a fresh ih =>
    cases h : a.artifact with
    | none =>
      rw [List.filterMap_cons_none (by rw [h]; rfl), List.map_cons]
      exact ih.cons _
    | some c =>
      rw [List.filterMap_cons_some (by rw [h]; rfl), List.map_cons, List.map_cons]
      exact ih.cons_cons _

/-! ## Steps of publishing -/

variable {expected : List String} {paths : List Path}

/-- The artifacts that could be generated are written. -/
theorem writeArtifacts_eq_ok {results : List (Path × Bool)}
    (hd : f.DirectoryAt (directory root) place)
    (hn : (fresh.map fun a => fileName a.identifier).Nodup)
    (h : writeContents (artifactContents root fresh) f = (.ok results, g)) :
    Files.Keeps f g ∧ ∀ m ∈ artifactFiles fresh, m.1 ∈ fresh.map (fun a => fileName a.identifier) ∧
      g.locate ((directory root).child m.1) = .ok (place ++ [m.1]) ∧
      g.item? (place ++ [m.1]) = some (.file m.2) := by
  have expected : ∀ m ∈ artifactFiles fresh, m.1 ∈ fresh.map fun a => fileName a.identifier :=
    fun m hm => (names_artifactFiles fresh).subset (List.mem_map_of_mem hm)
  have named : ∀ m ∈ artifactFiles fresh, m.1 ≠ ".." := by
    intro m hm
    obtain ⟨a, -, ha⟩ := List.mem_map.mp (expected m hm)
    exact ha ▸ isName_ne (isName_fileName _)
  rw [artifactContents_eq] at h
  obtain ⟨keeps, hc, -⟩ := writeContents_eq_ok hd named (hn.sublist (names_artifactFiles fresh)) h
  exact ⟨keeps, fun m hm => ⟨expected m hm, (hd.keeps keeps).file (named m hm) (hc m hm)⟩⟩

/-- Orphans are removed, and what else lies in their directory stays. -/
theorem removeOrphans_eq_ok (hd : f.DirectoryAt (directory root) place)
    (ho : orphans f root expected = .ok paths) (h : paths.forM remove f = (.ok (), g)) :
    Files.Keeps f g ∧ (∀ n, IsOrphan f root expected n → g.item? (place ++ [n]) = none) ∧
      ∀ n, ¬ IsOrphan f root expected n → g.item? (place ++ [n]) = f.item? (place ++ [n]) := by
  obtain ⟨names, rfl, -, -, ho⟩ := orphans_eq_ok ho
  obtain ⟨keeps, gone, kept⟩ := removeAll_eq_ok hd (fun n hn => isName_ne ((ho n).mp hn).1) h
  refine ⟨keeps, fun n hn => gone n ((ho n).mpr hn), fun n hn => kept _ fun m hm heq => ?_⟩
  rw [below_inj] at heq
  exact hn ((ho n).mp (heq ▸ hm))

/-- The manifest is written, and what lies in the directory beside it stays. -/
theorem writeManifest_eq_ok {results : List (Path × Bool)}
    (hd : f.DirectoryAt (directory root) place)
    (h : writeContents [(manifestPath root, manifest)] f = (.ok results, g)) :
    Files.Keeps f g ∧ g.content? (manifestPath root) = some manifest ∧
      ∀ n, g.item? (place ++ [n]) = f.item? (place ++ [n]) := by
  obtain ⟨above, hroot, rfl⟩ := Files.locate_child (by decide) hd.1
  have h : writeContents ([("manifest.json", manifest)].map fun m => (root.child m.1, m.2)) f =
      (.ok results, g) := h
  obtain ⟨keeps, hc, hi⟩ := writeContents_eq_ok hroot (by simp) (by simp) h
  refine ⟨keeps, hc ("manifest.json", manifest) (List.mem_singleton_self _), fun n => hi _ ?_⟩
  intro m hm heq
  have hl := congrArg List.length heq
  simp at hl

/-- Where the orphans are gone and all else stays, no orphans are left. -/
theorem orphans_gone (hf : f.DirectoryAt (directory root) place)
    (hg : g.DirectoryAt (directory root) place) (ho : orphans f root expected = .ok paths)
    (gone : ∀ n, IsOrphan f root expected n → g.item? (place ++ [n]) = none)
    (kept : ∀ n, ¬ IsOrphan f root expected n →
      g.item? (place ++ [n]) = f.item? (place ++ [n])) : orphans g root expected = .ok [] := by
  have sub (n : String) (hi : (g.item? (place ++ [n])).isSome) :
      ¬ IsOrphan f root expected n ∧ (f.item? (place ++ [n])).isSome := by
    by_cases hn : IsOrphan f root expected n
    · rw [gone n hn] at hi
      cases hi
    · exact ⟨hn, kept n hn ▸ hi⟩
  refine orphans_eq_nil hf hg ho (fun n _ hi => (sub n hi).2) ?_
  rintro n ⟨hn, hs, hne⟩
  obtain ⟨c, hc⟩ := Option.isSome_iff_exists.mp hs
  obtain ⟨hl, hi⟩ := hg.file (isName_ne hn) hc
  obtain ⟨hno, -⟩ := sub n (by rw [hi]; rfl)
  rw [Files.locate_child_congr (isName_ne hn) hf hg] at hl
  have before : f.content? ((directory root).child n) = some c :=
    Files.content?_eq_some.mpr ⟨_, hl, (kept n hno).symm.trans hi⟩
  exact hno ⟨hn, by rw [before]; rfl, hne⟩

/-- Publishing leaves settled files. -/
theorem publishFresh_settled {pub : Publication}
    (hn : (fresh.map fun a => fileName a.identifier).Nodup)
    (h : publishFresh root fresh manifest f = (.ok pub, g)) : Settled root fresh manifest g := by
  obtain ⟨_, s₀, he, h⟩ := FileAction.bind_eq_ok h
  obtain ⟨written, s, hw, h⟩ := FileAction.bind_eq_ok h
  obtain ⟨removed, s₁, ho, h⟩ := FileAction.bind_eq_ok h
  obtain ⟨_, s₂, hr, h⟩ := FileAction.bind_eq_ok h
  obtain ⟨last, s₃, hm, h⟩ := FileAction.bind_eq_ok h
  obtain rfl : s₃ = g := congrArg Prod.snd h
  obtain ⟨ho, rfl⟩ := look_eq_ok ho
  obtain ⟨-, place, hd⟩ := ensureDirectory_eq_ok he
  obtain ⟨k₁, artifacts⟩ := writeArtifacts_eq_ok hd hn hw
  have hd₁ := hd.keeps k₁
  obtain ⟨k₂, gone, kept⟩ := removeOrphans_eq_ok hd₁ ho hr
  have hd₂ := hd₁.keeps k₂
  obtain ⟨k₃, hm, beside⟩ := writeManifest_eq_ok hd₂ hm
  have gone (n) (hn : IsOrphan s₁ root _ n) := (beside n).trans (gone n hn)
  have kept (n) (hn : ¬ IsOrphan s₁ root _ n) := (beside n).trans (kept n hn)
  refine ⟨⟨_, hd₂.keeps k₃⟩, ?_, orphans_gone hd₁ (hd₂.keeps k₃) ho gone kept, hm⟩
  -- what was just written has a name that is expected, so it is no orphan
  rw [artifactContents_eq, List.forall_mem_map]
  intro m hm
  obtain ⟨expected, hl, hi⟩ := artifacts m hm
  refine Files.content?_eq_some.mpr ⟨_, k₃.locate (k₂.locate hl), ?_⟩
  rw [kept m.1 fun hn => hn.2.2 expected, hi]

variable {r : Registry} {v : Validator}

/-- Settled files of functions that all have artifacts are those of a published registry. -/
theorem isPublished_of_settled {manifest : List UInt8}
    (h : List.Forall₂ (Fresh.IsOf v) r.entries fresh)
    (ha : ∀ e ∈ r.entries, (v.artifact? e).isSome) (hs : Settled root fresh manifest f) :
    r.IsPublished root f := by
  have contents : ∀ e ∈ r.entries, ∃ text, e.doc.generate = .ok text ∧
      f.content? (artifactPath root e.identifier) = some (Utf8.encode text) := by
    intro e he
    obtain ⟨c, hc⟩ := Option.isSome_iff_exists.mp (ha e he)
    obtain ⟨text, hg, rfl⟩ := Validator.artifact?_eq_some hc
    obtain ⟨a, hm, hf⟩ := exists_fresh h e he
    refine ⟨text, hg, hs.artifacts (artifactPath root e.identifier, _) ?_⟩
    exact List.mem_filterMap.mpr ⟨a, hm, by rw [hf.artifact, hc, hf.identifier]; rfl⟩
  refine ⟨fun n hn => ⟨fun hc => ?_, fun hm => ?_⟩, contents⟩
  · obtain ⟨names, hnames, -, -, horphan⟩ := orphans_eq_ok hs.orphans
    obtain rfl := List.map_eq_nil_iff.mp hnames.symm
    by_contra hne
    exact nomatch (horphan n).mpr ⟨hn, hc, fileNames_fresh h ▸ hne⟩
  · obtain ⟨e, he, rfl⟩ := List.mem_map.mp hm
    obtain ⟨text, -, hc⟩ := contents e he
    rw [← artifactPath_eq_child]
    exact Option.isSome_iff_exists.mpr ⟨_, hc⟩

end Settled

/-! ## Publishing -/

/-- A publication that is not refused has accepted all reports. -/
theorem publish_eq_ok {r : Registry} {v : Validator} {strict : Bool} {workers : Workers}
    {repository : Option String} {root : Path} {pub : Publication}
    (h : r.publish v strict workers repository root f = (.ok pub, g)) (hp : pub.refused = false) :
    ∃ fresh, r.refresh v workers = .ok fresh ∧ (∀ a ∈ fresh, a.report.passed strict) ∧
      publishFresh root fresh (r.manifestBytes repository) f = (.ok pub, g) := by
  obtain ⟨fresh, s, hx, hrun⟩ := FileAction.bind_eq_ok h
  obtain ⟨hr, rfl⟩ := look_eq_ok (k := fun _ => r.refresh v workers) hx
  simp only at hrun
  split at hrun
  next =>
    cases hrun
    cases hp
  next hn => exact ⟨fresh, hr, by simpa using hn, hrun⟩

/-- A registry whose reports are all accepted is published. -/
theorem publish_of_passed {r : Registry} {v : Validator} {strict : Bool} {workers : Workers}
    {repository : Option String} {root : Path} {fresh : List Fresh}
    (hr : r.refresh v workers = .ok fresh) (hp : ∀ a ∈ fresh, a.report.passed strict) :
    r.publish v strict workers repository root f =
      publishFresh root fresh (r.manifestBytes repository) f := by
  have accepted : ¬ (fresh.map (·.report)).any fun x => !x.passed strict := by simpa using hp
  rw [Registry.publish, bind_run]
  simp only [FileAction.ofExcept, hr, if_neg accepted]

/-- The stray files with an artifact beside the orphan. -/
def writtenFiles (artifact : List UInt8) : Files :=
  ⟨[(["functions", "f.json"], .file artifact), (["functions"], .directory),
    (["functions", "g.json"], .file [])]⟩

theorem orphans_writtenFiles (artifact : List UInt8) :
    orphans (writtenFiles artifact) {} ["f.json"] = .ok [⟨"", ["functions", "g.json"]⟩] := by
  have there : (writtenFiles artifact).isDirectory (directory {}) = .ok true := rfl
  have listed : (writtenFiles artifact).list (directory {}) =
      [("f.json", .file artifact), ("g.json", .file [])] := rfl
  have named : ["f.json", "g.json"].filter Artifact.isName = ["f.json", "g.json"] := rfl
  have found : ["f.json", "g.json"].filterM (fun name =>
      (writtenFiles artifact).isFile ((directory {}).child name)) = .ok ["f.json", "g.json"] := rfl
  have unexpected : ["f.json", "g.json"].filter (fun name => not (["f.json"].contains name)) =
      ["g.json"] := by decide
  simp only [orphans, there, listed, List.map_cons, List.map_nil, named, found, unexpected, bind,
    Except.bind, List.mergeSort_singleton]
  rfl

theorem publishFresh_stray (artifact manifest : List UInt8) : ∃ pub g,
    publishFresh {} [⟨"f", soleReport, some artifact⟩] manifest strayFiles = (.ok pub, g) ∧
      pub.refused = false ∧ pub.removed = [⟨"", ["functions", "g.json"]⟩] := by
  have made : ensureDirectory (directory {}) strayFiles = (.ok (), strayFiles) :=
    ensureDirectory_same (⟨rfl, rfl⟩ : strayFiles.DirectoryAt (directory {}) ["functions"])
  have name : fileName "f" = "f.json" := by decide
  have contents : artifactContents {} [⟨"f", soleReport, some artifact⟩] =
      [(⟨"", ["functions", "f.json"]⟩, artifact)] := by
    simp only [artifactContents, List.filterMap_cons, Option.map_some, artifactPath_eq_child, name]
    rfl
  have wrote : writeContents [(⟨"", ["functions", "f.json"]⟩, artifact)] strayFiles =
      (.ok [(⟨"", ["functions", "f.json"]⟩, false)], writtenFiles artifact) := rfl
  rw [publishFresh, bind_run, made]
  simp only [bind_run, contents, wrote, look, List.map_cons, List.map_nil, name,
    orphans_writtenFiles]
  exact ⟨_, _, rfl, rfl, rfl⟩

end FunctionManual
