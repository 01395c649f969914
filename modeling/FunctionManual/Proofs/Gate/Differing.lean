import FunctionManual.Proofs.Gate.Check
import FunctionManual.Proofs.Text.NoDifference
import FunctionManual.Proofs.Text.Utf8

/-!
# What the check shows of a file that differs

* `Registry.Generates`: the texts that a registry generates, each with the check that it is for.
* `Shows`: a difference of bytes and a text. It is empty just when the bytes are read as the text
  once their flaws are replaced.
* `check_shows_difference`: every file with other bytes than it should have is a mismatch with such a
  difference, and every mismatch is such a file.
* `flawed_manifest_unexplained`: the difference may be empty.
-/

namespace FunctionManual

open FunctionManual.Text FunctionManual.Artifact

variable {r : Registry} {v : Validator} {workers : Workers} {repository : Option String}
  {root : Path} {f : Files} {a : Audit}

/-- The texts that a registry generates: those of its functions that can be written, and of its
manifest. Each is for the check with an identifier and a path. -/
inductive Registry.Generates (r : Registry) (v : Validator) (repository : Option String)
    (root : Path) : Option String → Path → String → Prop
  | artifact {e : Entry} {text : String} (he : e ∈ r.entries)
      (ha : v.artifact? e = some (Utf8.encode text)) :
      Generates r v repository root (some e.identifier) (artifactPath root e.identifier) text
  | manifest : Generates r v repository root none (manifestPath root)
      (r.manifest repository).generate

/-- A difference that is shown of bytes that are not those of a text. Where it is empty the bytes are
no UTF-8, and what stands for their flaws is in the text itself. -/
structure Shows (found : List UInt8) (text difference : String) : Prop where
  empty_iff : difference = "" ↔ Utf8.decodeLossy found = text
  flawed : difference = "" → (∃ e, Utf8.decode found = .error e) ∧ Utf8.replacement ∈ text.toList

theorem decodeLossy_encode (text : String) : Utf8.decodeLossy (Utf8.encode text) = text :=
  Utf8.decodeLossy_of_decode (Utf8.decode_encode text)

/-- A file with other bytes than those of a text is different from it. -/
theorem standingOf_different {path : Path} {text name : String} {found : List UInt8}
    (hf : f.content? path = some found) (hne : found ≠ Utf8.encode text) :
    ∃ d, standingOf f path (Utf8.encode text) name = .different d ∧ Shows found text d := by
  refine ⟨_, by rw [standingOf, hf]; exact if_neg hne, ?_⟩
  rw [decodeLossy_encode]
  exact ⟨Difference.unified_eq_empty_iff, fun h =>
    Utf8.eq_of_decodeLossy_eq (Difference.unified_eq_empty_iff.mp h) hne⟩

/-- And only such a file is. -/
theorem of_standingOf_different {path : Path} {text name d : String}
    (h : standingOf f path (Utf8.encode text) name = .different d) :
    ∃ found, f.content? path = some found ∧ found ≠ Utf8.encode text ∧ Shows found text d := by
  cases hf : f.content? path with
  | none =>
    rw [standingOf, hf] at h
    cases h
  | some found =>
    have hne : found ≠ Utf8.encode text := fun he => by
      rw [standingOf_eq_upToDate.mpr (he ▸ hf)] at h
      cases h
    obtain ⟨d', hd, hshows⟩ := @standingOf_different f path text name found hf hne
    obtain rfl : d = d' := Standing.different.inj (h.symm.trans hd)
    exact ⟨found, rfl, hne, hshows⟩

/-- The check of each generated text is among those of an audit. -/
theorem Registry.Generates.mem_checks {identifier : Option String} {path : Path} {text : String}
    (hg : r.Generates v repository root identifier path text)
    (h : r.check v workers repository root f = .ok a) :
    ∃ name, ⟨identifier, path, standingOf f path (Utf8.encode text) name⟩ ∈ a.checks := by
  obtain ⟨_, names, -, -, -, -, -, hchecks⟩ := check_eq_ok h
  rw [hchecks]
  cases hg with
  | artifact he ha =>
    have hmem : _ ∈ registeredChecks r v root f := mem_registeredChecks.mpr ⟨_, he, _, ha, rfl⟩
    exact ⟨_, List.mem_append_left _ (List.mem_append_left _ hmem)⟩
  | manifest => exact ⟨_, List.mem_append_right _ (List.mem_singleton.mpr rfl)⟩

/-- A check of a mismatch is that of a generated text; a file of no function is no mismatch. -/
theorem generates_of_mem_checks {c : Check} {d : String}
    (h : r.check v workers repository root f = .ok a) (hc : c ∈ a.checks)
    (hd : c.standing = .different d) :
    ∃ text name, r.Generates v repository root c.identifier c.path text ∧
      standingOf f c.path (Utf8.encode text) name = .different d := by
  obtain ⟨_, names, -, -, -, -, -, hchecks⟩ := check_eq_ok h
  rw [hchecks] at hc
  rcases List.mem_append.mp hc with hc | hc
  · rcases List.mem_append.mp hc with hc | hc
    · obtain ⟨e, he, content, ha, rfl⟩ := mem_registeredChecks.mp hc
      obtain ⟨text, -, rfl⟩ := Validator.artifact?_eq_some ha
      exact ⟨text, _, .artifact he ha, hd⟩
    · obtain ⟨n, -, rfl⟩ := List.mem_map.mp hc
      cases hd
  · obtain rfl := List.mem_singleton.mp hc
    exact ⟨_, _, .manifest, hd⟩

/-- Every file with other bytes than it should have is a mismatch, with a difference that is empty
just when the bytes are read as the text once their flaws are replaced. Every mismatch is such a
file. -/
theorem check_shows_difference (h : r.check v workers repository root f = .ok a) :
    (∀ identifier path text found, r.Generates v repository root identifier path text →
      f.content? path = some found → found ≠ Utf8.encode text →
      ∃ d, ⟨identifier, path, .different d⟩ ∈ a.checks ∧ Shows found text d) ∧
    ∀ c ∈ a.checks, ∀ d, c.standing = .different d →
      ∃ text found, r.Generates v repository root c.identifier c.path text ∧
        f.content? c.path = some found ∧ found ≠ Utf8.encode text ∧ Shows found text d := by
  refine ⟨fun identifier path text found hg hf hne => ?_, fun c hc d hd => ?_⟩
  · obtain ⟨name, hmem⟩ := hg.mem_checks h
    obtain ⟨d, hd, hshows⟩ := @standingOf_different f path text name found hf hne
    exact ⟨d, hd ▸ hmem, hshows⟩
  · obtain ⟨text, name, hg, hs⟩ := generates_of_mem_checks h hc hd
    obtain ⟨found, hf, hne, hshows⟩ := of_standingOf_different hs
    exact ⟨text, found, hg, hf, hne, hshows⟩

/-- A registry without functions whose name is the character that stands for a flaw. -/
def unnamed : Registry := { name := "\uFFFD" }

/-- The bytes of its manifest, but for a byte that no text has in the place of the name. -/
def flawedBytes : List UInt8 :=
  Utf8.encode "\x7b\n  \"repository\": \"" ++ 0xFF :: Utf8.encode "\",\n  \"functions\": []\n\x7d\n"

/-- A root with these bytes for a manifest. -/
def flawedFiles : Files := ⟨[(["manifest.json"], .file flawedBytes)]⟩

theorem flawed_ne : flawedBytes ≠ Utf8.encode (unnamed.manifest none).generate := by
  decide +kernel

theorem flawed_content : flawedFiles.content? (manifestPath {}) = some flawedBytes := by
  rfl

theorem standing_flawed :
    standing flawedFiles (manifestPath {}) (unnamed.manifestBytes none) "manifest.json" =
      .ok (.different "") := by
  have hread : Utf8.decodeLossy flawedBytes = (unnamed.manifest none).generate := by decide +kernel
  obtain ⟨s, hs⟩ : ∃ s, standing flawedFiles (manifestPath {}) (unnamed.manifestBytes none)
      "manifest.json" = .ok s := standing_of_content flawed_content
  obtain ⟨d, hd, hshows⟩ :=
    @standingOf_different flawedFiles _ _ "manifest.json" _ flawed_content flawed_ne
  obtain rfl := hshows.empty_iff.mpr hread
  rw [hs, standing_eq_ok hs]
  exact congrArg Except.ok hd

/-- The audit of this root. -/
def flawedAudit : Audit := ⟨{}, [⟨none, manifestPath {}, .different ""⟩], []⟩

theorem check_flawed : unnamed.check silent none none {} flawedFiles = .ok flawedAudit := by
  have fresh : unnamed.refresh silent none = .ok [] := rfl
  have orphans : orphans flawedFiles {} [] = .ok [] := rfl
  have name : (manifestPath {}).name = "manifest.json" := by decide +kernel
  simp only [Registry.check, fresh, bind, Except.bind, List.filterMapM_nil, List.map_nil, orphans,
    pure, Except.pure, List.mapM_nil, name, standing_flawed]
  rfl

theorem check_shows_difference_flawed :
    unnamed.check silent none none {} flawedFiles = .ok flawedAudit ∧
      ∃ d, ⟨none, manifestPath {}, .different d⟩ ∈ flawedAudit.checks ∧
        Shows flawedBytes (unnamed.manifest none).generate d :=
  ⟨check_flawed,
    (check_shows_difference check_flawed).1 _ _ _ _ .manifest flawed_content flawed_ne⟩

/-- A byte that no text has and the character that stands for it look alike: the manifest differs from
what it should be, and nothing is shown. -/
theorem flawed_manifest_unexplained :
    flawedFiles.content? (manifestPath {}) = some flawedBytes ∧
      flawedBytes ≠ unnamed.manifestBytes none ∧
      unnamed.check silent none none {} flawedFiles =
        .ok ⟨{}, [⟨none, manifestPath {}, .different ""⟩], []⟩ :=
  ⟨flawed_content, flawed_ne, check_flawed⟩

end FunctionManual
