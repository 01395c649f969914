import FunctionManual.Proofs.Artifact.Manifest
import FunctionManual.Proofs.Doc.Reading

/-!
# Readers refuse what they do not read

* `handle_artifactClauses`, `handle_manifestClauses`: every problem that a reader can meet raises a
  fault that its clauses make a refusal with the wording of the problem.
* `FunctionDoc.IsReadFrom`, `Manifest.IsReadFrom`: what is read from a content, and with which
  members it agrees.
* `readers_read_or_refuse`: whatever a content is, a reader gives such a doc or such a manifest, or
  it refuses the content and names the path.
-/

namespace FunctionManual

open FunctionManual.Artifact

/-! ## Clauses -/

namespace Artifact

variable (path : Option Path)

/-- Whatever a problem raises while members are read, a clause of the reader of artifacts catches
it; what is found once they are read is a refusal already. -/
theorem handle_artifactClauses (p : Problem) :
    handle artifactClauses path (p.raised path) = refusal path p.message := by
  cases p with
  | json source e => cases e <;> rfl
  | _ => rfl

/-- The reader of manifests words types that are not read in no way of its own: it reads none. -/
theorem handle_manifestClauses {p : Problem} (h : ∀ e, p ≠ .typeSpec e) :
    handle manifestClauses path (p.raised path) = refusal path p.message := by
  cases p with
  | json source e => cases e <;> rfl
  | typeSpec e => exact absurd rfl (h e)
  | _ => rfl

end Artifact

/-! ## Members -/

section Members

variable {d : Fields} {name : String} {p : Problem}

theorem member_eq_ok {j : Json} : member d name = .ok j ↔ d.lookup name = some j := by
  unfold member
  cases d.lookup name with
  | none => exact iff_of_false nofun nofun
  | some found => rw [Except.ok.injEq, Option.some.injEq]

theorem member_ne_typeSpec (h : member d name = .error p) (e : TypeSpec.Error) :
    p ≠ .typeSpec e := by
  unfold member at h
  split at h <;> cases h
  intro he
  cases he

theorem readJson_ne_typeSpec {content : Content} (h : readJson content = .error p)
    (e : TypeSpec.Error) : p ≠ .typeSpec e := by
  rcases bind_eq_error h with h | ⟨source, -, h⟩
  · cases content with
    | bytes bytes =>
      obtain ⟨flaw, -, rfl⟩ := mapError_eq_error h
      nofun
    | text source => cases h
  · obtain ⟨flaw, -, rfl⟩ := mapError_eq_error h
    nofun

theorem booleanField_eq_ok {b : Bool} (h : booleanField d name = .ok b) :
    d.lookup name = some (.boolean b) := by
  obtain ⟨j, hj, h⟩ := bind_eq_ok h
  split at h <;> cases h
  exact member_eq_ok.mp hj

end Members

/-! ## Docs -/

/-- A complete doc, with which the flag of a content agrees: it is fallible just when it names a
reason for failing. -/
structure FunctionDoc.IsReadFrom (content : Content) (d : FunctionDoc) : Prop where
  complete : d.isComplete
  flag : ∃ members, readJson content = .ok (.object members) ∧
    members.lookup "fallible" = some (.boolean (!d.failureReasons.isEmpty))

namespace FunctionDoc

theorem isReadFrom_of_ofContent {content : Content} {d : FunctionDoc}
    (h : ofContent content = .ok d) : d.IsReadFrom content := by
  obtain ⟨j, hj, h⟩ := bind_eq_ok h
  split at h
  next members =>
    obtain ⟨read, hr, h⟩ := bind_eq_ok h
    split at h <;> cases h
    next complete =>
      obtain ⟨-, -, -, flag⟩ := ofFields_eq_ok hr
      exact ⟨complete, members, hj, booleanField_eq_ok flag⟩
  next => cases h

end FunctionDoc

/-! ## Manifests -/

/-- The manifest of a repository with a name and of functions that are all different, just as a
content lists them. -/
structure Manifest.IsReadFrom (content : Content) (m : Manifest) : Prop where
  named : m.repository ≠ ""
  distinct : m.functions.Nodup
  members : ∃ members, readJson content = .ok (.object members) ∧
    members.lookup "repository" = some (.string m.repository) ∧
    members.lookup "functions" = some (.array (m.functions.map Json.string))

namespace Manifest

theorem ofMembers_isRead {repository functions : Json} {m : Manifest}
    (h : ofMembers repository functions = .ok m) : m.repository ≠ "" ∧ m.functions.Nodup ∧
      repository = .string m.repository ∧ functions = .array (m.functions.map Json.string) := by
  unfold ofMembers at h
  split at h
  · cases h
  next name hname =>
    split at h
    · cases h
    next hne =>
      split at h
      next items =>
        split at h
        · cases h
        next names hnames =>
          split at h <;> cases h
          next hdups =>
            exact ⟨by simpa using hne, length_eraseDups_eq_iff.mp hdups, eq_string_of_string hname,
              congrArg Json.array (eq_map_of_mapM (fun _ _ => eq_string_of_string) hnames)⟩
      next => cases h

theorem isReadFrom_of_ofContent {content : Content} {m : Manifest}
    (h : ofContent content = .ok m) : m.IsReadFrom content := by
  obtain ⟨j, hj, h⟩ := bind_eq_ok h
  split at h
  next members =>
    obtain ⟨repository, hr, h⟩ := bind_eq_ok h
    obtain ⟨functions, hf, h⟩ := bind_eq_ok h
    obtain ⟨named, distinct, rfl, rfl⟩ := ofMembers_isRead h
    exact ⟨named, distinct, members, hj, member_eq_ok.mp hr, member_eq_ok.mp hf⟩
  next => cases h

theorem ofMembers_ne_typeSpec {repository functions : Json} {p : Problem}
    (h : ofMembers repository functions = .error p) (e : TypeSpec.Error) : p ≠ .typeSpec e := by
  unfold ofMembers at h
  repeat' split at h
  all_goals cases h <;> nofun

/-- No type is read from a manifest. -/
theorem ofContent_ne_typeSpec {content : Content} {p : Problem}
    (h : ofContent content = .error p) (e : TypeSpec.Error) : p ≠ .typeSpec e := by
  rcases bind_eq_error h with h | ⟨j, -, h⟩
  · exact readJson_ne_typeSpec h e
  split at h
  next members =>
    rcases bind_eq_error h with h | ⟨repository, -, h⟩
    · exact member_ne_typeSpec h e
    rcases bind_eq_error h with h | ⟨functions, -, h⟩
    · exact member_ne_typeSpec h e
    exact ofMembers_ne_typeSpec h e
  next =>
    cases h
    nofun

end Manifest

/-! ## Readers -/

/-- Whatever a content is, the reader of artifacts gives a complete doc with which its flag agrees,
and the reader of manifests gives the manifest of a named repository and of functions that are all
different; or they refuse the content, naming its path and the problem that was found. -/
theorem readers_read_or_refuse (content : Content) (path : Option Path) :
    ((∃ d, FunctionDoc.ofArtifact content path = .ok d ∧ d.IsReadFrom content) ∨
      ∃ p, FunctionDoc.ofContent content = .error p ∧
        FunctionDoc.ofArtifact content path = .error (.malformed (path.map Path.text) p.message)) ∧
    ((∃ m, Manifest.read content path = .ok m ∧ m.IsReadFrom content) ∨
      ∃ p, Manifest.ofContent content = .error p ∧
        Manifest.read content path = .error (.malformed (path.map Path.text) p.message)) := by
  constructor
  · cases h : FunctionDoc.ofContent content with
    | ok d =>
      exact .inl ⟨d, mapError_eq_ok.mpr h, FunctionDoc.isReadFrom_of_ofContent h⟩
    | error p =>
      refine .inr ⟨p, rfl, ?_⟩
      rw [FunctionDoc.ofArtifact, h, Except.mapError, handle_artifactClauses, refusal]
  · cases h : Manifest.ofContent content with
    | ok m =>
      exact .inl ⟨m, mapError_eq_ok.mpr h, Manifest.isReadFrom_of_ofContent h⟩
    | error p =>
      refine .inr ⟨p, rfl, ?_⟩
      rw [Manifest.read, h, Except.mapError,
        handle_manifestClauses path (Manifest.ofContent_ne_typeSpec h), refusal]

end FunctionManual
