import FunctionManual.Doc.Reader
import FunctionManual.Proofs.Doc.Content
import FunctionManual.Proofs.Except
import FunctionManual.Proofs.Json.Reading
import FunctionManual.Proofs.TypeSpec.Canonical
import FunctionManual.Proofs.Value.Json

/-!
# What is read from artifacts

* `Tidy`: members whose trees are tidy, as all members of a text that is read are.
* `FunctionDoc.ofFields_eq_ok`: what there is in the members from which a doc is read.
* `FunctionDoc.carries_of_ofFields`: a doc that is read from them carries canonical types and plain
  values.
* `FunctionDoc.ofArtifact_spec`: so does a doc that is read from an artifact, and it is complete.
-/

namespace FunctionManual

open FunctionManual.Artifact

/-! ## Members -/

/-- Members whose trees are tidy. -/
def Tidy (d : Fields) : Prop := ∀ m ∈ d, m.2.IsTidy

section Members

variable {d : Fields} {name : String}

theorem tidy_of_member {j : Json} (hd : Tidy d) (h : member d name = .ok j) : j.IsTidy := by
  unfold member at h
  split at h
  next j' hl =>
    cases h
    obtain ⟨l, r, rfl, -⟩ := List.lookup_eq_some_iff.mp hl
    exact hd (name, j) (by simp)
  next => cases h

theorem tidy_object {e : Fields} (h : (Json.object e).IsTidy) : Tidy e := by
  cases h with
  | object _ h => exact h

theorem tidy_of_objectField {e : Fields} (hd : Tidy d) (h : objectField d name = .ok e) :
    Tidy e := by
  obtain ⟨j, hj, h⟩ := bind_eq_ok h
  have hj := tidy_of_member hd hj
  split at h <;> cases h
  exact tidy_object hj

/-- Items that are all read as parts of a kind are the trees of these parts. -/
theorem eq_map_of_mapM {α : Type} {part? : Json → Option α} {tree : α → Json}
    (hpart : ∀ j a, part? j = some a → j = tree a) {items : List Json} {as : List α}
    (h : items.mapM part? = some as) : items = as.map tree := by
  induction items generalizing as with
  | nil => cases h; rfl
  | cons j items ih =>
    rw [List.mapM_cons] at h
    obtain ⟨a, hj, h⟩ := Option.bind_eq_some_iff.mp h
    obtain ⟨rest, hr, h⟩ := Option.bind_eq_some_iff.mp h
    cases h
    rw [List.map_cons, ← ih hr, hpart j a hj]

theorem eq_object_of_fields {j : Json} {e : Fields} (h : fields? j = some e) : j = .object e := by
  cases j <;> cases h
  rfl

theorem eq_string_of_string {j : Json} {s : String} (h : string? j = some s) : j = .string s := by
  cases j <;> cases h
  rfl

/-- Records of a tidy object are tidy. -/
theorem tidy_of_objectsField {ds : List Fields} (hd : Tidy d)
    (h : objectsField d name = .ok ds) : ∀ e ∈ ds, Tidy e := by
  obtain ⟨items, hi, h⟩ := bind_eq_ok h
  obtain ⟨j, hj, hi⟩ := bind_eq_ok hi
  have hj := tidy_of_member hd hj
  split at hi <;> cases hi
  cases hj with
  | array hitems =>
    split at h
    next ds' hds =>
      cases h
      obtain rfl := eq_map_of_mapM (fun _ _ => eq_object_of_fields) hds
      exact fun e he => tidy_object (hitems _ (List.mem_map_of_mem he))
    next => cases h

/-- A type that is read is canonical. -/
theorem canonical_of_typeField {t : TypeSpec} (h : typeField d name = .ok t) : t.IsCanonical := by
  obtain ⟨s, -, h⟩ := bind_eq_ok h
  exact TypeSpec.read_canonical (mapError_eq_ok.mp h)

end Members

/-! ## Parts -/

theorem Variant.plain_of_ofFields {d : Fields} {v : Variant} (hd : Tidy d)
    (h : Variant.ofFields d = .ok v) : v.value.Plain := by
  obtain ⟨j, hj, h⟩ := bind_eq_ok h
  obtain ⟨s, -, h⟩ := bind_eq_ok h
  cases h
  exact ⟨j, tidy_of_member hd hj, rfl⟩

/-- What holds of each part that is read holds of all parts of a list. -/
theorem forall_of_mapM {α : Type} {read : Fields → Except Problem α} {P : α → Prop}
    {ds : List Fields} {as : List α} (hd : ∀ d ∈ ds, Tidy d) (h : ds.mapM read = .ok as)
    (hP : ∀ d a, Tidy d → read d = .ok a → P a) : ∀ a ∈ as, P a := by
  replace h := mapM_eq_ok.mp h
  induction h with
  | nil => simp
  | cons hr _ ih =>
    obtain ⟨hd, hds⟩ := List.forall_mem_cons.mp hd
    exact List.forall_mem_cons.mpr ⟨hP _ _ hd hr, ih hds⟩

theorem Parameter.carries_of_ofFields {d : Fields} {p : Parameter} (hd : Tidy d)
    (h : Parameter.ofFields d = .ok p) : p.Carries TypeSpec.IsCanonical Value.Plain := by
  obtain ⟨name, -, h⟩ := bind_eq_ok h
  obtain ⟨t, ht, h⟩ := bind_eq_ok h
  obtain ⟨description, -, h⟩ := bind_eq_ok h
  obtain ⟨required, -, h⟩ := bind_eq_ok h
  obtain ⟨j, hj, h⟩ := bind_eq_ok h
  obtain ⟨ds, hds, h⟩ := bind_eq_ok h
  obtain ⟨vs, hvs, h⟩ := bind_eq_ok h
  cases h
  exact {
    type := fun u hu => Option.some.inj hu ▸ canonical_of_typeField ht
    default := ⟨j, tidy_of_member hd hj, rfl⟩
    variants := forall_of_mapM (tidy_of_objectsField hd hds) hvs fun _ _ =>
      Variant.plain_of_ofFields }

theorem plain_of_expectedOfFields {d : Fields} {r : Except Failure Value} (hd : Tidy d)
    (h : expectedOfFields d = .ok r) : ∀ v, r = .ok v → v.Plain := by
  rintro v rfl
  unfold expectedOfFields at h
  split at h
  next j =>
    cases h
    exact ⟨j, hd _ (List.mem_singleton_self _), rfl⟩
  next =>
    obtain ⟨e, -, h⟩ := bind_eq_ok h
    obtain ⟨kind, -, h⟩ := bind_eq_ok h
    obtain ⟨message, -, h⟩ := bind_eq_ok h
    cases h
  next => cases h

theorem Example.carries_of_ofFields {d : Fields} {e : Example} (hd : Tidy d)
    (h : Example.ofFields d = .ok e) : e.Carries Value.Plain := by
  obtain ⟨source, -, h⟩ := bind_eq_ok h
  obtain ⟨o, ho, h⟩ := bind_eq_ok h
  obtain ⟨r, hr, h⟩ := bind_eq_ok h
  obtain ⟨title, -, h⟩ := bind_eq_ok h
  obtain ⟨notes, -, h⟩ := bind_eq_ok h
  obtain ⟨j, hj, h⟩ := bind_eq_ok h
  obtain ⟨host, -, h⟩ := bind_eq_ok h
  cases h
  exact {
    expected := fun v hv =>
      plain_of_expectedOfFields (tidy_of_objectField hd ho) hr v (Option.some.inj hv)
    input := ⟨j, tidy_of_member hd hj, rfl⟩ }

/-! ## Docs -/

namespace FunctionDoc

/-- What there is in the members of a doc that is read: its parts, and the flag that agrees with
it. -/
theorem ofFields_eq_ok {fields : Fields} {d : FunctionDoc} (h : ofFields fields = .ok d) :
    (∃ ds, objectsField fields "parameters" = .ok ds ∧
      ds.mapM Parameter.ofFields = .ok d.parameters) ∧
    (∃ r t returned rules, objectField fields "returns" = .ok r ∧ typeField r "type" = .ok t ∧
      d.returns = some ⟨some t, .text returned, rules⟩) ∧
    (∃ ds, objectsField fields "examples" = .ok ds ∧ ds.mapM Example.ofFields = .ok d.examples) ∧
    booleanField fields "fallible" = .ok d.fallible := by
  obtain ⟨r, hr, h⟩ := bind_eq_ok h
  obtain ⟨identifier, -, h⟩ := bind_eq_ok h
  obtain ⟨summary, -, h⟩ := bind_eq_ok h
  obtain ⟨description, -, h⟩ := bind_eq_ok h
  obtain ⟨category, -, h⟩ := bind_eq_ok h
  obtain ⟨pds, hpds, h⟩ := bind_eq_ok h
  obtain ⟨ps, hps, h⟩ := bind_eq_ok h
  obtain ⟨t, ht, h⟩ := bind_eq_ok h
  obtain ⟨returned, -, h⟩ := bind_eq_ok h
  obtain ⟨rules, -, h⟩ := bind_eq_ok h
  obtain ⟨reasons, -, h⟩ := bind_eq_ok h
  obtain ⟨eds, heds, h⟩ := bind_eq_ok h
  obtain ⟨es, hes, h⟩ := bind_eq_ok h
  obtain ⟨notices, -, h⟩ := bind_eq_ok h
  obtain ⟨flag, hflag, h⟩ := bind_eq_ok h
  split at h
  · cases h
  next agrees =>
    cases h
    exact ⟨⟨pds, hpds, hps⟩, ⟨r, t, returned, rules, hr, ht, rfl⟩, ⟨eds, heds, hes⟩,
      hflag.trans (congrArg Except.ok (not_not.mp agrees))⟩

/-- A doc that is read from a tidy object has canonical types and plain values. -/
theorem carries_of_ofFields {fields : Fields} {d : FunctionDoc} (hd : Tidy fields)
    (h : ofFields fields = .ok d) : d.Carries TypeSpec.IsCanonical Value.Plain := by
  obtain ⟨⟨pds, hpds, hps⟩, ⟨r, t, _, _, -, ht, hreturns⟩, ⟨eds, heds, hes⟩, -⟩ :=
    ofFields_eq_ok h
  exact {
    parameters := forall_of_mapM (tidy_of_objectsField hd hpds) hps fun _ _ =>
      Parameter.carries_of_ofFields
    returns := by
      rw [hreturns]
      rintro _ ⟨⟩ _ ⟨⟩
      exact canonical_of_typeField ht
    examples := forall_of_mapM (tidy_of_objectsField hd heds) hes fun _ _ =>
      Example.carries_of_ofFields }

/-- A doc that is read from an artifact is complete, with canonical types and plain values. -/
theorem ofArtifact_spec {content : Content} {path : Option Path} {d : FunctionDoc}
    (h : ofArtifact content path = .ok d) :
    d.isComplete ∧ d.Carries TypeSpec.IsCanonical Value.Plain := by
  obtain ⟨j, hj, h⟩ := bind_eq_ok (mapError_eq_ok.mp h)
  obtain ⟨source, -, hj⟩ := bind_eq_ok hj
  have hj : j.IsTidy := Json.read_tidy (mapError_eq_ok.mp hj)
  split at h
  next fields =>
    obtain ⟨e, he, h⟩ := bind_eq_ok h
    split at h
    next hc =>
      cases h
      exact ⟨hc, carries_of_ofFields (tidy_object hj) he⟩
    next => cases h
  next => cases h

end FunctionDoc

end FunctionManual
