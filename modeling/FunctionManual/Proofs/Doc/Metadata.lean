import FunctionManual.Proofs.Doc.Content
import FunctionManual.Proofs.Evaluation.Arguments
import FunctionManual.Validation.Metadata

/-!
# Docs without issues

* `Parameter.IsRegular`: defaults have the type of their parameter and are among its variants.
* `FunctionDoc.IsRegular`: the names are different and the parameters regular.
* `isError_of_checkMetadata`: whatever the rules between fields complain about is an error.
* `HasNoErrors.isRegular`: a doc without errors is regular.
-/

namespace FunctionManual

/-- A default that is not null has the type of its parameter, and what it chooses is among the
variants; these can be compared all at once, so they are no containers. -/
structure Parameter.IsRegular (p : Parameter) : Prop where
  default : p.default.isNull = false → hasType p.type p.default
  chosen : p.default.isNull = false → p.variants ≠ [] →
    ∀ v ∈ chosenValues p.default, v.isAmong (p.variants.map (·.value))
  variant : ∀ v ∈ p.variants, ∃ x, v.value = .scalar x

/-- The parameters are regular and have different names. -/
structure FunctionDoc.IsRegular (doc : FunctionDoc) : Prop where
  names : doc.HasDistinctNames
  parameters : ∀ p ∈ doc.parameters, p.IsRegular

/-! ## Single rules -/

theorem issueIf_eq_nil {broken : Bool} {complaint : Complaint} {path : String} :
    issueIf broken complaint path = [] ↔ broken = false := by
  cases broken <;> simp [issueIf]

theorem scalar_of_checkComparable {values : List Value} (h : checkComparable values = .ok ()) :
    ∀ v ∈ values, ∃ x, v = .scalar x := by
  induction values with
  | nil => exact nofun
  | cons v values ih =>
    cases v with
    | array _ | object _ => cases h
    | scalar x =>
      have hrest : checkComparable values = .ok () := by cases x <;> first | exact h | cases h
      exact List.forall_mem_cons.mpr ⟨⟨x, rfl⟩, ih hrest⟩

theorem checkDefault_eq_nil {p : Parameter} {path : String} (h : checkDefault p path = .ok [])
    (hn : p.default.isNull = false) : hasType p.type p.default := by
  unfold checkDefault at h
  rw [hn] at h
  cases ht : hasType p.type p.default with
  | true => rfl
  | false =>
    rw [ht] at h
    obtain ⟨shown, -, h⟩ := bind_eq_ok h
    obtain ⟨type, -, h⟩ := bind_eq_ok h
    exact absurd (Except.ok.inj h) (by simp)

theorem checkChoice_eq_nil {p : Parameter} {values : List Value} {path : String}
    (h : checkChoice p values path = .ok []) (hn : p.default.isNull = false) :
    ∀ v ∈ chosenValues p.default, v.isAmong values := by
  unfold checkChoice at h
  rw [hn, Bool.false_or] at h
  cases ha : (chosenValues p.default).all (·.isAmong values) with
  | true => exact List.all_eq_true.mp ha
  | false =>
    rw [ha] at h
    obtain ⟨shown, -, h⟩ := bind_eq_ok h
    cases h

theorem checkVariants_eq_nil {p : Parameter} {path defaultPath : String}
    (h : checkVariants p path defaultPath = .ok []) (hv : p.variants ≠ []) :
    (∀ v ∈ p.variants, ∃ x, v.value = .scalar x) ∧
      (p.default.isNull = false →
        ∀ v ∈ chosenValues p.default, v.isAmong (p.variants.map (·.value))) := by
  have he : p.variants.isEmpty = false := by simpa using hv
  simp only [checkVariants, he, Bool.false_eq_true, if_false] at h
  obtain ⟨⟨⟩, hc, h⟩ := bind_eq_ok h
  obtain ⟨types, -, h⟩ := bind_eq_ok h
  obtain ⟨choice, hd, h⟩ := bind_eq_ok h
  simp only [pure, Except.pure, Except.ok.injEq, List.append_eq_nil_iff] at h
  obtain ⟨-, rfl⟩ := h
  exact ⟨fun v hm => scalar_of_checkComparable hc _ (List.mem_map_of_mem hm),
    checkChoice_eq_nil hd⟩

/-- A parameter without issues is regular, and its name is not among those before. -/
theorem isRegular_of_checkParameter {seen : List Value} {late : Bool} {i : Nat} {p : Parameter}
    (h : checkParameter seen late i p = .ok []) :
    p.IsRegular ∧ p.name.toValue.isAmong seen = false := by
  obtain ⟨⟨⟩, -, h⟩ := bind_eq_ok h
  obtain ⟨default, hd, h⟩ := bind_eq_ok h
  obtain ⟨variants, hv, h⟩ := bind_eq_ok h
  simp only [pure, Except.pure, Except.ok.injEq, List.append_eq_nil_iff, issueIf_eq_nil] at h
  obtain ⟨⟨⟨hseen, -⟩, rfl⟩, rfl⟩ := h
  refine ⟨⟨checkDefault_eq_nil hd, fun hn hne => (checkVariants_eq_nil hv hne).2 hn,
    fun v hm => ?_⟩, hseen⟩
  exact (checkVariants_eq_nil hv (List.ne_nil_of_mem hm)).1 v hm

theorem checkParameters_eq_nil {seen : List Value} {late : Bool} {i : Nat} {ps : List Parameter}
    (h : checkParameters seen late i ps = .ok []) :
    (∀ p ∈ ps, p.IsRegular) ∧ (∀ p ∈ ps, p.name.toValue.isAmong seen = false) ∧
      ps.Pairwise fun p q => q.name.toValue.isAmong [p.name.toValue] = false := by
  induction ps generalizing seen late i with
  | nil => exact ⟨nofun, nofun, .nil⟩
  | cons p ps ih =>
    obtain ⟨here, hh, h⟩ := bind_eq_ok h
    obtain ⟨later, hl, h⟩ := bind_eq_ok h
    simp only [pure, Except.pure, Except.ok.injEq, List.append_eq_nil_iff] at h
    obtain ⟨rfl, rfl⟩ := h
    obtain ⟨hp, hseen⟩ := isRegular_of_checkParameter hh
    obtain ⟨hps, hnew, hpair⟩ := ih hl
    simp only [Value.isAmong, List.any_append, Bool.or_eq_false_iff] at hnew
    exact ⟨List.forall_mem_cons.mpr ⟨hp, hps⟩,
      List.forall_mem_cons.mpr ⟨hseen, fun q hq => (hnew q hq).1⟩,
      List.pairwise_cons.mpr ⟨fun q hq => (hnew q hq).2, hpair⟩⟩

/-! ## Severity -/

theorem isError_of_mem_issueIf {broken : Bool} {complaint : Complaint} {path : String}
    (hc : complaint.severity = .error) : ∀ i ∈ issueIf broken complaint path, i.isError := by
  cases broken with
  | false => exact nofun
  | true => simp [issueIf, Issue.isError, hc]

theorem isError_of_checkDefault {p : Parameter} {path : String} {issues : List Issue}
    (h : checkDefault p path = .ok issues) : ∀ i ∈ issues, i.isError := by
  unfold checkDefault at h
  split at h
  · cases h
    exact nofun
  have hu : ∀ i ∈ issueIf p.required (.defaultOnRequired p.name.plain) path, i.isError :=
    isError_of_mem_issueIf rfl
  dsimp only at h
  split at h
  · cases h
    exact hu
  · obtain ⟨shown, -, h⟩ := bind_eq_ok h
    obtain ⟨type, -, h⟩ := bind_eq_ok h
    cases h
    exact List.forall_mem_append.mpr ⟨hu, List.forall_mem_singleton.mpr rfl⟩

theorem isError_of_checkVariant {p : Parameter} {path : String} {v : Variant}
    {issues : List Issue} (h : checkVariant p path v = .ok issues) : ∀ i ∈ issues, i.isError := by
  unfold checkVariant at h
  split at h
  · cases h
    exact nofun
  · obtain ⟨shown, -, h⟩ := bind_eq_ok h
    obtain ⟨type, -, h⟩ := bind_eq_ok h
    cases h
    exact List.forall_mem_singleton.mpr rfl

theorem isError_of_checkChoice {p : Parameter} {values : List Value} {path : String}
    {issues : List Issue} (h : checkChoice p values path = .ok issues) :
    ∀ i ∈ issues, i.isError := by
  unfold checkChoice at h
  split at h
  · cases h
    exact nofun
  · obtain ⟨shown, -, h⟩ := bind_eq_ok h
    cases h
    exact List.forall_mem_singleton.mpr rfl

theorem isError_of_checkVariants {p : Parameter} {path defaultPath : String}
    {issues : List Issue} (h : checkVariants p path defaultPath = .ok issues) :
    ∀ i ∈ issues, i.isError := by
  unfold checkVariants at h
  split at h
  · cases h
    exact nofun
  · obtain ⟨⟨⟩, -, h⟩ := bind_eq_ok h
    obtain ⟨types, ht, h⟩ := bind_eq_ok h
    obtain ⟨choice, hd, h⟩ := bind_eq_ok h
    cases h
    refine List.forall_mem_append.mpr ⟨List.forall_mem_append.mpr
      ⟨isError_of_mem_issueIf rfl, fun i hi => ?_⟩, isError_of_checkChoice hd⟩
    obtain ⟨found, hf, hi⟩ := List.mem_flatten.mp hi
    obtain ⟨v, -, hv⟩ := exists_of_mem_of_forall₂ (mapM_eq_ok.mp ht) found hf
    exact isError_of_checkVariant hv i hi

theorem isError_of_checkParameters {seen : List Value} {late : Bool} {k : Nat}
    {ps : List Parameter} {issues : List Issue} (h : checkParameters seen late k ps = .ok issues) :
    ∀ i ∈ issues, i.isError := by
  induction ps generalizing seen late k issues with
  | nil =>
    cases h
    exact nofun
  | cons p ps ih =>
    obtain ⟨here, hh, h⟩ := bind_eq_ok h
    obtain ⟨later, hl, h⟩ := bind_eq_ok h
    cases h
    obtain ⟨⟨⟩, -, hh⟩ := bind_eq_ok hh
    obtain ⟨default, hd, hh⟩ := bind_eq_ok hh
    obtain ⟨variants, hv, hh⟩ := bind_eq_ok hh
    cases hh
    simp only [List.forall_mem_append]
    exact ⟨⟨⟨⟨isError_of_mem_issueIf rfl, isError_of_mem_issueIf rfl⟩,
      isError_of_checkDefault hd⟩, isError_of_checkVariants hv⟩, ih hl⟩

/-- Whatever the rules between fields complain about is an error. -/
theorem isError_of_checkMetadata {d : FunctionDoc} {issues : List Issue}
    (h : checkMetadata d = .ok issues) : ∀ i ∈ issues, i.isError := by
  obtain ⟨newline, -, h⟩ := bind_eq_ok h
  obtain ⟨parameters, hp, h⟩ := bind_eq_ok h
  obtain ⟨⟨⟩, -, h⟩ := bind_eq_ok h
  cases h
  simp only [List.forall_mem_append]
  exact ⟨⟨isError_of_mem_issueIf rfl, isError_of_checkParameters hp⟩, isError_of_mem_issueIf rfl⟩

/-! ## Whole docs -/

/-- The rules between fields find no error in a doc. -/
def FunctionDoc.HasNoErrors (d : FunctionDoc) : Prop :=
  ∃ issues, checkMetadata d = .ok issues ∧ ∀ i ∈ issues, i.isError = false

theorem FunctionDoc.HasNoErrors.parameters {d : FunctionDoc} (h : d.HasNoErrors) :
    checkParameters [] false 0 d.parameters = .ok [] := by
  obtain ⟨issues, h, hi⟩ := h
  have hnil : issues = [] := List.eq_nil_iff_forall_not_mem.mpr fun i hm => by
    simpa [hi i hm] using isError_of_checkMetadata h i hm
  obtain ⟨newline, -, h⟩ := bind_eq_ok h
  obtain ⟨parameters, hp, h⟩ := bind_eq_ok h
  obtain ⟨⟨⟩, -, h⟩ := bind_eq_ok h
  simp only [pure, Except.pure, Except.ok.injEq, hnil, List.append_eq_nil_iff] at h
  rw [hp, h.1.2]

/-- Texts that are not equal as values are not equal. -/
theorem plain_ne_of_isAmong {p q : Parameter} (hp : p.name = .text p.name.plain)
    (hq : q.name = .text q.name.plain) (h : q.name.toValue.isAmong [p.name.toValue] = false) :
    p.name.plain ≠ q.name.plain := by
  rw [hp, hq] at h
  simpa [Value.isAmong, Slot.toValue, Value.string, Value.looselyEqual, Scalar.looselyEqual]
    using h

/-- A doc without errors is regular when the names are texts, as those of a complete doc are. -/
theorem FunctionDoc.HasNoErrors.isRegular {d : FunctionDoc} (h : d.HasNoErrors)
    (hs : ∀ p ∈ d.parameters, ∃ name, p.name = .text name) : d.IsRegular := by
  have texts : ∀ p ∈ d.parameters, p.name = .text p.name.plain := by
    intro p hp
    obtain ⟨name, hn⟩ := hs p hp
    rw [hn, Slot.plain_text]
  obtain ⟨hr, -, hpair⟩ := checkParameters_eq_nil h.parameters
  refine ⟨⟨texts, List.pairwise_map.mpr ?_⟩, hr⟩
  refine hpair.imp_of_mem fun hp hq hne => ?_
  exact plain_ne_of_isAmong (texts _ hp) (texts _ hq) hne

end FunctionManual
