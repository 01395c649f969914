import FunctionManual.Proofs.Doc.Metadata
import FunctionManual.Proofs.Evaluation.Calling
import FunctionManual.Proofs.Value.Equality

/-!
# Values that parameters admit

* `Parameter.Admits`: a value has the type of a parameter and is among its variants.
* `Arguments.Meet`: arguments that are what a doc asks for.
* `Supplies.admitted`: a regular doc admits checked arguments and its defaults.
-/

namespace FunctionManual

variable {c : Material} {s s' : Store} {p : Parameter} {d : Datum}

/-- The values that an argument chooses: the items of an array, or the value itself. -/
def Store.chosen (s : Store) : Datum → List Datum
  | .array a => s.items a
  | d => [d]

/-- A value has the type of a parameter, and what it chooses is among the variants. -/
structure Parameter.Admits (p : Parameter) (s : Store) (d : Datum) : Prop where
  type : ∃ t, p.type = some t ∧ t.accepts s.view d
  variant : p.variants ≠ [] → ∀ x ∈ s.chosen d, ∃ v ∈ p.variants, equalsValue s x v.value

/-- Arguments under different names, all those of parameters that admit them, with those of the
required parameters among them. -/
structure Arguments.Meet (a : Arguments) (s : Store) (doc : FunctionDoc) : Prop where
  nodup : (a.map (·.1)).Nodup
  admitted : ∀ b ∈ a, ∃ p ∈ doc.parameters, p.name = .text b.1 ∧ p.Admits s b.2
  required : ∀ p ∈ doc.parameters, p.required → ∃ d, (p.name.plain, d) ∈ a

/-! ## Checked values -/

/-- What the check of a value lets pass is admitted. -/
theorem Parameter.admits_of_checkValue (h : checkValue s p d = .ok ()) : p.Admits s d := by
  unfold checkValue at h
  cases ht : acceptsDatum s p.type d with
  | false =>
    rw [ht] at h
    obtain ⟨found, -, h⟩ := bind_eq_ok h
    cases h
  | true =>
    rw [ht] at h
    obtain ⟨t, hpt, ht⟩ := (Option.any_eq_true _ _).mp ht
    refine ⟨⟨t, hpt, ht⟩, fun hne x hx => ?_⟩
    have hv : amongVariants s p.variants d = true := by
      cases hv : amongVariants s p.variants d with
      | true => rfl
      | false =>
        have he : p.variants.isEmpty = false := by simpa using hne
        rw [hv, he] at h
        cases h
    have hall : (s.chosen d).all fun x => p.variants.any fun v => equalsValue s x v.value := by
      cases d <;> exact hv
    exact List.any_eq_true.mp (List.all_eq_true.mp hall x hx)

theorem equalsValue_scalar (s : Store) (d : Datum) (x : Scalar) :
    equalsValue s d (.scalar x) = match d with
      | .scalar y => y.looselyEqual x
      | _ => false :=
  s.snapshot_toValue?_any d x

/-- Admission looks at the types of a value, at what it chooses and at what equals the variants. -/
theorem Parameter.Admits.congr (h : p.Admits s d)
    (ht : ∀ t : TypeSpec, t.accepts s.view d = t.accepts s'.view d) (hc : s'.chosen d = s.chosen d)
    (he : ∀ x, ∀ v ∈ p.variants, equalsValue s x v.value = equalsValue s' x v.value) :
    p.Admits s' d := by
  obtain ⟨⟨t, hpt, hta⟩, hv⟩ := h
  refine ⟨⟨t, hpt, ht t ▸ hta⟩, fun hne x hx => ?_⟩
  obtain ⟨v, hm, hxv⟩ := hv hne x (hc ▸ hx)
  exact ⟨v, hm, he x v hm ▸ hxv⟩

/-- Containers that are added do not matter to what a regular parameter admits. -/
theorem Parameter.IsRegular.admits_iff (hp : p.IsRegular) (hs : s.IsSound c) (hd : d.IsSound c s)
    (hg : s.Grows s') : p.Admits s d ↔ p.Admits s' d := by
  have ht := hg.accepts_eq hs hd
  have hc : s'.chosen d = s.chosen d := by
    cases d with
    | array a => exact hg.items_eq hd
    | scalar _ | object _ => rfl
  have he : ∀ x, ∀ v ∈ p.variants, equalsValue s x v.value = equalsValue s' x v.value := by
    intro x v hv
    obtain ⟨y, hy⟩ := hp.variant v hv
    rw [hy, equalsValue_scalar, equalsValue_scalar]
  exact ⟨fun h => h.congr ht hc he,
    fun h => h.congr (fun t => (ht t).symm) hc.symm fun x v hv => (he x v hv).symm⟩

/-! ## Defaults -/

/-- What a datum chooses was made from what its tree chooses. -/
theorem Store.Holds.chosen {v : Value} (h : s.Holds d v) :
    List.Forall₂ s.Holds (s.chosen d) (chosenValues v) := by
  cases v with
  | scalar x =>
    obtain rfl := h.scalar_eq
    exact .cons h .nil
  | array vs =>
    obtain ⟨a, rfl, hs⟩ := h.exists_array
    exact hs
  | object ms =>
    obtain ⟨a, rfl, -⟩ := h.exists_object
    exact .cons h .nil

/-- A regular parameter admits its default. -/
theorem Parameter.IsRegular.admits_default (hp : p.IsRegular) (hn : p.default.isNull = false)
    (h : s.Holds d p.default) : p.Admits s d := by
  obtain ⟨t, hpt, ht⟩ := (Option.any_eq_true _ _).mp (hp.default hn)
  refine ⟨⟨t, hpt, h.accepts_eq t ▸ ht⟩, fun hne x hx => ?_⟩
  obtain ⟨u, hu, hxu⟩ := exists_of_mem_of_forall₂ h.chosen.flip x hx
  obtain ⟨w, hw, he⟩ := List.any_eq_true.mp (hp.chosen hn hne u hu)
  obtain ⟨v, hv, rfl⟩ := List.mem_map.mp hw
  obtain ⟨z, hz⟩ := hp.variant v hv
  -- an equal of a variant is a scalar, and so is the datum that was made from it
  rw [hz] at he
  obtain ⟨y, rfl, hy⟩ := Value.looselyEqual_scalar he
  obtain rfl := Store.Holds.scalar_eq hxu
  refine ⟨v, hv, ?_⟩
  rw [hz, equalsValue_scalar]
  exact (Scalar.looselyEqual_comm y z).trans hy

/-! ## Arguments -/

/-- All values are sound. -/
def Arguments.IsSound (c : Material) (s : Store) (a : Arguments) : Prop :=
  ∀ b ∈ a, b.2.IsSound c s

theorem Arguments.IsSound.mono {a : Arguments} (h : a.IsSound c s)
    (hs : s.cells.size ≤ s'.cells.size) : a.IsSound c s' :=
  fun b hb => (h b hb).mono hs

theorem Arguments.IsSound.bind {a : Arguments} {name : String} (h : a.IsSound c s)
    (hd : d.IsSound c s) : (a.bind name d).IsSound c s := by
  induction a with
  | nil => exact List.forall_mem_singleton.mpr hd
  | cons x a ih =>
    obtain ⟨hx, ha⟩ := List.forall_mem_cons.mp h
    rw [Arguments.bind]
    split
    · exact List.forall_mem_cons.mpr ⟨hd, ha⟩
    · exact List.forall_mem_cons.mpr ⟨hx, ih ha⟩

/-- Arguments that were checked meet a regular doc together with its defaults, in the store behind
them. -/
theorem Supplies.admitted {doc : FunctionDoc} {given added : Arguments}
    (h : Supplies doc.parameters given s added s') (hd : doc.IsRegular) (hs : s.IsSound c)
    (hg : given.IsSound c s) (hn : (given.map (·.1)).Nodup)
    (hdeclared : ∀ b ∈ given, ∃ p ∈ doc.parameters, p.name = .text b.1) :
    ∀ b ∈ given ++ added, ∃ p ∈ doc.parameters, p.name = .text b.1 ∧ p.Admits s' b.2 := by
  refine List.forall_mem_append.mpr ⟨fun b hb => ?_, fun b hb => ?_⟩
  · obtain ⟨p, hp, hpn⟩ := hdeclared b hb
    have hl : given.lookup p.name.plain = some b.2 := by
      rw [hpn, Slot.plain_text]
      exact (lookup_eq_some_iff_mem hn).mpr hb
    obtain ⟨s₁, hs₁, hs', hc⟩ := h.checked p hp b.2 hl
    have hr := hd.parameters p hp
    have hadmits : p.Admits s b.2 :=
      (hr.admits_iff hs (hg b hb) hs₁).mpr (Parameter.admits_of_checkValue hc)
    exact ⟨p, hp, hpn, (hr.admits_iff hs (hg b hb) h.grows).mp hadmits⟩
  · obtain ⟨p, hp, hpn, -, hnull, hholds⟩ := h.default b hb
    refine ⟨p, hp, ?_, (hd.parameters p hp).admits_default hnull hholds⟩
    rw [hpn]
    exact hd.names.texts p hp

end FunctionManual
