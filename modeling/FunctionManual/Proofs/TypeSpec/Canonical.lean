import FunctionManual.Proofs.TypeSpec.Reading

/-!
# Canonical types

* `TypeSpec.IsCanonical`: choices are between two types at least, without choices among them and
  without repetitions.
* `union_canonical`: a choice between canonical types is canonical.
* `read_canonical`: a type that is read is canonical.
* `TypeSpec.Built`: types that are read, and choices between such types.
-/

namespace FunctionManual.TypeSpec

/-- A type that may stand in a choice: no choice itself. -/
def IsMember (t : TypeSpec) : Prop := t.alternatives = [t]

/-- A type as it is read: choices are between two types at least, all different and no choices. -/
inductive IsCanonical : TypeSpec → Prop
  | primitive (p : Primitive) : IsCanonical (.primitive p)
  | anyArray : IsCanonical (.array none)
  | array {t : TypeSpec} (h : IsCanonical t) : IsCanonical (.array (some t))
  | anyObject : IsCanonical (.object none)
  | object {t : TypeSpec} (h : IsCanonical t) : IsCanonical (.object (some t))
  | oneOf {members : List TypeSpec} (h : ∀ t ∈ members, IsCanonical t)
      (hm : ∀ t ∈ members, IsMember t) (hn : members.Nodup) (hl : 2 ≤ members.length) :
      IsCanonical (.oneOf members)

/-! ## Choices -/

theorem IsCanonical.alternatives {t : TypeSpec} (h : IsCanonical t) :
    t.alternatives ≠ [] ∧ ∀ s ∈ t.alternatives, IsCanonical s ∧ IsMember s := by
  have single {t : TypeSpec} (h : IsCanonical t) (hm : t.alternatives = [t]) :
      t.alternatives ≠ [] ∧ ∀ s ∈ t.alternatives, IsCanonical s ∧ IsMember s := by
    rw [hm]
    exact ⟨by simp, by simpa using ⟨h, hm⟩⟩
  cases h with
  | @oneOf members h hm hn hl =>
    have hpos : 0 < members.length := by omega
    exact ⟨List.ne_nil_of_length_pos hpos, fun s hs => ⟨h s hs, hm s hs⟩⟩
  | primitive p => exact single (.primitive p) rfl
  | anyArray => exact single .anyArray rfl
  | array h => exact single (.array h) rfl
  | anyObject => exact single .anyObject rfl
  | object h => exact single (.object h) rfl

/-- Adding members leaves each of them once. -/
theorem addNew_spec (types given : List TypeSpec) (hn : types.Nodup) :
    (addNew types given).Nodup ∧ ∀ t, t ∈ addNew types given ↔ t ∈ types ∨ t ∈ given := by
  induction given generalizing types with
  | nil => exact ⟨hn, by simp [addNew]⟩
  | cons s given ih =>
    unfold addNew
    split
    next hs =>
      obtain ⟨hn, hm⟩ := ih types hn
      exact ⟨hn, fun t => by rw [hm, List.mem_cons]; grind⟩
    next hs =>
      have hs' : (types ++ [s]).Nodup := by
        refine List.nodup_append.mpr ⟨hn, by simp, ?_⟩
        rintro a ha b hb rfl
        exact hs (List.mem_singleton.mp hb ▸ ha)
      obtain ⟨hn, hm⟩ := ih _ hs'
      exact ⟨hn, fun t => by rw [hm, List.mem_append, List.mem_singleton, List.mem_cons, or_assoc]⟩

/-- Different alternatives are kept as they stand. -/
theorem addNew_eq_append {types given : List TypeSpec} (h : (types ++ given).Nodup) :
    addNew types given = types ++ given := by
  induction given generalizing types with
  | nil => simp [addNew]
  | cons s given ih =>
    have hs : s ∉ types := fun hm =>
      (List.nodup_append.mp h).2.2 s hm s (List.mem_cons_self ..) rfl
    rw [addNew, if_neg hs, ih (by simpa using h)]
    simp

/-- A choice between canonical types is canonical. -/
theorem union_canonical {types : List TypeSpec} (hne : types ≠ [])
    (h : ∀ t ∈ types, IsCanonical t) : IsCanonical (union types) := by
  obtain ⟨hn, hm⟩ := addNew_spec [] (types.flatMap TypeSpec.alternatives) (by simp)
  have hall : ∀ t ∈ addNew [] (types.flatMap TypeSpec.alternatives),
      IsCanonical t ∧ IsMember t := by
    intro t ht
    obtain ⟨s, hs, ht⟩ := List.mem_flatMap.mp (((hm t).mp ht).resolve_left (by simp))
    exact (h s hs).alternatives.2 t ht
  have hpos : addNew [] (types.flatMap TypeSpec.alternatives) ≠ [] := by
    obtain ⟨t, rest, rfl⟩ := List.exists_cons_of_ne_nil hne
    obtain ⟨s, rest', hs⟩ := List.exists_cons_of_ne_nil (h t (List.mem_cons_self ..)).alternatives.1
    refine List.ne_nil_of_mem ((hm s).mpr (Or.inr ?_))
    simp [hs]
  unfold union
  split
  next t ht => exact (hall t (by rw [ht]; simp)).1
  next members hlist =>
    refine .oneOf (fun t ht => (hall t ht).1) (fun t ht => (hall t ht).2) hn ?_
    have := List.length_pos_iff.mpr hpos
    have : (addNew [] (types.flatMap TypeSpec.alternatives)).length ≠ 1 := by
      intro h1
      obtain ⟨t, ht⟩ := List.length_eq_one_iff.mp h1
      exact hlist t ht
    omega

/-- A choice of different types that are no choices is that list of types. -/
theorem union_eq_oneOf {members : List TypeSpec} (hm : ∀ t ∈ members, IsMember t)
    (hn : members.Nodup) (hl : 2 ≤ members.length) : union members = .oneOf members := by
  have hflat : members.flatMap TypeSpec.alternatives = members := by
    clear hn hl
    induction members with
    | nil => rfl
    | cons t members ih =>
      rw [List.flatMap_cons, hm t (List.mem_cons_self ..),
        ih fun s hs => hm s (List.mem_cons_of_mem t hs)]
      rfl
  unfold union
  rw [hflat, addNew_eq_append (by simpa using hn), List.nil_append]
  split
  next t => simp at hl
  next => rfl

theorem union_singleton {t : TypeSpec} (h : IsMember t) : union [t] = t := by
  have h : t.alternatives = [t] := h
  simp [union, h, addNew]

/-! ## Reading -/

/-- What a phrase means is canonical; that of several members, of each. -/
def Phrase.IsCanonical : Phrase → Prop
  | .member t => TypeSpec.IsCanonical t
  | .members types => types ≠ [] ∧ ∀ t ∈ types, TypeSpec.IsCanonical t

theorem choice_canonical {types : List TypeSpec} (hne : types ≠ [])
    (h : ∀ t ∈ types, IsCanonical t) : IsCanonical (choice types) :=
  union_eq_choice types ▸ union_canonical hne h

theorem Derives.isCanonical {ts : List String} {p : Phrase} (h : Derives ts p) :
    p.IsCanonical := by
  induction h with
  | primitive p => exact .primitive p
  | anyArray => exact .anyArray
  | array _ ih => exact .array (choice_canonical ih.1 ih.2)
  | anyObject => exact .anyObject
  | object _ ih => exact .object (choice_canonical ih.1 ih.2)
  | last _ ih => exact ⟨List.cons_ne_nil _ _, List.forall_mem_singleton.mpr ih⟩
  | more _ _ iht ihs => exact ⟨List.cons_ne_nil _ _, List.forall_mem_cons.mpr ⟨iht, ihs.2⟩⟩

/-- A type that is read is canonical. -/
theorem read_canonical {source : String} {t : TypeSpec} (h : read source = .ok t) :
    IsCanonical t := by
  obtain ⟨ts, -, types, hd, rfl⟩ := read_eq_ok_iff.mp h
  have hall : types ≠ [] ∧ ∀ t ∈ types, IsCanonical t := hd.isCanonical
  exact choice_canonical hall.1 hall.2

/-! ## Types that are built -/

/-- The types that can be had: those that are read, and choices between some of them. -/
inductive Built : TypeSpec → Prop
  | read {source : String} {t : TypeSpec} (h : read source = .ok t) : Built t
  | union {types : List TypeSpec} (hne : types ≠ []) (h : ∀ t ∈ types, Built t) :
      Built (union types)

/-- Every type that is built is canonical. -/
theorem Built.canonical {t : TypeSpec} (h : Built t) : IsCanonical t := by
  induction h with
  | read h => exact read_canonical h
  | union hne _ ih => exact union_canonical hne ih

end FunctionManual.TypeSpec
