import FunctionManual.Doc.Completeness
import Mathlib.Data.List.Basic

/-!
# What a complete doc holds

* `Stated`: every field of a part that must be there is there.
* `stated_of_isComplete`: a complete doc is stated.
* `Carries`: the types and the values of a part are as wanted.
-/

namespace FunctionManual

/-! ## Nothing is missing -/

theorem eraseRepsLoop_ne_nil {α : Type} (r : α → α → Bool) (a : α) (l done : List α) :
    List.eraseRepsBy.loop r a l done ≠ [] := by
  induction l generalizing a done with
  | nil => simp [List.eraseRepsBy.loop]
  | cons b l ih =>
    rw [List.eraseRepsBy.loop]
    cases r a b with
    | true => exact ih a done
    | false => exact ih b (a :: done)

theorem eraseReps_eq_nil {α : Type} [BEq α] (l : List α) : l.eraseReps = [] ↔ l = [] := by
  cases l with
  | nil => exact iff_of_true rfl rfl
  | cons a l => exact iff_of_false (eraseRepsLoop_ne_nil _ a l []) (List.cons_ne_nil a l)

theorem sortedDistinct_eq_nil (texts : List String) : sortedDistinct texts = [] ↔ texts = [] := by
  rw [sortedDistinct, eraseReps_eq_nil, ← List.length_eq_zero_iff, List.length_mergeSort,
    List.length_eq_zero_iff]

namespace FunctionDoc

@[simp] theorem missingIf_eq_nil (absent : Bool) (path : String) :
    missingIf absent path = [] ↔ absent = false := by
  cases absent <;> simp [missingIf]

/-- A doc is complete when nothing is missing; sorting what is missing does not matter. -/
theorem isComplete_iff (d : FunctionDoc) : d.isComplete ↔ d.missingFields = [] := by
  rw [isComplete, missing, List.isEmpty_iff, sortedDistinct_eq_nil]

end FunctionDoc

theorem flatten_mapIdx_eq_nil {α β : Type} {f : Nat → α → List β} {l : List α}
    (h : (l.mapIdx f).flatten = []) : ∀ a ∈ l, ∃ i, f i a = [] := by
  intro a ha
  obtain ⟨i, hi, rfl⟩ := List.mem_iff_getElem.mp ha
  exact ⟨i, List.flatten_eq_nil_iff.mp h _ (List.mem_mapIdx.mpr ⟨i, hi, rfl⟩)⟩

/-- A slot that is not blank holds a text. -/
theorem Slot.exists_text {s : Slot} (h : s.isBlank = false) : ∃ t, s = .text t := by
  cases s with
  | text t => exact ⟨t, rfl⟩
  | other v => cases h

/-! ## Stated parts -/

/-- A parameter with a name, a type and a description. -/
structure Parameter.Stated (p : Parameter) : Prop where
  name : ∃ s, p.name = .text s
  type : ∃ t, p.type = some t
  description : ∃ s, p.description = .text s

/-- An example with a source and an outcome. -/
structure Example.Stated (e : Example) : Prop where
  source : ∃ s, e.source = .text s
  expected : ∃ r, e.expected = some r

/-- A return spec with a type and a description. -/
structure ReturnSpec.Stated (r : ReturnSpec) : Prop where
  type : ∃ t, r.type = some t
  description : ∃ s, r.description = .text s

/-- A doc whose fields are all there, with parts whose fields are. -/
structure FunctionDoc.Stated (d : FunctionDoc) : Prop where
  summary : ∃ s, d.summary = .text s
  description : ∃ s, d.description = .text s
  category : ∃ c, d.category = some c
  returns : ∃ r, d.returns = some r ∧ r.Stated
  parameters : ∀ p ∈ d.parameters, p.Stated
  examples : ∀ e ∈ d.examples, e.Stated
  reasons : ∀ r ∈ d.failureReasons, ∃ s, r = .text s

namespace FunctionDoc

theorem stated_of_missingOfParameter {p : Parameter} {i : Nat} (h : missingOfParameter p i = []) :
    p.Stated := by
  simp only [missingOfParameter, List.append_eq_nil_iff, missingIf_eq_nil] at h
  obtain ⟨⟨hn, ht⟩, hd⟩ := h
  exact ⟨Slot.exists_text hn, Option.isSome_iff_exists.mp (by simpa using ht), Slot.exists_text hd⟩

theorem stated_of_missingOfExample {e : Example} {i : Nat} (h : missingOfExample e i = []) :
    e.Stated := by
  simp only [missingOfExample, List.append_eq_nil_iff, missingIf_eq_nil] at h
  exact ⟨Slot.exists_text h.1, Option.isSome_iff_exists.mp (by simpa using h.2)⟩

theorem stated_of_missingOfReturns {r : Option ReturnSpec} (h : missingOfReturns r = []) :
    ∃ s, r = some s ∧ s.Stated := by
  cases r with
  | none => cases h
  | some r =>
    simp only [missingOfReturns, List.append_eq_nil_iff, missingIf_eq_nil] at h
    exact ⟨r, rfl, Option.isSome_iff_exists.mp (by simpa using h.1), Slot.exists_text h.2⟩

/-- A complete doc is stated. -/
theorem stated_of_isComplete {d : FunctionDoc} (h : d.isComplete) : d.Stated := by
  rw [isComplete_iff] at h
  simp only [missingFields, List.append_eq_nil_iff, missingIf_eq_nil] at h
  obtain ⟨⟨⟨⟨⟨⟨⟨-, hs⟩, hd⟩, hc⟩, hr⟩, hp⟩, he⟩, hf⟩ := h
  exact {
    summary := Slot.exists_text hs
    description := Slot.exists_text hd
    category := Option.isSome_iff_exists.mp (by simpa using hc)
    returns := stated_of_missingOfReturns hr
    parameters := fun p hm =>
      let ⟨_, hi⟩ := flatten_mapIdx_eq_nil hp p hm
      stated_of_missingOfParameter hi
    examples := fun e hm =>
      let ⟨_, hi⟩ := flatten_mapIdx_eq_nil he e hm
      stated_of_missingOfExample hi
    reasons := fun r hm =>
      let ⟨_, hi⟩ := flatten_mapIdx_eq_nil hf r hm
      Slot.exists_text ((missingIf_eq_nil _ _).mp hi) }

end FunctionDoc

/-! ## Types and values -/

variable {T S : TypeSpec → Prop} {V W : Value → Prop}

/-- The type and the values of a parameter are as wanted. -/
structure Parameter.Carries (T : TypeSpec → Prop) (V : Value → Prop) (p : Parameter) : Prop where
  type : ∀ t, p.type = some t → T t
  default : V p.default
  variants : ∀ v ∈ p.variants, V v.value

/-- The values of an example are as wanted. -/
structure Example.Carries (V : Value → Prop) (e : Example) : Prop where
  expected : ∀ v, e.expected = some (.ok v) → V v
  input : V e.input

/-- The types and the values of a doc are as wanted. -/
structure FunctionDoc.Carries (T : TypeSpec → Prop) (V : Value → Prop) (d : FunctionDoc) :
    Prop where
  parameters : ∀ p ∈ d.parameters, p.Carries T V
  returns : ∀ r, d.returns = some r → ∀ t, r.type = some t → T t
  examples : ∀ e ∈ d.examples, e.Carries V

/-- What is wanted may be weakened. -/
theorem FunctionDoc.Carries.mono {d : FunctionDoc} (h : d.Carries T V) (hT : ∀ t, T t → S t)
    (hV : ∀ v, V v → W v) : d.Carries S W where
  parameters := fun p hp =>
    let c := h.parameters p hp
    ⟨fun t ht => hT t (c.type t ht), hV _ c.default, fun v hv => hV _ (c.variants v hv)⟩
  returns := fun r hr t ht => hT t (h.returns r hr t ht)
  examples := fun e he =>
    let c := h.examples e he
    ⟨fun v hv => hV v (c.expected v hv), hV _ c.input⟩

/-- What is wanted may be joined. -/
theorem FunctionDoc.Carries.and {d : FunctionDoc} (h : d.Carries T V) (h' : d.Carries S W) :
    d.Carries (fun t => T t ∧ S t) fun v => V v ∧ W v where
  parameters := fun p hp =>
    let c := h.parameters p hp
    let c' := h'.parameters p hp
    ⟨fun t ht => ⟨c.type t ht, c'.type t ht⟩, ⟨c.default, c'.default⟩,
      fun v hv => ⟨c.variants v hv, c'.variants v hv⟩⟩
  returns := fun r hr t ht => ⟨h.returns r hr t ht, h'.returns r hr t ht⟩
  examples := fun e he =>
    let c := h.examples e he
    let c' := h'.examples e he
    ⟨fun v hv => ⟨c.expected v hv, c'.expected v hv⟩, ⟨c.input, c'.input⟩⟩

end FunctionManual
