import FunctionManual.Proofs.Lookup
import FunctionManual.Proofs.Registry.Built

/-!
# Runs of registrations

* `Registration`: a call that is to add a function.
* `Registry.Fits`: what an entry has to meet to be added to a registry.
* `Registration.run_cases`: what one call does, whether it succeeds or not.
* `Registry.IsConsistent`: what holds of a registry behind every call.
* `registrations_keep_consistent`: that it does, and which calls succeed.
-/

namespace FunctionManual

open FunctionManual.Artifact

/-! ## Calls -/

/-- A call that is to add a function: under an identifier, with something to call where there is
such a thing, or a candidate that says itself what it is called. -/
inductive Registration
  | function (identifier : String) (doc : FunctionDoc) (evaluator : Option Evaluator)
  | candidate (c : Candidate)

namespace Registration

/-- Makes the call. -/
def run : Registration → RegistryAction Entry
  | .function identifier doc evaluator => .enroll identifier doc evaluator
  | .candidate c => .enrollCandidate c

/-- The entry that a call offers, unless it offers nothing that can be called. -/
def entry? : Registration → Option Entry
  | .function identifier doc evaluator => evaluator.map (⟨identifier, doc, ·⟩)
  | .candidate (.documented doc evaluator) => some ⟨doc.identifier, doc, evaluator⟩
  | .candidate (.other _) => none

end Registration

namespace Registry

/-- Makes calls one after another, and collects the answers; one that fails does not keep the others
from being made. -/
def runAll (r : Registry) : List Registration → List (Except Fault Entry) × Registry
  | [] => ([], r)
  | call :: calls =>
    let (answer, r) := call.run r
    let (answers, r) := runAll r calls
    (answer :: answers, r)

/-! ## One call -/

/-- What an entry has to meet to be added: neither its identifier nor the safe form of it is taken,
and its doc is complete, names the identifier and has a category of the registry. -/
structure Fits (r : Registry) (entry : Entry) : Prop where
  isNew : entry.identifier ∉ r.identifiers
  isFree : ∀ other ∈ r.identifiers, safeName other ≠ safeName entry.identifier
  complete : entry.doc.isComplete
  named : entry.doc.identifier = entry.identifier
  category : ∃ c ∈ r.categories, entry.doc.category = some c

variable {r r' : Registry}

theorem has_iff {identifier : String} : r.has identifier ↔ identifier ∈ r.identifiers := by
  simp [has, find?, identifiers]

/-- The holders know the safe forms that are taken. -/
theorem Built.holderOf?_eq_none_iff (hr : r.Built) {identifier : String} :
    r.holderOf? identifier = none ↔
      ∀ other ∈ r.identifiers, safeName other ≠ safeName identifier := by
  rw [holderOf?, lookup_eq_none_iff_not_mem, hr.holders_eq, List.map_map, identifiers,
    List.forall_mem_map, List.mem_map, not_exists]
  exact forall_congr' fun e => not_and

/-- What is asked of the parts of a call is what is asked of the entry that they make. -/
theorem Built.admits_iff (hr : r.Built) {entry : Entry} :
    r.Admits entry.identifier entry.doc (some entry.evaluator) ↔ r.Fits entry := by
  constructor
  · intro h
    refine ⟨fun hm => ?_, hr.holderOf?_eq_none_iff.mp h.isFree, h.complete, h.named, h.category⟩
    exact absurd (has_iff.mpr hm) (by rw [h.isNew]; exact nofun)
  · intro h
    refine ⟨Bool.eq_false_iff.mpr fun hh => h.isNew (has_iff.mp hh), h.complete, h.category,
      h.named, rfl, hr.holderOf?_eq_none_iff.mpr h.isFree⟩

end Registry

variable {r : Registry}

/-- One call adds the entry that it offers where that fits, and otherwise fails in a registry that
stays as it was. -/
theorem Registration.run_cases (hr : r.Built) (call : Registration) :
    (∃ entry, call.entry? = some entry ∧ r.Fits entry ∧
      call.run r = (.ok entry, r.added entry)) ∨
    ((∀ entry, call.entry? = some entry → ¬ r.Fits entry) ∧ ∃ f, call.run r = (.error f, r)) := by
  have offered : ∀ identifier doc evaluator,
      (∃ entry, evaluator.map (⟨identifier, doc, ·⟩) = some entry ∧ r.Fits entry ∧
        RegistryAction.enroll identifier doc evaluator r = (.ok entry, r.added entry)) ∨
      ((∀ entry, evaluator.map (⟨identifier, doc, ·⟩) = some entry → ¬ r.Fits entry) ∧
        ∃ f, RegistryAction.enroll identifier doc evaluator r = (.error f, r)) := by
    intro identifier doc evaluator
    obtain ⟨ha, e, rfl, hrun⟩ | ⟨ha, hrun⟩ :=
      RegistryAction.enroll_cases r identifier doc evaluator
    · exact .inl ⟨_, rfl, hr.admits_iff.mp ha, hrun⟩
    · refine .inr ⟨fun entry he hfits => ha ?_, hrun⟩
      obtain ⟨e, rfl, rfl⟩ := Option.map_eq_some_iff.mp he
      exact hr.admits_iff.mpr hfits
  cases call with
  | function identifier doc evaluator => exact offered identifier doc evaluator
  | candidate c =>
    cases c with
    | documented doc evaluator => exact offered doc.identifier doc (some evaluator)
    | other shown =>
      refine .inr ⟨fun entry he => ?_, _, rfl⟩
      cases he

namespace Registry

theorem Built.added (hr : r.Built) {entry : Entry} (h : r.Fits entry) :
    (r.added entry).Built :=
  .register hr (register_eq_ok_iff.mpr ⟨hr.admits_iff.mpr h, _, rfl, rfl⟩)

/-! ## Many calls -/

/-- Calls lead from a registry that is built to another, whose further entries are those of the
calls that succeeded, in their order. -/
theorem Built.runAll (hr : r.Built) (calls : List Registration) :
    (r.runAll calls).2.Built ∧ (r.runAll calls).2.name = r.name ∧
      (r.runAll calls).2.categories = r.categories ∧
      (r.runAll calls).2.entries = r.entries ++ (r.runAll calls).1.filterMap Except.toOption := by
  induction calls generalizing r with
  | nil => exact ⟨hr, rfl, rfl, (List.append_nil _).symm⟩
  | cons call calls ih =>
    obtain ⟨entry, -, hfits, hrun⟩ | ⟨-, f, hrun⟩ := call.run_cases hr
    · obtain ⟨hbuilt, hname, hcategories, hentries⟩ := ih (hr.added hfits)
      rw [Registry.runAll, hrun]
      refine ⟨hbuilt, hname, hcategories, hentries.trans ?_⟩
      exact List.append_assoc r.entries [entry] _
    · rw [Registry.runAll, hrun]
      exact ih hr

/-! ## What holds behind every call -/

/-- The identifiers are distinct, and so are their safe forms, which the holders map back to them.
Every doc is complete, names its identifier and has a category of the registry. All ways to look
into the registry agree. That every evaluator can be called is in its type. -/
structure IsConsistent (r : Registry) : Prop where
  nodup : r.identifiers.Nodup
  apart : ∀ i ∈ r.identifiers, ∀ j ∈ r.identifiers, safeName i = safeName j → i = j
  heldOnce : (r.holders.map (·.1)).Nodup
  held : ∀ stem i, r.holders.lookup stem = some i ↔ i ∈ r.identifiers ∧ safeName i = stem
  complete : ∀ entry ∈ r.entries, entry.doc.isComplete
  named : ∀ entry ∈ r.entries, entry.doc.identifier = entry.identifier
  category : ∀ entry ∈ r.entries, ∃ c ∈ r.categories, entry.doc.category = some c
  listed : r.entries.map (·.identifier) = r.identifiers
  found : ∀ i entry, r.find? i = some entry ↔ entry ∈ r.entries ∧ entry.identifier = i
  known : ∀ i, r.has i ↔ i ∈ r.identifiers
  counted : r.size = r.identifiers.length

/-- Looking up an identifier finds the one entry that has it. -/
theorem Built.find?_eq_some_iff (hr : r.Built) {i : String} {entry : Entry} :
    r.find? i = some entry ↔ entry ∈ r.entries ∧ entry.identifier = i := by
  constructor
  · intro h
    exact ⟨List.mem_of_find?_eq_some h, by simpa using List.find?_some h⟩
  · rintro ⟨hm, rfl⟩
    obtain ⟨other, hother⟩ := Option.isSome_iff_exists.mp
      (has_iff.mpr (List.mem_map_of_mem hm) : r.has entry.identifier)
    have hsame : other.identifier = entry.identifier := by simpa using List.find?_some hother
    rw [hother, List.inj_on_of_nodup_map hr.identifiers_nodup (List.mem_of_find?_eq_some hother) hm
      hsame]

theorem Built.heldOnce (hr : r.Built) : (r.holders.map (·.1)).Nodup := by
  have h := hr.safeNames_nodup
  rw [identifiers, List.map_map] at h
  rw [hr.holders_eq, List.map_map]
  exact h

/-- The holders map the safe forms of the identifiers back to them, and nothing else. -/
theorem Built.lookup_holders (hr : r.Built) {stem i : String} :
    r.holders.lookup stem = some i ↔ i ∈ r.identifiers ∧ safeName i = stem := by
  rw [lookup_eq_some_iff_mem hr.heldOnce, hr.holders_eq]
  simp only [List.mem_map, identifiers, Entry.holder, Prod.mk.injEq]
  constructor
  · rintro ⟨entry, hm, rfl, rfl⟩
    exact ⟨⟨entry, hm, rfl⟩, rfl⟩
  · rintro ⟨⟨entry, hm, rfl⟩, rfl⟩
    exact ⟨entry, hm, rfl, rfl⟩

theorem Built.isConsistent (hr : r.Built) : r.IsConsistent where
  nodup := hr.identifiers_nodup
  apart _ hi _ hj hs := List.inj_on_of_nodup_map hr.safeNames_nodup hi hj hs
  heldOnce := hr.heldOnce
  held _ _ := hr.lookup_holders
  complete := hr.isComplete
  named entry hm := (hr.doc entry hm).2
  category := hr.category
  listed := rfl
  found _ _ := hr.find?_eq_some_iff
  known _ := has_iff
  counted := (List.length_map _).symm

/-- Behind every sequence of calls, successful or not, the registry is consistent and lists the
functions of the calls that succeeded in their order. A further call succeeds exactly when what it
offers fits, with which the registry has one more function, and a call that fails leaves the
registry as it was. -/
theorem registrations_keep_consistent (name : String) (categories : List Category)
    (calls : List Registration) :
    ∃ answers r, Registry.runAll { name, categories } calls = (answers, r) ∧
      r.IsConsistent ∧ r.name = name ∧ r.categories = categories ∧
      r.entries = answers.filterMap Except.toOption ∧
      ∀ call : Registration,
        (∀ entry r', call.run r = (.ok entry, r') ↔
          call.entry? = some entry ∧ r.Fits entry ∧ r' = r.added entry) ∧
        ∀ f r', call.run r = (.error f, r') → r' = r := by
  obtain ⟨hbuilt, hname, hcategories, hentries⟩ := (Built.empty name categories).runAll calls
  refine ⟨_, _, rfl, hbuilt.isConsistent, hname, hcategories, hentries, fun call => ?_⟩
  obtain ⟨entry, hoffer, hfits, hrun⟩ | ⟨hrefused, f, hrun⟩ := call.run_cases hbuilt
  · rw [hrun]
    constructor
    · intro entry' r'
      constructor
      · intro h
        cases h
        exact ⟨hoffer, hfits, rfl⟩
      · rintro ⟨hoffer', -, rfl⟩
        cases hoffer.symm.trans hoffer'
        rfl
    · intro f r' h
      cases h
  · rw [hrun]
    constructor
    · intro entry r'
      refine iff_of_false nofun ?_
      rintro ⟨hoffer, hfits, -⟩
      exact hrefused entry hoffer hfits
    · rintro f' r' ⟨⟩
      rfl

end Registry

end FunctionManual
