import FunctionManual.Proofs.Doc.Content
import FunctionManual.Registry.Basic
import Mathlib.Data.List.Nodup

/-!
# Registries that are built

* `Registry.Admits`: what a function has to meet to be added.
* `RegistryAction.enroll_cases`: a function that meets it is added last, and every other is refused
  by a registry that stays as it was.
* `Registry.register_eq_ok_iff`: the registry with a function added.
* `Registry.Built`: an empty registry to which functions were added.
* `Built.doc`, `Built.category`: every function has a complete doc, which names its identifier and
  has a category of the registry.
* `Built.holders_eq`: the holders are those of the functions, in their order.
* `Built.safeNames_nodup`, `Built.fileNames_nodup`: no two functions share the file of their
  artifact.
-/

namespace FunctionManual

open FunctionManual.Artifact

namespace Registry

variable {r r' : Registry} {identifier : String} {doc : FunctionDoc}
  {evaluator : Option Evaluator}

/-- A registry with one more function, the last. -/
def added (r : Registry) (entry : Entry) : Registry :=
  { r with entries := r.entries ++ [entry], holders := r.holders ++ [entry.holder] }

/-! ## What is asked -/

/-- An identifier that is new, and so is its safe form; a complete doc that names the identifier and
has a category of the registry; and something to call. -/
structure Admits (r : Registry) (identifier : String) (doc : FunctionDoc)
    (evaluator : Option Evaluator) : Prop where
  isNew : r.has identifier = false
  complete : doc.isComplete
  category : ∃ c ∈ r.categories, doc.category = some c
  named : doc.identifier = identifier
  callable : evaluator.isSome
  isFree : r.holderOf? identifier = none

theorem lacking_eq_nil_iff : r.lacking identifier doc evaluator = [] ↔
    doc.isComplete ∧ (∃ c ∈ r.categories, doc.category = some c) ∧ doc.identifier = identifier ∧
      evaluator.isSome := by
  have hc : doc.category.any r.categories.contains = true ↔
      ∃ c ∈ r.categories, doc.category = some c := by
    rw [Option.any_eq_true]
    constructor
    · rintro ⟨c, hd, hm⟩
      exact ⟨c, List.contains_iff_mem.mp hm, hd⟩
    · rintro ⟨c, hm, hd⟩
      exact ⟨c, hd, List.contains_iff_mem.mpr hm⟩
  simp only [lacking, sortedDistinct_eq_nil, List.append_eq_nil_iff, FunctionDoc.missingIf_eq_nil,
    Bool.not_eq_false', hc, decide_eq_false_iff_not, ne_eq, Decidable.not_not,
    Option.isNone_eq_false_iff, FunctionDoc.isComplete, List.isEmpty_iff, and_assoc]

end Registry

/-! ## What is done -/

namespace RegistryAction

variable {r : Registry} {identifier : String} {doc : FunctionDoc} {evaluator : Option Evaluator}

theorem bind_run {α β : Type} (x : RegistryAction α) (k : α → RegistryAction β) (r : Registry) :
    (x >>= k) r = match x r with
      | (.ok a, r') => k a r'
      | (.error f, r') => (.error f, r') := by
  show StateT.bind x (ExceptT.bindCont k) r = _
  unfold StateT.bind
  rcases x r with ⟨_ | _, r'⟩ <;> rfl

/-- The steps of adding a function, in their order. -/
theorem enroll_run : enroll identifier doc evaluator r =
    if r.has identifier then (.error (.duplicate identifier none), r)
    else
      match r.lacking identifier doc evaluator, evaluator with
      | [], some e =>
        match r.holderOf? identifier with
        | some other => (.error (.duplicate identifier (some other)), r)
        | none => (.ok ⟨identifier, doc, e⟩, r.added ⟨identifier, doc, e⟩)
      | lacks, _ => (.error (.incomplete identifier lacks), r) := by
  unfold enroll
  cases hh : r.has identifier with
  | true => simp only [bind_run, look, hh, if_true]; rfl
  | false =>
    simp only [bind_run, look, hh, Bool.false_eq_true, if_false]
    cases hl : r.lacking identifier doc evaluator with
    | cons _ _ => rfl
    | nil =>
      cases evaluator with
      | none => rfl
      | some e =>
        cases ho : r.holderOf? identifier with
        | some other => simp only [bind_run, look, ho]; rfl
        | none => simp only [bind_run, look, ho]; rfl

/-- A function that meets what is asked is added, and every other is refused by a registry that
stays as it was. -/
theorem enroll_cases (r : Registry) (identifier : String) (doc : FunctionDoc)
    (evaluator : Option Evaluator) :
    (r.Admits identifier doc evaluator ∧ ∃ e, evaluator = some e ∧
      enroll identifier doc evaluator r =
        (.ok ⟨identifier, doc, e⟩, r.added ⟨identifier, doc, e⟩)) ∨
    (¬ r.Admits identifier doc evaluator ∧
      ∃ f, enroll identifier doc evaluator r = (.error f, r)) := by
  rw [enroll_run]
  cases hh : r.has identifier with
  | true =>
    right
    refine ⟨fun h => ?_, _, rfl⟩
    rw [h.isNew] at hh
    cases hh
  | false =>
    simp only [Bool.false_eq_true, if_false]
    cases hl : r.lacking identifier doc evaluator with
    | cons l ls =>
      right
      refine ⟨fun h => ?_, _, rfl⟩
      rw [Registry.lacking_eq_nil_iff.mpr ⟨h.complete, h.category, h.named, h.callable⟩] at hl
      cases hl
    | nil =>
      obtain ⟨hcomplete, hcategory, hnamed, hcallable⟩ := Registry.lacking_eq_nil_iff.mp hl
      obtain ⟨e, rfl⟩ := Option.isSome_iff_exists.mp hcallable
      cases ho : r.holderOf? identifier with
      | some other =>
        right
        refine ⟨fun h => ?_, _, rfl⟩
        rw [h.isFree] at ho
        cases ho
      | none =>
        left
        exact ⟨⟨hh, hcomplete, hcategory, hnamed, hcallable, ho⟩, e, rfl, rfl⟩

end RegistryAction

namespace Registry

variable {r r' : Registry} {identifier : String} {doc : FunctionDoc}
  {evaluator : Option Evaluator}

/-- A registry with a function added is one that admits it, with the function last. -/
theorem register_eq_ok_iff : r.register identifier doc evaluator = .ok r' ↔
    r.Admits identifier doc evaluator ∧
      ∃ e, evaluator = some e ∧ r' = r.added ⟨identifier, doc, e⟩ := by
  unfold register
  obtain ⟨ha, e, rfl, h⟩ | ⟨ha, f, h⟩ := RegistryAction.enroll_cases r identifier doc evaluator
  · simp only [h, Except.ok.injEq, ha, true_and, Option.some.injEq, exists_eq_left', eq_comm]
  · simp only [h, reduceCtorEq, ha, false_and]

end Registry

/-! ## Built registries -/

namespace Registry

/-- The names of the artifacts of a registry, in the order of registration. -/
def fileNames (r : Registry) : List String := r.entries.map fun e => fileName e.identifier

/-- An empty registry to which functions were added. -/
inductive Built : Registry → Prop
  | empty (name : String) (categories : List Category) : Built { name, categories }
  | register {r r' : Registry} {identifier : String} {doc : FunctionDoc}
      {evaluator : Option Evaluator} (hr : Built r)
      (h : r.register identifier doc evaluator = .ok r') : Built r'

theorem Built.doc {r : Registry} (h : r.Built) :
    ∀ e ∈ r.entries, e.doc.isComplete ∧ e.doc.identifier = e.identifier := by
  induction h with
  | empty => exact List.forall_mem_nil _
  | register _ h ih =>
    obtain ⟨ha, e, -, rfl⟩ := register_eq_ok_iff.mp h
    exact List.forall_mem_append.mpr ⟨ih, List.forall_mem_singleton.mpr ⟨ha.complete, ha.named⟩⟩

theorem Built.isComplete {r : Registry} (h : r.Built) :
    ∀ entry ∈ r.entries, entry.doc.isComplete := fun e he => (h.doc e he).1

/-- Every function has a category of the registry. -/
theorem Built.category {r : Registry} (h : r.Built) :
    ∀ e ∈ r.entries, ∃ c ∈ r.categories, e.doc.category = some c := by
  induction h with
  | empty => exact List.forall_mem_nil _
  | register _ h ih =>
    obtain ⟨ha, e, -, rfl⟩ := register_eq_ok_iff.mp h
    exact List.forall_mem_append.mpr ⟨ih, List.forall_mem_singleton.mpr ha.category⟩

/-- The two tables of a registry go together: the holders are those of the functions. -/
theorem Built.holders_eq {r : Registry} (h : r.Built) : r.holders = r.entries.map Entry.holder := by
  induction h with
  | empty => rfl
  | register _ h ih =>
    obtain ⟨-, e, -, rfl⟩ := register_eq_ok_iff.mp h
    simp only [added, ih, List.map_append, List.map_cons, List.map_nil]

/-- No two functions share the safe form of their identifiers. The holders are asked when a function
is added, and they know all functions before it. -/
theorem Built.safeNames_nodup {r : Registry} (h : r.Built) :
    (r.identifiers.map safeName).Nodup := by
  induction h with
  | empty => exact List.nodup_nil
  | register hr h ih =>
    obtain ⟨ha, e, -, rfl⟩ := register_eq_ok_iff.mp h
    have hfree := ha.isFree
    rw [holderOf?, hr.holders_eq, List.lookup_eq_none_iff] at hfree
    simp only [identifiers, added, List.map_append, List.map_cons, List.map_nil, List.map_map]
      at ih ⊢
    refine List.nodup_append.mpr ⟨ih, List.pairwise_singleton _ _, ?_⟩
    rintro _ hm _ hs rfl
    obtain ⟨entry, hentry, heq⟩ := List.mem_map.mp hm
    have hne := hfree _ (List.mem_map_of_mem hentry)
    rw [List.mem_singleton.mp hs] at heq
    exact absurd heq.symm (by simpa [Entry.holder] using hne)

/-- No two functions share the file of their artifact. -/
theorem Built.fileNames_nodup {r : Registry} (h : r.Built) : r.fileNames.Nodup := by
  have heq : r.fileNames = (r.identifiers.map safeName).map (· ++ ".json") := by
    simp only [fileNames, identifiers, List.map_map]
    rfl
  rw [heq]
  exact h.safeNames_nodup.map fun _ _ => (String.append_left_inj _).mp

/-- No function is listed twice. -/
theorem Built.identifiers_nodup {r : Registry} (h : r.Built) : r.identifiers.Nodup :=
  h.safeNames_nodup.of_map

/-! ## A registry of one function -/

/-- The doc of a function without parameters. -/
def soleDoc : FunctionDoc where
  identifier := "f"
  summary := "S."
  description := "D."
  category := some .string
  parameters := []
  returns := some ⟨some (.primitive .string), .text "R.", []⟩

theorem soleDoc_isComplete : soleDoc.isComplete := by
  rw [FunctionDoc.isComplete_iff]
  decide

/-- The registry of this function alone. -/
def sole : Registry where
  name := "main"
  entries := [⟨"f", soleDoc, fun _ => pure (.scalar .null)⟩]
  holders := [("f", "f")]

/-- The registry of a function with this doc, which has no value but null. -/
def soleOf (d : FunctionDoc) : Registry where
  name := "main"
  entries := [⟨"f", d, fun _ => pure (.scalar .null)⟩]
  holders := [("f", "f")]

theorem soleOf_built {d : FunctionDoc} {c : Category} (hd : d.isComplete)
    (hi : d.identifier = "f") (hc : d.category = some c) : (soleOf d).Built := by
  have known : c ∈ Category.all := by cases c <;> decide
  have safe : safeName "f" = "f" := by decide
  have h : register { name := "main" } "f" d (some fun _ => pure (.scalar .null)) =
      .ok (soleOf d) := by
    refine register_eq_ok_iff.mpr ⟨⟨rfl, hd, ⟨c, known, hc⟩, hi, rfl, rfl⟩, _, rfl, ?_⟩
    simp only [added, Entry.holder, safe]
    rfl
  exact .register (.empty "main" Category.all) h

end Registry

end FunctionManual
