import FunctionManual.Proofs.Evaluation.Sparing
import FunctionManual.Standard.Library

/-!
# The standard library only adds containers

* `Builtin.Spares`: the body of a function changes no container that exists, with any arguments.
* `registry_spares`: no function of the standard library changes a container that exists.
-/

namespace FunctionManual

/-! ## Complaints -/

namespace Action

variable {α : Type}

theorem spares_kindName (d : Datum) : (kindName d).Spares := by
  refine (spares_look _).bind fun v _ _ _ => ?_
  cases v.kind? with
  | some k => exact spares_pure k.name
  | none => exact spares_fail _

theorem spares_lacks (d : Datum) (operation : String) : (lacks d operation : Action α).Spares :=
  (spares_look _).bind fun _ _ _ _ => spares_fail _

theorem spares_lacksLength (d : Datum) : (lacksLength d : Action α).Spares :=
  (spares_look _).bind fun _ _ _ _ => spares_fail _

theorem spares_textOf (d : Datum) (operation : String) : (textOf d operation).Spares := by
  unfold textOf
  split
  · exact spares_pure _
  · exact spares_lacks d operation

end Action

/-- With any arguments, a function changes no container that exists. -/
def Builtin.Spares (b : Builtin) : Prop := ∀ a : Arguments, (b.body a).Spares

theorem Builtin.Spares.evaluator {b : Builtin} (h : b.Spares) (a : Arguments) :
    (b.evaluator a).Spares :=
  (Action.spares_ofExcept _).bind fun _ _ _ _ => h a

namespace Standard

open FunctionManual.Action

/-! ## Texts -/

theorem changeText_spares (operation : String) (onText : String → String)
    (onBytes : List UInt8 → List UInt8) (a : Arguments) :
    (changeText operation onText onBytes a).Spares := by
  unfold changeText
  split
  · exact spares_pure _
  · exact (spares_textOf _ _).bind fun _ _ _ _ => spares_pure _

theorem readConvention_spares (d : Datum) : (readConvention d).Spares := by
  unfold readConvention
  split
  · exact spares_pure _
  · exact (spares_ofExcept _).bind fun _ _ _ _ => spares_pure _
  · exact spares_fail _
  · exact spares_fail _
  · exact (spares_look _).bind fun _ _ _ _ => spares_fail _

theorem textOf?_spares (d : Datum) : (readTexts.textOf? d).Spares := by
  unfold readTexts.textOf?
  split
  · exact spares_pure _
  · exact spares_fail _
  · exact spares_pure _
  · exact spares_fail _
  · exact spares_fail _

theorem filterMapM_spares {f : Datum → Action (Option String)} (hf : ∀ d, (f d).Spares)
    (ds : List Datum) : (ds.filterMapM f).Spares := by
  induction ds with
  | nil => exact spares_pure _
  | cons d ds ih =>
    rw [List.filterMapM_cons]
    refine (hf d).bind fun found _ _ _ => ?_
    cases found with
    | none => exact ih
    | some t => exact ih.bind fun _ _ _ _ => spares_pure _

theorem readTexts_spares (d : Datum) : (readTexts d).Spares := by
  refine (spares_look _).bind fun true? _ _ _ => ?_
  split
  · exact spares_pure _
  · refine (spares_look _).bind fun v _ _ _ => ?_
    split
    · exact filterMapM_spares textOf?_spares _
    · exact spares_pure _
    · split
      · exact spares_pure _
      · exact spares_pure _
      · exact (textOf?_spares _).bind fun _ _ _ _ => spares_pure _
      · exact spares_fail _

namespace Words

theorem heldBy_spares (t : Trait) (d : Datum) : (t.heldBy d).Spares := by
  unfold Trait.heldBy
  split
  · exact spares_pure _
  · exact spares_pure _
  · exact spares_lacks _ _

theorem partAt_spares (v : View Datum) (index : Nat) : (partAt v index).Spares := by
  unfold partAt
  split
  · exact spares_pure _
  · split
    · exact spares_pure _
    · exact spares_fail _
  · exact spares_pure _
  · exact spares_pure _

theorem liesAt_spares (v : View Datum) (index : Nat) (next : Datum) (boundaries : List Boundary) :
    (liesAt v index next boundaries).Spares := by
  induction boundaries with
  | nil => exact spares_pure _
  | cons b rest ih =>
    rw [liesAt]
    refine (partAt_spares v _).bind fun previous _ _ _ => ?_
    refine (partAt_spares v _).bind fun current _ _ _ => ?_
    refine (heldBy_spares _ previous).bind fun before _ _ _ => ?_
    split
    · refine (heldBy_spares _ current).bind fun behind _ _ _ => ?_
      split
      · split
        · exact spares_pure _
        · refine (heldBy_spares _ next).bind fun further _ _ _ => ?_
          split
          · exact spares_pure _
          · exact ih
      · exact ih
    · exact ih

theorem checkPieces_spares (v : View Datum) : (checkPieces v).Spares := by
  unfold checkPieces
  split
  · exact spares_fail _
  · exact spares_fail _
  · exact spares_pure _

theorem lookForBoundaries_spares (v : View Datum) (size : Nat) (boundaries : List Boundary)
    (indices : List Nat) : (lookForBoundaries v size boundaries indices).Spares := by
  induction indices with
  | nil => exact spares_pure _
  | cons index rest ih =>
    rw [lookForBoundaries]
    have look (next : Datum) : (do
        if ← liesAt v index next boundaries then checkPieces v
        lookForBoundaries v size boundaries rest : Action Unit).Spares := by
      refine (liesAt_spares v index next boundaries).bind fun lies _ _ _ => ?_
      split
      · exact (checkPieces_spares v).bind fun _ _ _ _ => ih
      · exact ih
    split
    · exact (partAt_spares v _).bind fun next _ _ _ => look next
    · exact look _

theorem sizeOf_spares (d : Datum) (v : View Datum) : (refuseCut.sizeOf d v).Spares := by
  unfold refuseCut.sizeOf
  split
  · exact spares_pure _
  · exact spares_pure _
  · exact spares_pure _
  · exact spares_pure _
  · exact spares_lacksLength _

theorem refuseCut_spares (convention : Option Convention) {excluded : Action (List String)}
    (he : excluded.Spares) (d : Datum) : (refuseCut convention excluded d).Spares := by
  refine (spares_look _).bind fun v _ _ _ => ?_
  split
  · refine he.bind fun names _ _ _ => ?_
    refine (spares_look _).bind fun true? _ _ _ => ?_
    split
    · exact spares_pure _
    · refine (sizeOf_spares d v).bind fun size _ _ _ => ?_
      refine (lookForBoundaries_spares v _ _ _).bind fun _ _ _ _ => ?_
      refine (checkPieces_spares v).bind fun _ _ _ _ => ?_
      split
      · exact spares_fail _
      · exact spares_lacks _ _
  · split
    · exact spares_fail _
    · exact spares_fail _

end Words

theorem snakecase_spares : snakecase.Spares := by
  intro a
  refine (readConvention_spares _).bind fun convention _ _ _ => ?_
  split
  · dsimp only
    split
    · exact (readTexts_spares _).bind fun names _ _ _ => spares_pure _
    · exact spares_pure _
  · exact Words.refuseCut_spares convention (readTexts_spares _) _

/-! ## Kinds and contents -/

theorem boolean_spares : boolean.Spares := by
  intro a
  unfold boolean
  simp only
  split
  · exact spares_pure _
  · exact (spares_kindName _).bind fun _ _ _ _ => spares_fail _

theorem hasKind_spares (kind : Kind) (d : Datum) : (hasKind kind d).Spares :=
  (spares_kindName d).bind fun _ _ _ _ => spares_pure _

theorem membersOf_spares (d : Datum) (operation : String) : (membersOf d operation).Spares := by
  unfold membersOf
  split
  · exact spares_look _
  · exact spares_lacks _ _

theorem keys_spares : keys.Spares := fun _ =>
  (membersOf_spares _ _).bind fun _ _ _ _ => spares_addArray _

theorem values_spares : values.Spares := fun _ =>
  (membersOf_spares _ _).bind fun _ _ _ _ => spares_addArray _

theorem length_spares : length.Spares := by
  intro a
  refine (spares_look _).bind fun v _ _ _ => ?_
  cases partCount v with
  | some n => exact spares_pure _
  | none => exact spares_lacksLength _

theorem toInt_spares : toInt.Spares := by
  intro a
  refine (spares_look _).bind fun v _ _ _ => ?_
  dsimp only
  split
  · exact spares_pure _
  · exact spares_fail _
  · exact (spares_kindName _).bind fun _ _ _ _ => spares_fail _

/-! ## Parsers and codecs -/

theorem refuseDepth_spares (x : Scalar) : (refuseDepth x).Spares := by
  unfold refuseDepth
  split
  · split
    · exact spares_fail _
    · exact spares_fail _
  · exact spares_fail _

theorem readDepth_spares (d : Datum) : (readDepth d).Spares := by
  unfold readDepth
  split
  · exact spares_pure _
  · split
    · split
      · exact spares_pure _
      · exact refuseDepth_spares _
    · exact spares_fail _
  · exact (spares_look _).bind fun _ _ _ _ => spares_fail _

theorem checked_spares (source : String) (x : Except Json.Error Json) :
    (readDocument.checked source x).Spares := by
  cases x with
  | ok j => exact spares_pure j
  | error e => exact spares_fail _

theorem readDocument_spares (d : Datum) : (readDocument d).Spares := by
  unfold readDocument
  split
  · exact checked_spares _ _
  · split
    · exact checked_spares _ _
    · exact spares_fail _
  · exact (spares_look _).bind fun _ _ _ _ => spares_fail _

theorem parseJson_spares : parseJson.Spares := by
  intro a
  refine (readDepth_spares _).bind fun limit _ _ _ => ?_
  refine (readDocument_spares _).bind fun j _ _ _ => ?_
  cases limit with
  | none => exact spares_load _
  | some n => exact spares_load _

theorem addObjects_spares (mss : List (Members Datum)) : (addObjects mss).Spares := by
  induction mss with
  | nil => exact spares_pure _
  | cons ms mss ih =>
    rw [addObjects]
    exact (spares_addObject ms).bind fun _ _ _ _ => ih.bind fun _ _ _ _ => spares_pure _

theorem parseRegexAll_spares : parseRegexAll.Spares := by
  intro a
  unfold parseRegexAll
  simp only
  split
  · refine (spares_look _).bind fun numeric _ _ _ => ?_
    split
    · exact (spares_fail _).bind fun _ _ _ _ =>
        (addObjects_spares _).bind fun _ _ _ _ => spares_addArray _
    · exact (addObjects_spares _).bind fun _ _ _ _ => spares_addArray _
  · exact spares_lacks _ _
  · exact (spares_kindName _).bind fun _ _ _ _ => spares_fail _

theorem encodeBase64_spares : encodeBase64.Spares := by
  intro a
  refine (spares_textOf _ _).bind fun s _ _ _ => ?_
  exact (spares_look _).bind fun padded _ _ _ => spares_pure _

theorem refuseJoin_spares (d : Datum) : (refuseJoin d).Spares := by
  unfold refuseJoin
  split
  · exact spares_fail _
  · exact spares_fail _
  · exact spares_fail _
  · exact spares_fail _
  · exact spares_lacksLength _

theorem decodeBase64_spares : decodeBase64.Spares := by
  intro a
  unfold decodeBase64
  simp only
  split
  · split
    · exact spares_pure _
    · exact spares_fail _
  · exact refuseJoin_spares _

/-! ## The library -/

theorem spares_of_mem_all {b : Builtin} (hb : b ∈ all) : b.Spares := by
  simp only [all, List.mem_cons, List.not_mem_nil, or_false] at hb
  -- one case for each function, in the order of the library
  rcases hb with rfl | rfl | rfl | rfl | rfl | rfl | rfl | rfl | rfl | rfl | rfl | rfl | rfl |
    rfl | rfl
  · exact changeText_spares _ _ _
  · exact changeText_spares _ _ _
  · exact snakecase_spares
  · exact changeText_spares _ _ _
  · exact boolean_spares
  · exact fun a => hasKind_spares .integer _
  · exact fun a => hasKind_spares .string _
  · exact keys_spares
  · exact values_spares
  · exact length_spares
  · exact parseJson_spares
  · exact parseRegexAll_spares
  · exact encodeBase64_spares
  · exact decodeBase64_spares
  · exact toInt_spares

/-- No function of the standard library changes a container that exists, whatever its arguments. -/
theorem registry_spares : registry.Spares := by
  intro e he bound
  obtain ⟨b, hb, rfl⟩ := List.mem_map.mp he
  exact (spares_of_mem_all hb).evaluator bound

end Standard

end FunctionManual
