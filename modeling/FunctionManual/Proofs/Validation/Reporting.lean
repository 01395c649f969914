import FunctionManual.Proofs.Doc.Content
import FunctionManual.Proofs.Validation.Examples

/-!
# When a doc has a report

* `Parameter.CanBeChecked`: the rules between fields can be applied to a parameter.
* `Validator.CanJudge`: an example can be run and compared.
* `FunctionDoc.HasReadFields`: what validation reads of a doc is there; other fields may be missing.
* `exists_report_iff`: a doc has a report just when all of this holds.
* `exists_validate_iff`: in a complete doc, what is read is there.
* `validate_reports_missing`: the report on an incomplete doc names what is missing.
-/

namespace FunctionManual

variable {v : Validator} {d : FunctionDoc} {p : Parameter} {e : Example} {o : Outcome}
  {path : String}

/-! ## Parameters -/

/-- A value can be put into a set: it has no parts, and is no set itself. -/
def Value.IsComparable (v : Value) : Prop := ∃ x, v = .scalar x ∧ ∀ member, x ≠ .set member

/-- The rules between fields can be applied to a parameter: its variants can be put into a set, and
the values that complaints show have texts. -/
structure Parameter.CanBeChecked (p : Parameter) : Prop where
  variants : ∀ v ∈ p.variants, v.value.IsComparable
  default : p.default.isNull = false → hasType p.type p.default = false → p.default.isWritable
  variant : ∀ v ∈ p.variants, hasType p.type v.value = false →
    hasType p.type (.array [v.value]) = false → v.value.isWritable
  choice : p.variants ≠ [] → p.default.isNull = false →
    (∃ x ∈ chosenValues p.default, x.isAmong (p.variants.map (·.value)) = false) →
    p.default.isWritable

theorem exists_checkComparable_iff {values : List Value} :
    (∃ u, checkComparable values = .ok u) ↔ ∀ v ∈ values, v.IsComparable := by
  induction values with
  | nil => exact iff_of_true ⟨(), rfl⟩ (List.forall_mem_nil _)
  | cons v values ih =>
    rw [List.forall_mem_cons, ← ih]
    by_cases hv : v.IsComparable
    · obtain ⟨x, rfl, hx⟩ := hv
      have hrest : checkComparable (.scalar x :: values) = checkComparable values := by
        cases x with
        | set member => exact absurd rfl (hx member)
        | _ => rfl
      rw [hrest]
      exact (and_iff_right ⟨x, rfl, hx⟩).symm
    · refine iff_of_false ?_ fun h => hv h.1
      rintro ⟨u, h⟩
      cases v with
      | array _ | object _ => cases h
      | scalar x =>
        cases x with
        | set _ => cases h
        | _ => exact hv ⟨_, rfl, nofun⟩

theorem exists_line_iff {v : Value} : (∃ s, v.line = .ok s) ↔ v.isWritable := by
  unfold Value.line
  cases v.isWritable with
  | true => exact iff_of_true ⟨_, rfl⟩ rfl
  | false => exact iff_of_false nofun nofun

theorem exists_typeName_iff {type : Option TypeSpec} :
    (∃ name, typeName type = .ok name) ↔ type.isSome := by
  cases type with
  | none => exact iff_of_false nofun nofun
  | some t => exact iff_of_true ⟨_, rfl⟩ rfl

/-- A complaint that shows a value and a type can be made just when the value has a text and the
type is there. -/
theorem exists_complaint_iff {v : Value} {type : Option TypeSpec} {α : Type}
    {f : String → String → α} :
    (∃ a, (do
      let shown ← v.line
      let name ← typeName type
      return f shown name) = Except.ok a) ↔ v.isWritable ∧ type.isSome := by
  refine Iff.trans (exists_bind_iff_and fun shown _ => exists_map_iff) ?_
  rw [exists_line_iff, exists_typeName_iff]

theorem exists_checkDefault_iff :
    (∃ issues, checkDefault p path = .ok issues) ↔
      (p.default.isNull = false → hasType p.type p.default = false →
        p.default.isWritable ∧ p.type.isSome) := by
  unfold checkDefault
  cases hn : p.default.isNull with
  | true => exact iff_of_true ⟨[], rfl⟩ nofun
  | false =>
    cases hh : hasType p.type p.default with
    | true => exact iff_of_true ⟨_, rfl⟩ nofun
    | false =>
      simp only [Bool.false_eq_true, if_false, forall_const]
      exact exists_complaint_iff

theorem exists_checkVariant_iff {v : Variant} :
    (∃ issues, checkVariant p path v = .ok issues) ↔
      (hasType p.type v.value = false → hasType p.type (.array [v.value]) = false →
        v.value.isWritable ∧ p.type.isSome) := by
  unfold checkVariant
  cases hv : hasType p.type v.value with
  | true => exact iff_of_true ⟨[], rfl⟩ nofun
  | false =>
    cases hl : hasType p.type (.array [v.value]) with
    | true => exact iff_of_true ⟨[], rfl⟩ nofun
    | false =>
      simp only [Bool.or_self, Bool.false_eq_true, if_false, forall_const]
      exact exists_complaint_iff

theorem exists_checkChoice_iff {values : List Value} :
    (∃ issues, checkChoice p values path = .ok issues) ↔
      (p.default.isNull = false → (∃ x ∈ chosenValues p.default, x.isAmong values = false) →
        p.default.isWritable) := by
  unfold checkChoice
  cases hn : p.default.isNull with
  | true => exact iff_of_true ⟨[], rfl⟩ nofun
  | false =>
    rw [Bool.false_or]
    cases ha : (chosenValues p.default).all (·.isAmong values) with
    | true =>
      refine iff_of_true ⟨[], rfl⟩ fun _ ⟨x, hx, hne⟩ => ?_
      rw [List.all_eq_true.mp ha x hx] at hne
      cases hne
    | false =>
      have hstrange : ∃ x ∈ chosenValues p.default, x.isAmong values = false := by
        simpa using List.all_eq_false.mp ha
      simp only [Bool.false_eq_true, if_false, forall_const, hstrange]
      exact Iff.trans exists_map_iff exists_line_iff

theorem exists_checkVariants_iff {defaultPath : String} :
    (∃ issues, checkVariants p path defaultPath = .ok issues) ↔
      (∀ v ∈ p.variants, v.value.IsComparable) ∧
      (∀ v ∈ p.variants, hasType p.type v.value = false →
        hasType p.type (.array [v.value]) = false → v.value.isWritable ∧ p.type.isSome) ∧
      (p.variants ≠ [] → p.default.isNull = false →
        (∃ x ∈ chosenValues p.default, x.isAmong (p.variants.map (·.value)) = false) →
        p.default.isWritable) := by
  by_cases hv : p.variants = []
  · rw [checkVariants, hv]
    refine iff_of_true ⟨[], rfl⟩ ⟨List.forall_mem_nil _, List.forall_mem_nil _, fun h => ?_⟩
    exact absurd rfl h
  · have he : p.variants.isEmpty = false := by simpa using hv
    simp only [checkVariants, he, Bool.false_eq_true, if_false, ne_eq, hv, not_false_eq_true,
      forall_const]
    refine Iff.trans (exists_bind_iff_and fun _ _ => exists_bind_iff_and fun _ _ =>
      exists_map_iff) ?_
    rw [exists_checkComparable_iff, List.forall_mem_map, exists_mapM_iff, exists_checkChoice_iff]
    exact and_congr_right fun _ => and_congr_left fun _ =>
      forall₂_congr fun v _ => exists_checkVariant_iff

/-- What validation reads of a parameter is there: a name that can be put into a set, and a type
unless there is nothing that should have it. -/
structure Parameter.HasReadFields (p : Parameter) : Prop where
  name : p.name.toValue.IsComparable
  type : p.type = none → p.default.isNull ∧ p.variants = []

theorem Parameter.Stated.hasReadFields (hp : p.Stated) : p.HasReadFields := by
  obtain ⟨name, hname⟩ := hp.name
  obtain ⟨t, ht⟩ := hp.type
  refine ⟨⟨.string name, by rw [hname]; rfl, nofun⟩, fun h => ?_⟩
  rw [ht] at h
  cases h

/-- The rules for a parameter can be applied just when what they read is there and they can be
applied to its default and its variants. -/
theorem exists_checkParameter_iff {seen : List Value} {late : Bool} {i : Nat} :
    (∃ issues, checkParameter seen late i p = .ok issues) ↔ p.HasReadFields ∧ p.CanBeChecked := by
  refine Iff.trans (exists_bind_iff_and fun _ _ => exists_bind_iff_and fun _ _ =>
    exists_map_iff) ?_
  rw [exists_checkComparable_iff, List.forall_mem_singleton, exists_checkDefault_iff,
    exists_checkVariants_iff]
  constructor
  · rintro ⟨hname, hdefault, hvariants, hvariant, hchoice⟩
    refine ⟨⟨hname, fun ht => ⟨?_, ?_⟩⟩, hvariants, fun hn hh => (hdefault hn hh).1,
      fun v hv hh hl => (hvariant v hv hh hl).1, hchoice⟩
    -- without a type nothing has it, and the complaint about that cannot name it
    · by_contra hn
      obtain ⟨-, htype⟩ := hdefault (Bool.eq_false_iff.mpr hn) (by rw [ht]; rfl)
      rw [ht] at htype
      cases htype
    · refine List.eq_nil_iff_forall_not_mem.mpr fun v hv => ?_
      obtain ⟨-, htype⟩ := hvariant v hv (by rw [ht]; rfl) (by rw [ht]; rfl)
      rw [ht] at htype
      cases htype
  · rintro ⟨hread, hcheck⟩
    refine ⟨hread.name, fun hn hh => ⟨hcheck.default hn hh, ?_⟩, hcheck.variants,
      fun v hv hh hl => ⟨hcheck.variant v hv hh hl, ?_⟩, hcheck.choice⟩
    · by_contra ht
      rw [(hread.type (Option.not_isSome_iff_eq_none.mp ht)).1] at hn
      cases hn
    · by_contra ht
      rw [(hread.type (Option.not_isSome_iff_eq_none.mp ht)).2] at hv
      cases hv

theorem exists_checkParameters_iff {ps : List Parameter} {seen : List Value} {late : Bool}
    {i : Nat} :
    (∃ issues, checkParameters seen late i ps = .ok issues) ↔
      (∀ p ∈ ps, p.HasReadFields) ∧ ∀ p ∈ ps, p.CanBeChecked := by
  induction ps generalizing seen late i with
  | nil => exact iff_of_true ⟨[], rfl⟩ ⟨List.forall_mem_nil _, List.forall_mem_nil _⟩
  | cons p ps ih =>
    refine Iff.trans (exists_bind_iff_and fun _ _ => exists_map_iff) ?_
    rw [List.forall_mem_cons, List.forall_mem_cons, exists_checkParameter_iff, ih]
    tauto

/-- A slot in which a newline can be looked for: a text, or a value with parts. -/
def Slot.IsSearchable : Slot → Prop
  | .text _ | .other (.array _) | .other (.object _) | .other (.scalar (.set _)) => True
  | .other (.scalar _) => False

theorem exists_holdsNewline_iff {slot : Slot} :
    (∃ b, slot.holdsNewline = .ok b) ↔ slot.IsSearchable := by
  rcases slot with s | x | items | members
  · exact iff_of_true ⟨_, rfl⟩ trivial
  · cases x with
    | set member => exact iff_of_true ⟨_, rfl⟩ trivial
    | _ => exact iff_of_false nofun id
  · exact iff_of_true ⟨_, rfl⟩ trivial
  · exact iff_of_true ⟨_, rfl⟩ trivial

theorem exists_checkMetadata_iff :
    (∃ issues, checkMetadata d = .ok issues) ↔ d.summary.IsSearchable ∧
      ((∀ p ∈ d.parameters, p.HasReadFields) ∧ ∀ p ∈ d.parameters, p.CanBeChecked) ∧
      ∀ r ∈ d.failureReasons, r.toValue.IsComparable := by
  refine Iff.trans (exists_bind_iff_and fun _ _ => exists_bind_iff_and fun _ _ =>
    exists_map_iff) ?_
  rw [exists_holdsNewline_iff, exists_checkParameters_iff, exists_checkComparable_iff,
    List.forall_mem_map]

/-! ## Examples -/

/-- The type of what a function returns. -/
def FunctionDoc.returnType (d : FunctionDoc) : Option TypeSpec := d.returns.bind (·.type)

/-- An example can be run and compared. What it declares has a text, or is not shown, which is so
where the example is not run and no rule complains about it. Running it takes a time that the clock
can wait for, and either too long or ends in a response, with a text if that is a value. -/
structure Validator.CanJudge (v : Validator) (d : FunctionDoc) (e : Example) : Prop where
  declared : ∀ w, e.expected = some (.ok w) → w.isWritable ∨
    (e.requiresHost ∧ (w.isJson → hasType d.returnType w))
  waits : e.requiresHost = false → v.limit.wait = .ok ()
  responds : e.requiresHost = false →
    v.limit.exceededBy (v.evaluate e.source e.input).elapsed = false →
    (v.evaluate e.source e.input).response ≠ .nothing ∧
    ∀ x, (v.evaluate e.source e.input).response = .result (.ok x) → x.isWritable

mutual

theorem isWritable_ofValue (v : Value) : (Snapshot.ofValue v).isWritable = v.isWritable := by
  cases v with
  | scalar x => rfl
  | array items => exact itemsAreWritable_ofValue items
  | object members => exact membersAreWritable_ofValue members

theorem itemsAreWritable_ofValue (items : List Value) :
    Snapshot.itemsAreWritable (Snapshot.itemsOfValue items) = Value.itemsAreWritable items := by
  cases items with
  | nil => rfl
  | cons v rest =>
    rw [Snapshot.itemsOfValue, Snapshot.itemsAreWritable, Value.itemsAreWritable,
      isWritable_ofValue v, itemsAreWritable_ofValue rest]

theorem membersAreWritable_ofValue (members : List (Key × Value)) :
    Snapshot.membersAreWritable (Snapshot.membersOfValue members) =
      Value.membersAreWritable members := by
  cases members with
  | nil => rfl
  | cons m rest =>
    rw [Snapshot.membersOfValue, Snapshot.membersAreWritable, Value.membersAreWritable,
      isWritable_ofValue m.2, membersAreWritable_ofValue rest]

end

/-- A declared value that an artifact can hold is compared with a type, which must be there. -/
theorem exists_checkExpected_iff :
    (∃ issues, checkExpected d e path = .ok issues) ↔
      ∀ w, e.expected = some (.ok w) → w.isJson →
        d.returnType.isSome ∧ (hasType d.returnType w = false → w.isWritable) := by
  rw [checkExpected]
  rcases e.expected with _ | f | w
  · exact iff_of_true ⟨_, rfl⟩ nofun
  · exact iff_of_true ⟨_, rfl⟩ nofun
  simp only [Option.some.injEq, Except.ok.injEq, forall_eq']
  cases w.isJson with
  | false => exact iff_of_true ⟨_, rfl⟩ nofun
  | true =>
    simp only [Bool.not_true, Bool.false_eq_true, if_false, forall_const, FunctionDoc.returnType]
    rcases d.returns with _ | r
    · exact iff_of_false nofun nofun
    · simp only [Option.bind_some]
      cases hh : hasType r.type w with
      | true =>
        refine iff_of_true ⟨_, rfl⟩ ⟨?_, nofun⟩
        obtain ⟨t, ht, -⟩ := (Option.any_eq_true ..).mp hh
        exact Option.isSome_iff_exists.mpr ⟨t, ht⟩
      | false =>
        simp only [forall_const, Bool.false_eq_true, if_false]
        exact Iff.trans exists_complaint_iff and_comm

theorem exists_checkWritable_iff {r : Option Result} :
    (∃ u, checkWritable r = .ok u) ↔ ∀ x, r = some (.ok x) → x.isWritable := by
  rcases r with _ | f | x
  · exact iff_of_true ⟨_, rfl⟩ nofun
  · exact iff_of_true ⟨_, rfl⟩ nofun
  · simp only [checkWritable, Option.some.injEq, Except.ok.injEq, forall_eq']
    cases x.isWritable with
    | true => exact iff_of_true ⟨_, rfl⟩ rfl
    | false => exact iff_of_false nofun nofun

/-- A declared value has a text where it is compared. -/
theorem exists_checkWritable_expected_iff :
    (∃ u, checkWritable (e.expected.map Result.ofExpected) = .ok u) ↔
      ∀ w, e.expected = some (.ok w) → w.isWritable := by
  rw [exists_checkWritable_iff]
  rcases e.expected with _ | f | w
  · exact iff_of_true nofun nofun
  · exact iff_of_true nofun nofun
  · rw [Option.map_some, Result.ofExpected, Except.map]
    simp only [Option.some.injEq, Except.ok.injEq, forall_eq', isWritable_ofValue]

/-- Only a response without a result leaves no outcome, and no other response than a value leaves
one. -/
theorem exists_ofResponse_iff {x : Response} :
    (∃ o, Outcome.ofResponse x = .ok o) ↔ x ≠ .nothing := by
  cases x with
  | nothing => exact iff_of_false nofun fun h => h rfl
  | bare _ | raised _ _ => exact iff_of_true ⟨_, rfl⟩ nofun
  | result r =>
    refine iff_of_true ?_ nofun
    rcases r with f | x
    · rw [Outcome.ofResponse]
      split <;> exact ⟨_, rfl⟩
    · exact ⟨_, rfl⟩

theorem result_of_ofResponse {x : Response} (h : Outcome.ofResponse x = .ok o) {w : Snapshot} :
    o.result = some (.ok w) ↔ x = .result (.ok w) := by
  cases x with
  | nothing => cases h
  | bare _ | raised _ _ =>
    cases h
    simp
  | result r =>
    rcases r with f | x
    · rw [Outcome.ofResponse] at h
      split at h <;> cases h <;> simp
    · cases h
      simp

theorem exists_judge_iff {m : FailureMatch} {i : Nat} :
    (∃ x, judge m i e o = .ok x) ↔
      (∀ w, e.expected = some (.ok w) → w.isWritable) ∧
        ∀ x, o.result = some (.ok x) → x.isWritable := by
  refine Iff.trans (exists_bind_iff_and fun _ _ => exists_map_iff) ?_
  rw [exists_checkWritable_expected_iff, exists_checkWritable_iff]

/-- An example that is run can be tried when the clock can wait for it, and it takes too long or
ends in a response, with texts for what is compared. -/
theorem exists_tryExample_iff {index : Nat} (hh : e.requiresHost = false) :
    (∃ found, v.tryExample index e path = .ok found) ↔
      (∀ w, e.expected = some (.ok w) → w.isWritable) ∧ v.limit.wait = .ok () ∧
      (v.limit.exceededBy (v.evaluate e.source e.input).elapsed = false →
        (v.evaluate e.source e.input).response ≠ .nothing ∧
        ∀ x, (v.evaluate e.source e.input).response = .result (.ok x) → x.isWritable) := by
  have hjudged : (∃ found, v.tryExample index e path = .ok found) ↔
      ∃ o, e.attempt v.evaluate v.limit = .ok o ∧
        (∀ w, e.expected = some (.ok w) → w.isWritable) ∧
          ∀ x, o.result = some (.ok x) → x.isWritable := by
    constructor
    · rintro ⟨found, h⟩
      obtain ⟨o, ho, mismatch, hm, -⟩ := (tryExample_eq_ok_iff hh).mp h
      exact ⟨o, ho, exists_judge_iff.mp ⟨mismatch, hm⟩⟩
    · rintro ⟨o, ho, hj⟩
      obtain ⟨mismatch, hm⟩ := exists_judge_iff.mpr hj
      exact ⟨_, (tryExample_eq_ok_iff hh).mpr ⟨o, ho, mismatch, hm, rfl⟩⟩
  rw [hjudged]
  constructor
  · rintro ⟨o, ho, hw, hr⟩
    obtain ⟨hwait, ⟨hlate, -⟩ | ⟨-, ho⟩⟩ := (attempt_eq_ok_iff hh).mp ho
    · exact ⟨hw, hwait, fun hintime => absurd (hlate.symm.trans hintime) nofun⟩
    · exact ⟨hw, hwait, fun _ => ⟨exists_ofResponse_iff.mp ⟨o, ho⟩,
        fun x hx => hr x ((result_of_ofResponse ho).mpr hx)⟩⟩
  · rintro ⟨hw, hwait, hresponds⟩
    cases ht : v.limit.exceededBy (v.evaluate e.source e.input).elapsed with
    | true => exact ⟨_, (attempt_eq_ok_iff hh).mpr ⟨hwait, .inl ⟨ht, rfl⟩⟩, hw, nofun⟩
    | false =>
      obtain ⟨hsome, htext⟩ := hresponds ht
      obtain ⟨o, ho⟩ := exists_ofResponse_iff.mpr hsome
      exact ⟨o, (attempt_eq_ok_iff hh).mpr ⟨hwait, .inr ⟨ht, ho⟩⟩, hw,
        fun x hx => htext x ((result_of_ofResponse ho).mp hx)⟩

/-- An example that needs a host can be judged when what it declares has a text where a rule
complains about it. -/
theorem canJudge_iff_of_host (hh : e.requiresHost = true) :
    v.CanJudge d e ↔ ∀ w, e.expected = some (.ok w) → w.isJson →
      hasType d.returnType w = false → w.isWritable := by
  constructor
  · intro h w hw hj ht
    obtain hwritable | ⟨-, hall⟩ := h.declared w hw
    · exact hwritable
    · rw [hall hj] at ht
      cases ht
  · intro h
    refine ⟨fun w hw => ?_, fun hr => ?_, fun hr => ?_⟩
    · by_cases hwritable : w.isWritable
      · exact .inl hwritable
      · refine .inr ⟨hh, fun hj => ?_⟩
        by_contra ht
        exact hwritable (h w hw hj (Bool.eq_false_iff.mpr ht))
    all_goals rw [hh] at hr; cases hr

/-- An example that is run can be judged when what it declares has a text and it can be tried. -/
theorem canJudge_iff_of_run (hh : e.requiresHost = false) :
    v.CanJudge d e ↔ (∀ w, e.expected = some (.ok w) → w.isWritable) ∧ v.limit.wait = .ok () ∧
      (v.limit.exceededBy (v.evaluate e.source e.input).elapsed = false →
        (v.evaluate e.source e.input).response ≠ .nothing ∧
        ∀ x, (v.evaluate e.source e.input).response = .result (.ok x) → x.isWritable) := by
  constructor
  · intro h
    refine ⟨fun w hd => ?_, h.waits hh, h.responds hh⟩
    obtain hwritable | ⟨hr, -⟩ := h.declared w hd
    · exact hwritable
    · rw [hh] at hr
      cases hr
  · rintro ⟨hw, hwait, hresponds⟩
    exact ⟨fun w hd => .inl (hw w hd), fun _ => hwait, fun _ => hresponds⟩

/-- What validation reads of an example is there: its source, and the type of what the function
returns where the example declares a value that may have it. -/
structure Example.HasReadFields (d : FunctionDoc) (e : Example) : Prop where
  source : ∃ s, e.source = .text s
  returns : ∀ w, e.expected = some (.ok w) → w.isJson → d.returnType.isSome

theorem exists_checkCalls_iff :
    (∃ issues, checkCalls d e path = .ok issues) ↔ ∃ s, e.source = .text s := by
  rw [checkCalls]
  cases e.source with
  | text s => exact iff_of_true ⟨_, rfl⟩ ⟨s, rfl⟩
  | other v => exact iff_of_false nofun nofun

/-- Something is found about an example just when what validation reads is there and it can be
judged. -/
theorem exists_validateExample_iff {index : Nat} :
    (∃ found, v.validateExample d index e = .ok found) ↔ e.HasReadFields d ∧ v.CanJudge d e := by
  refine Iff.trans (exists_bind_iff_and fun _ _ => exists_bind_iff_and fun _ _ =>
    exists_map_iff) ?_
  rw [exists_checkCalls_iff]
  refine Iff.trans (and_congr_left' exists_map_iff) ?_
  have hread : e.HasReadFields d ↔ (∃ s, e.source = .text s) ∧
      ∀ w, e.expected = some (.ok w) → w.isJson → d.returnType.isSome :=
    ⟨fun h => ⟨h.source, h.returns⟩, fun h => ⟨h.1, h.2⟩⟩
  rw [exists_checkExpected_iff, hread]
  cases hh : e.requiresHost with
  | true =>
    have htried : ∃ found, v.tryExample index e s!"examples[{index}]" = .ok found :=
      ⟨_, tryExample_of_requiresHost hh⟩
    rw [canJudge_iff_of_host hh]
    simp only [htried, and_true, imp_and, forall_and]
    tauto
  | false =>
    rw [exists_tryExample_iff hh, canJudge_iff_of_run hh]
    constructor
    · rintro ⟨hexpected, hsource, htry⟩
      exact ⟨⟨hsource, fun w hw hj => (hexpected w hw hj).1⟩, htry⟩
    · rintro ⟨⟨hsource, hreturns⟩, htry⟩
      exact ⟨fun w hw hj => ⟨hreturns w hw hj, fun _ => htry.1 w hw⟩, hsource, htry⟩

theorem exists_validateExamples_iff {es : List Example} {index : Nat} :
    (∃ found, v.validateExamples d index es = .ok found) ↔
      (∀ e ∈ es, e.HasReadFields d) ∧ ∀ e ∈ es, v.CanJudge d e := by
  induction es generalizing index with
  | nil => exact iff_of_true ⟨_, rfl⟩ ⟨List.forall_mem_nil _, List.forall_mem_nil _⟩
  | cons e es ih =>
    refine Iff.trans (exists_bind_iff_and fun _ _ => exists_map_iff) ?_
    rw [List.forall_mem_cons, List.forall_mem_cons, exists_validateExample_iff, ih]
    tauto

/-! ## Docs -/

/-- A doc whose parameters and examples leave no rule and no comparison in a fault. -/
structure Validator.CanReport (v : Validator) (d : FunctionDoc) : Prop where
  parameters : ∀ p ∈ d.parameters, p.CanBeChecked
  examples : ∀ e ∈ d.examples, v.CanJudge d e

/-- What validation reads of a doc is there: a summary that can be searched, reasons that can be put
into a set, and what it reads of the parameters and the examples. -/
structure FunctionDoc.HasReadFields (d : FunctionDoc) : Prop where
  summary : d.summary.IsSearchable
  parameters : ∀ p ∈ d.parameters, p.HasReadFields
  reasons : ∀ r ∈ d.failureReasons, r.toValue.IsComparable
  examples : ∀ e ∈ d.examples, e.HasReadFields d

/-- A doc has a report just when what validation reads of it is there, the rules can be applied to
its parameters, and its examples can be run and compared. -/
theorem exists_report_iff :
    (∃ report, v.validate d = .ok report) ↔ d.HasReadFields ∧ v.CanReport d := by
  refine Iff.trans (exists_bind_iff_and fun _ _ => exists_map_iff) ?_
  rw [exists_checkMetadata_iff, exists_validateExamples_iff]
  constructor
  · rintro ⟨⟨hsummary, ⟨hparameters, hchecked⟩, hreasons⟩, hexamples, hjudged⟩
    exact ⟨⟨hsummary, hparameters, hreasons, hexamples⟩, hchecked, hjudged⟩
  · rintro ⟨hread, hcan⟩
    exact ⟨⟨hread.summary, ⟨hread.parameters, hcan.parameters⟩, hread.reasons⟩, hread.examples,
      hcan.examples⟩

/-- What is read of a doc whose fields are all there is there. -/
theorem FunctionDoc.Stated.hasReadFields (hd : d.Stated) : d.HasReadFields := by
  refine ⟨?_, fun p hp => (hd.parameters p hp).hasReadFields, fun r hr => ?_, fun e he => ?_⟩
  · obtain ⟨summary, hs⟩ := hd.summary
    rw [hs]
    trivial
  · obtain ⟨s, rfl⟩ := hd.reasons r hr
    exact ⟨_, rfl, nofun⟩
  · obtain ⟨r, hr, hrs⟩ := hd.returns
    obtain ⟨t, ht⟩ := hrs.type
    refine ⟨(hd.examples e he).source, fun _ _ _ => ?_⟩
    rw [FunctionDoc.returnType, hr, Option.bind_some, ht]
    rfl

/-- A complete doc has a report just when the rules can be applied to its parameters and its
examples can be run and compared. -/
theorem exists_validate_iff (hd : d.isComplete) :
    (∃ report, v.validate d = .ok report) ↔ v.CanReport d :=
  exists_report_iff.trans
    (and_iff_right (FunctionDoc.stated_of_isComplete hd).hasReadFields)

theorem identifier_of_validate {report : Report} (h : v.validate d = .ok report) :
    report.identifier = d.identifier := by
  obtain ⟨metadata, -, h⟩ := bind_eq_ok h
  obtain ⟨found, -, h⟩ := bind_eq_ok h
  cases h
  rfl

/-- Examples whose evaluation raises an exception. -/
def raising : Validator := ⟨fun _ _ => ⟨0, .raised "RuntimeError" "boom"⟩, .whole 5, .kind⟩

end FunctionManual
