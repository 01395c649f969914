import FunctionManual.Proofs.Lookup
import FunctionManual.Proofs.Registry.Built
import FunctionManual.Proofs.Validation.Reporting

/-!
# When a registry has reports

* `validateAll_eq_ok_iff`: the reports on a registry are those on its functions.
* `validateAll_collects`: when a registry has reports, and that these are the reports on its
  functions in the order of registration, in whatever order the work on them ends.
-/

namespace FunctionManual

/-! ## Registries -/

variable {v : Validator} {r : Registry} {es ended : List Entry}
  {kept reports : List (String × Report)}

theorem exists_gather_iff :
    (∃ reports, v.gather kept es = .ok reports) ↔
      ∀ e ∈ es, ∃ report, v.validate e.doc = .ok report := by
  induction es generalizing kept with
  | nil => exact iff_of_true ⟨_, rfl⟩ (List.forall_mem_nil _)
  | cons e es ih =>
    rw [List.forall_mem_cons]
    exact exists_bind_iff_and fun report _ => ih

/-- What is kept are the reports on the functions, under their identifiers. -/
theorem mem_gather_iff (h : v.gather kept es = .ok reports) {identifier : String}
    {report : Report} :
    (identifier, report) ∈ reports ↔ (identifier, report) ∈ kept ∨
      ∃ e ∈ es, e.identifier = identifier ∧ v.validate e.doc = .ok report := by
  induction es generalizing kept with
  | nil =>
    cases h
    simp
  | cons e es ih =>
    obtain ⟨first, hf, h⟩ := bind_eq_ok h
    rw [ih h, List.mem_cons, Prod.mk.injEq, List.exists_mem_cons_iff, hf, Except.ok.injEq,
      @eq_comm _ e.identifier, @eq_comm _ first]
    tauto

theorem names_of_gather (h : v.gather kept es = .ok reports) :
    reports.map (·.1) = (es.map (·.identifier)).reverse ++ kept.map (·.1) := by
  induction es generalizing kept with
  | nil =>
    cases h
    rfl
  | cons e es ih =>
    obtain ⟨first, -, h⟩ := bind_eq_ok h
    rw [ih h]
    simp

/-- Where no identifier stands twice, what is kept under one is the report on its function. -/
theorem reportOn_gather (h : v.gather [] es = .ok reports)
    (hn : (es.map (·.identifier)).Nodup) {e : Entry} (he : e ∈ es) :
    reportOn reports e.identifier = v.validate e.doc := by
  obtain ⟨report, hr⟩ := exists_gather_iff.mp ⟨reports, h⟩ e he
  have hnames : (reports.map (·.1)).Nodup := by
    rw [names_of_gather h, List.map_nil, List.append_nil]
    exact List.nodup_reverse.mpr hn
  have hlookup : reports.lookup e.identifier = some report :=
    (lookup_eq_some_iff_mem hnames).mpr ((mem_gather_iff h).mpr (.inr ⟨e, he, rfl, hr⟩))
  rw [reportOn, hlookup, hr]

/-- The reports on a registry are those on its functions, in whatever order the work on them
ends. -/
theorem validateAll_eq_ok_iff (hr : r.Built) {workers : Workers} (he : ended.Perm r.entries)
    {reports : List Report} :
    v.validateAll r workers ended = .ok reports ↔ (∃ u, checkWorkers workers r = .ok u) ∧
      List.Forall₂ (fun entry report => v.validate entry.doc = .ok report) r.entries reports := by
  have hn : (ended.map (·.identifier)).Nodup := (he.map _).nodup_iff.mpr hr.identifiers_nodup
  have hcollect : ∀ kept, v.gather [] ended = .ok kept →
      (r.entries.mapM fun e => reportOn kept e.identifier) =
        r.entries.mapM fun e => v.validate e.doc :=
    fun kept hk => mapM_congr fun e hm => reportOn_gather hk hn (he.mem_iff.mpr hm)
  rw [← mapM_eq_ok]
  constructor
  · intro h
    obtain ⟨u, hu, h⟩ := bind_eq_ok h
    obtain ⟨kept, hk, h⟩ := bind_eq_ok h
    rw [hcollect kept hk] at h
    exact ⟨⟨u, hu⟩, h⟩
  · rintro ⟨⟨u, hu⟩, h⟩
    obtain ⟨kept, hk⟩ : ∃ kept, v.gather [] ended = .ok kept :=
      exists_gather_iff.mpr fun e hm => exists_mapM_iff.mp ⟨reports, h⟩ e (he.mem_iff.mp hm)
    rw [Validator.validateAll, hu, hk]
    exact (hcollect kept hk).trans h

theorem exists_checkWorkers_iff {workers : Workers} :
    (∃ u, checkWorkers workers r = .ok u) ↔ r.entries = [] ∨ ∀ n ∈ workers, 0 ≤ n := by
  unfold checkWorkers
  split
  next h =>
    rw [Bool.and_eq_true, Bool.not_eq_true', List.isEmpty_eq_false_iff, Option.any_eq_true] at h
    obtain ⟨hne, n, hn, hneg⟩ := h
    refine iff_of_false nofun ?_
    rintro (he | hall)
    · exact hne he
    · exact absurd (hall n hn) (by simpa using hneg)
  next h =>
    refine iff_of_true ⟨_, rfl⟩ ?_
    by_cases he : r.entries = []
    · exact .inl he
    · refine .inr fun n hn => ?_
      by_contra hneg
      refine h ?_
      rw [Bool.and_eq_true, Bool.not_eq_true', List.isEmpty_eq_false_iff, Option.any_eq_true]
      exact ⟨he, n, hn, by simpa using hneg⟩

/-- The reports on a registry are those on its functions, one for each and in the order of
registration, in whatever order the work on them ends. There are such reports just when there is a
worker, the rules can be applied to all parameters, and all examples can be run and compared. -/
theorem validateAll_collects (v : Validator) (hr : r.Built) (workers : Workers)
    (he : ended.Perm r.entries) :
    ((∃ reports, v.validateAll r workers ended = .ok reports) ↔
      (r.entries = [] ∨ ∀ n ∈ workers, 0 ≤ n) ∧ ∀ entry ∈ r.entries, v.CanReport entry.doc) ∧
    ∀ reports, v.validateAll r workers ended = .ok reports →
      List.Forall₂ (fun entry report => v.validate entry.doc = .ok report ∧
        report.identifier = entry.identifier) r.entries reports := by
  constructor
  · simp only [validateAll_eq_ok_iff hr he, exists_and_left, ← mapM_eq_ok, exists_mapM_iff,
      exists_checkWorkers_iff]
    exact and_congr_right fun _ => forall₂_congr fun entry hm =>
      exists_validate_iff (hr.isComplete entry hm)
  · intro reports h
    obtain ⟨-, h⟩ := (validateAll_eq_ok_iff hr he).mp h
    refine List.forall₂_iff_zip.mpr ⟨h.length_eq, fun hm => ?_⟩
    have hreport := List.forall₂_zip h hm
    have hentry := (List.of_mem_zip hm).1
    exact ⟨hreport, (identifier_of_validate hreport).trans (hr.doc _ hentry).2⟩

/-! ## Docs that break rules -/

/-- A doc with one optional parameter and one example. -/
def choiceDoc (type : TypeSpec) (default : Value) (variants : List Variant) : FunctionDoc where
  identifier := "f"
  summary := "S."
  description := "D."
  category := some .string
  parameters := [{
    name := .text "p", type := some type, description := .text "P.", required := false, default,
    variants }]
  returns := some ⟨some (.primitive .string), .text "R.", []⟩
  examples := [⟨.text "f()", some (.ok (.string "x")), none, none, .null, false⟩]

theorem choiceDoc_isComplete (type : TypeSpec) (default : Value) (variants : List Variant) :
    (choiceDoc type default variants).isComplete := by
  -- what is missing does not depend on the parameter
  have h : (choiceDoc type default variants).missingFields =
      (choiceDoc (.primitive .any) .null []).missingFields := rfl
  rw [FunctionDoc.isComplete_iff, h]
  decide

/-- A doc of an integer that has an array for its default, and a text and a truth value for its
variants. -/
def strayDoc : FunctionDoc :=
  choiceDoc (.primitive .integer) (.array [.string "x"])
    [⟨.string "a", "A."⟩, ⟨.boolean true, "B."⟩]

/-- A doc of an array with an array for its variant, which is not what its items are. -/
def listedDoc : FunctionDoc :=
  choiceDoc (.array none) .null [⟨.array [.string "a"], "A."⟩]

/-- The registry of this doc and of another without parameters. -/
def strayRegistry : Registry :=
  (Registry.soleOf strayDoc).added
    ⟨"g", { Registry.soleDoc with identifier := "g" }, fun _ => pure (.scalar .null)⟩

theorem strayRegistry_built : strayRegistry.Built := by
  have complete : FunctionDoc.isComplete { Registry.soleDoc with identifier := "g" } := by
    rw [FunctionDoc.isComplete_iff]
    decide
  have built : (Registry.soleOf strayDoc).Built :=
    Registry.soleOf_built (choiceDoc_isComplete ..) rfl rfl
  exact .register built (Registry.register_eq_ok_iff.mpr
    ⟨⟨rfl, complete, ⟨.string, by decide, rfl⟩, rfl, rfl, by decide⟩, _, rfl, rfl⟩)

theorem validateAll_collects_stray :
    strayRegistry.Built ∧ strayRegistry.entries.reverse.Perm strayRegistry.entries ∧
    ∃ reports, raising.validateAll strayRegistry none strayRegistry.entries.reverse = .ok reports ∧
      List.Forall₂ (fun entry report => raising.validate entry.doc = .ok report ∧
        report.identifier = entry.identifier) strayRegistry.entries reports := by
  have hperm : strayRegistry.entries.reverse.Perm strayRegistry.entries := List.reverse_perm _
  have h := validateAll_collects raising strayRegistry_built none hperm
  have hstray : raising.CanReport strayDoc := by
    refine ⟨List.forall_mem_singleton.mpr ⟨?_, fun _ _ => rfl, ?_, fun _ _ _ => rfl⟩,
      List.forall_mem_singleton.mpr ⟨?_, fun _ => rfl, fun _ _ => ⟨nofun, nofun⟩⟩⟩
    · exact List.forall_mem_cons.mpr ⟨⟨_, rfl, nofun⟩,
        List.forall_mem_singleton.mpr ⟨_, rfl, nofun⟩⟩
    · exact List.forall_mem_cons.mpr ⟨fun _ _ => rfl, List.forall_mem_singleton.mpr fun _ _ => rfl⟩
    · rintro w ⟨⟩
      exact .inl rfl
  obtain ⟨reports, hreports⟩ := h.1.mpr ⟨.inr nofun,
    List.forall_mem_cons.mpr ⟨hstray, List.forall_mem_singleton.mpr ⟨nofun, nofun⟩⟩⟩
  exact ⟨strayRegistry_built, hperm, reports, hreports, h.2 reports hreports⟩

/-- A variant that is an array cannot be put into the set that finds repeated variants: instead of
a report, or of one with a complaint, there is none. -/
theorem validateAll_listed_fails :
    (Registry.soleOf listedDoc).Built ∧
      raising.validateAll (Registry.soleOf listedDoc) none =
        .error (.badType "unhashable type: 'list'") :=
  ⟨Registry.soleOf_built (choiceDoc_isComplete ..) rfl rfl, rfl⟩

end FunctionManual
