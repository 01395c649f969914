import FunctionManual.Proofs.Evaluation.Visiting
import FunctionManual.Proofs.Lookup
import FunctionManual.Proofs.Store.Holding

/-!
# Calls that reach their evaluators

* `Supplies`: what binding the parameters of a doc does with the arguments given.
* `Arrival`, `Entrance`: a call that a run reaches, up to its function and to the evaluator.
* `Entrance.IsFaithful`: every value is bound under the name of its own argument.
* `compile_makes_runs_safe`: what a program that was compiled cannot do.
-/

namespace FunctionManual

/-! ## Binding one argument after another -/

namespace Arguments

theorem bind_of_not_mem {a : Arguments} {name : String} {d : Datum}
    (h : name ∉ a.map (·.1)) : a.bind name d = a ++ [(name, d)] := by
  induction a with
  | nil => rfl
  | cons x a ih =>
    rw [List.map_cons, List.mem_cons, not_or] at h
    rw [bind, if_neg (Ne.symm h.1), ih h.2, List.cons_append]

/-- Different names are bound side by side. -/
theorem bindAll_eq {names : List String} {ds : List Datum} {bound : Arguments}
    (h : (bound.map (·.1) ++ names).Nodup) : bindAll names ds bound = bound ++ names.zip ds := by
  induction names generalizing ds bound with
  | nil => exact (List.append_nil bound).symm
  | cons name names ih =>
    cases ds with
    | nil => exact (List.append_nil bound).symm
    | cons d ds =>
      have hn : name ∉ bound.map (·.1) := fun hm =>
        (List.nodup_append.mp h).2.2 name hm name List.mem_cons_self rfl
      have hb : (bound ++ [(name, d)]).map (·.1) ++ names = bound.map (·.1) ++ name :: names := by
        simp
      have hrest : bindAll names ds (bound ++ [(name, d)]) =
          bound ++ [(name, d)] ++ names.zip ds := ih (by rwa [hb])
      simp only [bindAll] at hrest
      rw [bindAll, List.zip_cons_cons, List.foldl_cons, bind_of_not_mem hn, hrest,
        List.append_assoc, List.singleton_append]

theorem lookup_append {a b : Arguments} {name : String} :
    (a ++ b).lookup name = (a.lookup name).or (b.lookup name) := by
  induction a with
  | nil => rfl
  | cons x a ih =>
    rw [List.cons_append, List.lookup_cons, List.lookup_cons]
    split
    · rfl
    · exact ih

end Arguments

/-! ## Binding parameters -/

/-- The arguments given are checked, and the defaults of other parameters are added to them. -/
structure Supplies (parameters : List Parameter) (given : Arguments) (s : Store)
    (added : Arguments) (s' : Store) : Prop where
  grows : s.Grows s'
  checked : ∀ p ∈ parameters, ∀ d, given.lookup p.name.plain = some d →
    ∃ s₁ : Store, s.Grows s₁ ∧ s₁.Grows s' ∧ checkValue s₁ p d = .ok ()
  nodup : (added.map (·.1)).Nodup
  default : ∀ b ∈ added, ∃ p ∈ parameters, b.1 = p.name.plain ∧ given.lookup b.1 = none ∧
    p.default.isNull = false ∧ s'.Holds b.2 p.default

namespace Supplies

variable {p : Parameter} {rest : List Parameter} {given added : Arguments} {s s₁ s' : Store}
  {d : Datum}

theorem skip (h : Supplies rest given s added s') (hl : given.lookup p.name.plain = none) :
    Supplies (p :: rest) given s added s' := by
  refine ⟨h.grows, List.forall_mem_cons.mpr ⟨fun d hd => ?_, h.checked⟩, h.nodup, fun b hb => ?_⟩
  · rw [hl] at hd
    cases hd
  · obtain ⟨q, hq, hb⟩ := h.default b hb
    exact ⟨q, List.mem_cons_of_mem _ hq, hb⟩

theorem check (h : Supplies rest given s added s') (hl : given.lookup p.name.plain = some d)
    (hc : checkValue s p d = .ok ()) : Supplies (p :: rest) given s added s' := by
  refine ⟨h.grows, List.forall_mem_cons.mpr ⟨fun d' hd => ?_, h.checked⟩, h.nodup, fun b hb => ?_⟩
  · rw [hl] at hd
    cases hd
    exact ⟨s, .refl s, h.grows, hc⟩
  · obtain ⟨q, hq, hb⟩ := h.default b hb
    exact ⟨q, List.mem_cons_of_mem _ hq, hb⟩

/-- A default is bound for the parameters that follow, too. -/
theorem add (h : Supplies rest (given ++ [(p.name.plain, d)]) s₁ added s')
    (hd : s.load p.default = (d, s₁)) (hl : given.lookup p.name.plain = none)
    (hnull : p.default.isNull = false) :
    Supplies (p :: rest) given s ((p.name.plain, d) :: added) s' := by
  have hg : s.Grows s₁ := by
    have := s.load_grows p.default
    rwa [hd] at this
  have hholds : s'.Holds d p.default := ⟨s, by rw [hd], by rw [hd]; exact h.grows⟩
  refine ⟨hg.trans h.grows, List.forall_mem_cons.mpr ⟨fun d' hd' => ?_, fun q hq d' hd' => ?_⟩,
    List.nodup_cons.mpr ⟨fun hm => ?_, h.nodup⟩, List.forall_mem_cons.mpr ⟨?_, fun b hb => ?_⟩⟩
  · rw [hl] at hd'
    cases hd'
  -- a later parameter that was given still finds its argument, as the default stands behind
  · have hd' : (given ++ [(p.name.plain, d)]).lookup q.name.plain = some d' := by
      rw [Arguments.lookup_append, hd', Option.some_or]
    obtain ⟨s₂, hs₂, hs', hc⟩ := h.checked q hq d' hd'
    exact ⟨s₂, hg.trans hs₂, hs', hc⟩
  · obtain ⟨b, hb, hbn⟩ := List.mem_map.mp hm
    obtain ⟨-, -, -, hnone, -⟩ := h.default b hb
    rw [lookup_eq_none_iff_not_mem] at hnone
    exact hnone (by simp [hbn])
  · exact ⟨p, List.mem_cons_self, rfl, hl, hnull, hholds⟩
  · obtain ⟨q, hq, hn, hnone, hb⟩ := h.default b hb
    rw [Arguments.lookup_append, Option.or_eq_none_iff] at hnone
    exact ⟨q, List.mem_cons_of_mem _ hq, hn, hnone.1, hb⟩

/-- What is added has names of its own. -/
theorem nodup_append {parameters : List Parameter} (h : Supplies parameters given s added s')
    (hg : (given.map (·.1)).Nodup) : ((given ++ added).map (·.1)).Nodup := by
  rw [List.map_append, List.nodup_append]
  refine ⟨hg, h.nodup, ?_⟩
  rintro a ha b hb rfl
  obtain ⟨y, hy, rfl⟩ := List.mem_map.mp hb
  obtain ⟨-, -, -, hnone, -⟩ := h.default y hy
  exact lookup_eq_none_iff_not_mem.mp hnone ha

end Supplies

theorem bindParameters_eq_ok {parameters : List Parameter} {given bound : Arguments}
    {m m' : Machine} (h : bindParameters parameters given m = (.ok bound, m')) :
    ∃ added, bound = given ++ added ∧ Supplies parameters given m.store added m'.store := by
  induction parameters generalizing given m with
  | nil =>
    cases h
    exact ⟨[], by simp, .refl _, nofun, List.nodup_nil, nofun⟩
  | cons p rest ih =>
    rw [bindParameters] at h
    cases hl : given.lookup p.name.plain with
    | some d =>
      simp only [hl] at h
      obtain ⟨checked, m₁, hlook, h⟩ := Action.bind_eq_ok h
      cases hlook
      obtain ⟨⟨⟩, m₂, hc, h⟩ := Action.bind_eq_ok h
      rw [Action.ofExcept_run, Prod.mk.injEq] at hc
      obtain ⟨hc, rfl⟩ := hc
      obtain ⟨added, rfl, hs⟩ := ih h
      exact ⟨added, rfl, hs.check hl hc⟩
    | none =>
      simp only [hl] at h
      split at h
      · obtain ⟨added, rfl, hs⟩ := ih h
        exact ⟨added, rfl, hs.skip hl⟩
      next hnull =>
        obtain ⟨d, m₁, hd, h⟩ := Action.bind_eq_ok h
        cases hd
        obtain ⟨added, rfl, hs⟩ := ih h
        exact ⟨_, List.append_assoc .., hs.add rfl hl (by simpa using hnull)⟩

/-- Arguments that fit a doc give a value to each of its required parameters. -/
theorem Fits.exists_value {doc : FunctionDoc} {arguments : List (Option String × Expr)}
    {names : List String} {ds : List Datum} (hn : Fits doc arguments names)
    (hlen : names.length = ds.length) {p : Parameter} (hp : p ∈ doc.parameters)
    (hr : p.required) : ∃ d, (p.name.plain, d) ∈ names.zip ds := by
  have hm : p.name.plain ∈ (names.zip ds).map (·.1) := by
    rw [List.map_fst_zip (Nat.le_of_eq hlen)]
    exact hn.required p (List.mem_filter.mpr ⟨hp, hr⟩)
  obtain ⟨b, hb, hbn⟩ := List.mem_map.mp hm
  exact ⟨b.2, hbn ▸ hb⟩

/-! ## Calls that reach their evaluators -/

/-- A call that a run reaches and whose arguments have values. -/
structure Arrival (r : Registry) (p : Program) (scope : Scope) (m : Machine) where
  call : Call
  entry : Entry
  current : Scope
  before : Machine
  given : Arguments
  evaluated : Machine
  reached : Reaches r p scope m current before call.expr
  registered : r.find? call.name = some entry
  supplied : evalArguments r current entry.doc 0 [] call.arguments before = (.ok given, evaluated)

/-- A call whose arguments pass the checks of the parameters, up to the evaluator of its function,
which takes `bound` with the machine at the end. -/
structure Entrance (r : Registry) (p : Program) (scope : Scope) (m : Machine) extends
    Arrival r p scope m where
  bound : Arguments
  machine : Machine
  admitted : bindParameters entry.doc.parameters given evaluated = (.ok bound, machine)

variable {r : Registry} {p : Program} {scope : Scope} {m : Machine}

namespace Arrival

theorem fits (x : Arrival r p scope m) (hp : p.IsChecked r) :
    ∃ names, Fits x.entry.doc x.call.arguments names := by
  obtain ⟨entry, names, hf, hn⟩ := (x.reached.isChecked hp).call
  rw [x.registered] at hf
  cases hf
  exact ⟨names, hn⟩

/-- The arguments of a call that was checked are their values under different names. -/
theorem exists_values (x : Arrival r p scope m) {names : List String}
    (hn : Fits x.entry.doc x.call.arguments names) (hd : x.entry.doc.HasDistinctNames) :
    ∃ values, evalItems r x.current (x.call.arguments.map (·.2)) x.before =
      (.ok values, x.evaluated) ∧ names.length = values.length ∧ x.given = names.zip values := by
  have h := x.supplied
  rw [hn.evalArguments_eq] at h
  obtain ⟨values, m₁, hv, h⟩ := Action.bind_eq_ok h
  rw [Action.pure_run, Prod.mk.injEq, Except.ok.injEq] at h
  obtain ⟨hg, rfl⟩ := h
  have hlen := congrArg List.length hn.designated
  rw [List.length_mapIdx, List.length_map] at hlen
  refine ⟨values, hv, ?_, ?_⟩
  · rw [length_of_evalItems hv, List.length_map, hlen]
  · rw [← hg, Arguments.bindAll_eq (by simpa using hn.nodup hd), List.nil_append]

end Arrival

namespace Entrance

/-- The values of the arguments are bound under their own names and no name is bound twice; what is
bound is declared, and what is required is bound. -/
structure IsFaithful (x : Entrance r p scope m) : Prop where
  own : ∃ (names : List String) (values : List Datum) (added : Arguments),
    x.call.arguments.mapIdx (designation x.entry.doc) = names.map some ∧
    evalItems r x.current (x.call.arguments.map (·.2)) x.before = (.ok values, x.evaluated) ∧
    names.length = values.length ∧ x.bound = names.zip values ++ added
  nodup : (x.bound.map (·.1)).Nodup
  declared : ∀ b ∈ x.bound, ∃ q ∈ x.entry.doc.parameters, q.name = .text b.1
  required : ∀ q ∈ x.entry.doc.parameters, q.required → ∃ d, (q.name.plain, d) ∈ x.bound

theorem isFaithful (x : Entrance r p scope m) (hp : p.IsChecked r)
    (hd : x.entry.doc.HasDistinctNames) : x.IsFaithful := by
  obtain ⟨names, hn⟩ := x.fits hp
  obtain ⟨values, hv, hlen, hg⟩ := x.exists_values hn hd
  have hkeys : x.given.map (·.1) = names := by
    rw [hg, List.map_fst_zip (Nat.le_of_eq hlen)]
  obtain ⟨added, hb, hs⟩ := bindParameters_eq_ok x.admitted
  refine ⟨⟨names, values, added, hn.designated, hv, hlen, hg ▸ hb⟩, ?_, fun b hbm => ?_,
    fun q hq hreq => ?_⟩
  · rw [hb]
    exact hs.nodup_append (hkeys.symm ▸ hn.nodup hd)
  · rw [hb, List.mem_append] at hbm
    obtain ⟨q, hq, hqn⟩ : ∃ q ∈ x.entry.doc.parameters, q.name.plain = b.1 := by
      rcases hbm with hbm | hbm
      · exact hn.declared b.1 (hkeys ▸ List.mem_map_of_mem hbm)
      · obtain ⟨q, hq, hqn, -⟩ := hs.default b hbm
        exact ⟨q, hq, hqn.symm⟩
    exact ⟨q, hq, hqn ▸ hd.texts q hq⟩
  · obtain ⟨d, hm⟩ := hn.exists_value hlen hq hreq
    rw [hb, hg]
    exact ⟨d, List.mem_append_left _ hm⟩

end Entrance

/-- A run of a program that was compiled looks up no function that is not registered and no
parameter behind the last: every call that it comes to is one of a registered function, with a
parameter at the place of each positional argument, and its faults are those of variables that were
not assigned and of functions whose arguments are there. Where the parameters of a function have
different names, each argument of a call that reaches the evaluator is bound under its own. -/
theorem compile_makes_runs_safe (h : compile r p = .ok ()) (scope : Scope) (m : Machine)
    (last : Datum) :
    (∀ scope' m' c, Reaches r p scope m scope' m' (Call.expr c) →
      ∃ entry, r.find? c.name = some entry ∧ ∀ (i : Nat) (hi : i < c.arguments.length),
        c.arguments[i].1 = none → i < entry.doc.parameters.length) ∧
    (∀ f m', runProgram r scope last p m = (.error f, m') ↔
      ∃ scope' m₁ x, Reaches r p scope m scope' m₁ x ∧ FailsAt r scope' x m₁ f m') ∧
    ∀ x : Entrance r p scope m, x.entry.doc.HasDistinctNames → x.IsFaithful := by
  have hp := compile_eq_ok_iff.mp h
  refine ⟨fun scope' m' c hc => ?_, fun f m' => runProgram_eq_error_iff hp last,
    fun x hd => x.isFaithful hp hd⟩
  obtain ⟨entry, names, hf, hn⟩ := (hc.isChecked hp).call
  refine ⟨entry, hf, fun i hi hnone => ?_⟩
  have hsome := hn.isSome_designation hi
  rw [designation, hnone] at hsome
  refine Nat.lt_of_not_le fun hge => ?_
  rw [List.getElem?_eq_none hge] at hsome
  cases hsome

/-! ## A registry of one function -/

/-- The doc of a function with an optional parameter. -/
def pickDoc : FunctionDoc where
  identifier := "pick"
  summary := "S."
  description := "D."
  category := some .string
  parameters := [
    { name := "value", type := some (.primitive .any), description := "V." },
    { name := "mode", type := some (.primitive .string), description := "M.", required := false,
      default := .string "first", variants := [⟨.string "first", "F."⟩, ⟨.string "last", "L."⟩] }]
  returns := some ⟨some (.primitive .any), .text "R.", []⟩

/-- The registry of this function, which returns its first argument. -/
def pickRegistry : Registry where
  name := "main"
  entries := [⟨"pick", pickDoc, fun a => pure ((a.lookup "value").getD (.scalar .null))⟩]
  holders := [("pick", "pick")]

/-- The call `pick(1)`. -/
def pickOne : Call := ⟨"pick", [(none, .literal (.integer 1))], false, ⟨5, 12⟩⟩

/-- The call `pick(pick(1), mode: "last")`. -/
def pickTwice : Call :=
  ⟨"pick", [(none, pickOne.expr), (some "mode", .literal (.string "last"))], false, ⟨0, 27⟩⟩

/-- The outer call enters the evaluator, once the inner one has a value. -/
def pickTwiceEntrance : Entrance pickRegistry [.expr pickTwice.expr] ⟨.scalar .null, []⟩ {} where
  call := pickTwice
  entry := ⟨"pick", pickDoc, fun a => pure ((a.lookup "value").getD (.scalar .null))⟩
  current := ⟨.scalar .null, []⟩
  before := {}
  given := [("value", .scalar (.integer 1)), ("mode", .scalar (.string "last"))]
  evaluated := {}
  bound := [("value", .scalar (.integer 1)), ("mode", .scalar (.string "last"))]
  machine := {}
  reached := .visit (.here _ _)
  registered := rfl
  supplied := rfl
  admitted := rfl

theorem pickDoc_hasDistinctNames : pickDoc.HasDistinctNames where
  texts := by simp [pickDoc]
  nodup := by decide

theorem compile_makes_runs_safe_pickTwice :
    compile pickRegistry [.expr pickTwice.expr] = .ok () ∧ pickTwiceEntrance.IsFaithful :=
  have h : compile pickRegistry [.expr pickTwice.expr] = .ok () := rfl
  ⟨h, (compile_makes_runs_safe h _ _ (.scalar .null)).2.2 pickTwiceEntrance
    pickDoc_hasDistinctNames⟩

end FunctionManual
