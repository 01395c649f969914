import FunctionManual.Proofs.Evaluation.Purity
import Mathlib.Data.List.Induction

/-!
# How arguments are passed

An argument may stand at the place of its parameter or under its name, and named ones in any order.

* `passed`: the expressions of arguments, each with its name.
* `checkArguments_grouped`: arguments of which the positional ones come first are checked just when
  they fit.
* `suppliedTo`: the expression that a call gives to a name.
* `Repasses`: the same arguments passed in another way.
* `evalArguments_gives`: what is bound holds the values of the expressions supplied.
* `repassed_calls_agree`: both ways pass the check or none does, and the calls end alike.
-/

namespace FunctionManual

open Action (EndAlike)

variable {doc : FunctionDoc} {arguments arguments' : List (Option String × Expr)}
  {front back : List Expr} {named named' : List (String × Expr)} {names names' : List String}

/-! ## Passed arguments -/

/-- The expressions of arguments, each with its name. -/
def passed (doc : FunctionDoc) (front : List Expr) (named : List (String × Expr)) :
    List (String × Expr) :=
  (doc.parameters.map (·.name.plain)).zip front ++ named

theorem zip_append_right {α β : Type} (as : List α) (bs bs' : List β) :
    as.zip (bs ++ bs') = as.zip bs ++ (as.drop bs.length).zip bs' := by
  induction bs generalizing as with
  | nil => simp
  | cons b bs ih =>
    cases as with
    | nil => rfl
    | cons a as => rw [List.cons_append, List.zip_cons_cons, ih]; rfl

theorem map_fst_zip_eq_take {α β : Type} (as : List α) (bs : List β) :
    (as.zip bs).map (·.1) = as.take bs.length := by
  induction bs generalizing as with
  | nil => simp
  | cons b bs ih =>
    cases as with
    | nil => rfl
    | cons a as => rw [List.zip_cons_cons, List.map_cons, ih, List.length_cons, List.take_succ_cons]

theorem map_fst_passed (doc : FunctionDoc) (front : List Expr) (named : List (String × Expr)) :
    (passed doc front named).map (·.1) =
      (firstNames doc front.length).map Slot.plain ++ named.map (·.1) := by
  rw [passed, List.map_append, map_fst_zip_eq_take, firstNames, List.map_map, ← List.map_take]
  rfl

theorem map_snd_passed (hl : front.length ≤ doc.parameters.length) :
    (passed doc front named).map (·.2) = (grouped front named).map (·.2) := by
  have hsnd : ((doc.parameters.map (·.name.plain)).zip front).map (·.2) = front :=
    List.map_snd_zip (by rwa [List.length_map])
  rw [passed, List.map_append, hsnd]
  simp [grouped, Function.comp_def]

theorem designated_grouped (hl : front.length ≤ doc.parameters.length) :
    (grouped front named).mapIdx (designation doc) =
      ((passed doc front named).map (·.1)).map some := by
  rw [mapIdx_designation hl, map_fst_passed]

/-! ## Checked arguments -/

theorem checkEach_positional {positional : Nat}
    (h : positional + front.length ≤ doc.parameters.length)
    (rest : List (Option String × Expr)) :
    checkEach doc positional [] (front.map (none, ·) ++ rest) =
      checkEach doc (positional + front.length) [] rest := by
  induction front generalizing positional with
  | nil => rfl
  | cons e front ih =>
    rw [List.length_cons] at h ⊢
    have hlt : ¬ doc.parameters.length ≤ positional := by omega
    have hlen : positional + 1 + front.length = positional + (front.length + 1) := by omega
    rw [List.map_cons, List.cons_append, checkEach, if_neg (by simp), if_neg hlt,
      ih (hlen ▸ h), hlen]

theorem checkEach_named {positional : Nat} {seen : List String}
    (hdeclared : ∀ x ∈ named, (doc.parameter? x.1).isSome)
    (hfresh : ∀ x ∈ named, namesHave (firstNames doc positional) x.1 = false)
    (hnodup : (seen ++ named.map (·.1)).Nodup) :
    checkEach doc positional seen (named.map fun x => (some x.1, x.2)) =
      .ok (positional, seen ++ named.map (·.1)) := by
  induction named generalizing seen with
  | nil => rw [List.map_nil, checkEach, List.map_nil, List.append_nil]
  | cons x named ih =>
    obtain ⟨hx, hdeclared⟩ := List.forall_mem_cons.mp hdeclared
    obtain ⟨hfx, hfresh⟩ := List.forall_mem_cons.mp hfresh
    have hassoc : seen ++ (x :: named).map (·.1) = (seen ++ [x.1]) ++ named.map (·.1) := by simp
    have hnew : seen.contains x.1 = false := by
      rw [List.contains_eq_mem, decide_eq_false_iff_not]
      exact fun hm => (List.nodup_append.mp hnodup).2.2 _ hm _ List.mem_cons_self rfl
    have hnone : (doc.parameter? x.1).isNone = false := Option.isNone_eq_false_iff.mpr hx
    rw [hassoc] at hnodup ⊢
    rw [List.map_cons, checkEach]
    simp only [hnone, hnew, hfx, Bool.or_self, Bool.false_eq_true, if_false]
    exact ih hdeclared hfresh hnodup

/-- The names of arguments of which the positional ones come first. -/
theorem Fits.names_eq (h : Fits doc (grouped front named) names)
    (hl : front.length ≤ doc.parameters.length) :
    names = (passed doc front named).map (·.1) := by
  have hn := (designated_grouped hl).symm.trans h.designated
  exact (List.map_injective_iff.mpr (fun _ _ => Option.some.inj) hn).symm

theorem FunctionDoc.HasDistinctNames.text_mem (hd : doc.HasDistinctNames) {count : Nat}
    {name : String} (h : name ∈ (firstNames doc count).map Slot.plain) :
    Slot.text name ∈ firstNames doc count := by
  obtain ⟨slot, hs, rfl⟩ := List.mem_map.mp h
  obtain ⟨p, hp, rfl⟩ := List.mem_map.mp hs
  rwa [← hd.texts p (List.mem_of_mem_take hp)]

/-- Arguments of which the positional ones come first are checked when they fit. -/
theorem Fits.checkArguments_eq (h : Fits doc (grouped front named) names)
    (hd : doc.HasDistinctNames) (hl : front.length ≤ doc.parameters.length) :
    checkArguments doc (grouped front named) = .ok () := by
  have hn := h.names_eq hl
  rw [map_fst_passed] at hn
  subst hn
  obtain ⟨-, hnodup, hdisjoint⟩ := List.nodup_append.mp (h.nodup hd)
  have hdeclared : ∀ x ∈ named, (doc.parameter? x.1).isSome := by
    intro x hx
    obtain ⟨p, hp, hpn⟩ := h.declared x.1 (List.mem_append_right _ (List.mem_map_of_mem hx))
    refine List.find?_isSome.mpr ⟨p, hp, ?_⟩
    rw [hd.texts p hp, hpn]
    exact decide_eq_true rfl
  have hfresh : ∀ x ∈ named, namesHave (firstNames doc front.length) x.1 = false := by
    intro x hx
    rw [Bool.eq_false_iff, ne_eq, namesHave_iff]
    intro hm
    have hm := List.mem_map_of_mem (f := Slot.plain) hm
    exact hdisjoint x.1 hm x.1 (List.mem_map_of_mem hx) rfl
  have heach : checkEach doc 0 [] (grouped front named) =
      .ok (front.length, named.map (·.1)) := by
    rw [grouped, checkEach_positional (by rwa [Nat.zero_add]), Nat.zero_add,
      checkEach_named hdeclared hfresh hnodup, List.nil_append]
  have hbound : ∀ p ∈ doc.requiredParameters, ∃ name, p.name = .text name ∧
      (name ∈ named.map (·.1) ∨ Slot.text name ∈ firstNames doc front.length) := by
    intro p hp
    refine ⟨_, hd.texts p (List.mem_of_mem_filter hp), ?_⟩
    exact (List.mem_append.mp (h.required p hp)).symm.imp_right hd.text_mem
  rw [checkArguments, heach]
  simp only [bind, Except.bind]
  split
  next p hp =>
    obtain ⟨name, hn, hb⟩ := hbound p (List.mem_of_find?_eq_some hp)
    have hp := List.find?_some hp
    rw [← namesHave_iff, ← List.contains_iff_mem, ← Bool.or_eq_true] at hb
    simp only [hn, Slot.text?, hb, Bool.not_true] at hp
    cases hp
  next => rfl

/-- Arguments of which the positional ones come first are checked just when they fit. -/
theorem checkArguments_grouped (hd : doc.HasDistinctNames)
    (hl : front.length ≤ doc.parameters.length) :
    checkArguments doc (grouped front named) = .ok () ↔
      ∃ names, Fits doc (grouped front named) names := by
  refine ⟨checkArguments_fits, ?_⟩
  rintro ⟨names, h⟩
  exact h.checkArguments_eq hd hl

theorem Fits.perm (h : Fits doc arguments names) (hp : names'.Perm names)
    (hn : arguments'.mapIdx (designation doc) = names'.map some) : Fits doc arguments' names' :=
  ⟨hn, fun name hm => h.declared name (hp.mem_iff.mp hm),
    fun p hm => hp.mem_iff.mpr (h.required p hm), fun hd => hp.nodup_iff.mpr (h.nodup hd)⟩

/-! ## Arguments passed in another way -/

/-- The expression that a call gives to a name: the last one that is bound under it. -/
def suppliedTo (doc : FunctionDoc) (arguments : List (Option String × Expr)) (name : String) :
    Option Expr :=
  (arguments.mapIdx fun place x => (designation doc place x, x.2)).reverse.lookup (some name)

/-- Positional arguments `back` behind `front` become named, each with the name of the parameter at
its place, and stand among the named ones in any order. -/
structure Regroups (doc : FunctionDoc) (front back : List Expr)
    (named named' : List (String × Expr)) : Prop where
  inRange : (front ++ back).length ≤ doc.parameters.length
  perm : named'.Perm
    (((doc.parameters.drop front.length).map (·.name.plain)).zip back ++ named)

/-- The second arguments are the first ones passed in another way: of the positional ones, which
come first, some at the end are named in the second, and the named ones may stand in another order.
Both give the same expression to the same name. -/
structure Repasses (doc : FunctionDoc) (arguments arguments' : List (Option String × Expr)) :
    Prop where
  regrouped : ∃ front back named named', arguments = grouped (front ++ back) named ∧
    arguments' = grouped front named' ∧ Regroups doc front back named named'
  supplied : ∀ name, suppliedTo doc arguments name = suppliedTo doc arguments' name

theorem lookup_map_some {α : Type} (table : List (String × α)) (name : String) :
    (table.map fun x => (some x.1, x.2)).lookup (some name) = table.lookup name := by
  induction table with
  | nil => rfl
  | cons x table ih =>
    rw [List.map_cons, List.lookup_cons, List.lookup_cons, ih]
    rfl

/-- Where all arguments have names, the expression supplied to a name is the last one beside it. -/
theorem suppliedTo_eq (h : arguments.mapIdx (designation doc) = names.map some) (name : String) :
    suppliedTo doc arguments name = (names.zip (arguments.map (·.2))).reverse.lookup name := by
  have hzip : (arguments.mapIdx fun place x => (designation doc place x, x.2)) =
      (arguments.mapIdx (designation doc)).zip (arguments.map (·.2)) :=
    List.ext_getElem (by simp) fun i hi hi' => by simp
  have hsome : (names.map some).zip (arguments.map (·.2)) =
      (names.zip (arguments.map (·.2))).map fun x => (some x.1, x.2) := List.zip_map_left
  rw [suppliedTo, hzip, h, hsome, ← List.map_reverse, lookup_map_some]

theorem suppliedTo_grouped (hl : front.length ≤ doc.parameters.length) (name : String) :
    suppliedTo doc (grouped front named) name = (passed doc front named).reverse.lookup name := by
  rw [suppliedTo_eq (designated_grouped hl), ← map_snd_passed hl, List.zip_map', List.map_id']

namespace Regroups

variable (h : Regroups doc front back named named')
include h

theorem inRange_front : front.length ≤ doc.parameters.length := by
  have := h.inRange
  rw [List.length_append] at this
  omega

/-- Regrouped arguments pass the same expressions under the same names. -/
theorem passed_perm : (passed doc front named').Perm (passed doc (front ++ back) named) := by
  have hp := h.perm
  rw [List.map_drop] at hp
  rw [passed, passed, zip_append_right, List.append_assoc]
  exact hp.append_left _

/-- Where no name stands twice, arguments are passed in another way when they are regrouped. -/
theorem repasses (hn : ((passed doc (front ++ back) named).map (·.1)).Nodup) :
    Repasses doc (grouped (front ++ back) named) (grouped front named') := by
  refine ⟨⟨front, back, named, named', rfl, rfl, h⟩, fun name => ?_⟩
  rw [suppliedTo_grouped h.inRange, suppliedTo_grouped h.inRange_front]
  have hperm : (passed doc (front ++ back) named).reverse.Perm (passed doc front named').reverse :=
    ((List.reverse_perm _).trans h.passed_perm.symm).trans (List.reverse_perm _).symm
  refine lookup_eq_of_perm ?_ hperm name
  rwa [List.map_reverse, List.nodup_reverse]

end Regroups

namespace Repasses

variable (h : Repasses doc arguments arguments')
include h

/-- Of arguments that are passed in two ways, both are checked or none are. -/
theorem checkArguments_iff (hd : doc.HasDistinctNames) :
    checkArguments doc arguments = .ok () ↔ checkArguments doc arguments' = .ok () := by
  obtain ⟨front, back, named, named', rfl, rfl, hg⟩ := h.regrouped
  have hp := hg.passed_perm.map (·.1)
  rw [checkArguments_grouped hd hg.inRange, checkArguments_grouped hd hg.inRange_front]
  constructor
  · rintro ⟨names, hf⟩
    obtain rfl := hf.names_eq hg.inRange
    exact ⟨_, hf.perm hp (designated_grouped hg.inRange_front)⟩
  · rintro ⟨names, hf⟩
    obtain rfl := hf.names_eq hg.inRange_front
    exact ⟨_, hf.perm hp.symm (designated_grouped hg.inRange)⟩

/-- Every argument of both ways has a name. -/
theorem exists_names :
    (∃ names : List String, arguments.mapIdx (designation doc) = names.map some) ∧
      ∃ names : List String, arguments'.mapIdx (designation doc) = names.map some := by
  obtain ⟨front, back, named, named', rfl, rfl, hg⟩ := h.regrouped
  exact ⟨⟨_, designated_grouped hg.inRange⟩, _, designated_grouped hg.inRange_front⟩

theorem mem_expressions_iff (e : Expr) : e ∈ arguments'.map (·.2) ↔ e ∈ arguments.map (·.2) := by
  obtain ⟨front, back, named, named', rfl, rfl, hg⟩ := h.regrouped
  rw [← map_snd_passed hg.inRange, ← map_snd_passed hg.inRange_front]
  exact (hg.passed_perm.map (·.2)).mem_iff

end Repasses

/-! ## Compiled calls -/

variable {r : Registry} {name : String} {mayFail : Bool} {span : Span}

/-- A call compiles when it is checked and so are all calls in its arguments. -/
theorem compile_call_eq_ok : compile r [.expr (.call name arguments mayFail span)] = .ok () ↔
    checkCall r ⟨name, arguments, mayFail, span⟩ = .ok () ∧
      ∀ e ∈ arguments.map (·.2), e.IsChecked r := by
  rw [compile_eq_ok, Program.calls, List.flatMap_singleton, Statement.calls, Expr.calls,
    List.forall_mem_cons, callsOfArguments_eq]
  simp only [List.mem_flatMap, Expr.IsChecked]
  refine and_congr_right fun _ => ⟨fun h e he c hc => h c ⟨e, he, hc⟩, ?_⟩
  rintro h c ⟨e, he, hc⟩
  exact h e he c hc

theorem compile_repassed_iff (hd : ∀ entry ∈ r.entries, entry.doc.HasDistinctNames)
    (h : ∀ entry, r.find? name = some entry → Repasses entry.doc arguments arguments') :
    compile r [.expr (.call name arguments mayFail span)] = .ok () ↔
      compile r [.expr (.call name arguments' mayFail span)] = .ok () := by
  rw [compile_call_eq_ok, compile_call_eq_ok, checkCall, checkCall]
  cases hf : r.find? name with
  | none => exact iff_of_false (fun h => nomatch h.1) fun h => nomatch h.1
  | some entry =>
    have h := h entry hf
    have hd := hd entry (List.mem_of_find?_eq_some hf)
    simp only [h.mem_expressions_iff]
    refine and_congr_left fun _ => ?_
    have hc := h.checkArguments_iff hd
    cases hx : checkArguments entry.doc arguments with
    | ok u => rw [hc.mp hx]
    | error problem =>
      rw [hx] at hc
      cases hx' : checkArguments entry.doc arguments' with
      | ok u => exact nomatch hc.mpr hx'
      | error problem' => exact iff_of_false nofun nofun

/-! ## Bound arguments -/

namespace Arguments

/-- After binding one argument after another, a name has the last value that was bound under it. -/
theorem lookup_bindAll (names : List String) (ds : List Datum) (name : String) :
    (bindAll names ds []).lookup name = (names.zip ds).reverse.lookup name := by
  unfold bindAll
  induction names.zip ds using List.reverseRecOn with
  | nil => rfl
  | append_singleton table x ih =>
    rw [List.foldl_append, List.foldl_cons, List.foldl_nil, lookup_bind, ih,
      List.reverse_append, List.reverse_singleton, List.singleton_append, List.lookup_cons]
    split
    next h => rw [beq_iff_eq.mpr h]
    next h => rw [beq_false_of_ne h]

theorem nodup_bindAll (names : List String) (ds : List Datum) :
    ((bindAll names ds []).map (·.1)).Nodup := by
  unfold bindAll
  induction names.zip ds using List.reverseRecOn with
  | nil => exact List.nodup_nil
  | append_singleton table x ih =>
    rw [List.foldl_append]
    exact nodup_bind ih x.1 x.2

end Arguments

variable {scope : Scope} {m m' m₁ m₁' : Machine} {e : Expr} {d d' : Datum} {s s' : Store}

/-- A datum holds the value that an expression has where it is evaluated before all others. -/
def Expr.Gives (r : Registry) (scope : Scope) (m : Machine) (s : Store) (e : Expr) (d : Datum) :
    Prop :=
  ∃ d₀ m₀, evalExpr r scope e m = (.ok d₀, m₀) ∧ m₀.store.Alike s d₀ d

theorem Expr.Gives.alike (h : e.Gives r scope m s d) (h' : e.Gives r scope m s' d') :
    s.Alike s' d d' := by
  obtain ⟨d₀, m₀, he, ha⟩ := h
  obtain ⟨d₁, m₁, he', ha'⟩ := h'
  rw [he, Prod.mk.injEq, Except.ok.injEq] at he'
  obtain ⟨rfl, rfl⟩ := he'
  exact ha.symm.trans ha'

theorem Expr.Gives.grow (h : e.Gives r scope m s d) (hs : s.Grows s') :
    e.Gives r scope m s' d := by
  obtain ⟨d₀, m₀, he, ha⟩ := h
  exact ⟨d₀, m₀, he, ha.grow (.refl _) hs⟩

/-- Expressions that have values by themselves have the same ones after each other. -/
theorem evalItems_gives (hr : r.IsPure) (hscope : scope.Alike m.store m.store scope)
    {es : List Expr} (hes : ∀ e ∈ es, ∃ d m₁, evalExpr r scope e m = (.ok d, m₁))
    (hg : m.store.Grows m'.store) :
    ∃ ds m₁, evalItems r scope es m' = (.ok ds, m₁) ∧
      List.Forall₂ (Expr.Gives r scope m m₁.store) es ds := by
  induction es generalizing m' with
  | nil => exact ⟨[], m', by rw [evalItems]; rfl, .nil⟩
  | cons e es ih =>
    obtain ⟨⟨d₀, m₀, he⟩, hes⟩ := List.forall_mem_cons.mp hes
    obtain ⟨d, m₁, hd, hdd⟩ := (evalExpr_endAlike hr e (hscope.grow (.refl _) hg)).exists_ok he
    have hg₁ := (evalExpr_spares hr.spares e).grows hd
    obtain ⟨ds, m₂, hds, hgives⟩ := ih hes (hg.trans hg₁)
    have hg₂ := (evalItems_spares hr.spares es).grows hds
    have hfirst : e.Gives r scope m m₁.store d := ⟨d₀, m₀, he, hdd⟩
    refine ⟨d :: ds, m₂, ?_, .cons (hfirst.grow hg₂) hgives⟩
    rw [evalItems, Action.bind_of_ok hd, Action.bind_of_ok hds, Action.pure_run]

theorem forall₂_zip_of_forall₂ {α β γ : Type} {R : β → γ → Prop} {bs : List β} {cs : List γ}
    (h : List.Forall₂ R bs cs) (as : List α) :
    List.Forall₂ (fun x y => x.1 = y.1 ∧ R x.2 y.2) (as.zip bs) (as.zip cs) := by
  induction h generalizing as with
  | nil => rw [List.zip_nil_right, List.zip_nil_right]; exact .nil
  | cons hbc _ ih =>
    cases as with
    | nil => exact .nil
    | cons a as => exact .cons ⟨rfl, hbc⟩ (ih as)

/-- The arguments of a call are bound to the values of the expressions supplied. -/
theorem evalArguments_gives (hr : r.IsPure) (hscope : scope.Alike m.store m.store scope)
    (hn : arguments.mapIdx (designation doc) = names.map some)
    (he : ∀ e ∈ arguments.map (·.2), ∃ d m₁, evalExpr r scope e m = (.ok d, m₁)) :
    ∃ given m₁, evalArguments r scope doc 0 [] arguments m = (.ok given, m₁) ∧
      (given.map (·.1)).Nodup ∧ ∀ name, Option.Rel (Expr.Gives r scope m m₁.store)
        (suppliedTo doc arguments name) (given.lookup name) := by
  obtain ⟨ds, m₁, hds, hgives⟩ := evalItems_gives hr hscope he (.refl _)
  refine ⟨Arguments.bindAll names ds [], m₁, ?_, Arguments.nodup_bindAll names ds, fun name => ?_⟩
  · rw [evalArguments_eq [] (by simpa only [Nat.zero_add] using hn), Action.bind_of_ok hds,
      Action.pure_run]
  · rw [suppliedTo_eq hn, Arguments.lookup_bindAll]
    exact rel_lookup_of_forall₂ name
      (List.forall₂_reverse_iff.mpr (forall₂_zip_of_forall₂ hgives names))

/-! ## Calls with arguments passed in another way -/

/-- Calls that pass the same arguments in two ways end alike, when every argument has a value. -/
theorem evalExpr_repassed (hr : r.IsPure) (hscope : scope.Alike m.store m.store scope)
    (h : ∀ entry, r.find? name = some entry → Repasses entry.doc arguments arguments')
    (he : ∀ e ∈ arguments.map (·.2), ∃ d m₁, evalExpr r scope e m = (.ok d, m₁)) :
    EndAlike Store.Alike (evalExpr r scope (.call name arguments mayFail span) m)
      (evalExpr r scope (.call name arguments' mayFail span) m) := by
  rw [evalExpr, evalExpr]
  cases hf : r.find? name with
  | none =>
    simp only [entryOf, hf]
    exact .error _ m m
  | some entry =>
    have h := h entry hf
    obtain ⟨⟨names, hn⟩, names', hn'⟩ := h.exists_names
    have he' : ∀ e ∈ arguments'.map (·.2), ∃ d m₁, evalExpr r scope e m = (.ok d, m₁) :=
      fun e hm => he e ((h.mem_expressions_iff e).mp hm)
    obtain ⟨given, m₁, hg, hnodup, hgives⟩ := evalArguments_gives hr hscope hn he
    obtain ⟨given', m₁', hg', hnodup', hgives'⟩ := evalArguments_gives hr hscope hn' he'
    rw [entryOf_eq hf, pure_bind, pure_bind, Action.bind_of_ok hg, Action.bind_of_ok hg']
    refine callEntry_endAlike (hr entry (List.mem_of_find?_eq_some hf)) span
      ⟨fun name => ?_, hnodup, hnodup'⟩
    -- both values are those of the one expression that is supplied to the name
    have hv := hgives name
    have hv' := hgives' name
    rw [← h.supplied name] at hv'
    generalize given.lookup name = o at hv
    generalize given'.lookup name = o' at hv'
    generalize suppliedTo entry.doc arguments name = e at hv hv'
    cases hv with
    | none => cases hv'; exact .none
    | some hd =>
      cases hv' with
      | some hd' => exact .some (hd.alike hd')

/-- How arguments are passed does not matter. Where the parameters of each function have different
names and the evaluators are pure, two calls that pass the same arguments in two ways compile both
or not at all; and in every scope in which each argument has a value, both have values that are
alike, or end in one fault. Alike values are the same trees, where they are trees. -/
theorem repassed_calls_agree (hd : ∀ entry ∈ r.entries, entry.doc.HasDistinctNames)
    (hr : r.IsPure) (name : String) (mayFail : Bool) (span : Span)
    (h : ∀ entry, r.find? name = some entry → Repasses entry.doc arguments arguments') :
    (compile r [.expr (.call name arguments mayFail span)] = .ok () ↔
      compile r [.expr (.call name arguments' mayFail span)] = .ok ()) ∧
    ∀ (scope : Scope) (m : Machine), m.store.IsTyped → scope.IsTyped m.store →
      (∀ x ∈ arguments, ∃ d m', evalExpr r scope x.2 m = (.ok d, m')) →
      EndAlike Store.Alike (evalExpr r scope (.call name arguments mayFail span) m)
        (evalExpr r scope (.call name arguments' mayFail span) m) := by
  refine ⟨compile_repassed_iff hd h, fun scope m hs hscope he => ?_⟩
  refine evalExpr_repassed hr (hscope.alike_self hs) h fun e hm => ?_
  obtain ⟨x, hx, rfl⟩ := List.mem_map.mp hm
  exact he x hx

theorem pickRegistry_isPure : pickRegistry.IsPure := by
  refine List.forall_mem_singleton.mpr ⟨fun _ => Action.spares_pure _, fun a a' m m' h => ?_⟩
  exact .ok (getD_alike (h.alike "value") (Store.alike_scalar _ _ .null))

/-- The arguments of `pick([1], "last")`. -/
def pickInOrder : List (Option String × Expr) :=
  grouped ([] ++ [.array [.literal (.integer 1)], .literal (.string "last")]) []

/-- The arguments of `pick(mode: "last", value: [1])`. -/
def pickByName : List (Option String × Expr) :=
  grouped [] [("mode", .literal (.string "last")), ("value", .array [.literal (.integer 1)])]

theorem pick_repasses : Repasses pickDoc pickInOrder pickByName :=
  Regroups.repasses ⟨by decide, List.Perm.swap _ _ _⟩ (by decide)

theorem repassed_calls_agree_pick :
    compile pickRegistry [.expr (.call "pick" pickByName false ⟨0, 28⟩)] = .ok () ∧
      EndAlike Store.Alike
        (evalExpr pickRegistry ⟨.scalar .null, []⟩ (.call "pick" pickInOrder false ⟨0, 28⟩) {})
        (evalExpr pickRegistry ⟨.scalar .null, []⟩ (.call "pick" pickByName false ⟨0, 28⟩) {}) := by
  have hrepasses : ∀ entry, pickRegistry.find? "pick" = some entry →
      Repasses entry.doc pickInOrder pickByName := by
    intro entry he
    cases he
    exact pick_repasses
  have hnames : ∀ entry ∈ pickRegistry.entries, entry.doc.HasDistinctNames :=
    List.forall_mem_singleton.mpr pickDoc_hasDistinctNames
  obtain ⟨hcompile, hrun⟩ :=
    repassed_calls_agree hnames pickRegistry_isPure "pick" false ⟨0, 28⟩ hrepasses
  refine ⟨hcompile.mp rfl, hrun ⟨.scalar .null, []⟩ {} Store.isTyped_empty ⟨trivial, nofun⟩ ?_⟩
  exact List.forall_mem_cons.mpr ⟨⟨_, _, rfl⟩, List.forall_mem_singleton.mpr ⟨_, _, rfl⟩⟩

end FunctionManual
