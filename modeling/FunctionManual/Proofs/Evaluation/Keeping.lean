import FunctionManual.Proofs.Evaluation.Admission

/-!
# Runs keep the store sound

* `Action.Keeps`: an action that leads to a sound store and loses no container.
* `Registry.IsSafe`: regular docs, and evaluators that keep the store sound.
* `evalExpr_keeps`, `runStatement_keeps`: evaluation keeps the store sound.
* `Reaches.isSound`: whatever a run comes to, it comes to with a sound store.
* `Entrance.meets`: the arguments with which a run enters an evaluator meet its doc.
-/

namespace FunctionManual

variable {c : Material} {α β : Type}

/-! ## Actions -/

/-- An action leads to a sound store that has lost no container, and its result is as wanted. -/
structure Action.Keeps (c : Material) (good : α → Store → Prop) (a : Action α) (m : Machine) :
    Prop where
  evolves : m.store.Evolves c (a m).2.store
  result : ∀ x, (a m).1 = .ok x → good x (a m).2.store

namespace Action

variable {good : α → Store → Prop} {good' : β → Store → Prop} {a : Action α} {m : Machine}

/-- An action that succeeds leads to a sound store with a result as wanted. -/
theorem Keeps.of_eq {x : α} {m' : Machine} (h : a.Keeps c good m) (ha : a m = (.ok x, m')) :
    m.store.Evolves c m'.store ∧ good x m'.store := by
  obtain ⟨he, hr⟩ := h
  rw [ha] at he hr
  exact ⟨he, hr x rfl⟩

theorem Keeps.bind {k : α → Action β} (ha : a.Keeps c good m)
    (hk : ∀ x m', a m = (.ok x, m') → m.store.Evolves c m'.store → good x m'.store →
      (k x).Keeps c good' m') : (a >>= k).Keeps c good' m := by
  rcases hx : a m with ⟨f | x, m'⟩
  · refine ⟨?_, fun y hy => ?_⟩
    · rw [bind_of_error hx]
      have he := ha.evolves
      rwa [hx] at he
    · rw [bind_of_error hx] at hy
      cases hy
  · obtain ⟨he, hg⟩ := ha.of_eq hx
    have h := hk x m' hx he hg
    refine ⟨?_, fun y hy => ?_⟩
    · rw [bind_of_ok hx]
      exact he.trans h.evolves
    · rw [bind_of_ok hx] at hy ⊢
      exact h.result y hy

theorem keeps_pure {x : α} (hs : m.store.IsSound c) (hx : good x m.store) :
    (pure x : Action α).Keeps c good m := by
  refine ⟨.refl hs, fun y hy => ?_⟩
  cases hy
  exact hx

theorem keeps_look {f : Store → α} (hs : m.store.IsSound c) (hx : good (f m.store) m.store) :
    (look f).Keeps c good m := by
  refine ⟨.refl hs, fun y hy => ?_⟩
  cases hy
  exact hx

theorem keeps_fail {f : Fault} (hs : m.store.IsSound c) : (fail f : Action α).Keeps c good m :=
  ⟨.refl hs, nofun⟩

theorem keeps_ofExcept {r : Except Fault α} (hs : m.store.IsSound c)
    (hr : ∀ x, r = .ok x → good x m.store) : (ofExcept r).Keeps c good m :=
  ⟨.refl hs, hr⟩

theorem keeps_change {f : Store → α × Store} (he : m.store.Evolves c (f m.store).2)
    (hx : good (f m.store).1 (f m.store).2) : (change f).Keeps c good m := by
  refine ⟨he, fun y hy => ?_⟩
  cases hy
  exact hx

theorem Keeps.mapExpressionError {g : ExpressionError → ExpressionError} (h : a.Keeps c good m) :
    (mapExpressionError g a).Keeps c good m := by
  have hm : (a.mapExpressionError g m).2 = (a m).2 := by
    unfold Action.mapExpressionError
    split
    next hx => rw [hx]
    next => rfl
  refine ⟨hm ▸ h.evolves, fun x hx => ?_⟩
  rw [hm]
  have hok : (a.mapExpressionError g m) = (.ok x, (a m).2) := Prod.ext hx hm
  exact h.result x (congrArg Prod.fst (mapExpressionError_eq_ok hok))

end Action

/-- A datum is sound. -/
abbrev SoundDatum (c : Material) (d : Datum) (s : Store) : Prop := d.IsSound c s

theorem Store.keeps_addArray {m : Machine} {ds : List Datum} (hs : m.store.IsSound c)
    (hd : ∀ d ∈ ds, d.IsSound c m.store) :
    (Action.change fun s => s.addArray ds).Keeps c (SoundDatum c) m :=
  Action.keeps_change (Store.evolves_add hs hd) (Store.addArray_isSound _ _)

theorem Store.keeps_addObject {m : Machine} {ms : Members Datum} (hs : m.store.IsSound c)
    (hm : ∀ x ∈ ms, c.key x.1 ∧ x.2.IsSound c m.store) :
    (Action.change fun s => s.addObject ms).Keeps c (SoundDatum c) m :=
  Action.keeps_change (Store.evolves_add hs hm) (Store.addObject_isSound _ _)

theorem Action.keeps_load {m : Machine} {v : Value} (hs : m.store.IsSound c)
    (hv : v.IsMadeOf c) : (Action.load v).Keeps c (SoundDatum c) m :=
  let ⟨he, hd⟩ := Store.load_evolves hs hv
  keeps_change he hd

/-! ## Paths -/

/-- The event and the variables are sound. -/
structure Scope.IsSound (c : Material) (s : Store) (scope : Scope) : Prop where
  event : scope.event.IsSound c s
  assigned : scope.assigned.IsSound c s

theorem Scope.IsSound.mono {s s' : Store} {scope : Scope} (h : scope.IsSound c s)
    (hs : s.cells.size ≤ s'.cells.size) : scope.IsSound c s' :=
  ⟨h.event.mono hs, h.assigned.mono hs⟩

theorem readPath_isSound {s : Store} (hs : s.IsSound c) {d : Datum} (hd : d.IsSound c s)
    (names : List String) : (readPath s d names).IsSound c s := by
  induction names generalizing d with
  | nil => exact hd
  | cons name names ih =>
    cases d with
    | scalar _ | array _ => exact c.scalar_null
    | object a =>
      rw [readPath]
      refine ih ?_
      cases hf : (s.members a).find? (.text name) with
      | none => exact c.scalar_null
      | some d =>
        obtain ⟨k, hk⟩ := Members.mem_of_find? hf
        exact (hs.members a _ hk).2

theorem Cell.isSound_nil (c : Material) (s : Store) : (Cell.object []).IsSound c s :=
  fun _ h => nomatch h

theorem writePath_evolves {value : Datum} (names : List String) (a : Nat) {s : Store}
    (hs : s.IsSound c) (hv : value.IsSound c s) : s.Evolves c (writePath value a names s) := by
  induction names generalizing a s with
  | nil => exact .refl hs
  | cons name rest ih =>
    cases rest with
    | nil => exact Store.evolves_write hs a (c.key_text name) hv
    | cons next rest =>
      rw [writePath]
      split
      · exact ih _ hs hv
      -- what is missing on the way is added and written under its name before the path goes on
      · have hadd := Store.evolves_add hs (Cell.isSound_nil c s)
        have hchild : (Datum.object (s.add (.object [])).1).IsSound c (s.add (.object [])).2 :=
          Store.addObject_isSound s []
        have hwrite := Store.evolves_write hadd.sound a (c.key_text name) hchild
        have he := hadd.trans hwrite
        exact he.trans (ih _ hwrite.sound (hv.mono he.kept))
      · nofun

theorem assignPath_keeps {m : Machine} {scope : Scope} {names : List String} {value : Datum}
    (hs : m.store.IsSound c) (hscope : scope.IsSound c m.store) (hv : value.IsSound c m.store) :
    (assignPath scope names value).Keeps c (fun scope s => scope.IsSound c s) m := by
  unfold assignPath
  split
  · exact Action.keeps_pure hs ⟨hv, hscope.assigned⟩
  · cases he : scope.event with
    | object a =>
      have h := writePath_evolves names a hs hv
      exact Action.keeps_change h (hscope.mono h.kept)
    | scalar _ | array _ =>
      have hadd := Store.evolves_add hs (Cell.isSound_nil c m.store)
      have hwrite := writePath_evolves names (m.store.add (.object [])).1 hadd.sound
        (hv.mono hadd.kept)
      have hevent := (Store.addObject_isSound (c := c) m.store []).mono hwrite.kept
      have h := hadd.trans hwrite
      exact Action.keeps_change h ⟨hevent, hscope.assigned.mono h.kept⟩

/-! ## Calls -/

/-- The evaluator of a function keeps the store sound when its arguments are sound and meet the
doc. -/
def Entry.IsSafe (c : Material) (entry : Entry) : Prop :=
  ∀ (bound : Arguments) (m : Machine), m.store.IsSound c → bound.IsSound c m.store →
    bound.Meet m.store entry.doc → (entry.evaluator bound).Keeps c (SoundDatum c) m

/-- The docs of a registry are regular with allowed defaults, and its evaluators are safe. -/
structure Registry.IsSafe (c : Material) (r : Registry) : Prop where
  docs : ∀ entry ∈ r.entries, entry.doc.IsRegular
  defaults : ∀ entry ∈ r.entries, ∀ p ∈ entry.doc.parameters, p.default.IsMadeOf c
  evaluators : ∀ entry ∈ r.entries, entry.IsSafe c

theorem Registry.mem_of_find? {r : Registry} {name : String} {entry : Entry}
    (h : r.find? name = some entry) : entry ∈ r.entries :=
  List.mem_of_find?_eq_some h

theorem bindParameters_keeps {parameters : List Parameter} {given : Arguments} {m : Machine}
    (hs : m.store.IsSound c) (hg : given.IsSound c m.store)
    (hd : ∀ p ∈ parameters, p.default.IsMadeOf c) :
    (bindParameters parameters given).Keeps c (fun a s => a.IsSound c s) m := by
  induction parameters generalizing given m with
  | nil => exact Action.keeps_pure hs hg
  | cons p rest ih =>
    obtain ⟨hp, hrest⟩ := List.forall_mem_cons.mp hd
    rw [bindParameters]
    cases hl : given.lookup p.name.plain with
    | some d =>
      have hlook : (Action.look fun s => checkValue s p d).Keeps c (fun _ _ => True) m :=
        Action.keeps_look hs trivial
      refine hlook.bind fun checked m₁ _ h₁ _ => ?_
      have hcheck : (Action.ofExcept checked).Keeps c (fun _ _ => True) m₁ :=
        Action.keeps_ofExcept h₁.sound fun _ _ => trivial
      refine hcheck.bind fun u m₂ _ h₂ _ => ?_
      exact ih h₂.sound (hg.mono (h₁.trans h₂).kept) hrest
    | none =>
      simp only
      split
      · exact ih hs hg hrest
      · refine .bind (Action.keeps_load hs hp) fun d m₁ _ h₁ hd₁ => ?_
        refine ih h₁.sound (List.forall_mem_append.mpr ⟨hg.mono h₁.kept, ?_⟩) hrest
        exact List.forall_mem_singleton.mpr hd₁

theorem Arguments.isSound_zip {s : Store} {names : List String} {ds : List Datum}
    (h : ∀ d ∈ ds, d.IsSound c s) : Arguments.IsSound c s (names.zip ds) :=
  fun _ hb => h _ (List.of_mem_zip hb).2

/-- The arguments of a checked call, bound to the parameters of a regular doc, meet it. -/
theorem Fits.meet {doc : FunctionDoc} {arguments : List (Option String × Expr)}
    {names : List String} {ds : List Datum} {bound : Arguments} {m m' : Machine}
    (hn : Fits doc arguments names) (hd : doc.IsRegular) (hs : m.store.IsSound c)
    (hds : ∀ d ∈ ds, d.IsSound c m.store) (hlen : names.length = ds.length)
    (h : bindParameters doc.parameters (names.zip ds) m = (.ok bound, m')) :
    bound.Meet m'.store doc := by
  have hnodup : ((names.zip ds).map (·.1)).Nodup := by
    rw [List.map_fst_zip (Nat.le_of_eq hlen)]
    exact hn.nodup hd.names
  obtain ⟨added, rfl, hsup⟩ := bindParameters_eq_ok h
  refine ⟨hsup.nodup_append hnodup, ?_, fun p hp hreq => ?_⟩
  · refine hsup.admitted hd hs (Arguments.isSound_zip hds) hnodup fun b hb => ?_
    obtain ⟨p, hp, hpn⟩ := hn.declared b.1 (List.of_mem_zip hb).1
    exact ⟨p, hp, hpn ▸ hd.names.texts p hp⟩
  · obtain ⟨d, hm⟩ := hn.exists_value hlen hp hreq
    exact ⟨d, List.mem_append_left _ hm⟩

theorem callEntry_keeps {r : Registry} (hr : r.IsSafe c) {entry : Entry} (he : entry ∈ r.entries)
    {arguments : List (Option String × Expr)} {names : List String} {ds : List Datum}
    (hn : Fits entry.doc arguments names) (span : Span) {m : Machine} (hs : m.store.IsSound c)
    (hds : ∀ d ∈ ds, d.IsSound c m.store) (hlen : names.length = ds.length) :
    (callEntry entry span (names.zip ds)).Keeps c (SoundDatum c) m := by
  refine Action.Keeps.mapExpressionError ?_
  refine .bind (bindParameters_keeps hs (Arguments.isSound_zip hds) (hr.defaults entry he))
    fun bound m' hb h hbound => ?_
  exact hr.evaluators entry he bound m' h.sound hbound (hn.meet (hr.docs entry he) hs hds hlen hb)

/-! ## Expressions -/

/-- The literals of an expression are allowed. -/
inductive Expr.IsMadeOf (c : Material) : Expr → Prop
  | mk {e : Expr} (hl : ∀ v, e = .literal v → c.scalar v) (h : ∀ x ∈ e.parts, x.IsMadeOf c) :
      IsMadeOf c e

theorem Expr.IsMadeOf.literal {v : Scalar} (h : (Expr.literal v).IsMadeOf c) : c.scalar v := by
  obtain ⟨hl, -⟩ := h
  exact hl v rfl

theorem Expr.IsMadeOf.part {e x : Expr} (h : e.IsMadeOf c) (hx : x ∈ e.parts) : x.IsMadeOf c := by
  obtain ⟨-, hp⟩ := h
  exact hp x hx

section

variable {r : Registry} {scope : Scope} {m : Machine} {e : Expr}

/-- Finishing an expression keeps the store sound when the values of its parts are sound. -/
theorem finish_keeps (hr : r.IsSafe c) (he : e.IsChecked r) (hl : e.IsMadeOf c)
    (hs : m.store.IsSound c) (hscope : scope.IsSound c m.store) {ds : List Datum}
    (hds : ∀ d ∈ ds, d.IsSound c m.store) (hlen : ds.length = e.parts.length) :
    (e.finish r scope ds).Keeps c (SoundDatum c) m := by
  cases e with
  | literal v => exact Action.keeps_pure hs hl.literal
  | array items => exact Store.keeps_addArray hs hds
  | object entries =>
    refine Store.keeps_addObject hs (Members.forall_ofList fun x hx => ?_)
    obtain ⟨hk, hd⟩ := List.of_mem_zip hx
    obtain ⟨y, -, hy⟩ := List.mem_map.mp hk
    exact ⟨hy ▸ c.key_text y.1, hds _ hd⟩
  | «variable» name span =>
    rw [Expr.finish, readVariable]
    cases hv : scope.assigned.lookup name with
    | none => exact Action.keeps_fail hs
    | some d => exact Action.keeps_pure hs (hscope.assigned _ (mem_of_lookup_eq_some hv))
  | path names =>
    have hd : SoundDatum c (readPath m.store scope.event names) m.store :=
      readPath_isSound hs hscope.event names
    exact ⟨.refl hs, fun d hok => Except.ok.inj hok ▸ hd⟩
  | call name arguments mayFail span =>
    obtain ⟨entry, names, hf, hn⟩ := Expr.IsChecked.call (c := ⟨name, arguments, mayFail, span⟩) he
    have hmem := Registry.mem_of_find? hf
    have hnodup := hn.nodup (hr.docs entry hmem).names
    have hnames : names.length = ds.length := by
      have := congrArg List.length hn.designated
      simp only [List.length_mapIdx, List.length_map] at this
      rw [hlen, Expr.parts, List.length_map, this]
    have hall : Arguments.bindAll names ds [] = names.zip ds := by
      rw [Arguments.bindAll_eq (by rwa [List.map_nil, List.nil_append]), List.nil_append]
    rw [Expr.finish, entryOf_eq hf, pure_bind, hn.reduceOption_eq]
    show (callEntry entry span (Arguments.bindAll names ds [])).Keeps c (SoundDatum c) m
    rw [hall]
    exact callEntry_keeps hr hmem hn span hs hds hnames

theorem evalItems_keeps {es : List Expr} (hs : m.store.IsSound c)
    (hscope : scope.IsSound c m.store)
    (h : ∀ x ∈ es, ∀ m₁ : Machine, m₁.store.IsSound c → scope.IsSound c m₁.store →
      (evalExpr r scope x).Keeps c (SoundDatum c) m₁) :
    (evalItems r scope es).Keeps c (fun ds s => ∀ d ∈ ds, d.IsSound c s) m := by
  induction es generalizing m with
  | nil => exact Action.keeps_pure hs nofun
  | cons e es ih =>
    obtain ⟨he, hes⟩ := List.forall_mem_cons.mp h
    rw [evalItems]
    refine .bind (he m hs hscope) fun d m₁ _ h₁ hd => ?_
    refine .bind (ih h₁.sound (hscope.mono h₁.kept) hes) fun ds m₂ _ h₂ hds => ?_
    exact Action.keeps_pure h₂.sound (List.forall_mem_cons.mpr ⟨hd.mono h₂.kept, hds⟩)

/-- Evaluating a checked expression keeps the store sound. -/
theorem evalExpr_keeps (hr : r.IsSafe c) (he : e.IsChecked r) (hl : e.IsMadeOf c)
    (hs : m.store.IsSound c) (hscope : scope.IsSound c m.store) :
    (evalExpr r scope e).Keeps c (SoundDatum c) m := by
  induction e using Expr.induct generalizing m with
  | h e ih =>
  -- a checked expression has its parts evaluated and is finished; the parts keep by induction
  rw [evalExpr_eq he]
  refine .bind (evalItems_keeps hs hscope fun x hx m₁ hs₁ hscope₁ =>
    ih x hx (he.part hx) (hl.part hx) hs₁ hscope₁) fun ds m₁ hds h₁ hsound => ?_
  exact finish_keeps hr he hl h₁.sound (hscope.mono h₁.kept) hsound (length_of_evalItems hds)

/-! ## Runs -/

theorem Visits.isMadeOf {m' : Machine} {x : Expr} (h : Visits r scope m e m' x)
    (hl : e.IsMadeOf c) : x.IsMadeOf c := by
  induction h with
  | here => exact hl
  | part hp _ _ ih => exact ih (hl.part (mem_of_parts_eq hp))

theorem Visits.evolves {m' : Machine} {x : Expr} (h : Visits r scope m e m' x) (hr : r.IsSafe c)
    (he : e.IsChecked r) (hl : e.IsMadeOf c) (hs : m.store.IsSound c)
    (hscope : scope.IsSound c m.store) : m.store.Evolves c m'.store := by
  induction h with
  | here => exact .refl hs
  | @part m m₁ m' e x y before after ds hp hb _ ih =>
    have hx := mem_of_parts_eq hp
    -- what is evaluated before the part on the way keeps the store sound for it
    have hbefore : (evalItems r scope before).Keeps c (fun ds s => ∀ d ∈ ds, d.IsSound c s) m :=
      evalItems_keeps hs hscope fun z hz m₂ hs₂ hscope₂ =>
        have hz : z ∈ e.parts := hp ▸ List.mem_append_left _ hz
        evalExpr_keeps hr (he.part hz) (hl.part hz) hs₂ hscope₂
    obtain ⟨h₁, -⟩ := hbefore.of_eq hb
    exact h₁.trans (ih (he.part hx) (hl.part hx) h₁.sound (hscope.mono h₁.kept))

theorem runStatement_keeps {s : Statement} (hr : r.IsSafe c) (he : s.value.IsChecked r)
    (hl : s.value.IsMadeOf c) (hs : m.store.IsSound c) (hscope : scope.IsSound c m.store) :
    (runStatement r scope s).Keeps c (fun x s => x.1.IsSound c s ∧ x.2.IsSound c s) m := by
  cases s with
  | expr e =>
    refine .bind (evalExpr_keeps hr he hl hs hscope) fun d m₁ _ h₁ hd => ?_
    exact Action.keeps_pure h₁.sound ⟨hd, hscope.mono h₁.kept⟩
  | assign target e =>
    refine .bind (evalExpr_keeps hr he hl hs hscope) fun d m₁ _ h₁ hd => ?_
    have hscope₁ := hscope.mono h₁.kept
    cases target with
    | «variable» name span =>
      refine Action.keeps_pure h₁.sound ⟨hd, hscope₁.event, ?_⟩
      exact Arguments.IsSound.bind hscope₁.assigned hd
    | path names =>
      refine .bind (assignPath_keeps h₁.sound hscope₁ hd) fun scope' m₂ _ h₂ hscope₂ => ?_
      exact Action.keeps_pure h₂.sound ⟨hd.mono h₂.kept, hscope₂⟩

/-- The literals of a program are allowed. -/
def Program.IsMadeOf (c : Material) (p : Program) : Prop := ∀ s ∈ p, s.value.IsMadeOf c

theorem Reaches.isMadeOf {p : Program} {scope' : Scope} {m' : Machine} {x : Expr}
    (h : Reaches r p scope m scope' m' x) (hl : p.IsMadeOf c) : x.IsMadeOf c := by
  induction h with
  | visit h => exact h.isMadeOf (hl _ List.mem_cons_self)
  | later _ _ ih => exact ih fun s hs => hl s (List.mem_cons_of_mem _ hs)

/-- Whatever a run comes to, it comes to with a sound store and a sound scope. -/
theorem Reaches.isSound {p : Program} {scope' : Scope} {m' : Machine} {x : Expr}
    (h : Reaches r p scope m scope' m' x) (hr : r.IsSafe c) (hp : p.IsChecked r)
    (hl : p.IsMadeOf c) (hs : m.store.IsSound c) (hscope : scope.IsSound c m.store) :
    m'.store.IsSound c ∧ scope'.IsSound c m'.store := by
  induction h with
  | visit h =>
    have hv := h.evolves hr (hp _ List.mem_cons_self) (hl _ List.mem_cons_self) hs hscope
    exact ⟨hv.sound, hscope.mono hv.kept⟩
  | later hok _ ih =>
    have hk := runStatement_keeps hr (hp _ List.mem_cons_self) (hl _ List.mem_cons_self) hs hscope
    obtain ⟨h₁, -, hscope₁⟩ := hk.of_eq hok
    exact ih (fun s hm => hp s (List.mem_cons_of_mem _ hm))
      (fun s hm => hl s (List.mem_cons_of_mem _ hm)) h₁.sound hscope₁

end

/-! ## Calls that reach their evaluators -/

/-- A run comes to a function with a sound store and sound values under names that fit. -/
theorem Arrival.exists_sound {r : Registry} {p : Program} {scope : Scope} {m : Machine}
    (x : Arrival r p scope m) (hr : r.IsSafe c) (hp : p.IsChecked r) (hl : p.IsMadeOf c)
    (hs : m.store.IsSound c) (hscope : scope.IsSound c m.store) :
    ∃ names values, Fits x.entry.doc x.call.arguments names ∧ names.length = values.length ∧
      x.given = names.zip values ∧ x.evaluated.store.IsSound c ∧
      ∀ d ∈ values, d.IsSound c x.evaluated.store := by
  have hdoc := hr.docs _ (Registry.mem_of_find? x.registered)
  have hchecked := x.reached.isChecked hp
  have hliterals := x.reached.isMadeOf hl
  obtain ⟨hs₁, hscope₁⟩ := x.reached.isSound hr hp hl hs hscope
  obtain ⟨names, hn⟩ := x.fits hp
  obtain ⟨values, hv, hlen, hg⟩ := x.exists_values hn hdoc.names
  have hvalues := evalItems_keeps hs₁ hscope₁ fun y hy m₂ hs₂ hscope₂ =>
    evalExpr_keeps hr (hchecked.part hy) (hliterals.part hy) hs₂ hscope₂
  obtain ⟨he, hsound⟩ := hvalues.of_eq hv
  exact ⟨names, values, hn, hlen, hg, he.sound, hsound⟩

/-- A run enters an evaluator with a sound store and sound arguments that meet its doc. -/
theorem Entrance.meets {r : Registry} {p : Program} {scope : Scope} {m : Machine}
    (x : Entrance r p scope m) (hr : r.IsSafe c) (hp : p.IsChecked r) (hl : p.IsMadeOf c)
    (hs : m.store.IsSound c) (hscope : scope.IsSound c m.store) :
    x.machine.store.IsSound c ∧ x.bound.IsSound c x.machine.store ∧
      x.bound.Meet x.machine.store x.entry.doc := by
  have hmem := Registry.mem_of_find? x.registered
  obtain ⟨names, values, hn, hlen, hg, hs₁, hvalues⟩ := x.exists_sound hr hp hl hs hscope
  have hbind := x.admitted
  rw [hg] at hbind
  obtain ⟨he, hbound⟩ := (bindParameters_keeps hs₁ (Arguments.isSound_zip hvalues)
    (hr.defaults _ hmem)).of_eq hbind
  exact ⟨he.sound, hbound, hn.meet (hr.docs _ hmem) hs₁ hvalues hlen hbind⟩

end FunctionManual
