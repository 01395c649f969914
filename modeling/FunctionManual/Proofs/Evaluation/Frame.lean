import FunctionManual.Proofs.Evaluation.Visiting
import FunctionManual.Proofs.Standard.Sparing
import FunctionManual.Proofs.Store.Kinds

/-!
# What statements leave as it is

* `Store.Sets`: a later store, in which one member of one object was set.
* `writePath_sets`: a path is written where it leaves what exists.
* `Target.Assigns`: what an assignment may change.
* `statements_assign_one_place`: what each statement changes.
-/

namespace FunctionManual

variable {α : Type} {r : Registry} {scope : Scope}

/-! ## One member -/

namespace Members

/-- One member is set: in its place when there is one of that key, and behind all others when there
is none. The others keep their values and their order. -/
inductive Sets (key : Key) (value : α) : Members α → Members α → Prop
  | inPlace {before after : Members α} {k : Key} {old : α}
      (h : ∀ x ∈ before, x.1.same key = false) (hk : k.same key = true) :
      Sets key value (before ++ (k, old) :: after) (before ++ (k, value) :: after)
  | behind {ms : Members α} (h : ∀ x ∈ ms, x.1.same key = false) :
      Sets key value ms (ms ++ [(key, value)])

/-- A member of another key may stand in front. -/
theorem Sets.cons {key k : Key} {value v : α} {ms ms' : Members α} (h : Sets key value ms ms')
    (hk : k.same key = false) : Sets key value ((k, v) :: ms) ((k, v) :: ms') := by
  cases h with
  | inPlace hb hs => exact .inPlace (List.forall_mem_cons.mpr ⟨hk, hb⟩) hs
  | behind hm => exact .behind (List.forall_mem_cons.mpr ⟨hk, hm⟩)

theorem sets_insert (ms : Members α) (key : Key) (value : α) :
    Sets key value ms (ms.insert key value) := by
  induction ms with
  | nil => exact .behind (List.forall_mem_nil _)
  | cons x ms ih =>
    obtain ⟨k, old⟩ := x
    rw [insert]
    split
    next hk =>
      show Sets key value ([] ++ (k, old) :: ms) ([] ++ (k, value) :: ms)
      exact .inPlace (List.forall_mem_nil _) hk
    next hk => exact ih.cons (eq_false_of_ne_true hk)

end Members

namespace Store

variable {s s' s'' base : Store} {a : Nat} {key : Key} {d : Datum}

/-- A later store, in which one member of one object was set; what else was there is as it was. -/
structure Sets (a : Nat) (key : Key) (d : Datum) (s s' : Store) : Prop where
  object : ∃ ms ms', s.cells[a]? = some (.object ms) ∧ s'.cells[a]? = some (.object ms') ∧
    Members.Sets key d ms ms'
  others : ∀ (i : Nat) (cell : Cell), i ≠ a → s.cells[i]? = some cell →
    s'.cells[i]? = some cell

theorem Sets.trans_grows (h : s.Sets a key d s') (h' : s'.Grows s'') : s.Sets a key d s'' := by
  obtain ⟨⟨ms, ms', hm, hm', hs⟩, ho⟩ := h
  exact ⟨⟨ms, ms', hm, h' a _ hm', hs⟩, fun i cell hi hc => h' i cell (ho i cell hi hc)⟩

theorem sets_write (ha : s.kindAt? a = some .object) (key : Key) (d : Datum) :
    s.Sets a key d (s.write a key d) := by
  obtain ⟨ms, hm⟩ := kindAt?_eq_object.mp ha
  refine ⟨⟨ms, ms.insert key d, hm, ?_, Members.sets_insert ms key d⟩, fun i cell hi hc => ?_⟩
  · rw [write, Array.getElem?_setIfInBounds_self_of_lt (lt_of_kindAt? ha), members_eq hm]
  · rwa [write, Array.getElem?_setIfInBounds_ne hi.symm]

/-- Writing to a container that is new changes none that was there before. -/
theorem Grows.write (h : base.Grows s) (ha : base.cells.size ≤ a) (key : Key) (d : Datum) :
    base.Grows (s.write a key d) := by
  intro i cell hi
  have hlt := (Array.getElem?_eq_some_iff.mp hi).1
  rw [Store.write, Array.getElem?_setIfInBounds_ne (by omega)]
  exact h i cell hi

theorem getElem?_write_add (ha : a < s.cells.size) (cell : Cell) (key : Key) (d : Datum) :
    ((s.add cell).2.write a key d).cells[s.cells.size]? = some cell := by
  rw [write, Array.getElem?_setIfInBounds_ne (Nat.ne_of_lt ha)]
  exact Array.getElem?_push_size

/-- Before one member of an object is set, a container may be added. -/
theorem grows_write_add (ha : s.kindAt? a = some .object) (cell : Cell) (key : Key) (d : Datum) :
    (s.write a key d).Grows ((s.add cell).2.write a key d) := by
  have hlt := lt_of_kindAt? ha
  have hadd := s.grows_add cell
  have hmembers := hadd.members_eq hlt
  intro i old hi
  have hi' : i < s.cells.size := by
    rw [← s.size_write a key d]
    exact (Array.getElem?_eq_some_iff.mp hi).1
  by_cases h : a = i
  · subst h
    rw [write, Array.getElem?_setIfInBounds_self_of_lt hlt] at hi
    rw [write, Array.getElem?_setIfInBounds_self_of_lt (Nat.lt_of_lt_of_le hlt hadd.kept),
      hmembers, hi]
  · rw [write, Array.getElem?_setIfInBounds_ne h] at hi ⊢
    exact hadd i old hi

end Store

/-! ## Paths -/

section

variable {s base : Store} {value : Datum} {a : Nat}

/-- Below an object that is new and empty, everything that is written is new. -/
theorem writePath_grows (names : List String) (hg : base.Grows s) (ha : base.cells.size ≤ a)
    (hm : s.cells[a]? = some (.object [])) : base.Grows (writePath value a names s) := by
  induction names generalizing s a with
  | nil => exact hg
  | cons name rest ih =>
    cases rest with
    | nil => exact hg.write ha _ _
    | cons next rest =>
      have hlt := (Array.getElem?_eq_some_iff.mp hm).1
      have hnone : (s.members a).find? (.text name) = none := by rw [Store.members_eq hm]; rfl
      have hadd := hg.trans (s.grows_add (.object []))
      rw [writePath, hnone]
      · exact ih (hadd.write ha _ _) hg.kept (Store.getElem?_write_add hlt _ _ _)
      · nofun

/-- The names that lead on from an object are written where they leave what exists: some names lead
to an object, and there the next name is set, to the value when it is the last and else to an
object that is new. The objects on the way may be shared, and the way may come to one twice. -/
theorem writePath_sets (value : Datum) (hb : base.IsTyped) (hg : base.Grows s)
    (ha : base.kindAt? a = some .object) {names : List String} (hn : names ≠ []) :
    ∃ front name rest b, names = front ++ name :: rest ∧
      readPath s (.object a) front = .object b ∧
      s.Sets b (.text name) (if rest.isEmpty then value else .object s.cells.size)
        (writePath value a names s) := by
  induction names generalizing a with
  | nil => exact absurd rfl hn
  | cons name rest ih =>
    have ha' := hg.keepsKinds a _ ha
    cases rest with
    | nil => exact ⟨[], name, [], a, rfl, rfl, Store.sets_write ha' _ _⟩
    | cons next rest =>
      rw [writePath]
      · split
        next child hf =>
          -- the way goes on below an object that was there before, since the store is typed
          have hchild : base.kindAt? child = some .object := by
            rw [hg.members_eq (Store.lt_of_kindAt? ha)] at hf
            exact hb.find? hf
          obtain ⟨front, last, after, b, he, hr, hs⟩ := ih hchild (List.cons_ne_nil _ _)
          refine ⟨name :: front, last, after, b, by rw [he, List.cons_append], ?_, hs⟩
          rw [readPath, hf, Option.getD_some, hr]
        next =>
          -- here the way leaves what exists, and the rest of it is new
          refine ⟨[], name, next :: rest, a, rfl, rfl, ?_⟩
          have hset := Store.sets_write ha' (.text name) (.object s.cells.size)
          refine hset.trans_grows (writePath_grows _ (Store.grows_write_add ha' _ _ _) ?_ ?_)
          · exact Nat.le_of_eq (s.size_write a _ _)
          · exact Store.getElem?_write_add (Store.lt_of_kindAt? ha') _ _ _
      · nofun

end

/-! ## Statements -/

/-- What an assignment of a value changes: one variable, the root of the event, or one member of one
object. Containers that were not there before may hold anything. -/
inductive Target.Assigns (d : Datum) : Target → Scope → Store → Scope → Store → Prop
  | variable {name : String} {span : Span} {scope : Scope} {assigned : Arguments} {s : Store}
      (hname : assigned.lookup name = some d)
      (hothers : ∀ other, other ≠ name → assigned.lookup other = scope.assigned.lookup other) :
      Assigns d (.variable name span) scope s { scope with assigned } s
  | root {scope : Scope} {s : Store} :
      Assigns d (.path []) scope s { scope with event := d } s
  | rebuilt {names : List String} {scope : Scope} {s s' : Store} (hn : names ≠ [])
      (he : ∀ a, scope.event ≠ .object a) (h : s.Grows s') :
      Assigns d (.path names) scope s { scope with event := .object s.cells.size } s'
  | member {front rest : List String} {name : String} {scope : Scope} {s s' : Store} {a : Nat}
      (ha : readPath s scope.event front = .object a)
      (h : s.Sets a (.text name) (if rest.isEmpty then d else .object s.cells.size) s') :
      Assigns d (.path (front ++ name :: rest)) scope s scope s'

theorem assignPath_assigns {base : Store} {m m' : Machine} {names : List String} {d : Datum}
    {scope' : Scope} (hb : base.IsTyped) (he : scope.event.IsTyped base)
    (hg : base.Grows m.store) (h : assignPath scope names d m = (.ok scope', m')) :
    Target.Assigns d (.path names) scope m.store scope' m'.store := by
  unfold assignPath at h
  split at h
  · cases h
    exact .root
  next hn =>
    cases hev : scope.event with
    | object a =>
      rw [hev] at he h
      cases h
      obtain ⟨front, name, rest, b, rfl, hr, hs⟩ := writePath_sets d hb hg he hn
      exact .member (hev ▸ hr) hs
    | scalar _ | array _ =>
      rw [hev] at h
      cases h
      refine .rebuilt hn (fun a ha => by rw [hev] at ha; cases ha) ?_
      exact writePath_grows _ (m.store.grows_add _) (Nat.le_refl _) Array.getElem?_push_size

/-- Only assignments write, and each writes one place. Expressions change neither the scope nor a
container that exists, and when they fail the statement has not assigned anything. That addresses
have the kinds of their containers is so in every run (`runProgram_yields`); containers may be
shared and may hold themselves. -/
theorem statements_assign_one_place (hr : r.Spares) (scope : Scope) (m : Machine)
    (hs : m.store.IsTyped) (he : scope.event.IsTyped m.store) :
    (∀ e, m.store.Grows (evalExpr r scope e m).2.store) ∧
    (∀ s f m', runStatement r scope s m = (.error f, m') → m.store.Grows m'.store) ∧
    (∀ e d scope' m', runStatement r scope (.expr e) m = (.ok (d, scope'), m') →
      scope' = scope ∧ m.store.Grows m'.store) ∧
    ∀ target e d scope' m', runStatement r scope (.assign target e) m = (.ok (d, scope'), m') →
      ∃ m₁, evalExpr r scope e m = (.ok d, m₁) ∧ m.store.Grows m₁.store ∧
        target.Assigns d scope m₁.store scope' m'.store := by
  have hgrows : ∀ {e m₁ x}, evalExpr r scope e m = (x, m₁) → m.store.Grows m₁.store := by
    intro e m₁ x h
    have hm : m.store.Grows (evalExpr r scope e m).2.store := evalExpr_spares hr e m
    rwa [h] at hm
  refine ⟨fun e => evalExpr_spares hr e m, ?_, ?_, ?_⟩
  · intro s f m' h
    exact hgrows (runStatement_eq_error_iff.mp h)
  · intro e d scope' m' h
    obtain ⟨d₁, m₁, hd, h⟩ := Action.bind_eq_ok h
    cases h
    exact ⟨rfl, hgrows hd⟩
  · intro target e d scope' m' h
    obtain ⟨d₁, m₁, hd, h⟩ := Action.bind_eq_ok h
    cases target with
    | «variable» name span =>
      cases h
      refine ⟨_, hd, hgrows hd, .variable ?_ fun other ho => ?_⟩
      · exact Arguments.lookup_bind_self ..
      · exact Arguments.lookup_bind_of_ne _ _ ho
    | path names =>
      obtain ⟨scope₁, m₂, ha, h⟩ := Action.bind_eq_ok h
      cases h
      exact ⟨m₁, hd, hgrows hd, assignPath_assigns hs he (hgrows hd) ha⟩

/-- An object that holds itself. -/
def loopStore : Store := ⟨#[.object [(.text "a", .object 0)]]⟩

theorem loopStore_isTyped : loopStore.IsTyped := by
  intro cell hc
  obtain rfl := Array.mem_singleton.mp hc
  exact List.forall_mem_singleton.mpr rfl

/-- `.a.b.c = keys(.)`. -/
def nestingStatement : Statement :=
  .assign (.path ["a", "b", "c"]) (.call "keys" [(none, .path [])] false ⟨9, 16⟩)

/-- The loop after that: the event has a new member, and its old one still leads back to it. -/
def nestedStore : Store := ⟨#[
  .object [(.text "a", .object 0), (.text "b", .object 2)],
  .array [.scalar (.string "a")],
  .object [(.text "c", .array 1)]]⟩

theorem statements_assign_one_place_loop :
    Standard.registry.Spares ∧ loopStore.IsTyped ∧ (Datum.object 0).IsTyped loopStore ∧
    runStatement Standard.registry ⟨.object 0, []⟩ nestingStatement ⟨loopStore, 0⟩ =
      (.ok (.array 1, ⟨.object 0, []⟩), ⟨nestedStore, 0⟩) ∧
    ∃ m₁, evalExpr Standard.registry ⟨.object 0, []⟩ nestingStatement.value ⟨loopStore, 0⟩ =
        (.ok (.array 1), m₁) ∧ loopStore.Grows m₁.store ∧
      Target.Assigns (.array 1) (.path ["a", "b", "c"]) ⟨.object 0, []⟩ m₁.store
        ⟨.object 0, []⟩ nestedStore := by
  have hrun : runStatement Standard.registry ⟨.object 0, []⟩ nestingStatement ⟨loopStore, 0⟩ =
      (.ok (.array 1, ⟨.object 0, []⟩), ⟨nestedStore, 0⟩) := rfl
  have h := statements_assign_one_place Standard.registry_spares ⟨.object 0, []⟩ ⟨loopStore, 0⟩
    loopStore_isTyped rfl
  exact ⟨Standard.registry_spares, loopStore_isTyped, rfl, hrun, h.2.2.2 _ _ _ _ _ hrun⟩

end FunctionManual
