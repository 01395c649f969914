import FunctionManual.Evaluation.Run
import FunctionManual.Proofs.Evaluation.Action
import FunctionManual.Proofs.Store.Loading
import FunctionManual.Proofs.Syntax.Spelling

/-!
# Lines of values as programs

* `IsSource.evalExpr_toExpr`: the literal of a value puts the value into fresh containers.
* `evaluate_render`: the line that shows a value is a program, and its result is that value.
-/

namespace FunctionManual

/-! ## Members -/

namespace Members

variable {α : Type}

theorem insert_of_not_mem {ms : Members α} {key : Key}
    (h : ∀ x ∈ ms, x.1.same key = false) (value : α) :
    insert key value ms = ms ++ [(key, value)] := by
  induction ms with
  | nil => rfl
  | cons x ms ih =>
    obtain ⟨hx, h⟩ := List.forall_mem_cons.mp h
    rw [insert, if_neg (by rw [hx]; exact Bool.false_ne_true), ih h, List.cons_append]

/-- Members of which no two have the same key are set as they stand. -/
theorem ofList_eq_self {ms : Members α} (h : ms.Pairwise fun a b => a.1.same b.1 = false) :
    ofList ms = ms := by
  -- the members set so far are part of the induction
  have go : ∀ done : Members α, (done ++ ms).Pairwise (fun a b => a.1.same b.1 = false) →
      ms.foldl (fun done x => insert x.1 x.2 done) done = done ++ ms := by
    clear h
    induction ms with
    | nil => exact fun done _ => (List.append_nil done).symm
    | cons x ms ih =>
      intro done hd
      have hx : ∀ y ∈ done, y.1.same x.1 = false := fun y hy =>
        (List.pairwise_append.mp hd).2.2 y hy x List.mem_cons_self
      rw [List.foldl_cons, insert_of_not_mem hx, ih _ (by simpa using hd), List.append_assoc,
        List.singleton_append]
  exact go [] h

end Members

/-- Texts that are different name different members. -/
theorem pairwise_same_of_nodup {keys : List Key} (hk : ∀ k ∈ keys, ∃ name, k = .text name)
    (hn : keys.Nodup) : keys.Pairwise fun a b => a.same b = false := by
  refine hn.imp_of_mem fun {a b} ha hb hne => ?_
  obtain ⟨name, rfl⟩ := hk a ha
  obtain ⟨other, rfl⟩ := hk b hb
  exact beq_false_of_ne fun he => hne (congrArg Key.text he)

namespace Value

/-! ## Literals -/

mutual

theorem calls_toExpr (v : Value) : v.toExpr.calls = [] := by
  cases v with
  | scalar s => rfl
  | array items => exact calls_itemsToExpr items
  | object members => exact calls_membersToExpr members

theorem calls_itemsToExpr (items : List Value) : callsOfItems (itemsToExpr items) = [] := by
  cases items with
  | nil => rfl
  | cons v rest => rw [itemsToExpr, callsOfItems, calls_toExpr v, calls_itemsToExpr rest]; rfl

theorem calls_membersToExpr (members : List (Key × Value)) :
    callsOfEntries (membersToExpr members) = [] := by
  cases members with
  | nil => rfl
  | cons m rest =>
    rw [membersToExpr, callsOfEntries, calls_toExpr m.2, calls_membersToExpr rest]
    rfl

end

variable {r : Registry} {scope : Scope}

/-- An expression that puts a value into fresh containers. -/
def IsLoadedBy (v : Value) (r : Registry) (scope : Scope) (e : Expr) : Prop :=
  ∀ m : Machine, evalExpr r scope e m =
    (.ok (m.store.load v).1, { m with store := (m.store.load v).2 })

theorem evalItems_itemsToExpr {items : List Value}
    (h : ∀ v ∈ items, v.IsLoadedBy r scope v.toExpr) (m : Machine) :
    evalItems r scope (itemsToExpr items) m =
      (.ok (m.store.loadItems items).1, { m with store := (m.store.loadItems items).2 }) := by
  induction items generalizing m with
  | nil => rfl
  | cons v items ih =>
    obtain ⟨hv, h⟩ := List.forall_mem_cons.mp h
    rw [itemsToExpr, evalItems, Action.bind_of_ok (hv m), Action.bind_of_ok (ih h _)]
    rfl

theorem evalEntries_membersToExpr {members : List (Key × Value)}
    (hk : ∀ x ∈ members, ∃ name, x.1 = .text name)
    (h : ∀ x ∈ members, x.2.IsLoadedBy r scope x.2.toExpr) (m : Machine) :
    evalEntries r scope (membersToExpr members) m =
      (.ok (m.store.loadMembers members).1,
        { m with store := (m.store.loadMembers members).2 }) := by
  induction members generalizing m with
  | nil => rfl
  | cons x members ih =>
    obtain ⟨k, v⟩ := x
    obtain ⟨⟨name, hname⟩, hks⟩ := List.forall_mem_cons.mp hk
    obtain ⟨hv, hvs⟩ := List.forall_mem_cons.mp h
    obtain rfl : k = .text name := hname
    rw [membersToExpr, evalEntries, Action.bind_of_ok (hv m), Action.bind_of_ok (ih hks hvs _)]
    rfl

theorem keys_loadMembers (s : Store) (members : List (Key × Value)) :
    (s.loadMembers members).1.map (·.1) = members.map (·.1) := by
  induction members generalizing s with
  | nil => rfl
  | cons x members ih => exact congrArg (x.1 :: ·) (ih _)

/-- The literal of a value puts the value into fresh containers. The induction is on the value. -/
theorem IsSource.evalExpr_toExpr {v : Value} (h : v.IsSource) :
    v.IsLoadedBy r scope v.toExpr := by
  intro m
  induction h generalizing m with
  | null | boolean _ | integer _ | string _ => rfl
  | @array items _ ih =>
    rw [toExpr, evalExpr, Action.bind_of_ok (evalItems_itemsToExpr (fun v hv m => ih v hv m) m)]
    rfl
  | @object members hn hk _ ih =>
    have htexts : ∀ x ∈ members, ∃ name, x.1 = .text name := fun x hx =>
      let ⟨name, hname, _⟩ := hk x hx
      ⟨name, hname⟩
    have hkeys : (m.store.loadMembers members).1.Pairwise fun a b => a.1.same b.1 = false := by
      have hpair := pairwise_same_of_nodup (List.forall_mem_map.mpr htexts) hn
      rw [← keys_loadMembers m.store] at hpair
      exact List.pairwise_map.mp hpair
    rw [toExpr, evalExpr,
      Action.bind_of_ok (evalEntries_membersToExpr htexts (fun x hx m => ih x hx m) m)]
    show (Except.ok _, _) = _
    rw [Members.ofList_eq_self hkeys]
    rfl

end Value

/-! ## Programs -/

variable {v : Value}

theorem prepare_render (r : Registry) (h : v.IsSource) :
    prepare r v.render = .ok [.expr v.toExpr] := by
  have hcalls : Program.calls [.expr v.toExpr] = [] := by
    rw [Program.calls, List.flatMap_singleton]
    exact v.calls_toExpr
  rw [prepare, h.parse_render]
  show (do (compile r _).mapError _; pure _) = _
  rw [compile, hcalls]
  rfl

/-- The line that shows a value is a program whose result is that value, with any functions and any
event, when JSON holds the value and it has neither doubles nor long integers nor control characters
apart from newlines, carriage returns and tabs. -/
theorem evaluate_render (r : Registry) (event : Value) (h : v.IsSource) :
    evaluate r v.render event = ⟨0, .ok (.ok (.ofValue v))⟩ ∧
      (Snapshot.ofValue v).toValue? = some v := by
  refine ⟨?_, Snapshot.toValue?_ofValue v⟩
  let start : Store × Datum :=
    let loaded := Store.load {} (if event.isNull then .object [] else event)
    (loaded.2, loaded.1)
  have hstart : startScope event {} = (.ok ⟨start.2, []⟩, ⟨start.1, 0⟩) := rfl
  have hstatement : runStatement r ⟨start.2, []⟩ (.expr v.toExpr) ⟨start.1, 0⟩ =
      (.ok ((start.1.load v).1, ⟨start.2, []⟩), ⟨(start.1.load v).2, 0⟩) := by
    rw [runStatement, Action.bind_of_ok (h.evalExpr_toExpr _)]
    rfl
  have hrun : runProgram r ⟨start.2, []⟩ (.scalar .null) [.expr v.toExpr] ⟨start.1, 0⟩ =
      (.ok ((start.1.load v).1, ⟨start.2, []⟩), ⟨(start.1.load v).2, 0⟩) := by
    rw [runProgram, Action.bind_of_ok hstatement]
    rfl
  have hperform : perform r v.render event {} =
      (.ok (.ofValue v), ⟨(start.1.load v).2, 0⟩) := by
    rw [perform, prepare_render r h, Action.bind_of_ok (Action.ofExcept_run _ _),
      Action.bind_of_ok hstart, Action.bind_of_ok hrun]
    show (Except.ok ((start.1.load v).2.snapshot (start.1.load v).1), _) = _
    rw [Store.snapshot_load]
  rw [evaluate, hperform]

/-- An object whose keys and texts hold marks of strings and of lists. -/
def marksValue : Value :=
  .object [(.text "a \"b\", \\", .array [.integer (-12), .boolean true, .integer 1, .string "1"]),
    (.text "", .object [(.text "é\n", .scalar .null)])]

theorem evaluate_render_marks :
    marksValue.IsSource ∧
      marksValue.render =
        "\x7b\"a \\\"b\\\", \\\\\": [-12, true, 1, \"1\"], \"\": \x7b\"é\\n\": null\x7d\x7d" ∧
      evaluate { name := "main" } marksValue.render (.string "event") =
        ⟨0, .ok (.ok (.ofValue marksValue))⟩ ∧
      (Snapshot.ofValue marksValue).toValue? = some marksValue := by
  have harray : Value.IsSource
      (.array [.integer (-12), .boolean true, .integer 1, .string "1"]) := by
    refine .array (List.forall_mem_cons.mpr ⟨.integer (by decide), ?_⟩)
    refine List.forall_mem_cons.mpr ⟨.boolean true, ?_⟩
    refine List.forall_mem_cons.mpr ⟨.integer (by decide), ?_⟩
    exact List.forall_mem_singleton.mpr (.string (by decide +kernel))
  have hobject : Value.IsSource (.object [(.text "é\n", .scalar .null)]) :=
    .object (by decide) (List.forall_mem_singleton.mpr ⟨_, rfl, by decide +kernel⟩)
      (List.forall_mem_singleton.mpr .null)
  have h : marksValue.IsSource := by
    refine .object (by decide) ?_ ?_
    · exact List.forall_mem_cons.mpr ⟨⟨_, rfl, by decide +kernel⟩,
        List.forall_mem_singleton.mpr ⟨_, rfl, by decide +kernel⟩⟩
    · exact List.forall_mem_cons.mpr ⟨harray, List.forall_mem_singleton.mpr hobject⟩
  exact ⟨h, rfl, evaluate_render _ _ h⟩

end FunctionManual
