import FunctionManual.Proofs.Evaluation.Frame
import FunctionManual.Proofs.Evaluation.Kinds
import FunctionManual.Proofs.Registry.Built
import FunctionManual.Proofs.Value.Equality

/-!
# What is read where something was assigned

* `Members.find?_insert_self`, `Members.find?_insert_of_ne`: what an object holds after one member
  was set.
* `readPath_write`: a path that does not pass the member that was set reads what it did.
* `writePath_of_way`, `writePath_of_leaves`: a path is written in the object that its way leads to,
  or where it leaves what exists.
* `Passes`: the way to the last name of a path passes the member of that name.
* `assigned_path_reads_back`: an assigned path reads what was assigned, unless its way passes the
  member that was set; then it reads what the names behind it lead to.
* `assigned_path_reads_null`: where an object holds itself, that may be something else.
-/

namespace FunctionManual

/-! ## One member -/

namespace Members

variable {α : Type}

theorem find?_insert_self (ms : Members α) (name : String) (value : α) :
    (ms.insert (.text name) value).find? (.text name) = some value := by
  induction ms with
  | nil => simp [insert, find?, same_text]
  | cons x ms ih =>
    obtain ⟨k, old⟩ := x
    rw [insert]
    split
    next hk => rw [find?, if_pos hk]
    next hk => rw [find?, if_neg hk, ih]

theorem find?_insert_of_ne (ms : Members α) {name other : String} (value : α)
    (h : other ≠ name) : (ms.insert (.text name) value).find? (.text other) =
      ms.find? (.text other) := by
  induction ms with
  | nil => simp [insert, find?, same_text, h.symm]
  | cons x ms ih =>
    obtain ⟨k, old⟩ := x
    rw [insert]
    split
    next hk =>
      obtain rfl := eq_text_of_same hk
      have hne : ¬ (Key.text name).same (.text other) := by simp [same_text, h.symm]
      rw [find?, find?, if_neg hne, if_neg hne]
    next => rw [find?, find?, ih]

end Members

namespace Store

variable {s : Store} {a b : Nat}

theorem members_write_self (ha : a < s.cells.size) (key : Key) (d : Datum) :
    (s.write a key d).members a = (s.members a).insert key d := by
  rw [members, write, Array.getElem?_setIfInBounds_self_of_lt ha]

theorem members_write_of_ne (h : b ≠ a) (key : Key) (d : Datum) :
    (s.write a key d).members b = s.members b := by
  rw [members, write, Array.getElem?_setIfInBounds_ne h.symm, members]

/-- Whatever is not the member that was set is as it was. -/
theorem find?_write {name other : String} (d : Datum) (h : b = a → other ≠ name) :
    ((s.write a (.text name) d).members b).find? (.text other) =
      (s.members b).find? (.text other) := by
  by_cases hb : b = a
  · subst hb
    by_cases hlt : b < s.cells.size
    · rw [members_write_self hlt, Members.find?_insert_of_ne _ _ (h rfl)]
    · simp [members, write, Array.setIfInBounds, hlt]
  · rw [members_write_of_ne hb]

/-- An object with a member is there. -/
theorem lt_of_find? {key : Key} {d : Datum} (h : (s.members a).find? key = some d) :
    a < s.cells.size := by
  by_contra hlt
  rw [members, Array.getElem?_eq_none (Nat.le_of_not_lt hlt)] at h
  cases h

end Store

/-! ## Reading -/

section Reading

variable {s s' : Store} {d : Datum} {a b : Nat}

theorem readPath_null (s : Store) (names : List String) :
    readPath s (.scalar .null) names = .scalar .null := by
  cases names <;> rfl

/-- Names lead on one after another. -/
theorem readPath_append (s : Store) (d : Datum) (front rest : List String) :
    readPath s d (front ++ rest) = readPath s (readPath s d front) rest := by
  induction front generalizing d with
  | nil => rfl
  | cons name front ih =>
    cases d with
    | object a => exact ih _
    | scalar _ | array _ => exact (readPath_null s rest).symm

/-- Only from an object do names lead to an object. -/
theorem exists_object_of_readPath {names : List String} (h : readPath s d names = .object b) :
    ∃ a, d = .object a := by
  cases names with
  | nil => exact ⟨b, h⟩
  | cons name names =>
    cases d with
    | object a => exact ⟨a, rfl⟩
    | scalar _ | array _ => cases h

theorem exists_member_of_readPath {name : String} {names : List String}
    (h : readPath s (.object a) (name :: names) = .object b) :
    ∃ child, (s.members a).find? (.text name) = some (.object child) ∧
      readPath s (.object child) names = .object b := by
  rw [readPath] at h
  obtain ⟨child, hc⟩ := exists_object_of_readPath h
  rw [hc] at h
  cases hf : (s.members a).find? (.text name) with
  | none => rw [hf] at hc; cases hc
  | some d =>
    rw [hf, Option.getD_some] at hc
    exact ⟨child, by rw [hc], h⟩

/-- What leads to an object still does when containers are added. -/
theorem readPath_of_grows (hg : s.Grows s') {names : List String}
    (h : readPath s (.object a) names = .object b) : readPath s' (.object a) names = .object b := by
  induction names generalizing a with
  | nil => exact h
  | cons name names ih =>
    obtain ⟨child, hf, h⟩ := exists_member_of_readPath h
    rw [readPath, hg.members_eq (Store.lt_of_find? hf), hf]
    exact ih h

/-- A path that does not pass the member that was set reads what it did. -/
theorem readPath_write {name : String} (value : Datum) {names : List String}
    (h : ∀ front rest, names = front ++ name :: rest → readPath s d front ≠ .object b) :
    readPath (s.write b (.text name) value) d names = readPath s d names := by
  induction names generalizing d with
  | nil => rfl
  | cons other names ih =>
    cases d with
    | scalar _ | array _ => rfl
    | object a =>
      have hkeep : a = b → other ≠ name := by
        rintro rfl rfl
        exact h [] names rfl rfl
      rw [readPath, readPath, Store.find?_write value hkeep]
      refine ih fun front rest hn => ?_
      have hlead := h (other :: front) rest (by rw [hn, List.cons_append])
      rwa [readPath] at hlead

end Reading

/-! ## Writing -/

section Writing

variable {s : Store} {a b : Nat} {value : Datum}

/-- Where the way of a path leads to an object, that object is written. -/
theorem writePath_of_way {way : List String} {last : String}
    (h : readPath s (.object a) way = .object b) :
    writePath value a (way ++ [last]) s = s.write b (.text last) value := by
  induction way generalizing a with
  | nil => cases h; rfl
  | cons name way ih =>
    obtain ⟨child, hf, h⟩ := exists_member_of_readPath h
    have hrest : way ++ [last] ≠ [] := by simp
    rw [List.cons_append, writePath, hf]
    · exact ih h
    · exact hrest

/-- Where the next name is no object, a new one is set there and the path goes on below it. -/
theorem writePath_missing {name : String}
    (h : ∀ child, (s.members a).find? (.text name) ≠ some (.object child)) (next : String)
    (rest : List String) : writePath value a (name :: next :: rest) s =
      writePath value s.cells.size (next :: rest)
        ((s.add (.object [])).2.write a (.text name) (.object s.cells.size)) := by
  rw [writePath]
  · split
    next child hf => exact absurd hf (h child)
    next => rfl
  · exact List.cons_ne_nil next rest

/-- What is written below a member that is missing leaves all else as it was. -/
theorem grows_writePath_missing (ha : s.kindAt? a = some .object) (name : String)
    (names : List String) (value : Datum) : (s.write a (.text name) (.object s.cells.size)).Grows
      (writePath value s.cells.size names
        ((s.add (.object [])).2.write a (.text name) (.object s.cells.size))) :=
  writePath_grows names (Store.grows_write_add ha _ _ _) (Nat.le_of_eq (s.size_write a _ _))
    (Store.getElem?_write_add (Store.lt_of_kindAt? ha) _ _ _)

/-- Below an object that is empty and new, a path reads what was written. -/
theorem readPath_writePath_new {names : List String} (hn : names ≠ [])
    (ha : s.cells[a]? = some (.object [])) :
    readPath (writePath value a names s) (.object a) names = value := by
  induction names generalizing s a with
  | nil => exact absurd rfl hn
  | cons name rest ih =>
    have hlt := (Array.getElem?_eq_some_iff.mp ha).1
    cases rest with
    | nil =>
      rw [writePath, readPath, Store.members_write_self hlt, Members.find?_insert_self]
      rfl
    | cons next rest =>
      have hnone : ∀ child, (s.members a).find? (.text name) ≠ some (.object child) := by
        intro child hf
        rw [Store.members_eq ha] at hf
        cases hf
      have hkind : s.kindAt? a = some .object := Store.kindAt?_eq_object.mpr ⟨_, ha⟩
      have hgrows := grows_writePath_missing hkind name (next :: rest) value
      rw [writePath_missing hnone, readPath,
        hgrows.members_eq (Nat.lt_of_lt_of_eq hlt (s.size_write a _ _).symm),
        Store.members_write_self hlt, Members.find?_insert_self]
      exact ih (List.cons_ne_nil _ _) (Store.getElem?_write_add hlt _ _ _)

/-- Where the way of a path leads to no object, the path leaves what exists: some of its names lead
to an object, in which the next name is no object yet. -/
theorem writePath_of_leaves {way : List String} {last : String}
    (h : ∀ b, readPath s (.object a) way ≠ .object b) :
    ∃ front name next rest b, way ++ [last] = front ++ name :: next :: rest ∧
      readPath s (.object a) front = .object b ∧
      (∀ child, (s.members b).find? (.text name) ≠ some (.object child)) ∧
      writePath value a (way ++ [last]) s = writePath value s.cells.size (next :: rest)
        ((s.add (.object [])).2.write b (.text name) (.object s.cells.size)) := by
  induction way generalizing a with
  | nil => exact absurd rfl (h a)
  | cons name way ih =>
    obtain ⟨next, rest, hrest⟩ := List.exists_cons_of_ne_nil (l := way ++ [last]) (by simp)
    by_cases hc : ∃ child, (s.members a).find? (.text name) = some (.object child)
    · obtain ⟨child, hf⟩ := hc
      have hbelow : ∀ b, readPath s (.object child) way ≠ .object b := by
        intro b hb
        refine h b ?_
        rw [readPath, hf]
        exact hb
      obtain ⟨front, other, next', rest', b, he, hr, hno, hw⟩ := ih hbelow
      refine ⟨name :: front, other, next', rest', b, by rw [List.cons_append, he]; rfl, ?_, hno, ?_⟩
      · rw [readPath, hf]
        exact hr
      · rw [List.cons_append, writePath, hf]
        · exact hw
        · simp
    · have hno : ∀ child, (s.members a).find? (.text name) ≠ some (.object child) :=
        fun child hf => hc ⟨child, hf⟩
      refine ⟨[], name, next, rest, a, by rw [List.cons_append, hrest]; rfl, rfl, hno, ?_⟩
      rw [List.cons_append, hrest, writePath_missing hno]

/-- A path that leaves what exists reads what was written. -/
theorem readPath_writePath_of_leaves (hs : s.IsTyped) (ha : s.kindAt? a = some .object)
    {way : List String} {last : String} (h : ∀ b, readPath s (.object a) way ≠ .object b) :
    readPath (writePath value a (way ++ [last]) s) (.object a) (way ++ [last]) = value := by
  obtain ⟨front, name, next, rest, b, he, hr, hno, hw⟩ := writePath_of_leaves h
  have hb : s.kindAt? b = some .object := by
    have htyped := readPath_isTyped hs (d := .object a) ha front
    rwa [hr] at htyped
  have hlt := Store.lt_of_kindAt? hb
  have hgrows := grows_writePath_missing hb name (next :: rest) value
  -- the names in front cannot come by the member that is missing: it leads to no object
  have hfront : readPath (s.write b (.text name) (.object s.cells.size)) (.object a) front =
      .object b := by
    rw [readPath_write, hr]
    intro front' more hsplit hlead
    rw [hsplit, readPath_append, hlead] at hr
    obtain ⟨child, hf, -⟩ := exists_member_of_readPath hr
    exact hno child hf
  rw [hw, he, readPath_append, readPath_of_grows hgrows hfront, readPath,
    hgrows.members_eq (Nat.lt_of_lt_of_eq hlt (s.size_write b _ _).symm),
    Store.members_write_self hlt, Members.find?_insert_self]
  exact readPath_writePath_new (List.cons_ne_nil _ _) (Store.getElem?_write_add hlt _ _ _)

end Writing

/-! ## Paths that come back -/

/-- A path passes the member that it names: some names in front lead to the object that its whole
way leads to, and the next name is the last one of the path. `rest` stands behind it. -/
def Passes (s : Store) (event : Datum) (names front rest : List String) : Prop :=
  ∃ way last b, names = way ++ [last] ∧ names = front ++ last :: rest ∧
    readPath s event way = .object b ∧ readPath s event front = .object b

/-- A path passes the member that it names, and has not passed it before. -/
def PassesFirst (s : Store) (event : Datum) (names front rest : List String) : Prop :=
  Passes s event names front rest ∧
    ∀ front' rest', Passes s event names front' rest' → front.length ≤ front'.length

section Passing

variable {s : Store} {a b : Nat} {event value : Datum} {names front rest : List String}

theorem Passes.exists_object (h : Passes s event names front rest) : ∃ a, event = .object a := by
  obtain ⟨_, _, _, -, -, -, hf⟩ := h
  exact exists_object_of_readPath hf

/-- From the member on that the path passes first, it reads on from what was written. -/
theorem readPath_writePath_passed (hs : s.IsTyped) (ha : s.kindAt? a = some .object)
    (h : PassesFirst s (.object a) names front rest) :
    readPath (writePath value a names s) (.object a) names =
      readPath (writePath value a names s) value rest := by
  obtain ⟨⟨way, last, b, hway, hsplit, hw, hf⟩, hfirst⟩ := h
  have hb : s.kindAt? b = some .object := by
    have htyped := readPath_isTyped hs (d := .object a) ha way
    rwa [hw] at htyped
  have hfront : readPath (s.write b (.text last) value) (.object a) front = .object b := by
    rw [readPath_write, hf]
    intro front' more hmore hlead
    have hpass : Passes s (.object a) names front' (more ++ last :: rest) := by
      refine ⟨way, last, b, hway, ?_, hw, hlead⟩
      rw [hsplit, hmore, List.append_assoc, List.cons_append]
    have hle := hfirst _ _ hpass
    rw [hmore, List.length_append, List.length_cons] at hle
    omega
  have hwrite : writePath value a names s = s.write b (.text last) value := by
    rw [hway, writePath_of_way hw]
  rw [hwrite, hsplit, readPath_append, hfront, readPath,
    Store.members_write_self (Store.lt_of_kindAt? hb), Members.find?_insert_self]
  rfl

/-- A path that passes the member that it names only at its end reads what was written. -/
theorem readPath_writePath_of_apart (hs : s.IsTyped) (ha : s.kindAt? a = some .object)
    (hn : names ≠ []) (h : ∀ front rest, Passes s (.object a) names front rest → rest = []) :
    readPath (writePath value a names s) (.object a) names = value := by
  obtain ⟨way, last, rfl⟩ : ∃ way last, names = way ++ [last] :=
    ⟨_, _, (List.dropLast_append_getLast hn).symm⟩
  by_cases hw : ∃ b, readPath s (.object a) way = .object b
  · obtain ⟨b, hw⟩ := hw
    have hend : PassesFirst s (.object a) (way ++ [last]) way [] := by
      refine ⟨⟨way, last, b, rfl, rfl, hw, hw⟩, fun front' rest' hpass => ?_⟩
      obtain rfl := h front' rest' hpass
      obtain ⟨_, last', _, -, hsplit, -⟩ := hpass
      have hlength := congrArg List.length hsplit
      simp only [List.length_append, List.length_cons, List.length_nil] at hlength
      omega
    exact readPath_writePath_passed hs ha hend
  · exact readPath_writePath_of_leaves hs ha fun b hb => hw ⟨b, hb⟩

end Passing

/-! ## Assignments -/

section Assignments

variable {scope : Scope} {m : Machine}

/-- What a path reads after an assignment to it, in a scope whose addresses have the kinds of their
containers. -/
theorem readPath_assignPath (hs : m.store.IsTyped) (he : scope.event.IsTyped m.store)
    (names : List String) (d : Datum) :
    ∃ scope' m', assignPath scope names d m = (.ok scope', m') ∧
      ((∀ front rest, Passes m.store scope.event names front rest → rest = []) →
        readPath m'.store scope'.event names = d) ∧
      ∀ front rest, PassesFirst m.store scope.event names front rest →
        readPath m'.store scope'.event names = readPath m'.store d rest := by
  by_cases hn : names = []
  · subst hn
    refine ⟨{ scope with event := d }, m, rfl, fun _ => rfl, fun front rest h => ?_⟩
    obtain ⟨⟨_, _, _, hnil, -⟩, -⟩ := h
    simp at hnil
  unfold assignPath
  cases hev : scope.event with
  | object a =>
    rw [hev] at he
    refine ⟨scope, ⟨writePath d a names m.store, m.elapsed⟩, ?_, ?_⟩
    · split
      · exact absurd rfl hn
      · rfl
    · rw [hev]
      exact ⟨readPath_writePath_of_apart hs he hn, fun _ _ h => readPath_writePath_passed hs he h⟩
  | scalar _ | array _ =>
    refine ⟨{ scope with event := .object m.store.cells.size },
      ⟨writePath d m.store.cells.size names (m.store.add (.object [])).2, m.elapsed⟩, ?_, ?_⟩
    · split
      · exact absurd rfl hn
      · rfl
    · -- an event that is no object is replaced by a new one, in which nothing is shared
      refine ⟨fun _ => readPath_writePath_new hn Array.getElem?_push_size, fun front rest h => ?_⟩
      obtain ⟨a, ha⟩ := h.1.exists_object
      cases ha

end Assignments

/-- In every scope that a run comes to, an assigned path reads the value that was assigned, whatever
stood there and on the way before, as long as the way to its last name does not pass the member of
that name. Where objects hold themselves the way may pass it; from there on the path reads what its
names behind lead to from the value. The event from which the run starts may share its objects and
hold itself; the value may be anything. -/
theorem assigned_path_reads_back {r : Registry} (hr : r.IsTyped) {p : Program}
    {scope₀ scope : Scope} {m₀ m : Machine} {d₀ : Datum} (hs : m₀.store.IsTyped)
    (hscope : scope₀.IsTyped m₀.store)
    (hrun : runProgram r scope₀ (.scalar .null) p m₀ = (.ok (d₀, scope), m))
    (names : List String) (d : Datum) :
    ∃ scope' m', assignPath scope names d m = (.ok scope', m') ∧
      ((∀ front rest, Passes m.store scope.event names front rest → rest = []) →
        evalExpr r scope' (.path names) m' = (.ok d, m')) ∧
      ∀ front rest, PassesFirst m.store scope.event names front rest →
        evalExpr r scope' (.path names) m' = (.ok (readPath m'.store d rest), m') := by
  have hnull : (Datum.scalar .null).IsTyped m₀.store := trivial
  obtain ⟨hretains, -, hscope'⟩ := runProgram_yields hr p hs hscope hnull _ _ hrun
  obtain ⟨scope', m', hassign, hback, hpassed⟩ :=
    readPath_assignPath hretains.typed hscope'.event names d
  refine ⟨scope', m', hassign, fun h => ?_, fun front rest h => ?_⟩
  · rw [evalExpr, Action.look_run, hback h]
  · rw [evalExpr, Action.look_run, hpassed front rest h]

/-! ## An object that holds itself -/

/-- `x = f()` and `.a = .`. -/
def loopProgram : Program := [
  .assign (.variable "x" ⟨0, 1⟩) (.call "f" [] false ⟨4, 7⟩),
  .assign (.path ["a"]) (.path [])]

/-- The scope to which these statements lead: the event holds itself. -/
def loopScope : Scope := ⟨.object 0, [("x", .scalar .null)]⟩

theorem sole_isTyped : Registry.sole.IsTyped := by
  refine List.forall_mem_singleton.mpr fun _ m hs _ => ?_
  exact Action.yields_pure hs trivial

theorem run_loopProgram : runProgram Registry.sole ⟨.object 0, []⟩ (.scalar .null) loopProgram
    ⟨⟨#[.object []]⟩, 0⟩ = (.ok (.object 0, loopScope), ⟨loopStore, 0⟩) := rfl

/-- The way of `.a.b` leads back to the event, but leaves it by another name. -/
theorem rest_of_passes_loop {front rest : List String}
    (h : Passes loopStore (.object 0) ["a", "b"] front rest) : rest = [] := by
  obtain ⟨way, last, b, hway, hsplit, -, -⟩ := h
  have hway : ["a"] ++ ["b"] = way ++ [last] := hway
  obtain ⟨-, hlast⟩ := List.append_inj' hway rfl
  obtain rfl : "b" = last := List.cons_eq_cons.mp hlast |>.1
  match front, hsplit with
  | [], hsplit => simp at hsplit
  | [_], hsplit => exact (List.cons_eq_cons.mp (List.cons_eq_cons.mp hsplit).2).2.symm
  | _ :: _ :: _, hsplit => simp at hsplit

theorem assigned_path_reads_back_loop :
    Registry.sole.IsTyped ∧ Store.IsTyped ⟨#[.object []]⟩ ∧
    Scope.IsTyped ⟨#[.object []]⟩ ⟨.object 0, []⟩ ∧
    runProgram Registry.sole ⟨.object 0, []⟩ (.scalar .null) loopProgram ⟨⟨#[.object []]⟩, 0⟩ =
      (.ok (.object 0, loopScope), ⟨loopStore, 0⟩) ∧
    (∃ scope' m', assignPath loopScope ["a", "b"] (.scalar (.integer 5)) ⟨loopStore, 0⟩ =
        (.ok scope', m') ∧
      evalExpr Registry.sole scope' (.path ["a", "b"]) m' = (.ok (.scalar (.integer 5)), m')) ∧
    ∃ scope' m', assignPath loopScope ["a", "a"] (.scalar (.integer 5)) ⟨loopStore, 0⟩ =
        (.ok scope', m') ∧
      evalExpr Registry.sole scope' (.path ["a", "a"]) m' = (.ok (.scalar .null), m') := by
  have hs : Store.IsTyped ⟨#[.object []]⟩ := by
    intro cell hc
    obtain rfl := Array.mem_singleton.mp hc
    exact List.forall_mem_nil _
  have hscope : Scope.IsTyped ⟨#[.object []]⟩ ⟨.object 0, []⟩ := ⟨rfl, List.forall_mem_nil _⟩
  have hfirst : PassesFirst loopStore loopScope.event ["a", "a"] [] ["a"] :=
    ⟨⟨["a"], "a", 0, rfl, rfl, rfl, rfl⟩, fun _ _ _ => Nat.zero_le _⟩
  have hpath := assigned_path_reads_back sole_isTyped hs hscope run_loopProgram
  obtain ⟨scope₁, m₁, h₁, hback, -⟩ := hpath ["a", "b"] (.scalar (.integer 5))
  obtain ⟨scope₂, m₂, h₂, -, hpassed⟩ := hpath ["a", "a"] (.scalar (.integer 5))
  exact ⟨sole_isTyped, hs, hscope, run_loopProgram,
    ⟨scope₁, m₁, h₁, hback fun _ _ => rest_of_passes_loop⟩, scope₂, m₂, h₂, hpassed [] ["a"] hfirst⟩

/-- From an empty event, `.a = .` leads to a scope in which `.a.a` reads null after 5 was assigned
to it: the event is the object of its member `a`, so the assignment replaces that member by 5. -/
theorem assigned_path_reads_null :
    startScope .null {} = (.ok ⟨.object 0, []⟩, ⟨⟨#[.object []]⟩, 0⟩) ∧
    runProgram Standard.registry ⟨.object 0, []⟩ (.scalar .null) [.assign (.path ["a"]) (.path [])]
      ⟨⟨#[.object []]⟩, 0⟩ = (.ok (.object 0, ⟨.object 0, []⟩), ⟨loopStore, 0⟩) ∧
    ∃ scope' m', assignPath ⟨.object 0, []⟩ ["a", "a"] (.scalar (.integer 5)) ⟨loopStore, 0⟩ =
        (.ok scope', m') ∧
      evalExpr Standard.registry scope' (.path ["a", "a"]) m' = (.ok (.scalar .null), m') :=
  ⟨rfl, rfl, _, _, rfl, rfl⟩

end FunctionManual
