import FunctionManual.Store.Basic

/-!
# Sound stores

* `Material`: the scalars and the keys that are allowed in a store.
* `Store.IsSound`: every address in a store is that of one of its containers.
* `Store.Evolves`: a sound store that has lost no container.
* `Store.Grows`: nothing but containers that are new.
* `load_grows`, `load_evolves`: a tree is put into containers that are new.
-/

namespace FunctionManual

/-- What values are made of: the scalars and the keys that are allowed, null and texts always. -/
structure Material where
  scalar : Scalar → Prop
  key : Key → Prop
  scalar_null : scalar .null
  key_text : ∀ s, key (.text s)

namespace Material

/-- Everything is allowed. -/
def any : Material := ⟨fun _ => True, fun _ => True, trivial, fun _ => trivial⟩

/-- Scalars have a kind and keys are texts. -/
def proper : Material := ⟨fun s => s.kind?.isSome, fun k => k.isText, rfl, fun _ => rfl⟩

end Material

variable {c : Material} {s s' s'' : Store}

/-! ## Soundness -/

/-- A datum whose address is that of a container. -/
def Datum.IsSound (c : Material) (s : Store) : Datum → Prop
  | .scalar v => c.scalar v
  | .array a | .object a => a < s.cells.size

/-- A container whose parts are sound. -/
def Cell.IsSound (c : Material) (s : Store) : Cell → Prop
  | .array xs => ∀ d ∈ xs, d.IsSound c s
  | .object ms => ∀ x ∈ ms, c.key x.1 ∧ x.2.IsSound c s

/-- Every address in the store is that of one of its containers. -/
def Store.IsSound (c : Material) (s : Store) : Prop := ∀ cell ∈ s.cells, cell.IsSound c s

theorem Datum.IsSound.mono {d : Datum} (h : d.IsSound c s) (hs : s.cells.size ≤ s'.cells.size) :
    d.IsSound c s' := by
  cases d with
  | scalar v => exact h
  | array a => exact Nat.lt_of_lt_of_le h hs
  | object a => exact Nat.lt_of_lt_of_le h hs

/-- Where scalars have kinds, all that is sound has one. -/
theorem Datum.IsSound.exists_kind {d : Datum} (h : d.IsSound .proper s) :
    ∃ k, (s.view d).kind? = some k := by
  cases d with
  | scalar v => exact Option.isSome_iff_exists.mp h
  | array _ => exact ⟨.array, rfl⟩
  | object _ => exact ⟨.object, rfl⟩

theorem Cell.IsSound.mono {cell : Cell} (h : cell.IsSound c s)
    (hs : s.cells.size ≤ s'.cells.size) : cell.IsSound c s' := by
  cases cell with
  | array xs => exact fun d hd => (h d hd).mono hs
  | object ms => exact fun x hx => ⟨(h x hx).1, (h x hx).2.mono hs⟩

namespace Store

theorem isSound_empty : ({} : Store).IsSound c := fun _ h => nomatch h

theorem IsSound.items (hs : s.IsSound c) (a : Nat) : ∀ d ∈ s.items a, d.IsSound c s := by
  unfold Store.items
  split
  next xs hx => exact hs _ (Array.mem_of_getElem? hx)
  next => exact fun d hd => nomatch hd

theorem IsSound.members (hs : s.IsSound c) (a : Nat) :
    ∀ x ∈ s.members a, c.key x.1 ∧ x.2.IsSound c s := by
  unfold Store.members
  split
  next ms hm => exact hs _ (Array.mem_of_getElem? hm)
  next => exact fun x hx => nomatch hx

/-! ## Later stores -/

/-- A sound store that has lost no container of an earlier one. -/
structure Evolves (c : Material) (s s' : Store) : Prop where
  sound : s'.IsSound c
  kept : s.cells.size ≤ s'.cells.size

theorem Evolves.refl (hs : s.IsSound c) : s.Evolves c s := ⟨hs, Nat.le_refl _⟩

theorem Evolves.trans (h : s.Evolves c s') (h' : s'.Evolves c s'') : s.Evolves c s'' :=
  ⟨h'.sound, Nat.le_trans h.kept h'.kept⟩

/-- Every container of the earlier store is in the later one, as it was. -/
def Grows (s s' : Store) : Prop :=
  ∀ (i : Nat) (cell : Cell), s.cells[i]? = some cell → s'.cells[i]? = some cell

theorem Grows.refl (s : Store) : s.Grows s := fun _ _ h => h

theorem Grows.trans (h : s.Grows s') (h' : s'.Grows s'') : s.Grows s'' :=
  fun i cell hi => h' i cell (h i cell hi)

theorem Grows.kept (h : s.Grows s') : s.cells.size ≤ s'.cells.size := by
  refine Nat.le_of_not_lt fun hlt => ?_
  have := h s'.cells.size s.cells[s'.cells.size] (by simp [hlt])
  simp at this

theorem Grows.items_eq (h : s.Grows s') {a : Nat} (ha : a < s.cells.size) :
    s'.items a = s.items a := by
  simp only [Store.items, h a _ (Array.getElem?_eq_getElem ha), Array.getElem?_eq_getElem ha]

theorem Grows.members_eq (h : s.Grows s') {a : Nat} (ha : a < s.cells.size) :
    s'.members a = s.members a := by
  simp only [Store.members, h a _ (Array.getElem?_eq_getElem ha), Array.getElem?_eq_getElem ha]

/-! ## New containers -/

theorem grows_add (s : Store) (cell : Cell) : s.Grows (s.add cell).2 := by
  intro i old hi
  have hlt := (Array.getElem?_eq_some_iff.mp hi).1
  simp only [add]
  rw [Array.getElem?_push_lt hlt, ← hi, Array.getElem?_eq_getElem hlt]

theorem size_add (s : Store) (cell : Cell) : (s.add cell).2.cells.size = s.cells.size + 1 :=
  Array.size_push _

/-- A container that is added is sound when its parts are. -/
theorem evolves_add (hs : s.IsSound c) {cell : Cell} (hc : cell.IsSound c s) :
    s.Evolves c (s.add cell).2 := by
  have hk := (s.grows_add cell).kept
  refine ⟨fun x hx => ?_, hk⟩
  rcases Array.mem_push.mp hx with hx | rfl
  · exact (hs x hx).mono hk
  · exact hc.mono hk

theorem items_addArray (s : Store) (xs : List Datum) :
    (s.addArray xs).2.items s.cells.size = xs := by
  simp [addArray, add, items]

theorem members_addObject (s : Store) (ms : Members Datum) :
    (s.addObject ms).2.members s.cells.size = ms := by
  simp [addObject, add, members]

theorem addArray_isSound (s : Store) (xs : List Datum) :
    (s.addArray xs).1.IsSound c (s.addArray xs).2 :=
  Nat.lt_of_lt_of_eq (Nat.lt_succ_self _) (s.size_add _).symm

theorem addObject_isSound (s : Store) (ms : Members Datum) :
    (s.addObject ms).1.IsSound c (s.addObject ms).2 :=
  Nat.lt_of_lt_of_eq (Nat.lt_succ_self _) (s.size_add _).symm

end Store

/-! ## Members -/

namespace Members

variable {α : Type} {K : Key → Prop} {P : α → Prop}

theorem forall_insert {ms : Members α} {key : Key} {value : α} (h : ∀ x ∈ ms, K x.1 ∧ P x.2)
    (hk : K key) (hv : P value) : ∀ x ∈ ms.insert key value, K x.1 ∧ P x.2 := by
  induction ms with
  | nil => simp [insert, hk, hv]
  | cons x ms ih =>
    rw [List.forall_mem_cons] at h
    rw [insert]
    split
    · exact List.forall_mem_cons.mpr ⟨⟨h.1.1, hv⟩, h.2⟩
    · exact List.forall_mem_cons.mpr ⟨h.1, ih h.2⟩

theorem forall_ofList {entries : List (Key × α)} (h : ∀ x ∈ entries, K x.1 ∧ P x.2) :
    ∀ x ∈ ofList entries, K x.1 ∧ P x.2 := by
  suffices ∀ done : Members α, (∀ x ∈ done, K x.1 ∧ P x.2) →
      ∀ x ∈ entries.foldl (fun done y => insert y.1 y.2 done) done, K x.1 ∧ P x.2 from
    this [] (by simp)
  induction entries with
  | nil => exact fun done hd => hd
  | cons x entries ih =>
    rw [List.forall_mem_cons] at h
    exact fun done hd => ih h.2 _ (forall_insert hd h.1.1 h.1.2)

theorem mem_of_find? {ms : Members α} {key : Key} {value : α} (h : ms.find? key = some value) :
    ∃ k, (k, value) ∈ ms := by
  induction ms with
  | nil => cases h
  | cons x ms ih =>
    rw [find?] at h
    split at h
    · cases h
      exact ⟨x.1, List.mem_cons_self⟩
    · obtain ⟨k, hk⟩ := ih h
      exact ⟨k, List.mem_cons_of_mem _ hk⟩

end Members

/-! ## Changed objects -/

theorem Store.size_write (s : Store) (a : Nat) (key : Key) (value : Datum) :
    (s.write a key value).cells.size = s.cells.size :=
  Array.size_setIfInBounds

theorem Store.evolves_write (hs : s.IsSound c) (a : Nat) {key : Key} (hk : c.key key)
    {value : Datum} (hv : value.IsSound c s) : s.Evolves c (s.write a key value) := by
  have kept := Nat.le_of_eq (s.size_write a key value).symm
  refine ⟨fun cell hc => ?_, kept⟩
  rcases Array.mem_or_eq_of_mem_setIfInBounds hc with hc | rfl
  · exact (hs cell hc).mono kept
  · exact Cell.IsSound.mono (Members.forall_insert (hs.members a) hk hv) kept

/-! ## Trees -/

/-- The scalars and the keys of a tree are allowed. -/
inductive Value.IsMadeOf (c : Material) : Value → Prop
  | scalar {v : Scalar} (h : c.scalar v) : IsMadeOf c (.scalar v)
  | array {items : List Value} (h : ∀ v ∈ items, IsMadeOf c v) : IsMadeOf c (.array items)
  | object {members : List (Key × Value)} (hk : ∀ x ∈ members, c.key x.1)
      (h : ∀ x ∈ members, IsMadeOf c x.2) : IsMadeOf c (.object members)

namespace Store

mutual

theorem load_grows (s : Store) : (v : Value) → s.Grows (s.load v).2
  | .scalar _ => .refl s
  | .array items => (loadItems_grows s items).trans (grows_add _ _)
  | .object members => (loadMembers_grows s members).trans (grows_add _ _)

theorem loadItems_grows (s : Store) : (vs : List Value) → s.Grows (s.loadItems vs).2
  | [] => .refl s
  | v :: vs => (load_grows s v).trans (loadItems_grows _ vs)

theorem loadMembers_grows (s : Store) : (ms : List (Key × Value)) → s.Grows (s.loadMembers ms).2
  | [] => .refl s
  | (_, v) :: ms => (load_grows s v).trans (loadMembers_grows _ ms)

end

mutual

/-- A tree of allowed parts is put into sound containers. -/
theorem load_evolves {s : Store} (hs : s.IsSound c) : {v : Value} → v.IsMadeOf c →
    s.Evolves c (s.load v).2 ∧ (s.load v).1.IsSound c (s.load v).2
  | .scalar _, .scalar h => ⟨.refl hs, h⟩
  | .array _, .array h => by
    obtain ⟨he, hd⟩ := loadItems_evolves hs h
    exact ⟨he.trans (evolves_add he.sound hd), addArray_isSound _ _⟩
  | .object _, .object hk h => by
    obtain ⟨he, hd⟩ := loadMembers_evolves hs hk h
    exact ⟨he.trans (evolves_add he.sound hd), addObject_isSound _ _⟩

theorem loadItems_evolves {s : Store} (hs : s.IsSound c) : {vs : List Value} →
    (∀ v ∈ vs, v.IsMadeOf c) →
    s.Evolves c (s.loadItems vs).2 ∧ ∀ d ∈ (s.loadItems vs).1, d.IsSound c (s.loadItems vs).2
  | [], _ => ⟨.refl hs, nofun⟩
  | _ :: _, h => by
    obtain ⟨hv, hvs⟩ := List.forall_mem_cons.mp h
    obtain ⟨he, hd⟩ := load_evolves hs hv
    obtain ⟨he', hds⟩ := loadItems_evolves he.sound hvs
    exact ⟨he.trans he', List.forall_mem_cons.mpr ⟨hd.mono he'.kept, hds⟩⟩

theorem loadMembers_evolves {s : Store} (hs : s.IsSound c) : {ms : List (Key × Value)} →
    (∀ x ∈ ms, c.key x.1) → (∀ x ∈ ms, x.2.IsMadeOf c) →
    s.Evolves c (s.loadMembers ms).2 ∧
      ∀ x ∈ (s.loadMembers ms).1, c.key x.1 ∧ x.2.IsSound c (s.loadMembers ms).2
  | [], _, _ => ⟨.refl hs, nofun⟩
  | _ :: _, hk, h => by
    obtain ⟨hk, hks⟩ := List.forall_mem_cons.mp hk
    obtain ⟨hv, hvs⟩ := List.forall_mem_cons.mp h
    obtain ⟨he, hd⟩ := load_evolves hs hv
    obtain ⟨he', hds⟩ := loadMembers_evolves he.sound hks hvs
    exact ⟨he.trans he', List.forall_mem_cons.mpr ⟨⟨hk, hd.mono he'.kept⟩, hds⟩⟩

end

end Store

end FunctionManual
