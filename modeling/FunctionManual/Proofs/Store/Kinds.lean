import FunctionManual.Proofs.Store.Soundness

/-!
# Addresses and their kinds

* `Store.IsTyped`: every address in a store is that of a container of its kind.
* `Store.Retains`: a later store that is typed, in which every address has the kind that it had.
* `retains_add`, `retains_write`, `retains_load`: every change of a store leads to such a store.
-/

namespace FunctionManual

/-- The kind of a container. -/
def Cell.kind : Cell → Kind
  | .array _ => .array
  | .object _ => .object

/-- The kind of the container at an address. -/
def Store.kindAt? (s : Store) (a : Nat) : Option Kind := (s.cells[a]?).map Cell.kind

/-- A datum whose address is that of a container of its kind. -/
def Datum.IsTyped (s : Store) : Datum → Prop
  | .scalar _ => True
  | .array a => s.kindAt? a = some .array
  | .object a => s.kindAt? a = some .object

/-- A container whose parts are typed. -/
def Cell.IsTyped (s : Store) : Cell → Prop
  | .array xs => ∀ d ∈ xs, d.IsTyped s
  | .object ms => ∀ x ∈ ms, x.2.IsTyped s

/-- Every address in the store is that of a container of its kind. -/
def Store.IsTyped (s : Store) : Prop := ∀ cell ∈ s.cells, cell.IsTyped s

variable {s s' s'' : Store}

namespace Store

theorem kindAt?_eq_object {a : Nat} :
    s.kindAt? a = some .object ↔ ∃ ms, s.cells[a]? = some (.object ms) := by
  rw [kindAt?, Option.map_eq_some_iff]
  constructor
  · rintro ⟨cell, hc, hk⟩
    cases cell with
    | array xs => cases hk
    | object ms => exact ⟨ms, hc⟩
  · rintro ⟨ms, hm⟩
    exact ⟨_, hm, rfl⟩

theorem lt_of_kindAt? {a : Nat} {k : Kind} (h : s.kindAt? a = some k) : a < s.cells.size := by
  obtain ⟨cell, hc, -⟩ := Option.map_eq_some_iff.mp h
  exact (Array.getElem?_eq_some_iff.mp hc).1

theorem members_eq {a : Nat} {ms : Members Datum} (h : s.cells[a]? = some (.object ms)) :
    s.members a = ms := by
  rw [members, h]

/-! ## Later stores -/

/-- A later store, in which every address has the kind that it had. -/
def KeepsKinds (s s' : Store) : Prop :=
  ∀ (a : Nat) (k : Kind), s.kindAt? a = some k → s'.kindAt? a = some k

theorem KeepsKinds.refl (s : Store) : s.KeepsKinds s := fun _ _ h => h

theorem KeepsKinds.trans (h : s.KeepsKinds s') (h' : s'.KeepsKinds s'') : s.KeepsKinds s'' :=
  fun a k ha => h' a k (h a k ha)

theorem Grows.keepsKinds (h : s.Grows s') : s.KeepsKinds s' := by
  intro a k ha
  obtain ⟨cell, hc, rfl⟩ := Option.map_eq_some_iff.mp ha
  exact Option.map_eq_some_iff.mpr ⟨cell, h a cell hc, rfl⟩

end Store

theorem Datum.IsTyped.mono {d : Datum} (h : d.IsTyped s) (hs : s.KeepsKinds s') :
    d.IsTyped s' := by
  cases d with
  | scalar _ => trivial
  | array a => exact hs a _ h
  | object a => exact hs a _ h

theorem Cell.IsTyped.mono {cell : Cell} (h : cell.IsTyped s) (hs : s.KeepsKinds s') :
    cell.IsTyped s' := by
  cases cell with
  | array xs => exact fun d hd => (h d hd).mono hs
  | object ms => exact fun x hx => (h x hx).mono hs

namespace Store

theorem isTyped_empty : ({} : Store).IsTyped := fun _ h => nomatch h

theorem IsTyped.items (hs : s.IsTyped) (a : Nat) : ∀ d ∈ s.items a, d.IsTyped s := by
  unfold Store.items
  split
  next xs hx => exact hs _ (Array.mem_of_getElem? hx)
  next => exact List.forall_mem_nil _

theorem IsTyped.members (hs : s.IsTyped) (a : Nat) : ∀ x ∈ s.members a, x.2.IsTyped s := by
  unfold Store.members
  split
  next ms hm => exact hs _ (Array.mem_of_getElem? hm)
  next => exact List.forall_mem_nil _

/-- A member of a typed store is typed. -/
theorem IsTyped.find? (hs : s.IsTyped) {a : Nat} {key : Key} {d : Datum}
    (h : (s.members a).find? key = some d) : d.IsTyped s := by
  obtain ⟨k, hk⟩ := Members.mem_of_find? h
  exact hs.members a _ hk

/-! ## Changes -/

/-- A typed store in which every address of an earlier one has the kind that it had. -/
structure Retains (s s' : Store) : Prop where
  typed : s'.IsTyped
  kinds : s.KeepsKinds s'

theorem Retains.refl (hs : s.IsTyped) : s.Retains s := ⟨hs, .refl s⟩

theorem Retains.trans (h : s.Retains s') (h' : s'.Retains s'') : s.Retains s'' :=
  ⟨h'.typed, h.kinds.trans h'.kinds⟩

theorem kindAt?_add (s : Store) (cell : Cell) :
    (s.add cell).2.kindAt? s.cells.size = some cell.kind := by
  simp [kindAt?, add]

/-- A container whose parts are typed may be added. -/
theorem retains_add (hs : s.IsTyped) {cell : Cell} (hc : cell.IsTyped s) :
    s.Retains (s.add cell).2 := by
  have hk := (s.grows_add cell).keepsKinds
  refine ⟨fun x hx => ?_, hk⟩
  rcases Array.mem_push.mp hx with hx | rfl
  · exact (hs x hx).mono hk
  · exact hc.mono hk

theorem keepsKinds_write {a : Nat} (ha : s.kindAt? a = some .object) (key : Key)
    (value : Datum) : s.KeepsKinds (s.write a key value) := by
  intro i k hi
  have hlt := lt_of_kindAt? hi
  by_cases h : a = i
  · subst h
    rw [hi] at ha
    cases ha
    simp [kindAt?, write, hlt, Cell.kind]
  · rw [kindAt?, write, Array.getElem?_setIfInBounds_ne h]
    exact hi

/-- A member of an object may be set to what is typed. -/
theorem retains_write (hs : s.IsTyped) {a : Nat} (ha : s.kindAt? a = some .object) (key : Key)
    {value : Datum} (hv : value.IsTyped s) : s.Retains (s.write a key value) := by
  have hk := keepsKinds_write ha key value
  refine ⟨fun cell hc => ?_, hk⟩
  rcases Array.mem_or_eq_of_mem_setIfInBounds hc with hc | rfl
  · exact (hs cell hc).mono hk
  · have hmembers : ∀ x ∈ s.members a, True ∧ x.2.IsTyped s := fun x hx =>
      ⟨trivial, hs.members a x hx⟩
    refine Cell.IsTyped.mono (fun x hx => ?_) hk
    exact (Members.forall_insert (K := fun _ => True) hmembers trivial hv x hx).2

/-! ## Trees -/

mutual

/-- A tree is put into containers of the kinds that it has. -/
theorem retains_load {s : Store} (hs : s.IsTyped) :
    (v : Value) → s.Retains (s.load v).2 ∧ (s.load v).1.IsTyped (s.load v).2
  | .scalar _ => ⟨.refl hs, trivial⟩
  | .array items => by
    obtain ⟨h, hd⟩ := retains_loadItems hs items
    exact ⟨h.trans (retains_add h.typed hd), kindAt?_add _ _⟩
  | .object members => by
    obtain ⟨h, hd⟩ := retains_loadMembers hs members
    exact ⟨h.trans (retains_add h.typed hd), kindAt?_add _ _⟩

theorem retains_loadItems {s : Store} (hs : s.IsTyped) :
    (vs : List Value) → s.Retains (s.loadItems vs).2 ∧
      ∀ d ∈ (s.loadItems vs).1, d.IsTyped (s.loadItems vs).2
  | [] => ⟨.refl hs, List.forall_mem_nil _⟩
  | v :: vs => by
    obtain ⟨h, hd⟩ := retains_load hs v
    obtain ⟨h', hds⟩ := retains_loadItems h.typed vs
    exact ⟨h.trans h', List.forall_mem_cons.mpr ⟨hd.mono h'.kinds, hds⟩⟩

theorem retains_loadMembers {s : Store} (hs : s.IsTyped) :
    (ms : List (Key × Value)) → s.Retains (s.loadMembers ms).2 ∧
      ∀ x ∈ (s.loadMembers ms).1, x.2.IsTyped (s.loadMembers ms).2
  | [] => ⟨.refl hs, List.forall_mem_nil _⟩
  | (_, v) :: ms => by
    obtain ⟨h, hd⟩ := retains_load hs v
    obtain ⟨h', hds⟩ := retains_loadMembers h.typed ms
    exact ⟨h.trans h', List.forall_mem_cons.mpr ⟨hd.mono h'.kinds, hds⟩⟩

end

end Store

end FunctionManual
