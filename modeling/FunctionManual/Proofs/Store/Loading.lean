import FunctionManual.Proofs.Store.Soundness
import FunctionManual.Store.Snapshot

/-!
# Trees that are put into a store

* `snapshotUnder_load`: in every later store, what a tree was put into holds that tree.
* `snapshot_load`: so its snapshot is the tree.
* `toValue?_ofValue`: a tree comes back from its snapshot.
-/

namespace FunctionManual

namespace Store

variable {t : Store}

/-! ## Snapshots -/

theorem findIdx?_eq_none_of_forall_lt {above : List Nat} {a : Nat} (h : ∀ b ∈ above, a < b) :
    above.findIdx? (· = a) = none := by
  rw [List.findIdx?_eq_none_iff]
  intro b hb
  exact decide_eq_false (Nat.ne_of_gt (h b hb))

mutual

/-- In every later store, what a tree was put into holds that tree. The containers around it were
added behind its own, so none of these is taken for one of them; each level of the tree takes a
container of its own, so there is a step for each. -/
theorem snapshotUnder_load {s : Store} {fuel : Nat} {above : List Nat} (v : Value)
    (hg : (s.load v).2.Grows t)
    (ha : ∀ a ∈ above, (s.load v).2.cells.size ≤ a)
    (hf : (s.load v).2.cells.size < fuel + s.cells.size) :
    t.snapshotUnder fuel above (s.load v).1 = .ofValue v := by
  have hk := (load_grows s v).kept
  obtain ⟨fuel, rfl⟩ : ∃ f, fuel = f + 1 := ⟨fuel - 1, by omega⟩
  cases v with
  | scalar x => rfl
  | array items =>
    have hsize : (s.load (.array items)).2.cells.size = (s.loadItems items).2.cells.size + 1 :=
      size_add ..
    rw [hsize] at ha hf
    have hcell : t.items (s.loadItems items).2.cells.size = (s.loadItems items).1 := by
      rw [hg.items_eq (by rw [hsize]; exact Nat.lt_succ_self _)]
      exact items_addArray ..
    have habove : above.findIdx? (· = (s.loadItems items).2.cells.size) = none :=
      findIdx?_eq_none_of_forall_lt ha
    show t.snapshotUnder (fuel + 1) above (.array (s.loadItems items).2.cells.size) = _
    rw [snapshotUnder, habove, hcell, Snapshot.ofValue]
    refine congrArg _ (snapshotUnder_loadItems items ((grows_add _ _).trans hg) ?_ ?_)
    · exact List.forall_mem_cons.mpr ⟨Nat.le_refl _, fun a hm => Nat.le_of_succ_le (ha a hm)⟩
    · omega
  | object members =>
    have hsize : (s.load (.object members)).2.cells.size =
        (s.loadMembers members).2.cells.size + 1 := size_add ..
    rw [hsize] at ha hf
    have hcell : t.members (s.loadMembers members).2.cells.size = (s.loadMembers members).1 := by
      rw [hg.members_eq (by rw [hsize]; exact Nat.lt_succ_self _)]
      exact members_addObject ..
    have habove : above.findIdx? (· = (s.loadMembers members).2.cells.size) = none :=
      findIdx?_eq_none_of_forall_lt ha
    show t.snapshotUnder (fuel + 1) above (.object (s.loadMembers members).2.cells.size) = _
    rw [snapshotUnder, habove, hcell, Snapshot.ofValue]
    refine congrArg _ (snapshotUnder_loadMembers members ((grows_add _ _).trans hg) ?_ ?_)
    · exact List.forall_mem_cons.mpr ⟨Nat.le_refl _, fun a hm => Nat.le_of_succ_le (ha a hm)⟩
    · omega

theorem snapshotUnder_loadItems {s : Store} {fuel : Nat} {above : List Nat} (items : List Value)
    (hg : (s.loadItems items).2.Grows t)
    (ha : ∀ a ∈ above, (s.loadItems items).2.cells.size ≤ a)
    (hf : (s.loadItems items).2.cells.size < fuel + s.cells.size) :
    (s.loadItems items).1.map (t.snapshotUnder fuel above) = Snapshot.itemsOfValue items := by
  cases items with
  | nil => rfl
  | cons v rest =>
    have hfirst := (load_grows s v).kept
    have hrest := loadItems_grows (s.load v).2 rest
    have hkept := hrest.kept
    have hlast : (s.loadItems (v :: rest)).2 = ((s.load v).2.loadItems rest).2 := rfl
    rw [hlast] at hg ha hf
    have hfit : ((s.load v).2.loadItems rest).2.cells.size < fuel + (s.load v).2.cells.size := by
      omega
    have hfit' : (s.load v).2.cells.size < fuel + s.cells.size := by omega
    rw [loadItems, List.map_cons, Snapshot.itemsOfValue, snapshotUnder_loadItems rest hg ha hfit,
      snapshotUnder_load v (hrest.trans hg) (fun a hm => Nat.le_trans hkept (ha a hm)) hfit']

theorem snapshotUnder_loadMembers {s : Store} {fuel : Nat} {above : List Nat}
    (members : List (Key × Value))
    (hg : (s.loadMembers members).2.Grows t)
    (ha : ∀ a ∈ above, (s.loadMembers members).2.cells.size ≤ a)
    (hf : (s.loadMembers members).2.cells.size < fuel + s.cells.size) :
    (s.loadMembers members).1.map (fun m => (m.1, t.snapshotUnder fuel above m.2)) =
      Snapshot.membersOfValue members := by
  cases members with
  | nil => rfl
  | cons m rest =>
    obtain ⟨k, v⟩ := m
    have hfirst := (load_grows s v).kept
    have hrest := loadMembers_grows (s.load v).2 rest
    have hkept := hrest.kept
    have hlast : (s.loadMembers ((k, v) :: rest)).2 = ((s.load v).2.loadMembers rest).2 := rfl
    rw [hlast] at hg ha hf
    have hfit : ((s.load v).2.loadMembers rest).2.cells.size < fuel + (s.load v).2.cells.size := by
      omega
    have hfit' : (s.load v).2.cells.size < fuel + s.cells.size := by omega
    rw [loadMembers, List.map_cons, Snapshot.membersOfValue,
      snapshotUnder_loadMembers rest hg ha hfit,
      snapshotUnder_load v (hrest.trans hg) (fun a hm => Nat.le_trans hkept (ha a hm)) hfit']

end

/-- The snapshot of what a tree was put into is that tree. -/
theorem snapshot_load (s : Store) (v : Value) :
    (s.load v).2.snapshot (s.load v).1 = .ofValue v :=
  snapshotUnder_load v (.refl _) nofun (by omega)

end Store

namespace Snapshot

mutual

/-- A tree comes back from its snapshot. -/
theorem toValue?_ofValue (v : Value) : (ofValue v).toValue? = some v := by
  cases v with
  | scalar x => rfl
  | array items => rw [ofValue, toValue?, itemsToValue?_ofValue items]; rfl
  | object members => rw [ofValue, toValue?, membersToValue?_ofValue members]; rfl

theorem itemsToValue?_ofValue (items : List Value) :
    itemsToValue? (itemsOfValue items) = some items := by
  cases items with
  | nil => rfl
  | cons v rest =>
    rw [itemsOfValue, itemsToValue?, toValue?_ofValue v, itemsToValue?_ofValue rest]
    rfl

theorem membersToValue?_ofValue (members : List (Key × Value)) :
    membersToValue? (membersOfValue members) = some members := by
  cases members with
  | nil => rfl
  | cons m rest =>
    obtain ⟨k, v⟩ := m
    rw [membersOfValue, membersToValue?, toValue?_ofValue v, membersToValue?_ofValue rest]
    rfl

end

end Snapshot

end FunctionManual
