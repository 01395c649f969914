import FunctionManual.Collection.Basic
import Mathlib.Data.List.Forall2
import Mathlib.Data.List.Induction
import Mathlib.Data.List.Nodup
import Mathlib.Data.List.Perm.Basic

/-!
# Lists of pairs as tables

* `lookup_eq_none_iff_not_mem`: a name without a value is no name of the table.
* `lookup_eq_some_iff_mem`: where no name stands twice, the value of a name is the one beside it.
* `lookup_eq_of_perm`: then the order of the table does not matter.
* `rel_lookup_of_forall₂`, `rel_find?_of_forall₂`: tables and members that are related one by one
  have related values.
* `Table.lookup_alter`: the value of one key changes, and no other; keys stay distinct
  (`Table.nodup_alter`).
* `Table.lookup_groups`: the group of a key holds the values with this key, in their order.
* `Table.index_eq_of_nodup`: where no key stands twice, an index holds every value beside its key.
* `Table.flatMap_groups_perm`: groups give back all values, each as often as it was there.
-/

namespace FunctionManual

variable {κ α : Type} [BEq κ] [LawfulBEq κ] {table : List (κ × α)} {name : κ} {value : α}

theorem lookup_eq_none_iff_not_mem : table.lookup name = none ↔ name ∉ table.map (·.1) := by
  simp only [List.lookup_eq_none_iff, List.mem_map, not_exists, not_and, bne_iff_ne, ne_eq]
  exact ⟨fun h x hx hn => h x hx hn.symm, fun h x hx hn => h x hx hn.symm⟩

theorem mem_of_lookup_eq_some (h : table.lookup name = some value) : (name, value) ∈ table := by
  obtain ⟨before, after, rfl, -⟩ := List.lookup_eq_some_iff.mp h
  exact List.mem_append_right _ List.mem_cons_self

/-- Where no name stands twice, the value of a name is the one beside it. -/
theorem lookup_eq_some_iff_mem (hn : (table.map (·.1)).Nodup) :
    table.lookup name = some value ↔ (name, value) ∈ table := by
  refine ⟨mem_of_lookup_eq_some, fun hm => ?_⟩
  induction table with
  | nil => cases hm
  | cons x table ih =>
    obtain ⟨hx, hn⟩ := List.nodup_cons.mp hn
    rcases List.mem_cons.mp hm with rfl | hm
    · rw [List.lookup_cons, beq_self_eq_true]
    · have hne : name ≠ x.1 := fun he => hx (List.mem_map.mpr ⟨_, hm, he⟩)
      rw [List.lookup_cons, beq_false_of_ne hne]
      exact ih hn hm

/-- Where no name stands twice, the order of a table does not matter. -/
theorem lookup_eq_of_perm {other : List (κ × α)} (hn : (table.map (·.1)).Nodup)
    (hp : table.Perm other) (name : κ) : table.lookup name = other.lookup name := by
  refine Option.ext fun value => ?_
  have hn' : (other.map (·.1)).Nodup := (hp.map (·.1)).nodup_iff.mp hn
  rw [lookup_eq_some_iff_mem hn, lookup_eq_some_iff_mem hn', hp.mem_iff]

variable {β : Type} {R : α → β → Prop}

theorem rel_mono {S : α → β → Prop} {a : Option α} {b : Option β} (h : Option.Rel R a b)
    (hRS : ∀ x y, R x y → S x y) : Option.Rel S a b := by
  cases h with
  | none => exact .none
  | some h => exact .some (hRS _ _ h)

omit [LawfulBEq κ] in
/-- Tables with the same names in the same order have related values. -/
theorem rel_lookup_of_forall₂ {other : List (κ × β)} (name : κ)
    (h : List.Forall₂ (fun x y => x.1 = y.1 ∧ R x.2 y.2) table other) :
    Option.Rel R (table.lookup name) (other.lookup name) := by
  induction h with
  | nil => exact .none
  | @cons x y _ _ hxy _ ih =>
    rw [List.lookup_cons, List.lookup_cons, hxy.1]
    split
    · exact .some hxy.2
    · exact ih

/-- Members under the same keys in the same order are found together. -/
theorem rel_find?_of_forall₂ {ms : Members α} {ns : Members β} (key : Key)
    (h : List.Forall₂ (fun m n => m.1 = n.1 ∧ R m.2 n.2) ms ns) :
    Option.Rel R (ms.find? key) (ns.find? key) := by
  induction h with
  | nil => exact .none
  | @cons m n ms ns hmn _ ih =>
    obtain ⟨k, v⟩ := m
    obtain ⟨l, w⟩ := n
    obtain ⟨rfl, hvw⟩ := hmn
    unfold Members.find?
    split
    · exact .some hvw
    · exact ih

/-! ## Tables that are built value by value -/

namespace Table

/-- The value of one key changes, and no other. -/
theorem lookup_alter (key q : κ) (change : Option α → α) (table : List (κ × α)) :
    (alter key change table).lookup q =
      if q == key then some (change (table.lookup q)) else table.lookup q := by
  induction table with
  | nil =>
    rw [alter, List.lookup_cons]
    cases q == key <;> rfl
  | cons m table ih =>
    obtain ⟨k, a⟩ := m
    by_cases hk : k = key
    · subst hk
      rw [alter, if_pos (beq_self_eq_true k), List.lookup_cons, List.lookup_cons]
      cases q == k <;> rfl
    · rw [alter, if_neg (by simpa using hk), List.lookup_cons, List.lookup_cons, ih]
      by_cases hq : q = k
      · subst hq
        simp [hk]
      · simp [beq_false_of_ne hq]

/-- A key that is not there comes last. -/
theorem alter_of_not_mem {key : κ} {table : List (κ × α)} (change : Option α → α)
    (h : key ∉ table.map Prod.fst) : alter key change table = table ++ [(key, change none)] := by
  induction table with
  | nil => rfl
  | cons m table ih =>
    obtain ⟨hm, h⟩ := List.ne_and_not_mem_of_not_mem_cons h
    rw [alter, if_neg (by simpa using Ne.symm hm), ih h]
    rfl

/-- A key that is there keeps its place. -/
theorem keys_alter_of_mem {key : κ} {table : List (κ × α)} (change : Option α → α)
    (h : key ∈ table.map Prod.fst) :
    (alter key change table).map Prod.fst = table.map Prod.fst := by
  induction table with
  | nil => cases h
  | cons m table ih =>
    rw [alter]
    split
    · rfl
    next hm =>
      have hne : key ≠ m.1 := fun he => hm (by simp [he])
      rw [List.map_cons, List.map_cons, ih ((List.mem_cons.mp h).resolve_left hne)]

theorem nodup_alter {key : κ} {table : List (κ × α)} (change : Option α → α)
    (h : (table.map Prod.fst).Nodup) : ((alter key change table).map Prod.fst).Nodup := by
  by_cases hk : key ∈ table.map Prod.fst
  · rwa [keys_alter_of_mem change hk]
  · rw [alter_of_not_mem change hk, List.map_append]
    refine List.nodup_append.mpr ⟨h, List.nodup_singleton _, ?_⟩
    rintro k hm q hq rfl
    obtain rfl := List.mem_singleton.mp hq
    exact hk hm

variable (key : α → κ)

omit [LawfulBEq κ] in
theorem groups_append (values : List α) (a : α) : groups key (values ++ [a]) =
    alter (key a) (fun found => found.getD [] ++ [a]) (groups key values) := by
  rw [groups, List.foldl_append]
  rfl

omit [LawfulBEq κ] in
theorem index_append (values : List α) (a : α) :
    index key (values ++ [a]) = alter (key a) (fun _ => a) (index key values) := by
  rw [index, List.foldl_append]
  rfl

/-- The group of a key holds the values with this key, in their order; there is none without values.
The induction follows the grouping, which takes the values from the first to the last. -/
theorem lookup_groups (values : List α) (k : κ) : (groups key values).lookup k =
    if values.filter (key · == k) = [] then none else some (values.filter (key · == k)) := by
  induction values using List.reverseRecOn with
  | nil => rfl
  | append_singleton values a ih =>
    rw [groups_append, lookup_alter, ih, List.filter_append]
    by_cases hk : key a = k
    · subst hk
      have hlast : [a].filter (key · == key a) = [a] := by simp
      have hne : values.filter (key · == key a) ++ [a] ≠ [] :=
        List.append_ne_nil_of_right_ne_nil _ (List.cons_ne_nil _ _)
      rw [hlast, if_pos (beq_self_eq_true _), if_neg hne]
      split
      next hnil => rw [hnil]; rfl
      next => rfl
    · have hlast : [a].filter (key · == k) = [] := by simp [hk]
      rw [hlast, List.append_nil, beq_false_of_ne (Ne.symm hk)]
      rfl

/-- Where no key stands twice, an index holds every value beside its key. -/
theorem index_eq_of_nodup {values : List α} (h : (values.map key).Nodup) :
    index key values = values.map fun a => (key a, a) := by
  induction values using List.reverseRecOn with
  | nil => rfl
  | append_singleton values a ih =>
    rw [List.map_append, List.nodup_append] at h
    obtain ⟨hvalues, -, hnew⟩ := h
    rw [index_append, ih hvalues, List.map_append, alter_of_not_mem]
    · rfl
    · rw [List.map_map]
      exact fun hm => hnew _ hm _ (List.mem_singleton_self _) rfl

/-- Values whose keys are among some that are all different are given back by their groups. -/
theorem flatMap_groups_perm {ks : List κ} {values : List α} (hks : ks.Nodup)
    (h : ∀ a ∈ values, key a ∈ ks) :
    (ks.flatMap fun k => values.filter (key · == k)).Perm values := by
  induction ks generalizing values with
  | nil =>
    have hnil : values = [] := List.eq_nil_iff_forall_not_mem.mpr fun a ha => nomatch h a ha
    rw [hnil]
    exact .refl _
  | cons k ks ih =>
    obtain ⟨hk, hks⟩ := List.nodup_cons.mp hks
    -- the groups of the other keys are those of the values without this key
    have others : (ks.flatMap fun q => values.filter (key · == q)) =
        ks.flatMap fun q => (values.filter (!key · == k)).filter (key · == q) := by
      refine List.flatMap_congr fun q hq => ?_
      rw [List.filter_filter]
      refine List.filter_congr fun a _ => ?_
      by_cases ha : key a = q
      · have hne : key a ≠ k := by rintro rfl; exact hk (ha ▸ hq)
        simp [ha, ha ▸ hne]
      · simp [ha]
    have found : ∀ a ∈ values.filter (!key · == k), key a ∈ ks := by
      intro a ha
      obtain ⟨hm, hne⟩ := List.mem_filter.mp ha
      exact (List.mem_cons.mp (h a hm)).resolve_left (by simpa using hne)
    rw [List.flatMap_cons, others]
    exact ((ih hks found).append_left _).trans (List.filter_append_perm _ values)

end Table

end FunctionManual
