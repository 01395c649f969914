import FunctionManual.Proofs.Lookup
import FunctionManual.Proofs.Store.Soundness
import FunctionManual.Proofs.Value.Json
import Mathlib.Data.List.Perm.Subperm

/-!
# Sameness is an equality

* `Value.IsDefinite`: a value of the language in which no float is NaN.
* `Value.part?`: what stands at a place of a value.
* `Value.Match`: at each place are parts of one kind, equal when they are scalars.
* `same_iff_match`: definite values are the same when they match.
* `Value.Rearranged`: the same value with the members of its objects in another order.
* `same_equivalence`: sameness is an equivalence that regards kinds at every place and no order of
  members.
-/

namespace FunctionManual.Value

/-! ## Definite values -/

/-- Members whose keys are different texts. -/
structure HasNames (members : List (Key × Value)) : Prop where
  text : ∀ m ∈ members, m.1.isText
  different : members.Pairwise fun a b => a.1.same b.1 = false

/-- A value of the language in which no float is NaN: scalars have a kind, and the keys of an object
are different texts. -/
inductive IsDefinite : Value → Prop
  | scalar {s : Scalar} (hk : s.kind?.isSome) (hn : s ≠ .float .nan) : IsDefinite (.scalar s)
  | array {items : List Value} (h : ∀ v ∈ items, IsDefinite v) : IsDefinite (.array items)
  | object {members : List (Key × Value)} (hn : HasNames members)
      (h : ∀ m ∈ members, IsDefinite m.2) : IsDefinite (.object members)

theorem IsDefinite.exists_kind {v : Value} (h : v.IsDefinite) : ∃ k, v.kind = .ok k := by
  cases h with
  | @scalar s hk _ =>
    obtain ⟨k, hk⟩ := Option.isSome_iff_exists.mp hk
    exact ⟨k, by rw [kind, show (Value.scalar s).kind? = some k from hk]⟩
  | array _ => exact ⟨.array, rfl⟩
  | object _ _ => exact ⟨.object, rfl⟩

/-! ## Names -/

section HasNames

variable {ms ns : List (Key × Value)}

theorem HasNames.nodup (h : HasNames ms) : (ms.map Prod.fst).Nodup := by
  refine List.pairwise_map.mpr (h.different.imp_of_mem ?_)
  rintro ⟨k, v⟩ ⟨l, w⟩ hm - hne rfl
  have hk := h.text _ hm
  cases k with
  | text name => simp [Members.same_text] at hne
  | _ => cases hk

theorem HasNames.find? (h : HasNames ms) {m : Key × Value} (hm : m ∈ ms) :
    Members.find? m.1 ms = some m.2 := find?_of_distinct h.different h.text m hm

/-- A name is found where it stands. -/
theorem mem_of_find?_text {name : String} {v : Value}
    (h : Members.find? (.text name) ms = some v) : (.text name, v) ∈ ms := by
  induction ms with
  | nil => cases h
  | cons m ms ih =>
    rw [Members.find?] at h
    split at h
    next hs =>
      cases h
      rw [← Members.eq_text_of_same hs]
      exact List.mem_cons_self
    next => exact List.mem_cons_of_mem m (ih h)

theorem HasNames.find?_isSome (h : HasNames ms) {name : String} :
    (Members.find? (.text name) ms).isSome ↔ .text name ∈ ms.map Prod.fst := by
  constructor
  · intro hs
    obtain ⟨v, hv⟩ := Option.isSome_iff_exists.mp hs
    exact List.mem_map_of_mem (mem_of_find?_text hv)
  · intro hm
    obtain ⟨m, hm, hname⟩ := List.mem_map.mp hm
    rw [← hname, h.find? hm]
    rfl

theorem HasNames.perm (h : HasNames ms) (hp : ms.Perm ns) : HasNames ns :=
  ⟨fun m hm => h.text m (hp.mem_iff.mpr hm),
    (hp.pairwise_iff fun hab => by rwa [Key.same, Scalar.looselyEqual_comm]).mp h.different⟩

theorem HasNames.of_keys_eq (h : HasNames ms) (hk : ms.map Prod.fst = ns.map Prod.fst) :
    HasNames ns where
  text n hn := by
    obtain ⟨m, hm, heq⟩ := List.mem_map.mp (hk ▸ List.mem_map_of_mem hn)
    exact heq ▸ h.text m hm
  different := by
    have hd : (ms.map Prod.fst).Pairwise fun k l => k.same l = false :=
      List.pairwise_map.mpr h.different
    exact List.pairwise_map.mp (hk ▸ hd)

/-- Another order of the members leaves what is found under a name. -/
theorem HasNames.find?_perm (h : HasNames ms) (hp : ms.Perm ns) (name : String) :
    Members.find? (.text name) ns = Members.find? (.text name) ms := by
  refine Option.ext fun v => ⟨fun hv => ?_, fun hv => ?_⟩
  · exact h.find? (hp.mem_iff.mpr (mem_of_find?_text hv))
  · exact (h.perm hp).find? (hp.mem_iff.mp (mem_of_find?_text hv))

theorem hasNames_record {entries : List (String × Value)} (h : (entries.map Prod.fst).Nodup) :
    HasNames (entries.map fun (k, v) => (.text k, v)) where
  text m hm := by
    obtain ⟨e, -, rfl⟩ := List.mem_map.mp hm
    rfl
  different := by
    have hd : entries.Pairwise fun e f => e.1 ≠ f.1 := List.pairwise_map.mp h
    refine List.pairwise_map.mpr (hd.imp fun hne => ?_)
    rw [Members.same_text]
    exact beq_eq_false_iff_ne.mpr hne

/-- The keys of an object are among those of another one that holds all of its names. -/
theorem HasNames.keys_subperm (hm : HasNames ms) (hn : HasNames ns)
    (h : ∀ name, (Members.find? (.text name) ms).isSome → (Members.find? (.text name) ns).isSome) :
    (ms.map Prod.fst).Subperm (ns.map Prod.fst) := by
  refine List.subperm_of_subset hm.nodup fun k hk => ?_
  obtain ⟨m, hmem, rfl⟩ := List.mem_map.mp hk
  have htext := hm.text m hmem
  cases hkey : m.1 with
  | text name => exact hn.find?_isSome.mp (h name (hm.find?_isSome.mpr (hkey ▸ hk)))
  | _ => rw [hkey] at htext; cases htext

end HasNames

theorem IsDefinite.record {entries : List (String × Value)} (hd : (entries.map Prod.fst).Nodup)
    (h : ∀ e ∈ entries, e.2.IsDefinite) : (record entries).IsDefinite := by
  refine .object (hasNames_record hd) fun m hm => ?_
  obtain ⟨e, he, rfl⟩ := List.mem_map.mp hm
  exact h e he

/-! ## Comparing ends in an answer -/

theorem exists_sameItems {xs ys : List Value}
    (h : ∀ x ∈ xs, ∀ y ∈ ys, ∃ b, x.same y = .ok b) : ∃ b, sameItems xs ys = .ok b := by
  induction xs generalizing ys with
  | nil => exact ⟨true, by unfold sameItems; rfl⟩
  | cons x xs ih =>
    cases ys with
    | nil => exact ⟨true, by unfold sameItems; rfl⟩
    | cons y ys =>
      obtain ⟨b, hb⟩ := h x List.mem_cons_self y List.mem_cons_self
      rw [sameItems, hb]
      cases b with
      | false => exact ⟨false, rfl⟩
      | true =>
        exact ih fun x hx y hy => h x (List.mem_cons_of_mem _ hx) y (List.mem_cons_of_mem _ hy)

theorem exists_sameMembers {ms ns : List (Key × Value)}
    (h : ∀ m ∈ ms, ∀ n ∈ ns, ∃ b, m.2.same n.2 = .ok b) : ∃ b, sameMembers ms ns = .ok b := by
  induction ms with
  | nil => exact ⟨true, by rw [sameMembers]; rfl⟩
  | cons m ms ih =>
    obtain ⟨k, v⟩ := m
    rw [sameMembers]
    cases hf : Members.find? k ns with
    | none => exact ⟨false, rfl⟩
    | some w =>
      obtain ⟨l, hl⟩ := Members.mem_of_find? hf
      obtain ⟨b, hb⟩ := h (k, v) List.mem_cons_self (l, w) hl
      dsimp only at hb ⊢
      rw [hb]
      cases b with
      | false => exact ⟨false, rfl⟩
      | true => exact ih fun m hm => h m (List.mem_cons_of_mem _ hm)

/-- Definite values are compared. -/
theorem IsDefinite.exists_same {v w : Value} (hv : v.IsDefinite) (hw : w.IsDefinite) :
    ∃ b, v.same w = .ok b := by
  induction hv generalizing w with
  | @scalar s hk hn =>
    obtain ⟨k, hk⟩ := (IsDefinite.scalar hk hn).exists_kind
    obtain ⟨l, hl⟩ := hw.exists_kind
    unfold same
    simp only [hk, hl, bind, Except.bind]
    split
    · exact ⟨_, rfl⟩
    · cases w <;> exact ⟨_, rfl⟩
  | array _ ih =>
    obtain ⟨l, hl⟩ := hw.exists_kind
    unfold same
    cases hw with
    | array hw =>
      dsimp only
      split
      · exact exists_sameItems fun x hx y hy => ih x hx (hw y hy)
      · exact ⟨false, rfl⟩
    | scalar _ _ | object _ _ => exact ⟨false, by rw [hl]; rfl⟩
  | object _ _ ih =>
    obtain ⟨l, hl⟩ := hw.exists_kind
    unfold same
    cases hw with
    | object _ hw =>
      dsimp only
      split
      · exact exists_sameMembers fun m hm n hn => ih m hm (hw n hn)
      · exact ⟨false, rfl⟩
    | scalar _ _ | array _ => exact ⟨false, by rw [hl]; rfl⟩

/-! ## Places -/

/-- Where a part stands in a value. -/
inductive Place
  | item (index : Nat)
  | member (name : String)
  deriving DecidableEq, Repr

/-- What stands at a place of a value, from the outermost step on. -/
def part? : List Place → Value → Option Value
  | [], v => some v
  | .item i :: rest, .array items => items[i]?.bind (part? rest)
  | .member name :: rest, .object members => (Members.find? (.text name) members).bind (part? rest)
  | _ :: _, _ => none

/-- Two values of one kind, equal when they are scalars. -/
inductive Resembles : Value → Value → Prop
  | scalar {a b : Scalar} {k : Kind} (ha : a.kind? = some k) (hb : b.kind? = some k)
      (h : a.looselyEqual b) : Resembles (.scalar a) (.scalar b)
  | array (xs ys : List Value) : Resembles (.array xs) (.array ys)
  | object (ms ns : List (Key × Value)) : Resembles (.object ms) (.object ns)

/-- At each place of two values are parts that resemble each other, or nothing. -/
def Match (v w : Value) : Prop :=
  ∀ places, Option.Rel Resembles (part? places v) (part? places w)

theorem match_bind_iff {a b : Option Value} :
    (∀ places, Option.Rel Resembles (a.bind (part? places)) (b.bind (part? places))) ↔
      Option.Rel Match a b := by
  cases a with
  | none =>
    cases b with
    | none => exact iff_of_true (fun _ => .none) .none
    | some w => exact iff_of_false (fun h => nomatch h []) nofun
  | some v =>
    cases b with
    | none => exact iff_of_false (fun h => nomatch h []) nofun
    | some w => exact ⟨fun h => .some h, fun | .some h => h⟩

theorem match_scalar_iff {a : Scalar} {w : Value} : Match (scalar a) w ↔
    ∃ b k, w = .scalar b ∧ a.kind? = some k ∧ b.kind? = some k ∧ a.looselyEqual b := by
  constructor
  · intro h
    cases h [] with
    | some hroot =>
      cases hroot with
      | scalar ha hb he => exact ⟨_, _, rfl, ha, hb, he⟩
  · rintro ⟨b, k, rfl, ha, hb, h⟩ places
    cases places with
    | nil => exact .some (.scalar ha hb h)
    | cons place rest => cases place <;> exact .none

theorem match_array_iff {xs : List Value} {w : Value} : Match (array xs) w ↔
    ∃ ys, w = .array ys ∧ ∀ i : Nat, Option.Rel Match xs[i]? ys[i]? := by
  constructor
  · intro h
    cases h [] with
    | some hroot =>
      cases hroot with
      | array _ ys => exact ⟨ys, rfl, fun i => match_bind_iff.mp fun rest => h (.item i :: rest)⟩
  · rintro ⟨ys, rfl, h⟩ places
    cases places with
    | nil => exact .some (.array xs ys)
    | cons place rest =>
      cases place with
      | item i => exact match_bind_iff.mpr (h i) rest
      | member name => exact .none

theorem match_object_iff {ms : List (Key × Value)} {w : Value} : Match (object ms) w ↔
    ∃ ns, w = .object ns ∧ ∀ name,
      Option.Rel Match (Members.find? (.text name) ms) (Members.find? (.text name) ns) := by
  constructor
  · intro h
    cases h [] with
    | some hroot =>
      cases hroot with
      | object _ ns =>
        exact ⟨ns, rfl, fun name => match_bind_iff.mp fun rest => h (.member name :: rest)⟩
  · rintro ⟨ns, rfl, h⟩ places
    cases places with
    | nil => exact .some (.object ms ns)
    | cons place rest =>
      cases place with
      | item i => exact .none
      | member name => exact match_bind_iff.mpr (h name) rest

/-! ## Matching -/

section Rel

variable {α : Type} {R S : α → α → Prop} {a b c : Option α}

theorem rel_self (h : ∀ x ∈ a, R x x) : Option.Rel R a a := by
  cases a with
  | none => exact .none
  | some x => exact .some (h x rfl)

theorem rel_congr (h : ∀ x ∈ a, ∀ y ∈ b, (R x y ↔ S x y)) :
    Option.Rel R a b ↔ Option.Rel S a b := by
  cases a with
  | none => exact ⟨fun | .none => .none, fun | .none => .none⟩
  | some x =>
    cases b with
    | none => exact iff_of_false nofun nofun
    | some y =>
      have hxy := h x rfl y rfl
      exact ⟨fun | .some hr => .some (hxy.mp hr), fun | .some hs => .some (hxy.mpr hs)⟩

theorem rel_isSome (h : Option.Rel R a b) : a.isSome ↔ b.isSome := by
  cases h <;> rfl

theorem rel_symm (hR : ∀ {x y}, R x y → R y x) (h : Option.Rel R a b) : Option.Rel R b a := by
  cases h with
  | none => exact .none
  | some h => exact .some (hR h)

theorem rel_trans (hR : ∀ {x y z}, R x y → R y z → R x z) (h : Option.Rel R a b)
    (h' : Option.Rel R b c) : Option.Rel R a c := by
  cases h with
  | none => exact h'
  | some h =>
    cases h' with
    | some h' => exact .some (hR h h')

/-- Lists are related one by one when they are at every index. -/
theorem forall₂_iff_getElem? {xs ys : List α} :
    List.Forall₂ R xs ys ↔ ∀ i : Nat, Option.Rel R xs[i]? ys[i]? := by
  induction xs generalizing ys with
  | nil =>
    cases ys with
    | nil => exact iff_of_true .nil fun _ => .none
    | cons y ys => exact iff_of_false nofun fun h => nomatch h 0
  | cons x xs ih =>
    cases ys with
    | nil => exact iff_of_false nofun fun h => nomatch h 0
    | cons y ys =>
      rw [List.forall₂_cons, ih]
      constructor
      · rintro ⟨hxy, h⟩ i
        cases i with
        | zero => exact .some hxy
        | succ i => exact h i
      · intro h
        refine ⟨?_, fun i => h (i + 1)⟩
        cases h 0 with
        | some hxy => exact hxy

end Rel

/-- Objects are the same when they hold the same values under all names. -/
theorem same_object_iff_names {ms ns : List (Key × Value)} (hm : HasNames ms) (hn : HasNames ns) :
    (object ms).same (object ns) = .ok true ↔ ∀ name, Option.Rel (fun v w => v.same w = .ok true)
      (Members.find? (.text name) ms) (Members.find? (.text name) ns) := by
  rw [same_object_iff]
  constructor
  · rintro ⟨_, ⟨⟩, hl, h⟩ name
    have hfound (name : String) (hs : (Members.find? (.text name) ms).isSome) :
        ∃ v w, Members.find? (.text name) ms = some v ∧ Members.find? (.text name) ns = some w ∧
          v.same w = .ok true := by
      obtain ⟨v, hv⟩ := Option.isSome_iff_exists.mp hs
      obtain ⟨w, hw, hsame⟩ := h _ (mem_of_find?_text hv)
      exact ⟨v, w, hv, hw, hsame⟩
    by_cases hs : (Members.find? (.text name) ms).isSome
    · obtain ⟨v, w, hv, hw, hsame⟩ := hfound name hs
      rw [hv, hw]
      exact .some hsame
    · -- as many keys, so the second object has no others
      have hkeys := (hm.keys_subperm hn fun name hs => by
        obtain ⟨v, w, -, hw, -⟩ := hfound name hs
        rw [hw]
        rfl).perm_of_length_le (by rw [List.length_map, List.length_map, hl])
      have hs' : ¬ (Members.find? (.text name) ns).isSome := by
        rwa [hn.find?_isSome, ← hkeys.mem_iff, ← hm.find?_isSome]
      rw [Option.not_isSome_iff_eq_none.mp hs, Option.not_isSome_iff_eq_none.mp hs']
      exact .none
  · intro h
    have hle := (hm.keys_subperm hn fun name => (rel_isSome (h name)).mp).length_le
    have hge := (hn.keys_subperm hm fun name => (rel_isSome (h name)).mpr).length_le
    rw [List.length_map, List.length_map] at hle hge
    refine ⟨ns, rfl, Nat.le_antisymm hle hge, fun m hmem => ?_⟩
    have hv := hm.find? hmem
    have htext := hm.text m hmem
    cases hkey : m.1 with
    | text name =>
      have hrel := h name
      rw [← hkey, hv] at hrel
      cases hw : Members.find? m.1 ns with
      | none => rw [hw] at hrel; cases hrel
      | some w =>
        rw [hw] at hrel
        cases hrel with
        | some hsame => exact ⟨w, hkey ▸ hw, hsame⟩
    | _ => rw [hkey] at htext; cases htext

/-- Definite values are the same when they match at all places. -/
theorem same_iff_match {v w : Value} (hv : v.IsDefinite) (hw : w.IsDefinite) :
    v.same w = .ok true ↔ Match v w := by
  induction hv generalizing w with
  | scalar _ _ => rw [same_scalar_iff, match_scalar_iff]
  | array _ ih =>
    rw [same_array_iff, match_array_iff]
    refine exists_congr fun ys => and_congr_right fun hys => ?_
    subst hys
    cases hw with
    | array hw =>
      rw [forall₂_iff_getElem?]
      exact forall_congr' fun i => rel_congr fun x hx y hy =>
        ih x (List.mem_of_getElem? hx) (hw y (List.mem_of_getElem? hy))
  | @object ms hm _ ih =>
    cases hw with
    | @object ns hn hw =>
      rw [same_object_iff_names hm hn, match_object_iff]
      have hiff (name : String) := rel_congr (a := Members.find? (.text name) ms)
        (b := Members.find? (.text name) ns) fun v hv w hw' =>
          ih _ (mem_of_find?_text hv) (hw _ (mem_of_find?_text hw'))
      refine ⟨fun h => ⟨ns, rfl, fun name => (hiff name).mp (h name)⟩, ?_⟩
      rintro ⟨_, ⟨⟩, h⟩ name
      exact (hiff name).mpr (h name)
    | scalar _ _ | array _ =>
      rw [same_object_iff, match_object_iff]
      exact iff_of_false nofun nofun

/-! ## Laws -/

theorem Resembles.symm {v w : Value} (h : Resembles v w) : Resembles w v := by
  cases h with
  | scalar ha hb h => exact .scalar hb ha (by rwa [Scalar.looselyEqual_comm])
  | array xs ys => exact .array ys xs
  | object ms ns => exact .object ns ms

theorem Resembles.trans {u v w : Value} (h : Resembles u v) (h' : Resembles v w) :
    Resembles u w := by
  cases h with
  | scalar ha hb h =>
    cases h' with
    | scalar hb' hc h' =>
      cases hb.symm.trans hb'
      exact .scalar ha hc (Scalar.looselyEqual_trans ha hb hc h h')
  | array xs _ =>
    cases h' with
    | array _ zs => exact .array xs zs
  | object ms _ =>
    cases h' with
    | object _ os => exact .object ms os

theorem Resembles.kind?_eq {v w : Value} (h : Resembles v w) : v.kind? = w.kind? := by
  cases h with
  | scalar ha hb _ => exact ha.trans hb.symm
  | array _ _ | object _ _ => rfl

theorem Match.symm {v w : Value} (h : Match v w) : Match w v :=
  fun places => rel_symm Resembles.symm (h places)

theorem Match.trans {u v w : Value} (h : Match u v) (h' : Match v w) : Match u w :=
  fun places => rel_trans Resembles.trans (h places) (h' places)

/-- A definite value matches itself. -/
theorem IsDefinite.match_self {v : Value} (h : v.IsDefinite) : Match v v := by
  induction h with
  | @scalar s hk hn =>
    obtain ⟨k, hk'⟩ := Option.isSome_iff_exists.mp hk
    exact match_scalar_iff.mpr ⟨s, k, rfl, hk', hk', Scalar.looselyEqual_self hk hn⟩
  | @array items _ ih =>
    exact match_array_iff.mpr ⟨items, rfl, fun i => rel_self fun v hv =>
      ih v (List.mem_of_getElem? hv)⟩
  | @object members _ _ ih =>
    exact match_object_iff.mpr ⟨members, rfl, fun name => rel_self fun v hv =>
      ih _ (mem_of_find?_text hv)⟩

/-- Values that match are of one kind at each place. -/
theorem Match.kinds {v w : Value} (h : Match v w) (places : List Place) :
    (part? places v).map kind? = (part? places w).map kind? := by
  have hrel := h places
  generalize part? places v = a, part? places w = b at hrel
  cases hrel with
  | none => rfl
  | some hab => exact congrArg some hab.kind?_eq

/-! ## Order of members -/

/-- The same value with the members of its objects, at any depth, in another order. -/
inductive Rearranged : Value → Value → Prop
  | refl (v : Value) : Rearranged v v
  | members {ms ns : List (Key × Value)} (h : ms.Perm ns) : Rearranged (.object ms) (.object ns)
  | item {before behind : List Value} {v w : Value} (h : Rearranged v w) :
      Rearranged (.array (before ++ v :: behind)) (.array (before ++ w :: behind))
  | member {before behind : List (Key × Value)} {key : Key} {v w : Value} (h : Rearranged v w) :
      Rearranged (.object (before ++ (key, v) :: behind)) (.object (before ++ (key, w) :: behind))
  | trans {u v w : Value} (h : Rearranged u v) (h' : Rearranged v w) : Rearranged u w

/-- A list with another item at one place is related to the list as it was. -/
theorem forall₂_replace {α : Type} {R : α → α → Prop} {before behind : List α} {a b : α}
    (hself : ∀ x ∈ before ++ a :: behind, R x x) (h : R a b) :
    List.Forall₂ R (before ++ a :: behind) (before ++ b :: behind) := by
  refine List.rel_append ?_ (.cons h ?_)
  · exact List.forall₂_same.mpr fun x hx => hself x (List.mem_append_left _ hx)
  · exact List.forall₂_same.mpr fun x hx =>
      hself x (List.mem_append_right _ (List.mem_cons_of_mem a hx))

/-- A rearranged value is as definite and matches the value as it was. -/
theorem Rearranged.spec {v w : Value} (h : Rearranged v w) (hv : v.IsDefinite) :
    w.IsDefinite ∧ Match v w := by
  induction h with
  | refl v => exact ⟨hv, hv.match_self⟩
  | @members ms ns hp =>
    cases hv with
    | object hn hm =>
      refine ⟨.object (hn.perm hp) fun m h => hm m (hp.mem_iff.mpr h),
        match_object_iff.mpr ⟨ns, rfl, fun name => ?_⟩⟩
      rw [hn.find?_perm hp]
      exact rel_self fun v hv => (hm _ (mem_of_find?_text hv)).match_self
  | @item before behind v w _ ih =>
    cases hv with
    | array hitems =>
      obtain ⟨hw, hvw⟩ := ih (hitems v (List.mem_append_right _ List.mem_cons_self))
      refine ⟨.array fun x hx => ?_, match_array_iff.mpr ⟨_, rfl, forall₂_iff_getElem?.mp
        (forall₂_replace (fun x hx => (hitems x hx).match_self) hvw)⟩⟩
      obtain hx | rfl | hx : x ∈ before ∨ x = w ∨ x ∈ behind := by simpa using hx
      · exact hitems x (List.mem_append_left _ hx)
      · exact hw
      · exact hitems x (List.mem_append_right _ (List.mem_cons_of_mem v hx))
  | @member before behind key v w _ ih =>
    cases hv with
    | object hn hm =>
      obtain ⟨hw, hvw⟩ := ih (hm (key, v) (List.mem_append_right _ List.mem_cons_self))
      refine ⟨.object (hn.of_keys_eq (by simp)) fun m hmem => ?_,
        match_object_iff.mpr ⟨_, rfl, fun name => rel_find?_of_forall₂ _
          (forall₂_replace (fun m hmem => ⟨rfl, (hm m hmem).match_self⟩) ⟨rfl, hvw⟩)⟩⟩
      obtain hmem | rfl | hmem : m ∈ before ∨ m = (key, w) ∨ m ∈ behind := by simpa using hmem
      · exact hm m (List.mem_append_left _ hmem)
      · exact hw
      · exact hm m (List.mem_append_right _ (List.mem_cons_of_mem (key, v) hmem))
  | trans _ _ ih ih' =>
    obtain ⟨hw, hvw⟩ := ih hv
    obtain ⟨hx, hwx⟩ := ih' hw
    exact ⟨hx, hvw.trans hwx⟩

/-- Two comparisons of definite values answer alike when they ask for the same matches. -/
theorem same_eq_of_match_iff {v w v' w' : Value} (hv : v.IsDefinite) (hw : w.IsDefinite)
    (hv' : v'.IsDefinite) (hw' : w'.IsDefinite) (h : Match v w ↔ Match v' w') :
    v.same w = v'.same w' := by
  obtain ⟨b, hb⟩ := hv.exists_same hw
  obtain ⟨b', hb'⟩ := hv'.exists_same hw'
  rw [← same_iff_match hv hw, ← same_iff_match hv' hw', hb, hb'] at h
  rw [hb, hb']
  exact congrArg Except.ok (Bool.eq_iff_iff.mpr (by simpa using h))

/-- Sameness of definite values always has an answer and is an equivalence; values that are the
same are of one kind at each place; and no order of members, on either side, changes the answer. -/
theorem same_equivalence {u v w : Value} (hu : u.IsDefinite) (hv : v.IsDefinite)
    (hw : w.IsDefinite) :
    (∃ b, v.same w = .ok b) ∧ v.same v = .ok true ∧ v.same w = w.same v ∧
      (u.same v = .ok true → v.same w = .ok true → u.same w = .ok true) ∧
      (v.same w = .ok true → ∀ places,
        (part? places v).map kind? = (part? places w).map kind?) ∧
      ∀ v' w', Rearranged v v' → Rearranged w w' → v'.same w' = v.same w := by
  refine ⟨hv.exists_same hw, (same_iff_match hv hv).mpr hv.match_self,
    same_eq_of_match_iff hv hw hw hv ⟨Match.symm, Match.symm⟩, ?_, ?_, ?_⟩
  · rw [same_iff_match hu hv, same_iff_match hv hw, same_iff_match hu hw]
    exact Match.trans
  · rw [same_iff_match hv hw]
    exact Match.kinds
  · intro v' w' hvv' hww'
    obtain ⟨hv', hmv⟩ := hvv'.spec hv
    obtain ⟨hw', hmw⟩ := hww'.spec hw
    exact same_eq_of_match_iff hv' hw' hv hw
      ⟨fun h => (hmv.trans h).trans hmw.symm, fun h => (hmv.symm.trans h).trans hmw⟩

/-- Records in two orders are the same, and `false` is not `0`. -/
theorem same_equivalence_record :
    (record [("flag", boolean false), ("zeros", array [scalar (.float (.zero true))])]).same
        (record [("zeros", array [scalar (.float (.zero true))]), ("flag", boolean false)]) =
      .ok true ∧
    (array [record [("flag", boolean false)]]).same (array [record [("flag", integer 0)]]) ≠
      .ok true := by
  have hzeros : (array [scalar (.float (.zero true))]).IsDefinite :=
    .array fun | _, .head _ => .scalar rfl nofun
  have hfalse : (boolean false).IsDefinite := .scalar rfl nofun
  have hrecord : (record [("flag", boolean false),
      ("zeros", array [scalar (.float (.zero true))])]).IsDefinite :=
    .record (by decide) fun | _, .head _ => hfalse | _, .tail _ (.head _) => hzeros
  have hflag (v : Value) (hv : v.IsDefinite) : (array [record [("flag", v)]]).IsDefinite :=
    .array fun | _, .head _ => .record (by simp) fun | _, .head _ => hv
  constructor
  · obtain ⟨-, hself, -, -, -, horder⟩ := same_equivalence hrecord hrecord hrecord
    exact (horder _ _ (.refl _) (.members (.swap _ _ _))).trans hself
  · obtain ⟨-, -, -, -, hkinds, -⟩ := same_equivalence (hflag _ hfalse) (hflag _ hfalse)
      (hflag (integer 0) (.scalar rfl nofun))
    intro hsame
    exact nomatch hkinds hsame [.item 0, .member "flag"]

end FunctionManual.Value
