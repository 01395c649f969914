import FunctionManual.Proofs.Evaluation.Action
import FunctionManual.Proofs.Json.Reading
import FunctionManual.Proofs.Number.Overflow
import FunctionManual.Proofs.Store.Loading
import FunctionManual.Proofs.Value.Json
import FunctionManual.Standard.ParseJson

/-!
# What `parse_json` yields

* `Builtin.Yields`: a function returns a datum that holds a tree.
* `parseJson_yields_iff`: a text yields the value of its tree, limited to a depth within range.
* `Value.HasFloats`: what is known of every float in a value.
* `isJson_ofJson_iff`: JSON holds the value of a tree just when its floats are finite.
* `parseJson_yields_json`: what is yielded is JSON, but for the infinities that stand for numerals
  whose value is too large.
-/

namespace FunctionManual

open FunctionManual.Text

/-- A function returns a datum that holds a tree. -/
def Builtin.Yields (b : Builtin) (a : Arguments) (m : Machine) (v : Value) : Prop :=
  ∃ d m', b.evaluator a m = (.ok d, m') ∧ (m'.store.snapshot d).toValue? = some v

namespace Standard

/-! ## Arguments -/

/-- The arguments of `parse_json`; a limit that is not given is left out. -/
def documentArguments (text : String) (limit : Option Int) : Arguments :=
  ("value", .scalar (.string text)) :: limit.toList.map (fun i => ("max_depth", .scalar (.integer i)))

/-- A limit is within range, if there is one. -/
def IsDepth (limit : Option Int) : Prop := ∀ i ∈ limit, 1 ≤ i ∧ i ≤ 128

theorem isDepth_none : IsDepth none := nofun

theorem isDepth_some {i : Int} : IsDepth (some i) ↔ 1 ≤ i ∧ i ≤ 128 := by
  simp only [IsDepth, Option.mem_def, Option.some.injEq, forall_eq']

theorem documentArguments_checked (text : String) (limit : Option Int) :
    parseJson.checkNames (documentArguments text limit) = .ok () := by
  cases limit <;> rfl

theorem documentArguments_limit (text : String) (limit : Option Int) :
    (documentArguments text limit).get "max_depth" =
      .scalar (limit.elim .null .integer) := by
  cases limit <;> rfl

/-- The limit that is read is the one that is given, and is within range. -/
theorem readDepth_eq_ok_iff {limit found : Option Int} {m m' : Machine} :
    readDepth (.scalar (limit.elim .null .integer)) m = (.ok found, m') ↔
      IsDepth limit ∧ found = limit ∧ m' = m := by
  have returned (l : Option Int) : (pure l : Action (Option Int)) m = (.ok found, m') ↔
      found = l ∧ m' = m := by
    rw [Action.pure_run, Prod.mk.injEq, Except.ok.injEq, eq_comm, @eq_comm _ m]
  cases limit with
  | none => exact (returned none).trans (and_iff_right isDepth_none).symm
  | some i =>
    simp only [Option.elim_some, readDepth, Scalar.number?, depthOf?, Bool.and_eq_true,
      decide_eq_true_eq, isDepth_some]
    split
    next hi => exact (returned (some i)).trans (and_iff_right hi).symm
    next hi =>
      refine iff_of_false (fun h => ?_) fun h => hi h.1
      unfold refuseDepth at h
      dsimp only at h
      split at h
      next => cases h
      next => cases h

theorem readDocument_eq_ok_iff {text : String} {j : Json} {m m' : Machine} :
    readDocument (.scalar (.string text)) m = (.ok j, m') ↔
      Json.read true text = .ok j ∧ m' = m := by
  rw [readDocument]
  cases Json.read true text with
  | ok k =>
    show ((Except.ok k, m) : Except Fault Json × Machine) = _ ↔ _
    rw [Prod.mk.injEq, Except.ok.injEq, Except.ok.injEq, @eq_comm _ m]
  | error e => exact iff_of_false nofun fun h => nomatch h.1

/-! ## Values -/

/-- A tree with its depth limited, if there is a limit. -/
def limited (limit : Option Int) (j : Json) : Json := limit.elim j fun n => j.limitDepth n 1

theorem parseJson_run (text : String) (limit : Option Int) (m : Machine) :
    parseJson.evaluator (documentArguments text limit) m = (do
      let found ← readDepth (.scalar (limit.elim .null .integer))
      let j ← readDocument (.scalar (.string text))
      Action.load (.ofJson (limited found j))) m := by
  rw [Builtin.evaluator, documentArguments_checked, Action.bind_of_ok (Action.ofExcept_run _ _),
    ← documentArguments_limit text]
  refine congrFun (congrArg (_ >>= ·) (funext fun found => congrArg (_ >>= ·) (funext fun j => ?_))) m
  cases found <;> rfl

/-- A text yields the value of its tree, limited to a depth within range, and nothing else. -/
theorem parseJson_yields_iff {text : String} {limit : Option Int} {m : Machine} {v : Value} :
    parseJson.Yields (documentArguments text limit) m v ↔
      IsDepth limit ∧ ∃ j, Json.read true text = .ok j ∧ v = .ofJson (limited limit j) := by
  have loaded (u : Value) (s : Store) :
      ((s.load u).2.snapshot (s.load u).1).toValue? = some u := by
    rw [Store.snapshot_load, Snapshot.toValue?_ofValue]
  constructor
  · rintro ⟨d, m', hrun, hv⟩
    rw [parseJson_run] at hrun
    obtain ⟨found, m₁, hdepth, hbehind⟩ := Action.bind_eq_ok hrun
    obtain ⟨hlimit, rfl, rfl⟩ := readDepth_eq_ok_iff.mp hdepth
    obtain ⟨j, m₂, hread, hload⟩ := Action.bind_eq_ok hbehind
    obtain ⟨hj, rfl⟩ := readDocument_eq_ok_iff.mp hread
    cases hload
    exact ⟨hlimit, j, hj, Option.some.inj (hv.symm.trans (loaded _ _))⟩
  · rintro ⟨hlimit, j, hj, rfl⟩
    let u := Value.ofJson (limited limit j)
    refine ⟨_, { m with store := (m.store.load u).2 }, ?_, loaded u m.store⟩
    rw [parseJson_run, Action.bind_of_ok (readDepth_eq_ok_iff.mpr ⟨hlimit, rfl, rfl⟩),
      Action.bind_of_ok (readDocument_eq_ok_iff.mpr ⟨hj, rfl⟩)]
    rfl

end Standard

/-! ## Floats -/

/-- Scalars and keys without limits, but that every float is one of these. -/
def Material.floats (F : Binary64 → Prop) : Material :=
  ⟨fun s => ∀ x, s = .float x → F x, fun _ => True, nofun, fun _ => trivial⟩

/-- Every float in a value is one of these. -/
def Value.HasFloats (F : Binary64 → Prop) (v : Value) : Prop := v.IsMadeOf (.floats F)

namespace Value

variable {F : Binary64 → Prop}

/-- The floats of the value of a tree are those of the tree. -/
theorem hasFloats_ofJson_iff {j : Json} : (ofJson j).HasFloats F ↔ j.HasFloats F := by
  constructor
  · intro h
    induction j using Json.induct with
    | null => exact .null
    | boolean b => exact .boolean b
    | integer i => exact .integer i
    | string s => exact .string s
    | float x =>
      cases h with
      | scalar h => exact .float (h x rfl)
    | array items ih =>
      rw [ofJson, itemsOfJson_eq_map] at h
      cases h with
      | array h => exact .array fun j hj => ih j hj (List.forall_mem_map.mp h j hj)
    | object members ih =>
      rw [ofJson, membersOfJson_eq_map] at h
      cases h with
      | object _ h => exact .object fun m hm => ih m hm (List.forall_mem_map.mp h m hm)
  · intro h
    induction h with
    | null | boolean _ | integer _ | string _ => exact .scalar nofun
    | float h => exact .scalar fun _ he => Scalar.float.inj he ▸ h
    | array _ ih =>
      rw [ofJson, itemsOfJson_eq_map]
      exact .array (List.forall_mem_map.mpr ih)
    | object _ ih =>
      rw [ofJson, membersOfJson_eq_map]
      exact .object (fun _ _ => trivial) (List.forall_mem_map.mpr ih)

/-- JSON holds the value of a tree just when every float in it is finite. -/
theorem isJson_ofJson_iff {j : Json} :
    (ofJson j).isJson ↔ (ofJson j).HasFloats (·.isFinite) := by
  rw [hasFloats_ofJson_iff]
  constructor
  · intro h
    induction j using Json.induct with
    | null => exact .null
    | boolean b => exact .boolean b
    | integer i => exact .integer i
    | string s => exact .string s
    | float x => exact .float h
    | array items ih =>
      rw [ofJson, itemsOfJson_eq_map] at h
      have h := List.forall_mem_map.mp (itemsAreJson_iff.mp h)
      exact .array fun j hj => ih j hj (h j hj)
    | object members ih =>
      rw [ofJson, membersOfJson_eq_map] at h
      have h := List.forall_mem_map.mp (membersAreJson_iff.mp h)
      exact .object fun m hm => ih m hm (h m hm).2
  · intro h
    induction h with
    | null | boolean _ | integer _ | string _ => rfl
    | float h => exact h
    | array _ ih =>
      rw [ofJson, itemsOfJson_eq_map]
      exact itemsAreJson_iff.mpr (List.forall_mem_map.mpr ih)
    | object _ ih =>
      rw [ofJson, membersOfJson_eq_map]
      exact membersAreJson_iff.mpr (List.forall_mem_map.mpr fun m hm => ⟨rfl, ih m hm⟩)

end Value

/-! ## Limited trees -/

namespace Json

theorem limitItems_eq_map (most : Int) (depth : Nat) (js : List Json) :
    limitItems most depth js = js.map (limitDepth most depth) := by
  induction js with
  | nil => rfl
  | cons j js ih => rw [limitItems, ih, List.map_cons]

theorem limitMembers_eq_map (most : Int) (depth : Nat) (ms : List (String × Json)) :
    limitMembers most depth ms = ms.map fun m => (m.1, limitDepth most depth m.2) := by
  induction ms with
  | nil => rfl
  | cons m ms ih => rw [limitMembers, ih, List.map_cons]

/-- A limit brings no new floats. -/
theorem HasFloats.limitDepth {F : Binary64 → Prop} {j : Json} (h : j.HasFloats F) (most : Int)
    (depth : Nat) : (j.limitDepth most depth).HasFloats F := by
  induction h generalizing depth with
  | null => exact .null
  | boolean b => exact .boolean b
  | integer i => exact .integer i
  | float h => exact .float h
  | string s => exact .string s
  | array _ ih =>
    unfold Json.limitDepth
    split
    · exact .string _
    · rw [limitItems_eq_map]
      exact .array (List.forall_mem_map.mpr fun j hj => ih j hj (depth + 1))
  | object _ ih =>
    unfold Json.limitDepth
    split
    · exact .string _
    · rw [limitMembers_eq_map]
      exact .object (List.forall_mem_map.mpr fun m hm => ih m hm (depth + 1))

theorem HasFloats.mono {F G : Binary64 → Prop} {j : Json} (h : j.HasFloats F)
    (hFG : ∀ x, F x → G x) : j.HasFloats G := by
  induction h with
  | null => exact .null
  | boolean b => exact .boolean b
  | integer i => exact .integer i
  | float h => exact .float (hFG _ h)
  | string s => exact .string s
  | array _ ih => exact .array ih
  | object _ ih => exact .object ih

end Json

/-! ## Infinities -/

/-- A numeral stands somewhere in a text. -/
def Numeral.StandsIn (n : Numeral) (text : String) : Prop :=
  ∃ t, n.IsSpelled t ∧ t <:+: text.toList

namespace Standard

/-- A double that is finite, or the infinity for which a numeral in a text stands. -/
def IsWritten (text : String) (x : Binary64) : Prop :=
  x.isFinite ∨ ∃ n : Numeral, n.StandsIn text ∧ n.Overflows ∧ x = .infinite n.negative

/-- The names of numbers that are not finite are refused, but numerals are not checked: what is
yielded is JSON just when its floats are finite, and each of them is, unless a numeral in the text is
too large. -/
theorem parseJson_yields_json {text : String} {limit : Option Int} {m : Machine} {v : Value}
    (h : parseJson.Yields (documentArguments text limit) m v) :
    (v.isJson ↔ v.HasFloats (·.isFinite)) ∧ v.HasFloats (IsWritten text) ∧
      (v.isJson ∨ ∃ n : Numeral, n.StandsIn text ∧ n.Overflows) := by
  obtain ⟨-, j, hj, rfl⟩ := parseJson_yields_iff.mp h
  have hlimited {F : Binary64 → Prop} (hF : j.HasFloats F) : (limited limit j).HasFloats F := by
    cases limit with
    | none => exact hF
    | some n => exact hF.limitDepth n 1
  have hwritten : ∀ x, (∃ n t, Numeral.IsSpelled n t ∧ t <:+: text.toList ∧ x = n.value) →
      IsWritten text x := by
    rintro x ⟨n, t, hn, ht, rfl⟩
    rcases n.value_cases with ⟨-, hfinite⟩ | ⟨ho, hvalue⟩
    · exact .inl hfinite
    · exact .inr ⟨n, ⟨t, hn, ht⟩, ho, hvalue⟩
  have hfloats := (Json.read_floats hj).mono hwritten
  refine ⟨Value.isJson_ofJson_iff, Value.hasFloats_ofJson_iff.mpr (hlimited hfloats), ?_⟩
  by_cases ho : ∃ n : Numeral, n.StandsIn text ∧ n.Overflows
  · exact .inr ho
  · left
    rw [Value.isJson_ofJson_iff, Value.hasFloats_ofJson_iff]
    refine hlimited (hfloats.mono fun x hx => hx.resolve_right ?_)
    rintro ⟨n, hn, hover, -⟩
    exact ho ⟨n, hn, hover⟩

/-- Below the limit an infinity is text, which JSON holds. -/
theorem parseJson_yields_json_folded : ∃ v,
    parseJson.Yields (documentArguments "[2.5, [1e999]]" (some 1)) {} v ∧
      v.HasFloats (·.isFinite) := by
  have hread : (Json.read true "[2.5, [1e999]]").toOption.any fun j =>
      (Value.ofJson (limited (some 1) j)).isJson := by decide +kernel
  obtain ⟨j, hj, hjson⟩ := exists_ok_of_any hread
  have hyields : parseJson.Yields (documentArguments "[2.5, [1e999]]" (some 1)) {} _ :=
    parseJson_yields_iff.mpr ⟨isDepth_some.mpr (by decide), j, hj, rfl⟩
  exact ⟨_, hyields, (parseJson_yields_json hyields).1.mp hjson⟩

/-- A numeral that is too large yields a value that JSON does not hold. -/
theorem parseJson_yields_infinity : ¬ ∀ text limit m v,
    parseJson.Yields (documentArguments text limit) m v → v.isJson := by
  intro h
  have hread : (Json.read true "1e999").toOption.any fun j => !(Value.ofJson j).isJson := by
    decide +kernel
  obtain ⟨j, hj, hnot⟩ := exists_ok_of_any hread
  have hjson := h "1e999" none {} _ (parseJson_yields_iff.mpr ⟨isDepth_none, j, hj, rfl⟩)
  rw [limited, Option.elim_none] at hjson
  rw [hjson] at hnot
  cases hnot

end Standard

end FunctionManual
