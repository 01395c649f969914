import FunctionManual.Proofs.Standard.Documents

/-!
# The depth limit of `parse_json`

* `Folded`: a value in which the containers below so many levels are replaced by their text.
* `Folded.nestsWithin`, `Folded.eq_of_nestsWithin`: such a value has no more levels, and is the value
  itself where that has no more.
* `folded_limitDepth`: limiting the depth of a tree folds its value.
* `parseJson_folds`: so a limit folds what is yielded, and loses nothing.
-/

namespace FunctionManual.Standard

variable {n : Nat} {v w : Value}

/-- The second value is the first with every container below `n` levels of containers replaced by a
text that yields it; all above is kept, in order. -/
def Folded : Nat → Value → Value → Prop
  | _, .scalar s, w => w = .scalar s
  | 0, v, w => ∃ text, w = .string text ∧
      ∀ m, parseJson.Yields (documentArguments text none) m v
  | n + 1, .array xs, w => ∃ ys, w = .array ys ∧ List.Forall₂ (Folded n) xs ys
  | n + 1, .object ms, w => ∃ ns, w = .object ns ∧
      List.Forall₂ (fun x y => x.1 = y.1 ∧ Folded n x.2 y.2) ms ns

/-- Containers are nested in at most so many levels. -/
def NestsWithin : Nat → Value → Prop
  | _, .scalar _ => True
  | 0, _ => False
  | n + 1, .array xs => ∀ x ∈ xs, NestsWithin n x
  | n + 1, .object ms => ∀ m ∈ ms, NestsWithin n m.2

/-! ## Folded values -/

/-- A folded value has no more levels. -/
theorem Folded.nestsWithin (h : Folded n v w) : NestsWithin n w := by
  induction n generalizing v w with
  | zero =>
    cases v with
    | scalar s => cases h; exact trivial
    | array _ | object _ =>
      obtain ⟨text, rfl, -⟩ := h
      exact trivial
  | succ n ih =>
    cases v with
    | scalar s => cases h; exact trivial
    | array xs =>
      obtain ⟨ys, rfl, hs⟩ := h
      intro y hy
      obtain ⟨x, -, hxy⟩ := exists_of_mem_of_forall₂ hs y hy
      exact ih hxy
    | object ms =>
      obtain ⟨ns, rfl, hs⟩ := h
      intro y hy
      obtain ⟨x, -, -, hxy⟩ := exists_of_mem_of_forall₂ hs y hy
      exact ih hxy

/-- A value that has no more levels is folded to itself only. -/
theorem Folded.eq_of_nestsWithin (h : Folded n v w) (hn : NestsWithin n v) : w = v := by
  induction n generalizing v w with
  | zero =>
    cases v with
    | scalar s => exact h
    | array _ | object _ => exact hn.elim
  | succ n ih =>
    cases v with
    | scalar s => exact h
    | array xs =>
      obtain ⟨ys, rfl, hs⟩ := h
      have heq : List.Forall₂ Eq ys xs :=
        (forall₂_imp_of_mem hs fun x hx y _ hxy => ih hxy (hn x hx)).flip
      exact congrArg Value.array (List.forall₂_eq_eq_eq ▸ heq)
    | object ms =>
      obtain ⟨ns, rfl, hs⟩ := h
      have heq : List.Forall₂ Eq ns ms :=
        (forall₂_imp_of_mem hs fun x hx y _ hxy =>
          Prod.ext hxy.1.symm (ih hxy.2 (hn x hx))).flip
      exact congrArg Value.object (List.forall₂_eq_eq_eq ▸ heq)

/-! ## Limited trees -/

/-- A container that is below the limit becomes a text that yields it. -/
theorem yields_compact {j : Json} (ht : j.IsTidy) (hf : j.HasFloats (·.isFinite)) (m : Machine) :
    parseJson.Yields (documentArguments j.compact none) m (.ofJson j) :=
  parseJson_yields_iff.mpr ⟨isDepth_none, j, Json.read_compact ht hf, rfl⟩

/-- Limiting the depth of a tree folds its value. The induction is on the levels that are left. -/
theorem folded_limitDepth {most : Int} {depth : Nat} (hn : most + 1 = depth + n) {j : Json}
    (ht : j.IsTidy) (hf : j.HasFloats (·.isFinite)) :
    Folded n (.ofJson j) (.ofJson (j.limitDepth most depth)) := by
  induction n generalizing j depth with
  | zero =>
    have hdeep : most < depth := by omega
    cases j with
    | array items =>
      rw [Json.limitDepth, if_pos hdeep]
      exact ⟨_, rfl, yields_compact ht hf⟩
    | object members =>
      rw [Json.limitDepth, if_pos hdeep]
      exact ⟨_, rfl, yields_compact ht hf⟩
    | null | boolean _ | integer _ | float _ | string _ => rfl
  | succ n ih =>
    have hdeep : ¬ most < depth := by omega
    cases j with
    | array items =>
      cases ht with
      | array ht =>
        cases hf with
        | array hf =>
          rw [Json.limitDepth, if_neg hdeep, Json.limitItems_eq_map, Value.ofJson, Value.ofJson,
            Value.itemsOfJson_eq_map, Value.itemsOfJson_eq_map]
          refine ⟨_, rfl, ?_⟩
          rw [List.forall₂_map_left_iff, List.map_map, List.forall₂_map_right_iff,
            List.forall₂_same]
          exact fun j hj => ih (by omega) (ht j hj) (hf j hj)
    | object members =>
      cases ht with
      | object _ ht =>
        cases hf with
        | object hf =>
          rw [Json.limitDepth, if_neg hdeep, Json.limitMembers_eq_map, Value.ofJson, Value.ofJson,
            Value.membersOfJson_eq_map, Value.membersOfJson_eq_map]
          refine ⟨_, rfl, ?_⟩
          rw [List.forall₂_map_left_iff, List.map_map, List.forall₂_map_right_iff,
            List.forall₂_same]
          exact fun m hm => ⟨rfl, ih (by omega) (ht m hm) (hf m hm)⟩
    | null | boolean _ | integer _ | float _ | string _ => rfl

/-- A limit replaces the containers below it by texts that yield them and keeps all else; so what is
yielded has no more levels than the limit, and is what is yielded without one where that has no
more. -/
theorem parseJson_folds {text : String} {d : Nat} {m : Machine} (hd : 1 ≤ d ∧ d ≤ 128)
    (h : parseJson.Yields (documentArguments text none) m v) (hf : v.HasFloats (·.isFinite)) :
    ∃ w, (∀ m' u, parseJson.Yields (documentArguments text (some d)) m' u ↔ u = w) ∧
      Folded d v w ∧ NestsWithin d w ∧ (NestsWithin d v → w = v) := by
  obtain ⟨-, j, hj, rfl⟩ := parseJson_yields_iff.mp h
  have hdepth : IsDepth (some (d : Int)) := isDepth_some.mpr (by omega)
  have hfold : Folded d (.ofJson j) (.ofJson (j.limitDepth d 1)) :=
    folded_limitDepth (by omega) (Json.read_tidy hj) (Value.hasFloats_ofJson_iff.mp hf)
  refine ⟨_, fun m' u => ?_, hfold, hfold.nestsWithin, hfold.eq_of_nestsWithin⟩
  rw [parseJson_yields_iff, and_iff_right hdepth, hj]
  constructor
  · rintro ⟨k, hk, rfl⟩
    cases hk
    rfl
  · rintro rfl
    exact ⟨j, rfl, rfl⟩

/-- With one level left, an array in an array becomes text, and the integer beside it stays. -/
theorem parseJson_folds_nested :
    parseJson.Yields (documentArguments "[1,[2]]" none) {}
      (.array [.integer 1, .array [.integer 2]]) ∧
    parseJson.Yields (documentArguments "[1,[2]]" (some 1)) {} (.array [.integer 1, .string "[2]"]) ∧
    Folded 1 (.array [.integer 1, .array [.integer 2]]) (.array [.integer 1, .string "[2]"]) := by
  let inner : Json := .array [.integer 2]
  let j : Json := .array [.integer 1, inner]
  have htidy : j.IsTidy := by
    have hinner : inner.IsTidy := .array (List.forall_mem_singleton.mpr (.integer (by decide)))
    exact .array (List.forall_mem_cons.mpr
      ⟨.integer (by decide), List.forall_mem_singleton.mpr hinner⟩)
  have hfinite : j.HasFloats (·.isFinite) := by
    have hinner : inner.HasFloats (·.isFinite) :=
      .array (List.forall_mem_singleton.mpr (.integer 2))
    exact .array (List.forall_mem_cons.mpr ⟨.integer 1, List.forall_mem_singleton.mpr hinner⟩)
  have htext : j.compact = "[1,[2]]" := by decide +kernel
  have hread : Json.read true "[1,[2]]" = .ok j := htext ▸ Json.read_compact htidy hfinite
  have hyields : parseJson.Yields (documentArguments "[1,[2]]" none) {} (.ofJson j) :=
    parseJson_yields_iff.mpr ⟨isDepth_none, j, hread, rfl⟩
  have hlimit : parseJson.Yields (documentArguments "[1,[2]]" (some 1)) {}
      (.array [.integer 1, .string "[2]"]) := by
    refine parseJson_yields_iff.mpr ⟨isDepth_some.mpr (by decide), j, hread, ?_⟩
    have hinner : inner.compact = "[2]" := by decide +kernel
    exact congrArg (fun text => Value.array [.integer 1, .string text]) hinner.symm
  obtain ⟨w, hw, hfold, -⟩ := parseJson_folds ⟨le_refl 1, by decide⟩ hyields
    (Value.hasFloats_ofJson_iff.mpr hfinite)
  obtain rfl := (hw {} _).mp hlimit
  exact ⟨hyields, hlimit, hfold⟩

end FunctionManual.Standard
