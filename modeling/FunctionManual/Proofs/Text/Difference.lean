import FunctionManual.Proofs.Except
import FunctionManual.Text.Difference

/-!
# A difference shows that texts differ

* `Block.IsIn`: a block of equal lines in a part of both lists.
* `IsRow`: blocks in the order of both lists, from two places up to two others.
* `longestBlock_isIn`, `blocksIn_isRow`: the common runs of two lists are such blocks.
* `drop_eq_of_kept`: where no edit changes anything, the lists are equal.
* `eq_of_unified_eq_empty`: so texts with an empty difference are equal.
-/

namespace FunctionManual.Text

/-! ## Lines -/

theorem flatten_splitLinesFrom (line s : List Char) :
    (splitLinesFrom line s).flatten = line.reverse ++ s := by
  fun_induction splitLinesFrom line s with
  | case1 line h => simp [List.isEmpty_iff.mp h]
  | case2 line h => simp
  | case3 line c => simp
  | case4 line c d rest h ih => simp [ih]
  | case5 line c d rest _ h ih => simp [ih]
  | case6 line c d rest _ h ih => simp [ih]

/-- Lines keep all characters, so texts with the same lines are equal. -/
theorem splitLines_inj {s t : String} (h : splitLines s = splitLines t) : s = t := by
  have hlines : splitLinesFrom [] s.toList = splitLinesFrom [] t.toList :=
    List.map_injective_iff.mpr (fun _ _ => String.ofList_inj.mp) h
  have hflat := congrArg List.flatten hlines
  rw [flatten_splitLinesFrom, flatten_splitLinesFrom] at hflat
  exact String.toList_inj.mp hflat

namespace Difference

/-! ## Places -/

theorem mem_placesFrom {line : String} {lines : List String} {i j : Nat} :
    j ∈ placesFrom line i lines ↔ i ≤ j ∧ lines[j - i]? = some line := by
  induction lines generalizing i with
  | nil => simp [placesFrom]
  | cons l lines ih =>
    have hstep : j ∈ placesFrom line (i + 1) lines ↔
        i + 1 ≤ j ∧ (l :: lines)[j - i]? = some line := by
      rw [ih]
      refine and_congr_right fun hle => ?_
      rw [show j - i = (j - (i + 1)) + 1 by omega, List.getElem?_cons_succ]
    by_cases hj : j = i
    · subst hj
      unfold placesFrom
      split <;> simp_all
    · unfold placesFrom
      split
      · rw [List.mem_cons, or_iff_right hj, hstep]
        exact and_congr_left fun _ => by omega
      · rw [hstep]
        exact and_congr_left fun _ => by omega

/-- What places should be: equal lines stand there. -/
def AreStarts (a b : Array String) (starts : Array (List Nat)) : Prop :=
  ∀ i : Nat, ∀ j ∈ starts[i]?.getD [], a[i]? = b[j]?

theorem areStarts_places (a b : List String) :
    AreStarts a.toArray b.toArray (a.map (places b)).toArray := by
  intro i j hj
  rw [List.getElem?_toArray, List.getElem?_map] at hj
  rw [List.getElem?_toArray, List.getElem?_toArray]
  cases hl : a[i]? with
  | none =>
    rw [hl] at hj
    cases hj
  | some line =>
    rw [hl, Option.map_some, Option.getD_some] at hj
    unfold places at hj
    dsimp only at hj
    split at hj
    · cases hj
    · exact (mem_placesFrom.mp hj).2.symm

/-! ## Runs -/

variable {a b : Array String} {starts : Array (List Nat)} {left leftEnd right rightEnd : Nat}

/-- A block of equal lines in a part of both lists. -/
structure Block.IsIn (m : Block) (a b : Array String) (left leftEnd right rightEnd : Nat) :
    Prop where
  left : left ≤ m.left
  right : right ≤ m.right
  leftEnd : m.left + m.size ≤ leftEnd
  rightEnd : m.right + m.size ≤ rightEnd
  equal : ∀ k < m.size, a[m.left + k]? = b[m.right + k]?

theorem Block.IsIn.mono {m : Block} (h : m.IsIn a b left leftEnd right rightEnd) {leftEnd' : Nat}
    (hle : leftEnd ≤ leftEnd') : m.IsIn a b left leftEnd' right rightEnd :=
  ⟨h.left, h.right, Nat.le_trans h.leftEnd hle, h.rightEnd, h.equal⟩

/-- A run `(j, k)` of `k` equal lines that ends at line `i` of one list and line `j` of the other. -/
structure IsRun (a b : Array String) (left right rightEnd i : Nat) (r : Nat × Nat) : Prop where
  left : left + r.2 ≤ i + 1
  right : right + r.2 ≤ r.1 + 1
  rightEnd : r.1 < rightEnd
  equal : ∀ k < r.2, a[i - k]? = b[r.1 - k]?

theorem IsRun.isIn {i j k : Nat} (h : IsRun a b left right rightEnd i (j, k)) :
    Block.IsIn ⟨i + 1 - k, j + 1 - k, k⟩ a b left (i + 1) right rightEnd := by
  obtain ⟨hleft, hright, hend, hequal⟩ := h
  dsimp only at hleft hright hend hequal
  refine ⟨?_, ?_, ?_, ?_, fun t ht => ?_⟩
  iterate 4 (dsimp only; omega)
  dsimp only at ht ⊢
  rw [show i + 1 - k + t = i - (k - 1 - t) by omega, show j + 1 - k + t = j - (k - 1 - t) by omega]
  exact hequal _ (by omega)

/-- A run begins at its place or continues one that ended a place before. -/
theorem mem_continueRuns {before : List (Nat × Nat)} {js : List Nat} {r : Nat × Nat}
    (h : r ∈ continueRuns before js) :
    r.1 ∈ js ∧ (r.2 = 1 ∨ ∃ j k, (j, k) ∈ before ∧ j + 1 = r.1 ∧ k + 1 = r.2) := by
  induction js generalizing before with
  | nil => cases h
  | cons j js ih =>
    rw [continueRuns] at h
    dsimp only at h
    generalize hhere : List.dropWhile _ before = here at h
    have hsub : here ⊆ before := hhere ▸ (List.dropWhile_sublist _).subset
    rcases List.mem_cons.mp h with rfl | h
    · refine ⟨List.mem_cons_self, ?_⟩
      cases here with
      | nil => exact .inl rfl
      | cons e rest =>
        dsimp only
        split
        next he => exact .inr ⟨e.1, e.2, hsub List.mem_cons_self, he, rfl⟩
        next => exact .inl rfl
    · obtain ⟨hj, hr⟩ := ih h
      refine ⟨List.mem_cons_of_mem j hj, hr.imp_right ?_⟩
      rintro ⟨j', k, hm, he⟩
      exact ⟨j', k, hsub hm, he⟩

theorem longer_isIn {i : Nat} {best : Block} {runs : List (Nat × Nat)}
    (h : best.IsIn a b left (i + 1) right rightEnd)
    (hr : ∀ r ∈ runs, IsRun a b left right rightEnd i r) :
    (longer i best runs).IsIn a b left (i + 1) right rightEnd := by
  unfold longer
  refine List.foldlRecOn (motive := fun m : Block => m.IsIn a b left (i + 1) right rightEnd) runs _ h
    fun m hm r hmem => ?_
  dsimp only
  split
  · exact (hr r hmem).isIn
  · exact hm

/-! ## The longest run -/

/-- The longest block and the runs that end at the line before, when the lines before `i` of the left
list are done. -/
structure IsGrown (a b : Array String) (left right rightEnd i : Nat)
    (grown : Block × List (Nat × Nat)) : Prop where
  best : grown.1.IsIn a b left i right rightEnd
  runs : ∀ r ∈ grown.2, ∃ last, last + 1 = i ∧ IsRun a b left right rightEnd last r

/-- What each step preserves holds at the end of a range. -/
theorem foldl_range' {β : Type} {f : β → Nat → β} {P : Nat → β → Prop} (start n : Nat) {x : β}
    (step : ∀ i x, start ≤ i → P i x → P (i + 1) (f x i)) (h : P start x) :
    P (start + n) ((List.range' start n).foldl f x) := by
  induction n generalizing start x with
  | zero => exact h
  | succ n ih =>
    rw [List.range'_succ, List.foldl_cons, Nat.add_comm n 1, ← Nat.add_assoc]
    exact ih (start + 1) (fun i x hle => step i x (by omega)) (step start x (Nat.le_refl _) h)

theorem longestIn_isIn (hs : AreStarts a b starts) (hl : left ≤ leftEnd) (hr : right ≤ rightEnd) :
    (longestIn starts left leftEnd right rightEnd).IsIn a b left leftEnd right rightEnd := by
  have hinit : IsGrown a b left right rightEnd left (⟨left, right, 0⟩, []) :=
    ⟨⟨Nat.le_refl _, Nat.le_refl _, Nat.le_refl _, hr, nofun⟩, nofun⟩
  obtain ⟨n, rfl⟩ := Nat.exists_eq_add_of_le hl
  rw [longestIn, Nat.add_sub_cancel_left]
  refine (foldl_range' (P := IsGrown a b left right rightEnd) left n ?_ hinit).best
  rintro i ⟨best, before⟩ hi ⟨hbest, hbefore⟩
  dsimp only
  generalize hjs : List.filter _ _ = js
  have hrun : ∀ r ∈ continueRuns before js, IsRun a b left right rightEnd i r := by
    intro r hmem
    obtain ⟨hj, hsize⟩ := mem_continueRuns hmem
    rw [← hjs, List.mem_filter, Bool.and_eq_true, decide_eq_true_eq, decide_eq_true_eq] at hj
    obtain ⟨hstart, hle, hlt⟩ := hj
    have hequal := hs i r.1 hstart
    rcases hsize with hone | ⟨j, k, hm, hj, hk⟩
    · refine ⟨by omega, by omega, hlt, fun t ht => ?_⟩
      obtain rfl : t = 0 := by omega
      exact hequal
    · obtain ⟨last, rfl, hlast⟩ := hbefore _ hm
      obtain ⟨hleft, hright, -, hrest⟩ := hlast
      dsimp only at hleft hright hrest
      refine ⟨by omega, by omega, hlt, fun t ht => ?_⟩
      -- the last line is the new one, the others are those of the run before
      cases t with
      | zero => exact hequal
      | succ t =>
        rw [Nat.add_sub_add_right, ← hj, Nat.add_sub_add_right]
        exact hrest t (by omega)
  exact ⟨longer_isIn (hbest.mono (Nat.le_succ i)) hrun, fun r hmem => ⟨i, rfl, hrun r hmem⟩⟩

theorem extendFront_isIn (i j k : Nat)
    (h : Block.IsIn ⟨i, j, k⟩ a b left leftEnd right rightEnd) :
    (extendFront a b left right i j k).IsIn a b left leftEnd right rightEnd := by
  fun_induction extendFront a b left right i j k with
  | case1 k i j hfits ih =>
    simp only [Bool.and_eq_true, decide_eq_true_eq] at hfits
    obtain ⟨⟨hi, hj⟩, hequal⟩ := hfits
    obtain ⟨-, -, hleftEnd, hrightEnd, hrest⟩ := h
    dsimp only at hleftEnd hrightEnd hrest
    refine ih ⟨hi, hj, by dsimp only; omega, by dsimp only; omega, fun t ht => ?_⟩
    cases t with
    | zero => exact hequal
    | succ t =>
      have := hrest t (Nat.lt_of_succ_lt_succ ht)
      dsimp only
      rwa [Nat.add_comm t 1, ← Nat.add_assoc, ← Nat.add_assoc]
  | case2 => exact h
  | case3 => exact h

theorem equalFrom_spec (a b : Array String) (i j n : Nat) :
    equalFrom a b i j n ≤ n ∧ ∀ k < equalFrom a b i j n, a[i + k]? = b[j + k]? := by
  fun_induction equalFrom a b i j n with
  | case1 => exact ⟨Nat.le_refl _, nofun⟩
  | case2 i j n hequal ih =>
    refine ⟨Nat.succ_le_succ ih.1, fun k hk => ?_⟩
    cases k with
    | zero => exact hequal
    | succ k =>
      have := ih.2 k (Nat.lt_of_succ_lt_succ hk)
      rwa [Nat.add_assoc, Nat.add_comm 1 k, Nat.add_assoc, Nat.add_comm 1 k] at this
  | case3 => exact ⟨Nat.zero_le _, nofun⟩

theorem longestBlock_isIn (hs : AreStarts a b starts) (hl : left ≤ leftEnd)
    (hr : right ≤ rightEnd) :
    (longestBlock a b starts left leftEnd right rightEnd).IsIn a b left leftEnd right rightEnd := by
  have hseed := longestIn_isIn hs hl hr
  unfold longestBlock
  generalize longestIn starts left leftEnd right rightEnd = seed at hseed
  have hfront := extendFront_isIn seed.left seed.right seed.size hseed
  dsimp only
  generalize extendFront a b left right seed.left seed.right seed.size = front at hfront
  obtain ⟨n, hn⟩ : ∃ n, n = min (leftEnd - (front.left + front.size))
    (rightEnd - (front.right + front.size)) := ⟨_, rfl⟩
  rw [← hn]
  obtain ⟨hle, hequal⟩ :=
    equalFrom_spec a b (front.left + front.size) (front.right + front.size) n
  generalize equalFrom _ _ _ _ n = more at hle hequal
  obtain ⟨hleft, hright, hleftEnd, hrightEnd, hrest⟩ := hfront
  refine ⟨hleft, hright, by dsimp only; omega, by dsimp only; omega, fun k hk => ?_⟩
  dsimp only at hk ⊢
  by_cases hlt : k < front.size
  · exact hrest k hlt
  · have := hequal (k - front.size) (by omega)
    rwa [Nat.add_assoc, Nat.add_assoc, Nat.add_sub_cancel' (by omega)] at this

/-! ## Common runs -/

/-- Blocks of equal lines in the order of both lists, from two places up to two others. -/
def IsRow (a b : Array String) (leftEnd rightEnd : Nat) : Nat → Nat → List Block → Prop
  | i, j, [] => i ≤ leftEnd ∧ j ≤ rightEnd
  | i, j, m :: rest =>
    m.IsIn a b i leftEnd j rightEnd ∧
      IsRow a b leftEnd rightEnd (m.left + m.size) (m.right + m.size) rest

theorem IsRow.le {i j : Nat} {ms : List Block} (h : IsRow a b leftEnd rightEnd i j ms) :
    i ≤ leftEnd ∧ j ≤ rightEnd := by
  cases ms with
  | nil => exact h
  | cons m rest =>
    obtain ⟨⟨hleft, hright, hleftEnd, hrightEnd, -⟩, -⟩ := h
    omega

theorem IsRow.append {i j i' j' : Nat} {ms ns : List Block} (h : IsRow a b i' j' i j ms)
    (hs : IsRow a b leftEnd rightEnd i' j' ns) : IsRow a b leftEnd rightEnd i j (ms ++ ns) := by
  induction ms generalizing i j with
  | nil =>
    cases ns with
    | nil => exact ⟨Nat.le_trans h.1 hs.1, Nat.le_trans h.2 hs.2⟩
    | cons n rest =>
      obtain ⟨⟨hleft, hright, hleftEnd, hrightEnd, hequal⟩, hrest⟩ := hs
      exact ⟨⟨Nat.le_trans h.1 hleft, Nat.le_trans h.2 hright, hleftEnd, hrightEnd, hequal⟩, hrest⟩
  | cons m rest ih =>
    obtain ⟨⟨hleft, hright, hleftEnd, hrightEnd, hequal⟩, hrest⟩ := h
    have hle := hs.le
    exact ⟨⟨hleft, hright, Nat.le_trans hleftEnd hle.1, Nat.le_trans hrightEnd hle.2, hequal⟩,
      ih hrest⟩

/-- The common runs of a part are in order, by induction on the part: the longest is between those
before and behind it. -/
theorem blocksIn_isRow (hs : AreStarts a b starts) (hl : left ≤ leftEnd) (hr : right ≤ rightEnd) :
    IsRow a b leftEnd rightEnd left right (blocksIn a b starts left leftEnd right rightEnd) := by
  induction left, leftEnd, right, rightEnd using blocksIn.induct a b starts with
  | case1 left leftEnd right rightEnd i j k hm h ihbefore ihbehind =>
    have hblock := longestBlock_isIn hs hl hr
    rw [hm] at hblock
    have hleft : left ≤ i := hblock.left
    have hright : right ≤ j := hblock.right
    have hleftEnd : i + k ≤ leftEnd := hblock.leftEnd
    have hrightEnd : j + k ≤ rightEnd := hblock.rightEnd
    rw [blocksIn, hm]
    simp only [dif_pos h]
    have hhere : Block.IsIn ⟨i, j, k⟩ a b i leftEnd j rightEnd :=
      ⟨Nat.le_refl i, Nat.le_refl j, hleftEnd, hrightEnd, hblock.equal⟩
    refine IsRow.append ?_ (show IsRow a b leftEnd rightEnd i j (⟨i, j, k⟩ :: _) from ⟨hhere, ?_⟩)
    · split
      next => exact ihbefore hleft hright
      next => exact ⟨hleft, hright⟩
    · split
      next => exact ihbehind hleftEnd hrightEnd
      next => exact ⟨hleftEnd, hrightEnd⟩
  | case2 left leftEnd right rightEnd i j k hm h =>
    rw [blocksIn, hm]
    simp only [dif_neg h]
    exact ⟨hl, hr⟩

/-- Two blocks that touch in both lists are one. -/
theorem Block.IsIn.join {m n : Block} {i j : Nat} (hm : m.IsIn a b i leftEnd j rightEnd)
    (hn : n.IsIn a b (m.left + m.size) leftEnd (m.right + m.size) rightEnd)
    (hl : m.left + m.size = n.left) (hr : m.right + m.size = n.right) :
    Block.IsIn { m with size := m.size + n.size } a b i leftEnd j rightEnd := by
  have := hn.leftEnd
  have := hn.rightEnd
  refine ⟨hm.left, hm.right, by dsimp only; omega, by dsimp only; omega, fun k hk => ?_⟩
  dsimp only at hk ⊢
  by_cases hlt : k < m.size
  · exact hm.equal k hlt
  · have := hn.equal (k - m.size) (by omega)
    rwa [← hl, ← hr, Nat.add_assoc, Nat.add_assoc, Nat.add_sub_cancel' (by omega)] at this

theorem joinTouching_isRow {m : Block} {ms : List Block} {i j : Nat}
    (h : IsRow a b leftEnd rightEnd i j (m :: ms)) :
    IsRow a b leftEnd rightEnd i j (joinTouching m ms) := by
  induction ms generalizing m i j with
  | nil =>
    unfold joinTouching
    split
    · exact IsRow.le h
    · exact h
  | cons n ms ih =>
    obtain ⟨hm, hn, hrest⟩ := h
    unfold joinTouching
    split
    next htouch =>
      refine ih ⟨hm.join hn htouch.1 htouch.2, ?_⟩
      dsimp only
      rwa [← Nat.add_assoc, htouch.1, ← Nat.add_assoc, htouch.2]
    split
    · refine ih ⟨?_, hrest⟩
      obtain ⟨hleft, hright, -, -, -⟩ := hm
      obtain ⟨hleft', hright', hleftEnd, hrightEnd, hequal⟩ := hn
      exact ⟨by omega, by omega, hleftEnd, hrightEnd, hequal⟩
    · exact ⟨hm, ih ⟨hn, hrest⟩⟩

theorem blocks_isRow (a b : List String) :
    IsRow a.toArray b.toArray a.length b.length 0 0 (blocks a b) := by
  have hrow := blocksIn_isRow (areStarts_places a b) (Nat.zero_le a.length)
    (Nat.zero_le b.length)
  exact joinTouching_isRow ⟨⟨Nat.le_refl _, Nat.le_refl _, Nat.zero_le _, Nat.zero_le _, nofun⟩,
    hrow⟩

/-! ## Edits -/

theorem gap_kept {i j left right : Nat} (h : ∀ e ∈ gap i j left right, e.kept) :
    left ≤ i ∧ right ≤ j := by
  unfold gap at h
  split at h
  · cases h _ List.mem_cons_self
  next hgap =>
    simp only [Bool.or_eq_true, decide_eq_true_eq] at hgap
    omega

/-- Where no edit changes anything, there is nothing between the runs, and the lists are equal from
there on. -/
theorem drop_eq_of_kept {a b : List String} {i j : Nat} {ms : List Block}
    (h : IsRow a.toArray b.toArray a.length b.length i j ms)
    (hkept : ∀ e ∈ editsFrom i j a.length b.length ms, e.kept) : a.drop i = b.drop j := by
  induction ms generalizing i j with
  | nil =>
    obtain ⟨hi, hj⟩ := gap_kept hkept
    rw [List.drop_eq_nil_of_le hi, List.drop_eq_nil_of_le hj]
  | cons m ms ih =>
    obtain ⟨⟨hleft, hright, -, -, hequal⟩, hrest⟩ := h
    rw [editsFrom, List.forall_mem_append, List.forall_mem_cons] at hkept
    obtain ⟨hgap, -, hbehind⟩ := hkept
    obtain ⟨hi, hj⟩ := gap_kept hgap
    obtain rfl : i = m.left := Nat.le_antisymm hleft hi
    obtain rfl : j = m.right := Nat.le_antisymm hright hj
    have htake : (a.drop m.left).take m.size = (b.drop m.right).take m.size := by
      refine List.ext_getElem? fun k => ?_
      simp only [List.getElem?_take, List.getElem?_drop]
      split
      next hk => simpa only [List.getElem?_toArray] using hequal k hk
      next => rfl
    have hdrop := ih hrest hbehind
    rw [← List.drop_drop, ← List.drop_drop] at hdrop
    rw [← List.take_append_drop m.size (a.drop m.left), htake, hdrop, List.take_append_drop]

/-! ## Hunks -/

theorem map_kept_trimStart (es : List Edit) :
    (trimStart es).map (·.kept) = es.map (·.kept) := by
  cases es with
  | nil => rfl
  | cons e es =>
    rw [trimStart, List.map_cons, List.map_cons]
    split <;> rfl

theorem map_kept_trimEnd (es : List Edit) : (trimEnd es).map (·.kept) = es.map (·.kept) := by
  fun_induction trimEnd es with
  | case1 => rfl
  | case2 e => split <;> rfl
  | case3 e rest _ ih => rw [List.map_cons, List.map_cons, ih]

/-- Edits without a hunk change nothing. -/
theorem kept_of_groupEdits {group es : List Edit} (h : groupEdits group es = []) :
    ∀ e ∈ group ++ es, e.kept := by
  induction es generalizing group with
  | nil =>
    rw [groupEdits, closeGroup] at h
    split at h
    · cases h
    next hany =>
      intro e he
      rw [List.append_nil] at he
      simp only [List.any_eq_true, not_exists, not_and, Bool.not_eq_true, Bool.not_eq_false']
        at hany
      exact hany e he
  | cons e es ih =>
    rw [groupEdits] at h
    split at h
    · cases h
    · rw [List.append_cons]
      exact ih h

theorem kept_of_hunks {a b : List String} (h : hunks a b = []) : ∀ e ∈ edits a b, e.kept := by
  have hkept := kept_of_groupEdits h
  rw [List.nil_append, ← List.forall_mem_map (f := Edit.kept) (P := (· = true)),
    map_kept_trimEnd, map_kept_trimStart] at hkept
  exact List.forall_mem_map.mp hkept

theorem hunks_eq_nil_of_unified {left right leftName rightName : String}
    (h : unified left right leftName rightName = "") :
    hunks (splitLines left) (splitLines right) = [] := by
  unfold unified at h
  dsimp only at h
  split at h
  next hnone => exact hnone
  next =>
    have hlist := congrArg String.toList h
    simp only [String.toList_append, String.toList_empty, List.append_eq_nil_iff] at hlist
    obtain ⟨⟨⟨⟨⟨hfront, -⟩, -⟩, -⟩, -⟩, -⟩ := hlist
    exact absurd hfront (by decide)

/-- Texts with an empty difference are equal. -/
theorem eq_of_unified_eq_empty {left right leftName rightName : String}
    (h : unified left right leftName rightName = "") : left = right :=
  splitLines_inj (drop_eq_of_kept (i := 0) (j := 0) (blocks_isRow _ _)
    (kept_of_hunks (hunks_eq_nil_of_unified h)))

end Difference

end FunctionManual.Text
