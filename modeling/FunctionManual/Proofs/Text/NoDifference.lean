import FunctionManual.Proofs.Text.Difference
import Mathlib.Data.List.TakeWhile

/-!
# Equal texts have no difference

A list is compared with itself. Its longest run of equal lines need not be the whole list, as no run
starts at a line that is at too many places. But the first longest run is the same in both lists, and
it grows to all lines.

* `runTo`: how many lines grow into a run that ends at two places.
* `continueRuns_eq`: the runs that are kept at each line are just these.
* `longer_diagonal`: none of them is longer than the one that is the same in both lists.
* `unified_eq_empty_iff`: a difference is empty just when the texts are equal.
-/

namespace FunctionManual.Text.Difference

/-! ## Places of equal lines -/

/-- The places from which a run may grow at a line of a list that is compared with itself. -/
def placesAt (a : List String) (i : Nat) : List Nat := (a[i]?.map (places a)).getD []

theorem mem_places {a : List String} {line : String} {j : Nat} : j ∈ places a line ↔
    a[j]? = some line ∧ isCommon a.length (placesFrom line 0 a).length = false := by
  unfold places
  dsimp only
  by_cases hc : isCommon a.length (placesFrom line 0 a).length
  · simp [hc]
  · simp [hc, mem_placesFrom]

theorem mem_placesAt {a : List String} {i j : Nat} : j ∈ placesAt a i ↔
    ∃ line, a[i]? = some line ∧ a[j]? = some line ∧
      isCommon a.length (placesFrom line 0 a).length = false := by
  unfold placesAt
  cases a[i]? with
  | none => simp
  | some line => simp [mem_places]

theorem mem_placesAt_comm {a : List String} {i j : Nat} : j ∈ placesAt a i ↔ i ∈ placesAt a j := by
  simp only [mem_placesAt]
  exact exists_congr fun line => and_left_comm

theorem mem_placesAt_self {a : List String} {i j : Nat} (h : j ∈ placesAt a i) :
    i ∈ placesAt a i := by
  obtain ⟨line, hi, -, hc⟩ := mem_placesAt.mp h
  exact mem_placesAt.mpr ⟨line, hi, hi, hc⟩

theorem lt_of_mem_placesAt {a : List String} {i j : Nat} (h : j ∈ placesAt a i) :
    j < a.length := by
  obtain ⟨line, -, hj, -⟩ := mem_placesAt.mp h
  exact (List.getElem?_eq_some_iff.mp hj).1

theorem pairwise_placesFrom (line : String) (i : Nat) (lines : List String) :
    (placesFrom line i lines).Pairwise (· < ·) := by
  induction lines generalizing i with
  | nil => exact .nil
  | cons l lines ih =>
    unfold placesFrom
    split
    · exact List.pairwise_cons.mpr ⟨fun j hj => (mem_placesFrom.mp hj).1, ih (i + 1)⟩
    · exact ih (i + 1)

theorem pairwise_placesAt (a : List String) (i : Nat) : (placesAt a i).Pairwise (· < ·) := by
  unfold placesAt
  cases a[i]? with
  | none => exact .nil
  | some line =>
    rw [Option.map_some, Option.getD_some, places]
    split
    · exact .nil
    · exact pairwise_placesFrom line 0 a

/-! ## Runs -/

/-- The number of lines in the run that ends at two places of a list. -/
def runTo (a : List String) : Nat → Nat → Nat
  | i + 1, j + 1 => if j + 1 ∈ placesAt a (i + 1) then runTo a i j + 1 else 0
  | i, j => if j ∈ placesAt a i then 1 else 0

theorem runTo_of_not_mem {a : List String} {i j : Nat} (h : j ∉ placesAt a i) :
    runTo a i j = 0 := by
  unfold runTo
  split <;> rw [if_neg h]

theorem runTo_comm (a : List String) (i j : Nat) : runTo a i j = runTo a j i := by
  induction i generalizing j with
  | zero => cases j <;> exact if_congr mem_placesAt_comm rfl rfl
  | succ i ih =>
    cases j with
    | zero => exact if_congr mem_placesAt_comm rfl rfl
    | succ j => exact if_congr mem_placesAt_comm (by rw [ih j]) rfl

/-- No run is longer than the one that is the same in both lists. -/
theorem runTo_le_self (a : List String) (i j : Nat) : runTo a i j ≤ runTo a i i := by
  by_cases h : j ∈ placesAt a i
  · have hi := mem_placesAt_self h
    induction i generalizing j with
    | zero => cases j <;> simp [runTo, h, hi]
    | succ i ih =>
      cases j with
      | zero => simp [runTo, h, hi]
      | succ j =>
        simp only [runTo, if_pos h, if_pos hi]
        by_cases hj : j ∈ placesAt a i
        · exact Nat.succ_le_succ (ih j hj (mem_placesAt_self hj))
        · rw [runTo_of_not_mem hj]
          omega
  · rw [runTo_of_not_mem h]
    exact Nat.zero_le _

theorem mem_dropWhile {α : Type} {p : α → Bool} {l : List α} {x : α} (h : x ∈ l) (hp : p x = false) :
    x ∈ l.dropWhile p := by
  rw [← List.takeWhile_append_dropWhile (p := p) (l := l)] at h
  rcases List.mem_append.mp h with h | h
  · have := List.mem_takeWhile_imp h
    rw [hp] at this
    cases this
  · exact h

theorem eq_false_of_dropWhile {α : Type} {p : α → Bool} {l rest : List α} {x : α}
    (h : l.dropWhile p = x :: rest) : p x = false := by
  have := List.head?_dropWhile_not p l
  rwa [h] at this

/-- Every place has one run, which continues the run at the place before it if there is one. -/
theorem continueRuns_spec {before : List (Nat × Nat)} {js : List Nat}
    (hb : before.Pairwise fun r s => r.1 < s.1) (hj : js.Pairwise (· < ·)) :
    (continueRuns before js).map Prod.fst = js ∧ ∀ r ∈ continueRuns before js,
      ∀ j k, (j, k) ∈ before → j + 1 = r.1 → r.2 = k + 1 := by
  induction js generalizing before with
  | nil => exact ⟨rfl, nofun⟩
  | cons j js ih =>
    obtain ⟨hlt, hjs⟩ := List.pairwise_cons.mp hj
    rw [continueRuns]
    dsimp only
    generalize hhere : List.dropWhile _ before = here
    have hkeep {e : Nat × Nat} (he : e ∈ before) (hle : j ≤ e.1 + 1) : e ∈ here :=
      hhere ▸ mem_dropWhile he (by simpa using hle)
    have hsorted : here.Pairwise fun r s => r.1 < s.1 :=
      hhere ▸ hb.sublist (List.dropWhile_sublist _)
    obtain ⟨hfst, hrest⟩ := ih hsorted hjs
    refine ⟨by rw [List.map_cons, hfst], List.forall_mem_cons.mpr ⟨fun j' k he hsucc => ?_,
      fun r hr j' k he hsucc => ?_⟩⟩
    -- the run before is the first that is not passed over
    · have hmem := hkeep he (by dsimp only at hsucc ⊢; omega)
      cases here with
      | nil => cases hmem
      | cons e rest =>
        dsimp only at hsucc ⊢
        have hle : ¬ e.1 + 1 < j := by simpa using eq_false_of_dropWhile hhere
        rcases List.mem_cons.mp hmem with rfl | hmem
        · rw [if_pos hsucc]
        · have := (List.pairwise_cons.mp hsorted).1 _ hmem
          dsimp only at this
          omega
    · have hmem : r.1 ∈ js := hfst ▸ List.mem_map_of_mem hr
      exact hrest r hr j' k (hkeep he (by have := hlt _ hmem; dsimp only; omega)) hsucc

/-- The runs at a line of a list that is compared with itself. -/
def runsAt (a : List String) (i : Nat) : List (Nat × Nat) :=
  (placesAt a i).map fun j => (j, runTo a i j)

/-- The runs at the line before `i`. -/
def runsBefore (a : List String) : Nat → List (Nat × Nat)
  | 0 => []
  | i + 1 => runsAt a i

theorem pairwise_runsAt (a : List String) (i : Nat) :
    (runsAt a i).Pairwise fun r s => r.1 < s.1 :=
  List.pairwise_map.mpr (pairwise_placesAt a i)

theorem pairwise_runsBefore (a : List String) (i : Nat) :
    (runsBefore a i).Pairwise fun r s => r.1 < s.1 := by
  cases i with
  | zero => exact .nil
  | succ i => exact pairwise_runsAt a i

/-- A run that is kept at a line is as long as lines have grown into it. -/
theorem size_of_mem_continueRuns {a : List String} {i j n : Nat}
    (h : (j, n) ∈ continueRuns (runsBefore a i) (placesAt a i)) : n = runTo a i j := by
  obtain ⟨-, hsize⟩ := continueRuns_spec (pairwise_runsBefore a i) (pairwise_placesAt a i)
  obtain ⟨hmem, hone⟩ := mem_continueRuns h
  dsimp only at hmem hone
  cases i with
  | zero =>
    rcases hone with rfl | ⟨_, _, h, -⟩
    · cases j <;> simp [runTo, hmem]
    · cases h
  | succ i =>
    cases j with
    | zero =>
      rcases hone with rfl | ⟨_, _, -, h, -⟩
      · simp [runTo, hmem]
      · cases h
    | succ j =>
      rw [runTo, if_pos hmem]
      by_cases hj : j ∈ placesAt a i
      · exact hsize _ h j _ (List.mem_map.mpr ⟨j, hj, rfl⟩) rfl
      · rw [runTo_of_not_mem hj]
        rcases hone with rfl | ⟨j', k, h, hsucc, -⟩
        · rfl
        · obtain ⟨_, hm, he⟩ := List.mem_map.mp h
          cases he
          cases hsucc
          exact absurd hm hj

theorem continueRuns_eq (a : List String) (i : Nat) :
    continueRuns (runsBefore a i) (placesAt a i) = runsAt a i := by
  obtain ⟨hfst, -⟩ := continueRuns_spec (pairwise_runsBefore a i) (pairwise_placesAt a i)
  have hrun : ∀ r ∈ continueRuns (runsBefore a i) (placesAt a i), r = (r.1, runTo a i r.1) :=
    fun r hr => Prod.ext rfl (size_of_mem_continueRuns hr)
  calc continueRuns (runsBefore a i) (placesAt a i)
      = (continueRuns (runsBefore a i) (placesAt a i)).map fun r => (r.1, runTo a i r.1) :=
        (List.map_id _).symm.trans (List.map_congr_left hrun)
    _ = ((continueRuns (runsBefore a i) (placesAt a i)).map Prod.fst).map
          fun j => (j, runTo a i j) := by rw [List.map_map]; rfl
    _ = runsAt a i := by rw [hfst, runsAt]

/-! ## The longest run -/

/-- A block that is the same in both lists, as long as all runs at the lines before `i`. -/
structure IsDiagonal (a : List String) (i : Nat) (best : Block) : Prop where
  same : best.left = best.right
  longest : ∀ k < i, ∀ j, runTo a k j ≤ best.size

/-- Of the runs at a line, the first that is longer than all before it is the same in both lists: a
run further left has been seen from the other list, and none further right is longer. -/
theorem foldl_diagonal {i size : Nat} {best : Block} {runs : List (Nat × Nat)}
    (hsame : best.left = best.right) (hsorted : runs.Pairwise fun r s => r.1 < s.1)
    (hleft : ∀ r ∈ runs, r.1 < i → r.2 ≤ best.size) (hhere : ∀ r ∈ runs, r.1 = i → r.2 = size)
    (hright : ∀ r ∈ runs, r.2 ≤ size) (hsize : (i, size) ∈ runs ∨ size ≤ best.size) :
    (longer i best runs).left = (longer i best runs).right ∧
      best.size ≤ (longer i best runs).size ∧ size ≤ (longer i best runs).size := by
  induction runs generalizing best with
  | nil => exact ⟨hsame, Nat.le_refl _, hsize.resolve_left nofun⟩
  | cons r rest ih =>
    obtain ⟨j, k⟩ := r
    obtain ⟨hlater, hrest⟩ := List.pairwise_cons.mp hsorted
    obtain ⟨hleft, hleft'⟩ := List.forall_mem_cons.mp hleft
    obtain ⟨hhere, hhere'⟩ := List.forall_mem_cons.mp hhere
    obtain ⟨hright, hright'⟩ := List.forall_mem_cons.mp hright
    dsimp only at hlater hleft hhere hright
    have hunfold (b : Block) : longer i b ((j, k) :: rest) =
        longer i (if b.size < k then ⟨i + 1 - k, j + 1 - k, k⟩ else b) rest := rfl
    rw [hunfold]
    by_cases hlt : best.size < k
    · rw [if_pos hlt]
      have hj : j = i := by
        rcases Nat.lt_trichotomy j i with h | h | h
        · have := hleft h
          omega
        · exact h
        · rcases hsize with hm | hle
          · rcases List.mem_cons.mp hm with he | hm
            · cases he
              omega
            · have := hlater _ hm
              dsimp only at this
              omega
          · omega
      subst hj
      obtain rfl : k = size := hhere rfl
      have hnone : ∀ r ∈ rest, r.1 < j → r.2 ≤ k := fun r hr h => by
        have := hlater r hr
        omega
      obtain ⟨h, hle, hle'⟩ := @ih ⟨j + 1 - k, j + 1 - k, k⟩ rfl hrest hnone hhere' hright'
        (.inr (Nat.le_refl k))
      exact ⟨h, Nat.le_trans (Nat.le_of_lt hlt) hle, hle'⟩
    · rw [if_neg hlt]
      refine ih hsame hrest hleft' hhere' hright' ?_
      rcases hsize with hm | hle
      · rcases List.mem_cons.mp hm with he | hm
        · cases he
          exact .inr (Nat.not_lt.mp hlt)
        · exact .inl hm
      · exact .inr hle

theorem longer_diagonal {a : List String} {i : Nat} {best : Block} (h : IsDiagonal a i best) :
    IsDiagonal a (i + 1) (longer i best (runsAt a i)) := by
  obtain ⟨hsame, hlongest⟩ := h
  have hleft : ∀ r ∈ runsAt a i, r.1 < i → r.2 ≤ best.size := by
    rintro _ hr hlt
    obtain ⟨j, -, rfl⟩ := List.mem_map.mp hr
    rw [runTo_comm]
    exact hlongest j hlt i
  have hhere : ∀ r ∈ runsAt a i, r.1 = i → r.2 = runTo a i i := by
    rintro _ hr he
    obtain ⟨j, -, rfl⟩ := List.mem_map.mp hr
    exact congrArg (runTo a i) he
  have hright : ∀ r ∈ runsAt a i, r.2 ≤ runTo a i i := by
    rintro _ hr
    obtain ⟨j, -, rfl⟩ := List.mem_map.mp hr
    exact runTo_le_self a i j
  have hsize : (i, runTo a i i) ∈ runsAt a i ∨ runTo a i i ≤ best.size := by
    by_cases hi : i ∈ placesAt a i
    · exact .inl (List.mem_map.mpr ⟨i, hi, rfl⟩)
    · rw [runTo_of_not_mem hi]
      exact .inr (Nat.zero_le _)
  obtain ⟨h, hle, hle'⟩ :=
    foldl_diagonal hsame (pairwise_runsAt a i) hleft hhere hright hsize
  refine ⟨h, fun k hk j => ?_⟩
  rcases Nat.lt_succ_iff_lt_or_eq.mp hk with hlt | rfl
  · exact Nat.le_trans (hlongest k hlt j) hle
  · exact Nat.le_trans (runTo_le_self a k j) hle'

theorem longestIn_self (a : List String) :
    (longestIn (a.map (places a)).toArray 0 a.length 0 a.length).left =
      (longestIn (a.map (places a)).toArray 0 a.length 0 a.length).right := by
  rw [longestIn, Nat.sub_zero]
  have hinit : IsDiagonal a 0 ⟨0, 0, 0⟩ ∧ ([] : List (Nat × Nat)) = runsBefore a 0 :=
    ⟨⟨rfl, fun _ hk => absurd hk (Nat.not_lt_zero _)⟩, rfl⟩
  refine (foldl_range' (P := fun i (grown : Block × List (Nat × Nat)) =>
    IsDiagonal a i grown.1 ∧ grown.2 = runsBefore a i)
    0 a.length ?_ hinit).1.same
  rintro i ⟨best, before⟩ - ⟨hbest, hbefore⟩
  dsimp only at hbefore ⊢
  have hplaces : ((a.map (places a)).toArray[i]?.getD []).filter
      (fun j => decide (0 ≤ j) && decide (j < a.length)) = placesAt a i := by
    rw [List.getElem?_toArray, List.getElem?_map]
    refine List.filter_eq_self.mpr fun j hj => ?_
    simpa using lt_of_mem_placesAt hj
  rw [hplaces, hbefore, continueRuns_eq]
  exact ⟨longer_diagonal hbest, rfl⟩

/-! ## The whole list -/

theorem extendFront_self (a : Array String) (i k : Nat) :
    extendFront a a 0 0 i i k = ⟨0, 0, i + k⟩ := by
  induction i generalizing k with
  | zero => rw [extendFront, Nat.zero_add]; exact nofun
  | succ i ih =>
    rw [extendFront, if_pos (by simp), ih, Nat.add_right_comm, Nat.add_assoc]

theorem equalFrom_self (a : Array String) (i n : Nat) : equalFrom a a i i n = n := by
  induction n generalizing i with
  | zero => rfl
  | succ n ih => rw [equalFrom, if_pos rfl, ih]

theorem longestBlock_self (a : List String) :
    longestBlock a.toArray a.toArray (a.map (places a)).toArray 0 a.length 0 a.length =
      ⟨0, 0, a.length⟩ := by
  have hin := longestIn_isIn (areStarts_places a a) (Nat.zero_le a.length) (Nat.zero_le a.length)
  have hsame := longestIn_self a
  rw [longestBlock]
  generalize longestIn _ _ _ _ _ = seed at hin hsame
  have hle := hin.leftEnd
  rw [← hsame, extendFront_self]
  dsimp only
  rw [Nat.zero_add, Nat.min_self, equalFrom_self, Nat.add_sub_cancel' hle]

theorem blocks_self (a : List String) :
    blocks a a = if a.length = 0 then [] else [⟨0, 0, a.length⟩] := by
  rw [blocks, blocksIn, longestBlock_self]
  by_cases h : a.length = 0
  · simp [h, joinTouching]
  · have hpos : 0 < a.length := Nat.pos_of_ne_zero h
    simp [h, hpos, joinTouching]

/-- A list compared with itself has no edit but one that keeps all lines. -/
theorem edits_self (a : List String) :
    edits a a = if a.length = 0 then [] else [⟨true, 0, a.length, 0, a.length⟩] := by
  rw [edits, blocks_self]
  by_cases h : a.length = 0
  · simp [h, editsFrom, gap]
  · simp [h, editsFrom, gap]

/-- A few kept lines make no hunk. -/
theorem groupEdits_kept {e : Edit} (hkept : e.kept) (hfew : e.leftEnd ≤ e.left + context) :
    groupEdits [] [e] = [] := by
  have hshort : ¬ context + context < e.leftEnd - e.left := by
    unfold context at hfew ⊢
    omega
  simp [groupEdits, closeGroup, hkept, hshort]

theorem hunks_self (a : List String) : hunks a a = [] := by
  rw [hunks, edits_self]
  by_cases h : a.length = 0
  · rw [if_pos h]
    rfl
  · rw [if_neg h]
    exact groupEdits_kept rfl (Nat.min_le_right _ _)

/-- A difference is empty just when the texts are equal. -/
theorem unified_eq_empty_iff {left right leftName rightName : String} :
    unified left right leftName rightName = "" ↔ left = right := by
  refine ⟨eq_of_unified_eq_empty, ?_⟩
  rintro rfl
  simp only [unified, hunks_self]

end FunctionManual.Text.Difference
