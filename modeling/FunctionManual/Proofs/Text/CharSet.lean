import FunctionManual.Text.CharSet
import FunctionManual.Text.Blank
import FunctionManual.Text.Letter
import Mathlib.Data.List.Chain

/-!
# Sets of characters as ranges

A set is given by boundaries. Read two at a time they are ranges, and what holds of sets can be told
from the ranges alone, once for all characters.

* `CharSet.inside`: whether a number lies in one of the ranges.
* `CharSet.contains_eq_inside`: bisection finds just the members of the ranges.
* `CharSet.contains_of_within`: a set whose ranges lie in those of another one is a part of it.
* `isAlphanumeric_of_isLetter`, `isDigit_of_isDecimal`: the classes that hold others.
* `not_isAlphanumeric_of_isBlank`, `not_isDigit_of_isBlank`: the classes that are apart.
-/

namespace FunctionManual.Text

namespace CharSet

/-! ## Ranges -/

/-- Whether a number lies in a range: the first boundary begins one and the second ends it. -/
def inside : List Nat → Nat → Bool
  | [], _ => false
  | [low], n => low ≤ n
  | low :: high :: rest, n => (low ≤ n && n < high) || inside rest n

/-- Boundaries in ascending order. -/
def Ascending (s : CharSet) : Prop := s.bounds.toList.IsChain (· < ·)

instance (s : CharSet) : Decidable s.Ascending :=
  inferInstanceAs (Decidable (s.bounds.toList.IsChain (· < ·)))

/-- Before the first boundary no range is open. -/
theorem inside_eq_false {n : Nat} {back : List Nat} (hb : ∀ b ∈ back, n < b) :
    inside back n = false := by
  match back with
  | [] => rfl
  | [low] => simpa [inside] using hb low (by simp)
  | low :: high :: rest =>
    have hlow : n < low := hb low (by simp)
    have ih : inside rest n = false := inside_eq_false fun b h => hb b (by simp [h])
    simp [inside, ih, Nat.not_le.mpr hlow]

/-- Behind an odd number of boundaries a range is open. -/
theorem inside_append {n : Nat} {front back : List Nat} (hf : ∀ b ∈ front, b ≤ n)
    (hb : ∀ b ∈ back, n < b) : inside (front ++ back) n = (front.length % 2 == 1) := by
  match front with
  | [] => exact inside_eq_false hb
  | [low] =>
    have hlow : low ≤ n := hf low (by simp)
    cases back with
    | nil => simp [inside, hlow]
    | cons high rest =>
      have hhigh : n < high := hb high (by simp)
      simp [inside, hlow, hhigh]
  | low :: high :: rest =>
    have hhigh : high ≤ n := hf high (by simp)
    have ih : inside (rest ++ back) n = (rest.length % 2 == 1) :=
      inside_append (fun b h => hf b (by simp [h])) hb
    simp only [List.cons_append, inside, ih, Nat.not_lt.mpr hhigh, decide_false, Bool.and_false,
      Bool.false_or, List.length_cons]
    congr 1
    omega

/-! ## Bisection -/

/-- Bisection ends at the first boundary that is beyond the number, if the slots before the first
and behind the last are. -/
theorem bisect_spec {bounds : Array Nat} {n : Nat}
    (hs : ∀ i j, i ≤ j → j < bounds.size → bounds.getD i 0 ≤ bounds.getD j 0) (lo hi : Nat)
    (hle : lo ≤ hi) (hsize : hi ≤ bounds.size) (hbelow : ∀ i < lo, bounds.getD i 0 ≤ n)
    (habove : ∀ i, hi ≤ i → i < bounds.size → n < bounds.getD i 0) :
    bisect bounds n lo hi ≤ bounds.size ∧ (∀ i < bisect bounds n lo hi, bounds.getD i 0 ≤ n) ∧
      ∀ i, bisect bounds n lo hi ≤ i → i < bounds.size → n < bounds.getD i 0 := by
  fun_induction bisect bounds n lo hi with
  | case1 lo hi h mid hmid ih =>
    refine ih (by omega) hsize (fun i hi => ?_) habove
    exact Nat.le_trans (hs i mid (by omega) (by omega)) hmid
  | case2 lo hi h mid hmid ih =>
    refine ih (by omega) (by omega) hbelow fun i hi hlt => ?_
    exact Nat.lt_of_lt_of_le (Nat.not_le.mp hmid) (hs mid i hi hlt)
  | case3 lo hi h =>
    obtain rfl : lo = hi := by omega
    exact ⟨hsize, hbelow, habove⟩

/-- The members of a set are those of its ranges. -/
theorem contains_eq_inside {s : CharSet} (hs : s.Ascending) (c : Char) :
    s.contains c = inside s.bounds.toList c.toNat := by
  have hpair : s.bounds.toList.Pairwise (· < ·) := List.isChain_iff_pairwise.mp hs
  have hmono : ∀ i j, i ≤ j → j < s.bounds.size → s.bounds.getD i 0 ≤ s.bounds.getD j 0 := by
    intro i j hij hj
    rcases Nat.eq_or_lt_of_le hij with rfl | hlt
    · exact Nat.le_refl _
    · have h := List.pairwise_iff_getElem.mp hpair i j (by simp; omega) (by simpa using hj) hlt
      simp only [Array.getElem_toList] at h
      simp only [Array.getD, hj, Nat.lt_trans hlt hj, dif_pos]
      exact Nat.le_of_lt h
  obtain ⟨hp, hbelow, habove⟩ := bisect_spec (n := c.toNat) hmono 0 s.bounds.size (Nat.zero_le _)
    (Nat.le_refl _) (by simp) fun i hi hlt => absurd hlt (Nat.not_lt.mpr hi)
  rw [contains, position]
  generalize bisect s.bounds c.toNat 0 s.bounds.size = p at hp hbelow habove ⊢
  have hsplit := List.take_append_drop p s.bounds.toList
  have hlength : (s.bounds.toList.take p).length = p := by simp [hp]
  rw [← hsplit, inside_append, hlength]
  · intro b hb
    obtain ⟨i, hi, rfl⟩ := List.mem_take_iff_getElem.mp hb
    have := hbelow i (by omega)
    simpa [Array.getD, show i < s.bounds.size by omega] using this
  · intro b hb
    obtain ⟨i, hi, rfl⟩ := List.mem_drop_iff_getElem.mp hb
    have hlt : p + i < s.bounds.size := by simpa [Nat.add_comm] using hi
    have := habove (p + i) (by omega) hlt
    simpa [Array.getD, hlt] using this

/-! ## Parts -/

/-- The ranges behind those at the front that lie between two numbers. -/
def dropWithin (low high : Nat) : List Nat → List Nat
  | l :: h :: rest => if low ≤ l && h ≤ high then dropWithin low high rest else l :: h :: rest
  | ranges => ranges

/-- Whether all ranges lie in ranges of the first list. -/
def within : List Nat → List Nat → Bool
  | low :: high :: more, ranges => within more (dropWithin low high ranges)
  | _, ranges => ranges.isEmpty

theorem inside_dropWithin {low high n : Nat} {ranges : List Nat} (h : inside ranges n) :
    (low ≤ n ∧ n < high) ∨ inside (dropWithin low high ranges) n := by
  fun_induction dropWithin low high ranges with
  | case1 l h' rest hw ih =>
    simp only [Bool.and_eq_true, decide_eq_true_eq] at hw
    simp only [inside, Bool.or_eq_true, Bool.and_eq_true, decide_eq_true_eq] at h
    rcases h with h | h
    · exact .inl ⟨by omega, by omega⟩
    · exact ih h
  | case2 => exact .inr h
  | case3 => exact .inr h

theorem inside_of_within {n : Nat} {outer ranges : List Nat} (hw : within outer ranges)
    (h : inside ranges n) : inside outer n := by
  fun_induction within outer ranges with
  | case1 low high more ranges ih =>
    simp only [inside, Bool.or_eq_true, Bool.and_eq_true, decide_eq_true_eq]
    exact (inside_dropWithin h).imp_right fun h => ih hw h
  | case2 outer ranges =>
    rw [List.isEmpty_iff.mp hw] at h
    cases h

/-- A set whose ranges lie in those of another one is a part of it. -/
theorem contains_of_within {s t : CharSet} {c : Char} (hs : s.Ascending) (ht : t.Ascending)
    (hw : within t.bounds.toList s.bounds.toList) (h : s.contains c) : t.contains c := by
  rw [contains_eq_inside hs] at h
  rw [contains_eq_inside ht]
  exact inside_of_within hw h

end CharSet

/-! ## Classes -/

theorem letterSet_ascending : letterSet.Ascending := by decide +kernel

theorem alphanumericSet_ascending : alphanumericSet.Ascending := by decide +kernel

theorem digitSet_ascending : digitSet.Ascending := by decide +kernel

/-- Letters are alphanumeric. -/
theorem isAlphanumeric_of_isLetter {c : Char} (h : isLetter c) : isAlphanumeric c := by
  unfold isLetter at h
  unfold isAlphanumeric
  split at h
  next hc =>
    rw [if_pos hc, Char.isAlphanum, h, Bool.true_or]
  next hc =>
    rw [if_neg hc]
    exact CharSet.contains_of_within letterSet_ascending alphanumericSet_ascending
      (by decide +kernel) h

/-- The code points of blanks. -/
def blanks : List Nat :=
  [9, 10, 11, 12, 13, 28, 29, 30, 31, 32, 0x85, 0xA0, 0x1680, 0x2000, 0x2001, 0x2002, 0x2003, 0x2004,
    0x2005, 0x2006, 0x2007, 0x2008, 0x2009, 0x200A, 0x2028, 0x2029, 0x202F, 0x205F, 0x3000]

theorem mem_blanks {c : Char} (h : isBlank c) : c.toNat ∈ blanks := by
  simp only [isBlank, Bool.or_eq_true, Bool.and_eq_true, decide_eq_true_eq, beq_iff_eq] at h
  simp only [blanks, List.mem_cons, List.not_mem_nil, or_false]
  omega

/-- A class that holds no blank of a table has none. -/
theorem eq_false_of_isBlank {p : Char → Bool} (hp : ∀ n ∈ blanks, p (Char.ofNat n) = false)
    {c : Char} (h : isBlank c) : p c = false := by
  have := hp c.toNat (mem_blanks h)
  rwa [Char.ofNat_toNat] at this

theorem not_isAlphanumeric_of_isBlank {c : Char} (h : isBlank c) : isAlphanumeric c = false :=
  eq_false_of_isBlank (by decide +kernel) h

theorem not_isDigit_of_isBlank {c : Char} (h : isBlank c) : isDigit c = false :=
  eq_false_of_isBlank (by decide +kernel) h

/-- The ranges of ten characters that begin at some code points. -/
def tens (zeros : List Nat) : List Nat := zeros.flatMap fun z => [z, z + 10]

theorem inside_tens {zeros : List Nat} {z n : Nat} (hz : z ∈ zeros) (hle : z ≤ n)
    (hlt : n < z + 10) : CharSet.inside (tens zeros) n := by
  induction zeros with
  | nil => cases hz
  | cons first rest ih =>
    simp only [tens, List.flatMap_cons, List.cons_append, List.nil_append, CharSet.inside,
      Bool.or_eq_true, Bool.and_eq_true, decide_eq_true_eq]
    rcases List.mem_cons.mp hz with rfl | hz
    · exact .inl ⟨hle, hlt⟩
    · exact .inr (ih hz)

/-- Decimal digits have a digit value. -/
theorem isDigit_of_isDecimal {c : Char} (h : isDecimal c) : isDigit c := by
  unfold isDecimal decimalValue? at h
  unfold isDigit
  split at h
  next hc =>
    rw [if_pos hc]
    by_contra hn
    rw [if_neg hn] at h
    cases h
  next hc =>
    rw [if_neg hc, CharSet.contains_eq_inside digitSet_ascending]
    obtain ⟨z, hz, hle, hlt⟩ : ∃ z ∈ decimalZeros, z ≤ c.toNat ∧ c.toNat < z + 10 := by
      simpa using h
    have hwithin : CharSet.within digitSet.bounds.toList (tens decimalZeros) := by decide +kernel
    exact CharSet.inside_of_within hwithin (inside_tens hz hle hlt)

end FunctionManual.Text
