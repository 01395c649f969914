import FunctionManual.Proofs.Number.Numeral

/-!
# Doubles as numerals

* `significant_spec`: the digits of a decimal without trailing zeros, and its point.
* `positional_spec`, `scientific_spec`: both layouts are numerals of the same value.
* `text_spec`: the text of a finite double is a numeral with that double as its value.
* `read_text`: the text of every double is read as that double.
-/

namespace FunctionManual

/-- A numeral that no reader takes for a whole number, and that has no zeros in front. -/
structure Numeral.IsFloat (n : Numeral) : Prop where
  lead : n.whole = ['0'] ∨ n.whole.head? ≠ some '0'
  notWhole : ¬ n.IsWhole

namespace Binary64

/-! ## Significant digits -/

/-- Digits that begin with no zero. -/
structure IsLean (ds : List Char) : Prop where
  ne : ds ≠ []
  digits : AreDigits ds
  head : ds.head? ≠ some '0'

/-- A list ends in as many zeros as it has. -/
theorem exists_trailing (ds : List Char) :
    ∃ k, ds = (ds.reverse.dropWhile (· = '0')).reverse ++ List.replicate k '0' := by
  refine ⟨(ds.reverse.takeWhile (· = '0')).length, ?_⟩
  have hz : ds.reverse.takeWhile (· = '0') =
      List.replicate (ds.reverse.takeWhile (· = '0')).length '0' := by
    refine List.eq_replicate_of_mem fun c hc => ?_
    simpa using List.all_eq_true.mp List.all_takeWhile c hc
  have h := congrArg List.reverse
    (List.takeWhile_append_dropWhile (p := (· = '0')) (l := ds.reverse))
  rw [List.reverse_append, List.reverse_reverse, hz, List.reverse_replicate] at h
  exact h.symm

theorem digitsValue_append_zeros (ds : List Char) (k : Nat) :
    digitsValue (ds ++ List.replicate k '0') = digitsValue ds * 10 ^ k := by
  rw [digitsValue_append, digitsValue_zeros, List.length_replicate, Nat.add_zero, Nat.mul_comm]

/-- The significant digits of a decimal have its value, their last place shifted. -/
theorem significant_spec {x : Decimal} (hx : x.digits ≠ 0) :
    IsLean (significant x).1 ∧ ∀ negative, ofDecimal negative (digitsValue (significant x).1)
      ((significant x).2 - (significant x).1.length) = ofDecimal negative x.digits x.exponent := by
  obtain ⟨k, hk⟩ := exists_trailing (toString x.digits).toList
  have hs : (significant x).1 = ((toString x.digits).toList.reverse.dropWhile (· = '0')).reverse :=
    rfl
  have hp : (significant x).2 = x.exponent + (toString x.digits).toList.length := rfl
  rw [← hs, toList_toString] at hk
  rw [toList_toString] at hp
  generalize (significant x).1 = ds at hk ⊢
  have hv := digitsValue_toDigits x.digits
  have hd := areDigits_toDigits x.digits
  have hh := head?_toDigits hx
  rw [hk] at hp hv hd hh
  rw [digitsValue_append_zeros] at hv
  have hne : ds ≠ [] := by
    rintro rfl
    exact hx (by simpa [digitsValue] using hv.symm)
  refine ⟨⟨hne, (areDigits_append.mp hd).1, ?_⟩, fun negative => ?_⟩
  · obtain ⟨c, rest, rfl⟩ := List.exists_cons_of_ne_nil hne
    exact hh
  · rw [hp, ← hv, ofDecimal_shift, List.length_append, List.length_replicate]
    congr 1
    omega

/-! ## Layouts -/

theorem IsLean.areDigits_take {ds : List Char} (h : IsLean ds) (k : Nat) :
    AreDigits (ds.take k) ∧ AreDigits (ds.drop k) := by
  rw [← areDigits_append, List.take_append_drop]
  exact h.digits

/-- A numeral whose digits are `ds` and `k` zeros, without an exponent that is shown. -/
private theorem value_of_digits {n : Numeral} {ds : List Char} {k : Nat} {point : Int}
    (hd : digitsValue (n.whole ++ n.fraction) = digitsValue ds * 10 ^ k)
    (he : n.shift - n.fraction.length + k = point - ds.length) :
    n.value = ofDecimal n.negative (digitsValue ds) (point - ds.length) := by
  rw [Numeral.value, hd, ofDecimal_shift, he]

private theorem noExponent :
    ∀ e ∈ (none : Option (Bool × List Char)), e.2 ≠ [] ∧ AreDigits e.2 :=
  fun _ h => by cases h

section Layout

variable {ds : List Char} (h : IsLean ds) (negative : Bool) (point : Int)
include h

/-- A number with its point in place is a numeral. -/
theorem positional_spec : ∃ n : Numeral, n.negative = negative ∧ n.IsFloat ∧
    n.unsigned = positional ds point ['.', '0'] ∧
    n.value = ofDecimal negative (digitsValue ds) (point - ds.length) := by
  have zero : AreDigits ['0'] := areDigits_zeros 1
  unfold positional
  split
  -- the point stands before all digits, with zeros between
  next hp =>
    refine ⟨⟨negative, ['0'], List.replicate (-point).toNat '0' ++ ds, none, zero, by simp,
      areDigits_append.mpr ⟨areDigits_zeros _, h.digits⟩, noExponent⟩, rfl,
      ⟨Or.inl rfl, fun hw => h.ne (List.append_eq_nil_iff.mp hw.1).2⟩, ?_, ?_⟩
    · simp [Numeral.unsigned, Numeral.fractionChars, Numeral.exponentChars, h.ne]
    · refine value_of_digits (k := 0) ?_ ?_
      · have h0 : digitsValue ['0'] = 0 := rfl
        rw [digitsValue_append, digitsValue_append, digitsValue_zeros, h0]
        omega
      · simp only [Numeral.shift, List.length_append, List.length_replicate]
        omega
  next hp =>
    dsimp only
    split
    -- the point stands behind all digits and the zeros that fill up the places
    next hle =>
      have hv : digitsValue (ds ++ List.replicate (point.toNat - ds.length) '0' ++ ['0']) =
          digitsValue ds * 10 ^ (point.toNat - ds.length + 1) := by
        rw [← digitsValue_append_zeros, List.append_assoc, List.replicate_succ']
      refine ⟨⟨negative, ds ++ List.replicate (point.toNat - ds.length) '0', ['0'], none,
        areDigits_append.mpr ⟨h.digits, areDigits_zeros _⟩, by simp [h.ne], zero, noExponent⟩, rfl,
        ⟨Or.inr ?_, fun hw => by cases hw.1⟩, ?_, ?_⟩
      · obtain ⟨c, rest, rfl⟩ := List.exists_cons_of_ne_nil h.ne
        exact h.head
      · simp [Numeral.unsigned, Numeral.fractionChars, Numeral.exponentChars]
      · refine value_of_digits hv ?_
        simp only [Numeral.shift, List.length_cons, List.length_nil]
        omega
    -- the point stands between two digits
    next hlt =>
      obtain ⟨ht, hd⟩ := h.areDigits_take point.toNat
      obtain ⟨p, hp'⟩ : ∃ p, point.toNat = p + 1 := ⟨point.toNat - 1, by omega⟩
      have hdrop : ds.drop point.toNat ≠ [] := by simp; omega
      have htake : ds.take point.toNat ≠ [] := by simp [h.ne, hp']
      have hhead : (ds.take point.toNat).head? ≠ some '0' := by
        rw [List.head?_take, if_neg (by omega)]
        exact h.head
      refine ⟨⟨negative, ds.take point.toNat, ds.drop point.toNat, none, ht, htake, hd, noExponent⟩,
        rfl, ⟨Or.inr hhead, fun hw => hdrop hw.1⟩, ?_, ?_⟩
      · simp [Numeral.unsigned, Numeral.fractionChars, Numeral.exponentChars, hdrop]
      · refine value_of_digits (k := 0) (by simp) ?_
        simp only [Numeral.shift, List.length_drop]
        omega

/-- The digits of an exponent, at least two of them. -/
def exponentDigits (e : Int) : List Char :=
  let ds := Nat.toDigits 10 e.natAbs
  if ds.length < 2 then '0' :: ds else ds

omit h in
theorem exponentText_eq (e : Int) :
    exponentText e = (if decide (e < 0) then '-' else '+') :: exponentDigits e := by
  simp only [exponentText, exponentDigits, toList_toString, decide_eq_true_eq]

omit h in
/-- The digits of an exponent have its size as their value, zeros in front or not. -/
theorem exponentDigits_spec (e : Int) :
    (exponentDigits e ≠ [] ∧ AreDigits (exponentDigits e)) ∧
      digitsValue (exponentDigits e) = e.natAbs := by
  have hv := digitsValue_toDigits e.natAbs
  have hd := areDigits_toDigits e.natAbs
  simp only [exponentDigits]
  split
  · refine ⟨⟨by simp, areDigits_cons.mpr ⟨rfl, hd⟩⟩, ?_⟩
    rw [← List.singleton_append, digitsValue_append, hv]
    simp [digitsValue, Nat.ofDigitChars_cons]
  · exact ⟨⟨Nat.toDigits_ne_nil, hd⟩, hv⟩

/-- A number with an exponent is a numeral. -/
theorem scientific_spec : ∃ n : Numeral, n.negative = negative ∧ n.IsFloat ∧
    n.unsigned = scientific ds point ∧
    n.value = ofDecimal negative (digitsValue ds) (point - ds.length) := by
  obtain ⟨d, rest, rfl⟩ := List.exists_cons_of_ne_nil h.ne
  obtain ⟨hd, hr⟩ := areDigits_cons.mp h.digits
  obtain ⟨hx, hv⟩ := exponentDigits_spec (point - 1)
  refine ⟨⟨negative, [d], rest, some (decide (point - 1 < 0), exponentDigits (point - 1)),
    areDigits_cons.mpr ⟨hd, .nil⟩, by simp, hr, by simpa using hx⟩, rfl,
    ⟨Or.inr h.head, fun hw => by cases hw.2⟩, ?_, ?_⟩
  · simp only [Numeral.unsigned, Numeral.fractionChars, Numeral.exponentChars, scientific,
      exponentText_eq]
    cases rest <;> simp
  · refine value_of_digits (k := 0) (by simp) ?_
    simp only [Numeral.shift, hv, Integer.signed, List.length_cons]
    split <;> rename_i hs <;> simp only [decide_eq_true_eq] at hs <;> omega

end Layout

/-! ## Texts -/

/-- The text of a finite double is a numeral with that double as its value. -/
theorem text_spec (negative : Bool) {m u : Nat} (h : Canonical m u) :
    ∃ n : Numeral, n.IsFloat ∧ (finite negative m u h).text = String.ofList n.chars ∧
      n.value = finite negative m u h := by
  have sign (n : Numeral) (hn : n.negative = negative) :
      n.chars = if negative then '-' :: n.unsigned else n.unsigned := by
    rw [Numeral.chars, Numeral.signChars, hn]
    cases negative <;> rfl
  by_cases hm : m = 0
  · subst hm
    obtain rfl : u = 0 := h.2.1.resolve_left (by decide)
    refine ⟨⟨negative, ['0'], ['0'], none, areDigits_zeros 1, by simp, areDigits_zeros 1,
      noExponent⟩, ⟨Or.inl rfl, fun hw => by cases hw.1⟩, ?_, rfl⟩
    rw [sign _ rfl]
    rfl
  · have hx : (shortest m u).digits ≠ 0 := by
      intro h0
      have := ofDecimal_shortest false h
      rw [h0] at this
      simp [ofDecimal, zero, Ne.symm hm] at this
    obtain ⟨hl, hv⟩ := significant_spec hx
    have hs := ofDecimal_shortest negative h
    by_cases hp : -4 < (significant (shortest m u)).2 ∧ (significant (shortest m u)).2 ≤ 16
    · obtain ⟨n, hn, hf, hu, hval⟩ := positional_spec hl negative (significant (shortest m u)).2
      refine ⟨n, hf, ?_, by rw [hval, hv, hs]⟩
      rw [sign n hn, hu]
      simp only [text, hm, hp, if_false, and_self, if_true]
    · obtain ⟨n, hn, hf, hu, hval⟩ := scientific_spec hl negative (significant (shortest m u)).2
      refine ⟨n, hf, ?_, by rw [hval, hv, hs]⟩
      rw [sign n hn, hu]
      simp only [text, hm, hp, if_false]

/-- The text of a double is read as that double. -/
theorem read_text (x : Binary64) : read x.text = some x := by
  cases x with
  | nan => rfl
  | infinite negative => cases negative <;> rfl
  | finite negative m u h =>
    obtain ⟨n, -, ht, hv⟩ := text_spec negative h
    rw [ht, n.read, hv]

end Binary64

end FunctionManual
