import FunctionManual.Json.Reader
import FunctionManual.Json.Writer
import FunctionManual.Proofs.Number.Layout
import Mathlib.Data.List.TakeDrop

/-!
# Strings and numbers are read as they are written

* `Stops`: what may stand behind a number: nothing that continues it.
* `readString_escaped`: a written string is read as that string.
* `readNumber_chars`: a numeral is read as a whole number or as the double nearest to it.
* `readSimple_integer`, `readSimple_float`: written numbers are read as those numbers.
-/

namespace FunctionManual.Json

open FunctionManual.Text

/-- What may stand behind a number: nothing that continues it. -/
def Stops (rest : List Char) : Prop :=
  ∀ c ∈ rest.head?, isAsciiDigit c = false ∧ c ≠ '.' ∧ c ≠ 'e' ∧ c ≠ 'E'

theorem Stops.nil : Stops [] := nofun

theorem Stops.cons {c : Char} (h : isAsciiDigit c = false ∧ c ≠ '.' ∧ c ≠ 'e' ∧ c ≠ 'E')
    (rest : List Char) : Stops (c :: rest) := by
  intro d hd
  rw [← Option.mem_some.mp hd]
  exact h

/-! ## Strings -/

theorem hexValue?_hexDigit : ∀ k < 16, hexValue? (hexDigit k) = some k := by decide

theorem hex4?_hexDigits {n : Nat} (h : n < 65536) (rest : List Char) :
    hex4? (hexDigits 4 n ++ rest) = some (n, rest) := by
  have digit (m : Nat) : hexValue? (hexDigit (m % 16)) = some (m % 16) :=
    hexValue?_hexDigit _ (by omega)
  simp only [hexDigits, List.nil_append, List.cons_append, hex4?, digit, Option.bind_eq_bind,
    Option.bind_some]
  congr 2
  omega

/-- The code of a control character is read as that character. -/
theorem readCode_control {c : Char} (h : c.toNat < 32) {rest : List Char} (hr : rest ≠ []) :
    readCode (hexDigits 4 c.toNat ++ rest) = .ok (c, rest) := by
  have hlen : ¬ (hexDigits 4 c.toNat ++ rest).length ≤ 4 := by
    have := List.length_pos_iff.mpr hr
    simp [hexDigits]
    omega
  have hhigh : isHighHalf c.toNat = false := by simp [isHighHalf]; omega
  have hlow : isLowHalf c.toNat = false := by simp [isLowHalf]; omega
  have hcode : codeChar c.toNat = c := by
    simp only [codeChar, hhigh, hlow, Bool.or_self, Bool.false_eq_true, if_false, Char.ofNat_toNat]
  simp only [readCode, hlen, if_false, hex4?_hexDigits (show c.toNat < 65536 by omega), hhigh,
    Bool.false_and, Bool.false_eq_true, hcode]
  split <;> rfl

/-- One written character is read as that character. -/
theorem readChars_escapeChar (c : Char) (whole : List Char) (fuel : Nat) {rest : List Char}
    (hr : rest ≠ []) :
    readChars whole (fuel + 1) (escapeChar c ++ rest) = (do
      let (cs, rest') ← readChars whole fuel rest
      .ok (c :: cs, rest')) := by
  unfold escapeChar
  split
  next h => subst h; rfl
  split
  next h => subst h; rfl
  split
  next h => subst h; rfl
  split
  next h => subst h; rfl
  split
  next h => subst h; rfl
  split
  next h => subst h; rfl
  split
  next h => subst h; rfl
  split
  next h =>
    simp only [List.cons_append, readChars, readCode_control h hr, bind, Except.bind]
  next =>
    conv => lhs; unfold readChars
    simp only [List.singleton_append]
    split
    · simp_all
    · rfl

/-- A written string is read as that string, with what stands behind its closing mark left. -/
theorem readChars_escaped (cs : List Char) (whole rest : List Char) (fuel : Nat)
    (hf : cs.length < fuel) :
    readChars whole fuel (cs.flatMap escapeChar ++ '"' :: rest) = .ok (cs, rest) := by
  induction cs generalizing fuel with
  | nil =>
    obtain ⟨fuel, rfl⟩ : ∃ f, fuel = f + 1 := ⟨fuel - 1, by simp at hf; omega⟩
    rfl
  | cons c cs ih =>
    obtain ⟨fuel, rfl⟩ : ∃ f, fuel = f + 1 := ⟨fuel - 1, by simp at hf; omega⟩
    rw [List.flatMap_cons, List.append_assoc, readChars_escapeChar c whole fuel (by simp),
      ih fuel (by simpa using hf)]
    rfl

theorem length_le_escaped (cs : List Char) : cs.length ≤ (cs.flatMap escapeChar).length := by
  induction cs with
  | nil => exact Nat.le_refl 0
  | cons c cs ih =>
    have : 1 ≤ (escapeChar c).length := by
      unfold escapeChar
      repeat' split
      all_goals simp
    rw [List.flatMap_cons, List.length_append, List.length_cons]
    omega

theorem readString_escaped (s : String) (rest : List Char) :
    readString (s.toList.flatMap escapeChar ++ '"' :: rest) = .ok (s, rest) := by
  have h := length_le_escaped s.toList
  have hf : s.toList.length < (s.toList.flatMap escapeChar ++ '"' :: rest).length + 1 := by
    rw [List.length_append]
    omega
  rw [readString, readChars_escaped s.toList _ rest _ hf]
  exact congrArg (fun t => Except.ok (t, rest)) (String.ofList_toList (s := s))

/-! ## Numbers -/

theorem span_digits {s rest : List Char} (hs : AreDigits s)
    (hr : ∀ c ∈ rest.head?, isAsciiDigit c = false) :
    (s ++ rest).span isAsciiDigit = (s, rest) := by
  rw [List.span_eq_takeWhile_dropWhile, List.takeWhile_append_of_pos hs,
    List.dropWhile_append_of_pos hs]
  cases rest with
  | nil => simp
  | cons c rest => simp [hr c rfl]

section Numeral

variable {n : Numeral} {rest : List Char}

private theorem exponentChars_stop (hr : Stops rest) :
    ∀ c ∈ (n.exponentChars ++ rest).head?, isAsciiDigit c = false ∧ c ≠ '.' := by
  unfold Numeral.exponentChars
  split
  · exact fun c hc => ⟨(hr c hc).1, (hr c hc).2.1⟩
  · intro c hc
    rw [← Option.mem_some.mp hc]
    decide

private theorem fractionChars_stop (hr : Stops rest) :
    ∀ c ∈ (n.fractionChars ++ (n.exponentChars ++ rest)).head?, isAsciiDigit c = false := by
  unfold Numeral.fractionChars
  split
  · exact fun c hc => (exponentChars_stop hr c hc).1
  · intro c hc
    rw [← Option.mem_some.mp hc]
    decide

theorem spanWhole_chars (hl : n.whole = ['0'] ∨ n.whole.head? ≠ some '0') {tail : List Char}
    (ht : ∀ c ∈ tail.head?, isAsciiDigit c = false) :
    spanWhole (n.whole ++ tail) = (n.whole, tail) := by
  rcases hl with hl | hl
  · rw [hl]
    rfl
  · unfold spanWhole
    split
    next h =>
      obtain ⟨c, s, hc⟩ := List.exists_cons_of_ne_nil n.whole_ne
      rw [hc] at h hl
      exact absurd (congrArg some (List.cons.inj h).1) hl
    next => exact span_digits n.whole_digits ht

theorem spanPoint_chars (hr : Stops rest) :
    spanPoint (n.fractionChars ++ (n.exponentChars ++ rest)) =
      (n.fractionChars, n.exponentChars ++ rest) := by
  have he := exponentChars_stop (n := n) hr
  unfold Numeral.fractionChars
  split
  next h =>
    rw [List.nil_append]
    unfold spanPoint
    split
    next s hs => exact absurd rfl (he '.' (by rw [hs]; rfl)).2
    next => rfl
  next h =>
    simp only [List.cons_append, spanPoint, span_digits n.fraction_digits fun c hc => (he c hc).1,
      List.isEmpty_iff, h, if_false]

theorem spanExponent_chars (hr : Stops rest) :
    spanExponent (n.exponentChars ++ rest) = (n.exponentChars, rest) := by
  unfold Numeral.exponentChars
  split
  next =>
    cases rest with
    | nil => rfl
    | cons c rest =>
      have hc := hr c rfl
      simp [spanExponent, hc.2.2.1, hc.2.2.2]
  next negative ds he =>
    obtain ⟨hne, hds⟩ := n.exponent_digits _ he
    have hs : (ds ++ rest).span isAsciiDigit = (ds, rest) :=
      span_digits hds fun c hc => (hr c hc).1
    have hempty : ds.isEmpty = false := by simpa using hne
    cases negative <;>
      simp only [List.cons_append, spanExponent, hs, hempty, Bool.false_eq_true, if_true, if_false,
        decide_true, Bool.true_or, List.nil_append]

/-- A numeral is read as a whole number or as the double nearest to it. -/
theorem readNumber_chars (hl : n.whole = ['0'] ∨ n.whole.head? ≠ some '0') (hr : Stops rest) :
    (¬ n.IsWhole → readNumber (n.chars ++ rest) = .ok (.float n.value, rest)) ∧
    (n.IsWhole → ∀ i, Integer.readPlain n.chars = .ok i →
      readNumber (n.chars ++ rest) = .ok (.integer i, rest)) := by
  have hwhole := spanWhole_chars hl (fractionChars_stop (n := n) hr)
  have hne : n.whole.isEmpty = false := by simp [n.whole_ne]
  have hchars : n.signChars ++ n.whole ++ n.fractionChars ++ n.exponentChars = n.chars := by
    simp [Numeral.chars, Numeral.unsigned]
  have hbody : n.unsigned ++ rest =
      n.whole ++ (n.fractionChars ++ (n.exponentChars ++ rest)) := by simp [Numeral.unsigned]
  unfold readNumber
  split
  next sign body hs =>
  obtain ⟨rfl, rfl⟩ : sign = n.signChars ∧ body = n.unsigned ++ rest := by
    obtain ⟨c, s, hcons, hc⟩ := n.unsigned_eq_cons
    have hminus := ne_of_isAsciiDigit (d := '-') hc rfl
    unfold Numeral.chars Numeral.signChars at hs
    unfold Numeral.signChars
    cases hn : n.negative with
    | true =>
      rw [hn] at hs
      cases hs
      exact ⟨rfl, rfl⟩
    | false =>
      rw [hn, hcons] at hs
      rw [hcons]
      split at hs
      next h => exact absurd (List.cons.inj h).1 hminus
      next =>
        cases hs
        exact ⟨rfl, rfl⟩
  rw [hbody]
  simp only [hwhole, hne, spanPoint_chars hr, spanExponent_chars hr, hchars, n.read,
    Bool.false_eq_true, if_false]
  refine ⟨fun h => if_neg (mt n.isWhole_iff.mp h), fun h i hi => ?_⟩
  have hs : n.signChars ++ n.whole = n.chars := by rw [Numeral.chars, h.unsigned]
  rw [if_pos (n.isWhole_iff.mpr h), hs, hi]

end Numeral

/-! ## Words and numbers -/

/-- The first character of a number. -/
theorem chars_eq_cons (n : Numeral) : ∃ c s, n.chars = c :: s ∧
    (isAsciiDigit c ∨ c = '-' ∧ ∃ d t, s = d :: t ∧ isAsciiDigit d) := by
  obtain ⟨c, s, h, hc⟩ := n.unsigned_eq_cons
  unfold Numeral.chars Numeral.signChars
  split
  · exact ⟨'-', n.unsigned, rfl, Or.inr ⟨rfl, c, s, h, hc⟩⟩
  · exact ⟨c, s, h, Or.inl hc⟩

/-- No word is the beginning of a number. -/
theorem readSimple_chars (n : Numeral) (rest : List Char) (strict : Bool) :
    readSimple strict (n.chars ++ rest) = readNumber (n.chars ++ rest) := by
  obtain ⟨c, s, h, hc⟩ := chars_eq_cons n
  -- words begin with a letter, or with a minus and a letter behind it
  have front (w : Char) (word : List Char) (hw : isAsciiDigit w = false) (hm : w ≠ '-') :
      ¬ w :: word <+: n.chars ++ rest := by
    rw [h, List.cons_append, List.cons_prefix_cons]
    rintro ⟨rfl, -⟩
    rcases hc with hc | ⟨hc, -⟩
    · exact ne_of_isAsciiDigit hc hw rfl
    · exact hm hc
  have minus (w : Char) (word : List Char) (hw : isAsciiDigit w = false) :
      ¬ '-' :: w :: word <+: n.chars ++ rest := by
    rw [h, List.cons_append, List.cons_prefix_cons]
    rintro ⟨rfl, hp⟩
    rcases hc with hc | ⟨-, d, t, rfl, hd⟩
    · cases hc
    · rw [List.cons_append, List.cons_prefix_cons] at hp
      exact ne_of_isAsciiDigit hd hw hp.1.symm
  have hwords : leading? words (n.chars ++ rest) = none := by
    simp [leading?, words, front 'n' _ rfl, front 't' _ rfl, front 'f' _ rfl]
  have hconstants : leading? constants (n.chars ++ rest) = none := by
    simp [leading?, constants, front 'N' _ rfl, front 'I' _ rfl, minus 'I' _ rfl]
  simp only [readSimple, hwords, hconstants]

/-- The numeral of an integer. -/
def integerNumeral (i : Int) : Numeral where
  negative := decide (i < 0)
  whole := Nat.toDigits 10 i.natAbs
  fraction := []
  exponent := none
  whole_digits := areDigits_toDigits _
  whole_ne := Nat.toDigits_ne_nil
  fraction_digits := .nil
  exponent_digits := fun _ h => by cases h

theorem integerText_eq (i : Int) : (Integer.text i).toList = (integerNumeral i).chars := by
  cases i with
  | ofNat k =>
    simp [Integer.text, Integer.natText, integerNumeral, Numeral.chars, Numeral.signChars,
      Numeral.unsigned, Numeral.fractionChars, Numeral.exponentChars]
  | negSucc k =>
    simp [Integer.text, Integer.natText, integerNumeral, Numeral.chars, Numeral.signChars,
      Numeral.unsigned, Numeral.fractionChars, Numeral.exponentChars]

theorem readPlain_integerNumeral {i : Int}
    (h : (Nat.toDigits 10 i.natAbs).length ≤ Integer.digitLimit) :
    Integer.readPlain (integerNumeral i).chars = .ok i := by
  have hw : (integerNumeral i).IsWhole := ⟨rfl, rfl⟩
  have hv : Integer.signed (integerNumeral i).negative
      (digitsValue (integerNumeral i).whole) = i := by
    simp only [integerNumeral, digitsValue_toDigits, Integer.signed, decide_eq_true_eq]
    split <;> omega
  rw [hw.readPlain, hv]
  exact if_neg (Nat.not_lt.mpr h)

/-- A written integer is read as that integer, up to the limit on digits. -/
theorem readSimple_integer {i : Int} (h : (Nat.toDigits 10 i.natAbs).length ≤ Integer.digitLimit)
    {rest : List Char} (hr : Stops rest) (strict : Bool) :
    readSimple strict ((Integer.text i).toList ++ rest) = .ok (.integer i, rest) := by
  have hlead : (integerNumeral i).whole = ['0'] ∨ (integerNumeral i).whole.head? ≠ some '0' := by
    by_cases hi : i.natAbs = 0
    · exact Or.inl (by simp [integerNumeral, hi])
    · exact Or.inr (head?_toDigits hi)
  rw [integerText_eq, readSimple_chars]
  exact (readNumber_chars hlead hr).2 ⟨rfl, rfl⟩ i (readPlain_integerNumeral h)

/-- A written double is read as that double; where the names of numbers are refused, a finite one
is. -/
theorem readSimple_float {x : Binary64} {strict : Bool} (hx : strict → x.isFinite)
    {rest : List Char} (hr : Stops rest) :
    readSimple strict ((floatText x).toList ++ rest) = .ok (.float x, rest) := by
  cases x with
  | nan =>
    cases strict with
    | false => rfl
    | true => cases hx rfl
  | infinite negative =>
    cases strict with
    | false => cases negative <;> rfl
    | true => cases hx rfl
  | finite negative m u h =>
    obtain ⟨n, hf, ht, hv⟩ := Binary64.text_spec negative h
    rw [floatText, ht, String.toList_ofList, readSimple_chars,
      (readNumber_chars hf.lead hr).1 hf.notWhole, hv]

end FunctionManual.Json
