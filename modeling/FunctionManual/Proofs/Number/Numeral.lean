import FunctionManual.Proofs.Number.Rounding
import FunctionManual.Proofs.Text.CharSet
import Mathlib.Data.List.TakeWhile

/-!
# Numerals

* `Numeral`: a sign, digits, the digits of a fraction and an exponent, all in ASCII.
* `Numeral.IsSpelled`: a text of a numeral; its exponent may have a large letter and lack a plus.
* `Numeral.read_spelled`: a numeral is read as the double nearest to its value.
* `Numeral.IsWhole.readPlain`: a numeral of a whole number is read as that number, up to the limit
  on digits.
* `Integer.read_decimals`: a row of decimal digits of any script within the limit is an integer.
* `Integer.read_row_error`: a row of other digits, or one that is too long, is refused.
-/

namespace FunctionManual

open FunctionManual.Text

/-! ## Digits -/

theorem isAsciiDigit_eq (c : Char) : isAsciiDigit c = c.isDigit := by
  simp [isAsciiDigit, Char.isDigit, Char.le_def]

/-- All characters are ASCII digits. -/
def AreDigits (s : List Char) : Prop := ∀ c ∈ s, isAsciiDigit c

theorem AreDigits.nil : AreDigits [] := by simp [AreDigits]

theorem areDigits_cons {c : Char} {s : List Char} :
    AreDigits (c :: s) ↔ isAsciiDigit c ∧ AreDigits s := by simp [AreDigits]

theorem areDigits_append {s t : List Char} : AreDigits (s ++ t) ↔ AreDigits s ∧ AreDigits t := by
  simp only [AreDigits, List.mem_append, or_imp, forall_and]

theorem areDigits_zeros (n : Nat) : AreDigits (List.replicate n '0') := by
  intro c hc
  rw [List.eq_of_mem_replicate hc]
  rfl

theorem areDigits_toDigits (n : Nat) : AreDigits (Nat.toDigits 10 n) := fun c hc => by
  rw [isAsciiDigit_eq]
  exact Nat.isDigit_of_mem_toDigits (by decide) (by decide) hc

theorem toList_toString (n : Nat) : (toString n).toList = Nat.toDigits 10 n := by
  rw [Nat.toString_eq_ofList_toDigits, String.toList_ofList]

theorem toNat_of_isAsciiDigit {c : Char} (h : isAsciiDigit c) : 48 ≤ c.toNat ∧ c.toNat ≤ 57 := by
  rw [isAsciiDigit_eq] at h
  simpa [Char.isDigit, UInt32.le_iff_toNat_le] using h

/-- A digit is no other character. -/
theorem ne_of_isAsciiDigit {c d : Char} (h : isAsciiDigit c) (hd : isAsciiDigit d = false) :
    c ≠ d := by
  rintro rfl
  simp [h] at hd

theorem decimalValue?_of_isAsciiDigit {c : Char} (h : isAsciiDigit c) :
    decimalValue? c = some (c.toNat - 48) := by
  have := toNat_of_isAsciiDigit h
  rw [isAsciiDigit_eq] at h
  simp [decimalValue?, h, show c.toNat < 128 by omega]

theorem toLower_of_isAsciiDigit {c : Char} (h : isAsciiDigit c) : c.toLower = c := by
  have := toNat_of_isAsciiDigit h
  have hA : ¬ 65 ≤ c.val := by
    rw [UInt32.le_iff_toNat_le]
    exact Nat.not_le.mpr (by simp; omega)
  exact dif_neg fun h => hA h.1

/-- The value of a row of digits. -/
def digitsValue (s : List Char) : Nat := Nat.ofDigitChars 10 s 0

theorem ofDigits_map (s : List Char) :
    Integer.ofDigits (s.map fun c => c.toNat - 48) = digitsValue s := by
  rw [Integer.ofDigits, List.foldl_map]
  rfl

theorem digitsValue_toDigits (n : Nat) : digitsValue (Nat.toDigits 10 n) = n :=
  Nat.ofDigitChars_ten_toDigits

/-- Digits behind others move those by as many places. -/
theorem digitsValue_append (s t : List Char) :
    digitsValue (s ++ t) = 10 ^ t.length * digitsValue s + digitsValue t := by
  rw [digitsValue, Nat.ofDigitChars_append, Nat.ofDigitChars_eq_ofDigitChars_zero]
  rfl

theorem digitsValue_zeros (n : Nat) : digitsValue (List.replicate n '0') = 0 := by
  rw [digitsValue, Nat.ofDigitChars_replicate_zero, Nat.mul_zero]

/-- The value of digits is below the power of ten that their number gives. -/
theorem digitsValue_lt {s : List Char} (h : AreDigits s) : digitsValue s < 10 ^ s.length := by
  induction s with
  | nil => decide
  | cons c s ih =>
    obtain ⟨hc, hs⟩ := areDigits_cons.mp h
    have := toNat_of_isAsciiDigit hc
    have hone : digitsValue [c] ≤ 9 := by
      simp only [digitsValue, Nat.ofDigitChars_cons, Nat.ofDigitChars_nil, Char.reduceToNat]
      omega
    have happ := digitsValue_append [c] s
    rw [List.singleton_append] at happ
    have hmul := Nat.mul_le_mul_left (10 ^ s.length) hone
    have := ih hs
    rw [happ, List.length_cons, Nat.pow_succ]
    omega

/-- The digits of a positive number begin with no zero. -/
theorem head?_toDigits {n : Nat} (hn : n ≠ 0) : (Nat.toDigits 10 n).head? ≠ some '0' := by
  intro h
  obtain ⟨s, hs⟩ := List.head?_eq_some_iff.mp h
  have hd := areDigits_toDigits n
  have hv := digitsValue_toDigits n
  rw [hs] at hd hv
  have hlt := digitsValue_lt (areDigits_cons.mp hd).2
  have hv : digitsValue s = n := by
    rw [← hv, ← List.singleton_append, digitsValue_append]
    simp [digitsValue, Nat.ofDigitChars_cons]
  rw [hv] at hlt
  have hlen : (Nat.toDigits 10 n).length = s.length + 1 := by rw [hs]; rfl
  rcases Nat.eq_zero_or_pos s.length with h0 | hpos
  · rw [h0] at hlt
    omega
  · have := (Nat.length_toDigits_le_iff (by decide) hpos).mpr hlt
    omega

/-! ## Numerals -/

/-- A numeral. A numeral without a fraction has no point, and the sign of an exponent is always
there. -/
structure Numeral where
  negative : Bool
  whole : List Char
  fraction : List Char
  exponent : Option (Bool × List Char)
  whole_digits : AreDigits whole
  whole_ne : whole ≠ []
  fraction_digits : AreDigits fraction
  exponent_digits : ∀ e ∈ exponent, e.2 ≠ [] ∧ AreDigits e.2

namespace Numeral

/-- The sign of a numeral. -/
def signChars (n : Numeral) : List Char := if n.negative then ['-'] else []

/-- The fraction of a numeral with its point. -/
def fractionChars (n : Numeral) : List Char := if n.fraction = [] then [] else '.' :: n.fraction

/-- The exponent of a numeral with its letter and sign. -/
def exponentChars (n : Numeral) : List Char :=
  match n.exponent with
  | none => []
  | some (negative, ds) => 'e' :: (if negative then '-' else '+') :: ds

/-- A numeral without its sign. -/
def unsigned (n : Numeral) : List Char := n.whole ++ n.fractionChars ++ n.exponentChars

/-- The text of a numeral. -/
def chars (n : Numeral) : List Char := n.signChars ++ n.unsigned

/-- How an exponent is spelled: its letter is small or large, and a plus may be left out. -/
inductive SpellsExponent : Option (Bool × List Char) → List Char → Prop
  | absent : SpellsExponent none []
  | minus {c : Char} (hc : c = 'e' ∨ c = 'E') (ds : List Char) :
      SpellsExponent (some (true, ds)) (c :: '-' :: ds)
  | plus {c : Char} (hc : c = 'e' ∨ c = 'E') (ds : List Char) :
      SpellsExponent (some (false, ds)) (c :: '+' :: ds)
  | bare {c : Char} (hc : c = 'e' ∨ c = 'E') (ds : List Char) :
      SpellsExponent (some (false, ds)) (c :: ds)

/-- A text of a numeral, in which the exponent is spelled in some way. -/
def IsSpelled (n : Numeral) (s : List Char) : Prop :=
  ∃ e, SpellsExponent n.exponent e ∧ s = n.signChars ++ (n.whole ++ (n.fractionChars ++ e))

/-- The exponent of ten that a numeral shows. -/
def shift (n : Numeral) : Int :=
  match n.exponent with
  | none => 0
  | some (negative, ds) => Integer.signed negative (digitsValue ds)

/-- The double nearest to the value of a numeral. -/
def value (n : Numeral) : Binary64 :=
  Binary64.ofDecimal n.negative (digitsValue (n.whole ++ n.fraction))
    (n.shift - n.fraction.length)

end Numeral

/-! ## What stands in a numeral -/

/-- The characters of numerals. -/
def IsNumeralChar (c : Char) : Prop := isAsciiDigit c ∨ c ∈ ['-', '+', '.', 'e', 'E']

theorem IsNumeralChar.toNat {c : Char} (h : IsNumeralChar c) :
    33 ≤ c.toNat ∧ c.toNat < 128 ∧ c ≠ '_' := by
  rcases h with h | h
  · have := toNat_of_isAsciiDigit h
    exact ⟨by omega, by omega, ne_of_isAsciiDigit h rfl⟩
  · simp only [List.mem_cons, List.not_mem_nil, or_false] at h
    rcases h with rfl | rfl | rfl | rfl | rfl <;> decide

theorem IsNumeralChar.isNumberBlank {c : Char} (h : IsNumeralChar c) : isNumberBlank c = false := by
  have := h.toNat
  simp [Text.isNumberBlank, isBlank]
  omega

theorem AreDigits.numeralChar {s : List Char} (h : AreDigits s) : ∀ c ∈ s, IsNumeralChar c :=
  fun c hc => Or.inl (h c hc)

namespace Numeral

variable (n : Numeral)

theorem isSpelled_chars : n.IsSpelled n.chars := by
  refine ⟨n.exponentChars, ?_, by rw [chars, unsigned, List.append_assoc]⟩
  unfold exponentChars
  cases n.exponent with
  | none => exact .absent
  | some e =>
    obtain ⟨negative, ds⟩ := e
    cases negative
    · exact .plus (.inl rfl) ds
    · exact .minus (.inl rfl) ds

/-- The whole digits begin with a digit, whatever stands behind them. -/
theorem whole_eq_cons (tail : List Char) :
    ∃ c rest, n.whole ++ tail = c :: rest ∧ isAsciiDigit c := by
  obtain ⟨c, rest, h⟩ := List.exists_cons_of_ne_nil n.whole_ne
  exact ⟨c, rest ++ tail, by rw [h, List.cons_append], n.whole_digits c (by simp [h])⟩

/-- Without its sign a numeral begins with a digit. -/
theorem unsigned_eq_cons : ∃ c rest, n.unsigned = c :: rest ∧ isAsciiDigit c := by
  rw [unsigned, List.append_assoc]
  exact n.whole_eq_cons _

theorem takeSign_append (tail : List Char) :
    Integer.takeSign (n.signChars ++ (n.whole ++ tail)) = (n.negative, n.whole ++ tail) := by
  obtain ⟨c, rest, h, hc⟩ := n.whole_eq_cons tail
  unfold signChars
  cases n.negative with
  | true => rfl
  | false =>
    have h₁ := ne_of_isAsciiDigit (d := '-') hc rfl
    have h₂ := ne_of_isAsciiDigit (d := '+') hc rfl
    rw [h]
    simp only [Bool.false_eq_true, if_false, List.nil_append]
    unfold Integer.takeSign
    split <;> simp_all

theorem SpellsExponent.head {x : Option (Bool × List Char)} {e : List Char}
    (h : SpellsExponent x e) : ∀ c ∈ e.head?, c = 'e' ∨ c = 'E' := by
  cases h with
  | absent => exact nofun
  | minus hc ds | plus hc ds | bare hc ds =>
    intro c hmem
    rw [← Option.mem_some.mp hmem]
    exact hc

/-- The letter of an exponent is no digit of any script. -/
theorem SpellsExponent.no_digit {x : Option (Bool × List Char)} {e : List Char}
    (h : SpellsExponent x e) : ∀ c ∈ e.head?, decimalValue? c = none := by
  intro c hc
  rcases h.head c hc with rfl | rfl <;> rfl

variable {n} {e s : List Char}

theorem SpellsExponent.mem (h : SpellsExponent n.exponent e) : ∀ c ∈ e, IsNumeralChar c := by
  have letter {c : Char} (hc : c = 'e' ∨ c = 'E') : IsNumeralChar c := by
    rcases hc with rfl | rfl <;> exact Or.inr (by decide)
  generalize hx : n.exponent = x at h
  cases h with
  | absent => exact nofun
  | minus hc ds =>
    have hds := (n.exponent_digits _ hx).2.numeralChar
    exact List.forall_mem_cons.mpr ⟨letter hc, List.forall_mem_cons.mpr ⟨.inr (by decide), hds⟩⟩
  | plus hc ds =>
    have hds := (n.exponent_digits _ hx).2.numeralChar
    exact List.forall_mem_cons.mpr ⟨letter hc, List.forall_mem_cons.mpr ⟨.inr (by decide), hds⟩⟩
  | bare hc ds =>
    exact List.forall_mem_cons.mpr ⟨letter hc, (n.exponent_digits _ hx).2.numeralChar⟩

theorem IsSpelled.mem (h : n.IsSpelled s) : ∀ c ∈ s, IsNumeralChar c := by
  obtain ⟨e, he, rfl⟩ := h
  simp only [List.forall_mem_append]
  refine ⟨fun c hc => ?_, n.whole_digits.numeralChar, fun c hc => ?_, he.mem⟩
  · unfold signChars at hc
    split at hc
    · rw [List.mem_singleton.mp hc]
      exact Or.inr (by decide)
    · cases hc
  · unfold fractionChars at hc
    split at hc
    · cases hc
    · rcases List.mem_cons.mp hc with rfl | hc
      · exact Or.inr (by decide)
      · exact n.fraction_digits.numeralChar c hc

end Numeral

/-! ## Reading -/

theorem trimBy_eq_self {drop : Char → Bool} {s : List Char} (h : ∀ c ∈ s, drop c = false) :
    trimBy drop s = s := by
  have front : ∀ t : List Char, (∀ c ∈ t, drop c = false) → t.dropWhile drop = t := by
    intro t ht
    cases t with
    | nil => rfl
    | cons c t => simp [ht c (by simp)]
  rw [trimBy, front s h, front _ (by simpa using h), List.reverse_reverse]

namespace Binary64

theorem dropUnderscores_eq_self {s : List Char} (h : '_' ∉ s) (afterDigit : Bool) :
    dropUnderscores afterDigit s = some s := by
  induction s generalizing afterDigit with
  | nil => rfl
  | cons c s ih =>
    have hc : c ≠ '_' := fun hc => h (by simp [hc])
    have hs : '_' ∉ s := fun hs => h (List.mem_cons_of_mem c hs)
    unfold dropUnderscores
    simp only [hc, if_false, ih hs, Option.map_some]

/-- Digits are taken up to a character that is no digit of any script. -/
theorem spanDigits_append {s rest : List Char} (hs : AreDigits s)
    (hr : ∀ c ∈ rest.head?, decimalValue? c = none) :
    spanDigits (s ++ rest) = (s.map fun c => c.toNat - 48, rest) := by
  induction s with
  | nil =>
    cases rest with
    | nil => rfl
    | cons c rest => simp [spanDigits, hr c rfl]
  | cons c s ih =>
    obtain ⟨hc, hs⟩ := areDigits_cons.mp hs
    simp [spanDigits, decimalValue?_of_isAsciiDigit hc, ih hs]

end Binary64

namespace Numeral

variable {n : Numeral} {e s : List Char}

theorem spanFraction_append (he : SpellsExponent n.exponent e) :
    Binary64.spanFraction (n.fractionChars ++ e) = (n.fraction.map fun c => c.toNat - 48, e) := by
  unfold fractionChars
  split
  next h =>
    rw [h, List.nil_append]
    unfold Binary64.spanFraction
    split
    next rest => rcases he.head '.' rfl with h | h <;> cases h
    next => rfl
  next =>
    show Binary64.spanDigits (n.fraction ++ e) = _
    exact Binary64.spanDigits_append n.fraction_digits he.no_digit

/-- An exponent is read by its digits, however it is spelled. -/
theorem readExponent_spelled (he : SpellsExponent n.exponent e) :
    Binary64.readExponent e = some n.shift := by
  -- letters are read alike, and so is the absence of a plus
  have hread {c : Char} (hc : c = 'e' ∨ c = 'E') {negative : Bool} {body ds : List Char}
      (hx : n.exponent = some (negative, ds)) (hsign : Integer.takeSign body = (negative, ds)) :
      Binary64.readExponent (c :: body) = some n.shift := by
    obtain ⟨hne, hds⟩ := n.exponent_digits _ hx
    have hspan : Binary64.spanDigits (ds ++ []) = _ := Binary64.spanDigits_append hds nofun
    rw [List.append_nil] at hspan
    simp only [Binary64.readExponent, hc, if_true, hsign, hspan, shift, hx]
    cases ds with
    | nil => exact absurd rfl hne
    | cons d ds => simp only [List.map_cons, ← ofDigits_map]
  generalize hx : n.exponent = x at he
  cases he with
  | absent =>
    rw [shift, hx]
    rfl
  | minus hc ds => exact hread hc hx rfl
  | plus hc ds => exact hread hc hx rfl
  | bare hc ds =>
    refine hread hc hx ?_
    obtain ⟨hne, hds⟩ := n.exponent_digits _ hx
    obtain ⟨d, rest, rfl⟩ := List.exists_cons_of_ne_nil hne
    have hd := hds d List.mem_cons_self
    have h₁ := ne_of_isAsciiDigit (d := '-') hd rfl
    have h₂ := ne_of_isAsciiDigit (d := '+') hd rfl
    unfold Integer.takeSign
    split <;> simp_all

/-- What stands behind the sign of a numeral is read with its value. -/
theorem readUnsigned_append (he : SpellsExponent n.exponent e) :
    Binary64.readUnsigned n.negative (n.whole ++ (n.fractionChars ++ e)) = some n.value := by
  have hhead : ∀ c ∈ (n.fractionChars ++ e).head?, decimalValue? c = none := by
    unfold fractionChars
    split
    · exact he.no_digit
    · intro c hc
      rw [← Option.mem_some.mp hc]
      rfl
  have hw := Binary64.spanDigits_append n.whole_digits hhead
  have hne : (n.whole.map fun c => c.toNat - 48).isEmpty = false := by simp [n.whole_ne]
  simp only [Binary64.readUnsigned, hw, spanFraction_append he, hne, Bool.false_and,
    Bool.false_eq_true, if_false, readExponent_spelled he, Option.bind_some, value,
    ← List.map_append, ofDigits_map, List.length_map, bind]

/-- A numeral is read as the double nearest to its value, however it is spelled. -/
theorem read_spelled (h : n.IsSpelled s) : Binary64.read (String.ofList s) = some n.value := by
  have htrim := trimBy_eq_self fun c hc => (h.mem c hc).isNumberBlank
  have hdrop := Binary64.dropUnderscores_eq_self (s := s) (fun hu => (h.mem _ hu).toNat.2.2 rfl)
    false
  obtain ⟨e, he, rfl⟩ := h
  obtain ⟨c, rest, hcons, hc⟩ := n.whole_eq_cons (n.fractionChars ++ e)
  have hword (word : String) (hw : word.toList.head?.any isAsciiDigit = false) :
      String.ofList ((n.whole ++ (n.fractionChars ++ e)).map Char.toLower) ≠ word := by
    rintro rfl
    rw [String.toList_ofList, hcons, List.map_cons, toLower_of_isAsciiDigit hc] at hw
    exact absurd (hc.symm.trans hw) (by decide)
  simp only [Binary64.read, String.toList_ofList, htrim, hdrop, Option.bind_some,
    n.takeSign_append, hword "inf" (by decide), hword "infinity" (by decide),
    hword "nan" (by decide), or_self, if_false, readUnsigned_append he, bind]

variable (n)

theorem read : Binary64.read (String.ofList n.chars) = some n.value :=
  read_spelled n.isSpelled_chars

/-! ## Whole numbers -/

/-- A numeral with neither a fraction nor an exponent. -/
def IsWhole : Prop := n.fraction = [] ∧ n.exponent = none

theorem isWhole_iff : (n.fractionChars.isEmpty && n.exponentChars.isEmpty) = true ↔ n.IsWhole := by
  rw [Bool.and_eq_true, List.isEmpty_iff, List.isEmpty_iff]
  unfold fractionChars exponentChars IsWhole
  constructor
  · rintro ⟨hf, he⟩
    refine ⟨?_, ?_⟩
    · split at hf
      next h => exact h
      next => cases hf
    · split at he
      next h => exact h
      next => cases he
  · rintro ⟨hf, he⟩
    rw [he, if_pos hf]
    exact ⟨rfl, rfl⟩

variable {n}

theorem IsWhole.unsigned (h : n.IsWhole) : n.unsigned = n.whole := by
  simp [Numeral.unsigned, fractionChars, exponentChars, h.1, h.2]

/-- A whole number is read as that number, up to the limit on digits. -/
theorem IsWhole.readPlain (h : n.IsWhole) : Integer.readPlain n.chars =
    if n.whole.length > Integer.digitLimit then .error (.tooLong n.whole.length)
    else .ok (Integer.signed n.negative (digitsValue n.whole)) := by
  have hsign := n.takeSign_append []
  rw [List.append_nil] at hsign
  simp only [Integer.readPlain, chars, h.unsigned, hsign, ofDigits_map]

end Numeral

/-! ## Rows of digits of any script

Not every character with a digit value is a decimal digit: a superscript is none. A row of such
characters is read as an integer only up to the first of them. -/

namespace Integer

/-- The value of a row of decimal digits. -/
def rowValue (s : List Char) : Nat := ofDigits (s.filterMap decimalValue?)

theorem ofDigits_eq_zero_iff {ds : List Nat} : ofDigits ds = 0 ↔ ∀ d ∈ ds, d = 0 := by
  have behind (n : Nat) : ds.foldl (fun n d => 10 * n + d) n = 0 ↔ n = 0 ∧ ∀ d ∈ ds, d = 0 := by
    induction ds generalizing n with
    | nil => simp
    | cons d ds ih =>
      rw [List.foldl_cons, ih, List.forall_mem_cons, ← and_assoc]
      refine and_congr_left fun _ => ?_
      omega
  rw [ofDigits, behind]
  simp

/-- A row of digits counts something when one of them is not zero. -/
theorem rowValue_pos_iff {s : List Char} :
    0 < rowValue s ↔ ∃ c ∈ s, ∃ d, decimalValue? c = some d ∧ 0 < d := by
  rw [rowValue, Nat.pos_iff_ne_zero, Ne, ofDigits_eq_zero_iff]
  simp only [List.mem_filterMap, not_forall, exists_prop, ← Nat.pos_iff_ne_zero]
  constructor
  · rintro ⟨d, ⟨c, hc, hd⟩, hpos⟩
    exact ⟨c, hc, d, hd, hpos⟩
  · rintro ⟨c, hc, d, hd, hpos⟩
    exact ⟨d, ⟨c, hc, hd⟩, hpos⟩

theorem ne_of_isDigit {c d : Char} (hc : isDigit c) (hd : isDigit d = false) : c ≠ d := by
  rintro rfl
  rw [hc] at hd
  cases hd

/-- The decimal digits at the front of a row, and the rest of it. -/
theorem takeDigits_row {s : List Char} (h : ∀ c ∈ s, isDigit c) (afterDigit : Bool) :
    takeDigits afterDigit s =
      if afterDigit ∨ s.takeWhile isDecimal ≠ [] then
        some ((s.takeWhile isDecimal).filterMap decimalValue?, s.dropWhile isDecimal)
      else none := by
  induction s generalizing afterDigit with
  | nil => simp [takeDigits]
  | cons c s ih =>
    have hc : c ≠ '_' := ne_of_isDigit (h c List.mem_cons_self) rfl
    have hs := ih fun d hd => h d (List.mem_cons_of_mem c hd)
    rw [takeDigits, if_neg hc]
    cases hv : decimalValue? c with
    | none => simp [isDecimal, hv]
    | some d => simp [isDecimal, hv, hs]

variable {w : String}

/-- Nothing stands around a row of digits, and no sign before it. -/
theorem read_row (h : ∀ c ∈ w.toList, isDigit c) :
    read w =
      let digits := w.toList.takeWhile isDecimal
      if digits = [] then .error .malformed
      else if digitLimit < digits.length then .error (.tooLong digits.length)
      else if w.toList.dropWhile isDecimal = [] then .ok (rowValue digits)
      else .error .malformed := by
  have htrim : trimBy isNumberBlank w.toList = w.toList := by
    refine trimBy_eq_self fun c hc => ?_
    rw [isNumberBlank, Bool.and_eq_false_iff]
    left
    rw [Bool.eq_false_iff]
    intro hb
    exact absurd (h c hc) (by rw [not_isDigit_of_isBlank hb]; exact Bool.false_ne_true)
  have hsign : takeSign w.toList = (false, w.toList) := by
    unfold takeSign
    split
    next rest hw => exact absurd rfl (ne_of_isDigit (h '-' (hw ▸ List.mem_cons_self)) rfl)
    next rest hw => exact absurd rfl (ne_of_isDigit (h '+' (hw ▸ List.mem_cons_self)) rfl)
    next => rfl
  have hlength : ((w.toList.takeWhile isDecimal).filterMap decimalValue?).length =
      (w.toList.takeWhile isDecimal).length := by
    rw [List.length_filterMap_eq_countP, List.countP_eq_length]
    intro c hc
    have hdecimal : isDecimal c := List.mem_takeWhile_imp hc
    exact hdecimal
  simp only [read, htrim, hsign, takeDigits_row h, Bool.false_eq_true, false_or]
  by_cases hd : w.toList.takeWhile isDecimal = []
  · simp [hd]
  · simp only [hd, ne_eq, not_false_eq_true, if_true, if_false, hlength, List.isEmpty_iff, signed,
      Bool.false_eq_true]
    rfl

/-- A row of decimal digits within the limit is an integer. -/
theorem read_decimals (h : ∀ c ∈ w.toList, isDecimal c) (hne : w ≠ "")
    (hl : w.length ≤ digitLimit) : read w = .ok (rowValue w.toList) := by
  have htake : w.toList.takeWhile isDecimal = w.toList := List.takeWhile_eq_self_iff.mpr h
  have hdrop : w.toList.dropWhile isDecimal = [] := List.dropWhile_eq_nil_iff.mpr h
  have hnil : w.toList ≠ [] := by simpa [String.toList_eq_nil_iff] using hne
  have hlength : ¬ digitLimit < w.toList.length := by
    rw [String.length_toList]
    exact Nat.not_lt.mpr hl
  rw [read_row (fun c hc => isDigit_of_isDecimal (h c hc))]
  simp only [htake, hdrop, hnil, hlength, if_true, if_false]

/-- A row of digits that is too long, or has a digit that is not decimal, is no integer. -/
theorem read_row_error (h : ∀ c ∈ w.toList, isDigit c)
    (hbad : digitLimit < w.length ∨ ∃ c ∈ w.toList, ¬ isDecimal c) :
    read w = .error .malformed ∨ ∃ n, read w = .error (.tooLong n) := by
  rw [read_row h]
  dsimp only
  split
  · exact .inl rfl
  split
  · exact .inr ⟨_, rfl⟩
  next hlong =>
    split
    next hrest =>
      have hall : ∀ c ∈ w.toList, isDecimal c := List.dropWhile_eq_nil_iff.mp hrest
      rw [List.takeWhile_eq_self_iff.mpr hall, String.length_toList] at hlong
      rcases hbad with hlt | ⟨c, hc, hn⟩
      · exact absurd hlt hlong
      · exact absurd (hall c hc) hn
    next => exact .inl rfl

end Integer

end FunctionManual
