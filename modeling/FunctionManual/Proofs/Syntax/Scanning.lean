import FunctionManual.Proofs.Except
import FunctionManual.Proofs.Number.Numeral
import FunctionManual.Proofs.Syntax.Soundness

/-!
# The numbers of a program

* `step_token`: a step yields a number, an identifier, or a token of another kind.
* `IsNumber`: the text of a number token is a numeral, with a fraction when it is a float.
* `scan_numbers`: so are all tokens that scanning yields.
* `IsNumber.isLegible`: such a token has a value, up to the limit on digits.
-/

namespace FunctionManual.Syntax

open FunctionManual.Text

/-- A number token is spelled as a numeral without an exponent; a float has a fraction. -/
def IsNumber (kind : TokenKind) (text : String) : Prop :=
  kind = .integer ∨ kind = .float → ∃ n : Numeral, n.exponent = none ∧
    text = String.ofList n.chars ∧ (kind = .integer ↔ n.fraction = [])

/-! ## Numbers -/

/-- The characters of a number that count. -/
def bare (s : List Char) : List Char := s.filter (· ≠ '_')

theorem bare_digit {c : Char} {s : List Char} (hc : isAsciiDigit c) :
    bare (c :: s) = c :: bare s := by
  have := ne_of_isAsciiDigit (d := '_') hc rfl
  simp [bare, this]

theorem spanNumber_digit {d : Char} {s : List Char} (hd : isAsciiDigit d) (fraction : Bool) :
    spanNumber fraction (d :: s) = (d :: (spanNumber fraction s).1, (spanNumber fraction s).2) := by
  simp [spanNumber, hd]

/-- Behind the point there are digits only. -/
theorem spanNumber_true (s : List Char) :
    AreDigits (bare (spanNumber true s).1) ∧ (spanNumber true s).2 = true := by
  induction s with
  | nil => exact ⟨.nil, rfl⟩
  | cons c s ih =>
    unfold spanNumber
    split
    next h =>
      by_cases hc : isAsciiDigit c
      · exact ⟨by rw [bare_digit hc]; exact areDigits_cons.mpr ⟨hc, ih.1⟩, ih.2⟩
      · obtain rfl : c = '_' := by simpa [hc] using h
        exact ih
    · simp only [Bool.not_true, Bool.and_false, Bool.false_and, Bool.false_eq_true, if_false]
      exact ⟨.nil, trivial⟩

/-- A number: more digits, then a point and digits if there is a fraction. -/
theorem spanNumber_false (s : List Char) :
    ∃ whole fraction, AreDigits whole ∧ AreDigits fraction ∧
      bare (spanNumber false s).1 = whole ++ (if fraction = [] then [] else '.' :: fraction) ∧
      ((spanNumber false s).2 = false ↔ fraction = []) := by
  induction s with
  | nil => exact ⟨[], [], .nil, .nil, rfl, by simp [spanNumber]⟩
  | cons c s ih =>
    unfold spanNumber
    split
    next h =>
      obtain ⟨whole, fraction, hw, hf, he, hi⟩ := ih
      by_cases hc : isAsciiDigit c
      · refine ⟨c :: whole, fraction, areDigits_cons.mpr ⟨hc, hw⟩, hf, ?_, hi⟩
        rw [bare_digit hc, he, List.cons_append]
      · obtain rfl : c = '_' := by simpa [hc] using h
        exact ⟨whole, fraction, hw, hf, he, hi⟩
    split
    next h =>
      simp only [Bool.and_eq_true, decide_eq_true_eq, Bool.not_false, and_true] at h
      obtain ⟨rfl, hany⟩ := h
      obtain ⟨d, hs, hd⟩ := (Option.any_eq_true ..).mp hany
      obtain ⟨s, rfl⟩ := List.head?_eq_some_iff.mp hs
      obtain ⟨hf, ht⟩ := spanNumber_true (d :: s)
      have hne : bare (spanNumber true (d :: s)).1 ≠ [] := by
        simp [spanNumber_digit hd, bare_digit hd]
      exact ⟨[], _, .nil, hf, by rw [if_neg hne]; rfl, by simp [ht, hne]⟩
    · exact ⟨[], [], .nil, .nil, rfl, by simp⟩

/-- The numeral of a number that begins with `c`. -/
theorem isNumber_span {c : Char} {rest : List Char}
    (h : isAsciiDigit c || (c = '-' && (rest.head?).any isAsciiDigit)) :
    IsNumber (if (spanNumber false rest).2 then .float else .integer)
      (String.ofList (bare (c :: (spanNumber false rest).1))) := by
  intro _
  obtain ⟨whole, fraction, hw, hf, he, hi⟩ := spanNumber_false rest
  have hkind : (if (spanNumber false rest).2 then TokenKind.float else .integer) = .integer ↔
      fraction = [] := by
    rw [← hi]
    cases (spanNumber false rest).2 <;> simp
  by_cases hc : isAsciiDigit c
  · refine ⟨⟨false, c :: whole, fraction, none, areDigits_cons.mpr ⟨hc, hw⟩, by simp, hf, by simp⟩,
      rfl, ?_, hkind⟩
    simp [bare_digit hc, he, Numeral.chars, Numeral.signChars, Numeral.unsigned,
      Numeral.fractionChars, Numeral.exponentChars]
  · simp only [hc, Bool.false_or, Bool.and_eq_true, decide_eq_true_eq] at h
    obtain ⟨rfl, hany⟩ := h
    obtain ⟨d, hs, hd⟩ := (Option.any_eq_true ..).mp hany
    obtain ⟨rest, rfl⟩ := List.head?_eq_some_iff.mp hs
    have hne : whole ≠ [] := by
      rintro rfl
      rw [spanNumber_digit hd, bare_digit hd, List.nil_append] at he
      split at he
      · cases he
      · rw [(List.cons.inj he).1] at hd
        cases hd
    refine ⟨⟨true, whole, fraction, none, hw, hne, hf, by simp⟩, rfl, ?_, hkind⟩
    have hb : bare ('-' :: (spanNumber false (d :: rest)).1) =
        '-' :: bare (spanNumber false (d :: rest)).1 := by simp [bare]
    simp [hb, he, Numeral.chars, Numeral.signChars, Numeral.unsigned,
      Numeral.fractionChars, Numeral.exponentChars]

/-- The token of a step is a number, an identifier, or of another kind. -/
theorem step_token {depth pos : Nat} {c : Char} {rest : List Char} {next : Step}
    (h : step depth pos c rest = .ok next) {kind : TokenKind} {text : String}
    (hk : next.token = some (kind, text)) :
    ((isAsciiDigit c || (c = '-' && (rest.head?).any isAsciiDigit)) ∧
      kind = (if (spanNumber false rest).2 then .float else .integer) ∧
      text = String.ofList (bare (c :: (spanNumber false rest).1))) ∨
    (isIdentifierStart c ∧ kind = .identifier ∧
      text = String.ofList (c :: rest.takeWhile isIdentifierPart)) ∨
    kind ≠ .integer ∧ kind ≠ .float ∧ kind ≠ .identifier := by
  unfold step at h
  split at h
  next => cases h; split at hk <;> cases hk; exact .inr (.inr (by decide))
  split at h
  next => cases h; cases hk
  split at h
  next => cases h; cases hk
  split at h
  next =>
    cases hs : scanString pos (pos + 1) rest with
    | error e => rw [hs] at h; cases h
    | ok found => rw [hs] at h; cases h; cases hk; exact .inr (.inr (by decide))
  split at h
  next =>
    dsimp only at h
    split at h
    · cases h; cases hk; exact .inr (.inr (by split <;> decide))
    · cases h
  split at h
  next hc => cases h; cases hk; exact .inl ⟨hc, rfl, rfl⟩
  split at h
  next hc => cases h; cases hk; exact .inr (.inl ⟨hc, rfl, rfl⟩)
  split at h
  next => cases h; cases hk; exact .inr (.inr (by decide))
  · cases h

theorem step_isNumber {depth pos : Nat} {c : Char} {rest : List Char} {next : Step}
    (h : step depth pos c rest = .ok next) {kind : TokenKind} {text : String}
    (hk : next.token = some (kind, text)) : IsNumber kind text := by
  obtain ⟨hc, rfl, rfl⟩ | ⟨-, rfl, -⟩ | ⟨hi, hf, -⟩ := step_token h hk
  · exact isNumber_span hc
  · exact fun h => h.elim nofun nofun
  · exact fun h => h.elim (absurd · hi) (absurd · hf)

/-! ## Scanning -/

/-- The token of a step that begins at `pos`. -/
def Step.tokens (next : Step) (pos : Nat) : List Token :=
  (next.token.map fun x => ⟨x.1, x.2, ⟨pos, pos + 1 + next.more⟩⟩).toList

/-- What is scanned is the token of a step, and what is scanned behind it. -/
theorem scanFrom_eq_ok {depth pos : Nat} {c : Char} {rest : List Char} {ts : List Token}
    (h : scanFrom depth pos (c :: rest) = .ok ts) :
    ∃ next tokens, step depth pos c rest = .ok next ∧
      scanFrom next.depth (pos + 1 + next.more) (rest.drop next.more) = .ok tokens ∧
      ts = next.tokens pos ++ tokens := by
  rw [scanFrom] at h
  obtain ⟨next, hs, h⟩ := bind_eq_ok h
  obtain ⟨tokens, hr, h⟩ := bind_eq_ok h
  refine ⟨next, tokens, hs, hr, ?_⟩
  unfold Step.tokens
  split at h
  next hk => cases h; rw [hk]; rfl
  next hk => cases h; rw [hk]; rfl

/-- What holds of the token of each step holds of all tokens. -/
theorem scanFrom_forall {P : TokenKind → String → Prop}
    (hP : ∀ depth pos c rest next, step depth pos c rest = .ok next →
      ∀ kind text, next.token = some (kind, text) → P kind text)
    {depth pos : Nat} {s : List Char} {ts : List Token} (h : scanFrom depth pos s = .ok ts) :
    ∀ t ∈ ts, P t.kind t.text := by
  induction depth, pos, s using scanFrom.induct generalizing ts with
  | case1 =>
    rw [scanFrom] at h
    cases h
    simp
  | case2 depth pos c rest ih =>
    obtain ⟨next, tokens, hs, hr, rfl⟩ := scanFrom_eq_ok h
    refine List.forall_mem_append.mpr ⟨fun t ht => ?_, ih next hr⟩
    obtain ⟨⟨kind, text⟩, hk, rfl⟩ := Option.map_eq_some_iff.mp (Option.mem_toList.mp ht)
    exact hP _ _ _ _ _ hs _ _ hk

/-- All number tokens of a program are numerals. -/
theorem scan_numbers {source : String} {ts : List Token} (h : scan source = .ok ts) :
    ∀ t ∈ ts, IsNumber t.kind t.text :=
  scanFrom_forall (P := IsNumber) (fun _ _ _ _ _ hs _ _ => step_isNumber hs) h

/-! ## Values -/

/-- The number of digits of a token. -/
def digitCount (t : Token) : Nat := t.text.toList.countP isAsciiDigit

theorem countP_chars {n : Numeral} (h : n.IsWhole) :
    n.chars.countP isAsciiDigit = n.whole.length := by
  have hw : n.whole.countP isAsciiDigit = n.whole.length :=
    List.countP_eq_length.mpr n.whole_digits
  have hs : n.signChars.countP isAsciiDigit = 0 := by
    unfold Numeral.signChars
    split <;> rfl
  rw [Numeral.chars, h.unsigned, List.countP_append, hs, hw, Nat.zero_add]

theorem IsNumber.exists_float {t : Token} (h : IsNumber t.kind t.text) (hk : t.kind = .float) :
    ∃ x, Binary64.read t.text = some x := by
  obtain ⟨n, -, ht, -⟩ := h (Or.inr hk)
  rw [ht, n.read]
  exact ⟨_, rfl⟩

theorem hasFloats_of_scan {source : String} {ts : List Token} (h : scan source = .ok ts) :
    HasFloats ts :=
  fun t ht => (scan_numbers h t ht).exists_float

/-- A scanned number has a value, up to the limit on digits. -/
theorem IsNumber.isLegible {t : Token} (h : IsNumber t.kind t.text)
    (hi : t.kind = .integer → digitCount t ≤ Integer.digitLimit)
    (hr : t.kind = .regex → ∀ e, Regex.compile t.text = .error e → ∃ p pos, e = .problem p pos) :
    IsLegible t where
  integer hk := by
    obtain ⟨n, he, ht, hf⟩ := h (Or.inl hk)
    have hn : n.IsWhole := ⟨hf.mp hk, he⟩
    have hle : n.whole.length ≤ Integer.digitLimit := by
      have := hi hk
      rwa [digitCount, ht, String.toList_ofList, countP_chars hn] at this
    rw [ht, String.toList_ofList, hn.readPlain, if_neg (Nat.not_lt.mpr hle)]
    exact ⟨_, rfl⟩
  float := h.exists_float
  regex := hr

end FunctionManual.Syntax
