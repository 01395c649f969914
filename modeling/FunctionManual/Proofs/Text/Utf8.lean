import FunctionManual.Proofs.Except
import FunctionManual.Text.Utf8

/-!
# UTF-8 is read as it is written

* `decodeFrom_encodeChar`: the bytes of a character are read as that character.
* `decode_encode`: the bytes of a text are read as that text.
* `decodeLossy_of_decode`: well-formed bytes are read alike when flaws are replaced.
* `encode_of_decode`: the bytes that are read as a text are the bytes of that text.
* `replacement_mem_of_error`: where flaws are replaced, the replacement is seen.
* `eq_of_decodeLossy_eq`: so other bytes than those of a text are read as that text only where they
  have flaws, and only when the text has the character that stands for them.
-/

namespace FunctionManual.Text.Utf8

/-! ## Bytes -/

theorem toNat_toUInt8 {n : Nat} (h : n < 256) : n.toUInt8.toNat = n := by
  simp [Nat.toUInt8, Nat.mod_eq_of_lt h]

section Bytes

variable {b : UInt8} {k : Nat}

theorem start_one (hb : b.toNat < 0x80) : start b = .char (Char.ofNat b.toNat) := if_pos hb

theorem start_two (hb : b.toNat = 0xC0 + k) (h : 2 ≤ k ∧ k < 32) :
    start b = .opened ⟨1, k, 0x80, 0xBF, b, 1⟩ := by
  simp only [start, hb]
  rw [if_neg (by omega), if_neg (by omega), if_pos (by omega), Nat.add_sub_cancel_left]

/-- The second of three bytes stays above the overlong forms and below the surrogates. -/
theorem start_three (hb : b.toNat = 0xE0 + k) (h : k < 16) :
    start b =
      .opened ⟨2, k, if k = 0 then 0xA0 else 0x80, if k = 13 then 0x9F else 0xBF, b, 1⟩ := by
  have h₁ : 0xE0 + k = 0xE0 ↔ k = 0 := by omega
  have h₂ : 0xE0 + k = 0xED ↔ k = 13 := by omega
  simp only [start, hb, h₁, h₂]
  rw [if_neg (by omega), if_neg (by omega), if_neg (by omega), if_pos (by omega),
    Nat.add_sub_cancel_left]

/-- The second of four bytes stays above the overlong forms and below the end of all codes. -/
theorem start_four (hb : b.toNat = 0xF0 + k) (h : k < 5) :
    start b = .opened ⟨3, k, if k = 0 then 0x90 else 0x80, if k = 4 then 0x8F else 0xBF, b, 1⟩ := by
  have h₁ : 0xF0 + k = 0xF0 ↔ k = 0 := by omega
  have h₂ : 0xF0 + k = 0xF4 ↔ k = 4 := by omega
  simp only [start, hb, h₁, h₂]
  rw [if_neg (by omega), if_neg (by omega), if_neg (by omega), if_neg (by omega),
    if_pos (by omega), Nat.add_sub_cancel_left]

variable {missing bits low high taken : Nat} {first : UInt8}

theorem advance_more (hb : b.toNat = 0x80 + k) (h : low ≤ 0x80 + k ∧ 0x80 + k ≤ high) :
    (⟨missing + 2, bits, low, high, first, taken⟩ : Pending).advance b =
      .more ⟨missing + 1, bits * 64 + k, 0x80, 0xBF, first, taken + 1⟩ := by
  simp only [Pending.advance, hb]
  rw [if_pos h, if_neg (by omega), Nat.add_sub_cancel_left]
  rfl

theorem advance_done (hb : b.toNat = 0x80 + k) (h : low ≤ 0x80 + k ∧ 0x80 + k ≤ high) :
    (⟨1, bits, low, high, first, taken⟩ : Pending).advance b =
      .done (Char.ofNat (bits * 64 + k)) := by
  simp only [Pending.advance, hb]
  rw [if_pos h, if_pos (Nat.le_refl 1), Nat.add_sub_cancel_left]

end Bytes

/-! ## Texts -/

/-- The bytes of a character are read as that character, and reading goes on behind them. -/
theorem decodeFrom_encodeChar (c : Char) (pos : Nat) (rest : List UInt8) :
    ∃ pos', decodeFrom pos none (encodeChar c ++ rest) =
      (decodeFrom pos' none rest).map (c :: ·) := by
  have hc : c.toNat < 0xD800 ∨ 0xDFFF < c.toNat ∧ c.toNat < 0x110000 := c.valid
  have hn : Char.ofNat c.toNat = c := Char.ofNat_toNat c
  have tail (m : Nat) : (0x80 + m % 64).toUInt8.toNat = 0x80 + m % 64 :=
    toNat_toUInt8 (by omega)
  have any (m : Nat) : 0x80 ≤ 0x80 + m % 64 ∧ 0x80 + m % 64 ≤ 0xBF := by omega
  unfold encodeChar
  generalize c.toNat = n at hc hn
  dsimp only
  split
  next h =>
    have hb : n.toUInt8.toNat = n := toNat_toUInt8 (by omega)
    refine ⟨pos + 1, ?_⟩
    simp only [List.singleton_append, decodeFrom, start_one (hb ▸ h), hb, hn]
  split
  next h =>
    have hb : (0xC0 + n / 64).toUInt8.toNat = 0xC0 + n / 64 := toNat_toUInt8 (by omega)
    have hv : n / 64 * 64 + n % 64 = n := by omega
    refine ⟨pos + 1 + 1, ?_⟩
    simp only [List.cons_append, List.nil_append, decodeFrom, start_two hb (by omega),
      advance_done (tail n) (any n), hv, hn]
  split
  next h =>
    have hb : (0xE0 + n / 4096).toUInt8.toNat = 0xE0 + n / 4096 := toNat_toUInt8 (by omega)
    have hv : (n / 4096 * 64 + n / 64 % 64) * 64 + n % 64 = n := by omega
    have hr : (if n / 4096 = 0 then 0xA0 else 0x80) ≤ 0x80 + n / 64 % 64 ∧
        0x80 + n / 64 % 64 ≤ if n / 4096 = 13 then 0x9F else 0xBF := by
      constructor <;> split <;> omega
    refine ⟨pos + 1 + 1 + 1, ?_⟩
    simp only [List.cons_append, List.nil_append, decodeFrom, start_three hb (by omega),
      advance_more (tail (n / 64)) hr, advance_done (tail n) (any n), Nat.reduceAdd, hv, hn]
  next =>
    have hb : (0xF0 + n / 262144).toUInt8.toNat = 0xF0 + n / 262144 := toNat_toUInt8 (by omega)
    have hv : ((n / 262144 * 64 + n / 4096 % 64) * 64 + n / 64 % 64) * 64 + n % 64 = n := by omega
    have hr : (if n / 262144 = 0 then 0x90 else 0x80) ≤ 0x80 + n / 4096 % 64 ∧
        0x80 + n / 4096 % 64 ≤ if n / 262144 = 4 then 0x8F else 0xBF := by
      constructor <;> split <;> omega
    refine ⟨pos + 1 + 1 + 1 + 1, ?_⟩
    simp only [List.cons_append, List.nil_append, decodeFrom, start_four hb (by omega),
      advance_more (tail (n / 4096)) hr, advance_more (tail (n / 64)) (any _),
      advance_done (tail n) (any n), Nat.reduceAdd, hv, hn]

theorem decodeFrom_flatMap (cs : List Char) (pos : Nat) :
    decodeFrom pos none (cs.flatMap encodeChar) = .ok cs := by
  induction cs generalizing pos with
  | nil => rfl
  | cons c cs ih =>
    obtain ⟨pos', h⟩ := decodeFrom_encodeChar c pos (cs.flatMap encodeChar)
    rw [List.flatMap_cons, h, ih]
    rfl

/-- The bytes of a text are read as that text. -/
theorem decode_encode (s : String) : decode (encode s) = .ok s := by
  rw [decode, encode, decodeFrom_flatMap]
  exact congrArg Except.ok (String.ofList_toList (s := s))

/-! ## Reading with flaws replaced -/

/-- Where no flaw is found none is replaced. -/
theorem decodeLossyFrom_of_decodeFrom {bytes : List UInt8} {pos : Nat} {pending : Option Pending}
    {cs : List Char} (h : decodeFrom pos pending bytes = .ok cs) :
    decodeLossyFrom pending bytes = cs := by
  induction bytes generalizing pos pending cs with
  | nil =>
    cases pending with
    | none => exact Except.ok.inj h
    | some p => cases h
  | cons b rest ih =>
    cases pending with
    | none =>
      rw [decodeFrom] at h
      rw [decodeLossyFrom]
      cases hs : start b with
      | char c =>
        rw [hs] at h
        obtain ⟨cs', h', rfl⟩ := map_eq_ok h
        exact congrArg (c :: ·) (ih h')
      | opened p =>
        rw [hs] at h
        exact ih h
      | invalid =>
        rw [hs] at h
        cases h
    | some p =>
      rw [decodeFrom] at h
      rw [decodeLossyFrom]
      cases ha : p.advance b with
      | done c =>
        rw [ha] at h
        obtain ⟨cs', h', rfl⟩ := map_eq_ok h
        exact congrArg (c :: ·) (ih h')
      | more q =>
        rw [ha] at h
        exact ih h
      | refused =>
        rw [ha] at h
        cases h

/-- Well-formed bytes are read alike when flaws are replaced. -/
theorem decodeLossy_of_decode {bytes : List UInt8} {s : String} (h : decode bytes = .ok s) :
    decodeLossy bytes = s := by
  obtain ⟨cs, hcs, rfl⟩ := map_eq_ok h
  exact congrArg String.ofList (decodeLossyFrom_of_decodeFrom hcs)

/-! ## Reading is exact -/

theorem toNat_ofNat {n : Nat} (h : n < 0xD800 ∨ 0xDFFF < n ∧ n < 0x110000) :
    (Char.ofNat n).toNat = n := by
  unfold Char.ofNat
  rw [dif_pos h]
  rfl

theorem toUInt8_eq {n : Nat} {b : UInt8} (h : n = b.toNat) : n.toUInt8 = b := by
  rw [h]
  exact UInt8.ofNat_toNat

section Pending

variable {pos missing bits low high taken : Nat} {first : UInt8} {bytes : List UInt8}
  {cs : List Char}

/-- The last byte of a character gives it its last bits. -/
theorem decodeFrom_last (h : decodeFrom pos (some ⟨1, bits, low, high, first, taken⟩) bytes = .ok cs) :
    ∃ b rest cs', bytes = b :: rest ∧ low ≤ b.toNat ∧ b.toNat ≤ high ∧
      cs = Char.ofNat (bits * 64 + (b.toNat - 0x80)) :: cs' ∧
      decodeFrom (pos + 1) none rest = .ok cs' := by
  cases bytes with
  | nil => cases h
  | cons b rest =>
    rw [decodeFrom] at h
    by_cases hb : low ≤ b.toNat ∧ b.toNat ≤ high
    · simp only [Pending.advance, if_pos hb, Nat.le_refl, if_true] at h
      obtain ⟨cs', h', rfl⟩ := map_eq_ok h
      exact ⟨b, rest, cs', rfl, hb.1, hb.2, rfl, h'⟩
    · simp only [Pending.advance, if_neg hb] at h
      cases h

/-- Every byte before the last gives it some of its bits, and the next may be any that continues. -/
theorem decodeFrom_next
    (h : decodeFrom pos (some ⟨missing + 2, bits, low, high, first, taken⟩) bytes = .ok cs) :
    ∃ b rest, bytes = b :: rest ∧ low ≤ b.toNat ∧ b.toNat ≤ high ∧
      decodeFrom (pos + 1) (some ⟨missing + 1, bits * 64 + (b.toNat - 0x80), 0x80, 0xBF, first,
        taken + 1⟩) rest = .ok cs := by
  cases bytes with
  | nil => cases h
  | cons b rest =>
    rw [decodeFrom] at h
    by_cases hb : low ≤ b.toNat ∧ b.toNat ≤ high
    · have hmore : ¬ missing + 2 ≤ 1 := by omega
      simp only [Pending.advance, if_pos hb, if_neg hmore] at h
      exact ⟨b, rest, rfl, hb.1, hb.2, h⟩
    · simp only [Pending.advance, if_neg hb] at h
      cases h

end Pending

section Lengths

variable {b b₂ b₃ b₄ : UInt8}

theorem encodeChar_one (hb : b.toNat < 0x80) : encodeChar (Char.ofNat b.toNat) = [b] := by
  rw [encodeChar, toNat_ofNat (by omega), if_pos hb, toUInt8_eq rfl]

theorem encodeChar_two (hb : 0xC2 ≤ b.toNat ∧ b.toNat < 0xE0)
    (h₂ : 0x80 ≤ b₂.toNat ∧ b₂.toNat ≤ 0xBF) :
    encodeChar (Char.ofNat ((b.toNat - 0xC0) * 64 + (b₂.toNat - 0x80))) = [b, b₂] := by
  rw [encodeChar, toNat_ofNat (by omega), if_neg (by omega), if_pos (by omega),
    toUInt8_eq (b := b) (by omega), toUInt8_eq (b := b₂) (by omega)]

/-- Three bytes are neither an overlong form nor a surrogate. -/
theorem encodeChar_three (hb : 0xE0 ≤ b.toNat ∧ b.toNat < 0xF0)
    (h₂ : (b.toNat = 0xE0 → 0xA0 ≤ b₂.toNat) ∧ (b.toNat = 0xED → b₂.toNat ≤ 0x9F) ∧
      0x80 ≤ b₂.toNat ∧ b₂.toNat ≤ 0xBF) (h₃ : 0x80 ≤ b₃.toNat ∧ b₃.toNat ≤ 0xBF) :
    encodeChar (Char.ofNat (((b.toNat - 0xE0) * 64 + (b₂.toNat - 0x80)) * 64 +
      (b₃.toNat - 0x80))) = [b, b₂, b₃] := by
  rw [encodeChar, toNat_ofNat (by omega), if_neg (by omega), if_neg (by omega), if_pos (by omega),
    toUInt8_eq (b := b) (by omega), toUInt8_eq (b := b₂) (by omega),
    toUInt8_eq (b := b₃) (by omega)]

/-- Four bytes are no overlong form and stay below the end of all codes. -/
theorem encodeChar_four (hb : 0xF0 ≤ b.toNat ∧ b.toNat < 0xF5)
    (h₂ : (b.toNat = 0xF0 → 0x90 ≤ b₂.toNat) ∧ (b.toNat = 0xF4 → b₂.toNat ≤ 0x8F) ∧
      0x80 ≤ b₂.toNat ∧ b₂.toNat ≤ 0xBF) (h₃ : 0x80 ≤ b₃.toNat ∧ b₃.toNat ≤ 0xBF)
    (h₄ : 0x80 ≤ b₄.toNat ∧ b₄.toNat ≤ 0xBF) :
    encodeChar (Char.ofNat ((((b.toNat - 0xF0) * 64 + (b₂.toNat - 0x80)) * 64 +
      (b₃.toNat - 0x80)) * 64 + (b₄.toNat - 0x80))) = [b, b₂, b₃, b₄] := by
  rw [encodeChar, toNat_ofNat (by omega), if_neg (by omega), if_neg (by omega), if_neg (by omega),
    toUInt8_eq (b := b) (by omega), toUInt8_eq (b := b₂) (by omega),
    toUInt8_eq (b := b₃) (by omega), toUInt8_eq (b := b₄) (by omega)]

end Lengths

/-- The bytes of the characters that are read are the bytes that were read. -/
theorem flatMap_of_decodeFrom {pos : Nat} {bytes : List UInt8} {cs : List Char}
    (h : decodeFrom pos none bytes = .ok cs) : cs.flatMap encodeChar = bytes := by
  induction hn : bytes.length using Nat.strongRecOn generalizing pos bytes cs with
  | ind n ih =>
    have tail {pos : Nat} {rest : List UInt8} {cs : List Char} (hlt : rest.length < bytes.length)
        (h : decodeFrom pos none rest = .ok cs) : cs.flatMap encodeChar = rest :=
      ih rest.length (hn ▸ hlt) h rfl
    cases bytes with
    | nil =>
      cases h
      rfl
    | cons b rest =>
      rw [decodeFrom, start] at h
      -- the cases are the lengths of a character
      by_cases h₁ : b.toNat < 0x80
      · simp only [if_pos h₁] at h
        obtain ⟨cs', hr, rfl⟩ := map_eq_ok h
        rw [List.flatMap_cons, tail (Nat.lt_succ_self _) hr, encodeChar_one h₁]
        rfl
      by_cases h₂ : b.toNat < 0xC2
      · simp only [if_neg h₁, if_pos h₂] at h
        cases h
      by_cases h₃ : b.toNat < 0xE0
      · simp only [if_neg h₁, if_neg h₂, if_pos h₃] at h
        obtain ⟨b₂, rest, cs', rfl, hlow, hhigh, rfl, hr⟩ := decodeFrom_last h
        rw [List.flatMap_cons, tail (by simp only [List.length_cons]; omega) hr,
          encodeChar_two ⟨by omega, h₃⟩ ⟨hlow, hhigh⟩]
        rfl
      by_cases h₄ : b.toNat < 0xF0
      · simp only [if_neg h₁, if_neg h₂, if_neg h₃, if_pos h₄] at h
        obtain ⟨b₂, rest, rfl, hlow, hhigh, h⟩ := decodeFrom_next h
        obtain ⟨b₃, rest, cs', rfl, hlow', hhigh', rfl, hr⟩ := decodeFrom_last h
        have hsecond : (b.toNat = 0xE0 → 0xA0 ≤ b₂.toNat) ∧ (b.toNat = 0xED → b₂.toNat ≤ 0x9F) ∧
            0x80 ≤ b₂.toNat ∧ b₂.toNat ≤ 0xBF := by
          split at hlow <;> split at hhigh <;> omega
        rw [List.flatMap_cons, tail (by simp only [List.length_cons]; omega) hr,
          encodeChar_three ⟨by omega, h₄⟩ hsecond ⟨hlow', hhigh'⟩]
        rfl
      by_cases h₅ : b.toNat < 0xF5
      · simp only [if_neg h₁, if_neg h₂, if_neg h₃, if_neg h₄, if_pos h₅] at h
        obtain ⟨b₂, rest, rfl, hlow, hhigh, h⟩ := decodeFrom_next h
        obtain ⟨b₃, rest, rfl, hlow', hhigh', h⟩ := decodeFrom_next h
        obtain ⟨b₄, rest, cs', rfl, hlow'', hhigh'', rfl, hr⟩ := decodeFrom_last h
        have hsecond : (b.toNat = 0xF0 → 0x90 ≤ b₂.toNat) ∧ (b.toNat = 0xF4 → b₂.toNat ≤ 0x8F) ∧
            0x80 ≤ b₂.toNat ∧ b₂.toNat ≤ 0xBF := by
          split at hlow <;> split at hhigh <;> omega
        rw [List.flatMap_cons, tail (by simp only [List.length_cons]; omega) hr,
          encodeChar_four ⟨by omega, h₅⟩ hsecond ⟨hlow', hhigh'⟩ ⟨hlow'', hhigh''⟩]
        rfl
      · simp only [if_neg h₁, if_neg h₂, if_neg h₃, if_neg h₄, if_neg h₅] at h
        cases h

/-- The bytes that are read as a text are the bytes of that text. -/
theorem encode_of_decode {bytes : List UInt8} {s : String} (h : decode bytes = .ok s) :
    encode s = bytes := by
  obtain ⟨cs, hcs, rfl⟩ := map_eq_ok h
  rw [encode, String.toList_ofList]
  exact flatMap_of_decodeFrom hcs

/-! ## Flaws -/

/-- Where a flaw is found, its replacement is read. -/
theorem replacement_mem_of_decodeFrom {bytes : List UInt8} {pos : Nat} {pending : Option Pending}
    {e : Error} (h : decodeFrom pos pending bytes = .error e) :
    replacement ∈ decodeLossyFrom pending bytes := by
  induction bytes generalizing pos pending e with
  | nil =>
    cases pending with
    | none => cases h
    | some p => exact List.mem_cons_self
  | cons b rest ih =>
    have later {pos : Nat} {c : Char}
        (h : (decodeFrom pos none rest).map (c :: ·) = .error e) :
        replacement ∈ c :: decodeLossyFrom none rest := by
      cases hr : decodeFrom pos none rest with
      | error e' => exact List.mem_cons_of_mem c (ih hr)
      | ok cs =>
        rw [hr] at h
        cases h
    cases pending with
    | none =>
      rw [decodeFrom] at h
      rw [decodeLossyFrom]
      cases hs : start b with
      | char c =>
        rw [hs] at h
        exact later h
      | opened p =>
        rw [hs] at h
        exact ih h
      | invalid => exact List.mem_cons_self
    | some p =>
      rw [decodeFrom] at h
      rw [decodeLossyFrom]
      cases ha : p.advance b with
      | done c =>
        rw [ha] at h
        exact later h
      | more q =>
        rw [ha] at h
        exact ih h
      | refused =>
        dsimp only
        cases start b <;> exact List.mem_cons_self

theorem replacement_mem_of_error {bytes : List UInt8} {e : Error} (h : decode bytes = .error e) :
    replacement ∈ (decodeLossy bytes).toList := by
  rw [decodeLossy, String.toList_ofList]
  cases hd : decodeFrom 0 none bytes with
  | error e' => exact replacement_mem_of_decodeFrom hd
  | ok cs =>
    rw [decode, hd] at h
    cases h

/-- Other bytes than those of a text that are read as that text have a flaw, and the text has the
character that stands for it. -/
theorem eq_of_decodeLossy_eq {bytes : List UInt8} {s : String} (h : decodeLossy bytes = s)
    (hne : bytes ≠ encode s) : (∃ e, decode bytes = .error e) ∧ replacement ∈ s.toList := by
  cases hd : decode bytes with
  | error e => exact ⟨⟨e, rfl⟩, h ▸ replacement_mem_of_error hd⟩
  | ok t =>
    rw [decodeLossy_of_decode hd] at h
    exact absurd (h ▸ encode_of_decode hd).symm hne

end FunctionManual.Text.Utf8
