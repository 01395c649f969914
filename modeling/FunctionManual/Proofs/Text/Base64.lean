import FunctionManual.Text.Base64
import Mathlib.Data.List.TakeWhile

/-!
# Base64 is read as it is written

* `encode_shape`: digits, and behind them as many equals signs as the last group lacks digits.
* `decode_encode`: the digits of bytes are read as these bytes.
* `written`, `restored`: digits as a text shows them, and the standard digits of such a text.
* `restored_written`: whatever set of digits is shown, with equals signs or without, the digits of
  the bytes are restored.
-/

namespace FunctionManual.Base64

/-! ## Digits -/

/-- A digit of the standard set. -/
def IsDigit (c : Char) : Prop := ∃ n < 64, digit n = c

theorem isDigit_digit {n : Nat} (h : n < 64) : IsDigit (digit n) := ⟨n, h, rfl⟩

theorem digitValue?_digit : ∀ n < 64, digitValue? (digit n) = some n := by decide

theorem digit_ne_equals : ∀ n < 64, digit n ≠ '=' := by decide

theorem IsDigit.ne_equals {c : Char} (h : IsDigit c) : c ≠ '=' := by
  obtain ⟨n, hn, rfl⟩ := h
  exact digit_ne_equals n hn

theorem IsDigit.ascii {c : Char} (h : IsDigit c) : c.toNat < 128 := by
  obtain ⟨n, hn, rfl⟩ := h
  have all : ∀ n < 64, (digit n).toNat < 128 := by decide
  exact all n hn

/-- The digits of bytes and the equals signs behind them fill whole groups of four. -/
theorem encode_shape (bytes : List UInt8) :
    ∃ ds k, encode bytes = ds ++ List.replicate k '=' ∧ (∀ c ∈ ds, IsDigit c) ∧
      k < 4 ∧ (ds.length + k) % 4 = 0 ∧ (ds = [] → k = 0) := by
  fun_induction encode bytes with
  | case1 => exact ⟨[], 0, rfl, nofun, by decide, rfl, fun _ => rfl⟩
  | case2 a n =>
    have ha := a.toNat_lt
    refine ⟨[digit (n / 262144), digit (n / 4096 % 64)], 2, rfl, ?_, by decide, by simp, nofun⟩
    simp only [List.forall_mem_cons]
    exact ⟨isDigit_digit (by omega), isDigit_digit (by omega), nofun⟩
  | case3 a b n =>
    have ha := a.toNat_lt
    have hb := b.toNat_lt
    refine ⟨[digit (n / 262144), digit (n / 4096 % 64), digit (n / 64 % 64)], 1, rfl, ?_,
      by decide, by simp, nofun⟩
    simp only [List.forall_mem_cons]
    exact ⟨isDigit_digit (by omega), isDigit_digit (by omega), isDigit_digit (by omega), nofun⟩
  | case4 a b c rest n ih =>
    have ha := a.toNat_lt
    have hb := b.toNat_lt
    have hc := c.toNat_lt
    obtain ⟨ds, k, he, hds, hk, hlen, -⟩ := ih
    refine ⟨digit (n / 262144) :: digit (n / 4096 % 64) :: digit (n / 64 % 64) :: digit (n % 64)
      :: ds, k, by rw [he]; rfl, ?_, hk, ?_, nofun⟩
    · simp only [List.forall_mem_cons]
      exact ⟨isDigit_digit (by omega), isDigit_digit (by omega), isDigit_digit (by omega),
        isDigit_digit (by omega), hds⟩
    · simp only [List.length_cons]
      omega

/-! ## Reading -/

/-- A digit continues a group without equals signs. -/
theorem decodeFrom_digit {n : Nat} (hn : n < 64) {g : Group} (hg : g.padded = false)
    (rest : List Char) : decodeFrom g (digit n :: rest) =
      (decodeFrom (g.add n).1 rest).map ((g.add n).2 ++ ·) := by
  rw [decodeFrom, if_neg (digit_ne_equals n hn)]
  simp only [digitValue?_digit n hn, hg, Bool.false_eq_true, if_false]

theorem toUInt8_eq {a : UInt8} {n : Nat} (h : n = a.toNat) : n.toUInt8 = a := by
  rw [h]
  exact UInt8.ofNat_toNat

/-- The digits of bytes are read as these bytes, however many digits stood before them. -/
theorem decodeFrom_encode (bytes : List UInt8) (count : Nat) :
    decodeFrom ⟨0, 0, 0, false, count⟩ (encode bytes) = .ok bytes := by
  fun_induction encode bytes generalizing count with
  | case1 => rfl
  | case2 a n =>
    have ha := a.toNat_lt
    have h₁ : (n / 262144 * 4 + n / 4096 % 64 / 16).toUInt8 = a := toUInt8_eq (by omega)
    rw [decodeFrom_digit (by omega) rfl, decodeFrom_digit (by omega) rfl]
    simp only [Group.add, h₁]
    rfl
  | case3 a b n =>
    have ha := a.toNat_lt
    have hb := b.toNat_lt
    have h₁ : (n / 262144 * 4 + n / 4096 % 64 / 16).toUInt8 = a := toUInt8_eq (by omega)
    have h₂ : (n / 4096 % 64 % 16 * 16 + n / 64 % 64 / 4).toUInt8 = b := toUInt8_eq (by omega)
    rw [decodeFrom_digit (by omega) rfl, decodeFrom_digit (by omega) rfl,
      decodeFrom_digit (by omega) rfl]
    simp only [Group.add, h₁, h₂]
    rfl
  | case4 a b c rest n ih =>
    have ha := a.toNat_lt
    have hb := b.toNat_lt
    have hc := c.toNat_lt
    have h₁ : (n / 262144 * 4 + n / 4096 % 64 / 16).toUInt8 = a := toUInt8_eq (by omega)
    have h₂ : (n / 4096 % 64 % 16 * 16 + n / 64 % 64 / 4).toUInt8 = b := toUInt8_eq (by omega)
    have h₃ : (n / 64 % 64 % 4 * 64 + n % 64).toUInt8 = c := toUInt8_eq (by omega)
    rw [decodeFrom_digit (by omega) rfl, decodeFrom_digit (by omega) rfl,
      decodeFrom_digit (by omega) rfl, decodeFrom_digit (by omega) rfl]
    simp only [Group.add, h₁, h₂, h₃, ih]
    rfl

/-- The digits of bytes are read as these bytes. -/
theorem decode_encode (bytes : List UInt8) : decode (encode bytes) = .ok bytes := by
  obtain ⟨ds, k, he, hds, -, -, hnil⟩ := encode_shape bytes
  have hascii : (encode bytes).any (fun c => 128 ≤ c.toNat) = false := by
    simp only [List.any_eq_false, decide_eq_true_eq, Nat.not_le, he, List.mem_append]
    rintro c (hc | hc)
    · exact (hds c hc).ascii
    · rw [List.eq_of_mem_replicate hc]
      decide
  have hhead : (encode bytes).head? ≠ some '=' := by
    rw [he]
    cases ds with
    | nil => simp [hnil rfl]
    | cons c ds =>
      intro h
      exact (hds c List.mem_cons_self).ne_equals (Option.some.inj h)
  rw [decode, hascii]
  simp only [Bool.false_eq_true, if_false, hhead]
  exact decodeFrom_encode bytes 0

/-! ## Texts of digits -/

/-- The digit of a text that stands for a standard one. -/
def shown (safe : Bool) (c : Char) : Char := if safe then toSafe c else c

/-- The standard digit for which a digit of a text stands. -/
def plain (safe : Bool) (c : Char) : Char := if safe then ofSafe c else c

theorem map_shown (safe : Bool) (s : List Char) :
    s.map (shown safe) = if safe then s.map toSafe else s := by
  cases safe with
  | false => exact List.map_id s
  | true => rfl

theorem map_plain (safe : Bool) (s : List Char) :
    s.map (plain safe) = if safe then s.map ofSafe else s := by
  cases safe with
  | false => exact List.map_id s
  | true => rfl

theorem shown_equals (safe : Bool) : shown safe '=' = '=' := by
  cases safe <;> rfl

theorem plain_equals (safe : Bool) : plain safe '=' = '=' := by
  cases safe <;> rfl

theorem IsDigit.shown_ne_equals {c : Char} (h : IsDigit c) (safe : Bool) : shown safe c ≠ '=' := by
  obtain ⟨n, hn, rfl⟩ := h
  have all : ∀ safe, ∀ n < 64, shown safe (digit n) ≠ '=' := by decide
  exact all safe n hn

theorem IsDigit.plain_shown {c : Char} (h : IsDigit c) (safe : Bool) :
    plain safe (shown safe c) = c := by
  obtain ⟨n, hn, rfl⟩ := h
  have all : ∀ safe, ∀ n < 64, plain safe (shown safe (digit n)) = digit n := by decide
  exact all safe n hn

/-- Digits as a text shows them, with the equals signs at the end or without. -/
def written (safe padded : Bool) (digits : List Char) : List Char :=
  let digits := digits.map (shown safe)
  if padded then digits else digits.takeWhile (· ≠ '=')

/-- The digits of a text, filled up with equals signs to whole groups. -/
def filled (s : List Char) : List Char := s ++ List.replicate ((4 - s.length % 4) % 4) '='

/-- The standard digits of a text that may lack equals signs. -/
def restored (safe : Bool) (s : List Char) : List Char := (filled s).map (plain safe)

/-- Equals signs that were left out are filled in again, and whole groups stay as they are. -/
theorem filled_append {ds : List Char} {k : Nat} (hk : k < 4) (h : (ds.length + k) % 4 = 0) :
    filled ds = ds ++ List.replicate k '=' ∧
      filled (ds ++ List.replicate k '=') = ds ++ List.replicate k '=' := by
  have h₁ : (4 - ds.length % 4) % 4 = k := by omega
  have h₂ : (4 - (ds ++ List.replicate k '=').length % 4) % 4 = 0 := by
    rw [List.length_append, List.length_replicate, h]
  refine ⟨by rw [filled, h₁], ?_⟩
  rw [filled, h₂]
  exact List.append_nil _

/-- Without its equals signs a text of digits is the digits alone. -/
theorem takeWhile_ne_equals {ds : List Char} (hds : ∀ c ∈ ds, c ≠ '=') (k : Nat) :
    (ds ++ List.replicate k '=').takeWhile (· ≠ '=') = ds := by
  rw [List.takeWhile_append_of_pos (fun c hc => decide_eq_true (hds c hc))]
  cases k with
  | zero => exact List.append_nil ds
  | succ k => exact List.append_nil ds

/-- The digits of bytes are restored from every text that shows them. -/
theorem restored_written (safe padded : Bool) (bytes : List UInt8) :
    restored safe (written safe padded (encode bytes)) = encode bytes := by
  obtain ⟨ds, k, he, hds, hk, hlen, -⟩ := encode_shape bytes
  have hshown : (encode bytes).map (shown safe) = ds.map (shown safe) ++ List.replicate k '=' := by
    rw [he, List.map_append, List.map_replicate, shown_equals]
  have hne : ∀ c ∈ ds.map (shown safe), c ≠ '=' := by
    intro c hc
    obtain ⟨d, hd, rfl⟩ := List.mem_map.mp hc
    exact (hds d hd).shown_ne_equals safe
  have hlen' : ((ds.map (shown safe)).length + k) % 4 = 0 := by rw [List.length_map, hlen]
  have hfilled : filled (written safe padded (encode bytes)) =
      ds.map (shown safe) ++ List.replicate k '=' := by
    rw [written, hshown]
    cases padded with
    | false => exact (congrArg filled (takeWhile_ne_equals hne k)).trans (filled_append hk hlen').1
    | true => exact (filled_append hk hlen').2
  have hback : (ds.map (shown safe)).map (plain safe) = ds := by
    have hid : ∀ c ∈ ds, (plain safe ∘ shown safe) c = id c :=
      fun c hc => (hds c hc).plain_shown safe
    rw [List.map_map, List.map_congr_left hid, List.map_id]
  rw [restored, hfilled, List.map_append, List.map_replicate, plain_equals, hback, he]

/-- A text without equals signs has none. -/
theorem equals_not_mem_written (safe : Bool) (digits : List Char) :
    '=' ∉ written safe false digits := by
  intro h
  have := List.mem_takeWhile_imp h
  simp at this

end FunctionManual.Base64
