import FunctionManual.Proofs.TypeSpec.Grammar
import Mathlib.Data.List.Chain

/-!
# Texts of types are split into tokens

* `tokens_writes`: a text that is split is made of its tokens and blanks.
* `Separate`: words and marks, no two words side by side.
* `Derives.separate`: the tokens of a phrase are.
* `Writes.tokens_eq`: a text that is made of such tokens is split into them.
-/

namespace FunctionManual.TypeSpec

open FunctionManual.Text

/-! ## Characters -/

/-- A blank is no part of a token. -/
theorem not_token_of_isBlank {c : Char} (h : isBlank c) :
    isNameLetter c = false ∧ isMark c = false := by
  have hmark : isMark c = false := by
    rw [Bool.eq_false_iff]
    intro hm
    simp only [isMark, Bool.or_eq_true, decide_eq_true_eq] at hm
    rcases hm with (rfl | rfl) | rfl <;> exact absurd h (by decide)
  refine ⟨?_, hmark⟩
  rw [Bool.eq_false_iff]
  intro hl
  simp only [isNameLetter, Bool.and_eq_true, decide_eq_true_eq, Char.le_def,
    UInt32.le_iff_toNat_le] at hl
  change 97 ≤ c.toNat ∧ c.toNat ≤ 122 at hl
  simp only [isBlank, Bool.or_eq_true, Bool.and_eq_true, decide_eq_true_eq, beq_iff_eq] at h
  omega

/-- A mark is no letter. -/
theorem not_letter_of_isMark {c : Char} (h : isMark c) : isNameLetter c = false := by
  simp only [isMark, Bool.or_eq_true, decide_eq_true_eq] at h
  rcases h with (rfl | rfl) | rfl <;> rfl

/-! ## From texts to tokens -/

theorem flush_of_ne_nil {word : List Char} (h : word ≠ []) (ts : List String) :
    tokensFrom.flush word ts = String.ofList word.reverse :: ts := by
  simp [tokensFrom.flush, h]

/-- A text is still made of the tokens behind a word when the word is put before them. -/
theorem Writes.flush {s : List Char} {ts : List String} (word : List Char) (h : Writes s ts) :
    Writes (word.reverse ++ s) (tokensFrom.flush word ts) := by
  by_cases hw : word = []
  · subst hw
    exact h
  · rw [flush_of_ne_nil hw]
    simpa using h.token (String.ofList word.reverse)

theorem writes_of_tokensFrom {s word : List Char} {ts : List String}
    (h : tokensFrom word s = .ok ts) : Writes (word.reverse ++ s) ts := by
  induction s generalizing word ts with
  | nil =>
    cases h
    exact (Writes.nil areBlanks_nil).flush word
  | cons c s ih =>
    rw [tokensFrom] at h
    split at h
    next =>
      -- a letter goes on with the word
      simpa using ih h
    split at h
    next =>
      cases hr : tokensFrom [] s with
      | error e => rw [hr] at h; cases h
      | ok us =>
        rw [hr] at h
        cases h
        have hmark : Writes (c :: s) (c.toString :: us) := by
          simpa using (ih hr).token c.toString
        exact hmark.flush word
    split at h
    next hb =>
      cases hr : tokensFrom [] s with
      | error e => rw [hr] at h; cases h
      | ok us =>
        rw [hr] at h
        cases h
        have hc : AreBlanks [c] := List.forall_mem_singleton.mpr hb
        have hblank : Writes (c :: s) us := (ih hr).blanks hc
        exact hblank.flush word
    next => cases h

/-- A text that is split is made of its tokens and blanks. -/
theorem tokens_writes {source : String} {ts : List String} (h : tokens source = .ok ts) :
    Writes source.toList ts := writes_of_tokensFrom h

/-! ## Tokens of phrases -/

/-- A token that is a mark. -/
def IsMarkToken (token : String) : Prop := ∃ c, isMark c ∧ token = c.toString

/-- A token that is a word. -/
def IsWordToken (token : String) : Prop := token.toList ≠ [] ∧ ∀ c ∈ token.toList, isNameLetter c

/-- Words and marks, no two words side by side. -/
structure Separate (ts : List String) : Prop where
  tokens : ∀ token ∈ ts, IsWordToken token ∨ IsMarkToken token
  apart : ts.IsChain fun a b => IsMarkToken a ∨ IsMarkToken b

theorem separate_word {token : String} (h : IsWordToken token) : Separate [token] :=
  ⟨List.forall_mem_singleton.mpr (.inl h), .singleton token⟩

/-- A mark keeps apart what stands before it and behind it. -/
theorem Separate.mark {ts us : List String} (hs : Separate ts) {token : String}
    (hm : IsMarkToken token) (hu : Separate us) : Separate (ts ++ token :: us) := by
  refine ⟨List.forall_mem_append.mpr ⟨hs.tokens, List.forall_mem_cons.mpr ⟨.inr hm, hu.tokens⟩⟩,
    List.isChain_append.mpr ⟨hs.apart, List.isChain_cons.mpr ⟨fun _ _ => .inl hm, hu.apart⟩, ?_⟩⟩
  intro x _ y hy
  cases hy
  exact .inr hm

theorem isMarkToken_stroke : IsMarkToken "|" := ⟨'|', rfl, rfl⟩

theorem isMarkToken_open : IsMarkToken "<" := ⟨'<', rfl, rfl⟩

theorem isMarkToken_close : IsMarkToken ">" := ⟨'>', rfl, rfl⟩

theorem isWordToken_array : IsWordToken "array" := by
  simp [IsWordToken, isNameLetter]

theorem isWordToken_object : IsWordToken "object" := by
  simp [IsWordToken, isNameLetter]

theorem isWordToken_name (p : Primitive) : IsWordToken p.name := by
  cases p <;> simp [IsWordToken, Primitive.name, isNameLetter]

/-- A container with the type of its parts. -/
theorem Separate.parts {name : String} (hn : IsWordToken name) {ts : List String}
    (h : Separate ts) : Separate (name :: "<" :: (ts ++ [">"])) := by
  have hnil : Separate [] := ⟨List.forall_mem_nil _, .nil⟩
  exact (separate_word hn).mark isMarkToken_open (h.mark isMarkToken_close hnil)

/-- No phrase has two words side by side. -/
theorem Derives.separate {ts : List String} {p : Phrase} (h : Derives ts p) : Separate ts := by
  induction h with
  | primitive p => exact separate_word (isWordToken_name p)
  | anyArray => exact separate_word isWordToken_array
  | anyObject => exact separate_word isWordToken_object
  | array _ ih => exact ih.parts isWordToken_array
  | object _ ih => exact ih.parts isWordToken_object
  | last _ ih => exact ih
  | more _ _ iht ihs => exact iht.mark isMarkToken_stroke ihs

/-! ## From tokens to texts -/

theorem tokensFrom_blanks {blanks : List Char} (hb : AreBlanks blanks) (s : List Char) :
    tokensFrom [] (blanks ++ s) = tokensFrom [] s := by
  induction blanks with
  | nil => rfl
  | cons c blanks ih =>
    obtain ⟨hc, hb⟩ := List.forall_mem_cons.mp hb
    obtain ⟨hl, hm⟩ := not_token_of_isBlank hc
    rw [List.cons_append, tokensFrom, hl, if_neg (by simp), hm, if_neg (by simp), if_pos hc, ih hb]
    cases tokensFrom [] s <;> rfl

theorem tokensFrom_mark {c : Char} (hc : isMark c) {s : List Char} {ts : List String}
    (h : tokensFrom [] s = .ok ts) : tokensFrom [] (c :: s) = .ok (c.toString :: ts) := by
  rw [tokensFrom, not_letter_of_isMark hc, if_neg (by simp), if_pos hc, h]
  rfl

theorem tokensFrom_letters {w : List Char} (hw : ∀ c ∈ w, isNameLetter c) (word rest : List Char) :
    tokensFrom word (w ++ rest) = tokensFrom (w.reverse ++ word) rest := by
  induction w generalizing word with
  | nil => rfl
  | cons c w ih =>
    obtain ⟨hc, hw⟩ := List.forall_mem_cons.mp hw
    rw [List.cons_append, tokensFrom, if_pos hc, ih hw, List.reverse_cons, List.append_assoc,
      List.singleton_append]

/-- A text in which no word goes on here. -/
def EndsWord (s : List Char) : Prop := ∀ c ∈ s.head?, isNameLetter c = false

/-- A word is finished where it does not go on. -/
theorem tokensFrom_endsWord {word s : List Char} {ts : List String} (hs : EndsWord s)
    (h : tokensFrom [] s = .ok ts) : tokensFrom word s = .ok (tokensFrom.flush word ts) := by
  cases s with
  | nil =>
    cases h
    rfl
  | cons c s =>
    have hc := hs c rfl
    -- whatever stands there, the tokens behind it are those that are read without the word
    rw [tokensFrom, hc, if_neg (by simp)] at h ⊢
    split at h
    next hm =>
      rw [if_pos hm]
      cases hr : tokensFrom [] s with
      | error e => rw [hr] at h; cases h
      | ok us => rw [hr] at h; cases h; rfl
    next hm =>
      rw [if_neg hm]
      split at h
      next hb =>
        rw [if_pos hb]
        cases hr : tokensFrom [] s with
        | error e => rw [hr] at h; cases h
        | ok us => rw [hr] at h; cases h; rfl
      next => cases h

/-- Behind a word that is followed by no other, its text does not go on. -/
theorem Writes.endsWord {s : List Char} {ts : List String} (h : Writes s ts)
    (hm : ∀ token ∈ ts.head?, IsMarkToken token) : EndsWord s := by
  have hblank {blanks rest : List Char} (hb : AreBlanks blanks) (hr : EndsWord rest) :
      EndsWord (blanks ++ rest) := by
    cases blanks with
    | nil => exact hr
    | cons c blanks =>
      intro d hd
      cases hd
      exact (not_token_of_isBlank (hb c List.mem_cons_self)).1
  cases h with
  | @nil blanks hb =>
    have hnil : EndsWord [] := nofun
    simpa using hblank hb hnil
  | @cons blanks rest token ts hb h =>
    obtain ⟨c, hc, rfl⟩ := hm token rfl
    refine hblank hb fun d hd => ?_
    rw [show (c.toString.toList ++ rest).head? = some c by simp, Option.mem_some_iff] at hd
    exact hd ▸ not_letter_of_isMark hc

/-- A text that is made of such tokens is split into them. -/
theorem Writes.tokensFrom_eq {s : List Char} {ts : List String} (h : Writes s ts)
    (hs : Separate ts) : tokensFrom [] s = .ok ts := by
  induction h with
  | @nil blanks hb =>
    rw [← List.append_nil blanks, tokensFrom_blanks hb]
    rfl
  | @cons blanks rest token ts hb h ih =>
    obtain ⟨htoken, hts⟩ := List.forall_mem_cons.mp hs.tokens
    obtain ⟨hnext, hchain⟩ := List.isChain_cons.mp hs.apart
    have hrest := ih ⟨hts, hchain⟩
    rw [tokensFrom_blanks hb]
    by_cases hm : IsMarkToken token
    · obtain ⟨c, hc, rfl⟩ := hm
      simpa using tokensFrom_mark hc hrest
    · obtain ⟨hne, hw⟩ := htoken.resolve_right hm
      have hends := h.endsWord fun t ht => (hnext t ht).resolve_left hm
      rw [tokensFrom_letters hw, List.append_nil, tokensFrom_endsWord hends hrest,
        flush_of_ne_nil (by simpa using hne), List.reverse_reverse, String.ofList_toList]

theorem Writes.tokens_eq {source : String} {ts : List String} (h : Writes source.toList ts)
    (hs : Separate ts) : tokens source = .ok ts := h.tokensFrom_eq hs

end FunctionManual.TypeSpec
