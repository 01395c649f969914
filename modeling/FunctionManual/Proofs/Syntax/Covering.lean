import FunctionManual.Proofs.Syntax.Positions

/-!
# Tokens cover a program

* `Accords`: how the characters that a token takes give its text.
* `depthAt`: how deep in brackets a position is, by the tokens before it.
* `step_takes`: a step takes a blank, a comment or the characters of a token.
* `Covers`: the tokens of a text stand apart and in order, spell what they take, and leave out
  nothing but layout.
* `tokenize_covers`: the tokens of a program cover its text, and behind them is its end.
-/

namespace FunctionManual

/-- A position of a span. -/
def Span.Holds (span : Span) (i : Nat) : Prop := span.start ≤ i ∧ i < span.stop

/-- The characters of a span. -/
def Span.slice (span : Span) (s : List Char) : List Char :=
  (s.drop span.start).take (span.stop - span.start)

theorem Span.length_slice {s : List Char} {span : Span} (h : span.stop ≤ s.length) :
    (span.slice s).length = span.stop - span.start := by
  simp only [slice, List.length_take, List.length_drop]
  omega

theorem Span.getElem?_slice (span : Span) {s : List Char} {i : Nat} (h : span.Holds i) :
    s[i]? = (span.slice s)[i - span.start]? := by
  obtain ⟨hle, hlt⟩ := h
  rw [slice, List.getElem?_take, List.getElem?_drop, if_pos (by omega)]
  congr 1
  omega

/-- A span of the characters that a step takes behind others. -/
theorem Span.slice_taken {before rest : List Char} {pos : Nat} (c : Char) (more : Nat)
    (hpos : before.length = pos) :
    Span.slice ⟨pos, pos + 1 + more⟩ (before ++ c :: rest) = c :: rest.take more := by
  rw [Span.slice]
  dsimp only
  rw [← hpos, List.drop_left, show before.length + 1 + more - before.length = more + 1 by omega,
    List.take_succ_cons]

namespace Syntax

open FunctionManual.Text

/-! ## Characters of tokens -/

/-- The content of a string between its marks, and the text that it stands for. -/
inductive Escapes : List Char → List Char → Prop
  | nil : Escapes [] []
  | plain {c : Char} {s t : List Char} (hq : c ≠ '"') (hb : c ≠ '\\') (h : Escapes s t) :
      Escapes (c :: s) (c :: t)
  | escape {e c : Char} {s t : List Char} (he : escapeValue? e = some c) (h : Escapes s t) :
      Escapes ('\\' :: e :: s) (c :: t)

/-- A minus sign or none. -/
def IsSign (s : List Char) : Prop := s = [] ∨ s = ['-']

/-- Digits, one at least. -/
def IsDigitRow (s : List Char) : Prop := s ≠ [] ∧ AreDigits s

/-- How the text of a token comes from the characters that it takes. -/
def Accords (kind : TokenKind) (text taken : List Char) : Prop :=
  match kind with
  | .identifier | .punctuation | .newline => text = taken
  | .string => ∃ content, Escapes content text ∧ taken = '"' :: (content ++ ['"'])
  | .rawString => taken = 's' :: '\'' :: (text ++ ['\'']) ∧ '\'' ∉ text
  | .regex => taken = 'r' :: '\'' :: (text ++ ['\'']) ∧ '\'' ∉ text
  | .integer => text = taken.filter (· ≠ '_') ∧
      ∃ sign whole, IsSign sign ∧ IsDigitRow whole ∧ text = sign ++ whole
  | .float => text = taken.filter (· ≠ '_') ∧ ∃ sign whole fraction,
      IsSign sign ∧ IsDigitRow whole ∧ IsDigitRow fraction ∧ text = sign ++ whole ++ '.' :: fraction
  | .endOfInput => False

/-- The content of a string, and the mark that closes it. -/
theorem scanString_escapes {start pos : Nat} {s cs : List Char} {n : Nat}
    (h : scanString start pos s = .ok (cs, n)) :
    ∃ content, Escapes content cs ∧ s.take n = content ++ ['"'] ∧ n ≤ s.length := by
  fun_induction scanString start pos s generalizing cs n with
  | case1 pos => cases h
  | case2 pos rest =>
    cases h
    exact ⟨[], .nil, rfl, by simp⟩
  | case3 pos => cases h
  | case4 pos e rest he => cases h
  | case5 pos e rest c he ih =>
    cases hr : scanString start (pos + 2) rest with
    | error _ => rw [hr] at h; cases h
    | ok found =>
      rw [hr] at h
      cases h
      obtain ⟨content, hc, ht, hn⟩ := ih hr
      exact ⟨'\\' :: e :: content, .escape he hc, by simp [ht], by simpa using hn⟩
  | case6 pos c rest hq hb ih =>
    cases hr : scanString start (pos + 1) rest with
    | error _ => rw [hr] at h; cases h
    | ok found =>
      rw [hr] at h
      cases h
      obtain ⟨content, hc, ht, hn⟩ := ih hr
      exact ⟨c :: content, .plain hq hb hc, by simp [ht], by simpa using hn⟩

theorem spanNumber_isPrefix (fraction : Bool) (s : List Char) :
    (spanNumber fraction s).1 <+: s := by
  fun_induction spanNumber fraction s with
  | case1 => exact List.nil_prefix
  | case2 fraction c rest h cs f hr ih =>
    rw [hr] at ih
    exact (List.prefix_cons_inj c).mpr ih
  | case3 fraction c rest h hp cs f hr ih =>
    rw [hr] at ih
    exact (List.prefix_cons_inj c).mpr ih
  | case4 => exact List.nil_prefix

/-- A number is spelled by its sign and digits, and its underscores do not count. -/
theorem accords_span {c : Char} {rest : List Char}
    (h : isAsciiDigit c || (c = '-' && (rest.head?).any isAsciiDigit)) :
    Accords (if (spanNumber false rest).2 then .float else .integer)
      (bare (c :: (spanNumber false rest).1))
      (c :: rest.take (spanNumber false rest).1.length) := by
  have htake : rest.take (spanNumber false rest).1.length = (spanNumber false rest).1 :=
    (List.prefix_iff_eq_take.mp (spanNumber_isPrefix false rest)).symm
  have sign (n : Numeral) : IsSign n.signChars := by
    unfold Numeral.signChars
    split
    · exact .inr rfl
    · exact .inl rfl
  rw [htake]
  have hn := isNumber_span h
  split at hn
  next hf =>
    obtain ⟨n, he, ht, hi⟩ := hn (.inr rfl)
    have hne : n.fraction ≠ [] := fun hnil => nomatch hi.mpr hnil
    rw [if_pos hf]
    refine ⟨rfl, n.signChars, n.whole, n.fraction, sign n, ⟨n.whole_ne, n.whole_digits⟩,
      ⟨hne, n.fraction_digits⟩, ?_⟩
    rw [String.ofList_inj.mp ht]
    simp [Numeral.chars, Numeral.unsigned, Numeral.fractionChars, Numeral.exponentChars, he, hne]
  next hf =>
    obtain ⟨n, he, ht, hi⟩ := hn (.inl rfl)
    have hnil : n.fraction = [] := hi.mp rfl
    rw [if_neg hf]
    refine ⟨rfl, n.signChars, n.whole, sign n, ⟨n.whole_ne, n.whole_digits⟩, ?_⟩
    rw [String.ofList_inj.mp ht]
    simp [Numeral.chars, Numeral.unsigned, Numeral.fractionChars, Numeral.exponentChars, he, hnil]

/-- A row of characters that does not reach the end stops at a character that is none of them. -/
theorem exists_stop {p : Char → Bool} {s : List Char} (h : (s.takeWhile p).length < s.length) :
    ∃ c rest, p c = false ∧ s = s.takeWhile p ++ c :: rest := by
  have hsplit : s.takeWhile p ++ s.dropWhile p = s := List.takeWhile_append_dropWhile
  cases hd : s.dropWhile p with
  | nil =>
    rw [hd, List.append_nil] at hsplit
    rw [hsplit] at h
    omega
  | cons c rest =>
    have hc := List.head?_dropWhile_not p s
    rw [hd] at hc hsplit
    exact ⟨c, rest, hc, hsplit.symm⟩

/-- A quoted literal takes a quote, its content and a quote. -/
theorem take_quoted {rest : List Char} (h : rest.head? = some '\'')
    (hl : ((rest.drop 1).takeWhile (· ≠ '\'')).length + 1 < rest.length) :
    rest.take (((rest.drop 1).takeWhile (· ≠ '\'')).length + 2) =
      '\'' :: ((rest.drop 1).takeWhile (· ≠ '\'') ++ ['\'']) := by
  obtain ⟨s, rfl⟩ := List.head?_eq_some_iff.mp h
  rw [List.drop_one, List.tail_cons] at hl ⊢
  obtain ⟨c, tail, hc, hs⟩ := exists_stop (Nat.lt_of_succ_lt_succ hl)
  obtain rfl : c = '\'' := by simpa using hc
  generalize s.takeWhile (· ≠ '\'') = content at hs ⊢
  rw [hs]
  simp [List.take_append]

/-! ## Steps -/

/-- The depth of brackets behind a token; a bracket too many closes nothing. -/
def depthBehind (depth : Nat) (kind : TokenKind) (text : String) : Nat :=
  if kind ≠ .punctuation then depth
  else if text ∈ ["(", "[", "\x7b"] then depth + 1
  else if text ∈ [")", "]", "\x7d"] then depth - 1
  else depth

/-- What is taken at a depth of brackets: a blank, a newline inside of brackets, a comment, or the
characters of a token; with the depth behind it. -/
inductive Takes (depth : Nat) : List Char → Option (TokenKind × String) → Nat → Prop
  | blank {c : Char} (h : isBlank c) (hc : c ≠ '\n') : Takes depth [c] none depth
  | newline (h : 0 < depth) : Takes depth ['\n'] none depth
  | comment {cs : List Char} (h : '\n' ∉ cs) : Takes depth ('#' :: cs) none depth
  | token (kind : TokenKind) {text : String} {taken : List Char}
      (h : Accords kind text.toList taken) (hn : kind = .newline → depth = 0) :
      Takes depth taken (some (kind, text)) (depthBehind depth kind text)

/-- What is no token is blank, or a comment of one line. -/
theorem Takes.layout {depth d : Nat} {taken : List Char} (h : Takes depth taken none d) :
    (∀ c ∈ taken, isBlank c) ∨ taken[0]? = some '#' ∧ '\n' ∉ taken := by
  cases h with
  | blank h _ => exact .inl (by simpa using h)
  | newline _ => exact .inl fun c hc => List.mem_singleton.mp hc ▸ rfl
  | comment h => exact .inr ⟨rfl, by simpa using h⟩

theorem Takes.folded {depth d : Nat} {taken : List Char} (h : Takes depth taken none d)
    (hn : '\n' ∈ taken) : 0 < depth := by
  cases h with
  | blank _ hc => exact absurd (List.mem_singleton.mp hn).symm hc
  | newline h => exact h
  | comment h => exact absurd (by simpa using hn) h

theorem Takes.depth_eq {depth d : Nat} {taken : List Char} (h : Takes depth taken none d) :
    d = depth := by
  cases h <;> rfl

theorem depthBehind_toString (depth : Nat) (c : Char) :
    depthBehind depth .punctuation c.toString = depthAfter depth c := by
  simp [depthBehind, depthAfter, isOpening, isClosing, ← String.toList_inj, or_assoc]

theorem takes_mark (depth : Nat) (c : Char) :
    Takes depth [c] (some (.punctuation, c.toString)) (depthAfter depth c) := by
  rw [← depthBehind_toString]
  exact .token .punctuation (String.toList_singleton c) nofun

theorem takes_string (depth : Nat) {start pos : Nat} {rest cs : List Char} {n : Nat}
    (h : scanString start pos rest = .ok (cs, n)) :
    Takes depth ('"' :: rest.take n) (some (.string, String.ofList cs)) depth := by
  obtain ⟨content, he, ht, -⟩ := scanString_escapes h
  rw [ht]
  exact .token .string ⟨content, by rwa [String.toList_ofList], rfl⟩ nofun

theorem takes_quoted (depth : Nat) {c : Char} {rest : List Char} (hc : c = 'r' ∨ c = 's')
    (h : rest.head? = some '\'')
    (hl : ((rest.drop 1).takeWhile (· ≠ '\'')).length + 1 < rest.length) :
    Takes depth (c :: rest.take (((rest.drop 1).takeWhile (· ≠ '\'')).length + 2))
      (some (if c = 'r' then .regex else .rawString,
        String.ofList ((rest.drop 1).takeWhile (· ≠ '\'')))) depth := by
  have hquote : '\'' ∉ (rest.drop 1).takeWhile (· ≠ '\'') :=
    fun hm => by simpa using List.mem_takeWhile_imp hm
  rw [take_quoted h hl]
  obtain rfl | rfl := hc
  · exact .token .regex (by rw [String.toList_ofList]; exact ⟨rfl, hquote⟩) nofun
  · exact .token .rawString (by rw [String.toList_ofList]; exact ⟨rfl, hquote⟩) nofun

theorem takes_number (depth : Nat) {c : Char} {rest : List Char}
    (h : isAsciiDigit c || (c = '-' && (rest.head?).any isAsciiDigit)) :
    Takes depth (c :: rest.take (spanNumber false rest).1.length)
      (some (if (spanNumber false rest).2 then .float else .integer,
        String.ofList (bare (c :: (spanNumber false rest).1)))) depth := by
  have haccords := accords_span h
  rw [← String.toList_ofList (l := bare _)] at haccords
  cases hf : (spanNumber false rest).2 with
  | true =>
    rw [hf] at haccords
    exact .token .float haccords nofun
  | false =>
    rw [hf] at haccords
    exact .token .integer haccords nofun

/-- A step takes characters that are there. -/
theorem step_takes {depth pos : Nat} {c : Char} {rest : List Char} {next : Step}
    (h : step depth pos c rest = .ok next) :
    next.more ≤ rest.length ∧ Takes depth (c :: rest.take next.more) next.token next.depth := by
  have takeWhile_spec (p : Char → Bool) :
      (rest.takeWhile p).length ≤ rest.length ∧
        rest.take (rest.takeWhile p).length = rest.takeWhile p := by
    have hp : rest.takeWhile p <+: rest := List.takeWhile_prefix p
    exact ⟨hp.length_le, (List.prefix_iff_eq_take.mp hp).symm⟩
  unfold step at h
  split at h
  next hc =>
    subst hc
    cases h
    refine ⟨Nat.zero_le _, ?_⟩
    by_cases hd : depth = 0
    · simp only [if_pos hd]
      exact .token .newline rfl fun _ => hd
    · simp only [if_neg hd]
      exact .newline (Nat.pos_of_ne_zero hd)
  next hline =>
  split at h
  next hb =>
    cases h
    exact ⟨Nat.zero_le _, .blank hb hline⟩
  split at h
  next hc =>
    subst hc
    cases h
    obtain ⟨hle, htake⟩ := takeWhile_spec (· ≠ '\n')
    refine ⟨hle, ?_⟩
    dsimp only
    rw [htake]
    exact .comment fun hm => by simpa using List.mem_takeWhile_imp hm
  split at h
  next hc =>
    subst hc
    cases hs : scanString pos (pos + 1) rest with
    | error e => rw [hs] at h; cases h
    | ok found =>
      rw [hs] at h
      cases h
      obtain ⟨-, -, -, hn⟩ := scanString_escapes hs
      exact ⟨hn, takes_string depth hs⟩
  split at h
  next hq =>
    simp only [Bool.and_eq_true, Bool.or_eq_true, decide_eq_true_eq] at hq
    dsimp only at h
    split at h
    next hl =>
      cases h
      exact ⟨hl, takes_quoted depth hq.1 hq.2 hl⟩
    next => cases h
  split at h
  next hc =>
    cases h
    exact ⟨(spanNumber_isPrefix false rest).length_le, takes_number depth hc⟩
  split at h
  next hc =>
    cases h
    obtain ⟨hle, htake⟩ := takeWhile_spec isIdentifierPart
    refine ⟨hle, ?_⟩
    dsimp only
    rw [htake]
    exact .token .identifier String.toList_ofList nofun
  split at h
  next hc =>
    cases h
    exact ⟨Nat.zero_le _, takes_mark depth c⟩
  · cases h

/-! ## Covering -/

/-- The depth of brackets at a position, where they are `depth` deep before the tokens. -/
def depthAt (depth : Nat) (ts : List Token) (i : Nat) : Nat :=
  (ts.filter fun t => t.span.stop ≤ i).foldl (fun d t => depthBehind d t.kind t.text) depth

/-- No token holds a position. -/
def IsOutside (ts : List Token) (i : Nat) : Prop := ∀ t ∈ ts, ¬ t.span.Holds i

/-- A position of a comment, which begins at a hash outside of tokens and goes on in its line. -/
def InComment (s : List Char) (ts : List Token) (pos i : Nat) : Prop :=
  ∃ hash, pos ≤ hash ∧ hash ≤ i ∧ s[hash]? = some '#' ∧
    ∀ k, hash ≤ k → k ≤ i → s[k]? ≠ some '\n' ∧ IsOutside ts k

/-- The tokens of a text from `pos` on, where brackets are `depth` deep. -/
structure Covers (s : List Char) (depth pos : Nat) (ts : List Token) : Prop where
  inOrder : InOrder ts
  inside : ∀ t ∈ ts, pos ≤ t.span.start ∧ t.span.stop ≤ s.length
  accords : ∀ t ∈ ts, Accords t.kind t.text.toList (t.span.slice s)
  newline : ∀ t ∈ ts, t.kind = .newline → depthAt depth ts t.span.start = 0
  layout : ∀ i c, pos ≤ i → s[i]? = some c → IsOutside ts i → isBlank c ∨ InComment s ts pos i
  folded : ∀ i, pos ≤ i → s[i]? = some '\n' → IsOutside ts i → 0 < depthAt depth ts i

theorem depthAt_of_lt {depth : Nat} {ts : List Token} {i : Nat} (h : ∀ t ∈ ts, i < t.span.stop) :
    depthAt depth ts i = depth := by
  rw [depthAt, List.filter_eq_nil_iff.mpr fun t ht => by simpa using h t ht]
  rfl

theorem depthAt_cons {depth : Nat} {t : Token} {ts : List Token} {i : Nat} (h : t.span.stop ≤ i) :
    depthAt depth (t :: ts) i = depthAt (depthBehind depth t.kind t.text) ts i := by
  rw [depthAt, List.filter_cons_of_pos (by simpa using h), List.foldl_cons, depthAt]

theorem isOutside_cons {t : Token} {ts : List Token} {i : Nat} :
    IsOutside (t :: ts) i ↔ ¬ t.span.Holds i ∧ IsOutside ts i := List.forall_mem_cons

section Covers

variable {s : List Char} {depth pos stop : Nat} {ts : List Token}

theorem Covers.nil (s : List Char) (depth : Nat) : Covers s depth s.length [] where
  inOrder := ⟨nofun, .nil⟩
  inside := nofun
  accords := nofun
  newline := nofun
  layout i c hi hc := by
    rw [List.getElem?_eq_none hi] at hc
    cases hc
  folded i hi hc := by
    rw [List.getElem?_eq_none hi] at hc
    cases hc

/-- Tokens begin behind what is before them. -/
theorem Covers.isOutside (h : Covers s depth stop ts) {i : Nat} (hi : i < stop) :
    IsOutside ts i := fun t ht hholds =>
  Nat.lt_irrefl i (Nat.lt_of_lt_of_le hi (Nat.le_trans (h.inside t ht).1 hholds.1))

theorem Covers.depthAt_eq (h : Covers s depth stop ts) (d : Nat) {i : Nat} (hi : i < stop) :
    depthAt d ts i = d :=
  depthAt_of_lt fun t ht => by
    have := (h.inside t ht).1
    have := h.inOrder.taken t ht
    omega

theorem InComment.mono {before i : Nat} (h : InComment s ts pos i) (hle : before ≤ pos) :
    InComment s ts before i := by
  obtain ⟨hash, hp, h⟩ := h
  exact ⟨hash, Nat.le_trans hle hp, h⟩

/-- A token that ends before a comment leaves it alone. -/
theorem InComment.cons {t : Token} {i : Nat} (h : InComment s ts pos i) (ht : t.span.stop ≤ pos) :
    InComment s (t :: ts) pos i := by
  obtain ⟨hash, hp, hi, hc, hline⟩ := h
  refine ⟨hash, hp, hi, hc, fun k hk hki => ⟨(hline k hk hki).1, ?_⟩⟩
  refine isOutside_cons.mpr ⟨fun hholds => ?_, (hline k hk hki).2⟩
  have := hholds.2
  omega

/-- Layout before the tokens. -/
theorem Covers.skip {d : Nat} (h : Covers s d stop ts)
    (ht : Takes depth (Span.slice ⟨pos, stop⟩ s) none d) (hle : pos < stop) :
    Covers s depth pos ts := by
  obtain rfl : d = depth := ht.depth_eq
  have here {i : Nat} (hi : pos ≤ i) (hlt : i < stop) :
      s[i]? = (Span.slice ⟨pos, stop⟩ s)[i - pos]? := Span.getElem?_slice _ ⟨hi, hlt⟩
  refine ⟨h.inOrder, fun t ht => ⟨by have := (h.inside t ht).1; omega, (h.inside t ht).2⟩,
    h.accords, h.newline, fun i c hi hc ho => ?_, fun i hi hc ho => ?_⟩
  · by_cases hlt : i < stop
    · rw [here hi hlt] at hc
      rcases ht.layout with hblank | ⟨hhash, hline⟩
      · exact .inl (hblank c (List.mem_of_getElem? hc))
      · refine .inr ⟨pos, Nat.le_refl pos, hi, ?_, fun k hk hki => ⟨fun hn => ?_, ?_⟩⟩
        · rw [here (Nat.le_refl pos) hle, Nat.sub_self]
          exact hhash
        · rw [here hk (by omega)] at hn
          exact hline (List.mem_of_getElem? hn)
        · exact h.isOutside (by omega)
    · exact (h.layout i c (by omega) hc ho).imp_right fun hcomment =>
        hcomment.mono (Nat.le_of_lt hle)
  · by_cases hlt : i < stop
    · rw [here hi hlt] at hc
      rw [h.depthAt_eq d hlt]
      exact ht.folded (List.mem_of_getElem? hc)
    · exact h.folded i (by omega) hc ho

/-- A token before the tokens. -/
theorem Covers.token {kind : TokenKind} {text : String}
    (h : Covers s (depthBehind depth kind text) stop ts)
    (ha : Accords kind text.toList (Span.slice ⟨pos, stop⟩ s)) (hn : kind = .newline → depth = 0)
    (hlt : pos < stop) (hle : stop ≤ s.length) :
    Covers s depth pos (⟨kind, text, ⟨pos, stop⟩⟩ :: ts) := by
  have later {i : Nat} (hi : stop ≤ i) : depthAt depth (⟨kind, text, ⟨pos, stop⟩⟩ :: ts) i =
      depthAt (depthBehind depth kind text) ts i := depthAt_cons hi
  -- a position outside of the new token is behind it
  have behind {i : Nat} (hi : pos ≤ i) (ho : IsOutside (⟨kind, text, ⟨pos, stop⟩⟩ :: ts) i) :
      stop ≤ i := Nat.not_lt.mp fun hlt => (isOutside_cons.mp ho).1 ⟨hi, hlt⟩
  refine ⟨⟨?_, ?_⟩, ?_, ?_, ?_, fun i c hi hc ho => ?_, fun i hi hc ho => ?_⟩
  · exact List.forall_mem_cons.mpr ⟨hlt, h.inOrder.taken⟩
  · exact List.pairwise_cons.mpr ⟨fun t ht => (h.inside t ht).1, h.inOrder.apart⟩
  · refine List.forall_mem_cons.mpr ⟨⟨Nat.le_refl pos, hle⟩, fun t ht => ?_⟩
    have := h.inside t ht
    exact ⟨by omega, this.2⟩
  · exact List.forall_mem_cons.mpr ⟨ha, h.accords⟩
  · refine List.forall_mem_cons.mpr ⟨fun hk => ?_, fun t ht hk => ?_⟩
    · have hstop : ∀ t ∈ (⟨kind, text, ⟨pos, stop⟩⟩ :: ts : List Token), pos < t.span.stop := by
        refine List.forall_mem_cons.mpr ⟨hlt, fun t ht => ?_⟩
        have := (h.inside t ht).1
        have := h.inOrder.taken t ht
        omega
      rw [depthAt_of_lt hstop]
      exact hn hk
    · rw [later (h.inside t ht).1]
      exact h.newline t ht hk
  · have hi := behind hi ho
    refine (h.layout i c hi hc (isOutside_cons.mp ho).2).imp_right fun hcomment => ?_
    exact (hcomment.cons (Nat.le_refl stop)).mono (Nat.le_of_lt hlt)
  · have hi := behind hi ho
    rw [later hi]
    exact h.folded i hi hc (isOutside_cons.mp ho).2

end Covers

/-- What is scanned behind the characters `before` covers the rest of the text. -/
theorem scanFrom_covers {before : List Char} {depth pos : Nat} {s : List Char} {ts : List Token}
    (hpos : before.length = pos) (h : scanFrom depth pos s = .ok ts) :
    Covers (before ++ s) depth pos ts := by
  induction depth, pos, s using scanFrom.induct generalizing before ts with
  | case1 depth pos =>
    rw [scanFrom] at h
    cases h
    rw [List.append_nil, ← hpos]
    exact .nil before depth
  | case2 depth pos c rest ih =>
    obtain ⟨next, tokens, hs, hr, rfl⟩ := scanFrom_eq_ok h
    obtain ⟨hmore, ht⟩ := step_takes hs
    have hsplit : before ++ c :: rest =
        (before ++ c :: rest.take next.more) ++ rest.drop next.more := by
      rw [List.append_assoc, List.cons_append, List.take_append_drop]
    have hlength : (before ++ c :: rest.take next.more).length = pos + 1 + next.more := by
      simp [hpos, hmore]
      omega
    have hcovers := ih next hlength hr
    rw [← hsplit] at hcovers
    rw [← Span.slice_taken c next.more hpos] at ht
    unfold Step.tokens
    cases hk : next.token with
    | none =>
      rw [hk] at ht
      exact hcovers.skip ht (by omega)
    | some x =>
      obtain ⟨kind, text⟩ := x
      rw [hk] at ht
      generalize next.depth = d at ht hcovers
      generalize hg : Span.slice _ _ = taken at ht
      cases ht with
      | token _ ha hn => exact hcovers.token (hg ▸ ha) hn (by omega) (by simp [hpos]; omega)

theorem scan_covers {source : String} {ts : List Token} (h : scan source = .ok ts) :
    Covers source.toList 0 0 ts :=
  scanFrom_covers (show ([] : List Char).length = 0 from rfl) h

/-! ## Programs -/

/-- The tokens of a program cover its text, and the end of input is behind them and nowhere else. -/
theorem tokenize_covers {source : String} {tokens : List Token}
    (h : tokenize source = .ok tokens) :
    ∃ ts, tokens = ts ++ [Token.endAt source.length] ∧ (∀ t ∈ ts, t.kind ≠ .endOfInput) ∧
      Covers source.toList 0 0 ts := by
  obtain ⟨ts, hs, rfl⟩ := tokenize_eq_ok.mp h
  have hcovers := scan_covers hs
  refine ⟨ts, rfl, fun t ht hk => ?_, hcovers⟩
  have haccords := hcovers.accords t ht
  rw [hk] at haccords
  exact haccords

/-- A call over three lines with a comment in its brackets, and another line. -/
def foldedSource : String := "f(\ns'#', #)\n-1_0.5)\n\"\\\"\""

/-- The tokens of these lines. -/
def foldedTokens : List Token := [
  ⟨.identifier, "f", ⟨0, 1⟩⟩, ⟨.punctuation, "(", ⟨1, 2⟩⟩, ⟨.rawString, "#", ⟨3, 7⟩⟩,
  ⟨.punctuation, ",", ⟨7, 8⟩⟩, ⟨.float, "-10.5", ⟨12, 18⟩⟩, ⟨.punctuation, ")", ⟨18, 19⟩⟩,
  ⟨.newline, "\n", ⟨19, 20⟩⟩, ⟨.string, "\"", ⟨20, 24⟩⟩]

theorem tokenize_covers_folded :
    tokenize foldedSource = .ok (foldedTokens ++ [.endAt 24]) ∧
      ∃ ts, foldedTokens ++ [.endAt 24] = ts ++ [.endAt foldedSource.length] ∧
        (∀ t ∈ ts, t.kind ≠ .endOfInput) ∧ Covers foldedSource.toList 0 0 ts := by
  have h : tokenize foldedSource = .ok (foldedTokens ++ [.endAt 24]) := by cbv
  exact ⟨h, tokenize_covers h⟩

end Syntax

end FunctionManual
