import FunctionManual.Proofs.Syntax.Covering
import FunctionManual.Proofs.Text.CharSet

/-!
# A text in pieces

* `Piece`: what a step takes, and what may stand behind it: a comment ends its line, and a name is as
  long as it can be.
* `step_piece`: a step takes a piece.
* `Scanned`: the tokens of a text from a position on, piece by piece.
* `Scanned.piece`: each token is a piece.
* `Scanned.edge`: before a name there is no character of a name, unless it is that of a number.
-/

namespace FunctionManual.Syntax

open FunctionManual.Text

/-! ## Characters -/

theorem isIdentifierPart_of_start {c : Char} (h : isIdentifierStart c) : isIdentifierPart c := by
  simp only [isIdentifierStart, Bool.or_eq_true] at h
  simp only [isIdentifierPart, Bool.or_eq_true]
  exact h.imp_left isAlphanumeric_of_isLetter

theorem isIdentifierStart_eq_false {c : Char} (h : isIdentifierPart c = false) :
    isIdentifierStart c = false := by
  by_contra hs
  rw [isIdentifierPart_of_start (Bool.not_eq_false _ ▸ hs)] at h
  cases h

theorem isIdentifierPart_of_isBlank {c : Char} (h : isBlank c) : isIdentifierPart c = false :=
  eq_false_of_isBlank (by decide +kernel) h

/-- A class that holds none of some characters. -/
theorem eq_false_of_any {p : Char → Bool} {l : List Char} (h : l.any p = false) {c : Char}
    (hc : c ∈ l) : p c = false := by
  simpa using List.any_eq_false.mp h c hc

theorem isIdentifierPart_of_isPunctuation {c : Char} (h : isPunctuation c) :
    isIdentifierPart c = false :=
  eq_false_of_any (by decide +kernel) (List.contains_iff_mem.mp h)

/-- Digits continue a name and begin none. -/
theorem identifier_of_isAsciiDigit {c : Char} (h : isAsciiDigit c) :
    isIdentifierPart c ∧ isIdentifierStart c = false ∧ isBlank c = false := by
  have hall : ∀ n ∈ List.range' 48 10, isIdentifierPart (Char.ofNat n) ∧
      isIdentifierStart (Char.ofNat n) = false ∧ isBlank (Char.ofNat n) = false := by decide +kernel
  obtain ⟨hle, hlt⟩ := toNat_of_isAsciiDigit h
  have := hall c.toNat (List.mem_range'_1.mpr ⟨hle, by omega⟩)
  rwa [Char.ofNat_toNat] at this

/-! ## Pieces -/

/-- The kinds of token with a quoted text. -/
def IsQuoted (kind : TokenKind) : Prop := kind = .string ∨ kind = .rawString ∨ kind = .regex

/-- The kinds of token with a number. -/
def IsNumeric (kind : TokenKind) : Prop := kind = .integer ∨ kind = .float

/-- A character that begins a name stands behind one of a name. -/
def Continues (c d : Char) : Prop := isIdentifierStart d → isIdentifierPart c

/-- What a step takes and the token that it yields, where `left` is behind it. -/
inductive Piece (left : List Char) : List Char → Option (TokenKind × String) → Prop
  | blank {c : Char} (h : isBlank c) : Piece left [c] none
  | newline : Piece left ['\n'] (some (.newline, "\n"))
  | comment {cs : List Char} (hl : ∀ c ∈ left.head?, c = '\n') : Piece left ('#' :: cs) none
  | quoted {kind : TokenKind} {text : String} {c q : Char} {cs : List Char} (hk : IsQuoted kind)
      (hc : c ∈ ['"', 'r', 's']) (hq : q ∈ ['"', '\'']) :
      Piece left (c :: cs ++ [q]) (some (kind, text))
  | number {kind : TokenKind} {text : String} {c : Char} {cs : List Char} (hk : IsNumeric kind)
      (hc : isAsciiDigit c ∨ c = '-') (hs : (c :: cs).IsChain Continues) :
      Piece left (c :: cs) (some (kind, text))
  | identifier {c : Char} {cs : List Char} (hc : isIdentifierStart c)
      (hs : ∀ d ∈ cs, isIdentifierPart d) (hl : ∀ d ∈ left.head?, isIdentifierPart d = false) :
      Piece left (c :: cs) (some (.identifier, String.ofList (c :: cs)))
  | mark {c : Char} (h : isPunctuation c) : Piece left [c] (some (.punctuation, c.toString))

/-- Behind its sign and first digit, a number goes on with digits and underscores, and with a point
before a digit. -/
theorem spanNumber_continues {fraction : Bool} {c : Char} {rest : List Char}
    (h : isIdentifierPart c ∨ (rest.head?).any isAsciiDigit) :
    (c :: (spanNumber fraction rest).1).IsChain Continues := by
  fun_induction spanNumber fraction rest generalizing c with
  | case1 => exact .singleton c
  | case2 fraction d rest hd cs f hr ih =>
    rw [hr] at ih
    have hpart : isIdentifierPart d := by
      rcases (Bool.or_eq_true _ _).mp hd with hd | hd
      · exact (identifier_of_isAsciiDigit hd).1
      · rw [of_decide_eq_true hd]
        decide +kernel
    refine List.isChain_cons_cons.mpr ⟨fun hstart => ?_, ih (.inl hpart)⟩
    rcases h with h | h
    · exact h
    · rw [(identifier_of_isAsciiDigit h).2.1] at hstart
      cases hstart
  | case3 fraction d rest hd hp cs f hr ih =>
    rw [hr] at ih
    simp only [Bool.and_eq_true, decide_eq_true_eq] at hp
    obtain ⟨⟨rfl, -⟩, hdigit⟩ := hp
    refine List.isChain_cons_cons.mpr ⟨fun hstart => ?_, ih (.inr hdigit)⟩
    exact absurd hstart (by decide +kernel)
  | case4 => exact .singleton c

theorem head?_drop_takeWhile {α : Type} {p : α → Bool} {l : List α} :
    ∀ x ∈ (l.drop (l.takeWhile p).length).head?, p x = false := by
  intro x hx
  have hdrop : l.drop (l.takeWhile p).length = l.dropWhile p := by
    have hsplit := List.takeWhile_append_dropWhile (p := p) (l := l)
    have := congrArg (List.drop (l.takeWhile p).length) hsplit
    rwa [List.drop_left, eq_comm] at this
  rw [hdrop] at hx
  have := List.head?_dropWhile_not p l
  rw [Option.mem_def.mp hx] at this
  exact this

/-- What is taken while characters are in a class. -/
theorem take_takeWhile (p : Char → Bool) (rest : List Char) :
    rest.take (rest.takeWhile p).length = rest.takeWhile p :=
  (List.prefix_iff_eq_take.mp (List.takeWhile_prefix p)).symm

theorem piece_string {left : List Char} {start pos : Nat} {rest cs : List Char} {n : Nat}
    (h : scanString start pos rest = .ok (cs, n)) :
    Piece left ('"' :: rest.take n) (some (.string, String.ofList cs)) := by
  obtain ⟨content, -, ht, -⟩ := scanString_escapes h
  rw [ht]
  exact .quoted (.inl rfl) (by decide) (by decide)

theorem piece_quoted {left : List Char} {c : Char} {rest : List Char} (hc : c = 'r' ∨ c = 's')
    (h : rest.head? = some '\'')
    (hl : ((rest.drop 1).takeWhile (· ≠ '\'')).length + 1 < rest.length) :
    Piece left (c :: rest.take (((rest.drop 1).takeWhile (· ≠ '\'')).length + 2))
      (some (if c = 'r' then .regex else .rawString,
        String.ofList ((rest.drop 1).takeWhile (· ≠ '\'')))) := by
  have hkind : IsQuoted (if c = 'r' then .regex else .rawString) := by
    split
    · exact .inr (.inr rfl)
    · exact .inr (.inl rfl)
  rw [take_quoted h hl, ← List.cons_append, ← List.cons_append]
  exact .quoted hkind (by simp [hc]) (by decide)

theorem piece_number {left : List Char} {c : Char} {rest : List Char}
    (h : isAsciiDigit c || (c = '-' && (rest.head?).any isAsciiDigit)) :
    Piece left (c :: rest.take (spanNumber false rest).1.length)
      (some (if (spanNumber false rest).2 then .float else .integer,
        String.ofList (bare (c :: (spanNumber false rest).1)))) := by
  have hkind : IsNumeric (if (spanNumber false rest).2 then .float else .integer) := by
    split
    · exact .inr rfl
    · exact .inl rfl
  rw [← List.prefix_iff_eq_take.mp (spanNumber_isPrefix false rest)]
  simp only [Bool.or_eq_true, Bool.and_eq_true, decide_eq_true_eq] at h
  refine .number hkind (h.imp_right And.left) (spanNumber_continues ?_)
  exact h.imp (fun h => (identifier_of_isAsciiDigit h).1) And.right

/-- A step takes a piece. -/
theorem step_piece {depth pos : Nat} {c : Char} {rest : List Char} {next : Step}
    (h : step depth pos c rest = .ok next) :
    Piece (rest.drop next.more) (c :: rest.take next.more) next.token := by
  unfold step at h
  split at h
  next hc =>
    subst hc
    cases h
    by_cases hd : depth = 0
    · simp only [if_pos hd]
      exact .newline
    · simp only [if_neg hd]
      exact .blank rfl
  split at h
  next hb =>
    cases h
    exact .blank hb
  split at h
  next hc =>
    subst hc
    cases h
    refine .comment fun d hd => ?_
    simpa using head?_drop_takeWhile d hd
  split at h
  next hc =>
    subst hc
    cases hs : scanString pos (pos + 1) rest with
    | error e => rw [hs] at h; cases h
    | ok found =>
      rw [hs] at h
      cases h
      exact piece_string hs
  split at h
  next hq =>
    simp only [Bool.and_eq_true, Bool.or_eq_true, decide_eq_true_eq] at hq
    dsimp only at h
    split at h
    next hl =>
      cases h
      exact piece_quoted hq.1 hq.2 hl
    next => cases h
  split at h
  next hc =>
    cases h
    exact piece_number hc
  split at h
  next hc =>
    cases h
    dsimp only
    rw [take_takeWhile]
    exact .identifier hc (fun d hd => List.mem_takeWhile_imp hd) head?_drop_takeWhile
  split at h
  next hc =>
    cases h
    exact .mark hc
  · cases h

namespace Piece

variable {left taken : List Char} {kind : TokenKind} {text : String}
  {token : Option (TokenKind × String)}

/-- Before a character that begins a name, a piece ends with one that continues none, unless it is a
number. -/
theorem edge (h : Piece left taken token) {d : Char} (hd : left.head? = some d)
    (hs : isIdentifierStart d) : (∃ e, taken.getLast? = some e ∧ isIdentifierPart e = false) ∨
      ∃ x ∈ token, IsNumeric x.1 := by
  cases h with
  | blank hb => exact .inl ⟨_, rfl, isIdentifierPart_of_isBlank hb⟩
  | newline => exact .inl ⟨_, rfl, by decide +kernel⟩
  | comment hl =>
    rw [hl d hd] at hs
    exact absurd hs (by decide +kernel)
  | @quoted _ _ _ q _ _ _ hq =>
    exact .inl ⟨q, List.getLast?_concat, eq_false_of_any (by decide +kernel) hq⟩
  | number hk => exact .inr ⟨_, rfl, hk⟩
  | identifier _ _ hl =>
    rw [isIdentifierStart_eq_false (hl d hd)] at hs
    cases hs
  | mark hm => exact .inl ⟨_, rfl, isIdentifierPart_of_isPunctuation hm⟩

/-- A character that begins a name and stands behind none of a name begins a token of that name, or
is quoted. -/
theorem word_start (h : Piece left taken (some (kind, text))) {i : Nat} {d : Char}
    (hd : taken[i]? = some d) (hs : isIdentifierStart d)
    (hb : ∀ j e, j + 1 = i → taken[j]? = some e → isIdentifierPart e = false) :
    kind = .identifier ∧ i = 0 ∨ IsQuoted kind := by
  have sole {c : Char} (hc : isIdentifierStart c = false) (hd : [c][i]? = some d) : False := by
    obtain rfl : d = c := by simpa using List.mem_of_getElem? hd
    rw [hc] at hs
    cases hs
  cases h with
  | newline => exact (sole (by decide +kernel) hd).elim
  | quoted hk => exact .inr hk
  | @number _ _ c cs _ hc hchain =>
    have hfirst : isIdentifierStart c = false := by
      rcases hc with hc | rfl
      · exact (identifier_of_isAsciiDigit hc).2.1
      · decide +kernel
    cases i with
    | zero => exact (sole hfirst hd).elim
    | succ i =>
      obtain ⟨hlt, rfl⟩ := List.getElem?_eq_some_iff.mp hd
      have hpart := List.isChain_iff_getElem.mp hchain i hlt hs
      rw [hb i _ rfl (List.getElem?_eq_getElem (Nat.lt_of_succ_lt hlt))] at hpart
      cases hpart
  | @identifier c cs hc hpart =>
    cases i with
    | zero => exact .inl ⟨rfl, rfl⟩
    | succ i =>
      have hlt := (List.getElem?_eq_some_iff.mp hd).1
      have hmem : (c :: cs)[i] ∈ c :: cs := List.getElem_mem (Nat.lt_of_succ_lt hlt)
      have hall : isIdentifierPart (c :: cs)[i] := by
        rcases List.mem_cons.mp hmem with he | hm
        · rw [he]
          exact isIdentifierPart_of_start hc
        · exact hpart _ hm
      rw [hb i _ rfl (List.getElem?_eq_getElem (Nat.lt_of_succ_lt hlt))] at hall
      cases hall
  | mark hm =>
    exact (sole (isIdentifierStart_eq_false (isIdentifierPart_of_isPunctuation hm)) hd).elim

/-- A token that begins with a blank is a newline. -/
theorem newline_of_blank {c : Char} (h : Piece left taken (some (kind, text)))
    (hc : taken.head? = some c) (hb : isBlank c) : kind = .newline ∧ taken = ['\n'] := by
  cases h with
  | newline => exact ⟨rfl, rfl⟩
  | quoted _ hm =>
    obtain rfl := Option.some.inj hc
    rw [eq_false_of_any (p := isBlank) (by decide +kernel) hm] at hb
    cases hb
  | number _ hm =>
    obtain rfl := Option.some.inj hc
    rcases hm with hm | rfl
    · rw [(identifier_of_isAsciiDigit hm).2.2] at hb
      cases hb
    · exact absurd hb (by decide +kernel)
  | identifier hm =>
    obtain rfl := Option.some.inj hc
    rw [isIdentifierStart_eq_false (isIdentifierPart_of_isBlank hb)] at hm
    cases hm
  | mark hm =>
    obtain rfl := Option.some.inj hc
    rw [eq_false_of_any (p := isBlank) (by decide +kernel) (List.contains_iff_mem.mp hm)] at hb
    cases hb

/-- A token that begins with a parenthesis or an exclamation mark is that mark. -/
theorem mark_of_head {c : Char} (h : Piece left taken (some (kind, text)))
    (hc : taken.head? = some c) (hm : c ∈ ['(', '!']) :
    kind = .punctuation ∧ text = c.toString := by
  have other {p : Char → Bool} (hp : ['(', '!'].any p = false) (h : p c) : False := by
    rw [eq_false_of_any hp hm] at h
    cases h
  cases h with
  | newline =>
    obtain rfl := Option.some.inj hc
    exact absurd hm (by decide)
  | quoted _ hq =>
    obtain rfl := Option.some.inj hc
    exact (other (p := (['"', 'r', 's'].contains ·)) (by decide) (List.contains_iff_mem.mpr hq)).elim
  | number _ hn =>
    obtain rfl := Option.some.inj hc
    rcases hn with hn | rfl
    · exact (other (by decide +kernel) hn).elim
    · exact absurd hm (by decide)
  | identifier hi =>
    obtain rfl := Option.some.inj hc
    exact (other (by decide +kernel) hi).elim
  | mark =>
    obtain rfl := Option.some.inj hc
    exact ⟨rfl, rfl⟩

end Piece

/-! ## Texts in pieces -/

/-- The tokens of a text from a position on, piece by piece. -/
inductive Scanned (s : List Char) : Nat → List Token → Prop
  | done : Scanned s s.length []
  | skip {pos stop : Nat} {ts : List Token} (hlt : pos < stop) (hle : stop ≤ s.length)
      (h : Piece (s.drop stop) (Span.slice ⟨pos, stop⟩ s) none) (hs : Scanned s stop ts) :
      Scanned s pos ts
  | token {pos stop : Nat} {kind : TokenKind} {text : String} {ts : List Token} (hlt : pos < stop)
      (hle : stop ≤ s.length)
      (h : Piece (s.drop stop) (Span.slice ⟨pos, stop⟩ s) (some (kind, text)))
      (hs : Scanned s stop ts) : Scanned s pos (⟨kind, text, ⟨pos, stop⟩⟩ :: ts)

/-- What is scanned behind the characters `before` is in pieces. -/
theorem scanFrom_scanned {before : List Char} {depth pos : Nat} {s : List Char} {ts : List Token}
    (hpos : before.length = pos) (h : scanFrom depth pos s = .ok ts) :
    Scanned (before ++ s) pos ts := by
  induction depth, pos, s using scanFrom.induct generalizing before ts with
  | case1 depth pos =>
    rw [scanFrom] at h
    cases h
    rw [List.append_nil, ← hpos]
    exact .done
  | case2 depth pos c rest ih =>
    obtain ⟨next, tokens, hs, hr, rfl⟩ := scanFrom_eq_ok h
    have hmore := (step_takes hs).1
    have hpiece := step_piece hs
    have hsplit : before ++ c :: rest =
        (before ++ c :: rest.take next.more) ++ rest.drop next.more := by
      rw [List.append_assoc, List.cons_append, List.take_append_drop]
    have hlength : (before ++ c :: rest.take next.more).length = pos + 1 + next.more := by
      simp [hpos, hmore]
      omega
    have hscanned := ih next hlength hr
    rw [← hsplit] at hscanned
    have hdrop : (before ++ c :: rest).drop (pos + 1 + next.more) = rest.drop next.more := by
      rw [hsplit, ← hlength, List.drop_left]
    rw [← Span.slice_taken c next.more hpos, ← hdrop] at hpiece
    have hlt : pos < pos + 1 + next.more := by omega
    have hle : pos + 1 + next.more ≤ (before ++ c :: rest).length := by simp [hpos]; omega
    unfold Step.tokens
    cases hk : next.token with
    | none =>
      rw [hk] at hpiece
      exact .skip hlt hle hpiece hscanned
    | some x =>
      rw [hk] at hpiece
      exact .token hlt hle hpiece hscanned

theorem scan_scanned {source : String} {ts : List Token} (h : scan source = .ok ts) :
    Scanned source.toList 0 ts :=
  scanFrom_scanned (show ([] : List Char).length = 0 from rfl) h

namespace Scanned

variable {s : List Char} {pos : Nat} {ts : List Token}

/-- Each token is a piece. -/
theorem piece (h : Scanned s pos ts) :
    ∀ t ∈ ts, Piece (s.drop t.span.stop) (t.span.slice s) (some (t.kind, t.text)) := by
  induction h with
  | done => exact nofun
  | skip _ _ _ _ ih => exact ih
  | token _ _ hp _ ih => exact List.forall_mem_cons.mpr ⟨hp, ih⟩

theorem getLast?_slice {stop : Nat} (hlt : pos < stop) (hle : stop ≤ s.length) :
    (Span.slice ⟨pos, stop⟩ s).getLast? = s[stop - 1]? := by
  have hlength : (Span.slice ⟨pos, stop⟩ s).length = stop - pos := Span.length_slice hle
  rw [List.getLast?_eq_getElem?, hlength,
    Span.getElem?_slice ⟨pos, stop⟩ ⟨show pos ≤ stop - 1 by omega, show stop - 1 < stop by omega⟩,
    show stop - pos - 1 = stop - 1 - pos by omega]

/-- Before a token that begins as a name there is the first position, or a character that continues no
name, or a number. -/
theorem edge (h : Scanned s pos ts) {before after : List Token} {t : Token}
    (ht : ts = before ++ t :: after) {d : Char} (hd : s[t.span.start]? = some d)
    (hs : isIdentifierStart d) :
    (t.span.start = pos ∧ before = []) ∨
      (∃ e, s[t.span.start - 1]? = some e ∧ isIdentifierPart e = false) ∨
      ∃ u ∈ before.getLast?, IsNumeric u.kind := by
  have head {stop : Nat} (he : t.span.start = stop) : (s.drop stop).head? = some d := by
    rw [List.head?_drop, ← he, hd]
  induction h generalizing before with
  | done => simp at ht
  | @skip pos stop ts hlt hle hp _ ih =>
    rcases ih ht with ⟨hstart, rfl⟩ | h
    · rcases hp.edge (head hstart) hs with ⟨e, he, hpart⟩ | ⟨x, hx, -⟩
      · rw [getLast?_slice hlt hle, ← hstart] at he
        exact .inr (.inl ⟨e, he, hpart⟩)
      · cases hx
    · exact .inr h
  | @token pos stop kind text ts hlt hle hp _ ih =>
    cases before with
    | nil =>
      obtain ⟨rfl, -⟩ := List.cons.inj ht
      exact .inl ⟨rfl, rfl⟩
    | cons u before =>
      obtain ⟨rfl, rfl⟩ := List.cons.inj ht
      rcases ih rfl with ⟨hstart, rfl⟩ | h | ⟨u, hu, hn⟩
      · rcases hp.edge (head hstart) hs with ⟨e, he, hpart⟩ | ⟨x, hx, hn⟩
        · rw [getLast?_slice hlt hle, ← hstart] at he
          exact .inr (.inl ⟨e, he, hpart⟩)
        · cases hx
          exact .inr (.inr ⟨_, rfl, hn⟩)
      · exact .inr (.inl h)
      · refine .inr (.inr ⟨u, ?_, hn⟩)
        rw [List.getLast?_cons, Option.mem_def.mp hu]
        rfl

end Scanned

end FunctionManual.Syntax
