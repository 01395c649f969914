import FunctionManual.Proofs.Syntax.Covering

/-!
# Errors point into the program

* `Span.IsRangeOf`: a range of the positions of a text, empty only at its end.
* `Error.IsInside`, `Error.IsCutOff`: an error at a range of the text, and one of an escape of which
  the text has only the backslash.
* `scanFrom_points`: errors of scanning are of one of the two kinds.
* `Keeps`: a reading function leaves tokens at ranges of the text, or has an error at one.
* `keepsWith`, `readStatements_refuses`: errors of reading are at tokens or at the end.
* `errors_point_into_text`: so every error shows a range of the text, but for an escape that is cut
  off.
-/

namespace FunctionManual

/-- A range of positions of a text of `length` characters, which is empty only at the end. -/
structure Span.IsRangeOf (span : Span) (length : Nat) : Prop where
  ordered : span.start ≤ span.stop
  inside : span.stop ≤ length
  empty : span.start = span.stop → span.start = length

theorem Span.isRangeOf_end (length : Nat) : Span.IsRangeOf ⟨length, length⟩ length :=
  ⟨Nat.le_refl _, Nat.le_refl _, fun _ => rfl⟩

theorem Span.isRangeOf_of_lt {start stop length : Nat} (hlt : start < stop) (hle : stop ≤ length) :
    Span.IsRangeOf ⟨start, stop⟩ length :=
  ⟨Nat.le_of_lt hlt, hle, fun h => absurd h (Nat.ne_of_lt hlt)⟩

namespace Syntax

open FunctionManual.Text

/-- An error at a range of a text that ends at `stop`. -/
structure Error.IsInside (e : Error) (stop : Nat) : Prop where
  problem : e.problem ≠ .invalidEscape none
  range : e.span.IsRangeOf stop

/-- An error of an escape of which only the backslash is there, as it ends the text. Its range is
that of two characters all the same. -/
structure Error.IsCutOff (e : Error) (s : List Char) (stop : Nat) : Prop where
  problem : e.problem = .invalidEscape none
  last : s.getLast? = some '\\'
  span : e.span = ⟨stop - 1, stop + 1⟩

variable {e : Error} {stop : Nat}

theorem Error.IsCutOff.append {s : List Char} (h : e.IsCutOff s stop) (before : List Char) :
    e.IsCutOff (before ++ s) stop where
  problem := h.problem
  last := by rw [List.getLast?_append, h.last, Option.some_or]
  span := h.span

theorem Error.IsCutOff.not_isRangeOf {s : List Char} (h : e.IsCutOff s stop) :
    ¬ e.span.IsRangeOf stop := fun hr => by
  have := hr.inside
  rw [h.span] at this
  exact absurd this (Nat.not_succ_le_self stop)

/-! ## Scanning -/

/-- Where the errors of a text are that begins at `pos`. -/
def Points (e : Error) (pos : Nat) (s : List Char) : Prop :=
  e.IsInside (pos + s.length) ∨ e.IsCutOff s (pos + s.length)

/-- Errors of the rest of a text are errors of the text. -/
theorem Points.append {pos : Nat} {s : List Char} (before : List Char)
    (h : Points e (pos + before.length) s) : Points e pos (before ++ s) := by
  unfold Points at h ⊢
  rw [List.length_append, ← Nat.add_assoc]
  exact h.imp_right fun hc => hc.append before

theorem scanString_points {start pos : Nat} {s : List Char} (hlt : start < pos)
    (h : scanString start pos s = .error e) : Points e pos s := by
  fun_induction scanString start pos s with
  | case1 pos =>
    cases h
    exact .inl ⟨by simp, Span.isRangeOf_of_lt hlt (Nat.le_refl _)⟩
  | case2 pos rest => cases h
  | case3 pos =>
    cases h
    exact .inr ⟨rfl, rfl, rfl⟩
  | case4 pos c rest hc =>
    cases h
    exact .inl ⟨by simp, Span.isRangeOf_of_lt (by omega) (by simp)⟩
  | case5 pos c rest d hd ih => exact (ih (by omega) (map_eq_error h)).append ['\\', c]
  | case6 pos c rest hq hb ih => exact (ih (by omega) (map_eq_error h)).append [c]

/-- The error of a step is at characters that are there, unless an escape is cut off. -/
theorem step_points {depth pos : Nat} {c : Char} {rest : List Char}
    (h : step depth pos c rest = .error e) : Points e pos (c :: rest) := by
  unfold step at h
  split at h
  next => cases h
  split at h
  next => cases h
  split at h
  next => cases h
  split at h
  next =>
    exact (scanString_points (Nat.lt_succ_self pos) (map_eq_error h)).append [c]
  split at h
  next =>
    dsimp only at h
    split at h
    next => cases h
    next =>
      cases h
      exact .inl ⟨nofun, Span.isRangeOf_of_lt (by omega) (by simp; omega)⟩
  split at h
  next => cases h
  split at h
  next => cases h
  split at h
  next => cases h
  next =>
    cases h
    exact .inl ⟨nofun, Span.isRangeOf_of_lt (by omega) (by simp)⟩

/-- The error of what is scanned is that of a step. -/
theorem scanFrom_points {depth pos : Nat} {s : List Char} (h : scanFrom depth pos s = .error e) :
    Points e pos s := by
  induction depth, pos, s using scanFrom.induct with
  | case1 => rw [scanFrom] at h; cases h
  | case2 depth pos c rest ih =>
    rw [scanFrom] at h
    obtain hs | ⟨next, hs, h⟩ := bind_eq_error h
    · exact step_points hs
    · obtain hr | ⟨ts, -, h⟩ := bind_eq_error h
      · obtain ⟨hmore, -⟩ := step_takes hs
        have hlength : pos + 1 + next.more = pos + (c :: rest.take next.more).length := by
          simp [hmore]
          omega
        have hrest := ih next hr
        rw [hlength] at hrest
        have happend := hrest.append (c :: rest.take next.more)
        rwa [List.cons_append, List.take_append_drop] at happend
      · split at h <;> cases h

theorem scan_points {source : String} (h : scan source = .error e) :
    Points e 0 source.toList := scanFrom_points h

/-! ## Reading -/

/-- All tokens are at ranges of a text that ends at `stop`. -/
def AreInside (stop : Nat) (ts : List Token) : Prop := ∀ t ∈ ts, t.span.IsRangeOf stop

theorem scan_areInside {source : String} {ts : List Token} (h : scan source = .ok ts) :
    AreInside source.length ts := fun t ht =>
  have hcovers := scan_covers h
  Span.isRangeOf_of_lt (hcovers.inOrder.taken t ht) (hcovers.inside t ht).2

theorem AreInside.drop {ts : List Token} (h : AreInside stop ts) (n : Nat) :
    AreInside stop (ts.drop n) := fun t ht => h t (List.mem_of_mem_drop ht)

theorem AreInside.tail {t : Token} {ts : List Token} (h : AreInside stop (t :: ts)) :
    AreInside stop ts := (List.forall_mem_cons.mp h).2

/-- A refusal is no error of the program, or one at a range of the text. -/
def Refuses (stop : Nat) (r : Refusal) : Prop := ∀ e, r = .error e → e.IsInside stop

/-- The result of a reading function: the tokens behind what it reads are at ranges of the text, or
its error is. -/
def Keeps {α : Type} (stop : Nat) : Except Refusal (α × List Token) → Prop
  | .ok (_, rest) => AreInside stop rest
  | .error r => Refuses stop r

section Keeps

variable {α β : Type} {ts : List Token}

/-- Reading one thing, and another behind it. -/
theorem Keeps.bind {x : Except Refusal (α × List Token)}
    {f : α × List Token → Except Refusal (β × List Token)} (hx : Keeps stop x)
    (hf : ∀ a rest, AreInside stop rest → Keeps stop (f (a, rest))) : Keeps stop (x >>= f) := by
  cases x with
  | error r => exact hx
  | ok p => exact hf p.1 p.2 hx

/-- What is refused is a token or the end of the text. -/
theorem unexpected_refuses {expected : Expected} (h : AreInside stop ts) {r : Refusal}
    (hr : (unexpected stop expected ts : Except Refusal α) = .error r) : Refuses stop r := by
  cases hr
  intro e he
  cases he
  refine ⟨nofun, ?_⟩
  cases ts with
  | nil => exact Span.isRangeOf_end stop
  | cons t ts => exact h t List.mem_cons_self

theorem unexpected_keeps (expected : Expected) (h : AreInside stop ts) :
    Keeps stop (unexpected stop expected ts : Except Refusal (α × List Token)) :=
  unexpected_refuses (α := α × List Token) h rfl

theorem takeMark_keeps (mark : String) (h : AreInside stop ts) :
    Keeps stop (takeMark stop mark ts) := by
  cases ts with
  | nil => exact unexpected_keeps _ h
  | cons t rest =>
    rw [takeMark]
    split
    · exact h.tail
    · exact unexpected_keeps _ h

/-- A literal whose value is told by `x`. -/
theorem literal_keeps {x : Except Refusal Scalar} {rest : List Token}
    (hx : ∀ r, x = .error r → Refuses stop r) (h : AreInside stop rest) :
    Keeps stop (do return (Expr.literal (← x), rest)) := by
  cases x with
  | error r => exact hx r rfl
  | ok v => exact h

theorem regexValue_refuses {t : Token} (h : t.span.IsRangeOf stop) {r : Refusal}
    (hr : regexValue t = .error r) : Refuses stop r := by
  unfold regexValue at hr
  split at hr
  next => cases hr
  next =>
    split at hr
    · cases hr
      intro e he
      cases he
      exact ⟨nofun, h⟩
    · cases hr
      exact nofun

theorem integerValue_refuses {text : String} {r : Refusal} (hr : integerValue text = .error r) :
    Refuses stop r := by
  unfold integerValue at hr
  split at hr <;> cases hr <;> exact nofun

theorem readNames_areInside (h : AreInside stop ts) : AreInside stop (readNames ts).2 := by
  obtain ⟨us, hts, -⟩ := readNames_eq ts
  rw [hts] at h
  exact (List.forall_mem_append.mp h).2

theorem readPath_areInside (dot : Token) (h : AreInside stop ts) :
    AreInside stop (readPath dot ts).2 := by
  cases ts with
  | nil => exact h
  | cons name rest =>
    rw [readPath]
    split
    · exact readNames_areInside h.tail
    · exact h

end Keeps

/-! ## Expressions -/

/-- The reading functions for expressions and their parts keep to the text with `fuel` steps. -/
structure KeepsWith (stop fuel : Nat) : Prop where
  expr : ∀ ts, AreInside stop ts → Keeps stop (readExpr stop fuel ts)
  items : ∀ ts, AreInside stop ts → Keeps stop (readItems stop fuel ts)
  entries : ∀ ts, AreInside stop ts → Keeps stop (readEntries stop fuel ts)
  arguments : ∀ ts, AreInside stop ts → Keeps stop (readArguments stop fuel ts)

section Step

variable {fuel : Nat}

/-- The content of brackets, and the bracket that closes it. -/
private theorem bracketed_keeps {α : Type} {f : α → Token → Expr} {mark : String}
    {x : Except Refusal (α × List Token)} (hx : Keeps stop x) :
    Keeps stop (do
      let (a, rest') ← x
      let (close, rest'') ← takeMark stop mark rest'
      return (f a close, rest'')) :=
  hx.bind fun _ _ hrest => (takeMark_keeps mark hrest).bind fun _ _ hrest' => hrest'

/-- One more step reads an expression; its cases are the kinds of the first token. -/
theorem readExpr_keeps (ih : KeepsWith stop fuel) (ts : List Token) (h : AreInside stop ts) :
    Keeps stop (readExpr stop (fuel + 1) ts) := by
  cases ts with
  | nil => exact unexpected_keeps _ h
  | cons t rest =>
    have hrest := h.tail
    unfold readExpr
    split
    next => exact hrest
    next => exact hrest
    next =>
      exact literal_keeps (fun r => regexValue_refuses (h t List.mem_cons_self)) hrest
    next => exact literal_keeps (fun r => integerValue_refuses) hrest
    next => exact hrest
    next =>
      split
      next => exact hrest
      next =>
        split
        next =>
          have hinside : AreInside stop (if atMark "!" rest then rest.drop 1 else rest) := by
            split
            · exact hrest.drop 1
            · exact hrest
          exact (takeMark_keeps "(" hinside).bind fun _ _ hopen =>
            bracketed_keeps
              (f := fun arguments close => .call t.text arguments (atMark "!" rest)
                ⟨t.span.start, close.span.stop⟩)
              (ih.arguments _ hopen)
        next => exact hrest
    next =>
      split
      next => exact bracketed_keeps (f := fun items _ => .array items) (ih.items rest hrest)
      next =>
      split
      next => exact bracketed_keeps (f := fun entries _ => .object entries) (ih.entries rest hrest)
      next =>
      split
      next => exact readPath_areInside t hrest
      next =>
      split
      next => exact bracketed_keeps (f := fun inner _ => inner) (ih.expr rest hrest)
      next => exact unexpected_keeps _ h
    next => exact unexpected_keeps _ h
    next => exact unexpected_keeps _ h

/-- An element and those that follow it. -/
private theorem further_keeps {α : Type} {a : α} {rest : List Token}
    {next : List Token → Except Refusal (List α × List Token)} (h : AreInside stop rest)
    (hn : ∀ ts, AreInside stop ts → Keeps stop (next ts)) : Keeps stop (further next a rest) := by
  unfold further
  split
  · exact (hn _ (h.drop 1)).bind fun _ _ hrest => hrest
  · exact h

theorem readItems_keeps (ih : KeepsWith stop fuel) (ts : List Token) (h : AreInside stop ts) :
    Keeps stop (readItems stop (fuel + 1) ts) := by
  unfold readItems
  split
  · exact h
  · exact (ih.expr ts h).bind fun _ _ hrest => further_keeps hrest ih.items

theorem readEntries_keeps (ih : KeepsWith stop fuel) (ts : List Token) (h : AreInside stop ts) :
    Keeps stop (readEntries stop (fuel + 1) ts) := by
  unfold readEntries
  split
  · exact h
  · cases ts with
    | nil => exact unexpected_keeps _ h
    | cons key rest =>
      dsimp only
      split
      · exact (takeMark_keeps ":" h.tail).bind fun _ body hbody =>
          (ih.expr body hbody).bind fun _ _ hrest => further_keeps hrest ih.entries
      · exact unexpected_keeps _ h

theorem readArguments_keeps (ih : KeepsWith stop fuel) (ts : List Token) (h : AreInside stop ts) :
    Keeps stop (readArguments stop (fuel + 1) ts) := by
  unfold readArguments
  split
  · exact h
  · have value {name : Option String} (body : List Token) (hbody : AreInside stop body) :
        Keeps stop (readExpr stop fuel body >>= fun found =>
          further (readArguments stop fuel) (name, found.1) found.2) :=
      (ih.expr body hbody).bind fun _ _ hrest => further_keeps hrest ih.arguments
    cases ts with
    | nil => exact value [] h
    | cons t rest =>
      dsimp only
      split
      · exact value _ (h.tail.drop 1)
      · exact value _ h

end Step

/-- Any number of steps keeps to the text. The induction is on the steps. -/
theorem keepsWith (stop fuel : Nat) : KeepsWith stop fuel := by
  induction fuel with
  | zero =>
    refine ⟨fun ts h => ?_, fun ts h => ?_, fun ts h => ?_, fun ts h => ?_⟩
    · unfold readExpr; exact unexpected_keeps _ h
    · unfold readItems; exact h
    · unfold readEntries; exact h
    · unfold readArguments; exact h
  | succ fuel ih =>
    exact ⟨readExpr_keeps ih, readItems_keeps ih, readEntries_keeps ih, readArguments_keeps ih⟩

/-! ## Statements -/

theorem readStatement_keeps {ts : List Token} (h : AreInside stop ts) :
    Keeps stop (readStatement stop ts) := by
  have value {fuel : Nat} {body : List Token} {f : Expr → Statement} (hbody : AreInside stop body) :
      Keeps stop (readExpr stop fuel body >>= fun read => pure (f read.1, read.2)) :=
    ((keepsWith stop fuel).expr body hbody).bind fun _ _ hrest => hrest
  cases ts with
  | nil => exact unexpected_keeps _ h
  | cons t rest =>
    simp only [readStatement]
    split
    · exact value (h.tail.drop 1)
    · split
      · have hrest := readPath_areInside t h.tail
        split
        · exact value (hrest.drop 1)
        · exact hrest
      · exact value h

/-- Each statement leaves tokens that are at ranges of the text. -/
theorem readStatements_refuses {fuel : Nat} {ts : List Token} (h : AreInside stop ts) {r : Refusal}
    (hr : readStatements stop fuel ts = .error r) : Refuses stop r := by
  induction fuel generalizing ts with
  | zero => cases hr
  | succ fuel ih =>
    unfold readStatements at hr
    have hbody : AreInside stop (ts.dropWhile Token.isSeparator) := fun t ht =>
      h t ((List.dropWhile_sublist _).subset ht)
    split at hr
    · cases hr
    · have hs := readStatement_keeps hbody
      obtain he | ⟨⟨s, rest⟩, hok, hr⟩ := bind_eq_error hr
      · rw [he] at hs
        exact hs
      · rw [hok] at hs
        dsimp only at hr
        split at hr
        · cases hr
        · split at hr
          · obtain hr | ⟨p, -, hr⟩ := bind_eq_error hr
            · exact ih hs hr
            · cases hr
          · exact unexpected_refuses hs hr

/-! ## Programs -/

/-- A text that is no program has an error of scanning or one of reading its tokens. -/
theorem parse_eq_error {source : String} (h : parse source = .error (.error e)) :
    scan source = .error e ∨
      ∃ ts fuel, scan source = .ok ts ∧
        readStatements source.length fuel ts = .error (.error e) := by
  unfold parse at h
  cases hs : scan source with
  | error d => rw [hs] at h; cases h; exact .inl rfl
  | ok ts => rw [hs] at h; exact .inr ⟨ts, ts.length + 1, rfl, h⟩

/-- The errors of scanning and reading a text are those of either kind. -/
theorem isInside_or_isCutOff {source : String}
    (h : tokenize source = .error e ∨ parse source = .error (.error e)) :
    e.IsInside source.length ∨ e.IsCutOff source.toList source.length := by
  have hscan (hs : scan source = .error e) :
      e.IsInside source.length ∨ e.IsCutOff source.toList source.length := by
    have hpoints := scan_points hs
    rwa [Points, Nat.zero_add, String.length_toList] at hpoints
  obtain h | h := h
  · exact hscan (map_eq_error h)
  · obtain hs | ⟨ts, fuel, hs, hr⟩ := parse_eq_error h
    · exact hscan hs
    · exact .inl (readStatements_refuses (scan_areInside hs) hr e rfl)

/-- The message of an error ends in its range. That is a range of positions of the text, and empty
only at its end, unless the text ends in the backslash of an escape: the range is then that of two
characters, of which the second is not there. -/
theorem errors_point_into_text {source : String}
    (h : tokenize source = .error e ∨ parse source = .error (.error e)) :
    (∃ text, e.message = text ++ s!" at ({e.span.start}:{e.span.stop})") ∧
      (e.span.IsRangeOf source.length ↔ e.problem ≠ .invalidEscape none) ∧
      (e.problem = .invalidEscape none →
        source.toList.getLast? = some '\\' ∧
          e.span = ⟨source.length - 1, source.length + 1⟩) := by
  refine ⟨⟨e.problem.message, ?_⟩, ?_⟩
  · simp only [Error.message, Span.text, toString, String.append_assoc]
    rfl
  · obtain hinside | hcut := isInside_or_isCutOff h
    · exact ⟨iff_of_true hinside.range hinside.problem, fun he => absurd he hinside.problem⟩
    · exact ⟨iff_of_false hcut.not_isRangeOf (not_not_intro hcut.problem),
        fun _ => ⟨hcut.last, hcut.span⟩⟩

/-- A call that is not closed shows the end of the text. -/
theorem errors_point_into_text_open_call :
    parse "f(" = .error (.error ⟨.unexpected "end of input" .expression, ⟨2, 2⟩⟩) ∧
      Span.IsRangeOf ⟨2, 2⟩ "f(".length := by
  have h : parse "f(" = .error (.error ⟨.unexpected "end of input" .expression, ⟨2, 2⟩⟩) := by
    cbv
  exact ⟨h, (errors_point_into_text (.inr h)).2.1.mpr fun he => by cases he⟩

/-- A string of which only a backslash is there shows a character behind the end of the text. -/
theorem cut_off_escape_points_outside :
    parse "\"\\" = .error (.error ⟨.invalidEscape none, ⟨1, 3⟩⟩) ∧
      tokenize "\"\\" = .error ⟨.invalidEscape none, ⟨1, 3⟩⟩ ∧
      Error.message ⟨.invalidEscape none, ⟨1, 3⟩⟩ = "invalid escape '\\' at (1:3)" ∧
      "\"\\".length = 2 ∧ ¬ Span.IsRangeOf ⟨1, 3⟩ "\"\\".length := by
  have h : ¬ Span.IsRangeOf ⟨1, 3⟩ "\"\\".length := fun hr => absurd hr.inside (by decide)
  exact ⟨by cbv, by decide +kernel, by decide +kernel, by decide, h⟩

end Syntax

end FunctionManual
