import FunctionManual.Proofs.Syntax.Soundness

/-!
# What derives is read

* `IsCloser`, `Ends`: the tokens that may stand behind an expression.
* `Derives.reads`: an expression is read from its tokens, whatever ends it; two steps for each
  token are enough.
* `DerivesStatement.reads`, `DerivesProgram.reads`: the same of statements and programs.
-/

namespace FunctionManual.Syntax

/-- A token that may stand behind an expression. -/
def IsCloser (t : Token) : Bool :=
  t.isSeparator || t.isMark "," || t.isMark ")" || t.isMark "]" || t.isMark "\x7d"

/-- What may stand behind an expression. -/
def Ends (rest : List Token) : Prop := ∀ t ∈ rest.head?, IsCloser t

theorem isMark_iff {t : Token} {mark : String} :
    t.isMark mark ↔ t.kind = .punctuation ∧ t.text = mark := by
  simp [Token.isMark]

theorem Ends.nil : Ends [] := by simp [Ends]

theorem Ends.cons {t : Token} {rest : List Token} (h : IsCloser t) : Ends (t :: rest) := by
  simpa [Ends] using h

/-- The marks that never stand behind an expression. -/
theorem Ends.atMark_eq_false {rest : List Token} (h : Ends rest) (mark : String)
    (hm : mark ∉ [";", ",", ")", "]", "\x7d"]) : atMark mark rest = false := by
  cases rest with
  | nil => rfl
  | cons t rest =>
    have hc : IsCloser t := h t rfl
    simp only [IsCloser, Token.isSeparator, Token.isMark, Bool.or_eq_true, Bool.and_eq_true,
      decide_eq_true_eq] at hc
    simp only [List.mem_cons, List.not_mem_nil, or_false, not_or] at hm
    have : ¬(t.kind = .punctuation ∧ t.text = mark) := by
      rintro ⟨hk, rfl⟩
      simp_all
    simpa [atMark, Token.isMark] using this

theorem Ends.not_identifier {rest : List Token} (h : Ends rest) :
    ∀ t ∈ rest.head?, t.kind ≠ .identifier := by
  intro t ht hk
  have := h t ht
  simp [IsCloser, Token.isSeparator, Token.isMark, hk] at this

theorem atMark_cons {t : Token} {rest : List Token} {mark : String} :
    atMark mark (t :: rest) = t.isMark mark := rfl

theorem takeMark_cons {stop : Nat} {t : Token} {rest : List Token} {mark : String}
    (h : t.isMark mark) : takeMark stop mark (t :: rest) = .ok (t, rest) := by
  simp [takeMark, h]

/-! ## Paths -/

theorem readNames_stop {rest : List Token} (h : atMark "." rest = false) :
    readNames rest = ([], rest) := by
  match rest with
  | [] => rfl
  | [t] => rfl
  | t :: u :: rest =>
    have ht : t.isMark "." = false := h
    simp [readNames, ht]

/-- Names with points between them are read as far as they go. -/
theorem DerivesNames.reads {us rest : List Token} {names : List String} (h : DerivesNames us names)
    (hr : atMark "." rest = false) : readNames (us ++ rest) = (names, rest) := by
  induction h with
  | nil => exact readNames_stop hr
  | cons hd hn _ ih => simp [readNames, hd, hn, ih]

/-- A path is read up to its end, unless a point or a name stands there. -/
theorem DerivesPath.reads {us : List Token} {names : List String} (h : DerivesPath us names)
    (rest : List Token) (hr : atMark "." rest = false)
    (hn : ∀ t ∈ rest.head?, t.kind ≠ .identifier) :
    ∃ dot ts, us = dot :: ts ∧ dot.isMark "." ∧ readPath dot (ts ++ rest) = (names, rest) := by
  cases h with
  | @event dot hd =>
    refine ⟨dot, [], rfl, hd, ?_⟩
    cases rest with
    | nil => rfl
    | cons t rest =>
      have := hn t rfl
      simp [readPath, this]
  | @names dot name ts names hd hk touches h =>
    exact ⟨dot, name :: ts, rfl, hd, by simp [readPath, hk, touches, h.reads hr]⟩

/-! ## First tokens -/

/-- A token that may begin an expression: a literal, a name or an opening mark. -/
def IsOpener (t : Token) : Prop :=
  t.kind ≠ .newline ∧ (t.kind = .punctuation → t.text ∈ [".", "(", "[", "\x7b"])

theorem isOpener_of_kind {t : Token} (hk : t.kind ≠ .newline) (hp : t.kind ≠ .punctuation) :
    IsOpener t := ⟨hk, fun h => absurd h hp⟩

theorem isOpener_of_isMark {t : Token} {mark : String} (h : t.isMark mark)
    (hm : mark ∈ [".", "(", "[", "\x7b"]) : IsOpener t := by
  obtain ⟨hk, rfl⟩ := isMark_iff.mp h
  exact ⟨by simp [hk], fun _ => hm⟩

/-- A literal is no newline and no mark. -/
theorem Literal.kind {t : Token} {v : Scalar} (h : Literal t v) :
    t.kind ≠ .newline ∧ t.kind ≠ .punctuation := by
  cases h with
  | string h => rcases h with h | h <;> simp [h]
  | regex h | integer h | float h | keyword h => simp [h]

theorem DerivesPath.opens {us : List Token} {names : List String} (h : DerivesPath us names) :
    ∃ t ts, us = t :: ts ∧ IsOpener t := by
  cases h with
  | event hd | names hd => exact ⟨_, _, rfl, isOpener_of_isMark hd (by decide)⟩

/-- An expression begins with a token that may begin one. -/
theorem Derives.opens {us : List Token} {e : Expr} (h : Derives us (.expr e)) :
    ∃ t ts, us = t :: ts ∧ IsOpener t := by
  cases h with
  | literal h => exact ⟨_, _, rfl, isOpener_of_kind h.kind.1 h.kind.2⟩
  | name h | call h => exact ⟨_, _, rfl, isOpener_of_kind (by rw [h.1]; simp) (by rw [h.1]; simp)⟩
  | path h => exact h.opens
  | group ho | array ho | object ho => exact ⟨_, _, rfl, isOpener_of_isMark ho (by decide)⟩

/-- No other mark stands at the front of an expression. -/
theorem Derives.atMark_eq_false {us : List Token} {e : Expr} (h : Derives us (.expr e))
    (mark : String) (hm : mark ∉ [".", "(", "[", "\x7b"]) (rest : List Token) :
    atMark mark (us ++ rest) = false := by
  obtain ⟨t, ts, rfl, -, ht⟩ := h.opens
  rw [Bool.eq_false_iff]
  intro h
  obtain ⟨hk, rfl⟩ := isMark_iff.mp h
  exact hm (ht hk)

/-- Behind an identifier at the front of an expression stands the end of the expression, or the
mark of a call. -/
theorem Derives.atMark_tail {t : Token} {us : List Token} {e : Expr}
    (h : Derives (t :: us) (.expr e)) (ht : t.kind = .identifier) (mark : String)
    (hm : mark ∉ ["(", "!"]) {rest : List Token} (hr : atMark mark rest = false) :
    atMark mark (us ++ rest) = false := by
  simp only [List.mem_cons, List.not_mem_nil, or_false, not_or] at hm
  generalize hts : t :: us = ts at h
  cases h with
  | literal h | name h =>
    obtain ⟨rfl, rfl⟩ := List.cons.inj hts
    exact hr
  | path h =>
    cases h <;> (obtain ⟨rfl, -⟩ := List.cons.inj hts; simp_all [isMark_iff])
  | group ho | array ho | object ho =>
    obtain ⟨rfl, -⟩ := List.cons.inj hts
    simp_all [isMark_iff]
  | @call n o c bang ts as hn hb ho h hc =>
    obtain ⟨rfl, rfl⟩ := List.cons.inj hts
    cases bang with
    | none => simp [atMark, Token.isMark, (isMark_iff.mp ho).2, Ne.symm hm.1]
    | some b => simp [atMark, Token.isMark, (isMark_iff.mp (hb b rfl)).2, Ne.symm hm.2]

/-! ## Expressions -/

/-- The name in front of an argument, if there is one, and the tokens of its value. -/
def argumentName (ts : List Token) : Option String × List Token :=
  match ts with
  | t :: rest =>
    if t.kind = .identifier && atMark ":" rest then (some t.text, rest.drop 1) else (none, ts)
  | [] => (none, ts)

/-- An expression, or a part of one, is read from its tokens whatever stands behind them. An entry
and an argument are read by the functions that read several of them. -/
def Readable (stop : Nat) (us : List Token) : Phrase → Prop
  | .expr e => ∀ fuel rest, 2 * us.length ≤ fuel → Ends rest →
      readExpr stop fuel (us ++ rest) = .ok (e, rest)
  | .items es => ∀ fuel rest, 2 * us.length + 1 ≤ fuel → atMark "]" rest →
      readItems stop fuel (us ++ rest) = .ok (es, rest)
  | .entry e => ∃ key colon body, us = key :: colon :: body ∧
      (key.kind = .string ∨ key.kind = .rawString) ∧ colon.isMark ":" ∧ key.text = e.1 ∧
      ∀ fuel rest, 2 * body.length ≤ fuel → Ends rest →
        readExpr stop fuel (body ++ rest) = .ok (e.2, rest)
  | .entries es => ∀ fuel rest, 2 * us.length + 1 ≤ fuel → atMark "\x7d" rest →
      readEntries stop fuel (us ++ rest) = .ok (es, rest)
  | .argument a => ∀ fuel rest, 2 * us.length ≤ fuel → Ends rest →
      atMark ")" (us ++ rest) = false ∧ (argumentName (us ++ rest)).1 = a.1 ∧
      readExpr stop fuel (argumentName (us ++ rest)).2 = .ok (a.2, rest)
  | .arguments as => ∀ fuel rest, 2 * us.length + 1 ≤ fuel → atMark ")" rest →
      readArguments stop fuel (us ++ rest) = .ok (as, rest)

section Heads

variable {stop fuel : Nat} {t : Token} {rest : List Token}

theorem readExpr_literal {v : Scalar} (h : Literal t v) :
    readExpr stop (fuel + 1) (t :: rest) = .ok (.literal v, rest) := by
  unfold readExpr
  cases h with
  | string h => rcases h with h | h <;> simp [h]
  | regex h hr => simp [h, regexValue, hr, bind, Except.bind, pure, Except.pure]
  | integer h hi => simp [h, integerValue, hi, bind, Except.bind, pure, Except.pure]
  | float h hx => simp [h, hx]
  | keyword h hv => simp [h, hv]

/-- A name that is not called is a variable. -/
theorem readExpr_name (h : IsName t) (hr : Ends rest) :
    readExpr stop (fuel + 1) (t :: rest) = .ok (.variable t.text t.span, rest) := by
  unfold readExpr
  have hc : atCall rest = false := by
    simp [atCall, hr.atMark_eq_false "(" (by decide),
      hr.atMark_eq_false "!" (by decide)]
  simp [h.1, h.2, hc]

theorem readExpr_path (ht : t.isMark ".") :
    readExpr stop (fuel + 1) (t :: rest) =
      .ok (.path (readPath t rest).1, (readPath t rest).2) := by
  obtain ⟨hk, hx⟩ := isMark_iff.mp ht
  unfold readExpr
  simp [hk, hx, Token.isMark]

theorem readExpr_group (ht : t.isMark "(") :
    readExpr stop (fuel + 1) (t :: rest) = (do
      let (inner, rest') ← readExpr stop fuel rest
      let (_, rest'') ← takeMark stop ")" rest'
      return (inner, rest'')) := by
  obtain ⟨hk, hx⟩ := isMark_iff.mp ht
  conv => lhs; unfold readExpr
  simp [hk, hx, Token.isMark]

theorem readExpr_array (ht : t.isMark "[") :
    readExpr stop (fuel + 1) (t :: rest) = (do
      let (items, rest') ← readItems stop fuel rest
      let (_, rest'') ← takeMark stop "]" rest'
      return (.array items, rest'')) := by
  obtain ⟨hk, hx⟩ := isMark_iff.mp ht
  unfold readExpr
  simp [hk, hx, Token.isMark]

theorem readExpr_object (ht : t.isMark "\x7b") :
    readExpr stop (fuel + 1) (t :: rest) = (do
      let (entries, rest') ← readEntries stop fuel rest
      let (_, rest'') ← takeMark stop "\x7d" rest'
      return (.object entries, rest'')) := by
  obtain ⟨hk, hx⟩ := isMark_iff.mp ht
  unfold readExpr
  simp [hk, hx, Token.isMark]

/-- A name before a parenthesis is called, with or without an exclamation mark. -/
theorem readExpr_call {bang : Option Token} {o : Token} (h : IsName t)
    (hb : ∀ b ∈ bang, b.isMark "!") (ho : o.isMark "(") :
    readExpr stop (fuel + 1) (t :: (bang.toList ++ o :: rest)) = (do
      let (arguments, rest') ← readArguments stop fuel rest
      let (close, rest'') ← takeMark stop ")" rest'
      return (.call t.text arguments bang.isSome ⟨t.span.start, close.span.stop⟩, rest'')) := by
  unfold readExpr
  have hob : o.isMark "!" = false := by simp [Token.isMark, (isMark_iff.mp ho).2]
  cases bang with
  | none =>
    simp [h.1, h.2, atCall, atMark_cons, ho, hob, takeMark_cons ho, bind, Except.bind]
  | some b =>
    simp [h.1, h.2, atCall, atMark_cons, ho, hb b rfl, takeMark_cons ho, bind, Except.bind]

/-! ### Lists -/

theorem readItems_closed (h : atMark "]" rest) : readItems stop fuel rest = .ok ([], rest) := by
  cases fuel with
  | zero => unfold readItems; rfl
  | succ fuel => unfold readItems; simp [h]

theorem readEntries_closed (h : atMark "\x7d" rest) :
    readEntries stop fuel rest = .ok ([], rest) := by
  cases fuel with
  | zero => unfold readEntries; rfl
  | succ fuel => unfold readEntries; simp [h]

theorem readArguments_closed (h : atMark ")" rest) :
    readArguments stop fuel rest = .ok ([], rest) := by
  cases fuel with
  | zero => unfold readArguments; rfl
  | succ fuel => unfold readArguments; simp [h]

variable {ts : List Token} {e : Expr}

theorem readItems_element (hne : atMark "]" ts = false)
    (h : readExpr stop fuel ts = .ok (e, rest)) :
    readItems stop (fuel + 1) ts = further (readItems stop fuel) e rest := by
  conv => lhs; unfold readItems
  rw [hne, h]
  rfl

theorem readEntries_element {key colon : Token} (hk : key.kind = .string ∨ key.kind = .rawString)
    (hc : colon.isMark ":") (h : readExpr stop fuel ts = .ok (e, rest)) :
    readEntries stop (fuel + 1) (key :: colon :: ts) =
      further (readEntries stop fuel) (key.text, e) rest := by
  have hne : atMark "\x7d" (key :: colon :: ts) = false := by
    rcases hk with hk | hk <;> simp [atMark_cons, Token.isMark, hk]
  have hk : (decide (key.kind = .string) || decide (key.kind = .rawString)) = true := by
    simpa using hk
  conv => lhs; unfold readEntries
  simp only [hne, hk, takeMark_cons hc, h, bind, Except.bind, if_true, Bool.false_eq_true, if_false]
  rfl

theorem readArguments_element (hne : atMark ")" ts = false)
    (h : readExpr stop fuel (argumentName ts).2 = .ok (e, rest)) :
    readArguments stop (fuel + 1) ts =
      further (readArguments stop fuel) ((argumentName ts).1, e) rest := by
  have unfolded : readArguments stop (fuel + 1) ts =
      if atMark ")" ts then .ok ([], ts)
      else (do
        let (value, rest) ← readExpr stop fuel (argumentName ts).2
        further (readArguments stop fuel) ((argumentName ts).1, value) rest) := by
    conv => lhs; unfold readArguments
    rfl
  rw [unfolded, hne, h]
  rfl

end Heads

private theorem Ends.closing {t : Token} {rest : List Token} {mark : String} (h : t.isMark mark)
    (hm : mark ∈ [",", ")", "]", "\x7d"]) : Ends (t :: rest) := by
  refine Ends.cons ?_
  obtain ⟨hk, rfl⟩ := isMark_iff.mp h
  simp only [List.mem_cons, List.not_mem_nil, or_false] at hm
  rcases hm with hm | hm | hm | hm <;> simp [IsCloser, Token.isMark, hk, hm]

private theorem Ends.of_atMark {rest : List Token} {mark : String} (h : atMark mark rest)
    (hm : mark ∈ [",", ")", "]", "\x7d"]) : Ends rest := by
  obtain ⟨t, rest, rfl, ht⟩ := atMark_iff.mp h
  exact Ends.closing ht hm

private theorem atMark_of_atMark {rest : List Token} {mark : String} (h : atMark mark rest)
    (other : String) (hne : mark ≠ other) : atMark other rest = false := by
  obtain ⟨t, rest, rfl, ht⟩ := atMark_iff.mp h
  simp [atMark_cons, Token.isMark, (isMark_iff.mp ht).2, hne]

section Steps

variable {stop : Nat} {rest : List Token}

/-- What stands inside brackets, and the bracket that closes them. -/
private theorem bracketed_eq {α : Type} {x : Except Refusal (α × List Token)} {a : α} {c : Token}
    {mark : String} (tree : α → Token → Expr) (hx : x = .ok (a, c :: rest)) (hc : c.isMark mark) :
    (do
      let (a, rest') ← x
      let (close, rest'') ← takeMark stop mark rest'
      return (tree a close, rest'')) = Except.ok (tree a c, rest) := by
  rw [hx]
  simp only [bind, Except.bind, takeMark_cons hc]
  rfl

variable {α : Type} {a : α} {as : List α} {ts : List Token}
  {next : List Token → Except Refusal (List α × List Token)}

/-- The last element stands before the bracket that closes the list. -/
private theorem further_last {mark : String} (hm : atMark mark rest) (hne : mark ≠ ",") :
    further next a rest = .ok ([a], rest) := by
  rw [further, atMark_of_atMark hm "," hne]
  rfl

/-- Behind a comma stand the elements that follow. -/
private theorem further_more {c : Token} (hc : c.isMark ",") (h : next ts = .ok (as, rest)) :
    further next a (c :: ts) = .ok (a :: as, rest) := by
  rw [further, atMark_cons, if_pos hc, List.drop_one, List.tail_cons, h]
  rfl

/-- The value of an argument without a name is read from the front. -/
private theorem argumentName_positional {e : Expr} (h : Derives ts (.expr e)) (hr : Ends rest) :
    argumentName (ts ++ rest) = (none, ts ++ rest) := by
  obtain ⟨t, ts, rfl⟩ := List.exists_cons_of_ne_nil h.ne_nil
  by_cases ht : t.kind = .identifier
  · have := h.atMark_tail ht ":" (by decide) (hr.atMark_eq_false ":" (by decide))
    simp [argumentName, this]
  · simp [argumentName, ht]

end Steps

/-- Every phrase is read from its tokens. The induction is on the derivation; each rule takes a
token for each two steps. -/
theorem Derives.readable {us : List Token} {p : Phrase} (stop : Nat) (h : Derives us p) :
    Readable stop us p := by
  induction h with
  | literal h =>
    intro fuel rest hf _
    obtain ⟨fuel, rfl⟩ : ∃ f, fuel = f + 1 := ⟨fuel - 1, by simp at hf; omega⟩
    exact readExpr_literal h
  | name h =>
    intro fuel rest hf hr
    obtain ⟨fuel, rfl⟩ : ∃ f, fuel = f + 1 := ⟨fuel - 1, by simp at hf; omega⟩
    exact readExpr_name h hr
  | path h =>
    intro fuel rest hf hr
    obtain ⟨dot, ts, rfl, hd, hp⟩ :=
      h.reads rest (hr.atMark_eq_false "." (by decide)) hr.not_identifier
    obtain ⟨fuel, rfl⟩ : ∃ f, fuel = f + 1 := ⟨fuel - 1, by simp at hf; omega⟩
    rw [List.cons_append, readExpr_path hd, hp]
  -- the bracket that closes a phrase ends what stands before it
  | @group o c ts e ho _ hc ih =>
    intro fuel rest hf _
    simp only [List.cons_append, List.length_cons, List.length_append, List.length_nil] at hf
    obtain ⟨fuel, rfl⟩ : ∃ f, fuel = f + 1 := ⟨fuel - 1, by omega⟩
    have hi := ih fuel (c :: rest) (by omega) (Ends.closing hc (by decide))
    rw [List.append_assoc, List.cons_append, readExpr_group ho]
    exact bracketed_eq (fun e _ => e) hi hc
  | @array o c ts es ho _ hc ih =>
    intro fuel rest hf _
    simp only [List.cons_append, List.length_cons, List.length_append, List.length_nil] at hf
    obtain ⟨fuel, rfl⟩ : ∃ f, fuel = f + 1 := ⟨fuel - 1, by omega⟩
    have hi := ih fuel (c :: rest) (by omega) hc
    rw [List.append_assoc, List.cons_append, readExpr_array ho]
    exact bracketed_eq (fun es _ => .array es) hi hc
  | @object o c ts es ho _ hc ih =>
    intro fuel rest hf _
    simp only [List.cons_append, List.length_cons, List.length_append, List.length_nil] at hf
    obtain ⟨fuel, rfl⟩ : ∃ f, fuel = f + 1 := ⟨fuel - 1, by omega⟩
    have hi := ih fuel (c :: rest) (by omega) hc
    rw [List.append_assoc, List.cons_append, readExpr_object ho]
    exact bracketed_eq (fun es _ => .object es) hi hc
  | @call n o c bang ts as hn hb ho _ hc ih =>
    intro fuel rest hf _
    simp only [List.cons_append, List.length_cons, List.length_append, List.length_nil] at hf
    obtain ⟨fuel, rfl⟩ : ∃ f, fuel = f + 1 := ⟨fuel - 1, by omega⟩
    have hi := ih fuel (c :: rest) (by omega) hc
    simp only [List.cons_append, List.append_assoc, List.nil_append]
    rw [readExpr_call hn hb ho]
    exact bracketed_eq (fun as close => .call n.text as bang.isSome ⟨n.span.start, close.span.stop⟩)
      hi hc
  | noItems => exact fun fuel rest _ hm => readItems_closed hm
  | @lastItem ts e h ih =>
    intro fuel rest hf hm
    obtain ⟨fuel, rfl⟩ : ∃ f, fuel = f + 1 := ⟨fuel - 1, by omega⟩
    have hi := ih fuel rest (by omega) (Ends.of_atMark hm (by decide))
    rw [readItems_element (h.atMark_eq_false "]" (by decide) rest) hi]
    exact further_last hm (by decide)
  | @moreItems c ts us e es h hc _ ih ihs =>
    intro fuel rest hf hm
    simp only [List.length_append, List.length_cons] at hf
    obtain ⟨fuel, rfl⟩ : ∃ f, fuel = f + 1 := ⟨fuel - 1, by omega⟩
    have hi := ih fuel (c :: (us ++ rest)) (by omega) (Ends.closing hc (by decide))
    rw [List.append_assoc, List.cons_append,
      readItems_element (h.atMark_eq_false "]" (by decide) _) hi]
    exact further_more hc (ihs fuel rest (by omega) hm)
  | @entry key colon ts e hk hc _ ih => exact ⟨key, colon, ts, rfl, hk, hc, rfl, ih⟩
  | noEntries => exact fun fuel rest _ hm => readEntries_closed hm
  | @lastEntry ts e _ ih =>
    intro fuel rest hf hm
    obtain ⟨key, colon, body, rfl, hk, hc, hkey, hi⟩ := ih
    simp only [List.length_cons] at hf
    obtain ⟨fuel, rfl⟩ : ∃ f, fuel = f + 1 := ⟨fuel - 1, by omega⟩
    have hi := hi fuel rest (by omega) (Ends.of_atMark hm (by decide))
    rw [List.cons_append, List.cons_append, readEntries_element hk hc hi, hkey]
    exact further_last hm (by decide)
  | @moreEntries c ts us e es _ hm' _ ih ihs =>
    intro fuel rest hf hm
    obtain ⟨key, colon, body, rfl, hk, hc, hkey, hi⟩ := ih
    simp only [List.length_append, List.length_cons] at hf
    obtain ⟨fuel, rfl⟩ : ∃ f, fuel = f + 1 := ⟨fuel - 1, by omega⟩
    have hi := hi fuel (c :: (us ++ rest)) (by omega) (Ends.closing hm' (by decide))
    simp only [List.cons_append, List.append_assoc]
    rw [readEntries_element hk hc hi, hkey]
    exact further_more hm' (ihs fuel rest (by omega) hm)
  | @positional ts e h ih =>
    intro fuel rest hf hr
    rw [argumentName_positional h hr]
    exact ⟨h.atMark_eq_false ")" (by decide) rest, rfl, ih fuel rest hf hr⟩
  | @named n colon ts e hn hc _ ih =>
    intro fuel rest hf hr
    have hm : argumentName (n :: colon :: ts ++ rest) = (some n.text, ts ++ rest) := by
      simp [argumentName, hn, atMark_cons, hc]
    refine ⟨by simp [atMark_cons, Token.isMark, hn], by rw [hm], ?_⟩
    rw [hm]
    simp only [List.length_cons] at hf
    exact ih fuel rest (by omega) hr
  | noArguments => exact fun fuel rest _ hm => readArguments_closed hm
  | @lastArgument ts a _ ih =>
    intro fuel rest hf hm
    obtain ⟨fuel, rfl⟩ : ∃ f, fuel = f + 1 := ⟨fuel - 1, by omega⟩
    obtain ⟨hne, hname, hi⟩ := ih fuel rest (by omega) (Ends.of_atMark hm (by decide))
    rw [readArguments_element hne hi, hname]
    exact further_last hm (by decide)
  | @moreArguments c ts us a as _ hc _ ih ihs =>
    intro fuel rest hf hm
    simp only [List.length_append, List.length_cons] at hf
    obtain ⟨fuel, rfl⟩ : ∃ f, fuel = f + 1 := ⟨fuel - 1, by omega⟩
    obtain ⟨hne, hname, hi⟩ :=
      ih fuel (c :: (us ++ rest)) (by omega) (Ends.closing hc (by decide))
    rw [List.append_assoc, List.cons_append, readArguments_element hne hi, hname]
    exact further_more hc (ihs fuel rest (by omega) hm)

/-- An expression is read from its tokens, whatever ends it. -/
theorem Derives.reads {us rest : List Token} {e : Expr} (h : Derives us (.expr e)) (stop : Nat)
    (fuel : Nat) (hf : 2 * us.length ≤ fuel) (hr : Ends rest) :
    readExpr stop fuel (us ++ rest) = .ok (e, rest) := h.readable stop fuel rest hf hr

/-! ## Statements -/

/-- What may stand behind a statement: nothing, or a separator. -/
def EndsStatement (rest : List Token) : Prop := ∀ t ∈ rest.head?, t.isSeparator

theorem EndsStatement.ends {rest : List Token} (h : EndsStatement rest) : Ends rest := by
  intro t ht
  simp [IsCloser, h t ht]

/-- An expression that begins with a point is a path. -/
theorem Derives.path_of_isMark {t : Token} {us : List Token} {e : Expr}
    (h : Derives (t :: us) (.expr e)) (ht : t.isMark ".") :
    ∃ names, e = .path names ∧ DerivesPath (t :: us) names := by
  obtain ⟨hk, hx⟩ := isMark_iff.mp ht
  generalize hts : t :: us = ts at h
  cases h with
  | path h => exact ⟨_, rfl, h⟩
  | literal h => obtain ⟨rfl, -⟩ := List.cons.inj hts; exact absurd hk h.kind.2
  | name h => obtain ⟨rfl, -⟩ := List.cons.inj hts; rw [h.1] at hk; cases hk
  | call h => obtain ⟨rfl, -⟩ := List.cons.inj hts; rw [h.1] at hk; cases hk
  | group ho | array ho | object ho =>
    obtain ⟨rfl, -⟩ := List.cons.inj hts
    rw [(isMark_iff.mp ho).2] at hx
    simp at hx

/-- A statement is read from its tokens, if the end or a separator stands behind it. -/
theorem DerivesStatement.reads {us : List Token} {s : Statement} (h : DerivesStatement us s)
    (stop : Nat) (rest : List Token) (hr : EndsStatement rest) :
    readStatement stop (us ++ rest) = .ok (s, rest) := by
  have hends := hr.ends
  have hne : atMark "=" rest = false := hends.atMark_eq_false "=" (by decide)
  cases h with
  | @assignVariable t eq ts e ht heq h =>
    have hi := h.reads stop (enough (t :: eq :: (ts ++ rest)))
      (by simp [enough]; omega) hends
    simp [readStatement, ht.1, ht.2, atMark_cons, heq, hi, bind, Except.bind, pure, Except.pure]
  | @assignPath eq ps ts names e hp heq h =>
    have heq' := isMark_iff.mp heq
    obtain ⟨dot, qs, rfl, hd, hq⟩ := hp.reads (eq :: (ts ++ rest))
      (by simp [atMark_cons, Token.isMark, heq'.2]) (by simp [heq'.1])
    have hi := h.reads stop (enough (dot :: (qs ++ eq :: (ts ++ rest))))
      (by simp [enough]; omega) hends
    have hk := (isMark_iff.mp hd).1
    simp [readStatement, hk, hd, hq, atMark_cons, heq, hi, bind, Except.bind, pure, Except.pure]
  | expr h =>
    obtain ⟨t, ts, rfl⟩ := List.exists_cons_of_ne_nil h.ne_nil
    have hassign : (t.kind = .identifier && (keyword? t.text).isNone && atMark "=" (ts ++ rest)) =
        false := by
      by_cases hk : t.kind = .identifier
      · rw [h.atMark_tail hk "=" (by decide) hne, Bool.and_false]
      · simp [hk]
    simp only [List.cons_append, readStatement, hassign, Bool.false_eq_true, if_false]
    -- a path is read before it is known whether a value is assigned to it
    by_cases hd : t.isMark "."
    · obtain ⟨names, rfl, hp⟩ := h.path_of_isMark hd
      obtain ⟨dot, qs, hcons, -, hq⟩ :=
        hp.reads rest (hends.atMark_eq_false "." (by decide)) hends.not_identifier
      obtain ⟨rfl, rfl⟩ := List.cons.inj hcons
      simp [hd, hq, hne]
    · have hi := h.reads stop (enough (t :: (ts ++ rest))) (by simp [enough]; omega) hends
      simp only [List.cons_append] at hi
      simp [hd, hi, bind, Except.bind, pure, Except.pure]

/-! ## Programs -/

/-- A statement begins with no separator. -/
theorem DerivesStatement.head {us : List Token} {s : Statement} (h : DerivesStatement us s) :
    ∃ t ts, us = t :: ts ∧ t.isSeparator = false := by
  obtain ⟨t, ts, rfl, hn, hp⟩ : ∃ t ts, us = t :: ts ∧ IsOpener t := by
    cases h with
    | expr h => exact h.opens
    | assignVariable ht =>
      exact ⟨_, _, rfl, isOpener_of_kind (by rw [ht.1]; simp) (by rw [ht.1]; simp)⟩
    | assignPath hp =>
      obtain ⟨t, ts, rfl, ho⟩ := hp.opens
      exact ⟨t, _, rfl, ho⟩
  refine ⟨t, ts, rfl, ?_⟩
  have : t.isMark ";" = false := by
    rw [Bool.eq_false_iff]
    intro h
    obtain ⟨hk, hx⟩ := isMark_iff.mp h
    exact absurd (hp hk) (by rw [hx]; decide)
  simp [Token.isSeparator, hn, this]

theorem dropWhile_separators {seps us : List Token} {s : Statement} (hs : AreSeparators seps)
    (h : DerivesStatement us s) (rest : List Token) :
    (seps ++ (us ++ rest)).dropWhile Token.isSeparator = us ++ rest := by
  obtain ⟨t, ts, rfl, ht⟩ := h.head
  rw [List.dropWhile_append_of_pos hs]
  simp [ht]

/-- A program is read from all its tokens. The induction is on the derivation. -/
theorem DerivesProgram.reads {ts : List Token} {p : Program} (h : DerivesProgram ts p) (stop : Nat)
    (fuel : Nat) (hf : ts.length < fuel) : readStatements stop fuel ts = .ok p := by
  induction h generalizing fuel with
  | @nil seps hs =>
    obtain ⟨fuel, rfl⟩ : ∃ f, fuel = f + 1 := ⟨fuel - 1, by omega⟩
    have hd : seps.dropWhile Token.isSeparator = [] := by
      have h : (seps ++ []).dropWhile Token.isSeparator = [] := List.dropWhile_append_of_pos hs
      simpa using h
    simp [readStatements, hd]
  | @last seps ts s hs h =>
    obtain ⟨fuel, rfl⟩ : ∃ f, fuel = f + 1 := ⟨fuel - 1, by omega⟩
    have hd := dropWhile_separators hs h []
    have hr := h.reads stop [] (by simp [EndsStatement])
    obtain ⟨t, us, rfl, -⟩ := h.head
    simp only [List.append_nil] at hd hr
    simp [readStatements, hd, hr, bind, Except.bind, pure, Except.pure]
  | @more seps ts us t s p hs h ht _ ih =>
    obtain ⟨fuel, rfl⟩ : ∃ f, fuel = f + 1 := ⟨fuel - 1, by omega⟩
    have hd := dropWhile_separators hs h (t :: us)
    have hr := h.reads stop (t :: us) (by simpa [EndsStatement] using ht)
    have hpos := List.length_pos_iff.mpr h.ne_nil
    have hp := ih fuel (by simp at hf ⊢; omega)
    obtain ⟨first, vs, rfl, -⟩ := h.head
    simp only [List.cons_append] at hd hr
    simp [readStatements, hd, hr, ht, hp, bind, Except.bind, pure, Except.pure]

end FunctionManual.Syntax
