import FunctionManual.Proofs.Syntax.Pieces

/-!
# Which tokens are calls

* `calledAt`: the identifiers with an opening parenthesis behind them, an exclamation mark between
  them or not.
* `DerivesProgram.calls_eq`: the calls of a program are just these.
* `Follows`: what cannot stand side by side in a program: a number and an identifier, or an
  exclamation mark and anything but a parenthesis.
* `DerivesProgram.isChain`: nor does it.
-/

namespace FunctionManual.Syntax

/-! ## Called identifiers -/

/-- The identifiers that a parenthesis follows. -/
def calledAt : List Token → List (TokenKind × String × Nat)
  | [] => []
  | t :: ts => if t.kind = .identifier ∧ atCall ts then t.face :: calledAt ts else calledAt ts

theorem calledAt_cons_of_call {t : Token} {ts : List Token} (hk : t.kind = .identifier)
    (h : atCall ts) : calledAt (t :: ts) = t.face :: calledAt ts := by
  rw [calledAt, if_pos ⟨hk, h⟩]

theorem calledAt_cons_of_kind {t : Token} (h : t.kind ≠ .identifier) (ts : List Token) :
    calledAt (t :: ts) = calledAt ts := if_neg fun hc => h hc.1

theorem calledAt_cons_of_not_call {t : Token} {ts : List Token} (h : atCall ts = false) :
    calledAt (t :: ts) = calledAt ts := if_neg fun hc => by rw [h] at hc; cases hc.2

theorem kind_ne_of_isMark {t : Token} {mark : String} (h : t.isMark mark) :
    t.kind ≠ .identifier := by
  rw [(isMark_iff.mp h).1]
  exact nofun

/-- What follows opens no call. -/
def OpensNone (rest : List Token) : Prop := atMark "(" rest = false ∧ atMark "!" rest = false

theorem OpensNone.atCall {rest : List Token} (h : OpensNone rest) : atCall rest = false := by
  rw [Syntax.atCall, h.1, h.2]
  rfl

theorem opensNone_nil : OpensNone [] := ⟨rfl, rfl⟩

theorem opensNone_cons {t : Token} {mark : String} (h : t.isMark mark) (hp : mark ≠ "(")
    (hb : mark ≠ "!") (rest : List Token) : OpensNone (t :: rest) := by
  obtain ⟨hk, ht⟩ := isMark_iff.mp h
  constructor <;> simp [atMark, Token.isMark, hk, ht, hp, hb]

theorem opensNone_of_isSeparator {t : Token} (h : t.isSeparator) (rest : List Token) :
    OpensNone (t :: rest) := by
  simp only [Token.isSeparator, Bool.or_eq_true, decide_eq_true_eq] at h
  rcases h with h | h
  · constructor <;> simp [atMark, Token.isMark, h]
  · exact opensNone_cons h (by decide) (by decide) rest

theorem kind_ne_of_isSeparator {t : Token} (h : t.isSeparator) : t.kind ≠ .identifier := by
  simp only [Token.isSeparator, Bool.or_eq_true, decide_eq_true_eq] at h
  rcases h with h | h
  · rw [h]
    decide
  · exact kind_ne_of_isMark h

theorem DerivesNames.calledAt_append {ts rest : List Token} {names : List String}
    (h : DerivesNames ts names) (hr : OpensNone rest) : calledAt (ts ++ rest) = calledAt rest := by
  induction h with
  | nil => rfl
  | @cons dot name ts names hd hn h ih =>
    have hbehind : OpensNone (ts ++ rest) := by
      cases h with
      | nil => exact hr
      | cons hd' _ _ => exact opensNone_cons hd' (by decide) (by decide) _
    rw [List.cons_append, List.cons_append, calledAt_cons_of_kind (kind_ne_of_isMark hd),
      calledAt_cons_of_not_call hbehind.atCall, ih]

theorem DerivesPath.calledAt_append {ts rest : List Token} {names : List String}
    (h : DerivesPath ts names) (hr : OpensNone rest) : calledAt (ts ++ rest) = calledAt rest := by
  cases h with
  | event hd => exact calledAt_cons_of_kind (kind_ne_of_isMark hd) rest
  | names hd hn _ h => exact (DerivesNames.cons hd hn h).calledAt_append hr

/-- Brackets call nothing, and what they hold meets one that opens no call. -/
theorem calledAt_bracketed {o c : Token} {ts rest : List Token}
    {faces : List (TokenKind × String × Nat)} {mark : String} (ho : o.kind ≠ .identifier)
    (hc : c.isMark mark) (hp : mark ≠ "(") (hb : mark ≠ "!")
    (h : ∀ rest, OpensNone rest → calledAt (ts ++ rest) = faces ++ calledAt rest) :
    calledAt (o :: ts ++ [c] ++ rest) = faces ++ calledAt rest := by
  rw [List.append_assoc, List.cons_append, calledAt_cons_of_kind ho, List.singleton_append,
    h _ (opensNone_cons hc hp hb _), calledAt_cons_of_kind (kind_ne_of_isMark hc)]

/-- An identifier before a parenthesis is called, and so it is with an exclamation mark between. -/
theorem calledAt_call {n o : Token} {bang : Option Token} (hn : n.kind = .identifier)
    (hb : ∀ b ∈ bang, b.isMark "!") (ho : o.isMark "(") (ts : List Token) :
    calledAt (n :: (bang.toList ++ o :: ts)) = n.face :: calledAt (o :: ts) := by
  have hopen : atMark "(" (o :: ts) = true := ho
  cases bang with
  | none =>
    have hcall : atCall (o :: ts) = true := by rw [atCall, hopen]; rfl
    exact calledAt_cons_of_call hn hcall
  | some b =>
    have hbang : b.isMark "!" := hb b rfl
    have hcall : atCall (b :: o :: ts) = true := by
      have hmark : atMark "!" (b :: o :: ts) = true := hbang
      rw [atCall, hmark, List.drop_one, List.tail_cons, hopen, Bool.and_self, Bool.or_true]
    calc calledAt (n :: b :: o :: ts) = n.face :: calledAt (b :: o :: ts) :=
          calledAt_cons_of_call hn hcall
      _ = n.face :: calledAt (o :: ts) :=
          congrArg _ (calledAt_cons_of_kind (kind_ne_of_isMark hbang) _)

/-- The calls of a phrase are the identifiers that are called in its tokens. The cases are the rules
of the grammar; what follows a phrase opens no call, so that its last token is not called. -/
theorem Derives.calledAt_append {ts : List Token} {φ : Phrase} (h : Derives ts φ) :
    ∀ rest, OpensNone rest → calledAt (ts ++ rest) = φ.calls.map Call.face ++ calledAt rest := by
  have more {φ ψ χ : Phrase} {c : Token} {ts us rest : List Token} (hc : c.isMark ",")
      (htrees : φ.trees = ψ.trees ++ χ.trees)
      (ih : ∀ rest, OpensNone rest → calledAt (ts ++ rest) = ψ.calls.map Call.face ++ calledAt rest)
      (ihs : calledAt (us ++ rest) = χ.calls.map Call.face ++ calledAt rest) :
      calledAt (ts ++ c :: us ++ rest) = φ.calls.map Call.face ++ calledAt rest := by
    rw [Phrase.calls_of_trees htrees, List.map_append, List.append_assoc, List.cons_append,
      ih _ (opensNone_cons hc (by decide) (by decide) _),
      calledAt_cons_of_kind (kind_ne_of_isMark hc), ihs, List.append_assoc]
  induction h with
  | literal _ | name _ => exact fun rest hr => calledAt_cons_of_not_call hr.atCall
  | path h => exact fun rest hr => h.calledAt_append hr
  | noItems | noEntries | noArguments => exact fun rest _ => rfl
  | group ho _ hc ih =>
    exact fun rest _ => calledAt_bracketed (kind_ne_of_isMark ho) hc (by decide) (by decide) ih
  | array ho _ hc ih =>
    intro rest _
    rw [Phrase.calls_expr, Expr.calls, callsOfItems_eq]
    exact calledAt_bracketed (kind_ne_of_isMark ho) hc (by decide) (by decide) ih
  | object ho _ hc ih =>
    intro rest _
    rw [Phrase.calls_expr, Expr.calls, callsOfEntries_eq]
    exact calledAt_bracketed (kind_ne_of_isMark ho) hc (by decide) (by decide) ih
  | @call n o c bang ts as hn hb ho _ hc ih =>
    intro rest _
    have hface : n.face = Call.face ⟨n.text, as, bang.isSome, ⟨n.span.start, c.span.stop⟩⟩ := by
      rw [Token.face, hn.1]
      rfl
    have hshape : n :: (bang.toList ++ (o :: ts ++ [c])) ++ rest =
        n :: (bang.toList ++ (o :: (ts ++ [c] ++ rest))) := by simp
    have inner : calledAt (o :: (ts ++ [c] ++ rest)) = _ :=
      calledAt_bracketed (kind_ne_of_isMark ho) hc (by decide) (by decide) ih
    rw [hshape, calledAt_call hn.1 hb ho, inner, Phrase.calls_expr, Expr.calls,
      callsOfArguments_eq, List.map_cons, hface]
    rfl
  | lastItem _ ih | lastEntry _ ih | positional _ ih | lastArgument _ ih => exact ih
  | entry hk hc _ ih =>
    intro rest hr
    rw [List.cons_append, List.cons_append, calledAt_cons_of_kind,
      calledAt_cons_of_kind (kind_ne_of_isMark hc)]
    · exact ih rest hr
    · rcases hk with hk | hk <;> rw [hk] <;> decide
  | named _ hc _ ih =>
    intro rest hr
    rw [List.cons_append, List.cons_append,
      calledAt_cons_of_not_call (opensNone_cons hc (by decide) (by decide) _).atCall,
      calledAt_cons_of_kind (kind_ne_of_isMark hc)]
    exact ih rest hr
  | moreItems _ hc _ ih ihs | moreEntries _ hc _ ih ihs | moreArguments _ hc _ ih ihs =>
    exact fun rest hr => more hc rfl ih (ihs rest hr)

theorem DerivesStatement.calledAt_append {ts rest : List Token} {s : Statement}
    (h : DerivesStatement ts s) (hr : OpensNone rest) :
    calledAt (ts ++ rest) = s.calls.map Call.face ++ calledAt rest := by
  have value {us : List Token} {e : Expr} (h : Derives us (.expr e)) :
      calledAt (us ++ rest) = e.calls.map Call.face ++ calledAt rest :=
    Phrase.calls_expr e ▸ h.calledAt_append rest hr
  cases h with
  | expr h => exact value h
  | assignVariable _ heq h =>
    rw [List.cons_append, List.cons_append,
      calledAt_cons_of_not_call (opensNone_cons heq (by decide) (by decide) _).atCall,
      calledAt_cons_of_kind (kind_ne_of_isMark heq)]
    exact value h
  | assignPath hp heq h =>
    rw [List.append_assoc, List.cons_append,
      hp.calledAt_append (opensNone_cons heq (by decide) (by decide) _),
      calledAt_cons_of_kind (kind_ne_of_isMark heq)]
    exact value h

theorem calledAt_separators {seps : List Token} (h : AreSeparators seps) (rest : List Token) :
    calledAt (seps ++ rest) = calledAt rest := by
  induction seps with
  | nil => rfl
  | cons t seps ih =>
    obtain ⟨ht, hs⟩ := List.forall_mem_cons.mp h
    rw [List.cons_append, calledAt_cons_of_kind (kind_ne_of_isSeparator ht), ih hs]

/-- The calls of a program are the identifiers that are called. -/
theorem DerivesProgram.calls_eq {ts : List Token} {p : Program} (h : DerivesProgram ts p) :
    p.calls.map Call.face = calledAt ts := by
  induction h with
  | nil hs =>
    have := calledAt_separators hs []
    rw [List.append_nil] at this
    exact this.symm
  | last hs h =>
    have := h.calledAt_append opensNone_nil
    rw [List.append_nil] at this
    rw [calledAt_separators hs, this, Program.calls, List.flatMap_singleton]
    exact (List.append_nil _).symm
  | more hs h ht _ ih =>
    rw [calledAt_separators hs, h.calledAt_append (opensNone_of_isSeparator ht _), ← ih,
      Program.calls, List.flatMap_cons, List.map_append]
    rfl

/-- An identifier is called just where a call begins. -/
theorem mem_calledAt_iff {ts : List Token} {face : TokenKind × String × Nat} :
    face ∈ calledAt ts ↔ ∃ before t after, ts = before ++ t :: after ∧ t.kind = .identifier ∧
      atCall after ∧ t.face = face := by
  induction ts with
  | nil => simp [calledAt]
  | cons t ts ih =>
    constructor
    · intro h
      rw [calledAt] at h
      split at h
      next hc =>
        rcases List.mem_cons.mp h with rfl | h
        · exact ⟨[], t, ts, rfl, hc.1, hc.2, rfl⟩
        · obtain ⟨before, u, after, rfl, hu⟩ := ih.mp h
          exact ⟨t :: before, u, after, rfl, hu⟩
      next =>
        obtain ⟨before, u, after, rfl, hu⟩ := ih.mp h
        exact ⟨t :: before, u, after, rfl, hu⟩
    · rintro ⟨before, u, after, he, hk, hcall, hface⟩
      cases before with
      | nil =>
        obtain ⟨rfl, rfl⟩ := List.cons.inj he
        rw [calledAt_cons_of_call hk hcall, hface]
        exact List.mem_cons_self
      | cons v before =>
        obtain ⟨rfl, rfl⟩ := List.cons.inj he
        have := ih.mpr ⟨before, u, after, rfl, hk, hcall, hface⟩
        rw [calledAt]
        split
        · exact List.mem_cons_of_mem _ this
        · exact this

/-! ## Neighbours -/

/-- Two tokens that may stand side by side in a program. -/
def Follows (t u : Token) : Prop :=
  (IsNumeric t.kind → u.kind ≠ .identifier) ∧ (t.isMark "!" → u.isMark "(")

/-- A token that may stand before every other. -/
def IsFree (t : Token) : Prop := ¬ IsNumeric t.kind ∧ t.isMark "!" = false

theorem IsFree.isChain_cons {t : Token} {ts : List Token} (ht : IsFree t)
    (h : ts.IsChain Follows) : (t :: ts).IsChain Follows := by
  refine List.isChain_cons.mpr ⟨fun u _ => ⟨fun hk => absurd hk ht.1, fun hm => ?_⟩, h⟩
  rw [ht.2] at hm
  cases hm

theorem isFree_of_isMark {t : Token} {mark : String} (h : t.isMark mark) (hb : mark ≠ "!") :
    IsFree t := by
  obtain ⟨hk, ht⟩ := isMark_iff.mp h
  constructor <;> simp [IsNumeric, Token.isMark, hk, ht, hb]

theorem isFree_of_kind {t : Token} (h : t.kind ∈ [.identifier, .string, .rawString, .newline]) :
    IsFree t := by
  constructor <;> rcases t with ⟨_ | _ | _ | _ | _ | _ | _ | _ | _, _, _⟩ <;>
    simp [IsNumeric, Token.isMark] at h ⊢

theorem isFree_of_identifier {t : Token} (h : t.kind = .identifier) : IsFree t :=
  isFree_of_kind (by simp [h])

theorem isFree_of_isSeparator {t : Token} (h : t.isSeparator) : IsFree t := by
  simp only [Token.isSeparator, Bool.or_eq_true, decide_eq_true_eq] at h
  rcases h with h | h
  · exact isFree_of_kind (by simp [h])
  · exact isFree_of_isMark h (by decide)

theorem Literal.isMark_eq_false {t : Token} {v : Scalar} (h : Literal t v) (mark : String) :
    t.isMark mark = false := by
  cases h with
  | string hk => rcases hk with hk | hk <;> simp [Token.isMark, hk]
  | regex hk | integer hk | float hk | keyword hk => simp [Token.isMark, hk]

/-- What may stand behind a phrase: no identifier, and then what may follow. -/
structure IsSequel (rest : List Token) : Prop where
  head : ∀ u ∈ rest.head?, u.kind ≠ .identifier
  isChain : rest.IsChain Follows

theorem IsSequel.cons {t : Token} {ts : List Token} {mark : String} (h : t.isMark mark)
    (hb : mark ≠ "!") (hs : ts.IsChain Follows) : IsSequel (t :: ts) where
  head _ hu := Option.some.inj hu ▸ kind_ne_of_isMark h
  isChain := (isFree_of_isMark h hb).isChain_cons hs

theorem isSequel_nil : IsSequel [] := ⟨nofun, .nil⟩

theorem DerivesNames.isChain_append {ts rest : List Token} {names : List String}
    (h : DerivesNames ts names) (hr : rest.IsChain Follows) : (ts ++ rest).IsChain Follows := by
  induction h with
  | nil => exact hr
  | cons hd hn _ ih =>
    have hname := (isFree_of_identifier hn).isChain_cons ih
    exact (isFree_of_isMark hd (by decide)).isChain_cons hname

theorem DerivesPath.isChain_append {ts rest : List Token} {names : List String}
    (h : DerivesPath ts names) (hr : rest.IsChain Follows) : (ts ++ rest).IsChain Follows := by
  cases h with
  | event hd => exact (isFree_of_isMark hd (by decide)).isChain_cons hr
  | names hd hn _ h => exact (DerivesNames.cons hd hn h).isChain_append hr

/-- Neighbours in a phrase, and where it meets what follows. The cases are the rules of the grammar. -/
theorem Derives.isChain_append {ts : List Token} {φ : Phrase} (h : Derives ts φ) :
    ∀ rest, IsSequel rest → (ts ++ rest).IsChain Follows := by
  have bracketed {o c : Token} {ts rest : List Token} {opening closing : String}
      (ho : o.isMark opening) (hc : c.isMark closing) (hob : opening ≠ "!") (hcb : closing ≠ "!")
      (ih : ∀ rest, IsSequel rest → (ts ++ rest).IsChain Follows) (hr : IsSequel rest) :
      (o :: ts ++ [c] ++ rest).IsChain Follows := by
    have inner := ih (c :: rest) (.cons hc hcb hr.isChain)
    rw [List.append_assoc]
    exact (isFree_of_isMark ho hob).isChain_cons inner
  have more {c : Token} {ts us rest : List Token} (hc : c.isMark ",")
      (ih : ∀ rest, IsSequel rest → (ts ++ rest).IsChain Follows)
      (ihs : (us ++ rest).IsChain Follows) : (ts ++ c :: us ++ rest).IsChain Follows := by
    rw [List.append_assoc]
    exact ih _ (.cons hc (by decide) ihs)
  induction h with
  | literal h =>
    refine fun rest hr => List.isChain_cons.mpr ⟨fun u hu => ⟨fun _ => hr.head u hu, fun hm => ?_⟩,
      hr.isChain⟩
    rw [h.isMark_eq_false] at hm
    cases hm
  | name h => exact fun rest hr => (isFree_of_identifier h.1).isChain_cons hr.isChain
  | path h => exact fun rest hr => h.isChain_append hr.isChain
  | noItems | noEntries | noArguments => exact fun rest hr => hr.isChain
  | group ho _ hc ih | array ho _ hc ih | object ho _ hc ih =>
    exact fun rest hr => bracketed ho hc (by decide) (by decide) ih hr
  | @call n o c bang ts as hn hb ho _ hc ih =>
    intro rest hr
    have inner := bracketed ho hc (by decide) (by decide) ih hr
    refine (isFree_of_identifier hn.1).isChain_cons ?_
    cases bang with
    | none => exact inner
    | some b =>
      refine List.isChain_cons.mpr ⟨fun u hu => ?_, inner⟩
      obtain rfl := Option.some.inj hu
      refine ⟨fun hk => ?_, fun _ => ho⟩
      rw [(isMark_iff.mp (hb b rfl)).1] at hk
      exact absurd hk (by simp [IsNumeric])
  | lastItem _ ih | lastEntry _ ih | positional _ ih | lastArgument _ ih => exact ih
  | entry hk hc _ ih =>
    intro rest hr
    have hbehind := (isFree_of_isMark hc (by decide)).isChain_cons (ih rest hr)
    exact (isFree_of_kind (by rcases hk with hk | hk <;> simp [hk])).isChain_cons hbehind
  | named hn hc _ ih =>
    intro rest hr
    have hbehind := (isFree_of_isMark hc (by decide)).isChain_cons (ih rest hr)
    exact (isFree_of_identifier hn).isChain_cons hbehind
  | moreItems _ hc _ ih ihs | moreEntries _ hc _ ih ihs | moreArguments _ hc _ ih ihs =>
    exact fun rest hr => more hc ih (ihs rest hr)

theorem DerivesStatement.isChain_append {ts rest : List Token} {s : Statement}
    (h : DerivesStatement ts s) (hr : IsSequel rest) : (ts ++ rest).IsChain Follows := by
  cases h with
  | expr h => exact h.isChain_append rest hr
  | assignVariable ht heq h =>
    have hbehind := (isFree_of_isMark heq (by decide)).isChain_cons (h.isChain_append rest hr)
    exact (isFree_of_identifier ht.1).isChain_cons hbehind
  | assignPath hp heq h =>
    rw [List.append_assoc]
    have hbehind := (isFree_of_isMark heq (by decide)).isChain_cons (h.isChain_append rest hr)
    exact hp.isChain_append hbehind

theorem isChain_separators {seps rest : List Token} (h : AreSeparators seps)
    (hr : rest.IsChain Follows) : (seps ++ rest).IsChain Follows := by
  induction seps with
  | nil => exact hr
  | cons t seps ih =>
    obtain ⟨ht, hs⟩ := List.forall_mem_cons.mp h
    exact (isFree_of_isSeparator ht).isChain_cons (ih hs)

/-- Neighbours in a program may stand side by side. -/
theorem DerivesProgram.isChain {ts : List Token} {p : Program} (h : DerivesProgram ts p) :
    ts.IsChain Follows := by
  induction h with
  | nil hs =>
    have := isChain_separators hs .nil
    rwa [List.append_nil] at this
  | last hs h =>
    have := h.isChain_append isSequel_nil
    rw [List.append_nil] at this
    exact isChain_separators hs this
  | more hs h ht _ ih =>
    have hsequel : IsSequel (_ :: _) :=
      ⟨fun u hu => Option.some.inj hu ▸ kind_ne_of_isSeparator ht, ih⟩
    exact isChain_separators hs (h.isChain_append hsequel)

end FunctionManual.Syntax
