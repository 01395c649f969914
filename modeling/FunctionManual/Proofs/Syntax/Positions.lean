import FunctionManual.Proofs.Syntax.Literals

/-!
# Where the calls of a program stand

* `scan_inOrder`: tokens do not overlap, and stand in the order of the text.
* `Derives.calls_sublist`: the calls of a tree, the outer before the inner, stand at the identifiers
  that name them, in the order of the tokens.
* `parse_derives`: the program of a text is derived by its tokens.
* `parse_calls_inOrder`, `parse_calls_named`: so each call of a program begins behind the one before
  it, and its name is a word.
-/

namespace FunctionManual

/-- What a token says of itself where it begins. -/
def Token.face (t : Token) : TokenKind × String × Nat := (t.kind, t.text, t.span.start)

/-- What the name of a call says of itself where it begins. -/
def Call.face (c : Call) : TokenKind × String × Nat := (.identifier, c.name, c.span.start)

namespace Syntax

open FunctionManual.Text

/-! ## Tokens -/

/-- Tokens of a character at least, none of which begins before an earlier one ends. -/
structure InOrder (ts : List Token) : Prop where
  taken : ∀ t ∈ ts, t.span.start < t.span.stop
  apart : ts.Pairwise fun t u => t.span.stop ≤ u.span.start

theorem InOrder.pairwise_start {ts : List Token} (h : InOrder ts) :
    ts.Pairwise fun t u => t.span.start < u.span.start :=
  h.apart.imp_of_mem fun ht _ hle => Nat.lt_of_lt_of_le (h.taken _ ht) hle

/-- The tokens that are scanned from `pos` on are in order, and none begins before. -/
theorem scanFrom_inOrder {depth pos : Nat} {s : List Char} {ts : List Token}
    (h : scanFrom depth pos s = .ok ts) : InOrder ts ∧ ∀ t ∈ ts, pos ≤ t.span.start := by
  induction depth, pos, s using scanFrom.induct generalizing ts with
  | case1 =>
    rw [scanFrom] at h
    cases h
    exact ⟨⟨by simp, .nil⟩, by simp⟩
  | case2 depth pos c rest ih =>
    obtain ⟨next, tokens, -, hr, rfl⟩ := scanFrom_eq_ok h
    obtain ⟨⟨taken, apart⟩, hfrom⟩ := ih next hr
    have hlater : ∀ u ∈ tokens, pos ≤ u.span.start := fun u hu => by
      have := hfrom u hu
      omega
    unfold Step.tokens
    cases next.token with
    | none => exact ⟨⟨taken, apart⟩, hlater⟩
    | some x =>
      refine ⟨⟨List.forall_mem_cons.mpr ⟨?_, taken⟩, List.pairwise_cons.mpr ⟨hfrom, apart⟩⟩,
        List.forall_mem_cons.mpr ⟨Nat.le_refl pos, hlater⟩⟩
      show pos < pos + 1 + next.more
      omega

theorem scan_inOrder {source : String} {ts : List Token} (h : scan source = .ok ts) : InOrder ts :=
  (scanFrom_inOrder h).1

/-- Letters, digits and underscores. -/
def IsWord (text : String) : Prop := ∀ c ∈ text.toList, isIdentifierStart c ∨ isIdentifierPart c

theorem IsWord.quote_not_mem {text : String} (h : IsWord text) : '"' ∉ text.toList :=
  fun hm => absurd (h _ hm) (by decide +kernel)

theorem step_isWord {depth pos : Nat} {c : Char} {rest : List Char} {next : Step}
    (h : step depth pos c rest = .ok next) {kind : TokenKind} {text : String}
    (hk : next.token = some (kind, text)) : kind = .identifier → IsWord text := by
  intro hi
  obtain ⟨-, rfl, -⟩ | ⟨hc, -, rfl⟩ | ⟨-, -, hn⟩ := step_token h hk
  · split at hi <;> cases hi
  · intro d hd
    rw [String.toList_ofList] at hd
    obtain rfl | hd := List.mem_cons.mp hd
    · exact .inl hc
    · exact .inr (List.all_eq_true.mp List.all_takeWhile _ hd)
  · exact absurd hi hn

theorem scan_words {source : String} {ts : List Token} (h : scan source = .ok ts) :
    ∀ t ∈ ts, t.kind = .identifier → IsWord t.text :=
  scanFrom_forall (P := fun kind text => kind = .identifier → IsWord text)
    (fun _ _ _ _ _ hs _ _ => step_isWord hs) h

/-! ## Calls -/

/-- The calls of a phrase, the outer before the inner. -/
def Phrase.calls (φ : Phrase) : List Call := φ.trees.flatMap Expr.calls

theorem Phrase.calls_expr (e : Expr) : (Phrase.expr e).calls = e.calls := List.append_nil _

/-- The first of several phrases has its calls in front. -/
theorem Phrase.calls_of_trees {φ ψ χ : Phrase} (h : φ.trees = ψ.trees ++ χ.trees) :
    φ.calls = ψ.calls ++ χ.calls := by
  rw [calls, h, List.flatMap_append, calls, calls]

/-- The calls of a phrase begin at the identifiers that name them, in the order of the tokens. The
cases are the rules of the grammar: brackets, commas and names of arguments stand between the
parts, and only the rule for calls takes a token for a call. -/
theorem Derives.calls_sublist {ts : List Token} {φ : Phrase} (h : Derives ts φ) :
    (φ.calls.map Call.face).Sublist (ts.map Token.face) := by
  have bracketed (o c : Token) (ts : List Token) :
      (ts.map Token.face).Sublist ((o :: ts ++ [c]).map Token.face) :=
    ((List.sublist_append_left ts [c]).cons o).map Token.face
  have more {φ ψ χ : Phrase} {ts us : List Token} (c : Token)
      (htrees : φ.trees = ψ.trees ++ χ.trees)
      (h : (ψ.calls.map Call.face).Sublist (ts.map Token.face))
      (hs : (χ.calls.map Call.face).Sublist (us.map Token.face)) :
      (φ.calls.map Call.face).Sublist ((ts ++ c :: us).map Token.face) := by
    rw [Phrase.calls_of_trees htrees, List.map_append, List.map_append, List.map_cons]
    exact h.append (hs.cons _)
  induction h with
  | literal _ | name _ | path _ | noItems | noEntries | noArguments => exact List.nil_sublist _
  | group _ _ _ ih => exact ih.trans (bracketed _ _ _)
  | array _ _ _ ih =>
    rw [Phrase.calls_expr, Expr.calls, callsOfItems_eq]
    exact ih.trans (bracketed _ _ _)
  | object _ _ _ ih =>
    rw [Phrase.calls_expr, Expr.calls, callsOfEntries_eq]
    exact ih.trans (bracketed _ _ _)
  | @call n o c bang ts as hn _ _ _ _ ih =>
    rw [Phrase.calls_expr, Expr.calls, callsOfArguments_eq, List.map_cons, List.map_cons]
    have hface : n.face = (.identifier, n.text, n.span.start) := by rw [Token.face, hn.1]
    rw [hface]
    refine List.Sublist.cons_cons _ ?_
    rw [List.map_append]
    exact (ih.trans (bracketed o c ts)).trans (List.sublist_append_right _ _)
  | lastItem _ ih | lastEntry _ ih | positional _ ih | lastArgument _ ih => exact ih
  | entry _ _ _ ih | named _ _ _ ih => exact (ih.cons _).cons _
  | moreItems _ _ _ ih ihs | moreEntries _ _ _ ih ihs | moreArguments _ _ _ ih ihs =>
    exact more _ rfl ih ihs

theorem DerivesStatement.calls_sublist {ts : List Token} {s : Statement}
    (h : DerivesStatement ts s) : (s.calls.map Call.face).Sublist (ts.map Token.face) := by
  have value {us : List Token} {e : Expr} (h : Derives us (.expr e)) :
      (e.calls.map Call.face).Sublist (us.map Token.face) := Phrase.calls_expr e ▸ h.calls_sublist
  cases h with
  | expr h => exact value h
  | assignVariable _ _ h => exact ((value h).cons _).cons _
  | assignPath _ _ h =>
    rw [List.map_append]
    exact ((value h).cons _).trans (List.sublist_append_right _ _)

theorem DerivesProgram.calls_sublist {ts : List Token} {p : Program} (h : DerivesProgram ts p) :
    (p.calls.map Call.face).Sublist (ts.map Token.face) := by
  induction h with
  | nil _ => exact List.nil_sublist _
  | last _ h =>
    rw [Program.calls, List.flatMap_singleton, List.map_append]
    exact h.calls_sublist.trans (List.sublist_append_right _ _)
  | more _ h _ _ ih =>
    rw [Program.calls, List.flatMap_cons, List.map_append, List.map_append, List.map_append]
    exact (h.calls_sublist.append ih).trans (List.sublist_append_right _ _)

/-! ## Programs -/

/-- The program of a text is derived by its tokens. -/
theorem parse_derives {source : String} {p : Program} (h : parse source = .ok p) :
    ∃ ts, scan source = .ok ts ∧ DerivesProgram ts p := by
  unfold parse at h
  split at h
  next => cases h
  next ts hs =>
    have hr := readStatements_readsProgram source.length _ ts (Nat.lt_succ_self _)
      (hasFloats_of_scan hs)
    rw [h] at hr
    exact ⟨ts, hs, hr⟩

/-- Each call of a program begins behind the one before it. -/
theorem parse_calls_inOrder {source : String} {p : Program} (h : parse source = .ok p) :
    p.calls.Pairwise fun c d => c.span.start < d.span.start := by
  obtain ⟨ts, hs, hd⟩ := parse_derives h
  have hts : (ts.map Token.face).Pairwise fun x y => x.2.2 < y.2.2 :=
    List.pairwise_map.mpr (scan_inOrder hs).pairwise_start
  have hcalls := hts.sublist hd.calls_sublist
  rw [List.pairwise_map] at hcalls
  exact hcalls

/-- The name of a call is a word. -/
theorem parse_calls_named {source : String} {p : Program} (h : parse source = .ok p) :
    ∀ c ∈ p.calls, IsWord c.name := by
  obtain ⟨ts, hs, hd⟩ := parse_derives h
  intro c hc
  obtain ⟨t, ht, hface⟩ := List.mem_map.mp (hd.calls_sublist.subset (List.mem_map_of_mem hc))
  rw [Token.face, Call.face, Prod.mk.injEq, Prod.mk.injEq] at hface
  exact hface.2.1 ▸ scan_words hs t ht hface.1

end Syntax

end FunctionManual
