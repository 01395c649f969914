import FunctionManual.Proofs.Syntax.Covering

/-!
# Spans of calls

* `Span.Encloses`: a span that begins before another one and ends behind it.
* `Call.inner`: the calls inside the arguments of a call.
* `Laid`: calls that stand at tokens, each around its inner calls and apart from all other calls.
* `Derives.laid`: so do the calls of a phrase, whose tokens are in order.
* `parse_calls_nested`: the span of a call of a program begins with its name, ends with a closing
  parenthesis, and is around the spans of its inner calls and of no others.
-/

namespace FunctionManual

/-- A span that begins before another one and ends behind it. -/
def Span.Encloses (s t : Span) : Prop := s.start < t.start ∧ t.stop < s.stop

/-- The calls inside the arguments of a call. -/
def Call.inner (c : Call) : List Call := callsOfArguments c.arguments

namespace Syntax

/-! ## Calls at tokens -/

/-- A call from the identifier that names it up to its closing parenthesis. -/
structure StandsAt (ts : List Token) (c : Call) : Prop where
  nonempty : c.span.start < c.span.stop
  named : c.face ∈ ts.map Token.face
  closed : ∃ t ∈ ts, t.isMark ")" ∧ t.span.stop = c.span.stop

/-- Calls at tokens, in order: of two calls the earlier is around the later, which is then one of
its inner calls, or ends before it. -/
structure Laid (ts : List Token) (cs : List Call) : Prop where
  stands : ∀ c ∈ cs, StandsAt ts c
  around : ∀ c ∈ cs, ∀ d ∈ c.inner, c.span.Encloses d.span
  apart : cs.Pairwise fun c d =>
    (c.span.Encloses d.span ∧ d ∈ c.inner) ∨ c.span.stop ≤ d.span.start

section Laid

variable {ts us : List Token} {cs ds : List Call}

theorem InOrder.sublist (h : InOrder us) (hs : ts.Sublist us) : InOrder ts :=
  ⟨fun t ht => h.taken t (hs.subset ht), h.apart.sublist hs⟩

theorem StandsAt.mono {c : Call} (h : StandsAt ts c) (hs : ts ⊆ us) : StandsAt us c := by
  obtain ⟨hne, hnamed, t, ht, hclosed⟩ := h
  exact ⟨hne, List.map_subset _ hs hnamed, t, hs ht, hclosed⟩

/-- A call begins with one of the tokens and ends with one of them. -/
theorem StandsAt.exists_tokens {c : Call} (h : StandsAt ts c) :
    (∃ t ∈ ts, t.span.start = c.span.start) ∧ ∃ t ∈ ts, t.span.stop = c.span.stop := by
  obtain ⟨t, ht, hface⟩ := List.mem_map.mp h.named
  obtain ⟨u, hu, -, hstop⟩ := h.closed
  exact ⟨⟨t, ht, congrArg (·.2.2) hface⟩, u, hu, hstop⟩

theorem Laid.nil (ts : List Token) : Laid ts [] := ⟨nofun, nofun, .nil⟩

theorem Laid.mono (h : Laid ts cs) (hs : ts ⊆ us) : Laid us cs :=
  ⟨fun c hc => (h.stands c hc).mono hs, h.around, h.apart⟩

/-- The calls of tokens, and those of tokens behind them. -/
theorem Laid.append (h : Laid ts cs) (hs : Laid us ds) (ho : InOrder (ts ++ us)) :
    Laid (ts ++ us) (cs ++ ds) := by
  refine ⟨List.forall_mem_append.mpr ⟨fun c hc => ?_, fun d hd => ?_⟩,
    List.forall_mem_append.mpr ⟨h.around, hs.around⟩,
    List.pairwise_append.mpr ⟨h.apart, hs.apart, fun c hc d hd => .inr ?_⟩⟩
  · exact (h.stands c hc).mono (List.subset_append_left ts us)
  · exact (hs.stands d hd).mono (List.subset_append_right ts us)
  · obtain ⟨-, t, ht, htc⟩ := (h.stands c hc).exists_tokens
    obtain ⟨⟨u, hu, hud⟩, -⟩ := (hs.stands d hd).exists_tokens
    have := (List.pairwise_append.mp ho.apart).2.2 t ht u hu
    omega

/-- A call around the calls of the tokens between its name and its closing parenthesis. -/
theorem Laid.call {n k : Token} {c : Call} (h : Laid ts c.inner) (ho : InOrder (n :: (ts ++ [k])))
    (hn : n.face = c.face) (hk : k.isMark ")") (hstop : k.span.stop = c.span.stop) :
    Laid (n :: (ts ++ [k])) (c :: c.inner) := by
  have hstart : n.span.start = c.span.start := congrArg (·.2.2) hn
  have hkmem : k ∈ ts ++ [k] := List.mem_append_right ts (List.mem_singleton_self k)
  have hntaken := ho.taken n List.mem_cons_self
  have hktaken := ho.taken k (List.mem_cons_of_mem n hkmem)
  obtain ⟨hbefore, ho'⟩ := List.pairwise_cons.mp ho.apart
  have hsub : ts ⊆ n :: (ts ++ [k]) := fun t ht =>
    List.mem_cons_of_mem n (List.mem_append_left [k] ht)
  have haround : ∀ d ∈ c.inner, c.span.Encloses d.span := fun d hd => by
    obtain ⟨⟨t, ht, htd⟩, u, hu, hud⟩ := (h.stands d hd).exists_tokens
    have := hbefore t (List.mem_append_left [k] ht)
    have := (List.pairwise_append.mp ho').2.2 u hu k (List.mem_singleton_self k)
    exact ⟨by omega, by omega⟩
  refine ⟨List.forall_mem_cons.mpr ⟨⟨?_, ?_, k, List.mem_cons_of_mem n hkmem, hk, hstop⟩,
      fun d hd => (h.stands d hd).mono hsub⟩, List.forall_mem_cons.mpr ⟨haround, h.around⟩,
    List.pairwise_cons.mpr ⟨fun d hd => .inl ⟨haround d hd, hd⟩, h.apart⟩⟩
  · have := hbefore k hkmem
    omega
  · exact hn ▸ List.mem_cons_self

end Laid

/-- The calls of a phrase are laid over its tokens. The cases are the rules of the grammar:
brackets, commas and names of arguments stand between the parts, and only the rule for calls adds
a call. -/
theorem Derives.laid {ts : List Token} {φ : Phrase} (h : Derives ts φ) (ho : InOrder ts) :
    Laid ts φ.calls := by
  have bracketed {o c : Token} {ts : List Token} {cs : List Call}
      (ih : InOrder ts → Laid ts cs) (ho : InOrder (o :: ts ++ [c])) :
      Laid (o :: ts ++ [c]) cs := by
    have hs : ts.Sublist (o :: ts ++ [c]) := (List.sublist_append_left ts [c]).cons o
    exact (ih (ho.sublist hs)).mono hs.subset
  have labelled {n colon : Token} {ts : List Token} {cs : List Call}
      (ih : InOrder ts → Laid ts cs) (ho : InOrder (n :: colon :: ts)) :
      Laid (n :: colon :: ts) cs := by
    have hs : ts.Sublist (n :: colon :: ts) := (List.sublist_cons_self colon ts).cons n
    exact (ih (ho.sublist hs)).mono hs.subset
  have more {c : Token} {ts us : List Token} {φ ψ χ : Phrase}
      (htrees : φ.trees = ψ.trees ++ χ.trees) (ih : InOrder ts → Laid ts ψ.calls)
      (ihs : InOrder us → Laid us χ.calls) (ho : InOrder (ts ++ c :: us)) :
      Laid (ts ++ c :: us) φ.calls := by
    rw [Phrase.calls_of_trees htrees]
    have hus : us.Sublist (c :: us) := List.sublist_cons_self c us
    have hlaid := ihs (ho.sublist (hus.trans (List.sublist_append_right ts _)))
    exact (ih (ho.sublist (List.sublist_append_left ts _))).append (hlaid.mono hus.subset) ho
  induction h with
  | literal _ | name _ | path _ | noItems | noEntries | noArguments => exact .nil _
  | group _ _ _ ih => exact bracketed ih ho
  | array _ _ _ ih =>
    rw [Phrase.calls_expr, Expr.calls, callsOfItems_eq]
    exact bracketed ih ho
  | object _ _ _ ih =>
    rw [Phrase.calls_expr, Expr.calls, callsOfEntries_eq]
    exact bracketed ih ho
  | @call n o c bang ts as hn _ _ _ hc ih =>
    have hsplit : n :: (bang.toList ++ (o :: ts ++ [c])) =
        n :: ((bang.toList ++ o :: ts) ++ [c]) := by simp
    rw [Phrase.calls_expr, Expr.calls]
    rw [hsplit] at ho ⊢
    have hs : ts.Sublist (bang.toList ++ o :: ts) :=
      (List.sublist_cons_self o ts).trans (List.sublist_append_right _ _)
    have hs' : ts.Sublist (n :: ((bang.toList ++ o :: ts) ++ [c])) :=
      (hs.trans (List.sublist_append_left _ [c])).cons n
    have hinner : Laid (bang.toList ++ o :: ts) (callsOfArguments as) :=
      callsOfArguments_eq as ▸ (ih (ho.sublist hs')).mono hs.subset
    exact hinner.call (c := ⟨n.text, as, bang.isSome, ⟨n.span.start, c.span.stop⟩⟩) ho
      (by rw [Token.face, hn.1]; rfl) hc rfl
  | lastItem _ ih | lastEntry _ ih | positional _ ih | lastArgument _ ih => exact ih ho
  | entry _ _ _ ih | named _ _ _ ih => exact labelled ih ho
  | moreItems _ _ _ ih ihs | moreEntries _ _ _ ih ihs | moreArguments _ _ _ ih ihs =>
    exact more rfl ih ihs ho

theorem DerivesStatement.laid {ts : List Token} {s : Statement} (h : DerivesStatement ts s)
    (ho : InOrder ts) : Laid ts s.calls := by
  have value {us : List Token} {e : Expr} (h : Derives us (.expr e)) (hs : us.Sublist ts) :
      Laid ts e.calls :=
    (Phrase.calls_expr e ▸ h.laid (ho.sublist hs)).mono hs.subset
  cases h with
  | expr h => exact value h (List.Sublist.refl ts)
  | assignVariable _ _ h => exact value h ((List.sublist_cons_self _ _).cons _)
  | assignPath _ _ h =>
    exact value h ((List.sublist_cons_self _ _).trans (List.sublist_append_right _ _))

theorem DerivesProgram.laid {ts : List Token} {p : Program} (h : DerivesProgram ts p)
    (ho : InOrder ts) : Laid ts p.calls := by
  induction h with
  | nil _ => exact .nil _
  | @last seps ts s _ h =>
    have hs : ts.Sublist (seps ++ ts) := List.sublist_append_right _ _
    rw [Program.calls, List.flatMap_singleton]
    exact (h.laid (ho.sublist hs)).mono hs.subset
  | @more seps ts us t s p _ h _ _ ih =>
    have hs : (ts ++ t :: us).Sublist (seps ++ (ts ++ t :: us)) := List.sublist_append_right _ _
    have ho' := ho.sublist hs
    have hlaid := (h.laid (ho'.sublist (List.sublist_append_left _ _))).append
      (ih (ho'.sublist (List.sublist_append_right _ _))) ho'
    rw [Program.calls, List.flatMap_cons]
    exact hlaid.mono hs.subset

/-! ## Calls in the text -/

/-- A call in a text: its span is a part of the text that begins with its name and ends with a
closing parenthesis. -/
structure StandsIn (source : String) (c : Call) : Prop where
  nonempty : c.span.start < c.span.stop
  inside : c.span.stop ≤ source.length
  named : c.name.toList <+: source.toList.drop c.span.start
  closed : source.toList[c.span.stop - 1]? = some ')'

theorem StandsAt.standsIn {source : String} {ts : List Token} {c : Call} (h : StandsAt ts c)
    (hcovers : Covers source.toList 0 0 ts) : StandsIn source c := by
  obtain ⟨n, hn, hface⟩ := List.mem_map.mp h.named
  obtain ⟨k, hk, hmark, hstop⟩ := h.closed
  obtain ⟨hkind, hname, hstart⟩ : n.kind = .identifier ∧ n.text = c.name ∧
      n.span.start = c.span.start := by simpa [Token.face, Call.face] using hface
  have hinside : k.span.stop ≤ source.toList.length := (hcovers.inside k hk).2
  have htaken := hcovers.inOrder.taken k hk
  refine ⟨h.nonempty, hstop ▸ hinside, ?_, ?_⟩
  · have haccords := hcovers.accords n hn
    rw [hkind] at haccords
    have hslice : c.name.toList = n.span.slice source.toList := hname ▸ haccords
    rw [hslice, Span.slice, hstart]
    exact List.take_prefix _ _
  · obtain ⟨hkind, htext⟩ := isMark_iff.mp hmark
    have haccords := hcovers.accords k hk
    rw [hkind, htext] at haccords
    have hslice : [')'] = k.span.slice source.toList := haccords
    have hlength := Span.length_slice hinside
    rw [← hslice, List.length_singleton] at hlength
    rw [← hstop, Span.getElem?_slice k.span ⟨by omega, by omega⟩, ← hslice,
      show k.span.stop - 1 - k.span.start = 0 by omega]
    rfl

/-! ## Programs -/

/-- The calls of a text in their order. Each begins behind the one before it. Of any two the earlier
is around the later or ends before it, and a call is around another one just when that one stands
in its arguments. -/
structure AreNested (source : String) (cs : List Call) : Prop where
  ascending : cs.Pairwise fun c d => c.span.start < d.span.start
  stands : ∀ c ∈ cs, StandsIn source c
  apart : cs.Pairwise fun c d => c.span.Encloses d.span ∨ c.span.stop ≤ d.span.start
  nested : ∀ c ∈ cs, ∀ d ∈ cs, c.span.Encloses d.span ↔ d ∈ c.inner

/-- Of two items of a list that is ordered pair by pair, one comes before the other. -/
theorem eq_or_rel_of_pairwise {α : Type} {R : α → α → Prop} {l : List α} (h : l.Pairwise R)
    {a b : α} (ha : a ∈ l) (hb : b ∈ l) : a = b ∨ R a b ∨ R b a := by
  obtain ⟨i, hi, rfl⟩ := List.getElem_of_mem ha
  obtain ⟨j, hj, rfl⟩ := List.getElem_of_mem hb
  rw [List.pairwise_iff_getElem] at h
  rcases Nat.lt_trichotomy i j with hlt | rfl | hlt
  · exact .inr (.inl (h i j hi hj hlt))
  · exact .inl rfl
  · exact .inr (.inr (h j i hj hi hlt))

/-- The calls of a program that is read stand in its text, nested as their spans are. -/
theorem parse_calls_nested {source : String} {p : Program} (h : parse source = .ok p) :
    AreNested source p.calls := by
  obtain ⟨ts, hs, hd⟩ := parse_derives h
  have hcovers := scan_covers hs
  have hlaid := hd.laid hcovers.inOrder
  refine ⟨parse_calls_inOrder h, fun c hc => (hlaid.stands c hc).standsIn hcovers,
    hlaid.apart.imp (.imp_left And.left), fun c hc d hd => ⟨fun he => ?_, hlaid.around c hc d⟩⟩
  have hnonempty := (hlaid.stands d hd).nonempty
  obtain ⟨hstart, hstop⟩ := he
  rcases eq_or_rel_of_pairwise hlaid.apart hc hd with rfl | hr | hr
  · omega
  · rcases hr with ⟨-, hinner⟩ | hbefore
    · exact hinner
    · omega
  · rcases hr with ⟨⟨hstart', -⟩, -⟩ | hbefore
    · omega
    · omega

/-- A call whose arguments hold a call in brackets and a call under a name, and one behind it. -/
def nestedProgram : Program := [
  .expr (.call "f"
    [(none, .array [.call "g" [] false ⟨3, 6⟩]), (some "n", .call "g" [] true ⟨12, 16⟩)]
    false ⟨0, 17⟩),
  .expr (.call "g" [] false ⟨18, 21⟩)]

theorem parse_calls_nested_twice :
    parse "f([g()], n: g!());g()" = .ok nestedProgram ∧
      AreNested "f([g()], n: g!());g()" nestedProgram.calls := by
  have h : parse "f([g()], n: g!());g()" = .ok nestedProgram := by cbv
  exact ⟨h, parse_calls_nested h⟩

end Syntax

end FunctionManual
