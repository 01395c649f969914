import FunctionManual.Proofs.Evaluation.Keeping
import FunctionManual.Proofs.Syntax.Parsing

/-!
# What a text is read as

* `IsPlain`: a text whose integers are not too long and whose patterns fail with a problem.
* `Derives.isMadeOf`: literals that are derived have kinds.
* `IsPlain.parse`: a plain text has an error, or tokens that derive a program.
* `IsPlain.isMadeOf`: the literals of that program have kinds.
-/

namespace FunctionManual.Syntax

/-! ## Literals -/

theorem isSome_kind?_of_keyword? {text : String} {v : Scalar} (h : keyword? text = some v) :
    v.kind?.isSome := by
  unfold keyword? at h
  split at h <;> cases h <;> rfl

theorem Literal.isSome_kind? {t : Token} {v : Scalar} (h : Literal t v) : v.kind?.isSome := by
  cases h with
  | string _ | regex _ _ | integer _ _ | float _ _ => rfl
  | keyword _ hv => exact isSome_kind?_of_keyword? hv

/-- The expressions of a phrase. -/
def Phrase.trees : Phrase → List Expr
  | .expr e => [e]
  | .items es => es
  | .entry x => [x.2]
  | .entries xs => xs.map (·.2)
  | .argument x => [x.2]
  | .arguments xs => xs.map (·.2)

/-- The literals of a phrase that is derived have kinds. -/
theorem Derives.isMadeOf {ts : List Token} {φ : Phrase} (h : Derives ts φ) :
    ∀ e ∈ φ.trees, e.IsMadeOf .proper := by
  induction h with
  | literal hl =>
    refine List.forall_mem_singleton.mpr (.mk (fun v hv => ?_) nofun)
    cases hv
    exact hl.isSome_kind?
  | name _ | path _ => exact List.forall_mem_singleton.mpr (.mk nofun nofun)
  | group _ _ _ ih => exact ih
  | array _ _ _ ih | object _ _ _ ih | call _ _ _ _ _ ih =>
    exact List.forall_mem_singleton.mpr (.mk nofun ih)
  | noItems | noEntries | noArguments => exact nofun
  | lastItem _ ih | entry _ _ _ ih | lastEntry _ ih | positional _ ih | named _ _ _ ih
  | lastArgument _ ih => exact ih
  | moreItems _ _ _ ih ihs | moreEntries _ _ _ ih ihs | moreArguments _ _ _ ih ihs =>
    exact List.forall_mem_cons.mpr ⟨List.forall_mem_singleton.mp ih, ihs⟩

theorem DerivesStatement.isMadeOf {ts : List Token} {s : Statement} (h : DerivesStatement ts s) :
    s.value.IsMadeOf .proper := by
  cases h with
  | expr h | assignVariable _ _ h | assignPath _ _ h => exact h.isMadeOf _ List.mem_cons_self

theorem DerivesProgram.isMadeOf {ts : List Token} {p : Program} (h : DerivesProgram ts p) :
    p.IsMadeOf .proper := by
  induction h with
  | nil _ => exact nofun
  | last _ h => exact List.forall_mem_singleton.mpr h.isMadeOf
  | more _ h _ _ ih => exact List.forall_mem_cons.mpr ⟨h.isMadeOf, ih⟩

/-! ## Texts -/

/-- A text whose integers are not too long, and whose patterns, when they cannot be compiled, have a
problem that can be worded. -/
def IsPlain (source : String) : Prop :=
  ∀ tokens, tokenize source = .ok tokens → HasPlainLiterals tokens

/-- A plain text has an error, or tokens that derive a program. -/
theorem IsPlain.parse {source : String} (h : IsPlain source) :
    (∃ e, parse source = .error (.error e)) ∨
      ∃ ts p, parse source = .ok p ∧ DerivesProgram ts p := by
  cases hs : scan source with
  | error e => exact .inl ⟨e, by simp only [Syntax.parse, hs]⟩
  | ok ts =>
    have hp := h _ (tokenize_eq_ok.mpr ⟨ts, hs, rfl⟩)
    have hl : Legible ts := fun t ht =>
      have ht' := hp t (List.mem_append_left _ ht)
      (scan_numbers hs t ht).isLegible ht'.1 ht'.2
    have hr := readStatements_reads source.length (ts.length + 1) ts (Nat.lt_succ_self _) hl
    have hparse : Syntax.parse source = readStatements source.length (ts.length + 1) ts := by
      simp only [Syntax.parse, hs]
    cases hc : readStatements source.length (ts.length + 1) ts with
    | error r =>
      rw [hc] at hr
      obtain ⟨e, rfl⟩ := hr
      exact .inl ⟨e, hparse.trans hc⟩
    | ok p =>
      rw [hc] at hr
      exact .inr ⟨ts, p, hparse.trans hc, hr⟩

/-- The literals of a program that a plain text spells have kinds. -/
theorem IsPlain.isMadeOf {source : String} (h : IsPlain source) {p : Program}
    (hp : Syntax.parse source = .ok p) : p.IsMadeOf .proper := by
  obtain ⟨e, he⟩ | ⟨ts, q, hq, hd⟩ := h.parse
  · rw [hp] at he
    cases he
  · rw [hp] at hq
    cases hq
    exact hd.isMadeOf

end FunctionManual.Syntax
