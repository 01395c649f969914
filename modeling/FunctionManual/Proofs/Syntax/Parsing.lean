import FunctionManual.Fault
import FunctionManual.Proofs.Syntax.Completeness
import FunctionManual.Proofs.Syntax.Scanning
import Mathlib

/-!
# Parsing is deriving

* `DerivesSource.unique`: the tokens of a text derive at most one program.
* `parse_iff_derives`: a program is parsed just when the tokens derive it, and every other text has
  an error of the parsing phase.
-/

namespace FunctionManual.Syntax

/-- The failure of a text that spells no program. -/
def IsParseError (r : Except Refusal Program) : Prop :=
  ∃ refusal e, r = .error refusal ∧ Fault.ofRefusal refusal = .expression e ∧ e.phase = .parse

theorem IsError.isParseError {r : Refusal} (h : IsError r) : IsParseError (.error r) := by
  obtain ⟨e, rfl⟩ := h
  exact ⟨_, _, rfl, rfl, rfl⟩

theorem tokenize_eq_ok {source : String} {tokens : List Token} :
    tokenize source = .ok tokens ↔
      ∃ ts, scan source = .ok ts ∧ tokens = ts ++ [Token.endAt source.length] := by
  unfold tokenize
  cases scan source with
  | error e => simp [Except.map]
  | ok ts => simp [Except.map, eq_comm]

theorem derivesSource_append {ts : List Token} {eof : Token} {p : Program}
    (he : eof.kind = .endOfInput) : DerivesSource (ts ++ [eof]) p ↔ DerivesProgram ts p := by
  constructor
  · intro h
    generalize hts : ts ++ [eof] = us at h
    obtain ⟨-, h⟩ := h
    rwa [(List.append_inj' hts rfl).1]
  · exact .mk he

/-- The tokens of a text derive at most one program. -/
theorem DerivesSource.unique {tokens : List Token} {p q : Program} (hp : DerivesSource tokens p)
    (hq : DerivesSource tokens q) : p = q := by
  obtain ⟨he, hp⟩ := hp
  rw [derivesSource_append he] at hq
  have h := hp.reads 0 _ (Nat.lt_succ_self _)
  rw [hq.reads 0 _ (Nat.lt_succ_self _)] at h
  cases h
  rfl

/-- The integers of a text are not too long, and what is wrong with its patterns can be worded. -/
def HasPlainLiterals (tokens : List Token) : Prop :=
  ∀ t ∈ tokens, (t.kind = .integer → digitCount t ≤ Integer.digitLimit) ∧
    (t.kind = .regex → ∀ e, Regex.compile t.text = .error e → ∃ p pos, e = .problem p pos)

/-- A text with plain literals is parsed as a program just when its tokens derive that program,
which is then the only one. Every other text, and one that is not even split into tokens, fails in
the parsing phase. -/
theorem parse_iff_derives (source : String) :
    (∀ tokens, tokenize source = .ok tokens → HasPlainLiterals tokens →
      (∀ p, parse source = .ok p ↔ DerivesSource tokens p) ∧
      (∀ p q, DerivesSource tokens p → DerivesSource tokens q → p = q) ∧
      ((∀ p, ¬ DerivesSource tokens p) → IsParseError (parse source))) ∧
    ∀ e, tokenize source = .error e → IsParseError (parse source) := by
  refine ⟨fun tokens ht hp => ?_, fun e he => ?_⟩
  · obtain ⟨ts, hs, rfl⟩ := tokenize_eq_ok.mp ht
    have hl : Legible ts := fun t h =>
      have hp := hp t (List.mem_append_left _ h)
      (scan_numbers hs t h).isLegible hp.1 hp.2
    have hparse : parse source = readStatements source.length (ts.length + 1) ts := by
      simp only [parse, hs]
    have hr := readStatements_reads source.length (ts.length + 1) ts (Nat.lt_succ_self _) hl
    have hiff (p : Program) :
        parse source = .ok p ↔ DerivesSource (ts ++ [.endAt source.length]) p := by
      rw [derivesSource_append rfl, hparse]
      refine ⟨fun h => ?_, fun h => h.reads _ _ (Nat.lt_succ_self _)⟩
      rw [h] at hr
      exact hr
    refine ⟨hiff, fun p q => DerivesSource.unique, fun hn => ?_⟩
    rw [hparse]
    cases hc : readStatements source.length (ts.length + 1) ts with
    | error r => rw [hc] at hr; exact IsError.isParseError hr
    | ok p => exact absurd ((hiff p).mp (hparse.trans hc)) (hn p)
  · have hs : scan source = .error e := by
      unfold tokenize at he
      cases hc : scan source with
      | error e' => rw [hc] at he; cases he; rfl
      | ok ts => rw [hc] at he; cases he
    simp only [parse, hs]
    exact ⟨_, _, rfl, rfl, rfl⟩

/-- The tokens of a call whose result is assigned to a path. -/
def callTokens : List Token := [
  ⟨.punctuation, ".", ⟨0, 1⟩⟩, ⟨.identifier, "a", ⟨1, 2⟩⟩, ⟨.punctuation, "=", ⟨3, 4⟩⟩,
  ⟨.identifier, "f", ⟨5, 6⟩⟩, ⟨.punctuation, "!", ⟨6, 7⟩⟩, ⟨.punctuation, "(", ⟨7, 8⟩⟩,
  ⟨.punctuation, "[", ⟨8, 9⟩⟩, ⟨.integer, "1", ⟨9, 10⟩⟩, ⟨.punctuation, ",", ⟨10, 11⟩⟩,
  ⟨.punctuation, "]", ⟨11, 12⟩⟩, ⟨.punctuation, ")", ⟨12, 13⟩⟩]

/-- The program of these tokens. -/
def callProgram : Program :=
  [.assign (.path ["a"])
    (.call "f" [(none, .array [.literal (.integer 1)])] true ⟨5, 13⟩)]

theorem callTokens_derives : DerivesProgram callTokens callProgram := by
  have path : DerivesPath [callTokens[0], callTokens[1]] ["a"] := .names rfl rfl rfl .nil
  have one : Derives [callTokens[7]] (.expr (.literal (.integer 1))) :=
    .literal (.integer rfl rfl)
  have items := Derives.moreItems (c := callTokens[8]) one rfl .noItems
  have array := Derives.array (o := callTokens[6]) (c := callTokens[9]) rfl items rfl
  have call := @Derives.call callTokens[3] callTokens[5] callTokens[10] (some callTokens[4]) _ _
    ⟨rfl, rfl⟩ (fun _ hb => Option.mem_some.mp hb ▸ rfl) rfl
    (.lastArgument (.positional array)) rfl
  have assignment := @DerivesStatement.assignPath callTokens[2] _ _ _ _ path rfl call
  exact @DerivesProgram.last [] _ _ (fun _ h => nomatch h) assignment

theorem parse_call : parse ".a = f!([1,])" = .ok callProgram := by
  have ht : tokenize ".a = f!([1,])" = .ok (callTokens ++ [.endAt 13]) := by cbv
  have hp : HasPlainLiterals (callTokens ++ [.endAt 13]) := by
    simp [HasPlainLiterals, callTokens, Token.endAt]
    decide
  exact (((parse_iff_derives _).1 _ ht hp).1 _).mpr (.mk rfl callTokens_derives)

end FunctionManual.Syntax
