import FunctionManual.Proofs.Except
import FunctionManual.Proofs.Number.Numeral
import FunctionManual.Settings

/-!
# Variables of an environment

* `Variable`: the variables that may be refused, in the order in which they are read.
* `Variable.Admits`: the texts that a variable may have, said without reading them.
* `Settings.IsInRange`: what settings must be to be used.
* `readLimit_outcome` and its like: a variable gives a setting in range just when it admits its text,
  and else a problem whose wording names it.
* `readWorkers_outcome`: but for a row of digits that is too long or has a digit that is not decimal.
  Its wording is that of reading an integer.
* `ofEnvironment_reports_first`: settings in range, or the problem of the first variable at fault.
-/

namespace FunctionManual

namespace Settings

open FunctionManual.Text

/-! ## What is admitted -/

/-- The variables that may be refused, in the order in which they are read. -/
inductive Variable
  | limit
  | strict
  | failureMatch
  | workers
  | logLevel
  deriving DecidableEq, Repr

namespace Variable

/-- The name of a variable. -/
def name : Variable → String
  | .limit => "EXPRDOC_EXAMPLE_TIMEOUT"
  | .strict => "EXPRDOC_STRICT"
  | .failureMatch => "EXPRDOC_FAILURE_MATCH"
  | .workers => "EXPRDOC_WORKERS"
  | .logLevel => "EXPRDOC_LOG_LEVEL"

/-- All variables that may be refused. -/
def all : List Variable := [limit, strict, failureMatch, workers, logLevel]

/-- The variables that are read before a variable. -/
def before (x : Variable) : List Variable := all.takeWhile (· ≠ x)

end Variable

/-- A finite double above zero. -/
def IsPositive (x : Binary64) : Prop := ∃ m u h, 0 < m ∧ x = .finite false m u h

/-- A row of decimal digits within the limit, one of them not zero. -/
structure IsCount (w : String) : Prop where
  decimal : ∀ c ∈ w.toList, isDecimal c
  length : w.length ≤ Integer.digitLimit
  positive : ∃ c ∈ w.toList, ∃ d, decimalValue? c = some d ∧ 0 < d

/-- A row of characters with digit values that is no integer all the same: there are too many, or
one of them is not decimal. -/
structure IsMisread (w : String) : Prop where
  digits : ∀ c ∈ w.toList, isDigit c
  nonempty : w ≠ ""
  bad : Integer.digitLimit < w.length ∨ ∃ c ∈ w.toList, ¬ isDecimal c

/-- The texts that a variable may have. Where a text is empty or blank the variable counts as not
set. -/
def Variable.Admits : Variable → String → Prop
  | .limit, s => isBlankText s ∨ ∃ x, Binary64.read s = some x ∧ IsPositive x
  | .strict, s =>
    lower (strip s) ∈ ["1", "true", "yes", "on"] ∨ lower (strip s) ∈ ["0", "false", "no", "off", ""]
  | .failureMatch, s => lower (strip s) = "" ∨ lower (strip s) ∈ FailureMatch.all.map (·.name)
  | .workers, s => strip s = "" ∨ IsCount (strip s)
  | .logLevel, s => s = "" ∨ upper (strip s) ∈ logLevels

/-- Settings that a run can use. -/
structure IsInRange (s : Settings) : Prop where
  limit : ∃ x, s.limit = .fraction x ∧ IsPositive x
  failureMatch : s.failureMatch ∈ FailureMatch.all
  workers : ∀ n ∈ s.workers, 1 ≤ n
  logLevel : s.logLevel ∈ logLevels

/-! ## Wording -/

/-- The wording of a problem begins with the name of a variable. -/
def Problem.Names (p : Problem) (x : Variable) : Prop := x.name.toList <+: p.message.toList

/-- The variable that a problem is about. -/
def Problem.about : Problem → Variable
  | .noSeconds _ | .noPositiveSeconds _ => .limit
  | .noTruthValue _ => .strict
  | .noFailureMatch _ => .failureMatch
  | .noWorkers _ | .noInteger _ | .longInteger _ => .workers
  | .noLogLevel _ => .logLevel

/-- A problem with the wording of another reader, which knows no variable. -/
def Problem.IsForeign (p : Problem) : Prop := (∃ w, p = .noInteger w) ∨ ∃ n, p = .longInteger n

theorem take_eq_of_front {l m : List Char} {n : Nat} (h : l <+: m) (hn : n ≤ l.length) :
    m.take n = l.take n := by
  obtain ⟨rest, rfl⟩ := h
  exact List.take_append_of_le_length hn

theorem prefix_toList_append {l : List Char} {s : String} (h : l <+: s.toList) (t : String) :
    l <+: (s ++ t).toList := by
  rw [String.toList_append]
  exact h.trans (List.prefix_append _ _)

/-- All names of variables begin alike, and so does what names one. -/
theorem Problem.Names.front {p : Problem} {x : Variable} (h : p.Names x) :
    p.message.toList.take 8 = "EXPRDOC_".toList := by
  cases x <;> exact take_eq_of_front h (by decide)

theorem Problem.IsForeign.not_names {p : Problem} (h : p.IsForeign) (x : Variable) :
    ¬ p.Names x := by
  intro hn
  have hfront := hn.front
  rcases h with ⟨w, rfl⟩ | ⟨n, rfl⟩
  · have hown : "invalid literal".toList <+: (noInteger w).message.toList :=
      prefix_toList_append (by decide) _
    rw [take_eq_of_front hown (by decide)] at hfront
    exact absurd hfront (by decide)
  · have hown : "Exceeds the limit".toList <+: (longInteger n).message.toList :=
      prefix_toList_append (prefix_toList_append (prefix_toList_append (by decide) _) _) _
    rw [take_eq_of_front hown (by decide)] at hfront
    exact absurd hfront (by decide)

/-- Every other problem names the variable that it is about. -/
theorem Problem.names_about {p : Problem} (h : ¬ p.IsForeign) : p.Names p.about := by
  unfold Names
  cases p with
  | noSeconds raw =>
    show Variable.limit.name.toList <+: _
    exact prefix_toList_append (by decide) _
  | noPositiveSeconds raw =>
    show Variable.limit.name.toList <+: _
    exact prefix_toList_append (by decide) _
  | noTruthValue raw =>
    show Variable.strict.name.toList <+: _
    exact prefix_toList_append (by decide) _
  | noFailureMatch raw =>
    show Variable.failureMatch.name.toList <+: _
    exact prefix_toList_append (prefix_toList_append (prefix_toList_append (by decide) _) _) _
  | noWorkers raw =>
    show Variable.workers.name.toList <+: _
    exact prefix_toList_append (by decide) _
  | noInteger w => exact absurd (.inl ⟨w, rfl⟩) h
  | longInteger n => exact absurd (.inr ⟨n, rfl⟩) h
  | noLogLevel raw =>
    show Variable.logLevel.name.toList <+: _
    exact prefix_toList_append (by decide) _

/-! ## Variables -/

/-- The outcome of reading a variable: a setting as it should be where the text is admitted, and a
problem of the variable where it is not. The problem has the wording of another reader just for a
row of digits that is misread. -/
inductive Reads {α : Type} (x : Variable) (s : String) (P : α → Prop) : Except Problem α → Prop
  | ok {a : α} (h : x.Admits s) (ha : P a) : Reads x s P (.ok a)
  | error {p : Problem} (h : ¬ x.Admits s) (hp : p.about = x)
      (hf : p.IsForeign ↔ x = .workers ∧ IsMisread (strip s)) : Reads x s P (.error p)

theorem not_isForeign {p : Problem} (h : p.about ≠ .workers) : ¬ p.IsForeign := by
  rintro (⟨w, rfl⟩ | ⟨n, rfl⟩) <;> exact h rfl

/-- A problem of a variable that is not for workers has a wording of its own. -/
theorem Reads.refused {α : Type} {s : String} {P : α → Prop} {p : Problem}
    (h : ¬ p.about.Admits s) (hp : p.about ≠ .workers) : Reads p.about s P (.error p) :=
  .error h rfl (iff_of_false (not_isForeign hp) fun hw => hp hw.1)

theorem positiveSeconds?_eq_some {x : Binary64} {t : TimeLimit} :
    positiveSeconds? x = some t ↔ IsPositive x ∧ t = .fraction x := by
  unfold positiveSeconds? IsPositive
  cases x with
  | nan => simp [Binary64.isFinite]
  | infinite n => simp [Binary64.isFinite]
  | finite n m u h =>
    cases n with
    | true => simp [Binary64.isNonPositive]
    | false =>
      by_cases hm : m = 0
      · simp [Binary64.isNonPositive, hm]
      · have hpos : 0 < m := Nat.pos_of_ne_zero hm
        simp only [Binary64.isFinite, Binary64.isNonPositive, Bool.false_or, Bool.true_and,
          beq_eq_false_iff_ne.mpr hm, Bool.not_false, if_true, Option.some.injEq]
        exact ⟨fun ht => ⟨⟨m, u, h, hpos, rfl⟩, ht.symm⟩, fun ht => ht.2.symm⟩

theorem usual_isPositive : ∃ x, TimeLimit.usual = .fraction x ∧ IsPositive x :=
  ⟨_, rfl, 5 * 2 ^ 50, 1024, by decide, by decide, by decide +kernel⟩

theorem readLimit_outcome (s : String) :
    Reads .limit s (fun t => ∃ x, t = .fraction x ∧ IsPositive x) (readLimit s) := by
  unfold readLimit
  by_cases hb : isBlankText s
  · rw [if_pos hb]
    exact .ok (.inl hb) usual_isPositive
  · rw [if_neg hb]
    cases hr : Binary64.read s with
    | none =>
      refine .refused (p := .noSeconds s) ?_ nofun
      rintro (h | ⟨x, hx, -⟩)
      · exact hb h
      · rw [hr] at hx
        cases hx
    | some x =>
      dsimp only
      cases ht : positiveSeconds? x with
      | some t =>
        obtain ⟨hpos, rfl⟩ := positiveSeconds?_eq_some.mp ht
        exact .ok (.inr ⟨x, hr, hpos⟩) ⟨x, rfl, hpos⟩
      | none =>
        refine .refused (p := .noPositiveSeconds s) ?_ nofun
        rintro (h | ⟨y, hy, hpos⟩)
        · exact hb h
        · obtain rfl := Option.some.inj (hr.symm.trans hy)
          rw [positiveSeconds?_eq_some.mpr ⟨hpos, rfl⟩] at ht
          cases ht

theorem readTruthValue_outcome (s : String) :
    Reads .strict s (fun _ => True) (readTruthValue s) := by
  unfold readTruthValue
  generalize hw : lower (strip s) = word
  by_cases hyes : word ∈ ["1", "true", "yes", "on"]
  · rw [if_pos (List.contains_iff_mem.mpr hyes)]
    exact .ok (.inl (hw ▸ hyes)) trivial
  · rw [if_neg (List.contains_iff_mem.not.mpr hyes)]
    by_cases hno : word ∈ ["0", "false", "no", "off", ""]
    · rw [if_pos (List.contains_iff_mem.mpr hno)]
      exact .ok (.inr (hw ▸ hno)) trivial
    · rw [if_neg (List.contains_iff_mem.not.mpr hno)]
      refine .refused (p := .noTruthValue word) ?_ nofun
      rintro (h | h)
      · exact hyes (hw ▸ h)
      · exact hno (hw ▸ h)

theorem mem_failureMatch_all (m : FailureMatch) : m ∈ FailureMatch.all := by
  cases m <;> decide

theorem readFailureMatch_outcome (s : String) :
    Reads .failureMatch s (· ∈ FailureMatch.all) (readFailureMatch s) := by
  unfold readFailureMatch
  generalize hw : lower (strip s) = word
  by_cases he : word = ""
  · rw [if_pos (String.isEmpty_iff.mpr he)]
    exact .ok (.inl (hw ▸ he)) (mem_failureMatch_all _)
  · rw [if_neg (String.isEmpty_iff.not.mpr he)]
    cases hm : FailureMatch.ofName? word with
    | some m =>
      have hname : m.name = word := by simpa using List.find?_some hm
      exact .ok (.inr (hw ▸ hname ▸ List.mem_map_of_mem (mem_failureMatch_all m)))
        (mem_failureMatch_all m)
    | none =>
      refine .refused (p := .noFailureMatch word) ?_ nofun
      rintro (h | h)
      · exact he (hw ▸ h)
      · obtain ⟨m, hall, hname⟩ := List.mem_map.mp h
        have := List.find?_eq_none.mp hm m hall
        simp [hname, hw] at this

theorem readLogLevel_outcome (s : String) :
    Reads .logLevel s (· ∈ logLevels) (readLogLevel s) := by
  have usual : upper (strip "WARNING") = "WARNING" := by decide +kernel
  unfold readLogLevel
  by_cases he : s = ""
  · subst he
    rw [if_pos (String.isEmpty_iff.mpr rfl), usual]
    exact .ok (.inl rfl) (by decide)
  · rw [if_neg (String.isEmpty_iff.not.mpr he)]
    generalize hw : upper (strip s) = word
    by_cases h : word ∈ logLevels
    · rw [if_pos (List.contains_iff_mem.mpr h)]
      exact .ok (.inr (hw ▸ h)) h
    · rw [if_neg (List.contains_iff_mem.not.mpr h)]
      refine .refused (p := .noLogLevel word) ?_ nofun
      rintro (h' | h')
      · exact he h'
      · exact h (hw ▸ h')

theorem IsMisread.not_isCount {w : String} (h : IsMisread w) : ¬ IsCount w := fun hc => by
  rcases h.bad with hlt | ⟨c, hmem, hn⟩
  · exact absurd hc.length (Nat.not_le.mpr hlt)
  · exact hn (hc.decimal c hmem)

theorem admits_workers_iff {s : String} (he : strip s ≠ "") :
    Variable.Admits .workers s ↔ IsCount (strip s) :=
  or_iff_right he

/-- What refuses a number of workers has the wording of another reader just for a row of digits that
is misread. -/
theorem Reads.refusedWorkers {s : String} {P : Workers → Prop} {p : Problem} (he : strip s ≠ "")
    (hc : ¬ IsCount (strip s)) (hp : p.about = .workers)
    (hf : p.IsForeign ↔ IsMisread (strip s)) : Reads .workers s P (.error p) :=
  .error ((admits_workers_iff he).not.mpr hc) hp (hf.trans (and_iff_right rfl).symm)

theorem noWorkers_not_isForeign (w : String) : ¬ (Problem.noWorkers w).IsForeign := by
  rintro (⟨_, h⟩ | ⟨_, h⟩) <;> cases h

/-- A number of workers is a row of decimal digits, but every row of digits is taken for one. -/
theorem readWorkers_outcome (s : String) :
    Reads .workers s (fun w => ∀ n ∈ w, 1 ≤ n) (readWorkers s) := by
  unfold readWorkers
  by_cases he : strip s = ""
  · rw [if_pos (String.isEmpty_iff.mpr he)]
    exact .ok (.inl he) nofun
  rw [if_neg (String.isEmpty_iff.not.mpr he)]
  by_cases hd : ∀ c ∈ (strip s).toList, isDigit c
  · have hall : (!(strip s).toList.all isDigit) = false := by simpa using hd
    rw [hall, if_neg Bool.false_ne_true]
    by_cases hbad : Integer.digitLimit < (strip s).length ∨ ∃ c ∈ (strip s).toList, ¬ isDecimal c
    · have hmis : IsMisread (strip s) := ⟨hd, he, hbad⟩
      rcases Integer.read_row_error hd hbad with hr | ⟨n, hr⟩
      · rw [hr]
        exact .refusedWorkers he hmis.not_isCount rfl (iff_of_true (.inl ⟨_, rfl⟩) hmis)
      · rw [hr]
        exact .refusedWorkers he hmis.not_isCount rfl (iff_of_true (.inr ⟨_, rfl⟩) hmis)
    · have hmis : ¬ IsMisread (strip s) := fun h => hbad h.bad
      simp only [not_or, not_lt, not_exists, not_and, not_not] at hbad
      obtain ⟨hlength, hdecimal⟩ := hbad
      rw [Integer.read_decimals hdecimal he hlength]
      dsimp only
      by_cases hpos : 0 < Integer.rowValue (strip s).toList
      · rw [if_neg (by omega)]
        have hcount : IsCount (strip s) := ⟨hdecimal, hlength, Integer.rowValue_pos_iff.mp hpos⟩
        refine .ok (.inr hcount) fun n hn => ?_
        cases hn
        omega
      · rw [if_pos (by omega)]
        refine .refusedWorkers he (fun h => ?_) rfl (iff_of_false (noWorkers_not_isForeign _) hmis)
        exact hpos (Integer.rowValue_pos_iff.mpr h.positive)
  · have hall : (!(strip s).toList.all isDigit) = true := by simpa using hd
    rw [hall, if_pos rfl]
    refine .refusedWorkers he (fun h => ?_) rfl
      (iff_of_false (noWorkers_not_isForeign _) fun h => hd h.digits)
    exact hd fun c hc => isDigit_of_isDecimal (h.decimal c hc)

/-! ## Environments -/

/-- A variable that is not set is not at fault. -/
theorem Variable.admits_empty (x : Variable) : x.Admits "" := by
  cases x with
  | limit => exact .inl rfl
  | strict => exact .inr (by decide +kernel)
  | failureMatch => exact .inl (by decide +kernel)
  | workers => exact .inl (by decide +kernel)
  | logLevel => exact .inl rfl

/-- The problem of an environment: that of the first variable whose text is not admitted. Its wording
begins with the name of the variable, unless a row of digits is misread as a number of workers. -/
structure IsFirstFault (env : Environment) (x : Variable) (text : String) (p : Problem) : Prop where
  set : env.lookup x.name = some text
  fault : ¬ x.Admits text
  first : ∀ y ∈ x.before, y.Admits (raw env y.name)
  named : p.Names x ↔ ¬ (x = .workers ∧ IsMisread (strip text))
  foreign : x = .workers ∧ IsMisread (strip text) → p.IsForeign ∧ ∀ y, ¬ p.Names y

/-- A variable that is refused is set, and the first at fault when those before it are not. -/
theorem isFirstFault {env : Environment} {x : Variable} {p : Problem}
    (hn : ¬ x.Admits (raw env x.name)) (hp : p.about = x)
    (hf : p.IsForeign ↔ x = .workers ∧ IsMisread (strip (raw env x.name)))
    (hfirst : ∀ y ∈ x.before, y.Admits (raw env y.name)) :
    ∃ x text, IsFirstFault env x text p := by
  cases hl : env.lookup x.name with
  | none =>
    rw [raw, hl] at hn
    exact absurd x.admits_empty hn
  | some text =>
    have htext : raw env x.name = text := by rw [raw, hl]; rfl
    rw [htext] at hn hf
    refine ⟨x, text, hl, hn, hfirst, ⟨fun hname h => ?_, fun h => ?_⟩, fun h => ?_⟩
    · exact (hf.mpr h).not_names x hname
    · exact hp ▸ p.names_about (hf.not.mpr h)
    · exact ⟨hf.mpr h, (hf.mpr h).not_names⟩

/-- Settings that a run can use, where all variables have texts that they admit; or else the problem
of the first variable at fault. -/
def Reports (env : Environment) (outcome : Except Problem Settings) : Prop :=
  (∃ s, outcome = .ok s ∧ s.IsInRange ∧ ∀ x : Variable, x.Admits (raw env x.name)) ∨
    ∃ p, outcome = .error p ∧ ∃ x text, IsFirstFault env x text p

/-- A variable is read when those before it are admitted, and what comes after it when it is. -/
theorem Reads.bind {α : Type} {env : Environment} {x : Variable} {P : α → Prop}
    {outcome : Except Problem α} {next : α → Except Problem Settings}
    (h : Reads x (raw env x.name) P outcome) (hfirst : ∀ y ∈ x.before, y.Admits (raw env y.name))
    (hnext : ∀ a, x.Admits (raw env x.name) → P a → Reports env (next a)) :
    Reports env (outcome >>= next) := by
  cases h with
  | ok h ha => exact hnext _ h ha
  | error h hp hf => exact .inr ⟨_, rfl, isFirstFault h hp hf hfirst⟩

/-- An environment gives settings that a run can use, when all its variables have texts that they
admit; or else the problem of the first variable at fault, which is set. -/
theorem ofEnvironment_reports_first (env : Environment) :
    (∃ s, ofEnvironment env = .ok s ∧ s.IsInRange ∧ ∀ x : Variable, x.Admits (raw env x.name)) ∨
      ∃ p, ofEnvironment env = .error p ∧ ∃ x text, IsFirstFault env x text p := by
  show Reports env (ofEnvironment env)
  have more {x : Variable} {l : List Variable} (hx : x.Admits (raw env x.name))
      (hl : ∀ y ∈ l, y.Admits (raw env y.name)) : ∀ y ∈ x :: l, y.Admits (raw env y.name) :=
    List.forall_mem_cons.mpr ⟨hx, hl⟩
  refine Reads.bind (x := .limit) (readLimit_outcome _) nofun fun limit hlimit hl => ?_
  refine Reads.bind (x := .strict) (readTruthValue_outcome _) (more hlimit nofun)
    fun strict hstrict _ => ?_
  refine Reads.bind (x := .failureMatch) (readFailureMatch_outcome _)
    (more hlimit (more hstrict nofun)) fun failureMatch hmatch hm => ?_
  refine Reads.bind (x := .workers) (readWorkers_outcome _)
    (more hlimit (more hstrict (more hmatch nofun))) fun workers hworkers hw => ?_
  refine Reads.bind (x := .logLevel) (readLogLevel_outcome _)
    (more hlimit (more hstrict (more hmatch (more hworkers nofun)))) fun logLevel hlevel hv => ?_
  refine .inl ⟨_, rfl, ?_, fun x => ?_⟩
  · exact { limit := hl, failureMatch := hm, workers := hw, logLevel := hv }
  · cases x with
    | limit => exact hlimit
    | strict => exact hstrict
    | failureMatch => exact hmatch
    | workers => exact hworkers
    | logLevel => exact hlevel

theorem readTruthValue_empty : readTruthValue "" = .ok false := by
  have hword : lower (strip "") = "" := by decide +kernel
  simp only [readTruthValue, hword]
  rfl

theorem readFailureMatch_empty : readFailureMatch "" = .ok .kindAndMessage := by
  have hword : lower (strip "") = "" := by decide +kernel
  simp only [readFailureMatch, hword]
  rfl

theorem raw_of_ne {x y : String} (h : x ≠ y) (s : String) : raw [(y, s)] x = "" := by
  rw [raw, List.lookup_cons, beq_eq_false_iff_ne.mpr h]
  rfl

/-- Where only the number of workers is set and cannot be read, it is at fault. -/
theorem ofEnvironment_workers {s : String} {p : Problem} (h : readWorkers s = .error p) :
    ofEnvironment [("EXPRDOC_WORKERS", s)] = .error p := by
  have hlimit : readLimit "" = .ok .usual := if_pos rfl
  have set : raw [("EXPRDOC_WORKERS", s)] "EXPRDOC_WORKERS" = s := by
    simp [raw]
  simp only [ofEnvironment, set, h]
  rw [raw_of_ne (by decide), raw_of_ne (by decide), raw_of_ne (by decide), hlimit,
    readTruthValue_empty, readFailureMatch_empty]
  rfl

/-- A superscript has a digit value and is not decimal. As a number of workers it is refused with the
wording of reading an integer, which names no variable. -/
theorem superscript_workers_unnamed :
    ofEnvironment [("EXPRDOC_WORKERS", "²")] = .error (.noInteger "²") ∧
      Problem.message (.noInteger "²") = "invalid literal for int() with base 10: '²'" ∧
      ∀ x, ¬ Problem.Names (.noInteger "²") x := by
  refine ⟨ofEnvironment_workers ?_, by decide +kernel,
    Problem.IsForeign.not_names (.inl ⟨_, rfl⟩)⟩
  have hword : strip "²" = "²" := by decide +kernel
  have hdigit : "²".toList.all isDigit = true := by decide +kernel
  have hread : Integer.read "²" = .error .malformed := by cbv
  simp only [readWorkers, hword, hdigit, hread]
  rfl

end Settings

end FunctionManual
