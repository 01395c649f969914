import FunctionManual.Proofs.Syntax.Grammar

/-!
# What reading functions read

* `IsLegible`: the value of a literal can be told, or its pattern has a problem.
* `HasFloats`: the floats are spelled as numbers.
* `Reads`: a reading function takes tokens that derive its tree from the front, or refuses with
  an error of the program when the tokens are legible.
* `readsWith`, `readStatement_reads`, `readStatements_readsProgram`: the reading functions do so.
-/

namespace FunctionManual.Syntax

/-- A number token has a value, and what is wrong with the pattern of a regex token is a problem
with a wording. -/
structure IsLegible (t : Token) : Prop where
  integer : t.kind = .integer → ∃ i, Integer.readPlain t.text.toList = .ok i
  float : t.kind = .float → ∃ x, Binary64.read t.text = some x
  regex : t.kind = .regex → ∀ e, Regex.compile t.text = .error e → ∃ p pos, e = .problem p pos

/-- All tokens are legible. -/
def Legible (ts : List Token) : Prop := ∀ t ∈ ts, IsLegible t

theorem Legible.of_append {us rest : List Token} (h : Legible (us ++ rest)) : Legible rest :=
  fun t ht => h t (List.mem_append_right us ht)

/-- All floats have values. -/
def HasFloats (ts : List Token) : Prop :=
  ∀ t ∈ ts, t.kind = .float → ∃ x, Binary64.read t.text = some x

theorem Legible.hasFloats {ts : List Token} (h : Legible ts) : HasFloats ts :=
  fun t ht => (h t ht).float

theorem HasFloats.of_append {us rest : List Token} (h : HasFloats (us ++ rest)) : HasFloats rest :=
  fun t ht => h t (List.mem_append_right us ht)

theorem HasFloats.tail {t : Token} {ts : List Token} (h : HasFloats (t :: ts)) : HasFloats ts :=
  fun u hu => h u (List.mem_cons_of_mem t hu)

/-- A refusal that is an error of the program. -/
def IsError (r : Refusal) : Prop := ∃ e, r = .error e

/-- The result of reading from `ts`: a tree that the tokens taken derive, or a refusal, which is an
error when the tokens are legible. -/
def Reads {α : Type} (D : List Token → α → Prop) (ts : List Token) :
    Except Refusal (α × List Token) → Prop
  | .ok (a, rest) => ∃ us, ts = us ++ rest ∧ D us a
  | .error r => Legible ts → IsError r

section Reads

variable {α β : Type} {D : List Token → α → Prop} {ts : List Token}

theorem Reads.ok (us : List Token) {rest : List Token} {a : α} (hts : ts = us ++ rest)
    (h : D us a) : Reads D ts (.ok (a, rest)) := ⟨us, hts, h⟩

theorem Reads.unexpected (stop : Nat) (expected : Expected) (us : List Token) :
    Reads D ts (unexpected stop expected us) := fun _ => ⟨_, rfl⟩

/-- Reading one thing, and another behind it. -/
theorem Reads.bind {E : List Token → β → Prop} {x : Except Refusal (α × List Token)}
    {f : α × List Token → Except Refusal (β × List Token)} (hx : Reads D ts x)
    (hf : ∀ us a rest, ts = us ++ rest → D us a →
      Reads (fun vs b => E (us ++ vs) b) rest (f (a, rest))) :
    Reads E ts (x >>= f) := by
  cases x with
  | error r => exact hx
  | ok p =>
    obtain ⟨a, rest⟩ := p
    obtain ⟨us, hts, hd⟩ := hx
    have h := hf us a rest hts hd
    show Reads E ts (f (a, rest))
    cases hr : f (a, rest) with
    | error r =>
      rw [hr] at h
      intro hl
      rw [hts] at hl
      exact h hl.of_append
    | ok q =>
      rw [hr] at h
      obtain ⟨vs, hrest, he⟩ := h
      exact ⟨us ++ vs, by rw [hts, hrest, List.append_assoc], he⟩

/-- Tokens in front of what is read. -/
theorem Reads.append {E : List Token → α → Prop} (pre : List Token) {rest : List Token}
    {x : Except Refusal (α × List Token)}
    (hx : Reads (fun us a => E (pre ++ us) a) rest x) : Reads E (pre ++ rest) x := by
  cases x with
  | error r => exact fun hl => hx hl.of_append
  | ok p =>
    obtain ⟨us, hts, hd⟩ := hx
    exact ⟨pre ++ us, by rw [hts, List.append_assoc], hd⟩

/-- A token in front of what is read. -/
theorem Reads.cons {E : List Token → α → Prop} {t : Token} {rest : List Token}
    {x : Except Refusal (α × List Token)}
    (hx : Reads (fun us a => E (t :: us) a) rest x) : Reads E (t :: rest) x :=
  hx.append [t]

end Reads

/-! ## Marks -/

theorem atMark_iff {mark : String} {ts : List Token} :
    atMark mark ts ↔ ∃ t rest, ts = t :: rest ∧ t.isMark mark := by
  cases ts with
  | nil => simp [atMark]
  | cons t rest => simp [atMark]

/-- A mark is the one token that is taken, or there is an error. -/
theorem takeMark_reads (stop : Nat) (mark : String) (ts : List Token) :
    Reads (fun us t => us = [t] ∧ t.isMark mark) ts (takeMark stop mark ts) := by
  cases ts with
  | nil => exact Reads.unexpected _ _ _
  | cons t rest =>
    simp only [takeMark]
    split
    · exact Reads.ok [t] rfl ⟨rfl, ‹_›⟩
    · exact Reads.unexpected _ _ _

/-! ## Literals and paths -/

theorem literal_of_regexValue {t : Token} (h : t.kind = .regex) {v : Scalar}
    (hv : regexValue t = .ok v) : Literal t v := by
  unfold regexValue at hv
  split at hv
  next r hr => cases hv; exact .regex h hr
  next => split at hv <;> cases hv

theorem isError_of_regexValue {t : Token} (h : t.kind = .regex) (hl : IsLegible t) {r : Refusal}
    (hr : regexValue t = .error r) : IsError r := by
  unfold regexValue at hr
  split at hr
  next => cases hr
  next e he =>
    obtain ⟨p, pos, rfl⟩ := hl.regex h e he
    cases hr
    exact ⟨_, rfl⟩

theorem literal_of_integerValue {t : Token} (h : t.kind = .integer) {v : Scalar}
    (hv : integerValue t.text = .ok v) : Literal t v := by
  unfold integerValue at hv
  split at hv
  next i hi => cases hv; exact .integer h hi
  next => cases hv
  next => cases hv

theorem integerValue_ne_error {t : Token} (h : t.kind = .integer) (hl : IsLegible t)
    (r : Refusal) : integerValue t.text ≠ .error r := by
  obtain ⟨i, hi⟩ := hl.integer h
  simp only [integerValue, hi]
  exact nofun

/-- A literal whose value is told by `x`. -/
private theorem reads_literal {t : Token} {rest : List Token} {x : Except Refusal Scalar}
    (hok : ∀ v, x = .ok v → Literal t v) (herror : ∀ r, x = .error r → IsLegible t → IsError r) :
    Reads (fun us e => Derives us (.expr e)) (t :: rest) (do return (.literal (← x), rest)) := by
  cases x with
  | error r => exact fun hl => herror r rfl (hl t List.mem_cons_self)
  | ok v => exact Reads.ok [t] rfl (.literal (hok v rfl))

/-- The names that are read are those that the tokens in front derive. -/
theorem readNames_eq (ts : List Token) :
    ∃ us, ts = us ++ (readNames ts).2 ∧ DerivesNames us (readNames ts).1 := by
  fun_induction readNames ts with
  | case1 dot name rest h names rest' hr ih =>
    obtain ⟨us, hus, hd⟩ := ih
    rw [hr] at hus hd
    simp only [Bool.and_eq_true, decide_eq_true_eq] at h
    exact ⟨dot :: name :: us, by rw [hus]; rfl, .cons h.1 h.2 hd⟩
  | case2 dot name rest h => exact ⟨[], rfl, .nil⟩
  | case3 ts h => exact ⟨[], rfl, .nil⟩

/-- The path that is read is the one that the tokens in front derive. -/
theorem readPath_eq {dot : Token} (hd : dot.isMark ".") (ts : List Token) :
    ∃ us, ts = us ++ (readPath dot ts).2 ∧ DerivesPath (dot :: us) (readPath dot ts).1 := by
  cases ts with
  | nil => exact ⟨[], rfl, .event hd⟩
  | cons name rest =>
    simp only [readPath]
    split
    · rename_i h
      simp only [Bool.and_eq_true, decide_eq_true_eq] at h
      obtain ⟨us, hus, hn⟩ := readNames_eq rest
      exact ⟨name :: us, by rw [List.cons_append, ← hus], .names hd h.1 h.2 hn⟩
    · exact ⟨[], rfl, .event hd⟩

/-! ## Expressions -/

/-- The reading functions for expressions and their parts do their work with `fuel` steps. -/
structure ReadsWith (stop fuel : Nat) : Prop where
  expr : ∀ ts, HasFloats ts → Reads (fun us e => Derives us (.expr e)) ts (readExpr stop fuel ts)
  items : ∀ ts, HasFloats ts →
    Reads (fun us es => Derives us (.items es)) ts (readItems stop fuel ts)
  entries : ∀ ts, HasFloats ts →
    Reads (fun us es => Derives us (.entries es)) ts (readEntries stop fuel ts)
  arguments : ∀ ts, HasFloats ts →
    Reads (fun us as => Derives us (.arguments as)) ts (readArguments stop fuel ts)

section Step

variable {stop fuel : Nat}

/-- A bracket, its content and the bracket that closes it. -/
private theorem reads_bracketed {α : Type} {D : List Token → α → Prop} {f : α → Expr}
    {o : Token} {rest : List Token} {mark : String} {x : Except Refusal (α × List Token)}
    (hx : Reads D rest x)
    (hf : ∀ us a c, D us a → c.isMark mark → Derives (o :: us ++ [c]) (.expr (f a))) :
    Reads (fun us e => Derives us (.expr e)) (o :: rest) (do
      let (a, rest') ← x
      let (_, rest'') ← takeMark stop mark rest'
      return (f a, rest'')) := by
  refine Reads.cons (hx.bind fun us a rest' _ ha => ?_)
  refine (takeMark_reads stop mark rest').bind fun vs c rest'' _ hc => ?_
  obtain ⟨rfl, hc⟩ := hc
  exact Reads.ok [] rfl (by simpa using hf us a c ha hc)

/-- The arguments of a call of `t`, whose exclamation mark is taken if it has one. -/
private theorem readCallee_reads (ih : ReadsWith stop fuel) {t : Token} (bang : Option Token)
    {inside : List Token} (ht : IsName t) (hb : ∀ b ∈ bang, b.isMark "!") (hl : HasFloats inside) :
    Reads (fun us e => Derives (t :: (bang.toList ++ us)) (.expr e)) inside (do
      let (_, inside') ← takeMark stop "(" inside
      let (arguments, rest') ← readArguments stop fuel inside'
      let (close, rest'') ← takeMark stop ")" rest'
      return (.call t.text arguments bang.isSome ⟨t.span.start, close.span.stop⟩, rest'')) := by
  refine (takeMark_reads stop "(" inside).bind fun us o inside' hi ho => ?_
  obtain ⟨rfl, ho⟩ := ho
  have hl' : HasFloats inside' := by rw [hi] at hl; exact hl.tail
  refine (ih.arguments inside' hl').bind fun us as rest' _ has => ?_
  refine (takeMark_reads stop ")" rest').bind fun vs c rest'' _ hc => ?_
  obtain ⟨rfl, hc⟩ := hc
  exact Reads.ok [] rfl (by simpa using Derives.call ht hb ho has hc)

/-- A call is read with the exclamation mark that it has. -/
private theorem readCall_reads (ih : ReadsWith stop fuel) {t : Token} {rest : List Token}
    (ht : IsName t) (hl : HasFloats rest) :
    Reads (fun us e => Derives us (.expr e)) (t :: rest) (do
      let mayFail := atMark "!" rest
      let (_, inside) ← takeMark stop "(" (if mayFail then rest.drop 1 else rest)
      let (arguments, rest') ← readArguments stop fuel inside
      let (close, rest'') ← takeMark stop ")" rest'
      return (.call t.text arguments mayFail ⟨t.span.start, close.span.stop⟩, rest'')) := by
  by_cases h : atMark "!" rest
  · obtain ⟨b, inside, rfl, hb⟩ := atMark_iff.mp h
    simp only [h, if_true, List.drop_one, List.tail_cons]
    exact Reads.cons (Reads.cons (readCallee_reads ih (some b) ht (by simpa using hb) hl.tail))
  · simp only [h]
    exact Reads.cons (readCallee_reads ih none ht (by simp) hl)

/-- One more step reads an expression; its cases are the kinds of the first token. -/
theorem readExpr_step (ih : ReadsWith stop fuel) (ts : List Token) (hl : HasFloats ts) :
    Reads (fun us e => Derives us (.expr e)) ts (readExpr stop (fuel + 1) ts) := by
  cases ts with
  | nil => exact Reads.unexpected _ _ _
  | cons t rest =>
    have hr := hl.tail
    unfold readExpr
    split
    next hk => exact Reads.ok [t] rfl (.literal (.string (Or.inl hk)))
    next hk => exact Reads.ok [t] rfl (.literal (.string (Or.inr hk)))
    next hk =>
      exact reads_literal (fun v => literal_of_regexValue hk)
        fun r hr ht => isError_of_regexValue hk ht hr
    next hk =>
      exact reads_literal (fun v => literal_of_integerValue hk)
        fun r hr ht => absurd hr (integerValue_ne_error hk ht r)
    next hk =>
      obtain ⟨x, hx⟩ := hl t List.mem_cons_self hk
      rw [hx]; exact Reads.ok [t] rfl (.literal (.float hk hx))
    next hk =>
      split
      next v hv => exact Reads.ok [t] rfl (.literal (.keyword hk hv))
      next hv =>
        split
        · exact readCall_reads ih ⟨hk, hv⟩ hr
        · exact Reads.ok [t] rfl (.name ⟨hk, hv⟩)
    next =>
      split
      next ho => exact reads_bracketed (ih.items rest hr) fun us es c h hc => .array ho h hc
      next =>
      split
      next ho => exact reads_bracketed (ih.entries rest hr) fun us es c h hc => .object ho h hc
      next =>
      split
      next hd =>
        obtain ⟨us, hus, hp⟩ := readPath_eq hd rest
        exact Reads.ok (t :: us) (congrArg (t :: ·) hus) (.path hp)
      next =>
      split
      next ho => exact reads_bracketed (f := id) (ih.expr rest hr) fun us e c h hc => .group ho h hc
      next => exact Reads.unexpected _ _ _
    next => exact Reads.unexpected _ _ _
    next => exact Reads.unexpected _ _ _

/-- Behind an element stands nothing of its list, or a comma and the elements that follow it. -/
def further {α : Type} (next : List Token → Except Refusal (List α × List Token)) (a : α)
    (rest : List Token) : Except Refusal (List α × List Token) :=
  if atMark "," rest then do
    let (as, rest') ← next (rest.drop 1)
    return (a :: as, rest')
  else return ([a], rest)

/-- The element `us` and those that follow it. -/
private theorem further_reads {α : Type} (D : List Token → List α → Prop) (us : List Token)
    {rest : List Token} {a : α} {next : List Token → Except Refusal (List α × List Token)}
    (hl : HasFloats rest) (hn : ∀ ts, HasFloats ts → Reads D ts (next ts)) (last : D us [a])
    (more : ∀ c vs as, c.isMark "," → D vs as → D (us ++ c :: vs) (a :: as)) :
    Reads (fun vs as => D (us ++ vs) as) rest (further next a rest) := by
  unfold further
  split
  · rename_i hm
    obtain ⟨c, rest, rfl, hc⟩ := atMark_iff.mp hm
    refine Reads.cons ((hn rest hl.tail).bind fun vs as rest' _ has => ?_)
    exact Reads.ok [] rfl (by simpa using more c vs as hc has)
  · exact Reads.ok [] rfl (by simpa using last)

theorem readItems_step (ih : ReadsWith stop fuel) (ts : List Token) (hl : HasFloats ts) :
    Reads (fun us es => Derives us (.items es)) ts (readItems stop (fuel + 1) ts) := by
  unfold readItems
  split
  · exact Reads.ok [] rfl .noItems
  · refine (ih.expr ts hl).bind fun us e rest hts he => ?_
    have hr : HasFloats rest := by rw [hts] at hl; exact hl.of_append
    exact further_reads (fun us es => Derives us (.items es)) us hr ih.items (.lastItem he)
      fun c vs es => .moreItems he

theorem readEntries_step (ih : ReadsWith stop fuel) (ts : List Token) (hl : HasFloats ts) :
    Reads (fun us es => Derives us (.entries es)) ts (readEntries stop (fuel + 1) ts) := by
  unfold readEntries
  split
  · exact Reads.ok [] rfl .noEntries
  · cases ts with
    | nil => exact Reads.unexpected _ _ _
    | cons key rest =>
      dsimp only
      split
      · rename_i hk
        simp only [Bool.or_eq_true, decide_eq_true_eq] at hk
        refine Reads.cons ((takeMark_reads stop ":" rest).bind fun us colon body hb hc => ?_)
        obtain ⟨rfl, hc⟩ := hc
        have hl' : HasFloats body := by rw [hb] at hl; exact hl.tail.tail
        refine (ih.expr body hl').bind fun us e left hts he => ?_
        have hr : HasFloats left := by rw [hts] at hl'; exact hl'.of_append
        have hd : Derives (key :: colon :: us) (.entry (key.text, e)) := .entry hk hc he
        exact further_reads (fun us es => Derives us (.entries es)) (key :: colon :: us) hr
          ih.entries (.lastEntry hd) fun c vs es => .moreEntries hd
      · exact Reads.unexpected _ _ _

theorem readArguments_step (ih : ReadsWith stop fuel) (ts : List Token) (hl : HasFloats ts) :
    Reads (fun us as => Derives us (.arguments as)) ts (readArguments stop (fuel + 1) ts) := by
  unfold readArguments
  split
  · exact Reads.ok [] rfl .noArguments
  · have value : ∀ (pre : List Token) {body : List Token} {name : Option String}, HasFloats body →
        (∀ us e, Derives us (.expr e) → Derives (pre ++ us) (.argument (name, e))) →
        Reads (fun us as => Derives (pre ++ us) (.arguments as)) body
          (readExpr stop fuel body >>= fun found =>
            further (readArguments stop fuel) (name, found.1) found.2) := by
      intro pre body name hb hd
      refine (ih.expr body hb).bind fun us e left hts he => ?_
      have hr : HasFloats left := by rw [hts] at hb; exact hb.of_append
      simp only [← List.append_assoc]
      exact further_reads (fun us as => Derives us (.arguments as)) (pre ++ us) hr ih.arguments
        (.lastArgument (hd us e he)) fun c vs as => .moreArguments (hd us e he)
    cases ts with
    | nil => exact value [] hl fun us e => .positional
    | cons t rest =>
      dsimp only
      split
      · rename_i h
        simp only [Bool.and_eq_true, decide_eq_true_eq] at h
        obtain ⟨colon, body, rfl, hc⟩ := atMark_iff.mp h.2
        exact Reads.cons (Reads.cons (value [t, colon] hl.tail.tail
          fun us e => .named h.1 hc))
      · exact value [] hl fun us e => .positional

end Step

/-- Any number of steps reads what the tokens derive. The induction is on the steps. -/
theorem readsWith (stop fuel : Nat) : ReadsWith stop fuel := by
  induction fuel with
  | zero =>
    refine ⟨fun ts _ => ?_, fun ts _ => ?_, fun ts _ => ?_, fun ts _ => ?_⟩
    · unfold readExpr; exact Reads.unexpected _ _ _
    · unfold readItems; exact Reads.ok [] rfl .noItems
    · unfold readEntries; exact Reads.ok [] rfl .noEntries
    · unfold readArguments; exact Reads.ok [] rfl .noArguments
  | succ fuel ih =>
    exact ⟨readExpr_step ih, readItems_step ih, readEntries_step ih, readArguments_step ih⟩

/-! ## Statements -/

theorem Derives.ne_nil {ts : List Token} {e : Expr} (h : Derives ts (.expr e)) : ts ≠ [] := by
  cases h with
  | path hp => cases hp <;> simp
  | _ => simp

theorem DerivesPath.ne_nil {ts : List Token} {names : List String} (h : DerivesPath ts names) :
    ts ≠ [] := by
  cases h <;> simp

theorem DerivesStatement.ne_nil {ts : List Token} {s : Statement} (h : DerivesStatement ts s) :
    ts ≠ [] := by
  cases h with
  | expr h => exact h.ne_nil
  | assignVariable => simp
  | assignPath => simp

/-- The expression behind an equals sign. -/
private theorem readAssigned_reads {stop fuel : Nat} (pre : List Token) {rest : List Token}
    {target : Target}
    (hl : HasFloats rest) (hm : atMark "=" rest)
    (hs : ∀ eq us e, eq.isMark "=" → Derives us (.expr e) →
      DerivesStatement (pre ++ eq :: us) (.assign target e)) :
    Reads (fun us s => DerivesStatement (pre ++ us) s) rest (do
      let (value, rest') ← readExpr stop fuel (rest.drop 1)
      return (.assign target value, rest')) := by
  obtain ⟨eq, rest, rfl, he⟩ := atMark_iff.mp hm
  refine Reads.cons (((readsWith stop fuel).expr rest hl.tail).bind fun us e rest' _ hd => ?_)
  exact Reads.ok [] rfl (by simpa using hs eq us e he hd)

/-- A statement is read from tokens that derive it. -/
theorem readStatement_reads (stop : Nat) (ts : List Token) (hl : HasFloats ts) :
    Reads DerivesStatement ts (readStatement stop ts) := by
  cases ts with
  | nil => exact Reads.unexpected _ _ _
  | cons t rest =>
    simp only [readStatement]
    split
    · rename_i h
      simp only [Bool.and_eq_true, decide_eq_true_eq, Option.isNone_iff_eq_none] at h
      exact Reads.cons (readAssigned_reads [t] hl.tail h.2
        fun eq us e => .assignVariable h.1)
    · split
      · rename_i hd
        obtain ⟨us, hus, hp⟩ := readPath_eq hd rest
        generalize readPath t rest = found at hus hp
        obtain ⟨names, rest'⟩ := found
        dsimp only at hus hp ⊢
        subst hus
        split
        · rename_i hm
          exact Reads.append (t :: us) (readAssigned_reads (t :: us) hl.tail.of_append hm
            fun eq vs e => .assignPath hp)
        · exact Reads.ok (t :: us) rfl (.expr (.path hp))
      · exact ((readsWith stop _).expr _ hl).bind fun us e rest' _ hd =>
          Reads.ok [] rfl (by simpa using DerivesStatement.expr hd)

/-! ## Programs -/

/-- The result of reading all tokens: a program that they derive, or a refusal, which is an error
when the tokens are legible. -/
def ReadsProgram (ts : List Token) : Except Refusal Program → Prop
  | .ok p => DerivesProgram ts p
  | .error r => Legible ts → IsError r

/-- The result of reading legible tokens: a program that they derive, or an error. -/
def ReadsAll (ts : List Token) : Except Refusal Program → Prop
  | .ok p => DerivesProgram ts p
  | .error r => IsError r

/-- Leading separators, and what stands behind them. -/
theorem separators_append (ts : List Token) :
    ∃ seps, ts = seps ++ ts.dropWhile Token.isSeparator ∧ AreSeparators seps :=
  ⟨ts.takeWhile Token.isSeparator, List.takeWhile_append_dropWhile.symm,
    List.all_eq_true.mp List.all_takeWhile⟩

/-- Each statement takes a token at least, so `fuel` steps are enough. -/
theorem readStatements_readsProgram (stop fuel : Nat) (ts : List Token) (hf : ts.length < fuel)
    (hl : HasFloats ts) : ReadsProgram ts (readStatements stop fuel ts) := by
  induction fuel generalizing ts with
  | zero => omega
  | succ fuel ih =>
    obtain ⟨seps, hts, hs⟩ := separators_append ts
    unfold readStatements
    generalize ts.dropWhile Token.isSeparator = body at hts
    subst hts
    cases body with
    | nil => exact .nil (by simpa using hs)
    | cons first others =>
      have h := readStatement_reads stop (first :: others) hl.of_append
      dsimp only
      cases hr : readStatement stop (first :: others) with
      | error r => rw [hr] at h; exact fun hl => h hl.of_append
      | ok found =>
        obtain ⟨s, rest⟩ := found
        rw [hr] at h
        obtain ⟨us, hus, hd⟩ := h
        rw [hus] at hl hf ⊢
        cases rest with
        | nil => exact .last hs (by simpa using hd)
        | cons t rest =>
          show ReadsProgram _ (if t.isSeparator then _ else _)
          split
          · rename_i ht
            -- the separator is left in place, so only the statement counts as progress
            have hpos := List.length_pos_iff.mpr hd.ne_nil
            have hp := ih (t :: rest) (by simp at hf ⊢; omega) hl.of_append.of_append
            cases hn : readStatements stop fuel (t :: rest) with
            | error r => rw [hn] at hp; exact fun hl => hp hl.of_append.of_append
            | ok p => rw [hn] at hp; exact .more hs hd ht hp
          · exact fun _ => ⟨_, rfl⟩

/-- Legible tokens are read as a program that they derive, or have an error. -/
theorem readStatements_reads (stop fuel : Nat) (ts : List Token) (hf : ts.length < fuel)
    (hl : Legible ts) : ReadsAll ts (readStatements stop fuel ts) := by
  have h := readStatements_readsProgram stop fuel ts hf hl.hasFloats
  cases hr : readStatements stop fuel ts with
  | error r => rw [hr] at h; exact h hl
  | ok p => rw [hr] at h; exact h

end FunctionManual.Syntax
