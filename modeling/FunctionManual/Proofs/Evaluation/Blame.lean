import FunctionManual.Proofs.Evaluation.Order
import FunctionManual.Proofs.Evaluation.Outcome
import FunctionManual.Proofs.Syntax.Positions

/-!
# Which call a failure is put down to

* `Objection`, `OwnFailure`: what is wrong with one argument, and why a call fails of its own.
* `callEntry_eq_error`: the message of a call is made of its own complaint.
* `Call.blame`, `Call.blame_inj`: what a message begins with tells the name and the place of a call.
* `IsBlamed`: a message is that of the first call that fails, and of no other.
* `evaluate_blames_one_call`: every failure while a program runs is such a message, or that of an
  undefined variable, which no call adds to.
-/

namespace FunctionManual

variable {r : Registry} {scope scope' : Scope} {m m' m₁ : Machine} {e : ExpressionError} {f : Fault}

/-! ## Complaints of calls -/

/-- What is wrong with the value of a parameter: its type, or that it is none of the variants. -/
inductive Objection (s : Store) (p : Parameter) (d : Datum) : String → Prop
  | type {wanted found : String} (h : acceptsDatum s p.type d = false)
      (hw : (p.type.map TypeSpec.render).getD "" = wanted) (hk : kindName s d = .ok found) :
      Objection s p d s!"expected {wanted} for argument \"{p.name.plain}\", got {found}"
  | variant (h : acceptsDatum s p.type d = true) (hv : p.variants ≠ [])
      (hn : amongVariants s p.variants d = false) :
      Objection s p d
        s!"invalid value for argument \"{p.name.plain}\": expected one of {variantList p.variants}"

/-- Why a call with these arguments fails of its own: the first parameter whose value is objected
to, or the error that its evaluator ends in. -/
inductive OwnFailure (entry : Entry) (given : Arguments) (m : Machine) : String → Prop
  | parameter {before after : List Parameter} {p : Parameter} {bound : Arguments} {m₁ : Machine}
      {d : Datum} {text : String} (hp : entry.doc.parameters = before ++ p :: after)
      (hb : bindParameters before given m = (.ok bound, m₁))
      (hd : bound.lookup p.name.plain = some d) (h : Objection m₁.store p d text) :
      OwnFailure entry given m text
  | raised {bound : Arguments} {m₁ m₂ : Machine} {e : ExpressionError}
      (hb : bindParameters entry.doc.parameters given m = (.ok bound, m₁))
      (he : entry.evaluator bound m₁ = (.error (.expression e), m₂)) :
      OwnFailure entry given m e.message

theorem checkValue_eq_expression {s : Store} {p : Parameter} {d : Datum}
    (h : checkValue s p d = .error (.expression e)) :
    ∃ text, e = .reason text ∧ Objection s p d text := by
  unfold checkValue at h
  cases ht : acceptsDatum s p.type d with
  | false =>
    rw [ht] at h
    cases hk : kindName s d with
    | error f =>
      rw [hk] at h
      unfold kindName at hk
      split at hk <;> cases hk
      cases h
    | ok found =>
      rw [hk] at h
      cases h
      exact ⟨_, rfl, .type ht rfl hk⟩
  | true =>
    rw [ht] at h
    cases hv : !p.variants.isEmpty && !amongVariants s p.variants d with
    | false =>
      rw [hv] at h
      cases h
    | true =>
      rw [hv] at h
      cases h
      simp only [Bool.and_eq_true, Bool.not_eq_true', List.isEmpty_eq_false_iff] at hv
      exact ⟨_, rfl, .variant ht hv.1 hv.2⟩

theorem bindParameters_cons (p : Parameter) (rest : List Parameter) (given : Arguments) :
    bindParameters (p :: rest) given = bindParameters [p] given >>= bindParameters rest := by
  rw [bindParameters, bindParameters]
  cases given.lookup p.name.plain with
  | some d => simp only [bindParameters, bind_assoc, pure_bind]
  | none =>
    dsimp only
    split
    · simp only [bindParameters, pure_bind]
    · simp only [bindParameters, bind_assoc, pure_bind]

/-- A parameter that cannot be bound has a value that is objected to. -/
theorem bindParameter_eq_expression {p : Parameter} {given : Arguments}
    (h : bindParameters [p] given m = (.error (.expression e), m')) :
    ∃ d text, given.lookup p.name.plain = some d ∧ e = .reason text ∧
      Objection m.store p d text := by
  rw [bindParameters] at h
  cases hl : given.lookup p.name.plain with
  | some d =>
    simp only [hl] at h
    rw [Action.bind_run, Action.look_run] at h
    obtain h | ⟨u, m₁, -, h⟩ := Action.bind_eq_error h
    · rw [Action.ofExcept_run, Prod.mk.injEq] at h
      obtain ⟨text, he, ho⟩ := checkValue_eq_expression h.1
      exact ⟨d, text, rfl, he, ho⟩
    · cases h
  | none =>
    simp only [hl] at h
    split at h
    · cases h
    · obtain h | ⟨d, m₁, -, h⟩ := Action.bind_eq_error h <;> cases h

/-- Of parameters that cannot all be bound, one is the first. -/
theorem bindParameters_eq_expression {ps : List Parameter} {given : Arguments}
    (h : bindParameters ps given m = (.error (.expression e), m')) :
    ∃ before p after bound m₁ d text, ps = before ++ p :: after ∧
      bindParameters before given m = (.ok bound, m₁) ∧ bound.lookup p.name.plain = some d ∧
      e = .reason text ∧ Objection m₁.store p d text := by
  induction ps generalizing given m with
  | nil => cases h
  | cons p ps ih =>
    rw [bindParameters_cons] at h
    obtain h | ⟨bound, m₁, hp, h⟩ := Action.bind_eq_error h
    · obtain ⟨d, text, hd, he, ho⟩ := bindParameter_eq_expression h
      exact ⟨[], p, ps, given, m, d, text, rfl, rfl, hd, he, ho⟩
    · obtain ⟨before, q, after, bound', m₂, d, text, rfl, hb, hd, he, ho⟩ := ih h
      refine ⟨p :: before, q, after, bound', m₂, d, text, rfl, ?_, hd, he, ho⟩
      rw [bindParameters_cons, Action.bind_of_ok hp, hb]

/-- The error of a call names it and its own complaint. -/
theorem callEntry_eq_error {entry : Entry} {span : Span} {given : Arguments}
    (h : callEntry entry span given m = (.error (.expression e), m')) :
    ∃ because, e = .call entry.identifier span because ∧ OwnFailure entry given m because := by
  obtain ⟨e', h, he⟩ | ⟨-, hne⟩ := Action.mapExpressionError_eq_error h
  · rw [Fault.expression.injEq] at he
    refine ⟨e'.message, he, ?_⟩
    obtain h | ⟨bound, m₁, hb, h⟩ := Action.bind_eq_error h
    · obtain ⟨before, p, after, bound, m₁, d, text, hp, hb, hd, rfl, ho⟩ :=
        bindParameters_eq_expression h
      exact .parameter hp hb hd ho
    · exact .raised hb h
  · exact absurd rfl (hne e)

/-! ## Names and places in messages -/

/-- What the message of a failed call begins with. -/
def Call.blame (c : Call) : String := s!"function call error for \"{c.name}\" at {c.span.text}: "

theorem ExpressionError.message_call (c : Call) (because : String) :
    (ExpressionError.call c.name c.span because).message = c.blame ++ because := rfl

/-- What stands before the first `a` is told by the whole, and so is what stands behind it. -/
theorem append_cons_inj {α : Type} [DecidableEq α] {a : α} {x y z w : List α} (hx : a ∉ x)
    (hy : a ∉ y) (h : x ++ a :: z = y ++ a :: w) : x = y ∧ z = w := by
  have hlen : x.length = y.length := by
    have hidx := congrArg (List.idxOf a) h
    rwa [List.idxOf_append_of_notMem hx, List.idxOf_append_of_notMem hy, List.idxOf_cons_self,
      List.idxOf_cons_self] at hidx
  obtain ⟨hxy, hzw⟩ := List.append_inj h hlen
  exact ⟨hxy, (List.cons.inj hzw).2⟩

theorem toDigits_inj {i j : Nat} (h : Nat.toDigits 10 i = Nat.toDigits 10 j) : i = j := by
  rw [← digitsValue_toDigits i, h, digitsValue_toDigits]

theorem colon_not_mem (n : Nat) : ':' ∉ Nat.toDigits 10 n :=
  fun h => absurd (areDigits_toDigits n _ h) (by decide)

theorem Span.toList_text (s : Span) :
    s.text.toList =
      '(' :: (Nat.toDigits 10 s.start ++ ':' :: (Nat.toDigits 10 s.stop ++ [')'])) := by
  have htext : s.text = "(" ++ toString s.start ++ ":" ++ toString s.stop ++ ")" := rfl
  rw [htext, String.toList_append, String.toList_append, String.toList_append,
    String.toList_append, toList_toString, toList_toString, List.append_assoc, List.append_assoc,
    List.append_assoc]
  rfl

theorem Call.toList_blame (c : Call) (because : String) :
    (c.blame ++ because).toList = "function call error for \"".toList ++ (c.name.toList ++
      '"' :: (" at ".toList ++ (c.span.text.toList ++ (": ".toList ++ because.toList)))) := by
  have hblame : c.blame =
      "function call error for \"" ++ c.name ++ "\" at " ++ c.span.text ++ ": " := rfl
  have hat : "\" at ".toList = '"' :: " at ".toList := rfl
  rw [hblame, String.toList_append, String.toList_append, String.toList_append,
    String.toList_append, String.toList_append, hat]
  simp only [List.append_assoc, List.cons_append]

/-- A message that begins as those of two calls do names both and their places. -/
theorem Call.blame_inj {c d : Call} {s t : String} (hc : Syntax.IsWord c.name)
    (hd : Syntax.IsWord d.name) (h : c.blame ++ s = d.blame ++ t) :
    c.name = d.name ∧ c.span.start = d.span.start := by
  have hlist := congrArg String.toList h
  rw [c.toList_blame, d.toList_blame, List.append_cancel_left_eq] at hlist
  obtain ⟨hname, hrest⟩ := append_cons_inj hc.quote_not_mem hd.quote_not_mem hlist
  rw [List.append_cancel_left_eq, c.span.toList_text, d.span.toList_text, List.cons_append,
    List.cons_append, List.append_assoc, List.append_assoc, List.cons.injEq] at hrest
  obtain ⟨hstart, -⟩ := append_cons_inj (colon_not_mem _) (colon_not_mem _) hrest.2
  exact ⟨String.ext hname, toDigits_inj hstart⟩

/-! ## Failures of evaluations -/

/-- The wording of an undefined variable. -/
theorem CompileError.message_undefinedVariable (name : String) (span : Span) :
    (CompileError.mk .undefinedVariable name span).message =
      s!"undefined variable \"{name}\" at {span.text}" := by
  have hmark : "\" at " = "\"" ++ " at " := rfl
  show "undefined variable \"" ++ name ++ "\"" ++ " at " ++ span.text =
    "undefined variable \"" ++ name ++ "\" at " ++ span.text
  rw [hmark]
  simp only [String.append_assoc]

/-- No call words an undefined variable. -/
theorem Call.blame_ne_undefinedVariable (c : Call) (because name : String) (span : Span) :
    s!"undefined variable \"{name}\" at {span.text}" ≠ c.blame ++ because := by
  intro h
  have hleft : (s!"undefined variable \"{name}\" at {span.text}").toList =
      "undefined variable \"".toList ++ (name.toList ++ ("\" at ".toList ++ span.text.toList)) := by
    show ("undefined variable \"" ++ name ++ "\" at " ++ span.text).toList = _
    simp only [String.toList_append, List.append_assoc]
  have hu : "undefined variable \"".toList.head? = some 'u' := rfl
  have hf : "function call error for \"".toList.head? = some 'f' := rfl
  have hhead := congrArg (fun s => s.toList.head?) h
  simp only [hleft, c.toList_blame, List.head?_append, hu, hf, Option.some_or] at hhead
  cases hhead

/-- The failure that ends a run is put down to the call `c`: the message is what messages about `c`
begin with and a failure of its own, it begins so for no other call of the program, and the calls
that are made before `c` have returned. -/
structure IsBlamed (r : Registry) (p : Program) (scope : Scope) (m : Machine) (c : Call)
    (message : String) : Prop where
  worded : ∃ (x : Arrival r p scope m) (because : String), x.call = c ∧
    OwnFailure x.entry x.given x.evaluated because ∧ message = c.blame ++ because
  sole : ∃ before after, p.calls = before ++ c :: after ∧
    ∀ b ∈ before ++ after, ∀ because, message ≠ b.blame ++ because
  first : ∃ before after, p.callsInOrder = before ++ c :: after ∧
    ∀ b ∈ before, p.Returns r scope m b

theorem Registry.identifier_of_find? {name : String} {entry : Entry}
    (h : r.find? name = some entry) : entry.identifier = name := by
  simpa using List.find?_some h

/-- The arguments of a call whose function takes them have values. -/
theorem Arrival.parts_eq_ok {p : Program} (x : Arrival r p scope m) (hp : p.IsChecked r) :
    ∃ ds, evalItems r x.current x.call.expr.parts x.before = (.ok ds, x.evaluated) := by
  obtain ⟨names, hn⟩ := x.fits hp
  have h := x.supplied
  rw [hn.evalArguments_eq] at h
  obtain ⟨ds, m₁, hds, h⟩ := Action.bind_eq_ok h
  rw [Action.pure_run, Prod.mk.injEq] at h
  exact ⟨ds, h.2 ▸ hds⟩

theorem Reaches.mem_calls {p : Program} {c : Call} (h : Reaches r p scope m scope' m' c.expr) :
    c ∈ p.calls := by
  generalize hx : c.expr = x at h
  induction h with
  | visit hv =>
    subst hx
    rw [Program.calls, List.flatMap_cons, Statement.calls_eq]
    exact List.mem_append_left _ (hv.calls_subset c.mem_calls)
  | later _ _ ih =>
    rw [Program.calls, List.flatMap_cons]
    exact List.mem_append_right _ (ih hx)

/-- Calls that begin one behind another are told apart by what messages about them begin with. -/
theorem blame_sole {calls : List Call}
    (ho : calls.Pairwise fun c d => c.span.start < d.span.start)
    (hn : ∀ c ∈ calls, Syntax.IsWord c.name) {c : Call} (hc : c ∈ calls) (because : String) :
    ∃ before after, calls = before ++ c :: after ∧
      ∀ b ∈ before ++ after, ∀ text, c.blame ++ because ≠ b.blame ++ text := by
  obtain ⟨before, after, rfl⟩ := List.append_of_mem hc
  refine ⟨before, after, rfl, fun b hb text heq => ?_⟩
  rw [List.pairwise_append, List.pairwise_cons] at ho
  obtain ⟨-, ⟨hafter, -⟩, hbefore⟩ := ho
  have hword : Syntax.IsWord b.name := hn b (by
    rw [List.mem_append] at hb ⊢
    exact hb.imp_right (List.mem_cons_of_mem _))
  have hstart := (Call.blame_inj (hn c hc) hword heq).2
  obtain hb | hb := List.mem_append.mp hb
  · have := hbefore b hb c List.mem_cons_self
    omega
  · have := hafter b hb
    omega

/-- A call that fails once its arguments have values is to blame. -/
theorem isBlamed_of_callEntry {source : String} {p : Program}
    (hread : Syntax.parse source = .ok p) (hp : p.IsChecked r) (x : Arrival r p scope m)
    (h : callEntry x.entry x.call.span x.given x.evaluated = (.error (.expression e), m')) :
    IsBlamed r p scope m x.call e.message := by
  obtain ⟨because, rfl, hown⟩ := callEntry_eq_error h
  obtain ⟨ds, hds⟩ := x.parts_eq_ok hp
  rw [Registry.identifier_of_find? x.registered, ExpressionError.message_call]
  exact {
    worded := ⟨x, because, rfl, hown, rfl⟩
    sole := blame_sole (Syntax.parse_calls_inOrder hread) (Syntax.parse_calls_named hread)
      x.reached.mem_calls because
    first := x.reached.calls_before_return hp hds }

/-- A program that is not accepted has an error of an earlier phase. -/
theorem phase_of_prepare {source : String} (h : prepare r source = .error (.expression e)) :
    e.phase ≠ .call := by
  cases hread : Syntax.parse source with
  | error refusal =>
    rw [prepare_of_parse_error hread, Except.error.injEq] at h
    cases refusal with
    | error => cases h; exact nofun
    | _ => cases h
  | ok p =>
    obtain ⟨hok, -⟩ | ⟨e', he⟩ := prepare_of_parse_ok (r := r) hread
    · rw [hok] at h
      cases h
    · rw [he] at h
      cases h
      exact nofun

theorem prepare_of_compile {source : String} {p : Program} (hread : Syntax.parse source = .ok p)
    (hc : compile r p = .ok ()) : prepare r source = .ok p := by
  rw [prepare, hread]
  show ((compile r p).mapError _ >>= fun _ => pure p) = _
  rw [hc]
  rfl

/-- Every failure of a call is put down to one call of the program, the first that fails. A variable
that is not defined when a run comes to it, in an argument or elsewhere, is the failure of the whole
evaluation, in words that no call adds to. -/
theorem evaluate_blames_one_call (r : Registry) (source : String) (bindings : Value) :
    (∀ x, (evaluate r source bindings).outcome = .ok (.error x) → x.kind = "function_call" →
      ∃ p scope m c, Syntax.parse source = .ok p ∧ compile r p = .ok () ∧
        startScope bindings {} = (.ok scope, m) ∧ IsBlamed r p scope m c x.message) ∧
    ∀ p scope m, Syntax.parse source = .ok p → compile r p = .ok () →
      startScope bindings {} = (.ok scope, m) → ∀ scope' m' name span,
        Reaches r p scope m scope' m' (.variable name span) → scope'.assigned.lookup name = none →
        (evaluate r source bindings).outcome =
          .ok (.error ⟨"compile", s!"undefined variable \"{name}\" at {span.text}"⟩) ∧
        ∀ (c : Call) because,
          s!"undefined variable \"{name}\" at {span.text}" ≠ c.blame ++ because := by
  refine ⟨fun x hx hk => ?_, fun p scope m hread hc hscope scope' m' name span hreach hnone =>
    ⟨?_, fun c because => c.blame_ne_undefinedVariable because name span⟩⟩
  · obtain ⟨e, rfl, h⟩ := outcome_eq_failure_iff.mp hx
    have hphase : e.phase = .call := Phase.name_inj.mp hk
    obtain hprep | ⟨p, scope, m, hprep, hscope, m', h⟩ := perform_eq_error_iff.mp h
    -- what is wrong with a text is found in an earlier phase
    · exact absurd hphase (phase_of_prepare hprep)
    · obtain ⟨hread, hc⟩ := prepare_eq_ok hprep
      have hp := compile_eq_ok_iff.mp hc
      obtain ⟨current, before, x, hreach, hfails⟩ := (runProgram_eq_error_iff hp _).mp h
      refine ⟨p, scope, m, ?_⟩
      generalize hf : Fault.expression e = f at hfails
      cases hfails with
      | unassigned _ =>
        cases hf
        cases hphase
      | @call c entry given _ evaluated _ _ hentry hgiven hcall =>
        subst hf
        let x : Arrival r p scope m :=
          ⟨c, entry, current, before, given, evaluated, hreach, hentry, hgiven⟩
        exact ⟨c, hread, hc, hscope, isBlamed_of_callEntry hread hp x hcall⟩
  · have hp := compile_eq_ok_iff.mp hc
    have hrun := (runProgram_eq_error_iff hp (.scalar .null)).mpr
      ⟨scope', m', _, hreach, .unassigned hnone⟩
    obtain ⟨m₁, h⟩ := perform_eq_error_iff.mpr
      (.inr ⟨p, scope, m, prepare_of_compile hread hc, hscope, m', hrun⟩)
    have hfailure : Failure.ofError (.compile ⟨.undefinedVariable, name, span⟩) =
        ⟨"compile", (CompileError.mk .undefinedVariable name span).message⟩ := rfl
    rw [outcome_of_expression h, hfailure, CompileError.message_undefinedVariable]

/-- The call `pick(y)`. -/
def pickUnassigned : Call := ⟨"pick", [(none, .variable "y" ⟨5, 6⟩)], false, ⟨0, 7⟩⟩

/-- The inner of two calls is blamed, and none for a variable that is not defined. -/
theorem evaluate_blames_one_call_pick :
    (∃ x, (evaluate pickRegistry "pick(pick(1, mode: \"x\"))" .null).outcome = .ok (.error x) ∧
      x.kind = "function_call" ∧ ∃ p scope m c,
        Syntax.parse "pick(pick(1, mode: \"x\"))" = .ok p ∧ compile pickRegistry p = .ok () ∧
        startScope .null {} = (.ok scope, m) ∧ IsBlamed pickRegistry p scope m c x.message) ∧
    ∃ x, (evaluate pickRegistry "pick(y)" .null).outcome = .ok (.error x) ∧ x.kind = "compile" ∧
      ∀ (c : Call) because, x.message ≠ c.blame ++ because := by
  constructor
  · have hkind : (evaluate pickRegistry "pick(pick(1, mode: \"x\"))" .null).outcome.toOption.map
        (fun x : Result => (x.mapError Failure.kind).map fun _ => ()) =
          some (.error "function_call") := by decide +kernel
    generalize ho : (evaluate pickRegistry "pick(pick(1, mode: \"x\"))" .null).outcome = o at hkind
    cases o with
    | error f => cases hkind
    | ok result =>
      cases result with
      | ok v => cases hkind
      | error x =>
        have hk : x.kind = "function_call" := Except.error.inj (Option.some.inj hkind)
        exact ⟨x, rfl, hk, (evaluate_blames_one_call pickRegistry _ .null).1 x ho hk⟩
  · have hread : Syntax.parse "pick(y)" = .ok [.expr pickUnassigned.expr] := by cbv
    have hreach (scope : Scope) (m : Machine) :
        Reaches pickRegistry [.expr pickUnassigned.expr] scope m scope m
          (.variable "y" ⟨5, 6⟩) := by
      have hparts : pickUnassigned.expr.parts = [] ++ .variable "y" ⟨5, 6⟩ :: [] := rfl
      exact .visit (.part hparts rfl (.here _ _))
    obtain ⟨hx, hmessage⟩ := (evaluate_blames_one_call pickRegistry "pick(y)" .null).2 _ _ _ hread
      rfl rfl _ _ _ _ (hreach _ _) rfl
    exact ⟨_, hx, rfl, hmessage⟩

end FunctionManual
