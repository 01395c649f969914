import FunctionManual.Proofs.Json.Scalars
import FunctionManual.Proofs.Syntax.Completeness
import FunctionManual.Proofs.Syntax.Scanning
import FunctionManual.Value.Json

/-!
# Values that are spelled

* `Value.IsSource`: values whose lines are source text: JSON without doubles, long integers and
  control characters that a string cannot spell.
* `Value.toExpr`: the literal that spells a value.
* `Spells`: a text that is scanned as the tokens of a phrase, whatever stands behind it.
* `IsSource.spells`: the line of such a value is scanned as the tokens of its literal.
* `IsSource.parse_render`: so it is the program of that literal.
-/

namespace FunctionManual

open FunctionManual.Json
open FunctionManual.Text (isAsciiDigit)

/-! ## Values and their literals -/

/-- A text without control characters, apart from newlines, carriage returns and tabs. -/
def IsTypable (s : String) : Prop :=
  ∀ c ∈ s.toList, 32 ≤ c.toNat ∨ c = '\n' ∨ c = '\r' ∨ c = '\t'

instance (s : String) : Decidable (IsTypable s) := List.decidableBAll _ s.toList

/-- A value whose line is source text: one that JSON holds, with distinct keys, without doubles and
integers that have too many digits, and with texts that are typable. -/
inductive Value.IsSource : Value → Prop
  | null : IsSource .null
  | boolean (b : Bool) : IsSource (.boolean b)
  | integer {i : Int} (h : Integer.isWritable i) : IsSource (.integer i)
  | string {s : String} (h : IsTypable s) : IsSource (.string s)
  | array {items : List Value} (h : ∀ v ∈ items, IsSource v) : IsSource (.array items)
  | object {members : List (Key × Value)} (hn : (members.map Prod.fst).Nodup)
      (hk : ∀ m ∈ members, ∃ name, m.1 = .text name ∧ IsTypable name)
      (h : ∀ m ∈ members, IsSource m.2) : IsSource (.object members)

namespace Value

mutual

/-- The literal that spells a value. -/
def toExpr : Value → Expr
  | .scalar s => .literal s
  | .array items => .array (itemsToExpr items)
  | .object members => .object (membersToExpr members)

/-- The literals of items. -/
def itemsToExpr : List Value → List Expr
  | [] => []
  | v :: rest => toExpr v :: itemsToExpr rest

/-- The literals of members, under their names. -/
def membersToExpr : List (Key × Value) → List (String × Expr)
  | [] => []
  | (k, v) :: rest => (k.jsonName, toExpr v) :: membersToExpr rest

end

end Value

namespace Syntax

/-! ## Single steps -/

/-- What may stand behind a value. -/
def Stops (rest : List Char) : Prop := ∀ c ∈ rest.head?, c ∈ [',', ']', '\x7d']

theorem Stops.nil : Stops [] := by simp [Stops]

theorem Stops.cons {c : Char} (h : c ∈ [',', ']', '\x7d']) (rest : List Char) :
    Stops (c :: rest) := by
  simpa [Stops] using h

variable {depth pos : Nat} {rest : List Char}

/-- What a step takes is scanned as the token that it yields. -/
theorem scanFrom_cons {c : Char} {next : Step} (h : step depth pos c rest = .ok next) :
    scanFrom depth pos (c :: rest) =
      (scanFrom next.depth (pos + 1 + next.more) (rest.drop next.more)).map
        (next.tokens pos ++ ·) := by
  rw [scanFrom, h]
  simp only [bind, Except.bind, Step.tokens]
  cases scanFrom next.depth (pos + 1 + next.more) (rest.drop next.more) with
  | error e => rfl
  | ok tokens => cases next.token <;> rfl

/-- A step that takes a text yields the token of that text. -/
theorem scanFrom_text {c : Char} {text : List Char} {kind : TokenKind} {content : String}
    (h : step depth pos c (text ++ rest) = .ok ⟨some (kind, content), text.length, depth⟩) :
    scanFrom depth pos (c :: text ++ rest) =
      (scanFrom depth (pos + (c :: text).length) rest).map
        (⟨kind, content, ⟨pos, pos + (c :: text).length⟩⟩ :: ·) := by
  have hlength : pos + (c :: text).length = pos + 1 + text.length := by
    rw [List.length_cons]
    omega
  rw [List.cons_append, scanFrom_cons h, List.drop_left, hlength]
  rfl

/-- The marks of literals. -/
def marks : List Char := ['[', ']', '\x7b', '\x7d', ',', ':']

theorem step_mark {c : Char} (h : c ∈ marks) :
    step depth pos c rest = .ok ⟨some (.punctuation, c.toString), 0, depthAfter depth c⟩ := by
  simp only [marks, List.mem_cons, List.not_mem_nil, or_false] at h
  obtain rfl | rfl | rfl | rfl | rfl | rfl := h <;> rfl

/-- The token of a mark. -/
def markToken (pos : Nat) (c : Char) : Token := ⟨.punctuation, c.toString, ⟨pos, pos + 1⟩⟩

theorem scanFrom_mark {c : Char} (h : c ∈ marks) :
    scanFrom depth pos (c :: rest) =
      (scanFrom (depthAfter depth c) (pos + 1) rest).map (markToken pos c :: ·) :=
  scanFrom_cons (step_mark h)

theorem scanFrom_space : scanFrom depth pos (' ' :: rest) = scanFrom depth (pos + 1) rest := by
  have h : step depth pos ' ' rest = .ok ⟨none, 0, depth⟩ := rfl
  rw [scanFrom_cons h]
  show (scanFrom depth (pos + 1) rest).map id = _
  cases scanFrom depth (pos + 1) rest <;> rfl

/-! ## Strings -/

/-- A character of a string is read back from its escape. -/
theorem scanString_escapeChar {c : Char} (hc : 32 ≤ c.toNat ∨ c = '\n' ∨ c = '\r' ∨ c = '\t')
    {start : Nat} {tail cs : List Char} {n : Nat}
    (h : ∀ pos, scanString start pos tail = .ok (cs, n)) :
    scanString start pos (escapeChar c ++ tail) = .ok (c :: cs, n + (escapeChar c).length) := by
  by_cases hquote : c = '"'
  · subst hquote
    show (scanString start (pos + 2) tail).map _ = _
    rw [h]
    rfl
  by_cases hback : c = '\\'
  · subst hback
    show (scanString start (pos + 2) tail).map _ = _
    rw [h]
    rfl
  rcases hc with hc | rfl | rfl | rfl
  · have hplain : escapeChar c = [c] := by
      have hn : ∀ d : Char, d.toNat < 32 → c ≠ d := by
        rintro d hd rfl
        omega
      rw [escapeChar, if_neg hquote, if_neg hback, if_neg (hn _ (by decide)),
        if_neg (hn _ (by decide)), if_neg (hn _ (by decide)), if_neg (hn _ (by decide)),
        if_neg (hn _ (by decide)), if_neg (Nat.not_lt.mpr hc)]
    rw [hplain, List.singleton_append, scanString, h]
    · rfl
    · exact hquote
    · exact hback
  all_goals
    show (scanString start (pos + 2) tail).map _ = _
    rw [h]
    rfl

/-- The content of a string is read back from its escapes. -/
theorem scanString_escaped {cs : List Char}
    (hc : ∀ c ∈ cs, 32 ≤ c.toNat ∨ c = '\n' ∨ c = '\r' ∨ c = '\t') (start : Nat)
    (tail : List Char) : scanString start pos (cs.flatMap escapeChar ++ '"' :: tail) =
      .ok (cs, (cs.flatMap escapeChar).length + 1) := by
  induction cs generalizing pos with
  | nil => rfl
  | cons c cs ih =>
    obtain ⟨hc, hcs⟩ := List.forall_mem_cons.mp hc
    rw [List.flatMap_cons, List.append_assoc, scanString_escapeChar hc fun _ => ih hcs,
      List.length_append]
    refine congrArg (fun n => Except.ok (c :: cs, n)) ?_
    omega

theorem scanFrom_string {s : String} (hs : IsTypable s) :
    scanFrom depth pos (stringChars s ++ rest) =
      (scanFrom depth (pos + (stringChars s).length) rest).map
        (⟨.string, s, ⟨pos, pos + (stringChars s).length⟩⟩ :: ·) := by
  have hstep : step depth pos '"' (s.toList.flatMap escapeChar ++ ['"'] ++ rest) =
      .ok ⟨some (.string, s), (s.toList.flatMap escapeChar ++ ['"']).length, depth⟩ := by
    show (scanString pos (pos + 1) _).map _ = _
    rw [List.append_assoc, List.singleton_append, scanString_escaped hs, List.length_append]
    show Except.ok (Step.mk (some (.string, String.ofList s.toList)) _ _) = _
    rw [String.ofList_toList]
    rfl
  exact scanFrom_text hstep

/-! ## Numbers and words -/

theorem Stops.spanNumber (h : Stops rest) (fraction : Bool) :
    spanNumber fraction rest = ([], fraction) := by
  cases rest with
  | nil => rfl
  | cons c rest =>
    have hc := h c rfl
    simp only [List.mem_cons, List.not_mem_nil, or_false] at hc
    obtain rfl | rfl | rfl := hc <;> rfl

theorem spanNumber_digits {ds : List Char} (hd : AreDigits ds) (h : Stops rest) :
    spanNumber false (ds ++ rest) = (ds, false) := by
  induction ds with
  | nil => exact h.spanNumber false
  | cons d ds ih =>
    obtain ⟨hd, hds⟩ := areDigits_cons.mp hd
    rw [List.cons_append, spanNumber_digit hd, ih hds]

/-- A character that begins a number begins nothing else. -/
theorem step_number {c : Char}
    (hc : isAsciiDigit c = true ∨ c = '-' ∧ (rest.head?).any isAsciiDigit = true) :
    step depth pos c rest = .ok ⟨some (if (spanNumber false rest).2 then .float else .integer,
      String.ofList (bare (c :: (spanNumber false rest).1))), (spanNumber false rest).1.length,
      depth⟩ := by
  rcases hc with hc | ⟨rfl, hr⟩
  · have hne : ∀ d, isAsciiDigit d = false → c ≠ d := fun d => ne_of_isAsciiDigit hc
    obtain ⟨hlow, hhigh⟩ := toNat_of_isAsciiDigit hc
    have hblank : Text.isBlank c = false := by
      simp only [Text.isBlank, Bool.or_eq_false_iff, Bool.and_eq_false_iff, decide_eq_false_iff_not,
        beq_eq_false_iff_ne]
      omega
    simp only [step, hne '\n' rfl, hblank, hne '#' rfl, hne '"' rfl, hne 'r' rfl, hne 's' rfl, hc,
      decide_false, Bool.or_self, Bool.false_and, Bool.false_eq_true, if_false, Bool.true_or,
      if_true]
    rfl
  · show (if (false || (true && (rest.head?).any isAsciiDigit)) = true then _ else _) = _
    rw [hr]
    rfl

/-- Behind the first character of an integer there are digits only. -/
theorem integerText_eq_cons (i : Int) : ∃ c ds, (Integer.text i).toList = c :: ds ∧
    AreDigits ds ∧ (isAsciiDigit c = true ∨ c = '-' ∧ (ds.head?).any isAsciiDigit = true) := by
  have hdigits := areDigits_toDigits i.natAbs
  cases hd : Nat.toDigits 10 i.natAbs with
  | nil => exact absurd hd Nat.toDigits_ne_nil
  | cons d ds =>
    rw [hd] at hdigits
    obtain ⟨hfirst, hds⟩ := areDigits_cons.mp hdigits
    have hunsigned : (integerNumeral i).unsigned = d :: ds :=
      (Numeral.IsWhole.unsigned ⟨rfl, rfl⟩).trans hd
    rw [integerText_eq, Numeral.chars, hunsigned]
    by_cases hi : i < 0
    · have hsign : (integerNumeral i).signChars = ['-'] := if_pos (decide_eq_true hi)
      rw [hsign]
      exact ⟨'-', d :: ds, rfl, hdigits, .inr ⟨rfl, hfirst⟩⟩
    · have hsign : (integerNumeral i).signChars = [] := if_neg (by simpa [integerNumeral] using hi)
      rw [hsign]
      exact ⟨d, ds, rfl, hds, .inl hfirst⟩

theorem scanFrom_integer (i : Int) (h : Stops rest) :
    scanFrom depth pos ((Integer.text i).toList ++ rest) =
      (scanFrom depth (pos + (Integer.text i).toList.length) rest).map
        (⟨.integer, Integer.text i, ⟨pos, pos + (Integer.text i).toList.length⟩⟩ :: ·) := by
  obtain ⟨c, ds, htext, hds, hc⟩ := integerText_eq_cons i
  have hbare : bare (c :: ds) = c :: ds := by
    refine List.filter_eq_self.mpr (List.forall_mem_cons.mpr ⟨?_, fun d hd => ?_⟩)
    · rcases hc with hc | ⟨rfl, -⟩
      · exact decide_eq_true (ne_of_isAsciiDigit hc rfl)
      · rfl
    · exact decide_eq_true (ne_of_isAsciiDigit (hds d hd) rfl)
  have hcontent : String.ofList (bare (c :: ds)) = Integer.text i := by
    rw [hbare, ← htext, String.ofList_toList]
  have hstart : isAsciiDigit c = true ∨ c = '-' ∧ ((ds ++ rest).head?).any isAsciiDigit = true := by
    refine hc.imp_right fun ⟨hminus, hd⟩ => ⟨hminus, ?_⟩
    cases ds with
    | nil => cases hd
    | cons d ds => exact hd
  rw [htext]
  refine scanFrom_text ?_
  rw [step_number hstart, spanNumber_digits hds h, hcontent]
  rfl

theorem Stops.takeWhile (h : Stops rest) {word : List Char} (hw : ∀ c ∈ word, isIdentifierPart c) :
    (word ++ rest).takeWhile isIdentifierPart = word := by
  rw [List.takeWhile_append_of_pos hw]
  cases rest with
  | nil => exact List.append_nil word
  | cons c rest =>
    have hc := h c rfl
    simp only [List.mem_cons, List.not_mem_nil, or_false] at hc
    obtain rfl | rfl | rfl := hc <;> exact List.append_nil word

/-- The words that spell values. -/
def keywords : List (List Char) := ["null".toList, "true".toList, "false".toList]

theorem scanFrom_keyword {word : List Char} (hw : word ∈ keywords) (h : Stops rest) :
    scanFrom depth pos (word ++ rest) = (scanFrom depth (pos + word.length) rest).map
      (⟨.identifier, String.ofList word, ⟨pos, pos + word.length⟩⟩ :: ·) := by
  have hstep : ∀ c text, c ∈ ['n', 't', 'f'] → text.all isIdentifierPart →
      step depth pos c (text ++ rest) =
        .ok ⟨some (.identifier, String.ofList (c :: text)), text.length, depth⟩ := by
    intro c text hc htext
    have htake := h.takeWhile (List.all_eq_true.mp htext)
    have hany : step depth pos c (text ++ rest) =
        .ok ⟨some (.identifier, String.ofList (c :: (text ++ rest).takeWhile isIdentifierPart)),
          ((text ++ rest).takeWhile isIdentifierPart).length, depth⟩ := by
      simp only [List.mem_cons, List.not_mem_nil, or_false] at hc
      obtain rfl | rfl | rfl := hc <;> rfl
    rw [hany, htake]
  simp only [keywords, List.mem_cons, List.not_mem_nil, or_false] at hw
  obtain rfl | rfl | rfl := hw
  · exact scanFrom_text (hstep 'n' "ull".toList (by decide) (by decide))
  · exact scanFrom_text (hstep 't' "rue".toList (by decide) (by decide))
  · exact scanFrom_text (hstep 'f' "alse".toList (by decide) (by decide))

/-! ## Phrases -/

/-- A text that is scanned as the tokens of a phrase, wherever it stands before the end of a
value. -/
def Spells (text : List Char) (φ : Phrase) : Prop :=
  ∀ depth pos rest, Stops rest → ∃ us, Derives us φ ∧
    scanFrom depth pos (text ++ rest) = (scanFrom depth (pos + text.length) rest).map (us ++ ·)

theorem map_map {α β γ ε : Type} (x : Except ε α) (f : α → β) (g : β → γ) :
    (x.map f).map g = x.map fun a => g (f a) := by
  cases x <;> rfl

/-- A text that is one token spells what the token derives. -/
theorem spells_of_token {text : List Char} {φ : Phrase}
    (h : ∀ depth pos rest, Stops rest → ∃ t, Derives [t] φ ∧
      scanFrom depth pos (text ++ rest) = (scanFrom depth (pos + text.length) rest).map (t :: ·)) :
    Spells text φ := by
  intro depth pos rest hr
  obtain ⟨t, ht, hs⟩ := h depth pos rest hr
  exact ⟨[t], ht, hs⟩

theorem spells_string {s : String} (hs : IsTypable s) :
    Spells (stringChars s) (.expr (.literal (.string s))) :=
  spells_of_token fun _ _ _ _ => ⟨_, .literal (.string (.inl rfl)), scanFrom_string hs⟩

theorem spells_integer {i : Int} (h : Integer.isWritable i) :
    Spells (Integer.text i).toList (.expr (.literal (.integer i))) := by
  refine spells_of_token fun _ _ _ hr => ⟨_, .literal (.integer rfl ?_), scanFrom_integer i hr⟩
  show Integer.readPlain (Integer.text i).toList = .ok i
  rw [integerText_eq]
  exact readPlain_integerNumeral (of_decide_eq_true h)

theorem spells_keyword {word : List Char} {v : Scalar} (hw : word ∈ keywords)
    (hv : keyword? (String.ofList word) = some v) : Spells word (.expr (.literal v)) :=
  spells_of_token fun _ _ _ hr => ⟨_, .literal (.keyword rfl hv), scanFrom_keyword hw hr⟩

theorem spells_noItems : Spells [] (.items []) := by
  intro depth pos rest _
  refine ⟨[], .noItems, ?_⟩
  show scanFrom depth pos rest = (scanFrom depth pos rest).map id
  cases scanFrom depth pos rest <;> rfl

theorem spells_noEntries : Spells [] (.entries []) := by
  intro depth pos rest _
  refine ⟨[], .noEntries, ?_⟩
  show scanFrom depth pos rest = (scanFrom depth pos rest).map id
  cases scanFrom depth pos rest <;> rfl

theorem Spells.mono {text : List Char} {φ ψ : Phrase} (h : Spells text φ)
    (hd : ∀ us, Derives us φ → Derives us ψ) : Spells text ψ := by
  intro depth pos rest hr
  obtain ⟨us, hus, hs⟩ := h depth pos rest hr
  exact ⟨us, hd us hus, hs⟩

/-- Two texts with a comma and a space between them. -/
theorem Spells.separated {s t : List Char} {φ ψ χ : Phrase} (hs : Spells s φ) (ht : Spells t ψ)
    (hd : ∀ us vs comma, Derives us φ → comma.isMark "," → Derives vs ψ →
      Derives (us ++ comma :: vs) χ) : Spells (s ++ ',' :: ' ' :: t) χ := by
  intro depth pos rest hr
  obtain ⟨us, hus, hscan⟩ := hs depth pos (',' :: ' ' :: (t ++ rest)) (.cons (by simp) _)
  obtain ⟨vs, hvs, hscan'⟩ := ht depth (pos + s.length + 1 + 1) rest hr
  refine ⟨us ++ markToken (pos + s.length) ',' :: vs, hd us vs _ hus rfl hvs, ?_⟩
  have hlength : pos + s.length + 1 + 1 + t.length = pos + (s ++ ',' :: ' ' :: t).length := by
    rw [List.length_append, List.length_cons, List.length_cons]
    omega
  have hdepth : depthAfter depth ',' = depth := rfl
  rw [List.append_assoc, List.cons_append, List.cons_append, hscan, scanFrom_mark (by decide),
    hdepth, scanFrom_space, hscan', hlength, map_map, map_map]
  simp only [List.append_assoc, List.cons_append]

/-- The brackets of literals. -/
def brackets : List (Char × Char) := [('[', ']'), ('\x7b', '\x7d')]

/-- A text in brackets; behind them the depth is as before. -/
theorem Spells.bracketed {o c : Char} {s : List Char} {φ ψ : Phrase} (hs : Spells s φ)
    (hb : (o, c) ∈ brackets) (hd : ∀ us first last, first.isMark o.toString → Derives us φ →
      last.isMark c.toString → Derives (first :: us ++ [last]) ψ) :
    Spells (o :: s ++ [c]) ψ := by
  have marked : o ∈ marks ∧ c ∈ marks ∧ c ∈ [',', ']', '\x7d'] := by
    simp only [brackets, List.mem_cons, List.not_mem_nil, or_false, Prod.mk.injEq] at hb
    obtain ⟨rfl, rfl⟩ | ⟨rfl, rfl⟩ := hb <;> decide
  obtain ⟨ho, hc, hstop⟩ := marked
  intro depth pos rest hr
  have hdepth : depthAfter depth o = depth + 1 ∧ depthAfter (depth + 1) c = depth := by
    simp only [brackets, List.mem_cons, List.not_mem_nil, or_false, Prod.mk.injEq] at hb
    obtain ⟨rfl, rfl⟩ | ⟨rfl, rfl⟩ := hb <;> exact ⟨rfl, rfl⟩
  obtain ⟨us, hus, hscan⟩ := hs (depth + 1) (pos + 1) (c :: rest) (.cons hstop _)
  refine ⟨markToken pos o :: us ++ [markToken (pos + 1 + s.length) c],
    hd us _ _ (isMark_iff.mpr ⟨rfl, rfl⟩) hus (isMark_iff.mpr ⟨rfl, rfl⟩), ?_⟩
  have hlength : pos + 1 + s.length + 1 = pos + (o :: s ++ [c]).length := by
    rw [List.length_append, List.length_cons, List.length_singleton]
    omega
  rw [List.append_assoc, List.cons_append, scanFrom_mark ho, hdepth.1, List.singleton_append, hscan,
    scanFrom_mark hc, hdepth.2, hlength, map_map, map_map]
  simp only [List.append_assoc, List.cons_append, List.nil_append]

/-- An entry: a string, a colon and a value. -/
theorem Spells.entry {name : String} {text : List Char} {e : Expr} (hn : IsTypable name)
    (h : Spells text (.expr e)) :
    Spells (stringChars name ++ ':' :: ' ' :: text) (.entry (name, e)) := by
  intro depth pos rest hr
  obtain ⟨us, hus, hscan⟩ := h depth (pos + (stringChars name).length + 1 + 1) rest hr
  let key : Token := ⟨.string, name, ⟨pos, pos + (stringChars name).length⟩⟩
  let colon := markToken (pos + (stringChars name).length) ':'
  have hentry : Derives (key :: colon :: us) (.entry (key.text, e)) :=
    .entry (.inl rfl) (isMark_iff.mpr ⟨rfl, rfl⟩) hus
  refine ⟨key :: colon :: us, hentry, ?_⟩
  have hlength : pos + (stringChars name).length + 1 + 1 + text.length =
      pos + (stringChars name ++ ':' :: ' ' :: text).length := by
    rw [List.length_append, List.length_cons, List.length_cons]
    omega
  have hdepth : depthAfter depth ':' = depth := rfl
  rw [List.append_assoc, List.cons_append, List.cons_append, scanFrom_string hn,
    scanFrom_mark (by decide),
    hdepth, scanFrom_space, hscan, hlength, map_map, map_map]
  rfl

/-! ## Values -/

theorem spells_items {items : List Value}
    (h : ∀ v ∈ items, Spells (lineChars [' '] v.shown) (.expr v.toExpr)) :
    Spells (itemsChars [' '] (Value.shownItems items)) (.items (Value.itemsToExpr items)) := by
  induction items with
  | nil => exact spells_noItems
  | cons v items ih =>
    obtain ⟨hv, hitems⟩ := List.forall_mem_cons.mp h
    cases items with
    | nil => exact hv.mono fun _ => .lastItem
    | cons w items =>
      have htext : itemsChars [' '] (Value.shownItems (v :: w :: items)) =
          lineChars [' '] v.shown ++ ',' :: ' ' ::
            itemsChars [' '] (Value.shownItems (w :: items)) :=
        List.append_assoc ..
      rw [htext]
      exact hv.separated (ih hitems) fun _ _ _ => .moreItems

theorem spells_members {members : List (Key × Value)}
    (hk : ∀ m ∈ members, ∃ name, m.1 = .text name ∧ IsTypable name)
    (h : ∀ m ∈ members, Spells (lineChars [' '] m.2.shown) (.expr m.2.toExpr)) :
    Spells (membersChars [' '] (Value.shownMembers members))
      (.entries (Value.membersToExpr members)) := by
  induction members with
  | nil => exact spells_noEntries
  | cons m members ih =>
    obtain ⟨k, v⟩ := m
    obtain ⟨⟨name, hname, hn⟩, hks⟩ := List.forall_mem_cons.mp hk
    obtain ⟨hv, hmembers⟩ := List.forall_mem_cons.mp h
    obtain rfl : k = .text name := hname
    have hentry := Spells.entry hn hv
    cases members with
    | nil =>
      have htext : membersChars [' '] (Value.shownMembers [(.text name, v)]) =
          stringChars name ++ ':' :: ' ' :: lineChars [' '] v.shown := List.append_assoc ..
      rw [htext]
      exact hentry.mono fun _ => .lastEntry
    | cons m members =>
      have htext : membersChars [' '] (Value.shownMembers ((.text name, v) :: m :: members)) =
          stringChars name ++ ':' :: ' ' :: lineChars [' '] v.shown ++ ',' :: ' ' ::
            membersChars [' '] (Value.shownMembers (m :: members)) := by
        simp [Value.shownMembers, membersChars, Key.jsonName]
      rw [htext]
      exact hentry.separated (ih hks hmembers) fun _ _ _ => .moreEntries

end Syntax

open Syntax

/-- The line of a value that is source text spells its literal. The induction is on the value. -/
theorem Value.IsSource.spells {v : Value} (h : v.IsSource) :
    Spells (lineChars [' '] v.shown) (.expr v.toExpr) := by
  induction h with
  | null => exact spells_keyword (by decide) rfl
  | boolean b => cases b <;> exact spells_keyword (by decide) rfl
  | integer h => exact spells_integer h
  | string h => exact spells_string h
  | array _ ih => exact (spells_items ih).bracketed (by decide) fun _ _ _ => .array
  | object _ hk _ ih => exact (spells_members hk ih).bracketed (by decide) fun _ _ _ => .object

/-- The line of a value that is source text is the program of its literal. -/
theorem Value.IsSource.parse_render {v : Value} (h : v.IsSource) :
    parse v.render = .ok [.expr v.toExpr] := by
  obtain ⟨us, hus, hscan⟩ := h.spells 0 0 [] .nil
  have hscan : scan v.render = .ok us := by
    rw [List.append_nil, scanFrom] at hscan
    rw [scan, render, spaced, String.toList_ofList, hscan]
    exact congrArg Except.ok (List.append_nil us)
  have hprogram : DerivesProgram ([] ++ us) [.expr v.toExpr] :=
    .last (List.forall_mem_nil _) (.expr hus)
  rw [List.nil_append] at hprogram
  rw [parse, hscan]
  exact hprogram.reads _ _ (Nat.lt_succ_self _)

end FunctionManual
