import FunctionManual.Proofs.Json.Scalars

/-!
# Trees are read as they are written

* `IsTidy`: no name is used twice in an object, and no integer has too many digits.
* `HasFloats`: what is known of every float in a tree.
* `Layout`: where a text puts blanks; `prettyChars_eq` and `lineChars_eq`: many lines and one line
  are such layouts.
* `IsTidy.readsBack`: in every layout the text of a tidy tree is read as that tree. Where the names
  of numbers are refused its floats must be finite.
* `read_pretty`, `read_compact`: the same of whole texts.
-/

namespace FunctionManual.Json

open FunctionManual.Text

/-- A tree that its reader can give: names are distinct and integers keep to the limit. -/
inductive IsTidy : Json → Prop
  | null : IsTidy .null
  | boolean (b : Bool) : IsTidy (.boolean b)
  | integer {i : Int} (h : (Nat.toDigits 10 i.natAbs).length ≤ Integer.digitLimit) :
      IsTidy (.integer i)
  | float (x : Binary64) : IsTidy (.float x)
  | string (s : String) : IsTidy (.string s)
  | array {items : List Json} (h : ∀ j ∈ items, IsTidy j) : IsTidy (.array items)
  | object {members : List (String × Json)} (hn : (members.map Prod.fst).Nodup)
      (h : ∀ m ∈ members, IsTidy m.2) : IsTidy (.object members)

/-- Every float in a tree is one of these. -/
inductive HasFloats (F : Binary64 → Prop) : Json → Prop
  | null : HasFloats F .null
  | boolean (b : Bool) : HasFloats F (.boolean b)
  | integer (i : Int) : HasFloats F (.integer i)
  | float {x : Binary64} (h : F x) : HasFloats F (.float x)
  | string (s : String) : HasFloats F (.string s)
  | array {items : List Json} (h : ∀ j ∈ items, HasFloats F j) : HasFloats F (.array items)
  | object {members : List (String × Json)} (h : ∀ m ∈ members, HasFloats F m.2) :
      HasFloats F (.object members)

/-- What containers have when their parts have it, and all other trees have, every tree has. -/
@[elab_as_elim]
theorem induct {motive : Json → Prop} (null : motive .null) (boolean : ∀ b, motive (.boolean b))
    (integer : ∀ i, motive (.integer i)) (float : ∀ x, motive (.float x))
    (string : ∀ s, motive (.string s))
    (array : ∀ items, (∀ j ∈ items, motive j) → motive (.array items))
    (object : ∀ members, (∀ m ∈ members, motive m.2) → motive (.object members)) (j : Json) :
    motive j :=
  @Json.rec motive (fun items => ∀ j ∈ items, motive j) (fun members => ∀ m ∈ members, motive m.2)
    (fun m => motive m.2) null boolean integer float string array object nofun
    (fun _ _ hj hitems => List.forall_mem_cons.mpr ⟨hj, hitems⟩) nofun
    (fun _ _ hm hmembers => List.forall_mem_cons.mpr ⟨hm, hmembers⟩) (fun _ _ hj => hj) j

/-! ## Blanks -/

/-- Nothing but blanks. -/
def AreBlank (s : List Char) : Prop := ∀ c ∈ s, isSpace c

theorem AreBlank.nil : AreBlank [] := nofun

theorem areBlank_newLine (level : Nat) : AreBlank (newLine level) := by
  refine List.forall_mem_cons.mpr ⟨rfl, fun c hc => ?_⟩
  rw [List.eq_of_mem_replicate hc]
  rfl

theorem AreBlank.skipSpace {s : List Char} (h : AreBlank s) (rest : List Char) :
    skipSpace (s ++ rest) = skipSpace rest := List.dropWhile_append_of_pos h

/-- A blank continues no number. -/
theorem AreBlank.stops {s rest : List Char} (h : AreBlank s) (hr : Stops rest) :
    Stops (s ++ rest) := by
  cases s with
  | nil => exact hr
  | cons c s =>
    refine Stops.cons ?_ _
    have hc : isSpace c := h c List.mem_cons_self
    simp only [isSpace, Bool.or_eq_true, decide_eq_true_eq] at hc
    rcases hc with ((rfl | rfl) | rfl) | rfl <;> decide

theorem skipSpace_cons {c : Char} (h : isSpace c = false) (s : List Char) :
    skipSpace (c :: s) = c :: s := by
  simp [skipSpace, h]

/-! ## Layouts -/

/-- Where a text puts blanks: behind the mark that opens a container, behind its commas and before
the mark that closes it, by the level of indentation, and behind colons. -/
structure Layout where
  first : Nat → List Char
  next : Nat → List Char
  last : Nat → List Char
  colon : List Char

namespace Layout

/-- A layout puts nothing but blanks. -/
structure IsBlank (l : Layout) : Prop where
  first : ∀ level, AreBlank (l.first level)
  next : ∀ level, AreBlank (l.next level)
  last : ∀ level, AreBlank (l.last level)
  colon : AreBlank l.colon

mutual

/-- The text of a value that stands at a level of indentation. -/
def chars (l : Layout) (level : Nat) : Json → List Char
  | .null => "null".toList
  | .boolean b => (booleanText b).toList
  | .integer i => (Integer.text i).toList
  | .float x => (floatText x).toList
  | .string s => stringChars s
  | .array items =>
    if items.isEmpty then ['[', ']']
    else '[' :: (l.first (level + 1) ++ (l.items (level + 1) items ++ (l.last level ++ [']'])))
  | .object members =>
    if members.isEmpty then ['\x7b', '\x7d']
    else '\x7b' ::
      (l.first (level + 1) ++ (l.members (level + 1) members ++ (l.last level ++ ['\x7d'])))

/-- Items with commas between them. -/
def items (l : Layout) (level : Nat) : List Json → List Char
  | [] => []
  | [j] => l.chars level j
  | j :: k :: rest => l.chars level j ++ ',' :: (l.next level ++ l.items level (k :: rest))

/-- Members with commas between them. -/
def members (l : Layout) (level : Nat) : List (String × Json) → List Char
  | [] => []
  | [(n, j)] => stringChars n ++ ':' :: (l.colon ++ l.chars level j)
  | (n, j) :: m :: rest =>
    stringChars n ++ ':' :: (l.colon ++ (l.chars level j ++
      ',' :: (l.next level ++ l.members level (m :: rest))))

end

/-- Every part on a line of its own. -/
def manyLines : Layout := ⟨newLine, newLine, newLine, [' ']⟩

/-- One line, with the same blanks behind commas and colons. -/
def oneLine (gap : List Char) : Layout := ⟨fun _ => [], fun _ => gap, fun _ => [], gap⟩

theorem manyLines_isBlank : manyLines.IsBlank :=
  ⟨areBlank_newLine, areBlank_newLine, areBlank_newLine, List.forall_mem_singleton.mpr rfl⟩

theorem oneLine_isBlank {gap : List Char} (h : AreBlank gap) : (oneLine gap).IsBlank :=
  ⟨fun _ => .nil, fun _ => h, fun _ => .nil, h⟩

end Layout

mutual

/-- Many lines are a layout. -/
theorem prettyChars_eq (level : Nat) :
    (j : Json) → prettyChars level j = Layout.manyLines.chars level j
  | .null | .boolean _ | .integer _ | .float _ | .string _ => rfl
  | .array [] | .object [] => rfl
  | .array (j :: rest) => by
    simp only [prettyChars, Layout.chars, List.isEmpty_cons, Bool.false_eq_true, if_false,
      prettyItems_eq (level + 1) (j :: rest) (List.cons_ne_nil j rest), List.cons_append,
      List.append_assoc]
    rfl
  | .object (m :: rest) => by
    simp only [prettyChars, Layout.chars, List.isEmpty_cons, Bool.false_eq_true, if_false,
      prettyMembers_eq (level + 1) (m :: rest) (List.cons_ne_nil m rest), List.cons_append,
      List.append_assoc]
    rfl

theorem prettyItems_eq (level : Nat) : (js : List Json) → js ≠ [] →
    prettyItems level js = newLine level ++ Layout.manyLines.items level js
  | [], h => absurd rfl h
  | [j], _ => by rw [prettyItems, Layout.items, prettyChars_eq level j]
  | j :: k :: rest, _ => by
    rw [prettyItems, Layout.items, prettyChars_eq level j,
      prettyItems_eq level (k :: rest) (List.cons_ne_nil k rest), List.append_assoc]
    rfl

theorem prettyMembers_eq (level : Nat) : (ms : List (String × Json)) → ms ≠ [] →
    prettyMembers level ms = newLine level ++ Layout.manyLines.members level ms
  | [], h => absurd rfl h
  | [(n, j)], _ => by
    rw [prettyMembers, Layout.members, prettyChars_eq level j, List.append_assoc]
    rfl
  | (n, j) :: m :: rest, _ => by
    rw [prettyMembers, Layout.members, prettyChars_eq level j,
      prettyMembers_eq level (m :: rest) (List.cons_ne_nil m rest)]
    simp only [List.append_assoc, List.cons_append]
    rfl

end

mutual

/-- One line is a layout, on whatever level. -/
theorem lineChars_eq (gap : List Char) (level : Nat) :
    (j : Json) → lineChars gap j = (Layout.oneLine gap).chars level j
  | .null | .boolean _ | .integer _ | .float _ | .string _ => rfl
  | .array [] | .object [] => rfl
  | .array (j :: rest) => by
    simp only [lineChars, Layout.chars, List.isEmpty_cons, Bool.false_eq_true, if_false,
      itemsChars_eq gap (level + 1) (j :: rest)]
    rfl
  | .object (m :: rest) => by
    simp only [lineChars, Layout.chars, List.isEmpty_cons, Bool.false_eq_true, if_false,
      membersChars_eq gap (level + 1) (m :: rest)]
    rfl

theorem itemsChars_eq (gap : List Char) (level : Nat) :
    (js : List Json) → itemsChars gap js = (Layout.oneLine gap).items level js
  | [] => rfl
  | [j] => by rw [itemsChars, Layout.items, lineChars_eq gap level j]
  | j :: k :: rest => by
    rw [itemsChars, Layout.items, lineChars_eq gap level j, itemsChars_eq gap level (k :: rest),
      List.append_assoc]
    rfl

theorem membersChars_eq (gap : List Char) (level : Nat) :
    (ms : List (String × Json)) → membersChars gap ms = (Layout.oneLine gap).members level ms
  | [] => rfl
  | [(n, j)] => by
    rw [membersChars, Layout.members, lineChars_eq gap level j, List.append_assoc]
    rfl
  | (n, j) :: m :: rest => by
    rw [membersChars, Layout.members, lineChars_eq gap level j,
      membersChars_eq gap level (m :: rest)]
    simp only [List.append_assoc, List.cons_append]
    rfl

end

/-! ## First characters -/

/-- A character that may begin a value: no blank, and no mark that ends a container. -/
def IsLead (c : Char) : Prop := isSpace c = false ∧ c ≠ ']' ∧ c ≠ '\x7d' ∧ c.toNat < 128

theorem isLead_of_isAsciiDigit {c : Char} (h : isAsciiDigit c) : IsLead c := by
  have := toNat_of_isAsciiDigit h
  refine ⟨?_, ne_of_isAsciiDigit h rfl, ne_of_isAsciiDigit h rfl, by omega⟩
  simp only [isSpace, Bool.or_eq_false_iff, decide_eq_false_iff_not]
  refine ⟨⟨⟨?_, ?_⟩, ?_⟩, ?_⟩ <;> exact ne_of_isAsciiDigit h rfl

/-- A character that may begin a value that is no string and no container. -/
def IsPlainLead (c : Char) : Prop := IsLead c ∧ c ≠ '"' ∧ c ≠ '[' ∧ c ≠ '\x7b'

instance (c : Char) : Decidable (IsLead c) := inferInstanceAs (Decidable (_ ∧ _))

instance (c : Char) : Decidable (IsPlainLead c) := inferInstanceAs (Decidable (_ ∧ _))

theorem chars_plainLead (n : Numeral) : ∃ c s, n.chars = c :: s ∧ IsPlainLead c := by
  obtain ⟨c, s, h, hc⟩ := chars_eq_cons n
  refine ⟨c, s, h, ?_⟩
  rcases hc with hc | ⟨rfl, -⟩
  · exact ⟨isLead_of_isAsciiDigit hc, ne_of_isAsciiDigit hc rfl, ne_of_isAsciiDigit hc rfl,
      ne_of_isAsciiDigit hc rfl⟩
  · decide

theorem floatText_plainLead (x : Binary64) :
    ∃ c s, (floatText x).toList = c :: s ∧ IsPlainLead c := by
  cases x with
  | nan => exact ⟨'N', _, rfl, by decide⟩
  | infinite negative =>
    cases negative
    · exact ⟨'I', _, rfl, by decide⟩
    · exact ⟨'-', _, rfl, by decide⟩
  | finite negative m u h =>
    obtain ⟨n, -, ht, -⟩ := Binary64.text_spec negative h
    rw [floatText, ht, String.toList_ofList]
    exact chars_plainLead n

variable {l : Layout} {strict : Bool}

theorem chars_lead (l : Layout) (level : Nat) (j : Json) :
    ∃ c s, l.chars level j = c :: s ∧ IsLead c := by
  cases j with
  | null => exact ⟨'n', _, rfl, by decide⟩
  | boolean b => cases b <;> exact ⟨_, _, rfl, by decide⟩
  | integer i =>
    obtain ⟨c, s, h, hc⟩ := chars_plainLead (integerNumeral i)
    exact ⟨c, s, by rw [Layout.chars, integerText_eq, h], hc.1⟩
  | float x =>
    obtain ⟨c, s, h, hc⟩ := floatText_plainLead x
    exact ⟨c, s, by rw [Layout.chars, h], hc.1⟩
  | string s => exact ⟨'"', _, rfl, by decide⟩
  | array items =>
    unfold Layout.chars
    split
    · exact ⟨'[', _, rfl, by decide⟩
    · exact ⟨'[', _, rfl, by decide⟩
  | object members =>
    unfold Layout.chars
    split
    · exact ⟨'\x7b', _, rfl, by decide⟩
    · exact ⟨'\x7b', _, rfl, by decide⟩

theorem items_lead {items : List Json} (hne : items ≠ []) (l : Layout) (level : Nat) :
    ∃ c s, l.items level items = c :: s ∧ IsLead c := by
  obtain ⟨j, items, rfl⟩ := List.exists_cons_of_ne_nil hne
  obtain ⟨c, s, h, hc⟩ := chars_lead l level j
  cases items with
  | nil => exact ⟨c, s, by rw [Layout.items, h], hc⟩
  | cons k items => exact ⟨c, _, by rw [Layout.items, h, List.cons_append], hc⟩

theorem members_lead {members : List (String × Json)} (hne : members ≠ []) (l : Layout)
    (level : Nat) : ∃ c s, l.members level members = c :: s ∧ IsLead c := by
  obtain ⟨⟨n, j⟩, members, rfl⟩ := List.exists_cons_of_ne_nil hne
  cases members with
  | nil => exact ⟨'"', _, rfl, by decide⟩
  | cons m members => exact ⟨'"', _, rfl, by decide⟩

/-- Blanks before a text that begins with none are skipped. -/
theorem skipSpace_lead {blanks text : List Char} (hb : AreBlank blanks)
    (h : ∃ c s, text = c :: s ∧ IsLead c) (rest : List Char) :
    skipSpace (blanks ++ (text ++ rest)) = text ++ rest := by
  obtain ⟨c, s, rfl, hc⟩ := h
  rw [hb.skipSpace, List.cons_append, skipSpace_cons hc.1]

/-! ## Values -/

/-- A tree is read from its text, with what stands behind it left. -/
def ReadsBack (l : Layout) (strict : Bool) (j : Json) : Prop := ∀ level fuel rest,
  2 * (l.chars level j).length ≤ fuel + 1 → Stops rest →
    readValue strict fuel (l.chars level j ++ rest) = .ok (j, rest)

/-- A value that is no string and no container is read by its characters. -/
theorem readValue_plain {c : Char} (h : IsPlainLead c) (strict : Bool) (fuel : Nat)
    (s : List Char) : readValue strict (fuel + 1) (c :: s) = readSimple strict (c :: s) := by
  obtain ⟨-, h₁, h₂, h₃⟩ := h
  unfold readValue
  split <;> simp_all

private theorem readsBack_of_readSimple {j : Json} {text : List Char}
    (ht : ∀ level, l.chars level j = text) (hl : ∃ c s, text = c :: s ∧ IsPlainLead c)
    (h : ∀ rest, Stops rest → readSimple strict (text ++ rest) = .ok (j, rest)) :
    ReadsBack l strict j := by
  intro level fuel rest hf hr
  obtain ⟨c, s, hc, hp⟩ := hl
  rw [ht, hc, List.length_cons] at hf
  obtain ⟨fuel, rfl⟩ : ∃ f, fuel = f + 1 := ⟨fuel - 1, by omega⟩
  have := h rest hr
  rw [hc, List.cons_append] at this
  rw [ht, hc, List.cons_append, readValue_plain hp, this]

theorem readsBack_null : ReadsBack l strict .null :=
  readsBack_of_readSimple (fun _ => rfl) ⟨'n', _, rfl, by decide⟩ fun _ _ => rfl

theorem readsBack_boolean (b : Bool) : ReadsBack l strict (.boolean b) := by
  refine readsBack_of_readSimple (fun _ => rfl) ?_ fun rest _ => ?_
  · cases b <;> exact ⟨_, _, rfl, by decide⟩
  · cases b <;> rfl

theorem readsBack_integer {i : Int}
    (h : (Nat.toDigits 10 i.natAbs).length ≤ Integer.digitLimit) :
    ReadsBack l strict (.integer i) := by
  refine readsBack_of_readSimple (fun _ => rfl) ?_ fun rest hr => readSimple_integer h hr strict
  show ∃ c s, (Integer.text i).toList = c :: s ∧ IsPlainLead c
  rw [integerText_eq]
  exact chars_plainLead _

theorem readsBack_float {x : Binary64} (hx : strict → x.isFinite) : ReadsBack l strict (.float x) :=
  readsBack_of_readSimple (fun _ => rfl) (floatText_plainLead x) fun _ hr => readSimple_float hx hr

theorem readsBack_string (s : String) : ReadsBack l strict (.string s) := by
  intro level fuel rest hf _
  simp only [Layout.chars, stringChars, List.length_cons, List.length_append] at hf
  obtain ⟨fuel, rfl⟩ : ∃ f, fuel = f + 1 := ⟨fuel - 1, by omega⟩
  simp only [Layout.chars, stringChars, List.cons_append, List.append_assoc, List.nil_append,
    readValue, readString_escaped, bind, Except.bind]

/-! ## Containers -/

/-- The text behind the parts of a container: its closing mark, with blanks before it. -/
def Closes (mark : Char) (rest tail : List Char) : Prop :=
  ∃ blanks, AreBlank blanks ∧ tail = blanks ++ mark :: rest

theorem Closes.stops {mark : Char} {rest tail : List Char} (h : Closes mark rest tail)
    (hm : mark = ']' ∨ mark = '\x7d') : Stops tail := by
  obtain ⟨blanks, hb, rfl⟩ := h
  refine hb.stops (Stops.cons ?_ rest)
  rcases hm with rfl | rfl <;> decide

theorem Closes.skipSpace {mark : Char} {rest tail : List Char} (h : Closes mark rest tail)
    (hm : isSpace mark = false) : skipSpace tail = mark :: rest := by
  obtain ⟨blanks, hb, rfl⟩ := h
  rw [hb.skipSpace, skipSpace_cons hm]

private theorem stops_comma (rest : List Char) : Stops (',' :: rest) :=
  Stops.cons (by decide) rest

/-- Items with commas between them are read up to the bracket that closes them. -/
theorem readItems_laid (hl : l.IsBlank) {items : List Json}
    (hi : ∀ j ∈ items, ReadsBack l strict j) (hne : items ≠ []) {level fuel : Nat}
    {rest tail : List Char} (hf : 2 * (l.items level items).length ≤ fuel)
    (ht : Closes ']' rest tail) :
    readItems strict fuel (l.items level items ++ tail) = .ok (items, rest) := by
  have hcomma (s : List Char) : skipSpace (',' :: s) = ',' :: s := skipSpace_cons rfl _
  induction items generalizing fuel with
  | nil => exact absurd rfl hne
  | cons j items ih =>
    have hj := hi j List.mem_cons_self
    obtain ⟨c, s, hlead, -⟩ := chars_lead l level j
    have hpos : 0 < (l.chars level j).length := by rw [hlead]; exact Nat.succ_pos _
    cases items with
    | nil =>
      rw [Layout.items] at hf ⊢
      obtain ⟨fuel, rfl⟩ : ∃ f, fuel = f + 1 := ⟨fuel - 1, by omega⟩
      simp only [readItems, hj level fuel tail (by omega) (ht.stops (.inl rfl)), bind, Except.bind,
        ht.skipSpace rfl]
    | cons k items =>
      rw [Layout.items, List.length_append, List.length_cons, List.length_append] at hf
      obtain ⟨fuel, rfl⟩ : ∃ f, fuel = f + 1 := ⟨fuel - 1, by omega⟩
      have hrest : readItems strict fuel (l.items level (k :: items) ++ tail) = _ :=
        ih (fun i h => hi i (List.mem_cons_of_mem j h)) (by simp) (by omega)
      have hskip := skipSpace_lead (hl.next level) (items_lead (List.cons_ne_nil k items) l level)
      simp only [Layout.items, List.append_assoc, List.cons_append, readItems,
        hj level fuel _ (by omega) (stops_comma _), bind, Except.bind, hcomma, hskip, hrest]

/-- Members with commas between them are read up to the brace that closes them. -/
theorem readMembers_laid (hl : l.IsBlank) {members : List (String × Json)}
    (hi : ∀ m ∈ members, ReadsBack l strict m.2) (hne : members ≠ []) {level fuel : Nat}
    {rest tail : List Char} (hf : 2 * (l.members level members).length ≤ fuel)
    (ht : Closes '\x7d' rest tail) :
    readMembers strict fuel (l.members level members ++ tail) = .ok (members, rest) := by
  have hcolon (s : List Char) : skipSpace (':' :: s) = ':' :: s := skipSpace_cons rfl _
  have hcomma (s : List Char) : skipSpace (',' :: s) = ',' :: s := skipSpace_cons rfl _
  induction members generalizing fuel with
  | nil => exact absurd rfl hne
  | cons m members ih =>
    obtain ⟨n, j⟩ := m
    have hj : ReadsBack l strict j := hi (n, j) List.mem_cons_self
    have hgap := skipSpace_lead hl.colon (chars_lead l level j)
    cases members with
    -- the brace stands behind the last member, a comma behind every other
    | nil =>
      simp only [Layout.members, stringChars, List.cons_append, List.length_cons,
        List.length_append] at hf
      obtain ⟨fuel, rfl⟩ : ∃ f, fuel = f + 1 := ⟨fuel - 1, by omega⟩
      have hv := hj level fuel tail (by omega) (ht.stops (.inr rfl))
      simp only [Layout.members, stringChars, List.append_assoc, List.cons_append, readMembers,
        List.nil_append, readString_escaped, bind, Except.bind, hcolon, hgap, hv, ht.skipSpace rfl]
    | cons k members =>
      simp only [Layout.members, stringChars, List.cons_append, List.length_cons,
        List.length_append] at hf
      obtain ⟨fuel, rfl⟩ : ∃ f, fuel = f + 1 := ⟨fuel - 1, by omega⟩
      have hv := hj level fuel (',' :: (l.next level ++ (l.members level (k :: members) ++ tail)))
        (by omega) (stops_comma _)
      have hrest : readMembers strict fuel (l.members level (k :: members) ++ tail) = _ :=
        ih (fun i h => hi i (List.mem_cons_of_mem _ h)) (by simp) (by omega)
      have hskip := skipSpace_lead (hl.next level)
        (members_lead (List.cons_ne_nil k members) l level)
      simp only [Layout.members, stringChars, List.append_assoc, List.cons_append, readMembers,
        List.nil_append, readString_escaped, bind, Except.bind, hcolon, hgap, hv, hcomma, hskip,
        hrest]

/-! ## Names -/

theorem insert_of_not_mem {name : String} {members : List (String × Json)}
    (h : name ∉ members.map Prod.fst) (value : Json) :
    insert name value members = members ++ [(name, value)] := by
  induction members with
  | nil => rfl
  | cons m members ih =>
    simp only [List.map_cons, List.mem_cons, not_or] at h
    simp [insert, Ne.symm h.1, ih h.2]

/-- Members with distinct names are set as they stand. -/
theorem ofMembers_eq_self {members : List (String × Json)} (h : (members.map Prod.fst).Nodup) :
    ofMembers members = members := by
  -- the members set so far are part of the induction
  have go : ∀ done : List (String × Json), ((done ++ members).map Prod.fst).Nodup →
      members.foldl (fun done m => insert m.1 m.2 done) done = done ++ members := by
    clear h
    induction members with
    | nil => simp
    | cons m members ih =>
      intro done hd
      have hm : m.1 ∉ done.map Prod.fst := by
        simp only [List.map_append, List.map_cons] at hd
        exact fun h => (List.nodup_append.mp hd).2.2 _ h _ (List.mem_cons_self ..) rfl
      rw [List.foldl_cons, insert_of_not_mem hm, ih _ (by simpa using hd)]
      simp
  exact go [] h

/-! ## Trees -/

theorem readsBack_array (hl : l.IsBlank) {items : List Json}
    (h : ∀ j ∈ items, ReadsBack l strict j) : ReadsBack l strict (.array items) := by
  intro level fuel rest hf _
  by_cases hne : items = []
  · subst hne
    obtain ⟨fuel, rfl⟩ : ∃ f, fuel = f + 1 := ⟨fuel - 1, by simp [Layout.chars] at hf; omega⟩
    rfl
  · have hempty : items.isEmpty = false := by simpa using hne
    simp only [Layout.chars, hempty, Bool.false_eq_true, if_false, List.length_cons,
      List.length_append] at hf
    obtain ⟨fuel, rfl⟩ : ∃ f, fuel = f + 1 := ⟨fuel - 1, by omega⟩
    have hlead := items_lead hne l (level + 1)
    have hs := skipSpace_lead (hl.first (level + 1)) hlead (l.last level ++ ']' :: rest)
    have hi : readItems strict fuel
        (l.items (level + 1) items ++ (l.last level ++ ']' :: rest)) = _ :=
      readItems_laid hl h hne (by omega) ⟨l.last level, hl.last level, rfl⟩
    obtain ⟨c, s, hc, hlead⟩ := hlead
    simp only [Layout.chars, hempty, Bool.false_eq_true, if_false, List.cons_append,
      List.append_assoc, List.nil_append, readValue, hs]
    split
    next heq =>
      rw [hc] at heq
      exact absurd (List.cons.inj heq).1 hlead.2.1
    next => rw [hi]; rfl

theorem readsBack_object (hl : l.IsBlank) {members : List (String × Json)}
    (hn : (members.map Prod.fst).Nodup) (h : ∀ m ∈ members, ReadsBack l strict m.2) :
    ReadsBack l strict (.object members) := by
  intro level fuel rest hf _
  by_cases hne : members = []
  · subst hne
    obtain ⟨fuel, rfl⟩ : ∃ f, fuel = f + 1 := ⟨fuel - 1, by simp [Layout.chars] at hf; omega⟩
    rfl
  · have hempty : members.isEmpty = false := by simpa using hne
    simp only [Layout.chars, hempty, Bool.false_eq_true, if_false, List.length_cons,
      List.length_append] at hf
    obtain ⟨fuel, rfl⟩ : ∃ f, fuel = f + 1 := ⟨fuel - 1, by omega⟩
    have hlead := members_lead hne l (level + 1)
    have hs := skipSpace_lead (hl.first (level + 1)) hlead (l.last level ++ '\x7d' :: rest)
    have hi : readMembers strict fuel
        (l.members (level + 1) members ++ (l.last level ++ '\x7d' :: rest)) = _ :=
      readMembers_laid hl h hne (by omega) ⟨l.last level, hl.last level, rfl⟩
    obtain ⟨c, s, hc, hlead⟩ := hlead
    simp only [Layout.chars, hempty, Bool.false_eq_true, if_false, List.cons_append,
      List.append_assoc, List.nil_append, readValue, hs]
    split
    next heq =>
      rw [hc] at heq
      exact absurd (List.cons.inj heq).1 hlead.2.2.1
    next =>
      rw [hi]
      simp only [bind, Except.bind, ofMembers_eq_self hn]

/-- A tidy tree is read from its text in any layout. -/
theorem IsTidy.readsBack (hl : l.IsBlank) {j : Json} (h : IsTidy j)
    (hf : strict → j.HasFloats (·.isFinite)) : ReadsBack l strict j := by
  induction h with
  | null => exact readsBack_null
  | boolean b => exact readsBack_boolean b
  | integer h => exact readsBack_integer h
  | float x =>
    refine readsBack_float fun hs => ?_
    cases hf hs with
    | float hx => exact hx
  | string s => exact readsBack_string s
  | array _ ih =>
    refine readsBack_array hl fun j hj => ih j hj fun hs => ?_
    cases hf hs with
    | array h => exact h j hj
  | object hn _ ih =>
    refine readsBack_object hl hn fun m hm => ih m hm fun hs => ?_
    cases hf hs with
    | object h => exact h m hm

/-- A text that lays out a tidy tree, with blanks behind it, is read as that tree. -/
theorem read_laid (hl : l.IsBlank) {j : Json} (h : IsTidy j)
    (hf : strict → j.HasFloats (·.isFinite)) {source : String} {blanks : List Char}
    (hb : AreBlank blanks) (hs : source.toList = l.chars 0 j ++ blanks) :
    read strict source = .ok j := by
  obtain ⟨c, s, hc, hlead⟩ := chars_lead l 0 j
  -- a mark of byte order at the front would be refused
  have hmark : source.toList.head? ≠ some (Char.ofNat 0xFEFF) := by
    rw [hs, hc]
    intro heq
    have := hlead.2.2.2
    rw [Option.some.inj heq] at this
    revert this
    decide
  have hstops : Stops blanks := List.append_nil blanks ▸ hb.stops .nil
  have hskip : skipSpace (l.chars 0 j ++ blanks) = l.chars 0 j ++ blanks :=
    skipSpace_lead .nil ⟨c, s, hc, hlead⟩ blanks
  have hend : skipSpace blanks = [] := by
    have := hb.skipSpace []
    rwa [List.append_nil] at this
  rw [read, if_neg hmark, readUnmarked]
  simp only [hs, hskip]
  rw [h.readsBack hl hf 0 _ blanks (by simp; omega) hstops]
  simp only [bind, Except.bind, hend]

/-- The text of a tidy tree, with a line break at its end, is read as that tree. -/
theorem read_pretty {j : Json} (h : IsTidy j) : read false (j.pretty ++ "\n") = .ok j := by
  have hbreak : AreBlank ['\n'] := List.forall_mem_singleton.mpr rfl
  refine read_laid Layout.manyLines_isBlank h (fun hs => Bool.noConfusion hs) hbreak ?_
  rw [String.toList_append, pretty, String.toList_ofList, prettyChars_eq]
  rfl

/-- The shortest text of a tidy tree whose floats are finite is read as that tree, though the names
of numbers are refused. -/
theorem read_compact {j : Json} (h : IsTidy j) (hf : j.HasFloats (·.isFinite)) :
    read true j.compact = .ok j := by
  refine read_laid (Layout.oneLine_isBlank .nil) h (fun _ => hf) .nil ?_
  rw [compact, String.toList_ofList, lineChars_eq [] 0, List.append_nil]

end FunctionManual.Json
