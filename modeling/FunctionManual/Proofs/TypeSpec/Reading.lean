import FunctionManual.Proofs.Except
import FunctionManual.Proofs.TypeSpec.Splitting

/-!
# Reading types is deriving

* `union_eq_choice`: a union keeps the first of each alternative.
* `yieldsDerived`: what the reading functions take from the front derives what they yield.
* `Derives.isRead`: the tokens of a phrase are read as what it means.
* `read_eq_ok_iff`: a text is read as a type just when it spells it.
* `read_iff_spells`: so a text has one type at most, and every text that has none is refused.
-/

namespace FunctionManual.TypeSpec

open FunctionManual.Text

/-! ## Choices -/

theorem addNew_eq (types given : List TypeSpec) :
    addNew types given = types ++ (given.removeAll types).eraseDups := by
  induction given generalizing types with
  | nil => simp [addNew]
  | cons t given ih =>
    rw [addNew, ih]
    by_cases ht : t ∈ types
    · simp [ht, List.removeAll]
    · have hrest : given.removeAll (types ++ [t]) =
          (given.removeAll types).filter fun b => !b == t := by
        simp [List.removeAll, List.filter_filter, Bool.and_comm, beq_eq_decide]
      have hkept : (t :: given).removeAll types = t :: given.removeAll types := by
        simp [List.removeAll, ht]
      rw [if_neg ht, hkept, List.eraseDups_cons, hrest, List.append_assoc, List.singleton_append]

/-- A union keeps the first of each alternative. -/
theorem union_eq_choice (types : List TypeSpec) : union types = choice types := by
  rw [union, addNew_eq, List.nil_append, List.removeAll_nil]
  rfl

/-! ## What is read is derived -/

/-- What the reading functions take from the front, with `fuel` steps, derives what they yield. -/
structure YieldsDerived (fuel : Nat) : Prop where
  union : ∀ ts t rest, readUnion fuel ts = .ok (t, rest) → ∃ us, ts = us ++ rest ∧ DerivesType us t
  others : ∀ ts types rest, readOthers fuel ts = .ok (types, rest) → types = [] ∧ ts = rest ∨
    ∃ us, ts = "|" :: (us ++ rest) ∧ Derives us (.members types)
  member : ∀ ts t rest, readMember fuel ts = .ok (t, rest) →
    ∃ us, ts = us ++ rest ∧ Derives us (.member t)
  parts : ∀ ts part rest, readParts fuel ts = .ok (part, rest) → part = none ∧ ts = rest ∨
    ∃ us t, ts = "<" :: (us ++ ">" :: rest) ∧ DerivesType us t ∧ part = some t

section Step

variable {fuel : Nat} (ih : YieldsDerived fuel)

include ih

/-- A member, and those behind it. -/
theorem YieldsDerived.members {ts rest rest' : List String} {t : TypeSpec} {types : List TypeSpec}
    (hm : readMember fuel ts = .ok (t, rest)) (ho : readOthers fuel rest = .ok (types, rest')) :
    ∃ us, ts = us ++ rest' ∧ Derives us (.members (t :: types)) := by
  obtain ⟨us, rfl, hd⟩ := ih.member _ _ _ hm
  obtain ⟨rfl, rfl⟩ | ⟨vs, rfl, hds⟩ := ih.others _ _ _ ho
  · exact ⟨us, rfl, .last hd⟩
  · exact ⟨us ++ "|" :: vs, by simp, .more hd hds⟩

theorem readUnion_derived (ts : List String) (t : TypeSpec) (rest : List String)
    (h : readUnion (fuel + 1) ts = .ok (t, rest)) : ∃ us, ts = us ++ rest ∧ DerivesType us t := by
  unfold readUnion at h
  obtain ⟨⟨first, left⟩, hf, h⟩ := bind_eq_ok h
  obtain ⟨⟨others, left'⟩, ho, h⟩ := bind_eq_ok h
  cases h
  obtain ⟨us, hts, hd⟩ := ih.members hf ho
  exact ⟨us, hts, _, hd, union_eq_choice _⟩

theorem readOthers_derived (ts : List String) (types : List TypeSpec) (rest : List String)
    (h : readOthers (fuel + 1) ts = .ok (types, rest)) : types = [] ∧ ts = rest ∨
      ∃ us, ts = "|" :: (us ++ rest) ∧ Derives us (.members types) := by
  unfold readOthers at h
  split at h
  next left =>
    obtain ⟨⟨next, left'⟩, hn, h⟩ := bind_eq_ok h
    obtain ⟨⟨others, left''⟩, ho, h⟩ := bind_eq_ok h
    cases h
    obtain ⟨us, rfl, hd⟩ := ih.members hn ho
    exact .inr ⟨us, rfl, hd⟩
  next =>
    cases h
    exact .inl ⟨rfl, rfl⟩

theorem readMember_derived (ts : List String) (t : TypeSpec) (rest : List String)
    (h : readMember (fuel + 1) ts = .ok (t, rest)) :
    ∃ us, ts = us ++ rest ∧ Derives us (.member t) := by
  cases ts with
  | nil => simp [readMember] at h
  | cons name left =>
    rw [readMember] at h
    split at h
    next hname =>
      obtain ⟨⟨part, left'⟩, hp, h⟩ := bind_eq_ok h
      cases h
      obtain ⟨rfl, rfl⟩ | ⟨us, s, rfl, ⟨types, hd, rfl⟩, rfl⟩ := ih.parts _ _ _ hp
      · exact ⟨["array"], by rw [hname]; rfl, .anyArray⟩
      · exact ⟨"array" :: "<" :: (us ++ [">"]), by rw [hname]; simp, .array hd⟩
    split at h
    next hname =>
      obtain ⟨⟨part, left'⟩, hp, h⟩ := bind_eq_ok h
      cases h
      obtain ⟨rfl, rfl⟩ | ⟨us, s, rfl, ⟨types, hd, rfl⟩, rfl⟩ := ih.parts _ _ _ hp
      · exact ⟨["object"], by rw [hname]; rfl, .anyObject⟩
      · exact ⟨"object" :: "<" :: (us ++ [">"]), by rw [hname]; simp, .object hd⟩
    split at h
    next p hp =>
      cases h
      have hname : p.name = name := by simpa using List.find?_some hp
      exact ⟨[p.name], by rw [hname]; rfl, .primitive p⟩
    next => cases h

theorem readParts_derived (ts : List String) (part : Option TypeSpec) (rest : List String)
    (h : readParts (fuel + 1) ts = .ok (part, rest)) : part = none ∧ ts = rest ∨
      ∃ us t, ts = "<" :: (us ++ ">" :: rest) ∧ DerivesType us t ∧ part = some t := by
  unfold readParts at h
  split at h
  next left =>
    obtain ⟨⟨t, left'⟩, ht, h⟩ := bind_eq_ok h
    dsimp only at h
    split at h
    next =>
      cases h
      obtain ⟨us, rfl, hd⟩ := ih.union _ _ _ ht
      exact .inr ⟨us, t, rfl, hd, rfl⟩
    next => cases h
    next => cases h
  next =>
    cases h
    exact .inl ⟨rfl, rfl⟩

end Step

theorem yieldsDerived (fuel : Nat) : YieldsDerived fuel := by
  induction fuel with
  | zero =>
    refine ⟨fun ts t rest h => ?_, fun ts types rest h => ?_, fun ts t rest h => ?_,
      fun ts part rest h => ?_⟩
    · unfold readUnion at h; cases h
    · unfold readOthers at h; cases h; exact .inl ⟨rfl, rfl⟩
    · unfold readMember at h; cases h
    · unfold readParts at h; cases h; exact .inl ⟨rfl, rfl⟩
  | succ fuel ih =>
    exact ⟨readUnion_derived ih, readOthers_derived ih, readMember_derived ih,
      readParts_derived ih⟩

/-- Tokens that spell a type derive it. -/
theorem derivesType_of_ofTokens {ts : List String} {t : TypeSpec} (h : ofTokens ts = .ok t) :
    DerivesType ts t := by
  obtain ⟨⟨s, rest⟩, hr, h⟩ := bind_eq_ok h
  dsimp only at h
  split at h
  next =>
    cases h
    obtain ⟨us, rfl, hd⟩ := (yieldsDerived _).union _ _ _ hr
    rwa [List.append_nil]
  next => cases h

/-! ## What is derived is read -/

/-- Tokens are read as a member, unless the type of its parts could follow. -/
def MemberReads (us : List String) (t : TypeSpec) : Prop := ∀ fuel rest, 2 * us.length ≤ fuel →
  rest.head? ≠ some "<" → readMember fuel (us ++ rest) = .ok (t, rest)

/-- Tokens are read as members, alone and behind a stroke, unless they could go on. Every two
tokens take a step, and so does every member. -/
structure MembersRead (us : List String) (types : List TypeSpec) : Prop where
  union : ∀ fuel rest, 2 * us.length + 1 ≤ fuel → rest.head? ≠ some "<" →
    rest.head? ≠ some "|" → readUnion fuel (us ++ rest) = .ok (union types, rest)
  others : ∀ fuel rest, 2 * us.length + 1 ≤ fuel → rest.head? ≠ some "<" →
    rest.head? ≠ some "|" → readOthers fuel ("|" :: (us ++ rest)) = .ok (types, rest)

/-- The tokens of a phrase are read as what it means. -/
def Phrase.IsRead (us : List String) : Phrase → Prop
  | .member t => MemberReads us t
  | .members types => MembersRead us types

section Reads

variable {fuel : Nat} {rest us vs : List String} {t : TypeSpec} {types : List TypeSpec}

theorem readParts_none (h : rest.head? ≠ some "<") : readParts fuel rest = .ok (none, rest) := by
  cases fuel with
  | zero => rw [readParts]
  | succ fuel =>
    unfold readParts
    split
    next => exact absurd rfl h
    next => rfl

theorem readOthers_nil (h : rest.head? ≠ some "|") : readOthers fuel rest = .ok ([], rest) := by
  cases fuel with
  | zero => rw [readOthers]
  | succ fuel =>
    unfold readOthers
    split
    next => exact absurd rfl h
    next => rfl

theorem readParts_some (h : MembersRead us types) (hf : 2 * us.length + 2 ≤ fuel) :
    readParts fuel ("<" :: (us ++ ">" :: rest)) = .ok (some (choice types), rest) := by
  obtain ⟨fuel, rfl⟩ : ∃ f, fuel = f + 1 := ⟨fuel - 1, by omega⟩
  have hu := h.union fuel (">" :: rest) (by omega) (by simp) (by simp)
  simp only [readParts, hu, union_eq_choice, bind, Except.bind]

theorem memberReads_primitive (p : Primitive) : MemberReads [p.name] (.primitive p) := by
  intro fuel rest hf _
  obtain ⟨fuel, rfl⟩ : ∃ f, fuel = f + 1 := ⟨fuel - 1, by simp at hf; omega⟩
  have h : p.name ≠ "array" ∧ p.name ≠ "object" ∧ Primitive.ofName? p.name = some p := by
    cases p <;> decide
  simp only [List.singleton_append, readMember, h.1, h.2.1, h.2.2, if_false]

theorem memberReads_anyArray : MemberReads ["array"] (.array none) := by
  intro fuel rest hf hr
  obtain ⟨fuel, rfl⟩ : ∃ f, fuel = f + 1 := ⟨fuel - 1, by simp at hf; omega⟩
  simp only [List.singleton_append, readMember, if_true, readParts_none hr, bind, Except.bind]

theorem memberReads_anyObject : MemberReads ["object"] (.object none) := by
  intro fuel rest hf hr
  obtain ⟨fuel, rfl⟩ : ∃ f, fuel = f + 1 := ⟨fuel - 1, by simp at hf; omega⟩
  have hne : ¬ "object" = "array" := by decide
  simp only [List.singleton_append, readMember, hne, if_false, if_true, readParts_none hr, bind,
    Except.bind]

theorem memberReads_array (h : MembersRead us types) :
    MemberReads ("array" :: "<" :: (us ++ [">"])) (.array (some (choice types))) := by
  intro fuel rest hf _
  simp only [List.length_cons, List.length_append, List.length_nil] at hf
  obtain ⟨fuel, rfl⟩ : ∃ f, fuel = f + 1 := ⟨fuel - 1, by omega⟩
  have hp : readParts fuel ("<" :: (us ++ ">" :: rest)) = _ := readParts_some h (by omega)
  simp only [List.cons_append, List.append_assoc, List.nil_append, readMember, if_true, hp, bind,
    Except.bind]

theorem memberReads_object (h : MembersRead us types) :
    MemberReads ("object" :: "<" :: (us ++ [">"])) (.object (some (choice types))) := by
  intro fuel rest hf _
  simp only [List.length_cons, List.length_append, List.length_nil] at hf
  obtain ⟨fuel, rfl⟩ : ∃ f, fuel = f + 1 := ⟨fuel - 1, by omega⟩
  have hne : ¬ "object" = "array" := by decide
  have hp : readParts fuel ("<" :: (us ++ ">" :: rest)) = _ := readParts_some h (by omega)
  simp only [List.cons_append, List.append_assoc, List.nil_append, readMember, hne, if_false,
    if_true, hp, bind, Except.bind]

theorem membersRead_last (h : MemberReads us t) : MembersRead us [t] := by
  constructor
  all_goals
    intro fuel rest hf hr ho
    obtain ⟨fuel, rfl⟩ : ∃ f, fuel = f + 1 := ⟨fuel - 1, by omega⟩
  · simp only [readUnion, h fuel rest (by omega) hr, readOthers_nil ho, bind, Except.bind]
  · simp only [readOthers, h fuel rest (by omega) hr, readOthers_nil ho, bind, Except.bind]

theorem membersRead_more (h : MemberReads us t) (hs : MembersRead vs types) :
    MembersRead (us ++ "|" :: vs) (t :: types) := by
  constructor
  all_goals
    intro fuel rest hf hr ho
    simp only [List.length_append, List.length_cons] at hf
    obtain ⟨fuel, rfl⟩ : ∃ f, fuel = f + 1 := ⟨fuel - 1, by omega⟩
    have hm := h fuel ("|" :: (vs ++ rest)) (by omega) (by simp)
    have hos := hs.others fuel rest (by omega) hr ho
  · simp only [List.append_assoc, List.cons_append, readUnion, hm, hos, bind, Except.bind]
  · simp only [List.append_assoc, List.cons_append, readOthers, hm, hos, bind, Except.bind]

end Reads

/-- The tokens of a phrase are read as what it means. -/
theorem Derives.isRead {us : List String} {p : Phrase} (h : Derives us p) : p.IsRead us := by
  induction h with
  | primitive p => exact memberReads_primitive p
  | anyArray => exact memberReads_anyArray
  | array _ ih => exact memberReads_array ih
  | anyObject => exact memberReads_anyObject
  | object _ ih => exact memberReads_object ih
  | last _ ih => exact membersRead_last ih
  | more _ _ iht ihs => exact membersRead_more iht ihs

theorem DerivesType.ofTokens_eq {ts : List String} {t : TypeSpec} (h : DerivesType ts t) :
    ofTokens ts = .ok t := by
  obtain ⟨types, hd, rfl⟩ := h
  have hread : MembersRead ts types := hd.isRead
  have hu := hread.union (4 * ts.length + 4) [] (by omega) (by simp) (by simp)
  rw [List.append_nil] at hu
  simp only [ofTokens, hu, union_eq_choice, bind, Except.bind]

/-! ## Texts -/

theorem ofTokens_eq_ok_iff {ts : List String} {t : TypeSpec} :
    ofTokens ts = .ok t ↔ DerivesType ts t := ⟨derivesType_of_ofTokens, DerivesType.ofTokens_eq⟩

theorem tokens_of_isBlankText {source : String} (h : isBlankText source) :
    tokens source = .ok [] := by
  have hb : AreBlanks source.toList := List.all_eq_true.mp h
  rw [tokens, ← List.append_nil source.toList, tokensFrom_blanks hb]
  rfl

/-- A text has a type just when it has tokens that have one; a blank text has none. -/
theorem read_eq_ok {source : String} {t : TypeSpec} :
    read source = .ok t ↔ ∃ ts, tokens source = .ok ts ∧ ofTokens ts = .ok t := by
  rw [read, mapError_eq_ok]
  split
  next hb =>
    refine iff_of_false nofun ?_
    rintro ⟨ts, hts, h⟩
    rw [tokens_of_isBlankText hb] at hts
    cases hts
    cases h
  next =>
    constructor
    · exact fun h => bind_eq_ok h
    · rintro ⟨ts, hts, h⟩
      rw [hts]
      exact h

/-- A text is read as a type just when it spells it. -/
theorem read_eq_ok_iff {source : String} {t : TypeSpec} :
    read source = .ok t ↔ Spells source t := by
  rw [read_eq_ok]
  constructor
  · rintro ⟨ts, hts, h⟩
    exact ⟨ts, tokens_writes hts, derivesType_of_ofTokens h⟩
  · rintro ⟨ts, hw, types, hd, rfl⟩
    exact ⟨ts, hw.tokens_eq hd.separate, DerivesType.ofTokens_eq ⟨types, hd, rfl⟩⟩

/-- A text is read as a type just when it spells it, which is then the only one. Every other text
is refused, by an error that shows it. -/
theorem read_iff_spells (source : String) :
    (∀ t, read source = .ok t ↔ Spells source t) ∧
      (∀ s t, Spells source s → Spells source t → s = t) ∧
      ((∀ t, ¬ Spells source t) → ∃ problem, read source = .error ⟨problem, source⟩) := by
  refine ⟨fun t => read_eq_ok_iff, fun s t hs ht => ?_, fun h => ?_⟩
  · rw [← read_eq_ok_iff] at hs ht
    rw [hs] at ht
    exact Except.ok.inj ht
  · cases hr : read source with
    | ok t => exact absurd (read_eq_ok_iff.mp hr) (h t)
    | error e =>
      refine ⟨e.problem, ?_⟩
      unfold read at hr
      obtain ⟨p, -, rfl⟩ := mapError_eq_error hr
      rfl

/-- Null, or an array of texts. -/
def textsOrNull : TypeSpec := .oneOf [.array (some (.primitive .string)), .primitive .null]

/-- A member that stands twice counts once, and blanks count nothing. -/
theorem spells_textsOrNull : Spells " array< string|string >|null" textsOrNull := by
  have hblank : AreBlanks [' '] := List.forall_mem_singleton.mpr rfl
  have hw : Writes ([' '] ++ ("array".toList ++ ("<".toList ++ ([' '] ++ ("string".toList ++
      ("|".toList ++ ("string".toList ++ ([' '] ++ (">".toList ++ ("|".toList ++
        "null".toList)))))))))) ["array", "<", "string", "|", "string", ">", "|", "null"] :=
    .cons hblank (.token "<" (.cons hblank (.token "|" (.token "string" (.cons hblank
      (.token "|" (writes_token "null")))))))
  have hstring := Derives.primitive .string
  exact ⟨_, hw, _, .more (.array (.more hstring (.last hstring))) (.last (.primitive .null)), rfl⟩

/-- A bracket too many is refused. -/
theorem read_iff_spells_textsOrNull :
    Spells " array< string|string >|null" textsOrNull ∧
      read " array< string|string >|null" = .ok textsOrNull ∧
      (∀ t, Spells " array< string|string >|null" t → t = textsOrNull) ∧
      (∀ t, ¬ Spells "array<string>>" t) ∧
      ∃ problem, read "array<string>>" = .error ⟨problem, "array<string>>"⟩ := by
  obtain ⟨reads, unique, -⟩ := read_iff_spells " array< string|string >|null"
  obtain ⟨reads', -, refused⟩ := read_iff_spells "array<string>>"
  have hnone (t : TypeSpec) : ¬ Spells "array<string>>" t := by
    have hread : read "array<string>>" =
        .error ⟨.unexpectedToken ">", "array<string>>"⟩ := by decide +kernel
    rw [← reads', hread]
    exact nofun
  exact ⟨spells_textsOrNull, (reads _).mpr spells_textsOrNull,
    fun t h => unique _ _ h spells_textsOrNull, hnone, refused hnone⟩

end FunctionManual.TypeSpec
