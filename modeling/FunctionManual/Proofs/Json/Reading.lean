import FunctionManual.Proofs.Except
import FunctionManual.Proofs.Json.Writing

/-!
# What is read

* `ofMembers_spec`: setting members one after another leaves each name once, with
  values that were given.
* `readNumber_eq_ok`: a number that is read is spelled by a numeral at the front of the text.
* `Yields`: what reading gives from any place of a text on.
* `read_tidy`: a text is read as a tidy tree.
* `read_floats`: where the names of numbers are refused, every float is the value of a numeral in
  the text.
-/

namespace FunctionManual.Json

open FunctionManual.Text

/-! ## Members -/

theorem names_insert (name : String) (value : Json) (members : List (String × Json)) :
    (insert name value members).map Prod.fst =
      if name ∈ members.map Prod.fst then members.map Prod.fst
      else members.map Prod.fst ++ [name] := by
  induction members with
  | nil => simp [insert]
  | cons m members ih =>
    obtain ⟨n, v⟩ := m
    by_cases hn : n = name
    · simp [insert, hn]
    · simp only [insert, hn, if_false, List.map_cons, ih, List.mem_cons, Ne.symm hn, false_or]
      split <;> rfl

theorem mem_insert {name : String} {value : Json} {members : List (String × Json)}
    {m : String × Json} (h : m ∈ insert name value members) : m = (name, value) ∨ m ∈ members := by
  induction members with
  | nil => simpa [insert] using h
  | cons k members ih =>
    obtain ⟨n, v⟩ := k
    by_cases hn : n = name
    · simp only [insert, hn, if_true, List.mem_cons] at h
      exact h.imp_right (List.mem_cons_of_mem _)
    · simp only [insert, hn, if_false, List.mem_cons] at h ⊢
      rcases h with h | h
      · exact Or.inr (Or.inl h)
      · exact (ih h).imp_right Or.inr

/-- Each name is set once, and every value was given. -/
theorem ofMembers_spec (members : List (String × Json)) :
    ((ofMembers members).map Prod.fst).Nodup ∧ ∀ m ∈ ofMembers members, m ∈ members := by
  have go : ∀ (given done : List (String × Json)), (done.map Prod.fst).Nodup →
      ((given.foldl (fun done m => insert m.1 m.2 done) done).map Prod.fst).Nodup ∧
      ∀ m ∈ given.foldl (fun done m => insert m.1 m.2 done) done, m ∈ done ∨ m ∈ given := by
    intro given
    induction given with
    | nil => exact fun done hd => ⟨hd, fun m hm => Or.inl hm⟩
    | cons k given ih =>
      intro done hd
      have hk : ((insert k.1 k.2 done).map Prod.fst).Nodup := by
        rw [names_insert]
        split
        · exact hd
        next hnot =>
          refine List.nodup_append.mpr ⟨hd, by simp, ?_⟩
          rintro a ha b hb rfl
          exact hnot (List.mem_singleton.mp hb ▸ ha)
      obtain ⟨hn, hm⟩ := ih _ hk
      refine ⟨hn, fun m h => ?_⟩
      rcases hm m h with h | h
      · rcases mem_insert h with rfl | h
        · exact Or.inr (List.mem_cons_self ..)
        · exact Or.inl h
      · exact Or.inr (List.mem_cons_of_mem _ h)
  obtain ⟨hn, hm⟩ := go members [] (by simp)
  exact ⟨hn, fun m h => (hm m h).resolve_left (by simp)⟩

/-! ## Numbers -/

theorem areDigits_span (s : List Char) : AreDigits (s.span isAsciiDigit).1 := by
  rw [List.span_eq_takeWhile_dropWhile]
  exact fun c hc => List.all_eq_true.mp List.all_takeWhile c hc

theorem span_append (s : List Char) :
    (s.span isAsciiDigit).1 ++ (s.span isAsciiDigit).2 = s := by
  rw [List.span_eq_takeWhile_dropWhile]
  exact List.takeWhile_append_dropWhile

theorem spanWhole_spec (s : List Char) :
    (spanWhole s).1 ++ (spanWhole s).2 = s ∧ AreDigits (spanWhole s).1 := by
  unfold spanWhole
  split
  · exact ⟨rfl, areDigits_zeros 1⟩
  · exact ⟨span_append s, areDigits_span s⟩

theorem spanPoint_spec (s : List Char) : (spanPoint s).1 ++ (spanPoint s).2 = s ∧
    ∃ ds, AreDigits ds ∧ (spanPoint s).1 = if ds = [] then [] else '.' :: ds := by
  unfold spanPoint
  split
  next rest =>
    have happ := span_append rest
    have hds := areDigits_span rest
    generalize rest.span isAsciiDigit = found at happ hds
    obtain ⟨ds, left⟩ := found
    dsimp only at happ hds ⊢
    split
    · exact ⟨rfl, [], .nil, rfl⟩
    next hne =>
      refine ⟨by rw [← happ]; rfl, ds, hds, ?_⟩
      rw [if_neg (by simpa using hne)]
  next => exact ⟨rfl, [], .nil, rfl⟩

theorem spanExponent_spec (s : List Char) : (spanExponent s).1 ++ (spanExponent s).2 = s ∧
    ∃ x, Numeral.SpellsExponent x (spanExponent s).1 ∧ ∀ e ∈ x, e.2 ≠ [] ∧ AreDigits e.2 := by
  have nothing : ∃ x, Numeral.SpellsExponent x [] ∧
      ∀ e ∈ x, e.2 ≠ [] ∧ AreDigits e.2 := ⟨none, .absent, nofun⟩
  unfold spanExponent
  split
  next c rest =>
    split
    next hc =>
      have hc : c = 'e' ∨ c = 'E' := by simpa using hc
      split
      next sign body hs =>
      have happ := span_append body
      have hds := areDigits_span body
      generalize body.span isAsciiDigit = found at happ hds
      obtain ⟨ds, left⟩ := found
      dsimp only at happ hds ⊢
      split
      next => exact ⟨rfl, nothing⟩
      next hne =>
        have hne : ds ≠ [] := by simpa using hne
        have hx (negative : Bool) : ∀ e ∈ some (negative, ds), e.2 ≠ [] ∧ AreDigits e.2 := by
          intro e he
          rw [← Option.mem_some.mp he]
          exact ⟨hne, hds⟩
        split at hs
        next =>
          cases hs
          exact ⟨by rw [← happ]; rfl, _, .plus hc ds, hx false⟩
        next =>
          cases hs
          exact ⟨by rw [← happ]; rfl, _, .minus hc ds, hx true⟩
        next =>
          cases hs
          exact ⟨by rw [← happ]; rfl, _, .bare hc ds, hx false⟩
    next => exact ⟨rfl, nothing⟩
  next => exact ⟨rfl, nothing⟩

/-- An integer that is read keeps to the limit on digits. -/
theorem readPlain_tidy {n : Numeral} {i : Int} (hn : n.IsWhole)
    (h : Integer.readPlain n.chars = .ok i) :
    (Nat.toDigits 10 i.natAbs).length ≤ Integer.digitLimit := by
  rw [hn.readPlain] at h
  split at h
  next => cases h
  next hle =>
    cases h
    have habs : (Integer.signed n.negative (digitsValue n.whole)).natAbs = digitsValue n.whole := by
      unfold Integer.signed
      split <;> omega
    rw [habs]
    refine Nat.le_trans ?_ (Nat.not_lt.mp hle)
    exact (Nat.length_toDigits_le_iff (by decide) (List.length_pos_iff.mpr n.whole_ne)).mpr
      (digitsValue_lt n.whole_digits)

/-- A number that is read is spelled by a numeral at the front of the text: it is the double nearest
to the numeral, or an integer that keeps to the limit on digits. -/
theorem readNumber_eq_ok {s rest : List Char} {j : Json} (h : readNumber s = .ok (j, rest)) :
    ∃ (n : Numeral) (t : List Char), n.IsSpelled t ∧ s = t ++ rest ∧ (j = .float n.value ∨
      ∃ i, j = .integer i ∧ (Nat.toDigits 10 i.natAbs).length ≤ Integer.digitLimit) := by
  unfold readNumber at h
  split at h
  next sign body hs =>
  obtain ⟨negative, rfl, rfl⟩ : ∃ negative : Bool, sign = (if negative then ['-'] else []) ∧
      s = sign ++ body := by
    split at hs
    · cases hs; exact ⟨true, rfl, rfl⟩
    · cases hs; exact ⟨false, rfl, rfl⟩
  obtain ⟨hwhole, hw⟩ := spanWhole_spec body
  generalize spanWhole body = found at h hwhole hw
  obtain ⟨whole, afterWhole⟩ := found
  dsimp only at h hwhole hw
  split at h
  next => cases h
  next hne =>
    have hne : whole ≠ [] := by simpa using hne
    obtain ⟨hpoint, fraction, hf, hfraction⟩ := spanPoint_spec afterWhole
    generalize spanPoint afterWhole = found at h hpoint hfraction
    obtain ⟨point, afterPoint⟩ := found
    dsimp only at h hpoint hfraction
    obtain ⟨hexponent, x, hx, hdigits⟩ := spanExponent_spec afterPoint
    generalize spanExponent afterPoint = found at h hexponent hx
    obtain ⟨exponent, left⟩ := found
    dsimp only at h hexponent hx
    let n : Numeral := ⟨negative, whole, fraction, x, hw, hne, hf, hdigits⟩
    have hn : n.IsSpelled (n.signChars ++ whole ++ point ++ exponent) :=
      ⟨exponent, hx, by rw [hfraction]; simp [Numeral.fractionChars, n]⟩
    have hsign : (if negative then ['-'] else []) = n.signChars := rfl
    have hs : n.signChars ++ body = n.signChars ++ whole ++ point ++ exponent ++ left := by
      rw [← hwhole, ← hpoint, ← hexponent]
      simp only [List.append_assoc]
    rw [hsign] at h ⊢
    split at h
    next hempty =>
      obtain ⟨rfl, rfl⟩ : point = [] ∧ exponent = [] := by simpa using hempty
      have hwhole : n.IsWhole := by
        refine ⟨?_, by cases hx; rfl⟩
        by_contra hne
        rw [if_neg hne] at hfraction
        cases hfraction
      have hchars : n.signChars ++ whole = n.chars := by rw [Numeral.chars, hwhole.unsigned]
      rw [hchars] at h
      split at h
      next i hi =>
        cases h
        exact ⟨n, _, hn, hs, .inr ⟨i, rfl, readPlain_tidy hwhole hi⟩⟩
      next => cases h
      next => cases h
    next =>
      rw [Numeral.read_spelled hn] at h
      cases h
      exact ⟨n, _, hn, hs, .inl rfl⟩

/-! ## What is left -/

theorem skipSpace_suffix (s : List Char) : skipSpace s <:+ s := List.dropWhile_suffix _

theorem hex4?_suffix {s rest : List Char} {n : Nat} (h : hex4? s = some (n, rest)) :
    rest <:+ s := by
  unfold hex4? at h
  split at h
  next a b c d tail =>
    obtain ⟨_, -, h⟩ := Option.bind_eq_some_iff.mp h
    obtain ⟨_, -, h⟩ := Option.bind_eq_some_iff.mp h
    obtain ⟨_, -, h⟩ := Option.bind_eq_some_iff.mp h
    obtain ⟨_, -, h⟩ := Option.bind_eq_some_iff.mp h
    cases h
    exact ⟨[a, b, c, d], rfl⟩
  next => cases h

theorem readCode_suffix {s rest : List Char} {c : Char} (h : readCode s = .ok (c, rest)) :
    rest <:+ s := by
  unfold readCode at h
  split at h
  next => cases h
  next =>
    split at h
    next => cases h
    next high left hfirst =>
      have hleft := hex4?_suffix hfirst
      split at h
      next more =>
        split at h
        next =>
          split at h
          next => cases h
          next low left' hsecond =>
            split at h
            next =>
              obtain ⟨-, rfl⟩ := Prod.mk.inj (Except.ok.inj h)
              have hmore : more <:+ '\\' :: 'u' :: more := ⟨['\\', 'u'], rfl⟩
              exact ((hex4?_suffix hsecond).trans hmore).trans hleft
            next => cases h; exact hleft
        next => cases h; exact hleft
      next => cases h; exact hleft

theorem readChars_suffix {whole s rest cs : List Char} {fuel : Nat}
    (h : readChars whole fuel s = .ok (cs, rest)) : rest <:+ s := by
  induction fuel generalizing s cs rest with
  | zero => cases h
  | succ fuel ih =>
    unfold readChars at h
    split at h
    next => cases h
    next tail => cases h; exact List.suffix_cons _ _
    next tail =>
      split at h
      next => cases h
      next more =>
        obtain ⟨⟨c, left⟩, hc, h⟩ := bind_eq_ok h
        obtain ⟨⟨cs', left'⟩, hcs, h⟩ := bind_eq_ok h
        cases h
        have hmore : more <:+ '\\' :: 'u' :: more := ⟨['\\', 'u'], rfl⟩
        exact ((ih hcs).trans (readCode_suffix hc)).trans hmore
      next e more _ =>
        split at h
        next => cases h
        next =>
          obtain ⟨⟨cs', left⟩, hcs, h⟩ := bind_eq_ok h
          cases h
          exact (ih hcs).trans ⟨['\\', e], rfl⟩
    next c tail _ _ =>
      split at h
      next => cases h
      next =>
        obtain ⟨⟨cs', left⟩, hcs, h⟩ := bind_eq_ok h
        cases h
        exact (ih hcs).trans (List.suffix_cons _ _)

theorem readString_suffix {s rest : List Char} {t : String} (h : readString s = .ok (t, rest)) :
    rest <:+ s := by
  obtain ⟨⟨cs, left⟩, hcs, h⟩ := bind_eq_ok h
  cases h
  exact readChars_suffix hcs

theorem leading?_spec {α : Type} {table : List (List Char × α)} {s w rest : List Char} {v : α}
    (h : leading? table s = some (w, v, rest)) : (w, v) ∈ table ∧ rest <:+ s := by
  obtain ⟨⟨w', v'⟩, hfind, heq⟩ := Option.map_eq_some_iff.mp h
  cases heq
  exact ⟨List.mem_of_find?_eq_some hfind, List.drop_suffix _ _⟩

/-- What is read that is no container and no string: a word, the name of a number where names are
not refused, or what a numeral at the front of the text spells. -/
theorem readSimple_eq_ok {strict : Bool} {s rest : List Char} {j : Json}
    (h : readSimple strict s = .ok (j, rest)) :
    rest <:+ s ∧ (j = .null ∨ (∃ b, j = .boolean b) ∨ (strict = false ∧ ∃ x, j = .float x) ∨
      (∃ i, j = .integer i ∧ (Nat.toDigits 10 i.natAbs).length ≤ Integer.digitLimit) ∨
      ∃ n t, Numeral.IsSpelled n t ∧ t <+: s ∧ j = .float n.value) := by
  unfold readSimple at h
  split at h
  next v left hw =>
    cases h
    obtain ⟨hmem, hleft⟩ := leading?_spec hw
    refine ⟨hleft, ?_⟩
    simp only [words, List.mem_cons, Prod.mk.injEq, List.not_mem_nil, or_false] at hmem
    rcases hmem with ⟨-, rfl⟩ | ⟨-, rfl⟩ | ⟨-, rfl⟩
    · exact .inl rfl
    · exact .inr (.inl ⟨true, rfl⟩)
    · exact .inr (.inl ⟨false, rfl⟩)
  next =>
    split at h
    next w x left hw =>
      cases strict with
      | true => cases h
      | false =>
        cases h
        exact ⟨(leading?_spec hw).2, .inr (.inr (.inl ⟨rfl, x, rfl⟩))⟩
    next =>
      obtain ⟨n, t, hn, rfl, hj⟩ := readNumber_eq_ok h
      refine ⟨List.suffix_append t rest, .inr (.inr (.inr ?_))⟩
      rcases hj with hj | hi
      · exact .inr ⟨n, t, hn, List.prefix_append t rest, hj⟩
      · exact .inl hi

/-! ## Trees -/

/-- A property of trees that strings have, and containers whose parts have it. -/
structure IsInherited (P : Json → Prop) : Prop where
  string : ∀ s, P (.string s)
  array : ∀ items, (∀ j ∈ items, P j) → P (.array items)
  object : ∀ members, (members.map Prod.fst).Nodup → (∀ m ∈ members, P m.2) → P (.object members)

/-- What the reading functions yield with `fuel` steps, from any place of a text on: trees with a
property, and a place further on. -/
structure Yields (strict : Bool) (source : List Char) (P : Json → Prop) (fuel : Nat) : Prop where
  value : ∀ s j rest, s <:+ source → readValue strict fuel s = .ok (j, rest) →
    P j ∧ rest <:+ source
  items : ∀ s js rest, s <:+ source → readItems strict fuel s = .ok (js, rest) →
    (∀ j ∈ js, P j) ∧ rest <:+ source
  members : ∀ s ms rest, s <:+ source → readMembers strict fuel s = .ok (ms, rest) →
    (∀ m ∈ ms, P m.2) ∧ rest <:+ source

section Step

variable {strict : Bool} {source : List Char} {P : Json → Prop} {fuel : Nat}

/-- What stands behind the blanks behind one character of a place is a place further on. -/
theorem suffix_behind {c : Char} {s rest : List Char} (hs : s <:+ source)
    (h : skipSpace s = c :: rest) : rest <:+ source :=
  ((h ▸ List.suffix_cons c rest).trans (skipSpace_suffix s)).trans hs

/-- One step of reading a value, given what the steps below it yield. -/
theorem readValue_yields (hP : IsInherited P)
    (hsimple : ∀ s j rest, s <:+ source → readSimple strict s = .ok (j, rest) → P j)
    (ih : Yields strict source P fuel) (s : List Char) (j : Json) (rest : List Char)
    (hs : s <:+ source) (h : readValue strict (fuel + 1) s = .ok (j, rest)) :
    P j ∧ rest <:+ source := by
  unfold readValue at h
  split at h
  next tail =>
    obtain ⟨⟨t, left⟩, ht, h⟩ := bind_eq_ok h
    cases h
    exact ⟨hP.string t, ((readString_suffix ht).trans (List.suffix_cons _ _)).trans hs⟩
  next tail =>
    have htail : tail <:+ source := (List.suffix_cons _ _).trans hs
    split at h
    next left hskip =>
      cases h
      exact ⟨hP.array [] (List.forall_mem_nil _), suffix_behind htail hskip⟩
    next =>
      obtain ⟨⟨items, left⟩, hi, h⟩ := bind_eq_ok h
      cases h
      obtain ⟨hitems, hleft⟩ := ih.items _ _ _ ((skipSpace_suffix tail).trans htail) hi
      exact ⟨hP.array items hitems, hleft⟩
  next tail =>
    have htail : tail <:+ source := (List.suffix_cons _ _).trans hs
    split at h
    next left hskip =>
      cases h
      exact ⟨hP.object [] .nil (List.forall_mem_nil _), suffix_behind htail hskip⟩
    next =>
      obtain ⟨⟨members, left⟩, hm, h⟩ := bind_eq_ok h
      cases h
      obtain ⟨hmembers, hleft⟩ := ih.members _ _ _ ((skipSpace_suffix tail).trans htail) hm
      obtain ⟨hn, hsub⟩ := ofMembers_spec members
      exact ⟨hP.object _ hn fun m hmem => hmembers m (hsub m hmem), hleft⟩
  next => exact ⟨hsimple s j rest hs h, (readSimple_eq_ok h).1.trans hs⟩

theorem readItems_yields (ih : Yields strict source P fuel) (s : List Char) (js : List Json)
    (rest : List Char) (hs : s <:+ source) (h : readItems strict (fuel + 1) s = .ok (js, rest)) :
    (∀ j ∈ js, P j) ∧ rest <:+ source := by
  unfold readItems at h
  obtain ⟨⟨j, left⟩, hj, h⟩ := bind_eq_ok h
  obtain ⟨hj, hleft⟩ := ih.value _ _ _ hs hj
  dsimp only at h
  split at h
  next hskip =>
    cases h
    exact ⟨List.forall_mem_singleton.mpr hj, suffix_behind hleft hskip⟩
  next tail hskip =>
    obtain ⟨⟨items, left'⟩, hi, h⟩ := bind_eq_ok h
    cases h
    obtain ⟨hitems, hleft'⟩ := ih.items _ _ _
      ((skipSpace_suffix tail).trans (suffix_behind hleft hskip)) hi
    exact ⟨List.forall_mem_cons.mpr ⟨hj, hitems⟩, hleft'⟩
  next => cases h

theorem readMembers_yields (ih : Yields strict source P fuel) (s : List Char)
    (ms : List (String × Json)) (rest : List Char) (hs : s <:+ source)
    (h : readMembers strict (fuel + 1) s = .ok (ms, rest)) :
    (∀ m ∈ ms, P m.2) ∧ rest <:+ source := by
  unfold readMembers at h
  split at h
  next tail =>
    obtain ⟨⟨n, left⟩, hn, h⟩ := bind_eq_ok h
    have hleft : left <:+ source :=
      ((readString_suffix hn).trans (List.suffix_cons _ _)).trans hs
    dsimp only at h
    split at h
    next behind hskip =>
      obtain ⟨⟨j, left'⟩, hj, h⟩ := bind_eq_ok h
      obtain ⟨hj, hleft'⟩ := ih.value _ _ _
        ((skipSpace_suffix behind).trans (suffix_behind hleft hskip)) hj
      dsimp only at h
      split at h
      next hskip =>
        cases h
        exact ⟨List.forall_mem_singleton.mpr hj, suffix_behind hleft' hskip⟩
      next behind hskip =>
        obtain ⟨⟨members, left''⟩, hm, h⟩ := bind_eq_ok h
        cases h
        obtain ⟨hmembers, hleft''⟩ := ih.members _ _ _
          ((skipSpace_suffix behind).trans (suffix_behind hleft' hskip)) hm
        exact ⟨List.forall_mem_cons.mpr ⟨hj, hmembers⟩, hleft''⟩
      next => cases h
    next => cases h
  next => cases h

/-- Any number of steps yields trees with an inherited property that all simple values in the text
have. The induction is on the steps. -/
theorem yields (hP : IsInherited P)
    (hsimple : ∀ s j rest, s <:+ source → readSimple strict s = .ok (j, rest) → P j) (fuel : Nat) :
    Yields strict source P fuel := by
  induction fuel with
  | zero =>
    refine ⟨fun s j rest _ h => ?_, fun s js rest _ h => ?_, fun s ms rest _ h => ?_⟩
    · unfold readValue at h; cases h
    · unfold readItems at h; cases h
    · unfold readMembers at h; cases h
  | succ fuel ih =>
    exact ⟨readValue_yields hP hsimple ih, readItems_yields ih, readMembers_yields ih⟩

end Step

/-- A text is read as a tree with an inherited property that all simple values in the text have. -/
theorem read_inherits {strict : Bool} {source : String} {j : Json} {P : Json → Prop}
    (hP : IsInherited P)
    (hsimple : ∀ s j rest, s <:+ source.toList → readSimple strict s = .ok (j, rest) → P j)
    (h : read strict source = .ok j) : P j := by
  unfold read at h
  split at h
  next => cases h
  next =>
    unfold readUnmarked at h
    obtain ⟨⟨k, rest⟩, hk, h⟩ := bind_eq_ok h
    dsimp only at h
    split at h
    next =>
      cases h
      exact ((yields hP hsimple _).value _ _ _ (skipSpace_suffix _) hk).1
    next => cases h

/-- A text is read as a tidy tree. -/
theorem read_tidy {strict : Bool} {source : String} {j : Json} (h : read strict source = .ok j) :
    IsTidy j := by
  refine read_inherits ⟨.string, fun _ => .array, fun _ => .object⟩ (fun s j rest _ hj => ?_) h
  obtain ⟨-, rfl | ⟨b, rfl⟩ | ⟨-, x, rfl⟩ | ⟨i, rfl, hi⟩ | ⟨n, t, -, -, rfl⟩⟩ :=
    readSimple_eq_ok hj
  · exact .null
  · exact .boolean b
  · exact .float x
  · exact .integer hi
  · exact .float n.value

/-- Where the names of numbers are refused, every float that is read is the value of a numeral in
the text. -/
theorem read_floats {source : String} {j : Json} (h : read true source = .ok j) :
    j.HasFloats fun x => ∃ n t, Numeral.IsSpelled n t ∧ t <:+: source.toList ∧ x = n.value := by
  refine read_inherits ⟨.string, fun _ => .array, fun _ _ => .object⟩ (fun s j rest hs hj => ?_) h
  obtain ⟨-, rfl | ⟨b, rfl⟩ | ⟨hstrict, -⟩ | ⟨i, rfl, -⟩ | ⟨n, t, hn, ht, rfl⟩⟩ :=
    readSimple_eq_ok hj
  · exact .null
  · exact .boolean b
  · cases hstrict
  · exact .integer i
  · exact .float ⟨n, t, hn, ht.isInfix.trans hs.isInfix, rfl⟩

end FunctionManual.Json
