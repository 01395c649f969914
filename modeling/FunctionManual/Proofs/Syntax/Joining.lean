import FunctionManual.Proofs.Syntax.Nesting

/-!
# How far apart the tokens of a path stand

* `Adjoins`: two tokens with nothing between them.
* `isChain_adjoins_iff`: tokens adjoin when they take all characters from the first to the last.
* `slice_extent_eq_iff`: or when the text there is theirs, one after the other.
* `readPath_joined`: two paths in a row are read as one path, however far apart they stand.
* `readPath_spans`: what is read as a path goes on as far as it can. Only its first name has to touch
  the point, and behind that name there may be layout.
-/

namespace FunctionManual

theorem Span.slice_append (s : List Char) {a b c : Nat} (hab : a ≤ b) (hbc : b ≤ c) :
    slice ⟨a, c⟩ s = slice ⟨a, b⟩ s ++ slice ⟨b, c⟩ s := by
  simp only [slice]
  rw [show c - a = (b - a) + (c - b) by omega, List.take_add, List.drop_drop,
    Nat.add_sub_cancel' hab]

namespace Syntax

open FunctionManual.Text

/-! ## Tokens in a row -/

/-- Nothing stands between two tokens. -/
def Adjoins (t u : Token) : Prop := t.span.stop = u.span.start

instance : DecidableRel Adjoins := fun t u => 
  inferInstanceAs (Decidable (t.span.stop = u.span.start))

/-- The positions from the start of a token to the end of the last behind it. -/
def extent (t : Token) (ts : List Token) : Span := ⟨t.span.start, (ts.getLastD t).span.stop⟩

theorem extent_nil (t : Token) : extent t [] = t.span := rfl

theorem extent_cons (t u : Token) (us : List Token) :
    extent t (u :: us) = ⟨t.span.start, (extent u us).stop⟩ := by
  rw [extent, extent, List.getLastD_cons]

/-- The number of characters that tokens take. -/
def charCount (ts : List Token) : Nat := (ts.map fun t => t.span.stop - t.span.start).sum

section InOrder

variable {t : Token} {ts : List Token} {s : List Char}

theorem InOrder.tail (h : InOrder (t :: ts)) : InOrder ts := h.sublist (List.sublist_cons_self t ts)

/-- Every token of a row stands in its extent. -/
theorem InOrder.within (h : InOrder (t :: ts)) :
    ∀ u ∈ t :: ts, t.span.start ≤ u.span.start ∧ u.span.stop ≤ (extent t ts).stop := by
  induction ts generalizing t with
  | nil =>
    intro u hu
    obtain rfl := List.mem_singleton.mp hu
    exact ⟨Nat.le_refl _, Nat.le_refl _⟩
  | cons v ts ih =>
    have hlt := h.taken t List.mem_cons_self
    have hapart : t.span.stop ≤ v.span.start :=
      (List.pairwise_cons.mp h.apart).1 v List.mem_cons_self
    have hv := h.taken v (List.mem_cons_of_mem t List.mem_cons_self)
    have hrest := ih h.tail
    rw [extent_cons]
    refine List.forall_mem_cons.mpr ⟨⟨Nat.le_refl _, ?_⟩, fun u hu => ⟨?_, (hrest u hu).2⟩⟩
    · have := (hrest v List.mem_cons_self).2
      show t.span.stop ≤ (extent v ts).stop
      omega
    · have := (hrest u hu).1
      omega

/-- Tokens take no more characters than there are from the first to the last, and take them all just
when they adjoin. -/
theorem InOrder.charCount_le (h : InOrder (t :: ts)) :
    charCount (t :: ts) ≤ (extent t ts).stop - (extent t ts).start ∧
      ((t :: ts).IsChain Adjoins ↔
        charCount (t :: ts) = (extent t ts).stop - (extent t ts).start) := by
  induction ts generalizing t with
  | nil => simp [charCount, extent_nil]
  | cons u us ih =>
    obtain ⟨hle, hiff⟩ := ih h.tail
    have hlt := h.taken t List.mem_cons_self
    have hapart : t.span.stop ≤ u.span.start :=
      (List.pairwise_cons.mp h.apart).1 u List.mem_cons_self
    have hend := (h.tail.within u List.mem_cons_self).2
    have htaken := h.taken u (List.mem_cons_of_mem t List.mem_cons_self)
    have hcount : charCount (t :: u :: us) =
        (t.span.stop - t.span.start) + charCount (u :: us) := by
      simp [charCount]
    have hstart : (extent u us).start = u.span.start := rfl
    rw [hstart] at hle hiff
    rw [List.isChain_cons_cons, hiff, hcount, extent_cons, Adjoins]
    dsimp only
    omega

/-- Tokens whose texts are the characters that they take. -/
def AreVerbatim (s : List Char) (ts : List Token) : Prop :=
  ∀ t ∈ ts, t.span.stop ≤ s.length ∧ t.text.toList = t.span.slice s

theorem AreVerbatim.length_flatMap (h : AreVerbatim s ts) :
    (ts.flatMap fun t => t.text.toList).length = charCount ts := by
  induction ts with
  | nil => rfl
  | cons t ts ih =>
    obtain ⟨⟨hle, htext⟩, hrest⟩ := List.forall_mem_cons.mp h
    rw [List.flatMap_cons, List.length_append, ih hrest, htext, Span.length_slice hle]
    simp [charCount]

theorem slice_extent_of_isChain (ho : InOrder (t :: ts)) (hv : AreVerbatim s (t :: ts))
    (h : (t :: ts).IsChain Adjoins) :
    (extent t ts).slice s = (t :: ts).flatMap fun t => t.text.toList := by
  induction ts generalizing t with
  | nil =>
    rw [extent_nil, List.flatMap_singleton]
    exact (hv t List.mem_cons_self).2.symm
  | cons u us ih =>
    obtain ⟨hadjoins, hrest⟩ := List.isChain_cons_cons.mp h
    have hlt := ho.taken t List.mem_cons_self
    have hend := (ho.tail.within u List.mem_cons_self).2
    have htaken := ho.tail.taken u List.mem_cons_self
    have hbehind : (⟨t.span.stop, (extent u us).stop⟩ : Span) = extent u us := by
      rw [hadjoins]
      rfl
    rw [extent_cons, Span.slice_append s (Nat.le_of_lt hlt) (by rw [hadjoins]; omega), hbehind,
      ih ho.tail (List.forall_mem_cons.mp hv).2 hrest,
      @List.flatMap_cons _ _ t (u :: us), (hv t List.mem_cons_self).2]

/-- Tokens adjoin when the text from the first to the last is theirs. -/
theorem slice_extent_eq_iff (ho : InOrder (t :: ts)) (hv : AreVerbatim s (t :: ts)) :
    (t :: ts).IsChain Adjoins ↔
      (extent t ts).slice s = (t :: ts).flatMap fun t => t.text.toList := by
  refine ⟨slice_extent_of_isChain ho hv, fun h => ho.charCount_le.2.mpr ?_⟩
  have hle : (extent t ts).stop ≤ s.length := by
    cases ts using List.reverseRecOn with
    | nil => exact (hv t List.mem_cons_self).1
    | append_singleton us u _ =>
      rw [extent, List.getLastD_concat]
      exact (hv u (by simp)).1
  rw [← hv.length_flatMap, ← h, Span.length_slice hle]

/-- Between tokens of a row there is no token of the text. -/
theorem InOrder.isOutside {before left : List Token} (h : InOrder (before ++ (t :: ts ++ left)))
    {i : Nat} (hi : (extent t ts).Holds i) (ho : IsOutside (t :: ts) i) :
    IsOutside (before ++ (t :: ts ++ left)) i := by
  obtain ⟨-, hrow, hbefore⟩ := List.pairwise_append.mp h.apart
  obtain ⟨-, -, hleft⟩ := List.pairwise_append.mp hrow
  have hlast : ts.getLastD t ∈ t :: ts := by
    cases ts using List.reverseRecOn with
    | nil => exact List.mem_cons_self
    | append_singleton us u _ =>
      rw [List.getLastD_concat]
      simp
  intro u hu
  rcases List.mem_append.mp hu with hu | hu
  · intro hholds
    have := hbefore u hu t (List.mem_append_left _ List.mem_cons_self)
    have := hi.1
    have := hholds.2
    simp only [extent] at *
    omega
  · rcases List.mem_append.mp hu with hu | hu
    · exact ho u hu
    · intro hholds
      have := hleft _ hlast u hu
      have := hi.2
      have := hholds.1
      simp only [extent] at *
      omega

end InOrder

/-! ## Paths in a row -/

/-- The text of a path, without layout. -/
def pathText : List String → List Char
  | [] => ['.']
  | names => names.flatMap fun name => '.' :: name.toList

theorem DerivesNames.texts {ts : List Token} {names : List String} (h : DerivesNames ts names) :
    (ts.flatMap fun t => t.text.toList) = names.flatMap fun name => '.' :: name.toList := by
  induction h with
  | nil => rfl
  | cons hd _ _ ih => rw [List.flatMap_cons, List.flatMap_cons, ih, (isMark_iff.mp hd).2]; rfl

theorem DerivesPath.texts {ts : List Token} {names : List String} (h : DerivesPath ts names) :
    (ts.flatMap fun t => t.text.toList) = pathText names := by
  cases h with
  | event hd => rw [List.flatMap_singleton, (isMark_iff.mp hd).2]; rfl
  | names hd _ _ h => rw [List.flatMap_cons, List.flatMap_cons, h.texts, (isMark_iff.mp hd).2]; rfl

/-- A path is made of points and identifiers. -/
theorem DerivesNames.kinds {ts : List Token} {names : List String} (h : DerivesNames ts names) :
    ∀ t ∈ ts, t.kind = .punctuation ∨ t.kind = .identifier := by
  induction h with
  | nil => exact nofun
  | cons hd hn _ ih =>
    exact List.forall_mem_cons.mpr ⟨.inl (isMark_iff.mp hd).1,
      List.forall_mem_cons.mpr ⟨.inr hn, ih⟩⟩

theorem DerivesPath.kinds {ts : List Token} {names : List String} (h : DerivesPath ts names) :
    ∀ t ∈ ts, t.kind = .punctuation ∨ t.kind = .identifier := by
  cases h with
  | event hd => exact List.forall_mem_singleton.mpr (.inl (isMark_iff.mp hd).1)
  | names hd hn _ h =>
    exact List.forall_mem_cons.mpr ⟨.inl (isMark_iff.mp hd).1,
      List.forall_mem_cons.mpr ⟨.inr hn, h.kinds⟩⟩

theorem DerivesPath.areVerbatim {source : List Char} {tokens ts : List Token} {names : List String}
    (h : DerivesPath ts names) (hc : Covers source 0 0 tokens) (hsub : ts ⊆ tokens) :
    AreVerbatim source ts := by
  intro t ht
  have haccords := hc.accords t (hsub ht)
  refine ⟨(hc.inside t (hsub ht)).2, ?_⟩
  rcases h.kinds t ht with hk | hk <;> rwa [hk] at haccords

theorem DerivesNames.append {ts us : List Token} {ns ms : List String} (h : DerivesNames ts ns)
    (hs : DerivesNames us ms) : DerivesNames (ts ++ us) (ns ++ ms) := by
  induction h with
  | nil => exact hs
  | cons hd hn _ ih => exact .cons hd hn ih

/-- Two paths in a row are read as one path, however far apart they stand. -/
theorem readPath_joined {point next : Token} {ts us left : List Token} {n m : String}
    {ns ms : List String} (h : DerivesPath (point :: ts) (n :: ns))
    (hs : DerivesPath (next :: us) (m :: ms)) (hleft : atMark "." left = false) :
    readPath point (ts ++ (next :: us ++ left)) = (n :: ns ++ m :: ms, left) := by
  cases h with
  | names hd hn touches h =>
    cases hs with
    | names hd' hn' _ hs =>
      have hjoined := (h.append (.cons hd' hn' hs)).reads hleft
      rw [List.append_assoc] at hjoined
      simp only [readPath, List.cons_append, hn, touches, decide_true, Bool.and_self, if_true]
      rw [← List.cons_append, ← List.cons_append, hjoined]

/-! ## What is read as a path -/

/-- A path that tokens of a text spell from its point on. Its text has no layout just when its tokens
adjoin, which they do up to the first name. Behind that there may be blanks and comments, and inside
of brackets more lines. -/
structure SpansPath (s : List Char) (tokens : List Token) (point : Token) (taken : List Token)
    (names : List String) : Prop where
  derived : DerivesPath (point :: taken) names
  adjoining : (point :: taken).IsChain Adjoins ↔ (extent point taken).slice s = pathText names
  front : (point :: taken.take 1).IsChain Adjoins
  between : ∀ i c, (extent point taken).Holds i → IsOutside (point :: taken) i → s[i]? = some c →
    (isBlank c ∨ InComment s tokens 0 i) ∧ (c = '\n' → 0 < depthAt 0 tokens i)

/-- A path is not over where it goes on: behind a name with a point and a name at any distance, behind
its first point with a name that touches it. -/
def GoesOn (point : Token) (names : List String) : List Token → Prop
  | [] => False
  | t :: rest =>
    if names = [] then t.kind = .identifier ∧ t.span.start = point.span.stop
    else t.isMark "." ∧ ∃ name ∈ rest.head?, name.kind = .identifier

theorem readNames_stops (ts : List Token) (point : Token) {names : List String} (h : names ≠ []) :
    ¬ GoesOn point names (readNames ts).2 := by
  fun_induction readNames ts with
  | case1 dot name rest _ names' rest' hr ih => rwa [hr] at ih
  | case2 dot name rest hn =>
    simp only [GoesOn, if_neg h]
    rintro ⟨hd, t, ht, hk⟩
    obtain rfl : name = t := Option.some.inj ht
    simp [hd, hk] at hn
  | case3 ts hn =>
    rcases ts with _ | ⟨t, _ | ⟨u, rest⟩⟩
    · exact id
    · simp [GoesOn, h]
    · exact absurd rfl (hn t u rest)

theorem readPath_stops (point : Token) (ts : List Token) :
    ¬ GoesOn point (readPath point ts).1 (readPath point ts).2 := by
  cases ts with
  | nil => exact id
  | cons name rest =>
    by_cases h : name.kind = .identifier ∧ name.span.start = point.span.stop
    · have hread : readPath point (name :: rest) =
          (name.text :: (readNames rest).1, (readNames rest).2) := by
        simp [readPath, h]
      rw [hread]
      exact readNames_stops rest point (List.cons_ne_nil _ _)
    · have hread : readPath point (name :: rest) = ([], name :: rest) := by
        simpa [readPath] using h
      rw [hread]
      simpa [GoesOn] using h

theorem DerivesPath.front {point : Token} {ts : List Token} {names : List String}
    (h : DerivesPath (point :: ts) names) : (point :: ts.take 1).IsChain Adjoins := by
  cases h with
  | event _ => exact .singleton _
  | names _ _ touches _ => exact List.isChain_pair.mpr touches.symm

/-- What is read as a path behind a point of a text is the longest path that stands there. -/
theorem readPath_spans {source : String} {before rest : List Token} {point : Token}
    (h : scan source = .ok (before ++ point :: rest)) (hp : point.isMark ".") :
    ∃ taken left names, rest = taken ++ left ∧ readPath point rest = (names, left) ∧
      SpansPath source.toList (before ++ point :: rest) point taken names ∧
      ¬ GoesOn point names left := by
  obtain ⟨taken, hrest, hd⟩ := readPath_eq hp rest
  refine ⟨taken, (readPath point rest).2, (readPath point rest).1, hrest, rfl, ?_,
    readPath_stops point rest⟩
  have htokens : before ++ point :: rest =
      before ++ (point :: taken ++ (readPath point rest).2) := by
    rw [List.cons_append, ← hrest]
  have hcovers := scan_covers h
  have hsub : point :: taken ⊆ before ++ point :: rest := by
    rw [htokens]
    exact List.subset_append_of_subset_right _ (List.subset_append_left _ _)
  have ho : InOrder (point :: taken) := by
    refine hcovers.inOrder.sublist ?_
    rw [htokens]
    exact (List.sublist_append_left _ _).trans (List.sublist_append_right _ _)
  refine ⟨hd, ?_, hd.front, fun i c hi hout hc => ?_⟩
  · rw [← hd.texts]
    exact slice_extent_eq_iff ho (hd.areVerbatim hcovers hsub)
  · have houtside : IsOutside (before ++ point :: rest) i := by
      rw [htokens]
      exact InOrder.isOutside (htokens ▸ hcovers.inOrder) hi hout
    exact ⟨hcovers.layout i c (Nat.zero_le i) hc houtside, fun hn =>
      hcovers.folded i (Nat.zero_le i) (hn ▸ hc) houtside⟩

/-- A point, a name and again a point and a name, on two lines in brackets. -/
def splitTokens : List Token := [
  ⟨.punctuation, "[", ⟨0, 1⟩⟩, ⟨.punctuation, ".", ⟨1, 2⟩⟩, ⟨.identifier, "a", ⟨2, 3⟩⟩,
  ⟨.punctuation, ".", ⟨4, 5⟩⟩, ⟨.identifier, "b", ⟨5, 6⟩⟩, ⟨.punctuation, "]", ⟨6, 7⟩⟩]

theorem scan_split : scan "[.a\n.b]" = .ok splitTokens := by
  cbv

theorem readPath_spans_split :
    ∃ taken left names, splitTokens.drop 2 = taken ++ left ∧
      readPath ⟨.punctuation, ".", ⟨1, 2⟩⟩ (splitTokens.drop 2) = (names, left) ∧
      SpansPath "[.a\n.b]".toList splitTokens ⟨.punctuation, ".", ⟨1, 2⟩⟩ taken names ∧
      ¬ GoesOn ⟨.punctuation, ".", ⟨1, 2⟩⟩ names left :=
  @readPath_spans _ (splitTokens.take 1) _ _ scan_split rfl

/-- Two items without a comma between them are read as one path over two lines. -/
theorem split_items_joined :
    scan "[.a\n.b]" = .ok splitTokens ∧
      readPath ⟨.punctuation, ".", ⟨1, 2⟩⟩ (splitTokens.drop 2) =
        (["a", "b"], splitTokens.drop 5) ∧
      ¬ ((splitTokens.drop 1).take 4).IsChain Adjoins ∧
      parse "[.a\n.b]" = .ok [.expr (.array [.path ["a", "b"]])] :=
  ⟨scan_split, rfl, by decide, by cbv⟩

end Syntax

end FunctionManual
