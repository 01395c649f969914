import FunctionManual.Proofs.Syntax.Calling
import FunctionManual.Validation.Validator

/-!
# Calls that a search finds

Whether an example calls its function is found by a search of its text, not by reading it.

* `callsFunction_iff`: the search finds a place that seems to be a call.
* `Lexed`: a text and its tokens; what stands between two of them is blank or a comment.
* `Lexed.seemsCalled_iff`: the name of a call is found where it stands, unless a comment stands
  before the bracket.
* `Lexed.word_of_seemsCalled`: what is found is an identifier, or in quotes, or in a comment.
* `parse_calls_iff`: so the search finds a call, or a place that is none.
-/

namespace FunctionManual

open Syntax Text

/-! ## Runs of characters -/

/-- From `i` on, the characters are in a class up to `j`, and no further. -/
structure StopsAt (p : Char → Bool) (s : List Char) (i j : Nat) : Prop where
  le : i ≤ j
  within : ∀ k, i ≤ k → k < j → ∃ c, s[k]? = some c ∧ p c
  stop : ∀ c ∈ s[j]?, p c = false

theorem exists_stopsAt (p : Char → Bool) (s : List Char) (i : Nat) : ∃ j, StopsAt p s i j := by
  refine ⟨i + ((s.drop i).takeWhile p).length, Nat.le_add_right _ _, fun k hk hlt => ?_, ?_⟩
  · have hrow : k - i < ((s.drop i).takeWhile p).length := by omega
    have hp := List.mem_takeWhile_imp (List.getElem_mem hrow)
    refine ⟨_, ?_, hp⟩
    have hdrop : s[k]? = (s.drop i)[k - i]? := by
      rw [List.getElem?_drop, Nat.add_sub_cancel' hk]
    rw [hdrop, (List.takeWhile_prefix p).getElem hrow]
    exact List.getElem?_eq_getElem _
  · have := head?_drop_takeWhile (p := p) (l := s.drop i)
    rwa [List.drop_drop, List.head?_drop] at this

namespace StopsAt

variable {p : Char → Bool} {s : List Char} {i j : Nat}

/-- What is dropped is the run. -/
theorem dropWhile_eq (h : StopsAt p s i j) : (s.drop i).dropWhile p = s.drop j := by
  obtain ⟨n, rfl⟩ := Nat.exists_eq_add_of_le h.le
  induction n generalizing i with
  | zero =>
    cases hd : s.drop i with
    | nil => rfl
    | cons c rest =>
      have hc : s[i]? = some c := by rw [← List.head?_drop, hd]; rfl
      exact List.dropWhile_cons_of_neg (by rw [h.stop c hc]; exact Bool.false_ne_true)
  | succ n ih =>
    obtain ⟨c, hc, hp⟩ := h.within i (Nat.le_refl i) (by omega)
    obtain ⟨hlt, rfl⟩ := List.getElem?_eq_some_iff.mp hc
    rw [List.drop_eq_getElem_cons hlt, List.dropWhile_cons_of_pos hp]
    have hj : i + (n + 1) = i + 1 + n := by omega
    rw [hj] at h ⊢
    exact ih ⟨Nat.le_add_right _ _, fun k hk => h.within k (by omega), h.stop⟩

theorem head?_dropWhile (h : StopsAt p s i j) : ((s.drop i).dropWhile p).head? = s[j]? := by
  rw [h.dropWhile_eq, List.head?_drop]

/-- A run of a class is one of a wider class, where what ends it is not in that class. -/
theorem widen {q : Char → Bool} (h : StopsAt p s i j) (hpq : ∀ c, p c → q c)
    (hj : ∀ c ∈ s[j]?, q c = false) : StopsAt q s i j :=
  ⟨h.le, fun k hk hlt => (h.within k hk hlt).imp fun c hc => ⟨hc.1, hpq c hc.2⟩, hj⟩

/-- Two runs with one character between them. -/
theorem join {k : Nat} {c : Char} (h : ∀ m, i ≤ m → m < j → ∃ c, s[m]? = some c ∧ p c)
    (hc : s[j]? = some c) (hp : p c) (hij : i ≤ j) (hk : StopsAt p s (j + 1) k) :
    StopsAt p s i k := by
  refine ⟨by have := hk.le; omega, fun m hm hlt => ?_, hk.stop⟩
  rcases Nat.lt_trichotomy m j with hmj | rfl | hmj
  · exact h m hm hmj
  · exact ⟨c, hc, hp⟩
  · exact hk.within m hmj hlt

end StopsAt

/-! ## Before the bracket -/

/-- From `i` on there are blanks, an exclamation mark and more blanks or none, and then `c`. -/
def LeadsTo (s : List Char) (i : Nat) (c : Char) : Prop :=
  ∃ j, StopsAt isBlank s i j ∧
    (s[j]? = some c ∨ s[j]? = some '!' ∧ ∃ k, StopsAt isBlank s (j + 1) k ∧ s[k]? = some c)

/-- What may stand between a name and its bracket. -/
def isSpacing (c : Char) : Bool := isBlank c || c = '!'

theorem bracketFollows_iff {s : List Char} {i : Nat} :
    bracketFollows (s.drop i) ↔ LeadsTo s i '(' := by
  have split {j : Nat} (hj : StopsAt isBlank s i j) : bracketFollows (s.drop i) ↔
      s[j]? = some '(' ∨
        s[j]? = some '!' ∧ ∃ k, StopsAt isBlank s (j + 1) k ∧ s[k]? = some '(' := by
    rw [bracketFollows, hj.dropWhile_eq, ← List.head?_drop]
    have hbehind : s.drop (j + 1) = (s.drop j).tail := by rw [← List.drop_one, List.drop_drop]
    cases hd : s.drop j with
    | nil => simp
    | cons c rest =>
      rw [hd, List.tail_cons] at hbehind
      split
      next he => cases he; simp
      next rest' he =>
        cases he
        obtain ⟨k, hk⟩ := exists_stopsAt isBlank s (j + 1)
        rw [decide_eq_true_iff, ← hbehind, hk.head?_dropWhile]
        constructor
        · exact fun h => .inr ⟨rfl, k, hk, h⟩
        · rintro (h | ⟨-, k', hk', h⟩)
          · cases h
          · rw [← hk.head?_dropWhile, hk'.head?_dropWhile, h]
      next hopen hbang =>
        refine iff_of_false Bool.false_ne_true ?_
        rintro (h | ⟨h, -⟩) <;> cases h
        · exact hopen rest rfl
        · exact hbang rest rfl
  obtain ⟨j, hj⟩ := exists_stopsAt isBlank s i
  exact ⟨fun h => ⟨j, hj, (split hj).mp h⟩, fun ⟨j', hj', h⟩ => (split hj').mpr h⟩

theorem LeadsTo.head?_dropWhile {s : List Char} {i : Nat} {c : Char} (h : LeadsTo s i c)
    (hc : isSpacing c = false) : ((s.drop i).dropWhile isSpacing).head? = some c := by
  have blank (d : Char) (hd : isBlank d) : isSpacing d := by rw [isSpacing, hd]; rfl
  have last {k : Nat} (hk : s[k]? = some c) : ∀ d ∈ s[k]?, isSpacing d = false := by
    rw [hk]
    exact fun d hd => Option.some.inj hd ▸ hc
  obtain ⟨j, hj, h | ⟨hbang, k, hk, h⟩⟩ := h
  · rw [(hj.widen blank (last h)).head?_dropWhile, h]
  · have hrest := hk.widen blank (last h)
    have hfirst (m : Nat) (hm : i ≤ m) (hlt : m < j) : ∃ d, s[m]? = some d ∧ isSpacing d :=
      (hj.within m hm hlt).imp fun d hd => ⟨hd.1, blank d hd.2⟩
    rw [(StopsAt.join hfirst hbang rfl hj.le hrest).head?_dropWhile, h]

/-! ## The search -/

/-- A call of a name seems to start at a position: the name stands at the edge of a word, and an
opening bracket follows. -/
def SeemsCalled (s name : List Char) (k : Nat) : Prop :=
  isWordEdge (s.take k).getLast? (s.drop k) ∧ ∃ rest, s.drop k = name ++ rest ∧ bracketFollows rest

theorem dropStart?_eq_some {a s rest : List Char} :
    dropStart? a s = some rest ↔ s = a ++ rest := by
  fun_induction dropStart? a s with
  | case1 s => simp
  | case2 a c s ih => simpa using ih
  | case3 b a c s hne => simp [Ne.symm hne]
  | case4 => simp

theorem callsFrom_iff {name s : List Char} {before : Option Char} :
    callsFrom name before s ↔ ∃ k, isWordEdge (before.toList ++ s.take k).getLast? (s.drop k) ∧
      ∃ rest, s.drop k = name ++ rest ∧ bracketFollows rest := by
  have here {before : Option Char} {s : List Char} :
      (isWordEdge before s && (dropStart? name s).any bracketFollows) ↔
        isWordEdge before s ∧ ∃ rest, s = name ++ rest ∧ bracketFollows rest := by
    rw [Bool.and_eq_true, Option.any_eq_true]
    simp only [dropStart?_eq_some]
  have first (before : Option Char) : before.toList.getLast? = before := by cases before <;> rfl
  have later (before : Option Char) (c : Char) (s : List Char) :
      (before.toList ++ c :: s).getLast? = ((some c).toList ++ s).getLast? := by
    rw [List.getLast?_append_of_ne_nil _ (List.cons_ne_nil c s)]
    rfl
  induction s generalizing before with
  | nil =>
    rw [callsFrom, Bool.or_false, here]
    simp only [List.take_nil, List.append_nil, List.drop_nil, first, exists_const]
  | cons c s ih =>
    rw [callsFrom, Bool.or_eq_true, here]
    refine (or_congr Iff.rfl ih).trans ?_
    constructor
    · rintro (h | ⟨k, h⟩)
      · exact ⟨0, by simpa [first] using h⟩
      · exact ⟨k + 1, by rwa [List.take_succ_cons, later]⟩
    · rintro ⟨k, h⟩
      cases k with
      | zero => exact .inl (by simpa [first] using h)
      | succ k => exact .inr ⟨k, by rwa [List.take_succ_cons, later] at h⟩

/-- The search finds a place that seems to be a call. -/
theorem callsFunction_iff {identifier source : String} :
    callsFunction identifier source ↔ ∃ k, SeemsCalled source.toList identifier.toList k :=
  callsFrom_iff

/-! ## Names -/

/-- A name that is read as one identifier. -/
def IsIdentifier (name : String) : Prop :=
  scan name = .ok [⟨.identifier, name, ⟨0, name.length⟩⟩]

/-- The characters of an identifier. -/
structure AreOfName (name : List Char) : Prop where
  start : ∃ c, name.head? = some c ∧ isIdentifierStart c
  parts : ∀ c ∈ name, isIdentifierPart c

/-- What follows is no part of a name before it. -/
def EndsName (rest : List Char) : Prop := ∀ c ∈ rest.head?, isIdentifierPart c = false

theorem areOfName_of_piece {left taken : List Char} {text : String}
    (h : Piece left taken (some (.identifier, text))) :
    AreOfName taken ∧ text.toList = taken ∧ EndsName left := by
  cases h with
  | quoted hk => rcases hk with hk | hk | hk <;> cases hk
  | number hk => rcases hk with hk | hk <;> cases hk
  | @identifier c cs hc hs hl =>
    refine ⟨⟨⟨c, rfl, hc⟩, ?_⟩, String.toList_ofList, hl⟩
    exact List.forall_mem_cons.mpr ⟨isIdentifierPart_of_start hc, hs⟩

theorem IsIdentifier.areOfName {name : String} (h : IsIdentifier name) :
    AreOfName name.toList := by
  obtain ⟨hn, ht, -⟩ := areOfName_of_piece ((scan_scanned h).piece _ (List.mem_singleton_self _))
  exact ht ▸ hn

/-- A text begins with one name. -/
theorem AreOfName.eq_of_append {name name' rest rest' : List Char} (hn : AreOfName name)
    (hn' : AreOfName name') (hr : EndsName rest) (hr' : EndsName rest')
    (h : name ++ rest = name' ++ rest') : name = name' := by
  have taken {name rest : List Char} (hn : AreOfName name) (hr : EndsName rest) :
      (name ++ rest).takeWhile isIdentifierPart = name := by
    rw [List.takeWhile_append_of_pos hn.parts]
    cases rest with
    | nil => simp
    | cons c rest =>
      rw [List.takeWhile_cons_of_neg (by rw [hr c rfl]; exact Bool.false_ne_true), List.append_nil]
  rw [← taken hn hr, h, taken hn' hr']

theorem LeadsTo.endsName {s : List Char} {i : Nat} {c : Char} (h : LeadsTo s i c)
    (hc : isIdentifierPart c = false) : EndsName (s.drop i) := by
  intro d hd
  rw [List.head?_drop] at hd
  have blank {j : Nat} (hj : StopsAt isBlank s i j) (hlt : i < j) :
      isIdentifierPart d = false := by
    obtain ⟨e, he, hb⟩ := hj.within i (Nat.le_refl i) hlt
    obtain rfl : e = d := Option.some.inj (he.symm.trans hd)
    exact isIdentifierPart_of_isBlank hb
  obtain ⟨j, hj, hend⟩ := h
  rcases Nat.lt_or_eq_of_le hj.le with hlt | rfl
  · exact blank hj hlt
  · rw [Option.mem_def.mp hd] at hend
    rcases hend with he | ⟨he, -⟩
    · exact Option.some.inj he ▸ hc
    · exact Option.some.inj he ▸ (by decide +kernel)

/-- A name stands at the edge of a word when no part of a name is before it. -/
theorem isWordEdge_iff {s : List Char} {k : Nat} {c : Char} (hk : s[k]? = some c)
    (hc : isIdentifierPart c) : isWordEdge (s.take k).getLast? (s.drop k) ↔
      ∀ j d, j + 1 = k → s[j]? = some d → isIdentifierPart d = false := by
  have hhead : (s.drop k).head? = some c := by rw [List.head?_drop, hk]
  have hword : isWordPart c = true := hc
  rw [isWordEdge, hhead, Option.any_some, hword]
  cases k with
  | zero => exact iff_of_true rfl nofun
  | succ k =>
    obtain ⟨hlt, -⟩ := List.getElem?_eq_some_iff.mp hk
    have hlast : (s.take (k + 1)).getLast? = some s[k] := by
      rw [List.getLast?_take, if_neg (Nat.succ_ne_zero k), Nat.add_sub_cancel,
        List.getElem?_eq_getElem (Nat.lt_of_succ_lt hlt), Option.some_or]
    rw [hlast, Option.any_some]
    constructor
    · rintro h j d hj hd
      cases hj
      rw [List.getElem?_eq_getElem (Nat.lt_of_succ_lt hlt)] at hd
      obtain rfl := Option.some.inj hd
      have hpart : isWordPart s[k] = false := by simpa using h
      exact hpart
    · intro h
      have := h k s[k] rfl (List.getElem?_eq_getElem _)
      rw [show isWordPart s[k] = false from this]
      rfl

/-! ## Between tokens -/

section InOrder

variable {before after : List Token} {t w : Token}

/-- What holds a position behind a token stands behind it. -/
theorem mem_of_holds (h : InOrder (before ++ t :: after)) (hw : w ∈ before ++ t :: after) {i : Nat}
    (hi : t.span.stop ≤ i) (hholds : w.span.Holds i) : w ∈ after := by
  have hbefore := (List.pairwise_append.mp h.apart).2.2
  obtain ⟨hstart, hstop⟩ := hholds
  have ht := h.taken t (by simp)
  rcases List.mem_append.mp hw with hw | hw
  · have := hbefore w hw t List.mem_cons_self
    omega
  · rcases List.mem_cons.mp hw with rfl | hw
    · omega
    · exact hw

theorem stop_le_of_mem (h : InOrder (before ++ t :: after)) (hw : w ∈ after) :
    t.span.stop ≤ w.span.start :=
  (List.pairwise_cons.mp (List.pairwise_append.mp h.apart).2.1).1 w hw

theorem start_le_of_mem (h : InOrder (before ++ t :: after)) (hw : w ∈ t :: after) :
    t.span.start ≤ w.span.start := by
  rcases List.mem_cons.mp hw with rfl | hw
  · exact Nat.le_refl _
  · exact Nat.le_of_lt (Nat.lt_of_lt_of_le (h.taken t (by simp)) (stop_le_of_mem h hw))

end InOrder

/-- A text and its tokens, as a program that is read has them. -/
structure Lexed (s : List Char) (ts : List Token) : Prop where
  covers : Covers s 0 0 ts
  scanned : Scanned s 0 ts
  isChain : ts.IsChain Follows

namespace Lexed

variable {s : List Char} {ts before after : List Token} {t u : Token}

theorem getElem?_start (h : Lexed s ts) (ht : t ∈ ts) :
    s[t.span.start]? = (t.span.slice s).head? := by
  rw [t.span.getElem?_slice ⟨Nat.le_refl _, h.covers.inOrder.taken t ht⟩, Nat.sub_self,
    List.head?_eq_getElem?]

/-- What an identifier takes. -/
theorem identifier (h : Lexed s ts) (ht : t ∈ ts) (hk : t.kind = .identifier) :
    AreOfName t.text.toList ∧ EndsName (s.drop t.span.stop) ∧
      s.drop t.span.start = t.text.toList ++ s.drop t.span.stop ∧
      t.span.stop = t.span.start + t.text.length := by
  have hpiece := h.scanned.piece t ht
  rw [hk] at hpiece
  obtain ⟨hname, htext, hend⟩ := areOfName_of_piece hpiece
  have hlt := h.covers.inOrder.taken t ht
  refine ⟨htext ▸ hname, hend, ?_, ?_⟩
  · rw [htext, Span.slice, ← Nat.add_sub_cancel' (Nat.le_of_lt hlt), ← List.drop_drop,
      Nat.add_sub_cancel_left, List.take_append_drop]
  · rw [← String.length_toList, htext, Span.length_slice (h.covers.inside t ht).2]
    omega

/-- A comment that reaches a position behind a token begins behind it. -/
theorem comment_behind (h : Lexed s ts) (ht : t ∈ ts) {i : Nat} (hi : t.span.stop ≤ i)
    (hc : InComment s ts 0 i) :
    ∃ hash, t.span.stop ≤ hash ∧ hash ≤ i ∧ s[hash]? = some '#' := by
  obtain ⟨hash, -, hle, hchar, hline⟩ := hc
  refine ⟨hash, Nat.not_lt.mp fun hlt => ?_, hle, hchar⟩
  have := h.covers.inOrder.taken t ht
  exact (hline (t.span.stop - 1) (by omega) (by omega)).2 t ht ⟨by omega, by omega⟩

/-- What ends the blanks behind a token begins a comment or belongs to a token. -/
theorem held_or_hash (h : Lexed s ts) (ht : t ∈ ts) {j : Nat} {c : Char}
    (hj : StopsAt isBlank s t.span.stop j) (hc : s[j]? = some c) :
    c = '#' ∨ ∃ u ∈ ts, u.span.Holds j := by
  by_contra hn
  rw [not_or, not_exists] at hn
  obtain ⟨hhash, hout⟩ := hn
  have houtside : IsOutside ts j := fun u hu hholds => hout u ⟨hu, hholds⟩
  rcases h.covers.layout j c (Nat.zero_le j) hc houtside with hb | hcomment
  · rw [hj.stop c hc] at hb
    cases hb
  · obtain ⟨hash, hle, hlt, hchar⟩ := h.comment_behind ht hj.le hcomment
    rcases Nat.lt_or_eq_of_le hlt with hlt | rfl
    · obtain ⟨d, hd, hb⟩ := hj.within hash hle hlt
      rw [hchar] at hd
      cases hd
      exact absurd hb (by decide)
    · exact hhash (Option.some.inj (hc.symm.trans hchar))

/-- What ends the blanks behind a token begins the next one, unless a newline stands between. -/
theorem next (h : Lexed s ts) (hts : ts = before ++ t :: after) {j : Nat} {c : Char}
    (hj : StopsAt isBlank s t.span.stop j) (hc : s[j]? = some c) (hn : c ≠ '#') :
    ∃ u rest, after = u :: rest ∧ (u.kind = .newline ∨ u.span.start = j) := by
  subst hts
  have ho := h.covers.inOrder
  obtain ⟨w, hw, hholds⟩ := (h.held_or_hash (by simp) hj hc).resolve_left hn
  have hw := mem_of_holds ho hw hj.le hholds
  cases after with
  | nil => cases hw
  | cons u rest =>
    refine ⟨u, rest, rfl, ?_⟩
    have hu : u ∈ before ++ t :: u :: rest := by simp
    have htu := stop_le_of_mem ho (w := u) List.mem_cons_self
    have hle : u.span.start ≤ j := by
      rw [List.append_cons] at ho
      exact Nat.le_trans (start_le_of_mem ho hw) hholds.1
    rcases Nat.lt_or_eq_of_le hle with hlt | heq
    · obtain ⟨d, hd, hb⟩ := hj.within u.span.start htu hlt
      rw [h.getElem?_start hu] at hd
      exact .inl ((h.scanned.piece u hu).newline_of_blank hd hb).1
    · exact .inr heq

/-- Between two tokens there are blanks, up to the second or up to a comment. -/
theorem gap (h : Lexed s ts) (hts : ts = before ++ t :: u :: after) (hu : u.kind ≠ .newline) :
    StopsAt isBlank s t.span.stop u.span.start ∨
      ∃ j, StopsAt isBlank s t.span.stop j ∧ s[j]? = some '#' := by
  subst hts
  have ho := h.covers.inOrder
  have hmem : u ∈ before ++ t :: u :: after := by simp
  have hlt := ho.taken u hmem
  have hinside := (h.covers.inside u hmem).2
  have htu := stop_le_of_mem ho (w := u) List.mem_cons_self
  have hchar : s[u.span.start]? = some s[u.span.start] := List.getElem?_eq_getElem _
  have hnotblank : isBlank s[u.span.start] = false := by
    by_contra hb
    rw [h.getElem?_start hmem] at hchar
    exact hu ((h.scanned.piece u hmem).newline_of_blank hchar (Bool.not_eq_false _ ▸ hb)).1
  obtain ⟨j, hj⟩ := exists_stopsAt isBlank s t.span.stop
  have hle : j ≤ u.span.start := Nat.not_lt.mp fun hlt => by
    obtain ⟨d, hd, hb⟩ := hj.within u.span.start htu hlt
    rw [hchar] at hd
    cases hd
    rw [hnotblank] at hb
    cases hb
  rcases Nat.lt_or_eq_of_le hle with hlt' | rfl
  · refine .inr ⟨j, hj, ?_⟩
    have hc : s[j]? = some s[j] := List.getElem?_eq_getElem _
    rcases h.held_or_hash (by simp) hj hc with hhash | ⟨w, hw, hholds⟩
    · rw [hc, hhash]
    · have hw := mem_of_holds ho hw hj.le hholds
      rw [List.append_cons] at ho
      have := start_le_of_mem ho hw
      have := hholds.1
      omega
  · exact .inl hj

/-! ## Calls and what seems to be one -/

/-- A mark of one character stands where it begins. -/
theorem char_of_isMark (h : Lexed s ts) (hu : u ∈ ts) {c : Char} (hm : u.isMark c.toString) :
    s[u.span.start]? = some c ∧ u.span.stop = u.span.start + 1 := by
  obtain ⟨hk, ht⟩ := isMark_iff.mp hm
  have haccords := h.covers.accords u hu
  rw [hk, ht] at haccords
  have hslice : u.span.slice s = [c] := haccords.symm.trans (String.toList_singleton c)
  have hlength := Span.length_slice (h.covers.inside u hu).2
  have hlt := h.covers.inOrder.taken u hu
  rw [h.getElem?_start hu, hslice]
  rw [hslice, List.length_singleton] at hlength
  exact ⟨rfl, by omega⟩

theorem isMark_of_char (h : Lexed s ts) (hu : u ∈ ts) {c : Char} (hc : s[u.span.start]? = some c)
    (hm : c ∈ ['(', '!']) : u.isMark c.toString := by
  rw [h.getElem?_start hu] at hc
  exact isMark_iff.mpr ((h.scanned.piece u hu).mark_of_head hc hm)

/-- Behind an identifier that is called there is a bracket, or a comment before it. -/
theorem leadsTo_of_atCall (h : Lexed s ts) (hts : ts = before ++ t :: after) (hc : atCall after) :
    LeadsTo s t.span.stop '(' ∨ LeadsTo s t.span.stop '#' := by
  have kind {u : Token} {mark : String} (hu : u.isMark mark) : u.kind ≠ .newline := by
    rw [(isMark_iff.mp hu).1]
    exact nofun
  rw [atCall, Bool.or_eq_true, Bool.and_eq_true] at hc
  rcases hc with hopen | ⟨hbang, hopen⟩
  · obtain ⟨u, hu, hmark⟩ := (Option.any_eq_true ..).mp hopen
    obtain ⟨rest, rfl⟩ := List.head?_eq_some_iff.mp hu
    obtain ⟨hchar, -⟩ := h.char_of_isMark (c := '(') (u := u) (by simp [hts]) hmark
    rcases h.gap hts (kind hmark) with hj | ⟨j, hj, hhash⟩
    · exact .inl ⟨_, hj, .inl hchar⟩
    · exact .inr ⟨j, hj, .inl hhash⟩
  · obtain ⟨u, hu, hmark⟩ := (Option.any_eq_true ..).mp hbang
    obtain ⟨rest, rfl⟩ := List.head?_eq_some_iff.mp hu
    obtain ⟨w, hw, hmark'⟩ := (Option.any_eq_true ..).mp hopen
    obtain ⟨rest, rfl⟩ := List.head?_eq_some_iff.mp hw
    obtain ⟨hchar, hstop⟩ := h.char_of_isMark (c := '!') (u := u) (by simp [hts]) hmark
    obtain ⟨hchar', -⟩ := h.char_of_isMark (c := '(') (u := w) (by simp [hts]) hmark'
    rcases h.gap hts (kind hmark) with hj | ⟨j, hj, hhash⟩
    · have hts' : ts = (before ++ [t]) ++ u :: w :: rest := by simp [hts]
      have hgap := h.gap hts' (kind hmark')
      rw [hstop] at hgap
      rcases hgap with hk | ⟨k, hk, hhash⟩
      · exact .inl ⟨_, hj, .inr ⟨hchar, _, hk, hchar'⟩⟩
      · exact .inr ⟨_, hj, .inr ⟨hchar, k, hk, hhash⟩⟩
    · exact .inr ⟨j, hj, .inl hhash⟩

/-- What has a bracket behind it is called, unless a line ends between the two. -/
theorem atCall_or_newline (h : Lexed s ts) (hts : ts = before ++ t :: after)
    (hl : LeadsTo s t.span.stop '(') :
    atCall after ∨ ∃ u rest, after = u :: rest ∧ u.kind = .newline := by
  obtain ⟨j, hj, hopen | ⟨hbang, k, hk, hopen⟩⟩ := hl
  · obtain ⟨u, rest, rfl, hu | rfl⟩ := h.next hts hj hopen (by decide)
    · exact .inr ⟨u, rest, rfl, hu⟩
    · have hmark : u.isMark "(" := h.isMark_of_char (by simp [hts]) hopen (by decide)
      refine .inl ?_
      rw [atCall, Bool.or_eq_true]
      exact .inl hmark
  · obtain ⟨u, rest, rfl, hu | rfl⟩ := h.next hts hj hbang (by decide)
    · exact .inr ⟨u, rest, rfl, hu⟩
    · have hmark : u.isMark "!" := h.isMark_of_char (by simp [hts]) hbang (by decide)
      obtain ⟨-, hstop⟩ := h.char_of_isMark (c := '!') (u := u) (by simp [hts]) hmark
      have hts' : ts = (before ++ [t]) ++ u :: rest := by simp [hts]
      rw [← hstop] at hk
      obtain ⟨w, rest, rfl, -⟩ := h.next hts' hk hopen (by decide)
      -- nothing but a parenthesis stands behind an exclamation mark
      have hchain := h.isChain
      rw [hts'] at hchain
      have hfollows := (List.isChain_cons_cons.mp hchain.right_of_append).1
      refine .inl ?_
      rw [atCall, Bool.or_eq_true, Bool.and_eq_true]
      exact .inr ⟨hmark, hfollows.2 hmark⟩

/-- An identifier is found where it stands, when a bracket follows. -/
theorem seemsCalled_iff (h : Lexed s ts) (hts : ts = before ++ t :: after)
    (hk : t.kind = .identifier) :
    SeemsCalled s t.text.toList t.span.start ↔ LeadsTo s t.span.stop '(' := by
  obtain ⟨⟨⟨c, hc, hstart⟩, hparts⟩, -, hdrop, -⟩ := h.identifier (t := t) (by simp [hts]) hk
  have hchar : s[t.span.start]? = some c := by
    rw [← List.head?_drop, hdrop, List.head?_append, hc]
    rfl
  have hedge : isWordEdge (s.take t.span.start).getLast? (s.drop t.span.start) := by
    refine (isWordEdge_iff hchar (isIdentifierPart_of_start hstart)).mpr fun j d hj hd => ?_
    rcases h.scanned.edge hts hchar hstart with ⟨hzero, -⟩ | ⟨e, he, hpart⟩ | ⟨u, hu, hnumber⟩
    · omega
    · rw [show t.span.start - 1 = j by omega, hd] at he
      exact Option.some.inj he ▸ hpart
    · have hchain := h.isChain
      rw [hts] at hchain
      have hfollows := (List.isChain_append.mp hchain).2.2 u hu t rfl
      exact absurd hk (hfollows.1 hnumber)
  rw [SeemsCalled, and_iff_right hedge, ← bracketFollows_iff, hdrop]
  constructor
  · rintro ⟨rest, hrest, hb⟩
    rwa [List.append_cancel_left hrest]
  · exact fun hb => ⟨_, rfl, hb⟩

/-- What seems to be a call where an identifier begins is one of that identifier. -/
theorem text_of_seemsCalled (h : Lexed s ts) (ht : t ∈ ts) (hk : t.kind = .identifier)
    {name : List Char} (hn : AreOfName name) (hs : SeemsCalled s name t.span.start) :
    t.text.toList = name := by
  obtain ⟨-, rest, hrest, hb⟩ := hs
  obtain ⟨hname, hend, hdrop, -⟩ := h.identifier ht hk
  have hbehind : rest = s.drop (t.span.start + name.length) := by
    rw [← List.drop_drop, hrest, List.drop_left]
  have hrestEnd : EndsName rest := by
    rw [hbehind] at hb ⊢
    exact (bracketFollows_iff.mp hb).endsName (by decide +kernel)
  rw [hrest] at hdrop
  exact hname.eq_of_append hn hend hrestEnd hdrop.symm

/-- What is found is an identifier, or it is in quotes or in a comment. -/
theorem word_of_seemsCalled (h : Lexed s ts) {name : List Char} (hn : AreOfName name) {k : Nat}
    (hs : SeemsCalled s name k) :
    (∃ before t after, ts = before ++ t :: after ∧ t.kind = .identifier ∧ t.span.start = k ∧
        t.text.toList = name) ∨
      (∃ t ∈ ts, IsQuoted t.kind ∧ t.span.Holds k) ∨ InComment s ts 0 k := by
  obtain ⟨c, hc, hstart⟩ := hn.start
  have hchar : s[k]? = some c := by
    obtain ⟨-, rest, hrest, -⟩ := hs
    rw [← List.head?_drop, hrest, List.head?_append, hc]
    rfl
  have hedge := (isWordEdge_iff hchar (isIdentifierPart_of_start hstart)).mp hs.1
  by_cases hheld : ∃ t ∈ ts, t.span.Holds k
  · obtain ⟨t, ht, hholds⟩ := hheld
    have hpiece := h.scanned.piece t ht
    rw [t.span.getElem?_slice hholds] at hchar
    have hword := hpiece.word_start hchar hstart fun j e hj he => by
      have hheld : t.span.Holds (t.span.start + j) := by
        have := hholds.2
        exact ⟨Nat.le_add_right _ _, by omega⟩
      refine hedge (t.span.start + j) e (by have := hholds.1; omega) ?_
      rwa [t.span.getElem?_slice hheld, Nat.add_sub_cancel_left]
    rcases hword with ⟨hk, hzero⟩ | hquoted
    · have hat : t.span.start = k := Nat.le_antisymm hholds.1 (Nat.le_of_sub_eq_zero hzero)
      obtain ⟨before, after, hts⟩ := List.append_of_mem ht
      exact .inl ⟨before, t, after, hts, hk, hat, h.text_of_seemsCalled ht hk hn (hat ▸ hs)⟩
    · exact .inr (.inl ⟨t, ht, hquoted, hholds⟩)
  · have houtside : IsOutside ts k := fun t ht hholds => hheld ⟨t, ht, hholds⟩
    rcases h.covers.layout k c (Nat.zero_le k) hchar houtside with hblank | hcomment
    · rw [isIdentifierStart_eq_false (isIdentifierPart_of_isBlank hblank)] at hstart
      cases hstart
    · exact .inr (.inr hcomment)

/-- The identifier that names a call stands where the call begins. -/
theorem place_of_face (h : Lexed s ts) (ht : t ∈ ts) {c : Call} (hface : t.face = c.face) :
    t.text = c.name ∧ t.span.stop = c.span.start + c.name.length := by
  rw [Token.face, Call.face, Prod.mk.injEq, Prod.mk.injEq] at hface
  obtain ⟨hk, htext, hstart⟩ := hface
  obtain ⟨-, -, -, hstop⟩ := h.identifier ht hk
  exact ⟨htext, by rw [hstop, htext, hstart]⟩

end Lexed

/-- A comment stands between the name of a call and its bracket. -/
def IsInterrupted (source : String) (c : Call) : Prop :=
  ((source.toList.drop (c.span.start + c.name.length)).dropWhile isSpacing).head? = some '#'

/-- What seems to be a call at a position is none: it is in quotes or in a comment, or its line ends
behind the name. -/
def IsFeigned (source name : String) (k : Nat) : Prop :=
  SeemsCalled source.toList name.toList k ∧ ∃ ts, scan source = .ok ts ∧
    ((∃ t ∈ ts, IsQuoted t.kind ∧ t.span.Holds k) ∨ InComment source.toList ts 0 k ∨
      ∃ before t u after, ts = before ++ t :: u :: after ∧ t.kind = .identifier ∧
        t.span.start = k ∧ u.kind = .newline)

theorem parse_lexed {source : String} {p : Program} (h : parse source = .ok p) :
    ∃ ts, scan source = .ok ts ∧ Lexed source.toList ts ∧
      p.calls.map Call.face = calledAt ts := by
  obtain ⟨ts, hs, hd⟩ := parse_derives h
  exact ⟨ts, hs, ⟨scan_covers hs, scan_scanned hs, hd.isChain⟩, hd.calls_eq⟩

/-- The search finds a call whose bracket no comment is before, or what is no call. -/
theorem parse_calls_iff {source name : String} {p : Program} (h : parse source = .ok p)
    (hn : IsIdentifier name) : callsFunction name source ↔
      (∃ c ∈ p.calls, c.name = name ∧ ¬ IsInterrupted source c) ∨ ∃ k, IsFeigned source name k := by
  obtain ⟨ts, hscan, hr, hcalls⟩ := parse_lexed h
  rw [callsFunction_iff]
  constructor
  · rintro ⟨k, hs⟩
    have feigned (hwhere) : ∃ k, IsFeigned source name k := ⟨k, hs, ts, hscan, hwhere⟩
    rcases hr.word_of_seemsCalled hn.areOfName hs with
      ⟨before, t, after, hts, hk, rfl, htext⟩ | hquoted | hcomment
    · rw [← htext, hr.seemsCalled_iff hts hk] at hs
      rcases hr.atCall_or_newline hts hs with hcall | ⟨u, rest, rfl, hu⟩
      · have hmem := mem_calledAt_iff.mpr ⟨before, t, after, hts, hk, hcall, rfl⟩
        rw [← hcalls] at hmem
        obtain ⟨c, hc, hface⟩ := List.mem_map.mp hmem
        obtain ⟨hname, hstop⟩ := hr.place_of_face (t := t) (by simp [hts]) hface.symm
        refine .inl ⟨c, hc, hname.symm.trans (String.ext htext), fun hi => ?_⟩
        rw [IsInterrupted, ← hstop, hs.head?_dropWhile (by decide)] at hi
        cases hi
      · exact .inr (feigned (.inr (.inr ⟨before, t, u, rest, hts, hk, rfl, hu⟩)))
    · exact .inr (feigned (.inl hquoted))
    · exact .inr (feigned (.inr (.inl hcomment)))
  · rintro (⟨c, hc, rfl, hi⟩ | ⟨k, hs, -⟩)
    · have hmem := List.mem_map_of_mem (f := Call.face) hc
      rw [hcalls] at hmem
      obtain ⟨before, t, after, hts, hk, hcall, hface⟩ := mem_calledAt_iff.mp hmem
      obtain ⟨hname, hstop⟩ := hr.place_of_face (t := t) (by simp [hts]) hface
      refine ⟨t.span.start, ?_⟩
      rw [← hname, hr.seemsCalled_iff hts hk]
      refine (hr.leadsTo_of_atCall hts hcall).resolve_right fun hhash => hi ?_
      rw [IsInterrupted, ← hstop, hhash.head?_dropWhile (by decide)]
    · exact ⟨k, hs⟩

end FunctionManual
