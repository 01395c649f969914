import FunctionManual.Proofs.Evaluation.Action
import FunctionManual.Proofs.Standard.Words
import FunctionManual.Standard.Snakecase

/-!
# Snake case is a normal form

* `forall_ascii`: what holds of 128 code points holds of ASCII characters.
* `Words.Settles`: words of small letters, digits and marks in which letters and digits do not meet.
* `settles_wordsOf`: such are the words of an ASCII text in lower case.
* `snakeText_intercalate`: settled words with underscores between them are what snake case makes of
  them.
* `snakecase_normalizes`: so the result is in snake case, and snake case leaves it as it is.
-/

namespace FunctionManual.Standard

open FunctionManual.Text

/-- A text in snake case: no capitals, blanks, hyphens or points, no underscore at either end, and
no two of them side by side. -/
structure IsSnakeCase (s : List Char) : Prop where
  plain : ∀ c ∈ s, isUpper c = false ∧ isBlank c = false ∧ c ≠ '-' ∧ c ≠ '.'
  single : s.IsChain fun c d => c ≠ '_' ∨ d ≠ '_'
  starts : s.head? ≠ some '_'
  ends : s.getLast? ≠ some '_'

/-! ## ASCII -/

/-- ASCII characters only. -/
def IsAscii (s : List Char) : Prop := ∀ c ∈ s, c.toNat < 128

instance (s : List Char) : Decidable (IsAscii s) := List.decidableBAll _ s

theorem forall_ascii {P : Char → Prop} (h : ∀ n < 128, P (Char.ofNat n)) {c : Char}
    (hc : c.toNat < 128) : P c := Char.ofNat_toNat c ▸ h c.toNat hc

section Ascii

variable {c : Char}

theorem isUpper_toLower (hc : c.toNat < 128) : isUpper c.toLower = false :=
  forall_ascii (P := fun c => isUpper c.toLower = false) (by decide +kernel) hc

theorem isDigit_toLower (hc : c.toNat < 128) : isDigit c.toLower = isDigit c :=
  forall_ascii (P := fun c => isDigit c.toLower = isDigit c) (by decide +kernel) hc

theorem isLower_toLower (hc : c.toNat < 128) : isLower c.toLower = (isLower c || isUpper c) :=
  forall_ascii (P := fun c => isLower c.toLower = (isLower c || isUpper c)) (by decide +kernel) hc

theorem separatesAny_toLower (hc : c.toNat < 128) :
    Words.separatesAny c.toLower = Words.separatesAny c :=
  forall_ascii (P := fun c => Words.separatesAny c.toLower = Words.separatesAny c)
    (by decide +kernel) hc

theorem toLower_ascii (hc : c.toNat < 128) : c.toLower.toNat < 128 :=
  forall_ascii (P := fun c => c.toLower.toNat < 128) (by decide +kernel) hc

theorem toLower_of_isUpper (hc : c.toNat < 128) (h : isUpper c = false) : c.toLower = c :=
  forall_ascii (P := fun c => isUpper c = false → c.toLower = c) (by decide +kernel) hc h

/-- A final sigma is not ASCII, so each character has its own lower case. -/
theorem lowerFrom_ascii {s : List Char} (hs : IsAscii s) (before : List Char) :
    lowerFrom before s = s.map Char.toLower := by
  induction s generalizing before with
  | nil => rfl
  | cons c s ih =>
    obtain ⟨hc, hs⟩ := List.forall_mem_cons.mp hs
    have hsigma : (c.toNat == 0x3A3) = false := beq_eq_false_iff_ne.mpr (by omega)
    rw [lowerFrom, hsigma, if_neg Bool.false_ne_true, lowerChar, if_pos hc, ih hs]
    rfl

end Ascii

/-! ## Settled words -/

namespace Words

/-- A letter with case and a digit do not meet. -/
def Apart (c d : Char) : Prop :=
  ¬ ((isLower c ∨ isUpper c) ∧ isDigit d) ∧ ¬ (isDigit c ∧ (isLower d ∨ isUpper d))

/-- Neither of two neighbours is a capital, and they are no letter and digit. -/
def Settled (c d : Char) : Prop := isUpper c = false ∧ isUpper d = false ∧ Apart c d

theorem apart_of_lies {c d : Char} {next : Option Char}
    (h : usual.any (Boundary.lies c d next) = false) : Apart c d := by
  simp only [usual, Boundary.lies, Boundary.traits, Trait.holds, List.any_cons, Option.all_none,
    Bool.and_true, Bool.or_eq_false_iff, Bool.and_eq_false_iff] at h
  unfold Apart
  grind

/-- Where there are no capitals, only letters beside digits make a boundary. -/
theorem lies_of_settled {c d : Char} (next : Option Char) (h : Settled c d) :
    usual.any (Boundary.lies c d next) = false := by
  obtain ⟨hc, hd, hletter, hdigit⟩ := h
  simp only [usual, Boundary.lies, Boundary.traits, Trait.holds, List.any_cons, List.any_nil,
    Option.all_none, Bool.and_true, hc, hd, Bool.false_and, Bool.and_false, Bool.false_or,
    Bool.or_false, Bool.or_eq_false_iff, Bool.and_eq_false_iff]
  grind

/-- A word of ASCII characters that lower case does not change, and that is not cut. -/
structure Settles (w : List Char) : Prop where
  piece : IsPiece separatesAny w
  ascii : IsAscii w
  small : ∀ c ∈ w, isUpper c = false
  apart : w.IsChain Apart

/-- A word in lower case is settled, for nothing but the case of its letters changes. -/
theorem settles_map_toLower {w : List Char} (hp : IsPiece separatesAny w) (ha : IsAscii w)
    (hw : w.IsChain Apart) : Settles (w.map Char.toLower) where
  piece := by
    refine ⟨by simpa using hp.1, List.forall_mem_map.mpr fun c hc => ?_⟩
    rw [separatesAny_toLower (ha c hc)]
    exact hp.2 c hc
  ascii := List.forall_mem_map.mpr fun c hc => toLower_ascii (ha c hc)
  small := List.forall_mem_map.mpr fun c hc => isUpper_toLower (ha c hc)
  apart := by
    rw [List.isChain_map]
    refine hw.imp_of_mem_imp fun c d hc hd h => ?_
    unfold Apart at h ⊢
    rw [isLower_toLower (ha c hc), isLower_toLower (ha d hd), isUpper_toLower (ha c hc),
      isUpper_toLower (ha d hd), isDigit_toLower (ha c hc), isDigit_toLower (ha d hd)]
    simpa using h

theorem Settles.lowerFrom {w : List Char} (h : Settles w) : lowerFrom [] w = w := by
  rw [lowerFrom_ascii h.ascii]
  have hsame : ∀ c ∈ w, c.toLower = id c := fun c hc =>
    toLower_of_isUpper (h.ascii c hc) (h.small c hc)
  rw [List.map_congr_left hsame, List.map_id]

theorem Settles.cut {w : List Char} (h : Settles w) : cut usual w = [w] :=
  cut_eq_singleton (fun _ _ next => lies_of_settled next) h.piece.1
    (h.apart.imp_of_mem_imp fun c d hc hd hcd => ⟨h.small c hc, h.small d hd, hcd⟩)

/-- The words of an ASCII text are settled in lower case. -/
theorem settles_wordsOf {s : List Char} (hs : IsAscii s) :
    ∀ w ∈ (wordsOf usual none s).map (Text.lowerFrom []), Settles w := by
  refine List.forall_mem_map.mpr fun w hw => ?_
  have hp : IsPiece separatesAny w := wordsOf_arePieces s w hw
  have ha : IsAscii w := by
    intro c hc
    have hmem : c ∈ s.filter (!separator none ·) :=
      flatten_wordsOf usual s ▸ List.mem_flatten.mpr ⟨w, hw, hc⟩
    exact hs c (List.mem_filter.mp hmem).1
  rw [lowerFrom_ascii ha]
  refine settles_map_toLower hp ha ?_
  obtain ⟨piece, -, hw⟩ := List.mem_flatMap.mp hw
  exact isChain_cut (fun _ _ _ => apart_of_lies) piece w hw

/-- Settled words are the words of what they make up with underscores between them. -/
theorem wordsOf_intercalate {ws : List (List Char)} (hws : ∀ w ∈ ws, Settles w) :
    wordsOf usual none (['_'].intercalate ws) = ws := by
  have hpieces : pieces separatesAny (['_'].intercalate ws) = ws :=
    pieces_intercalate rfl fun w hw => (hws w hw).piece
  show (pieces separatesAny (['_'].intercalate ws)).flatMap (Words.cut usual) = ws
  rw [hpieces, List.flatMap_congr fun w hw => (hws w hw).cut, List.flatMap_singleton']

/-! ## Words with underscores between them -/

theorem Settles.ne {w : List Char} (h : Settles w) : ∀ c ∈ w, c ≠ '_' := by
  rintro c hc rfl
  exact absurd (h.piece.2 _ hc) (by decide)

theorem Settles.isSnakeCase {w : List Char} (h : Settles w) : IsSnakeCase w where
  plain c hc := by
    have hs := h.piece.2 c hc
    simp only [separatesAny, Bool.or_eq_false_iff, decide_eq_false_iff_not] at hs
    exact ⟨h.small c hc, hs.2, hs.1.1.2, hs.1.2⟩
  single := (List.pairwise_of_forall_mem_list fun c hc _ _ => .inl (h.ne c hc)).isChain
  starts hw := h.ne _ (List.mem_of_head? hw) rfl
  ends hw := h.ne _ (List.mem_of_getLast? hw) rfl

/-- A settled word and an underscore may stand before a text in snake case. -/
theorem Settles.isSnakeCase_append {w s : List Char} (h : Settles w) (hs : IsSnakeCase s)
    (hne : s ≠ []) : IsSnakeCase (w ++ '_' :: s) where
  plain := List.forall_mem_append.mpr
    ⟨h.isSnakeCase.plain, List.forall_mem_cons.mpr ⟨by decide, hs.plain⟩⟩
  single := by
    refine List.isChain_append.mpr ⟨h.isSnakeCase.single, List.isChain_cons.mpr ⟨?_, hs.single⟩,
      fun c hc _ _ => .inl (h.ne c (List.mem_of_getLast? hc))⟩
    rintro c hc
    exact .inr fun hu => hs.starts (hu ▸ hc)
  starts := by
    rw [List.head?_append_of_ne_nil w h.piece.1]
    exact h.isSnakeCase.starts
  ends := by
    rw [List.getLast?_append_of_ne_nil w (by simp), List.getLast?_cons_of_ne_nil hne]
    exact hs.ends

/-- Settled words with underscores between them are in snake case. -/
theorem isSnakeCase_intercalate {ws : List (List Char)} (hws : ∀ w ∈ ws, Settles w) :
    IsSnakeCase (['_'].intercalate ws) := by
  induction ws with
  | nil => exact ⟨List.forall_mem_nil _, List.isChain_nil, nofun, nofun⟩
  | cons w ws ih =>
    obtain ⟨hw, hws⟩ := List.forall_mem_cons.mp hws
    cases ws with
    | nil => exact List.intercalate_singleton ▸ hw.isSnakeCase
    | cons v ws =>
      have hne : ['_'].intercalate (v :: ws) ≠ [] := by
        have hv := (hws v List.mem_cons_self).piece.1
        cases ws <;> simp [hv]
      rw [List.intercalate_cons_cons, List.append_assoc]
      exact hw.isSnakeCase_append (ih hws) hne

end Words

/-! ## Snake case -/

/-- What `snakecase` makes of a text with its default options. -/
def snakeText (s : String) : String := "_".intercalate ((Words.split s none []).map lower)

theorem toList_snakeText (s : String) : (snakeText s).toList =
    ['_'].intercalate ((Words.wordsOf Words.usual none s.toList).map (lowerFrom [])) := by
  have husual : Words.usualBut [] = Words.usual := by decide
  rw [snakeText, String.toList_intercalate, Words.split_eq, husual, List.map_map, List.map_map]
  congr 2
  funext w
  simp [lower]

/-- Settled words with underscores between them are left as they are. -/
theorem snakeText_of_settled {t : String} {ws : List (List Char)}
    (hws : ∀ w ∈ ws, Words.Settles w) (ht : t.toList = ['_'].intercalate ws) : snakeText t = t := by
  have hlower : ∀ w ∈ ws, lowerFrom [] w = id w := fun w hw => (hws w hw).lowerFrom
  rw [← String.toList_inj, toList_snakeText, ht, Words.wordsOf_intercalate hws,
    List.map_congr_left hlower, List.map_id]

/-- The arguments of `snakecase` with its default options, each of which is left out or null. -/
def snakeArguments (s : String) (givesCase givesExcluded : Bool) : Arguments :=
  ("value", .scalar (.string s)) ::
    ((if givesCase then [("original_case", .scalar .null)] else []) ++
      if givesExcluded then [("excluded_boundaries", .scalar .null)] else [])

theorem snakecase_run (s : String) (givesCase givesExcluded : Bool) (m : Machine) :
    snakecase.evaluator (snakeArguments s givesCase givesExcluded) m =
      (.ok (.scalar (.string (snakeText s))), m) := by
  cases givesCase <;> cases givesExcluded <;> rfl

/-- Of an ASCII text, `snakecase` makes one in snake case, which it leaves as it is. -/
theorem snakecase_normalizes {s : String} (hs : IsAscii s.toList)
    (givesCase givesExcluded : Bool) (m : Machine) : ∃ t, IsSnakeCase t.toList ∧
      snakecase.evaluator (snakeArguments s givesCase givesExcluded) m =
        (.ok (.scalar (.string t)), m) ∧
      snakecase.evaluator (snakeArguments t givesCase givesExcluded) m =
        (.ok (.scalar (.string t)), m) := by
  have hws := Words.settles_wordsOf hs
  have ht := toList_snakeText s
  refine ⟨snakeText s, ht ▸ Words.isSnakeCase_intercalate hws, snakecase_run .., ?_⟩
  rw [snakecase_run, snakeText_of_settled hws ht]

/-- The text has an acronym, a digit between letters, and separators at both ends. -/
theorem snakecase_normalizes_acronym :
    IsAscii "-XMLHttp2x .".toList ∧
    snakecase.evaluator (snakeArguments "-XMLHttp2x ." false true) {} =
      (.ok (.scalar (.string "xml_http_2_x")), {}) ∧
    IsSnakeCase "xml_http_2_x".toList ∧
    snakecase.evaluator (snakeArguments "xml_http_2_x" false true) {} =
      (.ok (.scalar (.string "xml_http_2_x")), {}) := by
  have hs : IsAscii "-XMLHttp2x .".toList := by decide +kernel
  have hsnake : snakeText "-XMLHttp2x ." = "xml_http_2_x" := by decide +kernel
  have hrun := snakecase_run "-XMLHttp2x ." false true {}
  obtain ⟨t, ht, hfirst, hsecond⟩ := snakecase_normalizes hs false true {}
  obtain rfl : t = "xml_http_2_x" := by
    rw [hrun, hsnake] at hfirst
    cases hfirst
    rfl
  exact ⟨hs, hfirst, ht, hsecond⟩

end FunctionManual.Standard
