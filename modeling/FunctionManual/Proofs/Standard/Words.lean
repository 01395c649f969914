import FunctionManual.Standard.Words
import Mathlib.Data.List.Chain

/-!
# Words keep the text

* `flatten_pieces`, `flatten_cut`: pieces leave out the separators of a text and nothing else, and
  the words of a piece leave out nothing.
* `isChain_cut`, `cut_eq_singleton`: a word has no boundary between neighbours, and a piece without
  any is one word.
* `pieces_intercalate`: words with a separator between them are the pieces of what they make up.
* `Merges`: words that put consecutive words of others together.
* `split_conserves_text`: the words of a text are the text without its separators, and boundaries
  that are excluded only merge them.
-/

namespace FunctionManual.Standard.Words

open FunctionManual.Text

variable {separates : Char → Bool} {boundaries fewer : List Boundary}

/-! ## Pieces -/

theorem flatten_piecesFrom (piece s : List Char) :
    (piecesFrom separates piece s).flatten = piece.reverse ++ s.filter (!separates ·) := by
  induction s generalizing piece with
  | nil => cases piece <;> simp [piecesFrom]
  | cons c rest ih =>
    rw [piecesFrom]
    cases hc : separates c with
    | false => simp [ih, hc]
    | true => cases piece <;> simp [ih, hc]

/-- The pieces of a text are the text without its separators. -/
theorem flatten_pieces (s : List Char) :
    (pieces separates s).flatten = s.filter (!separates ·) := flatten_piecesFrom [] s

/-- A piece has characters, none of which separates. -/
def IsPiece (separates : Char → Bool) (w : List Char) : Prop :=
  w ≠ [] ∧ ∀ c ∈ w, separates c = false

theorem piecesFrom_arePieces {piece : List Char} (hp : ∀ c ∈ piece, separates c = false)
    (s : List Char) : ∀ w ∈ piecesFrom separates piece s, IsPiece separates w := by
  have read {piece : List Char} (hp : ∀ c ∈ piece, separates c = false) :
      ∀ c ∈ piece.reverse, separates c = false := fun c hc => hp c (List.mem_reverse.mp hc)
  induction s generalizing piece with
  | nil =>
    cases piece with
    | nil => exact List.forall_mem_nil _
    | cons d piece => exact List.forall_mem_singleton.mpr ⟨by simp, read hp⟩
  | cons c rest ih =>
    rw [piecesFrom]
    cases hc : separates c with
    | false => exact ih (List.forall_mem_cons.mpr ⟨hc, hp⟩)
    | true =>
      cases piece with
      | nil => exact ih (List.forall_mem_nil _)
      | cons d piece =>
        exact List.forall_mem_cons.mpr ⟨⟨by simp, read hp⟩, ih (List.forall_mem_nil _)⟩

theorem pieces_arePieces (s : List Char) : ∀ w ∈ pieces separates s, IsPiece separates w :=
  piecesFrom_arePieces (List.forall_mem_nil _) s

/-- Characters that do not separate are read into the piece. -/
theorem piecesFrom_append {w : List Char} (hw : ∀ c ∈ w, separates c = false)
    (piece s : List Char) :
    piecesFrom separates piece (w ++ s) = piecesFrom separates (w.reverse ++ piece) s := by
  induction w generalizing piece with
  | nil => rfl
  | cons c w ih =>
    obtain ⟨hc, hw⟩ := List.forall_mem_cons.mp hw
    rw [List.cons_append, piecesFrom, hc, if_neg Bool.false_ne_true, ih hw, List.reverse_cons,
      List.append_assoc, List.singleton_append]

/-- Words with a separator between them are the pieces of what they make up. -/
theorem pieces_intercalate {c : Char} (hc : separates c) {ws : List (List Char)}
    (hws : ∀ w ∈ ws, IsPiece separates w) : pieces separates ([c].intercalate ws) = ws := by
  induction ws with
  | nil => rfl
  | cons w ws ih =>
    obtain ⟨⟨hne, hw⟩, hws⟩ := List.forall_mem_cons.mp hws
    have hreverse : w.reverse.isEmpty = false := by simpa using hne
    cases ws with
    | nil =>
      rw [List.intercalate_singleton, ← List.append_nil w, pieces, piecesFrom_append hw,
        List.append_nil, List.append_nil, piecesFrom, hreverse, if_neg Bool.false_ne_true,
        List.reverse_reverse]
    | cons v ws =>
      rw [List.intercalate_cons_cons, List.append_assoc, pieces, piecesFrom_append hw,
        List.append_nil, List.singleton_append, piecesFrom, if_pos hc, hreverse,
        if_neg Bool.false_ne_true, List.reverse_reverse]
      exact congrArg (w :: ·) (ih hws)

/-! ## Words of a piece -/

theorem flatten_cutFrom (previous : Char) (word s : List Char) :
    (cutFrom boundaries previous word s).flatten = word.reverse ++ s := by
  induction s generalizing previous word with
  | nil => simp [cutFrom]
  | cons c rest ih =>
    rw [cutFrom]
    split <;> simp [ih]

/-- The words of a piece are the piece. -/
theorem flatten_cut (boundaries : List Boundary) (s : List Char) :
    (cut boundaries s).flatten = s := by
  cases s with
  | nil => rfl
  | cons c rest => rw [cut, flatten_cutFrom, List.reverse_singleton, List.singleton_append]

theorem cutFrom_ne_nil (previous : Char) {word : List Char} (hw : word ≠ []) (s : List Char) :
    ∀ w ∈ cutFrom boundaries previous word s, w ≠ [] := by
  induction s generalizing previous word with
  | nil => exact List.forall_mem_singleton.mpr (by simpa using hw)
  | cons c rest ih =>
    rw [cutFrom]
    split
    · exact List.forall_mem_cons.mpr ⟨by simpa using hw, ih c (by simp)⟩
    · exact ih c (by simp)

theorem cut_ne_nil (s : List Char) : ∀ w ∈ cut boundaries s, w ≠ [] := by
  cases s with
  | nil => exact List.forall_mem_nil _
  | cons c rest => exact cutFrom_ne_nil c (by simp) rest

/-- The words of a piece have no separators either. -/
theorem cut_arePieces {s : List Char} (hs : ∀ c ∈ s, separates c = false) :
    ∀ w ∈ cut boundaries s, IsPiece separates w := by
  intro w hw
  refine ⟨cut_ne_nil s w hw, fun c hc => hs c ?_⟩
  rw [← flatten_cut boundaries s]
  exact List.mem_flatten.mpr ⟨w, hw, hc⟩

section Chain

variable {R : Char → Char → Prop}

/-- The word being read goes on as long as neighbours are related. It is held in reverse, so that
its first character is the last one read. -/
theorem isChain_cutFrom
    (hR : ∀ c d next, boundaries.any (Boundary.lies c d next) = false → R c d)
    {previous : Char} {word : List Char} (hw : (previous :: word).IsChain fun d c => R c d)
    (s : List Char) : ∀ w ∈ cutFrom boundaries previous (previous :: word) s, w.IsChain R := by
  have read {previous : Char} {word : List Char}
      (hw : (previous :: word).IsChain fun d c => R c d) :
      (previous :: word).reverse.IsChain R := List.isChain_reverse.mpr hw
  induction s generalizing previous word with
  | nil => exact List.forall_mem_singleton.mpr (read hw)
  | cons c rest ih =>
    rw [cutFrom]
    split
    · exact List.forall_mem_cons.mpr ⟨read hw, ih (List.isChain_singleton c)⟩
    next h => exact ih (List.isChain_cons_cons.mpr ⟨hR _ _ _ (Bool.eq_false_iff.mpr h), hw⟩)

/-- Neighbours in a word are related, if all are between which no boundary lies. -/
theorem isChain_cut (hR : ∀ c d next, boundaries.any (Boundary.lies c d next) = false → R c d)
    (s : List Char) : ∀ w ∈ cut boundaries s, w.IsChain R := by
  cases s with
  | nil => exact List.forall_mem_nil _
  | cons c rest => exact isChain_cutFrom hR (List.isChain_singleton c) rest

theorem cutFrom_eq_singleton
    (hR : ∀ c d next, R c d → boundaries.any (Boundary.lies c d next) = false)
    {previous : Char} {s : List Char} (hs : (previous :: s).IsChain R) (word : List Char) :
    cutFrom boundaries previous word s = [word.reverse ++ s] := by
  induction s generalizing previous word with
  | nil => rw [cutFrom, List.append_nil]
  | cons c rest ih =>
    obtain ⟨hc, hs⟩ := List.isChain_cons_cons.mp hs
    rw [cutFrom, hR _ _ _ hc, if_neg Bool.false_ne_true, ih hs, List.reverse_cons,
      List.append_assoc, List.singleton_append]

/-- A piece whose neighbours are related is one word, if no boundary lies between related
characters. -/
theorem cut_eq_singleton
    (hR : ∀ c d next, R c d → boundaries.any (Boundary.lies c d next) = false)
    {s : List Char} (hne : s ≠ []) (hs : s.IsChain R) : cut boundaries s = [s] := by
  cases s with
  | nil => exact absurd rfl hne
  | cons c rest => exact cutFrom_eq_singleton hR hs [c]

end Chain

/-! ## Merging -/

/-- The merged words are the words, with consecutive ones put together. -/
def Merges {α : Type} (words merged : List (List α)) : Prop :=
  ∃ groups : List (List (List α)), groups.flatten = words ∧ merged = groups.map List.flatten

section Merges

variable {α : Type} {words merged words' merged' : List (List α)}

theorem Merges.refl (words : List (List α)) : Merges words words :=
  ⟨words.map ([·]), List.flatMap_def.symm.trans (List.flatMap_singleton' words),
    by simp [Function.comp_def]⟩

theorem Merges.append (h : Merges words merged) (h' : Merges words' merged') :
    Merges (words ++ words') (merged ++ merged') := by
  obtain ⟨groups, rfl, rfl⟩ := h
  obtain ⟨groups', rfl, rfl⟩ := h'
  exact ⟨groups ++ groups', List.flatten_append, List.map_append.symm⟩

/-- Some words and what they make up together. -/
theorem Merges.flatten (words : List (List α)) : Merges words [words.flatten] :=
  ⟨[words], by simp, rfl⟩

theorem Merges.flatMap {β : Type} {f g : β → List (List α)} (h : ∀ b, Merges (f b) (g b))
    (bs : List β) : Merges (bs.flatMap f) (bs.flatMap g) := by
  induction bs with
  | nil => exact .refl []
  | cons b bs ih =>
    rw [List.flatMap_cons, List.flatMap_cons]
    exact (h b).append ih

end Merges

/-- A word that ends where one of fewer boundaries does is the last of those it is put together
from. -/
theorem merges_closed {head : List (List Char)} {word longer : List Char}
    (hl : longer.reverse = head.flatten ++ word.reverse) :
    Merges (head ++ [word.reverse]) [longer.reverse] := by
  have hflatten : (head ++ [word.reverse]).flatten = longer.reverse := by simp [hl]
  exact hflatten ▸ .flatten _

/-- With fewer boundaries, a word being read holds the words `head` that are read already and what
is read of another. -/
theorem merges_cutFrom (h : fewer ⊆ boundaries) (previous : Char) (head : List (List Char))
    {word longer : List Char} (hl : longer.reverse = head.flatten ++ word.reverse)
    (s : List Char) :
    Merges (head ++ cutFrom boundaries previous word s) (cutFrom fewer previous longer s) := by
  induction s generalizing previous head word longer with
  | nil => exact merges_closed hl
  | cons c rest ih =>
    rw [cutFrom, cutFrom]
    split
    next hb =>
      rw [List.append_cons]
      split
      next hf => exact (merges_closed hl).append (ih c [] rfl)
      next => exact ih c _ (by simp [hl])
    next hb =>
      have hf : ¬ fewer.any (Boundary.lies previous c rest.head?) := by
        rw [List.any_eq_true] at hb ⊢
        exact fun ⟨b, hm, hlies⟩ => hb ⟨b, h hm, hlies⟩
      rw [if_neg hf]
      exact ih c _ (by simp [hl])

/-- Fewer boundaries only merge the words of a piece. -/
theorem merges_cut (h : fewer ⊆ boundaries) (s : List Char) :
    Merges (cut boundaries s) (cut fewer s) := by
  cases s with
  | nil => exact .refl []
  | cons c rest => exact merges_cutFrom h c [] rfl rest

/-! ## Texts -/

/-- The characters that stand between words under a convention. -/
def Separates : Option Convention → Char → Prop
  | none, c => c = '_' ∨ c = '-' ∨ c = '.' ∨ isBlank c
  | some .snakeCase, c | some .screamingSnake, c => c = '_'
  | some .kebabCase, c => c = '-'
  | some .camelCase, _ | some .pascalCase, _ => False

variable {convention : Option Convention} {excluded more : List String}

theorem separator_iff {c : Char} : separator convention c ↔ Separates convention c := by
  rcases convention with _ | _ | _ <;> simp [separator, separatesAny, Separates, or_assoc]

instance (c : Char) : Decidable (Separates convention c) := decidable_of_iff _ separator_iff

theorem separator_eq_false_iff {c : Char} :
    separator convention c = false ↔ ¬ Separates convention c := by
  rw [← separator_iff, Bool.not_eq_true]

/-- The words of characters, cut at these boundaries where the convention has any. -/
def wordsOf (boundaries : List Boundary) (convention : Option Convention) (s : List Char) :
    List (List Char) :=
  if usesBoundaries convention then (pieces (separator convention) s).flatMap (cut boundaries)
  else pieces (separator convention) s

theorem split_eq (value : String) (convention : Option Convention) (excluded : List String) :
    split value convention excluded =
      (wordsOf (usualBut excluded) convention value.toList).map String.ofList := rfl

theorem flatten_wordsOf (boundaries : List Boundary) (s : List Char) :
    (wordsOf boundaries convention s).flatten = s.filter (!separator convention ·) := by
  unfold wordsOf
  split
  · rw [List.flatMap_def, List.flatten_flatten, List.map_map, ← flatten_pieces]
    exact congrArg List.flatten (List.map_id'' (flatten_cut boundaries) _)
  · exact flatten_pieces s

theorem wordsOf_arePieces (s : List Char) :
    ∀ w ∈ wordsOf boundaries convention s, IsPiece (separator convention) w := by
  unfold wordsOf
  split
  · intro w hw
    obtain ⟨piece, hp, hw⟩ := List.mem_flatMap.mp hw
    exact cut_arePieces (pieces_arePieces s piece hp).2 w hw
  · exact pieces_arePieces s

theorem merges_wordsOf (h : fewer ⊆ boundaries) (s : List Char) :
    Merges (wordsOf boundaries convention s) (wordsOf fewer convention s) := by
  unfold wordsOf
  split
  · exact Merges.flatMap (merges_cut h) _
  · exact .refl _

theorem usualBut_subset (h : excluded ⊆ more) : usualBut more ⊆ usualBut excluded := by
  intro b hb
  obtain ⟨hb, hn⟩ := List.mem_filter.mp hb
  refine List.mem_filter.mpr ⟨hb, ?_⟩
  simp only [Bool.not_eq_true', List.contains_eq_mem, decide_eq_false_iff_not] at hn ⊢
  exact fun hm => hn (h hm)

theorem join_map_ofList (ws : List (List Char)) :
    String.join (ws.map String.ofList) = String.ofList ws.flatten := by
  rw [← String.toList_inj, String.toList_join, String.toList_ofList, List.flatMap_map,
    List.flatMap_def]
  simp

/-- No word is empty or holds a separator, and together the words are the text without its
separators. When more boundaries are excluded, the words are put together in consecutive groups. -/
theorem split_conserves_text (value : String) (convention : Option Convention)
    (excluded : List String) :
    (∀ w ∈ split value convention excluded, w ≠ "" ∧ ∀ c ∈ w.toList, ¬ Separates convention c) ∧
    String.join (split value convention excluded) =
      String.ofList (value.toList.filter fun c => ¬ Separates convention c) ∧
    ∀ more, excluded ⊆ more → ∃ groups : List (List String),
      groups.flatten = split value convention excluded ∧
      split value convention more = groups.map String.join := by
  refine ⟨?_, ?_, fun more h => ?_⟩
  · rw [split_eq, List.forall_mem_map]
    intro w hw
    obtain ⟨hne, hs⟩ := wordsOf_arePieces value.toList w hw
    rw [String.toList_ofList]
    exact ⟨by simpa using hne, fun c hc => separator_eq_false_iff.mp (hs c hc)⟩
  · rw [split_eq, join_map_ofList, flatten_wordsOf]
    congr 2
    funext c
    rw [Bool.eq_iff_iff, Bool.not_eq_true', separator_eq_false_iff, decide_eq_true_iff]
  · have hmerges : Merges (wordsOf (usualBut excluded) convention value.toList)
        (wordsOf (usualBut more) convention value.toList) :=
      merges_wordsOf (usualBut_subset h) value.toList
    obtain ⟨groups, hw, hm⟩ := hmerges
    refine ⟨groups.map (List.map String.ofList), ?_, ?_⟩
    · rw [← List.map_flatten, hw, split_eq]
    · rw [split_eq, hm, List.map_map, List.map_map]
      exact List.map_congr_left fun ws _ => (join_map_ofList ws).symm

/-- The boundary behind an acronym is excluded, so the first two words are put together. -/
theorem split_conserves_text_acronym :
    ([] : List String) ⊆ ["acronym"] ∧
    split "XMLHttp-v2" none [] = ["XML", "Http", "v", "2"] ∧
    split "XMLHttp-v2" none ["acronym"] = ["XMLHttp", "v", "2"] ∧
    ∃ groups : List (List String), groups.flatten = split "XMLHttp-v2" none [] ∧
      split "XMLHttp-v2" none ["acronym"] = groups.map String.join :=
  have h : ([] : List String) ⊆ ["acronym"] := List.nil_subset _
  ⟨h, by decide +kernel, by decide +kernel,
    (split_conserves_text "XMLHttp-v2" none []).2.2 ["acronym"] h⟩

end FunctionManual.Standard.Words
