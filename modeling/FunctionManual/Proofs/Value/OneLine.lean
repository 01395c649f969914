import FunctionManual.Proofs.Json.Scalars
import FunctionManual.Text.Lines
import FunctionManual.Value.Json

/-!
# Values on one line

* `Text.divides`: the characters that divide a table: the bar between cells, and those that end
  lines.
* `Text.DividedBy`: the dividers in a text are among some characters.
* `Text.dividedBy_intercalate`, `Text.count_intercalate`: what divides texts that are joined, and
  how often.
* `Value.chars`: the characters of the texts in a value.
* `Value.dividedBy_render`: the line that shows a value has no dividers but those of its texts.
-/

namespace FunctionManual

/-! ## Dividers -/

namespace Text

/-- A character that divides a table: the bar between cells, or one that ends a line. -/
def divides (c : Char) : Bool := c = '|' || isLineEnd c

/-- The dividers in a text are among these characters. -/
def DividedBy (cs s : List Char) : Prop := ∀ x ∈ s, divides x → x ∈ cs

variable {cs ds s t : List Char} {c : Char}

-- the test goes through the text: there are finitely many characters, but too many to go through
instance : Decidable (DividedBy cs s) := List.decidableBAll (fun x => divides x → x ∈ cs) s

theorem dividedBy_self (s : List Char) : DividedBy s s := fun _ hx _ => hx

theorem dividedBy_nil : DividedBy cs [] := nofun

theorem dividedBy_append : DividedBy cs (s ++ t) ↔ DividedBy cs s ∧ DividedBy cs t :=
  List.forall_mem_append

theorem DividedBy.mono (h : DividedBy cs s) (hsub : cs ⊆ ds) : DividedBy ds s :=
  fun x hx hd => hsub (h x hx hd)

theorem DividedBy.trans (hs : DividedBy t s) (ht : DividedBy cs t) : DividedBy cs s :=
  fun x hx hd => ht x (hs x hx hd) hd

/-- A text without dividers. -/
theorem DividedBy.none (h : DividedBy [] s) : DividedBy cs s := h.mono (List.nil_subset cs)

theorem dividedBy_of_forall (h : ∀ x ∈ s, divides x = false) : DividedBy cs s :=
  fun x hx hd => absurd hd (Bool.eq_false_iff.mp (h x hx))

/-- Texts that are joined have the dividers of those texts and of what joins them. -/
theorem dividedBy_intercalate {sep : List Char} {ls : List (List Char)}
    (hsep : DividedBy cs sep) (h : ∀ l ∈ ls, DividedBy cs l) :
    DividedBy cs (sep.intercalate ls) := by
  induction ls with
  | nil => exact dividedBy_nil
  | cons l ls ih =>
    obtain ⟨hl, hls⟩ := List.forall_mem_cons.mp h
    cases ls with
    | nil => rwa [List.intercalate_singleton]
    | cons m ls =>
      rw [List.intercalate_cons_cons]
      exact dividedBy_append.mpr ⟨dividedBy_append.mpr ⟨hl, hsep⟩, ih hls⟩

/-- An item occurs in lists that are joined as often as in the lists and in what joins them. -/
theorem count_intercalate {α : Type} [BEq α] (x : α) (sep : List α) (ls : List (List α)) :
    (sep.intercalate ls).count x = (ls.map (List.count x)).sum + (ls.length - 1) * sep.count x := by
  induction ls with
  | nil => simp
  | cons l ls ih =>
    cases ls with
    | nil => simp
    | cons m ls =>
      rw [List.intercalate_cons_cons, List.count_append, List.count_append, ih]
      simp only [List.map_cons, List.sum_cons, List.length_cons]
      grind

/-- What ends lines divides tables. So a text is on one line if the lines end in none of the
characters that its dividers are among. -/
theorem DividedBy.splitOnP {breaks : Char → Bool} (h : DividedBy cs s)
    (hb : ∀ x, breaks x → isLineEnd x) (hcs : ∀ x ∈ cs, breaks x = false) :
    s.splitOnP breaks = [s] := by
  refine List.splitOnP_eq_singleton fun x hx => Bool.eq_false_iff.mpr fun hx' => ?_
  have hd : divides x := by simp [divides, hb x hx']
  exact absurd hx' (Bool.eq_false_iff.mp (hcs x (h x hx hd)))

theorem divides_numeralChar (h : IsNumeralChar c) : divides c = false := by
  have hbar : c ≠ '|' := by
    rintro rfl
    exact absurd h (by simp [IsNumeralChar, isAsciiDigit])
  have := h.toNat
  simp [divides, isLineEnd, hbar]
  omega

theorem dividedBy_digits (h : AreDigits s) : DividedBy cs s :=
  dividedBy_of_forall fun x hx => divides_numeralChar (h.numeralChar x hx)

theorem dividedBy_numeral (n : Numeral) : DividedBy cs n.chars :=
  dividedBy_of_forall fun x hx => divides_numeralChar (n.isSpelled_chars.mem x hx)

theorem divides_hexDigit : ∀ k < 16, divides (hexDigit k) = false := by decide

theorem dividedBy_hexDigits (width n : Nat) : DividedBy cs (hexDigits width n) := by
  induction width generalizing n with
  | zero => exact dividedBy_nil
  | succ width ih =>
    have hlast : divides (hexDigit (n % 16)) = false := divides_hexDigit _ (by omega)
    exact dividedBy_append.mpr ⟨ih _, dividedBy_of_forall (List.forall_mem_singleton.mpr hlast)⟩

end Text

open FunctionManual.Text

/-! ## Strings and scalars -/

namespace Json

/-- A character is written as itself, or without any divider. -/
theorem dividedBy_escapeChar (c : Char) : DividedBy [c] (escapeChar c) := by
  have letter {d : Char} (hd : divides d = false) : DividedBy [c] ['\\', d] :=
    dividedBy_of_forall (List.forall_mem_cons.mpr ⟨rfl, List.forall_mem_singleton.mpr hd⟩)
  unfold escapeChar
  iterate 7 (split; · exact letter rfl)
  split
  · exact dividedBy_append (s := ['\\', 'u']).mpr ⟨letter rfl, dividedBy_hexDigits 4 c.toNat⟩
  · exact dividedBy_self [c]

/-- A string in quotation marks has the dividers of the string. -/
theorem dividedBy_stringChars (s : String) : DividedBy s.toList (stringChars s) := by
  have escaped : DividedBy s.toList (s.toList.flatMap escapeChar) := by
    intro x hx hd
    obtain ⟨c, hc, hx⟩ := List.mem_flatMap.mp hx
    obtain rfl := List.mem_singleton.mp (dividedBy_escapeChar c x hx hd)
    exact hc
  have mark : DividedBy s.toList ['"'] := DividedBy.none (by decide)
  exact dividedBy_append.mpr ⟨dividedBy_append (s := ['"']).mpr ⟨mark, escaped⟩, mark⟩

variable {cs : List Char}

theorem dividedBy_integerText (i : Int) : DividedBy cs (Integer.text i).toList :=
  integerText_eq i ▸ dividedBy_numeral _

theorem dividedBy_booleanText (b : Bool) : DividedBy cs (booleanText b).toList := by
  cases b <;> exact DividedBy.none (by decide +kernel)

theorem dividedBy_floatText (x : Binary64) : DividedBy cs (floatText x).toList := by
  cases x with
  | nan => exact DividedBy.none (by decide +kernel)
  | infinite negative => cases negative <;> exact DividedBy.none (by decide +kernel)
  | finite negative m u h =>
    obtain ⟨n, -, ht, -⟩ := Binary64.text_spec negative h
    rw [floatText, ht, String.toList_ofList]
    exact dividedBy_numeral n

end Json

namespace Timestamp

variable {cs : List Char}

theorem dividedBy_padded (width n : Nat) : DividedBy cs (padded width n).toList := by
  rw [padded, String.toList_append, String.toList_ofList, toList_toString]
  exact dividedBy_digits (areDigits_append.mpr ⟨areDigits_zeros _, areDigits_toDigits n⟩)

/-- The signs and separators in the text of a timestamp. -/
theorem dividedBy_separator : ∀ s ∈ ["", "-", "+", ":", ".", "T"], DividedBy cs s.toList := by
  have plain : ∀ s ∈ ["", "-", "+", ":", ".", "T"], DividedBy [] s.toList := by decide +kernel
  exact fun s hs => (plain s hs).none

theorem dividedBy_offsetText (offset : Int) : DividedBy cs (offsetText offset).toList := by
  have separators := @dividedBy_separator cs
  simp only [List.forall_mem_cons] at separators
  simp only [offsetText, toString]
  split_ifs <;> simp only [String.toList_append, dividedBy_append, dividedBy_padded, separators,
    and_self]

theorem dividedBy_text (t : Timestamp) : DividedBy cs t.text.toList := by
  have separators := @dividedBy_separator cs
  simp only [List.forall_mem_cons] at separators
  simp only [text, textWith, toString, String.toList_append, dividedBy_append, dividedBy_padded,
    separators, and_self, true_and]
  constructor
  · -- the fraction
    split
    · exact separators.1
    · simp only [String.toList_append, dividedBy_append, dividedBy_padded, separators, and_self]
  · -- the offset
    split
    · exact separators.1
    · exact dividedBy_offsetText _

end Timestamp

/-! ## Values -/

/-- The characters of the text of a scalar. What has no kind has the text that messages show. -/
def Scalar.chars : Scalar → List Char
  | .string s => s.toList
  | .regex r => r.source.toList
  | .bytes b => (Scalar.bytes b).display.toList
  | .set member => (Scalar.set member).display.toList
  | .null | .boolean _ | .integer _ | .float _ | .timestamp _ => []

namespace Value

mutual

/-- The characters of the texts in a value, those of its keys included. -/
def chars : Value → List Char
  | .scalar s => s.chars
  | .array items => charsOfItems items
  | .object members => charsOfMembers members

/-- The characters of the texts in items. -/
def charsOfItems : List Value → List Char
  | [] => []
  | v :: rest => chars v ++ charsOfItems rest

/-- The characters of the texts in members. -/
def charsOfMembers : List (Key × Value) → List Char
  | [] => []
  | (k, v) :: rest => k.toScalar.chars ++ chars v ++ charsOfMembers rest

end

end Value

open Json

/-- The line of a scalar has the dividers of its text: a scalar that JSON cannot hold is described
in a string. -/
theorem Scalar.dividedBy_line (s : Scalar) :
    DividedBy s.chars (lineChars [' '] (Value.scalar s).shown) := by
  have around {cs : List Char} {t : String} (front back : String)
      (hf : DividedBy [] front.toList) (ht : DividedBy cs t.toList)
      (hb : DividedBy [] back.toList) : DividedBy cs (front ++ t ++ back).toList := by
    simp only [String.toList_append, dividedBy_append]
    exact ⟨⟨hf.none, ht⟩, hb.none⟩
  cases s with
  | null => exact DividedBy.none (by decide +kernel)
  | boolean b => exact dividedBy_booleanText b
  | integer i => exact dividedBy_integerText i
  | float x => exact dividedBy_floatText x
  | string t => exact dividedBy_stringChars t
  | regex r =>
    refine (dividedBy_stringChars _).trans ?_
    exact around "r'" "'" (by decide +kernel) (dividedBy_self _) (by decide +kernel)
  | timestamp t => exact (dividedBy_stringChars _).trans t.dividedBy_text
  | bytes b => exact dividedBy_stringChars _
  | set member =>
    refine (dividedBy_stringChars _).trans ?_
    exact around "<set " ">" (by decide +kernel) (dividedBy_self _) (by decide +kernel)

theorem Key.dividedBy_jsonName (k : Key) : DividedBy k.toScalar.chars k.jsonName.toList := by
  cases k with
  | text s => exact dividedBy_self _
  | null => exact DividedBy.none (by decide +kernel)
  | boolean b => exact dividedBy_booleanText b
  | integer i => exact dividedBy_integerText i
  | float x => exact dividedBy_floatText x

namespace Value

/-- Brackets around a text that holds no others. -/
theorem dividedBy_bracketed {cs s : List Char} {o c : Char} (ho : divides o = false)
    (h : DividedBy cs s) (hc : divides c = false) : DividedBy cs (o :: s ++ [c]) := by
  have opening : DividedBy cs [o] := dividedBy_of_forall (List.forall_mem_singleton.mpr ho)
  have closing : DividedBy cs [c] := dividedBy_of_forall (List.forall_mem_singleton.mpr hc)
  exact dividedBy_append.mpr ⟨dividedBy_append (s := [o]).mpr ⟨opening, h⟩, closing⟩

/-- A comma and a blank between texts. -/
theorem dividedBy_separated {cs ds s t : List Char} (hs : DividedBy cs s) (ht : DividedBy ds t) :
    DividedBy (cs ++ ds) (s ++ ',' :: [' '] ++ t) := by
  have comma : DividedBy (cs ++ ds) (',' :: [' ']) := DividedBy.none (by decide)
  exact dividedBy_append.mpr ⟨dividedBy_append.mpr ⟨hs.mono (List.subset_append_left ..), comma⟩,
    ht.mono (List.subset_append_right ..)⟩

/-- A key with its value. -/
theorem dividedBy_member (k : Key) {cs s : List Char} (h : DividedBy cs s) :
    DividedBy (k.toScalar.chars ++ cs) (stringChars k.jsonName ++ ':' :: [' '] ++ s) := by
  have name := (dividedBy_stringChars k.jsonName).trans k.dividedBy_jsonName
  have colon : DividedBy (k.toScalar.chars ++ cs) (':' :: [' ']) := DividedBy.none (by decide)
  exact dividedBy_append.mpr ⟨dividedBy_append.mpr ⟨name.mono (List.subset_append_left ..), colon⟩,
    h.mono (List.subset_append_right ..)⟩

mutual

/-- The line of a value has the dividers of its texts. The recursion is that of the line. -/
theorem dividedBy_line : (v : Value) → DividedBy v.chars (lineChars [' '] v.shown)
  | .scalar s => s.dividedBy_line
  | .array items => dividedBy_bracketed rfl (dividedBy_items items) rfl
  | .object members => dividedBy_bracketed rfl (dividedBy_members members) rfl

theorem dividedBy_items : (items : List Value) →
    DividedBy (charsOfItems items) (itemsChars [' '] (shownItems items))
  | [] => dividedBy_nil
  | [v] => (dividedBy_line v).mono (List.subset_append_left ..)
  | v :: w :: rest => dividedBy_separated (dividedBy_line v) (dividedBy_items (w :: rest))

theorem dividedBy_members : (members : List (Key × Value)) →
    DividedBy (charsOfMembers members) (membersChars [' '] (shownMembers members))
  | [] => dividedBy_nil
  | [(k, v)] => (dividedBy_member k (dividedBy_line v)).mono (List.subset_append_left ..)
  | (k, v) :: m :: rest =>
    dividedBy_separated (dividedBy_member k (dividedBy_line v)) (dividedBy_members (m :: rest))

end

/-- The line that shows a value has no dividers but those of its texts. -/
theorem dividedBy_render (v : Value) : DividedBy v.chars v.render.toList := by
  rw [render, spaced, String.toList_ofList]
  exact v.dividedBy_line

end Value

end FunctionManual
