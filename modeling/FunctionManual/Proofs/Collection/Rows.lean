import FunctionManual.Collection.Reference
import FunctionManual.Proofs.Collection.Views
import FunctionManual.Proofs.TypeSpec.CanonicalText

/-!
# Parameters have rows of their own

* `tableRow`: the line of a table with some cells.
* `Parameter.row_eq`: a parameter has a cell for each column of its table.
* `Parameter.dividedBy_cells`: but for that of its type, its cells have no dividers but those of its
  own texts.
* `Collection.reference_lines`: the lines of a page with the table of a function.
* `reference_keeps_rows`: whatever the texts of a page are, a parameter whose own texts have neither
  bars nor line breaks has one line of its table, with as many bars as the names of its columns and
  one for each stroke of its type.
-/

namespace FunctionManual

open FunctionManual.Text

/-! ## Rows -/

/-- What stands between two bars: a text with blanks around it. -/
def cell (s : String) : List Char := ' ' :: s.toList ++ [' ']

/-- The line of a table with these cells. -/
def tableRow (cells : List String) : List Char :=
  ['|'].intercalate ([] :: (cells.map cell ++ [[]]))

/-- The names of the columns of the table of parameters. -/
def columns : List String := ["Parameter", "Type", "Required", "Default", "Description"]

/-- The line below them. -/
def columnRule : String := "|-----------|------|----------|---------|-------------|"

namespace Parameter

/-- The cells of a parameter, one for each column. -/
def cells (p : Parameter) : List String :=
  [code p.name.plain, code (shownType p.type), if p.required then "yes" else "no",
    partIf (!p.default.isNull) (code p.default.render),
    p.description.plain ++ String.join (p.variants.map Variant.cell)]

theorem row_eq (p : Parameter) : p.row.toList = tableRow p.cells := by
  -- not `unfold`: to state the equation of the row, its literals would be evaluated
  delta row
  simp [tableRow, cells, cell, List.intercalate_cons_cons]

end Parameter

/-- The bars of a row: those in its cells, and those around and between them. -/
theorem count_tableRow (cells : List String) : (tableRow cells).count '|' =
    (cells.map fun s => s.toList.count '|').sum + cells.length + 1 := by
  have inside : (cells.map cell).map (List.count '|') = cells.map fun s => s.toList.count '|' := by
    rw [List.map_map]
    refine List.map_congr_left fun s _ => ?_
    simp [cell]
  have sum : (([] :: (cells.map cell ++ [[]])).map (List.count '|')).sum =
      (cells.map fun s => s.toList.count '|').sum := by simp [inside]
  have length : ([] :: (cells.map cell ++ [[]])).length = cells.length + 2 := by simp
  have bar : ['|'].count '|' = 1 := rfl
  rw [tableRow, count_intercalate, sum, length, bar]
  omega

/-- A row without bars in its cells is cut into them at its bars. -/
theorem splitOn_tableRow {cells : List String} (h : (tableRow cells).count '|' = cells.length + 1) :
    (tableRow cells).splitOn '|' = [] :: (cells.map cell ++ [[]]) := by
  have hsum : (cells.map fun s => s.toList.count '|').sum = 0 := by
    rw [count_tableRow] at h
    omega
  have none : ∀ s ∈ cells, '|' ∉ s.toList := fun s hs => List.count_eq_zero.mp
    (List.sum_eq_zero_iff_forall_eq_nat.mp hsum _ (List.mem_map_of_mem hs))
  refine List.splitOn_intercalate '|' (List.forall_mem_cons.mpr ⟨List.not_mem_nil, ?_⟩)
    (List.cons_ne_nil _ _)
  refine List.forall_mem_append.mpr ⟨List.forall_mem_map.mpr fun s hs => ?_,
    List.forall_mem_singleton.mpr List.not_mem_nil⟩
  simp [cell, none s hs]

theorem dividedBy_tableRow {cs : List Char} {cells : List String} (hbar : '|' ∈ cs)
    (h : ∀ s ∈ cells, DividedBy cs s.toList) : DividedBy cs (tableRow cells) := by
  have bar : DividedBy cs ['|'] := fun x hx _ => List.mem_singleton.mp hx ▸ hbar
  have blank : DividedBy cs [' '] := DividedBy.none (by decide)
  refine dividedBy_intercalate bar (List.forall_mem_cons.mpr ⟨dividedBy_nil, ?_⟩)
  refine List.forall_mem_append.mpr ⟨List.forall_mem_map.mpr fun s hs => ?_,
    List.forall_mem_singleton.mpr dividedBy_nil⟩
  exact dividedBy_append.mpr ⟨dividedBy_append (s := [' ']).mpr ⟨blank, h s hs⟩, blank⟩

/-- A bar ends no line. -/
theorem breaks_bar {breaks : Char → Bool} (hb : ∀ x, breaks x → isLineEnd x) :
    breaks '|' = false :=
  Bool.eq_false_iff.mpr fun h => absurd (hb _ h) (by decide)

/-! ## What divides the cells of a parameter -/

/-- The characters of the texts of a parameter, its type apart. -/
def Parameter.chars (p : Parameter) : List Char :=
  p.name.plain.toList ++ p.default.chars ++ p.description.plain.toList ++
    p.variants.flatMap fun v => v.value.chars ++ v.description.toList

theorem dividedBy_code {cs : List Char} {s : String} (h : DividedBy cs s.toList) :
    DividedBy cs (code s).toList := by
  have mark : DividedBy cs "`".toList := DividedBy.none (by decide +kernel)
  simp only [code, String.toList_append, dividedBy_append]
  exact ⟨⟨mark, h⟩, mark⟩

theorem Variant.dividedBy_cell (v : Variant) :
    DividedBy (v.value.chars ++ v.description.toList) v.cell.toList := by
  have value : DividedBy (v.value.chars ++ v.description.toList) (code v.value.render).toList :=
    dividedBy_code (v.value.dividedBy_render.mono (List.subset_append_left ..))
  have description : DividedBy (v.value.chars ++ v.description.toList) v.description.toList :=
    (dividedBy_self _).mono (List.subset_append_right ..)
  have newLine : DividedBy (v.value.chars ++ v.description.toList) "<br>".toList :=
    DividedBy.none (by decide +kernel)
  have colon : DividedBy (v.value.chars ++ v.description.toList) ": ".toList :=
    DividedBy.none (by decide +kernel)
  simp only [Variant.cell, String.toList_append, dividedBy_append]
  exact ⟨⟨⟨newLine, value⟩, colon⟩, description⟩

namespace Parameter

variable {p : Parameter}

/-- But for that of its type, the cells of a parameter have no dividers but those of its own
texts. -/
theorem dividedBy_cells (p : Parameter) : ∃ name required default description : String,
    p.cells = [name, code (shownType p.type), required, default, description] ∧
      ∀ s ∈ [name, required, default, description], DividedBy p.chars s.toList := by
  refine ⟨_, _, _, _, rfl, ?_⟩
  have name : DividedBy p.chars (code p.name.plain).toList := by
    refine dividedBy_code ((dividedBy_self _).mono ?_)
    simp [chars]
  have required : DividedBy p.chars (if p.required then "yes" else "no").toList :=
    DividedBy.none (by split <;> decide +kernel)
  have default : DividedBy p.chars
      (partIf (!p.default.isNull) (code p.default.render)).toList := by
    unfold partIf
    split
    · refine dividedBy_code (p.default.dividedBy_render.mono ?_)
      simp [chars]
    · exact dividedBy_nil
  have description : DividedBy p.chars
      (p.description.plain ++ String.join (p.variants.map Variant.cell)).toList := by
    rw [String.toList_append, String.toList_join, List.flatMap_map]
    refine dividedBy_append.mpr ⟨(dividedBy_self _).mono fun x hx => ?_, ?_⟩
    · simp [chars, hx]
    · intro x hx hd
      obtain ⟨v, hv, hx⟩ := List.mem_flatMap.mp hx
      exact List.mem_append_right _ (List.mem_flatMap.mpr ⟨v, hv, v.dividedBy_cell x hx hd⟩)
  simp only [List.forall_mem_cons]
  exact ⟨name, required, default, description, List.forall_mem_nil _⟩

/-- A parameter whose texts are on one line and have no bars. -/
def IsInline (breaks : Char → Bool) (p : Parameter) : Prop :=
  ∀ x ∈ p.chars, x ≠ '|' ∧ breaks x = false

instance (breaks : Char → Bool) : Decidable (p.IsInline breaks) :=
  List.decidableBAll (fun x => x ≠ '|' ∧ breaks x = false) p.chars

theorem IsInline.bar_not_mem {breaks : Char → Bool} (h : p.IsInline breaks) : '|' ∉ p.chars :=
  fun hx => (h _ hx).1 rfl

section Row

variable {t : TypeSpec} (ht : p.type = some t)
include ht

/-- The bars of the row of a parameter without bars of its own. -/
theorem count_row (hbar : '|' ∉ p.chars) : p.row.toList.count '|' = 6 + t.strokes := by
  obtain ⟨name, required, default, description, hcells, hown⟩ := p.dividedBy_cells
  have own : ∀ s ∈ [name, required, default, description], s.toList.count '|' = 0 :=
    fun s hs => List.count_eq_zero.mpr fun hx => hbar (hown s hs _ hx rfl)
  have type : (code (shownType p.type)).toList.count '|' = t.strokes := by
    rw [ht, ← t.count_render]
    simp [code, shownType]
  simp only [List.forall_mem_cons] at own
  rw [row_eq, count_tableRow, hcells]
  simp only [List.map_cons, List.map_nil, List.sum_cons, List.sum_nil, List.length_cons,
    List.length_nil, own, type]
  omega

/-- The dividers in the row of a parameter are its bars and those of its own texts. -/
theorem dividedBy_row : DividedBy ('|' :: p.chars) p.row.toList := by
  obtain ⟨name, required, default, description, hcells, hown⟩ := p.dividedBy_cells
  have own : ∀ s ∈ [name, required, default, description], DividedBy ('|' :: p.chars) s.toList :=
    fun s hs => (hown s hs).mono (List.subset_cons_self ..)
  have type : DividedBy ('|' :: p.chars) (code (shownType p.type)).toList := by
    rw [ht]
    exact dividedBy_code (t.dividedBy_render.mono (by simp))
  rw [row_eq, hcells]
  simp only [List.forall_mem_cons] at own
  refine dividedBy_tableRow (List.mem_cons_self ..) ?_
  simp only [List.forall_mem_cons]
  exact ⟨own.1, type, own.2⟩

/-- The row of a parameter whose texts are on one line is on one line. -/
theorem IsInline.splitOnP_row {breaks : Char → Bool} (hi : p.IsInline breaks)
    (hb : ∀ x, breaks x → isLineEnd x) : p.row.toList.splitOnP breaks = [p.row.toList] :=
  (dividedBy_row ht).splitOnP hb (List.forall_mem_cons.mpr ⟨breaks_bar hb, fun x hx => (hi x hx).2⟩)

end Row

end Parameter

/-! ## Lines of a page -/

section Lines

variable {breaks : Char → Bool} (hn : breaks '\n')
include hn

/-- The lines of texts that each end in a newline, and of what follows them. -/
theorem splitOnP_lines (ls : List (List Char)) (rest : List Char) :
    (ls.flatMap (· ++ ['\n']) ++ rest).splitOnP breaks =
      ls.flatMap (·.splitOnP breaks) ++ rest.splitOnP breaks := by
  induction ls with
  | nil => rfl
  | cons l ls ih =>
    rw [List.flatMap_cons, List.flatMap_cons, List.append_assoc, List.append_assoc,
      List.append_assoc, List.singleton_append, List.splitOnP_append_cons _ _ hn, ih]

end Lines

theorem toList_lineTexts (lines : List String) :
    (lineTexts lines).toList = (lines.map String.toList).flatMap (· ++ ['\n']) := by
  rw [lineTexts, String.toList_join, List.flatMap_map, List.flatMap_map]
  simp

/-- One of several texts stands in what they are joined to. -/
theorem exists_around_of_mem {s : String} {ss : List String} (h : s ∈ ss) :
    ∃ front back, (String.join ss).toList = front ++ s.toList ++ back := by
  obtain ⟨before, after, rfl⟩ := List.append_of_mem h
  exact ⟨(String.join before).toList, (String.join after).toList, by simp [String.toList_join]⟩

/-- The table of parameters: the names of the columns, the rule and the rows, and a blank line. -/
theorem parameterTable_eq (ps : List Parameter) : (parameterTable ps).toList =
    (tableRow columns :: columnRule.toList :: ps.map fun p => p.row.toList).flatMap
      (· ++ ['\n']) ++ ['\n'] := by
  have names : "| Parameter | Type | Required | Default | Description |".toList =
    tableRow columns := by simp [tableRow, columns, cell, List.intercalate_cons_cons]
  have table : parameterTable ps = lineTexts
      ("| Parameter | Type | Required | Default | Description |" :: columnRule ::
        ps.map Parameter.row) ++ "\n" := rfl
  rw [table, String.toList_append, toList_lineTexts, List.map_cons, names, List.map_cons,
    List.map_map]
  simp [Function.comp_def]

/-- The table of a function with parameters stands in the part about it, on lines of its own. -/
theorem Listing.exists_around_table (l : Listing) (h : l.doc.parameters ≠ []) :
    ∃ front back,
      l.part.toList = front ++ '\n' :: ((parameterTable l.doc.parameters).toList ++ back) := by
  obtain ⟨front, returns, failures, notices, examples, hpart⟩ :
      ∃ front returns failures notices examples : String, l.part = front ++ "\n\n" ++
        partIf (!l.doc.parameters.isEmpty) (parameterTable l.doc.parameters) ++
        returns ++ failures ++ notices ++ examples := ⟨_, _, _, _, _, rfl⟩
  have shown : (!l.doc.parameters.isEmpty) = true := by simpa using h
  refine ⟨front.toList ++ ['\n'],
    returns.toList ++ failures.toList ++ notices.toList ++ examples.toList, ?_⟩
  rw [hpart, shown]
  simp [partIf]

namespace Collection

variable {c : Collection} {l : Listing}

/-- The part about a function stands on the page, in that of its category. -/
theorem exists_around_part (title : String) (hl : l ∈ c.listings) {k : Category}
    (hk : l.doc.category = some k) :
    ∃ front back, (c.reference title).toList = front ++ (l.part.toList ++ back) := by
  have hmem : l ∈ c.ofCategory k := List.mem_filter.mpr ⟨hl, by simp [hk]⟩
  have hgroup : (k, c.ofCategory k) ∈ c.byCategory :=
    mem_byCategory.mpr ⟨List.ne_nil_of_mem hmem, rfl⟩
  obtain ⟨front, back, hlistings⟩ :=
    exists_around_of_mem (List.mem_map_of_mem (f := Listing.part) hmem)
  obtain ⟨front', back', hgroups⟩ := exists_around_of_mem
    (List.mem_map_of_mem (f := fun g : Category × List Listing => categoryPart g.1 g.2) hgroup)
  obtain ⟨head, hpage⟩ : ∃ head, c.reference title = head ++ String.join
      (c.byCategory.map fun g => categoryPart g.1 g.2) := ⟨_, rfl⟩
  obtain ⟨head', hcategory⟩ : ∃ head', categoryPart k (c.ofCategory k) = head' ++ String.join
      ((c.ofCategory k).map Listing.part) := ⟨_, rfl⟩
  refine ⟨head.toList ++ front' ++ head'.toList ++ front, back ++ back', ?_⟩
  rw [hpage, String.toList_append, hgroups, hcategory, String.toList_append, hlistings]
  simp only [List.append_assoc]

/-- The lines of a page: in them stand the names of the columns, the rule, the rows of all
parameters of a function and a blank line. -/
theorem reference_lines {breaks : Char → Bool} (hn : breaks '\n')
    (hb : ∀ x, breaks x → isLineEnd x) (title : String) (hl : l ∈ c.listings) {k : Category}
    (hk : l.doc.category = some k) (hp : l.doc.parameters ≠ []) :
    ∃ above below, (c.reference title).toList.splitOnP breaks =
      above ++ (tableRow columns :: columnRule.toList ::
        (l.doc.parameters.flatMap fun p => p.row.toList.splitOnP breaks) ++ [] :: below) := by
  have whole {s : List Char} (hs : DividedBy ['|'] s) : s.splitOnP breaks = [s] :=
    hs.splitOnP hb (List.forall_mem_singleton.mpr (breaks_bar hb))
  have names := whole (s := tableRow columns) (by decide +kernel)
  have rule := whole (s := columnRule.toList) (by decide +kernel)
  have blank := whole dividedBy_nil
  obtain ⟨front, back, hpage⟩ := c.exists_around_part title hl hk
  obtain ⟨front', back', hpart⟩ := l.exists_around_table hp
  refine ⟨(front ++ front').splitOnP breaks, (back' ++ back).splitOnP breaks, ?_⟩
  -- the newline before the table ends what stands above it, the one behind it makes a blank line
  have page : (c.reference title).toList = (front ++ front') ++ '\n' ::
      ((tableRow columns :: columnRule.toList :: l.doc.parameters.map fun p => p.row.toList).flatMap
        (· ++ ['\n']) ++ '\n' :: (back' ++ back)) := by
    rw [hpage, hpart, parameterTable_eq]
    simp only [List.append_assoc, List.cons_append, List.nil_append]
  rw [page, List.splitOnP_append_cons _ _ hn, splitOnP_lines hn,
    ← List.nil_append ('\n' :: _), List.splitOnP_append_cons _ _ hn, List.flatMap_cons,
    List.flatMap_cons, List.flatMap_map, names, rule, blank]
  simp only [List.cons_append, List.nil_append]

end Collection

/-! ## Rows on a page -/

/-- Whatever the texts of a page are and whatever ends its lines besides newlines: a parameter whose
own texts have neither bars nor line breaks has one line of the page, in the table of its function
below the names of the columns and the rows of the parameters before it. There are six bars around
and between the names of the columns, and as many in the row with one more for each stroke of its
type. So there are six just when no choice in the type is between several types, and then the row is
cut into one cell for each column. -/
theorem reference_keeps_rows {c : Collection} {l : Listing} {k : Category}
    {before after : List Parameter} {p : Parameter} {t : TypeSpec} {breaks : Char → Bool}
    (title : String) (hl : l ∈ c.listings) (hk : l.doc.category = some k)
    (hp : l.doc.parameters = before ++ p :: after) (ht : p.type = some t)
    (hn : breaks '\n') (hb : ∀ x, breaks x → isLineEnd x) (hi : p.IsInline breaks) :
    (∃ above below, (c.reference title).toList.splitOnP breaks =
      above ++ (tableRow columns :: columnRule.toList ::
        (before.flatMap fun q => q.row.toList.splitOnP breaks)) ++ p.row.toList ::
          ((after.flatMap fun q => q.row.toList.splitOnP breaks) ++ [] :: below)) ∧
      (tableRow columns).count '|' = 6 ∧ p.row.toList.count '|' = 6 + t.strokes ∧
      (p.row.toList.count '|' = 6 ↔
        ∀ members, TypeSpec.Occurs (.oneOf members) t → members.length ≤ 1) ∧
      (p.row.toList.count '|' = 6 →
        p.row.toList.splitOn '|' = [] :: (p.cells.map cell ++ [[]])) := by
  have bars : p.row.toList.count '|' = 6 + t.strokes := p.count_row ht hi.bar_not_mem
  refine ⟨?_, ?_, bars, ?_, fun hsix => ?_⟩
  · obtain ⟨above, below, hlines⟩ := c.reference_lines hn hb title hl hk (by simp [hp])
    refine ⟨above, below, ?_⟩
    rw [hlines, hp, List.flatMap_append, List.flatMap_cons, hi.splitOnP_row ht hb]
    simp only [List.append_assoc, List.cons_append, List.nil_append]
  · rw [count_tableRow]
    simp [columns]
  · rw [bars, ← t.strokes_eq_zero_iff]
    omega
  · rw [p.row_eq] at hsix ⊢
    exact splitOn_tableRow hsix

/-- A parameter for texts or integers. -/
def subjectParameter : Parameter where
  name := .text "value"
  type := some (.oneOf [.primitive .string, .primitive .integer])
  description := .text "What to pad."

/-- A parameter that is restricted to two texts. -/
def fillParameter : Parameter where
  name := .text "fill"
  type := some (.primitive .string)
  description := .text "With what."
  required := false
  default := .string " "
  variants := [⟨.string " ", "Blanks."⟩, ⟨.string "0", "Zeros."⟩]

/-- A function that has both. -/
def padListing : Listing where
  repository := "main"
  doc := {
    identifier := "pad"
    summary := .text "Pads."
    description := .text "Pads a text."
    category := some .string
    parameters := [subjectParameter, fillParameter]
    returns := some { type := some (.primitive .string), description := .text "The text." } }

/-- A page about it. -/
def padPage : String := Collection.reference ⟨[padListing]⟩ usualTitle

theorem padListing_listed : padListing ∈ (Collection.mk [padListing]).listings :=
  List.mem_singleton.mpr rfl

theorem reference_keeps_rows_fill :
    padListing ∈ (Collection.mk [padListing]).listings ∧
      padListing.doc.category = some .string ∧
      padListing.doc.parameters = [subjectParameter] ++ fillParameter :: [] ∧
      fillParameter.type = some (.primitive .string) ∧ isLineEnd '\n' ∧
      (∀ x, isLineEnd x → isLineEnd x) ∧ fillParameter.IsInline isLineEnd ∧
      (∃ above below,
        padPage.toList.splitOnP isLineEnd = above ++ fillParameter.row.toList :: below) ∧
      fillParameter.row.toList.count '|' = 6 ∧
      fillParameter.row.toList.splitOn '|' = [] :: (fillParameter.cells.map cell ++ [[]]) := by
  have inline : fillParameter.IsInline isLineEnd := by decide +kernel
  have parameters : padListing.doc.parameters = [subjectParameter] ++ fillParameter :: [] := rfl
  obtain ⟨⟨above, below, lines⟩, -, bars, -, cut⟩ := reference_keeps_rows usualTitle
    padListing_listed (k := .string) rfl parameters (t := .primitive .string) rfl rfl (fun _ h => h)
    inline
  exact ⟨padListing_listed, rfl, rfl, rfl, rfl, fun _ h => h, inline, ⟨_, _, lines⟩, bars, cut bars⟩

/-- The row of a parameter with a choice for its type has seven bars, although no text of the
parameter has any: its table has five columns, and the row six cells. -/
theorem choice_divides_row :
    subjectParameter ∈ padListing.doc.parameters ∧ subjectParameter.IsInline isLineEnd ∧
      subjectParameter.row.toList ∈ padPage.toList.splitOnP isLineEnd ∧
      subjectParameter.row = "| `value` | `string | integer` | yes |  | What to pad. |" ∧
      subjectParameter.row.toList.count '|' = 7 := by
  let choice : TypeSpec := .oneOf [.primitive .string, .primitive .integer]
  have typed : subjectParameter.type = some choice := rfl
  have listed : subjectParameter ∈ padListing.doc.parameters := List.mem_cons_self ..
  have inline : subjectParameter.IsInline isLineEnd := by decide +kernel
  have alone := inline.splitOnP_row typed fun _ h => h
  refine ⟨listed, inline, ?_, by decide +kernel,
    subjectParameter.count_row typed inline.bar_not_mem⟩
  obtain ⟨above, below, lines⟩ := Collection.reference_lines rfl (fun _ h => h) usualTitle
    padListing_listed (k := .string) rfl (List.ne_nil_of_mem listed)
  have found : subjectParameter.row.toList ∈
      padListing.doc.parameters.flatMap fun p => p.row.toList.splitOnP isLineEnd :=
    List.mem_flatMap.mpr ⟨subjectParameter, listed, alone ▸ List.mem_singleton_self _⟩
  rw [padPage, lines]
  exact List.mem_append_right _ (List.mem_append_left _
    (List.mem_cons_of_mem _ (List.mem_cons_of_mem _ found)))

end FunctionManual
