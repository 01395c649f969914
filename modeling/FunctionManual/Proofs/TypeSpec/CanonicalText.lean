import FunctionManual.Proofs.TypeSpec.Rendering
import FunctionManual.Proofs.Value.OneLine

/-!
# Types have one text

* `TypeSpec.Occurs`: a type that stands in another one, at any depth.
* `IsProperChoice`: two types at least, all different and no choices.
* `isCanonical_iff`: a type is canonical when all choices in it are proper.
* `canonical_text`: the types that are built are the canonical ones, each is read from its text, and
  no two share a text.
* `strokes`: the strokes that the choices in a type are written with.
* `count_render`: they are the bars in its text, and nothing else in it divides a table
  (`dividedBy_render`).
* `strokes_eq_zero_iff`: there are none just when no choice in the type is between several types.
-/

namespace FunctionManual.TypeSpec

/-- A type stands in another one, at any depth. -/
inductive Occurs (s : TypeSpec) : TypeSpec → Prop
  | self : Occurs s s
  | element {t : TypeSpec} (h : Occurs s t) : Occurs s (.array (some t))
  | value {t : TypeSpec} (h : Occurs s t) : Occurs s (.object (some t))
  | member {members : List TypeSpec} {t : TypeSpec} (ht : t ∈ members) (h : Occurs s t) :
      Occurs s (.oneOf members)

/-- The members of a choice: two at least, all different and no choices. -/
structure IsProperChoice (members : List TypeSpec) : Prop where
  several : 2 ≤ members.length
  different : members.Nodup
  flat : ∀ t ∈ members, ∀ inner, t ≠ .oneOf inner

/-- What may stand in a choice is no choice. -/
theorem isMember_iff {t : TypeSpec} : IsMember t ↔ ∀ inner, t ≠ .oneOf inner := by
  constructor
  · rintro h inner rfl
    -- a list is no member of itself
    have hself : inner = [.oneOf inner] := h
    have := congrArg sizeOf hself
    simp at this
    omega
  · intro h
    cases t with
    | oneOf inner => exact absurd rfl (h inner)
    | primitive _ | array _ | object _ => rfl

theorem IsCanonical.isProperChoice {t : TypeSpec} (h : IsCanonical t) {members : List TypeSpec}
    (ho : Occurs (.oneOf members) t) : IsProperChoice members := by
  induction h with
  | primitive _ | anyArray | anyObject => cases ho
  | array _ ih =>
    cases ho with
    | element ho => exact ih ho
  | object _ ih =>
    cases ho with
    | value ho => exact ih ho
  | oneOf _ hm hn hl ih =>
    cases ho with
    | self => exact ⟨hl, hn, fun t ht => isMember_iff.mp (hm t ht)⟩
    | member ht ho => exact ih _ ht ho

/-- A type without other choices than proper ones is canonical. -/
theorem isCanonical_of_choices : (t : TypeSpec) →
    (∀ members, Occurs (.oneOf members) t → IsProperChoice members) → IsCanonical t
  | .primitive p, _ => .primitive p
  | .array none, _ => .anyArray
  | .array (some t), h =>
    .array (isCanonical_of_choices t fun members ho => h members (.element ho))
  | .object none, _ => .anyObject
  | .object (some t), h =>
    .object (isCanonical_of_choices t fun members ho => h members (.value ho))
  | .oneOf members, h =>
    have proper := h members .self
    .oneOf (fun t ht => isCanonical_of_choices t fun inner ho => h inner (.member ht ho))
      (fun t ht => isMember_iff.mpr (proper.flat t ht)) proper.different proper.several

/-- The canonical types are those in which all choices are proper. -/
theorem isCanonical_iff {t : TypeSpec} :
    IsCanonical t ↔ ∀ members, Occurs (.oneOf members) t → IsProperChoice members :=
  ⟨fun h _ => h.isProperChoice, isCanonical_of_choices t⟩

/-- Types that are read, and choices between them, are those in which all choices are proper. Such a
type is read from its text. So a text that is written for what was read is written for itself again,
and no two such types have one text. -/
theorem canonical_text :
    (∀ t, Built t ↔ IsCanonical t) ∧
      (∀ t, IsCanonical t ↔ ∀ members, Occurs (.oneOf members) t → IsProperChoice members) ∧
      (∀ t, IsCanonical t → read t.render = .ok t) ∧
      (∀ source text, (read source).map render = .ok text → (read text).map render = .ok text) ∧
      ∀ s t, IsCanonical s → IsCanonical t → s.render = t.render → s = t := by
  refine ⟨fun t => ⟨Built.canonical, IsCanonical.built⟩, fun t => isCanonical_iff,
    fun t => IsCanonical.read_render, fun source text h => ?_, fun s t hs ht h => ?_⟩
  · cases hr : read source with
    | error e => rw [hr] at h; cases h
    | ok t =>
      rw [hr] at h
      cases h
      show (read t.render).map render = .ok t.render
      rw [(read_canonical hr).read_render]
      rfl
  · have hread := hs.read_render
    rw [h, ht.read_render] at hread
    exact (Except.ok.inj hread).symm

/-- Null, or an array of texts and floats. -/
def listOrNull : TypeSpec :=
  .oneOf [.primitive .null, .array (some (.oneOf [.primitive .string, .primitive .float]))]

/-- Its text has blanks around its strokes, and each member once. -/
theorem canonical_text_listOrNull :
    read "null|array<string|float|string>" = .ok listOrNull ∧ IsCanonical listOrNull ∧
      listOrNull.render = "null | array<string | float>" ∧
      read listOrNull.render = .ok listOrNull ∧
      (read listOrNull.render).map render = .ok listOrNull.render := by
  have hread : read "null|array<string|float|string>" = .ok listOrNull := by decide +kernel
  obtain ⟨built, -, reads, fixed, -⟩ := canonical_text
  have canonical := (built listOrNull).mp (.read hread)
  refine ⟨hread, canonical, by decide +kernel, reads _ canonical,
    fixed "null|array<string|float|string>" _ ?_⟩
  rw [hread]
  rfl

/-! ## Strokes -/

open FunctionManual.Text

mutual

/-- The strokes in the text of a type: one between every two neighbours in a choice. -/
def strokes : TypeSpec → Nat
  | .primitive _ | .array none | .object none => 0
  | .array (some t) | .object (some t) => strokes t
  | .oneOf members => strokesOfAll members + (members.length - 1)

/-- The strokes in the texts of types. -/
def strokesOfAll : List TypeSpec → Nat
  | [] => 0
  | t :: rest => strokes t + strokesOfAll rest

end

theorem strokesOfAll_eq_sum (members : List TypeSpec) :
    strokesOfAll members = (members.map strokes).sum := by
  induction members with
  | nil => rfl
  | cons t members ih => rw [strokesOfAll, ih, List.map_cons, List.sum_cons]

theorem renderAll_eq_map (members : List TypeSpec) : renderAll members = members.map render := by
  induction members with
  | nil => rfl
  | cons t members ih => rw [renderAll, ih, List.map_cons]

/-! ## Bars in texts -/

/-- The text of a container has the bars of that of its parts. -/
theorem count_parts {n : String} (hn : '|' ∉ n.toList) (s : String) :
    (n ++ s ++ ">").toList.count '|' = s.toList.count '|' := by
  simp [String.toList_append, List.count_append, List.count_eq_zero_of_not_mem hn]

/-- And its dividers. -/
theorem dividedBy_parts {n : String} (hn : DividedBy ['|'] n.toList) {s : String}
    (h : DividedBy ['|'] s.toList) : DividedBy ['|'] (n ++ s ++ ">").toList := by
  simp only [String.toList_append, dividedBy_append]
  exact ⟨⟨hn, h⟩, by decide +kernel⟩

/-- The bars in the text of a type are its strokes. -/
theorem count_render : (t : TypeSpec) → t.render.toList.count '|' = t.strokes
  | .primitive p => by cases p <;> decide +kernel
  | .array none | .object none => by decide +kernel
  | .array (some t) => (count_parts (n := "array<") (by decide +kernel) _).trans (count_render t)
  | .object (some t) => (count_parts (n := "object<") (by decide +kernel) _).trans (count_render t)
  | .oneOf members => by
    have stroke : " | ".toList.count '|' = 1 := by decide +kernel
    have counts : members.map (fun t => t.render.toList.count '|') = members.map strokes :=
      List.map_congr_left fun t _ => count_render t
    rw [render, renderAll_eq_map, String.toList_intercalate, count_intercalate, stroke,
      Nat.mul_one, strokes, strokesOfAll_eq_sum, ← counts, List.length_map, List.length_map,
      List.map_map, List.map_map]
    rfl

/-- Nothing but its bars divides the text of a type. -/
theorem dividedBy_render : (t : TypeSpec) → DividedBy ['|'] t.render.toList
  | .primitive p => by cases p <;> decide +kernel
  | .array none | .object none => by decide +kernel
  | .array (some t) => dividedBy_parts (n := "array<") (by decide +kernel) (dividedBy_render t)
  | .object (some t) => dividedBy_parts (n := "object<") (by decide +kernel) (dividedBy_render t)
  | .oneOf members => by
    have stroke : DividedBy ['|'] " | ".toList := by decide +kernel
    rw [render, renderAll_eq_map, String.toList_intercalate]
    refine dividedBy_intercalate stroke fun l hl => ?_
    simp only [List.map_map, List.mem_map] at hl
    obtain ⟨t, ht, rfl⟩ := hl
    exact dividedBy_render t

/-! ## Types without strokes -/

/-- The choices in a container are those in the type of its parts. -/
theorem occurs_array_iff {members : List TypeSpec} {t : TypeSpec} :
    Occurs (.oneOf members) (.array (some t)) ↔ Occurs (.oneOf members) t := by
  constructor
  · rintro ⟨⟩
    assumption
  · exact .element

theorem occurs_object_iff {members : List TypeSpec} {t : TypeSpec} :
    Occurs (.oneOf members) (.object (some t)) ↔ Occurs (.oneOf members) t := by
  constructor
  · rintro ⟨⟩
    assumption
  · exact .value

/-- A type is written without strokes just when no choice in it is between several types. -/
theorem strokes_eq_zero_iff : (t : TypeSpec) →
    (t.strokes = 0 ↔ ∀ members, Occurs (.oneOf members) t → members.length ≤ 1)
  | .primitive _ | .array none | .object none => iff_of_true rfl nofun
  | .array (some t) => (strokes_eq_zero_iff t).trans
    (forall_congr' fun _ => imp_congr_left occurs_array_iff.symm)
  | .object (some t) => (strokes_eq_zero_iff t).trans
    (forall_congr' fun _ => imp_congr_left occurs_object_iff.symm)
  | .oneOf members => by
    have inner (t : TypeSpec) (_ : t ∈ members) :
        t.strokes = 0 ↔ ∀ ms, Occurs (.oneOf ms) t → ms.length ≤ 1 := strokes_eq_zero_iff t
    rw [strokes, strokesOfAll_eq_sum, Nat.add_eq_zero_iff, List.sum_eq_zero_iff_forall_eq_nat,
      List.forall_mem_map]
    constructor
    · rintro ⟨hsum, hlen⟩ ms ho
      cases ho with
      | self => omega
      | member ht ho => exact (inner _ ht).mp (hsum _ ht) ms ho
    · intro h
      have := h members .self
      exact ⟨fun t ht => (inner t ht).mpr fun ms ho => h ms (.member ht ho), by omega⟩

end FunctionManual.TypeSpec
