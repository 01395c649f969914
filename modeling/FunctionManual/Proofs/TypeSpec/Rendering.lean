import FunctionManual.Proofs.TypeSpec.Canonical

/-!
# Types are read as they are written

* `TypeSpec.spelled`: the tokens of the text of a type.
* `IsCanonical.writes`: they are the tokens that the text is made of.
* `IsCanonical.derives`: and they derive the type.
* `IsCanonical.read_render`: so the text of a canonical type is read as that type.
-/

namespace FunctionManual.TypeSpec

open FunctionManual.Text

mutual

/-- The tokens of the text of a type. -/
def spelled : TypeSpec → List String
  | .primitive p => [p.name]
  | .array none => ["array"]
  | .array (some t) => "array" :: "<" :: (spelled t ++ [">"])
  | .object none => ["object"]
  | .object (some t) => "object" :: "<" :: (spelled t ++ [">"])
  | .oneOf members => spelledAll members

/-- The tokens of types with strokes between them. -/
def spelledAll : List TypeSpec → List String
  | [] => []
  | [t] => spelled t
  | t :: s :: rest => spelled t ++ "|" :: spelledAll (s :: rest)

end

/-! ## Texts -/

/-- Blanks around a stroke. -/
theorem Writes.stroke {s u : List Char} {ts us : List String} (hs : Writes s ts)
    (hu : Writes u us) : Writes (s ++ (' ' :: '|' :: ' ' :: u)) (ts ++ "|" :: us) := by
  have hblank : AreBlanks [' '] := List.forall_mem_singleton.mpr rfl
  have hstroke : Writes (' ' :: '|' :: ' ' :: u) ("|" :: us) :=
    ((hu.blanks hblank).token "|").blanks hblank
  exact hs.append hstroke

/-- A container with the type of its parts. -/
theorem Writes.parts {s : List Char} {ts : List String} (name : String) (h : Writes s ts) :
    Writes (name.toList ++ ('<' :: (s ++ ['>']))) (name :: "<" :: (ts ++ [">"])) :=
  ((h.append (writes_token ">")).token "<").token name

theorem writes_renderAll {members : List TypeSpec}
    (h : ∀ t ∈ members, Writes t.render.toList t.spelled) :
    Writes (" | ".intercalate (renderAll members)).toList (spelledAll members) := by
  induction members with
  | nil => simpa [renderAll, spelledAll] using Writes.nil areBlanks_nil
  | cons t members ih =>
    obtain ⟨ht, hs⟩ := List.forall_mem_cons.mp h
    cases members with
    | nil => simpa [renderAll, spelledAll] using ht
    | cons s members =>
      have hjoin := ht.stroke (ih hs)
      simp only [renderAll, String.intercalate_cons_cons, String.toList_append, List.append_assoc,
        spelledAll]
      exact hjoin

/-- The text of a canonical type is made of its tokens. -/
theorem IsCanonical.writes {t : TypeSpec} (h : IsCanonical t) :
    Writes t.render.toList t.spelled := by
  induction h with
  | primitive p => exact writes_token p.name
  | anyArray => exact writes_token "array"
  | anyObject => exact writes_token "object"
  | array _ ih => simpa [render, spelled] using ih.parts "array"
  | object _ ih => simpa [render, spelled] using ih.parts "object"
  | oneOf _ _ _ _ ih => exact writes_renderAll ih

/-! ## Grammar -/

/-- The tokens of a type that is no choice derive it as the only member of one. -/
theorem Derives.derivesType {ts : List String} {t : TypeSpec} (h : Derives ts (.member t))
    (hm : IsMember t) : DerivesType ts t :=
  ⟨[t], .last h, by rw [← union_eq_choice, union_singleton hm]⟩

theorem derives_spelledAll {members : List TypeSpec} (hne : members ≠ [])
    (h : ∀ t ∈ members, Derives t.spelled (.member t)) :
    Derives (spelledAll members) (.members members) := by
  induction members with
  | nil => exact absurd rfl hne
  | cons t members ih =>
    obtain ⟨ht, hs⟩ := List.forall_mem_cons.mp h
    cases members with
    | nil => exact .last ht
    | cons s members => exact .more ht (ih (List.cons_ne_nil _ _) hs)

/-- The tokens of a canonical type derive it, alone and as a member of a choice. -/
theorem IsCanonical.derives {t : TypeSpec} (h : IsCanonical t) :
    (IsMember t → Derives t.spelled (.member t)) ∧ DerivesType t.spelled t := by
  have member {t : TypeSpec} (h : Derives t.spelled (.member t)) (hm : IsMember t) :
      (IsMember t → Derives t.spelled (.member t)) ∧ DerivesType t.spelled t :=
    ⟨fun _ => h, h.derivesType hm⟩
  induction h with
  | primitive p => exact member (.primitive p) rfl
  | anyArray => exact member .anyArray rfl
  | anyObject => exact member .anyObject rfl
  | array _ ih =>
    obtain ⟨types, hd, rfl⟩ := ih.2
    exact member (.array hd) rfl
  | object _ ih =>
    obtain ⟨types, hd, rfl⟩ := ih.2
    exact member (.object hd) rfl
  | @oneOf members _ hm hn hl ih =>
    have hne : members ≠ [] := List.ne_nil_of_length_pos (by omega)
    refine ⟨fun hmem => ?_, members,
      derives_spelledAll hne fun t ht => (ih t ht).1 (hm t ht), ?_⟩
    · -- a choice is no member of itself
      have h : members = [.oneOf members] := hmem
      rw [h] at hl
      simp at hl
    · rw [← union_eq_choice, union_eq_oneOf hm hn hl]

/-- The text of a canonical type is read as that type. -/
theorem IsCanonical.read_render {t : TypeSpec} (h : IsCanonical t) : read t.render = .ok t :=
  read_eq_ok_iff.mpr ⟨t.spelled, h.writes, h.derives.2⟩

/-- Every canonical type is built: it is read from its text. -/
theorem IsCanonical.built {t : TypeSpec} (h : IsCanonical t) : Built t := .read h.read_render

end FunctionManual.TypeSpec
