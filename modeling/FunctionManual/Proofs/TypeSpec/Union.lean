import FunctionManual.Proofs.TypeSpec.Rendering

/-!
# Laws of unions

* `accepts_union_iff`: a union has the values of its types.
* `union_nested`, `union_grouped`, `union_repeated`: how types are grouped, nested and repeated
  does not change their union.
* `accepts_union_perm`: nor does their order, as far as values are concerned.
* `read_stroke`: a stroke between two texts of types makes a text of their union.
* `union_laws`: all of these.
-/

namespace FunctionManual.TypeSpec

/-! ## Values -/

section Values

variable {α : Type} {view : α → View α} {v : α} {t : TypeSpec} {types types' : List TypeSpec}

theorem acceptsAny_iff : acceptsAny view types v ↔ ∃ t ∈ types, t.accepts view v := by
  induction types with
  | nil => simp [acceptsAny]
  | cons t types ih => simp [acceptsAny, ih]

/-- A type has the values of its alternatives. -/
theorem accepts_iff_alternatives :
    t.accepts view v ↔ ∃ s ∈ t.alternatives, s.accepts view v := by
  cases t with
  | oneOf members => rw [accepts, acceptsAny_iff, alternatives]
  | primitive _ | array _ | object _ => simp [alternatives]

theorem mem_addNew {given : List TypeSpec} : t ∈ addNew types given ↔ t ∈ types ∨ t ∈ given := by
  by_cases ht : t ∈ types <;> simp [addNew_eq, List.removeAll, ht]

/-- A union has the values of its types. -/
theorem accepts_union_iff : (union types).accepts view v ↔ ∃ t ∈ types, t.accepts view v := by
  have hmembers : (union types).accepts view v ↔
      ∃ s ∈ addNew [] (types.flatMap alternatives), s.accepts view v := by
    unfold union
    split
    next s hs => simp [hs]
    next => rw [accepts, acceptsAny_iff]
  rw [hmembers]
  constructor
  · rintro ⟨s, hs, hv⟩
    obtain ⟨t, ht, hst⟩ := List.mem_flatMap.mp ((mem_addNew.mp hs).resolve_left List.not_mem_nil)
    exact ⟨t, ht, accepts_iff_alternatives.mpr ⟨s, hst, hv⟩⟩
  · rintro ⟨t, ht, hv⟩
    obtain ⟨s, hs, hv⟩ := accepts_iff_alternatives.mp hv
    exact ⟨s, mem_addNew.mpr (.inr (List.mem_flatMap.mpr ⟨t, ht, hs⟩)), hv⟩

/-- Types in another order have a union with the same values. -/
theorem accepts_union_perm (h : types.Perm types') :
    (union types).accepts view v = (union types').accepts view v := by
  rw [Bool.eq_iff_iff, accepts_union_iff, accepts_union_iff]
  exact exists_congr fun t => and_congr_left' h.mem_iff

end Values

/-! ## Alternatives -/

section Alternatives

variable {t : TypeSpec} {types before inner after : List TypeSpec} {groups : List (List TypeSpec)}

theorem addNew_append (types given later : List TypeSpec) :
    addNew types (given ++ later) = addNew (addNew types given) later := by
  induction given generalizing types with
  | nil => rfl
  | cons t given ih => rw [List.cons_append, addNew, ih, addNew]

/-- What is there already is not added again. -/
theorem addNew_of_subset {given : List TypeSpec} (h : given ⊆ types) :
    addNew types given = types := by
  induction given with
  | nil => rfl
  | cons t given ih =>
    rw [List.cons_subset] at h
    rw [addNew, if_pos h.1, ih h.2]

/-- Adding what was gathered elsewhere is going on gathering. -/
theorem addNew_addNew (types first given : List TypeSpec) :
    addNew types (addNew first given) = addNew (addNew types first) given := by
  induction given generalizing first with
  | nil => rfl
  | cons t given ih =>
    rw [addNew, addNew, ih]
    split
    next ht => rw [if_pos (mem_addNew.mpr (.inr ht))]
    next => rw [addNew_append]; rfl

/-- The alternatives of a union are those of its types, each once. -/
theorem alternatives_union (h : ∀ t ∈ types, IsCanonical t) :
    (union types).alternatives = addNew [] (types.flatMap alternatives) := by
  unfold union
  split
  next s hs =>
    have hmem : s ∈ addNew [] (types.flatMap alternatives) := by simp [hs]
    obtain ⟨t, ht, hst⟩ := List.mem_flatMap.mp ((mem_addNew.mp hmem).resolve_left List.not_mem_nil)
    rw [hs]
    exact ((h t ht).alternatives.2 s hst).2
  next => rfl

/-- Unions are equal when they gather the same alternatives. -/
theorem union_congr {types' : List TypeSpec}
    (h : addNew [] (types.flatMap alternatives) = addNew [] (types'.flatMap alternatives)) :
    union types = union types' := by
  rw [union, union, h]

/-! ## Grouping, nesting and repetition -/

/-- A union among types may be replaced by its own types. -/
theorem union_nested (before after : List TypeSpec) (h : ∀ t ∈ inner, IsCanonical t) :
    union (before ++ union inner :: after) = union (before ++ (inner ++ after)) := by
  refine union_congr ?_
  simp only [List.flatMap_append, List.flatMap_cons, addNew_append, alternatives_union h,
    addNew_addNew]
  rfl

/-- The union of unions is the union of all their types. -/
theorem union_grouped (h : ∀ group ∈ groups, ∀ t ∈ group, IsCanonical t) :
    union (groups.map union) = union groups.flatten := by
  suffices ∀ before, union (before ++ groups.map union) = union (before ++ groups.flatten) from
    this []
  induction groups with
  | nil => exact fun _ => rfl
  | cons group groups ih =>
    obtain ⟨hgroup, hgroups⟩ := List.forall_mem_cons.mp h
    intro before
    rw [List.map_cons, List.flatten_cons, union_nested before _ hgroup, ← List.append_assoc,
      ih hgroups, List.append_assoc]

/-- A type that stands before needs no second place. -/
theorem union_repeated (after : List TypeSpec) (h : t ∈ before) :
    union (before ++ t :: after) = union (before ++ after) := by
  refine union_congr ?_
  have hsub : t.alternatives ⊆ addNew [] (before.flatMap alternatives) := fun s hs =>
    mem_addNew.mpr (.inr (List.mem_flatMap.mpr ⟨t, h, hs⟩))
  simp only [List.flatMap_append, List.flatMap_cons, addNew_append, addNew_of_subset hsub]

/-- A canonical type is the union of itself. -/
theorem IsCanonical.union_self (h : IsCanonical t) : union [t] = t := by
  cases h with
  | @oneOf members hc hm hn hl =>
    have hsame := union_eq_oneOf hm hn hl
    calc union [.oneOf members] = union [union members] := by rw [hsame]
      _ = union members := by simpa using union_nested [] [] hc
      _ = .oneOf members := hsame
  | primitive _ | anyArray | array _ | anyObject | object _ => exact union_singleton rfl

end Alternatives

/-! ## Texts -/

/-- The members of two texts with a stroke between them. -/
theorem Derives.join {ts us : List String} {types types' : List TypeSpec}
    (h : Derives ts (.members types)) (h' : Derives us (.members types')) :
    Derives (ts ++ "|" :: us) (.members (types ++ types')) := by
  generalize hp : Phrase.members types = p at h
  induction h generalizing types with
  | primitive _ | anyArray | array _ _ | anyObject | object _ _ => cases hp
  | last h _ =>
    cases hp
    exact .more h h'
  | more h hs _ ih =>
    cases hp
    rw [List.append_assoc]
    exact .more h (ih rfl)

/-- A stroke between two texts of types makes a text of their union. -/
theorem read_stroke {a b : String} {s t : TypeSpec} (ha : read a = .ok s) (hb : read b = .ok t) :
    read (a ++ "|" ++ b) = .ok (union [s, t]) := by
  obtain ⟨ts, hw, types, hd, rfl⟩ := read_eq_ok_iff.mp ha
  obtain ⟨us, hw', types', hd', rfl⟩ := read_eq_ok_iff.mp hb
  obtain ⟨-, hc⟩ : types ≠ [] ∧ ∀ t ∈ types, IsCanonical t := hd.isCanonical
  obtain ⟨-, hc'⟩ : types' ≠ [] ∧ ∀ t ∈ types', IsCanonical t := hd'.isCanonical
  have hwrites : Writes (a ++ "|" ++ b).toList (ts ++ "|" :: us) := by
    rw [String.toList_append, String.toList_append, List.append_assoc]
    exact hw.append (hw'.token "|")
  have hmeans : union [choice types, choice types'] = choice (types ++ types') := by
    have hgroups : union ([types, types'].map union) = union [types, types'].flatten :=
      union_grouped (by simpa using ⟨hc, hc'⟩)
    simpa [union_eq_choice] using hgroups
  exact read_eq_ok_iff.mpr ⟨_, hwrites, _, hd.join hd', hmeans⟩

/-- A union has the values of its types. How canonical types are grouped, nested and repeated does
not change their union, and their order does not change its values. A stroke between the texts of
two types makes a text of their union. -/
theorem union_laws :
    (∀ (α : Type) (view : α → View α) (types : List TypeSpec) (v : α),
      (union types).accepts view v ↔ ∃ t ∈ types, t.accepts view v) ∧
    (∀ before inner after : List TypeSpec, (∀ t ∈ inner, IsCanonical t) →
      union (before ++ union inner :: after) = union (before ++ (inner ++ after))) ∧
    (∀ groups : List (List TypeSpec), (∀ group ∈ groups, ∀ t ∈ group, IsCanonical t) →
      union (groups.map union) = union groups.flatten) ∧
    (∀ (before : List TypeSpec) (t : TypeSpec) (after : List TypeSpec), t ∈ before →
      union (before ++ t :: after) = union (before ++ after)) ∧
    (∀ t, IsCanonical t → union [t] = t ∧ union [t, t] = t) ∧
    (∀ types types' : List TypeSpec, types.Perm types' →
      ∀ (α : Type) (view : α → View α) (v : α),
        (union types).accepts view v = (union types').accepts view v) ∧
    ∀ (a b : String) (s t : TypeSpec), read a = .ok s → read b = .ok t →
      read (a ++ "|" ++ b) = .ok (union [s, t]) := by
  refine ⟨fun _ _ _ _ => accepts_union_iff, fun before _ after => union_nested before after,
    fun _ => union_grouped, fun _ _ after => union_repeated after, fun t h => ⟨h.union_self, ?_⟩,
    fun _ _ h _ _ _ => accepts_union_perm h, fun _ _ _ _ => read_stroke⟩
  have hone : union ([t] ++ t :: []) = union ([t] ++ []) :=
    union_repeated [] (List.mem_singleton_self t)
  exact hone.trans h.union_self

/-- Integers and floats. -/
def number : TypeSpec := .oneOf [.primitive .integer, .primitive .float]

/-- A number among other types is opened, and an integer that is repeated is dropped. -/
theorem union_laws_number :
    union [.primitive .null, union [.primitive .integer, .primitive .float]] =
        union [.primitive .null, .primitive .integer, .primitive .float] ∧
      union [union [.primitive .null, .primitive .integer], union [.primitive .float]] =
        union [.primitive .null, .primitive .integer, .primitive .float] ∧
      union [.primitive .integer, .primitive .integer, .primitive .float] =
        union [.primitive .integer, .primitive .float] ∧
      union [number, number] = number ∧
      (union [number, .primitive .null]).admits .null =
        (union [.primitive .null, number]).admits .null ∧
      read ("null" ++ "|" ++ "integer | float") = .ok (union [.primitive .null, number]) := by
  obtain ⟨-, nested, grouped, repeated, self, perm, stroke⟩ := union_laws
  have hnull : IsCanonical (.primitive .null) := .primitive _
  have hinteger : IsCanonical (.primitive .integer) := .primitive _
  have hfloat : IsCanonical (.primitive .float) := .primitive _
  have hread : read "integer | float" = .ok number := by decide +kernel
  refine ⟨nested [.primitive .null] [.primitive .integer, .primitive .float] []
      (by simpa using ⟨hinteger, hfloat⟩),
    grouped [[.primitive .null, .primitive .integer], [.primitive .float]]
      (by simpa using ⟨⟨hnull, hinteger⟩, hfloat⟩),
    repeated [.primitive .integer] _ [.primitive .float] (List.mem_singleton_self _),
    (self number (read_canonical hread)).2, perm _ _ (.swap _ _ _) _ _ _,
    stroke _ _ _ _ (by decide +kernel) hread⟩

end FunctionManual.TypeSpec
