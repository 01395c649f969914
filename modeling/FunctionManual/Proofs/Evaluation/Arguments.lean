import FunctionManual.Evaluation.Run
import FunctionManual.Proofs.Except
import Mathlib.Data.List.Nodup

/-!
# The arguments of a call

* `Arguments.lookup_bind`: binding an argument changes no other.
* `designation`: the name under which the argument at a place is bound.
* `Separates`: positional arguments come first, and named ones are declared and not given twice.
* `checkArguments_eq_ok`: a call that is checked separates its arguments and has the required ones.
* `Fits`: every argument has a name of its own, which is that of a parameter.
-/

namespace FunctionManual

/-! ## Binding -/

namespace Arguments

theorem lookup_bind_self (a : Arguments) (name : String) (d : Datum) :
    (a.bind name d).lookup name = some d := by
  induction a with
  | nil => simp [bind]
  | cons x a ih =>
    obtain ⟨n, old⟩ := x
    rw [bind]
    split
    next hn => rw [hn, List.lookup_cons_self]
    next hne => rw [List.lookup_cons, beq_false_of_ne (Ne.symm hne), ih]

theorem lookup_bind_of_ne (a : Arguments) {name other : String} (d : Datum)
    (h : other ≠ name) : (a.bind name d).lookup other = a.lookup other := by
  induction a with
  | nil => simp [bind, List.lookup_cons, beq_false_of_ne h]
  | cons x a ih =>
    obtain ⟨n, old⟩ := x
    rw [bind]
    split
    next hn =>
      subst hn
      simp only [List.lookup_cons, beq_false_of_ne h]
    next => simp only [List.lookup_cons, ih]

/-- Binding an argument changes no other. -/
theorem lookup_bind (a : Arguments) (name other : String) (d : Datum) :
    (a.bind name d).lookup other = if other = name then some d else a.lookup other := by
  split
  next h => rw [h, lookup_bind_self]
  next h => rw [lookup_bind_of_ne a d h]

/-- A name that is bound again keeps its place, and a new one comes behind all others. -/
theorem map_fst_bind (a : Arguments) (name : String) (d : Datum) :
    (a.bind name d).map (·.1) =
      if name ∈ a.map (·.1) then a.map (·.1) else a.map (·.1) ++ [name] := by
  induction a with
  | nil => rfl
  | cons x a ih =>
    obtain ⟨n, old⟩ := x
    rw [bind]
    split
    next hn => simp [hn]
    next hne =>
      simp only [List.map_cons, ih, List.mem_cons, Ne.symm hne, false_or]
      split <;> rfl

theorem nodup_bind {a : Arguments} (h : (a.map (·.1)).Nodup) (name : String) (d : Datum) :
    ((a.bind name d).map (·.1)).Nodup := by
  rw [map_fst_bind]
  split
  · exact h
  next hm => exact List.nodup_append.mpr ⟨h, List.nodup_singleton _, fun n hn n' hn' he =>
      hm (List.mem_singleton.mp hn' ▸ he ▸ hn)⟩

end Arguments

/-! ## Names -/

@[simp] theorem Slot.plain_text (s : String) : (Slot.text s).plain = s := rfl

theorem Slot.eq_text_iff {slot : Slot} {s : String} : slot.text? = some s ↔ slot = .text s := by
  cases slot <;> simp [Slot.text?]

theorem namesHave_iff {slots : List Slot} {name : String} :
    namesHave slots name = true ↔ Slot.text name ∈ slots := by
  simp [namesHave, Slot.eq_text_iff]

theorem FunctionDoc.exists_of_parameter? {doc : FunctionDoc} {name : String}
    (h : ¬ (doc.parameter? name).isNone) : ∃ p ∈ doc.parameters, p.name = .text name := by
  obtain ⟨p, hp⟩ := Option.ne_none_iff_exists'.mp (mt Option.isNone_iff_eq_none.mpr h)
  have hn := List.find?_some hp
  rw [decide_eq_true_eq, Slot.eq_text_iff] at hn
  exact ⟨p, List.mem_of_find?_eq_some hp, hn⟩

/-- The parameters have texts as names, and no two the same. -/
structure FunctionDoc.HasDistinctNames (doc : FunctionDoc) : Prop where
  texts : ∀ p ∈ doc.parameters, p.name = .text p.name.plain
  nodup : (doc.parameters.map (·.name.plain)).Nodup

/-- The name of the argument at a place: its own, or that of the parameter at this place. -/
def designation (doc : FunctionDoc) (place : Nat) (argument : Option String × Expr) :
    Option String :=
  argument.1 <|> (doc.parameters[place]?).map (·.name.plain)

/-! ## Checked arguments -/

/-- Arguments behind `positional` others and those named `seen`: first `front` without names, then
`named`, whose names are declared, different and not those of the parameters before. -/
structure Separates (doc : FunctionDoc) (positional : Nat) (seen : List String)
    (arguments : List (Option String × Expr)) (front : List Expr)
    (named : List (String × Expr)) : Prop where
  arguments_eq : arguments = front.map (none, ·) ++ named.map fun x => (some x.1, x.2)
  front_eq : seen ≠ [] → front = []
  inRange : front ≠ [] → positional + front.length ≤ doc.parameters.length
  declared : ∀ x ∈ named, ∃ p ∈ doc.parameters, p.name = .text x.1
  fresh : ∀ x ∈ named, Slot.text x.1 ∉ firstNames doc (positional + front.length)
  nodup : seen.Nodup → (seen ++ named.map (·.1)).Nodup

theorem checkEach_eq_ok {doc : FunctionDoc} {positional k : Nat} {seen all : List String}
    {arguments : List (Option String × Expr)}
    (h : checkEach doc positional seen arguments = .ok (k, all)) :
    ∃ front named, Separates doc positional seen arguments front named ∧
      k = positional + front.length ∧ all = seen ++ named.map (·.1) := by
  induction arguments generalizing positional seen with
  | nil =>
    cases h
    exact ⟨[], [], ⟨rfl, fun _ => rfl, nofun, nofun, nofun, by simp⟩, rfl, by simp⟩
  | cons argument rest ih =>
    obtain ⟨_ | name, e⟩ := argument
    · rw [checkEach] at h
      split at h
      · cases h
      next hseen =>
      split at h
      · cases h
      next hlt =>
      obtain ⟨front, named, hs, rfl, rfl⟩ := ih h
      have hseen : seen = [] := by simpa using hseen
      have hlen : positional + (e :: front).length = positional + 1 + front.length := by
        rw [List.length_cons]
        omega
      refine ⟨e :: front, named, ⟨?_, fun hne => absurd hseen hne, fun _ => ?_, hs.declared, ?_,
        hs.nodup⟩, hlen.symm, rfl⟩
      · rw [hs.arguments_eq]
        rfl
      · rw [hlen]
        by_cases hf : front = []
        · rw [hf, List.length_nil]
          omega
        · exact hs.inRange hf
      · rw [hlen]
        exact hs.fresh
    · rw [checkEach] at h
      split at h
      · cases h
      next hdeclared =>
      split at h
      · cases h
      next hnew =>
      obtain ⟨front, named, hs, rfl, rfl⟩ := ih h
      obtain rfl := hs.front_eq (by simp)
      rw [Bool.or_eq_true, not_or, List.contains_iff_mem, namesHave_iff] at hnew
      refine ⟨[], (name, e) :: named, ⟨?_, fun _ => rfl, nofun, ?_, ?_, fun hn => ?_⟩, rfl, ?_⟩
      · rw [hs.arguments_eq]
        rfl
      · exact List.forall_mem_cons.mpr
          ⟨FunctionDoc.exists_of_parameter? hdeclared, hs.declared⟩
      · exact List.forall_mem_cons.mpr ⟨hnew.2, hs.fresh⟩
      · have hn' : (seen ++ [name]).Nodup := by
          rw [List.nodup_append]
          exact ⟨hn, List.nodup_singleton _, fun a ha b hb hab =>
            hnew.1 (List.mem_singleton.mp hb ▸ hab ▸ ha)⟩
        simpa using hs.nodup hn'
      · simp

/-- The parameters that must be bound are among those at the places of positional arguments, or are
named. -/
theorem checkArguments_eq_ok {doc : FunctionDoc} {arguments : List (Option String × Expr)}
    (h : checkArguments doc arguments = .ok ()) :
    ∃ front named, Separates doc 0 [] arguments front named ∧
      ∀ p ∈ doc.requiredParameters, ∃ name, p.name = .text name ∧
        (name ∈ named.map (·.1) ∨ Slot.text name ∈ firstNames doc front.length) := by
  obtain ⟨⟨k, all⟩, hc, h⟩ := bind_eq_ok h
  obtain ⟨front, named, hs, rfl, rfl⟩ := checkEach_eq_ok hc
  refine ⟨front, named, hs, fun p hp => ?_⟩
  simp only [List.nil_append, Nat.zero_add] at h
  split at h
  · cases h
  next hnone =>
  have hb := List.find?_eq_none.mp hnone p hp
  cases hn : p.name with
  | other v => simp [hn, Slot.text?] at hb
  | text name =>
    simp only [hn, Slot.text?, Bool.not_eq_true, Bool.not_eq_false', Bool.or_eq_true,
      List.contains_iff_mem, namesHave_iff] at hb
    exact ⟨name, rfl, hb⟩

/-! ## Arguments that fit -/

/-- Every argument has a name, that of a parameter, and the required parameters are named. -/
structure Fits (doc : FunctionDoc) (arguments : List (Option String × Expr))
    (names : List String) : Prop where
  designated : arguments.mapIdx (designation doc) = names.map some
  declared : ∀ name ∈ names, ∃ p ∈ doc.parameters, p.name.plain = name
  required : ∀ p ∈ doc.requiredParameters, p.name.plain ∈ names
  nodup : doc.HasDistinctNames → names.Nodup

/-- Each argument that fits has a name; a positional one, that of the parameter at its place. -/
theorem Fits.isSome_designation {doc : FunctionDoc} {arguments : List (Option String × Expr)}
    {names : List String} (h : Fits doc arguments names) {i : Nat} (hi : i < arguments.length) :
    (designation doc i arguments[i]).isSome := by
  have hm : designation doc i arguments[i] ∈ arguments.mapIdx (designation doc) :=
    List.mem_mapIdx.mpr ⟨i, hi, rfl⟩
  rw [h.designated] at hm
  obtain ⟨name, -, hn⟩ := List.mem_map.mp hm
  rw [← hn]
  rfl

/-- Arguments of which the positional ones come first. -/
def grouped (front : List Expr) (named : List (String × Expr)) : List (Option String × Expr) :=
  front.map (none, ·) ++ named.map fun x => (some x.1, x.2)

/-- Positional arguments have the names of the first parameters, and named ones their own. -/
theorem mapIdx_designation {doc : FunctionDoc} {front : List Expr}
    (h : front.length ≤ doc.parameters.length) (named : List (String × Expr)) :
    (grouped front named).mapIdx (designation doc) =
      ((firstNames doc front.length).map Slot.plain ++ named.map (·.1)).map some := by
  rw [grouped, List.mapIdx_append, List.map_append]
  congr 1
  · refine List.ext_getElem (by simp [firstNames, h]) fun i hi hi' => ?_
    have hi : i < front.length := by simpa using hi
    simp [designation, firstNames, Nat.lt_of_lt_of_le hi h]
  · refine List.ext_getElem (by simp) fun i hi hi' => ?_
    simp [designation]

/-- The names of separated arguments. -/
theorem Separates.designated {doc : FunctionDoc} {arguments : List (Option String × Expr)}
    {front : List Expr} {named : List (String × Expr)}
    (h : Separates doc 0 [] arguments front named) :
    arguments.mapIdx (designation doc) =
      ((firstNames doc front.length).map Slot.plain ++ named.map (·.1)).map some := by
  have hlen : front.length ≤ doc.parameters.length := by
    by_cases hf : front = []
    · simp [hf]
    · simpa using h.inRange hf
  rw [h.arguments_eq]
  exact mapIdx_designation hlen named

/-- The arguments of a call that is checked fit. -/
theorem checkArguments_fits {doc : FunctionDoc} {arguments : List (Option String × Expr)}
    (h : checkArguments doc arguments = .ok ()) : ∃ names, Fits doc arguments names := by
  obtain ⟨front, named, hs, hr⟩ := checkArguments_eq_ok h
  refine ⟨_, hs.designated, fun name hn => ?_, fun p hp => ?_, fun hd => ?_⟩
  · rcases List.mem_append.mp hn with hn | hn
    · obtain ⟨slot, hslot, rfl⟩ := List.mem_map.mp hn
      obtain ⟨p, hp, rfl⟩ := List.mem_map.mp hslot
      exact ⟨p, List.mem_of_mem_take hp, rfl⟩
    · obtain ⟨x, hx, rfl⟩ := List.mem_map.mp hn
      obtain ⟨p, hp, hpn⟩ := hs.declared x hx
      exact ⟨p, hp, by rw [hpn, Slot.plain_text]⟩
  · obtain ⟨name, hn, hname | hname⟩ := hr p hp
    · rw [hn, Slot.plain_text]
      exact List.mem_append_right _ hname
    · rw [hn]
      exact List.mem_append_left _ (List.mem_map_of_mem hname)
  · rw [List.nodup_append]
    refine ⟨?_, by simpa using hs.nodup List.nodup_nil, ?_⟩
    · rw [firstNames, List.map_map]
      exact hd.nodup.sublist ((List.take_sublist _ _).map _)
    · -- a named argument is not at the place of a positional one
      rintro a ha b hb rfl
      obtain ⟨slot, hslot, rfl⟩ := List.mem_map.mp ha
      obtain ⟨x, hx, hxa⟩ := List.mem_map.mp hb
      obtain ⟨p, hp, rfl⟩ := List.mem_map.mp hslot
      refine hs.fresh x hx ?_
      rw [hxa, ← hd.texts p (List.mem_of_mem_take hp), Nat.zero_add]
      exact hslot

end FunctionManual
