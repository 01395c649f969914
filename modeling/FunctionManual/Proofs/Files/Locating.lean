import FunctionManual.Files.Basic
import FunctionManual.Proofs.Except
import Mathlib.Data.List.Basic

/-!
# Where paths lead

* `Files.content?`: the content of the regular file that a path names.
* `isFile_eq_ok`, `read_eq_ok`: what looking at a path says about it.
* `locate_child`: a name below a path leads to the name below the place of the path.
* `mem_list`: what lies below a directory is listed.
-/

namespace FunctionManual

/-! ## Paths -/

namespace Path

open FunctionManual.Text

theorem encode_append (s t : String) : Utf8.encode (s ++ t) = Utf8.encode s ++ Utf8.encode t := by
  simp [Utf8.encode, String.toList_append]

theorem text_child (p : Path) (n : String) :
    (p.child n).text = p.root ++ "/".intercalate (p.names ++ [n]) := by
  have h : (p.names ++ [n]).isEmpty = false := by simp
  simp only [text, child, h, Bool.and_false]
  rfl

/-- A path is no longer than the path of a name below it, unless it is a single point. -/
theorem length_text_le (p : Path) (n : String) : p.text = "." ∨
    (Utf8.encode p.text).length ≤ (Utf8.encode (p.child n).text).length := by
  rw [text_child]
  by_cases h : p.root.isEmpty && p.names.isEmpty
  · exact .inl (by rw [text, if_pos h])
  · refine .inr ?_
    rw [text, if_neg h]
    by_cases hn : p.names = []
    · simp [hn, encode_append]
    · rw [String.intercalate_append_of_ne_nil hn (by simp)]
      simp only [encode_append, List.length_append]
      omega

end Path

/-! ## Places of paths -/

namespace Files

variable {f : Files} {p : Path} {place q : Place} {n : String}

/-- The place from which the names of a path lead on. -/
def ground (p : Path) : Place := if p.root.isEmpty then Place.start else Place.root

theorem locate_eq_ok : f.locate p = .ok place ↔
    (∀ name ∈ p.names, '\x00' ∉ name.toList) ∧
      (Text.Utf8.encode p.text).length ≤ pathLimit ∧
      f.locateFrom (ground p) p.names = .ok place := by
  unfold locate
  split
  next h =>
    obtain ⟨name, hm, hz⟩ := List.any_eq_true.mp h
    refine iff_of_false nofun fun hp => hp.1 name hm ?_
    simpa using hz
  next h =>
    have hz : ∀ name ∈ p.names, '\x00' ∉ name.toList := by simpa using h
    split
    next hl => exact iff_of_false nofun fun hp => absurd hp.2.1 (by omega)
    next hl => exact ⟨fun hp => ⟨hz, by omega, hp⟩, fun hp => hp.2.2⟩

/-- Names lead on one after another. -/
theorem locateFrom_append (f : Files) (here : Place) (names : List String) (n : String) :
    f.locateFrom here (names ++ [n]) = f.locateFrom here names >>= fun place =>
      f.locateFrom place [n] := by
  induction names generalizing here with
  | nil => rfl
  | cons m names ih =>
    rw [List.cons_append, locateFrom, locateFrom]
    cases f.item? here with
    | none => rfl
    | some i =>
      cases i with
      | file c => rfl
      | directory =>
        simp only
        split
        · exact ih _
        · split
          · rfl
          · exact ih _

theorem locateFrom_singleton (hn : n ≠ "..") : f.locateFrom place [n] = .ok q ↔
    f.item? place = some .directory ∧ (Text.Utf8.encode n).length ≤ nameLimit ∧
      q = place ++ [n] := by
  simp only [locateFrom]
  cases f.item? place with
  | none => exact iff_of_false nofun fun h => nomatch h.1
  | some i =>
    cases i with
    | file c => exact iff_of_false nofun fun h => nomatch h.1
    | directory =>
      simp only [hn, if_false]
      split
      next hl => exact iff_of_false nofun fun h => absurd h.2.1 (by omega)
      next hl =>
        constructor
        · rintro ⟨⟩
          exact ⟨trivial, by omega, rfl⟩
        · rintro ⟨-, -, rfl⟩
          rfl

/-- A path leads to a directory at a place. -/
def DirectoryAt (f : Files) (p : Path) (place : Place) : Prop :=
  f.locate p = .ok place ∧ f.item? place = some .directory

/-- A name below a path leads to the name below the place of the path. -/
theorem locate_child (hn : n ≠ "..") (h : f.locate (p.child n) = .ok q) :
    ∃ place, f.DirectoryAt p place ∧ q = place ++ [n] := by
  obtain ⟨hz, hl, hq⟩ := locate_eq_ok.mp h
  have hq : f.locateFrom (ground p) (p.names ++ [n]) = .ok q := hq
  rw [locateFrom_append] at hq
  obtain ⟨place, hp, hq⟩ := bind_eq_ok hq
  obtain ⟨hd, -, hq⟩ := (locateFrom_singleton hn).mp hq
  refine ⟨place, ⟨locate_eq_ok.mpr ⟨fun name hm => hz name (List.mem_append_left _ hm), ?_, hp⟩,
    hd⟩, hq⟩
  rcases p.length_text_le n with h | h
  · rw [h]; decide
  · exact Nat.le_trans h hl

/-- A name below a directory can only lie at the place below that of the directory. -/
theorem DirectoryAt.locate_child (hd : f.DirectoryAt p place) (hn : n ≠ "..")
    (h : f.locate (p.child n) = .ok q) : q = place ++ [n] := by
  obtain ⟨place', hd', rfl⟩ := Files.locate_child hn h
  rw [Except.ok.inj (hd.1.symm.trans hd'.1)]

/-- Where a path leads to a directory at one place in two states, so does what is below it. -/
theorem locate_child_congr {g : Files} (hn : n ≠ "..") (hf : f.DirectoryAt p place)
    (hg : g.DirectoryAt p place) : g.locate (p.child n) = f.locate (p.child n) := by
  have step {h : Files} (hd : h.DirectoryAt p place) :
      h.locateFrom (ground p) (p.child n).names =
        if nameLimit < (Text.Utf8.encode n).length then .error .nameTooLong
        else .ok (place ++ [n]) := by
    show h.locateFrom (ground p) (p.names ++ [n]) = _
    rw [locateFrom_append, (locate_eq_ok.mp hd.1).2.2]
    simp only [bind, Except.bind, locateFrom, hd.2, hn, if_false]
  show ite _ _ (ite _ _ (g.locateFrom (ground p) (p.child n).names)) =
    ite _ _ (ite _ _ (f.locateFrom (ground p) (p.child n).names))
  rw [step hf, step hg]

/-! ## Contents -/

/-- The content of the regular file that a path names, if it names one. -/
def content? (f : Files) (p : Path) : Option (List UInt8) :=
  match f.locate p with
  | .error _ => none
  | .ok place =>
    match f.item? place with
    | some (.file content) => some content
    | _ => none

theorem content?_eq_some {c : List UInt8} :
    f.content? p = some c ↔ ∃ place, f.locate p = .ok place ∧ f.item? place = some (.file c) := by
  unfold content?
  cases f.locate p with
  | error e => simp
  | ok place =>
    simp only [Except.ok.injEq, exists_eq_left']
    split
    next hc => simp [hc]
    next hc => exact iff_of_false nofun (hc c)

/-- A file below a directory lies at the place below that of the directory. -/
theorem DirectoryAt.file {c : List UInt8} (hd : f.DirectoryAt p place) (hn : n ≠ "..")
    (h : f.content? (p.child n) = some c) :
    f.locate (p.child n) = .ok (place ++ [n]) ∧ f.item? (place ++ [n]) = some (.file c) := by
  obtain ⟨q, hl, hi⟩ := content?_eq_some.mp h
  obtain rfl := hd.locate_child hn hl
  exact ⟨hl, hi⟩

/-- A lookup of a regular file that succeeds tells whether there is a content. -/
theorem isFile_eq_ok {b : Bool} (h : f.isFile p = .ok b) : b = (f.content? p).isSome := by
  unfold isFile find? at h
  unfold content?
  cases hl : f.locate p with
  | error e =>
    rw [hl] at h
    cases e <;> cases h <;> rfl
  | ok place =>
    simp only [hl, bind, Except.bind] at h
    cases hi : f.item? place with
    | none =>
      rw [hi] at h
      cases h
      simp only [hi]
      rfl
    | some i =>
      rw [hi] at h
      cases i <;> cases h <;> simp only [hi] <;> rfl

theorem isFile_of_content {c : List UInt8} (h : f.content? p = some c) : f.isFile p = .ok true := by
  obtain ⟨place, hl, hi⟩ := content?_eq_some.mp h
  simp only [isFile, find?, hl, bind, Except.bind, hi]
  rfl

/-- A file is read just when a path names one. -/
theorem read_eq_ok {c : List UInt8} : f.read p = .ok c ↔ f.content? p = some c := by
  rw [content?_eq_some]
  unfold read
  cases f.locate p with
  | error e => simp
  | ok place =>
    simp only [Except.ok.injEq, exists_eq_left']
    split
    next hi => simp [hi]
    next hi => simp [hi]
    next hi => simp [hi]

/-- Where no directory is, there is no ground. -/
theorem isGround_eq_false (h : f.item? place ≠ some .directory) : place.isGround = false := by
  unfold item? at h
  split at h
  · exact absurd rfl h
  next hg => simpa using hg

theorem isDirectory_eq_ok {b : Bool} (h : f.isDirectory p = .ok b) :
    b = true ↔ ∃ place, f.DirectoryAt p place := by
  unfold isDirectory find? at h
  unfold DirectoryAt
  cases hl : f.locate p with
  | error e =>
    rw [hl] at h
    cases e <;> cases h <;> simp
  | ok place =>
    simp only [hl, bind, Except.bind] at h
    cases h
    simp

theorem DirectoryAt.isDirectory (h : f.DirectoryAt p place) : f.isDirectory p = .ok true := by
  simp only [Files.isDirectory, find?, h.1, bind, Except.bind, h.2]
  rfl

/-! ## Listings -/

/-- No place is listed twice: files are a table of places. -/
def Distinct (f : Files) : Prop := (f.items.map Prod.fst).Nodup

theorem children_step {q : Place} {i j : Item} :
    (match q.getLast? with
      | some name => if q.dropLast = place then some (name, i) else none
      | none => none) = some (n, j) ↔ q = place ++ [n] ∧ i = j := by
  constructor
  · intro h
    split at h
    next name hname =>
      split at h
      next hd =>
        cases h
        exact ⟨by rw [← hd, List.dropLast_append_getLast? n hname], rfl⟩
      next => cases h
    next => cases h
  · rintro ⟨rfl, rfl⟩
    simp

theorem mem_children {i : Item} : (n, i) ∈ f.children place ↔ (place ++ [n], i) ∈ f.items := by
  unfold children
  rw [List.mem_filterMap]
  constructor
  · rintro ⟨⟨q, j⟩, hm, h⟩
    obtain ⟨rfl, rfl⟩ := children_step.mp h
    exact hm
  · intro hm
    exact ⟨_, hm, children_step.mpr ⟨rfl, rfl⟩⟩

/-- A directory of a table of places lists each name once. -/
theorem nodup_list (hf : f.Distinct) (p : Path) : ((f.list p).map Prod.fst).Nodup := by
  unfold list
  split
  next place hl =>
    have hi : f.items.Pairwise fun a b => a.1 ≠ b.1 := List.pairwise_map.mp hf
    refine List.pairwise_map.mpr (List.pairwise_filterMap.mpr (hi.imp ?_))
    rintro ⟨q, i⟩ ⟨r, j⟩ hne ⟨m, i'⟩ hm ⟨n, j'⟩ hn rfl
    exact hne ((children_step.mp hm).1.trans (children_step.mp hn).1.symm)
  next => exact List.nodup_nil

/-- What lies below a directory is listed. -/
theorem mem_list (hd : f.DirectoryAt p place) (hg : (place ++ [n]).isGround = false) :
    n ∈ (f.list p).map Prod.fst ↔ (f.item? (place ++ [n])).isSome := by
  rw [list, hd.1, item?, hg]
  simp only [Bool.false_eq_true, if_false]
  constructor
  · intro h
    obtain ⟨⟨m, i⟩, hm, rfl⟩ := List.mem_map.mp h
    have hm := mem_children.mp hm
    rw [Option.isSome_iff_ne_none, Ne, List.lookup_eq_none_iff]
    intro hne
    simpa using hne _ hm
  · intro h
    obtain ⟨i, hi⟩ := Option.isSome_iff_exists.mp h
    obtain ⟨l, r, hitems, -⟩ := List.lookup_eq_some_iff.mp hi
    exact List.mem_map.mpr ⟨(n, i), mem_children.mpr (hitems ▸ by simp), rfl⟩

/-- A path that leads to the same place in two states is looked up in both or in none. -/
theorem isFile_ok_congr {g : Files} {b : Bool} (hl : g.locate p = f.locate p)
    (h : f.isFile p = .ok b) : ∃ b', g.isFile p = .ok b' := by
  unfold isFile find? at h ⊢
  rw [hl]
  cases hf : f.locate p with
  | error e =>
    rw [hf] at h
    cases e <;> exact ⟨b, h⟩
  | ok place =>
    simp only [bind, Except.bind]
    cases g.item? place with
    | none => exact ⟨_, rfl⟩
    | some i => cases i <;> exact ⟨_, rfl⟩

end Files

end FunctionManual
