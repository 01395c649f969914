import FunctionManual.Proofs.Store.Holding
import FunctionManual.Proofs.Store.Kinds

/-!
# Data that hold the same value

Programs see what containers hold, not where these stand in a store, so two data of two stores are
compared by their layers, all the way down. Data may hold themselves, hence a bisimulation.

* `View.Bisimilar`: things that have the same layers all the way down, and are good on the way.
* `Store.Alike`: typed data of two stores that hold the same value.
* `Alike.grow`: they still do when containers are added on either side.
* `alike_of_holds`, `alike_addArray`, `alike_addObject`: what is made in the same way of what is
  alike is alike.
-/

namespace FunctionManual

/-! ## Things with the same layers -/

theorem forall₂_comp {α β γ : Type} {R : α → β → Prop} {S : β → γ → Prop} {xs : List α}
    {ys : List β} {zs : List γ} (h : List.Forall₂ R xs ys) (h' : List.Forall₂ S ys zs) :
    List.Forall₂ (fun a c => ∃ b, R a b ∧ S b c) xs zs := by
  induction h generalizing zs with
  | nil =>
    cases h'
    exact .nil
  | cons hab _ ih =>
    cases h' with
    | cons hbc h' => exact .cons ⟨_, hab, hbc⟩ (ih h')

namespace View

variable {α β γ : Type} {R : α → β → Prop}

theorem Related.mono {S : α → β → Prop} {v : View α} {w : View β} (h : Related R v w)
    (hRS : ∀ a b, R a b → S a b) : Related S v w := by
  cases h with
  | scalar x => exact .scalar x
  | array h => exact .array (h.imp hRS)
  | object h => exact .object (h.imp fun _ _ h => ⟨h.1, hRS _ _ h.2⟩)

theorem Related.flip {v : View α} {w : View β} (h : Related R v w) :
    Related (fun b a => R a b) w v := by
  cases h with
  | scalar x => exact .scalar x
  | array h => exact .array h.flip
  | object h => exact .object (h.imp fun _ _ h => ⟨h.1.symm, h.2⟩).flip

theorem Related.trans {S : β → γ → Prop} {u : View α} {v : View β} {w : View γ}
    (h : Related R u v) (h' : Related S v w) : Related (fun a c => ∃ b, R a b ∧ S b c) u w := by
  cases h with
  | scalar x =>
    cases h'
    exact .scalar x
  | array h =>
    cases h' with
    | array h' => exact .array (forall₂_comp h h')
  | object h =>
    cases h' with
    | object h' =>
      refine .object ((forall₂_comp h h').imp ?_)
      rintro x z ⟨y, ⟨hxy, hR⟩, hyz, hS⟩
      exact ⟨hxy.trans hyz, y.2, hR, hS⟩

variable {P : α → Prop} {Q : β → Prop} {v : α → View α} {w : β → View β} {a : α} {b : β}

/-- Two things have the same layers all the way down, and what is on the way is good on its side. -/
def Bisimilar (P : α → Prop) (Q : β → Prop) (v : α → View α) (w : β → View β) (a : α) (b : β) :
    Prop :=
  ∃ R : α → β → Prop, (∀ a b, R a b → P a ∧ Q b ∧ Related R (v a) (w b)) ∧ R a b

namespace Bisimilar

theorem left (h : Bisimilar P Q v w a b) : P a := by
  obtain ⟨R, hR, hab⟩ := h
  exact (hR a b hab).1

theorem right (h : Bisimilar P Q v w a b) : Q b := by
  obtain ⟨R, hR, hab⟩ := h
  exact (hR a b hab).2.1

theorem related (h : Bisimilar P Q v w a b) : Related (Bisimilar P Q v w) (v a) (w b) := by
  obtain ⟨R, hR, hab⟩ := h
  exact (hR a b hab).2.2.mono fun _ _ h => ⟨R, hR, h⟩

/-- One layer is put around things that have the same ones. -/
theorem fold (ha : P a) (hb : Q b) (h : Related (Bisimilar P Q v w) (v a) (w b)) :
    Bisimilar P Q v w a b := by
  refine ⟨fun x y => Bisimilar P Q v w x y ∨ (x = a ∧ y = b), ?_, .inr ⟨rfl, rfl⟩⟩
  rintro x y (hxy | ⟨rfl, rfl⟩)
  · exact ⟨hxy.left, hxy.right, hxy.related.mono fun _ _ => .inl⟩
  · exact ⟨ha, hb, h.mono fun _ _ => .inl⟩

theorem symm (h : Bisimilar P Q v w a b) : Bisimilar Q P w v b a := by
  obtain ⟨R, hR, hab⟩ := h
  exact ⟨fun y x => R x y, fun y x h => ⟨(hR x y h).2.1, (hR x y h).1, (hR x y h).2.2.flip⟩, hab⟩

theorem trans {Q' : γ → Prop} {u : γ → View γ} {c : γ} (h : Bisimilar P Q v w a b)
    (h' : Bisimilar Q Q' w u b c) : Bisimilar P Q' v u a c := by
  obtain ⟨R, hR, hab⟩ := h
  obtain ⟨S, hS, hbc⟩ := h'
  refine ⟨fun x z => ∃ y, R x y ∧ S y z, ?_, b, hab, hbc⟩
  rintro x z ⟨y, hxy, hyz⟩
  exact ⟨(hR x y hxy).1, (hS y z hyz).2.1, (hR x y hxy).2.2.trans (hS y z hyz).2.2⟩

end Bisimilar

end View

/-! ## Data -/

variable {s s' s'' t t' : Store} {d d' d'' : Datum}

namespace Store

/-- Typed data, each of a store of its own, that hold the same value. -/
def Alike (s s' : Store) (d d' : Datum) : Prop :=
  View.Bisimilar (Datum.IsTyped s) (Datum.IsTyped s') s.view s'.view d d'

/-- Members with the same keys, in the same order, whose values are alike. -/
abbrev MembersAlike (s s' : Store) (ms ns : Members Datum) : Prop :=
  List.Forall₂ (fun x y => x.1 = y.1 ∧ s.Alike s' x.2 y.2) ms ns

/-- Where containers are added, a typed datum keeps its layer. -/
theorem Grows.view_eq (h : s.Grows t) (hd : d.IsTyped s) : t.view d = s.view d := by
  cases d with
  | scalar x => rfl
  | array a => rw [view, view, h.items_eq (lt_of_kindAt? hd)]
  | object a => rw [view, view, h.members_eq (lt_of_kindAt? hd)]

namespace Alike

theorem related (h : s.Alike s' d d') : View.Related (s.Alike s') (s.view d) (s'.view d') :=
  View.Bisimilar.related h

theorem symm (h : s.Alike s' d d') : s'.Alike s d' d := View.Bisimilar.symm h

theorem trans (h : s.Alike s' d d') (h' : s'.Alike s'' d' d'') : s.Alike s'' d d'' :=
  View.Bisimilar.trans h h'

/-- Containers that are added on either side do not matter. -/
theorem grow (h : s.Alike s' d d') (hs : s.Grows t) (hs' : s'.Grows t') : t.Alike t' d d' := by
  obtain ⟨R, hR, hdd⟩ := h
  refine ⟨R, fun a b hab => ?_, hdd⟩
  obtain ⟨ha, hb, hv⟩ := hR a b hab
  exact ⟨ha.mono hs.keepsKinds, hb.mono hs'.keepsKinds,
    by rwa [hs.view_eq ha, hs'.view_eq hb]⟩

/-- Data that hold the same value have the same types. -/
theorem accepts_eq (h : s.Alike s' d d') (type : TypeSpec) :
    type.accepts s.view d = type.accepts s'.view d' :=
  accepts_eq_of_related (fun _ _ h => h.related) type h

theorem scalar_eq {x : Scalar} (h : s.Alike s' (.scalar x) d') : d' = .scalar x := by
  have hr := h.related
  cases d' with
  | scalar y => cases hr; rfl
  | array _ | object _ => cases hr

/-- An array is alike to arrays only, and its items to theirs. -/
theorem items {a : Nat} (h : s.Alike s' (.array a) d') :
    ∃ b, d' = .array b ∧ List.Forall₂ (s.Alike s') (s.items a) (s'.items b) := by
  have hr := h.related
  cases d' with
  | scalar _ | object _ => cases hr
  | array b =>
    cases hr with
    | array hr => exact ⟨b, rfl, hr⟩

/-- An object is alike to objects only, and its members to theirs. -/
theorem members {a : Nat} (h : s.Alike s' (.object a) d') :
    ∃ b, d' = .object b ∧ s.MembersAlike s' (s.members a) (s'.members b) := by
  have hr := h.related
  cases d' with
  | scalar _ | array _ => cases hr
  | object b =>
    cases hr with
    | object hr => exact ⟨b, rfl, hr⟩

end Alike

/-! ## What is alike -/

/-- In a typed store, data hold the values that they hold. -/
theorem IsTyped.alike_self (hs : s.IsTyped) (hd : d.IsTyped s) : s.Alike s d d := by
  refine ⟨fun a b => a = b ∧ a.IsTyped s, ?_, rfl, hd⟩
  rintro a _ ⟨rfl, ha⟩
  refine ⟨ha, ha, ?_⟩
  cases a with
  | scalar x => exact .scalar x
  | array a => exact .array (List.forall₂_same.mpr fun x hx => ⟨rfl, hs.items a x hx⟩)
  | object a => exact .object (List.forall₂_same.mpr fun x hx => ⟨rfl, rfl, hs.members a x hx⟩)

theorem alike_scalar (s s' : Store) (x : Scalar) : s.Alike s' (.scalar x) (.scalar x) :=
  View.Bisimilar.fold trivial trivial (.scalar x)

/-- What was made from a tree has the kinds of that tree. -/
theorem Holds.isTyped {v : Value} (h : s.Holds d v) : d.IsTyped s := by
  obtain ⟨s₀, rfl, hg⟩ := h
  refine Datum.IsTyped.mono ?_ hg.keepsKinds
  cases v with
  | scalar x => trivial
  | array vs => exact kindAt?_add _ _
  | object ms => exact kindAt?_add _ _

/-- What was made from one tree is alike. -/
theorem alike_of_holds {v : Value} (h : s.Holds d v) (h' : s'.Holds d' v) : s.Alike s' d d' := by
  refine ⟨fun a b => ∃ v, s.Holds a v ∧ s'.Holds b v, ?_, v, h, h'⟩
  rintro a b ⟨w, ha, hb⟩
  exact ⟨ha.isTyped, hb.isTyped, ha.related.trans hb.related.flip⟩

/-- Arrays of items that are alike are alike. -/
theorem alike_addArray {ds ds' : List Datum} (h : List.Forall₂ (s.Alike s') ds ds') :
    (s.addArray ds).2.Alike (s'.addArray ds').2 (s.addArray ds).1 (s'.addArray ds').1 := by
  refine View.Bisimilar.fold (kindAt?_add _ _) (kindAt?_add _ _) ?_
  show View.Related _ (.array ((s.addArray ds).2.items s.cells.size))
    (.array ((s'.addArray ds').2.items s'.cells.size))
  rw [items_addArray, items_addArray]
  exact .array (h.imp fun _ _ h => h.grow (s.grows_add _) (s'.grows_add _))

/-- Objects of members that are alike are alike. -/
theorem alike_addObject {ms ns : Members Datum} (h : s.MembersAlike s' ms ns) :
    (s.addObject ms).2.Alike (s'.addObject ns).2 (s.addObject ms).1 (s'.addObject ns).1 := by
  refine View.Bisimilar.fold (kindAt?_add _ _) (kindAt?_add _ _) ?_
  show View.Related _ (.object ((s.addObject ms).2.members s.cells.size))
    (.object ((s'.addObject ns).2.members s'.cells.size))
  rw [members_addObject, members_addObject]
  exact .object (h.imp fun _ _ h => ⟨h.1, h.2.grow (s.grows_add _) (s'.grows_add _)⟩)

namespace MembersAlike

theorem insert {ms ns : Members Datum} (h : s.MembersAlike s' ms ns) (key : Key)
    (hd : s.Alike s' d d') : s.MembersAlike s' (ms.insert key d) (ns.insert key d') := by
  induction h with
  | nil => exact .cons ⟨rfl, hd⟩ .nil
  | @cons x y _ _ hxy hr ih =>
    obtain ⟨k, e⟩ := x
    obtain ⟨k', e'⟩ := y
    obtain ⟨rfl, he⟩ : k = k' ∧ s.Alike s' e e' := hxy
    simp only [Members.insert]
    split
    · exact .cons ⟨rfl, hd⟩ hr
    · exact .cons ⟨rfl, he⟩ ih

/-- Entries that are alike make members that are. -/
theorem ofList {entries entries' : Members Datum} (h : s.MembersAlike s' entries entries') :
    s.MembersAlike s' (Members.ofList entries) (Members.ofList entries') := by
  suffices ∀ done done' : Members Datum, s.MembersAlike s' done done' →
      s.MembersAlike s' (entries.foldl (fun done x => done.insert x.1 x.2) done)
        (entries'.foldl (fun done x => done.insert x.1 x.2) done') from this [] [] .nil
  induction h with
  | nil => exact fun _ _ hd => hd
  | @cons x y _ _ hxy _ ih =>
    obtain ⟨k, e⟩ := x
    obtain ⟨k', e'⟩ := y
    obtain ⟨rfl, he⟩ : k = k' ∧ s.Alike s' e e' := hxy
    exact fun _ _ hd => ih _ _ (hd.insert k he)

end MembersAlike

end Store

end FunctionManual
