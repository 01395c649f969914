import FunctionManual.Proofs.Artifact.Refusal
import FunctionManual.Proofs.Collection.Loading
import FunctionManual.Proofs.Lookup

/-!
# Collections lose and double nothing

* `Collection.Lists`: a collection has the functions that the manifests of its sources list, in
  order, each from its artifact.
* `Collection.IsIndexed`: its keys are distinct and give back its docs.
* `Collection.IsGrouped`: its groups by category are its docs, each in the group of its category.
* `load_keeps_everything`: every collection that is loaded is of this kind.
-/

namespace FunctionManual

open FunctionManual.Artifact

/-! ## What is listed -/

/-- No repository has two roots among sources that are set one after another. -/
theorem Sources.nodup_ofList (entries : List (String × Path)) :
    ((ofList entries).map Prod.fst).Nodup := by
  induction entries using List.reverseRecOn with
  | nil => exact List.nodup_nil
  | append_singleton entries e ih =>
    rw [ofList, List.foldl_append]
    exact Table.nodup_alter _ ih

/-- The manifest that lies below the root of a source and is that of its repository. -/
def Manifest.IsOf (f : Files) (source : String × Path) (m : Manifest) : Prop :=
  ∃ content, f.content? (manifestPath source.2) = some content ∧
    Manifest.read (.bytes content) (some (manifestPath source.2)) = .ok m ∧ m.repository = source.1

namespace Collection

/-- The docs of a collection are those that the manifests of its sources list: repository by
repository in the order of the sources, function by function in that of the manifest, each loaded
from its artifact. -/
structure Lists (f : Files) (sources : Sources) (c : Collection) : Prop where
  manifests : ∃ ms : List Manifest, List.Forall₂ (Manifest.IsOf f) sources ms ∧
    c.keys = ms.flatMap fun m => m.functions.map fun i => (m.repository, i)
  artifacts : ∀ l ∈ c.listings, ∃ root, (l.repository, root) ∈ sources ∧
    loadFunction f l.repository root l.doc.identifier = .ok l

/-- No key stands twice, and the doc of a key is the one that has it. -/
structure IsIndexed (c : Collection) : Prop where
  distinct : c.keys.Nodup
  get : ∀ repository identifier l, c.find? repository identifier = some l ↔
    l ∈ c.listings ∧ l.key = (repository, identifier)
  has : ∀ repository identifier,
    c.has repository identifier ↔ (repository, identifier) ∈ c.keys
  size : c.size = c.keys.length ∧ c.size = c.index.length

/-- The groups of a collection are its docs: they are there for the categories that have docs, in
the order of categories, and each doc is in the group of its category and in no other. -/
structure IsGrouped (c : Collection) : Prop where
  inOrder : (c.byCategory.map Prod.fst).Sublist Category.all
  group : ∀ g ∈ c.byCategory, g.2 ≠ [] ∧
    g.2 = c.listings.filter fun l => l.doc.category == some g.1
  own : ∀ l ∈ c.listings, ∃ g ∈ c.byCategory, l ∈ g.2 ∧ ∀ h ∈ c.byCategory, l ∈ h.2 → h = g
  partition : (c.byCategory.flatMap Prod.snd).Perm c.listings

variable {f : Files} {sources : Sources} {c : Collection}

theorem load_eq_ok : load f sources = .ok c ↔ ∃ parts,
    List.Forall₂ (fun s ls => loadRepository f s.1 s.2 = .ok ls) sources parts ∧
      c = ⟨parts.flatten⟩ := by
  constructor
  · intro h
    obtain ⟨parts, hp, h⟩ := bind_eq_ok h
    cases h
    exact ⟨parts, mapM_eq_ok.mp hp, rfl⟩
  · rintro ⟨parts, hp, rfl⟩
    rw [load, mapM_eq_ok.mpr hp]
    rfl

/-- The doc of a function names the function, and is complete. -/
theorem loadFunction_spec {repository identifier : String} {root : Path} {l : Listing}
    (h : loadFunction f repository root identifier = .ok l) :
    l.key = (repository, identifier) ∧ l.doc.isComplete := by
  obtain ⟨content, d, -, hd, rfl, rfl⟩ := loadFunction_eq_ok.mp h
  exact ⟨rfl, (FunctionDoc.ofArtifact_spec hd).1⟩

theorem keys_of_loadFunction {repository : String} {root : Path} {identifiers : List String}
    {ls : List Listing}
    (h : List.Forall₂ (fun i l => loadFunction f repository root i = .ok l) identifiers ls) :
    ls.map Listing.key = identifiers.map fun i => (repository, i) := by
  rw [← List.forall₂_eq_eq_eq, List.forall₂_map_left_iff, List.forall₂_map_right_iff]
  exact h.flip.imp fun _ _ hl => (loadFunction_spec hl).1

/-- The docs of a repository are those that its manifest lists. -/
theorem loadRepository_spec {s : String × Path} {ls : List Listing}
    (h : loadRepository f s.1 s.2 = .ok ls) :
    (∃ m, Manifest.IsOf f s m ∧ ls.map Listing.key = m.functions.map fun i => (m.repository, i)) ∧
      ∀ l ∈ ls, l.repository = s.1 ∧ loadFunction f s.1 s.2 l.doc.identifier = .ok l := by
  obtain ⟨content, m, hc, hm, hr, hl⟩ := loadRepository_eq_ok.mp h
  refine ⟨⟨m, ⟨content, hc, hm, hr⟩, hr ▸ keys_of_loadFunction hl⟩, fun l hmem => ?_⟩
  obtain ⟨i, -, hi⟩ := exists_of_mem_of_forall₂ hl l hmem
  obtain ⟨hr, hid⟩ := Prod.mk.inj (loadFunction_spec hi).1
  exact ⟨hr, hid ▸ hi⟩

theorem keys_flatten {parts : List (List Listing)} {ms : List Manifest}
    (h : List.Forall₂ (fun m ls => ls.map Listing.key =
      m.functions.map fun i => (m.repository, i)) ms parts) :
    parts.flatten.map Listing.key =
      ms.flatMap fun m => m.functions.map fun i => (m.repository, i) := by
  induction h with
  | nil => rfl
  | cons hm _ ih => rw [List.flatten_cons, List.map_append, List.flatMap_cons, hm, ih]

theorem lists_of_load (h : load f sources = .ok c) : c.Lists f sources := by
  obtain ⟨parts, hparts, rfl⟩ := load_eq_ok.mp h
  obtain ⟨ms, hms, hkeys⟩ :=
    exists_between_of_forall₂ hparts fun _ _ hl => (loadRepository_spec hl).1
  refine ⟨⟨ms, hms, keys_flatten hkeys⟩, fun l hl => ?_⟩
  obtain ⟨ls, hls, hl⟩ := List.mem_flatten.mp hl
  obtain ⟨s, hs, hload⟩ := exists_of_mem_of_forall₂ hparts ls hls
  obtain ⟨hr, hl⟩ := (loadRepository_spec hload).2 l hl
  exact ⟨s.2, hr ▸ hs, hr ▸ hl⟩

/-! ## Keys -/

/-- Repositories that are all different, with functions that are all different, have no key
twice. -/
theorem nodup_keys_of_manifests {ms : List Manifest} (hr : (ms.map (·.repository)).Nodup)
    (hf : ∀ m ∈ ms, m.functions.Nodup) :
    (ms.flatMap fun m => m.functions.map fun i => (m.repository, i)).Nodup := by
  refine List.nodup_flatMap.mpr ⟨fun m hm => ?_, ?_⟩
  · exact (hf m hm).map fun i j hij => (Prod.mk.inj hij).2
  · refine (List.pairwise_map.mp hr).imp fun hne => ?_
    intro k hk hk'
    obtain ⟨i, -, rfl⟩ := List.mem_map.mp hk
    obtain ⟨j, -, hj⟩ := List.mem_map.mp hk'
    exact hne (Prod.mk.inj hj).1.symm

theorem nodup_keys (hn : (sources.map Prod.fst).Nodup) (h : c.Lists f sources) : c.keys.Nodup := by
  obtain ⟨ms, hms, hkeys⟩ := h.manifests
  have repositories : ms.map (·.repository) = sources.map Prod.fst := by
    rw [← List.forall₂_eq_eq_eq, List.forall₂_map_left_iff, List.forall₂_map_right_iff]
    exact hms.flip.imp fun _ _ ⟨_, _, _, hr⟩ => hr
  rw [hkeys]
  refine nodup_keys_of_manifests (repositories ▸ hn) fun m hm => ?_
  obtain ⟨_, -, content, -, hread, -⟩ := exists_of_mem_of_forall₂ hms m hm
  exact (Manifest.isReadFrom_of_ofContent (mapError_eq_ok.mp hread)).distinct

/-- Where no key stands twice, the index gives back every doc. -/
theorem isIndexed_of_nodup (h : c.keys.Nodup) : c.IsIndexed := by
  have index : c.index = c.listings.map fun l => (l.key, l) := Table.index_eq_of_nodup _ h
  have distinct : (c.index.map Prod.fst).Nodup := by
    rw [index, List.map_map]
    exact h
  have get (repository identifier : String) (l : Listing) :
      c.find? repository identifier = some l ↔
        l ∈ c.listings ∧ l.key = (repository, identifier) := by
    rw [find?, lookup_eq_some_iff_mem distinct, index, List.mem_map]
    constructor
    · rintro ⟨l', hl, he⟩
      obtain ⟨hk, rfl⟩ := Prod.mk.inj he
      exact ⟨hl, hk⟩
    · rintro ⟨hl, hk⟩
      exact ⟨l, hl, by rw [hk]⟩
  refine ⟨h, get, fun repository identifier => ?_, (List.length_map _).symm, ?_⟩
  · rw [has, Option.isSome_iff_exists, keys, List.mem_map]
    exact exists_congr fun l => get repository identifier l
  · rw [index, List.length_map]
    rfl

/-! ## Groups -/

/-- The docs of a category, in their order. -/
def ofCategory (c : Collection) (k : Category) : List Listing :=
  c.listings.filter fun l => l.doc.category == some k

theorem mem_all (k : Category) : k ∈ Category.all := by cases k <;> decide

theorem byCategory_eq (c : Collection) : c.byCategory = Category.all.filterMap fun k =>
    if c.ofCategory k = [] then none else some (k, c.ofCategory k) := by
  unfold byCategory
  refine List.filterMap_congr fun k _ => ?_
  rw [Table.lookup_groups]
  show Option.map _ (if c.ofCategory k = [] then none else some (c.ofCategory k)) = _
  split <;> rfl

theorem mem_byCategory {g : Category × List Listing} :
    g ∈ c.byCategory ↔ c.ofCategory g.1 ≠ [] ∧ g.2 = c.ofCategory g.1 := by
  rw [byCategory_eq, List.mem_filterMap]
  constructor
  · rintro ⟨k, -, hk⟩
    split at hk <;> cases hk
    exact ⟨‹_›, rfl⟩
  · rintro ⟨hne, hg⟩
    exact ⟨g.1, mem_all g.1, by rw [if_neg hne, ← hg]⟩

/-- Of some categories, those that have docs are kept in their order. -/
theorem categories_sublist (ks : List Category) : ((ks.filterMap fun k =>
    if c.ofCategory k = [] then none else some (k, c.ofCategory k)).map Prod.fst).Sublist ks := by
  induction ks with
  | nil => exact .slnil
  | cons k ks ih =>
    rw [List.filterMap_cons]
    split
    next => exact ih.cons k
    next g hg =>
      split at hg <;> cases hg
      exact ih.cons_cons k

/-- No doc is lost with the categories that have none. -/
theorem flatMap_groups (ks : List Category) : ((ks.filterMap fun k =>
    if c.ofCategory k = [] then none else some (k, c.ofCategory k)).flatMap Prod.snd) =
      ks.flatMap c.ofCategory := by
  induction ks with
  | nil => rfl
  | cons k ks ih =>
    rw [List.filterMap_cons, List.flatMap_cons]
    by_cases hk : c.ofCategory k = []
    · simp only [if_pos hk]
      rw [ih, hk, List.nil_append]
    · simp only [if_neg hk]
      rw [List.flatMap_cons, ih]

/-- Docs that all have a category are given back by their groups. -/
theorem isGrouped_of_categories (h : ∀ l ∈ c.listings, ∃ k, l.doc.category = some k) :
    c.IsGrouped where
  inOrder := byCategory_eq c ▸ categories_sublist Category.all
  group g hg := by
    obtain ⟨hne, he⟩ := mem_byCategory.mp hg
    exact ⟨he ▸ hne, he⟩
  own l hl := by
    obtain ⟨k, hk⟩ := h l hl
    have hmem : l ∈ c.ofCategory k := List.mem_filter.mpr ⟨hl, by simp [hk]⟩
    refine ⟨(k, c.ofCategory k), mem_byCategory.mpr ⟨List.ne_nil_of_mem hmem, rfl⟩, hmem, ?_⟩
    rintro ⟨q, ls⟩ hg hq
    have hls : ls = c.ofCategory q := (mem_byCategory.mp hg).2
    have hcategory := (List.mem_filter.mp (hls ▸ hq)).2
    rw [hk, beq_iff_eq, Option.some.injEq] at hcategory
    rw [hls, hcategory]
  partition := by
    have distinct : (Category.all.map some).Nodup := by decide
    have found : ∀ l ∈ c.listings, l.doc.category ∈ Category.all.map some := by
      intro l hl
      obtain ⟨k, hk⟩ := h l hl
      exact hk ▸ List.mem_map_of_mem (mem_all k)
    have perm := Table.flatMap_groups_perm (fun l : Listing => l.doc.category) distinct found
    rw [List.flatMap_map] at perm
    rw [byCategory_eq, flatMap_groups]
    exact perm

end Collection

/-! ## Loading keeps everything -/

/-- Whatever the files are: where docs are loaded from sources, they are those that the manifests
list, in order; no key stands twice, and each gives back its doc; and the groups by category are the
docs, each in the group of its category. -/
theorem load_keeps_everything {f : Files} {sources : Sources} {c : Collection}
    (hn : (sources.map Prod.fst).Nodup) (h : Collection.load f sources = .ok c) :
    c.Lists f sources ∧ c.IsIndexed ∧ c.IsGrouped := by
  have lists := Collection.lists_of_load h
  refine ⟨lists, Collection.isIndexed_of_nodup (Collection.nodup_keys hn lists),
    Collection.isGrouped_of_categories fun l hl => ?_⟩
  obtain ⟨root, -, hload⟩ := lists.artifacts l hl
  exact (FunctionDoc.stated_of_isComplete (Collection.loadFunction_spec hload).2).category

theorem load_keeps_everything_string : ∃ g c,
    (([("main", {})] : Sources).map Prod.fst).Nodup ∧
      Collection.load g [("main", {})] = .ok c ∧ c.keys = [("main", "f")] ∧
      c.Lists g [("main", {})] ∧ c.IsIndexed ∧ c.IsGrouped := by
  have canonical : ∀ e ∈ (returning (.primitive .string)).entries,
      e.doc.Carries TypeSpec.IsCanonical fun _ => True := by
    refine List.forall_mem_singleton.mpr ⟨nofun, ?_, nofun⟩
    rintro _ ⟨⟩ _ ⟨⟩
    exact .primitive .string
  obtain ⟨pub, g, h, hp⟩ := publish_returning (.primitive .string)
  obtain ⟨hm, hpublished⟩ := publish_leaves (returning_built _) h hp
  have loaded := (load_published_iff (returning_built _) (by decide) (returning_carries _) hm
    hpublished).mpr canonical
  have distinct : (([("main", {})] : Sources).map Prod.fst).Nodup := List.nodup_singleton _
  exact ⟨g, _, distinct, loaded, rfl, load_keeps_everything distinct loaded⟩

end FunctionManual
