import FunctionManual.Artifact.Manifest
import FunctionManual.Artifact.Names
import FunctionManual.Doc.Reader
import FunctionManual.Files.Basic

/-!
# Collections of docs

* `Table.alter`: changes the value of a key in a list of pairs, where a new key comes last.
* `Sources`: the roots of the artifacts of repositories.
* `Collection`: the docs of repositories, in the order of the sources and of their manifests.
* `Collection.index`, `Collection.byCategory`: the docs by their keys and by their categories.
* `Collection.load`: reads the docs that manifests list; the first one that is missing or refused is
  a fault.
-/

namespace FunctionManual

/-! ## Tables -/

namespace Table

variable {κ α : Type} [BEq κ]

/-- Changes the value of a key; a key that is not there comes last. -/
def alter (key : κ) (change : Option α → α) : List (κ × α) → List (κ × α)
  | [] => [(key, change none)]
  | (k, a) :: rest =>
    if k == key then (k, change (some a)) :: rest else (k, a) :: alter key change rest

/-- Values by their keys. Of those with one key the last stays. -/
def index (key : α → κ) (values : List α) : List (κ × α) :=
  values.foldl (fun done a => alter (key a) (fun _ => a) done) []

/-- Values grouped by their keys, in their order. -/
def groups (key : α → κ) (values : List α) : List (κ × List α) :=
  values.foldl (fun done a => alter (key a) (fun found => found.getD [] ++ [a]) done) []

end Table

/-! ## Listings -/

/-- The doc of a function of a repository. -/
structure Listing where
  repository : String
  doc : FunctionDoc

/-- The repository and the identifier of a listing. -/
def Listing.key (l : Listing) : String × String := (l.repository, l.doc.identifier)

/-- The roots of the artifacts of repositories, in order. -/
abbrev Sources := List (String × Path)

/-- Sets the roots of a list one after another; a repository that is there keeps its place. -/
def Sources.ofList (entries : List (String × Path)) : Sources :=
  entries.foldl (fun done (name, root) => Table.alter name (fun _ => root) done) []

/-- The docs of repositories. -/
structure Collection where
  listings : List Listing := []

namespace Collection

/-- The doc that a manifest lists. -/
def loadFunction (f : Files) (repository : String) (root : Path) (identifier : String) :
    Except Fault Listing := do
  let path := Artifact.artifactPath root identifier
  if !(← f.isFile path) then throw (.missingArtifact repository identifier path.text)
  let doc ← FunctionDoc.ofArtifact (.bytes (← f.read path)) (some path)
  if doc.identifier ≠ identifier then
    throw (.malformed (some path.text)
      s!"artifact describes '{doc.identifier}', manifest expects '{identifier}'")
  return ⟨repository, doc⟩

/-- The docs of a repository. -/
def loadRepository (f : Files) (repository : String) (root : Path) :
    Except Fault (List Listing) := do
  let path := Artifact.manifestPath root
  if !(← f.isFile path) then throw (.malformed (some path.text) "manifest not found")
  let manifest ← Manifest.read (.bytes (← f.read path)) (some path)
  if manifest.repository ≠ repository then
    throw (.malformed (some path.text)
      s!"manifest belongs to repository '{manifest.repository}', not '{repository}'")
  manifest.functions.mapM (loadFunction f repository root)

/-- The docs of all sources. -/
def load (f : Files) (sources : Sources) : Except Fault Collection := do
  let parts ← sources.mapM fun (name, root) => loadRepository f name root
  return ⟨parts.flatten⟩

/-- The number of docs. -/
def size (c : Collection) : Nat := c.listings.length

/-- The repositories and identifiers in order. -/
def keys (c : Collection) : List (String × String) := c.listings.map Listing.key

/-- The docs by their keys. -/
def index (c : Collection) : List ((String × String) × Listing) :=
  Table.index Listing.key c.listings

/-- The doc of a function of a repository. -/
def find? (c : Collection) (repository identifier : String) : Option Listing :=
  c.index.lookup (repository, identifier)

/-- Whether there is a doc of a function of a repository. -/
def has (c : Collection) (repository identifier : String) : Bool :=
  (c.find? repository identifier).isSome

/-- The repositories that have docs, in order. -/
def repositories (c : Collection) : List String := (c.listings.map (·.repository)).eraseDups

/-- The categories that have docs, in their order, with their docs. -/
def byCategory (c : Collection) : List (Category × List Listing) :=
  let groups := Table.groups (fun l => l.doc.category) c.listings
  Category.all.filterMap fun k => (groups.lookup (some k)).map fun ls => (k, ls)

end Collection

end FunctionManual
