import FunctionManual.Doc.Basic
import FunctionManual.Fault
import FunctionManual.Validation.Report

/-!
# Rules between the fields of a doc

* `checkParameter`: names are different, required parameters come first and have no default, and
  defaults and variants have the type of their parameter.
* `checkMetadata`: the issues of a doc, apart from its examples.
-/

namespace FunctionManual

/-! ## Comparisons -/

/-- Whether a slot holds a newline. -/
def Slot.holdsNewline : Slot → Except Fault Bool
  | .text s => .ok (s.toList.contains '\n')
  | .other (.array items) => .ok (items.any fun v => v.looselyEqual (.string "\n"))
  | .other (.object members) => .ok (Members.has (.text "\n") members)
  | .other (.scalar (.set member)) => .ok (member.looselyEqual (.string "\n"))
  | .other (.scalar (.bytes _)) =>
    .error (.badType "a bytes-like object is required, not 'str'")
  | .other v => .error (.badType s!"argument of type '{v.longTypeWord}' is not iterable")

/-- Whether values can be compared all at once; containers cannot. -/
def checkComparable : List Value → Except Fault Unit
  | [] => .ok ()
  | .scalar (.set _) :: _ => .error (.badType "unhashable type: 'set'")
  | .scalar _ :: rest => checkComparable rest
  | v :: _ => .error (.badType s!"unhashable type: '{v.longTypeWord}'")

/-- Whether a value is among others. -/
def Value.isAmong (v : Value) (others : List Value) : Bool := others.any (·.looselyEqual v)

/-- Whether all values are different. -/
def allDifferent : List Value → Bool
  | [] => true
  | v :: rest => !v.isAmong rest && allDifferent rest

/-- Whether a value has a type; without a type it has none. -/
def hasType (type : Option TypeSpec) (v : Value) : Bool := type.any fun t => t.admits v

/-- The name of a type that must be there. -/
def typeName (type : Option TypeSpec) : Except Fault String :=
  match type with
  | some t => .ok t.render
  | none => .error (.badType "Unknown type spec: <class 'NoneType'>")

/-- The line that shows a value, unless a part of it has no text. -/
def Value.line (v : Value) : Except Fault String :=
  if v.isWritable then .ok v.render else .error (.badValue Integer.unwritableMessage)

/-- An issue, if a condition says that there is one. -/
def issueIf (broken : Bool) (complaint : Complaint) (path : String) : List Issue :=
  if broken then [⟨complaint, some path⟩] else []

/-! ## Parameters -/

/-- The issues of a default. -/
def checkDefault (p : Parameter) (path : String) : Except Fault (List Issue) := do
  if p.default.isNull then return []
  let unasked := issueIf p.required (.defaultOnRequired p.name.plain) path
  if hasType p.type p.default then return unasked
  let shown ← p.default.line
  let type ← typeName p.type
  return unasked ++ [⟨.defaultType shown p.name.plain type, some path⟩]

/-- The issue of a variant whose type is neither that of its parameter nor that of its items. -/
def checkVariant (p : Parameter) (path : String) (v : Variant) : Except Fault (List Issue) := do
  if hasType p.type v.value || hasType p.type (.array [v.value]) then return []
  let shown ← v.value.line
  let type ← typeName p.type
  return [⟨.variantType shown p.name.plain type, some path⟩]

/-- The values that a default chooses: the items of an array, or the value itself. -/
def chosenValues : Value → List Value
  | .array items => items
  | v => [v]

/-- The issue of a default that chooses a value which is not among the variants. -/
def checkChoice (p : Parameter) (values : List Value) (path : String) :
    Except Fault (List Issue) := do
  if p.default.isNull || (chosenValues p.default).all (·.isAmong values) then return []
  let shown ← p.default.line
  return [⟨.defaultNoVariant shown p.name.plain, some path⟩]

/-- The issues of the variants of a parameter. -/
def checkVariants (p : Parameter) (path defaultPath : String) : Except Fault (List Issue) := do
  if p.variants.isEmpty then return []
  let values := p.variants.map (·.value)
  checkComparable values
  let repeated := issueIf (!allDifferent values) (.repeatedVariant p.name.plain) path
  let types ← p.variants.mapM (checkVariant p path)
  let choice ← checkChoice p values defaultPath
  return repeated ++ types.flatten ++ choice

/-- The issues of the parameter at a place, behind parameters with the names `seen`. -/
def checkParameter (seen : List Value) (optionalSeen : Bool) (i : Nat) (p : Parameter) :
    Except Fault (List Issue) := do
  let path := s!"parameters[{i}]"
  let name := p.name.toValue
  checkComparable [name]
  let repeated := issueIf (name.isAmong seen) (.repeatedParameter p.name.plain) path
  let late := issueIf (p.required && optionalSeen) (.requiredAfterOptional p.name.plain) path
  let default ← checkDefault p s!"{path}.default"
  let variants ← checkVariants p s!"{path}.enum_variants" s!"{path}.default"
  return repeated ++ late ++ default ++ variants

/-- The issues of the parameters from a place on. -/
def checkParameters (seen : List Value) (optionalSeen : Bool) (i : Nat) :
    List Parameter → Except Fault (List Issue)
  | [] => .ok []
  | p :: rest => do
    let here ← checkParameter seen optionalSeen i p
    let later ← checkParameters (seen ++ [p.name.toValue]) (optionalSeen || !p.required) (i + 1)
      rest
    return here ++ later

/-! ## Docs -/

/-- The issues of a doc, apart from its examples. -/
def checkMetadata (d : FunctionDoc) : Except Fault (List Issue) := do
  let summary := issueIf (← d.summary.holdsNewline) .summaryLines "summary"
  let parameters ← checkParameters [] false 0 d.parameters
  let reasons := d.failureReasons.map Slot.toValue
  checkComparable reasons
  let repeated := issueIf (!allDifferent reasons) .repeatedReason "internal_failure_reasons"
  return summary ++ parameters ++ repeated

end FunctionManual
