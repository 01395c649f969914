import FunctionManual.Doc.Reader
import FunctionManual.Proofs.Doc.Content
import FunctionManual.Proofs.Except
import FunctionManual.Proofs.Json.Reading
import FunctionManual.Proofs.Text.Utf8
import FunctionManual.Proofs.TypeSpec.Rendering
import FunctionManual.Proofs.Value.Json

/-!
# Docs are read as they are written

* `ReadAgain`: a part is written as an object, from whose members it is read again.
* `Variant.readAgain`, …, `Example.readAgain`: so is every part of a stated doc that carries
  canonical types and plain values.
* `FunctionDoc.readAgain`: so is the doc.
* `FunctionDoc.ofArtifact_generate`: the artifact of a complete doc is read as that doc.
-/

namespace FunctionManual

open FunctionManual.Artifact

/-! ## Members of a known object -/

section Members

variable {d : Fields} {name : String}

theorem member_of_lookup (j : Json) (h : d.lookup name = some j) : member d name = .ok j := by
  rw [member, h]

theorem textField_of_lookup (s : String) (h : d.lookup name = some (.string s)) :
    textField d name = .ok s := by
  rw [textField, member_of_lookup _ h]; rfl

theorem optionalTextField_of_lookup (s : Option String)
    (h : d.lookup name = some ((s.map Json.string).getD .null)) :
    optionalTextField d name = .ok s := by
  rw [optionalTextField, member_of_lookup _ h]
  cases s <;> rfl

theorem booleanField_of_lookup (b : Bool) (h : d.lookup name = some (.boolean b)) :
    booleanField d name = .ok b := by
  rw [booleanField, member_of_lookup _ h]; rfl

theorem objectField_of_lookup (e : Fields) (h : d.lookup name = some (.object e)) :
    objectField d name = .ok e := by
  rw [objectField, member_of_lookup _ h]; rfl

theorem arrayField_of_lookup (items : List Json) (h : d.lookup name = some (.array items)) :
    arrayField d name = .ok items := by
  rw [arrayField, member_of_lookup _ h]; rfl

/-- A partial reading of items that undoes a writing of them works on all of a list. -/
theorem mapM_map_eq_some {α β : Type} {write : α → β} {read : β → Option α}
    (h : ∀ a, read (write a) = some a) (as : List α) : (as.map write).mapM read = some as := by
  induction as with
  | nil => rfl
  | cons a as ih =>
    rw [List.map_cons, List.mapM_cons, h, ih]
    rfl

theorem objectsField_of_lookup (ds : List Fields)
    (h : d.lookup name = some (.array (ds.map Json.object))) : objectsField d name = .ok ds := by
  have hm : (ds.map Json.object).mapM fields? = some ds :=
    mapM_map_eq_some (fun d => (rfl : fields? (.object d) = some d)) ds
  rw [objectsField, arrayField_of_lookup _ h]
  simp only [bind, Except.bind, hm]
  rfl

theorem mapM_strings (ts : List String) : (ts.map Json.string).mapM string? = some ts :=
  mapM_map_eq_some (fun t => (rfl : string? (.string t) = some t)) ts

theorem textsField_of_lookup (ts : List String)
    (h : d.lookup name = some (.array (ts.map Json.string))) : textsField d name = .ok ts := by
  rw [textsField, arrayField_of_lookup _ h]
  simp only [bind, Except.bind, mapM_strings]
  rfl

theorem typeField_of_lookup {t : TypeSpec} (ht : t.IsCanonical)
    (h : d.lookup name = some (.string t.render)) : typeField d name = .ok t := by
  rw [typeField, textField_of_lookup _ h]
  simp only [bind, Except.bind]
  rw [ht.read_render]
  rfl

end Members

/-! ## Tidy trees of records -/

theorem tidy_strings (ts : List String) : (Json.array (ts.map Json.string)).IsTidy :=
  .array (List.forall_mem_map.mpr fun t _ => .string t)

theorem tidy_optionalText (s : Option String) : ((s.map Json.string).getD .null).IsTidy := by
  cases s with
  | none => exact .null
  | some s => exact .string s

theorem ofJson_optionalText (s : Option String) :
    optionalText s = .ofJson ((s.map Json.string).getD .null) := by
  cases s <;> rfl

theorem ofJson_strings (ts : List String) :
    Value.array (ts.map Value.string) = .ofJson (.array (ts.map Json.string)) := by
  rw [Value.ofJson, Value.itemsOfJson_eq_map, List.map_map]
  rfl

theorem ofJson_objects (ds : List Fields) :
    Value.array (ds.map fun d => .ofJson (.object d)) = .ofJson (.array (ds.map Json.object)) := by
  rw [Value.ofJson, Value.itemsOfJson_eq_map, List.map_map]
  rfl

/-- A record of the values of trees is the value of an object. -/
theorem ofJson_record (d : Fields) :
    Value.record (d.map fun m => (m.1, .ofJson m.2)) = .ofJson (.object d) := by
  rw [Value.record, Value.ofJson, Value.membersOfJson_eq_map, List.map_map]
  rfl

/-! ## Parts -/

/-- A part is written as an object, from whose members it is read again. -/
def ReadAgain {α : Type} (written : Except Fault Value) (read : Fields → Except Problem α) (a : α) :
    Prop :=
  ∃ d : Fields, written = .ok (.ofJson (.object d)) ∧ (Json.object d).IsTidy ∧ read d = .ok a

/-- Parts that are read again one by one are read again as a list. -/
theorem ReadAgain.list {α : Type} {write : α → Except Fault Value}
    {read : Fields → Except Problem α} {as : List α} (h : ∀ a ∈ as, ReadAgain (write a) read a) :
    ∃ ds : List Fields, as.mapM write = .ok (ds.map fun d => .ofJson (.object d)) ∧
      (Json.array (ds.map Json.object)).IsTidy ∧ ds.mapM read = .ok as := by
  suffices ∃ ds : List Fields, as.mapM write = .ok (ds.map fun d => .ofJson (.object d)) ∧
      (∀ d ∈ ds, (Json.object d).IsTidy) ∧ ds.mapM read = .ok as by
    obtain ⟨ds, hw, ht, hr⟩ := this
    exact ⟨ds, hw, .array (List.forall_mem_map.mpr ht), hr⟩
  induction as with
  | nil => exact ⟨[], rfl, by simp, rfl⟩
  | cons a as ih =>
    obtain ⟨d, hw, ht, hr⟩ := h a (List.mem_cons_self ..)
    obtain ⟨ds, hws, hts, hrs⟩ := ih fun b hb => h b (List.mem_cons_of_mem _ hb)
    refine ⟨d :: ds, ?_, List.forall_mem_cons.mpr ⟨ht, hts⟩, ?_⟩
    · rw [List.mapM_cons, hw, hws]; rfl
    · rw [List.mapM_cons, hr, hrs]; rfl

/-- An enumerated value is read again. -/
theorem Variant.readAgain {v : Variant} (h : v.value.Plain) :
    ReadAgain (.ok v.toValue) Variant.ofFields v := by
  obtain ⟨value, description⟩ := v
  obtain ⟨j, hj, rfl⟩ : value.Plain := h
  refine ⟨[("value", j), ("description", .string description)], rfl, ?_, ?_⟩
  · exact .object (by simp) (by simp [hj, Json.IsTidy.string])
  · rw [Variant.ofFields, member_of_lookup j (by simp),
      textField_of_lookup description (by simp [List.lookup_cons])]
    rfl

/-- A parameter is read again, with its default and its enumerated values. -/
theorem Parameter.readAgain {p : Parameter} (hs : p.Stated)
    (hc : p.Carries TypeSpec.IsCanonical Value.Plain) :
    ReadAgain p.toValue Parameter.ofFields p := by
  obtain ⟨name, type, description, required, default, variants⟩ := p
  obtain ⟨⟨name, rfl⟩, ⟨t, rfl⟩, ⟨description, rfl⟩⟩ := hs
  obtain ⟨j, hj, rfl⟩ : default.Plain := hc.default
  have ht : t.IsCanonical := hc.type t rfl
  obtain ⟨ds, hw, htidy, hr⟩ := ReadAgain.list fun v hv => Variant.readAgain (hc.variants v hv)
  have hw : variants.map Variant.toValue = ds.map fun d => .ofJson (.object d) :=
    Except.ok.inj (List.mapM_pure.symm.trans hw)
  refine ⟨[("name", .string name), ("type", .string t.render),
    ("description", .string description), ("required", .boolean required), ("default", j),
    ("enum", .array (ds.map Json.object))], ?_, ?_, ?_⟩
  · rw [← ofJson_record, Parameter.toValue]
    simp only [renderedType, hw, ofJson_objects]
    rfl
  · exact .object (by simp) (by simp [hj, htidy, Json.IsTidy.string, Json.IsTidy.boolean])
  · rw [Parameter.ofFields, textField_of_lookup name (by simp),
      typeField_of_lookup ht (by simp [List.lookup_cons]),
      textField_of_lookup description (by simp [List.lookup_cons]),
      booleanField_of_lookup required (by simp [List.lookup_cons]),
      member_of_lookup j (by simp [List.lookup_cons]),
      objectsField_of_lookup ds (by simp [List.lookup_cons])]
    simp only [bind, Except.bind, hr]
    rfl

/-- The fields of a return spec are read again; it is the reader of docs that joins them. -/
theorem ReturnSpec.readAgain {r : ReturnSpec} (hs : r.Stated)
    (hc : ∀ t, r.type = some t → t.IsCanonical) :
    ∃ d : Fields, r.toValue = .ok (.ofJson (.object d)) ∧ (Json.object d).IsTidy ∧
      ∃ t s, r.type = some t ∧ r.description = .text s ∧ typeField d "type" = .ok t ∧
        textField d "description" = .ok s ∧ textsField d "rules" = .ok r.rules := by
  obtain ⟨type, description, rules⟩ := r
  obtain ⟨⟨t, rfl⟩, ⟨s, rfl⟩⟩ := hs
  refine ⟨[("type", .string t.render), ("description", .string s),
    ("rules", .array (rules.map Json.string))], ?_, ?_, t, s, rfl, rfl, ?_, ?_, ?_⟩
  · rw [← ofJson_record, ReturnSpec.toValue]
    simp only [renderedType, ofJson_strings]
    rfl
  · exact .object (by simp) (by simp [tidy_strings, Json.IsTidy.string])
  · exact typeField_of_lookup (hc t rfl) (by simp)
  · exact textField_of_lookup s (by simp [List.lookup_cons])
  · exact textsField_of_lookup rules (by simp [List.lookup_cons])

/-- An outcome is read again, be it a null, a failure or a failure without a message. -/
theorem Example.readAgain_expected {e : Example} {r : Except Failure Value}
    (he : e.expected = some r) (hv : ∀ v, r = .ok v → v.Plain) :
    ReadAgain e.expectedValue expectedOfFields r := by
  rw [Example.expectedValue, he]
  cases r with
  | ok v =>
    obtain ⟨j, hj, rfl⟩ := hv v rfl
    exact ⟨[("ok", j)], rfl, .object (by simp) (by simp [hj]), rfl⟩
  | error f =>
    obtain ⟨kind, message⟩ := f
    have tidy : (Json.object [("kind", .string kind), ("message", .string message)]).IsTidy :=
      .object (by simp) (by simp [Json.IsTidy.string])
    refine ⟨[("error", .object [("kind", .string kind), ("message", .string message)])], rfl,
      .object (by simp) (by simp [tidy]), ?_⟩
    simp only [expectedOfFields]
    rw [objectField_of_lookup [("kind", .string kind), ("message", .string message)]
        (by simp)]
    simp only [bind, Except.bind]
    rw [textField_of_lookup kind (by simp)]
    simp only
    rw [textField_of_lookup message (by simp [List.lookup_cons])]
    rfl

/-- An example is read again. -/
theorem Example.readAgain {e : Example} (hs : e.Stated) (hc : e.Carries Value.Plain) :
    ReadAgain e.toValue Example.ofFields e := by
  obtain ⟨r, hr⟩ := hs.expected
  obtain ⟨er, hw, htidy, hread⟩ := Example.readAgain_expected hr fun v hv => hc.expected v (hv ▸ hr)
  obtain ⟨source, expected, title, notes, input, host⟩ := e
  obtain ⟨⟨source, rfl⟩, -⟩ := hs
  obtain ⟨j, hj, rfl⟩ : input.Plain := hc.input
  obtain rfl : expected = some r := hr
  refine ⟨[("title", (title.map Json.string).getD .null), ("source", .string source),
    ("input", j), ("result", .object er), ("notes", (notes.map Json.string).getD .null),
    ("requires_host", .boolean host)], ?_, ?_, ?_⟩
  · rw [← ofJson_record, Example.toValue, hw]
    simp only [ofJson_optionalText]
    rfl
  · exact .object (by simp)
      (by simp [hj, htidy, tidy_optionalText, Json.IsTidy.string, Json.IsTidy.boolean])
  · rw [Example.ofFields, textField_of_lookup source (by simp [List.lookup_cons]),
      objectField_of_lookup er (by simp [List.lookup_cons]),
      optionalTextField_of_lookup title (by simp),
      optionalTextField_of_lookup notes (by simp [List.lookup_cons]),
      member_of_lookup j (by simp [List.lookup_cons]),
      booleanField_of_lookup host (by simp [List.lookup_cons])]
    simp only [bind, Except.bind, hread]
    rfl

/-! ## Docs -/

theorem Category.ofName?_name (c : Category) : Category.ofName? c.name = some c := by
  cases c <;> rfl

theorem categoryField_of_lookup {d : Fields} (c : Category)
    (h : d.lookup "category" = some (.string c.name)) : categoryField d = .ok c := by
  rw [categoryField, textField_of_lookup _ h]
  simp only [bind, Except.bind, Category.ofName?_name]
  rfl

theorem exists_reasons {reasons : List Slot} (h : ∀ r ∈ reasons, ∃ s, r = .text s) :
    ∃ ts : List String, reasons = ts.map Slot.text := by
  induction reasons with
  | nil => exact ⟨[], rfl⟩
  | cons r reasons ih =>
    obtain ⟨t, rfl⟩ := h r (List.mem_cons_self ..)
    obtain ⟨ts, rfl⟩ := ih fun s hs => h s (List.mem_cons_of_mem _ hs)
    exact ⟨t :: ts, rfl⟩

namespace FunctionDoc

/-- A stated doc is read again from the members that are written for it. -/
theorem readAgain {d : FunctionDoc} (hs : d.Stated)
    (hc : d.Carries TypeSpec.IsCanonical Value.Plain) : ReadAgain d.toValue ofFields d := by
  obtain ⟨identifier, summary, description, category, parameters, returns, reasons, examples,
    notices⟩ := d
  obtain ⟨⟨summary, rfl⟩, ⟨description, rfl⟩, ⟨c, rfl⟩, ⟨r, rfl, hr⟩, hp, he, hf⟩ := hs
  obtain ⟨texts, rfl⟩ := exists_reasons hf
  obtain ⟨ps, hpw, hpt, hpr⟩ := ReadAgain.list fun p hm =>
    Parameter.readAgain (hp p hm) (hc.parameters p hm)
  obtain ⟨es, hew, het, her⟩ := ReadAgain.list fun e hm =>
    Example.readAgain (he e hm) (hc.examples e hm)
  obtain ⟨rd, hrw, hrt, t, s, htype, hdesc, hty, hte, hru⟩ :=
    ReturnSpec.readAgain hr (hc.returns r rfl)
  refine ⟨[("identifier", .string identifier), ("summary", .string summary),
    ("description", .string description), ("category", .string c.name),
    ("fallible", .boolean !(texts.map Slot.text).isEmpty),
    ("parameters", .array (ps.map Json.object)), ("returns", .object rd),
    ("internal_failure_reasons", .array (texts.map Json.string)),
    ("examples", .array (es.map Json.object)), ("notices", .array (notices.map Json.string))],
    ?_, ?_, ?_⟩
  · have hreasons : (texts.map Slot.text).map Slot.toValue = texts.map Value.string := by
      rw [List.map_map]; rfl
    rw [← ofJson_record, toValue]
    simp only [categoryValue, returnsValue, hpw, hrw, hew, hreasons, bind, Except.bind,
      ofJson_objects, ofJson_strings]
    rfl
  · exact .object (by simp)
      (by simp [hpt, hrt, het, tidy_strings, Json.IsTidy.string, Json.IsTidy.boolean])
  · rw [ofFields, objectField_of_lookup rd (by simp [List.lookup_cons]),
      textField_of_lookup identifier (by simp),
      textField_of_lookup summary (by simp [List.lookup_cons]),
      textField_of_lookup description (by simp [List.lookup_cons]),
      categoryField_of_lookup c (by simp [List.lookup_cons]),
      objectsField_of_lookup ps (by simp [List.lookup_cons]),
      textsField_of_lookup texts (by simp [List.lookup_cons]),
      objectsField_of_lookup es (by simp [List.lookup_cons]),
      textsField_of_lookup notices (by simp [List.lookup_cons]),
      booleanField_of_lookup (!(texts.map Slot.text).isEmpty) (by simp [List.lookup_cons])]
    -- the flag that is read is compared with the reasons, from which it was written
    simp only [bind, Except.bind, hpr, her, hty, hte, hru, fallible]
    obtain ⟨type, returned, rules⟩ := r
    obtain rfl : type = some t := htype
    obtain rfl : returned = .text s := hdesc
    simp
    rfl

/-- What is generated is the text of a tidy object, from whose members the doc is read. -/
theorem exists_fields {d : FunctionDoc} (h : d.isComplete)
    (hc : d.Carries TypeSpec.IsCanonical Value.Plain) :
    ∃ fields : Fields, d.generate = .ok ((Json.object fields).pretty ++ "\n") ∧
      (Json.object fields).IsTidy ∧ ofFields fields = .ok d := by
  obtain ⟨fields, hw, ht, hr⟩ := readAgain (stated_of_isComplete h) hc
  refine ⟨fields, ?_, ht, hr⟩
  rw [generate, if_pos h, hw]
  simp only [bind, Except.bind, artifactText, Value.toJson_ofJson]

/-- The artifact of a complete doc is read as that doc. -/
theorem ofArtifact_generate {d : FunctionDoc} (h : d.isComplete)
    (hc : d.Carries TypeSpec.IsCanonical Value.Plain) :
    ∃ text, d.generate = .ok text ∧ ∀ path,
      ofArtifact (.bytes (Text.Utf8.encode text)) path = .ok d ∧
        ofArtifact (.text text) path = .ok d := by
  obtain ⟨fields, hg, ht, hr⟩ := exists_fields h hc
  have reads (content : Content)
      (hread : readText content = .ok ((Json.object fields).pretty ++ "\n")) (path : Option Path) :
      ofArtifact content path = .ok d := by
    rw [ofArtifact, ofContent, readJson, hread]
    simp only [bind, Except.bind, Json.read_pretty ht, Except.mapError, hr, h]
    rfl
  refine ⟨_, hg, fun path => ⟨reads _ ?_ path, reads _ rfl path⟩⟩
  rw [readText, Text.Utf8.decode_encode]
  rfl

end FunctionDoc

end FunctionManual
