import FunctionManual.TypeSpec.Reader

/-!
# The grammar of type specs

    type    = member ("|" member)*
    member  = name | "array" ["<" type ">"] | "object" ["<" type ">"]

* `Writes`: a text is made of tokens, with blanks between and around them as it likes.
* `choice`: the type that members mean, opened into their alternatives, the first of each kept.
* `Derives`: the tokens of a member, or of several with strokes between them, and what they mean.
* `DerivesType`, `Spells`: the tokens of a type, and its texts.

No rule looks at what follows a phrase, and none says where a word ends: that a bare `array` is not
followed by a bracket, and that words do not run together, are consequences.
-/

namespace FunctionManual.TypeSpec

open FunctionManual.Text

/-! ## Texts and tokens -/

/-- Nothing but blanks. -/
def AreBlanks (s : List Char) : Prop := ∀ c ∈ s, isBlank c

/-- A text is made of these tokens in order, with blanks before, between and behind them. -/
inductive Writes : List Char → List String → Prop
  | nil {blanks : List Char} (hb : AreBlanks blanks) : Writes blanks []
  | cons {blanks rest : List Char} {token : String} {ts : List String} (hb : AreBlanks blanks)
      (h : Writes rest ts) : Writes (blanks ++ (token.toList ++ rest)) (token :: ts)

/-! ## Phrases -/

/-- What members mean together: their alternatives in order, the first of each kept; one that is
left stands for itself. -/
def choice (types : List TypeSpec) : TypeSpec :=
  match (types.flatMap alternatives).eraseDups with
  | [t] => t
  | members => .oneOf members

/-- What phrases mean. -/
inductive Phrase
  | member (type : TypeSpec)
  | members (types : List TypeSpec)

/-- The tokens of a phrase and what it means. -/
inductive Derives : List String → Phrase → Prop
  | primitive (p : Primitive) : Derives [p.name] (.member (.primitive p))
  | anyArray : Derives ["array"] (.member (.array none))
  | array {ts : List String} {types : List TypeSpec} (h : Derives ts (.members types)) :
      Derives ("array" :: "<" :: (ts ++ [">"])) (.member (.array (some (choice types))))
  | anyObject : Derives ["object"] (.member (.object none))
  | object {ts : List String} {types : List TypeSpec} (h : Derives ts (.members types)) :
      Derives ("object" :: "<" :: (ts ++ [">"])) (.member (.object (some (choice types))))
  | last {ts : List String} {t : TypeSpec} (h : Derives ts (.member t)) :
      Derives ts (.members [t])
  | more {ts us : List String} {t : TypeSpec} {types : List TypeSpec}
      (h : Derives ts (.member t)) (hs : Derives us (.members types)) :
      Derives (ts ++ "|" :: us) (.members (t :: types))

/-- The tokens of a type: those of its members, with strokes between them. -/
def DerivesType (ts : List String) (t : TypeSpec) : Prop :=
  ∃ types, Derives ts (.members types) ∧ t = choice types

/-- A text of a type. -/
def Spells (source : String) (t : TypeSpec) : Prop :=
  ∃ ts, Writes source.toList ts ∧ DerivesType ts t

/-! ## Blanks -/

theorem AreBlanks.append {s u : List Char} (hs : AreBlanks s) (hu : AreBlanks u) :
    AreBlanks (s ++ u) := List.forall_mem_append.mpr ⟨hs, hu⟩

theorem areBlanks_nil : AreBlanks [] := List.forall_mem_nil _

/-- Blanks may be put in front. -/
theorem Writes.blanks {blanks s : List Char} {ts : List String} (hb : AreBlanks blanks)
    (h : Writes s ts) : Writes (blanks ++ s) ts := by
  cases h with
  | nil hs => exact .nil (hb.append hs)
  | cons hs h =>
    rw [← List.append_assoc]
    exact .cons (hb.append hs) h

/-- A token may be put in front, with or without blanks. -/
theorem Writes.token {s : List Char} {ts : List String} (token : String) (h : Writes s ts) :
    Writes (token.toList ++ s) (token :: ts) := .cons areBlanks_nil h

/-- One text behind another. -/
theorem Writes.append {s u : List Char} {ts us : List String} (hs : Writes s ts)
    (hu : Writes u us) : Writes (s ++ u) (ts ++ us) := by
  induction hs with
  | nil hb => exact hu.blanks hb
  | cons hb _ ih =>
    rw [List.append_assoc, List.append_assoc]
    exact .cons hb ih

theorem writes_token (token : String) : Writes token.toList [token] := by
  simpa using Writes.token token (.nil areBlanks_nil)

end FunctionManual.TypeSpec
