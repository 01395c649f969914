import FunctionManual.Proofs.Evaluation.Action
import FunctionManual.Proofs.Text.Base64
import FunctionManual.Proofs.Text.Utf8
import FunctionManual.Standard.Codec

/-!
# Texts survive Base64

* `base64Text`: the Base64 of a text in a set of digits, with equals signs or without.
* `encodeBase64_run`, `decodeBase64_run`: the text that the function writes, and that the other
  reads the text from it.
* `decodeBase64_encodeBase64`: what was encoded is decoded to itself, with every set of digits,
  padded or not; so no two texts are encoded alike.
-/

namespace FunctionManual.Standard

open FunctionManual.Text

/-- The arguments of `encode_base64`; options that are not given are left to the function. -/
def encodeArguments (s : String) (padding : Option Bool) (charset : Option String) : Arguments :=
  ("value", .scalar (.string s)) ::
    (padding.toList.map (fun b => ("padding", .scalar (.boolean b))) ++
      charset.toList.map (fun t => ("charset", .scalar (.string t))))

/-- The arguments of `decode_base64`. -/
def decodeArguments (s : String) (charset : Option String) : Arguments :=
  ("value", .scalar (.string s)) :: charset.toList.map (fun t => ("charset", .scalar (.string t)))

/-- The Base64 of a text: padded unless the option says otherwise, in the standard set of digits
unless it names the one for addresses. -/
def base64Text (s : String) (padding : Option Bool) (charset : Option String) : String :=
  String.ofList (Base64.written (charset == some "url_safe") (padding.getD true)
    (Base64.encode (Utf8.encode s)))

/-! ## Arguments -/

theorem encodeArguments_checked (s : String) (padding : Option Bool) (charset : Option String) :
    encodeBase64.checkNames (encodeArguments s padding charset) = .ok () := by
  cases padding <;> cases charset <;> rfl

theorem decodeArguments_checked (s : String) (charset : Option String) :
    decodeBase64.checkNames (decodeArguments s charset) = .ok () := by
  cases charset <;> rfl

theorem isSafeCharset_string (t : String) :
    isSafeCharset (.scalar (.string t)) = (some t == some "url_safe") := by
  rw [Bool.eq_iff_iff, isSafeCharset, decide_eq_true_eq, beq_iff_eq]
  constructor
  · intro h
    cases h
    rfl
  · intro h
    cases h
    rfl

theorem isSafeCharset_encodeArguments (s : String) (padding : Option Bool)
    (charset : Option String) :
    isSafeCharset ((encodeArguments s padding charset).get "charset") =
      (charset == some "url_safe") := by
  cases charset with
  | none => cases padding <;> rfl
  | some t => cases padding <;> exact isSafeCharset_string t

theorem isSafeCharset_decodeArguments (s : String) (charset : Option String) :
    isSafeCharset ((decodeArguments s charset).get "charset") = (charset == some "url_safe") := by
  cases charset with
  | none => rfl
  | some t => exact isSafeCharset_string t

theorem padding_encodeArguments (s : String) (padding : Option Bool) (charset : Option String)
    (store : Store) :
    store.isTrue (((encodeArguments s padding charset).lookup "padding").getD
      (.scalar (.boolean true))) = padding.getD true := by
  cases padding <;> cases charset <;> rfl

/-! ## Runs -/

theorem text_inj {t t' : String} {m : Machine}
    (h : (Except.ok (.scalar (.string t)), m) =
      ((Except.ok (.scalar (.string t')), m) : Except Fault Datum × Machine)) : t = t' := by
  simpa using h

section Runs

variable (s : String) (padding : Option Bool) (charset : Option String) (m : Machine)

/-- A text is encoded to its Base64. -/
theorem encodeBase64_run :
    encodeBase64.evaluator (encodeArguments s padding charset) m =
      (.ok (.scalar (.string (base64Text s padding charset))), m) := by
  have hvalue : (encodeArguments s padding charset).get "value" = .scalar (.string s) := rfl
  rw [Builtin.evaluator, encodeArguments_checked, Action.bind_of_ok (Action.ofExcept_run _ _)]
  simp only [encodeBase64, hvalue, Action.textOf, pure_bind]
  rw [Action.bind_of_ok (Action.look_run _ _), padding_encodeArguments,
    isSafeCharset_encodeArguments, ← Base64.map_shown]
  rfl

/-- The Base64 of a text is decoded to the text. -/
theorem decodeBase64_run :
    decodeBase64.evaluator (decodeArguments (base64Text s padding charset) charset) m =
      (.ok (.scalar (.string s)), m) := by
  have hvalue (t : String) : (decodeArguments t charset).get "value" = .scalar (.string t) := rfl
  have hrestored := Base64.restored_written (charset == some "url_safe") (padding.getD true)
    (Utf8.encode s)
  rw [Base64.restored, Base64.filled, Base64.map_plain] at hrestored
  rw [Builtin.evaluator, decodeArguments_checked, Action.bind_of_ok (Action.ofExcept_run _ _)]
  simp only [decodeBase64, hvalue, isSafeCharset_decodeArguments]
  simp only [base64Text, String.toList_ofList, String.length_ofList, hrestored,
    Base64.decode_encode, Utf8.decodeLossy_of_decode (Utf8.decode_encode s)]
  rfl

/-- No two texts have the same Base64. -/
theorem base64Text_injective : Function.Injective fun s => base64Text s padding charset := by
  intro s s' h
  have hs := decodeBase64_run s padding charset {}
  have hs' := decodeBase64_run s' padding charset {}
  simp only at h
  rw [h, hs'] at hs
  exact (text_inj hs).symm

end Runs

/-- What was encoded is decoded to itself, whatever the options are; texts that are encoded alike
are equal, and without padding no equals sign is written. -/
theorem decodeBase64_encodeBase64 (padding : Option Bool) (charset : Option String) (m : Machine) :
    (∀ s, ∃ t,
      encodeBase64.evaluator (encodeArguments s padding charset) m =
        (.ok (.scalar (.string t)), m) ∧
      decodeBase64.evaluator (decodeArguments t charset) m = (.ok (.scalar (.string s)), m) ∧
      (padding = some false → '=' ∉ t.toList)) ∧
    Function.Injective fun s => encodeBase64.evaluator (encodeArguments s padding charset) m := by
  constructor
  · intro s
    refine ⟨base64Text s padding charset, encodeBase64_run s padding charset m,
      decodeBase64_run s padding charset m, ?_⟩
    rintro rfl
    rw [base64Text, String.toList_ofList]
    exact Base64.equals_not_mem_written _ _
  · intro s s' h
    simp only [encodeBase64_run] at h
    exact base64Text_injective padding charset (text_inj h)

/-- The bytes of this text are no multiple of three, and a digit for addresses is among those that
stand for them. -/
theorem decodeBase64_encodeBase64_unpadded : ∃ t,
    encodeBase64.evaluator (encodeArguments "é?>" (some false) (some "url_safe")) {} =
      (.ok (.scalar (.string t)), {}) ∧
    decodeBase64.evaluator (decodeArguments t (some "url_safe")) {} =
      (.ok (.scalar (.string "é?>")), {}) ∧
    '=' ∉ t.toList :=
  have ⟨t, hencode, hdecode, hpad⟩ :=
    (decodeBase64_encodeBase64 (some false) (some "url_safe") {}).1 "é?>"
  ⟨t, hencode, hdecode, hpad rfl⟩

end FunctionManual.Standard
