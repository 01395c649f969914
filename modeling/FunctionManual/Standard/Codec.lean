import FunctionManual.Standard.Builtin
import FunctionManual.Text.Base64
import FunctionManual.Text.Utf8

/-!
# Base64 of texts

* `encodeBase64`, `decodeBase64`: between texts and the digits of their UTF-8 bytes.
-/

namespace FunctionManual.Standard

open FunctionManual.Text

/-- The sets of digits. -/
def charsetVariants : List Variant := [
  ⟨.string "standard",
    "[Standard](https://tools.ietf.org/html/rfc4648#section-4) Base64 format."⟩,
  ⟨.string "url_safe",
    "Modified Base64 for [URL variants](https://en.wikipedia.org/wiki/Base64#URL_applications)."⟩]

/-- Whether an argument names the digits for addresses. -/
def isSafeCharset (d : Datum) : Bool := d = .scalar (.string "url_safe")

/-- The doc of `encode_base64`. -/
def encodeBase64.doc : FunctionDoc where
  identifier := "encode_base64"
  summary := "Encode a string to Base64."
  description := "Encodes the `value` to [Base64](https://en.wikipedia.org/wiki/Base64)."
  category := some .codec
  parameters := [
    { name := "value", type := some (.primitive .string),
      description := "The string to encode." },
    { name := "padding", type := some (.primitive .boolean),
      description :=
        ("Whether the Base64 output is " ++
         "[padded](https://en.wikipedia.org/wiki/Base64#Output_padding)."),
      required := false, default := .boolean true },
    { name := "charset", type := some (.primitive .string),
      description := "The character set to use when encoding the data.",
      required := false, default := .string "standard",
      variants := charsetVariants }]
  returns := some
    { type := some (.primitive .string),
      description := "The Base64 encoding of `value`." }
  examples := [
    { title := some "Encode to Base64 (default)",
      source := "encode_base64(\"please encode me\")",
      expected := some (.ok (.string "cGxlYXNlIGVuY29kZSBtZQ==")) },
    { title := some "Encode to Base64 (without padding)",
      source := "encode_base64(\"please encode me\", padding: false)",
      expected := some (.ok (.string "cGxlYXNlIGVuY29kZSBtZQ")) },
    { title := some "Encode to Base64 (URL safe)",
      source := "encode_base64(\"?>>\", charset: \"url_safe\")",
      expected := some (.ok (.string "Pz4-")) }]

/-- The digits of a text. -/
def encodeBase64 : Builtin where
  doc := encodeBase64.doc
  word := "encode_base64"
  required := ["value"]
  optional := ["padding", "charset"]
  body := fun a => do
    let s ← Action.textOf (a.get "value") "encode"
    let padding := (a.lookup "padding").getD (.scalar (.boolean true))
    let padded ← Action.look fun store => store.isTrue padding
    let digits := Base64.encode (Utf8.encode s)
    let shown := if isSafeCharset (a.get "charset") then digits.map Base64.toSafe else digits
    Action.text (String.ofList (if padded then shown else shown.takeWhile (· ≠ '=')))

/-- The doc of `decode_base64`. -/
def decodeBase64.doc : FunctionDoc where
  identifier := "decode_base64"
  summary := "Decode a Base64 string."
  description :=
    ("Decodes the `value` (a [Base64](https://en.wikipedia.org/wiki/Base64) string)\ninto " ++
     "its original string. Padding is optional.")
  category := some .codec
  parameters := [
    { name := "value", type := some (.primitive .string),
      description := "The [Base64](https://en.wikipedia.org/wiki/Base64) data to decode." },
    { name := "charset", type := some (.primitive .string),
      description := "The character set to use when decoding the data.",
      required := false, default := .string "standard",
      variants := charsetVariants }]
  returns := some
    { type := some (.primitive .string),
      description := "The decoded string; invalid UTF-8 sequences are replaced." }
  failureReasons := [
    "`value` isn't a valid encoded Base64 string."]
  examples := [
    { title := some "Decode Base64 data (default)",
      source := "decode_base64!(\"eW91IGhhdmUgc3VjY2Vzc2Z1bGx5IGRlY29kZWQgbWU=\")",
      expected := some (.ok (.string "you have successfully decoded me")) },
    { title := some "Decode Base64 data (URL safe)",
      source := "decode_base64!(\"Pz4-\", charset: \"url_safe\")",
      expected := some (.ok (.string "?>>")) },
    { title := some "Decode unpadded data",
      source := "decode_base64!(\"cGxlYXNlIGVuY29kZSBtZQ\")",
      expected := some (.ok (.string "please encode me")) },
    { title := some "Invalid Base64",
      source := "decode_base64!(\"not base64!\")",
      expected := some (.error ⟨"function_call", ""⟩) }]

/-- The complaint about a value to which a text cannot be appended. -/
def refuseJoin (d : Datum) : Action Datum :=
  match d with
  | .array _ => Action.fail (.badType "can only concatenate list (not \"str\") to list")
  | .object _ => Action.fail (.badType "unsupported operand type(s) for +: 'dict' and 'str'")
  | .scalar (.set _) => Action.fail (.badType "unsupported operand type(s) for +: 'set' and 'str'")
  | .scalar (.bytes _) => Action.fail (.badType "can't concat str to bytes")
  | .scalar _ => Action.lacksLength d

/-- The text of digits; equals signs may be missing at the end. -/
def decodeBase64 : Builtin where
  doc := decodeBase64.doc
  word := "decode_base64"
  required := ["value"]
  optional := ["charset"]
  body := fun a => do
    match a.get "value" with
    | .scalar (.string s) =>
      let digits := s.toList ++ List.replicate ((4 - s.length % 4) % 4) '='
      let plain := if isSafeCharset (a.get "charset") then digits.map Base64.ofSafe else digits
      match Base64.decode plain with
      | .ok bytes => Action.text (Utf8.decodeLossy bytes)
      | .error e => Action.refuse s!"unable to decode value from base64: {e.message}"
    | d => refuseJoin d

end FunctionManual.Standard
