import AgentFleet.Domain.JsonText
import AgentFleet.Domain.Security

/-! # The registry of secrets

A secret is registered under its own text and under the texts that common encodings make of it.
The forms of one secret share a group, and a form that is registered already keeps its group.

* `secretForms` are the forms of a secret.
* `SecretRegistry.snapshot` lists the forms in the order in which they are redacted. -/

namespace AgentFleet

open JsonValue (hexChar)

/-! ### The encodings -/

/-- A byte that `urllib.parse` never quotes. -/
def isUnreserved (byte : ℕ) : Bool :=
  let character := Char.ofNat byte
  byte < 128 ∧ (character.isAlphanum ∨ character ∈ ['_', '.', '-', '~'])

/-- A byte as `%XX`. -/
def percentByte (byte : ℕ) : List Char :=
  ['%', (hexChar (byte / 16)).toUpper, (hexChar (byte % 16)).toUpper]

/-- `quote(secret, safe="")`. -/
def quote (secret : String) : String :=
  String.ofList ((utf8 secret).flatMap fun byte =>
    if isUnreserved byte.toNat then [Char.ofNat byte.toNat] else percentByte byte.toNat)

/-- `quote_plus(secret, safe="")`. -/
def quotePlus (secret : String) : String :=
  String.ofList ((utf8 secret).flatMap fun byte =>
    if byte.toNat = 32 then ['+']
    else if isUnreserved byte.toNat then [Char.ofNat byte.toNat] else percentByte byte.toNat)

/-- The letters and digits of base64, before the two that the alphabets differ in. -/
def base64Letters : List Char :=
  "ABCDEFGHIJKLMNOPQRSTUVWXYZabcdefghijklmnopqrstuvwxyz0123456789".toList

/-- `base64.b64encode` without its padding, with the last two characters of the alphabet. -/
def base64 (last : List Char) : Bytes → List Char
  | [] => []
  | [a] =>
      let digit n := (base64Letters ++ last).getD n '='
      [digit (a.toNat / 4), digit (a.toNat % 4 * 16)]
  | [a, b] =>
      let digit n := (base64Letters ++ last).getD n '='
      [digit (a.toNat / 4), digit (a.toNat % 4 * 16 + b.toNat / 16), digit (b.toNat % 16 * 4)]
  | a :: b :: c :: rest =>
      let digit n := (base64Letters ++ last).getD n '='
      digit (a.toNat / 4) :: digit (a.toNat % 4 * 16 + b.toNat / 16)
        :: digit (b.toNat % 16 * 4 + c.toNat / 64) :: digit (c.toNat % 64) :: base64 last rest

/-- The padding of the base64 text of so many bytes. -/
def base64Padding (length : ℕ) : List Char := List.replicate ((3 - length % 3) % 3) '='

/-- `encoded.hex()`. -/
def hexText (encoded : Bytes) : String :=
  String.ofList (encoded.flatMap fun byte => [hexChar (byte.toNat / 16), hexChar (byte.toNat % 16)])

/-- A code unit as `\uXXXX`. -/
def unicodeEscape (unit : ℕ) : List Char :=
  Char.ofNat 92 :: 'u' :: [unit / 4096, unit / 256 % 16, unit / 16 % 16, unit % 16].map hexChar

/-- A character of `json.dumps(secret, ensure_ascii=True)`. -/
def asciiEscapedChar (c : Char) : List Char :=
  if c.toNat < 127 then
    -- what is escaped below 127 is escaped in every document
    JsonValue.escapedChar c
  else if c.toNat < 65536 then unicodeEscape c.toNat
  else
    let offset := c.toNat - 65536
    unicodeEscape (55296 + offset / 1024) ++ unicodeEscape (56320 + offset % 1024)

/-- `json.dumps(secret, ensure_ascii=True)[1:-1]`. -/
def jsonEscaped (secret : String) : String :=
  String.ofList (secret.toList.flatMap asciiEscapedChar)

/-- `_secret_forms`. -/
def secretForms (secret : String) : List String :=
  let encoded := utf8 secret
  let standard := base64 ['+', '/'] encoded
  let urlsafe := base64 ['-', '_'] encoded
  let padding := base64Padding encoded.length
  let items := [secret, quote secret, quotePlus secret,
    String.ofList (standard ++ padding), String.ofList standard,
    String.ofList (urlsafe ++ padding), String.ofList urlsafe, hexText encoded, jsonEscaped secret]
  (items.filter fun item => item ≠ "").dedup

/-! ### The registry -/

/-- The fields of `Redactor`. -/
structure SecretRegistry where
  registeredValues : List String := []
  forms : List SecretForm := []
  nextGroup : ℕ := 1

namespace SecretRegistry

/-- `forms.setdefault(form, group)`. -/
def setDefault (group : ℕ) (forms : List SecretForm) (form : String) : List SecretForm :=
  if form ∈ forms.map Prod.fst then forms else forms ++ [(form, group)]

/-- `register_secret`. -/
def registerSecret (registry : SecretRegistry) (secret : String) : SecretRegistry × Bool :=
  if secret = "" ∨ secret ∈ registry.registeredValues then (registry, false)
  else
    ({ registeredValues := registry.registeredValues ++ [secret]
       forms := (secretForms secret).foldl (setDefault registry.nextGroup) registry.forms
       nextGroup := registry.nextGroup + 1 }, true)

/-- A registry of these secrets, registered one after another. -/
def ofSecrets (secrets : List String) : SecretRegistry :=
  secrets.foldl (fun registry secret => (registry.registerSecret secret).1) {}

/-- The order in which forms are redacted: the longest first, then by their texts. -/
def formBefore (a b : SecretForm) : Bool :=
  b.1.length < a.1.length ∨ a.1.length = b.1.length ∧ a.1 ≤ b.1

/-- `_snapshot`. -/
def snapshot (registry : SecretRegistry) : List SecretForm := registry.forms.mergeSort formBefore

theorem mem_snapshot {registry : SecretRegistry} {form : SecretForm} :
    form ∈ registry.snapshot ↔ form ∈ registry.forms := List.mem_mergeSort

end SecretRegistry

end AgentFleet
