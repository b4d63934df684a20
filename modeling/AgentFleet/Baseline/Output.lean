import AgentFleet.Domain.SecretForms
import AgentFleet.Lib.Utf8

/-! # The output of a baseline command

`_baseline_output` decodes the bytes of both streams, redacts the texts, escapes their control
characters and cuts what has become too long.  Which characters are format characters is a table of
the standard library, of which only its printable ASCII part is used.

`baselineOutput_bounded` says what is returned for all streams within the limit. -/

namespace AgentFleet

/-! ### Escaping -/

/-- The characters that `unicodedata.category` puts into `Cf`. -/
structure FormatTable where
  isFormat : Char → Bool
  ascii : ∀ character : Char, character.toNat < 128 → isFormat character = false

/-- A character that `unicodedata.category` puts into `Cc`. -/
def isControl (character : Char) : Bool :=
  character.toNat < 32 ∨ 127 ≤ character.toNat ∧ character.toNat < 160

/-- `f"{code:04x}"`, of a code below the end of the planes. -/
def hexDigits (code : ℕ) : List Char :=
  let tail := [code / 4096 % 16, code / 256 % 16, code / 16 % 16, code % 16]
  let digits :=
    if code < 65536 then tail
    else if code < 1048576 then code / 65536 :: tail
    else code / 1048576 :: code / 65536 % 16 :: tail
  digits.map JsonValue.hexChar

section Output

variable (table : FormatTable)

/-- `unicodedata.category(char) in {"Cc", "Cf"}`. -/
def isControlOrFormat (character : Char) : Bool :=
  isControl character || table.isFormat character

/-- A character of the escaped text. -/
def escapeControl (character : Char) : List Char :=
  if isControlOrFormat table character ∧ character ≠ '\n' ∧ character ≠ '\t' then
    '\\' :: 'u' :: hexDigits character.toNat
  else [character]

/-- `_baseline_gateway_error`. -/
def baselineGatewayError : FleetError where
  code := .recoveryRequired
  message := "The exact baseline Gateway scope is unavailable."
  remediation := "Inspect the permanent controller and dispatch claim; do not replay the command."

/-! ### The two streams -/

/-- The decoded text of a stream, and whether malformed bytes were replaced. -/
def decodedStream (raw : Bytes) : String × Bool :=
  match Utf8.strict raw with
  | some decoded => (decoded, false)
  | none => (Utf8.replace raw, true)

variable (registry : SecretRegistry)

/-- The whole text of a stream, redacted and escaped. -/
def safeText (raw : Bytes) : String :=
  String.ofList ((redactText registry.snapshot (decodedStream raw).1).1.toList.flatMap
    (escapeControl table))

/-- The text that is kept of a stream, and whether it was shortened. -/
def keptText (remaining : ℕ) (raw : Bytes) : String × Bool :=
  let safe := utf8 (safeText table registry raw)
  if remaining < safe.length then (Utf8.ignore (safe.take remaining), true)
  else (Utf8.ignore safe, false)

/-- What `_baseline_output` returns. -/
structure BaselineOutput where
  stdout : String
  stderr : String
  replaced : Bool
  shortened : Bool

/-- `_baseline_output`. -/
def baselineOutput (stdout stderr : Bytes) : Except FleetError BaselineOutput :=
  if 64000 < stdout.length + stderr.length then .error baselineGatewayError
  else
    let first := keptText table registry 64000 stdout
    let second := keptText table registry (64000 - (utf8 first.1).length) stderr
    .ok {
      stdout := first.1
      stderr := second.1
      replaced := (decodedStream stdout).2 || (decodedStream stderr).2
      shortened := first.2 || second.2 }

end Output

/-! ### What is kept -/

variable {table : FormatTable} {registry : SecretRegistry} {remaining : ℕ} {raw : Bytes}

theorem hexChar_mem (n : ℕ) : JsonValue.hexChar n ∈ "0123456789abcdef".toList := by
  unfold JsonValue.hexChar
  rw [List.getD_eq_getElem?_getD]
  cases hdigit : "0123456789abcdef".toList[n]? with
  | none => decide
  | some => exact List.mem_of_getElem? hdigit

/-- An escape is printable, so only line feeds and tabs are left of what is escaped. -/
theorem isControlOrFormat_escapeControl {character shown : Char}
    (hshown : shown ∈ escapeControl table character)
    (h : isControlOrFormat table shown = true) : shown = '\n' ∨ shown = '\t' := by
  have hplain : ∀ digit ∈ '\\' :: 'u' :: "0123456789abcdef".toList,
      isControlOrFormat table digit = false := by
    intro digit hdigit
    have hascii : digit.toNat < 128 ∧ isControl digit = false := by
      revert digit
      decide
    rw [isControlOrFormat, hascii.2, table.ascii digit hascii.1]
    rfl
  unfold escapeControl at hshown
  split_ifs at hshown with hescaped
  · have hmem : shown ∈ '\\' :: 'u' :: "0123456789abcdef".toList := by
      rcases List.mem_cons.mp hshown with rfl | hrest
      · exact List.mem_cons_self
      · rcases List.mem_cons.mp hrest with rfl | hdigit
        · exact List.mem_cons_of_mem _ List.mem_cons_self
        · obtain ⟨digit, -, rfl⟩ := List.mem_map.mp hdigit
          exact List.mem_cons_of_mem _ (List.mem_cons_of_mem _ (hexChar_mem digit))
    rw [hplain shown hmem] at h
    cases h
  · obtain rfl := List.mem_singleton.mp hshown
    by_contra hother
    rw [not_or] at hother
    exact hescaped ⟨h, hother⟩

/-- The kept text is the part of the whole text that fits. -/
theorem keptText_eq :
    keptText table registry remaining raw
      = (String.ofList (Utf8.fitting remaining (safeText table registry raw).toList),
        decide (remaining < (utf8 (safeText table registry raw)).length)) := by
  have hbytes : utf8 (safeText table registry raw)
      = (safeText table registry raw).toList.flatMap String.utf8EncodeChar := by
    rw [← utf8_ofList, String.ofList_toList]
  have htake := Utf8.ignore_take remaining (safeText table registry raw).toList
  rw [← hbytes] at htake
  unfold keptText
  dsimp only
  split_ifs with hlong
  · rw [htake, decide_eq_true hlong]
  · rw [List.take_of_length_le (not_lt.mp hlong)] at htake
    rw [htake, decide_eq_false hlong]

/-- What is known of the text that is kept of a stream. -/
theorem keptText_spec :
    (utf8 (keptText table registry remaining raw).1).length ≤ remaining
      ∧ (keptText table registry remaining raw).1.toList <+: (safeText table registry raw).toList
      ∧ ((keptText table registry remaining raw).2 = true
        ↔ (keptText table registry remaining raw).1 ≠ safeText table registry raw) := by
  have hbytes : utf8 (safeText table registry raw)
      = (safeText table registry raw).toList.flatMap String.utf8EncodeChar := by
    rw [← utf8_ofList, String.ofList_toList]
  have hfits := Utf8.fitting_eq_iff remaining (safeText table registry raw).toList
  rw [← hbytes] at hfits
  rw [keptText_eq]
  refine ⟨?_, ?_, ?_⟩
  · rw [utf8_ofList]
    exact Utf8.length_fitting_le _ _
  · rw [String.toList_ofList]
    exact Utf8.fitting_prefix _ _
  · have hsame : String.ofList (Utf8.fitting remaining (safeText table registry raw).toList)
        = safeText table registry raw
        ↔ Utf8.fitting remaining (safeText table registry raw).toList
          = (safeText table registry raw).toList := by
      rw [← String.toList_inj, String.toList_ofList]
    dsimp only
    rw [decide_eq_true_eq, Ne, hsame, hfits, not_le]

/-- What is kept of a stream has no control characters but line feeds and tabs. -/
theorem isControlOrFormat_keptText {character : Char}
    (hmem : character ∈ (keptText table registry remaining raw).1.toList)
    (h : isControlOrFormat table character = true) : character = '\n' ∨ character = '\t' := by
  have hsafe := keptText_spec.2.1.subset hmem
  rw [safeText, String.toList_ofList] at hsafe
  obtain ⟨source, -, hshown⟩ := List.mem_flatMap.mp hsafe
  exact isControlOrFormat_escapeControl hshown h

/-- Streams within the limit are returned within it: as prefixes of their redacted and escaped
texts, of whole characters, without control characters, and marked when anything was left out. -/
theorem baselineOutput_bounded (table : FormatTable) (registry : SecretRegistry)
    (stdout stderr : Bytes) (hlength : stdout.length + stderr.length ≤ 64000) :
    ∃ out, baselineOutput table registry stdout stderr = .ok out
      ∧ (utf8 out.stdout).length + (utf8 out.stderr).length ≤ 64000
      ∧ out.stdout.toList <+: (safeText table registry stdout).toList
      ∧ out.stderr.toList <+: (safeText table registry stderr).toList
      ∧ (∀ character ∈ out.stdout.toList ++ out.stderr.toList,
        isControlOrFormat table character = true → character = '\n' ∨ character = '\t')
      ∧ (out.shortened = true
        ↔ out.stdout ≠ safeText table registry stdout
          ∨ out.stderr ≠ safeText table registry stderr) := by
  obtain ⟨hfirst, hout, hcut⟩ := @keptText_spec table registry 64000 stdout
  obtain ⟨hsecond, herr, hcut'⟩ := @keptText_spec table registry
    (64000 - (utf8 (keptText table registry 64000 stdout).1).length) stderr
  refine ⟨_, if_neg (not_lt.mpr hlength), ?_, hout, herr, ?_, ?_⟩
  · dsimp only
    omega
  · intro character hmem h
    rcases List.mem_append.mp hmem with hmem | hmem
    · exact isControlOrFormat_keptText hmem h
    · exact isControlOrFormat_keptText hmem h
  · dsimp only
    rw [Bool.or_eq_true, hcut, hcut']

/-- A table without format characters. -/
def noFormats : FormatTable := ⟨fun _ => false, fun _ _ => rfl⟩

theorem baselineOutput_bounded_escape :
    ∃ out, baselineOutput noFormats {} [27, 65] [255] = .ok out
      ∧ (utf8 out.stdout).length + (utf8 out.stderr).length ≤ 64000
      ∧ (out.shortened = true
        ↔ out.stdout ≠ safeText noFormats {} [27, 65]
          ∨ out.stderr ≠ safeText noFormats {} [255]) := by
  obtain ⟨out, hok, hlength, -, -, -, hshortened⟩ :=
    baselineOutput_bounded noFormats {} [27, 65] [255] (by decide)
  exact ⟨out, hok, hlength, hshortened⟩

end AgentFleet
