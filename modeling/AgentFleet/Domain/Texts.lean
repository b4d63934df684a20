import AgentFleet.Domain.Models
import Mathlib.Data.List.Infix

/-! # Texts

The operations on texts that the models share, on lists of characters: prefixes and suffixes,
identifiers and digests, `in`, `replace` and `strip`. -/

namespace AgentFleet

/-! ### Bytes and letters -/

abbrev Bytes := List UInt8

/-- `text.encode("utf-8")`. -/
def utf8 (text : String) : Bytes := text.toByteArray.data.toList

theorem utf8_injective : Function.Injective utf8 := fun _ _ h =>
  String.toByteArray_inj.mp (ByteArray.ext (Array.toList_inj.mp h))

theorem length_utf8 (text : String) : (utf8 text).length = text.utf8ByteSize := rfl

/-- The bytes of an ASCII text. -/
def ascii (text : String) : Bytes := text.toList.map fun character => UInt8.ofNat character.toNat

theorem utf8_ofList (characters : List Char) :
    utf8 (String.ofList characters) = characters.flatMap String.utf8EncodeChar := by
  show (characters.flatMap String.utf8EncodeChar).toByteArray.data.toList = _
  simp

theorem utf8_ascii {text : String} (h : ∀ character ∈ text.toList, character.toNat < 128) :
    utf8 text = ascii text := by
  have hone : ∀ character ∈ text.toList,
      String.utf8EncodeChar character = [UInt8.ofNat character.toNat] := by
    intro character hmem
    have hsize : character.utf8Size = 1 := by
      rw [Char.utf8Size_eq_one_iff, UInt32.le_iff_toNat_le]
      exact Nat.lt_succ_iff.mp (h character hmem)
    rw [String.utf8EncodeChar_eq_singleton hsize]
    rfl
  have hlist := utf8_ofList text.toList
  rw [String.ofList_toList, List.flatMap_congr hone, ← List.map_eq_flatMap] at hlist
  exact hlist

/-- Statements about the characters of a text are decided by going through the text, not through
all characters. -/
instance (priority := high) decidableForallCharacters (text : List Char) (p : Char → Prop)
    [DecidablePred p] : Decidable (∀ character, character ∈ text → p character) :=
  List.decidableBAll p text

/-- `str.casefold`, of which only the ASCII part is used: there it is lower case. -/
structure Casefold where
  fold : String → String
  ascii : ∀ text : String, (∀ character ∈ text.toList, character.toNat < 128) →
    fold text = String.ofList (text.toList.map Char.toLower)

/-- Folding that only knows ASCII. -/
def lowerCasefold : Casefold where
  fold text := String.ofList (text.toList.map Char.toLower)
  ascii _ _ := rfl

/-! ### Prefixes and suffixes -/

/-- `text.startswith(head)`. -/
def textStartsWith (text head : String) : Bool := head.toList.isPrefixOf text.toList

/-- `text[len(head):]` after `text.startswith(head)`. -/
def textAfter? (text head : String) : Option String :=
  if textStartsWith text head then some (String.ofList (text.toList.drop head.toList.length))
  else none

/-- `text[:-len(tail)]` after `text.endswith(tail)`. -/
def textBefore? (text tail : String) : Option String :=
  if tail.toList.isSuffixOf text.toList then
    some (String.ofList (text.toList.take (text.toList.length - tail.toList.length)))
  else none

/-! ### Identifiers -/

/-- A match of `^<kind>_[0-9a-f]{<digits>}$`. -/
def hasIdentity (kind : String) (digits : ℕ) (value : String) : Bool :=
  match textAfter? value (kind ++ "_") with
  | some rest => rest.toList.length = digits ∧ rest.toList.all isHexDigit = true
  | none => false

/-- A match of `^[0-9a-f]{<digits>}$`. -/
def isHexText (digits : ℕ) (value : String) : Bool :=
  value.toList.length = digits ∧ value.toList.all isHexDigit = true

/-- `ProjectId`. -/
def isProjectId (value : String) : Bool := hasIdentity "prj" 32 value

/-! ### Occurrences -/

/-- `form in text`. -/
def textHas (text form : String) : Bool := form.toList <:+: text.toList

/-- `text.replace(form, replacement)`; the first `skip` characters are the rest of a form that was
just replaced. -/
def replaceForm (form replacement : List Char) : ℕ → List Char → List Char
  | _, [] => []
  | skip + 1, _ :: rest => replaceForm form replacement skip rest
  | 0, c :: rest =>
      if form.isPrefixOf (c :: rest) then
        replacement ++ replaceForm form replacement (form.length - 1) rest
      else c :: replaceForm form replacement 0 rest

/-! ### Blanks -/

/-- `c.isspace()`. -/
def isSpaceChar (c : Char) : Bool :=
  [9, 10, 11, 12, 13, 28, 29, 30, 31, 32, 133, 160, 5760, 8192, 8193, 8194, 8195, 8196, 8197,
    8198, 8199, 8200, 8201, 8202, 8232, 8233, 8239, 8287, 12288].contains c.toNat

/-- `not text.strip()`. -/
def isBlankText (text : String) : Bool := text.toList.all isSpaceChar

end AgentFleet
