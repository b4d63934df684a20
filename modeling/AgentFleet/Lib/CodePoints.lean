import Mathlib.Algebra.BigOperators.Group.List.Basic
import Mathlib.Algebra.GroupWithZero.Nat
import Mathlib.Tactic.Common

/-! # Texts of code points

A text whose code points may be lone surrogates, which no `String` holds.  Such a text has no
encoding; the others are the texts of `String` (`exists_ofString`).

Decoding that escapes malformed bytes as lone surrogates can be undone (`unescape_escaped`), so
different bytes are different texts. -/

namespace CodePoints

/-- A code point; a lone surrogate is one too. -/
abbrev CodePoint := Fin 1114112

/-- A text of code points. -/
abbrev Text := List CodePoint

/-- A code point that stands for no character. -/
def IsSurrogate (code : CodePoint) : Prop := 55296 ≤ code.val ∧ code.val ≤ 57343
deriving Decidable

/-- The code point of a character. -/
def ofChar (character : Char) : CodePoint :=
  ⟨character.toNat, by
    have hvalid := character.valid
    unfold UInt32.isValidChar Nat.isValidChar at hvalid
    unfold Char.toNat
    omega⟩

/-- The code points of a text of characters. -/
def ofString (text : String) : Text := text.toList.map ofChar

/-- How many bytes the encoding of a character takes. -/
def size (code : CodePoint) : ℕ :=
  if code.val < 128 then 1
  else if code.val < 2048 then 2
  else if code.val < 65536 then 3
  else 4

/-- How many bytes the encoding of a text takes; a lone surrogate cannot be encoded. -/
def encodedSize? (text : Text) : Option ℕ :=
  if text.any fun code => IsSurrogate code then none else some (text.map size).sum

variable {text : Text} {count : ℕ}

theorem size_ofChar (character : Char) : size (ofChar character) = character.utf8Size := by
  have hle : ∀ (bound : ℕ) (h : bound < UInt32.size),
      character.val ≤ UInt32.ofNatLT bound h ↔ character.toNat < bound + 1 :=
    fun bound h => UInt32.le_iff_toNat_le.trans Nat.lt_succ_iff.symm
  unfold size ofChar Char.utf8Size
  dsimp only
  rw [if_congr (hle 127 _) rfl rfl, if_congr (hle 2047 _) rfl rfl, if_congr (hle 65535 _) rfl rfl]

theorem exists_ofChar {code : CodePoint} (h : ¬ IsSurrogate code) :
    ∃ character, ofChar character = code := by
  unfold IsSurrogate at h
  have hvalid : code.val.isValidChar := by
    unfold Nat.isValidChar
    omega
  exact ⟨⟨UInt32.ofNatLT code.val (Char.isValidUInt32 _ hvalid),
    Char.isValidChar_of_isValidCharNat _ hvalid⟩, rfl⟩

theorem utf8ByteSize_ofString (text : String) :
    text.utf8ByteSize = ((ofString text).map size).sum := by
  have hlist : ∀ characters : List Char,
      (String.ofList characters).utf8ByteSize = ((characters.map ofChar).map size).sum := by
    intro characters
    induction characters with
    | nil => rfl
    | cons character characters ih =>
        rw [List.map_cons, List.map_cons, List.sum_cons, ← ih, size_ofChar,
          ← String.utf8ByteSize_singleton, ← String.utf8ByteSize_append,
          String.singleton_eq_ofList, ← String.ofList_append]
        rfl
  have h := hlist text.toList
  rw [String.ofList_toList] at h
  exact h

/-- What can be encoded is a text of characters. -/
theorem exists_ofString (h : encodedSize? text = some count) :
    ∃ characters : String, ofString characters = text ∧ characters.utf8ByteSize = count := by
  unfold encodedSize? at h
  split_ifs at h with hsurrogate
  have hcount := Option.some.inj h
  have hlist : ∃ characters : List Char, characters.map ofChar = text := by
    clear h hcount
    induction text with
    | nil => exact ⟨[], rfl⟩
    | cons code text ih =>
        rw [List.any_cons, Bool.or_eq_true, not_or, decide_eq_true_eq] at hsurrogate
        obtain ⟨characters, rfl⟩ := ih hsurrogate.2
        obtain ⟨character, rfl⟩ := exists_ofChar hsurrogate.1
        exact ⟨character :: characters, rfl⟩
  obtain ⟨characters, rfl⟩ := hlist
  have htext : ofString (String.ofList characters) = characters.map ofChar := by
    unfold ofString
    rw [String.toList_ofList]
  refine ⟨String.ofList characters, htext, ?_⟩
  rw [utf8ByteSize_ofString, htext]
  exact hcount

/-! ### Bytes that are no text -/

/-- The character that the bytes start with. -/
def decodeChar? (bytes : List UInt8) : Option Char := bytes.toByteArray.utf8DecodeChar? 0

/-- The surrogate of a malformed byte. -/
def escapeByte (byte : UInt8) : CodePoint :=
  ⟨56320 + byte.toNat, by
    have hbyte := byte.toNat_lt
    omega⟩

/-- Decoding after the bytes that belong to the character before. -/
def escapedFrom : ℕ → List UInt8 → Text
  | _, [] => []
  | skipped + 1, _ :: bytes => escapedFrom skipped bytes
  | 0, byte :: bytes =>
      match decodeChar? (byte :: bytes) with
      | some character => ofChar character :: escapedFrom (character.utf8Size - 1) bytes
      -- the bytes that go on with a malformed character are malformed on their own as well
      | none => escapeByte byte :: escapedFrom 0 bytes

/-- `bytes.decode("utf-8", errors="surrogateescape")`. -/
def escaped (bytes : List UInt8) : Text := escapedFrom 0 bytes

/-- The bytes of a code point, where an escaped byte is the byte. -/
def unescapeCode (code : CodePoint) : List UInt8 :=
  if IsSurrogate code then [UInt8.ofNat (code.val - 56320)]
  else String.utf8EncodeChar (Char.ofNat code.val)

/-- The bytes that a decoded text stands for. -/
def unescape (text : Text) : List UInt8 := text.flatMap unescapeCode

theorem unescapeCode_ofChar (character : Char) :
    unescapeCode (ofChar character) = String.utf8EncodeChar character := by
  have hvalid := character.valid
  unfold UInt32.isValidChar Nat.isValidChar at hvalid
  have hcode : ¬ IsSurrogate (ofChar character) := by
    show ¬ (55296 ≤ character.val.toNat ∧ character.val.toNat ≤ 57343)
    omega
  unfold unescapeCode
  rw [if_neg hcode]
  exact congrArg String.utf8EncodeChar (Char.ofNat_toNat character)

theorem unescapeCode_escapeByte (byte : UInt8) : unescapeCode (escapeByte byte) = [byte] := by
  have hbyte := byte.toNat_lt
  have hcode : IsSurrogate (escapeByte byte) := by
    show 55296 ≤ 56320 + byte.toNat ∧ 56320 + byte.toNat ≤ 57343
    omega
  have hval : (escapeByte byte).val - 56320 = byte.toNat := Nat.add_sub_cancel_left _ _
  unfold unescapeCode
  rw [if_pos hcode, hval, UInt8.ofNat_toNat]

/-- The bytes start with those of their first character. -/
theorem decodeChar?_eq {bytes : List UInt8} {character : Char}
    (h : decodeChar? bytes = some character) :
    bytes = String.utf8EncodeChar character ++ bytes.drop character.utf8Size := by
  obtain ⟨rest, hrest⟩ := ByteArray.exists_of_utf8DecodeChar?_eq_some h
  have hlist := congrArg (fun array : ByteArray => array.data.toList) hrest
  simp only [List.data_toByteArray, ByteArray.data_append, Array.toList_append] at hlist
  have hdrop : bytes.drop character.utf8Size = rest.data.toList := by
    rw [hlist, ← String.length_utf8EncodeChar, List.drop_left]
  rw [hdrop]
  exact hlist

theorem unescape_escapedFrom (skipped : ℕ) (bytes : List UInt8) :
    unescape (escapedFrom skipped bytes) = bytes.drop skipped := by
  induction bytes generalizing skipped with
  | nil => cases skipped <;> rfl
  | cons byte bytes ih =>
      cases skipped with
      | succ skipped => exact ih skipped
      | zero =>
          unfold escapedFrom
          cases hchar : decodeChar? (byte :: bytes) with
          | none =>
              have hrest := ih 0
              dsimp only
              unfold unescape at hrest ⊢
              rw [List.flatMap_cons, hrest, unescapeCode_escapeByte]
              rfl
          | some character =>
              have hrest := ih (character.utf8Size - 1)
              have hbytes := decodeChar?_eq hchar
              obtain ⟨more, hmore⟩ : ∃ more, character.utf8Size = more + 1 :=
                Nat.exists_eq_succ_of_ne_zero (Nat.ne_of_gt character.utf8Size_pos)
              dsimp only
              unfold unescape at hrest ⊢
              rw [List.flatMap_cons, hrest, unescapeCode_ofChar]
              rw [hmore] at hbytes ⊢
              exact hbytes.symm

/-- Decoded bytes are encoded back. -/
theorem unescape_escaped (bytes : List UInt8) : unescape (escaped bytes) = bytes :=
  unescape_escapedFrom 0 bytes

theorem escaped_injective : Function.Injective escaped :=
  Function.LeftInverse.injective unescape_escaped

end CodePoints
