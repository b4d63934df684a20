import Mathlib.Tactic.Common
import Mathlib.Tactic.SplitIfs

/-! # Decoding of UTF-8

The decoder reads one byte after another and keeps what it knows of the character that it is in.
A byte that the character cannot go on with ends the character as malformed and is read again as a
first byte; what a text breaks off in is malformed as a whole.

* `units` are the characters and the malformed parts of a sequence of bytes, in order.
* `units_encode` reads an encoded text back.
* `ignore_take` reads of the first bytes of an encoded text the characters that are complete. -/

namespace Utf8

/-- A character of which some bytes are read: how many are still needed, the bounds of the next one,
and the code so far. -/
structure Pending where
  needed : ℕ
  low : ℕ
  high : ℕ
  code : ℕ

/-- A first byte: the units that it completes, and what is pending after it. -/
def first (byte : ℕ) : List (Option Char) × Option Pending :=
  if byte < 128 then ([some (Char.ofNat byte)], none)
  else if 194 ≤ byte ∧ byte ≤ 223 then ([], some ⟨1, 128, 191, byte - 192⟩)
  else if byte = 224 then ([], some ⟨2, 160, 191, 0⟩)
  else if byte = 237 then ([], some ⟨2, 128, 159, 13⟩)
  else if 225 ≤ byte ∧ byte ≤ 239 then ([], some ⟨2, 128, 191, byte - 224⟩)
  else if byte = 240 then ([], some ⟨3, 144, 191, 0⟩)
  else if byte = 244 then ([], some ⟨3, 128, 143, 4⟩)
  else if 241 ≤ byte ∧ byte ≤ 243 then ([], some ⟨3, 128, 191, byte - 240⟩)
  else ([none], none)

/-- One byte more. -/
def step : Option Pending → ℕ → List (Option Char) × Option Pending
  | none, byte => first byte
  | some pending, byte =>
      if pending.low ≤ byte ∧ byte ≤ pending.high then
        let code := pending.code * 64 + (byte - 128)
        if pending.needed ≤ 1 then ([some (Char.ofNat code)], none)
        else ([], some ⟨pending.needed - 1, 128, 191, code⟩)
      else (none :: (first byte).1, (first byte).2)

/-- The characters of a sequence of bytes; a malformed part is `none`. -/
def units : Option Pending → List UInt8 → List (Option Char)
  | none, [] => []
  | some _, [] => [none]
  | pending, byte :: bytes =>
      (step pending byte.toNat).1 ++ units (step pending byte.toNat).2 bytes

/-- `decode("utf-8")`, which raises on a malformed part. -/
def strict (bytes : List UInt8) : Option String := ((units none bytes).mapM id).map String.ofList

/-- `decode("utf-8", errors="replace")`. -/
def replace (bytes : List UInt8) : String :=
  String.ofList ((units none bytes).map fun unit => unit.getD (Char.ofNat 65533))

/-- `decode("utf-8", errors="ignore")`. -/
def ignore (bytes : List UInt8) : String := String.ofList ((units none bytes).filterMap id)

/-! ### Encoded characters -/

variable {bytes : List UInt8} {code : ℕ}

@[simp] theorem units_nil : units none [] = [] := rfl

theorem units_cons {pending : Option Pending} {byte : UInt8} :
    units pending (byte :: bytes)
      = (step pending byte.toNat).1 ++ units (step pending byte.toNat).2 bytes := by
  cases pending with
  | none | some pending => rfl

/-- A first byte that completes no character. -/
theorem units_first {byte : ℕ} {pending : Pending} (hbyte : byte < 256)
    (h : first byte = ([], some pending)) :
    units none (UInt8.ofNat byte :: bytes) = units (some pending) bytes := by
  have hnat : (UInt8.ofNat byte).toNat = byte := UInt8.toNat_ofNat_of_lt' hbyte
  rw [units_cons, hnat, step, h]
  rfl

theorem units_more {needed low high byte : ℕ} (hneeded : 1 < needed) (hlow : low ≤ byte)
    (hhigh : byte ≤ high) (hbyte : byte < 256) :
    units (some ⟨needed, low, high, code⟩) (UInt8.ofNat byte :: bytes)
      = units (some ⟨needed - 1, 128, 191, code * 64 + (byte - 128)⟩) bytes := by
  have hnat : (UInt8.ofNat byte).toNat = byte := UInt8.toNat_ofNat_of_lt' hbyte
  rw [units_cons, hnat, step]
  dsimp only
  rw [if_pos ⟨hlow, hhigh⟩, if_neg (by omega)]
  rfl

theorem units_last {low high byte : ℕ} (hlow : low ≤ byte) (hhigh : byte ≤ high)
    (hbyte : byte < 256) :
    units (some ⟨1, low, high, code⟩) (UInt8.ofNat byte :: bytes)
      = some (Char.ofNat (code * 64 + (byte - 128))) :: units none bytes := by
  have hnat : (UInt8.ofNat byte).toNat = byte := UInt8.toNat_ofNat_of_lt' hbyte
  rw [units_cons, hnat, step]
  dsimp only
  rw [if_pos ⟨hlow, hhigh⟩, if_pos (Nat.le_refl 1)]
  rfl

theorem toNat_bounds (character : Char) :
    character.toNat < 55296 ∨ 57343 < character.toNat ∧ character.toNat < 1114112 :=
  character.valid

theorem first_two {code : ℕ} (hlow : 128 ≤ code) (hhigh : code < 2048) :
    first (code / 64 % 32 + 192) = ([], some ⟨1, 128, 191, code / 64⟩) := by
  have hcode : code / 64 % 32 + 192 - 192 = code / 64 := by omega
  rw [first, if_neg (by omega), if_pos (by omega), hcode]

/-- The first byte of three bounds the second one against overlong forms and surrogates. -/
theorem first_three {code : ℕ} (hlow : 2048 ≤ code) (hhigh : code < 65536)
    (hscalar : code < 55296 ∨ 57343 < code) :
    ∃ low high, first (code / 4096 % 16 + 224) = ([], some ⟨2, low, high, code / 4096⟩)
      ∧ low ≤ code / 64 % 64 + 128 ∧ code / 64 % 64 + 128 ≤ high := by
  have hcode : code / 4096 % 16 + 224 - 224 = code / 4096 := by omega
  rw [first, if_neg (by omega), if_neg (by omega)]
  by_cases hzero : code / 4096 % 16 + 224 = 224
  · have hnone : code / 4096 = 0 := by omega
    rw [if_pos hzero, hnone]
    exact ⟨160, 191, rfl, by omega, by omega⟩
  · rw [if_neg hzero]
    by_cases hsurrogate : code / 4096 % 16 + 224 = 237
    · have hthirteen : code / 4096 = 13 := by omega
      rw [if_pos hsurrogate, hthirteen]
      exact ⟨128, 159, rfl, by omega, by omega⟩
    · rw [if_neg hsurrogate, if_pos (by omega), hcode]
      exact ⟨128, 191, rfl, by omega, by omega⟩

/-- The first byte of four bounds the second one against overlong forms and the end of the
planes. -/
theorem first_four {code : ℕ} (hlow : 65536 ≤ code) (hhigh : code < 1114112) :
    ∃ low high, first (code / 262144 % 8 + 240) = ([], some ⟨3, low, high, code / 262144⟩)
      ∧ low ≤ code / 4096 % 64 + 128 ∧ code / 4096 % 64 + 128 ≤ high := by
  have hcode : code / 262144 % 8 + 240 - 240 = code / 262144 := by omega
  rw [first, if_neg (by omega), if_neg (by omega), if_neg (by omega), if_neg (by omega),
    if_neg (by omega)]
  by_cases hzero : code / 262144 % 8 + 240 = 240
  · have hnone : code / 262144 = 0 := by omega
    rw [if_pos hzero, hnone]
    exact ⟨144, 191, rfl, by omega, by omega⟩
  · rw [if_neg hzero]
    by_cases hend : code / 262144 % 8 + 240 = 244
    · have hfour : code / 262144 = 4 := by omega
      rw [if_pos hend, hfour]
      exact ⟨128, 143, rfl, by omega, by omega⟩
    · rw [if_neg hend, if_pos (by omega), hcode]
      exact ⟨128, 191, rfl, by omega, by omega⟩

theorem units_two {code : ℕ} (hlow : 128 ≤ code) (hhigh : code < 2048) :
    units none (UInt8.ofNat (code / 64 % 32 + 192) :: UInt8.ofNat (code % 64 + 128) :: bytes)
      = some (Char.ofNat code) :: units none bytes := by
  have hcode : code / 64 * 64 + (code % 64 + 128 - 128) = code := by omega
  rw [units_first (by omega) (first_two hlow hhigh),
    units_last (by omega) (by omega) (by omega), hcode]

theorem units_three {code : ℕ} (hlow : 2048 ≤ code) (hhigh : code < 65536)
    (hscalar : code < 55296 ∨ 57343 < code) :
    units none (UInt8.ofNat (code / 4096 % 16 + 224) :: UInt8.ofNat (code / 64 % 64 + 128)
        :: UInt8.ofNat (code % 64 + 128) :: bytes)
      = some (Char.ofNat code) :: units none bytes := by
  obtain ⟨low, high, hfirst, hbounds⟩ := first_three hlow hhigh hscalar
  have hcode : (code / 4096 * 64 + (code / 64 % 64 + 128 - 128)) * 64 + (code % 64 + 128 - 128)
      = code := by omega
  rw [units_first (by omega) hfirst, units_more (by omega) hbounds.1 hbounds.2 (by omega),
    units_last (by omega) (by omega) (by omega), hcode]

theorem units_four {code : ℕ} (hlow : 65536 ≤ code) (hhigh : code < 1114112) :
    units none (UInt8.ofNat (code / 262144 % 8 + 240) :: UInt8.ofNat (code / 4096 % 64 + 128)
        :: UInt8.ofNat (code / 64 % 64 + 128) :: UInt8.ofNat (code % 64 + 128) :: bytes)
      = some (Char.ofNat code) :: units none bytes := by
  obtain ⟨low, high, hfirst, hbounds⟩ := first_four hlow hhigh
  have hcode : ((code / 262144 * 64 + (code / 4096 % 64 + 128 - 128)) * 64
      + (code / 64 % 64 + 128 - 128)) * 64 + (code % 64 + 128 - 128) = code := by omega
  rw [units_first (by omega) hfirst, units_more (by omega) hbounds.1 hbounds.2 (by omega),
    units_more (by omega) (by omega) (by omega) (by omega),
    units_last (by omega) (by omega) (by omega), hcode]

theorem units_encodeChar (character : Char) :
    units none (String.utf8EncodeChar character ++ bytes)
      = some character :: units none bytes := by
  have hbounds := toNat_bounds character
  have hcode : Char.ofNat character.toNat = character := Char.ofNat_toNat character
  have hval : character.val.toNat = character.toNat := rfl
  unfold String.utf8EncodeChar
  dsimp only
  rw [hval]
  split_ifs with hone htwo hthree
  · have hnat : (UInt8.ofNat character.toNat).toNat = character.toNat :=
      UInt8.toNat_ofNat_of_lt' (Nat.lt_of_le_of_lt hone (by decide))
    rw [List.singleton_append, units_cons, hnat, step, first, if_pos (by omega), hcode]
    rfl
  · have hread := @units_two bytes character.toNat (by omega) (by omega)
    rw [hcode] at hread
    exact hread
  · have hread := @units_three bytes character.toNat (by omega) (by omega) (by omega)
    rw [hcode] at hread
    exact hread
  · have hread := @units_four bytes character.toNat (by omega) (by omega)
    rw [hcode] at hread
    exact hread

theorem units_encode (text : List Char) :
    units none (text.flatMap String.utf8EncodeChar ++ bytes)
      = text.map some ++ units none bytes := by
  induction text with
  | nil => rfl
  | cons character text ih =>
      rw [List.flatMap_cons, List.append_assoc, units_encodeChar, ih]
      rfl

theorem strict_encode (text : List Char) :
    strict (text.flatMap String.utf8EncodeChar) = some (String.ofList text) := by
  have hunits := @units_encode [] text
  rw [List.append_nil, units_nil, List.append_nil] at hunits
  have hall (l : List Char) : (l.map some).mapM id = some l := by
    induction l with
    | nil => rfl
    | cons c l ih =>
        rw [List.map_cons, List.mapM_cons, ih]
        rfl
  rw [strict, hunits, hall, Option.map_some]

/-! ### Encoded texts that break off -/

theorem units_take_encodeChar {character : Char} {count : ℕ} (hpos : 0 < count)
    (hcount : count < character.utf8Size) :
    units none ((String.utf8EncodeChar character).take count) = [none] := by
  have hbounds := toNat_bounds character
  have hval : character.val.toNat = character.toNat := rfl
  rw [← String.length_utf8EncodeChar] at hcount
  unfold String.utf8EncodeChar at hcount ⊢
  dsimp only at hcount ⊢
  rw [hval] at hcount ⊢
  split_ifs at hcount ⊢ with hone htwo hthree
  · rw [List.length_singleton] at hcount
    omega
  · obtain rfl : count = 1 := by
      simp only [List.length_cons, List.length_nil] at hcount
      omega
    have hread := @units_first [] _ _ (by omega)
      (@first_two character.toNat (by omega) (by omega))
    exact hread
  · obtain ⟨low, high, hfirst, hlow, hhigh⟩ :=
      @first_three character.toNat (by omega) (by omega) (by omega)
    have hcases : count = 1 ∨ count = 2 := by
      simp only [List.length_cons, List.length_nil] at hcount
      omega
    rcases hcases with rfl | rfl
    · exact @units_first [] _ _ (by omega) hfirst
    · have hread := @units_first [UInt8.ofNat (character.toNat / 64 % 64 + 128)] _ _ (by omega)
        hfirst
      rw [units_more (by omega) hlow hhigh (by omega)] at hread
      exact hread
  · obtain ⟨low, high, hfirst, hlow, hhigh⟩ :=
      @first_four character.toNat (by omega) (by omega)
    have hcases : count = 1 ∨ count = 2 ∨ count = 3 := by
      simp only [List.length_cons, List.length_nil] at hcount
      omega
    rcases hcases with rfl | rfl | rfl
    · exact @units_first [] _ _ (by omega) hfirst
    · have hread := @units_first [UInt8.ofNat (character.toNat / 4096 % 64 + 128)] _ _ (by omega)
        hfirst
      rw [units_more (by omega) hlow hhigh (by omega)] at hread
      exact hread
    · have hread := @units_first [UInt8.ofNat (character.toNat / 4096 % 64 + 128),
        UInt8.ofNat (character.toNat / 64 % 64 + 128)] _ _ (by omega) hfirst
      rw [units_more (by omega) hlow hhigh (by omega),
        units_more (by omega) (by omega) (by omega) (by omega)] at hread
      exact hread

/-- The characters from the start of a text that take no more bytes than there are. -/
def fitting : ℕ → List Char → List Char
  | _, [] => []
  | count, character :: text =>
      if character.utf8Size ≤ count then character :: fitting (count - character.utf8Size) text
      else []

theorem fitting_prefix (count : ℕ) (text : List Char) : fitting count text <+: text := by
  induction text generalizing count with
  | nil => exact List.nil_prefix
  | cons character text ih =>
      unfold fitting
      split_ifs
      · exact List.cons_prefix_cons.mpr ⟨rfl, ih _⟩
      · exact List.nil_prefix

theorem length_fitting_le (count : ℕ) (text : List Char) :
    ((fitting count text).flatMap String.utf8EncodeChar).length ≤ count := by
  induction text generalizing count with
  | nil => exact Nat.zero_le _
  | cons character text ih =>
      unfold fitting
      split_ifs with hfits
      · have hrest := ih (count - character.utf8Size)
        rw [List.flatMap_cons, List.length_append, String.length_utf8EncodeChar]
        omega
      · exact Nat.zero_le _

/-- Nothing is left out exactly of a text that fits. -/
theorem fitting_eq_iff (count : ℕ) (text : List Char) :
    fitting count text = text ↔ (text.flatMap String.utf8EncodeChar).length ≤ count := by
  constructor
  · intro h
    have hle := length_fitting_le count text
    rw [h] at hle
    exact hle
  · intro h
    induction text generalizing count with
    | nil => rfl
    | cons character text ih =>
        rw [List.flatMap_cons, List.length_append, String.length_utf8EncodeChar] at h
        unfold fitting
        rw [if_pos (by omega), ih _ (by omega)]

/-- Of an encoded text that breaks off, the complete characters are read. -/
theorem ignore_take (count : ℕ) (text : List Char) :
    ignore ((text.flatMap String.utf8EncodeChar).take count)
      = String.ofList (fitting count text) := by
  have hunits : (units none ((text.flatMap String.utf8EncodeChar).take count)).filterMap id
      = fitting count text := by
    induction text generalizing count with
    | nil => cases count <;> rfl
    | cons character text ih =>
        have hlength := String.length_utf8EncodeChar character
        rw [List.flatMap_cons, fitting, List.take_append, hlength]
        split_ifs with hfits
        · rw [List.take_of_length_le (by omega), units_encodeChar, List.filterMap_cons, ih]
          rfl
        · have hrest : count - character.utf8Size = 0 := by omega
          rw [hrest, List.take_zero, List.append_nil]
          rcases Nat.eq_zero_or_pos count with rfl | hpos
          · rfl
          · rw [units_take_encodeChar hpos (Nat.lt_of_not_le hfits)]
            rfl
  unfold ignore
  rw [hunits]

end Utf8
