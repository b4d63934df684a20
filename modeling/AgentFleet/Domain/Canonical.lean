import AgentFleet.Domain.JsonCode
import AgentFleet.Domain.Texts
import Mathlib.Algebra.Order.BigOperators.Group.List

/-! # Canonical records

`canonical` gives the bytes of a record that digests are taken of, and refuses a document that is
nested too deeply, has too many nodes or too many bytes.

* `plain_eq` says what `_plain` bounds: the height of the document and the number of its nodes.
* `canonical_eq_some_iff` says which documents have canonical bytes.
* `canonical_cancel` says that the bytes determine the document, up to the order of its entries. -/

namespace AgentFleet

open JsonValue

/-! ### The structural bounds -/

mutual

/-- `_plain`, with what is left of the budget afterwards. -/
def plain : JsonValue → ℕ → ℕ → Option ℕ
  | .arr items, depth, budget =>
      if 24 < depth ∨ budget = 0 then none else plainItems items (depth + 1) (budget - 1)
  | .obj fields, depth, budget =>
      if 24 < depth ∨ budget = 0 then none else plainFields fields (depth + 1) (budget - 1)
  | _, depth, budget => if 24 < depth ∨ budget = 0 then none else some (budget - 1)

def plainItems : List JsonValue → ℕ → ℕ → Option ℕ
  | [], _, budget => some budget
  | item :: rest, depth, budget =>
      (plain item depth budget).bind fun left => plainItems rest depth left

def plainFields : JsonObject → ℕ → ℕ → Option ℕ
  | [], _, budget => some budget
  | (_, value) :: rest, depth, budget =>
      (plain value depth budget).bind fun left => plainFields rest depth left

end

/-- `canonical`. -/
def canonical (value : JsonValue) (limit : ℕ) : Option Bytes := do
  let _ ← plain value 0 30000
  let raw := utf8 (sorted value).text
  if limit < raw.length then none else some raw

namespace JsonValue

mutual

/-- How deep the document is nested. -/
def height : JsonValue → ℕ
  | .arr items => itemsHeight items
  | .obj fields => fieldsHeight fields
  | _ => 0

/-- The levels that the items of a list are on, below the list. -/
def itemsHeight : List JsonValue → ℕ
  | [] => 0
  | item :: rest => max (height item + 1) (itemsHeight rest)

def fieldsHeight : JsonObject → ℕ
  | [] => 0
  | (_, value) :: rest => max (height value + 1) (fieldsHeight rest)

end

mutual

/-- The number of values in the document. -/
def nodes : JsonValue → ℕ
  | .arr items => itemsNodes items + 1
  | .obj fields => fieldsNodes fields + 1
  | _ => 1

def itemsNodes : List JsonValue → ℕ
  | [] => 0
  | item :: rest => nodes item + itemsNodes rest

def fieldsNodes : JsonObject → ℕ
  | [] => 0
  | (_, value) :: rest => nodes value + fieldsNodes rest

end

end JsonValue

/-- What is left of a budget after a document, or a part of one, of some height and size. -/
def spend (within : Prop) [Decidable within] (size budget : ℕ) : Option ℕ :=
  if within ∧ size ≤ budget then some (budget - size) else none

variable {budget limit : ℕ} {value : JsonValue} {raw : Bytes}

theorem spend_bind {p q : Prop} [Decidable p] [Decidable q] {m n : ℕ} :
    ((spend p m budget).bind fun left => spend q n left) = spend (p ∧ q) (m + n) budget := by
  unfold spend
  by_cases hfirst : p ∧ m ≤ budget
  · rw [if_pos hfirst, Option.bind_some]
    by_cases hsecond : q ∧ n ≤ budget - m
    · rw [if_pos hsecond, if_pos ⟨⟨hfirst.1, hsecond.1⟩, by omega⟩, Nat.sub_sub]
    · rw [if_neg hsecond, if_neg]
      rintro ⟨⟨-, hq⟩, hsize⟩
      exact hsecond ⟨hq, by omega⟩
  · rw [if_neg hfirst, Option.bind_none, if_neg]
    rintro ⟨⟨hp, -⟩, hsize⟩
    exact hfirst ⟨hp, by omega⟩

theorem spend_congr {p q : Prop} [Decidable p] [Decidable q] {size : ℕ} (h : p ↔ q) :
    spend p size budget = spend q size budget := by
  unfold spend
  exact if_congr (and_congr_left fun _ => h) rfl rfl

/-- The checks at a value, before the values in it. -/
theorem spend_value {p : Prop} [Decidable p] {size depth : ℕ} :
    (if 24 < depth ∨ budget = 0 then none else spend p size (budget - 1))
      = spend (depth ≤ 24 ∧ p) (size + 1) budget := by
  unfold spend
  by_cases hbounds : 24 < depth ∨ budget = 0
  · rw [if_pos hbounds, if_neg (by omega)]
  · rw [if_neg hbounds]
    by_cases hinner : p ∧ size ≤ budget - 1
    · rw [if_pos hinner, if_pos ⟨⟨by omega, hinner.1⟩, by omega⟩, Nat.sub_sub, Nat.add_comm 1]
    · rw [if_neg hinner, if_neg]
      rintro ⟨⟨-, hp⟩, hsize⟩
      exact hinner ⟨hp, by omega⟩

theorem spend_leaf (depth budget : ℕ) :
    (if 24 < depth ∨ budget = 0 then none else some (budget - 1))
      = spend (depth + 0 ≤ 24) 1 budget := by
  have hnothing : some (budget - 1) = spend True 0 (budget - 1) := by
    unfold spend
    rw [if_pos ⟨trivial, Nat.zero_le _⟩, Nat.sub_zero]
  rw [hnothing, spend_value]
  exact spend_congr (by rw [and_true, Nat.add_zero])

mutual

/-- `_plain` bounds the height of a document and the number of its nodes. -/
theorem plain_eq (value : JsonValue) (depth budget : ℕ) :
    plain value depth budget = spend (depth + value.height ≤ 24) value.nodes budget := by
  match value with
  | .arr items =>
      rw [plain, plainItems_eq, spend_value, height, nodes]
      exact spend_congr (by omega)
  | .obj fields =>
      rw [plain, plainFields_eq, spend_value, height, nodes]
      exact spend_congr (by omega)
  | .null => exact spend_leaf depth budget
  | .bool b => exact spend_leaf depth budget
  | .int n => exact spend_leaf depth budget
  | .float q => exact spend_leaf depth budget
  | .str text => exact spend_leaf depth budget

theorem plainItems_eq (items : List JsonValue) (depth budget : ℕ) :
    plainItems items (depth + 1) budget
      = spend (itemsHeight items = 0 ∨ depth + itemsHeight items ≤ 24) (itemsNodes items)
          budget := by
  match items with
  | [] =>
      rw [plainItems]
      exact (if_pos ⟨.inl rfl, Nat.zero_le _⟩).symm
  | item :: rest =>
      have hbind : (fun left => plainItems rest (depth + 1) left) = fun left =>
          spend (itemsHeight rest = 0 ∨ depth + itemsHeight rest ≤ 24) (itemsNodes rest) left :=
        funext (plainItems_eq rest depth)
      rw [plainItems, plain_eq, hbind, spend_bind, itemsHeight, itemsNodes]
      exact spend_congr (by omega)

theorem plainFields_eq (fields : JsonObject) (depth budget : ℕ) :
    plainFields fields (depth + 1) budget
      = spend (fieldsHeight fields = 0 ∨ depth + fieldsHeight fields ≤ 24) (fieldsNodes fields)
          budget := by
  match fields with
  | [] =>
      rw [plainFields]
      exact (if_pos ⟨.inl rfl, Nat.zero_le _⟩).symm
  | (key, value) :: rest =>
      have hbind : (fun left => plainFields rest (depth + 1) left) = fun left =>
          spend (fieldsHeight rest = 0 ∨ depth + fieldsHeight rest ≤ 24) (fieldsNodes rest) left :=
        funext (plainFields_eq rest depth)
      rw [plainFields, plain_eq, hbind, spend_bind, fieldsHeight, fieldsNodes]
      exact spend_congr (by omega)

end

/-! ### Canonical bytes -/

theorem canonical_eq_some_iff :
    canonical value limit = some raw
      ↔ value.height ≤ 24 ∧ value.nodes ≤ 30000 ∧ raw.length ≤ limit
        ∧ raw = utf8 (sorted value).text := by
  unfold canonical
  rw [plain_eq]
  unfold spend
  rw [Nat.zero_add]
  constructor
  · intro h
    obtain ⟨left, hplain, h⟩ := Option.bind_eq_some_iff.mp h
    dsimp only at h
    split_ifs at h with hlength
    obtain rfl := Option.some.inj h
    split_ifs at hplain with hbounds
    exact ⟨hbounds.1, hbounds.2, not_lt.mp hlength, rfl⟩
  · rintro ⟨hheight, hnodes, hlength, rfl⟩
    rw [if_pos ⟨hheight, hnodes⟩]
    exact Option.bind_eq_some_iff.mpr ⟨_, rfl, if_neg (not_lt.mpr hlength)⟩

/-- A record has canonical bytes when it is within the bounds. -/
theorem exists_canonical_iff :
    (∃ raw, canonical value limit = some raw)
      ↔ value.height ≤ 24 ∧ value.nodes ≤ 30000
        ∧ (utf8 (sorted value).text).length ≤ limit := by
  simp only [canonical_eq_some_iff]
  constructor
  · rintro ⟨_, hheight, hnodes, hlength, rfl⟩
    exact ⟨hheight, hnodes, hlength⟩
  · rintro ⟨hheight, hnodes, hlength⟩
    exact ⟨_, hheight, hnodes, hlength, rfl⟩

/-- The canonical bytes of a record are those of no other record. -/
theorem canonical_cancel {a b : JsonValue} (ha : (sorted a).floatFree = true)
    (hb : (sorted b).floatFree = true) (hleft : canonical a limit = some raw)
    (hright : canonical b limit = some raw) : sorted a = sorted b := by
  obtain ⟨-, -, -, hraw⟩ := canonical_eq_some_iff.mp hleft
  obtain ⟨-, -, -, hraw'⟩ := canonical_eq_some_iff.mp hright
  exact text_injective ha hb (utf8_injective (hraw.symm.trans hraw'))

/-! ### Their number -/

/-- The number of bytes of a text. -/
def bytesOf (text : List Char) : ℕ := (text.map Char.utf8Size).sum

@[simp] theorem bytesOf_nil : bytesOf [] = 0 := rfl

@[simp] theorem bytesOf_cons (character : Char) (text : List Char) :
    bytesOf (character :: text) = character.utf8Size + bytesOf text := by
  simp [bytesOf]

@[simp] theorem bytesOf_append (left right : List Char) :
    bytesOf (left ++ right) = bytesOf left + bytesOf right := by
  simp [bytesOf]

theorem length_utf8_ofList (text : List Char) :
    (utf8 (String.ofList text)).length = bytesOf text := by
  rw [length_utf8]
  induction text with
  | nil => rfl
  | cons character text ih =>
      rw [String.ofList_cons, String.utf8ByteSize_append, String.utf8ByteSize_singleton, ih,
        bytesOf_cons]

/-- ASCII characters have one byte. -/
theorem bytesOf_ascii {text : List Char} (h : ∀ character ∈ text, character.toNat < 128) :
    bytesOf text = text.length := by
  induction text with
  | nil => rfl
  | cons character text ih =>
      rw [List.forall_mem_cons] at h
      have hsize : character.utf8Size = 1 := by
        rw [Char.utf8Size_eq_one_iff, UInt32.le_iff_toNat_le]
        exact Nat.lt_succ_iff.mp h.1
      rw [bytesOf_cons, hsize, ih h.2, List.length_cons, Nat.add_comm]

namespace JsonValue

/-- The bytes of a string between its quotes. -/
def escapedBytes (text : String) : ℕ := bytesOf (text.toList.flatMap escapedChar)

@[simp] theorem bytesOf_quotedChars (text : String) :
    bytesOf (quotedChars text) = escapedBytes text + 2 := by
  have hquote : (Char.ofNat 34).utf8Size = 1 := rfl
  simp only [quotedChars, escapedBytes, bytesOf_append, bytesOf_cons, bytesOf_nil, hquote]
  omega

/-- A text in which nothing is escaped. -/
theorem escapedBytes_plain {text : String} (h : ∀ character ∈ text.toList,
    32 ≤ character.toNat ∧ character ≠ '"' ∧ character ≠ '\\') :
    escapedBytes text = bytesOf text.toList := by
  unfold escapedBytes
  generalize text.toList = characters at h ⊢
  induction characters with
  | nil => rfl
  | cons character rest ih =>
      rw [List.forall_mem_cons] at h
      rw [List.flatMap_cons, bytesOf_append, escapedChar_plain h.1.1 h.1.2.1 h.1.2.2, ih h.2,
        bytesOf_cons, bytesOf_cons, bytesOf_nil, Nat.add_zero]

theorem bytesOf_nat (n : ℕ) : bytesOf (JsonValue.int n).chars = n.repr.length := by
  have hdigits : ∀ character ∈ n.repr.toList, character.toNat < 128 := by
    intro character hmem
    have hdigit := isDigit_of_mem_repr hmem
    simp only [Char.isDigit, Bool.and_eq_true, decide_eq_true_eq] at hdigit
    have hle := UInt32.le_iff_toNat_le.mp hdigit.2
    exact lt_of_le_of_lt hle (by decide)
  rw [chars]
  show bytesOf n.repr.toList = _
  rw [bytesOf_ascii hdigits, String.length_toList]

end JsonValue

end AgentFleet
