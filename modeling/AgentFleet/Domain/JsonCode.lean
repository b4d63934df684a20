import AgentFleet.Domain.JsonText
import Mathlib.Tactic.IntervalCases

/-! # The texts of JSON documents are codes

The text of a document determines the document, and so does every longer text that starts with
it: `chars_cancel` takes the texts of two documents off two equal texts.  It is proved for documents
without floats, whose texts are the shortest that read back and not computed here.

* `firstOf_escaped` reads the first character of a string back from its escape.
* `quotedChars_cancel` and `int_cancel` are the cancellation for strings and numbers; a number
  ends where no digit follows.
* `text_injective` is the cancellation for whole texts. -/

namespace AgentFleet

namespace JsonValue

/-! ### Strings -/

/-- The number of a hexadecimal digit. -/
def hexValue (c : Char) : ℕ := "0123456789abcdef".toList.idxOf c

/-- The first character of the inside of a string, and what follows its escape. -/
def firstOf : List Char → Option (Char × List Char)
  | '\\' :: 'u' :: '0' :: '0' :: high :: low :: rest =>
      some (Char.ofNat (16 * hexValue high + hexValue low), rest)
  | '\\' :: 'b' :: rest => some (Char.ofNat 8, rest)
  | '\\' :: 't' :: rest => some (Char.ofNat 9, rest)
  | '\\' :: 'n' :: rest => some (Char.ofNat 10, rest)
  | '\\' :: 'f' :: rest => some (Char.ofNat 12, rest)
  | '\\' :: 'r' :: rest => some (Char.ofNat 13, rest)
  | '\\' :: c :: rest => some (c, rest)
  | '"' :: _ => none
  | c :: rest => some (c, rest)
  | [] => none

/-- The control characters are read back. -/
theorem firstOf_control {n : ℕ} (h : n < 32) (rest : List Char) :
    firstOf (escapedChar (Char.ofNat n) ++ rest) = some (Char.ofNat n, rest) := by
  interval_cases n <;> rfl

/-- Every other character but the quote and the backslash stands for itself. -/
theorem escapedChar_plain {c : Char} (hcontrol : 32 ≤ c.toNat) (hquote : c ≠ '"')
    (hbackslash : c ≠ '\\') : escapedChar c = [c] := by
  have hcode : c.toNat ≠ 34 := by
    intro h
    apply hquote
    rw [← Char.ofNat_toNat c, h]
  unfold escapedChar
  dsimp only
  rw [if_neg (not_or.mpr ⟨hcode, hbackslash⟩), if_neg (by omega), if_neg (by omega),
    if_neg (by omega), if_neg (by omega), if_neg (by omega), if_neg (by omega)]

theorem firstOf_plain {c : Char} (hquote : c ≠ '"') (hbackslash : c ≠ '\\') (rest : List Char) :
    firstOf (c :: rest) = some (c, rest) := by
  unfold firstOf
  split <;> simp_all

theorem firstOf_escaped (c : Char) (rest : List Char) :
    firstOf (escapedChar c ++ rest) = some (c, rest) := by
  by_cases hcontrol : c.toNat < 32
  · have h := firstOf_control hcontrol rest
    rwa [Char.ofNat_toNat] at h
  · by_cases hquote : c = '"'
    · rw [hquote]
      rfl
    · by_cases hbackslash : c = '\\'
      · rw [hbackslash]
        rfl
      · rw [escapedChar_plain (by omega) hquote hbackslash]
        exact firstOf_plain hquote hbackslash rest

/-- The escapes of the characters of two strings, each up to its closing quote. -/
theorem escaped_cancel {as bs : List Char} {r s : List Char}
    (h : as.flatMap escapedChar ++ '"' :: r = bs.flatMap escapedChar ++ '"' :: s) :
    as = bs ∧ r = s := by
  induction as generalizing bs with
  | nil =>
      cases bs with
      | nil => exact ⟨rfl, (List.cons.inj h).2⟩
      | cons =>
          have hfirst := congrArg firstOf h
          rw [List.flatMap_cons, List.append_assoc, firstOf_escaped] at hfirst
          cases hfirst
  | cons a as ih =>
      cases bs with
      | nil =>
          have hfirst := congrArg firstOf h
          rw [List.flatMap_cons, List.append_assoc, firstOf_escaped] at hfirst
          cases hfirst
      | cons =>
          have hfirst := congrArg firstOf h
          rw [List.flatMap_cons, List.flatMap_cons, List.append_assoc, List.append_assoc,
            firstOf_escaped, firstOf_escaped, Option.some.injEq, Prod.mk.injEq] at hfirst
          obtain ⟨rfl, hrest⟩ := ih hfirst.2
          exact ⟨by rw [hfirst.1], hrest⟩

theorem quotedChars_eq (text : String) (r : List Char) :
    quotedChars text ++ r = '"' :: (text.toList.flatMap escapedChar ++ '"' :: r) := by
  unfold quotedChars
  dsimp only
  rw [List.append_assoc]
  rfl

theorem quotedChars_cancel {a b : String} {r s : List Char}
    (h : quotedChars a ++ r = quotedChars b ++ s) : a = b ∧ r = s := by
  rw [quotedChars_eq, quotedChars_eq, List.cons.injEq] at h
  obtain ⟨htext, hrest⟩ := escaped_cancel h.2
  exact ⟨String.toList_inj.mp htext, hrest⟩

/-! ### Numbers -/

/-- No digit follows. -/
def Ends (rest : List Char) : Prop := ∀ c ∈ rest.head?, c.isDigit = false

theorem ends_cons {c : Char} {rest : List Char} (h : c.isDigit = false) : Ends (c :: rest) := by
  intro d hd
  cases hd
  exact h

theorem digits_cancel {as bs r s : List Char} (ha : ∀ c ∈ as, c.isDigit = true)
    (hb : ∀ c ∈ bs, c.isDigit = true) (hr : Ends r) (hs : Ends s) (h : as ++ r = bs ++ s) :
    as = bs ∧ r = s := by
  induction as generalizing bs with
  | nil =>
      cases bs with
      | nil => exact ⟨rfl, h⟩
      | cons b =>
          rw [List.nil_append] at h
          have hdigit := hr b (by rw [h]; rfl)
          rw [hb b List.mem_cons_self] at hdigit
          cases hdigit
  | cons a as ih =>
      cases bs with
      | nil =>
          rw [List.nil_append] at h
          have hdigit := hs a (by rw [← h]; rfl)
          rw [ha a List.mem_cons_self] at hdigit
          cases hdigit
      | cons =>
          rw [List.cons_append, List.cons_append, List.cons.injEq] at h
          obtain ⟨rfl, hrest⟩ := ih (fun c hc => ha c (List.mem_cons_of_mem _ hc))
            (fun c hc => hb c (List.mem_cons_of_mem _ hc)) h.2
          exact ⟨by rw [h.1], hrest⟩

/-- The digits of a natural number. -/
theorem isDigit_of_mem_repr {n : ℕ} {c : Char} (hc : c ∈ n.repr.toList) : c.isDigit = true := by
  rw [Nat.toList_repr] at hc
  exact Nat.isDigit_of_mem_toDigits (by decide) (by decide) hc

theorem natRepr_eq_cons (n : ℕ) : ∃ c rest, n.repr.toList = c :: rest ∧ c.isDigit = true := by
  cases hdigits : n.repr.toList with
  | nil =>
      have hpos : 0 < (Nat.toDigits 10 n).length := Nat.length_toDigits_pos
      rw [← Nat.toList_repr, hdigits] at hpos
      exact absurd hpos (lt_irrefl 0)
  | cons c rest =>
      have hmem : c ∈ n.repr.toList := by
        rw [hdigits]
        exact List.mem_cons_self
      exact ⟨c, rest, rfl, isDigit_of_mem_repr hmem⟩

theorem natRepr_injective {m n : ℕ} (h : m.repr.toList = n.repr.toList) : m = n := by
  rw [Nat.toList_repr, Nat.toList_repr] at h
  have hvalue := congrArg (fun digits => Nat.ofDigitChars 10 digits 0) h
  rwa [Nat.ofDigitChars_ten_toDigits, Nat.ofDigitChars_ten_toDigits] at hvalue

theorem toString_ofNat (n : ℕ) : (toString (Int.ofNat n)).toList = n.repr.toList := rfl

theorem toString_negSucc (n : ℕ) :
    (toString (Int.negSucc n)).toList = '-' :: (n + 1).repr.toList := by
  show ("-" ++ (n + 1).repr).toList = _
  rw [String.toList_append]
  rfl

theorem isDigit_minus : Char.isDigit '-' = false := rfl

/-- A number without a sign does not start like one with a sign. -/
theorem natRepr_ne_minus {n : ℕ} {r s : List Char} : n.repr.toList ++ r ≠ '-' :: s := by
  intro h
  obtain ⟨c, rest, hdigits, hdigit⟩ := natRepr_eq_cons n
  rw [hdigits, List.cons_append, List.cons.injEq] at h
  rw [h.1, isDigit_minus] at hdigit
  cases hdigit

theorem int_cancel {a b : ℤ} {r s : List Char} (hr : Ends r) (hs : Ends s)
    (h : (toString a).toList ++ r = (toString b).toList ++ s) : a = b ∧ r = s := by
  have hcancel {m n : ℕ} (h : m.repr.toList ++ r = n.repr.toList ++ s) : m = n ∧ r = s := by
    obtain ⟨hdigits, hrest⟩ := digits_cancel (fun c => isDigit_of_mem_repr)
      (fun c => isDigit_of_mem_repr) hr hs h
    exact ⟨natRepr_injective hdigits, hrest⟩
  cases a with
  | ofNat =>
      cases b with
      | ofNat =>
          obtain ⟨rfl, hrest⟩ := hcancel h
          exact ⟨rfl, hrest⟩
      | negSucc =>
          rw [toString_ofNat, toString_negSucc] at h
          exact absurd h natRepr_ne_minus
  | negSucc =>
      cases b with
      | ofNat =>
          rw [toString_ofNat, toString_negSucc] at h
          exact absurd h.symm natRepr_ne_minus
      | negSucc =>
          rw [toString_negSucc, toString_negSucc, List.cons_append, List.cons_append,
            List.cons.injEq] at h
          obtain ⟨hnumber, hrest⟩ := hcancel h.2
          exact ⟨by rw [Nat.succ_injective hnumber], hrest⟩

/-! ### Documents -/

mutual

/-- No number in the document is a float. -/
def floatFree : JsonValue → Bool
  | .float _ => false
  | .arr items => itemsFloatFree items
  | .obj fields => fieldsFloatFree fields
  | _ => true

def itemsFloatFree : List JsonValue → Bool
  | [] => true
  | item :: rest => floatFree item && itemsFloatFree rest

def fieldsFloatFree : JsonObject → Bool
  | [] => true
  | (_, value) :: rest => floatFree value && fieldsFloatFree rest

end

/-- What the first character of a text tells of the document. -/
inductive Kind where
  | null | yes | no | number | string | list | object | other
deriving DecidableEq

def kindOf (c : Char) : Kind :=
  if c = 'n' then .null else if c = 't' then .yes else if c = 'f' then .no
  else if c.isDigit ∨ c = '-' then .number else if c = '"' then .string
  else if c = '[' then .list else if c = Char.ofNat 123 then .object else .other

def kind : JsonValue → Kind
  | .null => .null
  | .bool value => if value then .yes else .no
  | .int _ => .number
  | .float _ => .number
  | .str _ => .string
  | .arr _ => .list
  | .obj _ => .object

theorem kindOf_digit {c : Char} (h : c.isDigit = true) : kindOf c = .number := by
  unfold kindOf
  rw [if_neg, if_neg, if_neg, if_pos (.inl h)]
  all_goals
    intro heq
    rw [heq] at h
    cases h

/-- The first character of a text. -/
theorem chars_eq_cons {value : JsonValue} (h : value.floatFree = true) :
    ∃ c rest, value.chars = c :: rest ∧ kindOf c = value.kind := by
  cases value with
  | null => exact ⟨'n', _, rfl, rfl⟩
  | bool b =>
      cases b with
      | true => exact ⟨'t', _, rfl, rfl⟩
      | false => exact ⟨'f', _, rfl, rfl⟩
  | int n =>
      cases n with
      | ofNat n =>
          obtain ⟨c, rest, hdigits, hdigit⟩ := natRepr_eq_cons n
          refine ⟨c, rest, ?_, kindOf_digit hdigit⟩
          rw [chars, toString_ofNat, hdigits]
      | negSucc n =>
          exact ⟨'-', _, toString_negSucc n, rfl⟩
  | float => cases h
  | str => exact ⟨'"', _, rfl, rfl⟩
  | arr => exact ⟨'[', _, rfl, rfl⟩
  | obj => exact ⟨Char.ofNat 123, _, rfl, rfl⟩

/-- Two texts that start alike are of documents of one kind. -/
theorem kind_eq {a b : JsonValue} {r s : List Char} (ha : a.floatFree = true)
    (hb : b.floatFree = true) (h : a.chars ++ r = b.chars ++ s) : a.kind = b.kind := by
  obtain ⟨c, rest, hc, hkind⟩ := chars_eq_cons ha
  obtain ⟨d, rest', hd, hkind'⟩ := chars_eq_cons hb
  rw [hc, hd, List.cons_append, List.cons_append, List.cons.injEq] at h
  rw [← hkind, ← hkind', h.1]

theorem chars_ne_cons {a : JsonValue} {c : Char} {r s : List Char} (ha : a.floatFree = true)
    (hc : kindOf c = .other) : a.chars ++ r ≠ c :: s := by
  obtain ⟨d, rest, hd, hkind⟩ := chars_eq_cons ha
  rw [hd, List.cons_append]
  intro h
  rw [(List.cons.inj h).1, hc] at hkind
  cases a with
  | bool b => cases b <;> cases hkind
  | _ => cases hkind

theorem arr_chars (items : List JsonValue) (r : List Char) :
    (JsonValue.arr items).chars ++ r = '[' :: (itemChars items ++ ']' :: r) := by
  rw [chars, List.append_assoc]
  rfl

theorem obj_chars (fields : JsonObject) (r : List Char) :
    (JsonValue.obj fields).chars ++ r
      = Char.ofNat 123 :: (fieldChars fields ++ Char.ofNat 125 :: r) := by
  rw [chars, List.append_assoc]
  rfl

/-- What stands after an item of a list. -/
def afterItem (r : List Char) : List JsonValue → List Char
  | [] => ']' :: r
  | item :: rest => ',' :: (itemChars (item :: rest) ++ ']' :: r)

/-- What stands after an entry of an object. -/
def afterField (r : List Char) : JsonObject → List Char
  | [] => Char.ofNat 125 :: r
  | entry :: rest => ',' :: (fieldChars (entry :: rest) ++ Char.ofNat 125 :: r)

theorem itemChars_cons (item : JsonValue) (rest : List JsonValue) (r : List Char) :
    itemChars (item :: rest) ++ ']' :: r = item.chars ++ afterItem r rest := by
  cases rest with
  | nil => rw [itemChars, afterItem]
  | cons next rest =>
      rw [itemChars, afterItem, List.append_assoc]
      · rfl
      · exact List.cons_ne_nil next rest

theorem fieldChars_cons (key : String) (value : JsonValue) (rest : JsonObject) (r : List Char) :
    fieldChars ((key, value) :: rest) ++ Char.ofNat 125 :: r
      = quotedChars key ++ ':' :: (value.chars ++ afterField r rest) := by
  cases rest with
  | nil =>
      rw [fieldChars, afterField, List.append_assoc]
      rfl
  | cons next rest =>
      rw [fieldChars, afterField, List.append_assoc, List.append_assoc]
      · rfl
      · exact List.cons_ne_nil next rest

theorem ends_afterItem (r : List Char) (rest : List JsonValue) : Ends (afterItem r rest) := by
  cases rest <;> exact ends_cons rfl

theorem ends_afterField (r : List Char) (rest : JsonObject) : Ends (afterField r rest) := by
  cases rest <;> exact ends_cons rfl

theorem afterItem_cancel {as bs : List JsonValue} {r s : List Char}
    (hcancel : itemChars as ++ ']' :: r = itemChars bs ++ ']' :: s → as = bs ∧ r = s)
    (h : afterItem r as = afterItem s bs) : as = bs ∧ r = s := by
  cases as with
  | nil =>
      cases bs with
      | nil => exact ⟨rfl, (List.cons.inj h).2⟩
      | cons b bs => exact absurd (List.cons.inj h).1 (by decide)
  | cons a as =>
      cases bs with
      | nil => exact absurd (List.cons.inj h).1 (by decide)
      | cons => exact hcancel (List.cons.inj h).2

theorem afterField_cancel {as bs : JsonObject} {r s : List Char}
    (hcancel : fieldChars as ++ Char.ofNat 125 :: r = fieldChars bs ++ Char.ofNat 125 :: s →
      as = bs ∧ r = s)
    (h : afterField r as = afterField s bs) : as = bs ∧ r = s := by
  cases as with
  | nil =>
      cases bs with
      | nil => exact ⟨rfl, (List.cons.inj h).2⟩
      | cons b bs => exact absurd (List.cons.inj h).1 (by decide)
  | cons a as =>
      cases bs with
      | nil => exact absurd (List.cons.inj h).1 (by decide)
      | cons => exact hcancel (List.cons.inj h).2

mutual

/-- Equal texts that start with the texts of two documents are equal after them. -/
theorem chars_cancel {a b : JsonValue} {r s : List Char} (ha : a.floatFree = true)
    (hb : b.floatFree = true) (hr : Ends r) (hs : Ends s) (h : a.chars ++ r = b.chars ++ s) :
    a = b ∧ r = s := by
  have hkind := kind_eq ha hb h
  match a with
  | .null =>
      cases b with
      | null => exact ⟨rfl, List.append_cancel_left h⟩
      | bool y => cases y <;> cases hkind
      | _ => cases hkind
  | .bool x =>
      cases b with
      | bool y =>
          obtain rfl : x = y := by
            cases x <;> cases y <;> first | rfl | cases hkind
          exact ⟨rfl, List.append_cancel_left h⟩
      | _ => cases x <;> cases hkind
  | .int x =>
      cases b with
      | int =>
          rw [chars, chars] at h
          obtain ⟨rfl, hrest⟩ := int_cancel hr hs h
          exact ⟨rfl, hrest⟩
      | bool y => cases y <;> cases hkind
      | float => cases hb
      | _ => cases hkind
  | .float x => cases ha
  | .str x =>
      cases b with
      | str =>
          rw [chars, chars] at h
          obtain ⟨rfl, hrest⟩ := quotedChars_cancel h
          exact ⟨rfl, hrest⟩
      | bool y => cases y <;> cases hkind
      | _ => cases hkind
  | .arr xs =>
      cases b with
      | arr =>
          rw [arr_chars, arr_chars, List.cons.injEq] at h
          obtain ⟨rfl, hrest⟩ := itemChars_cancel ha hb h.2
          exact ⟨rfl, hrest⟩
      | bool y => cases y <;> cases hkind
      | _ => cases hkind
  | .obj xs =>
      cases b with
      | obj =>
          rw [obj_chars, obj_chars, List.cons.injEq] at h
          obtain ⟨rfl, hrest⟩ := fieldChars_cancel ha hb h.2
          exact ⟨rfl, hrest⟩
      | bool y => cases y <;> cases hkind
      | _ => cases hkind

/-- The items of two lists, each up to its closing bracket. -/
theorem itemChars_cancel {as bs : List JsonValue} {r s : List Char}
    (ha : itemsFloatFree as = true) (hb : itemsFloatFree bs = true)
    (h : itemChars as ++ ']' :: r = itemChars bs ++ ']' :: s) : as = bs ∧ r = s := by
  match as with
  | [] =>
      cases bs with
      | nil => exact ⟨rfl, (List.cons.inj h).2⟩
      | cons =>
          rw [itemsFloatFree, Bool.and_eq_true] at hb
          rw [itemChars_cons] at h
          exact absurd h.symm (chars_ne_cons hb.1 rfl)
  | a :: as =>
      rw [itemsFloatFree, Bool.and_eq_true] at ha
      cases bs with
      | nil =>
          rw [itemChars_cons] at h
          exact absurd h (chars_ne_cons ha.1 rfl)
      | cons b bs =>
          rw [itemsFloatFree, Bool.and_eq_true] at hb
          rw [itemChars_cons, itemChars_cons] at h
          obtain ⟨rfl, hafter⟩ := chars_cancel ha.1 hb.1 (ends_afterItem r as)
            (ends_afterItem s bs) h
          obtain ⟨rfl, hrest⟩ := afterItem_cancel (itemChars_cancel ha.2 hb.2) hafter
          exact ⟨rfl, hrest⟩

/-- The entries of two objects, each up to its closing brace. -/
theorem fieldChars_cancel {as bs : JsonObject} {r s : List Char}
    (ha : fieldsFloatFree as = true) (hb : fieldsFloatFree bs = true)
    (h : fieldChars as ++ Char.ofNat 125 :: r = fieldChars bs ++ Char.ofNat 125 :: s) :
    as = bs ∧ r = s := by
  match as with
  | [] =>
      cases bs with
      | nil => exact ⟨rfl, (List.cons.inj h).2⟩
      | cons b bs =>
          rw [fieldChars_cons] at h
          exact absurd (List.cons.inj h).1 (by decide)
  | (key, a) :: as =>
      rw [fieldsFloatFree, Bool.and_eq_true] at ha
      cases bs with
      | nil =>
          rw [fieldChars_cons] at h
          exact absurd (List.cons.inj h).1 (by decide)
      | cons b bs =>
          rw [fieldsFloatFree, Bool.and_eq_true] at hb
          rw [fieldChars_cons, fieldChars_cons] at h
          obtain ⟨hkey, hvalue⟩ := quotedChars_cancel h
          obtain ⟨heq, hafter⟩ := chars_cancel ha.1 hb.1 (ends_afterField r as)
            (ends_afterField s bs) (List.cons.inj hvalue).2
          obtain ⟨rfl, hrest⟩ := afterField_cancel (fieldChars_cancel ha.2 hb.2) hafter
          exact ⟨by rw [hkey, heq], hrest⟩

end

/-- The text of a document determines the document. -/
theorem text_injective {a b : JsonValue} (ha : a.floatFree = true) (hb : b.floatFree = true)
    (h : a.text = b.text) : a = b := by
  have hends : Ends [] := fun c hc => by cases hc
  have hchars : a.chars ++ [] = b.chars ++ [] := by
    rw [List.append_nil, List.append_nil]
    exact String.ofList_injective h
  exact (chars_cancel ha hb hends hends hchars).1

end JsonValue

end AgentFleet
