import Mathlib.Data.Rat.Defs
import Mathlib.Tactic.Common

/-! # JSON values

The JSON data that records carry and that `canonical_json_hash` digests.  Objects are kept
sorted by key with one entry per key, the form in which `canonical_json_hash` serialises
them, so two objects with the same entries are the same value.

* `JsonValue.object` builds an object from entries in any order; the last entry of a key wins.
* `JsonValue.pyEq` is Python's `==` on decoded JSON, where `True == 1 == 1.0`.
* `field?_object` reads an entry back; `field?_of_pyEqFields` compares objects key by key. -/

namespace AgentFleet

/-- A decoded JSON document.  A finite float is the rational it denotes. -/
inductive JsonValue where
  | null
  | bool (value : Bool)
  | int (value : ℤ)
  | float (value : ℚ)
  | str (value : String)
  | arr (items : List JsonValue)
  | obj (fields : List (String × JsonValue))
deriving Inhabited

/-- The entries of an object. -/
abbrev JsonObject := List (String × JsonValue)

namespace JsonValue

/-- Puts an entry at its place in a sorted object, over an entry with the same key. -/
def setField (key : String) (value : JsonValue) : JsonObject → JsonObject
  | [] => [(key, value)]
  | (k, v) :: rest =>
      if key = k then (key, value) :: rest
      else if key < k then (key, value) :: (k, v) :: rest
      else (k, v) :: setField key value rest

/-- The object with the given entries. -/
def object (entries : List (String × JsonValue)) : JsonObject :=
  entries.foldl (fun fields entry => setField entry.1 entry.2 fields) []

/-- `dict.get`. -/
def field? (fields : JsonObject) (key : String) : Option JsonValue :=
  (fields.find? fun entry => entry.1 = key).map Prod.snd

/-- The number a value compares as: Python's `bool` is a subclass of `int`. -/
def number? : JsonValue → Option ℚ
  | .bool b => some (if b then 1 else 0)
  | .int n => some n
  | .float q => some q
  | _ => none

mutual

/-- Python's `==`. -/
def pyEq : JsonValue → JsonValue → Bool
  | .null, .null => true
  | .str a, .str b => a = b
  | .arr as, .arr bs => pyEqItems as bs
  | .obj as, .obj bs => pyEqFields as bs
  | a, b => match number? a, number? b with
      | some p, some q => p = q
      | _, _ => false

/-- `==` on lists. -/
def pyEqItems : List JsonValue → List JsonValue → Bool
  | [], [] => true
  | a :: as, b :: bs => pyEq a b && pyEqItems as bs
  | _, _ => false

/-- `==` on dictionaries. -/
def pyEqFields : JsonObject → JsonObject → Bool
  | [], [] => true
  | (k, a) :: as, (l, b) :: bs => k = l && pyEq a b && pyEqFields as bs
  | _, _ => false

end

/-- An optional string field of a dump. -/
def ofOption (value : Option String) : JsonValue :=
  match value with
  | some text => .str text
  | none => .null

/-- An optional number of a dump. -/
def ofOptionInt (value : Option ℤ) : JsonValue :=
  match value with
  | some n => .int n
  | none => .null

/-! ### Lookups -/

variable {fields left right : JsonObject} {key : String} {value : JsonValue}

theorem field?_cons {entry : String × JsonValue} :
    field? (entry :: fields) key = if entry.1 = key then some entry.2 else field? fields key := by
  unfold field?
  rw [List.find?_cons]
  by_cases hkey : entry.1 = key
  · rw [decide_eq_true hkey, if_pos hkey]
    rfl
  · rw [decide_eq_false hkey, if_neg hkey]

theorem field?_setField {other : String} :
    field? (setField key value fields) other
      = if key = other then some value else field? fields other := by
  induction fields with
  | nil => exact field?_cons
  | cons entry rest ih =>
      obtain ⟨k, v⟩ := entry
      unfold setField
      by_cases hsame : key = k
      · subst hsame
        rw [if_pos rfl, field?_cons, field?_cons]
        by_cases hother : key = other
        · rw [if_pos hother, if_pos hother]
        · rw [if_neg hother, if_neg hother, if_neg hother]
      · rw [if_neg hsame]
        by_cases hbefore : key < k
        · rw [if_pos hbefore, field?_cons]
        · rw [if_neg hbefore, field?_cons, ih, field?_cons]
          by_cases hother : key = other
          · have hk : ¬ k = other := fun h => hsame (hother.trans h.symm)
            rw [if_neg hk, if_pos hother, if_pos hother]
          · rw [if_neg hother, if_neg hother]

theorem field?_foldl_of_not_mem {entries : List (String × JsonValue)}
    (h : key ∉ entries.map Prod.fst) (fields : JsonObject) :
    field? (entries.foldl (fun fields entry => setField entry.1 entry.2 fields) fields) key
      = field? fields key := by
  induction entries generalizing fields with
  | nil => rfl
  | cons entry rest ih =>
      rw [List.map_cons, List.mem_cons, not_or] at h
      rw [List.foldl_cons, ih h.2, field?_setField, if_neg (Ne.symm h.1)]

/-- An object holds the entries it was built from, when their keys differ. -/
theorem field?_object {entries : List (String × JsonValue)}
    (hnodup : (entries.map Prod.fst).Nodup) (h : (key, value) ∈ entries) :
    field? (object entries) key = some value := by
  unfold object
  generalize ([] : JsonObject) = fields
  induction entries generalizing fields with
  | nil => exact absurd h List.not_mem_nil
  | cons entry rest ih =>
      rw [List.map_cons, List.nodup_cons] at hnodup
      rw [List.foldl_cons]
      rcases List.mem_cons.mp h with rfl | h
      · rw [field?_foldl_of_not_mem hnodup.1, field?_setField, if_pos rfl]
      · exact ih hnodup.2 h _

theorem field?_of_mem (hnodup : (fields.map Prod.fst).Nodup) (h : (key, value) ∈ fields) :
    field? fields key = some value := by
  induction fields with
  | nil => exact absurd h List.not_mem_nil
  | cons entry rest ih =>
      rw [List.map_cons, List.nodup_cons] at hnodup
      rw [field?_cons]
      rcases List.mem_cons.mp h with rfl | h
      · rw [if_pos rfl]
      · have hkey : ¬ entry.1 = key := fun heq =>
          hnodup.1 (heq ▸ List.mem_map.mpr ⟨(key, value), h, rfl⟩)
        rw [if_neg hkey]
        exact ih hnodup.2 h

/-! ### Equality -/

mutual

theorem pyEq_refl : ∀ value : JsonValue, pyEq value value = true
  | .null => by unfold pyEq; rfl
  | .bool b => by unfold pyEq; exact decide_eq_true rfl
  | .int n => by unfold pyEq; exact decide_eq_true rfl
  | .float q => by unfold pyEq; exact decide_eq_true rfl
  | .str text => by unfold pyEq; exact decide_eq_true rfl
  | .arr items => by unfold pyEq; exact pyEqItems_refl items
  | .obj fields => by unfold pyEq; exact pyEqFields_refl fields

theorem pyEqItems_refl : ∀ items : List JsonValue, pyEqItems items items = true
  | [] => by unfold pyEqItems; rfl
  | item :: items => by
      unfold pyEqItems
      rw [pyEq_refl item, pyEqItems_refl items]
      rfl

theorem pyEqFields_refl : ∀ fields : JsonObject, pyEqFields fields fields = true
  | [] => by unfold pyEqFields; rfl
  | (key, value) :: fields => by
      unfold pyEqFields
      rw [decide_eq_true rfl, pyEq_refl value, pyEqFields_refl fields]
      rfl

end

/-- Only a text equals a text. -/
theorem eq_str_of_pyEq {text : String} (h : pyEq value (.str text) = true) : value = .str text := by
  unfold pyEq at h
  cases value with
  | str => exact congrArg _ (of_decide_eq_true h)
  | _ => simp [number?] at h

theorem eq_of_pyEq_int {m n : ℤ} (h : pyEq (.int m) (.int n) = true) : m = n := by
  unfold pyEq at h
  exact_mod_cast of_decide_eq_true h

/-- Objects that are equal hold equal values under equal keys. -/
theorem field?_of_pyEqFields (h : pyEqFields left right = true)
    (hvalue : field? left key = some value) :
    ∃ other, field? right key = some other ∧ pyEq value other = true := by
  induction left generalizing right with
  | nil => cases hvalue
  | cons entry rest ih =>
      obtain ⟨k, v⟩ := entry
      cases right with
      | nil => exact Bool.noConfusion h
      | cons entry' =>
          obtain ⟨k', v'⟩ := entry'
          unfold pyEqFields at h
          rw [Bool.and_eq_true, Bool.and_eq_true, decide_eq_true_iff] at h
          obtain ⟨⟨rfl, hvalues⟩, hrest⟩ := h
          rw [field?_cons] at hvalue ⊢
          split_ifs at hvalue ⊢ with hkey
          · cases hvalue
            exact ⟨v', rfl, hvalues⟩
          · exact ih hrest hvalue

/-- An object of texts equals only itself. -/
theorem eq_of_pyEqFields_str (htexts : ∀ entry ∈ right, ∃ text, entry.2 = .str text)
    (h : pyEqFields left right = true) : left = right := by
  induction left generalizing right with
  | nil =>
      cases right with
      | nil => rfl
      | cons => exact Bool.noConfusion h
  | cons entry rest ih =>
      obtain ⟨k, v⟩ := entry
      cases right with
      | nil => exact Bool.noConfusion h
      | cons entry' =>
          obtain ⟨k', v'⟩ := entry'
          unfold pyEqFields at h
          rw [Bool.and_eq_true, Bool.and_eq_true, decide_eq_true_iff] at h
          obtain ⟨⟨rfl, hvalues⟩, hrest⟩ := h
          rw [List.forall_mem_cons] at htexts
          obtain ⟨⟨text, rfl⟩, htexts⟩ := htexts
          rw [eq_str_of_pyEq hvalues, ih htexts hrest]

end JsonValue

end AgentFleet
