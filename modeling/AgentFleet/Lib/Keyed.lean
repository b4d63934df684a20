import Mathlib.Data.List.Dedup
import Mathlib.Tactic.Common

/-! # Records by key

A dictionary built from a list of records, `{key(x): x for x in items}`: a later record replaces
an earlier one with its key.

* `get?` is the lookup; `get?_append` splits it over an appended list, and `get?_perm` forgets the
  order of the list.
* `latest` lists the records that remain; with distinct keys these are all. -/

namespace Keyed

variable {α κ : Type} [DecidableEq κ] (key : α → κ)

/-- The last record with a key. -/
def get? (items : List α) (k : κ) : Option α := items.reverse.find? fun x => key x = k

/-- The records that no later record replaces. -/
def latest (items : List α) : List α := items.pwFilter fun a b => key a ≠ key b

variable {key}

theorem key_of_get? {items : List α} {k : κ} {x : α} (h : get? key items k = some x) :
    key x = k := by
  have := List.find?_some h
  exact of_decide_eq_true this

theorem mem_of_get? {items : List α} {k : κ} {x : α} (h : get? key items k = some x) :
    x ∈ items :=
  List.mem_reverse.mp (List.mem_of_find?_eq_some h)

theorem get?_eq_none {items : List α} {k : κ} :
    get? key items k = none ↔ k ∉ items.map key := by
  unfold get?
  rw [List.find?_eq_none, List.mem_map]
  constructor
  · rintro h ⟨x, hx, rfl⟩
    exact h x (List.mem_reverse.mpr hx) (decide_eq_true rfl)
  · intro h x hx hk
    exact h ⟨x, List.mem_reverse.mp hx, of_decide_eq_true hk⟩

/-- A lookup over an appended list looks into the second list first. -/
theorem get?_append (first second : List α) (k : κ) :
    get? key (first ++ second) k = (get? key second k).or (get? key first k) := by
  unfold get?
  rw [List.reverse_append, List.find?_append]

/-- Records in front do not matter to a key that the rest has. -/
theorem get?_append_of_mem {first second : List α} {k : κ} (h : k ∈ second.map key) :
    get? key (first ++ second) k = get? key second k := by
  rw [get?_append]
  cases hk : get? key second k with
  | none => exact absurd h (get?_eq_none.mp hk)
  | some => rfl

/-- With distinct keys the records are found under their keys. -/
theorem get?_eq_some_iff {items : List α} (h : (items.map key).Nodup) {k : κ} {x : α} :
    get? key items k = some x ↔ x ∈ items ∧ key x = k := by
  constructor
  · exact fun hget => ⟨mem_of_get? hget, key_of_get? hget⟩
  · rintro ⟨hmem, rfl⟩
    cases hget : get? key items (key x) with
    | none => exact absurd (List.mem_map_of_mem hmem) (get?_eq_none.mp hget)
    | some =>
        have hsame := List.inj_on_of_nodup_map h (mem_of_get? hget) hmem (key_of_get? hget)
        rw [hsame]

/-- With distinct keys the order of the records does not matter. -/
theorem get?_perm {items items' : List α} (hperm : items.Perm items')
    (h : (items.map key).Nodup) (k : κ) : get? key items k = get? key items' k := by
  have h' : (items'.map key).Nodup := (hperm.map key).nodup_iff.mp h
  refine Option.ext fun x => ?_
  rw [get?_eq_some_iff h, get?_eq_some_iff h', hperm.mem_iff]

theorem latest_eq_self {items : List α} (h : (items.map key).Nodup) : latest key items = items :=
  List.pwFilter_eq_self.2 (List.pairwise_map.mp h)

end Keyed
