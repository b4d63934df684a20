import Mathlib.Data.List.Nodup
import Mathlib.Data.List.Perm.Basic
import Mathlib.Data.List.Sort
import Mathlib.Order.Basic

/-! # Dictionaries of records

A dictionary holds records in the order of their keys, one for each key.  A dictionary that is
read by key only, or listed by its sorted keys, is one of these.

* `get?_put` and `get?_erase` say what is found after a write.
* `ext_get?` says that a dictionary is what is found in it. -/

/-- Records with their keys in order, no key twice. -/
structure SortedRecords {κ α : Type} [LinearOrder κ] (key : α → κ) where
  records : List α
  sorted : records.Pairwise fun a b => key a < key b

namespace SortedRecords

variable {κ α : Type} [LinearOrder κ] {key : α → κ}

/-- The record of a key. -/
def get? (dictionary : SortedRecords key) (k : κ) : Option α :=
  dictionary.records.find? fun a => key a = k

/-- The dictionary without a key. -/
def erase (dictionary : SortedRecords key) (k : κ) : SortedRecords key where
  records := dictionary.records.filter fun a => key a ≠ k
  sorted := dictionary.sorted.filter _

/-- The dictionary with a record under its key, in place of the one that is there. -/
def put (dictionary : SortedRecords key) (a : α) : SortedRecords key where
  records := dictionary.records.filter (fun b => key b < key a)
    ++ a :: dictionary.records.filter fun b => key a < key b
  sorted := by
    refine List.pairwise_append.mpr ⟨dictionary.sorted.filter _,
      List.pairwise_cons.mpr ⟨fun b hb => ?_, dictionary.sorted.filter _⟩, fun b hb c hc => ?_⟩
    · exact of_decide_eq_true (List.mem_filter.mp hb).2
    · have hbefore : key b < key a := of_decide_eq_true (List.mem_filter.mp hb).2
      rcases List.mem_cons.mp hc with rfl | hc
      · exact hbefore
      · exact hbefore.trans (of_decide_eq_true (List.mem_filter.mp hc).2)

/-- `setdefault`: the record is put only under a key that is free. -/
def setDefault (dictionary : SortedRecords key) (a : α) : SortedRecords key :=
  if (dictionary.get? (key a)).isSome then dictionary else dictionary.put a

variable {dictionary other : SortedRecords key} {a b : α} {k : κ}

/-- The keys of a dictionary in their order. -/
theorem sorted_keys (dictionary : SortedRecords key) :
    (dictionary.records.map key).Pairwise (· < ·) :=
  List.pairwise_map.mpr dictionary.sorted

theorem eq_of_key_eq (ha : a ∈ dictionary.records) (hb : b ∈ dictionary.records)
    (h : key a = key b) : a = b := by
  have hnodup : (dictionary.records.map key).Nodup := dictionary.sorted_keys.imp ne_of_lt
  exact List.inj_on_of_nodup_map hnodup ha hb h

theorem get?_eq_some_iff : dictionary.get? k = some a ↔ a ∈ dictionary.records ∧ key a = k := by
  unfold get?
  constructor
  · intro h
    have hkey := List.find?_some h
    exact ⟨List.mem_of_find?_eq_some h, of_decide_eq_true hkey⟩
  · rintro ⟨hmem, rfl⟩
    cases hfound : dictionary.records.find? fun b => key b = key a with
    | none => exact absurd (decide_eq_true rfl) (List.find?_eq_none.mp hfound a hmem)
    | some =>
        have hkey := List.find?_some hfound
        rw [eq_of_key_eq (List.mem_of_find?_eq_some hfound) hmem (of_decide_eq_true hkey)]

theorem mem_erase : a ∈ (dictionary.erase k).records ↔ a ∈ dictionary.records ∧ key a ≠ k := by
  unfold erase
  rw [List.mem_filter, decide_eq_true_iff]

theorem mem_put : b ∈ (dictionary.put a).records
    ↔ b = a ∨ b ∈ dictionary.records ∧ key b ≠ key a := by
  unfold put
  rw [List.mem_append, List.mem_cons, List.mem_filter, List.mem_filter, decide_eq_true_iff,
    decide_eq_true_iff]
  constructor
  · rintro (⟨hmem, hlt⟩ | rfl | ⟨hmem, hlt⟩)
    · exact .inr ⟨hmem, hlt.ne⟩
    · exact .inl rfl
    · exact .inr ⟨hmem, hlt.ne'⟩
  · rintro (rfl | ⟨hmem, hne⟩)
    · exact .inr (.inl rfl)
    · rcases lt_or_gt_of_ne hne with hlt | hgt
      · exact .inl ⟨hmem, hlt⟩
      · exact .inr (.inr ⟨hmem, hgt⟩)

/-- What is found after a key was erased. -/
theorem get?_erase : (dictionary.erase k).get? l = if l = k then none else dictionary.get? l := by
  refine Option.ext fun b => ?_
  rw [get?_eq_some_iff, mem_erase]
  split_ifs with hkey
  · subst hkey
    exact iff_of_false (fun h => h.1.2 h.2) (fun h => by cases h)
  · rw [get?_eq_some_iff]
    constructor
    · exact fun h => ⟨h.1.1, h.2⟩
    · exact fun h => ⟨⟨h.1, h.2 ▸ hkey⟩, h.2⟩

/-- What is found after a record was put. -/
theorem get?_put : (dictionary.put a).get? l
    = if l = key a then some a else dictionary.get? l := by
  refine Option.ext fun b => ?_
  rw [get?_eq_some_iff, mem_put]
  split_ifs with hkey
  · subst hkey
    rw [Option.some.injEq]
    constructor
    · rintro ⟨rfl | ⟨-, hne⟩, heq⟩
      · rfl
      · exact absurd heq hne
    · rintro rfl
      exact ⟨.inl rfl, rfl⟩
  · rw [get?_eq_some_iff]
    constructor
    · rintro ⟨rfl | ⟨hmem, -⟩, heq⟩
      · exact absurd heq.symm hkey
      · exact ⟨hmem, heq⟩
    · rintro ⟨hmem, rfl⟩
      exact ⟨.inr ⟨hmem, hkey⟩, rfl⟩

theorem get?_setDefault : (dictionary.setDefault a).get? l
    = (dictionary.get? l).or (if l = key a then some a else none) := by
  unfold setDefault
  split_ifs with hsome hkey hkey
  · subst hkey
    obtain ⟨b, hb⟩ := Option.isSome_iff_exists.mp hsome
    rw [hb, Option.some_or]
  · rw [Option.or_none]
  · rw [get?_put, if_pos hkey, hkey, Option.not_isSome_iff_eq_none.mp hsome, Option.none_or]
  · rw [get?_put, if_neg hkey, Option.or_none]

/-- A dictionary is what is found in it. -/
theorem ext_get? (h : ∀ k, dictionary.get? k = other.get? k) : dictionary = other := by
  have hmem (a : α) : a ∈ dictionary.records ↔ a ∈ other.records := by
    have hkey := h (key a)
    have hleft := @get?_eq_some_iff _ _ _ key dictionary a (key a)
    have hright := @get?_eq_some_iff _ _ _ key other a (key a)
    rw [hkey, hright] at hleft
    simpa using hleft.symm
  have hnodup (d : SortedRecords key) : d.records.Nodup :=
    d.sorted.imp fun hlt heq => absurd (congrArg key heq) hlt.ne
  have hperm : dictionary.records.Perm other.records :=
    (List.perm_ext_iff_of_nodup (hnodup dictionary) (hnodup other)).mpr hmem
  have hrecords : dictionary.records = other.records :=
    hperm.eq_of_pairwise (fun a b _ _ hab hba => absurd hab hba.asymm) dictionary.sorted other.sorted
  cases dictionary
  cases other
  congr

theorem nodup_records (dictionary : SortedRecords key) : dictionary.records.Nodup :=
  dictionary.sorted.imp fun hlt heq => absurd (congrArg key heq) hlt.ne

/-- The records are that of a key, if there is one, and those of the other keys. -/
theorem perm_erase (dictionary : SortedRecords key) (k : κ) :
    dictionary.records.Perm ((dictionary.get? k).toList ++ (dictionary.erase k).records) := by
  have hnodup : ((dictionary.get? k).toList ++ (dictionary.erase k).records).Nodup := by
    refine List.nodup_append.mpr ⟨?_, (dictionary.erase k).nodup_records, fun a ha b hb => ?_⟩
    · cases dictionary.get? k with
      | none => exact List.nodup_nil
      | some a => exact List.nodup_singleton a
    · rintro rfl
      exact (mem_erase.mp hb).2 (get?_eq_some_iff.mp (Option.mem_toList.mp ha)).2
  refine (List.perm_ext_iff_of_nodup dictionary.nodup_records hnodup).mpr fun a => ?_
  rw [List.mem_append, Option.mem_toList, get?_eq_some_iff, mem_erase]
  constructor
  · intro ha
    by_cases hkey : key a = k
    · exact .inl ⟨ha, hkey⟩
    · exact .inr ⟨ha, hkey⟩
  · rintro (⟨ha, -⟩ | ⟨ha, -⟩)
    · exact ha
    · exact ha

theorem perm_put (dictionary : SortedRecords key) (a : α) :
    (dictionary.put a).records.Perm (a :: (dictionary.erase (key a)).records) := by
  have hnodup : (a :: (dictionary.erase (key a)).records).Nodup := by
    refine List.nodup_cons.mpr ⟨fun hmem => ?_, (dictionary.erase (key a)).nodup_records⟩
    exact (mem_erase.mp hmem).2 rfl
  refine (List.perm_ext_iff_of_nodup (dictionary.put a).nodup_records hnodup).mpr fun b => ?_
  rw [mem_put, List.mem_cons, mem_erase]

end SortedRecords
