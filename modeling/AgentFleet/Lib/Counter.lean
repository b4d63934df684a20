import AgentFleet.Lib.Keyed
import AgentFleet.Lib.SortedRecords
import Mathlib.Algebra.BigOperators.Group.List.Basic
import Mathlib.Algebra.GroupWithZero.Nat

/-! # Counters

A dictionary of numbers to which amounts are added under keys, as `collections.Counter` is one and
a dictionary of running totals; its items are listed in the order of their keys.

* `get?_total` says what is found after all of some amounts were added.
* `total_perm` forgets the order in which they were added, and `sum_total` their keys. -/

/-- Numbers by key. -/
abbrev Counter (κ : Type) [LinearOrder κ] := SortedRecords (Prod.fst : κ × ℕ → κ)

namespace Counter

variable {κ : Type} [LinearOrder κ]

/-- No key was counted. -/
def empty : Counter κ := ⟨[], .nil⟩

/-- `counter[key]`, which is `0` for a missing key. -/
def count (counter : Counter κ) (key : κ) : ℕ := ((counter.get? key).map Prod.snd).getD 0

/-- `counter[key] += amount`. -/
def add (counter : Counter κ) (key : κ) (amount : ℕ) : Counter κ :=
  counter.put (key, counter.count key + amount)

/-- The counter after all of some amounts. -/
def total (entries : List (κ × ℕ)) : Counter κ :=
  entries.foldl (fun counter entry => counter.add entry.1 entry.2) empty

/-- `Counter(keys)`. -/
def ofKeys (keys : List κ) : Counter κ := total (keys.map fun key => (key, 1))

/-- `sorted(counter.items())`. -/
def items (counter : Counter κ) : List (κ × ℕ) := counter.records

/-- What is added under a key. -/
def amountOf (entries : List (κ × ℕ)) (key : κ) : ℕ :=
  ((entries.filter fun entry => entry.1 = key).map Prod.snd).sum

variable {counter : Counter κ} {entries entries' : List (κ × ℕ)} {key k : κ} {amount : ℕ}

theorem count_add : (counter.add key amount).count k
    = counter.count k + if k = key then amount else 0 := by
  unfold count add
  rw [SortedRecords.get?_put]
  split_ifs with hkey
  · rw [hkey]
    rfl
  · rfl

theorem amountOf_cons (entry : κ × ℕ) :
    amountOf (entry :: entries) k = (if k = entry.1 then entry.2 else 0) + amountOf entries k := by
  unfold amountOf
  rw [List.filter_cons]
  by_cases hkey : k = entry.1
  · rw [if_pos hkey, if_pos (decide_eq_true hkey.symm), List.map_cons, List.sum_cons]
  · rw [if_neg hkey, if_neg (fun h => hkey (of_decide_eq_true h).symm), Nat.zero_add]

theorem amountOf_perm (h : entries.Perm entries') : amountOf entries k = amountOf entries' k :=
  ((h.filter _).map _).sum_eq

/-- What is found after some amounts were added to a counter. -/
theorem get?_foldl (counter : Counter κ) (entries : List (κ × ℕ)) :
    (entries.foldl (fun counter entry => counter.add entry.1 entry.2) counter).get? k
      = if k ∈ entries.map Prod.fst then some (k, counter.count k + amountOf entries k)
        else counter.get? k := by
  induction entries generalizing counter with
  | nil => rfl
  | cons entry entries ih =>
      rw [List.foldl_cons, ih, amountOf_cons, count_add, List.map_cons]
      have hget : (counter.add entry.1 entry.2).get? k
          = if k = entry.1 then some (entry.1, counter.count entry.1 + entry.2)
            else counter.get? k := SortedRecords.get?_put
      by_cases hkey : k = entry.1
      · subst hkey
        rw [if_pos rfl] at hget
        rw [if_pos rfl, if_pos List.mem_cons_self]
        split_ifs with hmem
        · rw [Nat.add_assoc]
        · have hzero : amountOf entries entry.1 = 0 := by
            unfold amountOf
            rw [List.filter_eq_nil_iff.mpr]
            · rfl
            · intro other hother heq
              exact hmem (List.mem_map.mpr ⟨other, hother, of_decide_eq_true heq⟩)
          rw [hget, hzero, Nat.add_zero]
      · simp only [if_neg hkey, Nat.add_zero, Nat.zero_add, hget]
        have hmem : k ∈ entry.1 :: entries.map Prod.fst ↔ k ∈ entries.map Prod.fst := by
          rw [List.mem_cons, or_iff_right hkey]
        rw [if_congr hmem rfl rfl]

/-- What is found after all of some amounts were added. -/
theorem get?_total : (total entries).get? k
    = if k ∈ entries.map Prod.fst then some (k, amountOf entries k) else none := by
  unfold total
  rw [get?_foldl]
  have hempty : (empty : Counter κ).count k = 0 := rfl
  rw [hempty, Nat.zero_add]
  rfl

theorem count_total : (total entries).count k = amountOf entries k := by
  unfold count
  rw [get?_total]
  split_ifs with hmem
  · rfl
  · unfold amountOf
    rw [List.filter_eq_nil_iff.mpr]
    · rfl
    · intro entry hentry heq
      exact hmem (List.mem_map.mpr ⟨entry, hentry, of_decide_eq_true heq⟩)

/-- The order of the amounts does not matter. -/
theorem total_perm (h : entries.Perm entries') : total entries = total entries' := by
  refine SortedRecords.ext_get? fun k => ?_
  rw [get?_total, get?_total, amountOf_perm h, if_congr (h.map Prod.fst).mem_iff rfl rfl]

theorem mem_items_total {item : κ × ℕ} : item ∈ (total entries).items
    ↔ item.1 ∈ entries.map Prod.fst ∧ item.2 = amountOf entries item.1 := by
  have hmem : item ∈ (total entries).items ↔ (total entries).get? item.1 = some item := by
    rw [SortedRecords.get?_eq_some_iff, and_iff_left rfl]
    rfl
  rw [hmem, get?_total]
  constructor
  · intro h
    split_ifs at h with hkey
    exact ⟨hkey, (congrArg Prod.snd (Option.some.inj h)).symm⟩
  · rintro ⟨hkey, hamount⟩
    rw [if_pos hkey, ← hamount]

theorem sum_items_add :
    ((counter.add key amount).items.map Prod.snd).sum = (counter.items.map Prod.snd).sum + amount := by
  have hput := (SortedRecords.perm_put counter (key, counter.count key + amount)).map Prod.snd
  have hrest := (SortedRecords.perm_erase counter key).map Prod.snd
  have hadded := hput.sum_eq
  have hbefore := hrest.sum_eq
  rw [List.map_cons, List.sum_cons] at hadded
  rw [List.map_append, List.sum_append] at hbefore
  have hcount : (((counter.get? key).toList).map Prod.snd).sum = counter.count key := by
    unfold count
    cases counter.get? key with
    | none => rfl
    | some => exact Nat.add_zero _
  have hitems : ((counter.add key amount).items.map Prod.snd).sum
      = counter.count key + amount + ((counter.erase key).records.map Prod.snd).sum := hadded
  have hcounter : (counter.items.map Prod.snd).sum
      = counter.count key + ((counter.erase key).records.map Prod.snd).sum := by
    rw [← hcount]
    exact hbefore
  omega

/-- Nothing that was added is lost. -/
theorem sum_total : ((total entries).items.map Prod.snd).sum = (entries.map Prod.snd).sum := by
  have hfold : ∀ counter : Counter κ,
      ((entries.foldl (fun counter entry => counter.add entry.1 entry.2) counter).items.map
        Prod.snd).sum = (counter.items.map Prod.snd).sum + (entries.map Prod.snd).sum := by
    induction entries with
    | nil => exact fun _ => rfl
    | cons entry entries ih =>
        intro counter
        rw [List.foldl_cons, ih, sum_items_add, List.map_cons, List.sum_cons, Nat.add_assoc]
  exact (hfold empty).trans (Nat.zero_add _)

theorem amountOf_ofKeys (keys : List κ) :
    amountOf (keys.map fun key => (key, 1)) k = keys.count k := by
  induction keys with
  | nil => rfl
  | cons key keys ih =>
      rw [List.map_cons, amountOf_cons, ih, List.count_cons]
      by_cases hkey : k = key
      · rw [if_pos hkey, if_pos (beq_iff_eq.mpr hkey.symm), Nat.add_comm]
      · rw [if_neg hkey, if_neg (fun h => hkey (beq_iff_eq.mp h).symm), Nat.zero_add, Nat.add_zero]

/-- A key is counted as often as it occurs. -/
theorem count_ofKeys (keys : List κ) : (ofKeys keys).count k = keys.count k := by
  unfold ofKeys
  rw [count_total, amountOf_ofKeys]

theorem mem_items_ofKeys {keys : List κ} {item : κ × ℕ} : item ∈ (ofKeys keys).items
    ↔ item.1 ∈ keys ∧ item.2 = keys.count item.1 := by
  unfold ofKeys
  rw [mem_items_total, amountOf_ofKeys, List.map_map]
  have hkeys : keys.map (Prod.fst ∘ fun key => (key, 1)) = keys := List.map_id _
  rw [hkeys]

theorem sum_ofKeys (keys : List κ) : ((ofKeys keys).items.map Prod.snd).sum = keys.length := by
  unfold ofKeys
  rw [sum_total, List.map_map]
  have hones : keys.map (Prod.snd ∘ fun key => (key, 1)) = List.replicate keys.length 1 :=
    List.map_const'
  rw [hones, List.sum_replicate, Nat.nsmul_eq_mul, Nat.mul_one]

theorem ofKeys_perm {keys keys' : List κ} (h : keys.Perm keys') : ofKeys keys = ofKeys keys' :=
  total_perm (h.map _)

theorem nodup_keys (counter : Counter κ) : (counter.items.map Prod.fst).Nodup :=
  counter.sorted_keys.imp ne_of_lt

/-- The items are looked up as the counter is. -/
theorem get?_items (counter : Counter κ) (k : κ) :
    Keyed.get? Prod.fst counter.items k = counter.get? k := by
  refine Option.ext fun entry => ?_
  rw [Keyed.get?_eq_some_iff counter.nodup_keys, SortedRecords.get?_eq_some_iff]
  rfl

theorem mem_keys_total {entries : List (κ × ℕ)} {k : κ} :
    k ∈ (total entries).items.map Prod.fst ↔ k ∈ entries.map Prod.fst := by
  rw [List.mem_map]
  constructor
  · rintro ⟨item, hitem, rfl⟩
    exact (mem_items_total.mp hitem).1
  · intro hk
    exact ⟨(k, amountOf entries k), mem_items_total.mpr ⟨hk, rfl⟩, rfl⟩

/-- Amounts are listed under the keys that they were added under. -/
theorem keys_total (entries : List (κ × ℕ)) :
    (total entries).items.map Prod.fst = (ofKeys (entries.map Prod.fst)).items.map Prod.fst := by
  have hmem : ∀ k, k ∈ (total entries).items.map Prod.fst
      ↔ k ∈ (ofKeys (entries.map Prod.fst)).items.map Prod.fst := by
    intro k
    have hkeys : ((entries.map Prod.fst).map fun key => (key, 1)).map Prod.fst
        = entries.map Prod.fst := by
      rw [List.map_map]
      exact List.map_id _
    unfold ofKeys
    rw [mem_keys_total, mem_keys_total, hkeys]
  have hperm := (List.perm_ext_iff_of_nodup (nodup_keys _) (nodup_keys _)).mpr hmem
  exact hperm.eq_of_pairwise (fun a b _ _ hab hba => absurd hab hba.asymm)
    (total entries).sorted_keys (ofKeys (entries.map Prod.fst)).sorted_keys

/-- The items are the counts of a counter. -/
theorem amountOf_items (counter : Counter κ) (k : κ) : amountOf counter.items k = counter.count k := by
  have hperm : counter.items.Perm ((counter.get? k).toList ++ (counter.erase k).records) :=
    SortedRecords.perm_erase counter k
  have hrest : (counter.erase k).records.filter (fun entry => entry.1 = k) = [] := by
    rw [List.filter_eq_nil_iff]
    intro entry hentry heq
    exact (SortedRecords.mem_erase.mp hentry).2 (of_decide_eq_true heq)
  rw [amountOf_perm hperm]
  unfold amountOf count
  rw [List.filter_append, hrest, List.append_nil]
  cases hget : counter.get? k with
  | none => rfl
  | some entry =>
      have hkey : entry.1 = k := (SortedRecords.get?_eq_some_iff.mp hget).2
      have hfilter : [entry].filter (fun entry => entry.1 = k) = [entry] :=
        List.filter_eq_self.mpr fun other hother => by
          rw [List.mem_singleton.mp hother, decide_eq_true hkey]
      rw [Option.toList_some, hfilter]
      exact Nat.add_zero _

/-- Items that are spelled out. -/
def elements (items : List (κ × ℕ)) : List κ :=
  items.flatMap fun item => List.replicate item.2 item.1

theorem count_elements (items : List (κ × ℕ)) (k : κ) : (elements items).count k = amountOf items k := by
  induction items with
  | nil => rfl
  | cons item items ih =>
      have hcons : elements (item :: items) = List.replicate item.2 item.1 ++ elements items := rfl
      rw [hcons, List.count_append, List.count_replicate, ih, amountOf_cons]
      by_cases hkey : k = item.1
      · rw [if_pos hkey, if_pos (beq_iff_eq.mpr hkey.symm)]
      · rw [if_neg hkey, if_neg (fun h => hkey (beq_iff_eq.mp h).symm)]

/-- The items of a counter spell its keys out again. -/
theorem elements_ofKeys (keys : List κ) : (elements (ofKeys keys).items).Perm keys := by
  rw [List.perm_iff_count]
  intro k
  rw [count_elements, amountOf_items, count_ofKeys]

/-- A list is made up of its parts under distinct keys. -/
theorem parts_perm {α : Type} {key : α → Option κ} {keys : List κ} {l : List α} (hkeys : keys.Nodup)
    (hl : ∀ a ∈ l, ∃ k ∈ keys, key a = some k) :
    (keys.flatMap fun k => l.filter fun a => key a = some k).Perm l := by
  induction keys generalizing l with
  | nil =>
      cases l with
      | nil => exact .nil
      | cons a =>
          obtain ⟨k, hk, -⟩ := hl a List.mem_cons_self
          cases hk
  | cons k keys ih =>
      rw [List.nodup_cons] at hkeys
      rw [List.flatMap_cons]
      have hrest : (keys.flatMap fun k' => l.filter fun a => key a = some k')
          = keys.flatMap fun k' =>
            (l.filter fun a => !decide (key a = some k)).filter fun a => key a = some k' := by
        refine List.flatMap_congr fun k' hk' => ?_
        rw [List.filter_filter]
        refine List.filter_congr fun a _ => ?_
        by_cases hkey : key a = some k'
        · have hne : key a ≠ some k := by
            intro h
            rw [hkey] at h
            exact hkeys.1 (Option.some.inj h ▸ hk')
          rw [decide_eq_true hkey, decide_eq_false hne]
          rfl
        · rw [decide_eq_false hkey]
          rfl
      rw [hrest]
      refine (List.Perm.append_left _ (ih hkeys.2 fun a ha => ?_)).trans
        (List.filter_append_perm (fun a => decide (key a = some k)) l)
      obtain ⟨hmem, hne⟩ := List.mem_filter.mp ha
      obtain ⟨k', hk', hkey⟩ := hl a hmem
      rcases List.mem_cons.mp hk' with rfl | hk'
      · rw [decide_eq_true hkey] at hne
        cases hne
      · exact ⟨k', hk', hkey⟩

/-- A sum over distinct keys is the sum over those at which it is not zero. -/
theorem sum_map_of_subset {keys part : List κ} (hkeys : keys.Nodup) (hpart : part.Nodup)
    (hsub : ∀ k ∈ part, k ∈ keys) {f : κ → ℕ} (hzero : ∀ k ∈ keys, k ∉ part → f k = 0) :
    (keys.map f).sum = (part.map f).sum := by
  have hperm : (keys.filter fun k => k ∈ part).Perm part := by
    refine (List.perm_ext_iff_of_nodup (hkeys.filter _) hpart).mpr fun k => ?_
    rw [List.mem_filter, decide_eq_true_eq]
    exact ⟨And.right, fun hk => ⟨hsub k hk, hk⟩⟩
  have hsum : (keys.map f).sum = ((keys.filter fun k => k ∈ part).map f).sum := by
    clear hkeys hpart hsub hperm
    induction keys with
    | nil => rfl
    | cons k keys ih =>
        have hrest := ih fun k' hk' => hzero k' (List.mem_cons_of_mem k hk')
        rw [List.filter_cons, List.map_cons, List.sum_cons, hrest]
        split_ifs with hk
        · rw [List.map_cons, List.sum_cons]
        · rw [hzero k List.mem_cons_self fun hmem => hk (decide_eq_true hmem), Nat.zero_add]
  rw [hsum]
  exact (hperm.map f).sum_eq

end Counter
