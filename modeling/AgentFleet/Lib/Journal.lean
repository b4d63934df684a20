import Mathlib.Data.List.Pairwise
import Mathlib.Data.List.Infix
import Mathlib.Logic.Relation
import Mathlib.Tactic.Common

/-! # Journals in one log

A log holds the entries of many journals in the order of their commits.  A `Layout` says which
journal an entry belongs to and which number it carries; a new entry carries the number after
the greatest one of its journal.

* `Dense` says that every journal is numbered `1, …, n` in the order of the log;
  `Dense.step` is the induction step over a growing log.
* `page` is a query by number: what follows a cursor, sorted, at most `limit` entries.  In a
  dense log it is a segment of the journal (`Dense.page_eq`).
* `Read` is the invariant of a reader that pages through a log which grows between its pages:
  it has read the first `cursor` entries. -/

namespace Journaling

/-- The journal of an entry and its number there. -/
structure Layout (α κ : Type) where
  key : α → κ
  seq : α → ℕ

namespace Layout

variable {α κ : Type} [DecidableEq κ] (L : Layout α κ)

/-- The entries of one journal, in the order of the log. -/
def journal (log : List α) (k : κ) : List α := log.filter fun a => L.key a = k

/-- The number of the next entry of a journal. -/
def next (log : List α) (k : κ) : ℕ := ((L.journal log k).map L.seq).foldl max 0 + 1

/-- A log that stays or grows by one entry with the next number of its journal. -/
inductive Step (log : List α) : List α → Prop where
  | same : Step log log
  | append (a : α) (h : L.seq a = L.next log (L.key a)) : Step log (log ++ [a])

/-- Every journal is numbered from one on, without gaps and in the order of the log. -/
def Dense (log : List α) : Prop :=
  ∀ k, (L.journal log k).map L.seq = List.range' 1 (L.journal log k).length

/-- The entries of a journal after a cursor, sorted by their numbers, at most `limit`. -/
def page (log : List α) (k : κ) (cursor limit : ℕ) : List α :=
  (((L.journal log k).filter fun a => cursor < L.seq a).mergeSort
    fun a b => L.seq a ≤ L.seq b).take limit

/-- The cursor after a page: the number of its last entry. -/
def cursorAfter (cursor : ℕ) (page : List α) : ℕ := (page.getLast?.map L.seq).getD cursor

variable {L} {log log' : List α} {k : κ} {cursor limit : ℕ}

/-! ### Growing logs -/

theorem Step.isPrefix (h : L.Step log log') : log <+: log' := by
  cases h with
  | same => exact List.prefix_refl log
  | append a => exact List.prefix_append log [a]

theorem isPrefix_journal (h : log <+: log') (k : κ) : L.journal log k <+: L.journal log' k := by
  unfold journal
  exact h.filter _

theorem foldl_max_range' (n s m : ℕ) (h : m ≤ s) :
    (List.range' s n).foldl max m = if n = 0 then m else s + n - 1 := by
  induction n generalizing s m with
  | zero => rfl
  | succ n ih =>
      rw [List.range'_succ, List.foldl_cons, Nat.max_eq_right h, ih (s + 1) s (Nat.le_succ s),
        if_neg (Nat.succ_ne_zero n)]
      split_ifs
      · omega
      · omega

theorem Dense.next_eq (h : L.Dense log) (k : κ) :
    L.next log k = (L.journal log k).length + 1 := by
  unfold next
  rw [h k, foldl_max_range' _ 1 0 (by omega)]
  split_ifs
  · omega
  · omega

theorem dense_nil : L.Dense [] := fun _ => rfl

/-- The next number continues its journal and leaves the others alone. -/
theorem Dense.step (h : L.Dense log) (hstep : L.Step log log') : L.Dense log' := by
  cases hstep with
  | same => exact h
  | append a ha =>
      intro k
      have happend : L.journal (log ++ [a]) k
          = L.journal log k ++ if L.key a = k then [a] else [] := by
        unfold journal
        rw [List.filter_append, List.filter_singleton]
        by_cases hk : L.key a = k
        · rw [if_pos hk, decide_eq_true hk]
          rfl
        · rw [if_neg hk, decide_eq_false hk]
          rfl
      rw [happend, List.map_append, h k]
      split_ifs with hk
      · subst hk
        rw [List.length_append, List.length_singleton, List.map_singleton, ha, h.next_eq,
          ← List.range'_append_1, Nat.add_comm 1]
        rfl
      · simp only [List.map_nil, List.append_nil]

/-! ### Pages -/

/-- In a list that is numbered from `s + 1` on, the entries after a number are a rest of it. -/
theorem filter_eq_drop {l : List α} {seq : α → ℕ} {s c : ℕ}
    (h : l.map seq = List.range' (s + 1) l.length) :
    l.filter (fun a => s + c < seq a) = l.drop c := by
  induction l generalizing s c with
  | nil => rw [List.drop_nil, List.filter_nil]
  | cons a l ih =>
      rw [List.map_cons, List.length_cons, List.range'_succ] at h
      obtain ⟨ha, hl⟩ := List.cons.inj h
      cases c with
      | zero =>
          rw [List.drop_zero]
          refine List.filter_eq_self.mpr fun b hb => decide_eq_true ?_
          rcases List.mem_cons.mp hb with rfl | hb
          · omega
          · have hmem : seq b ∈ List.range' (s + 1 + 1) l.length := hl ▸ List.mem_map_of_mem hb
            rw [List.mem_range'_1] at hmem
            omega
      | succ c =>
          have hfirst : ¬ s + (c + 1) < seq a := by omega
          have hrest := ih (s := s + 1) (c := c) hl
          rw [show s + 1 + c = s + (c + 1) by omega] at hrest
          rw [List.filter_cons_of_neg (by rw [decide_eq_true_eq]; exact hfirst), hrest,
            List.drop_succ_cons]

/-- A page of a dense log is a segment of the journal. -/
theorem Dense.page_eq (h : L.Dense log) (k : κ) (cursor limit : ℕ) :
    L.page log k cursor limit = ((L.journal log k).drop cursor).take limit := by
  have hafter : (L.journal log k).filter (fun a => cursor < L.seq a)
      = (L.journal log k).drop cursor := by
    have hfilter := filter_eq_drop (s := 0) (c := cursor) (h k)
    rw [Nat.zero_add] at hfilter
    exact hfilter
  have hsorted : ((L.journal log k).drop cursor).Pairwise fun a b =>
      decide (L.seq a ≤ L.seq b) = true := by
    have hmap : (((L.journal log k).drop cursor).map L.seq).Pairwise (· ≤ ·) := by
      rw [List.map_drop, h k]
      exact List.pairwise_le_range'.sublist (List.drop_sublist _ _)
    exact (List.pairwise_map.mp hmap).imp fun hle => decide_eq_true hle
  unfold page
  rw [hafter, List.mergeSort_of_pairwise hsorted]

/-- The numbers of a page go on from the cursor. -/
theorem Dense.seq_page (h : L.Dense log) (k : κ) (cursor limit : ℕ) :
    (L.page log k cursor limit).map L.seq
      = List.range' (cursor + 1) (L.page log k cursor limit).length := by
  rw [h.page_eq, List.map_take, List.map_drop, h k, List.length_take, List.length_drop,
    List.drop_range', Nat.mul_one, Nat.add_comm 1]
  rcases Nat.le_total limit ((L.journal log k).length - cursor) with hle | hle
  · rw [List.take_range'_of_length_ge hle, Nat.min_eq_left hle]
  · rw [List.take_range'_of_length_le hle, Nat.min_eq_right hle]

theorem Dense.cursorAfter_page (h : L.Dense log) (k : κ) (cursor limit : ℕ) :
    L.cursorAfter cursor (L.page log k cursor limit)
      = cursor + (L.page log k cursor limit).length := by
  have hseq := h.seq_page k cursor limit
  unfold cursorAfter
  generalize L.page log k cursor limit = entries at hseq
  rw [← List.getLast?_map, hseq]
  cases hlen : entries.length with
  | zero => rfl
  | succ n =>
      rw [List.range'_1_concat, List.getLast?_concat]
      rw [Option.getD_some]
      omega

/-! ### Readers -/

/-- A reader has read the first `cursor` entries of a journal, in order. -/
structure Read (L : Layout α κ) (log : List α) (k : κ) (cursor : ℕ) (entries : List α) : Prop where
  entries : entries = (L.journal log k).take cursor
  within : cursor ≤ (L.journal log k).length

theorem Read.start : L.Read log k 0 [] := ⟨rfl, Nat.zero_le _⟩

/-- What was read stays a first part of the journal when the log grows. -/
theorem Read.grow {entries : List α} (h : L.Read log k cursor entries) (hlog : log <+: log') :
    L.Read log' k cursor entries := by
  obtain ⟨rest, hrest⟩ := isPrefix_journal (L := L) hlog k
  have hwithin := h.within
  constructor
  · rw [h.entries, ← hrest, List.take_append_of_le_length hwithin]
  · rw [← hrest, List.length_append]
    omega

/-- A page continues what was read. -/
theorem Read.page {entries : List α} (h : L.Read log k cursor entries) (hdense : L.Dense log)
    (limit : ℕ) :
    L.Read log k (L.cursorAfter cursor (L.page log k cursor limit))
      (entries ++ L.page log k cursor limit) := by
  have hwithin := h.within
  rw [hdense.cursorAfter_page, hdense.page_eq]
  constructor
  · rw [h.entries, List.length_take, List.length_drop, List.take_add]
    congr 1
    rcases Nat.le_total limit ((L.journal log k).length - cursor) with hle | hle
    · rw [Nat.min_eq_left hle]
    · rw [Nat.min_eq_right hle, List.take_of_length_le (by rw [List.length_drop]; exact hle),
        List.take_of_length_le (by rw [List.length_drop])]
  · rw [List.length_take, List.length_drop]
    omega

end Layout

end Journaling
