import Mathlib.Data.List.Basic
import Mathlib.Data.List.Range
import Mathlib.Tactic.Common

/-! # Chains of records

A history is a list that only grows at its end.  In a numbered one the entries count 1, 2, 3
and so on; in a linked one every entry names the digest of the entry before it, and the first names
none.  Each has one lemma for an entry more. -/

namespace Chain

variable {α δ : Type}

/-- The entries are numbered from one. -/
def Numbered (number : α → ℕ) (entries : List α) : Prop :=
  entries.map number = List.range' 1 entries.length

theorem numbered_nil (number : α → ℕ) : Numbered number [] := rfl

/-- The next entry has the next number. -/
theorem numbered_concat {number : α → ℕ} {entries : List α} {a : α} :
    Numbered number (entries ++ [a]) ↔ Numbered number entries ∧ number a = entries.length + 1 := by
  unfold Numbered
  rw [List.map_append, List.map_singleton, List.length_append, List.length_singleton,
    List.range'_concat]
  constructor
  · intro h
    obtain ⟨hinit, hlast⟩ := List.append_inj' h rfl
    refine ⟨hinit, ?_⟩
    have hnumber : number a = 1 + 1 * entries.length := List.singleton_inj.mp hlast
    omega
  · rintro ⟨hinit, hlast⟩
    rw [hinit, hlast]
    congr 2
    omega

theorem Numbered.getElem {number : α → ℕ} {entries : List α} (h : Numbered number entries) {i : ℕ}
    (hi : i < entries.length) : number entries[i] = i + 1 := by
  unfold Numbered at h
  have hat : (entries.map number)[i]? = (List.range' 1 entries.length)[i]? := by rw [h]
  rw [List.getElem?_map, List.getElem?_eq_getElem hi, List.getElem?_range' hi] at hat
  have hnumber : number entries[i] = 1 + 1 * i := Option.some.inj hat
  omega

/-- The last number is the count of the entries. -/
theorem Numbered.getLast? {number : α → ℕ} {entries : List α} (h : Numbered number entries) {a : α}
    (ha : entries.getLast? = some a) : number a = entries.length := by
  obtain ⟨init, rfl⟩ := List.getLast?_eq_some_iff.mp ha
  rw [(numbered_concat.mp h).2, List.length_append, List.length_singleton]

/-- Every entry names the digest of the one before it; the first names `last`. -/
def LinkedFrom (digest : α → δ) (previous : α → Option δ) : Option δ → List α → Prop
  | _, [] => True
  | last, a :: entries => previous a = last ∧ LinkedFrom digest previous (some (digest a)) entries

/-- Every entry names the digest of the one before it; the first names none. -/
def Linked (digest : α → δ) (previous : α → Option δ) (entries : List α) : Prop :=
  LinkedFrom digest previous none entries

theorem linkedFrom_concat {digest : α → δ} {previous : α → Option δ} {last : Option δ}
    {entries : List α} {a : α} :
    LinkedFrom digest previous last (entries ++ [a])
      ↔ LinkedFrom digest previous last entries
        ∧ previous a = (entries.getLast?.map digest).or last := by
  induction entries generalizing last with
  | nil =>
      constructor
      · rintro ⟨hprevious, -⟩
        exact ⟨trivial, hprevious⟩
      · rintro ⟨-, hprevious⟩
        exact ⟨hprevious, trivial⟩
  | cons b entries ih =>
      have hlast : ((b :: entries).getLast?.map digest).or last
          = (entries.getLast?.map digest).or (some (digest b)) := by
        rw [List.getLast?_cons]
        cases entries.getLast? with
        | none | some c => rfl
      rw [hlast]
      constructor
      · rintro ⟨hprevious, hrest⟩
        obtain ⟨hinit, hend⟩ := ih.mp hrest
        exact ⟨⟨hprevious, hinit⟩, hend⟩
      · rintro ⟨⟨hprevious, hinit⟩, hend⟩
        exact ⟨hprevious, ih.mpr ⟨hinit, hend⟩⟩

theorem linked_nil (digest : α → δ) (previous : α → Option δ) : Linked digest previous [] :=
  trivial

/-- The next entry names the digest of the last. -/
theorem linked_concat {digest : α → δ} {previous : α → Option δ} {entries : List α} {a : α} :
    Linked digest previous (entries ++ [a])
      ↔ Linked digest previous entries ∧ previous a = entries.getLast?.map digest := by
  unfold Linked
  rw [linkedFrom_concat, Option.or_none]

/-- The digests and the links are only looked at where entries are. -/
theorem linkedFrom_congr {digest digest' : α → δ} {previous : α → Option δ} {last : Option δ}
    {entries : List α} (h : ∀ a ∈ entries, digest a = digest' a) :
    LinkedFrom digest previous last entries ↔ LinkedFrom digest' previous last entries := by
  induction entries generalizing last with
  | nil => exact Iff.rfl
  | cons a entries ih =>
      unfold LinkedFrom
      rw [ih fun b hb => h b (List.mem_cons_of_mem a hb), h a List.mem_cons_self]

theorem linked_congr {digest digest' : α → δ} {previous : α → Option δ} {entries : List α}
    (h : ∀ a ∈ entries, digest a = digest' a) :
    Linked digest previous entries ↔ Linked digest' previous entries :=
  linkedFrom_congr h

theorem LinkedFrom.getElem_succ {digest : α → δ} {previous : α → Option δ} {last : Option δ}
    {entries : List α} (h : LinkedFrom digest previous last entries) {i : ℕ}
    (hi : i + 1 < entries.length) :
    previous entries[i + 1] = some (digest entries[i]) := by
  induction entries generalizing last i with
  | nil =>
      rw [List.length_nil] at hi
      omega
  | cons a entries ih =>
      rw [List.length_cons] at hi
      cases i with
      | zero =>
          cases entries with
          | nil =>
              rw [List.length_nil] at hi
              omega
          | cons => exact h.2.1
      | succ i => exact ih h.2 (by omega)

/-- A later entry names the digest of the one before it. -/
theorem Linked.getElem_succ {digest : α → δ} {previous : α → Option δ} {entries : List α}
    (h : Linked digest previous entries) {i : ℕ} (hi : i + 1 < entries.length) :
    previous entries[i + 1] = some (digest entries[i]) :=
  LinkedFrom.getElem_succ h hi

/-- The first entry names none. -/
theorem Linked.head? {digest : α → δ} {previous : α → Option δ} {entries : List α}
    (h : Linked digest previous entries) {a : α} (ha : entries.head? = some a) :
    previous a = none := by
  cases entries with
  | nil => cases ha
  | cons =>
      cases ha
      exact h.1

end Chain
