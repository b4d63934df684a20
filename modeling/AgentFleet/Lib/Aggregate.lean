import AgentFleet.Lib.Table
import Mathlib.Algebra.GroupWithZero.Nat

/-! # Aggregates over tables

`sumOf` is `SELECT SUM(w) … WHERE p`; `COUNT(*)` is the sum of ones.  The lemmas say how a sum
changes when a row is inserted (`sumOf_insert`) or rows are rewritten (`sumOf_update`,
`sumOf_update_le`), when two sums agree (`sumOf_congr`), and by how much they differ when they
differ on one row (`sumOf_add_of_mem`). -/

namespace Relational.Table

variable {α : Type} [Constrained α]

/-- The sum of `w` over the rows that meet `p`. -/
def sumOf (t : Table α) (p : α → Bool) (w : α → ℕ) : ℕ := ((t.rows.filter p).map w).sum

/-- The number of rows that meet `p`. -/
def countOf (t : Table α) (p : α → Bool) : ℕ := (t.rows.filter p).length

theorem countOf_eq_sumOf (t : Table α) (p : α → Bool) : t.countOf p = t.sumOf p fun _ => 1 := by
  unfold countOf sumOf
  induction t.rows.filter p with
  | nil => rfl
  | cons a rows ih =>
      simp only [List.length_cons, List.map_cons, List.sum_cons, ih]
      omega

@[simp] theorem sumOf_empty (p : α → Bool) (w : α → ℕ) : (empty : Table α).sumOf p w = 0 := rfl

theorem sumOf_insert {t t' : Table α} {a : α} (h : t.insert a = some t') (p : α → Bool)
    (w : α → ℕ) : t'.sumOf p w = t.sumOf p w + if p a then w a else 0 := by
  unfold sumOf
  rw [(insert_eq_some h).2, List.filter_append, List.map_append, List.sum_append]
  by_cases hp : p a = true
  · simp [hp]
  · simp [hp]

theorem sumOf_congr {t : Table α} {p q : α → Bool} {w v : α → ℕ} (hp : ∀ a ∈ t, p a = q a)
    (hw : ∀ a ∈ t, p a = true → w a = v a) : t.sumOf p w = t.sumOf q v := by
  unfold sumOf
  have hfilter : t.rows.filter p = t.rows.filter q := List.filter_congr hp
  rw [hfilter]
  refine congrArg List.sum (List.map_congr_left fun a ha => ?_)
  obtain ⟨hmem, hq⟩ := List.mem_filter.mp ha
  exact hw a hmem ((hp a hmem).trans hq)

theorem sumOf_add (t : Table α) (p : α → Bool) (w v : α → ℕ) :
    (t.sumOf p fun a => w a + v a) = t.sumOf p w + t.sumOf p v := by
  unfold sumOf
  induction t.rows.filter p with
  | nil => rfl
  | cons a rows ih =>
      simp only [List.map_cons, List.sum_cons, ih]
      omega

theorem sumOf_le {t : Table α} {p : α → Bool} {w v : α → ℕ}
    (h : ∀ a ∈ t, p a = true → w a ≤ v a) : t.sumOf p w ≤ t.sumOf p v := by
  unfold sumOf
  have hrows : ∀ a ∈ t.rows.filter p, w a ≤ v a := by
    intro a ha
    obtain ⟨hmem, hp⟩ := List.mem_filter.mp ha
    exact h a hmem hp
  generalize t.rows.filter p = rows at hrows
  induction rows with
  | nil => exact Nat.le_refl 0
  | cons a rows ih =>
      have hhead := hrows a List.mem_cons_self
      have htail := ih fun b hb => hrows b (List.mem_cons_of_mem a hb)
      simp only [List.map_cons, List.sum_cons]
      omega

/-- The sum after a rewriting, over the rows before it. -/
theorem sumOf_update {t : Table α} {q : α → Bool} {f : α → α} (hf : KeepsKeys f)
    {p : α → Bool} (w : α → ℕ) (hp : ∀ a ∈ t, q a = true → p (f a) = p a) :
    (t.update q f hf).sumOf p w = t.sumOf p fun a => if q a then w (f a) else w a := by
  have hrows : ∀ rows : List α, (∀ a ∈ rows, q a = true → p (f a) = p a) →
      (((rows.map fun a => if q a then f a else a).filter p).map w).sum
        = ((rows.filter p).map fun a => if q a then w (f a) else w a).sum := by
    intro rows hrows
    induction rows with
    | nil => rfl
    | cons a rows ih =>
        have htail := ih fun b hb => hrows b (List.mem_cons_of_mem a hb)
        have hhead : p (if q a then f a else a) = p a := by
          split_ifs with hq
          · exact hrows a List.mem_cons_self hq
          · rfl
        rw [List.map_cons, List.filter_cons, List.filter_cons, hhead]
        by_cases hpa : p a = true
        · rw [if_pos hpa, if_pos hpa]
          simp only [List.map_cons, List.sum_cons, htail]
          split_ifs <;> rfl
        · rw [if_neg hpa, if_neg hpa]
          exact htail
  exact hrows t.rows hp

/-- A rewriting that raises no weight raises no sum. -/
theorem sumOf_update_le {t : Table α} {q : α → Bool} {f : α → α} (hf : KeepsKeys f)
    {p : α → Bool} {w : α → ℕ} (hp : ∀ a ∈ t, q a = true → p (f a) = p a)
    (hw : ∀ a ∈ t, p a = true → q a = true → w (f a) ≤ w a) :
    (t.update q f hf).sumOf p w ≤ t.sumOf p w := by
  rw [sumOf_update hf w hp]
  refine sumOf_le fun a ha hpa => ?_
  split_ifs with hq
  · exact hw a ha hpa hq
  · exact Nat.le_refl _

/-- Two weights that differ on one row only have sums that differ as they do there. -/
theorem sumOf_add_of_mem {t : Table α} {a : α} {p : α → Bool} {w v : α → ℕ} (ha : a ∈ t)
    (hself : clash a a) (hp : p a = true) (hrest : ∀ b ∈ t, b ≠ a → v b = w b) :
    t.sumOf p v + w a = t.sumOf p w + v a := by
  obtain ⟨before, after, hrows⟩ := List.append_of_mem ha
  have hunique := t.unique
  rw [hrows, List.pairwise_append, List.pairwise_cons] at hunique
  obtain ⟨-, ⟨hafter, -⟩, hbefore⟩ := hunique
  have hsame : ∀ rows : List α, (∀ b ∈ rows, b ∈ t ∧ b ≠ a) →
      ((rows.filter p).map v).sum = ((rows.filter p).map w).sum := by
    intro rows hall
    refine congrArg List.sum (List.map_congr_left fun b hb => ?_)
    obtain ⟨hmem, hne⟩ := hall b (List.mem_filter.mp hb).1
    exact hrest b hmem hne
  have hfirst := hsame before fun b hb => by
    refine ⟨?_, fun heq => hbefore b hb a List.mem_cons_self (heq ▸ hself)⟩
    rw [mem_def, hrows]
    exact List.mem_append_left _ hb
  have hlast := hsame after fun b hb => by
    refine ⟨?_, fun heq => hafter b hb (heq ▸ hself)⟩
    rw [mem_def, hrows]
    exact List.mem_append_right _ (List.mem_cons_of_mem a hb)
  unfold sumOf
  rw [hrows]
  simp only [List.filter_append, List.filter_cons, hp, if_true, List.map_append, List.map_cons,
    List.sum_append, List.sum_cons]
  omega

/-! ### Counts -/

theorem countOf_insert {t t' : Table α} {a : α} (h : t.insert a = some t') (p : α → Bool) :
    t'.countOf p = t.countOf p + if p a then 1 else 0 := by
  simp only [countOf_eq_sumOf, sumOf_insert h]

theorem countOf_congr {t : Table α} {p q : α → Bool} (h : ∀ a ∈ t, p a = q a) :
    t.countOf p = t.countOf q := by
  simp only [countOf_eq_sumOf]
  exact sumOf_congr h fun _ _ _ => rfl

/-- A rewriting of rows that keeps what `p` says of them keeps the count. -/
theorem countOf_update {t : Table α} {q : α → Bool} {f : α → α} (hf : KeepsKeys f)
    {p : α → Bool} (hp : ∀ a ∈ t, q a = true → p (f a) = p a) :
    (t.update q f hf).countOf p = t.countOf p := by
  simp only [countOf_eq_sumOf, sumOf_update hf _ hp, ite_self]

end Relational.Table
