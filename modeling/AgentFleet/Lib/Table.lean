import Mathlib.Data.List.Pairwise
import Mathlib.Tactic.Common

/-! # Tables under uniqueness constraints

A `Table` is a list of rows in insertion order, no two of which clash.  A row type says by a
`Constrained` instance which pairs of rows its primary key and unique columns forbid, so a
table that breaks a constraint cannot be built.

* `insert` adds a row or refuses it; `mem_insert` says what the new table holds.
* `update` rewrites the selected rows by a function that keeps the constrained columns.
* `replace?` puts one row in the place of another; `mem_replace?` says what is in the table then.
* `eq_of_clash` is the use of a constraint: two rows of a table that clash are one row.
* `Carries R t t'` says that every row of `t` has a later version in `t'`; it composes, and
  insertions and updates have it. -/

namespace Relational

/-- The uniqueness constraints of a row type. -/
class Constrained (α : Type) where
  clash : α → α → Prop
  symm : ∀ a b, clash a b → clash b a
  decidableClash : DecidableRel clash

export Constrained (clash)

instance {α : Type} [Constrained α] : DecidableRel (clash : α → α → Prop) :=
  Constrained.decidableClash

/-- Rows in insertion order that meet the uniqueness constraints. -/
structure Table (α : Type) [Constrained α] where
  rows : List α
  unique : rows.Pairwise fun a b => ¬ clash a b

/-- A rewriting of rows that leaves the constrained columns alone. -/
def KeepsKeys {α : Type} [Constrained α] (f : α → α) : Prop :=
  ∀ a b, clash (f a) b → clash a b

namespace Table

variable {α : Type} [Constrained α]

/-- The table without rows. -/
def empty : Table α := ⟨[], .nil⟩

instance : Membership α (Table α) := ⟨fun t a => a ∈ t.rows⟩

/-- The first row that meets `p`. -/
def find? (t : Table α) (p : α → Bool) : Option α := t.rows.find? p

/-- Adds a row at the end, or refuses it when it clashes with a row of the table. -/
def insert (t : Table α) (a : α) : Option (Table α) :=
  if h : ∀ r ∈ t.rows, ¬ clash r a then
    some ⟨t.rows ++ [a], List.pairwise_append.mpr
      ⟨t.unique, List.pairwise_singleton _ _, fun r hr b hb => by
        rw [List.mem_singleton.mp hb]
        exact h r hr⟩⟩
  else none

/-- Rewrites the rows that meet `p`. -/
def update (t : Table α) (p : α → Bool) (f : α → α) (hf : KeepsKeys f) : Table α where
  rows := t.rows.map fun a => if p a then f a else a
  unique := by
    refine List.Pairwise.map _ (fun a b hab => ?_) t.unique
    have drop : ∀ a b, clash (if p a then f a else a) b → clash a b := by
      intro a b h
      split_ifs at h
      · exact hf a b h
      · exact h
    exact fun h => hab (drop a b (Constrained.symm _ _ (drop b _ (Constrained.symm _ _ h))))

theorem mem_def {t : Table α} {a : α} : a ∈ t ↔ a ∈ t.rows := Iff.rfl

@[simp] theorem not_mem_empty (a : α) : a ∉ (empty : Table α) := List.not_mem_nil

theorem mem_of_find? {t : Table α} {p : α → Bool} {a : α} (h : t.find? p = some a) : a ∈ t :=
  List.mem_of_find?_eq_some h

theorem prop_of_find? {t : Table α} {p : α → Bool} {a : α} (h : t.find? p = some a) :
    p a = true :=
  List.find?_some h

theorem find?_eq_none {t : Table α} {p : α → Bool} :
    t.find? p = none ↔ ∀ a ∈ t, ¬ p a = true :=
  List.find?_eq_none

/-- Two rows of a table that clash are the same row. -/
theorem eq_of_clash {t : Table α} {a b : α} (ha : a ∈ t) (hb : b ∈ t) (h : clash a b) :
    a = b := by
  have : Std.Symm fun a b : α => ¬ clash a b := ⟨fun _ _ hn hc => hn (Constrained.symm _ _ hc)⟩
  by_contra hne
  exact t.unique.forall ha hb hne h

/-- A selected row is the one `find?` returns, when the selected rows clash with it. -/
theorem find?_eq_some {t : Table α} {p : α → Bool} {a : α} (ha : a ∈ t) (hp : p a = true)
    (h : ∀ b, p b = true → clash b a) : t.find? p = some a := by
  cases hf : t.find? p with
  | none => exact absurd hp (find?_eq_none.mp hf a ha)
  | some b => rw [eq_of_clash (mem_of_find? hf) ha (h b (prop_of_find? hf))]

theorem insert_eq_some {t t' : Table α} {a : α} (h : t.insert a = some t') :
    (∀ r ∈ t, ¬ clash r a) ∧ t'.rows = t.rows ++ [a] := by
  unfold insert at h
  split_ifs at h with hc
  · cases h
    exact ⟨hc, rfl⟩

theorem exists_insert {t : Table α} {a : α} (h : ∀ r ∈ t, ¬ clash r a) :
    ∃ t', t.insert a = some t' := by
  unfold insert
  exact ⟨_, dif_pos h⟩

theorem mem_insert {t t' : Table α} {a : α} (h : t.insert a = some t') {b : α} :
    b ∈ t' ↔ b ∈ t ∨ b = a := by
  rw [mem_def, (insert_eq_some h).2, List.mem_append, List.mem_singleton, mem_def]

theorem not_clash_of_insert {t t' : Table α} {a : α} (h : t.insert a = some t') {b : α}
    (hb : b ∈ t) : ¬ clash b a :=
  (insert_eq_some h).1 b hb

theorem mem_update {t : Table α} {p : α → Bool} {f : α → α} (hf : KeepsKeys f) {b : α} :
    b ∈ t.update p f hf ↔ ∃ a ∈ t, b = if p a then f a else a := by
  rw [mem_def, update, List.mem_map]
  exact ⟨fun ⟨a, ha, hab⟩ => ⟨a, ha, hab.symm⟩, fun ⟨a, ha, hab⟩ => ⟨a, ha, hab.symm⟩⟩

/-- A rewriting of rows of `S` into rows of `S` leaves the other rows alone. -/
theorem mem_update_outside {S : α → Prop} {t : Table α} {p : α → Bool} {f : α → α}
    (hf : KeepsKeys f) (h : ∀ a ∈ t, p a = true → S a ∧ S (f a)) {b : α} (hb : ¬ S b) :
    b ∈ t.update p f hf ↔ b ∈ t := by
  rw [mem_update]
  constructor
  · rintro ⟨a, ha, rfl⟩
    split_ifs at hb ⊢ with hp
    · exact absurd (h a ha hp).2 hb
    · exact ha
  · intro hmem
    refine ⟨b, hmem, (if_neg fun hp => ?_).symm⟩
    exact hb (h b hmem hp).1

theorem find?_insert {t t' : Table α} {a : α} (h : t.insert a = some t') (p : α → Bool) :
    t'.find? p = (t.find? p).or (if p a then some a else none) := by
  unfold find?
  rw [(insert_eq_some h).2, List.find?_append]
  cases hp : p a <;> simp [hp]

/-- A lookup after a rewriting that leaves the looked up columns alone. -/
theorem find?_update {t : Table α} {q : α → Bool} {f : α → α} (hf : KeepsKeys f)
    {p : α → Bool} (hp : ∀ a, p (f a) = p a) :
    (t.update q f hf).find? p = (t.find? p).map fun a => if q a then f a else a := by
  unfold find? update
  dsimp only
  induction t.rows with
  | nil => rfl
  | cons a rows ih =>
      have hhead : p (if q a then f a else a) = p a := by
        split_ifs
        · exact hp a
        · rfl
      rw [List.map_cons, List.find?_cons, List.find?_cons, hhead]
      cases p a with
      | true => rfl
      | false => exact ih

theorem ext_rows {t t' : Table α} (h : t.rows = t'.rows) : t = t' := by
  cases t
  cases t'
  cases h
  rfl

/-- Two rewritings that agree on the rows are one. -/
theorem update_congr {t : Table α} {p q : α → Bool} {f g : α → α} (hf : KeepsKeys f)
    (hg : KeepsKeys g) (h : ∀ a ∈ t, (if p a then f a else a) = if q a then g a else a) :
    t.update p f hf = t.update q g hg :=
  ext_rows (List.map_congr_left h)

/-- A rewriting that selects no row. -/
theorem update_eq_self {t : Table α} {p : α → Bool} {f : α → α} (hf : KeepsKeys f)
    (h : ∀ a ∈ t, p a = false) : t.update p f hf = t := by
  refine ext_rows ((List.map_congr_left fun a ha => ?_).trans (List.map_id t.rows))
  rw [h a ha]
  rfl

/-- Two rewritings in a row. -/
theorem update_update {t : Table α} {p q r : α → Bool} {f g k : α → α} (hf : KeepsKeys f)
    (hg : KeepsKeys g) (hk : KeepsKeys k)
    (h : ∀ a ∈ t, (fun b => if q b then g b else b) (if p a then f a else a)
      = if r a then k a else a) :
    (t.update p f hf).update q g hg = t.update r k hk := by
  have hrows : (t.rows.map fun a => if p a then f a else a).map (fun b => if q b then g b else b)
      = t.rows.map fun a => if r a then k a else a := by
    rw [List.map_map]
    exact List.map_congr_left h
  exact ext_rows hrows

/-! ### Upserts -/

/-- `INSERT ... ON CONFLICT DO UPDATE`: adds the row, or rewrites the rows that meet `p`. -/
def upsert (t : Table α) (a : α) (p : α → Bool) (f : α → α) (hf : KeepsKeys f) : Table α :=
  match t.insert a with
  | some inserted => inserted
  | none => t.update p f hf

/-- A lookup by the key on which rows clash, after an upsert. -/
theorem find?_upsert {κ : Type} [DecidableEq κ] (key : α → κ)
    (hclash : ∀ b c : α, clash b c ↔ key b = key c) {t : Table α} {a : α} {f : α → α}
    (hf : KeepsKeys f) (hkey : ∀ b, key (f b) = key b) (k : κ) :
    (t.upsert a (fun b => key b = key a) f hf).find? (fun b => key b = k)
      = if key a = k then some (((t.find? fun b => key b = key a).map f).getD a)
        else t.find? fun b => key b = k := by
  unfold upsert
  cases hinsert : t.insert a with
  | some =>
      have hfresh := (insert_eq_some hinsert).1
      dsimp only
      rw [find?_insert hinsert]
      by_cases hk : key a = k
      · have hnone : t.find? (fun b => key b = k) = none := by
          rw [find?_eq_none]
          intro b hb hbk
          exact hfresh b hb ((hclash b a).mpr ((of_decide_eq_true hbk).trans hk.symm))
        subst hk
        rw [hnone]
        simp
      · simp [hk]
  | none =>
      dsimp only
      rw [find?_update hf fun b => by rw [hkey]]
      by_cases hk : key a = k
      · subst hk
        rw [if_pos rfl]
        cases hfound : t.find? fun b => key b = key a with
        | none =>
            rw [find?_eq_none] at hfound
            obtain ⟨inserted, hsome⟩ := exists_insert (t := t) (a := a) fun b hb hc =>
              hfound b hb (decide_eq_true ((hclash b a).mp hc))
            rw [hinsert] at hsome
            cases hsome
        | some b =>
            have hb : key b = key a := by simpa using prop_of_find? hfound
            simp [hb]
      · rw [if_neg hk]
        cases hfound : t.find? fun b => key b = k with
        | none => rfl
        | some b =>
            have hb : key b = k := by simpa using prop_of_find? hfound
            have hother : ¬ key b = key a := fun h => hk (h.symm.trans hb)
            simp [hother]

/-! ### Replacing one row -/

/-- Puts `b` in the place of the row `a`, unless there is no such row or a constraint would
break. -/
def replace? [DecidableEq α] (t : Table α) (a b : α) : Option (Table α) :=
  if h : a ∈ t.rows ∧ (t.rows.map fun r => if r = a then b else r).Pairwise
      fun a b => ¬ clash a b then
    some ⟨t.rows.map fun r => if r = a then b else r, h.2⟩
  else none

theorem replace?_eq_some [DecidableEq α] {t t' : Table α} {a b : α}
    (h : t.replace? a b = some t') :
    a ∈ t ∧ t'.rows = t.rows.map fun r => if r = a then b else r := by
  unfold replace? at h
  split_ifs at h with hc
  · cases h
    exact ⟨hc.1, rfl⟩

theorem mem_replace? [DecidableEq α] {t t' : Table α} {a b : α} (h : t.replace? a b = some t')
    {c : α} : c ∈ t' ↔ c = b ∨ c ∈ t ∧ c ≠ a := by
  obtain ⟨ha, hrows⟩ := replace?_eq_some h
  rw [mem_def, hrows, List.mem_map]
  constructor
  · rintro ⟨r, hr, rfl⟩
    split_ifs with hra
    · exact .inl rfl
    · exact .inr ⟨hr, hra⟩
  · rintro (rfl | ⟨hc, hne⟩)
    · exact ⟨a, ha, if_pos rfl⟩
    · exact ⟨c, hc, if_neg hne⟩

/-- Rewrites the first row that meets `p`, unless a constraint would break; without such a row
nothing changes. -/
def rewrite? [DecidableEq α] (t : Table α) (p : α → Bool) (f : α → α) : Option (Table α) :=
  match t.find? p with
  | none => some t
  | some a => t.replace? a (f a)

theorem rewrite?_of_find? [DecidableEq α] {t t' : Table α} {p : α → Bool} {f : α → α} {a : α}
    (hfound : t.find? p = some a) (h : t.rewrite? p f = some t') :
    t.replace? a (f a) = some t' := by
  unfold rewrite? at h
  rw [hfound] at h
  exact h

/-- The rows under a key that the new row shares with the old one are replaced in place. -/
theorem filter_replace? [DecidableEq α] {t t' : Table α} {a b : α} (h : t.replace? a b = some t')
    {p : α → Bool} (hkey : p b = p a) :
    t'.rows.filter p = (t.rows.filter p).map fun r => if r = a then b else r := by
  rw [(replace?_eq_some h).2, List.filter_map]
  congr 1
  refine List.filter_congr fun r _ => ?_
  dsimp only [Function.comp]
  split_ifs with hra
  · rw [hkey, hra]
  · rfl

/-- A lookup by the key on which rows clash, after a row was replaced under its key. -/
theorem find?_replace? [DecidableEq α] {κ : Type} [DecidableEq κ] (key : α → κ)
    (hclash : ∀ b c : α, clash b c ↔ key b = key c) {t t' : Table α} {a b : α}
    (h : t.replace? a b = some t') (hkey : key b = key a) (k : κ) :
    t'.find? (fun r => key r = k) = if key a = k then some b else t.find? fun r => key r = k := by
  by_cases hk : key a = k
  · subst hk
    rw [if_pos rfl]
    refine find?_eq_some ((mem_replace? h).mpr (.inl rfl)) (decide_eq_true hkey) fun c hc => ?_
    exact (hclash c b).mpr ((of_decide_eq_true hc).trans hkey.symm)
  · rw [if_neg hk]
    cases hfound : t.find? fun r => key r = k with
    | none =>
        rw [find?_eq_none] at hfound ⊢
        intro c hc hck
        rcases (mem_replace? h).mp hc with rfl | ⟨hold, -⟩
        · exact hk (hkey.symm.trans (of_decide_eq_true hck))
        · exact hfound c hold hck
    | some c =>
        have hck : key c = k := by simpa using prop_of_find? hfound
        have hne : c ≠ a := fun heq => hk (heq ▸ hck)
        refine find?_eq_some ((mem_replace? h).mpr (.inr ⟨mem_of_find? hfound, hne⟩))
          (decide_eq_true hck) fun d hd => ?_
        exact (hclash d c).mpr ((of_decide_eq_true hd).trans hck.symm)

theorem filter_insert {t t' : Table α} {a : α} (h : t.insert a = some t') (p : α → Bool) :
    t'.rows.filter p = t.rows.filter p ++ if p a then [a] else [] := by
  rw [(insert_eq_some h).2, List.filter_append]
  cases hp : p a <;> simp [hp]

/-! ### Later versions of rows -/

/-- Every row of `t` is related by `R` to a row of `t'`. -/
def Carries (R : α → α → Prop) (t t' : Table α) : Prop := ∀ a ∈ t, ∃ b ∈ t', R a b

theorem Carries.refl {R : α → α → Prop} (hR : ∀ a, R a a) (t : Table α) : Carries R t t :=
  fun a ha => ⟨a, ha, hR a⟩

theorem Carries.trans {R : α → α → Prop} (hR : ∀ a b c, R a b → R b c → R a c)
    {t t' t'' : Table α} (h : Carries R t t') (h' : Carries R t' t'') : Carries R t t'' := by
  intro a ha
  obtain ⟨b, hb, hab⟩ := h a ha
  obtain ⟨c, hc, hbc⟩ := h' b hb
  exact ⟨c, hc, hR a b c hab hbc⟩

theorem Carries.insert {R : α → α → Prop} (hR : ∀ a, R a a) {t t' : Table α} {a : α}
    (h : t.insert a = some t') : Carries R t t' :=
  fun b hb => ⟨b, (mem_insert h).mpr (.inl hb), hR b⟩

theorem Carries.update {R : α → α → Prop} (hR : ∀ a, R a a) {t : Table α} {p : α → Bool}
    {f : α → α} (hf : KeepsKeys f) (h : ∀ a ∈ t, p a = true → R a (f a)) :
    Carries R t (t.update p f hf) := by
  intro a ha
  refine ⟨_, (mem_update hf).mpr ⟨a, ha, rfl⟩, ?_⟩
  split_ifs with hp
  · exact h a ha hp
  · exact hR a

theorem Carries.replace? [DecidableEq α] {R : α → α → Prop} (hR : ∀ a, R a a) {t t' : Table α}
    {a b : α} (h : t.replace? a b = some t') (hab : R a b) : Carries R t t' := by
  intro c hc
  by_cases hca : c = a
  · exact ⟨b, (mem_replace? h).mpr (.inl rfl), hca ▸ hab⟩
  · exact ⟨c, (mem_replace? h).mpr (.inr ⟨hc, hca⟩), hR c⟩

end Table

end Relational
