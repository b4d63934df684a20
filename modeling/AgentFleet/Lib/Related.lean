import Mathlib.Data.List.Forall2
import Mathlib.Tactic.Common

/-! # Lists that are related member by member

What `List.Forall₂` says about the members of either list, and lists that are built so. -/

namespace Related

theorem exists_of_forall₂ {α β : Type} {R : α → β → Prop} {as : List α} {bs : List β}
    (h : List.Forall₂ R as bs) {a : α} (ha : a ∈ as) : ∃ b ∈ bs, R a b := by
  induction h with
  | nil => cases ha
  | cons hfirst hrest ih =>
      rcases List.mem_cons.mp ha with rfl | ha
      · exact ⟨_, List.mem_cons_self, hfirst⟩
      · obtain ⟨b, hb, hab⟩ := ih ha
        exact ⟨b, List.mem_cons_of_mem _ hb, hab⟩

theorem exists_forall₂ {α β : Type} {R : α → β → Prop} {as : List α}
    (h : ∀ a ∈ as, ∃ b, R a b) : ∃ bs, List.Forall₂ R as bs := by
  induction as with
  | nil => exact ⟨[], .nil⟩
  | cons a as ih =>
      rw [List.forall_mem_cons] at h
      obtain ⟨b, hb⟩ := h.1
      obtain ⟨bs, hbs⟩ := ih h.2
      exact ⟨b :: bs, .cons hb hbs⟩

theorem pairwise_of_forall₂ {α β : Type} {R : α → β → Prop} {S : α → α → Prop}
    {T : β → β → Prop} {as : List α} {bs : List β} (hrelated : List.Forall₂ R as bs)
    (has : as.Pairwise S) (h : ∀ a ∈ as, ∀ a' ∈ as, S a a' → ∀ b b', R a b → R a' b' → T b b') :
    bs.Pairwise T := by
  induction hrelated with
  | nil => exact List.Pairwise.nil
  | cons hfirst hrest ih =>
      rename_i a b as bs
      obtain ⟨hhead, htail⟩ := List.pairwise_cons.mp has
      refine List.pairwise_cons.mpr ⟨fun b' hb' => ?_, ih htail fun a ha a' ha' =>
        h a (List.mem_cons_of_mem _ ha) a' (List.mem_cons_of_mem _ ha')⟩
      obtain ⟨a', ha', hab⟩ := exists_of_forall₂ hrest.flip hb'
      exact h a List.mem_cons_self a' (List.mem_cons_of_mem _ ha') (hhead a' ha') b b' hfirst hab

end Related
