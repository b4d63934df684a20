import Mathlib.Data.List.Dedup
import Mathlib.Tactic.Common

/-! # Findings of a check

A check that goes on after a failure collects a reason for each condition it finds violated; it
passes when it collects none.  `reasonIf_eq_nil` and `List.append_eq_nil_iff` take a passed check
apart into the conditions that held. -/

namespace Findings

variable {ρ : Type}

/-- The reason, where the condition is met. -/
def reasonIf (c : Prop) [Decidable c] (reason : ρ) : List ρ := if c then [reason] else []

@[simp] theorem reasonIf_eq_nil {c : Prop} [Decidable c] {reason : ρ} :
    reasonIf c reason = [] ↔ ¬ c := by
  unfold reasonIf
  by_cases h : c
  · rw [if_pos h]
    exact iff_of_false (List.cons_ne_nil _ _) (not_not_intro h)
  · rw [if_neg h]
    exact iff_of_true rfl h

end Findings
