import Mathlib.Data.List.Induction
import Mathlib.Logic.Relation
import Mathlib.Tactic.Common

/-! # Runs of a machine under arbitrary inputs

A `Machine` is a total step function with an observation: `step s a` is the next state and
what the outside sees of the step.  Nondeterminism is in the input `a` (which party moves,
what an oracle answers, whether a party crashes), so a statement about every list of inputs
is a statement about every interleaving.

* `run s as` is the state reached and `trace s as` the observations on the way.
* `Invariant.run` is the induction rule for invariants; `Guarded.run` is the same rule when
  only steps that meet a condition preserve the invariant; `run_induction` is the rule for
  what relates a state to the inputs that have led to it.
* `Moves` splits steps into chains of moves; `Moves.invariant` and `Moves.rel` lift what one
  move does to runs.
* `throughout_iff_guarded` says that a property holds in every state of a run exactly when
  it holds at the start and every step meets its condition.
* `run_rel` and `Guarded.rel` lift a reflexive transitive relation from steps to runs.
* `count_trace_le_one` bounds how often an observation occurs by a flag that the
  observation raises and no step lowers.
* `Refines.run` transports runs along a refinement that answers one step by a list of steps. -/

namespace Transition

/-- A total step function: next state and observation. -/
structure Machine (σ α ω : Type) where
  step : σ → α → σ × ω

namespace Machine

variable {σ α ω : Type} (m : Machine σ α ω)

/-- The state after one step. -/
def next (s : σ) (a : α) : σ := (m.step s a).1

/-- The observation of one step. -/
def out (s : σ) (a : α) : ω := (m.step s a).2

/-- The state after a list of inputs. -/
def run : σ → List α → σ
  | s, [] => s
  | s, a :: as => run (m.next s a) as

/-- The observations of a list of inputs. -/
def trace : σ → List α → List ω
  | _, [] => []
  | s, a :: as => m.out s a :: trace (m.next s a) as

@[simp] theorem run_nil (s : σ) : m.run s [] = s := rfl
@[simp] theorem run_cons (s : σ) (a : α) (as : List α) :
    m.run s (a :: as) = m.run (m.next s a) as := rfl
@[simp] theorem trace_nil (s : σ) : m.trace s [] = [] := rfl
@[simp] theorem trace_cons (s : σ) (a : α) (as : List α) :
    m.trace s (a :: as) = m.out s a :: m.trace (m.next s a) as := rfl

theorem run_append (s : σ) (as bs : List α) : m.run s (as ++ bs) = m.run (m.run s as) bs := by
  induction as generalizing s with
  | nil => rfl
  | cons a as ih =>
      simp only [List.cons_append, run_cons]
      exact ih (m.next s a)

/-! ### Invariants -/

/-- Every step preserves `I`. -/
def Invariant (I : σ → Prop) : Prop := ∀ s a, I s → I (m.next s a)

theorem Invariant.run {m : Machine σ α ω} {I : σ → Prop} (h : m.Invariant I) {s : σ}
    (hs : I s) (as : List α) : I (m.run s as) := by
  induction as generalizing s with
  | nil => exact hs
  | cons a as ih => exact ih (h s a hs)

/-- What every step from an invariant state shows, is shown all along a run. -/
theorem Invariant.trace {m : Machine σ α ω} {I : σ → Prop} {P : ω → Prop} (h : m.Invariant I)
    (hout : ∀ s a, I s → P (m.out s a)) {s : σ} (hs : I s) (as : List α) :
    ∀ o ∈ m.trace s as, P o := by
  induction as generalizing s with
  | nil => simp
  | cons a as ih =>
      rw [trace_cons, List.forall_mem_cons]
      exact ⟨hout s a hs, ih (h s a hs)⟩

/-- Every step is a chain of moves. -/
def Moves (m : Machine σ α ω) (R : σ → σ → Prop) : Prop :=
  ∀ s a, Relation.ReflTransGen R s (m.next s a)

/-- Induction along a run, with the inputs that have led to each state. -/
theorem run_induction {m : Machine σ α ω} {s : σ} {P : List α → σ → Prop} (hstart : P [] s)
    (hstep : ∀ as a, P as (m.run s as) → P (as ++ [a]) (m.next (m.run s as) a)) (as : List α) :
    P as (m.run s as) := by
  induction as using List.reverseRecOn with
  | nil => exact hstart
  | append_singleton as a ih =>
      rw [run_append]
      exact hstep as a ih

theorem Moves.run {m : Machine σ α ω} {R : σ → σ → Prop} (h : m.Moves R) (s : σ) (as : List α) :
    Relation.ReflTransGen R s (m.run s as) := by
  induction as generalizing s with
  | nil => exact .refl
  | cons a as ih => exact (h s a).trans (ih (m.next s a))

/-- What every move preserves, every run preserves. -/
theorem Moves.invariant {m : Machine σ α ω} {R : σ → σ → Prop} (h : m.Moves R) {I : σ → Prop}
    (hI : ∀ s t, R s t → I s → I t) : m.Invariant I := by
  intro s a hs
  have hchain := h s a
  generalize m.next s a = t at hchain ⊢
  induction hchain with
  | refl => exact hs
  | tail _ hmove ih => exact hI _ _ hmove ih

/-- A reflexive transitive relation that holds across every move from an invariant state holds
across every run. -/
theorem Moves.rel {m : Machine σ α ω} {R : σ → σ → Prop} (h : m.Moves R) {I : σ → Prop}
    {Q : σ → σ → Prop} (hI : ∀ s t, R s t → I s → I t) (hrefl : ∀ s, Q s s)
    (htrans : ∀ s t u, Q s t → Q t u → Q s u) (hmove : ∀ s t, R s t → I s → Q s t) {s : σ}
    (hs : I s) (as : List α) : Q s (m.run s as) := by
  have hchain := h.run s as
  generalize m.run s as = t at hchain ⊢
  have hboth : I t ∧ Q s t := by
    induction hchain with
    | refl => exact ⟨hs, hrefl s⟩
    | tail _ hlast ih => exact ⟨hI _ _ hlast ih.1, htrans _ _ _ ih.2 (hmove _ _ hlast ih.1)⟩
  exact hboth.2

/-- Every step of the run from `s` meets `G`. -/
def Guarded (G : σ → α → Prop) : σ → List α → Prop
  | _, [] => True
  | s, a :: as => G s a ∧ Guarded G (m.next s a) as

instance Guarded.decidable (m : Machine σ α ω) (G : σ → α → Prop) [∀ s a, Decidable (G s a)] :
    ∀ s as, Decidable (m.Guarded G s as)
  | _, [] => .isTrue trivial
  | s, a :: as =>
      have := Guarded.decidable m G (m.next s a) as
      inferInstanceAs (Decidable (_ ∧ _))

theorem Guarded.run {m : Machine σ α ω} {G : σ → α → Prop} {I : σ → Prop}
    (h : ∀ s a, I s → G s a → I (m.next s a)) {s : σ} (hs : I s) {as : List α}
    (hg : m.Guarded G s as) : I (m.run s as) := by
  induction as generalizing s with
  | nil => exact hs
  | cons a as ih => exact ih (h s a hs hg.1) hg.2

theorem Guarded.append {m : Machine σ α ω} {G : σ → α → Prop} {s : σ} {as bs : List α}
    (h : m.Guarded G s (as ++ bs)) : m.Guarded G s as ∧ m.Guarded G (m.run s as) bs := by
  induction as generalizing s with
  | nil => exact ⟨trivial, h⟩
  | cons a as ih =>
      obtain ⟨h1, h2⟩ := ih h.2
      exact ⟨⟨h.1, h1⟩, h2⟩

/-- `I` holds in every state of the run from `s`, the first and the last included. -/
def Throughout (I : σ → Prop) : σ → List α → Prop
  | s, [] => I s
  | s, a :: as => I s ∧ Throughout I (m.next s a) as

/-- Two properties that agree on the states of an invariant hold throughout the same runs. -/
theorem throughout_congr {m : Machine σ α ω} {I P Q : σ → Prop} (hI : m.Invariant I) {s : σ}
    (hs : I s) (h : ∀ s, I s → (P s ↔ Q s)) {as : List α} :
    m.Throughout P s as ↔ m.Throughout Q s as := by
  induction as generalizing s with
  | nil => exact h s hs
  | cons a as ih =>
      unfold Throughout
      rw [h s hs, ih (hI s a hs)]

/-- If a step from an `I`-state ends in an `I`-state exactly when it meets `G`, then `I`
holds throughout a run exactly when it holds at the start and every step meets `G`. -/
theorem throughout_iff_guarded {m : Machine σ α ω} {I : σ → Prop} {G : σ → α → Prop}
    (h : ∀ s a, I s → (I (m.next s a) ↔ G s a)) (s : σ) (as : List α) :
    m.Throughout I s as ↔ I s ∧ m.Guarded G s as := by
  induction as generalizing s with
  | nil => simp [Throughout, Guarded]
  | cons a as ih =>
      simp only [Throughout, Guarded, ih (m.next s a)]
      constructor
      · rintro ⟨hs, hn, hg⟩
        exact ⟨hs, (h s a hs).mp hn, hg⟩
      · rintro ⟨hs, ha, hg⟩
        exact ⟨hs, (h s a hs).mpr ha, hg⟩

/-- The same rule, when the steps are only understood in the states of an invariant. -/
theorem throughout_iff_guarded_of {m : Machine σ α ω} {I P : σ → Prop} {G : σ → α → Prop}
    (hI : m.Invariant I) (h : ∀ s a, I s → P s → (P (m.next s a) ↔ G s a)) {s : σ} (hs : I s)
    {as : List α} : m.Throughout P s as ↔ P s ∧ m.Guarded G s as := by
  induction as generalizing s with
  | nil => simp [Throughout, Guarded]
  | cons a as ih =>
      simp only [Throughout, Guarded, ih (hI s a hs)]
      constructor
      · rintro ⟨hp, hn, hg⟩
        exact ⟨hp, (h s a hs hp).mp hn, hg⟩
      · rintro ⟨hp, ha, hg⟩
        exact ⟨hp, (h s a hs hp).mpr ha, hg⟩

/-! ### Relations between earlier and later states -/

/-- A reflexive transitive relation that holds across every step that meets its condition
holds across every guarded run. -/
theorem Guarded.rel {m : Machine σ α ω} {G : σ → α → Prop} {I : σ → Prop} {R : σ → σ → Prop}
    (hI : ∀ s a, I s → G s a → I (m.next s a)) (hrefl : ∀ s, R s s)
    (htrans : ∀ s t u, R s t → R t u → R s u)
    (hstep : ∀ s a, I s → G s a → R s (m.next s a)) {s : σ} (hs : I s) {as : List α}
    (hg : m.Guarded G s as) : R s (m.run s as) := by
  induction as generalizing s with
  | nil => exact hrefl s
  | cons a as ih => exact htrans _ _ _ (hstep s a hs hg.1) (ih (hI s a hs hg.1) hg.2)

/-- A reflexive transitive relation that holds across every step from an invariant state
holds across every run. -/
theorem run_rel {m : Machine σ α ω} {I : σ → Prop} {R : σ → σ → Prop} (hI : m.Invariant I)
    (hrefl : ∀ s, R s s) (htrans : ∀ s t u, R s t → R t u → R s u)
    (hstep : ∀ s a, I s → R s (m.next s a)) {s : σ} (hs : I s) (as : List α) :
    R s (m.run s as) := by
  induction as generalizing s with
  | nil => exact hrefl s
  | cons a as ih => exact htrans _ _ _ (hstep s a hs) (ih (hI s a hs))

/-! ### How often an observation occurs -/

/-- If `p` is observed only by steps that raise the flag `F` from false to true, and no step
lowers it, then `p` is not observed once `F` holds. -/
theorem count_trace_eq_zero {m : Machine σ α ω} {I F : σ → Prop} {p : ω → Bool}
    (hI : m.Invariant I) (hstay : ∀ s a, I s → F s → F (m.next s a))
    (hfire : ∀ s a, I s → p (m.out s a) = true → ¬ F s) {s : σ} (hs : I s)
    (hf : F s) (as : List α) : (m.trace s as).countP p = 0 := by
  induction as generalizing s with
  | nil => rfl
  | cons a as ih =>
      rw [trace_cons, List.countP_cons, ih (hI s a hs) (hstay s a hs hf)]
      by_cases hp : p (m.out s a) = true
      · exact absurd hf (hfire s a hs hp)
      · simp [hp]

/-- The at-most-once rule: `p` is observed at most once in any run. -/
theorem count_trace_le_one {m : Machine σ α ω} {I F : σ → Prop} {p : ω → Bool}
    (hI : m.Invariant I) (hstay : ∀ s a, I s → F s → F (m.next s a))
    (hfire : ∀ s a, I s → p (m.out s a) = true → ¬ F s ∧ F (m.next s a)) {s : σ}
    (hs : I s) (as : List α) : (m.trace s as).countP p ≤ 1 := by
  induction as generalizing s with
  | nil => simp
  | cons a as ih =>
      rw [trace_cons, List.countP_cons]
      by_cases hp : p (m.out s a) = true
      · have hz := count_trace_eq_zero hI hstay (fun s a hs hp => (hfire s a hs hp).1)
          (hI s a hs) (hfire s a hs hp).2 as
        rw [hz]
        simp [hp]
      · have := ih (hI s a hs)
        simpa [hp] using this

/-! ### Refinement -/

/-- Every step of `m` is answered, on the abstracted states, by a list of steps of `n`. -/
def Refines {τ β ψ : Type} (m : Machine σ α ω) (n : Machine τ β ψ) (abs : σ → τ) : Prop :=
  ∀ s a, ∃ bs : List β, abs (m.next s a) = n.run (abs s) bs

theorem Refines.run {τ β ψ : Type} {m : Machine σ α ω} {n : Machine τ β ψ} {abs : σ → τ}
    (h : m.Refines n abs) (s : σ) (as : List α) :
    ∃ bs : List β, abs (m.run s as) = n.run (abs s) bs := by
  induction as generalizing s with
  | nil => exact ⟨[], rfl⟩
  | cons a as ih =>
      obtain ⟨bs₁, h₁⟩ := h s a
      obtain ⟨bs₂, h₂⟩ := ih (m.next s a)
      refine ⟨bs₁ ++ bs₂, ?_⟩
      rw [run_cons, h₂, h₁, run_append]

end Machine

end Transition
