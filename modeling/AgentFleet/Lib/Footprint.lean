import AgentFleet.Lib.Checks
import Mathlib.Logic.Relation

/-! # Computations that keep what they look up

A computation looks keys up in a source, one after another, and its state knows the keys that it has
looked up.  Such a computation is `Local`: each change of its state is the step of a lookup, and its
run says nothing about the rest of the source.

* `Local.bind`, `Local.forM` and the others build local computations from local ones.
* `Local.invariant` carries what every lookup preserves over a run.
* `Local.agrees` repeats a run on any source that agrees on the keys it has come to know. -/

namespace Footprint

variable {κ ρ σ ε α β : Type}

/-! ### Runs that end -/

theorem run_bind_ok {m : StateT σ (Except ε) α} {f : α → StateT σ (Except ε) β} {s s' : σ} {b : β} :
    (m >>= f).run s = .ok (b, s')
      ↔ ∃ a middle, m.run s = .ok (a, middle) ∧ (f a).run middle = .ok (b, s') := by
  rw [StateT.run_bind, Checks.bind_ok]
  constructor
  · rintro ⟨⟨a, middle⟩, ha, hb⟩
    exact ⟨a, middle, ha, hb⟩
  · rintro ⟨a, middle, ha, hb⟩
    exact ⟨(a, middle), ha, hb⟩

theorem run_pure_ok {a b : α} {s s' : σ} :
    (pure a : StateT σ (Except ε) α).run s = .ok (b, s') ↔ a = b ∧ s = s' := by
  rw [StateT.run_pure, Checks.return_ok, Prod.mk.injEq]

/-- A check leaves the state alone. -/
theorem run_lift_ok {x : Except ε α} {s s' : σ} {a : α} :
    (StateT.lift x : StateT σ (Except ε) α).run s = .ok (a, s') ↔ x = .ok a ∧ s = s' := by
  rw [StateT.run_lift, Checks.bind_ok]
  constructor
  · rintro ⟨a', ha, h⟩
    obtain ⟨rfl, rfl⟩ := Prod.mk.inj (Checks.return_ok.mp h)
    exact ⟨ha, rfl⟩
  · rintro ⟨ha, rfl⟩
    exact ⟨a, ha, rfl⟩

theorem run_get_ok {s s' t : σ} :
    (get : StateT σ (Except ε) σ).run s = .ok (t, s') ↔ s = t ∧ s = s' := by
  rw [StateT.run_get, Checks.return_ok, Prod.mk.injEq]

/-! ### Local computations -/

/-- The computation changes its state by lookups alone, and only looks up what its state knows
afterwards. -/
structure Local (known : σ → κ → Prop) (step : (κ → ρ) → σ → σ → Prop)
    (m : (κ → ρ) → StateT σ (Except ε) α) : Prop where
  moves : ∀ {source : κ → ρ} {s s' : σ} {a : α}, (m source).run s = .ok (a, s') →
    Relation.ReflTransGen (step source) s s'
  agrees : ∀ {source source' : κ → ρ} {s s' : σ} {a : α}, (m source).run s = .ok (a, s') →
    (∀ key, known s' key → source key = source' key) → (m source').run s = .ok (a, s')

/-- A lookup forgets nothing. -/
def Grows (known : σ → κ → Prop) (step : (κ → ρ) → σ → σ → Prop) : Prop :=
  ∀ source s s', step source s s' → ∀ key, known s key → known s' key

namespace Local

variable {known : σ → κ → Prop} {step : (κ → ρ) → σ → σ → Prop}

theorem pure (a : α) : Local known step fun _ => (Pure.pure a : StateT σ (Except ε) α) where
  moves h := by
    obtain ⟨-, rfl⟩ := run_pure_ok.mp h
    exact .refl
  agrees h _ := h

/-- A check that does not look at the source. -/
theorem lift (x : Except ε α) :
    Local known step fun _ => (StateT.lift x : StateT σ (Except ε) α) where
  moves h := by
    obtain ⟨-, rfl⟩ := run_lift_ok.mp h
    exact .refl
  agrees h _ := h

theorem get : Local known step fun _ => (MonadState.get : StateT σ (Except ε) σ) where
  moves h := by
    obtain ⟨-, rfl⟩ := run_get_ok.mp h
    exact .refl
  agrees h _ := h

/-- What every lookup preserves holds after a run. -/
theorem invariant {m : (κ → ρ) → StateT σ (Except ε) α} (hm : Local known step m) {P : σ → Prop}
    {source : κ → ρ} (hstep : ∀ {s s' : σ}, step source s s' → P s → P s') {s s' : σ} {a : α}
    (h : (m source).run s = .ok (a, s')) (hs : P s) : P s' := by
  have hmoves := hm.moves h
  clear h
  induction hmoves with
  | refl => exact hs
  | tail _ hlast ih => exact hstep hlast ih

variable (hgrows : Grows known step)

include hgrows

theorem bind {m : (κ → ρ) → StateT σ (Except ε) α} {f : (κ → ρ) → α → StateT σ (Except ε) β}
    (hm : Local known step m) (hf : ∀ a, Local known step fun source => f source a) :
    Local known step fun source => m source >>= f source where
  moves h := by
    obtain ⟨a, middle, ha, hb⟩ := run_bind_ok.mp h
    exact (hm.moves ha).trans ((hf a).moves hb)
  agrees {source source' s s' b} h hsame := by
    obtain ⟨a, middle, ha, hb⟩ := run_bind_ok.mp h
    have hkept : ∀ key, known middle key → known s' key := fun key hkey =>
      (hf a).invariant (fun hmove => hgrows _ _ _ hmove key) hb hkey
    have hfirst := hm.agrees ha fun key hkey => hsame key (hkept key hkey)
    exact run_bind_ok.mpr ⟨a, middle, hfirst, (hf a).agrees hb hsame⟩

/-- What the first part has come to know is known at the end. -/
theorem known_bind {m : StateT σ (Except ε) α} {f : (κ → ρ) → α → StateT σ (Except ε) β}
    (hf : ∀ a, Local known step fun source => f source a) {source : κ → ρ} {s s' : σ} {b : β}
    (h : (m >>= f source).run s = .ok (b, s')) {key : κ}
    (hm : ∀ a middle, m.run s = .ok (a, middle) → known middle key) : known s' key := by
  obtain ⟨a, middle, ha, hb⟩ := run_bind_ok.mp h
  exact (hf a).invariant (fun hmove => hgrows _ _ _ hmove key) hb (hm a middle ha)

theorem foldlM {f : (κ → ρ) → β → α → StateT σ (Except ε) β}
    (hf : ∀ b a, Local known step fun source => f source b a) (l : List α) (b : β) :
    Local known step fun source => l.foldlM (f source) b := by
  induction l generalizing b with
  | nil =>
      simp only [List.foldlM_nil]
      exact pure b
  | cons a l ih =>
      simp only [List.foldlM_cons]
      exact bind hgrows (hf b a) ih

/-- Each element of a list that is gone through had its turn, in a state that the rest builds on. -/
theorem exists_of_mem_foldlM {f : (κ → ρ) → β → α → StateT σ (Except ε) β}
    (hf : ∀ b a, Local known step fun source => f source b a) {P : σ → Prop} {source : κ → ρ}
    (hstep : ∀ {s s' : σ}, step source s s' → P s → P s') {l : List α} {b b' : β} {s s' : σ}
    (h : (l.foldlM (f source) b).run s = .ok (b', s')) (hs : P s) {a : α} (ha : a ∈ l) :
    ∃ before after middle middle', P middle
      ∧ (f source before a).run middle = .ok (after, middle')
      ∧ ∀ key, known middle' key → known s' key := by
  induction l generalizing b s with
  | nil => exact absurd ha List.not_mem_nil
  | cons first rest ih =>
      rw [List.foldlM_cons] at h
      obtain ⟨b₁, s₁, hfirst, hrest⟩ := run_bind_ok.mp h
      rcases List.mem_cons.mp ha with rfl | hmem
      · refine ⟨b, b₁, s, s₁, hs, hfirst, fun key hkey => ?_⟩
        exact (foldlM hgrows hf rest b₁).invariant (fun hmove => hgrows _ _ _ hmove key) hrest hkey
      · exact ih hrest ((hf b first).invariant hstep hfirst hs) hmem

theorem forM {f : (κ → ρ) → α → StateT σ (Except ε) PUnit.{1}}
    (hf : ∀ a, Local known step fun source => f source a) (l : List α) :
    Local known step fun source => l.forM (f source) := by
  induction l with
  | nil => exact pure PUnit.unit
  | cons a l ih => exact bind hgrows (hf a) fun _ => ih

end Local

end Footprint
