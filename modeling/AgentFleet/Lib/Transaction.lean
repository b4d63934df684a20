import Mathlib.Logic.Relation
import Mathlib.Tactic.Common

/-! # Transactions

A transaction body reads and writes a state and may raise.  `commit` runs a body the way a
database does: the writes take effect if the body returns and none of them does if it raises.

`onPart` runs a body of one store inside a transaction over several.  `Steps r` says that
whatever a body commits is a chain of `r` steps; its rules follow the syntax of bodies, so
`grind` walks through one once the steps of its writes are known.

The simp lemmas `bind_ok`, `refuseIf_ok`, … take a committed body apart into its steps, so a
specification of a body is proved by rewriting its run and never by unfolding the monad. -/

namespace Transaction

/-- A transaction body over the state `σ` that may raise `ε`. -/
abbrev Txn (σ ε α : Type) := StateT σ (Except ε) α

variable {σ ε α β : Type}

/-- Raises `e` when `c` holds. -/
def refuseIf (c : Prop) [Decidable c] (e : ε) : Txn σ ε Unit :=
  if c then throw e else pure ()

/-- The value of an option, or the exception `e`. -/
def expect (e : ε) : Option α → Txn σ ε α
  | some a => pure a
  | none => throw e

/-- Runs a body against a state: its writes if it returns, none of them if it raises. -/
def commit (x : Txn σ ε α) (s : σ) : Except ε α × σ :=
  match x s with
  | .ok (a, t) => (.ok a, t)
  | .error e => (.error e, s)

@[simp] theorem pure_ok {a b : α} {s t : σ} :
    (pure a : Txn σ ε α) s = .ok (b, t) ↔ a = b ∧ s = t := by
  have hrun : (pure a : Txn σ ε α) s = .ok (a, s) := rfl
  rw [hrun, Except.ok.injEq, Prod.mk.injEq]

@[simp] theorem throw_ok {e : ε} {a : α} {s t : σ} :
    (throw e : Txn σ ε α) s = .ok (a, t) ↔ False := by
  simp only [iff_false]
  intro h
  cases h

@[simp] theorem bind_ok {x : Txn σ ε α} {f : α → Txn σ ε β} {b : β} {s u : σ} :
    (x >>= f) s = .ok (b, u) ↔ ∃ a t, x s = .ok (a, t) ∧ f a t = .ok (b, u) := by
  simp only [bind, StateT.bind, Except.bind]
  cases hx : x s with
  | error => simp
  | ok p =>
      obtain ⟨a, t⟩ := p
      constructor
      · exact fun h => ⟨a, t, rfl, h⟩
      · rintro ⟨a', t', heq, h⟩
        cases heq
        exact h

@[simp] theorem map_ok {x : Txn σ ε α} {f : α → β} {b : β} {s t : σ} :
    (f <$> x) s = .ok (b, t) ↔ ∃ a, x s = .ok (a, t) ∧ f a = b := by
  rw [map_eq_pure_bind, bind_ok]
  constructor
  · rintro ⟨a, u, ha, hb⟩
    obtain ⟨rfl, rfl⟩ := pure_ok.mp hb
    exact ⟨a, ha, rfl⟩
  · rintro ⟨a, ha, rfl⟩
    exact ⟨a, t, ha, pure_ok.mpr ⟨rfl, rfl⟩⟩

@[simp] theorem get_ok {a s t : σ} : (get : Txn σ ε σ) s = .ok (a, t) ↔ s = a ∧ s = t := by
  simp [get, getThe, MonadStateOf.get, StateT.get, pure, Except.pure]

@[simp] theorem set_ok {a s t : σ} {u : PUnit} :
    (set a : Txn σ ε PUnit) s = .ok (u, t) ↔ a = t := by
  have hrun : (set a : Txn σ ε PUnit) s = .ok (⟨⟩, a) := rfl
  rw [hrun, Except.ok.injEq, Prod.mk.injEq]
  exact and_iff_right rfl

@[simp] theorem modify_ok {f : σ → σ} {s t : σ} {u : PUnit} :
    (modify f : Txn σ ε PUnit) s = .ok (u, t) ↔ f s = t := by
  simp [modify, modifyGet, MonadStateOf.modifyGet, StateT.modifyGet, pure, Except.pure]

@[simp] theorem refuseIf_ok {c : Prop} [Decidable c] {e : ε} {s t : σ} {u : Unit} :
    (refuseIf c e : Txn σ ε Unit) s = .ok (u, t) ↔ ¬ c ∧ s = t := by
  unfold refuseIf
  split_ifs with h
  · simp [h]
  · simp [h]

@[simp] theorem expect_ok {e : ε} {o : Option α} {a : α} {s t : σ} :
    (expect e o : Txn σ ε α) s = .ok (a, t) ↔ o = some a ∧ s = t := by
  cases o with
  | none | some b => simp [expect]

/-- A body that only answers a question about the state. -/
def reading (f : σ → Except ε α) : Txn σ ε α := fun s =>
  match f s with
  | .ok a => .ok (a, s)
  | .error e => .error e

@[simp] theorem reading_ok {f : σ → Except ε α} {a : α} {s t : σ} :
    reading f s = .ok (a, t) ↔ f s = .ok a ∧ s = t := by
  unfold reading
  cases f s with
  | error e | ok b => simp

theorem reading_bind_ok {f : σ → Except ε α} {g : α → Txn σ ε β} {b : β} {s t : σ} :
    (reading f >>= g) s = .ok (b, t) ↔ ∃ a, f s = .ok a ∧ g a s = .ok (b, t) := by
  rw [bind_ok]
  constructor
  · rintro ⟨a, u, ha, hb⟩
    obtain ⟨hread, rfl⟩ := reading_ok.mp ha
    exact ⟨a, hread, hb⟩
  · rintro ⟨a, ha, hb⟩
    exact ⟨a, s, reading_ok.mpr ⟨ha, rfl⟩, hb⟩

theorem refuseIf_bind_ok {c : Prop} [Decidable c] {e : ε} {g : Unit → Txn σ ε β} {b : β}
    {s t : σ} : (refuseIf c e >>= g) s = .ok (b, t) ↔ ¬ c ∧ g () s = .ok (b, t) := by
  rw [bind_ok]
  constructor
  · rintro ⟨_, u, hc, hb⟩
    obtain ⟨hnot, rfl⟩ := refuseIf_ok.mp hc
    exact ⟨hnot, hb⟩
  · rintro ⟨hc, hb⟩
    exact ⟨(), s, refuseIf_ok.mpr ⟨hc, rfl⟩, hb⟩

theorem expect_bind_ok {e : ε} {o : Option α} {g : α → Txn σ ε β} {b : β} {s t : σ} :
    (expect e o >>= g) s = .ok (b, t) ↔ ∃ a, o = some a ∧ g a s = .ok (b, t) := by
  rw [bind_ok]
  constructor
  · rintro ⟨a, u, ha, hb⟩
    obtain ⟨hsome, rfl⟩ := expect_ok.mp ha
    exact ⟨a, hsome, hb⟩
  · rintro ⟨a, ha, hb⟩
    exact ⟨a, s, expect_ok.mpr ⟨ha, rfl⟩, hb⟩

theorem get_bind_ok {g : σ → Txn σ ε β} {b : β} {s t : σ} :
    ((get : Txn σ ε σ) >>= g) s = .ok (b, t) ↔ g s s = .ok (b, t) := by
  rw [bind_ok]
  constructor
  · rintro ⟨a, u, ha, hb⟩
    obtain ⟨rfl, rfl⟩ := get_ok.mp ha
    exact hb
  · intro hb
    exact ⟨s, s, get_ok.mpr ⟨rfl, rfl⟩, hb⟩

/-! ### Bodies against a part of the state -/

/-- Runs a body against the part of the state that `view` shows and `put` writes back. -/
def onPart {τ : Type} (view : τ → σ) (put : σ → τ → τ) (x : Txn σ ε α) : Txn τ ε α := fun t =>
  match x (view t) with
  | .ok (a, s) => .ok (a, put s t)
  | .error e => .error e

@[simp] theorem onPart_ok {τ : Type} {view : τ → σ} {put : σ → τ → τ} {x : Txn σ ε α} {a : α}
    {t u : τ} :
    onPart view put x t = .ok (a, u) ↔ ∃ s, x (view t) = .ok (a, s) ∧ put s t = u := by
  unfold onPart
  cases hx : x (view t) with
  | error => simp
  | ok p =>
      obtain ⟨b, s⟩ := p
      constructor
      · intro h
        cases h
        exact ⟨s, rfl, rfl⟩
      · rintro ⟨s', hs, rfl⟩
        cases hs
        rfl

/-! ### Bodies that only read -/

/-- A body that leaves the state as it is when it returns. -/
def ReadOnly (x : Txn σ ε α) : Prop := ∀ s a t, x s = .ok (a, t) → t = s

theorem ReadOnly.bind {x : Txn σ ε α} {f : α → Txn σ ε β} (hx : ReadOnly x)
    (hf : ∀ a, ReadOnly (f a)) : ReadOnly (x >>= f) := by
  intro s b u h
  obtain ⟨a, t, ha, hb⟩ := bind_ok.mp h
  rw [hf a t b u hb, hx s a t ha]

theorem ReadOnly.pure (a : α) : ReadOnly (Pure.pure a : Txn σ ε α) :=
  fun _ _ _ h => (pure_ok.mp h).2.symm

theorem ReadOnly.refuseIf (c : Prop) [Decidable c] (e : ε) :
    ReadOnly (refuseIf c e : Txn σ ε Unit) :=
  fun _ _ _ h => (refuseIf_ok.mp h).2.symm

theorem ReadOnly.expect (e : ε) (o : Option α) : ReadOnly (expect e o : Txn σ ε α) :=
  fun _ _ _ h => (expect_ok.mp h).2.symm

theorem ReadOnly.forM {γ : Type} {f : γ → Txn σ ε PUnit} (hf : ∀ c, ReadOnly (f c))
    (l : List γ) : ReadOnly (l.forM f) := by
  induction l with
  | nil => exact .pure _
  | cons c l ih => exact (hf c).bind fun _ => ih

/-! ### Bodies that take steps -/

/-- What the body commits is a chain of `r` steps. -/
def Steps (r : σ → σ → Prop) (x : Txn σ ε α) : Prop :=
  ∀ s a t, x s = .ok (a, t) → Relation.ReflTransGen r s t

section Steps

variable {r : σ → σ → Prop}

@[grind ←]
theorem Steps.bind {x : Txn σ ε α} {f : α → Txn σ ε β} (hx : Steps r x)
    (hf : ∀ a, Steps r (f a)) : Steps r (x >>= f) := by
  intro s b u h
  obtain ⟨a, t, ha, hb⟩ := bind_ok.mp h
  exact (hx s a t ha).trans (hf a t b u hb)

@[grind ←]
theorem Steps.map {x : Txn σ ε α} {f : α → β} (hx : Steps r x) : Steps r (f <$> x) := by
  intro s b t h
  obtain ⟨a, ha, -⟩ := map_ok.mp h
  exact hx s a t ha

theorem Steps.of_readOnly {x : Txn σ ε α} (hx : ReadOnly x) : Steps r x := by
  intro s a t h
  rw [hx s a t h]

@[grind ←]
theorem Steps.pure (a : α) : Steps r (Pure.pure a : Txn σ ε α) := .of_readOnly (.pure a)

@[grind ←]
theorem Steps.refuseIf (c : Prop) [Decidable c] (e : ε) :
    Steps r (refuseIf c e : Txn σ ε Unit) :=
  .of_readOnly (.refuseIf c e)

@[grind ←]
theorem Steps.expect (e : ε) (o : Option α) : Steps r (expect e o : Txn σ ε α) :=
  .of_readOnly (.expect e o)

@[grind ←]
theorem Steps.throw (e : ε) : Steps r (throw e : Txn σ ε α) :=
  fun _ _ _ h => (throw_ok.mp h).elim

@[grind ←]
theorem Steps.get : Steps r (get : Txn σ ε σ) := by
  intro s a t h
  obtain ⟨-, rfl⟩ := get_ok.mp h
  exact .refl

theorem Steps.modify {f : σ → σ} (h : ∀ s, r s (f s)) :
    Steps r (modify f : Txn σ ε PUnit) := by
  intro s u t hs
  rw [← modify_ok.mp hs]
  exact .single (h s)

@[grind ←]
theorem Steps.forM {γ : Type} {f : γ → Txn σ ε PUnit} (hf : ∀ c, Steps r (f c)) (l : List γ) :
    Steps r (l.forM f) := by
  induction l with
  | nil => exact .pure _
  | cons c l ih => exact .bind (hf c) fun _ => ih

/-- A step of a part is a step of the whole. -/
theorem Steps.onPart {τ : Type} {view : τ → σ} {put : σ → τ → τ} {q : τ → τ → Prop}
    {x : Txn σ ε α} (hx : Steps r x) (hput : ∀ s t, r s t → ∀ w, q (put s w) (put t w))
    (hview : ∀ w, put (view w) w = w) : Steps q (onPart view put x) := by
  intro w a w' h
  obtain ⟨s, hs, rfl⟩ := onPart_ok.mp h
  have hchain : Relation.ReflTransGen q (put (view w) w) (put s w) :=
    (hx (view w) a s hs).lift (fun s => put s w) fun s t hstep => hput s t hstep w
  rw [hview] at hchain
  exact hchain

end Steps

/-- What a committed transaction did: it returned and its writes hold, or it raised and
nothing changed. -/
theorem commit_cases (x : Txn σ ε α) (s : σ) :
    (∃ a t, x s = .ok (a, t) ∧ commit x s = (.ok a, t)) ∨
      ∃ e, x s = .error e ∧ commit x s = (.error e, s) := by
  unfold commit
  cases hx : x s with
  | ok p => exact .inl ⟨p.1, p.2, rfl, rfl⟩
  | error e => exact .inr ⟨e, rfl, rfl⟩

/-- What a result is mapped to does not matter to the state. -/
theorem commit_map (x : Txn σ ε α) (f : α → β) (s : σ) :
    (commit (f <$> x) s).2 = (commit x s).2 := by
  rcases commit_cases (f <$> x) s with ⟨b, t, hmap, hc⟩ | ⟨e, hmap, hc⟩
  · obtain ⟨a, ha, -⟩ := map_ok.mp hmap
    rw [hc]
    unfold commit
    rw [ha]
  · rcases commit_cases x s with ⟨a, t, ha, -⟩ | ⟨e', -, hc'⟩
    · rw [map_ok.mpr ⟨a, ha, rfl⟩] at hmap
      cases hmap
    · rw [hc, hc']

/-- A transaction that returns committed its writes. -/
theorem commit_ok {x : Txn σ ε α} {s : σ} {a : α} (h : (commit x s).1 = .ok a) :
    x s = .ok (a, (commit x s).2) := by
  rcases commit_cases x s with ⟨b, t, hx, hc⟩ | ⟨e, -, hc⟩
  · rw [hc] at h ⊢
    cases h
    exact hx
  · rw [hc] at h
    cases h

end Transaction
