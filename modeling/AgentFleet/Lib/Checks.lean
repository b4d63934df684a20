import Mathlib.Tactic.Common

/-! # Sequences of checks

A validator is a sequence of checks in `Except`, each of which refuses or goes on.  The simp
lemmas take an accepted sequence apart into what each check has found.

`Persists` compares a sequence of checks in two states: what the first accepts, the second does.

`select`, `first?` and `holds` look through a list with a test that may itself refuse; each has one
lemma that says what it has found out when it did not. -/

namespace Checks

variable {ε α β : Type}

@[simp] theorem bind_ok {x : Except ε α} {f : α → Except ε β} {b : β} :
    (x >>= f) = .ok b ↔ ∃ a, x = .ok a ∧ f a = .ok b := by
  cases x with
  | error e =>
      constructor
      · intro h
        cases h
      · rintro ⟨a, h, -⟩
        cases h
  | ok a =>
      constructor
      · exact fun h => ⟨a, rfl, h⟩
      · rintro ⟨a', h, hb⟩
        cases h
        exact hb

/-- A sequence goes on to the end when the first part does, and the rest from its result. -/
theorem exists_bind_ok {x : Except ε α} {f : α → Except ε β} :
    (∃ b, (x >>= f) = .ok b) ↔ ∃ a, x = .ok a ∧ ∃ b, f a = .ok b := by
  constructor
  · rintro ⟨b, h⟩
    obtain ⟨a, ha, hb⟩ := bind_ok.mp h
    exact ⟨a, ha, b, hb⟩
  · rintro ⟨a, ha, b, hb⟩
    exact ⟨b, bind_ok.mpr ⟨a, ha, hb⟩⟩

@[simp] theorem forM_ok {f : α → Except ε PUnit.{1}} {l : List α} {u : PUnit.{1}} :
    l.forM f = .ok u ↔ ∀ a ∈ l, f a = .ok ⟨⟩ := by
  induction l with
  | nil => exact ⟨fun _ a ha => absurd ha List.not_mem_nil, fun _ => rfl⟩
  | cons a l ih =>
      have hcons : (a :: l).forM f = (f a >>= fun _ => l.forM f) := rfl
      rw [hcons, bind_ok, List.forall_mem_cons]
      constructor
      · rintro ⟨_, hfirst, hrest⟩
        exact ⟨hfirst, ih.mp hrest⟩
      · rintro ⟨hfirst, hrest⟩
        exact ⟨⟨⟩, hfirst, ih.mpr hrest⟩

/-- A list is gone through when every element is accepted. -/
theorem exists_mapM_ok {f : α → Except ε β} {l : List α} :
    (∃ bs, l.mapM f = .ok bs) ↔ ∀ a ∈ l, ∃ b, f a = .ok b := by
  induction l with
  | nil => exact ⟨fun _ a ha => absurd ha List.not_mem_nil, fun _ => ⟨[], rfl⟩⟩
  | cons a l ih =>
      rw [List.forall_mem_cons, ← ih, List.mapM_cons]
      constructor
      · rintro ⟨bs, h⟩
        obtain ⟨b, hb, h⟩ := bind_ok.mp h
        obtain ⟨rest, hrest, -⟩ := bind_ok.mp h
        exact ⟨⟨b, hb⟩, rest, hrest⟩
      · rintro ⟨⟨b, hb⟩, rest, hrest⟩
        exact ⟨b :: rest, bind_ok.mpr ⟨b, hb, bind_ok.mpr ⟨rest, hrest, rfl⟩⟩⟩

/-- What a list is gone through for is what its elements give. -/
theorem mem_of_mapM_ok {f : α → Except ε β} {l : List α} {bs : List β} (h : l.mapM f = .ok bs)
    {b : β} : b ∈ bs ↔ ∃ a ∈ l, f a = .ok b := by
  induction l generalizing bs with
  | nil =>
      cases h
      exact ⟨fun hmem => absurd hmem List.not_mem_nil, fun ⟨_, hmem, _⟩ => absurd hmem List.not_mem_nil⟩
  | cons a l ih =>
      rw [List.mapM_cons] at h
      obtain ⟨b', hb', h⟩ := bind_ok.mp h
      obtain ⟨rest, hrest, h⟩ := bind_ok.mp h
      cases h
      rw [List.mem_cons, ih hrest]
      constructor
      · rintro (rfl | ⟨a', hmem, ha'⟩)
        · exact ⟨a, List.mem_cons_self, hb'⟩
        · exact ⟨a', List.mem_cons_of_mem _ hmem, ha'⟩
      · rintro ⟨a', hmem, ha'⟩
        rcases List.mem_cons.mp hmem with rfl | hmem
        · rw [hb'] at ha'
          cases ha'
          exact .inl rfl
        · exact .inr ⟨a', hmem, ha'⟩

/-- What is read off the results is read off the elements of the list. -/
theorem map_of_mapM_mem {γ : Type} {f : α → Except ε β} {g : β → γ} {k : α → γ} {l : List α}
    {bs : List β} (h : l.mapM f = .ok bs) (hread : ∀ a ∈ l, ∀ b, f a = .ok b → g b = k a) :
    bs.map g = l.map k := by
  induction l generalizing bs with
  | nil =>
      cases h
      rfl
  | cons a l ih =>
      rw [List.mapM_cons] at h
      obtain ⟨b, hb, h⟩ := bind_ok.mp h
      obtain ⟨rest, hrest, h⟩ := bind_ok.mp h
      cases h
      rw [List.map_cons, List.map_cons, hread a List.mem_cons_self b hb,
        ih hrest fun a' ha' => hread a' (List.mem_cons_of_mem a ha')]

/-- What is read off the results is read off the elements. -/
theorem map_of_mapM_ok {γ : Type} {f : α → Except ε β} {g : β → γ} {k : α → γ} {l : List α}
    {bs : List β} (h : l.mapM f = .ok bs) (hread : ∀ a b, f a = .ok b → g b = k a) :
    bs.map g = l.map k :=
  map_of_mapM_mem h fun a _ => hread a

@[simp] theorem return_ok {a b : α} : (pure a : Except ε α) = .ok b ↔ a = b := by
  constructor
  · intro h
    cases h
    rfl
  · rintro rfl
    rfl

/-- Refuses with `e` when `c` holds. -/
def refuse (c : Prop) [Decidable c] (e : ε) : Except ε Unit := if c then .error e else .ok ()

@[simp] theorem refuse_ok {c : Prop} [Decidable c] {e : ε} {u : Unit} :
    refuse c e = .ok u ↔ ¬ c := by
  unfold refuse
  split_ifs with h
  · simp [h]
  · simp [h]

/-- The value of an option, or a refusal with `e`. -/
def demand (e : ε) : Option α → Except ε α
  | some a => .ok a
  | none => .error e

@[simp] theorem demand_ok {e : ε} {o : Option α} {a : α} : demand e o = .ok a ↔ o = some a := by
  cases o with
  | none | some b => simp [demand]

theorem refuse_bind_ok {ε β : Type} {c : Prop} [Decidable c] {e : ε} {f : Unit → Except ε β}
    {b : β} : (refuse c e >>= f) = .ok b ↔ ¬ c ∧ f () = .ok b := by
  rw [bind_ok]
  constructor
  · rintro ⟨_, hc, hb⟩
    exact ⟨refuse_ok.mp hc, hb⟩
  · rintro ⟨hc, hb⟩
    exact ⟨(), refuse_ok.mpr hc, hb⟩

theorem refuse_congr {c d : Prop} [Decidable c] [Decidable d] {e : ε} (h : c ↔ d) :
    refuse c e = refuse d e := by
  unfold refuse
  rw [if_congr h rfl rfl]

/-- The same first part, and the rest where that goes on. -/
theorem bind_congr_of_ok {x : Except ε α} {f g : α → Except ε β}
    (h : ∀ a, x = .ok a → f a = g a) : (x >>= f) = (x >>= g) := by
  cases x with
  | error => rfl
  | ok a => exact h a rfl

/-- The same refusal, and the rest where it is not made. -/
theorem refuse_bind_congr {c d : Prop} [Decidable c] [Decidable d] {e : ε}
    {f g : Unit → Except ε β} (hc : c ↔ d) (h : ¬ c → f () = g ()) :
    (refuse c e >>= f) = (refuse d e >>= g) := by
  rw [refuse_congr hc]
  exact bind_congr_of_ok fun _ hok => h fun hrefused => refuse_ok.mp hok (hc.mp hrefused)

/-- Elements that are refused for one reason are refused together. -/
theorem mapM_eq_ite {f : α → Except ε β} {g : α → β} {p : α → Prop} [DecidablePred p] {e : ε}
    (hf : ∀ a, f a = if p a then .ok (g a) else .error e) (l : List α) :
    l.mapM f = if ∀ a ∈ l, p a then .ok (l.map g) else .error e := by
  induction l with
  | nil =>
      rw [if_pos fun a ha => absurd ha List.not_mem_nil]
      rfl
  | cons a l ih =>
      have hcons : (∀ b ∈ a :: l, p b) ↔ p a ∧ ∀ b ∈ l, p b := List.forall_mem_cons
      rw [List.mapM_cons, ih, hf]
      by_cases hfirst : p a
      · by_cases hrest : ∀ b ∈ l, p b
        · rw [if_pos hfirst, if_pos hrest, if_pos (hcons.mpr ⟨hfirst, hrest⟩)]
          rfl
        · rw [if_pos hfirst, if_neg hrest, if_neg (mt hcons.mp fun h => hrest h.2)]
          rfl
      · rw [if_neg hfirst, if_neg (mt hcons.mp fun h => hfirst h.1)]
        rfl

/-- A list of which no element is refused is gone through. -/
theorem mapM_eq_ok {f : α → Except ε β} {g : α → β} {l : List α}
    (hf : ∀ a ∈ l, f a = .ok (g a)) : l.mapM f = .ok (l.map g) := by
  induction l with
  | nil => rfl
  | cons a l ih =>
      obtain ⟨hfirst, hrest⟩ := List.forall_mem_cons.mp hf
      rw [List.mapM_cons, hfirst, ih hrest]
      rfl

theorem map_ok {ε α β : Type} {x : Except ε α} {f : α → β} {b : β} :
    f <$> x = .ok b ↔ ∃ a, x = .ok a ∧ f a = b := by
  cases x with
  | error e =>
      constructor
      · intro h
        cases h
      · rintro ⟨a, h, -⟩
        cases h
  | ok a =>
      constructor
      · intro h
        cases h
        exact ⟨a, rfl, rfl⟩
      · rintro ⟨a', h, rfl⟩
        cases h
        rfl

/-! ### Checks that persist -/

/-- What `x` answers, `y` answers too. -/
def Persists (x y : Except ε α) : Prop := ∀ a, x = .ok a → y = .ok a

theorem Persists.refl (x : Except ε α) : Persists x x := fun _ h => h

/-- A first answer has to persist only where the rest accepts it. -/
theorem Persists.bind {x y : Except ε α} {f g : α → Except ε β}
    (hx : ∀ a, x = .ok a → (∃ b, f a = .ok b) → y = .ok a)
    (hf : ∀ a, x = .ok a → Persists (f a) (g a)) : Persists (x >>= f) (y >>= g) := by
  intro b h
  obtain ⟨a, ha, hb⟩ := bind_ok.mp h
  exact bind_ok.mpr ⟨a, hx a ha ⟨b, hb⟩, hf a ha b hb⟩

/-- A persistent answer, and what is done with it. -/
theorem Persists.step {x y : Except ε α} {f g : α → Except ε β} (hx : Persists x y)
    (hf : ∀ a, x = .ok a → Persists (f a) (g a)) : Persists (x >>= f) (y >>= g) :=
  .bind (fun a ha _ => hx a ha) hf

/-- The same check, and what comes after it. -/
theorem Persists.after {x : Except ε α} {f g : α → Except ε β}
    (hf : ∀ a, x = .ok a → Persists (f a) (g a)) : Persists (x >>= f) (x >>= g) :=
  .step (.refl x) hf

/-! ### Tests that may refuse -/

/-- The elements that pass the test, `[a for a in l if p(a)]`. -/
def select (p : α → Except ε Bool) : List α → Except ε (List α)
  | [] => .ok []
  | a :: l => do
      let selected ← p a
      let rest ← select p l
      pure (if selected then a :: rest else rest)

/-- The first element that passes the test. -/
def first? (p : α → Except ε Bool) : List α → Except ε (Option α)
  | [] => .ok none
  | a :: l => do
      let found ← p a
      if found then pure (some a) else first? p l

/-- Some element passes the test, `any(p(a) for a in l)`. -/
def holds (p : α → Except ε Bool) (l : List α) : Except ε Bool := do
  let found ← first? p l
  pure found.isSome

/-- The test was passed. -/
def passes (x : Except ε Bool) : Bool :=
  match x with
  | .ok b => b
  | .error _ => false

/-- The test was answered. -/
def Answered (x : Except ε Bool) : Prop := ∃ b, x = .ok b

@[simp] theorem passes_ok (b : Bool) : passes (.ok b : Except ε Bool) = b := rfl

theorem passes_iff {x : Except ε Bool} : passes x = true ↔ x = .ok true := by
  cases x with
  | error => exact ⟨fun h => Bool.noConfusion h, fun h => by cases h⟩
  | ok => exact ⟨fun h => congrArg _ h, fun h => by cases h; rfl⟩

/-- A selection is the filter by the test, all of whose answers were given. -/
theorem select_ok {p : α → Except ε Bool} {l selected : List α} :
    select p l = .ok selected
      ↔ (∀ a ∈ l, Answered (p a)) ∧ selected = l.filter fun a => passes (p a) := by
  induction l generalizing selected with
  | nil =>
      constructor
      · intro h
        cases h
        exact ⟨fun a ha => absurd ha List.not_mem_nil, rfl⟩
      · rintro ⟨-, rfl⟩
        rfl
  | cons a l ih =>
      unfold select
      rw [List.forall_mem_cons, List.filter_cons]
      constructor
      · intro h
        obtain ⟨b, hb, h⟩ := bind_ok.mp h
        obtain ⟨rest, hrest, h⟩ := bind_ok.mp h
        obtain ⟨hanswered, rfl⟩ := ih.mp hrest
        cases h
        rw [hb]
        exact ⟨⟨⟨b, rfl⟩, hanswered⟩, rfl⟩
      · rintro ⟨⟨⟨b, hb⟩, hanswered⟩, rfl⟩
        rw [hb]
        exact bind_ok.mpr ⟨b, rfl, bind_ok.mpr ⟨_, ih.mpr ⟨hanswered, rfl⟩, rfl⟩⟩

/-- What was found is an element that passes. -/
theorem first?_some {p : α → Except ε Bool} {l : List α} {a : α} (h : first? p l = .ok (some a)) :
    a ∈ l ∧ passes (p a) = true := by
  induction l with
  | nil => cases h
  | cons b l ih =>
      unfold first? at h
      obtain ⟨found, hfound, h⟩ := bind_ok.mp h
      cases found with
      | true =>
          cases h
          exact ⟨List.mem_cons_self, passes_iff.mpr hfound⟩
      | false => exact ⟨List.mem_cons_of_mem _ (ih h).1, (ih h).2⟩

/-- Nothing was found among elements that all fail. -/
theorem first?_none {p : α → Except ε Bool} {l : List α} :
    first? p l = .ok none ↔ ∀ a ∈ l, p a = .ok false := by
  induction l with
  | nil => exact iff_of_true rfl fun a ha => absurd ha List.not_mem_nil
  | cons b l ih =>
      unfold first?
      rw [List.forall_mem_cons]
      constructor
      · intro h
        obtain ⟨found, hfound, h⟩ := bind_ok.mp h
        cases found with
        | true => cases h
        | false => exact ⟨hfound, ih.mp h⟩
      · rintro ⟨hb, hrest⟩
        rw [hb]
        exact ih.mpr hrest

/-- Where every test is answered, the search is. -/
theorem first?_answered {p : α → Except ε Bool} {l : List α} (h : ∀ a ∈ l, Answered (p a)) :
    ∃ found, first? p l = .ok found := by
  induction l with
  | nil => exact ⟨none, rfl⟩
  | cons b l ih =>
      rw [List.forall_mem_cons] at h
      obtain ⟨⟨found, hfound⟩, hrest⟩ := h
      obtain ⟨rest, hrest⟩ := ih hrest
      unfold first?
      rw [hfound]
      cases found with
      | true => exact ⟨some b, rfl⟩
      | false => exact ⟨rest, hrest⟩

theorem holds_true {p : α → Except ε Bool} {l : List α} (h : holds p l = .ok true) :
    ∃ a ∈ l, passes (p a) = true := by
  obtain ⟨found, hfound, h⟩ := bind_ok.mp h
  cases found with
  | none => cases h
  | some a => exact ⟨a, first?_some hfound⟩

theorem holds_of_passes {p : α → Except ε Bool} {l : List α} (hanswered : ∀ a ∈ l, Answered (p a))
    {a : α} (ha : a ∈ l) (hpass : passes (p a) = true) : holds p l = .ok true := by
  obtain ⟨found, hfound⟩ := first?_answered hanswered
  unfold holds
  rw [hfound]
  cases found with
  | some => rfl
  | none =>
      rw [first?_none.mp hfound a ha] at hpass
      exact Bool.noConfusion hpass

theorem holds_answered {p : α → Except ε Bool} {l : List α} (h : ∀ a ∈ l, Answered (p a)) :
    Answered (holds p l) := by
  obtain ⟨found, hfound⟩ := first?_answered h
  unfold holds
  rw [hfound]
  exact ⟨_, rfl⟩

end Checks
