import Mathlib.Data.List.Perm.Subperm
import Mathlib.Logic.Relation
import Mathlib.Order.WellFounded
import Mathlib.Tactic.Common

/-! # Depth-first search for cycles

`visit` walks a graph from a node along `deps` and keeps the nodes on the way to it apart from
the nodes whose walk has ended; it finds a cycle when it comes back to a node on the way.

`acyclic_iff` says that the search over all nodes accepts exactly the graphs without cycles.
Soundness needs only that every finished node is accessible; completeness bounds the way by the
number of nodes, so the fuel never runs out before a cycle is found.

`search` is the same walk with its reason to stop: `search_ne_outOfFuel` says that it ends,
`search_ok_iff` when it finds no cycle, and `perm_of_search` which nodes it has finished. -/

namespace DepthFirst

variable {α : Type} [DecidableEq α] (deps : α → List α)

/-- The walk from a node: the finished nodes after it, or nothing when it meets a cycle. -/
def visit : ℕ → List α → List α → α → Option (List α)
  | 0, _, _, _ => none
  | fuel + 1, visiting, visited, a =>
      if a ∈ visiting then none
      else if a ∈ visited then some visited
      else do
        let visited ← (deps a).foldlM (visit fuel (a :: visiting)) visited
        return a :: visited

/-- The search over all nodes meets no cycle. -/
def acyclic (nodes : List α) : Bool :=
  (nodes.foldlM (visit deps (nodes.length + 1) []) []).isSome

/-- `b` is one of the nodes that `a` points to. -/
def Below (b a : α) : Prop := b ∈ deps a

variable {deps} {fuel : ℕ} {visiting visited visited' : List α} {a : α}

/-! ### What was walked is accessible -/

/-- Every node of the list is accessible. -/
def Grounded (deps : α → List α) (nodes : List α) : Prop := ∀ a ∈ nodes, Acc (Below deps) a

omit [DecidableEq α] in
theorem foldlM_grounded {f : List α → α → Option (List α)} {nodes : List α}
    (hf : ∀ visited a visited', f visited a = some visited' → Grounded deps visited →
      Grounded deps visited' ∧ visited ⊆ visited' ∧ a ∈ visited')
    (h : nodes.foldlM f visited = some visited') (hvisited : Grounded deps visited) :
    Grounded deps visited' ∧ visited ⊆ visited' ∧ nodes ⊆ visited' := by
  induction nodes generalizing visited with
  | nil =>
      obtain rfl : visited = visited' := Option.some.inj h
      exact ⟨hvisited, fun _ hb => hb, List.nil_subset _⟩
  | cons a nodes ih =>
      rw [List.foldlM_cons] at h
      obtain ⟨next, hfirst, hrest⟩ := Option.bind_eq_some_iff.mp h
      obtain ⟨hnext, hsub, hmem⟩ := hf _ _ _ hfirst hvisited
      obtain ⟨hlast, hsub', hnodes⟩ := ih hrest hnext
      exact ⟨hlast, fun _ hb => hsub' (hsub hb), List.cons_subset.mpr ⟨hsub' hmem, hnodes⟩⟩

theorem visit_grounded (h : visit deps fuel visiting visited a = some visited')
    (hvisited : Grounded deps visited) :
    Grounded deps visited' ∧ visited ⊆ visited' ∧ a ∈ visited' := by
  induction fuel generalizing visiting visited visited' a with
  | zero => exact absurd h (fun heq => by cases heq)
  | succ fuel ih =>
      unfold visit at h
      split_ifs at h with hway hdone
      · obtain rfl : visited = visited' := Option.some.inj h
        exact ⟨hvisited, fun _ hb => hb, hdone⟩
      · obtain ⟨walked, hwalk, hlast⟩ := Option.bind_eq_some_iff.mp h
        obtain rfl : a :: walked = visited' := Option.some.inj hlast
        have hstep := foldlM_grounded (fun v b v' hv hground => ih hv hground) hwalk hvisited
        obtain ⟨hground, hsub, hdeps⟩ := hstep
        refine ⟨fun b hb => ?_, fun _ hb => List.mem_cons_of_mem _ (hsub hb),
          List.mem_cons_self⟩
        rcases List.mem_cons.mp hb with rfl | hb
        · exact Acc.intro _ fun c hc => hground c (hdeps hc)
        · exact hground b hb

omit [DecidableEq α] in
theorem not_transGen_self (h : Acc (Below deps) a) : ¬ Relation.TransGen (Below deps) a a := by
  have hchain := h.transGen
  induction hchain with
  | intro a _ ih => exact fun hcycle => ih a hcycle (h.inv_of_transGen hcycle) hcycle

omit [DecidableEq α] in
theorem foldlM_isSome {f : List α → α → Option (List α)} {nodes : List α}
    (hf : ∀ visited, ∀ a ∈ nodes, (f visited a).isSome) (visited : List α) :
    (nodes.foldlM f visited).isSome := by
  induction nodes generalizing visited with
  | nil => rfl
  | cons a nodes ih =>
      obtain ⟨next, hnext⟩ := Option.isSome_iff_exists.mp (hf visited a List.mem_cons_self)
      rw [List.foldlM_cons, hnext]
      exact ih (fun v b hb => hf v b (List.mem_cons_of_mem _ hb)) next

/-! ### The search finds no cycle where there is none -/

theorem visit_isSome {known : List α} (hclosed : ∀ a ∈ known, deps a ⊆ known)
    (hacyclic : ∀ a ∈ known, ¬ Relation.TransGen (Below deps) a a) (ha : a ∈ known)
    (hnodup : visiting.Nodup) (hknown : visiting ⊆ known)
    (hway : ∀ b ∈ visiting, Relation.TransGen (Below deps) a b)
    (hfuel : known.length < fuel + visiting.length) :
    (visit deps fuel visiting visited a).isSome := by
  induction fuel generalizing visiting visited a with
  | zero =>
      have hle := (List.subperm_of_subset hnodup hknown).length_le
      omega
  | succ fuel ih =>
      unfold visit
      have hfresh : a ∉ visiting := fun hmem => hacyclic a ha (hway a hmem)
      rw [if_neg hfresh]
      split_ifs with hdone
      · rfl
      · have hwalk := @foldlM_isSome _ (visit deps fuel (a :: visiting)) (deps a)
          (fun v b hb => ?_) visited
        · obtain ⟨walked, hwalked⟩ := Option.isSome_iff_exists.mp hwalk
          rw [hwalked]
          rfl
        · have hbelow : ∀ c ∈ a :: visiting, Relation.TransGen (Below deps) b c := by
            intro c hc
            rcases List.mem_cons.mp hc with rfl | hc
            · exact .single hb
            · exact .head hb (hway c hc)
          exact ih (hclosed a ha hb) (List.nodup_cons.mpr ⟨hfresh, hnodup⟩)
            (List.cons_subset.mpr ⟨ha, hknown⟩) hbelow (by rw [List.length_cons]; omega)

/-- Whatever fuel lasts, the walks from all nodes end exactly in the graphs without cycles. -/
theorem foldlM_visit_isSome_iff {nodes : List α} (hclosed : ∀ a ∈ nodes, deps a ⊆ nodes)
    (hfuel : nodes.length < fuel) :
    (nodes.foldlM (visit deps fuel []) []).isSome
      ↔ ∀ a ∈ nodes, ¬ Relation.TransGen (Below deps) a a := by
  constructor
  · intro h a ha
    obtain ⟨visited, hvisited⟩ := Option.isSome_iff_exists.mp h
    have hground := foldlM_grounded
      (fun v b v' hv hground => visit_grounded hv hground) hvisited
      (fun b hb => absurd hb List.not_mem_nil)
    exact not_transGen_self (hground.1 a (hground.2.2 ha))
  · intro h
    refine foldlM_isSome (fun visited a ha => ?_) []
    exact visit_isSome hclosed h ha List.nodup_nil (List.nil_subset _)
      (fun b hb => absurd hb List.not_mem_nil) (by rw [List.length_nil]; omega)

/-- The search accepts exactly the graphs without cycles. -/
theorem acyclic_iff {nodes : List α} (hclosed : ∀ a ∈ nodes, deps a ⊆ nodes) :
    acyclic deps nodes = true ↔ ∀ a ∈ nodes, ¬ Relation.TransGen (Below deps) a a :=
  foldlM_visit_isSome_iff hclosed (Nat.lt_succ_self _)

/-! ### The walk with its reason to stop -/

/-- Why a walk stops before it has finished. -/
inductive Stop (α : Type) where
  | cycle (a : α)
  | outOfFuel
deriving DecidableEq

variable (deps) in
/-- The walk from a node, with the reason for which it stops. -/
def walk : ℕ → List α → List α → α → Except (Stop α) (List α)
  | 0, _, _, _ => .error .outOfFuel
  | fuel + 1, visiting, visited, a =>
      if a ∈ visiting then .error (.cycle a)
      else if a ∈ visited then .ok visited
      else do
        let visited ← (deps a).foldlM (walk fuel (a :: visiting)) visited
        return a :: visited

variable (deps) in
/-- The walks from all nodes, one after another. -/
def search (fuel : ℕ) (nodes : List α) : Except (Stop α) (List α) :=
  nodes.foldlM (walk deps fuel []) []

theorem toOption_bind {ε β γ : Type} {x : Except ε β} {f : β → Except ε γ} :
    (x >>= f).toOption = x.toOption.bind fun b => (f b).toOption := by
  cases x with
  | error e | ok b => rfl

omit [DecidableEq α] in
theorem toOption_foldlM {f : List α → α → Except (Stop α) (List α)} {nodes : List α} :
    (nodes.foldlM f visited).toOption = nodes.foldlM (fun v b => (f v b).toOption) visited := by
  induction nodes generalizing visited with
  | nil => rfl
  | cons a nodes ih =>
      rw [List.foldlM_cons, List.foldlM_cons, toOption_bind]
      exact congrArg _ (funext fun v => ih)

/-- Both walks finish the same nodes. -/
theorem toOption_walk :
    (walk deps fuel visiting visited a).toOption = visit deps fuel visiting visited a := by
  induction fuel generalizing visiting visited a with
  | zero => rfl
  | succ fuel ih =>
      unfold walk visit
      split_ifs with hway hdone
      · rfl
      · rfl
      · rw [toOption_bind, toOption_foldlM]
        simp only [ih]
        rfl

omit [DecidableEq α] in
/-- Folding a step that stops for a good reason only stops for a good reason. -/
theorem foldlM_ne_outOfFuel {f : List α → α → Except (Stop α) (List α)} {nodes : List α}
    (hf : ∀ visited, ∀ a ∈ nodes, f visited a ≠ .error .outOfFuel) :
    nodes.foldlM f visited ≠ .error .outOfFuel := by
  induction nodes generalizing visited with
  | nil => exact fun heq => by cases heq
  | cons a nodes ih =>
      have hfirst := hf visited a List.mem_cons_self
      rw [List.foldlM_cons]
      cases hstep : f visited a with
      | error =>
          intro heq
          rw [hstep] at hfirst
          exact hfirst heq
      | ok => exact ih fun v b hb => hf v b (List.mem_cons_of_mem _ hb)

/-- The way to a node holds no node twice, so it never outgrows the known nodes. -/
theorem walk_ne_outOfFuel {known : List α} (hclosed : ∀ a ∈ known, deps a ⊆ known)
    (ha : a ∈ known) (hnodup : visiting.Nodup) (hknown : visiting ⊆ known)
    (hfuel : known.length < fuel + visiting.length) :
    walk deps fuel visiting visited a ≠ .error .outOfFuel := by
  induction fuel generalizing visiting visited a with
  | zero =>
      have hle := (List.subperm_of_subset hnodup hknown).length_le
      omega
  | succ fuel ih =>
      unfold walk
      split_ifs with hway hdone
      · exact fun heq => by cases heq
      · exact fun heq => by cases heq
      · have hwalk := @foldlM_ne_outOfFuel _ visited (walk deps fuel (a :: visiting)) (deps a)
          fun v b hb => ih (hclosed a ha hb) (List.nodup_cons.mpr ⟨hway, hnodup⟩)
            (List.cons_subset.mpr ⟨ha, hknown⟩) (by rw [List.length_cons]; omega)
        cases hdeps : (deps a).foldlM (walk deps fuel (a :: visiting)) visited with
        | error =>
            intro heq
            rw [hdeps] at hwalk
            exact hwalk heq
        | ok => exact fun heq => by cases heq

/-- A walk finishes known nodes that are not on the way, each of them once. -/
structure Grows (known visiting visited visited' : List α) : Prop where
  nodup : visited.Nodup → visited'.Nodup
  sub : visited ⊆ visited'
  fresh : ∀ b ∈ visited', b ∈ visited ∨ b ∈ known ∧ b ∉ visiting

omit [DecidableEq α] in
theorem Grows.refl {known : List α} : Grows known visiting visited visited where
  nodup := id
  sub := fun _ hb => hb
  fresh := fun _ hb => .inl hb

omit [DecidableEq α] in
theorem Grows.trans {known visited'' : List α} (h : Grows known visiting visited visited')
    (h' : Grows known visiting visited' visited'') : Grows known visiting visited visited'' where
  nodup := fun hnodup => h'.nodup (h.nodup hnodup)
  sub := fun _ hb => h'.sub (h.sub hb)
  fresh := by
    intro b hb
    rcases h'.fresh b hb with hmem | hnew
    · exact h.fresh b hmem
    · exact .inr hnew

omit [DecidableEq α] in
/-- A node is finished after what it points to. -/
theorem Grows.cons {known : List α} (h : Grows known (a :: visiting) visited visited')
    (ha : a ∈ known) (hway : a ∉ visiting) (hdone : a ∉ visited) :
    Grows known visiting visited (a :: visited') where
  nodup := by
    intro hnodup
    refine List.nodup_cons.mpr ⟨fun hmem => ?_, h.nodup hnodup⟩
    rcases h.fresh a hmem with hold | ⟨-, hnot⟩
    · exact hdone hold
    · exact hnot List.mem_cons_self
  sub := fun _ hb => List.mem_cons_of_mem _ (h.sub hb)
  fresh := by
    intro b hb
    rcases List.mem_cons.mp hb with rfl | hb
    · exact .inr ⟨ha, hway⟩
    · rcases h.fresh b hb with hold | ⟨hknown, hnot⟩
      · exact .inl hold
      · exact .inr ⟨hknown, fun hmem => hnot (List.mem_cons_of_mem _ hmem)⟩

omit [DecidableEq α] in
theorem foldlM_grows {f : List α → α → Except (Stop α) (List α)} {known nodes : List α}
    (hf : ∀ visited, ∀ a ∈ nodes, ∀ visited', f visited a = .ok visited' →
      Grows known visiting visited visited')
    (h : nodes.foldlM f visited = .ok visited') : Grows known visiting visited visited' := by
  induction nodes generalizing visited with
  | nil =>
      obtain rfl : visited = visited' := Except.ok.inj h
      exact .refl
  | cons a nodes ih =>
      rw [List.foldlM_cons] at h
      cases hstep : f visited a with
      | error =>
          rw [hstep] at h
          cases h
      | ok next =>
          rw [hstep] at h
          have hfirst := hf visited a List.mem_cons_self next hstep
          exact hfirst.trans (ih (fun v b hb => hf v b (List.mem_cons_of_mem _ hb)) h)

theorem walk_grows {known : List α} (hclosed : ∀ a ∈ known, deps a ⊆ known) (ha : a ∈ known)
    (h : walk deps fuel visiting visited a = .ok visited') :
    Grows known visiting visited visited' := by
  induction fuel generalizing visiting visited visited' a with
  | zero => cases h
  | succ fuel ih =>
      unfold walk at h
      split_ifs at h with hway hdone
      · obtain rfl : visited = visited' := Except.ok.inj h
        exact .refl
      · cases hwalk : (deps a).foldlM (walk deps fuel (a :: visiting)) visited with
        | error =>
            rw [hwalk] at h
            cases h
        | ok walked =>
            rw [hwalk] at h
            obtain rfl : a :: walked = visited' := Except.ok.inj h
            have hdeps : Grows known (a :: visiting) visited walked :=
              foldlM_grows (fun v b hb v' hv => ih (hclosed a ha hb) hv) hwalk
            exact hdeps.cons ha hway hdone

section Search

variable {nodes : List α} (hclosed : ∀ a ∈ nodes, deps a ⊆ nodes)
include hclosed

/-- The search ends: its fuel lasts when it is above the number of nodes. -/
theorem search_ne_outOfFuel (hfuel : nodes.length < fuel) :
    search deps fuel nodes ≠ .error .outOfFuel := by
  refine foldlM_ne_outOfFuel fun visited a ha => ?_
  exact walk_ne_outOfFuel hclosed ha List.nodup_nil (List.nil_subset _)
    (by rw [List.length_nil]; omega)

/-- The search finds no cycle exactly where there is none. -/
theorem search_ok_iff (hfuel : nodes.length < fuel) :
    (∃ visited, search deps fuel nodes = .ok visited)
      ↔ ∀ a ∈ nodes, ¬ Relation.TransGen (Below deps) a a := by
  have hsome : (∃ visited, search deps fuel nodes = .ok visited)
      ↔ (nodes.foldlM (visit deps fuel []) []).isSome := by
    have hvisit : (search deps fuel nodes).toOption = nodes.foldlM (visit deps fuel []) [] := by
      unfold search
      rw [toOption_foldlM]
      simp only [toOption_walk]
    rw [← hvisit]
    cases search deps fuel nodes with
    | error stop | ok visited => simp [Except.toOption]
  rw [hsome]
  exact foldlM_visit_isSome_iff hclosed hfuel

/-- A search that finds no cycle has finished every node once. -/
theorem perm_of_search (hnodup : nodes.Nodup) {visited : List α}
    (h : search deps fuel nodes = .ok visited) : visited.Perm nodes := by
  have hgrows : Grows nodes [] [] visited :=
    foldlM_grows (fun v a ha v' hv => walk_grows hclosed ha hv) h
  have hall : nodes ⊆ visited := by
    have hvisit : nodes.foldlM (visit deps fuel []) [] = some visited := by
      have hoption := congrArg Except.toOption h
      unfold search at hoption
      rw [toOption_foldlM] at hoption
      simp only [toOption_walk] at hoption
      exact hoption
    exact (foldlM_grounded (fun v b v' hv hground => visit_grounded hv hground) hvisit
      (fun b hb => absurd hb List.not_mem_nil)).2.2
  refine (List.perm_ext_iff_of_nodup (hgrows.nodup List.nodup_nil) hnodup).mpr fun b => ?_
  constructor
  · intro hb
    rcases hgrows.fresh b hb with hnil | ⟨hknown, -⟩
    · exact absurd hnil List.not_mem_nil
    · exact hknown
  · exact fun hb => hall hb

end Search

end DepthFirst
