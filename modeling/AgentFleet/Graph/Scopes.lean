import AgentFleet.Graph.Seeds

/-! # Scopes of parents and children

What the scope test of single paths and the check of a child's scope against its parent's, which
compares lists of scopes, say about all paths.  Both compare folded components.

`path_scopes` gathers the laws; `authorized_of_validateSeed` is the one about children. -/

namespace AgentFleet

open Checks

variable {casefold : String → String} {path other : String} {allowed forbidden : List String}

/-- A path is below a scope: the components of the scope are the first components of the path. -/
def IsBelow (casefold : String → String) (path scope : String) : Prop :=
  ∃ parts item, components casefold path = some parts ∧ components casefold scope = some item
    ∧ item <+: parts

theorem pathIsWithin_singleton :
    pathIsWithin casefold path [other] = true ↔ IsBelow casefold path other := by
  rw [pathIsWithin_iff]
  constructor
  · rintro ⟨parts, hparts, -, -, scope, hscope, item, hitem, hprefix⟩
    obtain rfl := List.mem_singleton.mp hscope
    exact ⟨parts, item, hparts, hitem, hprefix⟩
  · rintro ⟨parts, item, hparts, hitem, hprefix⟩
    refine ⟨parts, hparts, fun scope hscope => ?_, fun scope hscope => absurd hscope
      List.not_mem_nil, other, List.mem_singleton_self other, item, hitem, hprefix⟩
    obtain rfl := List.mem_singleton.mp hscope
    rw [hitem]
    exact Option.some_ne_none item

/-- A path is authorized by one of the scopes. -/
theorem isBelow_of_pathIsWithin (h : pathIsWithin casefold path allowed forbidden = true) :
    ∃ scope ∈ allowed, IsBelow casefold path scope := by
  obtain ⟨parts, hparts, -, -, scope, hscope, item, hitem, hprefix⟩ := pathIsWithin_iff.mp h
  exact ⟨scope, hscope, parts, item, hparts, hitem, hprefix⟩

/-- No forbidden path is above or below an authorized path. -/
theorem apart_of_pathIsWithin (h : pathIsWithin casefold path allowed forbidden = true)
    (hother : other ∈ forbidden) :
    ¬ IsBelow casefold path other ∧ ¬ IsBelow casefold other path := by
  obtain ⟨parts, hparts, -, hforbidden, -⟩ := pathIsWithin_iff.mp h
  obtain ⟨item, hitem, hapart⟩ := hforbidden other hother
  constructor
  · rintro ⟨parts', item', hparts', hitem', hprefix⟩
    obtain rfl := Option.some.inj (hparts.symm.trans hparts')
    obtain rfl := Option.some.inj (hitem.symm.trans hitem')
    exact hapart (.inr hprefix)
  · rintro ⟨item', parts', hitem', hparts', hprefix⟩
    obtain rfl := Option.some.inj (hparts.symm.trans hparts')
    obtain rfl := Option.some.inj (hitem.symm.trans hitem')
    exact hapart (.inl hprefix)

/-- What the check of a seed compares of the scopes. -/
theorem scopes_of_validateSeed {parent : RunRecord} {task : TaskRecord} {node : FleetPlanNode}
    {seed : GraphSeed} (h : validateSeed casefold parent task node seed = .ok ()) :
    seed.task.forbiddenPaths = task.forbiddenPaths
      ∧ ∀ scope ∈ seed.task.allowedPaths,
        pathIsWithin casefold scope task.allowedPaths task.forbiddenPaths = true := by
  unfold validateSeed at h
  rw [refuse_bind_ok, not_or] at h
  obtain ⟨⟨-, hbound⟩, -⟩ := h
  unfold taskUnbound at hbound
  push Not at hbound
  obtain ⟨-, -, -, hforbidden, -, hwithin, -⟩ := hbound
  exact ⟨hforbidden, fun scope hscope => Bool.not_eq_false _ ▸ hwithin scope hscope⟩

/-- What a child of an accepted seed may touch, its parent may touch. -/
theorem authorized_of_validateSeed {parent : RunRecord} {task : TaskRecord}
    {node : FleetPlanNode} {seed : GraphSeed}
    (h : validateSeed casefold parent task node seed = .ok ())
    (hpath : pathIsWithin casefold path seed.task.allowedPaths seed.task.forbiddenPaths = true) :
    pathIsWithin casefold path task.allowedPaths task.forbiddenPaths = true := by
  obtain ⟨hforbidden, hwithin⟩ := scopes_of_validateSeed h
  have halone : pathIsWithin casefold path seed.task.allowedPaths = true := by
    obtain ⟨parts, hparts, hscopes, -, hbelow⟩ := pathIsWithin_iff.mp hpath
    exact pathIsWithin_iff.mpr ⟨parts, hparts, hscopes, fun _ hnone => absurd hnone
      List.not_mem_nil, hbelow⟩
  exact pathIsWithin_trans hwithin halone

/-- The laws of scopes: a path is authorized component by component, never with or above a forbidden
path, and never for a child alone. -/
theorem path_scopes (casefold : String → String) :
    (∀ path scope, pathIsWithin casefold path [scope] = true ↔ IsBelow casefold path scope)
      ∧ (∀ path allowed forbidden, pathIsWithin casefold path allowed forbidden = true →
        ∃ scope ∈ allowed, IsBelow casefold path scope)
      ∧ (∀ path allowed forbidden other, other ∈ forbidden → IsBelow casefold path other →
        pathIsWithin casefold path allowed forbidden = false)
      ∧ (∀ path allowed forbidden other, other ∈ forbidden → IsBelow casefold other path →
        pathIsWithin casefold path allowed forbidden = false)
      ∧ ∀ (parent : RunRecord) (task : TaskRecord) (node : FleetPlanNode) (seed : GraphSeed),
        validateSeed casefold parent task node seed = .ok () →
        ∀ path, pathIsWithin casefold path seed.task.allowedPaths seed.task.forbiddenPaths = true →
          pathIsWithin casefold path task.allowedPaths task.forbiddenPaths = true := by
  refine ⟨fun path scope => pathIsWithin_singleton, fun path allowed forbidden h =>
    isBelow_of_pathIsWithin h, ?_, ?_, fun parent task node seed h path hpath =>
      authorized_of_validateSeed h hpath⟩
  · intro path allowed forbidden other hother hbelow
    exact Bool.eq_false_iff.mpr fun h => (apart_of_pathIsWithin h hother).1 hbelow
  · intro path allowed forbidden other hother hbelow
    exact Bool.eq_false_iff.mpr fun h => (apart_of_pathIsWithin h hother).2 hbelow

end AgentFleet
