import AgentFleet.Domain.Isolation
import AgentFleet.Domain.RunRecords

/-! # The shape of a plan

What constructing the nodes of a plan and the plan itself checks, apart from the task.

`_reject_cycles` walks the dependencies in the order in which a set is iterated, so that order is a
parameter here.  `rejectCycles_decides` says that the walk ends in every order, raises exactly where
nodes wait for themselves, and finishes every node otherwise. -/

namespace AgentFleet

/-! ### Nodes -/

/-- A path of a plan's scope: `PlanScopePath` and `validate_scope`. -/
def planScopeValid (value : String) : Prop :=
  let path := PurePosixPath.parse value
  value ≠ "" ∧ value.toList.length ≤ 4096 ∧ '\x00' ∉ value.toList
    ∧ ¬ path.isAbsolute ∧ '\\' ∉ value.toList ∧ ".." ∉ path.parts ∧ path.str = value
deriving Decidable

/-- What constructing a `FleetPlanNode` checks. -/
structure FleetPlanNode.Validates (casefold : String → String) (node : FleetPlanNode) : Prop where
  nodeId : isLowerIdentifier 64 node.nodeId = true
  roleId : isLowerIdentifier 64 node.roleId = true
  goal : ∀ goal ∈ node.goal, isBoundedText 8192 goal = true
  criteria : (∀ criterion ∈ node.criterionIds, isLowerIdentifier 100 criterion = true)
    ∧ node.criterionIds.length ≤ 128 ∧ node.criterionIds.Nodup
  dependencies : node.dependsOn.length ≤ 16 ∧ node.dependsOn.Nodup
  scope : (∀ value ∈ node.scope, planScopeValid value) ∧ node.scope.length ≤ 128
    ∧ (node.scope.map (foldedParts casefold)).Nodup
  steps : 1 ≤ node.maxSteps ∧ node.maxSteps ≤ 100

instance (casefold : String → String) (node : FleetPlanNode) :
    Decidable (node.Validates casefold) :=
  decidable_of_iff (isLowerIdentifier 64 node.nodeId = true
      ∧ isLowerIdentifier 64 node.roleId = true
      ∧ (∀ goal ∈ node.goal, isBoundedText 8192 goal = true)
      ∧ ((∀ criterion ∈ node.criterionIds, isLowerIdentifier 100 criterion = true)
        ∧ node.criterionIds.length ≤ 128 ∧ node.criterionIds.Nodup)
      ∧ (node.dependsOn.length ≤ 16 ∧ node.dependsOn.Nodup)
      ∧ ((∀ value ∈ node.scope, planScopeValid value) ∧ node.scope.length ≤ 128
        ∧ (node.scope.map (foldedParts casefold)).Nodup)
      ∧ 1 ≤ node.maxSteps ∧ node.maxSteps ≤ 100)
    ⟨fun ⟨h₁, h₂, h₃, h₄, h₅, h₆, h₇⟩ => ⟨h₁, h₂, h₃, h₄, h₅, h₆, h₇⟩,
      fun ⟨h₁, h₂, h₃, h₄, h₅, h₆, h₇⟩ => ⟨h₁, h₂, h₃, h₄, h₅, h₆, h₇⟩⟩

/-! ### Cycles -/

/-- Nodes with their own names, whose dependencies are nodes. -/
structure DeclaredNodes where
  nodes : List FleetPlanNode
  uniqueNodeIds : (nodes.map FleetPlanNode.nodeId).Nodup
  knownDependencies : ∀ node ∈ nodes, node.dependsOn ⊆ nodes.map FleetPlanNode.nodeId

/-- A node waits for another. -/
def DeclaredNodes.DependsOn (graph : DeclaredNodes) (nodeId dependency : String) : Prop :=
  ∃ node ∈ graph.nodes, node.nodeId = nodeId ∧ dependency ∈ node.dependsOn

/-- How `for value in set(values)` goes through the values: each of them once, in some order. -/
structure SetOrder where
  iterate : List String → List String
  nodup : ∀ values, (iterate values).Nodup
  mem_iterate : ∀ values value, value ∈ iterate values ↔ value ∈ values

/-- `_reject_cycles` with the set that `visited` is at its end; a cycle is its `ValueError`. -/
def traverseDependencies (order : SetOrder) (fuel : ℕ) (nodes : List FleetPlanNode) :
    Except (DepthFirst.Stop String) (List String) :=
  DepthFirst.search (fun nodeId => order.iterate (dependenciesIn nodes nodeId)) fuel
    (nodes.map FleetPlanNode.nodeId)

variable {graph : DeclaredNodes} {order : SetOrder} {fuel : ℕ}

theorem DeclaredNodes.dependenciesIn_eq {node : FleetPlanNode} (h : node ∈ graph.nodes) :
    dependenciesIn graph.nodes node.nodeId = node.dependsOn := by
  unfold dependenciesIn
  cases hfound : graph.nodes.find? fun other => other.nodeId = node.nodeId with
  | none =>
      have hall := List.find?_eq_none.mp hfound node h
      exact absurd (decide_eq_true rfl) hall
  | some =>
      have hid := List.find?_some hfound
      rw [decide_eq_true_eq] at hid
      have hsame := List.inj_on_of_nodup_map graph.uniqueNodeIds (List.mem_of_find?_eq_some hfound)
        h hid
      rw [hsame]

theorem DeclaredNodes.below_iff {nodeId dependency : String} :
    DepthFirst.Below (fun id => order.iterate (dependenciesIn graph.nodes id)) dependency nodeId
      ↔ graph.DependsOn nodeId dependency := by
  unfold DepthFirst.Below DeclaredNodes.DependsOn
  rw [order.mem_iterate]
  constructor
  · intro h
    unfold dependenciesIn at h
    cases hfound : graph.nodes.find? fun other => other.nodeId = nodeId with
    | none =>
        rw [hfound] at h
        exact absurd h List.not_mem_nil
    | some node =>
        rw [hfound] at h
        have hid := List.find?_some hfound
        exact ⟨node, List.mem_of_find?_eq_some hfound, of_decide_eq_true hid, h⟩
  · rintro ⟨node, hnode, rfl, hmem⟩
    rw [graph.dependenciesIn_eq hnode]
    exact hmem

theorem DeclaredNodes.closed : ∀ id ∈ graph.nodes.map FleetPlanNode.nodeId,
    order.iterate (dependenciesIn graph.nodes id) ⊆ graph.nodes.map FleetPlanNode.nodeId := by
  intro id hid dependency hmem
  obtain ⟨node, hnode, rfl⟩ := List.mem_map.mp hid
  rw [order.mem_iterate, graph.dependenciesIn_eq hnode] at hmem
  exact graph.knownDependencies node hnode hmem

/-- A cycle of the walk is a cycle of the dependencies. -/
theorem DeclaredNodes.transGen_iff {nodeId : String} :
    Relation.TransGen
        (DepthFirst.Below fun id => order.iterate (dependenciesIn graph.nodes id)) nodeId nodeId
      ↔ Relation.TransGen graph.DependsOn nodeId nodeId := by
  rw [← Relation.transGen_swap]
  have hsame : Function.swap
      (DepthFirst.Below fun id => order.iterate (dependenciesIn graph.nodes id))
      = graph.DependsOn := by
    funext left right
    exact propext graph.below_iff
  rw [hsame]

/-- A node that waits for itself is one of the nodes. -/
theorem DeclaredNodes.mem_of_cycle {nodeId : String}
    (h : Relation.TransGen graph.DependsOn nodeId nodeId) :
    nodeId ∈ graph.nodes.map FleetPlanNode.nodeId := by
  obtain ⟨_, ⟨node, hnode, hid, -⟩, -⟩ := Relation.TransGen.head'_iff.mp h
  exact List.mem_map.mpr ⟨node, hnode, hid⟩

/-- The traversal ends, raises exactly where nodes wait for themselves, and visits every node. -/
theorem rejectCycles_decides (graph : DeclaredNodes) (order : SetOrder) (fuel : ℕ)
    (hfuel : graph.nodes.length < fuel) :
    traverseDependencies order fuel graph.nodes ≠ .error .outOfFuel
      ∧ ((∃ nodeId, traverseDependencies order fuel graph.nodes = .error (.cycle nodeId))
        ↔ ∃ nodeId, Relation.TransGen graph.DependsOn nodeId nodeId)
      ∧ ∀ visited, traverseDependencies order fuel graph.nodes = .ok visited →
        visited.Perm (graph.nodes.map FleetPlanNode.nodeId) := by
  have hlength : (graph.nodes.map FleetPlanNode.nodeId).length < fuel := by
    rw [List.length_map]
    exact hfuel
  have hends := DepthFirst.search_ne_outOfFuel (@DeclaredNodes.closed graph order) hlength
  have haccepts := DepthFirst.search_ok_iff (@DeclaredNodes.closed graph order) hlength
  refine ⟨hends, ?_, fun visited h => DepthFirst.perm_of_search graph.closed graph.uniqueNodeIds h⟩
  unfold traverseDependencies
  constructor
  · rintro ⟨stopped, hstop⟩
    by_contra hnone
    obtain ⟨visited, hok⟩ := haccepts.mpr fun nodeId _ hcycle =>
      hnone ⟨nodeId, graph.transGen_iff.mp hcycle⟩
    rw [hstop] at hok
    cases hok
  · rintro ⟨nodeId, hcycle⟩
    cases hresult : DepthFirst.search
        (fun id => order.iterate (dependenciesIn graph.nodes id)) fuel
        (graph.nodes.map FleetPlanNode.nodeId) with
    | ok visited =>
        have hacyclic := haccepts.mp ⟨visited, hresult⟩ nodeId (graph.mem_of_cycle hcycle)
        exact absurd (graph.transGen_iff.mpr hcycle) hacyclic
    | error stop =>
        cases stop with
        | outOfFuel => exact absurd hresult hends
        | cycle stopped => exact ⟨stopped, rfl⟩

/-- Two nodes that wait for each other, behind a first node that waits for nobody. -/
def hiddenCycle : DeclaredNodes where
  nodes := [{ parserNode with nodeId := "first" },
    { parserNode with nodeId := "left", dependsOn := ["right"] },
    { parserNode with nodeId := "right", dependsOn := ["first", "left"] }]
  uniqueNodeIds := by decide
  knownDependencies := by decide

/-- Sets that are iterated in the order of their lists. -/
def listedOrder : SetOrder where
  iterate := List.dedup
  nodup := List.nodup_dedup
  mem_iterate := fun _ _ => List.mem_dedup

theorem rejectCycles_decides_hiddenCycle :
    traverseDependencies listedOrder 4 hiddenCycle.nodes = .error (.cycle "left")
      ∧ ∃ nodeId, Relation.TransGen hiddenCycle.DependsOn nodeId nodeId :=
  ⟨rfl, (rejectCycles_decides hiddenCycle listedOrder 4 (by decide)).2.1.mp ⟨"left", rfl⟩⟩

end AgentFleet
