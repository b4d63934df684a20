import AgentFleet.Domain.FleetPlan
import AgentFleet.Lib.Checks
import Mathlib.Data.List.Pairwise

/-! # Isolation of the writers

What an accepted plan guarantees.  `Accepted` is what the checks find about the scopes and the
order of the nodes; the guarantees about all paths and about chains of dependencies follow from
it and from the validators of `FleetPlan`. -/

namespace AgentFleet

open Checks

variable {casefold : String → String} {plan : FleetPlan} {task : TaskSpec}

/-! ### Dependencies -/

variable {left right node : FleetPlanNode} {u : Unit} {role : AgentRole}

theorem FleetPlan.eq_of_nodeId (hleft : left ∈ plan.nodes) (hright : right ∈ plan.nodes)
    (h : left.nodeId = right.nodeId) : left = right :=
  List.inj_on_of_nodup_map plan.uniqueNodeIds hleft hright h

theorem FleetPlan.dependenciesIn_eq (h : node ∈ plan.nodes) :
    dependenciesIn plan.nodes node.nodeId = node.dependsOn := by
  unfold dependenciesIn
  cases hfound : plan.nodes.find? fun other => other.nodeId = node.nodeId with
  | none =>
      have hall := List.find?_eq_none.mp hfound node h
      exact absurd (decide_eq_true rfl) hall
  | some =>
      have hid := List.find?_some hfound
      rw [decide_eq_true_eq] at hid
      rw [plan.eq_of_nodeId (List.mem_of_find?_eq_some hfound) h hid]

theorem FleetPlan.DependsOn.below {nodeId dependency : String}
    (h : plan.DependsOn nodeId dependency) :
    DepthFirst.Below (dependenciesIn plan.nodes) dependency nodeId := by
  obtain ⟨node, hnode, rfl, hdependency⟩ := h
  unfold DepthFirst.Below
  rw [plan.dependenciesIn_eq hnode]
  exact hdependency

/-- No node waits for itself, directly or through others. -/
theorem FleetPlan.not_dependsOn_self (plan : FleetPlan) (nodeId : String) :
    ¬ Relation.TransGen plan.DependsOn nodeId nodeId := by
  have hclosed : ∀ id ∈ plan.nodes.map FleetPlanNode.nodeId,
      dependenciesIn plan.nodes id ⊆ plan.nodes.map FleetPlanNode.nodeId := by
    intro id hid
    obtain ⟨node, hnode, rfl⟩ := List.mem_map.mp hid
    rw [plan.dependenciesIn_eq hnode]
    exact plan.knownDependencies node hnode
  have hacyclic := (DepthFirst.acyclic_iff hclosed).mp plan.acyclic
  intro hcycle
  have hknown : nodeId ∈ plan.nodes.map FleetPlanNode.nodeId := by
    obtain ⟨_, ⟨node, hnode, hid, -⟩, -⟩ := Relation.TransGen.head'_iff.mp hcycle
    exact List.mem_map.mpr ⟨node, hnode, hid⟩
  refine hacyclic nodeId hknown ?_
  have hbelow : Relation.TransGen (Function.swap (DepthFirst.Below (dependenciesIn plan.nodes)))
      nodeId nodeId := hcycle.lift id fun _ _ hdepends => hdepends.below
  exact Relation.transGen_swap.mp hbelow

/-! ### What the checks find -/

@[simp] theorem planCheck_ok {c : Prop} [Decidable c] {message : String} :
    planCheck c message = .ok u ↔ ¬ c := by
  unfold planCheck
  split_ifs with h
  · simp [h]
  · simp [h]

theorem mem_writers :
    node ∈ plan.writers ↔ node ∈ plan.nodes ∧ node.canWrite = true := List.mem_filter

theorem mem_verifiers :
    node ∈ plan.verifiers ↔ node ∈ plan.nodes ∧ node.independentVerifier = true :=
  List.mem_filter

/-- Every verifier waits for every writer. -/
def FleetPlan.Ordered (plan : FleetPlan) : Prop :=
  ∀ verifier ∈ plan.verifiers, ∀ writer ∈ plan.writers, writer.nodeId ∈ verifier.dependsOn

/-- What an accepted plan's scopes and order are. -/
structure Accepted (casefold : String → String) (plan : FleetPlan) (task : TaskSpec) : Prop where
  within : ∀ node ∈ plan.nodes, node.canWrite = true ∨ node.independentVerifier = true →
    ∀ path ∈ node.scope,
      pathIsWithin casefold path task.allowedPaths task.forbiddenPaths = true
  readOnly : ∀ verifier ∈ plan.verifiers, verifier.canWrite = false
  ordered : plan.Ordered
  apart : plan.writers.Pairwise fun left right =>
    scopesOverlap casefold left.scope right.scope = false

theorem within_of_not_outside (h : ¬ outsideTask casefold task node) {path : String}
    (hpath : path ∈ node.scope) :
    pathIsWithin casefold path task.allowedPaths task.forbiddenPaths = true := by
  rw [← Bool.not_eq_false]
  exact fun hfalse => h ⟨path, hpath, hfalse⟩

theorem checkOverlaps_ok {writers : List FleetPlanNode}
    (h : checkOverlaps casefold writers = .ok u) :
    writers.Pairwise fun left right => scopesOverlap casefold left.scope right.scope = false := by
  induction writers with
  | nil => exact .nil
  | cons left rest ih =>
      simp only [checkOverlaps, bind_ok, forM_ok, planCheck_ok, Bool.not_eq_true] at h
      obtain ⟨_, hfirst, hrest⟩ := h
      exact List.pairwise_cons.mpr ⟨hfirst, ih hrest⟩

theorem checkSingleEngineer_ordered (h : checkSingleEngineer plan = .ok u) : plan.Ordered := by
  simp only [checkSingleEngineer, planCheck_ok, not_or, not_not] at h
  obtain ⟨-, -, hnone, -⟩ := h
  intro verifier hverifier
  rw [hnone] at hverifier
  exact absurd hverifier List.not_mem_nil

theorem checkEngineerVerifier_ordered (h : checkEngineerVerifier plan task = .ok u) :
    plan.Ordered := by
  simp only [checkEngineerVerifier, bind_ok, planCheck_ok, not_or, not_not] at h
  obtain ⟨_, -, _, ⟨hwriters, hverifiers, -⟩, hchain⟩ := h
  intro verifier hverifier writer hwriter
  obtain ⟨first, hfirst⟩ := List.length_eq_one_iff.mp hwriters
  obtain ⟨last, hlast⟩ := List.length_eq_one_iff.mp hverifiers
  rw [hfirst, List.mem_singleton] at hwriter
  rw [hlast, List.mem_singleton] at hverifier
  subst hwriter hverifier
  by_contra hmissing
  refine hchain ⟨writer, ?_, verifier, ?_, .inr (.inr hmissing)⟩
  · rw [hfirst]
    rfl
  · rw [hlast]
    rfl

theorem checkParallelEngineers_ordered (h : checkParallelEngineers plan task = .ok u) :
    plan.Ordered := by
  simp only [checkParallelEngineers, bind_ok, planCheck_ok] at h
  obtain ⟨_, -, _, -, _, -, _, -, _, hcovered, -⟩ := h
  intro verifier hverifier writer hwriter
  by_contra hmissing
  exact hcovered ⟨verifier, hverifier, fun hsub =>
    hmissing (hsub (List.mem_map_of_mem hwriter))⟩

/-- The authority of a node's kind. -/
theorem checkAuthority_ok (h : checkAuthority node = .ok u) :
    (node.canWrite = true ↔ node.effectiveKind = some .engineer)
      ∧ (node.independentVerifier = true ↔ node.effectiveKind = some .verifier) := by
  simp only [checkAuthority, planCheck_ok, not_or, ne_eq, not_not] at h
  obtain ⟨-, hwrite, hverify⟩ := h
  rw [hwrite, hverify, decide_eq_true_eq, decide_eq_true_eq]
  exact ⟨Iff.rfl, Iff.rfl⟩

/-- In a plan with as many nodes as roles, all of which occur, a role has one node. -/
theorem eq_of_kind (hroles : specialistRoles ⊆ plan.nodes.filterMap FleetPlanNode.effectiveKind)
    (hlen : plan.nodes.length = specialistRoles.length) (hleft : left ∈ plan.nodes)
    (hright : right ∈ plan.nodes) (hl : left.effectiveKind = some role)
    (hr : right.effectiveKind = some role) : left = right := by
  have hsub := List.subperm_of_subset (by decide : specialistRoles.Nodup) hroles
  have hle : (plan.nodes.filterMap FleetPlanNode.effectiveKind).length
      ≤ specialistRoles.length := by
    rw [← hlen]
    exact List.length_filterMap_le _ _
  have hnodup : (plan.nodes.filterMap FleetPlanNode.effectiveKind).Nodup :=
    (hsub.perm_of_length_le hle).nodup_iff.mp (by decide)
  have hpairs := List.pairwise_filterMap.mp hnodup
  have : Std.Symm fun a b : FleetPlanNode => ∀ x, a.effectiveKind = some x → ∀ y,
      b.effectiveKind = some y → x ≠ y := ⟨fun _ _ hab x hx y hy => (hab y hy x hx).symm⟩
  by_contra hne
  exact hpairs.forall hleft hright hne role hl role hr rfl

theorem byRole_eq (hroles : specialistRoles ⊆ plan.nodes.filterMap FleetPlanNode.effectiveKind)
    (hlen : plan.nodes.length = specialistRoles.length) (hnode : node ∈ plan.nodes)
    (hkind : node.effectiveKind = some role) : plan.byRole role = some node := by
  have hmem : node ∈ plan.nodes.filter fun other => other.effectiveKind = some role :=
    List.mem_filter.mpr ⟨hnode, decide_eq_true hkind⟩
  unfold FleetPlan.byRole
  cases hlast : (plan.nodes.filter fun other => other.effectiveKind = some role).getLast? with
  | none =>
      rw [List.getLast?_eq_none_iff] at hlast
      rw [hlast] at hmem
      exact absurd hmem List.not_mem_nil
  | some =>
      obtain ⟨hother, hkind'⟩ := List.mem_filter.mp (List.mem_of_getLast? hlast)
      rw [eq_of_kind hroles hlen hother hnode (of_decide_eq_true hkind') hkind]

theorem checkSpecialists_ordered (h : checkSpecialists plan task = .ok u)
    (hauthority : ∀ node ∈ plan.nodes, checkAuthority node = .ok ()) : plan.Ordered := by
  simp only [checkSpecialists, bind_ok, planCheck_ok, not_or, not_not] at h
  obtain ⟨_, -, _, ⟨⟨-, hroles⟩, hlen⟩, _, hchain, -⟩ := h
  have hfind : ∀ role ∈ specialistRoles, ∃ node ∈ plan.nodes, node.effectiveKind = some role :=
    fun role hrole => List.mem_filterMap.mp (hroles hrole)
  obtain ⟨researcher, hresearcher, hkind₁⟩ := hfind .researcher (by decide)
  obtain ⟨architect, harchitect, hkind₂⟩ := hfind .architect (by decide)
  intro verifier hverifier writer hwriter
  obtain ⟨hverifier, hindependent⟩ := mem_verifiers.mp hverifier
  obtain ⟨hwriter, hwrites⟩ := mem_writers.mp hwriter
  have hkind₃ := (checkAuthority_ok (hauthority writer hwriter)).1.mp hwrites
  have hkind₄ := (checkAuthority_ok (hauthority verifier hverifier)).2.mp hindependent
  have hbroken : ¬ chainBroken plan researcher architect writer verifier := fun hbroken =>
    hchain ⟨researcher, byRole_eq hroles hlen hresearcher hkind₁, architect,
      byRole_eq hroles hlen harchitect hkind₂, writer, byRole_eq hroles hlen hwriter hkind₃,
      verifier, byRole_eq hroles hlen hverifier hkind₄, hbroken⟩
  simp only [chainBroken, not_or, ne_eq, not_not] at hbroken
  obtain ⟨-, -, -, -, -, -, -, -, -, -, -, hdepends, -, -⟩ := hbroken
  rw [hdepends]
  exact List.mem_singleton.mpr rfl

theorem checkCodeChange_accepted (hstrategy : plan.strategy ≠ .direct)
    (h : checkCodeChange casefold plan task = .ok u) : Accepted casefold plan task := by
  simp only [checkCodeChange, checkWriter, checkVerifier, bind_ok, forM_ok, planCheck_ok,
    not_or] at h
  obtain ⟨_, -, _, -, _, hwriters, _, hverifiers, _, hordered, _, hauthority, hoverlaps⟩ := h
  constructor
  · rintro node hnode (hwrites | hverifies) path hpath
    · obtain ⟨_, -, hinside⟩ := hwriters node (mem_writers.mpr ⟨hnode, hwrites⟩)
      exact within_of_not_outside hinside hpath
    · obtain ⟨_, -, hinside⟩ := hverifiers node (mem_verifiers.mpr ⟨hnode, hverifies⟩)
      exact within_of_not_outside hinside hpath
  · intro verifier hverifier
    obtain ⟨_, ⟨hreadOnly, -⟩, -⟩ := hverifiers verifier hverifier
    exact Bool.not_eq_true _ ▸ hreadOnly
  · unfold checkStrategy at hordered
    generalize hs : plan.strategy = strategy at hordered hstrategy
    cases strategy with
    | direct => exact absurd rfl hstrategy
    | singleEngineer => exact checkSingleEngineer_ordered hordered
    | engineerVerifier => exact checkEngineerVerifier_ordered hordered
    | parallelEngineers => exact checkParallelEngineers_ordered hordered
    | researchArchitectEngineerVerifier => exact checkSpecialists_ordered hordered hauthority
  · exact checkOverlaps_ok hoverlaps

theorem checkDirect_accepted (h : checkDirect plan task = .ok u) : Accepted casefold plan task := by
  simp only [checkDirect, bind_ok, planCheck_ok, not_or, not_not] at h
  obtain ⟨_, ⟨-, hnodes, -⟩, -⟩ := h
  have hnone : ∀ p : FleetPlanNode → Bool, plan.nodes.filter p = [] := by
    intro p
    rw [hnodes]
    rfl
  constructor
  · intro node hnode
    rw [hnodes] at hnode
    exact absurd hnode List.not_mem_nil
  · intro verifier hverifier
    rw [FleetPlan.verifiers, hnone] at hverifier
    exact absurd hverifier List.not_mem_nil
  · intro verifier hverifier
    rw [FleetPlan.verifiers, hnone] at hverifier
    exact absurd hverifier List.not_mem_nil
  · rw [FleetPlan.writers, hnone]
    exact .nil

theorem accepted_of_validate {knownRoles : Option (List String)}
    (h : validateFleetPlan casefold plan task knownRoles = .ok u) :
    Accepted casefold plan task := by
  simp only [validateFleetPlan, bind_ok] at h
  obtain ⟨_, -, _, -, _, -, _, -, _, -, _, -, h⟩ := h
  split_ifs at h with hdirect
  · exact checkDirect_accepted h
  · exact checkCodeChange_accepted hdirect h

/-! ### Guarantees -/

theorem scopesOverlap_eq_false {left right : List String}
    (h : scopesOverlap casefold left right = false) {leftValue rightValue : String}
    (hleft : leftValue ∈ left) (hright : rightValue ∈ right) :
    ¬ Comparable (foldPath casefold (PurePosixPath.parse leftValue))
      (foldPath casefold (PurePosixPath.parse rightValue)) := by
  intro hcomparable
  have hoverlap : scopesOverlap casefold left right = true := by
    refine List.any_eq_true.mpr ⟨leftValue, hleft, ?_⟩
    refine List.any_eq_true.mpr ⟨rightValue, hright, ?_⟩
    dsimp only
    rw [Bool.or_eq_true, Bool.or_eq_true, startsWith_iff, startsWith_iff]
    rcases hcomparable with hprefix | hprefix
    · exact .inr hprefix
    · exact .inl (.inr hprefix)
  rw [h] at hoverlap
  exact Bool.noConfusion hoverlap

/-- No path is within scopes that do not overlap. -/
theorem not_within_both {left right : List String}
    (h : scopesOverlap casefold left right = false) (path : String)
    (forbidden forbidden' : List String) :
    ¬ (pathIsWithin casefold path left forbidden = true
      ∧ pathIsWithin casefold path right forbidden' = true) := by
  rintro ⟨hleft, hright⟩
  obtain ⟨parts, hparts, -, -, scope, hscope, item, hitem, hprefix⟩ := pathIsWithin_iff.mp hleft
  obtain ⟨_, hparts', -, -, scope', hscope', item', hitem', hprefix'⟩ :=
    pathIsWithin_iff.mp hright
  obtain rfl := Option.some.inj (hparts.symm.trans hparts')
  have hapart := scopesOverlap_eq_false h hscope hscope'
  rw [← components_eq hitem, ← components_eq hitem'] at hapart
  exact hapart (comparable_of_startsWith hprefix hprefix')

/-- In an accepted plan: no path is authorized for two writers; whatever a writer or a verifier
is authorized for, the task allows; every independent verifier is read-only and depends on every
writer; and no node depends on itself through others. -/
theorem writer_isolation (casefold : String → String) (plan : FleetPlan) (task : TaskSpec)
    (knownRoles : Option (List String))
    (h : validateFleetPlan casefold plan task knownRoles = .ok ()) :
    (∀ left ∈ plan.nodes, ∀ right ∈ plan.nodes, left.canWrite = true → right.canWrite = true →
        left ≠ right → ∀ (path : String) (forbidden : List String),
          ¬ (pathIsWithin casefold path left.scope forbidden = true
            ∧ pathIsWithin casefold path right.scope forbidden = true))
      ∧ (∀ node ∈ plan.nodes, node.canWrite = true ∨ node.independentVerifier = true →
        ∀ path : String, pathIsWithin casefold path node.scope = true →
          pathIsWithin casefold path task.allowedPaths task.forbiddenPaths = true)
      ∧ (∀ verifier ∈ plan.nodes, verifier.independentVerifier = true →
        verifier.canWrite = false ∧ ∀ writer ∈ plan.nodes, writer.canWrite = true →
          Relation.TransGen plan.DependsOn verifier.nodeId writer.nodeId)
      ∧ ∀ nodeId : String, ¬ Relation.TransGen plan.DependsOn nodeId nodeId := by
  have haccepted := accepted_of_validate h
  refine ⟨?_, ?_, ?_, plan.not_dependsOn_self⟩
  · intro left hleft right hright hwrites hwrites' hne path forbidden
    have hsymm : ∀ a b : FleetPlanNode,
        (∀ path, ¬ (pathIsWithin casefold path a.scope forbidden = true
          ∧ pathIsWithin casefold path b.scope forbidden = true)) →
        ∀ path, ¬ (pathIsWithin casefold path b.scope forbidden = true
          ∧ pathIsWithin casefold path a.scope forbidden = true) :=
      fun _ _ hab path hboth => hab path hboth.symm
    have hpairs := haccepted.apart.imp fun hapart => fun path =>
      not_within_both hapart path forbidden forbidden
    have : Std.Symm fun a b : FleetPlanNode =>
        ∀ path, ¬ (pathIsWithin casefold path a.scope forbidden = true
          ∧ pathIsWithin casefold path b.scope forbidden = true) := ⟨hsymm⟩
    exact hpairs.forall (mem_writers.mpr ⟨hleft, hwrites⟩) (mem_writers.mpr ⟨hright, hwrites'⟩)
      hne path
  · intro node hnode hauthority path hpath
    exact pathIsWithin_trans (haccepted.within node hnode hauthority) hpath
  · intro verifier hverifier hindependent
    have hmem := mem_verifiers.mpr ⟨hverifier, hindependent⟩
    refine ⟨haccepted.readOnly verifier hmem, fun writer hwriter hwrites => .single ?_⟩
    exact ⟨verifier, hverifier, rfl,
      haccepted.ordered verifier hmem writer (mem_writers.mpr ⟨hwriter, hwrites⟩)⟩

/-! ### A plan with two writers -/

/-- The engineer of the parser. -/
def parserNode : FleetPlanNode where
  nodeId := "parser"
  roleId := "engineer"
  scope := ["src/parser"]
  canWrite := true
  requiresWorkspace := true

/-- The engineer of the printer. -/
def printerNode : FleetPlanNode where
  nodeId := "printer"
  roleId := "engineer"
  scope := ["src/printer"]
  canWrite := true
  requiresWorkspace := true

/-- The verifier of both. -/
def checkNode : FleetPlanNode where
  nodeId := "check"
  roleId := "verifier"
  dependsOn := ["parser", "printer"]
  scope := ["src"]
  requiresWorkspace := true
  independentVerifier := true

/-- Two engineers with scopes of their own and a verifier that waits for both. -/
def samplePlan : FleetPlan where
  planId := "plan_1"
  runId := "run_1"
  taskId := "task_1"
  strategy := .parallelEngineers
  nodes := [parserNode, printerNode, checkNode]
  maxParallelAgents := 2
  requiredEvidence := ["canonical_patch", "command_evidence", "independent_verifier_verdict"]
  rationale := "The parser and the printer are apart."
  createdAt := 0
  uniqueNodeIds := by decide
  knownDependencies := by decide
  acyclic := by decide

/-- The task of the plan. -/
def samplePlanTask : TaskSpec where
  taskId := "task_1"
  runId := "run_1"
  allowedPaths := ["src"]
  forbiddenPaths := ["docs"]
  acceptanceCriteria := ["criterion_1"]
  requiredEvidence := ["canonical_patch", "command_evidence", "independent_verifier_verdict"]

theorem writer_isolation_samplePlan :
    validateFleetPlan id samplePlan samplePlanTask none = .ok ()
      ∧ ∀ path : String, ¬ (pathIsWithin id path ["src/parser"] ["docs"] = true
        ∧ pathIsWithin id path ["src/printer"] ["docs"] = true) := by
  refine ⟨rfl, fun path => ?_⟩
  have hisolated := writer_isolation id samplePlan samplePlanTask none rfl
  exact hisolated.1 parserNode (by decide) printerNode (by decide) rfl rfl (by decide) path
    ["docs"]

end AgentFleet
