import AgentFleet.Domain.PlanShape
import AgentFleet.Domain.RoleTemplates
import Mathlib.Data.String.Basic

/-! # The planner

`FleetPlanner.create` builds a plan from a strategy, the assignments of the writers and the reviewed
roles, and holds it against the task and the role templates before it returns it.  How a summary is
trimmed is up to the validation library, so it is a parameter.

`FleetPlanner.create_sound` says what is true of every plan that is returned, and that the order of
the assignments does not matter to it; what is refused does not depend on it either
(`draftPlan_perm`). -/

namespace AgentFleet

open Checks
open Configuration (ResolvedRoleTemplate Mapping)

/-! ### Assignments -/

/-- `WriterAssignment`. -/
structure WriterAssignment where
  nodeId : String
  roleId : Option String := none
  goal : String
  scope : List String
  criterionIds : List String
deriving DecidableEq

/-- What constructing a `WriterAssignment` checks. -/
structure WriterAssignment.Validates (casefold : String → String) (assignment : WriterAssignment) :
    Prop where
  nodeId : isLowerIdentifier 64 assignment.nodeId = true
  roleId : ∀ role ∈ assignment.roleId, isLowerIdentifier 64 role = true
  goal : isBoundedText 8192 assignment.goal = true
  scope : (1 ≤ assignment.scope.length ∧ assignment.scope.length ≤ 128)
    ∧ (∀ value ∈ assignment.scope, planScopeValid value ∧ (PurePosixPath.parse value).parts ≠ [])
    ∧ (assignment.scope.map (foldedParts casefold)).Nodup
  criteria : (1 ≤ assignment.criterionIds.length ∧ assignment.criterionIds.length ≤ 128)
    ∧ (∀ criterion ∈ assignment.criterionIds, isLowerIdentifier 100 criterion = true)
    ∧ assignment.criterionIds.Nodup

instance (casefold : String → String) (assignment : WriterAssignment) :
    Decidable (assignment.Validates casefold) :=
  decidable_of_iff (isLowerIdentifier 64 assignment.nodeId = true
      ∧ (∀ role ∈ assignment.roleId, isLowerIdentifier 64 role = true)
      ∧ isBoundedText 8192 assignment.goal = true
      ∧ ((1 ≤ assignment.scope.length ∧ assignment.scope.length ≤ 128)
        ∧ (∀ value ∈ assignment.scope,
          planScopeValid value ∧ (PurePosixPath.parse value).parts ≠ [])
        ∧ (assignment.scope.map (foldedParts casefold)).Nodup)
      ∧ (1 ≤ assignment.criterionIds.length ∧ assignment.criterionIds.length ≤ 128)
      ∧ (∀ criterion ∈ assignment.criterionIds, isLowerIdentifier 100 criterion = true)
      ∧ assignment.criterionIds.Nodup)
    ⟨fun ⟨h₁, h₂, h₃, h₄, h₅⟩ => ⟨h₁, h₂, h₃, h₄, h₅⟩,
      fun ⟨h₁, h₂, h₃, h₄, h₅⟩ => ⟨h₁, h₂, h₃, h₄, h₅⟩⟩

/-- The arguments of `FleetPlanner.create`; of the run only its identifier is used. -/
structure PlanRequest where
  runId : String
  task : TaskRecord
  strategy : FleetStrategy
  knownRoles : List String
  roleMaxSteps : Option (Mapping ℤ) := none
  writerAssignments : List WriterAssignment := []
  maxParallelAgents : ℤ := 2
  configuredMaxParallelAgents : ℤ := 2
  roleSelections : Mapping String := .ofEntries []
  roleTemplates : Option (Mapping ResolvedRoleTemplate) := none

/-- What the engine hands out for a plan. -/
structure PlanIdentity where
  planId : String
  valid : hasIdentity "plan" 32 planId = true
  createdAt : Timestamp

/-- What stops the planner: a `FleetError`, or a `ValidationError` of a model. -/
inductive PlannerFailure where
  | refused (error : FleetError)
  | validation

/-- `_invalid` of the planner. -/
def plannerInvalid (message : String) : PlannerFailure :=
  .refused {
    code := .configInvalid
    message := message
    remediation := "Use bounded disjoint assignments within reviewed roles, task scope and "
      ++ "concurrency." }

section Planner

-- `str.casefold`, and how a summary is trimmed
variable (casefold trim : String → String)

/-! ### Nodes -/

/-- `FleetPlanNode(...)`. -/
def makeNode (node : FleetPlanNode) : Except PlannerFailure FleetPlanNode := do
  let node := { node with goal := node.goal.map trim }
  refuse (¬ node.Validates casefold) .validation
  return node

/-- `WriterAssignment.model_validate(item.model_dump())`. -/
def makeAssignment (assignment : WriterAssignment) : Except PlannerFailure WriterAssignment := do
  let assignment := { assignment with goal := trim assignment.goal }
  refuse (¬ assignment.Validates casefold) .validation
  return assignment

/-- The engineer of a plan with one. -/
def engineerNode (task : TaskRecord) : FleetPlanNode where
  nodeId := "engineer"
  roleId := "engineer"
  scope := task.allowedPaths
  canWrite := true
  requiresWorkspace := true
  maxSteps := 20

/-- The verifier of one engineer. -/
def verifierNode (task : TaskRecord) : FleetPlanNode where
  nodeId := "verifier"
  roleId := "verifier"
  dependsOn := ["engineer"]
  scope := task.allowedPaths
  requiresWorkspace := true
  independentVerifier := true

/-- The engineer of an assignment. -/
def writerNode (assignment : WriterAssignment) : FleetPlanNode where
  nodeId := assignment.nodeId
  roleId := "engineer"
  goal := some assignment.goal
  criterionIds := assignment.criterionIds
  scope := assignment.scope
  canWrite := true
  requiresWorkspace := true
  maxSteps := 20

/-- The verifier of several engineers. -/
def joinedVerifierNode (task : TaskRecord) (writers : List FleetPlanNode) : FleetPlanNode where
  nodeId := "verifier"
  roleId := "verifier"
  goal := some task.normalizedGoal
  criterionIds := task.criterionIds
  dependsOn := writers.map FleetPlanNode.nodeId
  scope := task.allowedPaths
  requiresWorkspace := true
  independentVerifier := true

/-- A role of the specialist plan, after the role before it. -/
def specialistNode (task : TaskRecord) (role : String) (before : Option String) :
    FleetPlanNode where
  nodeId := role
  roleId := role
  goal := some task.normalizedGoal
  criterionIds := task.criterionIds
  dependsOn := before.toList
  scope := task.allowedPaths
  requiresWorkspace := true
  canWrite := role = "engineer"
  independentVerifier := role = "verifier"
  maxSteps := if role = "engineer" then 20 else 10

/-- `sorted(assignments, key=lambda item: item.node_id)`, by insertion: a definition that the kernel
evaluates. -/
def sortedAssignments (assignments : List WriterAssignment) : List WriterAssignment :=
  assignments.insertionSort fun left right => left.nodeId ≤ right.nodeId

/-- The checks on the assignments of a parallel plan, and the nodes that they make. -/
def parallelNodes (request : PlanRequest) (capacity : ℤ) :
    Except PlannerFailure (List FleetPlanNode) := do
  let count := request.writerAssignments.length
  refuse (¬ (2 ≤ count ∧ count ≤ 8) ∨ capacity < 2)
    (plannerInvalid "Parallel plans require two to eight writers and two slots.")
  let assignments ← request.writerAssignments.mapM (makeAssignment casefold trim)
  refuse (¬ (assignments.map WriterAssignment.nodeId).Nodup
    ∨ "verifier" ∈ assignments.map WriterAssignment.nodeId)
    (plannerInvalid "Writer node IDs must be unique and cannot replace verifier.")
  refuse (¬ sameSet (assignments.flatMap WriterAssignment.criterionIds) request.task.criterionIds)
    (plannerInvalid "Writer assignments must cover exactly the original criteria.")
  refuse ("independent_verifier_verdict" ∉ request.task.requiredEvidence)
    (plannerInvalid "Parallel plans require independent verification evidence.")
  let writers ← (sortedAssignments assignments).mapM fun assignment =>
    makeNode casefold trim (writerNode assignment)
  let verifier ← makeNode casefold trim (joinedVerifierNode request.task writers)
  return writers ++ [verifier]

/-- The nodes of each strategy. -/
def strategyNodes (request : PlanRequest) (capacity : ℤ) :
    Except PlannerFailure (List FleetPlanNode) :=
  let task := request.task
  match request.strategy with
  | .direct => .ok []
  | .singleEngineer => [engineerNode task].mapM (makeNode casefold trim)
  | .engineerVerifier => [engineerNode task, verifierNode task].mapM (makeNode casefold trim)
  | .parallelEngineers => parallelNodes casefold trim request capacity
  | .researchArchitectEngineerVerifier =>
      [specialistNode task "researcher" none, specialistNode task "architect" (some "researcher"),
        specialistNode task "engineer" (some "architect"),
        specialistNode task "verifier" (some "engineer")].mapM (makeNode casefold trim)

/-- The rationale of each strategy. -/
def FleetStrategy.rationale : FleetStrategy → String
  | .direct => "Read-only request needs no specialist workspace or side effect."
  | .singleEngineer => "Bounded low-risk change uses one Engineer and deterministic checks."
  | .engineerVerifier => "Behavioral code change uses a fresh independent Verifier."
  | .parallelEngineers =>
      "Disjoint bounded Engineers queue under reviewed capacity before fresh joined "
        ++ "verification."
  | .researchArchitectEngineerVerifier =>
      "Read-only research and architecture guide one bounded Engineer before "
        ++ "independent verification."

/-! ### Roles -/

/-- The role that is selected for a node. -/
def selectedRole (request : PlanRequest) (node : FleetPlanNode) : String :=
  let assignment := Keyed.get? WriterAssignment.nodeId request.writerAssignments node.nodeId
  match assignment.bind WriterAssignment.roleId with
  | some role => role
  | none => (request.roleSelections.get? node.roleId).getD node.roleId

/-- The error of a role without a template of the right kind. -/
def incompatibleRole : PlannerFailure :=
  plannerInvalid "The selected custom role has no compatible reviewed template."

/-- A node with the role that is selected for it. -/
def bindRole (request : PlanRequest) (node : FleetPlanNode) :
    Except PlannerFailure FleetPlanNode := do
  let selected := selectedRole request node
  if selected = node.roleId then return node
  else
    let template ← demand incompatibleRole
      (request.roleTemplates.bind fun templates => templates.get? selected)
    refuse (template.executionKind.value ≠ node.roleId) incompatibleRole
    makeNode casefold trim { node with
      roleId := selected
      executionKind := some template.executionKind
      maxSteps := min node.maxSteps template.maxSteps }

/-- The role of a joined repair, where writers have custom roles. -/
def repairRole (request : PlanRequest) (nodes : List FleetPlanNode) :
    Except PlannerFailure (Option String) :=
  if request.strategy = .parallelEngineers
      ∧ ∃ node ∈ nodes, node.canWrite = true ∧ node.roleId ≠ "engineer" then do
    let repair ← demand
      (plannerInvalid "Custom parallel writers require an explicit engineer repair selection.")
      (request.roleSelections.get? "engineer")
    return some repair
  else .ok none

/-- A node within the step limit of its role. -/
def limitSteps (limits : Mapping ℤ) (node : FleetPlanNode) : Except PlannerFailure FleetPlanNode :=
  makeNode casefold trim { node with
    maxSteps := min node.maxSteps ((limits.get? node.roleId).getD node.maxSteps) }

/-- The nodes within the step limits of their roles, where these are known. -/
def limitNodes (request : PlanRequest) (nodes : List FleetPlanNode) :
    Except PlannerFailure (List FleetPlanNode) :=
  match request.roleMaxSteps with
  | none => .ok nodes
  | some limits => nodes.mapM (limitSteps casefold trim limits)

/-! ### The plan -/

/-- What the types of the fields of a `FleetPlan` check, and `validate_evidence_requirements`. -/
def planFieldsValid (runId taskId : String) (nodes : List FleetPlanNode)
    (repairRoleId : Option String) (maxParallelAgents : ℕ) (evidence : List String) : Prop :=
  hasIdentity "run" 32 runId = true ∧ hasIdentity "task" 32 taskId = true ∧ nodes.length ≤ 16
    ∧ (∀ role ∈ repairRoleId, isLowerIdentifier 64 role = true)
    ∧ (1 ≤ maxParallelAgents ∧ maxParallelAgents ≤ 8)
    ∧ (∀ requirement ∈ evidence, requirement ∈ evidenceRequirements)
    ∧ (1 ≤ evidence.length ∧ evidence.length ≤ 32) ∧ evidence.Nodup
deriving Decidable

/-- `FleetPlan(...)`. -/
def makePlan (identity : PlanIdentity) (request : PlanRequest) (nodes : List FleetPlanNode)
    (repairRoleId : Option String) (maxParallelAgents : ℕ) : Except PlannerFailure FleetPlan :=
  if hshape : (nodes.map FleetPlanNode.nodeId).Nodup
      ∧ (∀ node ∈ nodes, node.dependsOn ⊆ nodes.map FleetPlanNode.nodeId)
      ∧ rejectCycles nodes = true then
    if planFieldsValid request.runId request.task.taskId nodes repairRoleId maxParallelAgents
        request.task.requiredEvidence then
      .ok {
        planId := identity.planId
        runId := request.runId
        taskId := request.task.taskId
        strategy := request.strategy
        nodes := nodes
        repairRoleId := repairRoleId
        maxParallelAgents := maxParallelAgents
        requiredEvidence := request.task.requiredEvidence
        rationale := request.strategy.rationale
        createdAt := identity.createdAt
        uniqueNodeIds := hshape.1
        knownDependencies := hshape.2.1
        acyclic := hshape.2.2 }
    else .error .validation
  else .error .validation

/-! ### Role templates -/

/-- The scope that a joined repair has to cover. -/
def FleetPlan.repairScope (plan : FleetPlan) : List String :=
  (plan.nodes.filter fun node => node.canWrite || node.independentVerifier).flatMap
    FleetPlanNode.scope

/-- A template whose paths do not cover the scope. -/
def uncovered (template : ResolvedRoleTemplate) (scope : List String) : Prop :=
  ∃ paths ∈ template.allowedPaths, ∃ path ∈ scope, pathIsWithin casefold path paths = false
deriving Decidable

/-- The error about the repair role. -/
def repairDenied : FleetError where
  code := .commandDenied
  message := "The repair role cannot cover the reviewed parent repair scope."
  remediation := "Select an explicit compatible repair writer without expanding its template."

/-- The error about the role of a node. -/
def roleDenied : FleetError where
  code := .commandDenied
  message := "The selected role exceeds its reviewed template or delegation scope."
  remediation := "Select a declared compatible role within its exact path and step ceiling."

/-- The check on the role of the joined repair. -/
def checkRepair (plan : FleetPlan) (templates : Mapping ResolvedRoleTemplate) :
    Except FleetError Unit :=
  match plan.repairRoleId with
  | none => .ok ()
  | some role => do
      let repair ← demand repairDenied (templates.get? role)
      refuse (repair.executionKind ≠ .engineer ∨ repair.delegationAllowed = false
        ∨ uncovered casefold repair plan.repairScope) repairDenied

/-- The check on the role of a node. -/
def checkRole (templates : Mapping ResolvedRoleTemplate) (node : FleetPlanNode) :
    Except FleetError Unit := do
  let template ← demand roleDenied (templates.get? node.roleId)
  refuse (template.delegationAllowed = false ∨ some template.executionKind ≠ node.effectiveKind
    ∨ (template.maxSteps : ℤ) < node.maxSteps ∨ uncovered casefold template node.scope) roleDenied

/-- `validate_role_plan`. -/
def validateRolePlan (plan : FleetPlan) (templates : Mapping ResolvedRoleTemplate) :
    Except FleetError Unit := do
  checkRepair casefold plan templates
  plan.nodes.forM (checkRole casefold templates)

/-! ### The planner -/

/-- A `FleetError` stops the planner. -/
def orRefused {α : Type} (result : Except FleetError α) : Except PlannerFailure α :=
  result.mapError .refused

/-- What a plan is built from. -/
structure PlanDraft where
  nodes : List FleetPlanNode
  repairRoleId : Option String
  maxParallelAgents : ℕ

/-- `create` before the plan itself is built. -/
def draftPlan (request : PlanRequest) : Except PlannerFailure PlanDraft := do
  refuse (min request.maxParallelAgents request.configuredMaxParallelAgents < 1)
    (plannerInvalid "Parallel capacity must be a positive integer.")
  let capacity := min (min request.maxParallelAgents request.configuredMaxParallelAgents) 8
  refuse (request.writerAssignments ≠ [] ∧ request.strategy ≠ .parallelEngineers)
    (plannerInvalid "Only parallel plans accept writer assignments.")
  let nodes ← strategyNodes casefold trim request capacity
  refuse (¬ request.roleSelections.keys ⊆ nodes.map FleetPlanNode.roleId)
    (plannerInvalid "Role selections must name an execution kind in the selected team.")
  let nodes ← nodes.mapM (bindRole casefold trim request)
  let repairRoleId ← repairRole request nodes
  let nodes ← limitNodes casefold trim request nodes
  let maxParallelAgents := if request.strategy = .parallelEngineers then capacity.toNat else 1
  return { nodes, repairRoleId, maxParallelAgents }

/-- `FleetPlanner.create`. -/
def FleetPlanner.create (identity : PlanIdentity) (request : PlanRequest) :
    Except PlannerFailure FleetPlan := do
  let draft ← draftPlan casefold trim request
  let plan ← makePlan identity request draft.nodes draft.repairRoleId draft.maxParallelAgents
  orRefused (validateFleetPlan casefold plan request.task.spec (some request.knownRoles))
  match request.roleTemplates with
  | none => return plan
  | some templates => do
      orRefused (validateRolePlan casefold plan templates)
      return plan

end Planner

/-! ### What is returned -/

variable {casefold trim : String → String} {identity : PlanIdentity} {request : PlanRequest}
  {plan : FleetPlan} {draft : PlanDraft}

@[simp] theorem orRefused_ok {α : Type} {result : Except FleetError α} {a : α} :
    orRefused result = .ok a ↔ result = .ok a := by
  cases result with
  | error e =>
      constructor
      · intro h
        cases h
      · intro h
        cases h
  | ok b =>
      constructor
      · intro h
        cases h
        rfl
      · intro h
        cases h
        rfl

theorem makePlan_ok {nodes : List FleetPlanNode} {repairRoleId : Option String}
    {maxParallelAgents : ℕ}
    (h : makePlan identity request nodes repairRoleId maxParallelAgents = .ok plan) :
    plan.nodes = nodes ∧ plan.maxParallelAgents = maxParallelAgents := by
  unfold makePlan at h
  split_ifs at h
  obtain rfl := Except.ok.inj h
  exact ⟨rfl, rfl⟩

/-- A plan is returned when it is built and has passed both checks. -/
theorem FleetPlanner.create_ok
    (h : FleetPlanner.create casefold trim identity request = .ok plan) :
    ∃ draft, draftPlan casefold trim request = .ok draft
      ∧ makePlan identity request draft.nodes draft.repairRoleId draft.maxParallelAgents = .ok plan
      ∧ validateFleetPlan casefold plan request.task.spec (some request.knownRoles) = .ok ()
      ∧ ∀ templates ∈ request.roleTemplates,
        validateRolePlan casefold plan templates = .ok () := by
  unfold FleetPlanner.create at h
  obtain ⟨draft, hdraft, h⟩ := bind_ok.mp h
  obtain ⟨built, hbuilt, h⟩ := bind_ok.mp h
  obtain ⟨⟨⟩, hvalid, h⟩ := bind_ok.mp h
  rw [orRefused_ok] at hvalid
  cases htemplates : request.roleTemplates with
  | none =>
      rw [htemplates] at h
      obtain rfl := return_ok.mp h
      exact ⟨draft, hdraft, hbuilt, hvalid, fun templates hmem => by cases hmem⟩
  | some =>
      rw [htemplates] at h
      obtain ⟨⟨⟩, hroles, h⟩ := bind_ok.mp h
      rw [orRefused_ok] at hroles
      obtain rfl := return_ok.mp h
      refine ⟨draft, hdraft, hbuilt, hvalid, fun other hother => ?_⟩
      obtain rfl := Option.some.inj hother
      exact hroles

theorem makeNode_maxSteps {node made : FleetPlanNode} (h : makeNode casefold trim node = .ok made) :
    made.roleId = node.roleId ∧ made.maxSteps = node.maxSteps := by
  unfold makeNode at h
  obtain ⟨-, h⟩ := refuse_bind_ok.mp h
  obtain rfl := return_ok.mp h
  exact ⟨rfl, rfl⟩

theorem draftPlan_limits (h : draftPlan casefold trim request = .ok draft) {limits : Mapping ℤ}
    (hlimits : request.roleMaxSteps = some limits) {node : FleetPlanNode} (hnode : node ∈ draft.nodes)
    {limit : ℤ} (hlimit : limits.get? node.roleId = some limit) : node.maxSteps ≤ limit := by
  unfold draftPlan at h
  obtain ⟨-, h⟩ := refuse_bind_ok.mp h
  obtain ⟨-, h⟩ := refuse_bind_ok.mp h
  obtain ⟨_, -, h⟩ := bind_ok.mp h
  obtain ⟨-, h⟩ := refuse_bind_ok.mp h
  obtain ⟨_, -, h⟩ := bind_ok.mp h
  obtain ⟨_, -, h⟩ := bind_ok.mp h
  obtain ⟨nodes, hnodes, h⟩ := bind_ok.mp h
  obtain rfl := return_ok.mp h
  rw [limitNodes, hlimits] at hnodes
  obtain ⟨before, -, hmade⟩ := (mem_of_mapM_ok hnodes).mp hnode
  obtain ⟨hrole, hsteps⟩ := makeNode_maxSteps hmade
  dsimp only at hrole hsteps
  rw [hrole] at hlimit
  rw [hsteps, hlimit]
  exact min_le_right _ _

theorem draftPlan_capacity (h : draftPlan casefold trim request = .ok draft) :
    (draft.maxParallelAgents : ℤ) ≤ request.maxParallelAgents
      ∧ (draft.maxParallelAgents : ℤ) ≤ request.configuredMaxParallelAgents
      ∧ draft.maxParallelAgents ≤ 8 := by
  unfold draftPlan at h
  obtain ⟨hpositive, h⟩ := refuse_bind_ok.mp h
  obtain ⟨-, h⟩ := refuse_bind_ok.mp h
  obtain ⟨_, -, h⟩ := bind_ok.mp h
  obtain ⟨-, h⟩ := refuse_bind_ok.mp h
  obtain ⟨_, -, h⟩ := bind_ok.mp h
  obtain ⟨_, -, h⟩ := bind_ok.mp h
  obtain ⟨_, -, h⟩ := bind_ok.mp h
  obtain rfl := return_ok.mp h
  dsimp only
  split_ifs
  · omega
  · omega

theorem validateRolePlan_maxSteps {templates : Mapping ResolvedRoleTemplate}
    (h : validateRolePlan casefold plan templates = .ok ()) {node : FleetPlanNode}
    (hnode : node ∈ plan.nodes) :
    ∃ template, templates.get? node.roleId = some template
      ∧ node.maxSteps ≤ template.maxSteps := by
  unfold validateRolePlan at h
  obtain ⟨_, -, h⟩ := bind_ok.mp h
  have hrole := forM_ok.mp h node hnode
  unfold checkRole at hrole
  obtain ⟨template, htemplate, hrole⟩ := bind_ok.mp hrole
  rw [refuse_ok] at hrole
  push Not at hrole
  exact ⟨template, demand_ok.mp htemplate, hrole.2.2.1⟩

/-! ### The order of the assignments -/

section Order

variable {assignments assignments' : List WriterAssignment}

/-- Assignments of different nodes are sorted alike in every order. -/
theorem sortedAssignments_perm (hperm : assignments.Perm assignments')
    (hnodup : (assignments.map WriterAssignment.nodeId).Nodup) :
    sortedAssignments assignments = sortedAssignments assignments' := by
  have htotal : Std.Total fun left right : WriterAssignment => left.nodeId ≤ right.nodeId :=
    ⟨fun left right => le_total _ _⟩
  have htrans : IsTrans WriterAssignment fun left right => left.nodeId ≤ right.nodeId :=
    ⟨fun _ _ _ => le_trans⟩
  have hsame : (sortedAssignments assignments).Perm (sortedAssignments assignments') :=
    (List.perm_insertionSort _ _).trans (hperm.trans (List.perm_insertionSort _ _).symm)
  refine hsame.eq_of_pairwise (fun left right hleft hright hle hge => ?_)
    (List.pairwise_insertionSort _ _) (List.pairwise_insertionSort _ _)
  have hleft' := (List.perm_insertionSort _ _).mem_iff.mp hleft
  have hright' := hperm.mem_iff.mpr ((List.perm_insertionSort _ _).mem_iff.mp hright)
  exact List.inj_on_of_nodup_map hnodup hleft' hright' (le_antisymm hle hge)

/-- An assignment as it is stored. -/
def WriterAssignment.trimmed (trim : String → String) (assignment : WriterAssignment) :
    WriterAssignment := { assignment with goal := trim assignment.goal }

theorem makeAssignment_eq (assignment : WriterAssignment) :
    makeAssignment casefold trim assignment
      = if (assignment.trimmed trim).Validates casefold then .ok (assignment.trimmed trim)
        else .error .validation := by
  have hmake : makeAssignment casefold trim assignment
      = (refuse (¬ (assignment.trimmed trim).Validates casefold) PlannerFailure.validation
        >>= fun _ => pure (assignment.trimmed trim)) := rfl
  rw [hmake]
  unfold refuse
  by_cases h : (assignment.trimmed trim).Validates casefold
  · rw [if_pos h, if_neg (not_not.mpr h)]
    rfl
  · rw [if_neg h, if_pos h]
    rfl

/-- The nodes of a parallel plan do not depend on the order of the assignments. -/
theorem parallelNodes_perm {capacity : ℤ} (hperm : request.writerAssignments.Perm assignments) :
    parallelNodes casefold trim { request with writerAssignments := assignments } capacity
      = parallelNodes casefold trim request capacity := by
  unfold parallelNodes
  dsimp only
  have hvalid : (∀ a ∈ assignments, (a.trimmed trim).Validates casefold)
      ↔ ∀ a ∈ request.writerAssignments, (a.trimmed trim).Validates casefold :=
    forall_congr' fun a => imp_congr hperm.symm.mem_iff Iff.rfl
  rw [mapM_eq_ite makeAssignment_eq, mapM_eq_ite makeAssignment_eq, if_congr hvalid rfl rfl,
    ← hperm.length_eq]
  refine refuse_bind_congr Iff.rfl fun _ => ?_
  by_cases hall : ∀ a ∈ request.writerAssignments, (a.trimmed trim).Validates casefold
  · rw [if_pos hall, if_pos hall]
    have htrimmed := (hperm.map (WriterAssignment.trimmed trim)).symm
    have hids := htrimmed.map WriterAssignment.nodeId
    have hcriteria := htrimmed.flatMap_right WriterAssignment.criterionIds
    refine refuse_bind_congr (or_congr (not_congr hids.nodup_iff) hids.mem_iff) fun hdistinct => ?_
    have hnodup := not_not.mp (mt Or.inl hdistinct)
    have hcovers : sameSet (assignments.map (WriterAssignment.trimmed trim) |>.flatMap
          WriterAssignment.criterionIds) request.task.criterionIds
        ↔ sameSet (request.writerAssignments.map (WriterAssignment.trimmed trim) |>.flatMap
          WriterAssignment.criterionIds) request.task.criterionIds :=
      and_congr hcriteria.subset_congr_left hcriteria.subset_congr_right
    refine refuse_bind_congr (not_congr hcovers) fun _ => ?_
    rw [sortedAssignments_perm htrimmed hnodup]
  · rw [if_neg hall, if_neg hall]

theorem bindRole_perm (hperm : request.writerAssignments.Perm assignments)
    (hnodup : (request.writerAssignments.map WriterAssignment.nodeId).Nodup)
    (node : FleetPlanNode) :
    bindRole casefold trim { request with writerAssignments := assignments } node
      = bindRole casefold trim request node := by
  have hselected : selectedRole { request with writerAssignments := assignments } node
      = selectedRole request node := by
    unfold selectedRole
    dsimp only
    rw [Keyed.get?_perm hperm hnodup]
  unfold bindRole
  dsimp only
  rw [hselected]

theorem parallelNodes_nodup {capacity : ℤ} {nodes : List FleetPlanNode}
    (h : parallelNodes casefold trim request capacity = .ok nodes) :
    (request.writerAssignments.map WriterAssignment.nodeId).Nodup := by
  unfold parallelNodes at h
  obtain ⟨-, h⟩ := refuse_bind_ok.mp h
  obtain ⟨made, hmade, h⟩ := bind_ok.mp h
  obtain ⟨hdistinct, -⟩ := refuse_bind_ok.mp h
  have hids : made.map WriterAssignment.nodeId
      = request.writerAssignments.map WriterAssignment.nodeId := by
    refine map_of_mapM_ok hmade fun assignment stored hstored => ?_
    unfold makeAssignment at hstored
    obtain ⟨-, hstored⟩ := refuse_bind_ok.mp hstored
    obtain rfl := return_ok.mp hstored
    rfl
  rw [← hids]
  exact not_not.mp (mt Or.inl hdistinct)

theorem draftPlan_perm (hperm : request.writerAssignments.Perm assignments) :
    draftPlan casefold trim { request with writerAssignments := assignments }
      = draftPlan casefold trim request := by
  have hempty : assignments ≠ [] ↔ request.writerAssignments ≠ [] :=
    not_congr ⟨fun h => List.Perm.eq_nil (h ▸ hperm), fun h => List.Perm.eq_nil (h ▸ hperm.symm)⟩
  unfold draftPlan
  refine refuse_bind_congr Iff.rfl fun _ => ?_
  refine refuse_bind_congr (and_congr hempty Iff.rfl) fun hallowed => ?_
  have hnodes : strategyNodes casefold trim { request with writerAssignments := assignments }
        (min (min request.maxParallelAgents request.configuredMaxParallelAgents) 8)
      = strategyNodes casefold trim request
        (min (min request.maxParallelAgents request.configuredMaxParallelAgents) 8) := by
    unfold strategyNodes
    cases hstrategy : request.strategy with
    | parallelEngineers => exact parallelNodes_perm hperm
    | direct | singleEngineer | engineerVerifier | researchArchitectEngineerVerifier => rfl
  dsimp only at hnodes ⊢
  rw [hnodes]
  refine bind_congr_of_ok fun nodes hok => ?_
  refine refuse_bind_congr Iff.rfl fun _ => ?_
  have hnodup : (request.writerAssignments.map WriterAssignment.nodeId).Nodup := by
    by_cases hstrategy : request.strategy = .parallelEngineers
    · rw [strategyNodes, hstrategy] at hok
      exact parallelNodes_nodup hok
    · have hnone : request.writerAssignments = [] := by
        by_contra hsome
        exact hallowed ⟨hempty.mpr hsome, hstrategy⟩
      rw [hnone]
      exact List.nodup_nil
  rw [funext (bindRole_perm hperm hnodup)]
  rfl

theorem makePlan_identity {nodes : List FleetPlanNode} {repairRoleId : Option String}
    {maxParallelAgents : ℕ}
    (h : makePlan identity request nodes repairRoleId maxParallelAgents = .ok plan)
    (identity' : PlanIdentity) :
    makePlan identity' { request with writerAssignments := assignments } nodes repairRoleId
        maxParallelAgents
      = .ok { plan with planId := identity'.planId, createdAt := identity'.createdAt } := by
  unfold makePlan at h ⊢
  split_ifs at h with hshape hfields
  obtain rfl := Except.ok.inj h
  rw [dif_pos hshape]
  exact if_pos hfields

/-- The same plan, but for its identity, is returned for every order of the assignments. -/
theorem FleetPlanner.create_perm
    (h : FleetPlanner.create casefold trim identity request = .ok plan)
    (hperm : request.writerAssignments.Perm assignments) (identity' : PlanIdentity) :
    FleetPlanner.create casefold trim identity' { request with writerAssignments := assignments }
      = .ok { plan with planId := identity'.planId, createdAt := identity'.createdAt } := by
  obtain ⟨draft, hdraft, hplan, hvalid, hroles⟩ := FleetPlanner.create_ok h
  unfold FleetPlanner.create
  refine bind_ok.mpr ⟨draft, (draftPlan_perm hperm).trans hdraft, ?_⟩
  refine bind_ok.mpr ⟨_, makePlan_identity hplan identity', ?_⟩
  refine bind_ok.mpr ⟨(), orRefused_ok.mpr hvalid, ?_⟩
  cases htemplates : request.roleTemplates with
  | none => rfl
  | some templates =>
      exact bind_ok.mpr ⟨(), orRefused_ok.mpr (hroles templates htemplates), rfl⟩

end Order

/-! ### The planner -/

/-- A plan that the planner returns is valid for its task; every step budget is within the limit of
its role and of its template; its capacity is within what was asked for, what is configured and
eight; and the assignments in another order give the same plan under another identity. -/
theorem FleetPlanner.create_sound
    (h : FleetPlanner.create casefold trim identity request = .ok plan) :
    validateFleetPlan casefold plan request.task.spec (some request.knownRoles) = .ok ()
      ∧ (∀ node ∈ plan.nodes,
          (∀ limits ∈ request.roleMaxSteps, ∀ limit ∈ limits.get? node.roleId,
            node.maxSteps ≤ limit)
          ∧ ∀ templates ∈ request.roleTemplates, ∃ template ∈ templates.get? node.roleId,
            node.maxSteps ≤ template.maxSteps)
      ∧ ((plan.maxParallelAgents : ℤ) ≤ request.maxParallelAgents
          ∧ (plan.maxParallelAgents : ℤ) ≤ request.configuredMaxParallelAgents
          ∧ plan.maxParallelAgents ≤ 8)
      ∧ ∀ assignments, request.writerAssignments.Perm assignments → ∀ identity',
          FleetPlanner.create casefold trim identity'
              { request with writerAssignments := assignments }
            = .ok { plan with planId := identity'.planId, createdAt := identity'.createdAt } := by
  obtain ⟨draft, hdraft, hplan, hvalid, hroles⟩ := FleetPlanner.create_ok h
  obtain ⟨hnodes, hcapacity⟩ := makePlan_ok hplan
  refine ⟨hvalid, fun node hnode => ⟨?_, ?_⟩, ?_, fun assignments => FleetPlanner.create_perm h⟩
  · intro limits hlimits limit hlimit
    exact draftPlan_limits hdraft hlimits (hnodes ▸ hnode) hlimit
  · intro templates htemplates
    exact validateRolePlan_maxSteps (hroles templates htemplates) hnode
  · rw [hcapacity]
    exact draftPlan_capacity hdraft

/-- The digits of every identifier. -/
def plannedDigits : String := String.ofList (List.replicate 32 '1')

/-- The task of a parser and a printer. -/
def plannedTask : TaskRecord where
  taskId := "task_" ++ plannedDigits
  runId := "run_" ++ plannedDigits
  originalGoal := "Parse and print."
  normalizedGoal := "Parse and print."
  baseRevision := "head"
  allowedPaths := ["src"]
  forbiddenPaths := ["docs"]
  acceptanceCriteria := [⟨"parses", "It parses."⟩, ⟨"prints", "It prints."⟩]
  requiredEvidence := ["canonical_patch", "command_evidence", "independent_verifier_verdict"]
  maxRepairIterations := 1
  configSnapshotHash := ⟨String.ofList (List.replicate 64 '1'), by decide⟩
  createdAt := 0

/-- Two engineers that are not in order, with fewer steps than the planner has for them. -/
def plannedRequest : PlanRequest where
  runId := plannedTask.runId
  task := plannedTask
  strategy := .parallelEngineers
  knownRoles := ["engineer", "verifier"]
  roleMaxSteps := some (.ofEntries [("engineer", 12)])
  writerAssignments := [⟨"printer", none, "Print.", ["src/print"], ["prints"]⟩,
    ⟨"parser", none, "Parse.", ["src/parse"], ["parses"]⟩]

/-- What the engine hands out for the plan. -/
def plannedIdentity : PlanIdentity := ⟨"plan_" ++ plannedDigits, by decide, 0⟩

theorem FleetPlanner.create_sound_plannedRequest :
    ∃ plan, FleetPlanner.create id id plannedIdentity plannedRequest = .ok plan
      ∧ validateFleetPlan id plan plannedTask.spec (some ["engineer", "verifier"]) = .ok ()
      ∧ FleetPlanner.create id id plannedIdentity { plannedRequest with
            writerAssignments := plannedRequest.writerAssignments.reverse }
          = .ok { plan with
            planId := plannedIdentity.planId, createdAt := plannedIdentity.createdAt } := by
  have hreturns : (FleetPlanner.create id id plannedIdentity plannedRequest).isOk = true := by
    decide
  cases hplan : FleetPlanner.create id id plannedIdentity plannedRequest with
  | error =>
      rw [hplan] at hreturns
      cases hreturns
  | ok plan =>
      obtain ⟨hvalid, -, -, hperm⟩ := FleetPlanner.create_sound hplan
      exact ⟨plan, rfl, hvalid, hperm _ (List.reverse_perm _).symm plannedIdentity⟩

end AgentFleet
