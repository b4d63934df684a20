import AgentFleet.Domain.Models
import AgentFleet.Domain.Paths
import AgentFleet.Lib.DepthFirst

/-! # Fleet plans

A plan names the agents of a run, what each may write and who waits for whom.  Its own
validators are fields of `FleetPlan`, so a plan with a repeated node, an unknown dependency or a
cycle cannot be built; `validateFleetPlan` holds it against the task and its strategy. -/

namespace AgentFleet

/-! ### Enumerations -/

/-- `AgentRole`. -/
inductive AgentRole where
  | cos
  | engineer
  | verifier
  | researcher
  | architect
deriving DecidableEq, Repr

/-- The text of an `AgentRole`. -/
def AgentRole.value : AgentRole → String
  | .cos => "cos"
  | .engineer => "engineer"
  | .verifier => "verifier"
  | .researcher => "researcher"
  | .architect => "architect"

/-- `AgentRole(text)`, where a text that names no role raises. -/
def AgentRole.ofText? (text : String) : Option AgentRole :=
  [.cos, .engineer, .verifier, .researcher, .architect].find? fun role : AgentRole =>
    role.value = text

/-- `FleetStrategy`. -/
inductive FleetStrategy where
  | direct
  | singleEngineer
  | engineerVerifier
  | parallelEngineers
  | researchArchitectEngineerVerifier
deriving DecidableEq, Repr

/-! ### Plans -/

/-- `FleetPlanNode`. -/
structure FleetPlanNode where
  nodeId : String
  roleId : String
  executionKind : Option AgentRole := none
  goal : Option String := none
  criterionIds : List String := []
  dependsOn : List String := []
  scope : List String := []
  canWrite : Bool := false
  requiresWorkspace : Bool := false
  independentVerifier : Bool := false
  maxSteps : ℤ := 10
deriving DecidableEq

/-- `effective_kind`; none where the role is not one of `AgentRole` and no kind is bound. -/
def FleetPlanNode.effectiveKind (node : FleetPlanNode) : Option AgentRole :=
  node.executionKind <|> AgentRole.ofText? node.roleId

/-- The dependencies of a node. -/
def dependenciesIn (nodes : List FleetPlanNode) (nodeId : String) : List String :=
  match nodes.find? fun node => node.nodeId = nodeId with
  | some node => node.dependsOn
  | none => []

/-- `_reject_cycles` finds no cycle. -/
def rejectCycles (nodes : List FleetPlanNode) : Bool :=
  DepthFirst.acyclic (dependenciesIn nodes) (nodes.map FleetPlanNode.nodeId)

/-- `FleetPlan`. -/
structure FleetPlan where
  planId : String
  runId : String
  taskId : String
  strategy : FleetStrategy
  nodes : List FleetPlanNode
  repairRoleId : Option String := none
  maxParallelAgents : ℕ := 1
  requiredEvidence : List String
  rationale : String
  createdAt : Timestamp
  uniqueNodeIds : (nodes.map FleetPlanNode.nodeId).Nodup
  knownDependencies : ∀ node ∈ nodes, node.dependsOn ⊆ nodes.map FleetPlanNode.nodeId
  acyclic : rejectCycles nodes = true
deriving DecidableEq

/-- The nodes that a graph binds: all but the independent verifiers. -/
def FleetPlan.workers (plan : FleetPlan) : List FleetPlanNode :=
  plan.nodes.filter fun node => ! node.independentVerifier

/-- The nodes that may write. -/
def FleetPlan.writers (plan : FleetPlan) : List FleetPlanNode :=
  plan.nodes.filter FleetPlanNode.canWrite

/-- The independent verifiers. -/
def FleetPlan.verifiers (plan : FleetPlan) : List FleetPlanNode :=
  plan.nodes.filter FleetPlanNode.independentVerifier

/-- A node waits for another. -/
def FleetPlan.DependsOn (plan : FleetPlan) (nodeId dependency : String) : Prop :=
  ∃ node ∈ plan.nodes, node.nodeId = nodeId ∧ dependency ∈ node.dependsOn

/-! ### Validation -/

/-- `_invalid`. -/
def fleetPlanInvalid (message : String) : FleetError where
  code := .configInvalid
  message := message
  remediation := "Use a bounded acyclic FleetPlan whose roles, scopes, and assurance claims "
    ++ "match the task."

/-- `if c: raise _invalid(message)`. -/
def planCheck (c : Prop) [Decidable c] (message : String) : Except FleetError Unit :=
  if c then .error (fleetPlanInvalid message) else .ok ()

/-- The two lists hold the same values: `set(left) == set(right)`. -/
def sameSet (left right : List String) : Prop := left ⊆ right ∧ right ⊆ left
deriving Decidable

/-- `{text!r}` of an identifier, which holds neither quotes nor backslashes. -/
def reprText (text : String) : String := "'" ++ text ++ "'"

/-- `{sorted(values)}` of identifiers. -/
def reprSorted (values : List String) : String :=
  "[" ++ ", ".intercalate ((sortedSet values).map reprText) ++ "]"

section Validation

variable (casefold : String → String) (plan : FleetPlan) (task : TaskSpec)

/-- The roles of the plan that are not declared. -/
def missingRoles (knownRoles : List String) : List String :=
  (plan.nodes.map FleetPlanNode.roleId ++ plan.repairRoleId.toList).filter fun role =>
    role ∉ knownRoles

/-- The roles are declared, where the declared roles are known. -/
def checkRoles (knownRoles : Option (List String)) : Except FleetError Unit :=
  match knownRoles with
  | none => .ok ()
  | some roles => planCheck (missingRoles plan roles ≠ [])
      ("FleetPlan references undeclared roles: " ++ reprSorted (missingRoles plan roles) ++ ".")

/-- The kind of a node: a role of the catalogue is bound to itself. -/
def checkKind (node : FleetPlanNode) : Except FleetError Unit :=
  match node.effectiveKind with
  | none => .error (fleetPlanInvalid
      "FleetPlan custom roles require a bound execution kind.")
  | some kind => planCheck ((AgentRole.ofText? node.roleId).isSome ∧ kind.value ≠ node.roleId)
      "FleetPlan execution kinds disagree with role authority."

/-- A scope of the plan lies outside the task's. -/
def outsideTask (node : FleetPlanNode) : Prop :=
  ∃ path ∈ node.scope, pathIsWithin casefold path task.allowedPaths task.forbiddenPaths = false
deriving Decidable

/-- The checks on a writer. -/
def checkWriter (writer : FleetPlanNode) : Except FleetError Unit := do
  planCheck (writer.requiresWorkspace = false ∨ writer.scope = [])
    "Every writer requires a workspace and a non-empty path scope."
  planCheck (outsideTask casefold task writer)
    ("Writer " ++ reprText writer.nodeId ++ " requests paths outside the TaskSpec allow-list.")

/-- The checks on an independent verifier. -/
def checkVerifier (verifier : FleetPlanNode) : Except FleetError Unit := do
  planCheck (verifier.canWrite = true ∨ verifier.requiresWorkspace = false ∨ verifier.scope = [])
    ("Every independent Verifier must be read-only and requires a workspace "
      ++ "with a non-empty path scope.")
  planCheck (outsideTask casefold task verifier)
    ("Verifier " ++ reprText verifier.nodeId
      ++ " requests paths outside the TaskSpec allow-list.")

/-- `requires_independent_verification`. -/
def requiresIndependentVerification : Prop :=
  "independent_verifier_verdict" ∈ task.requiredEvidence
deriving Decidable

/-- A direct plan. -/
def checkDirect : Except FleetError Unit := do
  planCheck (task.changeKind ≠ .readOnly ∨ plan.nodes ≠ [] ∨ plan.repairRoleId ≠ none)
    "Direct plans are limited to read-only tasks and have no specialists."
  planCheck (¬ sameSet plan.requiredEvidence ["control_plane_plan"])
    "A direct plan requires exactly control_plane_plan evidence."

/-- A single-engineer plan. -/
def checkSingleEngineer : Except FleetError Unit :=
  planCheck (plan.writers.length ≠ 1
    ∨ (plan.writers.head?.bind FleetPlanNode.effectiveKind) ≠ some .engineer
    ∨ plan.verifiers ≠ []
    ∨ plan.nodes.length ≠ 1)
    "A single-engineer plan must contain exactly one Engineer writer and no verifier."

/-- An engineer-verifier plan. -/
def checkEngineerVerifier : Except FleetError Unit := do
  planCheck (¬ requiresIndependentVerification task)
    "An engineer-verifier plan requires independent_verifier_verdict evidence."
  planCheck (plan.writers.length ≠ 1 ∨ plan.verifiers.length ≠ 1 ∨ plan.nodes.length ≠ 2)
    "An engineer-verifier plan requires one writer and one verifier."
  planCheck (∃ writer ∈ plan.writers.head?, ∃ verifier ∈ plan.verifiers.head?,
    writer.effectiveKind ≠ some .engineer
      ∨ verifier.effectiveKind ≠ some .verifier
      ∨ writer.nodeId ∉ verifier.dependsOn)
    ("The engineer-verifier roles must be Engineer and Verifier; the independent "
      ++ "Verifier must be read-only and depend on the writer.")

/-- A parallel-engineers plan. -/
def checkParallelEngineers : Except FleetError Unit := do
  planCheck (plan.writers.length < 2 ∨ plan.maxParallelAgents < 2)
    "A parallel-engineers plan requires at least two writers and parallel capacity."
  planCheck ((∃ writer ∈ plan.writers, writer.effectiveKind ≠ some .engineer)
    ∨ ∃ node ∈ plan.nodes,
      ¬ (node.effectiveKind = some .engineer ∨ node.effectiveKind = some .verifier))
    "A parallel-engineers plan may contain only Engineer writers and Verifiers."
  planCheck (plan.verifiers.length > 1
    ∨ plan.nodes.length ≠ plan.writers.length + plan.verifiers.length)
    ("A parallel-engineers plan permits only its Engineer writers and at most "
      ++ "one independent Verifier.")
  planCheck (∃ writer ∈ plan.writers, writer.dependsOn ≠ [])
    "Parallel Engineer writers must not depend on one another."
  planCheck (∃ verifier ∈ plan.verifiers,
    ¬ plan.writers.map FleetPlanNode.nodeId ⊆ verifier.dependsOn)
    "A parallel-plan verifier must be read-only and depend on every writer."
  -- plans from before the assignments leave them out; a partial assignment is refused
  planCheck ((∃ node ∈ plan.nodes, node.criterionIds ≠ [])
    ∧ ((∃ writer ∈ plan.writers, writer.criterionIds = [] ∨ writer.goal = none)
      ∨ ¬ sameSet (plan.writers.flatMap FleetPlanNode.criterionIds) task.acceptanceCriteria))
    "Parallel writer assignments must cover exactly the task criteria."

/-- `by_role`: the last node of a kind. -/
def FleetPlan.byRole (role : AgentRole) : Option FleetPlanNode :=
  (plan.nodes.filter fun node => node.effectiveKind = some role).getLast?

/-- The chain of a specialist plan is broken. -/
def chainBroken (researcher architect engineer verifier : FleetPlanNode) : Prop :=
  plan.verifiers.length ≠ 1
    ∨ plan.verifiers.head?.map FleetPlanNode.nodeId ≠ some verifier.nodeId
    ∨ researcher.dependsOn ≠ []
    ∨ researcher.canWrite = true
    ∨ researcher.independentVerifier = true
    ∨ architect.dependsOn ≠ [researcher.nodeId]
    ∨ architect.canWrite = true
    ∨ architect.independentVerifier = true
    ∨ engineer.dependsOn ≠ [architect.nodeId]
    ∨ engineer.canWrite = false
    ∨ engineer.independentVerifier = true
    ∨ verifier.dependsOn ≠ [engineer.nodeId]
    ∨ verifier.canWrite = true
    ∨ verifier.independentVerifier = false
deriving Decidable

/-- The roles of a specialist plan. -/
def specialistRoles : List AgentRole := [.researcher, .architect, .engineer, .verifier]

/-- A research-architect-engineer-verifier plan. -/
def checkSpecialists : Except FleetError Unit := do
  planCheck (¬ requiresIndependentVerification task)
    "The specialist plan requires independent_verifier_verdict evidence."
  let roles := plan.nodes.filterMap FleetPlanNode.effectiveKind
  planCheck (¬ (roles ⊆ specialistRoles ∧ specialistRoles ⊆ roles)
    ∨ plan.nodes.length ≠ specialistRoles.length)
    "The specialist plan requires researcher, architect, engineer, and verifier."
  planCheck (∃ researcher ∈ plan.byRole .researcher, ∃ architect ∈ plan.byRole .architect,
    ∃ engineer ∈ plan.byRole .engineer, ∃ verifier ∈ plan.byRole .verifier,
      chainBroken plan researcher architect engineer verifier)
    "The specialist plan dependency and authority chain is invalid."
  planCheck (∃ role ∈ [AgentRole.researcher, .architect], ∃ specialist ∈ plan.byRole role,
    specialist.requiresWorkspace = false ∨ specialist.scope ≠ task.allowedPaths)
    "Read-only specialists require a workspace with the full task scope."

/-- The checks of each strategy. -/
def checkStrategy : Except FleetError Unit :=
  match plan.strategy with
  | .direct => .ok ()
  | .singleEngineer => checkSingleEngineer plan
  | .engineerVerifier => checkEngineerVerifier plan task
  | .parallelEngineers => checkParallelEngineers plan task
  | .researchArchitectEngineerVerifier => checkSpecialists plan task

/-- What a kind allows: engineers write, verifiers verify, and nobody else does either. -/
def checkAuthority (node : FleetPlanNode) : Except FleetError Unit :=
  planCheck (node.effectiveKind = some .cos
    ∨ node.canWrite ≠ decide (node.effectiveKind = some .engineer)
    ∨ node.independentVerifier ≠ decide (node.effectiveKind = some .verifier))
    "FleetPlan execution kinds disagree with role authority."

/-- `_scopes_overlap`. -/
def scopesOverlap (left right : List String) : Bool :=
  left.any fun leftValue => right.any fun rightValue =>
    let leftParts := foldPath casefold (PurePosixPath.parse leftValue)
    let rightParts := foldPath casefold (PurePosixPath.parse rightValue)
    leftParts = rightParts || startsWith leftParts rightParts || startsWith rightParts leftParts

/-- The loop over the pairs of writers. -/
def checkOverlaps : List FleetPlanNode → Except FleetError Unit
  | [] => .ok ()
  | left :: rest => do
      rest.forM fun right => planCheck (scopesOverlap casefold left.scope right.scope = true)
        ("Writer scopes overlap: " ++ reprText left.nodeId ++ " and " ++ reprText right.nodeId
          ++ ".")
      checkOverlaps rest

/-- The checks of a plan for a code change. -/
def checkCodeChange : Except FleetError Unit := do
  planCheck (task.changeKind ≠ .codeChange)
    "Specialist FleetPlans are limited to code-change tasks."
  planCheck (task.changeKind = .codeChange ∧ plan.writers = [])
    "A code-change plan requires at least one writer."
  plan.writers.forM (checkWriter casefold task)
  plan.verifiers.forM (checkVerifier casefold task)
  checkStrategy plan task
  plan.nodes.forM checkAuthority
  checkOverlaps casefold plan.writers

/-- `validate_fleet_plan`. -/
def validateFleetPlan (knownRoles : Option (List String)) : Except FleetError Unit := do
  planCheck (plan.runId ≠ task.runId ∨ plan.taskId ≠ task.taskId)
    "FleetPlan identity does not match its TaskSpec."
  planCheck (¬ sameSet task.requiredEvidence plan.requiredEvidence)
    "FleetPlan evidence requirements must exactly match its TaskSpec."
  checkRoles plan knownRoles
  plan.nodes.forM checkKind
  planCheck (∃ node ∈ plan.nodes, ¬ node.criterionIds ⊆ task.acceptanceCriteria)
    "FleetPlan nodes must not introduce acceptance criterion IDs."
  planCheck (requiresIndependentVerification task ∧ plan.verifiers = [])
    ("The TaskSpec requires independent verification but the FleetPlan has no "
      ++ "independent verifier.")
  if plan.strategy = .direct then checkDirect plan task
  else checkCodeChange casefold plan task

end Validation

end AgentFleet
