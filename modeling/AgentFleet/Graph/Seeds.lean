import AgentFleet.Domain.PlanShape
import AgentFleet.Graph.Store

/-! # The seeds of a graph

`initializeSeeds` is the part of `GraphWorkflowExecution.initialize` that derives a child run and a
child task from every worker of an accepted plan, `validateSeed` the check that the store makes of
each.  The two were written apart, and so were the validators of plans, tasks and runs.

* `childTask_validates` and `childRun_validates`: both records can be constructed.
* `graph_seeds_admitted`: every seed is derived, and the store accepts it. -/

namespace AgentFleet

open Checks

/-! ### Derivation -/

/-- What stops a derivation: `_invalid()`, or a `ValidationError` of a model. -/
inductive SeedFailure where
  | invalid
  | validation
deriving DecidableEq, Repr

/-- A `GraphChildSeed`, whose iteration is always zero. -/
structure GraphSeed where
  nodeId : String
  run : RunRecord
  task : TaskRecord

/-- The identifiers and the instant that the engine hands out for a child. -/
structure ChildIdentity where
  runId : String
  taskId : String
  correlationId : String
  now : Timestamp

/-- The evidence that is required of a child. -/
def childEvidence (canWrite : Bool) : List String :=
  if canWrite then ["canonical_patch", "command_evidence"] else ["control_plane_plan"]

section Derivation

variable (svc : Services) (casefold : String → String) (parent : RunRecord) (task : TaskRecord)
  (node : FleetPlanNode) (goal : String) (identity : ChildIdentity)

/-- The arguments of the child's `Run`. -/
def childRun : RunRecord where
  runId := identity.runId
  projectId := parent.projectId
  correlationId := identity.correlationId
  parentRunId := some parent.runId
  parentPlanSha256 := parent.fleetPlanHash
  parentNodeId := some node.nodeId
  parentIteration := some 0
  goal := goal
  baseRevision := parent.baseRevision
  targetStatusFingerprint := parent.targetStatusFingerprint
  runtimeName := parent.runtimeName
  providerModel := parent.providerModel
  credentialRef := parent.credentialRef
  modelBindingsSha256 := parent.modelBindingsSha256
  sandboxName := parent.sandboxName
  sandboxConfiguration := parent.sandboxConfiguration
  sandboxRequirements := parent.sandboxRequirements
  sandboxCapabilitiesSnapshot := parent.sandboxCapabilitiesSnapshot
  sandboxImageIdentity := parent.sandboxImageIdentity
  sandboxDaemonIdentity := parent.sandboxDaemonIdentity
  unsafeLocalConfirmed := parent.unsafeLocalConfirmed
  fakeScenario := parent.fakeScenario
  taskId := some identity.taskId
  configSnapshotHash := parent.configSnapshotHash
  maxRepairIterations := 0
  createdAt := identity.now
  updatedAt := identity.now

/-- The arguments of the child's `TaskSpec`. -/
def childTask : TaskRecord where
  taskId := identity.taskId
  runId := identity.runId
  originalGoal := task.originalGoal
  normalizedGoal := goal
  workflow := task.workflow
  changeKind := if node.canWrite then .codeChange else .readOnly
  baseRevision := parent.baseRevision
  allowedPaths := node.scope
  forbiddenPaths := task.forbiddenPaths
  acceptanceCriteria := task.acceptanceCriteria.filter fun item =>
    item.criterionId ∈ node.criterionIds
  requiredEvidence := childEvidence node.canWrite
  maxRepairIterations := 0
  configSnapshotHash := task.configSnapshotHash
  verificationCommands := if node.canWrite then task.verificationCommands else []
  requiredVerificationCommandIds :=
    if node.canWrite then task.requiredVerificationCommandIds else []
  createdAt := identity.now

/-- One turn of the loop of `initialize`. -/
def childSeed : Except SeedFailure GraphSeed := do
  let goal ← demand .invalid node.goal
  let run ← demand .validation ((childRun parent node goal identity).validate svc)
  let record := childTask parent task node goal identity
  refuse (¬ record.Validates casefold) .validation
  return { nodeId := node.nodeId, run, task := record }

/-- The workers of a plan by their identifiers. -/
def sortedWorkers (plan : FleetPlan) : List FleetPlanNode :=
  (plan.nodes.mergeSort fun left right => left.nodeId ≤ right.nodeId).filter fun node =>
    !node.independentVerifier

/-- The seeds that `initialize` derives; the task is the parent's. -/
def initializeSeeds (plan : FleetPlan) (identities : String → ChildIdentity) :
    Except SeedFailure (List GraphSeed) := do
  refuse (parent.taskId = none ∨ parent.fleetPlanHash = none) .invalid
  -- older plans without goals and criteria stay readable, but were never executable
  refuse (∃ node ∈ plan.nodes, (node.goal = none ∨ node.goal = some "")
    ∨ node.criterionIds = [] ∨ ¬ node.criterionIds ⊆ task.criterionIds) .invalid
  (sortedWorkers plan).mapM fun node =>
    childSeed svc casefold parent task node (identities node.nodeId)

end Derivation

/-! ### The check of the store -/

section Admission

variable (casefold : String → String) (parent : RunRecord) (task : TaskRecord)
  (node : FleetPlanNode)

/-- The dictionary of criteria or commands by their identifiers, whose last entry wins. -/
def lastWith {α : Type} (key : α → String) (items : List α) (value : String) : Option α :=
  items.reverse.find? fun item => key item = value

/-- The child's run is bound to the parent, and nothing has happened to it. -/
def runUnbound (child : RunRecord) (childTask : TaskRecord) : Prop :=
  child.runId = parent.runId
    ∨ child.status ≠ .created
    ∨ child.stage ≠ none
    ∨ child.taskId ≠ some childTask.taskId
    ∨ childTask.runId ≠ child.runId
    ∨ (child.parentRunId, child.parentPlanSha256, child.parentNodeId, child.parentIteration)
      ≠ (some parent.runId, parent.fleetPlanHash, some node.nodeId, some 0)
    ∨ child.inherited ≠ parent.inherited
    ∨ child.pendingApprovalId ≠ none
    ∨ child.patchArtifactId ≠ none
    ∨ child.patchSha256 ≠ none
    ∨ child.appliedRevision ≠ none
    ∨ child.engineerCheckpoint ≠ none
    ∨ child.verificationCheckpoint ≠ none
    ∨ child.specialistCheckpoint ≠ none
    ∨ child.repairIterations ≠ 0
    ∨ child.verifiedComplete = true
    ∨ child.commandEvidenceArtifactIds ≠ []
    ∨ child.runtimeUsageArtifactIds ≠ []
    ∨ child.maxRepairIterations > parent.maxRepairIterations
deriving Decidable

/-- The child's task goes beyond the parent's or the node's. -/
def taskUnbound (childTask : TaskRecord) : Prop :=
  childTask.baseRevision ≠ task.baseRevision
    ∨ childTask.configSnapshotHash ≠ task.configSnapshotHash
    ∨ childTask.workflow ≠ task.workflow
    ∨ childTask.forbiddenPaths ≠ task.forbiddenPaths
    ∨ ¬ sameSet childTask.allowedPaths node.scope
    ∨ (∃ path ∈ childTask.allowedPaths,
      pathIsWithin casefold path task.allowedPaths task.forbiddenPaths = false)
    ∨ childTask.maxRepairIterations > task.maxRepairIterations
    ∨ ¬ childTask.criterionIds ⊆ task.criterionIds
deriving Decidable

/-- The child's goals and criteria are not those of the node. -/
def assignmentUnbound (child : RunRecord) (childTask : TaskRecord) : Prop :=
  child.goal ≠ childTask.normalizedGoal
    ∨ (∃ goal ∈ node.goal, childTask.normalizedGoal ≠ goal)
    ∨ (node.criterionIds ≠ [] ∧ ¬ sameSet node.criterionIds childTask.criterionIds)
    ∨ child.fleetPlanArtifactId ≠ none
    ∨ child.fleetPlanHash ≠ none
    ∨ child.fleetStrategy ≠ none
deriving Decidable

/-- The child of a writer has more than a code change, or a command that the parent has not. -/
def writerUnbound (childTask : TaskRecord) : Prop :=
  node.effectiveKind ≠ some .engineer
    ∨ childTask.changeKind ≠ .codeChange
    ∨ ¬ sameSet childTask.requiredEvidence ["canonical_patch", "command_evidence"]
    ∨ ∃ item ∈ childTask.verificationCommands,
      lastWith CommandSpec.commandId task.verificationCommands item.commandId ≠ some item
deriving Decidable

/-- The child of a reader does more than read. -/
def readerUnbound (childTask : TaskRecord) : Prop :=
  ¬ (node.effectiveKind = some .researcher ∨ node.effectiveKind = some .architect)
    ∨ childTask.changeKind ≠ .readOnly
    ∨ childTask.requiredEvidence ≠ ["control_plane_plan"]
    ∨ childTask.verificationCommands ≠ []
    ∨ childTask.requiredVerificationCommandIds ≠ []
deriving Decidable

/-- `_validate_seed`. -/
def validateSeed (seed : GraphSeed) : Except StoreError Unit := do
  refuse (runUnbound parent node seed.run seed.task ∨ taskUnbound casefold task node seed.task)
    graphInvalid
  refuse (∃ item ∈ seed.task.acceptanceCriteria,
    lastWith AcceptanceCriterion.criterionId task.acceptanceCriteria item.criterionId ≠ some item)
    graphInvalid
  refuse (assignmentUnbound node seed.run seed.task) graphInvalid
  if node.canWrite then refuse (writerUnbound task node seed.task) graphInvalid
  else refuse (readerUnbound node seed.task) graphInvalid

end Admission

/-! ### Valid plans -/

/-- The run and the task belong together, and the run has an accepted plan. -/
structure RunTask (parent : RunRecord) (task : TaskRecord) : Prop where
  taskId : parent.taskId = some task.taskId
  runId : task.runId = parent.runId
  baseRevision : task.baseRevision = parent.baseRevision
  planned : parent.fleetPlanHash ≠ none

/-- The identifiers that the engine hands out have their formats and are new. -/
structure ChildIdentity.Fresh (identity : ChildIdentity) (parent : RunRecord) : Prop where
  runId : hasIdentity "run" 32 identity.runId = true
  taskId : hasIdentity "task" 32 identity.taskId = true
  correlationId : hasIdentity "corr" 32 identity.correlationId = true
  new : identity.runId ≠ parent.runId

/-! ### Scopes -/

section Scopes

variable {casefold : String → String} {plan : FleetPlan} {task : TaskRecord}

theorem partsOverlap_iff {left right : List String} :
    partsOverlap left right ↔ Comparable left right := by
  unfold partsOverlap Comparable
  rw [startsWith_iff, startsWith_iff]
  constructor
  · rintro (rfl | hbelow | habove)
    · exact .inl List.prefix_rfl
    · exact .inr hbelow
    · exact .inl habove
  · rintro (habove | hbelow)
    · exact .inr (.inr habove)
    · exact .inr (.inl hbelow)

theorem foldedParts_eq_nil {value : String} :
    foldedParts casefold value = [] ↔ (PurePosixPath.parse value).parts = [] := List.map_eq_nil_iff

variable {path : String} {scope : List String} {u : Unit} {node : FleetPlanNode}

/-- What a path that is within the scopes of a task lies under. -/
theorem scope_above (htask : task.Validates casefold)
    (hwithin : pathIsWithin casefold path task.allowedPaths task.forbiddenPaths = true) :
    ∃ scope ∈ task.allowedPaths, foldedParts casefold scope ≠ []
      ∧ foldedParts casefold scope <+: foldedParts casefold path := by
  obtain ⟨parts, hparts, -, -, scope, hscope, item, hitem, hprefix⟩ := pathIsWithin_iff.mp hwithin
  refine ⟨scope, hscope, ?_, ?_⟩
  · have hvalid := htask.allowed.1 scope hscope
    exact mt foldedParts_eq_nil.mp hvalid.2.1
  · rw [components_eq hparts, components_eq hitem] at hprefix
    exact hprefix

/-- Scopes of a plan that are within the scopes of a task are paths of a task. -/
theorem repositoryPathsValid_of_within (htask : task.Validates casefold)
    (hvalid : ∀ value ∈ scope, planScopeValid value)
    (hunique : (scope.map (foldedParts casefold)).Nodup)
    (hwithin : ∀ value ∈ scope,
      pathIsWithin casefold value task.allowedPaths task.forbiddenPaths = true) :
    repositoryPathsValid casefold scope := by
  refine ⟨fun value hvalue => ?_, hunique⟩
  obtain ⟨hne, -, -, habsolute, hbackslash, hparent, hnormal⟩ := hvalid value hvalue
  refine ⟨hne, fun hnone => ?_, habsolute, hbackslash, hparent, hnormal⟩
  obtain ⟨above, -, hsome, hprefix⟩ := scope_above htask (hwithin value hvalue)
  rw [foldedParts_eq_nil.mpr hnone] at hprefix
  exact hsome (List.prefix_nil.mp hprefix)

/-- What is within the scopes of a task is as little protected or forbidden as they are. -/
theorem writeScopeValid_of_within (htask : task.Validates casefold)
    (hwithin : ∀ value ∈ scope,
      pathIsWithin casefold value task.allowedPaths task.forbiddenPaths = true) :
    writeScopeValid casefold scope task.forbiddenPaths := by
  intro value hvalue
  constructor
  · obtain ⟨above, habove, hsome, hprefix⟩ := scope_above htask (hwithin value hvalue)
    have hprotected := (htask.writeScope above habove).1
    obtain ⟨first, rest, hfirst⟩ := List.exists_cons_of_ne_nil hsome
    obtain ⟨below, hbelow⟩ := hprefix
    rw [hfirst] at hprotected hbelow
    intro other hother
    rw [← hbelow, List.cons_append, List.head?_cons, Option.mem_some_iff] at hother
    rw [← hother]
    exact hprotected first rfl
  · intro blocked hblocked hoverlap
    obtain ⟨parts, hparts, -, hforbidden, -⟩ := pathIsWithin_iff.mp (hwithin value hvalue)
    obtain ⟨item, hitem, hapart⟩ := hforbidden blocked hblocked
    rw [components_eq hparts, components_eq hitem] at hapart
    exact hapart (partsOverlap_iff.mp hoverlap)

/-- The scopes of a task are within themselves, as soon as any path is within them. -/
theorem allowed_within (htask : task.Validates casefold)
    (hwithin : pathIsWithin casefold path task.allowedPaths task.forbiddenPaths = true)
    {scope : String} (hscope : scope ∈ task.allowedPaths) :
    pathIsWithin casefold scope task.allowedPaths task.forbiddenPaths = true := by
  obtain ⟨_, -, hallowed, hforbidden, -⟩ := pathIsWithin_iff.mp hwithin
  obtain ⟨parts, hparts⟩ := Option.ne_none_iff_exists'.mp (hallowed scope hscope)
  refine pathIsWithin_iff.mpr ⟨parts, hparts, hallowed, fun blocked hblocked => ?_, scope, hscope,
    parts, hparts, List.prefix_rfl⟩
  obtain ⟨item, hitem, -⟩ := hforbidden blocked hblocked
  refine ⟨item, hitem, fun hcomparable => ?_⟩
  apply (htask.writeScope scope hscope).2 blocked hblocked
  rw [partsOverlap_iff]
  rw [components_eq hparts, components_eq hitem] at hcomparable
  exact hcomparable

/-! ### Workers -/

/-- What an accepted plan makes of a worker: an engineer that writes, or a specialist that reads all
that the task allows. -/
inductive Worker (casefold : String → String) (task : TaskRecord) (node : FleetPlanNode) : Prop
  | writer (hwrites : node.canWrite = true) (hkind : node.effectiveKind = some .engineer)
      (hscope : node.scope ≠ [])
      (hwithin : ∀ path ∈ node.scope,
        pathIsWithin casefold path task.allowedPaths task.forbiddenPaths = true)
  | reader (hreads : node.canWrite = false)
      (hkind : node.effectiveKind = some .researcher ∨ node.effectiveKind = some .architect)
      (hscope : node.scope = task.allowedPaths)
      (hwithin : ∀ path ∈ node.scope,
        pathIsWithin casefold path task.allowedPaths task.forbiddenPaths = true)

/-- The strategies that are executed as graphs. -/
def FleetStrategy.IsAdaptive (strategy : FleetStrategy) : Prop :=
  strategy = .parallelEngineers ∨ strategy = .researchArchitectEngineerVerifier

/-- A worker of a parallel plan writes. -/
theorem parallel_canWrite (h : checkParallelEngineers plan task.spec = .ok u)
    (hnode : node ∈ plan.nodes) (hworker : node.independentVerifier = false)
    (hauthority : checkAuthority node = .ok ()) : node.canWrite = true := by
  simp only [checkParallelEngineers, bind_ok, planCheck_ok, not_or, not_exists, not_and,
    not_not] at h
  obtain ⟨_, -, _, ⟨-, hkinds⟩, -⟩ := h
  obtain ⟨hwrites, hverifies⟩ := checkAuthority_ok hauthority
  have hkind : ¬ node.effectiveKind = some .engineer → node.effectiveKind = some .verifier := by
    have hboth := hkinds node hnode
    tauto
  by_contra hreads
  have hverifier := hkind (mt hwrites.mpr hreads)
  rw [hverifies.mpr hverifier] at hworker
  cases hworker

/-- A worker of a specialist plan that does not write has the whole scope of the task. -/
theorem specialist_scope (h : checkSpecialists plan task.spec = .ok u) (hnode : node ∈ plan.nodes)
    (hworker : node.independentVerifier = false) (hreads : node.canWrite = false)
    (hauthority : checkAuthority node = .ok ()) (hkindOk : node.effectiveKind ≠ none) :
    (node.effectiveKind = some .researcher ∨ node.effectiveKind = some .architect)
      ∧ node.scope = task.allowedPaths := by
  simp only [checkSpecialists, bind_ok, planCheck_ok, not_or, not_not] at h
  obtain ⟨_, -, _, ⟨⟨hknown, hroles⟩, hlen⟩, _, -, hscopes⟩ := h
  obtain ⟨hwrites, hverifies⟩ := checkAuthority_ok hauthority
  obtain ⟨role, hrole⟩ := Option.ne_none_iff_exists'.mp hkindOk
  have hmem : role ∈ specialistRoles := hknown (List.mem_filterMap.mpr ⟨node, hnode, hrole⟩)
  have hspecialist : role ∈ [AgentRole.researcher, .architect] := by
    cases role with
    | researcher | architect => decide
    | cos => exact absurd hmem (by decide)
    | engineer =>
        rw [hwrites.mpr hrole] at hreads
        cases hreads
    | verifier =>
        rw [hverifies.mpr hrole] at hworker
        cases hworker
  constructor
  · rw [hrole]
    rcases List.mem_cons.mp hspecialist with rfl | hrest
    · exact .inl rfl
    · rw [List.mem_singleton.mp hrest]
      exact .inr rfl
  · by_contra hother
    exact hscopes ⟨role, hspecialist, node, byRole_eq hroles hlen hnode hrole, .inr hother⟩

/-- The workers of an accepted plan. -/
theorem worker_of_accepted {knownRoles : Option (List String)} (htask : task.Validates casefold)
    (hadaptive : plan.strategy.IsAdaptive)
    (haccepted : validateFleetPlan casefold plan task.spec knownRoles = .ok ())
    (hnode : node ∈ plan.nodes) (hworker : node.independentVerifier = false) :
    Worker casefold task node := by
  have hdirect : plan.strategy ≠ .direct := by
    rintro hdirect
    rcases hadaptive with hstrategy | hstrategy
    · rw [hdirect] at hstrategy
      cases hstrategy
    · rw [hdirect] at hstrategy
      cases hstrategy
  simp only [validateFleetPlan, bind_ok, forM_ok, if_neg hdirect] at haccepted
  obtain ⟨_, -, _, -, _, -, _, hkinds, _, -, _, -, haccepted⟩ := haccepted
  simp only [checkCodeChange, checkWriter, bind_ok, forM_ok, planCheck_ok, not_or] at haccepted
  obtain ⟨_, hchange, _, hsome, _, hwriters, _, -, _, hstrategy, _, hauthority, -⟩ := haccepted
  have hwriter : ∀ writer ∈ plan.writers, writer.scope ≠ [] ∧ ∀ path ∈ writer.scope,
      pathIsWithin casefold path task.allowedPaths task.forbiddenPaths = true := by
    intro writer hmem
    obtain ⟨_, ⟨-, hscope⟩, hinside⟩ := hwriters writer hmem
    exact ⟨hscope, fun path hpath => within_of_not_outside hinside hpath⟩
  have hauthorized := hauthority node hnode
  have hkindOk : node.effectiveKind ≠ none := by
    intro hnone
    have hkind := hkinds node hnode
    unfold checkKind at hkind
    rw [hnone] at hkind
    cases hkind
  cases hwrites : node.canWrite with
  | true =>
      obtain ⟨hscope, hwithin⟩ := hwriter node (mem_writers.mpr ⟨hnode, hwrites⟩)
      exact .writer hwrites ((checkAuthority_ok hauthorized).1.mp hwrites) hscope hwithin
  | false =>
      unfold checkStrategy at hstrategy
      rcases hadaptive with hparallel | hspecialists
      · rw [hparallel] at hstrategy
        rw [parallel_canWrite hstrategy hnode hworker hauthorized] at hwrites
        cases hwrites
      · rw [hspecialists] at hstrategy
        obtain ⟨hkind, hscope⟩ :=
          specialist_scope hstrategy hnode hworker hwrites hauthorized hkindOk
        refine .reader hwrites hkind hscope fun path hpath => ?_
        have hne : plan.writers ≠ [] := fun hnone => hsome ⟨not_not.mp hchange, hnone⟩
        obtain ⟨writer, hmem⟩ := List.exists_mem_of_ne_nil _ hne
        obtain ⟨hscope', hwithin⟩ := hwriter writer hmem
        obtain ⟨first, hfirst⟩ := List.exists_mem_of_ne_nil _ hscope'
        rw [hscope] at hpath
        exact allowed_within htask (hwithin first hfirst) hpath

end Scopes

/-! ### Construction -/

section Construction

variable {svc : Services} {casefold : String → String} {parent : RunRecord} {task : TaskRecord}
  {plan : FleetPlan} {node : FleetPlanNode} {goal : String} {identity : ChildIdentity}

/-- The run of a child has the sandbox of its parent, digests included. -/
theorem childRun_filled (hparent : parent.validate svc = some parent) :
    (childRun parent node goal identity).filled svc
      = { childRun parent node goal identity with
          sandboxConfigurationHash := parent.sandboxConfigurationHash
          sandboxCapabilitiesHash := parent.sandboxCapabilitiesHash } := by
  obtain ⟨hconfigurationHash, hcapabilitiesHash, hconfiguration, hrequirements, hcapabilities⟩ :=
    RunRecord.filled_of_validate hparent
  unfold RunRecord.filled
  congr 1
  · exact hconfiguration.symm
  · exact hconfigurationHash.symm
  · exact hrequirements.symm
  · exact hcapabilities.symm
  · exact hcapabilitiesHash.symm

/-- The run of a child can be constructed. -/
theorem childRun_validates (hparent : parent.validate svc = some parent)
    (hplanned : parent.fleetPlanHash ≠ none) (hnode : isLowerIdentifier 64 node.nodeId = true)
    (hidentity : identity.Fresh parent) :
    (childRun parent node goal identity).validates svc := by
  obtain ⟨⟨hinherited, hown, -, hselection, -⟩, -⟩ := RunRecord.validate_eq_some.mp hparent
  refine ⟨hinherited, ?_, ?_, ?_, fun _ => rfl, fun _ => rfl⟩
  · refine ⟨hidentity.runId, hidentity.correlationId, ?_, ?_, ?_, ?_, ?_, ?_, ?_, Nat.zero_le _,
      Nat.zero_le _, ?_, ?_, Nat.zero_le _, List.nodup_nil⟩
    · rintro _ ⟨⟩
      exact hown.1
    · rintro _ ⟨⟩
      exact hnode
    · rintro _ ⟨⟩
      exact Nat.zero_le _
    · rintro _ ⟨⟩
      exact hidentity.taskId
    · intro artifact hmem
      have hnone : artifact = none := by simpa [childRun] using hmem
      rw [hnone]
      rintro _ ⟨⟩
    · rintro _ ⟨⟩
    · rintro _ ⟨⟩
    · exact fun _ hmem => absurd hmem List.not_mem_nil
    · exact fun _ hmem => absurd hmem List.not_mem_nil
  · refine ⟨.inr ⟨Option.some_ne_none _, hplanned, Option.some_ne_none _, Option.some_ne_none _⟩, ?_⟩
    intro hself
    exact hidentity.new (Option.some.inj hself).symm
  · obtain ⟨hruntime, hfake, hprovider, -, hfake', hfake'', hprovider', -, hdocker, hother⟩ :=
      hselection
    refine ⟨hruntime, hfake, hprovider, ?_, hfake', hfake'', hprovider', ?_, hdocker, hother⟩
    · rintro _ ⟨⟩
    · rintro _ ⟨⟩

/-- The criteria of a child are those of its node. -/
theorem childTask_criteria (hcriteria : node.criterionIds ⊆ task.criterionIds) :
    sameSet node.criterionIds (childTask parent task node goal identity).criterionIds := by
  constructor
  · intro criterion hmem
    obtain ⟨item, hitem, rfl⟩ := List.mem_map.mp (hcriteria hmem)
    exact List.mem_map.mpr ⟨item, List.mem_filter.mpr ⟨hitem, decide_eq_true hmem⟩, rfl⟩
  · intro criterion hmem
    obtain ⟨item, hitem, rfl⟩ := List.mem_map.mp hmem
    exact of_decide_eq_true (List.mem_filter.mp hitem).2

theorem childEvidence_valid (canWrite : Bool) :
    (∀ requirement ∈ childEvidence canWrite, requirement ∈ evidenceRequirements)
      ∧ (1 ≤ (childEvidence canWrite).length ∧ (childEvidence canWrite).length ≤ 32)
      ∧ (childEvidence canWrite).Nodup := by
  cases canWrite with
  | true | false => decide

theorem childTask_paths (htask : task.Validates casefold) (hnode : node.Validates casefold)
    (hworker : Worker casefold task node) :
    repositoryPathsValid casefold node.scope
      ∧ writeScopeValid casefold node.scope task.forbiddenPaths := by
  cases hworker with
  | writer _ _ _ hwithin =>
      exact ⟨repositoryPathsValid_of_within htask hnode.scope.1 hnode.scope.2.2 hwithin,
        writeScopeValid_of_within htask hwithin⟩
  | reader _ _ hscope =>
      rw [hscope]
      exact ⟨htask.allowed, htask.writeScope⟩

/-- The task of a child can be constructed. -/
theorem childTask_validates (htask : task.Validates casefold) (hnode : node.Validates casefold)
    (hworker : Worker casefold task node) (hassigned : node.criterionIds ≠ [])
    (hcriteria : node.criterionIds ⊆ task.criterionIds) (hidentity : identity.Fresh parent) :
    (childTask parent task node goal identity).Validates casefold := by
  obtain ⟨hallowed, hwriteScope⟩ := childTask_paths htask hnode hworker
  have hfields := htask.fields
  have hsublist : (childTask parent task node goal identity).acceptanceCriteria.Sublist
      task.acceptanceCriteria := List.filter_sublist
  constructor
  case fields =>
    constructor
    case taskId => exact hidentity.taskId
    case runId => exact hidentity.runId
    case workflow => exact hfields.workflow
    case criteria => exact fun item hitem => hfields.criteria item (hsublist.subset hitem)
    case someCriterion =>
      constructor
      · obtain ⟨criterion, hmem⟩ := List.exists_mem_of_ne_nil _ hassigned
        have hchild : criterion ∈ (childTask parent task node goal identity).criterionIds :=
          (childTask_criteria hcriteria).1 hmem
        obtain ⟨item, hitem, -⟩ := List.mem_map.mp hchild
        exact List.length_pos_of_mem hitem
      · exact hsublist.length_le.trans hfields.someCriterion.2
    case evidence => exact (childEvidence_valid node.canWrite).1
    case someEvidence => exact (childEvidence_valid node.canWrite).2.1
    case repairs => exact Nat.zero_le _
    case commands =>
      unfold childTask
      split
      · exact hfields.commands
      · exact Nat.zero_le _
    case required =>
      unfold childTask
      split
      · exact hfields.required
      · exact ⟨fun _ hmem => absurd hmem List.not_mem_nil, Nat.zero_le _⟩
  case uniqueEvidence => exact (childEvidence_valid node.canWrite).2.2
  case uniqueCriteria => exact htask.uniqueCriteria.sublist (hsublist.map _)
  case allowed => exact hallowed
  case forbidden => exact htask.forbidden
  case changeEvidence =>
    intro hchange
    have hwrites : node.canWrite = true := by
      by_contra hno
      simp [childTask, hno] at hchange
    simp [childTask, childEvidence, hwrites]
  case changeScope =>
    cases hworker with
    | writer _ _ hscope => exact fun _ => hscope
    | reader hreads =>
        unfold childTask
        rw [hreads]
        rintro ⟨⟩
  case writeScope => exact hwriteScope
  case uniqueCommands =>
    unfold childTask TaskRecord.commandIds
    split
    · exact htask.uniqueCommands
    · exact List.nodup_nil
  case uniqueRequired =>
    unfold childTask
    split
    · exact htask.uniqueRequired
    · exact List.nodup_nil
  case requiredKnown =>
    unfold childTask TaskRecord.commandIds
    split
    · exact htask.requiredKnown
    · exact List.nil_subset _

/-! ### Admission -/

/-- The dictionary of distinct entries finds each of them. -/
theorem lastWith_eq {α : Type} {key : α → String} {items : List α} (h : (items.map key).Nodup)
    {item : α} (hitem : item ∈ items) : lastWith key items (key item) = some item :=
  (Keyed.get?_eq_some_iff h).mpr ⟨hitem, rfl⟩

theorem childRun_bound (hparent : parent.validate svc = some parent)
    (hidentity : identity.Fresh parent) :
    ¬ runUnbound parent node ((childRun parent node goal identity).filled svc)
      (childTask parent task node goal identity) := by
  have hinherited : ((childRun parent node goal identity).filled svc).inherited
      = parent.inherited := by
    rw [childRun_filled hparent]
    rfl
  unfold runUnbound
  rw [hinherited]
  simp [RunRecord.filled, childRun, childTask, hidentity.new]

theorem childTask_bound (hbound : RunTask parent task)
    (hwithin : ∀ path ∈ node.scope,
      pathIsWithin casefold path task.allowedPaths task.forbiddenPaths = true)
    (hcriteria : node.criterionIds ⊆ task.criterionIds) :
    ¬ taskUnbound casefold task node (childTask parent task node goal identity) := by
  have hsame : sameSet node.criterionIds (childTask parent task node goal identity).criterionIds :=
    childTask_criteria hcriteria
  simp only [taskUnbound, not_or, not_exists, not_and, not_not, gt_iff_lt, not_lt]
  refine ⟨hbound.baseRevision.symm, rfl, rfl, rfl, ⟨List.Subset.refl _, List.Subset.refl _⟩, ?_,
    Nat.zero_le _, fun criterion hmem => hcriteria (hsame.2 hmem)⟩
  intro path hpath hfalse
  rw [hwithin path hpath] at hfalse
  cases hfalse

theorem childSeed_assigned (hgoal : node.goal = some goal)
    (hcriteria : node.criterionIds ⊆ task.criterionIds) :
    ¬ assignmentUnbound node ((childRun parent node goal identity).filled svc)
      (childTask parent task node goal identity) := by
  have hsame : sameSet node.criterionIds (childTask parent task node goal identity).criterionIds :=
    childTask_criteria hcriteria
  simp only [assignmentUnbound, not_or, not_exists, not_and, not_not]
  refine ⟨rfl, ?_, fun _ => hsame, rfl, rfl, rfl⟩
  intro other hother
  rw [hgoal] at hother
  exact Option.some.inj hother

theorem childTask_criteria_known (htask : task.Validates casefold) :
    ∀ item ∈ (childTask parent task node goal identity).acceptanceCriteria,
      lastWith AcceptanceCriterion.criterionId task.acceptanceCriteria item.criterionId
        = some item :=
  fun _ hitem => lastWith_eq htask.uniqueCriteria (List.mem_filter.mp hitem).1

/-- The child of a writer changes code, with the commands of the parent. -/
theorem childTask_writer (htask : task.Validates casefold) (hwrites : node.canWrite = true)
    (hkind : node.effectiveKind = some .engineer) :
    ¬ writerUnbound task node (childTask parent task node goal identity) := by
  have hchange : (childTask parent task node goal identity).changeKind = .codeChange :=
    if_pos hwrites
  have hevidence : (childTask parent task node goal identity).requiredEvidence
      = ["canonical_patch", "command_evidence"] := if_pos hwrites
  have hcommands : (childTask parent task node goal identity).verificationCommands
      = task.verificationCommands := if_pos hwrites
  unfold writerUnbound
  rw [hchange, hevidence, hcommands]
  rintro (hother | hother | hother | ⟨item, hitem, hunknown⟩)
  · exact hother hkind
  · exact hother rfl
  · exact hother ⟨List.Subset.refl _, List.Subset.refl _⟩
  · exact hunknown (lastWith_eq htask.uniqueCommands hitem)

/-- The child of a specialist only reads. -/
theorem childTask_reader (hreads : ¬ node.canWrite = true)
    (hkind : node.effectiveKind = some .researcher ∨ node.effectiveKind = some .architect) :
    ¬ readerUnbound node (childTask parent task node goal identity) := by
  have hchange : (childTask parent task node goal identity).changeKind = .readOnly :=
    if_neg hreads
  have hevidence : (childTask parent task node goal identity).requiredEvidence
      = ["control_plane_plan"] := if_neg hreads
  have hcommands : (childTask parent task node goal identity).verificationCommands = [] :=
    if_neg hreads
  have hrequired : (childTask parent task node goal identity).requiredVerificationCommandIds = [] :=
    if_neg hreads
  unfold readerUnbound
  rw [hchange, hevidence, hcommands, hrequired]
  rintro (hother | hother | hother | hother | hother)
  · exact hother hkind
  · exact hother rfl
  · exact hother rfl
  · exact hother rfl
  · exact hother rfl

/-- The store accepts the seed of a worker. -/
theorem validateSeed_ok (hparent : parent.validate svc = some parent)
    (htask : task.Validates casefold) (hbound : RunTask parent task)
    (hidentity : identity.Fresh parent) (hworker : Worker casefold task node)
    (hgoal : node.goal = some goal) (hcriteria : node.criterionIds ⊆ task.criterionIds) :
    validateSeed casefold parent task node
      { nodeId := node.nodeId
        run := (childRun parent node goal identity).filled svc
        task := childTask parent task node goal identity } = .ok () := by
  have hwithin : ∀ path ∈ node.scope,
      pathIsWithin casefold path task.allowedPaths task.forbiddenPaths = true := by
    cases hworker with
    | writer _ _ _ hwithin | reader _ _ _ hwithin => exact hwithin
  unfold validateSeed
  simp only [refuse_bind_ok]
  refine ⟨?_, ?_, childSeed_assigned hgoal hcriteria, ?_⟩
  · rintro (hrun | hbeyond)
    · exact childRun_bound hparent hidentity hrun
    · exact childTask_bound hbound hwithin hcriteria hbeyond
  · rintro ⟨item, hitem, hunknown⟩
    exact hunknown (childTask_criteria_known htask item hitem)
  · cases hworker with
    | writer hwrites hkind =>
        rw [if_pos hwrites, refuse_ok]
        exact childTask_writer htask hwrites hkind
    | reader hreads hkind =>
        have hno : ¬ node.canWrite = true := by
          rw [hreads]
          exact Bool.false_ne_true
        rw [if_neg hno, refuse_ok]
        exact childTask_reader hno hkind

/-- One turn of the loop derives a seed that the store accepts. -/
theorem childSeed_ok (hparent : parent.validate svc = some parent)
    (htask : task.Validates casefold) (hbound : RunTask parent task)
    (hidentity : identity.Fresh parent) (hnode : node.Validates casefold)
    (hworker : Worker casefold task node) (hgoal : node.goal = some goal)
    (hassigned : node.criterionIds ≠ []) (hcriteria : node.criterionIds ⊆ task.criterionIds) :
    ∃ seed, childSeed svc casefold parent task node identity = .ok seed
      ∧ seed.nodeId = node.nodeId ∧ validateSeed casefold parent task node seed = .ok () := by
  have hrun := @childRun_validates svc parent node goal identity hparent hbound.planned
    hnode.nodeId hidentity
  have hrecord := @childTask_validates casefold parent task node goal identity htask hnode hworker
    hassigned hcriteria hidentity
  refine ⟨_, ?_, rfl,
    validateSeed_ok hparent htask hbound hidentity hworker hgoal hcriteria⟩
  unfold childSeed
  simp only [bind_ok, demand_ok, refuse_ok, return_ok]
  exact ⟨goal, hgoal, _, RunRecord.validate_eq_some.mpr ⟨hrun, rfl⟩, (), not_not.mpr hrecord, rfl⟩

end Construction

/-! ### Agreement -/

variable {node : FleetPlanNode}

theorem mem_sortedWorkers {plan : FleetPlan} :
    node ∈ sortedWorkers plan ↔ node ∈ plan.nodes ∧ node.independentVerifier = false := by
  unfold sortedWorkers
  rw [List.mem_filter, List.mem_mergeSort, Bool.not_eq_true']

theorem criteria_of_accepted {casefold : String → String} {plan : FleetPlan} {task : TaskRecord}
    {knownRoles : Option (List String)}
    (haccepted : validateFleetPlan casefold plan task.spec knownRoles = .ok ())
    (hnode : node ∈ plan.nodes) : node.criterionIds ⊆ task.criterionIds := by
  simp only [validateFleetPlan, bind_ok, planCheck_ok] at haccepted
  obtain ⟨_, -, _, -, _, -, _, -, _, hcriteria, -⟩ := haccepted
  by_contra hother
  exact hcriteria ⟨node, hnode, hother⟩

/-- From an accepted plan whose nodes all have a goal and a criterion, the engine derives one seed
for every worker, in the order of their identifiers, and the store accepts each. -/
theorem graph_seeds_admitted (svc : Services) (casefold : String → String) (parent : RunRecord)
    (task : TaskRecord) (plan : FleetPlan) (knownRoles : Option (List String))
    (identities : String → ChildIdentity) (hparent : parent.validate svc = some parent)
    (htask : task.Validates casefold) (hbound : RunTask parent task)
    (hidentities : ∀ nodeId, (identities nodeId).Fresh parent)
    (hnodes : ∀ node ∈ plan.nodes, node.Validates casefold)
    (hadaptive : plan.strategy.IsAdaptive)
    (haccepted : validateFleetPlan casefold plan task.spec knownRoles = .ok ())
    (hassigned : ∀ node ∈ plan.nodes, node.goal ≠ none ∧ node.criterionIds ≠ []) :
    ∃ seeds, initializeSeeds svc casefold parent task plan identities = .ok seeds
      ∧ seeds.map GraphSeed.nodeId = (sortedWorkers plan).map FleetPlanNode.nodeId
      ∧ ∀ seed ∈ seeds, ∃ node ∈ plan.nodes, node.independentVerifier = false
        ∧ seed.nodeId = node.nodeId ∧ validateSeed casefold parent task node seed = .ok () := by
  have hseed : ∀ node ∈ sortedWorkers plan, ∃ seed,
      childSeed svc casefold parent task node (identities node.nodeId) = .ok seed
        ∧ seed.nodeId = node.nodeId ∧ validateSeed casefold parent task node seed = .ok () := by
    intro node hmem
    obtain ⟨hnode, hworker⟩ := mem_sortedWorkers.mp hmem
    obtain ⟨goal, hgoal⟩ := Option.ne_none_iff_exists'.mp (hassigned node hnode).1
    exact childSeed_ok hparent htask hbound (hidentities node.nodeId) (hnodes node hnode)
      (worker_of_accepted htask hadaptive haccepted hnode hworker) hgoal (hassigned node hnode).2
      (criteria_of_accepted haccepted hnode)
  obtain ⟨seeds, hseeds⟩ := exists_mapM_ok.mpr fun node hmem =>
    (hseed node hmem).imp fun seed h => h.1
  refine ⟨seeds, ?_, ?_, ?_⟩
  · unfold initializeSeeds
    rw [refuse_bind_ok, refuse_bind_ok]
    refine ⟨?_, ?_, hseeds⟩
    · rintro (hnone | hnone)
      · rw [hbound.taskId] at hnone
        cases hnone
      · exact hbound.planned hnone
    · rintro ⟨node, hnode, (hgoal | hgoal) | hcriteria | hunknown⟩
      · exact (hassigned node hnode).1 hgoal
      · have hbounded := (hnodes node hnode).goal "" hgoal
        exact absurd hbounded (by decide)
      · exact (hassigned node hnode).2 hcriteria
      · exact hunknown (criteria_of_accepted haccepted hnode)
  · refine map_of_mapM_ok hseeds fun node seed hseed => ?_
    unfold childSeed at hseed
    simp only [bind_ok, return_ok] at hseed
    obtain ⟨_, -, _, -, _, -, rfl⟩ := hseed
    rfl
  · intro seed hmem
    obtain ⟨node, hnode, hderived⟩ := (mem_of_mapM_ok hseeds).mp hmem
    obtain ⟨seed', hderived', hid, hvalid⟩ := hseed node hnode
    rw [hderived] at hderived'
    cases hderived'
    exact ⟨node, (mem_sortedWorkers.mp hnode).1, (mem_sortedWorkers.mp hnode).2, hid, hvalid⟩

/-! ### A plan with two writers -/

/-- The digits of an identifier that ends in one digit. -/
def sampleDigits (digit : Char) : String := String.ofList (List.replicate 31 '0' ++ [digit])

/-- The run of the plan. -/
def seedParent : RunRecord where
  runId := "run_" ++ sampleDigits '1'
  projectId := "prj_" ++ sampleDigits '1'
  correlationId := "corr_" ++ sampleDigits '1'
  goal := "Parse and print."
  baseRevision := "head"
  targetStatusFingerprint := zeroDigest
  sandboxConfiguration := some {}
  sandboxConfigurationHash := some zeroDigest
  sandboxRequirements := some {}
  sandboxCapabilitiesSnapshot := some .phase1Fake
  sandboxCapabilitiesHash := some zeroDigest
  status := .running
  stage := some .scoping
  taskId := some ("task_" ++ sampleDigits '1')
  configSnapshotHash := some oneDigest
  fleetPlanHash := some oneDigest
  createdAt := 0
  updatedAt := 0

/-- The task of the run. -/
def seedTask : TaskRecord where
  taskId := "task_" ++ sampleDigits '1'
  runId := "run_" ++ sampleDigits '1'
  originalGoal := "Parse and print."
  normalizedGoal := "Parse and print."
  baseRevision := "head"
  allowedPaths := ["src"]
  forbiddenPaths := ["docs"]
  acceptanceCriteria := [⟨"parses", "It parses."⟩, ⟨"prints", "It prints."⟩]
  requiredEvidence := ["canonical_patch", "command_evidence", "independent_verifier_verdict"]
  maxRepairIterations := 1
  configSnapshotHash := oneDigest
  createdAt := 0

/-- The plan of the run: two engineers with goals of their own, and their verifier. -/
def seedPlan : FleetPlan where
  planId := "plan_1"
  runId := "run_" ++ sampleDigits '1'
  taskId := "task_" ++ sampleDigits '1'
  strategy := .parallelEngineers
  nodes := [
    { parserNode with goal := some "Parse.", criterionIds := ["parses"] },
    { printerNode with goal := some "Print.", criterionIds := ["prints"] },
    { checkNode with goal := some "Check.", criterionIds := ["parses", "prints"] }]
  maxParallelAgents := 2
  requiredEvidence := ["canonical_patch", "command_evidence", "independent_verifier_verdict"]
  rationale := "The parser and the printer are apart."
  createdAt := 0
  uniqueNodeIds := by decide
  knownDependencies := by decide
  acyclic := by decide

/-- What the engine hands out for the children. -/
def seedIdentity (nodeId : String) : ChildIdentity :=
  let digit := if nodeId = "parser" then '2' else '3'
  { runId := "run_" ++ sampleDigits digit
    taskId := "task_" ++ sampleDigits digit
    correlationId := "corr_" ++ sampleDigits digit
    now := 1 }

theorem seedIdentity_fresh (nodeId : String) : (seedIdentity nodeId).Fresh seedParent := by
  unfold seedIdentity
  split
  · exact ⟨by decide, by decide, by decide, by decide⟩
  · exact ⟨by decide, by decide, by decide, by decide⟩

theorem graph_seeds_admitted_seedPlan :
    ∃ seeds, initializeSeeds sampleServices id seedParent seedTask seedPlan seedIdentity = .ok seeds
      ∧ seeds.map GraphSeed.nodeId = (sortedWorkers seedPlan).map FleetPlanNode.nodeId
      ∧ ∀ seed ∈ seeds, ∃ node ∈ seedPlan.nodes, node.independentVerifier = false
        ∧ seed.nodeId = node.nodeId
        ∧ validateSeed id seedParent seedTask node seed = .ok () :=
  graph_seeds_admitted sampleServices id seedParent seedTask seedPlan none seedIdentity
    (by decide) (by decide) ⟨rfl, rfl, rfl, Option.some_ne_none _⟩
    seedIdentity_fresh (by decide) (.inl rfl) (by rfl) (by decide)

end AgentFleet
