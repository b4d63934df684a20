import AgentFleet.Graph.Store

/-! # The operations of the graph store

`initializeGraph` binds the nodes of a plan to child runs.  `claimDriver` and
`claimContinuation` hand out the claim that the guarded operations ask for: `transitionNode`,
`markJoinPrepared`, `markJoinComplete` and `releaseDriver`.  `requestCancel` needs no claim and
ends the one there is.  A claim is never renewed and does not expire. -/

namespace AgentFleet

open Relational Transaction

/-- The error of `_boundary` for a failure of SQLite. -/
def graphUnavailable : StoreError :=
  .fleet {
    code := .stateUnavailable
    message := "The durable graph store is unavailable."
    remediation := "Restore the selected state and artifacts; unrecorded graph dispatch is "
      ++ "forbidden." }

variable (svc : GraphServices) (reads : GraphReads) (amb : Ambient)

/-! ### Initialization -/

/-- The rows of one child of `initialize`, whose places of the clock and of the identifiers
start at `k`. -/
def bindChild (k : ℕ) (parent : Run) (planSha256 : Sha256) (plan : FleetPlan)
    (seed : GraphChildSeed) : GraphTxn GraphNodeRecord := do
  let node ← expect graphInvalid (plan.workers.find? fun node => node.nodeId = seed.nodeId)
  refuseIf (reads.seedAdmitted seed = false) graphInvalid
  let r ← graphRecords
  let runs ← expect graphUnavailable
    (r.runs.insert { run := seed.run, projectId := seed.run.projectId })
  let tasks ← expect graphUnavailable (r.tasks.insert seed.task)
  setGraphRecords { r with runs, tasks }
  graphEvent svc amb k seed.run "run.created" (JsonValue.object [
    ("internal_child", .bool true),
    ("parent_run_id", .str parent.runId),
    ("node_id", .str seed.nodeId),
    ("status", .str seed.run.status.value)])
  graphEvent svc amb (k + 1) seed.run "task.scoped"
    (JsonValue.object [("task_id", .str seed.task.taskId)])
  let record : GraphNodeRecord :=
    { binding :=
        { projectId := parent.projectId
          parentRunId := parent.runId
          planSha256 := planSha256
          nodeId := seed.nodeId
          childRunId := seed.run.runId
          childTaskId := seed.task.taskId
          nodeSha256 := svc.nodeSha256 node
          taskSha256 := svc.taskSha256 seed.task
          runBindingSha256 := svc.runBindingSha256 seed.run
          createdAt := amb.clock (k + 2) }
      node := node
      updatedAt := amb.clock (k + 3) }
  refuseIf (¬ record.validates svc) graphInvalid
  return record

/-- The loop of `initialize` over its children. -/
def bindChildren (k : ℕ) (parent : Run) (planSha256 : Sha256) (plan : FleetPlan) :
    List GraphChildSeed → GraphTxn (List GraphNodeRecord)
  | [] => return []
  | seed :: seeds => do
      let record ← bindChild svc reads amb k parent planSha256 plan seed
      let records ← bindChildren (k + 4) parent planSha256 plan seeds
      return record :: records

/-- The INSERTs into `fleet_graph_nodes`. -/
def insertNodes (nodes : Table GraphNodeRecord) :
    List GraphNodeRecord → GraphTxn (Table GraphNodeRecord)
  | [] => return nodes
  | record :: records => do
      let inserted ← expect graphUnavailable (nodes.insert record)
      insertNodes inserted records

/-- The rest of `initialize` for a parent without a graph. -/
def insertGraph (parent : Run) (plan : FleetPlan) (children : List GraphChildSeed) :
    GraphTxn GraphSnapshot := do
  refuseIf (parent.status ≠ .running) graphInvalid
  let taskId ← expect graphInvalid parent.taskId
  let task ← graphTask taskId
  let planArtifactId ← expect graphInvalid parent.fleetPlanArtifactId
  let planSha256 ← expect graphInvalid parent.fleetPlanHash
  let workerIds := plan.workers.map FleetPlanNode.nodeId
  let childIds := children.map GraphChildSeed.nodeId
  refuseIf (children.length ≠ workerIds.length ∨ ¬ (childIds ⊆ workerIds ∧ workerIds ⊆ childIds))
    graphInvalid
  let records ← bindChildren svc reads amb 0 parent planSha256 plan
    (children.mergeSort fun a b => a.nodeId ≤ b.nodeId)
  let k := 4 * children.length
  let graph : GraphSnapshot :=
    { projectId := parent.projectId
      parentRunId := parent.runId
      parentTaskId := task.taskId
      planId := plan.planId
      planArtifactId := planArtifactId
      planSha256 := planSha256
      plan := plan
      nodes := records
      createdAt := amb.clock k
      updatedAt := amb.clock (k + 1) }
  let manifest ← validatedGraph svc reads graph
  let T ← getTables
  let graphs ← expect graphUnavailable (T.graphs.insert { graph, manifest })
  let nodes ← insertNodes T.nodes records
  setTables { T with graphs, nodes }
  graphEvent svc amb (k + 2) parent "graph.initialized"
    (JsonValue.object [("manifest_sha256", .str (svc.snapshotSha256 manifest).hex)])
  return graph

/-- `initialize`. -/
def initializeGraph (parentRunId : String) (plan : FleetPlan) (children : List GraphChildSeed) :
    GraphTxn GraphSnapshot := do
  refuseIf (reads.clean = false) graphInvalid
  let parent ← graphRun parentRunId
  let T ← getTables
  refuseIf (∃ record ∈ T.nodes.rows, record.binding.childRunId = parentRunId) graphInvalid
  let actual ← planOf reads parent
  refuseIf (actual ≠ plan) graphInvalid
  let existing ← getGraph svc reads parentRunId
  match existing with
  -- a retried planning step cannot substitute newly allocated child identifiers
  | some graph => return graph
  | none => insertGraph svc reads amb parent plan children

/-! ### Claims -/

/-- The graph under a new claim. -/
def GraphSnapshot.claimed (graph : GraphSnapshot) (claim : GraphDriverClaim) (now : Timestamp) :
    GraphSnapshot :=
  { graph with
    driverClaim := some claim
    driverGeneration := claim.generation
    revision := graph.revision + 1
    updatedAt := now
    status := .running }

/-- The rest of the two claiming operations: the next generation is claimed. -/
def recordClaim (graph : GraphSnapshot) (kind : String) : GraphTxn GraphDriverClaim := do
  let claim : GraphDriverClaim :=
    { parentRunId := graph.parentRunId
      planSha256 := graph.planSha256
      claimId := amb.ids 0
      generation := graph.driverGeneration + 1
      claimedAt := amb.clock 0 }
  let T ← getTables
  let claims ← expect graphUnavailable (T.claims.insert { claim })
  setTables { T with claims }
  saveGraph svc reads amb 2 (graph.claimed claim (amb.clock 1)) kind
  return claim

/-- `claim_driver`. -/
def claimDriver (parentRunId : String) (expectedRevision : ℤ) : GraphTxn GraphDriverClaim := do
  let graph ← requireGraph svc reads parentRunId
  checkRevision graph.revision expectedRevision
  let parent ← graphRun parentRunId
  refuseIf (graph.driverClaim ≠ none
    ∨ graph.cancelRequestedAt ≠ none
    ∨ ¬ (graph.status = .ready ∨ graph.status = .paused)
    ∨ isTerminal parent.status = true
    ∨ ∃ record ∈ graph.nodes, record.status = .running) graphInvalid
  recordClaim svc reads amb graph "graph.driver_claimed"

/-- `_approval`. -/
def checkApproval (child : Run) (approved : Bool) : GraphTxn Unit := do
  refuseIf (child.status ≠ .pausedForApproval) graphInvalid
  let requestId ← expect graphInvalid child.pendingApprovalId
  let r ← graphRecords
  let request ← expect graphInvalid (r.approval? requestId)
  refuseIf (request.runId ≠ child.runId ∨ (approved = true ∧ request.status ≠ .approved))
    graphInvalid

/-- The approval that a parent must have to continue from its pause. -/
def checkContinuation (parent : Run) : GraphTxn Unit :=
  if parent.status = .pausedForApproval then checkApproval parent true
  else refuseIf (parent.pendingApprovalId ≠ none) graphInvalid

/-- `claim_continuation`. -/
def claimContinuation (parentRunId : String) (expectedRevision : ℤ) :
    GraphTxn GraphDriverClaim := do
  let graph ← requireGraph svc reads parentRunId
  checkRevision graph.revision expectedRevision
  let parent ← graphRun parentRunId
  refuseIf (graph.status ≠ .joined
    ∨ graph.joinCompletion = none
    ∨ graph.driverClaim ≠ none
    ∨ graph.cancelRequestedAt ≠ none
    ∨ ¬ (parent.status = .running ∨ parent.status = .pausedForApproval)
    ∨ ¬ (parent.stage = some .verifying ∨ parent.stage = some .repairing
      ∨ parent.stage = some .presenting)
    ∨ ∃ record ∈ graph.nodes, record.status ≠ .succeeded) graphInvalid
  checkContinuation parent
  recordClaim svc reads amb graph "graph.continuation_claimed"

/-! ### Nodes -/

/-- The kinds of artifact that a successful node delivers. -/
def FleetPlanNode.deliverables (node : FleetPlanNode) : List ArtifactKind :=
  if node.canWrite then [.patch, .implementationReport, .resourceCleanup]
  else [.specialistReport, .resourceCleanup]

/-- `_successful_outputs`. -/
def checkOutputs (graph : GraphSnapshot) (record : GraphNodeRecord) (child : Run)
    (outputs : List GraphArtifactRef) : GraphTxn Unit := do
  let expected := record.node.deliverables
  let kinds := outputs.map GraphArtifactRef.kind
  refuseIf (child.status ≠ .completed
    ∨ child.stage ≠ some .presenting
    ∨ child.verifiedComplete = true
    ∨ child.evidenceBundleArtifactId ≠ none
    ∨ ¬ (kinds ⊆ expected ∧ expected ⊆ kinds)
    ∨ outputs.length ≠ expected.length
    ∨ (∃ ref ∈ outputs, ref.runId ≠ child.runId)
    ∨ (∃ ref ∈ outputs,
      reads.artifact ref graph.projectId record.binding.childTaskId = false)
    ∨ (∃ ref ∈ outputs, ref.kind = .patch
      ∧ (some ref.artifactId, some ref.sha256) ≠ (child.patchArtifactId, child.patchSha256))
    ∨ (∃ ref ∈ outputs, ref.kind = .resourceCleanup
      ∧ (some ref.artifactId, some ref.sha256)
        ≠ (child.cleanupReceiptArtifactId, child.cleanupReceiptSha256))
    ∨ reads.outputsIntact record.binding outputs = false) graphInvalid

/-- The nodes that a node depends on. -/
def GraphSnapshot.dependencies (graph : GraphSnapshot) (record : GraphNodeRecord) :
    List GraphNodeRecord :=
  graph.nodes.filter fun item => record.node.dependsOn.contains item.binding.nodeId

/-- The child of a node that starts to run: it was approved, or it has not paused. -/
def checkChild (record : GraphNodeRecord) (child : Run) : GraphTxn Unit :=
  if record.status = .waitingApproval then checkApproval child true
  else refuseIf (¬ (child.status = .created ∨ child.status = .running)) graphInvalid

/-- The checks of `transition_node` on a node that starts to run. -/
def checkDispatch (graph : GraphSnapshot) (record : GraphNodeRecord) (child : Run)
    (inputs outputs : List GraphArtifactRef) : GraphTxn Unit := do
  refuseIf (outputs ≠ [] ∨ graph.joinPreparation ≠ none) graphInvalid
  let dependencies := graph.dependencies record
  refuseIf (dependencies.length ≠ record.node.dependsOn.length
    ∨ ∃ item ∈ dependencies, item.status ≠ .succeeded) graphInvalid
  refuseIf (inputs ≠ dependencies.flatMap GraphNodeRecord.outputArtifacts
    ∨ (record.startedAt ≠ none ∧ inputs ≠ record.inputArtifacts)) graphInvalid
  refuseIf ((graph.nodes.filter fun item => item.status = .running).length
    ≥ graph.plan.maxParallelAgents) graphInvalid
  refuseIf (∃ item ∈ dependencies, ∃ ref ∈ item.outputArtifacts,
    reads.artifact ref graph.projectId item.binding.childTaskId = false) graphInvalid
  checkChild record child
  refuseIf (reads.childPrepared child = false) graphInvalid

/-- The checks of `transition_node` on the target status. -/
def checkTarget (graph : GraphSnapshot) (record : GraphNodeRecord) (child : Run)
    (target : GraphNodeStatus) (inputs outputs : List GraphArtifactRef) : GraphTxn Unit :=
  match target with
  | .running => checkDispatch reads graph record child inputs outputs
  | .waitingApproval => do
      refuseIf (inputs ≠ [] ∧ inputs ≠ record.inputArtifacts) graphInvalid
      checkApproval child false
      refuseIf (outputs ≠ []) graphInvalid
  | .succeeded => do
      refuseIf (inputs ≠ [] ∧ inputs ≠ record.inputArtifacts) graphInvalid
      checkOutputs reads graph record child outputs
  | _ => do
      refuseIf (inputs ≠ [] ∧ inputs ≠ record.inputArtifacts) graphInvalid
      refuseIf (outputs ≠ []) graphInvalid

/-- The record that `transition_node` leaves. -/
def GraphNodeRecord.moved (record : GraphNodeRecord) (target : GraphNodeStatus)
    (inputs outputs : List GraphArtifactRef) (errorCode : Option ErrorCode) (now : Timestamp) :
    GraphNodeRecord :=
  { record with
    status := target
    revision := record.revision + 1
    inputArtifacts := if target = .running then inputs else record.inputArtifacts
    outputArtifacts := outputs
    errorCode := errorCode
    startedAt := record.startedAt <|> if target = .running then some now else none
    finishedAt := if target.isTerminal then some now else none
    updatedAt := now }

/-- The arguments of `transition_node` beside the claim. -/
structure NodeTransition where
  nodeId : String
  iteration : ℤ
  expectedRevision : ℤ
  target : GraphNodeStatus
  inputArtifacts : List GraphArtifactRef := []
  outputArtifacts : List GraphArtifactRef := []
  errorCode : Option ErrorCode := none

/-- `transition_node`. -/
def transitionNode (claim : GraphDriverClaim) (args : NodeTransition) :
    GraphTxn GraphNodeRecord := do
  refuseIf (args.iteration ≠ 0 ∨ reads.clean = false) graphInvalid
  let graph ← ownedGraph svc reads claim
  let found := graph.nodes.filter fun item => item.binding.nodeId = args.nodeId
  refuseIf (found.length ≠ 1) graphInvalid
  let record ← expect graphInvalid found.head?
  checkRevision record.revision args.expectedRevision
  refuseIf (args.target ∉ record.status.transitions) graphInvalid
  let child ← graphRun record.binding.childRunId
  checkTarget reads graph record child args.target args.inputArtifacts args.outputArtifacts
  let updated := record.moved args.target args.inputArtifacts args.outputArtifacts
    args.errorCode (amb.clock 0)
  saveNode svc reads amb 1 updated "graph.node_transitioned"
  return updated

/-! ### Releases and joins -/

/-- The graph without its claim. -/
def GraphSnapshot.released (graph : GraphSnapshot) (status : GraphStatus) (now : Timestamp) :
    GraphSnapshot :=
  { graph with
    driverClaim := none
    status := status
    revision := graph.revision + 1
    updatedAt := now }

/-- `release_driver`. -/
def releaseDriver (claim : GraphDriverClaim) (expectedRevision : ℤ) (status : GraphStatus) :
    GraphTxn GraphSnapshot := do
  let graph ← ownedGraph svc reads claim
  checkRevision graph.revision expectedRevision
  refuseIf (¬ (status = .ready ∨ status = .paused ∨ status = .joined ∨ status = .failed)
    ∨ (∃ record ∈ graph.nodes, record.status = .running)
    ∨ (graph.joinPreparation ≠ none ∧ graph.joinCompletion = none)
    ∨ (status = .joined ∧ graph.joinCompletion = none)
    ∨ (status ≠ .joined ∧ graph.joinCompletion ≠ none)) graphInvalid
  let T ← getTables
  setTables (T.endingClaim claim.claimId .released (amb.clock 0))
  let updated := graph.released status (amb.clock 1)
  saveGraph svc reads amb 2 updated "graph.driver_released"
  return updated

/-- The input that `mark_join_prepared` expects of a writer. -/
def GraphJoinInput.matches (item : GraphJoinInput) (record : GraphNodeRecord) : Prop :=
  ∃ patch ∈ record.outputArtifacts, ∃ report ∈ record.outputArtifacts,
    patch.kind = .patch ∧ report.kind = .implementationReport
      ∧ item.childRunId = record.binding.childRunId
      ∧ item.childTaskId = record.binding.childTaskId
      ∧ item.patchArtifactId = patch.artifactId ∧ item.patchSha256 = patch.sha256
      ∧ item.reportArtifactId = report.artifactId ∧ item.reportSha256 = report.sha256
deriving Decidable

/-- The loop of `mark_join_prepared` over the writers and their inputs. -/
def checkJoinInputs (graph : GraphSnapshot) :
    List (GraphNodeRecord × GraphJoinInput) → GraphTxn Unit
  | [] => return ()
  | (record, item) :: rest => do
      let child ← graphRun record.binding.childRunId
      checkOutputs reads graph record child record.outputArtifacts
      refuseIf (¬ item.matches record) graphInvalid
      checkJoinInputs graph rest

/-- The graph with its preparation. -/
def GraphSnapshot.prepared (graph : GraphSnapshot) (receipt : GraphJoinPreparation)
    (now : Timestamp) : GraphSnapshot :=
  { graph with
    joinPreparation := some receipt
    revision := graph.revision + 1
    updatedAt := now }

/-- The rest of `mark_join_prepared` for a graph without a preparation. -/
def prepareJoin (graph : GraphSnapshot) (receipt : GraphJoinPreparation) :
    GraphTxn GraphSnapshot := do
  let parent ← graphRun graph.parentRunId
  refuseIf ((∃ record ∈ graph.nodes, record.status ≠ .succeeded)
    ∨ (receipt.parentRunId, receipt.parentTaskId, receipt.planSha256,
        some receipt.configSnapshotSha256, receipt.baseRevision)
      ≠ (graph.parentRunId, graph.parentTaskId, graph.planSha256, parent.configSnapshotHash,
        parent.baseRevision)) graphInvalid
  let writers := graph.nodes.filter fun record => record.node.canWrite
  refuseIf (receipt.orderedInputs.map GraphJoinInput.nodeId
    ≠ writers.map fun record => record.binding.nodeId) graphInvalid
  checkJoinInputs reads graph (writers.zip receipt.orderedInputs)
  let updated := graph.prepared receipt (amb.clock 0)
  saveGraph svc reads amb 1 updated "graph.join_prepared"
  return updated

/-- `mark_join_prepared`. -/
def markJoinPrepared (claim : GraphDriverClaim) (receipt : GraphJoinPreparation)
    (expectedRevision : ℤ) : GraphTxn GraphSnapshot := do
  refuseIf (reads.clean = false ∨ ¬ receipt.validates) graphInvalid
  let graph ← ownedGraph svc reads claim
  checkRevision graph.revision expectedRevision
  match graph.joinPreparation with
  | some recorded => do
      refuseIf (recorded ≠ receipt) graphInvalid
      return graph
  | none => prepareJoin svc reads amb graph receipt

/-- The graph with its completion. -/
def GraphSnapshot.completed (graph : GraphSnapshot) (result : GraphJoinCompletion)
    (now : Timestamp) : GraphSnapshot :=
  { graph with
    joinCompletion := some result
    status := .joined
    revision := graph.revision + 1
    updatedAt := now }

/-- The rest of `mark_join_complete` for a graph without a completion. -/
def completeJoin (graph : GraphSnapshot) (result : GraphJoinCompletion) :
    GraphTxn GraphSnapshot := do
  let parent ← graphRun graph.parentRunId
  let preparation ← expect graphInvalid graph.joinPreparation
  refuseIf (result.preparationSha256 ≠ preparation.preparationSha256 svc
    ∨ (some result.parentPatchArtifactId, some result.parentPatchSha256)
      ≠ (parent.patchArtifactId, parent.patchSha256)) graphInvalid
  let ref : GraphArtifactRef :=
    { artifactId := result.parentPatchArtifactId
      sha256 := result.parentPatchSha256
      runId := parent.runId
      kind := .patch }
  refuseIf (reads.artifact ref graph.projectId graph.parentTaskId = false
    ∨ reads.candidateLease parent.runId result.workspaceId = false) graphInvalid
  let updated := graph.completed result (amb.clock 0)
  saveGraph svc reads amb 1 updated "graph.join_completed"
  return updated

/-- `mark_join_complete`. -/
def markJoinComplete (claim : GraphDriverClaim) (result : GraphJoinCompletion)
    (expectedRevision : ℤ) : GraphTxn GraphSnapshot := do
  refuseIf (reads.clean = false) graphInvalid
  let graph ← ownedGraph svc reads claim
  checkRevision graph.revision expectedRevision
  match graph.joinCompletion with
  | some recorded => do
      refuseIf (recorded ≠ result) graphInvalid
      return graph
  | none => completeJoin svc reads amb graph result

/-! ### Cancellation -/

/-- A child run that has not ended is cancelled with its parent. -/
def cancelChild (k : ℕ) (parentRunId : String) (child : Run) (now : Timestamp) : GraphTxn Unit :=
  if isTerminal child.status = true then return ()
  else do
    let cancelled := { child with status := .cancelled, updatedAt := now }
    let r ← graphRecords
    setGraphRecords (r.withRun cancelled)
    graphEvent svc amb k cancelled "run.cancelled"
      (JsonValue.object [("parent_run_id", .str parentRunId)])

/-- The record of a cancelled node. -/
def GraphNodeRecord.cancelled (record : GraphNodeRecord) (now : Timestamp) : GraphNodeRecord :=
  { record with
    status := .cancelled
    revision := record.revision + 1
    finishedAt := some now
    updatedAt := now }

/-- A node that has not ended is cancelled. -/
def cancelNode (k : ℕ) (record : GraphNodeRecord) (now : Timestamp) :
    GraphTxn GraphNodeRecord :=
  if record.status.isTerminal = true then return record
  else do
    saveNode svc reads amb k (record.cancelled now) "graph.node_cancelled"
    return record.cancelled now

/-- The loop of `_request_cancel_in_transaction` over the nodes. -/
def cancelNodes (k : ℕ) (parentRunId : String) (now : Timestamp) :
    List GraphNodeRecord → GraphTxn (List GraphNodeRecord)
  | [] => return []
  | record :: records => do
      let child ← graphRun record.binding.childRunId
      cancelChild svc amb k parentRunId child now
      let ended ← cancelNode svc reads amb (k + 1) record now
      let rest ← cancelNodes (k + 2) parentRunId now records
      return ended :: rest

/-- The end of the driver's claim at a cancellation. -/
def cancelClaim (graph : GraphSnapshot) (now : Timestamp) : GraphTxn Unit :=
  match graph.driverClaim with
  | none => return ()
  | some claim => do
      let T ← getTables
      setTables (T.endingClaim claim.claimId .cancelled now)

/-- The cancelled graph. -/
def GraphSnapshot.cancelled (graph : GraphSnapshot) (nodes : List GraphNodeRecord)
    (now : Timestamp) : GraphSnapshot :=
  { graph with
    nodes := nodes
    driverClaim := none
    cancelRequestedAt := some now
    status := .cancelled
    revision := graph.revision + 1
    updatedAt := now }

/-- `request_cancel`. -/
def requestCancel (parentRunId : String) (expectedRevision : ℤ) : GraphTxn GraphSnapshot := do
  let graph ← requireGraph svc reads parentRunId
  checkRevision graph.revision expectedRevision
  if graph.cancelRequestedAt ≠ none then return graph
  else do
    let now := amb.clock 0
    let nodes ← cancelNodes svc reads amb 1 parentRunId now graph.nodes
    cancelClaim graph now
    let updated := graph.cancelled nodes now
    saveGraph svc reads amb (2 * graph.nodes.length + 1) updated "graph.cancel_requested"
    return updated

end AgentFleet
