import AgentFleet.Domain.FleetPlan

/-! # Graph records

The records of an adaptive graph: the binding and the progress of each node, the claim of the
driver that may move them, and the receipts of the join.  `GraphSnapshot.validates` is what
every read and every write of a graph checks.

The iteration of a node is always zero, so no record repeats it. -/

namespace AgentFleet

/-! ### Nodes -/

/-- `GraphStatus`. -/
inductive GraphStatus where
  | ready
  | running
  | paused
  | joined
  | failed
  | cancelled
deriving DecidableEq, Repr

/-- The text of a `GraphStatus`. -/
def GraphStatus.value : GraphStatus → String
  | .ready => "ready"
  | .running => "running"
  | .paused => "paused"
  | .joined => "joined"
  | .failed => "failed"
  | .cancelled => "cancelled"

/-- `GraphNodeStatus`. -/
inductive GraphNodeStatus where
  | pending
  | running
  | waitingApproval
  | succeeded
  | failed
  | blocked
  | cancelled
deriving DecidableEq, Repr

/-- The text of a `GraphNodeStatus`. -/
def GraphNodeStatus.value : GraphNodeStatus → String
  | .pending => "pending"
  | .running => "running"
  | .waitingApproval => "waiting_approval"
  | .succeeded => "succeeded"
  | .failed => "failed"
  | .blocked => "blocked"
  | .cancelled => "cancelled"

/-- `_TERMINAL_NODES`. -/
def GraphNodeStatus.isTerminal : GraphNodeStatus → Bool
  | .succeeded | .failed | .blocked | .cancelled => true
  | _ => false

/-- The `transitions` of `transition_node`. -/
def GraphNodeStatus.transitions : GraphNodeStatus → List GraphNodeStatus
  | .pending => [.running, .blocked, .cancelled]
  | .running => [.waitingApproval, .succeeded, .failed, .cancelled]
  | .waitingApproval => [.running, .failed, .blocked, .cancelled]
  | _ => []

/-- `GraphChildSeed`. -/
structure GraphChildSeed where
  nodeId : String
  run : Run
  task : TaskSpec

/-- `GraphChildBinding`. -/
structure GraphChildBinding where
  projectId : String
  parentRunId : String
  planSha256 : Sha256
  nodeId : String
  childRunId : String
  childTaskId : String
  nodeSha256 : Sha256
  taskSha256 : Sha256
  runBindingSha256 : Sha256
  createdAt : Timestamp
deriving DecidableEq

/-- `GraphArtifactRef`. -/
structure GraphArtifactRef where
  artifactId : String
  sha256 : Sha256
  runId : String
  kind : ArtifactKind
deriving DecidableEq

/-- `GraphNodeRecord`: a row of `fleet_graph_nodes`. -/
structure GraphNodeRecord where
  binding : GraphChildBinding
  node : FleetPlanNode
  status : GraphNodeStatus := .pending
  revision : ℕ := 0
  inputArtifacts : List GraphArtifactRef := []
  outputArtifacts : List GraphArtifactRef := []
  errorCode : Option ErrorCode := none
  startedAt : Option Timestamp := none
  finishedAt : Option Timestamp := none
  updatedAt : Timestamp
deriving DecidableEq

/-! ### Drivers and joins -/

/-- `GraphDriverClaim`. -/
structure GraphDriverClaim where
  parentRunId : String
  planSha256 : Sha256
  claimId : String
  generation : ℕ
  claimedAt : Timestamp
deriving DecidableEq

/-- `GraphJoinInput`. -/
structure GraphJoinInput where
  nodeId : String
  childRunId : String
  childTaskId : String
  patchArtifactId : String
  patchSha256 : Sha256
  reportArtifactId : String
  reportSha256 : Sha256
deriving DecidableEq

/-- `GraphJoinPreparation`. -/
structure GraphJoinPreparation where
  parentRunId : String
  parentTaskId : String
  configSnapshotSha256 : Sha256
  planSha256 : Sha256
  baseRevision : String
  orderedInputs : List GraphJoinInput
  createdAt : Timestamp
deriving DecidableEq

/-- `GraphJoinCompletion`. -/
structure GraphJoinCompletion where
  preparationSha256 : Sha256
  parentPatchArtifactId : String
  parentPatchSha256 : Sha256
  workspaceId : String
  createdAt : Timestamp
deriving DecidableEq

/-! ### Graphs -/

/-- `GraphSnapshot`. -/
structure GraphSnapshot where
  projectId : String
  parentRunId : String
  parentTaskId : String
  planId : String
  planArtifactId : String
  planSha256 : Sha256
  plan : FleetPlan
  status : GraphStatus := .ready
  revision : ℕ := 0
  driverGeneration : ℕ := 0
  driverClaim : Option GraphDriverClaim := none
  nodes : List GraphNodeRecord
  joinPreparation : Option GraphJoinPreparation := none
  joinCompletion : Option GraphJoinCompletion := none
  cancelRequestedAt : Option Timestamp := none
  createdAt : Timestamp
  updatedAt : Timestamp
deriving DecidableEq

/-! ### Validation -/

/-- What the graph store is constructed with, beside the services of the state store: the JSON
text of an instant, and the digests of the dumps of its records. -/
structure GraphServices extends Services where
  isoTimestamp : Timestamp → String
  nodeSha256 : FleetPlanNode → Sha256
  taskSha256 : TaskSpec → Sha256
  runBindingSha256 : Run → Sha256
  recordSha256 : GraphNodeRecord → Sha256
  snapshotSha256 : GraphSnapshot → Sha256

/-- What constructing a `GraphNodeRecord` checks. -/
def GraphNodeRecord.validates (svc : GraphServices) (record : GraphNodeRecord) : Prop :=
  record.binding.parentRunId ≠ record.binding.childRunId
    ∧ record.inputArtifacts.length ≤ 64
    ∧ record.outputArtifacts.length ≤ 64
    ∧ record.node.nodeId = record.binding.nodeId
    ∧ record.node.independentVerifier = false
    ∧ svc.nodeSha256 record.node = record.binding.nodeSha256
    ∧ (record.inputArtifacts.map GraphArtifactRef.artifactId).Nodup
    ∧ (record.outputArtifacts.map GraphArtifactRef.artifactId).Nodup
    ∧ (record.status = .pending → record.startedAt = none)
    ∧ (record.status = .running ∨ record.status = .waitingApproval →
        record.startedAt ≠ none ∧ record.finishedAt = none)
    ∧ (record.status = .succeeded →
        record.outputArtifacts ≠ [] ∧ record.startedAt ≠ none ∧ record.finishedAt ≠ none)
    ∧ ∀ finished ∈ record.finishedAt, ∀ started ∈ record.startedAt, started ≤ finished

instance GraphNodeRecord.decidableValidates (svc : GraphServices) (record : GraphNodeRecord) :
    Decidable (record.validates svc) := by
  unfold GraphNodeRecord.validates
  infer_instance

/-- What constructing a `GraphJoinPreparation` checks: its field bounds and
`validate_order`. -/
def GraphJoinPreparation.validates (receipt : GraphJoinPreparation) : Prop :=
  let ids := receipt.orderedInputs.map GraphJoinInput.nodeId
  1 ≤ receipt.baseRevision.length ∧ receipt.baseRevision.length ≤ 256
    ∧ 1 ≤ ids.length ∧ ids.length ≤ 16
    ∧ ids = sortedSet ids
    ∧ (receipt.orderedInputs.map GraphJoinInput.childRunId).Nodup

instance GraphJoinPreparation.decidableValidates (receipt : GraphJoinPreparation) :
    Decidable receipt.validates := by
  unfold GraphJoinPreparation.validates
  infer_instance

/-- `item.model_dump(mode="json")`. -/
def GraphJoinInput.modelDump (item : GraphJoinInput) : JsonValue :=
  .obj (JsonValue.object [
    ("node_id", .str item.nodeId),
    ("child_run_id", .str item.childRunId),
    ("child_task_id", .str item.childTaskId),
    ("patch_artifact_id", .str item.patchArtifactId),
    ("patch_sha256", .str item.patchSha256.hex),
    ("report_artifact_id", .str item.reportArtifactId),
    ("report_sha256", .str item.reportSha256.hex)])

/-- `preparation_sha256`. -/
def GraphJoinPreparation.preparationSha256 (svc : GraphServices)
    (receipt : GraphJoinPreparation) : Sha256 :=
  svc.canonicalJsonHash (.obj (JsonValue.object [
    ("parent_run_id", .str receipt.parentRunId),
    ("parent_task_id", .str receipt.parentTaskId),
    ("config_snapshot_sha256", .str receipt.configSnapshotSha256.hex),
    ("plan_sha256", .str receipt.planSha256.hex),
    ("iteration", .int 0),
    ("base_revision", .str receipt.baseRevision),
    ("ordered_inputs", .arr (receipt.orderedInputs.map GraphJoinInput.modelDump)),
    ("created_at", .str (svc.isoTimestamp receipt.createdAt))]))

namespace GraphSnapshot

variable (svc : GraphServices) (graph : GraphSnapshot)

/-- The nodes are those of the plan, each bound once. -/
def bindsPlan : Prop :=
  (graph.plan.planId, graph.plan.runId, graph.plan.taskId)
      = (graph.planId, graph.parentRunId, graph.parentTaskId)
    ∧ 1 ≤ graph.nodes.length ∧ graph.nodes.length ≤ 16
    ∧ graph.plan.workers.length = graph.nodes.length
    ∧ (∀ node ∈ graph.plan.workers, ∃ item ∈ graph.nodes, item.binding.nodeId = node.nodeId)
    ∧ ∀ item ∈ graph.nodes,
        (graph.plan.workers.find? fun node => node.nodeId = item.binding.nodeId)
            = some item.node
          ∧ item.binding.parentRunId = graph.parentRunId
          ∧ item.binding.projectId = graph.projectId
          ∧ item.binding.planSha256 = graph.planSha256
deriving Decidable

/-- The claim is of this graph and of its generation, and a running graph has one. -/
def drivenByClaim : Prop :=
  (∀ claim ∈ graph.driverClaim, claim.parentRunId = graph.parentRunId
      ∧ claim.planSha256 = graph.planSha256 ∧ claim.generation = graph.driverGeneration)
    ∧ (graph.status = .running → graph.driverClaim ≠ none)
deriving Decidable

/-- A completion is of the recorded preparation, and a joined graph has one. -/
def joinedAsPrepared : Prop :=
  (∀ completion ∈ graph.joinCompletion, ∃ preparation ∈ graph.joinPreparation,
      completion.preparationSha256 = preparation.preparationSha256 svc)
    ∧ (graph.status = .joined → graph.joinCompletion ≠ none)
deriving Decidable

/-- What constructing a `GraphSnapshot` checks. -/
def validates : Prop :=
  (∀ item ∈ graph.nodes, item.validates svc)
    ∧ graph.bindsPlan
    ∧ graph.drivenByClaim
    ∧ graph.joinedAsPrepared svc
    ∧ (graph.status = .cancelled → graph.cancelRequestedAt ≠ none)
deriving Decidable

end GraphSnapshot

end AgentFleet
