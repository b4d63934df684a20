import AgentFleet.Domain.Graph
import AgentFleet.Persistence.Machine

/-! # The graph store: tables, reads and row writes

The tables of `SqliteGraphStore` beside the state store in one database.  `getGraph` is the
read that every operation starts from: it puts the graph's row, the rows of its nodes and the
rows of its drivers' claims together and refuses them when they disagree.

What the operations read beside these tables (the plan artifact, the identity hashes of runs
and tasks, the journal, artifacts and leases) can only make them refuse, and each takes it as
`GraphReads`. -/

namespace AgentFleet

open Relational Transaction

/-! ### Tables -/

/-- A row of `fleet_graphs`: the graph and its immutable manifest. -/
structure GraphRow where
  graph : GraphSnapshot
  manifest : GraphSnapshot

/-- The `status` column of a claim. -/
inductive ClaimStatus where
  | active
  | released
  | cancelled
deriving DecidableEq, Repr

/-- A row of `fleet_graph_driver_claims`. -/
structure ClaimRow where
  claim : GraphDriverClaim
  status : ClaimStatus := .active
  releasedAt : Option Timestamp := none

instance : Constrained GraphRow where
  clash a b := a.graph.parentRunId = b.graph.parentRunId
  symm _ _ h := h.symm
  decidableClash _ _ := inferInstanceAs (Decidable (_ = _))

instance : Constrained GraphNodeRecord where
  clash a b := (a.binding.parentRunId = b.binding.parentRunId
      ∧ a.binding.nodeId = b.binding.nodeId)
    ∨ a.binding.childRunId = b.binding.childRunId
    ∨ a.binding.childTaskId = b.binding.childTaskId
  symm _ _ h := h.imp (fun h => ⟨h.1.symm, h.2.symm⟩) (Or.imp Eq.symm Eq.symm)
  decidableClash _ _ := inferInstanceAs (Decidable (_ ∨ _ ∨ _))

instance : Constrained ClaimRow where
  clash a b := a.claim.claimId = b.claim.claimId
    ∨ (a.claim.parentRunId = b.claim.parentRunId ∧ a.claim.generation = b.claim.generation)
  symm _ _ h := h.imp Eq.symm fun h => ⟨h.1.symm, h.2.symm⟩
  decidableClash _ _ := inferInstanceAs (Decidable (_ ∨ _))

/-- The tables of the graphs. -/
structure GraphTables where
  graphs : Table GraphRow
  nodes : Table GraphNodeRecord
  claims : Table ClaimRow

/-- The graphs of a fresh database. -/
def GraphTables.empty : GraphTables := ⟨.empty, .empty, .empty⟩

/-- The state store and the graphs in one database. -/
structure GraphState where
  store : Store
  tables : GraphTables

/-- A transaction body of the graph store. -/
abbrev GraphTxn := Txn GraphState StoreError

/-! ### Queries -/

namespace GraphTables

variable (T : GraphTables)

/-- The row of a parent's graph. -/
def graph? (parentRunId : String) : Option GraphRow :=
  T.graphs.find? fun row => row.graph.parentRunId = parentRunId

/-- The nodes of a graph, `ORDER BY node_id`. -/
def nodesOf (parentRunId : String) : List GraphNodeRecord :=
  (T.nodes.rows.filter fun record => record.binding.parentRunId = parentRunId).mergeSort
    fun a b => a.binding.nodeId ≤ b.binding.nodeId

/-- The claims of a graph. -/
def claimsOf (parentRunId : String) : List ClaimRow :=
  T.claims.rows.filter fun row => row.claim.parentRunId = parentRunId

/-- The row of a claim. -/
def claim? (claimId : String) : Option ClaimRow :=
  T.claims.find? fun row => row.claim.claimId = claimId

end GraphTables

/-! ### Surroundings -/

/-- What one transaction reads beside the tables.  Each of these can only make it refuse. -/
structure GraphReads where
  /-- No argument and no decoded row holds a secret, and no row is too long. -/
  clean : Bool
  /-- The plan that the run's plan artifact holds and `_plan` accepts. -/
  plan : Run → Option FleetPlan
  /-- The identity hashes and the journal of a graph. -/
  graphTrusted : GraphSnapshot → Bool
  /-- The journal of a node, and the identity of its child that `_child` checks. -/
  nodeTrusted : GraphNodeRecord → Bool
  /-- `_validate_seed`, the admission and the budget of a child. -/
  seedAdmitted : GraphChildSeed → Bool
  /-- `_artifact` finds the artifact intact in a project and a task. -/
  artifact : GraphArtifactRef → String → String → Bool
  /-- `_prepared_child`. -/
  childPrepared : Run → Bool
  /-- The leases, artifact contents and cleanup receipt that `_successful_outputs` compares. -/
  outputsIntact : GraphChildBinding → List GraphArtifactRef → Bool
  /-- The active candidate worktree of the parent that `mark_join_complete` looks for. -/
  candidateLease : String → String → Bool

/-- `_invalid`. -/
def graphInvalid : StoreError :=
  .fleet {
    code := .recoveryRequired
    message := "The durable graph identity, ownership, or transition is incomplete or "
      ++ "inconsistent."
    remediation := "Inspect the exact parent and child records; do not replay an interrupted "
      ++ "graph driver." }

variable (svc : GraphServices) (reads : GraphReads) (amb : Ambient)

/-! ### Reads -/

/-- The tables as they stand. -/
def getTables : GraphTxn GraphTables := do
  let s ← get
  return s.tables

/-- Replaces the tables. -/
def setTables (T : GraphTables) : GraphTxn Unit := modify fun s => { s with tables := T }

/-- The records as they stand. -/
def graphRecords : GraphTxn Records := do
  let s ← get
  return s.store.records

/-- Replaces the records. -/
def setGraphRecords (r : Records) : GraphTxn Unit :=
  modify fun s => { s with store := { s.store with records := r } }

/-- `_run`. -/
def graphRun (runId : String) : GraphTxn Run := do
  let r ← graphRecords
  let row ← expect graphInvalid (r.runRow? runId)
  refuseIf (row.run.projectId ≠ row.projectId) graphInvalid
  return row.run

/-- `_task`. -/
def graphTask (taskId : String) : GraphTxn TaskSpec := do
  let r ← graphRecords
  expect graphInvalid (r.task? taskId)

/-- `_plan`. -/
def planOf (parent : Run) : GraphTxn FleetPlan := do
  refuseIf (parent.taskId = none ∨ parent.fleetPlanArtifactId = none
    ∨ parent.fleetPlanHash = none ∨ parent.parentRunId ≠ none) graphInvalid
  expect graphInvalid (reads.plan parent)

/-- `_validated` on a graph. -/
def validatedGraph (graph : GraphSnapshot) : GraphTxn GraphSnapshot := do
  refuseIf (reads.clean = false ∨ ¬ graph.validates svc) graphInvalid
  return graph

/-- `_validated` on a node. -/
def validatedNode (record : GraphNodeRecord) : GraphTxn GraphNodeRecord := do
  refuseIf (reads.clean = false ∨ ¬ record.validates svc) graphInvalid
  return record

/-- The fields of a graph that its manifest fixes. -/
def GraphSnapshot.identity (graph : GraphSnapshot) : GraphSnapshot :=
  { graph with
    status := .ready, revision := 0, driverGeneration := 0, driverClaim := none, nodes := []
    joinPreparation := none, joinCompletion := none, cancelRequestedAt := none
    updatedAt := graph.createdAt }

/-- The record of a node agrees with the manifest. -/
def GraphSnapshot.manifests (manifest : GraphSnapshot) (record : GraphNodeRecord) : Prop :=
  ∃ original ∈ manifest.nodes, original.binding = record.binding
    ∧ original.node = record.node ∧ (record.revision = 0 → record = original)

instance GraphSnapshot.decidableManifests (manifest : GraphSnapshot) (record : GraphNodeRecord) :
    Decidable (manifest.manifests record) := by
  unfold GraphSnapshot.manifests
  infer_instance

/-- The claims of a graph agree with its row: its generation is the greatest, and the active
claims are its driver's alone. -/
def GraphTables.claimsAgree (T : GraphTables) (graph : GraphSnapshot) : Prop :=
  let claims := T.claimsOf graph.parentRunId
  let active := claims.filter fun row => row.status = .active
  (claims.map fun row => row.claim.generation).foldr max 0 = graph.driverGeneration
    ∧ active.map (fun row => row.claim.claimId)
        = graph.driverClaim.toList.map GraphDriverClaim.claimId
    ∧ ∀ claim ∈ graph.driverClaim, ∃ row ∈ T.claim? claim.claimId,
        row.claim = claim ∧ row.status = .active ∧ row.releasedAt = none

instance GraphTables.decidableClaimsAgree (T : GraphTables) (graph : GraphSnapshot) :
    Decidable (T.claimsAgree graph) := by
  unfold GraphTables.claimsAgree
  infer_instance

/-- `_get` on a stored row. -/
def checkedGraph (parent : Run) (row : GraphRow) : GraphTxn GraphSnapshot := do
  let plan ← planOf reads parent
  let T ← getTables
  refuseIf (row.graph.projectId ≠ parent.projectId
    ∨ row.graph.plan ≠ plan
    ∨ some row.graph.planSha256 ≠ parent.fleetPlanHash
    ∨ row.graph.identity ≠ row.manifest.identity
    ∨ reads.graphTrusted row.graph = false
    ∨ (row.graph.revision = 0 ∧ row.graph ≠ row.manifest)) graphInvalid
  let nodes := T.nodesOf parent.runId
  refuseIf (nodes.length ≠ row.manifest.nodes.length
    ∨ (∃ record ∈ nodes, ¬ row.manifest.manifests record ∨ reads.nodeTrusted record = false))
    graphInvalid
  refuseIf (¬ T.claimsAgree row.graph) graphInvalid
  validatedGraph svc reads { row.graph with nodes := nodes }

/-- `_get`. -/
def getGraph (parentRunId : String) : GraphTxn (Option GraphSnapshot) := do
  let parent ← graphRun parentRunId
  let s ← get
  match s.tables.graph? parentRunId with
  | none => do
      refuseIf (∃ event ∈ s.store.runEvents,
        event.runId = some parentRunId ∧ event.eventType = "graph.initialized") graphInvalid
      return none
  | some row => some <$> checkedGraph svc reads parent row

/-- The graph of a parent that has one. -/
def requireGraph (parentRunId : String) : GraphTxn GraphSnapshot := do
  let graph ← getGraph svc reads parentRunId
  expect graphInvalid graph

/-- `_revision`. -/
def checkRevision (actual : ℕ) (expected : ℤ) : GraphTxn Unit :=
  refuseIf (expected ≠ actual) graphInvalid

/-- `_owned`: the graph that a claim may change. -/
def ownedGraph (claim : GraphDriverClaim) : GraphTxn GraphSnapshot := do
  refuseIf (reads.clean = false ∨ claim.generation < 1) graphInvalid
  let graph ← requireGraph svc reads claim.parentRunId
  refuseIf (graph.driverClaim ≠ some claim ∨ graph.cancelRequestedAt ≠ none) graphInvalid
  let parent ← graphRun graph.parentRunId
  refuseIf (isTerminal parent.status = true ∨ graph.status = .failed
    ∨ graph.status = .cancelled) graphInvalid
  return graph

/-! ### Writes -/

/-- `_event`, with the identifier and the instant of place `k`. -/
def graphEvent (k : ℕ) (run : Run) (kind : String) (payload : JsonObject) : GraphTxn Unit :=
  modify fun s => { s with
    store := s.store.journal (plainEvent svc.toServices amb k run kind payload) }

/-- The row that the UPDATE of `fleet_graphs` leaves in place of `row`. -/
def GraphRow.written (graph : GraphSnapshot) (row : GraphRow) : GraphRow :=
  { row with graph := { graph with parentRunId := row.graph.parentRunId } }

theorem GraphRow.keepsKeys_written (graph : GraphSnapshot) : KeepsKeys (GraphRow.written graph) :=
  fun _ _ h => h

/-- `fleet_graphs` after the UPDATE of `_save_graph`. -/
def GraphTables.withGraph (T : GraphTables) (graph : GraphSnapshot) : GraphTables :=
  { T with
    graphs := T.graphs.update (fun row => row.graph.parentRunId = graph.parentRunId)
      (GraphRow.written graph) (GraphRow.keepsKeys_written graph) }

/-- `_save_graph`. -/
def saveGraph (k : ℕ) (graph : GraphSnapshot) (kind : String) : GraphTxn Unit := do
  let graph ← validatedGraph svc reads graph
  let T ← getTables
  setTables (T.withGraph graph)
  let parent ← graphRun graph.parentRunId
  graphEvent svc amb k parent kind (JsonValue.object [
    ("revision", .int graph.revision),
    ("status", .str graph.status.value),
    ("snapshot_sha256", .str (svc.snapshotSha256 graph).hex)])

/-- The row that the UPDATE of `fleet_graph_nodes` leaves in place of `row`. -/
def GraphNodeRecord.written (record row : GraphNodeRecord) : GraphNodeRecord :=
  { record with binding := row.binding }

theorem GraphNodeRecord.keepsKeys_written (record : GraphNodeRecord) :
    KeepsKeys (GraphNodeRecord.written record) := fun _ _ h => h

/-- `fleet_graph_nodes` after the UPDATE of `_save_node`. -/
def GraphTables.withNode (T : GraphTables) (record : GraphNodeRecord) : GraphTables :=
  { T with
    nodes := T.nodes.update (fun row => row.binding.parentRunId = record.binding.parentRunId
        && row.binding.nodeId = record.binding.nodeId)
      (GraphNodeRecord.written record) record.keepsKeys_written }

/-- `_save_node`. -/
def saveNode (k : ℕ) (record : GraphNodeRecord) (kind : String) : GraphTxn Unit := do
  let record ← validatedNode svc reads record
  let T ← getTables
  setTables (T.withNode record)
  let parent ← graphRun record.binding.parentRunId
  graphEvent svc amb k parent kind (JsonValue.object [
    ("node_id", .str record.binding.nodeId),
    ("child_run_id", .str record.binding.childRunId),
    ("revision", .int record.revision),
    ("status", .str record.status.value),
    ("record_sha256", .str (svc.recordSha256 record).hex)])

/-- The row that the end of a claim leaves in place of `row`. -/
def ClaimRow.ended (status : ClaimStatus) (now : Timestamp) (row : ClaimRow) : ClaimRow :=
  { row with status := status, releasedAt := some now }

theorem ClaimRow.keepsKeys_ended (status : ClaimStatus) (now : Timestamp) :
    KeepsKeys (ClaimRow.ended status now) := fun _ _ h => h

/-- `fleet_graph_driver_claims` after a claim ended. -/
def GraphTables.endingClaim (T : GraphTables) (claimId : String) (status : ClaimStatus)
    (now : Timestamp) : GraphTables :=
  { T with
    claims := T.claims.update (fun row => row.claim.claimId = claimId)
      (ClaimRow.ended status now) (ClaimRow.keepsKeys_ended status now) }

end AgentFleet
