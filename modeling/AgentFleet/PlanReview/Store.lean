import AgentFleet.Conversations.Store
import AgentFleet.Persistence.Journal
import Mathlib.Data.List.MinMax

/-! # The plan review store: checkpoints and validated reads

The versions of a run's checkpoint are rows that are only ever added, and a head counts them; the
runs, the journal and the graphs are those of `Database`, the projects, the artifacts and the leases
those that other stores write.  A row is its decoded checkpoint; a column that every write copies
from the record is not kept twice.

`getCheckpoint` is the read that every decision starts from: it goes through the whole history of
the run with its receipts and compares the last checkpoint with the run's project, artifacts and
admission.  `checkUneffected` looks for anything that the run has already done. -/

namespace AgentFleet.PlanReview

open Relational Transaction Checks

/-! ### Records -/

/-- `OrganizationAdmission`. -/
structure OrganizationAdmission where
  projectId : String
  revision : ℕ
  treeSha256 : Sha256
  configSnapshotSha256 : Sha256
deriving DecidableEq

/-- `PlanReviewBinding`. -/
structure PlanReviewBinding where
  rootRunId : String
  projectId : String
  taskId : String
  runSha256 : Sha256
  taskSpecArtifactId : String
  taskSpecSha256 : Sha256
  fleetPlanArtifactId : String
  fleetPlanSha256 : Sha256
  configSnapshotArtifactId : String
  configSnapshotSha256 : Sha256
  repositoryRoot : String
  repositoryIdentity : Sha256
  baseRevision : String
  targetStatusFingerprint : String
  organizationAdmission : OrganizationAdmission
  modelBindingsSha256 : Option Sha256 := none
deriving DecidableEq

/-- The status of a checkpoint. -/
inductive CheckpointStatus where
  | pending
  | approved
  | consumed
deriving DecidableEq, Repr

/-- The text of a status. -/
def CheckpointStatus.value : CheckpointStatus → String
  | .pending => "pending"
  | .approved => "approved"
  | .consumed => "consumed"

/-- The revision that a status has. -/
def CheckpointStatus.revision : CheckpointStatus → ℕ
  | .pending => 1
  | .approved => 2
  | .consumed => 3

/-- `actor`, of which there is one. -/
inductive CheckpointActor where
  | user
deriving DecidableEq, Repr

/-- The text of an actor. -/
def CheckpointActor.value : CheckpointActor → String
  | .user => "user"

/-- `PlanReviewCheckpoint`. -/
structure PlanReviewCheckpoint where
  binding : PlanReviewBinding
  revision : ℕ
  status : CheckpointStatus
  previousSha256 : Option Sha256 := none
  actor : Option CheckpointActor := none
  createdAt : Timestamp
  updatedAt : Timestamp
deriving DecidableEq

/-- What constructing a `PlanReviewBinding` checks, the patterns of its identifiers aside. -/
def PlanReviewBinding.validates (binding : PlanReviewBinding) : Prop :=
  1 ≤ binding.repositoryRoot.length ∧ binding.repositoryRoot.length ≤ 4096
    ∧ 1 ≤ binding.baseRevision.length ∧ binding.baseRevision.length ≤ 256
    ∧ binding.organizationAdmission.projectId = binding.projectId
    ∧ binding.organizationAdmission.configSnapshotSha256 = binding.configSnapshotSha256
deriving Decidable

/-- What constructing a `PlanReviewCheckpoint` checks. -/
def PlanReviewCheckpoint.validates (item : PlanReviewCheckpoint) : Prop :=
  item.binding.validates
    ∧ item.revision = item.status.revision
    ∧ (item.previousSha256 = none ↔ item.revision = 1)
    ∧ (item.actor = none ↔ item.revision = 1)
    ∧ item.createdAt ≤ item.updatedAt
    ∧ (item.revision = 1 → item.updatedAt = item.createdAt)
deriving Decidable

/-! ### Errors and services -/

/-- `_invalid`. -/
def planReviewInvalid : StoreError :=
  .fleet {
    code := .recoveryRequired
    message := "The required plan review or its durable authority is inconsistent."
    remediation := "Preserve the task and inspect its exact decision history; "
      ++ "do not reconstruct or replay it." }

/-- `_stale`. -/
def planReviewStale : StoreError :=
  .fleet {
    code := .approvalInvalid
    message := "The plan review is stale, already consumed, or not available for this action."
    remediation := "Inspect the exact task and review its current checkpoint before proceeding." }

/-- `_boundary`. -/
def boundary : StoreError → StoreError
  | .fleet error => .fleet error
  | .validation => planReviewInvalid
  | .integrity =>
      .fleet {
        code := .stateUnavailable
        message := "The plan decision store is unavailable."
        remediation := "Restore the selected local state; uncertain execution must not be "
          ++ "replayed." }

/-- The documents that a run was planned with; they stand in the text of its other fields. -/
structure RunDocuments where
  taskSpecArtifactId : Option String
  taskSpecHash : Option Sha256
  configSnapshotArtifactId : Option String
  fleetStrategy : Option String

/-- What the store is constructed with.  A record is safe when `_decode_state_record` accepts its
text: it is short, and holds no secret. -/
structure PlanReviewServices extends DatabaseServices where
  documents : Run → RunDocuments
  checkpointSafe : PlanReviewCheckpoint → Bool
  projectSafe : ConversationProject → Bool
  artifactSafe : ArtifactMetadata → Bool
  eventSafe : FleetEvent → Bool

/-- What a transaction reads of the organization's tables. -/
structure PlanReviewReads where
  /-- `_admission`. -/
  admission : Run → Except StoreError (Option OrganizationAdmission)
  /-- `check_organization_admission`. -/
  checkAdmission : Run → OrganizationAdmission → Except StoreError Unit

/-! ### Tables -/

/-- A row of `plan_review_versions`. -/
structure VersionRow where
  rootRunId : String
  item : PlanReviewCheckpoint
  auditEventId : String
deriving DecidableEq

/-- A row of `plan_review_heads`. -/
structure HeadRow where
  rootRunId : String
  revision : ℕ
deriving DecidableEq

instance : Constrained VersionRow where
  clash a b := (a.rootRunId = b.rootRunId ∧ a.item.revision = b.item.revision)
    ∨ a.auditEventId = b.auditEventId
  symm _ _ h := h.imp (fun h => ⟨h.1.symm, h.2.symm⟩) Eq.symm
  decidableClash _ _ := inferInstanceAs (Decidable (_ ∨ _))

instance : Constrained HeadRow where
  clash a b := a.rootRunId = b.rootRunId
  symm _ _ h := h.symm
  decidableClash _ _ := inferInstanceAs (Decidable (_ = _))

/-- The state of the store. -/
structure PlanState where
  database : Database
  shared : Conversations.SharedTables
  versions : Table VersionRow
  heads : Table HeadRow

/-- A transaction body of the plan review store. -/
abbrev PlanTxn := Txn PlanState StoreError

/-- A body of the state store. -/
def onState {α : Type} (x : StoreTxn α) : PlanTxn α :=
  onPart (fun s => s.database.store)
    (fun store s => { s with database := { s.database with store } }) x

namespace PlanState

variable (s : PlanState)

/-- The records of the state store. -/
def records : Records := s.database.store.records

/-- The journal. -/
def events : List FleetEvent := s.database.store.runEvents

/-- The versions of a run's checkpoint, in the order in which they were written. -/
def versionsOf (runId : String) : List VersionRow :=
  s.versions.rows.filter fun row => row.rootRunId = runId

/-- The checkpoints of a run, in the order in which they were written. -/
def checkpointsOf (runId : String) : List PlanReviewCheckpoint :=
  (s.versionsOf runId).map VersionRow.item

/-- The head of a run. -/
def head? (runId : String) : Option ℕ :=
  (s.heads.find? fun row => row.rootRunId = runId).map HeadRow.revision

/-- The last event of a run. -/
def lastEvent? (runId : String) : Option FleetEvent :=
  List.argmax FleetEvent.sequence (s.events.filter fun event => event.runId = some runId)

end PlanState

section Reads

variable (svc : PlanReviewServices) (reads : PlanReviewReads) (s : PlanState)

/-! ### Digests -/

/-- The members of a run that `plan_review_run_sha256` digests. -/
def planReviewRun (run : Run) : JsonObject :=
  let fixed := run.registration
  let documents := svc.documents run
  let identity : JsonObject := [
    ("run_id", .str run.runId),
    ("project_id", .str run.projectId),
    ("correlation_id", .str run.correlationId),
    ("parent_run_id", .ofOption run.parentRunId),
    ("parent_plan_sha256", .ofOption (fixed.parentPlanSha256.map Sha256.hex)),
    ("parent_node_id", .ofOption fixed.parentNodeId),
    ("parent_iteration", .ofOptionInt (fixed.parentIteration.map Int.ofNat)),
    ("goal", .str run.goal)]
  -- two members are left out at their defaults
  let review : JsonObject :=
    if fixed.planReviewRequired = true then [("plan_review_required", .bool true)] else []
  let runtime : JsonObject := [
    ("base_revision", .str run.baseRevision),
    ("target_status_fingerprint", .str fixed.targetStatusFingerprint),
    ("runtime_name", .str fixed.runtimeName),
    ("provider_model", .ofOption fixed.providerModel),
    ("credential_ref", .ofOption fixed.credentialRef)]
  let bindings : JsonObject := fixed.modelBindingsSha256.toList.map fun sha256 =>
    ("model_bindings_sha256", .str sha256.hex)
  let sandbox : JsonObject := [
    ("sandbox_name", .str fixed.sandboxName),
    ("sandbox_configuration", .ofOption fixed.sandboxConfiguration),
    ("sandbox_configuration_hash", .ofOption (fixed.sandboxConfigurationHash.map Sha256.hex)),
    ("sandbox_requirements", .ofOption fixed.sandboxRequirements),
    ("sandbox_capabilities_snapshot", .ofOption fixed.sandboxCapabilitiesSnapshot),
    ("sandbox_capabilities_hash", .ofOption (fixed.sandboxCapabilitiesHash.map Sha256.hex)),
    ("sandbox_image_identity", .ofOption fixed.sandboxImageIdentity),
    ("sandbox_daemon_identity", .ofOption (fixed.sandboxDaemonIdentity.map Sha256.hex)),
    ("unsafe_local_confirmed", .bool fixed.unsafeLocalConfirmed),
    ("fake_scenario", .str fixed.fakeScenario)]
  let plan : JsonObject := [
    ("task_id", .ofOption run.taskId),
    ("task_spec_artifact_id", .ofOption documents.taskSpecArtifactId),
    ("task_spec_hash", .ofOption (documents.taskSpecHash.map Sha256.hex)),
    ("config_snapshot_artifact_id", .ofOption documents.configSnapshotArtifactId),
    ("config_snapshot_hash", .ofOption (run.configSnapshotHash.map Sha256.hex)),
    ("fleet_plan_artifact_id", .ofOption run.fleetPlanArtifactId),
    ("fleet_plan_hash", .ofOption (run.fleetPlanHash.map Sha256.hex)),
    ("fleet_strategy", .ofOption documents.fleetStrategy),
    ("max_repair_iterations", .int fixed.maxRepairIterations),
    ("created_at", .str (svc.toGraphServices.isoTimestamp fixed.createdAt))]
  JsonValue.object (identity ++ review ++ runtime ++ bindings ++ sandbox ++ plan)

/-- `plan_review_run_sha256`. -/
def planReviewRunSha256 (run : Run) : Sha256 :=
  svc.canonicalJsonHash (.obj (planReviewRun svc run))

/-- The dump of an admission. -/
def OrganizationAdmission.modelDump (admission : OrganizationAdmission) : JsonObject :=
  JsonValue.object [
    ("project_id", .str admission.projectId),
    ("revision", .int admission.revision),
    ("tree_sha256", .str admission.treeSha256.hex),
    ("config_snapshot_sha256", .str admission.configSnapshotSha256.hex)]

/-- The dump of a binding. -/
def PlanReviewBinding.modelDump (binding : PlanReviewBinding) : JsonObject :=
  JsonValue.object [
    ("root_run_id", .str binding.rootRunId),
    ("project_id", .str binding.projectId),
    ("task_id", .str binding.taskId),
    ("run_sha256", .str binding.runSha256.hex),
    ("task_spec_artifact_id", .str binding.taskSpecArtifactId),
    ("task_spec_sha256", .str binding.taskSpecSha256.hex),
    ("fleet_plan_artifact_id", .str binding.fleetPlanArtifactId),
    ("fleet_plan_sha256", .str binding.fleetPlanSha256.hex),
    ("config_snapshot_artifact_id", .str binding.configSnapshotArtifactId),
    ("config_snapshot_sha256", .str binding.configSnapshotSha256.hex),
    ("repository_root", .str binding.repositoryRoot),
    ("repository_identity", .str binding.repositoryIdentity.hex),
    ("base_revision", .str binding.baseRevision),
    ("target_status_fingerprint", .str binding.targetStatusFingerprint),
    ("organization_admission", .obj binding.organizationAdmission.modelDump),
    ("model_bindings_sha256", .ofOption (binding.modelBindingsSha256.map Sha256.hex))]

/-- The dump of a checkpoint. -/
def checkpointDump (item : PlanReviewCheckpoint) : JsonObject :=
  JsonValue.object [
    ("schema_version", .int 1),
    ("binding", .obj item.binding.modelDump),
    ("revision", .int item.revision),
    ("status", .str item.status.value),
    ("previous_sha256", .ofOption (item.previousSha256.map Sha256.hex)),
    ("actor", .ofOption (item.actor.map CheckpointActor.value)),
    ("created_at", .str (svc.toGraphServices.isoTimestamp item.createdAt)),
    ("updated_at", .str (svc.toGraphServices.isoTimestamp item.updatedAt))]

/-- `binding_sha256`. -/
def bindingSha256 (item : PlanReviewCheckpoint) : Sha256 :=
  svc.canonicalJsonHash (.obj item.binding.modelDump)

/-- `checkpoint_sha256`. -/
def checkpointSha256 (item : PlanReviewCheckpoint) : Sha256 :=
  svc.canonicalJsonHash (.obj (checkpointDump svc item))

/-- `_payload`. -/
def checkpointPayload (item : PlanReviewCheckpoint) : JsonObject :=
  JsonValue.object [
    ("checkpoint_sha256", .str (checkpointSha256 svc item).hex),
    ("binding_sha256", .str (bindingSha256 svc item).hex),
    ("revision", .int item.revision),
    ("status", .str item.status.value)]

/-- The type of the event of a checkpoint. -/
def checkpointEventType (status : CheckpointStatus) : String := "plan_review." ++ status.value

/-! ### Reads -/

/-- `_run`. -/
def runOf (expected : Run) : PlanTxn Run := do
  refuseIf (svc.stateRecordSafe expected = false) invalidStateRecord
  let run ← onState (validatedRun svc.toServices expected.runId)
  refuseIf (run.registration.planReviewRequired = false ∨ run.parentRunId ≠ none
    ∨ planReviewRunSha256 svc run ≠ planReviewRunSha256 svc expected) planReviewInvalid
  return run

/-- The artifact under a reference is stored intact, and it is the run's. -/
def checkArtifact (run : Run) (artifactId : String) (digest : Sha256) (kind : ArtifactKind)
    (runArtifactId : Option String) (runDigest : Option Sha256) : Except StoreError Unit := do
  let artifact ← demand planReviewInvalid
    (s.shared.artifacts.find? fun row => row.artifactId = artifactId)
  refuse (svc.artifactSafe artifact = false) invalidStateRecord
  refuse (runArtifactId ≠ some artifactId
    ∨ artifact.sha256 ≠ digest
    ∨ runDigest ≠ some digest
    ∨ artifact.kind ≠ kind
    ∨ artifact.runId ≠ some run.runId
    ∨ artifact.projectId ≠ run.projectId
    ∨ artifact.taskId ≠ run.taskId) planReviewInvalid

/-- The binding is the run's, and its repository the project's. -/
def boundTo (run : Run) (project : ConversationProject) (binding : PlanReviewBinding) : Prop :=
  binding.rootRunId = run.runId
    ∧ binding.projectId = run.projectId
    ∧ some binding.taskId = run.taskId
    ∧ binding.runSha256 = planReviewRunSha256 svc run
    ∧ binding.repositoryRoot = project.canonicalRoot
    ∧ binding.repositoryIdentity = project.identityHash
    ∧ binding.baseRevision = run.baseRevision
    ∧ binding.targetStatusFingerprint = run.registration.targetStatusFingerprint
    ∧ binding.modelBindingsSha256 = run.registration.modelBindingsSha256
deriving Decidable

/-- `_binding`. -/
def checkBinding (run : Run) (item : PlanReviewCheckpoint) : Except StoreError Unit := do
  let binding := item.binding
  let documents := svc.documents run
  let project ← demand planReviewInvalid
    (s.shared.projects.find? fun row => row.projectId = run.projectId)
  refuse (svc.projectSafe project = false) invalidStateRecord
  refuse (¬ boundTo svc run project binding) planReviewInvalid
  let admission ← reads.admission run
  refuse (admission ≠ some binding.organizationAdmission) planReviewInvalid
  checkArtifact svc s run binding.taskSpecArtifactId binding.taskSpecSha256 .taskSpec
    documents.taskSpecArtifactId documents.taskSpecHash
  checkArtifact svc s run binding.fleetPlanArtifactId binding.fleetPlanSha256 .fleetPlan
    run.fleetPlanArtifactId run.fleetPlanHash
  checkArtifact svc s run binding.configSnapshotArtifactId binding.configSnapshotSha256
    .configSnapshot documents.configSnapshotArtifactId run.configSnapshotHash

/-- The checkpoint continues the one before it. -/
def continues (previous item : PlanReviewCheckpoint) : Prop :=
  item.previousSha256 = some (checkpointSha256 svc previous)
    ∧ item.binding = previous.binding
    ∧ item.createdAt = previous.createdAt
    ∧ previous.updatedAt ≤ item.updatedAt
deriving Decidable

/-- The event is the receipt of a checkpoint. -/
def isReceipt (run : Run) (item : PlanReviewCheckpoint) (event : FleetEvent) : Prop :=
  event.runId = some run.runId
    ∧ event.projectId = run.projectId
    ∧ event.taskId = run.taskId
    ∧ event.correlationId = run.correlationId
    ∧ event.eventType = checkpointEventType item.status
    ∧ JsonValue.pyEqFields event.payload (checkpointPayload svc item) = true
deriving Decidable

/-- One round of the loop of `_get`. -/
def readVersion (run : Run) (revision : ℕ) (previous : Option PlanReviewCheckpoint)
    (row : VersionRow) : Except StoreError Unit := do
  let item := row.item
  refuse (svc.checkpointSafe item = false) invalidStateRecord
  refuse (item.binding.rootRunId ≠ run.runId ∨ item.revision ≠ revision
    ∨ ∃ before ∈ previous, ¬ continues svc before item) planReviewInvalid
  let event ← demand planReviewInvalid
    (s.events.find? fun event => event.eventId = row.auditEventId)
  refuse (svc.eventSafe event = false) invalidStateRecord
  refuse (¬ isReceipt svc run item event) planReviewInvalid

/-- The loop of `_get`, which ends with the last checkpoint. -/
def readVersions (run : Run) (revision : ℕ) (previous : Option PlanReviewCheckpoint) :
    List VersionRow → Except StoreError (Option PlanReviewCheckpoint)
  | [] => return previous
  | row :: rows => do
      readVersion svc s run revision previous row
      readVersions run (revision + 1) (some row.item) rows

/-- The types of the events that count as receipts. -/
def receiptTypes : List String :=
  [CheckpointStatus.pending, .approved, .consumed].map checkpointEventType

/-- The run's state does not fit the status of its last checkpoint. -/
def misplaced (run : Run) (item : PlanReviewCheckpoint) : Prop :=
  if run.status = .pausedForPlan then item.status = .consumed ∨ run.stage ≠ some .scoping
  else item.status ≠ .consumed
    ∧ run.status ∉ [RunStatus.cancelled, .failed, .abandoned, .rejected]
deriving Decidable

/-- The rows of a run, `ORDER BY revision LIMIT 4`. -/
def orderedVersions (runId : String) : List VersionRow :=
  ((s.versionsOf runId).mergeSort fun a b => a.item.revision ≤ b.item.revision).take 4

/-- `_get`. -/
def getCheckpoint (run : Run) : Except StoreError PlanReviewCheckpoint := do
  let rows := orderedVersions s run.runId
  refuse (rows = [] ∨ 3 < rows.length ∨ s.head? run.runId ≠ some rows.length) planReviewInvalid
  let last ← readVersions svc s run 1 none rows
  let item ← demand planReviewInvalid last
  refuse ((s.events.filter fun event => event.runId = some run.runId
    ∧ event.eventType ∈ receiptTypes).length ≠ rows.length) planReviewInvalid
  checkBinding svc reads s run item
  refuse (misplaced run item) planReviewInvalid
  return item

/-- What the run has already done. -/
def effected (run : Run) : Prop :=
  (∃ lease ∈ s.shared.leases, lease.runId = run.runId)
    ∨ (∃ stored ∈ s.records.toolIntents, stored.intent.runId = run.runId)
    ∨ (s.database.graphs.graph? run.runId).isSome = true
    ∨ ∃ row ∈ s.records.runs, row.run.parentRunId = some run.runId
deriving Decidable

/-- `_uneffected`. -/
def checkUneffected (run : Run) : Except StoreError Unit :=
  refuse (effected s run) planReviewInvalid

end Reads

end AgentFleet.PlanReview
