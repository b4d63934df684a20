import AgentFleet.Database.Machine
import AgentFleet.Evaluation.Campaign

/-! # The records of an attempt

An attempt that was reserved is executed by one root run: the binding of its execution names
everything that was admitted, and the claim who owns it.  `EvaluationServices` is how the records
are dumped and digested. -/

namespace AgentFleet.Evaluation

/-! ### Sources -/

/-- `SourceEntry`. -/
structure SourceEntry where
  path : String
  mode : String
  sha256 : Sha256
deriving DecidableEq

/-- `CommittedSource`. -/
structure CommittedSource where
  commitSha : String
  entries : List SourceEntry
deriving DecidableEq

/-- `DEPENDENCY_NAMES`. -/
def dependencyNames : List String := [
  "pyproject.toml", "uv.lock", "poetry.lock", "Pipfile", "Pipfile.lock", "requirements.txt",
  "requirements-dev.txt", "package.json", "package-lock.json", "npm-shrinkwrap.json",
  "pnpm-lock.yaml", "yarn.lock"]

/-- The declaration of dependencies is in the entry. -/
def SourceEntry.declaresDependencies (entry : SourceEntry) : Bool :=
  dependencyNames.contains (PurePosixPath.parse entry.path).name

/-- `entry.model_dump(mode="json")`. -/
def SourceEntry.modelDump (entry : SourceEntry) : JsonValue :=
  .obj (JsonValue.object [
    ("path", .str entry.path),
    ("mode", .str entry.mode),
    ("sha256", .str entry.sha256.hex)])

/-! ### Executions -/

/-- `EvaluationSubmission`. -/
structure EvaluationSubmission where
  campaignId : String
  manifestSha256 : Sha256
  caseId : String
  repetition : ℕ
  attemptId : String
deriving DecidableEq

/-- `EvaluationAdmission`. -/
structure EvaluationAdmission where
  source : CommittedSource
  configurationSha256 : Sha256
  commands : List EvaluationCommand
deriving DecidableEq

/-- `EvaluationExecutionBinding`. -/
structure EvaluationExecutionBinding where
  submission : EvaluationSubmission
  projectId : String
  repositoryIdentity : Sha256
  rootRunId : String
  runBindingSha256 : Sha256
  caseSha256 : Sha256
  sourceSha256 : Sha256
  commitSha : String
  configurationSha256 : Sha256
  modelBindingsSha256 : Sha256
  imageIdentity : Option String
  dependenciesSha256 : Sha256
  commands : List EvaluationCommand
  limits : RunBudgetLimits
  admittedAt : Timestamp
deriving DecidableEq

/-- `EvaluationClaim`. -/
structure EvaluationClaim where
  rootRunId : String
  bindingSha256 : Sha256
  claimId : String
deriving DecidableEq

/-- `status` of an execution. -/
inductive ExecutionStatus where
  | active
  | settled
  | fenced
deriving DecidableEq, Repr

/-- The text of a status. -/
def ExecutionStatus.value : ExecutionStatus → String
  | .active => "active"
  | .settled => "settled"
  | .fenced => "fenced"

/-- `EvaluationExecutionRecord`. -/
structure EvaluationExecutionRecord where
  binding : EvaluationExecutionBinding
  claim : EvaluationClaim
  status : ExecutionStatus := .active
  revision : ℕ := 1
  updatedAt : Timestamp
deriving DecidableEq

/-- `EvaluationRegistration`. -/
structure EvaluationRegistration where
  record : EvaluationExecutionRecord
  claim : Option EvaluationClaim := none
deriving DecidableEq

namespace EvaluationExecutionRecord

variable (record : EvaluationExecutionRecord)

/-- `attempt_id`. -/
def attemptId : String := record.binding.submission.attemptId

/-- `campaign_id`. -/
def campaignId : String := record.binding.submission.campaignId

/-- `root_run_id`. -/
def rootRunId : String := record.binding.rootRunId

end EvaluationExecutionRecord

/-- `EvaluationSubmission` validates. -/
def EvaluationSubmission.validates (submission : EvaluationSubmission) : Prop :=
  hasIdentity "campaign" 32 submission.campaignId = true ∧ isSlug 100 submission.caseId = true
    ∧ submission.repetition ≤ 2 ∧ hasIdentity "attempt" 32 submission.attemptId = true
deriving Decidable

/-- The limits of a run that has the envelope. -/
def EvaluationRunBudget.limits? (budget : EvaluationRunBudget) : Option RunBudgetLimits :=
  if h : budget.validates then
    some {
      maxAgentInvocations := budget.maxAgentInvocations
      maxModelRequests := budget.maxModelRequests
      maxToolCalls := budget.maxToolCalls
      maxTotalTokens := budget.maxTotalTokens
      maxActiveSeconds := budget.maxActiveSeconds
      agentInvocationsInRange := ⟨h.1, h.2.1⟩
      modelRequestsInRange := ⟨h.2.2.1, h.2.2.2.1⟩
      toolCallsInRange := h.2.2.2.2.1
      totalTokensInRange := ⟨h.2.2.2.2.2.1, h.2.2.2.2.2.2.1⟩
      activeSecondsInRange := ⟨h.2.2.2.2.2.2.2.1, h.2.2.2.2.2.2.2.2⟩ }
  else none

/-! ### Observations -/

/-- `EvaluationObservation`, as far as an outcome is projected from it. -/
structure EvaluationObservation where
  campaignId : String
  attemptId : String
  manifestSha256 : Option Sha256 := none
  caseId : Option String := none
  repetition : Option ℕ := none
  rootRunId : Option String := none
  taskId : Option String := none
  configurationSha256 : Option Sha256 := none
  oracleSha256 : Option Sha256 := none
  scoringSha256 : Option Sha256 := none
  productStatus : Option RunStatus := none
  productVerdict : Option Verdict := none
  productVerifiedComplete : Option Bool := none
  terminalResult : Option OutcomeKind := none
  applyStatus : ApplyStatus := .unknown
  artifacts : List OutcomeArtifactRef := []
  usage : List OutcomeUsage := []
deriving DecidableEq

/-- The outcome is what `_record_terminal_in_transaction` projects from the observation. -/
def EvaluationObservation.projects (observation : EvaluationObservation) (record : OutcomeRecord) :
    Prop :=
  record.campaignId = observation.campaignId ∧ record.attemptId = observation.attemptId
    ∧ some record.manifestSha256 = observation.manifestSha256
    ∧ some record.caseId = observation.caseId ∧ some record.repetition = observation.repetition
    ∧ record.rootRunId = observation.rootRunId ∧ record.taskId = observation.taskId
    ∧ some record.configurationSha256 = observation.configurationSha256
    ∧ some record.oracleSha256 = observation.oracleSha256
    ∧ some record.scoringSha256 = observation.scoringSha256
    ∧ record.productStatus = observation.productStatus
    ∧ record.productVerdict = observation.productVerdict
    ∧ record.productVerifiedComplete = observation.productVerifiedComplete
    ∧ some record.externalResult = observation.terminalResult
    ∧ record.applyStatus = observation.applyStatus ∧ record.artifacts = observation.artifacts
    ∧ record.usage = observation.usage

instance (observation : EvaluationObservation) (record : OutcomeRecord) :
    Decidable (observation.projects record) := by
  unfold EvaluationObservation.projects
  infer_instance

/-! ### Services -/

/-- A record that the stores dump. -/
inductive EvaluationDocument where
  | registration (registration : CampaignRegistration)
  | slot (slot : EvaluationSlot)
  | reservation (item : EvaluationReservation)
  | outcome (record : OutcomeRecord)
  | item (item : EvaluationCase)
  | submission (submission : EvaluationSubmission)
  | admission (admission : EvaluationAdmission)
  | binding (binding : EvaluationExecutionBinding)
  | run (run : Run)
  | modelBindings (bindings : RunModelBindings)

/-- What the stores are constructed with. -/
structure EvaluationServices extends DatabaseServices, EvaluationModels where
  /-- `value.model_dump(mode="json")` -/
  dump : EvaluationDocument → JsonValue
  /-- `record.model_dump_json()` -/
  executionText : EvaluationExecutionRecord → String
  /-- `event.model_dump_json()` -/
  eventText : FleetEvent → String
  /-- `sha256_bytes(key.encode())` -/
  keySha256 : String → Sha256

namespace EvaluationServices

variable (svc : EvaluationServices)

/-- `binding.sha256`. -/
def bindingSha256 (binding : EvaluationExecutionBinding) : Sha256 :=
  svc.toEvaluationModels.canonicalJsonHash (svc.dump (.binding binding))

/-- `bindings.bindings_sha256`. -/
def modelBindingsSha256 (bindings : RunModelBindings) : Sha256 :=
  bindings.bindingsSha256 svc.toEvaluationModels.canonicalJsonHash
    svc.toBudgetServices.isoTimestamp

/-- `case_sha256` of a binding. -/
def caseSha256 (item : EvaluationCase) : Sha256 :=
  svc.toEvaluationModels.canonicalJsonHash (svc.dump (.item item))

/-- `source_sha256`. -/
def sourceSha256 (source : CommittedSource) : Sha256 :=
  svc.toEvaluationModels.canonicalJsonHash (.obj (JsonValue.object [
    ("schema_version", .int 1),
    ("entries", .arr (source.entries.map SourceEntry.modelDump))]))

/-- `dependencies_sha256`. -/
def dependenciesSha256 (source : CommittedSource) : Sha256 :=
  svc.toEvaluationModels.canonicalJsonHash (.obj (JsonValue.object [
    ("schema_version", .int 1),
    ("recipe", .str "committed-declarations-v1"),
    ("entries", .arr ((source.entries.filter SourceEntry.declaresDependencies).map
      SourceEntry.modelDump))]))

/-- The members of a run that `run_execution_hash` digests. -/
def runExecution (run : Run) : JsonObject :=
  let fixed := run.registration
  JsonValue.object [
    ("run_id", .str run.runId),
    ("project_id", .str run.projectId),
    ("correlation_id", .str run.correlationId),
    ("parent_run_id", .ofOption run.parentRunId),
    ("goal", .str run.goal),
    ("base_revision", .str run.baseRevision),
    ("target_status_fingerprint", .str fixed.targetStatusFingerprint),
    ("runtime_name", .str fixed.runtimeName),
    ("provider_model", .ofOption fixed.providerModel),
    ("credential_ref", .ofOption fixed.credentialRef),
    ("model_bindings_sha256", .ofOption (fixed.modelBindingsSha256.map Sha256.hex)),
    ("sandbox_name", .str fixed.sandboxName),
    ("sandbox_configuration", .ofOption fixed.sandboxConfiguration),
    ("sandbox_configuration_hash", .ofOption (fixed.sandboxConfigurationHash.map Sha256.hex)),
    ("sandbox_requirements", .ofOption fixed.sandboxRequirements),
    ("sandbox_capabilities_snapshot", .ofOption fixed.sandboxCapabilitiesSnapshot),
    ("sandbox_capabilities_hash", .ofOption (fixed.sandboxCapabilitiesHash.map Sha256.hex)),
    ("sandbox_image_identity", .ofOption fixed.sandboxImageIdentity),
    ("sandbox_daemon_identity", .ofOption (fixed.sandboxDaemonIdentity.map Sha256.hex)),
    ("unsafe_local_confirmed", .bool fixed.unsafeLocalConfirmed),
    ("fake_scenario", .str fixed.fakeScenario),
    ("config_snapshot_hash", .ofOption (run.configSnapshotHash.map Sha256.hex)),
    ("max_repair_iterations", .int fixed.maxRepairIterations),
    ("plan_review_required", .bool fixed.planReviewRequired),
    ("created_at", .str (svc.toGraphServices.isoTimestamp fixed.createdAt))]

/-- `run_execution_hash`. -/
def runExecutionHash (run : Run) : Sha256 :=
  svc.toEvaluationModels.canonicalJsonHash (.obj (svc.runExecution run))

/-- What `identity` asks of the record of an execution. -/
def identifies (record : EvaluationExecutionRecord) : Prop :=
  record.claim.rootRunId = record.binding.rootRunId
    ∧ record.claim.bindingSha256 = svc.bindingSha256 record.binding
    ∧ record.binding.admittedAt ≤ record.updatedAt
    ∧ (record.status = .active ↔ record.revision = 1)

/-- `EvaluationExecutionRecord` validates. -/
def validRecord (record : EvaluationExecutionRecord) : Prop :=
  record.binding.submission.validates ∧ isProjectId record.binding.projectId = true
    ∧ isRunId record.binding.rootRunId = true ∧ isCommitId record.binding.commitSha = true
    ∧ (∀ image ∈ record.binding.imageIdentity, isImageIdentity image = true)
    ∧ record.binding.commands.length ≤ 32 ∧ isRunId record.claim.rootRunId = true
    ∧ hasIdentity "corr" 32 record.claim.claimId = true
    ∧ (1 ≤ record.revision ∧ record.revision ≤ 3) ∧ svc.identifies record

instance (record : EvaluationExecutionRecord) : Decidable (svc.validRecord record) := by
  unfold validRecord identifies
  infer_instance

end EvaluationServices

end AgentFleet.Evaluation
