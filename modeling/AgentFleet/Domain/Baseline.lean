import AgentFleet.Domain.Trust

/-! # Baseline records

A baseline is one reviewed command that is run once in a sandbox of its own.  Its records are
immutable: a review, the authorization to run it, the claim of its owner, the leases of its
resources, the claim that dispatches the command, the observation of its outcome, the claims and
receipts of its cleanups, and the reports.

Constant fields are left out: schema versions, providers, mount policies, and inspected controls
that are always true.  A digest has its format by type; the other identifiers are checked by
`hasIdentity`.

A record is checked with what `BaselineModels` says about texts, digests and models of other
modules; `BaselineRecord.validates` gathers the validators. -/

namespace AgentFleet

/-! ### Snapshots -/

/-- `SnapshotTag`. -/
inductive SnapshotTag where
  | commandV1
  | sandboxSpecV1
  | sandboxPolicyV1
  | sandboxInspectionV1
  | capabilitiesV1
  | configurationV1
  | requirementsV1
  | sourceManifestV1
  | nativeHandleV1
  | cleanupV1
deriving DecidableEq, Repr

/-- `BaselineCanonicalSnapshot`. -/
structure BaselineCanonicalSnapshot where
  schemaTag : SnapshotTag
  canonicalUtf8 : String
  sha256 : Sha256
deriving DecidableEq

/-- `SandboxConfiguration`. -/
structure SandboxConfiguration where
  provider : SandboxName := .fake
  networkMode : SandboxNetworkMode := .none
  image : Option String := none
  cpuLimit : ℚ := 1
  memoryMb : ℕ := 512
  pidsLimit : ℕ := 128
  shmMb : ℕ := 64
  tmpfsMb : ℕ := 128
deriving DecidableEq

/-- `SandboxSpec`. -/
structure SandboxSpec where
  workspaceHostPath : String
  projectId : Option String := none
  configuration : SandboxConfiguration := {}
  requirements : SandboxRequirements := {}
  timeoutSeconds : ℕ := 60
  environment : List (String × String) := []
  unsafeLocalConfirmed : Bool := false
  imageIdentity : Option String := none
  daemonIdentity : Option Sha256 := none
deriving DecidableEq

/-- `SandboxCleanupResult`. -/
structure SandboxCleanupResult where
  provider : SandboxName
  resourceId : String
  resourcesFound : ℕ
  resourcesRemoved : ℕ
  reconciled : Bool
  complete : Bool
  completedAt : Timestamp
deriving DecidableEq

/-- `BaselineSandboxPolicy`; its environment is empty. -/
structure BaselineSandboxPolicy where
  projectId : String
  configuration : BaselineCanonicalSnapshot
  requirements : BaselineCanonicalSnapshot
  timeoutSeconds : ℕ
  imageIdentity : String
  daemonIdentity : Sha256
deriving DecidableEq

/-! ### Reviews and authority -/

/-- `status` of a review. -/
inductive BaselineReadiness where
  | ready
  | notReady
deriving DecidableEq, Repr

/-- `reason` of a review. -/
inductive BaselineReadinessReason where
  | ready
  | sandboxUnavailable
  | imageUnavailable
  | capabilityMissing
deriving DecidableEq, Repr

/-- `BaselineReview`. -/
structure BaselineReview where
  reviewId : String
  baselineId : String
  projectId : String
  projectSha256 : Sha256
  repositoryIdentitySha256 : Sha256
  repositoryRoot : String
  baseRevision : String
  repositoryStateSha256 : Sha256
  approvedSourceSha256 : Sha256
  configurationSha256 : Sha256
  trustPolicySha256 : Sha256
  trustRevision : ℕ
  command : BaselineCanonicalSnapshot
  sandboxPolicy : Option BaselineCanonicalSnapshot
  capabilities : Option BaselineCanonicalSnapshot
  installationId : String
  status : BaselineReadiness
  reason : BaselineReadinessReason
  createdAt : Timestamp
  expiresAt : Timestamp
  maxAttemptSeconds : ℕ := 300
deriving DecidableEq

/-- `status` of an authorization. -/
inductive BaselineAuthorizationStatus where
  | available
  | consumed
  | revoked
deriving DecidableEq, Repr

/-- `BaselineAuthorization`. -/
structure BaselineAuthorization where
  authorizationId : String
  reviewId : String
  baselineId : String
  reviewSha256 : Sha256
  revision : ℕ
  status : BaselineAuthorizationStatus
  createdAt : Timestamp
  expiresAt : Timestamp
  consumedAt : Option Timestamp := none
  revokedAt : Option Timestamp := none
deriving DecidableEq

/-- `status` of an execution. -/
inductive BaselineStatus where
  | planned
  | revoked
  | owned
  | executing
  | cleaning
  | observed
  | inconclusive
  | recoveryRequired
deriving DecidableEq, Repr

/-- `BaselineExecution`. -/
structure BaselineExecution where
  baselineId : String
  reviewId : String
  reviewSha256 : Sha256
  projectId : String
  revision : ℕ
  status : BaselineStatus
  ownerClaimId : Option String := none
  currentReportSha256 : Option Sha256 := none
  createdAt : Timestamp
  updatedAt : Timestamp
deriving DecidableEq

/-! ### Resources -/

/-- `BaselineResourceOwner`. -/
structure BaselineResourceOwner where
  baselineId : String
  projectId : String
  reviewSha256 : Sha256
deriving DecidableEq

/-- `BaselineWorkspace`. -/
structure BaselineWorkspace where
  owner : BaselineResourceOwner
  workspaceId : String
  path : String
  baseRevision : String
  approvedSourceSha256 : Sha256
  materializedSourceSha256 : Option Sha256 := none
deriving DecidableEq

/-- `BaselineSandboxSpec`. -/
structure BaselineSandboxSpec where
  owner : BaselineResourceOwner
  workspace : BaselineWorkspace
  sandbox : BaselineCanonicalSnapshot
deriving DecidableEq

/-- `BaselineSandboxHandle`. -/
structure BaselineSandboxHandle where
  owner : BaselineResourceOwner
  sandboxId : String
  workspaceId : String
  workspaceHostPath : String
  capabilities : BaselineCanonicalSnapshot
  configurationSha256 : Sha256
  sandboxPolicySha256 : Sha256
  sandboxSpecSha256 : Sha256
  approvedSourceSha256 : Sha256
  materializedSourceSha256 : Sha256
  imageIdentity : String
  daemonIdentity : Sha256
  recoveryScopeId : String
deriving DecidableEq

/-- `BaselineExecRequest`. -/
structure BaselineExecRequest where
  owner : BaselineResourceOwner
  claimId : String
  executionId : String
  workspaceId : String
  command : BaselineCanonicalSnapshot
deriving DecidableEq

/-- `BaselineExecutionHandle`. -/
structure BaselineExecutionHandle where
  owner : BaselineResourceOwner
  claimId : String
  executionId : String
  sandboxId : String
  nativeResourceId : String
  labels : List (String × String)
  labelsSha256 : Sha256
deriving DecidableEq

/-- `BaselineControlInspection`. -/
structure BaselineControlInspection where
  capabilities : BaselineCanonicalSnapshot
  configurationSha256 : Sha256
  imageIdentity : String
  daemonIdentity : Sha256
  inspectedAt : Timestamp
deriving DecidableEq

/-- `BaselineSandboxInspection`. -/
structure BaselineSandboxInspection where
  owner : BaselineResourceOwner
  sandboxId : String
  executionId : String
  nativeResourceId : String
  legacyControlInspection : BaselineCanonicalSnapshot
  tmpScratchMb : ℕ
  cacheScratchMb : ℕ
  shmScratchMb : ℕ
  mountInspectionSha256 : Sha256
deriving DecidableEq

/-- `BaselineSandboxPayload`. -/
structure BaselineSandboxPayload where
  sandboxId : String
  spec : BaselineSandboxSpec
  handle : Option BaselineSandboxHandle := none
deriving DecidableEq

/-- `BaselineCommandPayload`. -/
structure BaselineCommandPayload where
  request : BaselineExecRequest
  sandbox : BaselineSandboxHandle
  creationDispatched : Bool := false
  handle : Option BaselineExecutionHandle := none
deriving DecidableEq

/-- `kind` of a lease. -/
inductive BaselineResourceKind where
  | workspace
  | sandbox
  | execution
deriving DecidableEq, Repr

/-- `payload` of a lease. -/
inductive BaselineResourcePayload where
  | workspace (workspace : BaselineWorkspace)
  | sandbox (payload : BaselineSandboxPayload)
  | execution (payload : BaselineCommandPayload)
deriving DecidableEq

/-- `payload.kind`. -/
def BaselineResourcePayload.kind : BaselineResourcePayload → BaselineResourceKind
  | .workspace _ => .workspace
  | .sandbox _ => .sandbox
  | .execution _ => .execution

/-- The owner that a payload names. -/
def BaselineResourcePayload.owner : BaselineResourcePayload → BaselineResourceOwner
  | .workspace held => held.owner
  | .sandbox payload => payload.spec.owner
  | .execution payload => payload.request.owner

/-- `status` of a lease. -/
inductive BaselineLeaseStatus where
  | creating
  | active
  | released
  | failed
deriving DecidableEq, Repr

/-- `BaselineResourceLease`. -/
structure BaselineResourceLease where
  leaseId : String
  owner : BaselineResourceOwner
  revision : ℕ
  status : BaselineLeaseStatus
  payload : BaselineResourcePayload
  createdAt : Timestamp
  updatedAt : Timestamp
  receiptSha256 : Option Sha256 := none
deriving DecidableEq

/-- `lease.kind`. -/
def BaselineResourceLease.kind (lease : BaselineResourceLease) : BaselineResourceKind :=
  lease.payload.kind

/-! ### Claims, receipts and reports -/

/-- `BaselineOwnerClaim`. -/
structure BaselineOwnerClaim where
  owner : BaselineResourceOwner
  claimId : String
  authorizationId : String
  controllerPid : ℕ
  installationId : String
  claimedAt : Timestamp
deriving DecidableEq

/-- `BaselineDispatchClaim`. -/
structure BaselineDispatchClaim where
  owner : BaselineResourceOwner
  ownerClaim : BaselineOwnerClaim
  request : BaselineExecRequest
  leaseId : String
  sandboxSpecSha256 : Sha256
  resourceSnapshotSha256 : Sha256
  claimedAt : Timestamp
deriving DecidableEq

/-- `BaselineCleanupReceipt`. -/
structure BaselineCleanupReceipt where
  owner : BaselineResourceOwner
  leaseId : String
  leaseSha256 : Sha256
  cleanupScopeSha256 : Sha256
  kind : BaselineResourceKind
  complete : Bool
  result : Option BaselineCanonicalSnapshot
  completedAt : Timestamp
deriving DecidableEq

/-- `BaselineResourceSnapshot`. -/
structure BaselineResourceSnapshot where
  execution : BaselineExecution
  claim : BaselineOwnerClaim
  dispatch : Option BaselineDispatchClaim
  leases : List BaselineResourceLease
deriving DecidableEq

/-- `reason` of a cleanup claim. -/
inductive BaselineCleanupReason where
  | ownerDrain
  | stoppedOwner
deriving DecidableEq, Repr

/-- `BaselineCleanupClaim`. -/
structure BaselineCleanupClaim where
  owner : BaselineResourceOwner
  claimId : String
  snapshot : BaselineResourceSnapshot
  scopeSha256 : Sha256
  reason : BaselineCleanupReason
  createdAt : Timestamp
deriving DecidableEq

/-- `BaselineStoppedOwnerReview`. -/
structure BaselineStoppedOwnerReview where
  owner : BaselineResourceOwner
  ownerClaimSha256 : Sha256
  snapshotSha256 : Sha256
  controllerPid : ℕ
  installationId : String
  checkedAt : Timestamp
deriving DecidableEq

/-- `BaselineCommandObservation`. -/
structure BaselineCommandObservation where
  baselineId : String
  projectId : String
  reviewId : String
  reviewSha256 : Sha256
  authorizationId : String
  claimId : String
  executionId : String
  workspaceId : String
  sandboxId : String
  commandSha256 : Sha256
  sandboxPolicySha256 : Sha256
  sandboxSpecSha256 : Sha256
  requestSha256 : Sha256
  approvedSourceSha256 : Sha256
  materializedSourceSha256 : Sha256
  postSourceSha256 : Option Sha256
  nativeHandle : BaselineCanonicalSnapshot
  inspection : BaselineCanonicalSnapshot
  startedAt : Timestamp
  completedAt : Timestamp
  exitCode : Option ℕ
  timedOut : Bool
  cancelled : Bool
  captureTruncated : Bool
  redactionTruncated : Bool
  decodingReplaced : Bool
  stdout : String
  stderr : String
  stdoutSha256 : Sha256
  stderrSha256 : Sha256
deriving DecidableEq

/-- `conclusive`. -/
def BaselineCommandObservation.conclusive (observation : BaselineCommandObservation) : Prop :=
  observation.exitCode.isSome = true ∧ observation.timedOut = false
    ∧ observation.cancelled = false ∧ observation.captureTruncated = false
    ∧ observation.redactionTruncated = false
    ∧ observation.postSourceSha256 = some observation.approvedSourceSha256
deriving Decidable

/-- `BaselineObservationRef`. -/
structure BaselineObservationRef where
  observationId : String
  baselineId : String
  executionId : String
  recordSha256 : Sha256
deriving DecidableEq

/-- `BaselineReportRef`. -/
structure BaselineReportRef where
  reportId : String
  baselineId : String
  recordSha256 : Sha256
deriving DecidableEq

/-- `status` of a report. -/
inductive BaselineReportStatus where
  | observed
  | inconclusive
  | recoveryRequired
deriving DecidableEq, Repr

/-- The status of the execution that a report ends. -/
def BaselineReportStatus.execution : BaselineReportStatus → BaselineStatus
  | .observed => .observed
  | .inconclusive => .inconclusive
  | .recoveryRequired => .recoveryRequired

/-- `proof_gaps` of a report. -/
inductive BaselineProofGap where
  | missingResult
  | outputIncomplete
  | sourceDrift
  | cleanupIncomplete
  | controllerError
deriving DecidableEq, Repr

/-- `BaselineReport`. -/
structure BaselineReport where
  baselineId : String
  projectId : String
  reviewId : String
  reviewSha256 : Sha256
  authorizationId : String
  claimId : String
  commandSha256 : Sha256
  approvedSourceSha256 : Sha256
  observation : Option BaselineObservationRef
  cleanupScopeSha256 : Sha256
  cleanupReceiptSha256s : List Sha256
  cleanupComplete : Bool
  status : BaselineReportStatus
  observedExitCode : Option ℕ
  predecessorReportSha256 : Option Sha256 := none
  completedAt : Timestamp
  proofGaps : List BaselineProofGap
deriving DecidableEq

/-- A record with canonical bytes and a digest. -/
inductive BaselineRecord where
  | review (review : BaselineReview)
  | execution (execution : BaselineExecution)
  | authorization (authorization : BaselineAuthorization)
  | ownerClaim (claim : BaselineOwnerClaim)
  | dispatchClaim (claim : BaselineDispatchClaim)
  | lease (lease : BaselineResourceLease)
  | observation (observation : BaselineCommandObservation)
  | report (report : BaselineReport)
  | receipt (receipt : BaselineCleanupReceipt)
  | cleanupClaim (claim : BaselineCleanupClaim)
  | snapshot (snapshot : BaselineResourceSnapshot)
  | request (request : BaselineExecRequest)
deriving DecidableEq

/-- A record type of the store. -/
class BaselineModel (α : Type) where
  record : α → BaselineRecord

instance : BaselineModel BaselineReview := ⟨.review⟩
instance : BaselineModel BaselineExecution := ⟨.execution⟩
instance : BaselineModel BaselineAuthorization := ⟨.authorization⟩
instance : BaselineModel BaselineOwnerClaim := ⟨.ownerClaim⟩
instance : BaselineModel BaselineDispatchClaim := ⟨.dispatchClaim⟩
instance : BaselineModel BaselineResourceLease := ⟨.lease⟩
instance : BaselineModel BaselineCommandObservation := ⟨.observation⟩
instance : BaselineModel BaselineReport := ⟨.report⟩
instance : BaselineModel BaselineCleanupReceipt := ⟨.receipt⟩
instance : BaselineModel BaselineCleanupClaim := ⟨.cleanupClaim⟩
instance : BaselineModel BaselineResourceSnapshot := ⟨.snapshot⟩
instance : BaselineModel BaselineExecRequest := ⟨.request⟩

end AgentFleet
