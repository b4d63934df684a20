import AgentFleet.Domain.Baseline

/-! # Validators of the baseline records

`BaselineModels` is what the records are checked with: the digests of texts, labels and records,
the size of a record's canonical bytes, and the models of other modules as they are read from and
written to canonical JSON.

* `snapshotModel` reads a model out of a canonical snapshot, and `freezeSnapshot` writes one.
* `baselineSandboxHandle` derives the identities of a prepared sandbox from its reservation.
* `BaselineRecord.validates` is the validator of each record, nested records included. -/

namespace AgentFleet

/-- How a model is read from and written to canonical JSON: `model_validate_json(raw)` and
`canonical(value.model_dump(mode="json"))`. -/
structure JsonModel (α : Type) where
  read : String → Option α
  dump : α → String

/-- What baseline records are checked with. -/
structure BaselineModels where
  /-- `sha256_bytes(text.encode())` -/
  sha256 : String → Sha256
  /-- `canonical(decode_json(raw, limit=limit), limit=limit) == raw` -/
  isCanonical : ℕ → String → Bool
  /-- `sha256_bytes(canonical(labels))` -/
  labelsSha256 : List (String × String) → Sha256
  /-- `value.digest` -/
  digest : BaselineRecord → Sha256
  /-- `len(value.canonical_bytes())`, where the structural bounds are kept -/
  canonicalBytes : BaselineRecord → Option ℕ
  command : JsonModel CommandSpec
  configuration : JsonModel SandboxConfiguration
  requirements : JsonModel SandboxRequirements
  sandboxSpec : JsonModel SandboxSpec
  sandboxPolicy : JsonModel BaselineSandboxPolicy
  capabilities : JsonModel SandboxCapabilities
  nativeHandle : JsonModel BaselineExecutionHandle
  sandboxInspection : JsonModel BaselineSandboxInspection
  controlInspection : JsonModel BaselineControlInspection
  cleanupResult : JsonModel SandboxCleanupResult

/-- `MAX_REVIEW_BYTES`. -/
def maxReviewBytes : ℕ := 131072

/-- `MAX_OBSERVATION_BYTES`. -/
def maxObservationBytes : ℕ := 131072

/-- `MAX_REPORT_BYTES`. -/
def maxReportBytes : ℕ := 262144

/-- `MAX_OUTPUT_BYTES`. -/
def maxOutputBytes : ℕ := 64000

/-- `timedelta(minutes=5)`. -/
def fiveMinutes : ℤ := 300 * 1000000

/-- `timedelta(seconds=5)`. -/
def fiveSeconds : ℤ := 5 * 1000000

variable (models : BaselineModels)

/-! ### Identifiers and paths -/

/-- `CommitId`. -/
def isCommitId (value : String) : Bool := isHexText 40 value || isHexText 64 value

/-- `InstallationId`. -/
def isInstallationId (value : String) : Bool := isHexText 32 value

/-- `ImageIdentity`. -/
def isImageIdentity (value : String) : Bool :=
  match textAfter? value "sha256:" with
  | some rest => isHexText 64 rest
  | none => false

/-- `path.name` for `0`, `path.parent.name` for `1`, and so on. -/
def nameAbove (path : String) (above : ℕ) : String :=
  ((PurePosixPath.parse path).tail.reverse[above]?).getD ""

/-- A path below the directory of the baseline workspaces, for a baseline and a workspace. -/
def isWorkspacePath (path baselineId workspaceId : String) : Prop :=
  nameAbove path 0 = workspaceId ∧ nameAbove path 1 = baselineId
    ∧ nameAbove path 2 = "baseline-workspaces"
deriving Decidable

/-! ### Snapshots -/

/-- `integrity`. -/
def BaselineCanonicalSnapshot.validates (snapshot : BaselineCanonicalSnapshot) : Bool :=
  let cap := if snapshot.schemaTag = .commandV1 ∨ snapshot.schemaTag = .sourceManifestV1 then
    maxReviewBytes else 16384
  models.isCanonical cap snapshot.canonicalUtf8
    && models.sha256 snapshot.canonicalUtf8 == snapshot.sha256

/-- `freeze_snapshot`. -/
def freezeSnapshot {α : Type} (tag : SnapshotTag) (model : JsonModel α) (value : α) :
    Option BaselineCanonicalSnapshot := do
  let raw := model.dump value
  guard (models.isCanonical maxReportBytes raw)
  let snapshot : BaselineCanonicalSnapshot := ⟨tag, raw, models.sha256 raw⟩
  guard (snapshot.validates models)
  return snapshot

/-- `snapshot_model`, for a model with a validator. -/
def snapshotModel {α : Type} (snapshot : BaselineCanonicalSnapshot) (tag : SnapshotTag)
    (model : JsonModel α) (validates : α → Bool := fun _ => true) : Option α := do
  guard (snapshot.validates models)
  guard (snapshot.schemaTag = tag)
  let result ← model.read snapshot.canonicalUtf8
  guard (validates result)
  guard (model.dump result = snapshot.canonicalUtf8)
  return result

/-- `freeze_command`. -/
def freezeCommand (raw : String) : Option BaselineCanonicalSnapshot := do
  let command ← models.command.read raw
  guard (command.environment = [] ∧ command.networkRequirement = .none
    ∧ command.timeoutSeconds ≤ 180 ∧ command.maxOutputBytes ≤ maxOutputBytes)
  freezeSnapshot models .commandV1 models.command command

/-- `reconstruct_command`. -/
def reconstructCommand (snapshot : BaselineCanonicalSnapshot) : Option CommandSpec := do
  let command ← snapshotModel models snapshot .commandV1 models.command
  let frozen ← freezeCommand models snapshot.canonicalUtf8
  guard (frozen = snapshot)
  return command

/-- `validate_configuration`. -/
def validateConfiguration (configuration : SandboxConfiguration) : Bool :=
  configuration.provider = .docker ∧ configuration.networkMode = .none
    ∧ configuration.cpuLimit ≤ 1 ∧ configuration.memoryMb ≤ 512 ∧ configuration.pidsLimit ≤ 64
    ∧ 2 * configuration.tmpfsMb + configuration.shmMb ≤ 256

/-- The fields and the validator of a sandbox policy. -/
def BaselineSandboxPolicy.validates (policy : BaselineSandboxPolicy) : Bool :=
  isProjectId policy.projectId && isImageIdentity policy.imageIdentity
    && (1 ≤ policy.timeoutSeconds ∧ policy.timeoutSeconds ≤ 180)
    && (snapshotModel models policy.configuration .configurationV1 models.configuration).any
      validateConfiguration
    && (snapshotModel models policy.requirements .requirementsV1 models.requirements).any
      fun requirements =>
        requirements.isolationRequired && requirements.codeExecutionRequired
          && requirements.resourceLimitsRequired && requirements.nonRootRequired
          && requirements.readOnlyRootRequired && requirements.noNewPrivilegesRequired
          && requirements.capabilityDropRequired && requirements.networkMode = .none

/-- `sandbox_policy`. -/
def sandboxPolicy (snapshot : BaselineCanonicalSnapshot) : Option BaselineCanonicalSnapshot := do
  let spec ← snapshotModel models snapshot .sandboxSpecV1 models.sandboxSpec
  let policy : BaselineSandboxPolicy :=
    { projectId := ← spec.projectId
      configuration :=
        ← freezeSnapshot models .configurationV1 models.configuration spec.configuration
      requirements := ← freezeSnapshot models .requirementsV1 models.requirements spec.requirements
      timeoutSeconds := spec.timeoutSeconds
      imageIdentity := ← spec.imageIdentity
      daemonIdentity := ← spec.daemonIdentity }
  guard (policy.validates models)
  freezeSnapshot models .sandboxPolicyV1 models.sandboxPolicy policy

/-- `freeze_sandbox`. -/
def freezeSandbox (raw : String) : Option BaselineCanonicalSnapshot := do
  let spec ← models.sandboxSpec.read raw
  guard (validateConfiguration spec.configuration)
  guard (spec.environment = [] ∧ spec.unsafeLocalConfirmed = false ∧ spec.timeoutSeconds ≤ 180)
  let snapshot ← freezeSnapshot models .sandboxSpecV1 models.sandboxSpec spec
  let _ ← sandboxPolicy models snapshot
  return snapshot

/-- `reconstruct_sandbox`. -/
def reconstructSandbox (snapshot : BaselineCanonicalSnapshot) : Option SandboxSpec := do
  let spec ← snapshotModel models snapshot .sandboxSpecV1 models.sandboxSpec
  let frozen ← freezeSandbox models snapshot.canonicalUtf8
  guard (frozen = snapshot)
  return spec

/-- `validate_cleanup_counts`, with the bounds of the fields. -/
def SandboxCleanupResult.validates (result : SandboxCleanupResult) : Bool :=
  result.resourcesFound ≤ 128 ∧ result.resourcesRemoved ≤ result.resourcesFound
    ∧ (result.complete = true → result.reconciled = true
      ∧ result.resourcesRemoved = result.resourcesFound)

/-- The result of a cleanup, read from its snapshot. -/
def cleanupResultOf (snapshot : BaselineCanonicalSnapshot) : Option SandboxCleanupResult :=
  snapshotModel models snapshot .cleanupV1 models.cleanupResult SandboxCleanupResult.validates

/-! ### Reviews and authority -/

/-- What a sandbox with `snapshot` as capabilities enforces. -/
def frozenCapabilitiesOf (snapshot : BaselineCanonicalSnapshot) : Option SandboxCapabilities :=
  snapshotModel models snapshot .capabilitiesV1 models.capabilities

/-- The policy in a snapshot. -/
def frozenPolicyOf (snapshot : BaselineCanonicalSnapshot) : Option BaselineSandboxPolicy :=
  snapshotModel models snapshot .sandboxPolicyV1 models.sandboxPolicy
    (BaselineSandboxPolicy.validates models)

/-- The bytes of a record are within a limit. -/
def BaselineModels.fits {α : Type} [BaselineModel α] (limit : ℕ) (value : α) : Bool :=
  (models.canonicalBytes (BaselineModel.record value)).any fun size => size ≤ limit

/-- `binding`, with the fields of a review. -/
def BaselineReview.validates (review : BaselineReview) : Bool :=
  hasIdentity "breview" 32 review.reviewId && hasIdentity "baseline" 32 review.baselineId
    && isProjectId review.projectId && isCommitId review.baseRevision
    && isInstallationId review.installationId
    && (1 ≤ review.repositoryRoot.length ∧ review.repositoryRoot.length ≤ 4096)
    && (1 ≤ review.maxAttemptSeconds ∧ review.maxAttemptSeconds ≤ 300)
    && (reconstructCommand models review.command).isSome
    && review.expiresAt = review.createdAt + fiveMinutes
    && (match review.status with
      | .ready =>
          review.reason = .ready
            && (review.sandboxPolicy.bind (frozenPolicyOf models)).any
              (fun policy => policy.projectId = review.projectId)
            && (review.capabilities.bind (frozenCapabilitiesOf models)).any
              fun capabilities => capabilities.provider = "docker"
      | .notReady =>
          review.reason ≠ .ready ∧ review.sandboxPolicy = none ∧ review.capabilities = none)
    && models.fits maxReviewBytes review

/-- `lifecycle`, with the fields of an authorization. -/
def BaselineAuthorization.validates (authorization : BaselineAuthorization) : Bool :=
  hasIdentity "bauth" 32 authorization.authorizationId
    && hasIdentity "breview" 32 authorization.reviewId
    && hasIdentity "baseline" 32 authorization.baselineId
    && authorization.createdAt < authorization.expiresAt
    && (authorization.status = .consumed ↔ authorization.consumedAt.isSome = true)
    && (authorization.status = .revoked ↔ authorization.revokedAt.isSome = true)
    && authorization.consumedAt.all (fun consumedAt => authorization.createdAt ≤ consumedAt)
    && authorization.revokedAt.all fun revokedAt => authorization.createdAt ≤ revokedAt

/-- `lifecycle`, with the fields of an execution. -/
def BaselineExecution.validates (execution : BaselineExecution) : Bool :=
  hasIdentity "baseline" 32 execution.baselineId && hasIdentity "breview" 32 execution.reviewId
    && isProjectId execution.projectId
    && execution.ownerClaimId.all (hasIdentity "bclaim" 32)
    && execution.createdAt ≤ execution.updatedAt
    && ((execution.status = .planned ∨ execution.status = .revoked)
      ↔ execution.ownerClaimId = none)

/-! ### Resources -/

/-- The fields of an owner. -/
def BaselineResourceOwner.validates (owner : BaselineResourceOwner) : Bool :=
  hasIdentity "baseline" 32 owner.baselineId && isProjectId owner.projectId

/-- `exact_path`. -/
def BaselineWorkspace.validates (workspace : BaselineWorkspace) : Bool :=
  let path := PurePosixPath.parse workspace.path
  workspace.owner.validates && hasIdentity "bws" 32 workspace.workspaceId
    && isCommitId workspace.baseRevision
    && (1 ≤ workspace.path.length ∧ workspace.path.length ≤ 4096)
    && (path.isAbsolute ∧ path.str = workspace.path ∧ ".." ∉ path.parts)
    && isWorkspacePath workspace.path workspace.owner.baselineId workspace.workspaceId
    && (workspace.materializedSourceSha256 = none
      ∨ workspace.materializedSourceSha256 = some workspace.approvedSourceSha256)

/-- `exact_workspace`. -/
def BaselineSandboxSpec.validates (spec : BaselineSandboxSpec) : Bool :=
  spec.owner.validates && spec.workspace.validates && spec.owner = spec.workspace.owner
    && spec.workspace.materializedSourceSha256 = some spec.workspace.approvedSourceSha256
    && (reconstructSandbox models spec.sandbox).any fun sandbox =>
      sandbox.projectId = some spec.owner.projectId
        ∧ sandbox.workspaceHostPath = spec.workspace.path

/-- `exact_bindings`. -/
def BaselineSandboxHandle.validates (handle : BaselineSandboxHandle) : Bool :=
  handle.owner.validates && hasIdentity "bsandbox" 32 handle.sandboxId
    && hasIdentity "bws" 32 handle.workspaceId && isImageIdentity handle.imageIdentity
    && isInstallationId handle.recoveryScopeId
    && (1 ≤ handle.workspaceHostPath.length ∧ handle.workspaceHostPath.length ≤ 4096)
    && (frozenCapabilitiesOf models handle.capabilities).any (fun capabilities =>
      capabilities.provider = "docker" ∧ capabilities.isolationEnforced = true
        ∧ capabilities.supportsRecovery = true)
    && handle.approvedSourceSha256 = handle.materializedSourceSha256
    && isWorkspacePath handle.workspaceHostPath handle.owner.baselineId handle.workspaceId

/-- `baseline_sandbox_handle`. -/
def baselineSandboxHandle (spec : BaselineSandboxSpec) (sandboxId : String)
    (review : BaselineReview) : Option BaselineSandboxHandle := do
  let capabilities ← review.capabilities
  let approved ← review.sandboxPolicy
  let reserved ← sandboxPolicy models spec.sandbox
  guard (models.digest (.review review) = spec.owner.reviewSha256
    ∧ review.baselineId = spec.owner.baselineId ∧ review.projectId = spec.owner.projectId
    ∧ reserved = approved
    ∧ spec.workspace.approvedSourceSha256 = review.approvedSourceSha256)
  let policy ← frozenPolicyOf models approved
  let handle : BaselineSandboxHandle :=
    { owner := spec.owner
      sandboxId := sandboxId
      workspaceId := spec.workspace.workspaceId
      workspaceHostPath := spec.workspace.path
      capabilities := capabilities
      configurationSha256 := policy.configuration.sha256
      sandboxPolicySha256 := approved.sha256
      sandboxSpecSha256 := spec.sandbox.sha256
      approvedSourceSha256 := review.approvedSourceSha256
      materializedSourceSha256 := review.approvedSourceSha256
      imageIdentity := policy.imageIdentity
      daemonIdentity := policy.daemonIdentity
      recoveryScopeId := review.installationId }
  guard (handle.validates models)
  return handle

/-- `command_contract`. -/
def BaselineExecRequest.validates (request : BaselineExecRequest) : Bool :=
  request.owner.validates && hasIdentity "bclaim" 32 request.claimId
    && hasIdentity "bexec" 32 request.executionId && hasIdentity "bws" 32 request.workspaceId
    && (reconstructCommand models request.command).isSome

/-- `baseline_labels`, sorted by name. -/
def baselineLabels (sandbox : BaselineSandboxHandle) (request : BaselineExecRequest) :
    Option (List (String × String)) := do
  guard (sandbox.owner = request.owner ∧ sandbox.workspaceId = request.workspaceId)
  return [
    ("agent-fleet.baseline", request.owner.baselineId),
    ("agent-fleet.claim", request.claimId),
    ("agent-fleet.command", request.command.sha256.hex),
    ("agent-fleet.daemon", sandbox.daemonIdentity.hex),
    ("agent-fleet.execution", request.executionId),
    ("agent-fleet.installation", sandbox.recoveryScopeId),
    ("agent-fleet.managed", "true"),
    ("agent-fleet.owner-kind", "baseline"),
    ("agent-fleet.project", request.owner.projectId),
    ("agent-fleet.review", request.owner.reviewSha256.hex),
    ("agent-fleet.sandbox", sandbox.sandboxId)]

/-- `exact_labels`: the names are these, in this order, and the values that the handle fixes are
its own. -/
def BaselineExecutionHandle.labelsExact (handle : BaselineExecutionHandle) : Bool :=
  match handle.labels with
  | [("agent-fleet.baseline", baseline), ("agent-fleet.claim", claim),
      ("agent-fleet.command", command), ("agent-fleet.daemon", daemon),
      ("agent-fleet.execution", execution), ("agent-fleet.installation", installation),
      ("agent-fleet.managed", managed), ("agent-fleet.owner-kind", ownerKind),
      ("agent-fleet.project", project), ("agent-fleet.review", review),
      ("agent-fleet.sandbox", sandbox)] =>
        baseline = handle.owner.baselineId ∧ claim = handle.claimId
          ∧ execution = handle.executionId ∧ managed = "true" ∧ ownerKind = "baseline"
          ∧ project = handle.owner.projectId ∧ review = handle.owner.reviewSha256.hex
          ∧ sandbox = handle.sandboxId ∧ isInstallationId installation = true
          ∧ isHexText 64 command = true ∧ isHexText 64 daemon = true
  | _ => false

/-- The fields and the validator of a native handle. -/
def BaselineExecutionHandle.validates (handle : BaselineExecutionHandle) : Bool :=
  handle.owner.validates && hasIdentity "bclaim" 32 handle.claimId
    && hasIdentity "bexec" 32 handle.executionId && hasIdentity "bsandbox" 32 handle.sandboxId
    && isHexText 64 handle.nativeResourceId && handle.labelsExact
    && models.labelsSha256 handle.labels == handle.labelsSha256

/-- `isolated_capabilities`. -/
def BaselineControlInspection.validates (inspection : BaselineControlInspection) : Bool :=
  isImageIdentity inspection.imageIdentity
    && (frozenCapabilitiesOf models inspection.capabilities).any fun capabilities =>
      capabilities.provider = "docker" ∧ capabilities.isolationEnforced = true
        ∧ capabilities.supportsRecovery = true

/-- The effective controls in a snapshot. -/
def frozenControlsOf (snapshot : BaselineCanonicalSnapshot) : Option BaselineControlInspection :=
  snapshotModel models snapshot .sandboxInspectionV1 models.controlInspection
    (BaselineControlInspection.validates models)

/-- `physical_controls`, with the bounds of the fields. -/
def BaselineSandboxInspection.validates (inspection : BaselineSandboxInspection) : Bool :=
  inspection.owner.validates && hasIdentity "bsandbox" 32 inspection.sandboxId
    && hasIdentity "bexec" 32 inspection.executionId && isHexText 64 inspection.nativeResourceId
    && (16 ≤ inspection.tmpScratchMb ∧ inspection.tmpScratchMb ≤ 120
      ∧ 16 ≤ inspection.cacheScratchMb ∧ inspection.cacheScratchMb ≤ 120
      ∧ 16 ≤ inspection.shmScratchMb ∧ inspection.shmScratchMb ≤ 64)
    && (frozenControlsOf models inspection.legacyControlInspection).isSome
    && inspection.tmpScratchMb + inspection.cacheScratchMb + inspection.shmScratchMb ≤ 256

/-- `handle_binding`. -/
def BaselineSandboxPayload.validates (payload : BaselineSandboxPayload) : Bool :=
  hasIdentity "bsandbox" 32 payload.sandboxId && payload.spec.validates models
    && (reconstructSandbox models payload.spec.sandbox).any fun spec =>
      payload.handle.all fun handle =>
        handle.validates models && handle.owner = payload.spec.owner
          && handle.sandboxId = payload.sandboxId
          && handle.workspaceId = payload.spec.workspace.workspaceId
          && handle.workspaceHostPath = payload.spec.workspace.path
          && handle.sandboxSpecSha256 = payload.spec.sandbox.sha256
          && (sandboxPolicy models payload.spec.sandbox).any
            (fun policy => handle.sandboxPolicySha256 = policy.sha256)
          && handle.configurationSha256
            = models.sha256 (models.configuration.dump spec.configuration)
          && some handle.imageIdentity = spec.imageIdentity
          && some handle.daemonIdentity = spec.daemonIdentity
          && handle.approvedSourceSha256 = payload.spec.workspace.approvedSourceSha256
          && some handle.materializedSourceSha256
            = payload.spec.workspace.materializedSourceSha256

/-- `native_binding`. -/
def BaselineCommandPayload.validates (payload : BaselineCommandPayload) : Bool :=
  payload.request.validates models && payload.sandbox.validates models
    && (baselineLabels payload.sandbox payload.request).any fun labels =>
      payload.handle.all fun handle =>
        handle.validates models && payload.creationDispatched
          && handle.owner = payload.request.owner && handle.claimId = payload.request.claimId
          && handle.executionId = payload.request.executionId
          && handle.sandboxId = payload.sandbox.sandboxId && handle.labels = labels

/-- The validator of a payload. -/
def BaselineResourcePayload.validates : BaselineResourcePayload → Bool
  | .workspace held => held.validates
  | .sandbox payload => payload.validates models
  | .execution payload => payload.validates models

/-- `lease_binding`. -/
def BaselineResourceLease.validates (lease : BaselineResourceLease) : Bool :=
  hasIdentity "blease" 32 lease.leaseId && lease.payload.validates models
    && lease.payload.owner = lease.owner && lease.createdAt ≤ lease.updatedAt
    && ((lease.status = .released ∨ lease.status = .failed)
      ↔ lease.receiptSha256.isSome = true)

/-! ### Claims, receipts and reports -/

/-- The fields of an owner's claim. -/
def BaselineOwnerClaim.validates (claim : BaselineOwnerClaim) : Bool :=
  claim.owner.validates && hasIdentity "bclaim" 32 claim.claimId
    && hasIdentity "bauth" 32 claim.authorizationId && isInstallationId claim.installationId
    && (1 ≤ claim.controllerPid ∧ claim.controllerPid < 2 ^ 31)

/-- `claim_binding`. -/
def BaselineDispatchClaim.validates (claim : BaselineDispatchClaim) : Bool :=
  claim.ownerClaim.validates && claim.request.validates models
    && hasIdentity "blease" 32 claim.leaseId && claim.owner = claim.ownerClaim.owner
    && claim.owner = claim.request.owner && claim.ownerClaim.claimId = claim.request.claimId

/-- `neutral_result`. -/
def BaselineCleanupReceipt.validates (receipt : BaselineCleanupReceipt) : Bool :=
  receipt.owner.validates && hasIdentity "blease" 32 receipt.leaseId
    && (match receipt.kind with
      | .workspace => receipt.result = none
      | _ => (receipt.result.bind (cleanupResultOf models)).any fun result =>
          result.provider = .docker ∧ result.complete = receipt.complete
            ∧ result.completedAt = receipt.completedAt)

/-- `whole_set`. -/
def BaselineResourceSnapshot.validates (snapshot : BaselineResourceSnapshot) : Bool :=
  snapshot.execution.validates && snapshot.claim.validates
    && snapshot.dispatch.all (BaselineDispatchClaim.validates models)
    && snapshot.leases.all (BaselineResourceLease.validates models)
    && snapshot.leases.length ≤ 3
    && snapshot.execution.baselineId = snapshot.claim.owner.baselineId
    && snapshot.execution.projectId = snapshot.claim.owner.projectId
    && snapshot.execution.reviewSha256 = snapshot.claim.owner.reviewSha256
    && snapshot.execution.ownerClaimId = some snapshot.claim.claimId
    && snapshot.leases.all (fun lease => lease.owner = snapshot.claim.owner)
    && (snapshot.leases.map BaselineResourceLease.kind).Nodup
    && (snapshot.leases.map BaselineResourceLease.leaseId).Pairwise (fun a b => a ≤ b)
    && snapshot.dispatch.all fun dispatch => dispatch.ownerClaim = snapshot.claim

/-- `fixed_scope`. -/
def BaselineCleanupClaim.validates (claim : BaselineCleanupClaim) : Bool :=
  claim.owner.validates && hasIdentity "bclaim" 32 claim.claimId
    && claim.snapshot.validates models && claim.owner = claim.snapshot.claim.owner
    && claim.scopeSha256 = models.digest (.snapshot claim.snapshot)

/-- A character that a transcript may hold. -/
def isTranscriptChar (character : Char) : Bool :=
  (32 ≤ character.toNat ∨ character = '\n' ∨ character = '\t') ∧ character.toNat ≠ 127

/-- `complete_binding`. -/
def BaselineCommandObservation.validates (observation : BaselineCommandObservation) : Bool :=
  hasIdentity "baseline" 32 observation.baselineId && isProjectId observation.projectId
    && hasIdentity "breview" 32 observation.reviewId
    && hasIdentity "bauth" 32 observation.authorizationId
    && hasIdentity "bclaim" 32 observation.claimId
    && hasIdentity "bexec" 32 observation.executionId
    && hasIdentity "bws" 32 observation.workspaceId
    && hasIdentity "bsandbox" 32 observation.sandboxId
    && observation.exitCode.all (fun exitCode => exitCode ≤ 255)
    && observation.startedAt ≤ observation.completedAt
    && observation.materializedSourceSha256 = observation.approvedSourceSha256
    && observation.nativeHandle.schemaTag = .nativeHandleV1
    && observation.nativeHandle.validates models
    && observation.inspection.schemaTag = .sandboxInspectionV1
    && observation.inspection.validates models
    && observation.stdout.utf8ByteSize + observation.stderr.utf8ByteSize ≤ maxOutputBytes
    && models.sha256 observation.stdout == observation.stdoutSha256
    && models.sha256 observation.stderr == observation.stderrSha256
    && (observation.stdout ++ observation.stderr).toList.all isTranscriptChar
    && models.fits maxObservationBytes observation

/-- `content_id`, with the fields of a reference. -/
def BaselineObservationRef.validates (reference : BaselineObservationRef) : Bool :=
  reference.observationId = "bobs_" ++ reference.recordSha256.hex
    && hasIdentity "baseline" 32 reference.baselineId
    && hasIdentity "bexec" 32 reference.executionId

/-- `no_inferred_success`, with the fields of a report. -/
def BaselineReport.validates (report : BaselineReport) : Bool :=
  hasIdentity "baseline" 32 report.baselineId && isProjectId report.projectId
    && hasIdentity "breview" 32 report.reviewId && hasIdentity "bauth" 32 report.authorizationId
    && hasIdentity "bclaim" 32 report.claimId
    && report.cleanupReceiptSha256s.length ≤ 3 && report.proofGaps.length ≤ 5
    && report.observedExitCode.all (fun exitCode => exitCode ≤ 255)
    && report.observation.all (fun reference =>
      reference.validates && reference.baselineId = report.baselineId)
    && (report.status = .observed → report.observation.isSome = true
      ∧ report.observedExitCode.isSome = true ∧ report.cleanupComplete = true
      ∧ report.proofGaps = [])
    && (report.cleanupComplete = false → report.status = .recoveryRequired)
    && (report.observation = none → report.observedExitCode = none)
    && models.fits maxReportBytes report

/-- The validator of a record. -/
def BaselineRecord.validates : BaselineRecord → Bool
  | .review value => value.validates models
  | .execution value => value.validates
  | .authorization value => value.validates
  | .ownerClaim value => value.validates
  | .dispatchClaim value => value.validates models
  | .lease value => value.validates models
  | .observation value => value.validates models
  | .report value => value.validates models
  | .receipt value => value.validates models
  | .cleanupClaim value => value.validates models
  | .snapshot value => value.validates models
  | .request value => value.validates models

/-- `type(value).model_validate_json(canonical(data))`. -/
def BaselineModels.validates {α : Type} [BaselineModel α] (value : α) : Bool :=
  models.fits maxReportBytes value && (BaselineModel.record value).validates models

end AgentFleet
