import AgentFleet.Domain.BaselineModels
import AgentFleet.Domain.Config

/-! # Runs and tasks in full

`RunRecord` and `TaskRecord` have every field of `Run` and `TaskSpec`, and `validate` is what
constructing them checks.  A record that was validated before passes again and is left as it is:
`validate` fills the sandbox of a run in only where it is missing.

`TaskRecord.spec` is the task as plans are held against it. -/

namespace AgentFleet

/-! ### Fields -/

/-- `NodeId` and `CriterionId` of at most `limit` characters. -/
def isLowerIdentifier (limit : ℕ) (value : String) : Bool :=
  value.toList.length ≤ limit
    && textMatches isLower (fun c => isLower c || isDigit c || c = '_' || c = '-') value

/-- A text of `BoundedText` or `BoundedSummary`, which is stored without blanks at its ends. -/
def isBoundedText (limit : ℕ) (value : String) : Bool :=
  1 ≤ value.toList.length && value.toList.length ≤ limit

/-! ### Tasks -/

/-- `AcceptanceCriterion`. -/
structure AcceptanceCriterion where
  criterionId : String
  description : String
deriving DecidableEq

/-- What constructing an `AcceptanceCriterion` checks. -/
def AcceptanceCriterion.validates (criterion : AcceptanceCriterion) : Prop :=
  isLowerIdentifier 100 criterion.criterionId = true
    ∧ isBoundedText 4096 criterion.description = true
deriving Decidable

/-- `TaskSpec`. -/
structure TaskRecord where
  taskId : String
  runId : String
  originalGoal : String
  normalizedGoal : String
  workflow : String := "code-change"
  changeKind : ChangeKind := .codeChange
  baseRevision : String
  allowedPaths : List String
  forbiddenPaths : List String
  acceptanceCriteria : List AcceptanceCriterion
  requiredEvidence : List String
  maxRepairIterations : ℕ
  configSnapshotHash : Sha256
  verificationCommands : List CommandSpec := []
  requiredVerificationCommandIds : List String := []
  createdAt : Timestamp
deriving DecidableEq

/-- The members of `EvidenceRequirementId`. -/
def evidenceRequirements : List String :=
  ["canonical_patch", "command_evidence", "control_plane_plan", "independent_verifier_verdict"]

/-- A path of a task. -/
def repositoryPathValid (value : String) : Prop :=
  let path := PurePosixPath.parse value
  value ≠ "" ∧ path.parts ≠ [] ∧ ¬ path.isAbsolute ∧ '\\' ∉ value.toList
    ∧ ".." ∉ path.parts ∧ path.str = value
deriving Decidable

section Paths

-- `str.casefold`
variable (casefold : String → String)

/-- The folded parts of a path. -/
def foldedParts (value : String) : List String := foldPath casefold (PurePosixPath.parse value)

/-- `validate_repository_paths`. -/
def repositoryPathsValid (values : List String) : Prop :=
  (∀ value ∈ values, repositoryPathValid value) ∧ (values.map (foldedParts casefold)).Nodup
deriving Decidable

/-- Two scopes overlap. -/
def partsOverlap (left right : List String) : Prop :=
  left = right ∨ startsWith left right = true ∨ startsWith right left = true
deriving Decidable

/-- The allowed paths are neither protected nor in the way of the forbidden ones. -/
def writeScopeValid (allowed forbidden : List String) : Prop :=
  ∀ value ∈ allowed,
    (∀ first ∈ (foldedParts casefold value).head?, first ∉ [".git", ".fleet"])
      ∧ ∀ blocked ∈ forbidden,
        ¬ partsOverlap (foldedParts casefold value) (foldedParts casefold blocked)
deriving Decidable

namespace TaskRecord

variable (task : TaskRecord)

/-- The identifiers of the acceptance criteria. -/
def criterionIds : List String := task.acceptanceCriteria.map AcceptanceCriterion.criterionId

/-- The identifiers of the verification commands. -/
def commandIds : List String := task.verificationCommands.map CommandSpec.commandId

/-- The task as plans are held against it. -/
def spec : TaskSpec where
  taskId := task.taskId
  runId := task.runId
  workflow := task.workflow
  changeKind := task.changeKind
  allowedPaths := task.allowedPaths
  forbiddenPaths := task.forbiddenPaths
  acceptanceCriteria := task.criterionIds
  requiredEvidence := task.requiredEvidence

/-- What the types of the fields check. -/
structure FieldsValid : Prop where
  taskId : hasIdentity "task" 32 task.taskId = true
  runId : hasIdentity "run" 32 task.runId = true
  workflow : isLowerIdentifier 64 task.workflow = true
  criteria : ∀ criterion ∈ task.acceptanceCriteria, criterion.validates
  someCriterion : 1 ≤ task.acceptanceCriteria.length ∧ task.acceptanceCriteria.length ≤ 128
  evidence : ∀ requirement ∈ task.requiredEvidence, requirement ∈ evidenceRequirements
  someEvidence : 1 ≤ task.requiredEvidence.length ∧ task.requiredEvidence.length ≤ 32
  repairs : task.maxRepairIterations ≤ 5
  commands : task.verificationCommands.length ≤ 32
  required : (∀ commandId ∈ task.requiredVerificationCommandIds, Configuration.isActionId commandId = true)
    ∧ task.requiredVerificationCommandIds.length ≤ 32

instance : Decidable task.FieldsValid :=
  decidable_of_iff (hasIdentity "task" 32 task.taskId = true
      ∧ hasIdentity "run" 32 task.runId = true
      ∧ isLowerIdentifier 64 task.workflow = true
      ∧ (∀ criterion ∈ task.acceptanceCriteria, criterion.validates)
      ∧ (1 ≤ task.acceptanceCriteria.length ∧ task.acceptanceCriteria.length ≤ 128)
      ∧ (∀ requirement ∈ task.requiredEvidence, requirement ∈ evidenceRequirements)
      ∧ (1 ≤ task.requiredEvidence.length ∧ task.requiredEvidence.length ≤ 32)
      ∧ task.maxRepairIterations ≤ 5
      ∧ task.verificationCommands.length ≤ 32
      ∧ (∀ commandId ∈ task.requiredVerificationCommandIds, Configuration.isActionId commandId = true)
      ∧ task.requiredVerificationCommandIds.length ≤ 32)
    ⟨fun ⟨h₁, h₂, h₃, h₄, h₅, h₆, h₇, h₈, h₉, h₁₀⟩ => ⟨h₁, h₂, h₃, h₄, h₅, h₆, h₇, h₈, h₉, h₁₀⟩,
      fun ⟨h₁, h₂, h₃, h₄, h₅, h₆, h₇, h₈, h₉, h₁₀⟩ => ⟨h₁, h₂, h₃, h₄, h₅, h₆, h₇, h₈, h₉, h₁₀⟩⟩

/-- What constructing a `TaskSpec` checks. -/
structure Validates : Prop where
  fields : task.FieldsValid
  uniqueEvidence : task.requiredEvidence.Nodup
  uniqueCriteria : task.criterionIds.Nodup
  allowed : repositoryPathsValid casefold task.allowedPaths
  forbidden : repositoryPathsValid casefold task.forbiddenPaths
  changeEvidence : task.changeKind = .codeChange →
    ["canonical_patch", "command_evidence"] ⊆ task.requiredEvidence
  changeScope : task.changeKind = .codeChange → task.allowedPaths ≠ []
  writeScope : writeScopeValid casefold task.allowedPaths task.forbiddenPaths
  uniqueCommands : task.commandIds.Nodup
  uniqueRequired : task.requiredVerificationCommandIds.Nodup
  requiredKnown : task.requiredVerificationCommandIds ⊆ task.commandIds

instance : Decidable (task.Validates casefold) :=
  decidable_of_iff (task.FieldsValid
      ∧ task.requiredEvidence.Nodup
      ∧ task.criterionIds.Nodup
      ∧ repositoryPathsValid casefold task.allowedPaths
      ∧ repositoryPathsValid casefold task.forbiddenPaths
      ∧ (task.changeKind = .codeChange →
        ["canonical_patch", "command_evidence"] ⊆ task.requiredEvidence)
      ∧ (task.changeKind = .codeChange → task.allowedPaths ≠ [])
      ∧ writeScopeValid casefold task.allowedPaths task.forbiddenPaths
      ∧ task.commandIds.Nodup
      ∧ task.requiredVerificationCommandIds.Nodup
      ∧ task.requiredVerificationCommandIds ⊆ task.commandIds)
    ⟨fun ⟨h₁, h₂, h₃, h₄, h₅, h₆, h₇, h₈, h₉, h₁₀, h₁₁⟩ =>
        ⟨h₁, h₂, h₃, h₄, h₅, h₆, h₇, h₈, h₉, h₁₀, h₁₁⟩,
      fun ⟨h₁, h₂, h₃, h₄, h₅, h₆, h₇, h₈, h₉, h₁₀, h₁₁⟩ =>
        ⟨h₁, h₂, h₃, h₄, h₅, h₆, h₇, h₈, h₉, h₁₀, h₁₁⟩⟩

end TaskRecord

end Paths

/-! ### Runs -/

/-- `Run`; the checkpoints of its agents and its verdict stand as their JSON text. -/
structure RunRecord where
  runId : String
  projectId : String
  correlationId : String
  parentRunId : Option String := none
  parentPlanSha256 : Option Sha256 := none
  parentNodeId : Option String := none
  parentIteration : Option ℕ := none
  goal : String
  planReviewRequired : Bool := false
  baseRevision : String
  targetStatusFingerprint : Sha256
  runtimeName : String := "fake"
  providerModel : Option String := none
  credentialRef : Option String := none
  modelBindingsSha256 : Option Sha256 := none
  sandboxName : SandboxName := .fake
  sandboxConfiguration : Option SandboxConfiguration := none
  sandboxConfigurationHash : Option Sha256 := none
  sandboxRequirements : Option SandboxRequirements := none
  sandboxCapabilitiesSnapshot : Option SandboxCapabilities := none
  sandboxCapabilitiesHash : Option Sha256 := none
  sandboxImageIdentity : Option String := none
  sandboxDaemonIdentity : Option Sha256 := none
  unsafeLocalConfirmed : Bool := false
  fakeScenario : String := "success"
  status : RunStatus := .created
  stage : Option WorkflowStage := none
  taskId : Option String := none
  taskSpecArtifactId : Option String := none
  taskSpecHash : Option Sha256 := none
  configSnapshotArtifactId : Option String := none
  configSnapshotHash : Option Sha256 := none
  fleetPlanArtifactId : Option String := none
  fleetPlanHash : Option Sha256 := none
  fleetStrategy : Option String := none
  pendingApprovalId : Option String := none
  maxRepairIterations : ℕ := 1
  repairIterations : ℕ := 0
  patchArtifactId : Option String := none
  patchSha256 : Option Sha256 := none
  commandEvidenceArtifactIds : List String := []
  runtimeUsageArtifactIds : List String := []
  verifierAgentInstanceId : Option String := none
  engineerCheckpoint : Option String := none
  specialistCheckpoint : Option String := none
  verificationCheckpoint : Option String := none
  verifierVerdictArtifactId : Option String := none
  evidenceBundleArtifactId : Option String := none
  evidenceBundleHash : Option Sha256 := none
  cleanupReceiptArtifactId : Option String := none
  cleanupReceiptSha256 : Option Sha256 := none
  assuranceVerdict : Option String := none
  verifiedComplete : Bool := false
  verifierWorkspaceMutated : Bool := false
  appliedRevision : Option String := none
  createdAt : Timestamp
  updatedAt : Timestamp
deriving DecidableEq

/-- `SandboxConfiguration.model_dump(mode="json")`. -/
def SandboxConfiguration.modelDump (configuration : SandboxConfiguration) : JsonValue :=
  .obj (JsonValue.object [
    ("provider", .str configuration.provider.value),
    ("network_mode", .str configuration.networkMode.value),
    ("image", .ofOption configuration.image),
    ("cpu_limit", .float configuration.cpuLimit),
    ("memory_mb", .int configuration.memoryMb),
    ("pids_limit", .int configuration.pidsLimit),
    ("shm_mb", .int configuration.shmMb),
    ("tmpfs_mb", .int configuration.tmpfsMb)])

/-- `SandboxCapabilities.phase1_fake()`. -/
def SandboxCapabilities.phase1Fake : SandboxCapabilities where
  toSandboxDescriptor := .phase1Fake
  someNetworkMode := by decide
  uniqueNetworkModes := by decide
  coherence := by decide

namespace RunRecord

variable (svc : Services) (run : RunRecord)

/-- The sandbox configuration, which a fake run may leave out. -/
def configuration : SandboxConfiguration := run.sandboxConfiguration.getD {}

/-- The sandbox requirements. -/
def requirements : SandboxRequirements := run.sandboxRequirements.getD {}

/-- The sandbox capabilities. -/
def capabilities : SandboxCapabilities := run.sandboxCapabilitiesSnapshot.getD .phase1Fake

/-- The digest of the configuration. -/
def configurationHash : Sha256 := svc.canonicalJsonHash run.configuration.modelDump

/-- The digest of the capabilities. -/
def capabilitiesHash : Sha256 := svc.canonicalJsonHash run.capabilities.toSandboxDescriptor.modelDump

/-- All of an optional value's texts match. -/
def allMatch (p : String → Bool) (value : Option String) : Prop := ∀ text ∈ value, p text = true
deriving Decidable

/-- The identifiers that the run hands down to a child. -/
def inheritedFieldsValid : Prop :=
  isProjectId run.projectId = true
    ∧ isRuntimeName run.runtimeName = true
    ∧ allMatch isProviderModelId run.providerModel
    ∧ allMatch isCredentialReference run.credentialRef
    ∧ allMatch isImageIdentity run.sandboxImageIdentity
deriving Decidable

/-- What the types of the other fields check, and `validate_runtime_usage_artifact_ids`. -/
def ownFieldsValid : Prop :=
  hasIdentity "run" 32 run.runId = true
    ∧ hasIdentity "corr" 32 run.correlationId = true
    ∧ allMatch (hasIdentity "run" 32) run.parentRunId
    ∧ allMatch (isLowerIdentifier 64) run.parentNodeId
    ∧ (∀ iteration ∈ run.parentIteration, iteration ≤ 5)
    ∧ allMatch (hasIdentity "task" 32) run.taskId
    ∧ (∀ artifact ∈ [run.taskSpecArtifactId, run.configSnapshotArtifactId, run.fleetPlanArtifactId,
        run.patchArtifactId, run.verifierVerdictArtifactId, run.evidenceBundleArtifactId,
        run.cleanupReceiptArtifactId], allMatch (hasIdentity "art" 32) artifact)
    ∧ allMatch (hasIdentity "perm" 32) run.pendingApprovalId
    ∧ allMatch (hasIdentity "agent" 32) run.verifierAgentInstanceId
    ∧ run.maxRepairIterations ≤ 5 ∧ run.repairIterations ≤ 5
    ∧ (∀ artifact ∈ run.commandEvidenceArtifactIds, hasIdentity "art" 32 artifact = true)
    ∧ (∀ artifact ∈ run.runtimeUsageArtifactIds, hasIdentity "art" 32 artifact = true)
    ∧ run.runtimeUsageArtifactIds.length ≤ 256 ∧ run.runtimeUsageArtifactIds.Nodup
deriving Decidable

/-- A child names its parent in full, and itself as nobody's parent. -/
def bindingValid : Prop :=
  ((run.parentRunId = none ∧ run.parentPlanSha256 = none ∧ run.parentNodeId = none
      ∧ run.parentIteration = none)
    ∨ (run.parentRunId ≠ none ∧ run.parentPlanSha256 ≠ none ∧ run.parentNodeId ≠ none
      ∧ run.parentIteration ≠ none))
    ∧ run.parentRunId ≠ some run.runId
deriving Decidable

/-- The runtime and the sandbox of the run fit together. -/
def selectionValid : Prop :=
  runtimeSelectionValid {
      runtimeName := run.runtimeName
      providerModel := run.providerModel
      credentialRef := run.credentialRef }
    ∧ (run.sandboxConfiguration = none → run.sandboxName = .fake)
    ∧ run.configuration.provider = run.sandboxName
    ∧ (∀ hash ∈ run.sandboxConfigurationHash, hash = run.configurationHash svc)
    ∧ (run.sandboxRequirements = none → run.sandboxName = .fake)
    ∧ (run.sandboxCapabilitiesSnapshot = none → run.sandboxName = .fake)
    ∧ run.capabilities.provider = run.sandboxName.value
    ∧ (∀ hash ∈ run.sandboxCapabilitiesHash, hash = run.capabilitiesHash svc)
    ∧ (run.sandboxName = .docker →
      run.sandboxImageIdentity ≠ none ∧ run.sandboxDaemonIdentity ≠ none)
    ∧ (run.sandboxName ≠ .docker →
      run.sandboxImageIdentity = none ∧ run.sandboxDaemonIdentity = none)
deriving Decidable

/-- What constructing a `Run` checks. -/
def validates : Prop :=
  run.inheritedFieldsValid ∧ run.ownFieldsValid ∧ run.bindingValid ∧ run.selectionValid svc
    ∧ (run.cleanupReceiptArtifactId = none ↔ run.cleanupReceiptSha256 = none)
deriving Decidable

/-- The run with its sandbox filled in. -/
def filled : RunRecord :=
  { run with
    sandboxConfiguration := some run.configuration
    sandboxConfigurationHash := some (run.sandboxConfigurationHash.getD (run.configurationHash svc))
    sandboxRequirements := some run.requirements
    sandboxCapabilitiesSnapshot := some run.capabilities
    sandboxCapabilitiesHash := some (run.sandboxCapabilitiesHash.getD (run.capabilitiesHash svc)) }

/-- `Run(...)`; nothing for a `ValidationError`. -/
def validate : Option RunRecord := if run.validates svc then some (run.filled svc) else none

/-- The values of `_INHERITED_RUN_FIELDS`. -/
structure Inherited where
  modelBindingsSha256 : Option Sha256
  projectId : String
  baseRevision : String
  targetStatusFingerprint : Sha256
  runtimeName : String
  providerModel : Option String
  credentialRef : Option String
  sandboxName : SandboxName
  sandboxConfiguration : Option SandboxConfiguration
  sandboxConfigurationHash : Option Sha256
  sandboxRequirements : Option SandboxRequirements
  sandboxCapabilitiesSnapshot : Option SandboxCapabilities
  sandboxCapabilitiesHash : Option Sha256
  sandboxImageIdentity : Option String
  sandboxDaemonIdentity : Option Sha256
  unsafeLocalConfirmed : Bool
  fakeScenario : String
  configSnapshotHash : Option Sha256
deriving DecidableEq

/-- The fields that a child inherits. -/
def inherited : Inherited where
  modelBindingsSha256 := run.modelBindingsSha256
  projectId := run.projectId
  baseRevision := run.baseRevision
  targetStatusFingerprint := run.targetStatusFingerprint
  runtimeName := run.runtimeName
  providerModel := run.providerModel
  credentialRef := run.credentialRef
  sandboxName := run.sandboxName
  sandboxConfiguration := run.sandboxConfiguration
  sandboxConfigurationHash := run.sandboxConfigurationHash
  sandboxRequirements := run.sandboxRequirements
  sandboxCapabilitiesSnapshot := run.sandboxCapabilitiesSnapshot
  sandboxCapabilitiesHash := run.sandboxCapabilitiesHash
  sandboxImageIdentity := run.sandboxImageIdentity
  sandboxDaemonIdentity := run.sandboxDaemonIdentity
  unsafeLocalConfirmed := run.unsafeLocalConfirmed
  fakeScenario := run.fakeScenario
  configSnapshotHash := run.configSnapshotHash

variable {svc run}

theorem validate_eq_some {run' : RunRecord} :
    run.validate svc = some run' ↔ run.validates svc ∧ run.filled svc = run' := by
  unfold validate
  split_ifs with h
  · rw [Option.some_inj]
    exact ⟨fun heq => ⟨h, heq⟩, fun heq => heq.2⟩
  · constructor
    · intro hnone
      cases hnone
    · intro hboth
      exact absurd hboth.1 h

/-- A run that was validated has its sandbox filled in, with the digests of it. -/
theorem filled_of_validate (h : run.validate svc = some run) :
    run.sandboxConfigurationHash = some (run.configurationHash svc)
      ∧ run.sandboxCapabilitiesHash = some (run.capabilitiesHash svc)
      ∧ run.sandboxConfiguration = some run.configuration
      ∧ run.sandboxRequirements = some run.requirements
      ∧ run.sandboxCapabilitiesSnapshot = some run.capabilities := by
  obtain ⟨⟨-, -, -, ⟨-, -, -, hconfiguration, -, -, -, hcapabilities, -⟩, -⟩, hfilled⟩ :=
    validate_eq_some.mp h
  have hhash := congrArg RunRecord.sandboxConfigurationHash hfilled
  have hhash' := congrArg RunRecord.sandboxCapabilitiesHash hfilled
  refine ⟨?_, ?_, (congrArg RunRecord.sandboxConfiguration hfilled).symm,
    (congrArg RunRecord.sandboxRequirements hfilled).symm,
    (congrArg RunRecord.sandboxCapabilitiesSnapshot hfilled).symm⟩
  · cases hsome : run.sandboxConfigurationHash with
    | none =>
        rw [hsome] at hhash
        cases hhash
    | some hash => rw [hconfiguration hash hsome]
  · cases hsome : run.sandboxCapabilitiesHash with
    | none =>
        rw [hsome] at hhash'
        cases hhash'
    | some hash => rw [hcapabilities hash hsome]

end RunRecord

end AgentFleet
