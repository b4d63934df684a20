import AgentFleet.Assurance.Criteria
import AgentFleet.Lib.Findings

/-! # The completion gate

`CompletionGate.evaluate` decides from the control-plane evidence alone whether a run is verified
complete.  It never stops at a failed check: it collects a reason for each, and accepts when there
is none.  The checks are grouped into blocks, in the order of the source.

A set of artifact identifiers or of criteria is a list, read through its members. -/

namespace AgentFleet

open Findings Keyed

/-- The reason codes of the gate. -/
inductive GateReason where
  | graphDeliveryUnproven
  | structuredCriterionMappingInvalid
  | structuredCriterionMappingUnavailable
  | resourceCleanupUnproven
  | criteriaNotDefined
  | sandboxRequirementsBindingMissing
  | sandboxCapabilityIdentityMismatch
  | sandboxCapabilityBindingInvalid
  | sandboxConfigurationBindingMissing
  | sandboxImageBindingMissing
  | sandboxDaemonBindingMissing
  | requiredCommandProfileInvalid
  | reviewedCommandProfileMissing
  | commandEvidenceDuplicate
  | artifactReferenceMissing
  | requiredEvidenceMissing
  | criteriaEvidenceDuplicate
  | criteriaEvidenceIncomplete
  | criterionNotPassing
  | criterionEvidenceMissing
  | criterionEvidenceUnbound
  | proofGapsPresent
  | independentVerifierMissing
  | independentVerifierEvidenceMissing
  | verifierEvidenceBindingInvalid
  | verifierWorkspaceMutated
  | verifierPassWithRequiredRepairs
  | verifierPassWithRegressions
  | verifierReportedFail
  | verifierVerdictIdentityIncomplete
  | commandEvidenceMissing
  | patchIdentityIncomplete
  | commandEvidenceIdentityMismatch
  | commandSpecBindingInvalid
  | requiredCommandEvidenceMissing
  | verifierRequiredCommandEvidenceMissing
  | sandboxEvidenceBindingInvalid
  | sandboxInspectionEvidenceMissing
  | executionIdentityMissing
  | commandNetworkEvidenceInvalid
  | commandExecutionFailed
  | commandTimingInvalid
  | commandOutputTruncated
  | simulatedEvidenceOnly
  | evidenceStrengthInvalid
  | verifierCommandMutatedWorkspace
  | verifierProvenanceInvalid
  | verifierEvidenceStrengthInsufficient
  | configEvidenceStale
  | baseRevisionEvidenceStale
  | patchEvidenceUnbound
  | verifierPatchEvidenceUnbound
deriving DecidableEq, Repr

/-- The text of a reason. -/
def GateReason.code : GateReason → String
  | .graphDeliveryUnproven => "GRAPH_DELIVERY_UNPROVEN"
  | .structuredCriterionMappingInvalid => "STRUCTURED_CRITERION_MAPPING_INVALID"
  | .structuredCriterionMappingUnavailable => "STRUCTURED_CRITERION_MAPPING_UNAVAILABLE"
  | .resourceCleanupUnproven => "RESOURCE_CLEANUP_UNPROVEN"
  | .criteriaNotDefined => "CRITERIA_NOT_DEFINED"
  | .sandboxRequirementsBindingMissing => "SANDBOX_REQUIREMENTS_BINDING_MISSING"
  | .sandboxCapabilityIdentityMismatch => "SANDBOX_CAPABILITY_IDENTITY_MISMATCH"
  | .sandboxCapabilityBindingInvalid => "SANDBOX_CAPABILITY_BINDING_INVALID"
  | .sandboxConfigurationBindingMissing => "SANDBOX_CONFIGURATION_BINDING_MISSING"
  | .sandboxImageBindingMissing => "SANDBOX_IMAGE_BINDING_MISSING"
  | .sandboxDaemonBindingMissing => "SANDBOX_DAEMON_BINDING_MISSING"
  | .requiredCommandProfileInvalid => "REQUIRED_COMMAND_PROFILE_INVALID"
  | .reviewedCommandProfileMissing => "REVIEWED_COMMAND_PROFILE_MISSING"
  | .commandEvidenceDuplicate => "COMMAND_EVIDENCE_DUPLICATE"
  | .artifactReferenceMissing => "ARTIFACT_REFERENCE_MISSING"
  | .requiredEvidenceMissing => "REQUIRED_EVIDENCE_MISSING"
  | .criteriaEvidenceDuplicate => "CRITERIA_EVIDENCE_DUPLICATE"
  | .criteriaEvidenceIncomplete => "CRITERIA_EVIDENCE_INCOMPLETE"
  | .criterionNotPassing => "CRITERION_NOT_PASSING"
  | .criterionEvidenceMissing => "CRITERION_EVIDENCE_MISSING"
  | .criterionEvidenceUnbound => "CRITERION_EVIDENCE_UNBOUND"
  | .proofGapsPresent => "PROOF_GAPS_PRESENT"
  | .independentVerifierMissing => "INDEPENDENT_VERIFIER_MISSING"
  | .independentVerifierEvidenceMissing => "INDEPENDENT_VERIFIER_EVIDENCE_MISSING"
  | .verifierEvidenceBindingInvalid => "VERIFIER_EVIDENCE_BINDING_INVALID"
  | .verifierWorkspaceMutated => "VERIFIER_WORKSPACE_MUTATED"
  | .verifierPassWithRequiredRepairs => "VERIFIER_PASS_WITH_REQUIRED_REPAIRS"
  | .verifierPassWithRegressions => "VERIFIER_PASS_WITH_REGRESSIONS"
  | .verifierReportedFail => "VERIFIER_REPORTED_FAIL"
  | .verifierVerdictIdentityIncomplete => "VERIFIER_VERDICT_IDENTITY_INCOMPLETE"
  | .commandEvidenceMissing => "COMMAND_EVIDENCE_MISSING"
  | .patchIdentityIncomplete => "PATCH_IDENTITY_INCOMPLETE"
  | .commandEvidenceIdentityMismatch => "COMMAND_EVIDENCE_IDENTITY_MISMATCH"
  | .commandSpecBindingInvalid => "COMMAND_SPEC_BINDING_INVALID"
  | .requiredCommandEvidenceMissing => "REQUIRED_COMMAND_EVIDENCE_MISSING"
  | .verifierRequiredCommandEvidenceMissing => "VERIFIER_REQUIRED_COMMAND_EVIDENCE_MISSING"
  | .sandboxEvidenceBindingInvalid => "SANDBOX_EVIDENCE_BINDING_INVALID"
  | .sandboxInspectionEvidenceMissing => "SANDBOX_INSPECTION_EVIDENCE_MISSING"
  | .executionIdentityMissing => "EXECUTION_IDENTITY_MISSING"
  | .commandNetworkEvidenceInvalid => "COMMAND_NETWORK_EVIDENCE_INVALID"
  | .commandExecutionFailed => "COMMAND_EXECUTION_FAILED"
  | .commandTimingInvalid => "COMMAND_TIMING_INVALID"
  | .commandOutputTruncated => "COMMAND_OUTPUT_TRUNCATED"
  | .simulatedEvidenceOnly => "SIMULATED_EVIDENCE_ONLY"
  | .evidenceStrengthInvalid => "EVIDENCE_STRENGTH_INVALID"
  | .verifierCommandMutatedWorkspace => "VERIFIER_COMMAND_MUTATED_WORKSPACE"
  | .verifierProvenanceInvalid => "VERIFIER_PROVENANCE_INVALID"
  | .verifierEvidenceStrengthInsufficient => "VERIFIER_EVIDENCE_STRENGTH_INSUFFICIENT"
  | .configEvidenceStale => "CONFIG_EVIDENCE_STALE"
  | .baseRevisionEvidenceStale => "BASE_REVISION_EVIDENCE_STALE"
  | .patchEvidenceUnbound => "PATCH_EVIDENCE_UNBOUND"
  | .verifierPatchEvidenceUnbound => "VERIFIER_PATCH_EVIDENCE_UNBOUND"

/-! ### Graph delivery -/

/-- The first artifact of a kind that a node put out. -/
def GraphNodeRecord.output? (node : GraphNodeRecord) (kind : ArtifactKind) :
    Option GraphArtifactRef :=
  node.outputArtifacts.find? fun ref => ref.kind = kind

/-- `expected_kinds`. -/
def GraphNodeRecord.expectedKinds (node : GraphNodeRecord) : List ArtifactKind :=
  if node.node.canWrite then [.resourceCleanup, .implementationReport, .patch]
  else [.resourceCleanup, .specialistReport]

section Delivery

variable (svc : EvidenceServices) (bundle : EvidenceBundle) (authoritative : List String)

/-- The joined graph, its plan and its join are those of the bundle. -/
def deliveryBound (delivery : GraphDeliveryEvidence) (prepared : GraphJoinPreparation)
    (completed : GraphJoinCompletion) : Prop :=
  let graph := delivery.snapshot
  graph.status = .joined
    ∧ graph.driverClaim = none
    ∧ graph.cancelRequestedAt = none
    ∧ graph.parentRunId = bundle.runId
    ∧ graph.parentTaskId = bundle.taskId
    ∧ graph.projectId = bundle.projectId
    ∧ graph.planArtifactId = bundle.fleetPlanArtifactId
    ∧ graph.planSha256 = bundle.fleetPlanSha256
    ∧ svc.planTextSha256 graph.plan = bundle.fleetPlanSha256
    ∧ graph.plan.strategy = bundle.fleetStrategy
    ∧ prepared.parentRunId = bundle.runId
    ∧ prepared.parentTaskId = bundle.taskId
    ∧ prepared.baseRevision = bundle.baseRevision
    ∧ prepared.configSnapshotSha256 = bundle.configSnapshotSha256
    ∧ prepared.planSha256 = bundle.fleetPlanSha256
    ∧ completed.preparationSha256 = prepared.preparationSha256 svc.toGraphServices
    ∧ delivery.joinArtifact.kind = .graphJoin
    ∧ delivery.joinArtifact.runId = bundle.runId
    ∧ delivery.joinArtifact.sha256 = svc.preparationTextSha256 prepared
    ∧ delivery.joinArtifact.artifactId ∈ authoritative
    ∧ completed.parentPatchArtifactId ∈ authoritative
deriving Decidable

/-- Without a sequential repair the joined patch is the bundle's. -/
def joinedPatchDelivered (delivery : GraphDeliveryEvidence) (completed : GraphJoinCompletion) :
    Prop :=
  delivery.sequentialRepairIterations = 0 →
    some completed.parentPatchArtifactId = bundle.patchArtifactId
      ∧ some completed.parentPatchSha256 = bundle.patchSha256

/-- Each child run has one complete cleanup receipt, and there are no others. -/
def childrenCleaned (delivery : GraphDeliveryEvidence) : Prop :=
  let children := delivery.snapshot.nodes.map fun item => item.binding.childRunId
  let receipts := delivery.childCleanupReceipts.map ResourceCleanupReceipt.runId
  children.Nodup ∧ receipts.Nodup ∧ (receipts ⊆ children ∧ children ⊆ receipts)
    ∧ ∀ receipt ∈ delivery.childCleanupReceipts, receipt.complete = true
deriving Decidable

/-- The nodes are the workers of the plan. -/
def nodesDeclared (graph : GraphSnapshot) : Prop :=
  let declared := graph.plan.workers.map FleetPlanNode.nodeId
  let nodes := graph.nodes.map fun item => item.node.nodeId
  (declared ⊆ nodes ∧ nodes ⊆ declared)
    ∧ ∀ item ∈ graph.nodes,
        get? FleetPlanNode.nodeId graph.plan.workers item.node.nodeId = some item.node
deriving Decidable

/-- `writers`: the nodes that may write, sorted by identifier. -/
def GraphSnapshot.writers (graph : GraphSnapshot) : List GraphNodeRecord :=
  (graph.nodes.filter fun item => item.node.canWrite).mergeSort
    fun a b => a.node.nodeId ≤ b.node.nodeId

/-- A node succeeded with exactly the artifacts of its kind, and its cleanup is its receipt. -/
def nodeDelivered (delivery : GraphDeliveryEvidence) (item : GraphNodeRecord) : Prop :=
  let kinds := item.outputArtifacts.map GraphArtifactRef.kind
  item.status = .succeeded
    ∧ (kinds ⊆ item.expectedKinds ∧ item.expectedKinds ⊆ kinds)
    ∧ item.outputArtifacts.length = item.expectedKinds.length
    ∧ (∀ ref ∈ item.outputArtifacts, ref.runId = item.binding.childRunId
      ∧ ref.artifactId ∈ authoritative)
    ∧ ∃ ref ∈ item.output? .resourceCleanup, ∃ receipt ∈ get? ResourceCleanupReceipt.runId
        delivery.childCleanupReceipts item.binding.childRunId,
          ref.sha256 = svc.cleanupTextSha256 receipt
deriving Decidable

/-- An input of the join is what its writer put out. -/
def inputDelivered (item : GraphNodeRecord) (input : GraphJoinInput) : Prop :=
  input.childRunId = item.binding.childRunId
    ∧ input.childTaskId = item.binding.childTaskId
    ∧ (∃ patch ∈ item.output? .patch,
        input.patchArtifactId = patch.artifactId ∧ input.patchSha256 = patch.sha256)
    ∧ ∃ report ∈ item.output? .implementationReport,
        input.reportArtifactId = report.artifactId ∧ input.reportSha256 = report.sha256
deriving Decidable

instance (delivery : GraphDeliveryEvidence) (completed : GraphJoinCompletion) :
    Decidable (joinedPatchDelivered bundle delivery completed) :=
  inferInstanceAs (Decidable (_ → _))

/-- `_graph_delivery_is_valid`. -/
def graphDeliveryIsValid : Bool :=
  match bundle.graphDelivery with
  | none => false
  | some delivery =>
      match delivery.snapshot.joinPreparation, delivery.snapshot.joinCompletion with
      | some prepared, some completed =>
          let writers := delivery.snapshot.writers
          deliveryBound svc bundle authoritative delivery prepared completed
            && joinedPatchDelivered bundle delivery completed
            && childrenCleaned delivery
            && nodesDeclared delivery.snapshot
            && (writers.map fun item => item.node.nodeId)
                = prepared.orderedInputs.map GraphJoinInput.nodeId
            && (delivery.snapshot.nodes.all fun item =>
                nodeDelivered svc authoritative delivery item)
            && (writers.zip prepared.orderedInputs).all fun pair =>
                inputDelivered pair.1 pair.2
      | _, _ => false

end Delivery

/-! ### The blocks of checks -/

namespace CompletionGate

section Blocks

variable (svc : EvidenceServices) (bundle : EvidenceBundle) (expectedCriteria : List String)
  (authoritative : List String)

/-- The subject of the criterion assessment. -/
def subjectOf : CriterionSubject where
  runId := bundle.runId
  taskId := bundle.taskId
  verifierAgentInstanceId := bundle.verifierAgentInstanceId
  baseRevision := bundle.baseRevision
  configSnapshotSha256 := bundle.configSnapshotSha256
  patchSha256 := bundle.patchSha256
  commandHashes := bundle.verificationCommandHashes
  verifierRole := bundle.verifierRoleName

/-- `mapped` and `mapping_gaps`. -/
def mapping (results : List CriterionResult) : List CriterionAssessment × List ProofGap :=
  assessCriterionResults (subjectOf bundle) expectedCriteria results bundle.commandEvidence
    bundle.verifierEvidenceArtifactIds

/-- `sorted(bundle.criterion_assessments, key=...)`. -/
def sortedAssessments : List CriterionAssessment :=
  bundle.criterionAssessments.mergeSort fun a b => a.criterionId ≤ b.criterionId

/-- The mapping of the criteria, structured or not. -/
def mappingReasons : List GateReason :=
  match bundle.structuredCriterionResults with
  | some results =>
      reasonIf ((mapping bundle expectedCriteria results).2 ≠ []
          ∨ sortedAssessments bundle ≠ (mapping bundle expectedCriteria results).1)
        .structuredCriterionMappingInvalid
  | none =>
      reasonIf (1 < (sortedSet expectedCriteria).length) .structuredCriterionMappingUnavailable

/-- The checks of the delivery, the mapping and the cleanup. -/
def deliveryReasons : List GateReason :=
  List.flatten [
    reasonIf ((bundle.fleetStrategy = .parallelEngineers
        ∨ bundle.fleetStrategy = .researchArchitectEngineerVerifier)
      ∧ graphDeliveryIsValid svc bundle authoritative = false) .graphDeliveryUnproven,
    mappingReasons bundle expectedCriteria,
    reasonIf (bundle.cleanupComplete = false
        ∨ bundle.cleanupReceiptArtifactId = none
        ∨ bundle.cleanupReceiptSha256 = none
        ∨ ¬ bundle.cleanupReceiptArtifactId.toList ⊆ authoritative) .resourceCleanupUnproven,
    reasonIf (expectedCriteria = []) .criteriaNotDefined]

/-- The checks of the sandbox that the bundle names. -/
def sandboxReasons : List GateReason :=
  let isolated := bundle.sandboxSecurityLevel = .isolated
  List.flatten [
    reasonIf (bundle.sandboxRequirements = none ∨ bundle.sandboxRequirementsSha256 = none)
      .sandboxRequirementsBindingMissing,
    reasonIf (bundle.sandboxCapabilities.provider ≠ bundle.sandboxProvider
        ∨ bundle.sandboxCapabilities.securityLevel ≠ bundle.sandboxSecurityLevel)
      .sandboxCapabilityIdentityMismatch,
    reasonIf (bundle.sandboxCapabilitiesSha256
        ≠ some (svc.canonicalJsonHash bundle.sandboxCapabilities.modelDump))
      .sandboxCapabilityBindingInvalid,
    reasonIf (isolated ∧ bundle.sandboxConfigurationSha256 = none)
      .sandboxConfigurationBindingMissing,
    reasonIf (isolated ∧ bundle.sandboxImageIdentity = none) .sandboxImageBindingMissing,
    reasonIf (isolated ∧ bundle.sandboxDaemonIdentity = none) .sandboxDaemonBindingMissing]

/-- `reviewed_command_ids`. -/
def reviewedCommandIds : List String := bundle.verificationCommandHashes.map Prod.fst

/-- The identifiers of command records. -/
def evidenceIds (commands : List CommandEvidence) : List String :=
  commands.map CommandEvidence.evidenceId

/-- The commands that records are of. -/
def commandIds (commands : List CommandEvidence) : List String :=
  commands.map CommandEvidence.commandId

/-- The artifacts that a command record names. -/
def artifactsOf (item : CommandEvidence) : List String :=
  item.evidenceId :: item.transcriptArtifactId :: item.sandboxInspectionArtifactId.toList

/-- `declared_artifact_ids`. -/
def declaredArtifactIds : List String :=
  [bundle.configSnapshotArtifactId, bundle.taskSpecArtifactId, bundle.fleetPlanArtifactId]
    ++ bundle.commandEvidence.flatMap artifactsOf
    ++ bundle.patchArtifactId.toList
    ++ bundle.verifierVerdictArtifactId.toList

/-- `requirement_missing`. -/
def requirementMissing (requirement : String) : Prop :=
  (requirement = "control_plane_plan" ∧ bundle.fleetPlanArtifactId ∉ authoritative)
    ∨ (requirement = "canonical_patch"
      ∧ (bundle.patchArtifactId = none ∨ bundle.patchSha256 = none ∨ bundle.changedPaths = []))
    ∨ (requirement = "command_evidence" ∧ bundle.commandEvidence = [])
    ∨ (requirement = "independent_verifier_verdict"
      ∧ (bundle.verifierAgentInstanceId = none
        ∨ bundle.verifierVerdictArtifactId = none
        ∨ bundle.reportedVerdict = none
        ∨ bundle.verifierCommands = []
        ∨ bundle.verifierEvidenceArtifactIds = []))
deriving Decidable

/-- The checks of the reviewed commands, of the declared artifacts and of what is required. -/
def profileReasons : List GateReason :=
  List.flatten [
    reasonIf (¬ bundle.requiredVerificationCommandIds ⊆ reviewedCommandIds bundle)
      .requiredCommandProfileInvalid,
    reasonIf (bundle.sandboxSecurityLevel = .isolated ∧ reviewedCommandIds bundle = [])
      .reviewedCommandProfileMissing,
    reasonIf (¬ (evidenceIds bundle.commandEvidence).Nodup) .commandEvidenceDuplicate,
    reasonIf (¬ declaredArtifactIds bundle ⊆ authoritative) .artifactReferenceMissing,
    reasonIf (∃ requirement ∈ bundle.requiredEvidence,
        requirementMissing bundle authoritative requirement) .requiredEvidenceMissing]

/-- `criterion_evidence_ids`. -/
def criterionEvidenceIds : List String :=
  evidenceIds bundle.commandEvidence ++ bundle.verifierVerdictArtifactId.toList

/-- The checks of the assessments. -/
def criterionReasons : List GateReason :=
  let assessments := latest CriterionAssessment.criterionId bundle.criterionAssessments
  List.flatten [
    reasonIf (assessments.length ≠ bundle.criterionAssessments.length) .criteriaEvidenceDuplicate,
    reasonIf (¬ (assessments.map CriterionAssessment.criterionId ⊆ expectedCriteria
        ∧ expectedCriteria ⊆ assessments.map CriterionAssessment.criterionId))
      .criteriaEvidenceIncomplete,
    reasonIf (∃ item ∈ assessments, item.verdict ≠ .pass) .criterionNotPassing,
    reasonIf (∃ item ∈ assessments, item.verdict = .pass ∧ item.evidenceArtifactIds = [])
      .criterionEvidenceMissing,
    reasonIf (∃ item ∈ assessments,
        ¬ item.evidenceArtifactIds ⊆ criterionEvidenceIds bundle
          ∨ ¬ item.evidenceArtifactIds ⊆ authoritative) .criterionEvidenceUnbound,
    reasonIf (bundle.proofGaps ≠ []) .proofGapsPresent]

/-- The checks of the verdict and of the patch. -/
def verdictReasons : List GateReason :=
  let verifierIds := evidenceIds bundle.verifierCommands
  List.flatten [
    reasonIf (bundle.fleetStrategy = .engineerVerifier
        ∧ (bundle.verifierAgentInstanceId = none ∨ bundle.verifierVerdictArtifactId = none))
      .independentVerifierMissing,
    reasonIf (bundle.requiresIndependentVerifier ∧ bundle.verifierCommands = [])
      .independentVerifierEvidenceMissing,
    reasonIf (bundle.verifierVerdictArtifactId ≠ none
        ∧ (bundle.verifierEvidenceArtifactIds = []
          ∨ ¬ (bundle.verifierEvidenceArtifactIds ⊆ verifierIds
            ∧ verifierIds ⊆ bundle.verifierEvidenceArtifactIds)
          ∨ ¬ bundle.verifierEvidenceArtifactIds ⊆ authoritative))
      .verifierEvidenceBindingInvalid,
    reasonIf (bundle.verifierWorkspaceMutated = true) .verifierWorkspaceMutated,
    reasonIf (bundle.reportedVerdict = some .pass ∧ bundle.verifierRequiredRepairs ≠ [])
      .verifierPassWithRequiredRepairs,
    reasonIf (bundle.reportedVerdict = some .pass ∧ bundle.verifierRegressions ≠ [])
      .verifierPassWithRegressions,
    reasonIf (bundle.reportedVerdict = some .fail) .verifierReportedFail,
    reasonIf (¬ (bundle.reportedVerdict = none ↔ bundle.verifierVerdictArtifactId = none))
      .verifierVerdictIdentityIncomplete,
    reasonIf (bundle.patchArtifactId ≠ none ∧ bundle.commandEvidence = [])
      .commandEvidenceMissing,
    reasonIf (¬ (bundle.patchArtifactId = none ↔ bundle.patchSha256 = none))
      .patchIdentityIncomplete,
    reasonIf (bundle.patchArtifactId = none ∧ bundle.changedPaths ≠ [])
      .patchIdentityIncomplete]

/-- `_is_auxiliary_approval_evidence`. -/
def isAuxiliaryApprovalEvidence (item : CommandEvidence) : Prop :=
  bundle.sandboxProvider = "fake"
    ∧ item.commandId = "approval-proof"
    ∧ item.strength = .simulated
deriving Decidable

/-- The record has the digest that was reviewed for its command. -/
def commandReviewed (item : CommandEvidence) : Prop :=
  item.commandId ∈ reviewedCommandIds bundle
    ∧ item.commandSpecSha256 = bundle.verificationCommandHashes.lookup item.commandId
deriving Decidable

/-- The record names the sandbox of the bundle. -/
def sandboxBound (item : CommandEvidence) : Prop :=
  item.sandboxProvider = bundle.sandboxProvider
    ∧ item.sandboxSecurityLevel = bundle.sandboxSecurityLevel
    ∧ item.sandboxCapabilitiesSha256 = bundle.sandboxCapabilitiesSha256
    ∧ item.sandboxConfigurationSha256 = bundle.sandboxConfigurationSha256
    ∧ item.sandboxRequirementsSha256 = bundle.sandboxRequirementsSha256
    ∧ item.sandboxImageIdentity = bundle.sandboxImageIdentity
    ∧ item.sandboxDaemonIdentity = bundle.sandboxDaemonIdentity
deriving Decidable

/-- The record is of the verifier at work. -/
def verifierProvenance (item : CommandEvidence) : Prop :=
  item.principalRole = some bundle.verifierRoleName
    ∧ item.workflowStage = some .verifying
    ∧ item.workspaceId ≠ none
    ∧ item.sandboxId ≠ none
deriving Decidable

/-- The record is of an isolated and unchanged verification workspace. -/
def verificationWorkspace (item : CommandEvidence) : Prop :=
  item.sandboxSecurityLevel = .isolated
    ∧ item.workspaceKind = .verification
    ∧ item.workspaceMutatedDuringExecution = false
deriving Decidable

/-- The checks of the command records. -/
def commandReasons : List GateReason :=
  let commands := bundle.commandEvidence
  List.flatten [
    reasonIf (∃ item ∈ commands, item.runId ≠ bundle.runId ∨ item.taskId ≠ bundle.taskId)
      .commandEvidenceIdentityMismatch,
    reasonIf (bundle.verificationCommandHashes ≠ []
        ∧ ∃ item ∈ commands, ¬ commandReviewed bundle item
          ∧ ¬ isAuxiliaryApprovalEvidence bundle item) .commandSpecBindingInvalid,
    reasonIf (¬ bundle.requiredVerificationCommandIds ⊆ commandIds commands)
      .requiredCommandEvidenceMissing,
    reasonIf (bundle.requiresIndependentVerifier
        ∧ ¬ bundle.requiredVerificationCommandIds ⊆ commandIds bundle.verifierCommands)
      .verifierRequiredCommandEvidenceMissing,
    reasonIf (∃ item ∈ commands, ¬ sandboxBound bundle item) .sandboxEvidenceBindingInvalid,
    reasonIf (∃ item ∈ commands, item.sandboxSecurityLevel = .isolated
        ∧ (item.sandboxInspectionArtifactId = none ∨ item.sandboxInspectionSha256 = none))
      .sandboxInspectionEvidenceMissing,
    reasonIf (∃ item ∈ commands, item.sandboxSecurityLevel = .isolated
        ∧ item.executionId = none) .executionIdentityMissing,
    reasonIf (∃ item ∈ commands,
        item.networkMode ∉ bundle.sandboxCapabilities.supportedNetworkModes
          ∨ item.networkMode ≠ .none) .commandNetworkEvidenceInvalid,
    reasonIf (∃ item ∈ commands, item.failed) .commandExecutionFailed,
    reasonIf (∃ item ∈ commands, item.completedAt < item.startedAt) .commandTimingInvalid,
    reasonIf (∃ item ∈ commands, item.outputTruncated = true) .commandOutputTruncated]

/-- The checks of the strength and of the currency of the command records. -/
def strengthReasons : List GateReason :=
  let commands := bundle.commandEvidence
  let verifierCommands := bundle.verifierCommands
  List.flatten [
    reasonIf (∃ item ∈ commands, item.strength = .simulated
        ∨ item.sandboxSecurityLevel = .fake) .simulatedEvidenceOnly,
    reasonIf (∃ item ∈ commands, item.sandboxSecurityLevel = .fake
        ∧ item.strength ≠ .simulated) .evidenceStrengthInvalid,
    reasonIf (∃ item ∈ commands, item.strength = .independentlyVerified
        ∧ (some item.agentInstanceId ≠ bundle.verifierAgentInstanceId
          ∨ ¬ verifierProvenance bundle item
          ∨ ¬ verificationWorkspace item)) .evidenceStrengthInvalid,
    reasonIf (∃ item ∈ verifierCommands, item.workspaceMutatedDuringExecution = true)
      .verifierCommandMutatedWorkspace,
    reasonIf (∃ item ∈ verifierCommands, ¬ verifierProvenance bundle item)
      .verifierProvenanceInvalid,
    reasonIf (bundle.requiresIndependentVerifier
        ∧ ∃ item ∈ verifierCommands, item.strength ≠ .independentlyVerified
          ∨ ¬ verificationWorkspace item) .verifierEvidenceStrengthInsufficient,
    reasonIf (∃ item ∈ commands, item.configSnapshotSha256 ≠ bundle.configSnapshotSha256)
      .configEvidenceStale,
    reasonIf (∃ item ∈ commands, item.workspaceBaseRevision ≠ bundle.baseRevision)
      .baseRevisionEvidenceStale,
    reasonIf (bundle.patchSha256 ≠ none
        ∧ ¬ ∃ item ∈ commands, item.candidatePatchSha256 = bundle.patchSha256)
      .patchEvidenceUnbound,
    reasonIf (bundle.requiresIndependentVerifier ∧ bundle.patchSha256 ≠ none
        ∧ (verifierCommands = []
          ∨ ∃ item ∈ verifierCommands, item.candidatePatchSha256 ≠ bundle.patchSha256))
      .verifierPatchEvidenceUnbound]

/-! ### The decision -/

/-- `reasons`. -/
def reasons : List GateReason :=
  List.flatten [
    deliveryReasons svc bundle expectedCriteria authoritative,
    sandboxReasons svc bundle,
    profileReasons bundle authoritative,
    criterionReasons bundle expectedCriteria authoritative,
    verdictReasons bundle authoritative,
    commandReasons bundle,
    strengthReasons bundle]

/-- Some evidence of the bundle is a failure. -/
def reportsFailure : Prop :=
  bundle.reportedVerdict = some .fail
    ∨ (∃ item ∈ bundle.commandEvidence, item.failed)
    ∨ ∃ item ∈ bundle.criterionAssessments, item.verdict = .fail
deriving Decidable

/-- `CompletionGate.evaluate`. -/
def evaluate : CompletionDecision :=
  let found := reasons svc bundle expectedCriteria authoritative
  let verified := found = []
    ∧ (bundle.reportedVerdict = none ∨ bundle.reportedVerdict = some .pass)
  { verifiedComplete := verified
    effectiveVerdict :=
      if reportsFailure bundle then .fail
      else if verified then .pass
      else .inconclusive
    reasonCodes := sortedSet (found.map GateReason.code) }

end Blocks

end CompletionGate

end AgentFleet
