import AgentFleet.Domain.Graph
import AgentFleet.Domain.Sandbox

/-! # Evidence records

The control-plane records that a completion decision is made from.  A record holds what the
completion gate reads of it; the validators of a cleanup receipt, of a graph delivery and of an
`EvidenceBundle` are fields, so a bundle that the source refuses to construct cannot be built. -/

namespace AgentFleet

/-! ### Enumerations -/

/-- `Verdict`. -/
inductive Verdict where
  | pass
  | fail
  | inconclusive
deriving DecidableEq, Repr

/-- `EvidenceStrength`. -/
inductive EvidenceStrength where
  | simulated
  | observed
  | independentlyVerified
deriving DecidableEq, Repr

/-! ### Commands and criteria -/

/-- `CommandEvidence`, without its executable, its arguments and its directory. -/
structure CommandEvidence where
  evidenceId : String
  runId : String
  taskId : String
  agentInstanceId : String
  principalRole : Option String := none
  workflowStage : Option WorkflowStage := none
  workspaceId : Option String := none
  sandboxId : Option String := none
  commandId : String := "legacy-verification"
  commandSpecSha256 : Option Sha256 := none
  sandboxProvider : String
  sandboxSecurityLevel : SandboxSecurityLevel
  sandboxCapabilitiesSha256 : Option Sha256 := none
  sandboxConfigurationSha256 : Option Sha256 := none
  sandboxRequirementsSha256 : Option Sha256 := none
  sandboxImageIdentity : Option String := none
  sandboxDaemonIdentity : Option Sha256 := none
  strength : EvidenceStrength
  exitCode : ℤ
  timedOut : Bool
  outputTruncated : Bool
  transcriptArtifactId : String
  workspaceBaseRevision : String
  configSnapshotSha256 : Sha256
  candidatePatchSha256 : Option Sha256 := none
  workspaceKind : WorkspaceKind := .candidate
  networkMode : SandboxNetworkMode := .none
  workspaceMutatedDuringExecution : Bool := false
  executionId : Option String := none
  sandboxInspectionArtifactId : Option String := none
  sandboxInspectionSha256 : Option Sha256 := none
  startedAt : Timestamp
  completedAt : Timestamp
deriving DecidableEq

/-- The command did not end with exit code zero in time. -/
def CommandEvidence.failed (item : CommandEvidence) : Prop :=
  item.exitCode ≠ 0 ∨ item.timedOut = true
deriving Decidable

/-- `CriterionResult`: what the verifier reports of a criterion. -/
structure CriterionResult where
  criterionId : String
  verdict : Verdict
  evidenceArtifactIds : List String
  commandIds : List String
deriving DecidableEq

/-- `CriterionAssessment`: what the control plane holds of a criterion. -/
structure CriterionAssessment where
  criterionId : String
  verdict : Verdict
  evidenceArtifactIds : List String := []
  explanation : String
deriving DecidableEq

/-- `ProofGap`. -/
structure ProofGap where
  code : String
  description : String
  requiredStrength : Option EvidenceStrength := none
deriving DecidableEq

/-! ### Cleanup and graph delivery -/

/-- `CleanupLeaseRecord`. -/
structure CleanupLeaseRecord where
  leaseId : String
  kind : LeaseKind
  resourceId : String
  status : LeaseStatus
deriving DecidableEq

/-- A lease that holds no resource any more. -/
def CleanupLeaseRecord.isTerminal (lease : CleanupLeaseRecord) : Bool :=
  lease.status = .released || lease.status = .recovered

/-- `ResourceCleanupReceipt`. -/
structure ResourceCleanupReceipt where
  runId : String
  leases : List CleanupLeaseRecord
  complete : Bool
  completedAt : Timestamp
  uniqueLeases : (leases.map CleanupLeaseRecord.leaseId).Nodup
  terminalSnapshot : complete = leases.all CleanupLeaseRecord.isTerminal
deriving DecidableEq

/-- `GraphDeliveryEvidence`. -/
structure GraphDeliveryEvidence where
  snapshot : GraphSnapshot
  joinArtifact : GraphArtifactRef
  childCleanupReceipts : List ResourceCleanupReceipt
  sequentialRepairIterations : ℕ := 0
  boundedReceipts : 1 ≤ childCleanupReceipts.length ∧ childCleanupReceipts.length ≤ 16
  boundedRepairs : sequentialRepairIterations ≤ 5
deriving DecidableEq

/-! ### Bundles -/

/-- `EvidenceBundle`: what the gate reads of it.  `verificationCommandHashes` is a dictionary. -/
structure EvidenceBundle where
  runId : String
  projectId : String
  taskId : String
  baseRevision : String
  configSnapshotArtifactId : String
  configSnapshotSha256 : Sha256
  taskSpecArtifactId : String
  fleetPlanArtifactId : String
  fleetPlanSha256 : Sha256
  fleetStrategy : FleetStrategy
  graphDelivery : Option GraphDeliveryEvidence := none
  requiredEvidence : List String
  sandboxProvider : String := "fake"
  sandboxSecurityLevel : SandboxSecurityLevel := .fake
  sandboxConfigurationSha256 : Option Sha256 := none
  sandboxRequirements : Option SandboxRequirements := none
  sandboxRequirementsSha256 : Option Sha256 := none
  sandboxImageIdentity : Option String := none
  sandboxDaemonIdentity : Option Sha256 := none
  sandboxCapabilities : SandboxCapabilities
  sandboxCapabilitiesSha256 : Option Sha256 := none
  verificationCommandHashes : List (String × Sha256) := []
  requiredVerificationCommandIds : List String := []
  patchArtifactId : Option String := none
  patchSha256 : Option Sha256 := none
  changedPaths : List String := []
  commandEvidence : List CommandEvidence := []
  verifierAgentInstanceId : Option String := none
  verifierRole : Option String := none
  verifierVerdictArtifactId : Option String := none
  verifierEvidenceArtifactIds : List String := []
  verifierWorkspaceMutated : Bool := false
  reportedVerdict : Option Verdict := none
  verifierRequiredRepairs : List String := []
  verifierRegressions : List String := []
  cleanupReceiptArtifactId : Option String := none
  cleanupReceiptSha256 : Option Sha256 := none
  cleanupComplete : Bool := false
  criterionAssessments : List CriterionAssessment
  structuredCriterionResults : Option (List CriterionResult) := none
  proofGaps : List ProofGap := []
  uniqueCommandHashes : (verificationCommandHashes.map Prod.fst).Nodup
  someEvidence : requiredEvidence ≠ []
  uniqueEvidence : requiredEvidence.Nodup
  pairedReceipt : cleanupReceiptArtifactId = none ↔ cleanupReceiptSha256 = none
  completeWithReceipt : cleanupComplete = true → cleanupReceiptArtifactId ≠ none
  pairedRequirements : sandboxRequirements = none ↔ sandboxRequirementsSha256 = none
  uniqueRequiredCommands : requiredVerificationCommandIds.Nodup
  someCriteria : criterionAssessments ≠ []
  uniqueCriteria : (criterionAssessments.map CriterionAssessment.criterionId).Nodup

/-- `CompletionDecision`. -/
structure CompletionDecision where
  verifiedComplete : Bool
  effectiveVerdict : Verdict
  reasonCodes : List String
deriving DecidableEq

/-- What the gate takes from outside: the digests of JSON texts, beside those of the graph
store. -/
structure EvidenceServices extends GraphServices where
  planTextSha256 : FleetPlan → Sha256
  preparationTextSha256 : GraphJoinPreparation → Sha256
  cleanupTextSha256 : ResourceCleanupReceipt → Sha256

namespace EvidenceBundle

variable (bundle : EvidenceBundle)

/-- `bundle.verifier_role or "verifier"`. -/
def verifierRoleName : String := (bundle.verifierRole.filter fun role => role ≠ "").getD "verifier"

/-- The records of the verifier of the bundle. -/
def verifierCommands : List CommandEvidence :=
  bundle.commandEvidence.filter fun item =>
    some item.agentInstanceId = bundle.verifierAgentInstanceId

/-- `requires_independent_verifier`. -/
def requiresIndependentVerifier : Prop :=
  "independent_verifier_verdict" ∈ bundle.requiredEvidence
    ∨ bundle.fleetStrategy = .engineerVerifier
    ∨ bundle.fleetStrategy = .researchArchitectEngineerVerifier
deriving Decidable

end EvidenceBundle

end AgentFleet
