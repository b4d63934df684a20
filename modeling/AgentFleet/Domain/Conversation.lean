import AgentFleet.Domain.Budgets
import AgentFleet.Domain.Graph
import AgentFleet.Domain.Texts

/-! # Conversations and the ownership of their turns

A conversation holds turns, each bound to one root run; a turn is owned under claims whose
generations count up.  `RecoverySnapshot` is what a reviewer of a stopped owner has seen, and
`ReviewedRecoveryPlan` what may be cleaned up after the review.

`ConversationModels` is how these records are dumped; `ConversationTurn.validates` and its like are
the validators, nested records included. -/

namespace AgentFleet

/-! ### Records -/

/-- `ConversationSummary`. -/
structure ConversationSummary where
  text : String
  truncated : Bool := false
deriving DecidableEq

/-- `ConversationArtifactRef`. -/
structure ConversationArtifactRef where
  artifactId : String
  sha256 : Sha256
  runId : String
  kind : ArtifactKind
deriving DecidableEq

/-- `ConversationContextEntry`. -/
structure ConversationContextEntry where
  turnId : String
  sequence : ℕ
  runId : String
  runStatus : RunStatus
  userSummary : ConversationSummary
  resultSummary : Option ConversationSummary := none
  artifactRefs : List ConversationArtifactRef := []
deriving DecidableEq

/-- `ConversationContext`. -/
structure ConversationContext where
  conversationId : String
  projectId : String
  throughSequence : ℕ
  entries : List ConversationContextEntry := []
deriving DecidableEq

/-- `Conversation`. -/
structure Conversation where
  conversationId : String
  projectId : String
  repositoryIdentity : Sha256
  revision : ℕ := 0
  nextTurnSequence : ℕ := 1
  activeTurnId : Option String := none
  createdAt : Timestamp
  updatedAt : Timestamp
deriving DecidableEq

/-- `ConversationSubmission`. -/
structure ConversationSubmission where
  conversationId : String
  projectId : String
  repositoryIdentity : Sha256
  submissionKey : String
  expectedRevision : ℕ
  context : ConversationContext
  userSummary : ConversationSummary
deriving DecidableEq

/-- `ConversationRunBinding`. -/
structure ConversationRunBinding where
  conversationId : String
  turnId : String
  projectId : String
  repositoryIdentity : Sha256
  sequence : ℕ
  submissionKey : String
  submissionSha256 : Sha256
  userGoalSha256 : Sha256
  runId : String
  runBindingSha256 : Sha256
  configSnapshotSha256 : Sha256
  budgetLimits : RunBudgetLimits
  contextSha256 : Sha256
  createdAt : Timestamp
deriving DecidableEq

/-- `ConversationClaim`. -/
structure ConversationClaim where
  claimId : String
  conversationId : String
  turnId : String
  projectId : String
  runId : String
  generation : ℕ
  claimedAt : Timestamp
deriving DecidableEq

/-- `ConversationTurnStatus`. -/
inductive ConversationTurnStatus where
  | running
  | waiting
  | delivered
  | failed
  | cancelled
  | recoveryRequired
deriving DecidableEq, Repr

/-- `ConversationTurn`. -/
structure ConversationTurn where
  binding : ConversationRunBinding
  revision : ℕ := 0
  status : ConversationTurnStatus
  ownerGeneration : ℕ
  activeClaimId : Option String := none
  context : ConversationContext
  userSummary : ConversationSummary
  resultSummary : Option ConversationSummary := none
  artifactRefs : List ConversationArtifactRef := []
  observedRunStatus : RunStatus
  createdAt : Timestamp
  updatedAt : Timestamp
  settledAt : Option Timestamp := none
  fencedAt : Option Timestamp := none
deriving DecidableEq

/-- `ConversationRegistration`. -/
structure ConversationRegistration where
  turn : ConversationTurn
  claim : Option ConversationClaim := none
deriving DecidableEq

/-- The status of the row of a claim. -/
inductive TurnClaimStatus where
  | active
  | released
  | fenced
deriving DecidableEq, Repr

/-- The text of a `TurnClaimStatus`. -/
def TurnClaimStatus.value : TurnClaimStatus → String
  | .active => "active"
  | .released => "released"
  | .fenced => "fenced"

/-! ### What the conversations are about -/

/-- `Project`; the fields that nothing reads stand as their JSON text. -/
structure ConversationProject where
  projectId : String
  canonicalRoot : String
  identityHash : Sha256
  fleetSpecHash : Option Sha256 := none
  remainder : String := ""
deriving DecidableEq

/-- `ArtifactMetadata`, as far as a reference to it is checked. -/
structure ArtifactMetadata where
  artifactId : String
  kind : ArtifactKind
  projectId : String
  runId : Option String := none
  taskId : Option String := none
  sha256 : Sha256
deriving DecidableEq

/-- `ResourceLease`; its metadata stand as their JSON text. -/
structure ResourceLease where
  leaseId : String
  runId : String
  kind : LeaseKind
  resourceId : String
  path : Option String := none
  status : LeaseStatus
  createdAt : Timestamp
  updatedAt : Timestamp
  metadata : String := "\x7b\x7d"
deriving DecidableEq

/-! ### Reviewed recovery -/

/-- `SessionSelection`. -/
structure SessionSelection where
  projectId : String
  conversationId : String
  conversationRevision : ℕ
  runId : Option String
  inspectionRevision : ℕ := 0
deriving DecidableEq

/-- `RecoverySnapshot`. -/
structure RecoverySnapshot where
  selection : SessionSelection
  project : ConversationProject
  conversation : Conversation
  turn : ConversationTurn
  claim : ConversationClaim
  claimStatus : TurnClaimStatus
  claimReleasedAt : Option Timestamp
  runs : List Run
  graphs : List GraphSnapshot := []
  leases : List ResourceLease := []
deriving DecidableEq

/-- `RecoveryBinding`: its text is kept as the snapshot that it reads as. -/
structure RecoveryBinding where
  snapshot : RecoverySnapshot
deriving DecidableEq

/-- `ReviewedRecoveryPlan`. -/
structure ReviewedRecoveryPlan where
  planId : String
  binding : RecoveryBinding
deriving DecidableEq

/-- `RecoveryLeaseClaim`. -/
structure RecoveryLeaseClaim where
  claimId : String
  plan : ReviewedRecoveryPlan
  lease : ResourceLease
deriving DecidableEq

/-! ### Dumps -/

/-- A record that is dumped. -/
inductive ConversationRecord where
  | summary (value : ConversationSummary)
  | artifactRef (value : ConversationArtifactRef)
  | contextEntry (value : ConversationContextEntry)
  | context (value : ConversationContext)
  | conversation (value : Conversation)
  | submission (value : ConversationSubmission)
  | binding (value : ConversationRunBinding)
  | claim (value : ConversationClaim)
  | turn (value : ConversationTurn)
  | registration (value : ConversationRegistration)
  | run (value : Run)
  | project (value : ConversationProject)
  | artifact (value : ArtifactMetadata)
  | lease (value : ResourceLease)
  | selection (value : SessionSelection)
  | snapshot (value : RecoverySnapshot)
  | plan (value : ReviewedRecoveryPlan)

/-- How the records are dumped. -/
structure ConversationModels where
  /-- `value.model_dump(mode="json")` -/
  dump : ConversationRecord → JsonValue
  /-- `value.model_dump_json()` -/
  text : ConversationRecord → String

/-- `len(value.model_dump_json().encode("utf-8"))`. -/
def ConversationModels.bytes (models : ConversationModels) (record : ConversationRecord) : ℕ :=
  (models.text record).utf8ByteSize

variable (models : ConversationModels)

/-! ### Validators -/

/-- `bounded_document`. -/
def boundedDocument (record : ConversationRecord) : Bool := models.bytes record ≤ 131072

/-- A match of `^[A-Za-z0-9][A-Za-z0-9_.:-]{0,127}$`. -/
def isSubmissionKey (key : String) : Bool :=
  match key.toList with
  | [] => false
  | first :: rest => first.isAlphanum
      && rest.all (fun c => c.isAlphanum || "_.:-".toList.contains c) && rest.length ≤ 127

/-- `ConversationSummary` validates. -/
def ConversationSummary.validates (value : ConversationSummary) : Bool :=
  1 ≤ value.text.length && value.text.length ≤ 4096 && !isBlankText value.text
    && !value.text.toList.contains '\x00' && value.text.utf8ByteSize ≤ 4096
    && boundedDocument models (.summary value)

/-- `_user_summary`. -/
def ConversationSummary.isUserSummary (value : ConversationSummary) : Bool :=
  value.validates models && value.text.utf8ByteSize ≤ 2048

/-- `bounded_kind`. -/
def ArtifactKind.isSummaryReference (kind : ArtifactKind) : Bool :=
  [.cosResponse, .runSummary, .evidenceBundle, .patch, .fleetPatch, .fleetPatchDiff,
    .resourceCleanup, .runtimeUsage].contains kind

/-- `ConversationArtifactRef` validates. -/
def ConversationArtifactRef.validates (value : ConversationArtifactRef) : Bool :=
  hasIdentity "art" 32 value.artifactId && hasIdentity "run" 32 value.runId
    && value.kind.isSummaryReference && boundedDocument models (.artifactRef value)

/-- References that are valid, unique and at most eight. -/
def validRefs (refs : List ConversationArtifactRef) : Bool :=
  refs.all (fun ref => ref.validates models) && refs.length ≤ 8
    && (refs.map ConversationArtifactRef.artifactId).Nodup

/-- The statuses that `settled_root` admits. -/
def RunStatus.isSettledRoot (status : RunStatus) : Bool :=
  [.readyForReview, .completed, .rejected, .failed, .cancelled, .abandoned].contains status

/-- `ConversationContextEntry` validates. -/
def ConversationContextEntry.validates (value : ConversationContextEntry) : Bool :=
  hasIdentity "turn" 32 value.turnId && 1 ≤ value.sequence && value.sequence ≤ 1000
    && hasIdentity "run" 32 value.runId && value.userSummary.isUserSummary models
    && value.resultSummary.all (fun summary => summary.validates models)
    && validRefs models value.artifactRefs && value.runStatus.isSettledRoot
    && value.artifactRefs.all (fun ref => ref.runId = value.runId)
    && boundedDocument models (.contextEntry value)

/-- `ConversationContext` validates. -/
def ConversationContext.validates (value : ConversationContext) : Bool :=
  hasIdentity "conv" 32 value.conversationId && isProjectId value.projectId
    && value.throughSequence ≤ 1000 && value.entries.all (fun entry => entry.validates models)
    && value.entries.length ≤ 8
    && (value.entries.map ConversationContextEntry.sequence).Pairwise (· < ·)
    && value.entries.all (fun entry => entry.sequence ≤ value.throughSequence)
    && (value.entries.map ConversationContextEntry.turnId).Nodup
    && (value.entries.map ConversationContextEntry.runId).Nodup
    && models.bytes (.context value) ≤ 32768

/-- `Conversation` validates. -/
def Conversation.validates (value : Conversation) : Bool :=
  hasIdentity "conv" 32 value.conversationId && isProjectId value.projectId
    && 1 ≤ value.nextTurnSequence && value.nextTurnSequence ≤ 1001
    && value.activeTurnId.all (hasIdentity "turn" 32) && value.createdAt ≤ value.updatedAt
    && boundedDocument models (.conversation value)

/-- `ConversationSubmission` validates. -/
def ConversationSubmission.validates (value : ConversationSubmission) : Bool :=
  hasIdentity "conv" 32 value.conversationId && isProjectId value.projectId
    && isSubmissionKey value.submissionKey && value.context.validates models
    && value.userSummary.isUserSummary models
    && value.context.conversationId = value.conversationId
    && value.context.projectId = value.projectId && boundedDocument models (.submission value)

/-- `ConversationRunBinding` validates. -/
def ConversationRunBinding.validates (value : ConversationRunBinding) : Bool :=
  hasIdentity "conv" 32 value.conversationId && hasIdentity "turn" 32 value.turnId
    && isProjectId value.projectId && 1 ≤ value.sequence && value.sequence ≤ 1000
    && isSubmissionKey value.submissionKey && hasIdentity "run" 32 value.runId
    && boundedDocument models (.binding value)

/-- `ConversationClaim` validates. -/
def ConversationClaim.validates (value : ConversationClaim) : Bool :=
  hasIdentity "corr" 32 value.claimId && hasIdentity "conv" 32 value.conversationId
    && hasIdentity "turn" 32 value.turnId && isProjectId value.projectId
    && hasIdentity "run" 32 value.runId && 1 ≤ value.generation
    && boundedDocument models (.claim value)

/-- `_ACTIVE`. -/
def ConversationTurnStatus.isActive (status : ConversationTurnStatus) : Bool :=
  [.running, .waiting, .recoveryRequired].contains status

/-- `_SETTLED`. -/
def ConversationTurnStatus.isSettled (status : ConversationTurnStatus) : Bool :=
  [.delivered, .failed, .cancelled].contains status

/-- `consistent_turn`; `contextSha256` is the digest of the context. -/
def ConversationTurn.isConsistent (turn : ConversationTurn) (contextSha256 : Sha256) : Prop :=
  turn.context.conversationId = turn.binding.conversationId
    ∧ turn.context.projectId = turn.binding.projectId
    ∧ contextSha256 = turn.binding.contextSha256
    ∧ turn.context.throughSequence + 1 = turn.binding.sequence
    ∧ turn.createdAt = turn.binding.createdAt
    ∧ (∀ ref ∈ turn.artifactRefs, ref.runId = turn.binding.runId)
    ∧ turn.createdAt ≤ turn.updatedAt
    ∧ (∀ instant ∈ turn.settledAt, turn.createdAt ≤ instant ∧ instant ≤ turn.updatedAt)
    ∧ (∀ instant ∈ turn.fencedAt, turn.createdAt ≤ instant ∧ instant ≤ turn.updatedAt)
    ∧ (turn.status.isSettled = true ↔ turn.settledAt.isSome = true)
    ∧ (turn.status = .running ↔ turn.activeClaimId.isSome = true)
    ∧ (turn.status = .recoveryRequired → turn.fencedAt.isSome = true)
deriving Decidable

/-- `ConversationTurn` validates. -/
def ConversationTurn.validates (value : ConversationTurn) (contextSha256 : Sha256) : Bool :=
  value.binding.validates models && 1 ≤ value.ownerGeneration
    && value.activeClaimId.all (hasIdentity "corr" 32) && value.context.validates models
    && value.userSummary.isUserSummary models
    && value.resultSummary.all (fun summary => summary.validates models)
    && validRefs models value.artifactRefs && value.isConsistent contextSha256
    && boundedDocument models (.turn value)

/-- `validate_resource_identity`. -/
def ResourceLease.validates (value : ResourceLease) : Bool :=
  hasIdentity "lease" 32 value.leaseId && hasIdentity "run" 32 value.runId
    && match value.kind with
      | .worktree => hasIdentity "ws" 32 value.resourceId
      | .sandbox => hasIdentity "sandbox" 32 value.resourceId
      | .execution => hasIdentity "exec" 32 value.resourceId

/-- `RecoverySnapshot` validates; the records in it were validated when they were decoded. -/
def RecoverySnapshot.validates (value : RecoverySnapshot) : Bool :=
  1 ≤ value.runs.length && value.runs.length ≤ 129 && value.graphs.length ≤ 129
    && value.leases.length ≤ 256

/-- `validate_snapshot`. -/
def RecoveryBinding.validates (value : RecoveryBinding) : Bool :=
  value.snapshot.validates && models.bytes (.snapshot value.snapshot) ≤ 16777216

end AgentFleet
