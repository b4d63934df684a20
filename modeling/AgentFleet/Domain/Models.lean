import AgentFleet.Domain.Errors
import Mathlib.Data.List.Dedup

/-! # Domain records

The records of the state store and the enumerations they use, under the names of the domain
models.  A record holds what the modelled operations read and write.

* `Sha256` carries the format of a digest, so a malformed digest cannot be stored.
* `CapabilityGrant.validates` is the model validator of a grant; `GrantRecord` is a grant that
  passed it.
* `Services` gathers what the operations take from outside: the redactor and the digest. -/

namespace AgentFleet

/-- Microseconds since the epoch: an aware UTC `datetime`. -/
abbrev Timestamp := ℤ

/-- `timedelta(minutes=10)`. -/
def tenMinutes : ℤ := 600 * 1000000

/-- The characters of a lower-case hexadecimal digest. -/
def isHexDigit (c : Char) : Bool := "0123456789abcdef".toList.contains c

/-- A SHA-256 digest: 64 lower-case hexadecimal digits. -/
structure Sha256 where
  hex : String
  wellFormed : hex.toList.length = 64 ∧ hex.toList.all isHexDigit = true
deriving DecidableEq

/-- `sorted(set(...))`. -/
def sortedSet (labels : List String) : List String :=
  labels.dedup.mergeSort fun a b => a ≤ b

/-! ### Enumerations -/

/-- `RunStatus`. -/
inductive RunStatus where
  | created
  | running
  | waitingForChildren
  | pausedForApproval
  | pausedForPlan
  | readyForReview
  | applying
  | completed
  | failed
  | cancelled
  | rejected
  | abandoned
deriving DecidableEq, Repr

/-- `WorkflowStage`. -/
inductive WorkflowStage where
  | intake
  | scoping
  | workspacePreparation
  | implementing
  | verifying
  | repairing
  | presenting
  | applying
  | cleanup
deriving DecidableEq, Repr

/-- `AgentStatus`. -/
inductive AgentStatus where
  | created
  | running
  | paused
  | completed
  | failed
deriving DecidableEq, Repr

/-- `PermissionOutcome`. -/
inductive PermissionOutcome where
  | allow
  | deny
  | requireApproval
deriving DecidableEq, Repr

/-- `ApprovalChoice`. -/
inductive ApprovalChoice where
  | deny
  | allowOnce
  | allowRun
  | allowAlways
deriving DecidableEq, Repr

/-- `ApprovalStatus`. -/
inductive ApprovalStatus where
  | pending
  | approved
  | denied
deriving DecidableEq, Repr

/-- `IntentStatus`. -/
inductive IntentStatus where
  | pendingApproval
  | reserved
  | executed
  | denied
deriving DecidableEq, Repr

/-- `ArtifactKind`. -/
inductive ArtifactKind where
  | fleetConfigProposal
  | fleetPatch
  | fleetPatchDiff
  | configSnapshot
  | taskSpec
  | implementationReport
  | specialistReport
  | graphJoin
  | patch
  | testReport
  | verifierVerdict
  | runSummary
  | commandTranscript
  | commandEvidence
  | repositoryProfile
  | projectKnowledge
  | fleetPlan
  | evidenceBundle
  | errorReport
  | runtimeUsage
  | sandboxInspection
  | resourceCleanup
  | bootstrapReport
  | cosResponse
deriving DecidableEq, Repr

/-- The text of a `RunStatus`. -/
def RunStatus.value : RunStatus → String
  | .created => "created"
  | .running => "running"
  | .waitingForChildren => "waiting_for_children"
  | .pausedForApproval => "paused_for_approval"
  | .pausedForPlan => "paused_for_plan"
  | .readyForReview => "ready_for_review"
  | .applying => "applying"
  | .completed => "completed"
  | .failed => "failed"
  | .cancelled => "cancelled"
  | .rejected => "rejected"
  | .abandoned => "abandoned"

/-- The text of a `WorkflowStage`. -/
def WorkflowStage.value : WorkflowStage → String
  | .intake => "intake"
  | .scoping => "scoping"
  | .workspacePreparation => "workspace_preparation"
  | .implementing => "implementing"
  | .verifying => "verifying"
  | .repairing => "repairing"
  | .presenting => "presenting"
  | .applying => "applying"
  | .cleanup => "cleanup"

/-- The text of an `ApprovalChoice`. -/
def ApprovalChoice.value : ApprovalChoice → String
  | .deny => "deny"
  | .allowOnce => "allow_once"
  | .allowRun => "allow_run"
  | .allowAlways => "allow_always"

/-- The text of an `ApprovalStatus`. -/
def ApprovalStatus.value : ApprovalStatus → String
  | .pending => "pending"
  | .approved => "approved"
  | .denied => "denied"

/-- The text of a `PermissionOutcome`. -/
def PermissionOutcome.value : PermissionOutcome → String
  | .allow => "allow"
  | .deny => "deny"
  | .requireApproval => "require_approval"

/-- `LeaseKind`. -/
inductive LeaseKind where
  | worktree
  | sandbox
  | execution
deriving DecidableEq, Repr

/-- `LeaseStatus`. -/
inductive LeaseStatus where
  | creating
  | active
  | releasing
  | released
  | recovered
  | failed
deriving DecidableEq, Repr

/-- The text of a `LeaseKind`. -/
def LeaseKind.value : LeaseKind → String
  | .worktree => "worktree"
  | .sandbox => "sandbox"
  | .execution => "execution"

/-- The text of a `LeaseStatus`. -/
def LeaseStatus.value : LeaseStatus → String
  | .creating => "creating"
  | .active => "active"
  | .releasing => "releasing"
  | .released => "released"
  | .recovered => "recovered"
  | .failed => "failed"

/-- `LeaseStatus(text)`. -/
def LeaseStatus.ofValue? (text : String) : Option LeaseStatus :=
  [.creating, .active, .releasing, .released, .recovered, .failed].find? fun status =>
    LeaseStatus.value status = text

/-! ### Runs, tasks and agents -/

/-- The fields of a `Run` that are fixed when it is registered and that no guard of the workflow
reads; nested models stand as their JSON text. -/
structure RunRegistration where
  parentPlanSha256 : Option Sha256 := none
  parentNodeId : Option String := none
  parentIteration : Option ℕ := none
  planReviewRequired : Bool := false
  targetStatusFingerprint : String := ""
  runtimeName : String := "fake"
  providerModel : Option String := none
  credentialRef : Option String := none
  modelBindingsSha256 : Option Sha256 := none
  sandboxName : String := "fake"
  sandboxConfiguration : Option String := none
  sandboxConfigurationHash : Option Sha256 := none
  sandboxRequirements : Option String := none
  sandboxCapabilitiesSnapshot : Option String := none
  sandboxCapabilitiesHash : Option Sha256 := none
  sandboxImageIdentity : Option String := none
  sandboxDaemonIdentity : Option Sha256 := none
  unsafeLocalConfirmed : Bool := false
  fakeScenario : String := "success"
  maxRepairIterations : ℕ := 1
  createdAt : Timestamp := 0
deriving DecidableEq

/-- `Run`: its identity, its place in the workflow, its pending approval, its parent and the
artifacts that its graph reads.  The fields that nothing reads stand as their JSON text. -/
structure Run where
  runId : String
  projectId : String
  correlationId : String
  parentRunId : Option String := none
  goal : String
  baseRevision : String
  status : RunStatus := .created
  stage : Option WorkflowStage := none
  taskId : Option String := none
  configSnapshotHash : Option Sha256 := none
  fleetPlanArtifactId : Option String := none
  fleetPlanHash : Option Sha256 := none
  pendingApprovalId : Option String := none
  patchArtifactId : Option String := none
  patchSha256 : Option Sha256 := none
  evidenceBundleArtifactId : Option String := none
  cleanupReceiptArtifactId : Option String := none
  cleanupReceiptSha256 : Option Sha256 := none
  verifiedComplete : Bool := false
  updatedAt : Timestamp
  registration : RunRegistration := {}
  remainder : String := ""
deriving DecidableEq

/-- `change_kind` of a task. -/
inductive ChangeKind where
  | readOnly
  | codeChange
deriving DecidableEq, Repr

/-- `TaskSpec`: its identity, its scopes, its evidence requirements and the identifiers of its
acceptance criteria. -/
structure TaskSpec where
  taskId : String
  runId : String
  workflow : String := "code-change"
  changeKind : ChangeKind := .codeChange
  allowedPaths : List String
  forbiddenPaths : List String
  acceptanceCriteria : List String
  requiredEvidence : List String
deriving DecidableEq

/-- `AgentInstance`. -/
structure AgentInstance where
  agentInstanceId : String
  runId : String
  taskId : Option String
  role : String
  status : AgentStatus
  iteration : ℕ := 0
  completedAt : Option Timestamp
deriving DecidableEq

/-! ### Intents, approvals and grants -/

/-- `CanonicalResource`. -/
structure CanonicalResource where
  kind : String
  identifier : String
deriving DecidableEq

/-- `CanonicalResource.model_dump`. -/
def CanonicalResource.modelDump (resource : CanonicalResource) : JsonValue :=
  .obj (JsonValue.object [("kind", .str resource.kind), ("identifier", .str resource.identifier)])

/-- `ScriptedAction`: a proposed action. -/
structure ScriptedAction where
  action : String
  resource : CanonicalResource
  parameters : JsonObject
  reason : String
  sideEffect : Bool
  idempotencyKey : String

/-- `ToolIntent`. -/
structure ToolIntent where
  intentId : String
  runId : String
  taskId : String
  agentInstanceId : String
  principalRole : String
  workflow : String
  stage : WorkflowStage
  action : String
  resource : CanonicalResource
  parameters : JsonObject
  reason : String
  sideEffect : Bool
  idempotencyKey : String
  requestedTtlSeconds : Option ℕ := none
  requestedUses : Option ℕ := none

/-- `intent.model_dump(mode="json")`. -/
def ToolIntent.modelDump (intent : ToolIntent) : JsonValue :=
  .obj (JsonValue.object [
    ("intent_id", .str intent.intentId),
    ("run_id", .str intent.runId),
    ("task_id", .str intent.taskId),
    ("agent_instance_id", .str intent.agentInstanceId),
    ("principal_role", .str intent.principalRole),
    ("workflow", .str intent.workflow),
    ("stage", .str intent.stage.value),
    ("action", .str intent.action),
    ("resource", intent.resource.modelDump),
    ("parameters", .obj intent.parameters),
    ("reason", .str intent.reason),
    ("side_effect", .bool intent.sideEffect),
    ("idempotency_key", .str intent.idempotencyKey),
    ("requested_ttl_seconds", .ofOptionInt (intent.requestedTtlSeconds.map Int.ofNat)),
    ("requested_uses", .ofOptionInt (intent.requestedUses.map Int.ofNat))])

/-- `==` on intents: every field, the parameters compared as Python compares them. -/
def ToolIntent.pyEq (a b : ToolIntent) : Bool :=
  a.intentId = b.intentId && a.runId = b.runId && a.taskId = b.taskId
    && a.agentInstanceId = b.agentInstanceId && a.principalRole = b.principalRole
    && a.workflow = b.workflow && a.stage = b.stage && a.action = b.action
    && a.resource = b.resource && JsonValue.pyEqFields a.parameters b.parameters
    && a.reason = b.reason && a.sideEffect = b.sideEffect
    && a.idempotencyKey = b.idempotencyKey
    && a.requestedTtlSeconds = b.requestedTtlSeconds && a.requestedUses = b.requestedUses

/-- `StoredToolIntent`: a row of `tool_intents`. -/
structure StoredToolIntent where
  intent : ToolIntent
  intentHash : Sha256
  status : IntentStatus
  approvalRequestId : Option String := none
  result : Option JsonObject := none

/-- `ApprovalRequest`: a row of `approvals`. -/
structure ApprovalRequest where
  requestId : String
  intentId : String
  runId : String
  intentHash : Sha256
  principalRole : String
  action : String
  resource : CanonicalResource
  reason : String
  status : ApprovalStatus := .pending
  availableChoices : List ApprovalChoice := [.deny, .allowOnce]
  authorizationScope : Option JsonObject := none
  resolutionChoice : Option ApprovalChoice := none
  sourceRuleId : Option String := none
  createdAt : Timestamp
  expiresAt : Timestamp
  resolvedAt : Option Timestamp := none
  denialReason : Option String := none

/-- `CapabilityGrant`. -/
structure CapabilityGrant where
  grantId : String
  requestId : Option String := none
  intentId : String
  projectId : String
  runId : String
  taskId : String
  agentInstanceId : String
  principalRole : String
  action : String
  resource : CanonicalResource
  intentHash : Sha256
  issuedAt : Timestamp
  expiresAt : Option Timestamp := none
  choice : ApprovalChoice := .allowOnce
  scopeSha256 : Option Sha256 := none
  remainingUses : Option ℤ := some 1
  consumedAt : Option Timestamp := none
  revokedAt : Option Timestamp := none
  sourceRuleId : Option String := none
deriving DecidableEq

namespace CapabilityGrant

/-- The bound of the `remaining_uses` field and of the column's CHECK constraint. -/
def usesInRange (grant : CapabilityGrant) : Prop :=
  ∀ n ∈ grant.remainingUses, 0 ≤ n ∧ n ≤ 10000
deriving Decidable

/-- `validate_grant_choice`. -/
def validGrantChoice (grant : CapabilityGrant) : Prop :=
  grant.choice ≠ .deny
    ∧ (grant.requestId = none →
        grant.choice = .allowAlways ∧ grant.sourceRuleId ≠ none
          ∧ (grant.remainingUses = some 0 ∨ grant.remainingUses = some 1)
          ∧ (grant.remainingUses = some 0 → grant.consumedAt ≠ none))
    ∧ (grant.choice = .allowOnce →
        grant.remainingUses = some 0 ∨ grant.remainingUses = some 1)
    ∧ (grant.choice = .allowOnce → ∃ expiry ∈ grant.expiresAt,
        grant.issuedAt < expiry ∧ expiry - grant.issuedAt ≤ tenMinutes)
    ∧ (grant.choice = .allowRun ∨ grant.choice = .allowAlways → grant.scopeSha256 ≠ none)
deriving Decidable

/-- What constructing a `CapabilityGrant` checks, and every read of its row again. -/
def validates (grant : CapabilityGrant) : Prop :=
  grant.usesInRange ∧ grant.validGrantChoice
deriving Decidable

end CapabilityGrant

/-- `PermissionDecision`, as the policy broker returns it. -/
structure PermissionDecision where
  outcome : PermissionOutcome
  decisionCode : String
  explanation : String
  isProtected : Bool := false
  matchedRuleIds : List String := []
  effectiveScope : Option JsonObject := none
  risk : String := "unknown"
  availableChoices : List ApprovalChoice := []
  grantId : Option String := none
  sourceRuleId : Option String := none

/-- `FleetEvent`: a row of `run_events` once it has its sequence number. -/
structure FleetEvent where
  eventId : String
  eventType : String
  occurredAt : Timestamp
  projectId : String
  runId : Option String
  taskId : Option String
  agentInstanceId : Option String := none
  correlationId : String
  sequence : ℕ := 0
  payload : JsonObject
  redactionSummary : List String

/-! ### Services -/

/-- The registry of secrets. -/
structure Redactor where
  containsSecretData : JsonValue → Bool
  redactData : JsonObject → JsonObject × List String
  redactText : String → String × List String

/-- What the store is constructed with: the redactor, the canonical digest, and the screen
that a durable run record passes (size bound and secret scan of `_decode_state_record`). -/
structure Services where
  redactor : Redactor
  canonicalJsonHash : JsonValue → Sha256
  stateRecordSafe : Run → Bool

/-- What one transaction reads from its surroundings: the clock and the identifier generator,
each indexed by the order in which the transaction's body asks. -/
structure Ambient where
  clock : ℕ → Timestamp
  ids : ℕ → String

end AgentFleet
