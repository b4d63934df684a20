import AgentFleet.Conversations.Operations

/-! # The conversation store: reviewed recovery

A stopped owner is reviewed as a snapshot.  `prepareReviewedRecovery` fences the turn of a snapshot
that still stands and records a plan; each lease of the plan is then claimed and finished under it,
and the plan's own events tell what has become of the leases.  `assertRecoveryPlan` admits a plan
while everything else stands as it was reviewed. -/

namespace AgentFleet.Conversations

open Relational Transaction Checks

variable (svc : ConversationServices) (reads : ConversationReads) (amb : Ambient)

/-! ### Leases -/

/-- The transitions of `_validate_lease_transition`. -/
def leaseTransitions : LeaseStatus → List LeaseStatus
  | .creating => [.active, .releasing, .released, .recovered, .failed]
  | .active => [.releasing, .released, .recovered, .failed]
  | .releasing => [.released, .recovered, .failed]
  | .failed => [.releasing, .recovered]
  | .released => []
  | .recovered => []

/-- The error of `_validate_lease_transition`. -/
def invalidLeaseTransition (current target : LeaseStatus) : StoreError :=
  .fleet {
    code := .recoveryRequired
    message := "Invalid resource lease transition: " ++ current.value ++ " -> " ++ target.value
      ++ "."
    remediation :=
      "Inspect the resource lease and use the recovery path instead of reopening it."
    details := JsonValue.object [
      ("current_status", .str current.value),
      ("target_status", .str target.value)] }

/-- What the events of a lease are about. -/
def leaseSubject : LeaseKind → String
  | .worktree => "workspace"
  | _ => "sandbox"

/-- What the event of a worktree or a sandbox says. -/
def leaseSuffix : LeaseStatus → String
  | .creating => "create_started"
  | .active => "created"
  | .releasing => "cleanup_started"
  | .released => "cleaned"
  | .recovered => "recovered"
  | .failed => "cleanup_failed"

/-- The events of an execution. -/
def executionEventTypes : LeaseStatus → List String
  | .creating => ["sandbox.exec_started"]
  | .active => ["sandbox.inspected"]
  | .releasing => ["sandbox.cleanup_started"]
  | .released => ["sandbox.exec_finished", "sandbox.cleaned"]
  | .recovered => ["sandbox.recovered"]
  | .failed => ["sandbox.exec_failed"]

/-- `_lease_event_types`. -/
def leaseEventTypes (kind : LeaseKind) (status : LeaseStatus) : List String :=
  if kind = .execution then executionEventTypes status
  else (leaseSubject kind ++ "." ++ leaseSuffix status)
    :: if kind = .sandbox ∧ status = .active then ["sandbox.inspected"] else []

/-- The events of a change of a lease, from place `k` on. -/
def writeLeaseEvents (run : Run) (lease : ResourceLease) : ℕ → List String → RegistryTxn Unit
  | _, [] => return ()
  | k, eventType :: eventTypes => do
      onDatabase (onStore (insertEvent svc.toServices (eventForRun svc.toServices amb k run
        eventType (JsonValue.object [
          ("lease_id", .str lease.leaseId),
          ("lease_status", .str lease.status.value)]))))
      writeLeaseEvents run lease (k + 1) eventTypes

/-- The UPDATE of `resource_leases`. -/
def replaceLease (before after : ResourceLease) : RegistryTxn Unit := do
  let s ← get
  let leases ← expect invalid (s.shared.leases.replace? before after)
  set { s with shared := { s.shared with leases } }

/-- `update_lease_status`. -/
def updateLeaseStatus (leaseId : String) (status : LeaseStatus) : RegistryTxn Unit := do
  let s ← get
  let current ← expect (notFound "resource lease" leaseId)
    (s.shared.leases.find? fun lease => lease.leaseId = leaseId)
  if current.status = status then return ()
  else do
    refuseIf (status ∉ leaseTransitions current.status)
      (invalidLeaseTransition current.status status)
    let updated := { current with status := status, updatedAt := amb.clock 0 }
    replaceLease current updated
    let run ← onDatabase (onStore (getRun current.runId))
    writeLeaseEvents svc amb run updated 1 (leaseEventTypes current.kind status)

/-! ### The progress of a plan -/

/-- The leases of a plan as its events leave them, the claim of each lease that was claimed, and
the leases that were finished. -/
structure LeaseProgress where
  leases : List ResourceLease
  claims : List (String × String) := []
  finished : List String := []

/-- The payload of an event of a plan. -/
structure LeaseEventData where
  planId : String
  planSha256 : String
  leaseId : String
  claimId : String
  beforeSha256 : String
  afterSha256 : String
  status : String
  updatedAt : String

/-- The payload of an event of a plan has these members, all of them texts. -/
def leaseEventData? (payload : JsonObject) : Option LeaseEventData := do
  let planId ← textField? payload "plan_id"
  let planSha256 ← textField? payload "plan_sha256"
  let leaseId ← textField? payload "lease_id"
  let claimId ← textField? payload "claim_id"
  let beforeSha256 ← textField? payload "before_sha256"
  let afterSha256 ← textField? payload "after_sha256"
  let status ← textField? payload "status"
  let updatedAt ← textField? payload "updated_at"
  if payload.length = 8 then
    some ⟨planId, planSha256, leaseId, claimId, beforeSha256, afterSha256, status, updatedAt⟩
  else none

/-- `expected[lease.lease_id] = lease`. -/
def setLease (lease : ResourceLease) (leases : List ResourceLease) : List ResourceLease :=
  leases.map fun other => if other.leaseId = lease.leaseId then lease else other

/-- The claim under which a lease is finished. -/
def LeaseProgress.claim? (progress : LeaseProgress) (leaseId : String) : Option String :=
  (progress.claims.find? fun claim => claim.1 = leaseId).map Prod.snd

/-- What `_reviewed_leases` checks of the claims before an event. -/
def checkLeaseEvent (progress : LeaseProgress) (eventType : String) (data : LeaseEventData)
    (before : ResourceLease) (status : LeaseStatus) : Except StoreError Unit :=
  if eventType = "conversation.recovery_lease_claimed" then
    refuse (data.leaseId ∈ progress.claims.map Prod.fst
      ∨ data.claimId ∈ progress.claims.map Prod.snd ∨ status ≠ .releasing
      ∨ leaseEnded before = true) invalid
  else
    refuse (progress.claim? data.leaseId ≠ some data.claimId ∨ data.leaseId ∈ progress.finished
      ∨ ¬ (status = .recovered ∨ status = .failed)) invalid

/-- The progress after an event. -/
def LeaseProgress.after (progress : LeaseProgress) (eventType leaseId claimId : String)
    (lease : ResourceLease) : LeaseProgress :=
  if eventType = "conversation.recovery_lease_claimed" then
    { progress with
      leases := setLease lease progress.leases
      claims := progress.claims ++ [(leaseId, claimId)] }
  else
    { progress with
      leases := setLease lease progress.leases
      finished := progress.finished ++ [leaseId] }

/-- One event of `_reviewed_leases`. -/
def followLeaseEvent (progress : LeaseProgress) (event : FleetEvent) :
    Except StoreError LeaseProgress := do
  let data ← demand invalid (leaseEventData? event.payload)
  refuse (svc.identifies "corr" data.claimId = false) invalid
  let before ← demand invalid (progress.leases.find? fun lease => lease.leaseId = data.leaseId)
  refuse ((svc.digestOf (.lease before)).hex ≠ data.beforeSha256) invalid
  let status ← demand invalid (LeaseStatus.ofValue? data.status)
  checkLeaseEvent progress event.eventType data before status
  let updatedAt ← demand invalid (svc.fromIsoformat data.updatedAt)
  let after := { before with status := status, updatedAt := updatedAt }
  checkRecord svc (.lease after) after.validates
  refuse ((svc.digestOf (.lease after)).hex ≠ data.afterSha256) invalid
  return progress.after event.eventType data.leaseId data.claimId after

/-- The events of `_reviewed_leases`. -/
def followLeaseEvents : LeaseProgress → List FleetEvent → Except StoreError LeaseProgress
  | progress, [] => .ok progress
  | progress, event :: events => do
      let progress ← followLeaseEvent svc progress event
      followLeaseEvents progress events

/-- `_reviewed_leases`. -/
def reviewedLeases (plan : ReviewedRecoveryPlan) (events : List FleetEvent) :
    Except StoreError LeaseProgress :=
  followLeaseEvents svc
    { leases := Keyed.latest ResourceLease.leaseId plan.binding.snapshot.leases } events

/-- The leases are the same by identifier. -/
def sameLeases (current expected : List ResourceLease) : Prop :=
  (∀ lease ∈ current, lease ∈ expected) ∧ ∀ lease ∈ expected, lease ∈ current
deriving Decidable

/-- A snapshot without its leases. -/
def RecoverySnapshot.withoutLeases (snapshot : RecoverySnapshot) : RecoverySnapshot :=
  { snapshot with leases := [] }

/-- `_assert_recovery_plan`. -/
def assertRecoveryPlan (s : Registry) (plan : ReviewedRecoveryPlan) :
    Except StoreError (RecoverySnapshot × LeaseProgress) := do
  let original := plan.binding.snapshot
  let current ← recoverySnapshot svc reads s original.selection
  let events ← recoveryEvents svc s plan
  let progress ← reviewedLeases svc plan events
  refuse (RecoverySnapshot.withoutLeases current ≠ RecoverySnapshot.withoutLeases original
    ∨ ¬ sameLeases current.leases progress.leases
    ∨ current.turn.status ≠ .recoveryRequired ∨ current.turn.activeClaimId ≠ none) invalid
  return (current, progress)

/-! ### Transactions -/

/-- `capture_recovery`. -/
def captureRecovery (s : Registry) (selection : SessionSelection) :
    Except StoreError RecoveryBinding := do
  refuse (svc.clean (.selection selection) = false) invalid
  let snapshot ← recoverySnapshot svc reads s selection
  recoverable snapshot
  let binding : RecoveryBinding := ⟨snapshot⟩
  refuse (binding.validates svc.toConversationModels = false) .validation
  return binding

/-- A turn that has settled behind a recovery fence again. -/
def refencedTurn (turn : ConversationTurn) (fencedAt now : Timestamp) : ConversationTurn :=
  { turn with
    status := .recoveryRequired
    revision := turn.revision + 1
    fencedAt := some (turn.fencedAt.getD fencedAt)
    updatedAt := now
    settledAt := none }

/-- The turn of a snapshot is fenced; one that has settled only regains its fence. -/
def fenceReviewed (current : RecoverySnapshot) (root : Run) : RegistryTxn Unit :=
  if current.turn.status.isActive = true then do
    let _ ← fence svc amb root.runId current.turn.revision .recovery none
  else do
    refuseIf (isTerminal root.status = false) invalid
    let updated := refencedTurn current.turn (amb.clock 0) (amb.clock 1)
    updateTurn svc amb 2 updated "conversation.turn_fenced"
    advance svc amb 3 current.conversation updated

/-- The graphs of a snapshot are cancelled, from place `k` on. -/
def cancelGraphs : ℕ → List GraphSnapshot → RegistryTxn Unit
  | _, [] => return ()
  | k, graph :: graphs => do
      let _ ← onDatabase (onGraphs (requestCancel svc.toGraphServices reads.graph (amb.after k)
        graph.parentRunId graph.revision))
      cancelGraphs (k + (2 * graph.nodes.length + 2)) graphs

/-- The places that the cancellation of some graphs takes. -/
def cancelSpan (graphs : List GraphSnapshot) : ℕ :=
  (graphs.map fun graph => 2 * graph.nodes.length + 2).sum

/-- `prepare_reviewed_recovery`. -/
def prepareReviewedRecovery (binding : RecoveryBinding) : RegistryTxn ReviewedRecoveryPlan := do
  let original := binding.snapshot
  let current ← reading fun s => recoverySnapshot svc reads s original.selection
  refuseIf (current ≠ original) invalid
  reading fun _ => recoverable current
  let root ← reading fun _ => rootOf current
  fenceReviewed svc amb current root
  cancelGraphs svc reads amb 8 current.graphs.reverse
  let conversation ← reading fun s =>
    conversationOf svc s original.selection.projectId original.selection.conversationId
  let selection := { original.selection with conversationRevision := conversation.revision }
  let snapshot ← reading fun s => recoverySnapshot svc reads s selection
  let plan : ReviewedRecoveryPlan := ⟨amb.ids 0, ⟨snapshot⟩⟩
  refuseIf (plan.binding.validates svc.toConversationModels = false
    ∨ hasIdentity "corr" 32 plan.planId = false) .validation
  let _ ← writeEvent svc amb (8 + cancelSpan current.graphs) selection.projectId selection.runId
    "conversation.recovery_prepared" "recovery_plan" plan.planId (svc.dump (.plan plan))
  return plan

/-- The event that tells a step of a plan. -/
def progressEvent (k : ℕ) (plan : ReviewedRecoveryPlan) (root : Run) (claimId : String)
    (before after : ResourceLease) (finished : Bool) : FleetEvent :=
  eventForRun svc.toServices amb k root
    (if finished = true then "conversation.recovery_lease_finished"
      else "conversation.recovery_lease_claimed")
    (textFields [
      ("plan_id", plan.planId),
      ("plan_sha256", (planSha256 svc plan).hex),
      ("lease_id", after.leaseId),
      ("claim_id", claimId),
      ("before_sha256", (svc.digestOf (.lease before)).hex),
      ("after_sha256", (svc.digestOf (.lease after)).hex),
      ("status", after.status.value),
      ("updated_at", svc.toGraphServices.isoTimestamp after.updatedAt)])

/-- `_record_recovery_lease`. -/
def recordRecoveryLease (plan : ReviewedRecoveryPlan) (claimId : String)
    (before after : ResourceLease) (finished : Bool) : RegistryTxn Unit := do
  refuseIf (before.status ≠ after.status ∧ after.status ∉ leaseTransitions before.status)
    (invalidLeaseTransition before.status after.status)
  replaceLease before after
  let run ← reading fun s => runOf svc s after.runId
  writeLeaseEvents svc amb run after 1 (leaseEventTypes after.kind after.status)
  let root ← reading fun _ => rootOf plan.binding.snapshot
  onDatabase (onStore (insertEvent svc.toServices
    (progressEvent svc amb 3 plan root claimId before after finished)))

/-- The lease as it is claimed for recovery; its update time moves on under any clock. -/
def claimedLease (lease : ResourceLease) (now : Timestamp) : ResourceLease :=
  { lease with status := .releasing, updatedAt := max now (lease.updatedAt + 1) }

/-- `claim_recovery_lease`. -/
def claimRecoveryLease (plan : ReviewedRecoveryPlan) (leaseId : String) :
    RegistryTxn RecoveryLeaseClaim := do
  let (current, progress) ← reading fun s => assertRecoveryPlan svc reads s plan
  let found := current.leases.filter fun lease => lease.leaseId = leaseId
  refuseIf (found.length ≠ 1 ∨ leaseId ∈ progress.claims.map Prod.fst) invalid
  let before ← expect invalid found.head?
  refuseIf (leaseEnded before = true) invalid
  let after := claimedLease before (amb.clock 0)
  recordRecoveryLease svc amb plan (amb.ids 0) before after false
  refuseIf (hasIdentity "corr" 32 (amb.ids 0) = false) .validation
  return ⟨amb.ids 0, plan, after⟩

/-- `finish_recovery_lease`. -/
def finishRecoveryLease (claim : RecoveryLeaseClaim) (status : LeaseStatus) : RegistryTxn Unit := do
  refuseIf (¬ (status = .recovered ∨ status = .failed)) invalid
  let (current, progress) ← reading fun s => assertRecoveryPlan svc reads s claim.plan
  let before := claim.lease
  refuseIf (progress.claim? before.leaseId ≠ some claim.claimId ∨ before ∉ current.leases) invalid
  recordRecoveryLease svc amb claim.plan claim.claimId before
    { before with status := status, updatedAt := amb.clock 0 } true

/-- `reconcile_reviewed_recovery`. -/
def reconcileReviewedRecovery (plan : ReviewedRecoveryPlan) : RegistryTxn Run := do
  let (current, _) ← reading fun s => assertRecoveryPlan svc reads s plan
  refuseIf ((∃ run ∈ current.runs, isTerminal run.status = false)
    ∨ (∃ graph ∈ current.graphs, graph.driverClaim ≠ none)
    ∨ ∃ lease ∈ current.leases, leaseEnded lease = false) invalid
  let updated ← reading fun s => settledUpdate svc reads s current.turn none [] (amb.clock 0)
  refuseIf (updated.status = .recoveryRequired) invalid
  updateTurn svc amb 1 updated "conversation.turn_reconciled"
  advance svc amb 2 current.conversation updated
  let root ← reading fun _ => rootOf current
  reading fun s => runOf svc s root.runId

end AgentFleet.Conversations
