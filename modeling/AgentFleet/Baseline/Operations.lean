import AgentFleet.Baseline.Store
import AgentFleet.Lib.Transaction
import AgentFleet.Lib.Transition

/-! # The baseline store: transactions

The writes of `SqliteBaselineStore`.  A record is replaced only by its next revision, and every
write of a baseline but its authorization bumps the revision of its execution.

`baselineMachine` runs one transaction at a time with arbitrary arguments and surroundings, so its
runs are the interleavings of any controllers, and a crash is a controller that never runs its next
transaction. -/

namespace AgentFleet.Baseline

open Relational Transaction Transition

/-- A transaction body of the baseline store. -/
abbrev BaselineTxn := Txn BaselineTables FleetError

/-- What a transaction reads beside the tables: the process, the registered projects, and what
`_session_admission` answers. -/
structure BaselineReads where
  pid : ℕ
  pidAbsent : ℕ → Bool
  projectRegistered : String → Bool
  sessionAdmission : Except FleetError Unit

variable (svc : BaselineServices) (reads : BaselineReads) (amb : Ambient)

/-! ### Writes -/

/-- `_insert`; `limit` is the bound of the payload column. -/
def insertRow {α β : Type} [BaselineModel α] [Constrained β] (limit : ℕ)
    (table : BaselineTables → Table β) (put : BaselineTables → Table β → BaselineTables)
    (value : α) (row : β) : BaselineTxn Unit := do
  refuseIf (svc.encodable value = false) unavailable
  refuseIf (svc.fits limit value = false) storeUnavailable
  let t ← get
  let rows ← expect storeUnavailable ((table t).insert row)
  set (put t rows)

/-- `_update`; `identity` gives the identifiers and the revision of a record. -/
def updateRow {α : Type} [BaselineModel α] [Constrained α] [DecidableEq α] (limit : ℕ)
    (identity : α → String × String × ℕ) (table : BaselineTables → Table α)
    (put : BaselineTables → Table α → BaselineTables) (original replacement : α) :
    BaselineTxn Unit := do
  let before := identity original
  let after := identity replacement
  refuseIf (before.1 ≠ after.1 ∨ before.2.1 ≠ after.2.1 ∨ after.2.2 ≠ before.2.2 + 1) unavailable
  refuseIf (svc.encodable replacement = false ∨ svc.encodable original = false) unavailable
  refuseIf (svc.fits limit replacement = false) storeUnavailable
  let t ← get
  let rows ← expect unavailable ((table t).replace? original replacement)
  set (put t rows)

/-- `_insert` of an execution. -/
def insertExecution (execution : BaselineExecution) : BaselineTxn Unit :=
  insertRow svc 262144 BaselineTables.executions (fun t executions => { t with executions })
    execution execution

/-- `_insert` of a review. -/
def insertReview (review : BaselineReview) : BaselineTxn Unit :=
  insertRow svc 131072 BaselineTables.reviews (fun t reviews => { t with reviews }) review review

/-- `_insert` of an authorization. -/
def insertAuthorization (authorization : BaselineAuthorization) : BaselineTxn Unit :=
  insertRow svc 16384 BaselineTables.authorizations
    (fun t authorizations => { t with authorizations }) authorization authorization

/-- `_insert` of an owner's claim. -/
def insertOwnerClaim (claim : BaselineOwnerClaim) : BaselineTxn Unit :=
  insertRow svc 16384 BaselineTables.ownerClaims (fun t ownerClaims => { t with ownerClaims })
    claim claim

/-- `_insert` of a dispatch claim. -/
def insertDispatchClaim (claim : BaselineDispatchClaim) : BaselineTxn Unit :=
  insertRow svc 262144 BaselineTables.dispatchClaims
    (fun t dispatchClaims => { t with dispatchClaims }) claim claim

/-- `_insert` of a lease. -/
def insertLease (lease : BaselineResourceLease) : BaselineTxn Unit :=
  insertRow svc 262144 BaselineTables.leases (fun t leases => { t with leases }) lease lease

/-- `_insert` of an observation. -/
def insertObservation (observation : BaselineCommandObservation) : BaselineTxn Unit :=
  insertRow svc 131072 BaselineTables.observations (fun t observations => { t with observations })
    observation ⟨svc.digestOf observation, observation⟩

/-- `_insert` of a report. -/
def insertReport (report : BaselineReport) : BaselineTxn Unit :=
  insertRow svc 262144 BaselineTables.reports (fun t reports => { t with reports })
    report ⟨svc.digestOf report, report⟩

/-- `_insert` of a cleanup receipt. -/
def insertReceipt (receipt : BaselineCleanupReceipt) : BaselineTxn Unit :=
  insertRow svc 262144 BaselineTables.receipts (fun t receipts => { t with receipts })
    receipt ⟨svc.digestOf receipt, receipt⟩

/-- `_update` of an execution. -/
def updateExecution (original replacement : BaselineExecution) : BaselineTxn Unit :=
  updateRow svc 262144 (fun e => (e.baselineId, e.baselineId, e.revision))
    BaselineTables.executions (fun t executions => { t with executions }) original replacement

/-- `_update` of an authorization. -/
def updateAuthorization (original replacement : BaselineAuthorization) : BaselineTxn Unit :=
  updateRow svc 16384 (fun a => (a.authorizationId, a.baselineId, a.revision))
    BaselineTables.authorizations (fun t authorizations => { t with authorizations })
    original replacement

/-- `_update` of a lease. -/
def updateLease (original replacement : BaselineResourceLease) : BaselineTxn Unit :=
  updateRow svc 262144 (fun l => (l.leaseId, l.owner.baselineId, l.revision))
    BaselineTables.leases (fun t leases => { t with leases }) original replacement

/-- The next revision of an execution. -/
def bumped (now : Timestamp) (original : BaselineExecution) : BaselineExecution :=
  { original with revision := original.revision + 1, updatedAt := now }

/-- `_bump` at the `k`-th reading of the clock, with the changes made to the next revision. -/
def bump (k : ℕ) (original : BaselineExecution)
    (changes : BaselineExecution → BaselineExecution := id) : BaselineTxn BaselineExecution := do
  let replacement := changes (bumped (amb.clock k) original)
  updateExecution svc original replacement
  return replacement

/-! ### Reviews and authority -/

/-- The execution of a new review. -/
def plannedExecution (review : BaselineReview) (now : Timestamp) : BaselineExecution where
  baselineId := review.baselineId
  reviewId := review.reviewId
  reviewSha256 := svc.digestOf review
  projectId := review.projectId
  revision := 0
  status := .planned
  createdAt := now
  updatedAt := now

/-- `create_review`. -/
def createReview (review : BaselineReview) : BaselineTxn BaselineExecution := do
  refuseIf (svc.encodable review = false) unavailable
  let now := amb.clock 0
  refuseIf (review.installationId ≠ svc.installationId ∨ now < review.createdAt
    ∨ review.expiresAt ≤ now) unavailable
  refuseIf (reads.projectRegistered review.projectId = false) unavailable
  let execution := plannedExecution svc review now
  insertExecution svc execution
  insertReview svc review
  return execution

/-- A new authorization of a review. -/
def newAuthorization (review : BaselineReview) (authorizationId : String) (now : Timestamp) :
    BaselineAuthorization where
  authorizationId := authorizationId
  reviewId := review.reviewId
  baselineId := review.baselineId
  reviewSha256 := svc.digestOf review
  revision := 0
  status := .available
  createdAt := now
  expiresAt := review.expiresAt

/-- What `authorize` does when the review may be authorized. -/
def authorizeReview (review : BaselineReview) (now : Timestamp) :
    Option BaselineAuthorization → BaselineTxn BaselineAuthorization
  | some authorization => do
      refuseIf (authorization.reviewSha256 ≠ svc.digestOf review
        ∨ authorization.status ≠ .available) unavailable
      return authorization
  | none => do
      let authorization := newAuthorization svc review (amb.ids 0) now
      insertAuthorization svc authorization
      return authorization

/-- `authorize`. -/
def authorize (reviewId : String) (reviewSha256 : Sha256) : BaselineTxn BaselineAuthorization := do
  let review ← reading fun t => reviewOf svc t reviewId
  let execution ← reading fun t => executionOf svc t review.baselineId
  let now := amb.clock 0
  refuseIf (svc.digestOf review ≠ reviewSha256 ∨ review.status ≠ .ready ∨ now < review.createdAt
    ∨ review.expiresAt ≤ now ∨ execution.status ≠ .planned) unavailable
  reading fun _ => reads.sessionAdmission
  let existing ← reading fun t => authorizationOf svc t review.baselineId
  authorizeReview svc amb review now existing

/-- The authorization that a revocation leaves. -/
def revokedAuthorization (authorization : BaselineAuthorization) (now : Timestamp) :
    BaselineAuthorization :=
  { authorization with
    revision := authorization.revision + 1
    status := .revoked
    revokedAt := some now }

/-- The authorization is revoked with its baseline. -/
def revokeAuthorization : Option BaselineAuthorization → BaselineTxn Unit
  | none => return ()
  | some authorization => do
      refuseIf (authorization.status ≠ .available) unavailable
      updateAuthorization svc authorization (revokedAuthorization authorization (amb.clock 0))

/-- `revoke`. -/
def revoke (reviewId : String) : BaselineTxn BaselineExecution := do
  let review ← reading fun t => reviewOf svc t reviewId
  let execution ← reading fun t => executionOf svc t review.baselineId
  if execution.status = .revoked then return execution
  else do
    refuseIf (execution.status ≠ .planned) unavailable
    let existing ← reading fun t => authorizationOf svc t review.baselineId
    revokeAuthorization svc amb existing
    bump svc amb 1 execution fun next => { next with status := .revoked }

/-- The authorization that a claim leaves. -/
def consumedAuthorization (authorization : BaselineAuthorization) (now : Timestamp) :
    BaselineAuthorization :=
  { authorization with
    revision := authorization.revision + 1
    status := .consumed
    consumedAt := some now }

/-- The owner of the resources of a review. -/
def resourceOwner (review : BaselineReview) : BaselineResourceOwner where
  baselineId := review.baselineId
  projectId := review.projectId
  reviewSha256 := svc.digestOf review

/-- A new claim of the resources of a review. -/
def newOwnerClaim (review : BaselineReview) (claimId authorizationId : String) (pid : ℕ)
    (now : Timestamp) : BaselineOwnerClaim where
  owner := resourceOwner svc review
  claimId := claimId
  authorizationId := authorizationId
  controllerPid := pid
  installationId := svc.installationId
  claimedAt := now

/-- `claim_baseline`. -/
def claimBaseline (reviewId : String) (reviewSha256 : Sha256) (authorizationId : String)
    (expectedRevision : ℕ) : BaselineTxn BaselineOwnerClaim := do
  let review ← reading fun t => reviewOf svc t reviewId
  let execution ← reading fun t => executionOf svc t review.baselineId
  let authorization ← reading fun t => one svc t.authorizations fun authorization =>
    authorization.authorizationId = authorizationId
  let now := amb.clock 0
  refuseIf (execution.revision ≠ expectedRevision ∨ execution.status ≠ .planned
    ∨ review.status ≠ .ready ∨ svc.digestOf review ≠ reviewSha256
    ∨ now < review.createdAt ∨ review.expiresAt ≤ now
    ∨ authorization.baselineId ≠ review.baselineId ∨ authorization.reviewId ≠ reviewId
    ∨ authorization.reviewSha256 ≠ svc.digestOf review ∨ authorization.status ≠ .available
    ∨ now < authorization.createdAt ∨ authorization.expiresAt ≤ now) unavailable
  reading fun _ => reads.sessionAdmission
  let claim := newOwnerClaim svc review (amb.ids 0) authorizationId reads.pid now
  updateAuthorization svc authorization (consumedAuthorization authorization now)
  insertOwnerClaim svc claim
  let _ ← bump svc amb 1 execution fun next =>
    { next with status := .owned, ownerClaimId := some claim.claimId }
  return claim

/-- `_require_claim`, for a claim that must be active. -/
def requireClaim (t : BaselineTables) (claim : BaselineOwnerClaim) :
    Except FleetError BaselineExecution := do
  Checks.refuse (svc.encodable claim = false) unavailable
  let owner ← ownerOf svc t claim.owner.baselineId
  Checks.refuse (owner ≠ claim) unavailable
  let execution ← executionOf svc t claim.owner.baselineId
  Checks.refuse ((execution.status ≠ .owned ∧ execution.status ≠ .executing)
    ∨ claim.controllerPid ≠ reads.pid) unavailable
  return execution

/-! ### Leases -/

/-- What a reservation has to satisfy for its kind of resource. -/
def reservationFits (review : BaselineReview) (leases : List BaselineResourceLease) :
    BaselineResourcePayload → Prop
  | .workspace held =>
      leases = [] ∧ held.approvedSourceSha256 = review.approvedSourceSha256
        ∧ held.baseRevision = review.baseRevision ∧ held.materializedSourceSha256 = none
  | .sandbox payload =>
      workspacesOf (leases.filter fun lease => lease.status = .active) = [payload.spec.workspace]
        ∧ review.sandboxPolicy.isSome = true
        ∧ sandboxPolicy svc.toBaselineModels payload.spec.sandbox = review.sandboxPolicy
        ∧ payload.handle = none
  | .execution _ => False

instance (review : BaselineReview) (leases : List BaselineResourceLease)
    (payload : BaselineResourcePayload) : Decidable (reservationFits svc review leases payload) :=
  match payload with
  | .workspace _ => inferInstanceAs (Decidable (_ ∧ _ ∧ _ ∧ _))
  | .sandbox _ => inferInstanceAs (Decidable (_ ∧ _ ∧ _ ∧ _))
  | .execution _ => inferInstanceAs (Decidable False)

/-- `reserve_baseline_lease`. -/
def reserveBaselineLease (claim : BaselineOwnerClaim) (lease : BaselineResourceLease) :
    BaselineTxn BaselineResourceLease := do
  refuseIf (svc.encodable lease = false) unavailable
  let execution ← reading fun t => requireClaim svc reads t claim
  let review ← reading fun t => reviewOf svc t execution.reviewId
  let snapshot ← reading fun t => resourceSnapshot svc t execution.baselineId
  refuseIf (lease.owner ≠ claim.owner ∨ lease.status ≠ .creating ∨ lease.revision ≠ 0
    ∨ lease.kind = .execution ∨ lease.kind ∈ snapshot.leases.map BaselineResourceLease.kind
    ∨ ¬ reservationFits svc review snapshot.leases lease.payload) unavailable
  insertLease svc lease
  let _ ← bump svc amb 0 execution
  return lease

/-- The resource that activates a lease. -/
inductive BaselineResource where
  | workspace (workspace : BaselineWorkspace)
  | sandbox (handle : BaselineSandboxHandle)

/-- The workspace once its source is there. -/
def materialized (workspace : BaselineWorkspace) : BaselineWorkspace :=
  { workspace with materializedSourceSha256 := some workspace.approvedSourceSha256 }

/-- The payload of a lease with its resource. -/
def activatedPayload (t : BaselineTables) (execution : BaselineExecution) :
    BaselineResourcePayload → BaselineResource → Except FleetError BaselineResourcePayload
  | .workspace held, .workspace resource => do
      Checks.refuse (resource ≠ materialized held) unavailable
      return .workspace resource
  | .sandbox payload, .sandbox resource => do
      let review ← reviewOf svc t execution.reviewId
      Checks.refuse (baselineSandboxHandle svc.toBaselineModels payload.spec payload.sandboxId
        review ≠ some resource) unavailable
      return .sandbox { payload with handle := some resource }
  | _, _ => .error unavailable

/-- The next revision of a lease, with a payload. -/
def progressed (now : Timestamp) (lease : BaselineResourceLease) (status : BaselineLeaseStatus)
    (payload : BaselineResourcePayload) : BaselineResourceLease :=
  { lease with
    revision := lease.revision + 1
    status := status
    updatedAt := now
    payload := payload }

/-- `activate_baseline_lease`. -/
def activateBaselineLease (claim : BaselineOwnerClaim) (leaseId : String)
    (expectedRevision : ℕ) (resource : BaselineResource) : BaselineTxn BaselineResourceLease := do
  let execution ← reading fun t => requireClaim svc reads t claim
  let lease ← reading fun t => one svc t.leases fun lease => lease.leaseId = leaseId
  refuseIf (lease.owner ≠ claim.owner ∨ lease.revision ≠ expectedRevision
    ∨ lease.status ≠ .creating) unavailable
  let payload ← reading fun t => activatedPayload svc t execution lease.payload resource
  let replacement := progressed (amb.clock 0) lease .active payload
  updateLease svc lease replacement
  let _ ← bump svc amb 1 execution
  return replacement

/-- What a lease has to satisfy for the dispatch of its command in the one sandbox. -/
def dispatchFits (review : BaselineReview) (claim : BaselineOwnerClaim)
    (request : BaselineExecRequest) (leases : List BaselineResourceLease)
    (payload : BaselineCommandPayload) : Prop :=
  (sandboxesOf leases).map BaselineSandboxPayload.handle = [some payload.sandbox]
    ∧ payload.handle = none ∧ payload.creationDispatched = false ∧ payload.request = request
    ∧ request.owner = claim.owner ∧ request.claimId = claim.claimId
    ∧ request.command = review.command
deriving Decidable

/-- The command of a payload. -/
def BaselineResourcePayload.command? : BaselineResourcePayload → Option BaselineCommandPayload
  | .execution payload => some payload
  | _ => none

/-- A new dispatch claim for the command of a payload. -/
def newDispatchClaim (claim : BaselineOwnerClaim) (snapshot : BaselineResourceSnapshot)
    (leaseId : String) (payload : BaselineCommandPayload) (now : Timestamp) :
    BaselineDispatchClaim where
  owner := claim.owner
  ownerClaim := claim
  request := payload.request
  leaseId := leaseId
  sandboxSpecSha256 := payload.sandbox.sandboxSpecSha256
  resourceSnapshotSha256 := svc.digestOf snapshot
  claimedAt := now

/-- `claim_baseline_dispatch`. -/
def claimBaselineDispatch (claim : BaselineOwnerClaim) (expectedSnapshotSha256 : Sha256)
    (request : BaselineExecRequest) (lease : BaselineResourceLease) :
    BaselineTxn BaselineDispatchClaim := do
  let execution ← reading fun t => requireClaim svc reads t claim
  let snapshot ← reading fun t => resourceSnapshot svc t execution.baselineId
  let review ← reading fun t => reviewOf svc t execution.reviewId
  refuseIf (svc.digestOf snapshot ≠ expectedSnapshotSha256 ∨ snapshot.dispatch ≠ none
    ∨ snapshot.leases.length ≠ 2 ∨ (¬ ∀ item ∈ snapshot.leases, item.status = .active)
    ∨ lease.status ≠ .creating ∨ lease.revision ≠ 0 ∨ lease.owner ≠ claim.owner) unavailable
  let payload ← expect unavailable (BaselineResourcePayload.command? lease.payload)
  refuseIf (¬ dispatchFits review claim request snapshot.leases payload) unavailable
  let dispatch := newDispatchClaim svc claim snapshot lease.leaseId payload (amb.clock 0)
  insertLease svc lease
  insertDispatchClaim svc dispatch
  let _ ← bump svc amb 1 execution fun next => { next with status := .executing }
  return dispatch

/-- `_execution_lease`. -/
def executionLease (t : BaselineTables) (claim : BaselineOwnerClaim) (leaseId : String)
    (revision : ℕ) :
    Except FleetError (BaselineExecution × BaselineResourceLease × BaselineCommandPayload) := do
  let execution ← requireClaim svc reads t claim
  let snapshot ← resourceSnapshot svc t execution.baselineId
  let found := snapshot.leases.filter fun item => item.leaseId = leaseId
  Checks.refuse (found.length ≠ 1) unavailable
  let lease ← Checks.demand unavailable found.head?
  Checks.refuse (lease.revision ≠ revision ∨ lease.status ≠ .creating) unavailable
  let payload ← Checks.demand unavailable (BaselineResourcePayload.command? lease.payload)
  return (execution, lease, payload)

/-- `mark_baseline_creation_dispatched`. -/
def markBaselineCreationDispatched (claim : BaselineOwnerClaim) (leaseId : String)
    (expectedRevision : ℕ) : BaselineTxn BaselineResourceLease := do
  let (execution, lease, payload) ←
    reading fun t => executionLease svc reads t claim leaseId expectedRevision
  refuseIf (payload.creationDispatched = true) unavailable
  let replacement :=
    progressed (amb.clock 0) lease lease.status
      (.execution { payload with creationDispatched := true })
  updateLease svc lease replacement
  let _ ← bump svc amb 1 execution
  return replacement

/-- `activate_baseline_execution`. -/
def activateBaselineExecution (claim : BaselineOwnerClaim) (leaseId : String)
    (expectedRevision : ℕ) (handle : BaselineExecutionHandle) :
    BaselineTxn BaselineResourceLease := do
  let (execution, lease, payload) ←
    reading fun t => executionLease svc reads t claim leaseId expectedRevision
  refuseIf (payload.creationDispatched = false ∨ payload.handle ≠ none) unavailable
  let replacement :=
    progressed (amb.clock 0) lease .active (.execution { payload with handle := some handle })
  updateLease svc lease replacement
  let _ ← bump svc amb 1 execution
  return replacement

/-! ### Observations -/

/-- What `record_command_observation` does with a valid observation: a recorded one is never
replaced. -/
def recordObservation (execution : BaselineExecution) (expectedRevision : ℕ)
    (observation : BaselineCommandObservation) :
    Option BaselineCommandObservation → BaselineTxn Unit
  | some existing => refuseIf (existing ≠ observation) unavailable
  | none => do
      refuseIf (execution.revision ≠ expectedRevision
        ∨ observation.baselineId ≠ execution.baselineId) unavailable
      insertObservation svc observation
      let _ ← reading fun t => observationOf svc t observation.baselineId
      let _ ← bump svc amb 0 execution
      return ()

/-- `record_command_observation`, of decoded bytes. -/
def recordCommandObservation (claim : BaselineOwnerClaim) (expectedRevision : ℕ)
    (observation : BaselineCommandObservation) : BaselineTxn BaselineObservationRef := do
  refuseIf (svc.fits maxObservationBytes observation = false
    ∨ observation.validates svc.toBaselineModels = false) unavailable
  let execution ← reading fun t => requireClaim svc reads t claim
  let existing ← reading fun t => observationOf svc t claim.owner.baselineId
  recordObservation svc amb execution expectedRevision observation existing
  return observationRef svc observation

/-! ### Cleanup -/

/-- The sequence of the next event of a baseline. -/
def BaselineTables.nextSequence (t : BaselineTables) (baselineId : String) : ℕ :=
  ((t.events.rows.filter fun event => event.baselineId = baselineId).map
    fun event => event.sequence + 1).foldr max 0

/-- A new cleanup claim for the whole of a snapshot. -/
def newCleanupClaim (expected : BaselineResourceSnapshot) (claimId : String)
    (reason : BaselineCleanupReason) (now : Timestamp) : BaselineCleanupClaim where
  owner := expected.claim.owner
  claimId := claimId
  snapshot := expected
  scopeSha256 := svc.digestOf expected
  reason := reason
  createdAt := now

/-- The event of a cleanup claim. -/
def newEvent (claim : BaselineCleanupClaim) (sequence : ℕ) : BaselineEvent where
  baselineId := claim.snapshot.execution.baselineId
  sequence := sequence
  scopeSha256 := claim.scopeSha256
  recordSha256 := svc.digestOf claim
  claim := claim

/-- `_fence`. -/
def fence (expected : BaselineResourceSnapshot) (reason : BaselineCleanupReason) :
    BaselineTxn BaselineCleanupClaim := do
  let current ← reading fun t => resourceSnapshot svc t expected.execution.baselineId
  refuseIf (current ≠ expected) unavailable
  let claim := newCleanupClaim svc expected (amb.ids 0) reason (amb.clock 1)
  let t ← get
  insertRow svc 262144 BaselineTables.events (fun t events => { t with events }) claim
    (newEvent svc claim (t.nextSequence expected.execution.baselineId))
  let _ ← bump svc amb 2 current.execution fun next => { next with status := .cleaning }
  return claim

/-- `begin_baseline_cleanup`. -/
def beginBaselineCleanup (claim : BaselineOwnerClaim) (expected : BaselineResourceSnapshot) :
    BaselineTxn BaselineCleanupClaim := do
  let _ ← reading fun t => requireClaim svc reads t claim
  refuseIf (claim.controllerPid ≠ reads.pid ∨ expected.claim ≠ claim) unavailable
  fence svc amb expected .ownerDrain

/-- `claim_baseline_cleanup`. -/
def claimBaselineCleanup (expected : BaselineResourceSnapshot)
    (stoppedOwner : BaselineStoppedOwnerReview) : BaselineTxn BaselineCleanupClaim := do
  let now := amb.clock 0
  refuseIf (stoppedOwner.owner ≠ expected.claim.owner
    ∨ stoppedOwner.ownerClaimSha256 ≠ svc.digestOf expected.claim
    ∨ stoppedOwner.snapshotSha256 ≠ svc.digestOf expected
    ∨ stoppedOwner.controllerPid ≠ expected.claim.controllerPid
    ∨ stoppedOwner.installationId ≠ svc.installationId
    ∨ stoppedOwner.checkedAt < now - fiveSeconds ∨ now < stoppedOwner.checkedAt
    ∨ reads.pidAbsent expected.claim.controllerPid = false) unavailable
  fence svc amb expected .stoppedOwner

/-- `tiers`. -/
def tier : BaselineResourceKind → ℕ
  | .execution => 0
  | .sandbox => 1
  | .workspace => 2

/-- `finalize_baseline_lease`. -/
def finalizeBaselineLease (cleanupClaim : BaselineCleanupClaim) (leaseId : String)
    (expectedRevision : ℕ) (receipt : BaselineCleanupReceipt) :
    BaselineTxn BaselineResourceLease := do
  let current ← reading fun t => validateCleanup svc t cleanupClaim
  let found := current.leases.filter fun item => item.leaseId = leaseId
  let original := cleanupClaim.snapshot.leases.filter fun item => item.leaseId = leaseId
  refuseIf (found.length ≠ 1 ∨ original.length ≠ 1 ∨ found.head? ≠ original.head?) unavailable
  let lease ← expect unavailable found.head?
  refuseIf (lease.revision ≠ expectedRevision ∨ lease.status = .released) unavailable
  refuseIf (∃ item ∈ current.leases, tier item.kind < tier lease.kind ∧ item.status ≠ .released)
    unavailable
  reading fun _ => validateReceiptBinding svc lease receipt cleanupClaim.scopeSha256
  insertReceipt svc receipt
  let replacement := finalized svc lease receipt
  updateLease svc lease replacement
  let _ ← bump svc amb 0 current.execution
  return replacement

/-! ### Reports -/

/-- What `publish_baseline_report` checks of a report against the current records. -/
def reportCurrent (snapshot : BaselineResourceSnapshot) (review : BaselineReview)
    (observation : Option BaselineCommandObservation) (cleanupClaim : BaselineCleanupClaim)
    (expectedRevision : ℕ) (report : BaselineReport) : Prop :=
  snapshot.execution.revision = expectedRevision
    ∧ report.baselineId = snapshot.execution.baselineId
    ∧ report.projectId = review.projectId ∧ report.reviewId = review.reviewId
    ∧ report.reviewSha256 = svc.digestOf review
    ∧ report.authorizationId = snapshot.claim.authorizationId
    ∧ report.claimId = snapshot.claim.claimId ∧ report.commandSha256 = review.command.sha256
    ∧ report.approvedSourceSha256 = review.approvedSourceSha256
    ∧ report.cleanupScopeSha256 = cleanupClaim.scopeSha256
    ∧ report.cleanupReceiptSha256s
      = (snapshot.leases.filterMap BaselineResourceLease.receiptSha256).mergeSort
        (fun a b => a.hex ≤ b.hex)
    ∧ (report.cleanupComplete = true ↔ ∀ lease ∈ snapshot.leases, lease.status = .released)
    ∧ report.predecessorReportSha256 = snapshot.execution.currentReportSha256
    ∧ report.observation = observation.map (observationRef svc)
    ∧ (∀ recorded ∈ observation, report.observedExitCode = recorded.exitCode)
    ∧ (report.status = .observed → ∃ recorded ∈ observation, recorded.conclusive)

instance (snapshot : BaselineResourceSnapshot) (review : BaselineReview)
    (observation : Option BaselineCommandObservation) (cleanupClaim : BaselineCleanupClaim)
    (expectedRevision : ℕ) (report : BaselineReport) :
    Decidable (reportCurrent svc snapshot review observation cleanupClaim expectedRevision
      report) := by
  unfold reportCurrent
  infer_instance

/-- `publish_baseline_report`, of decoded bytes. -/
def publishBaselineReport (cleanupClaim : BaselineCleanupClaim) (expectedRevision : ℕ)
    (report : BaselineReport) : BaselineTxn BaselineReportRef := do
  refuseIf (svc.validates report = false) unavailable
  let snapshot ← reading fun t => validateCleanup svc t cleanupClaim
  let review ← reading fun t => reviewOf svc t snapshot.execution.reviewId
  let observation ← reading fun t => observationOf svc t snapshot.execution.baselineId
  refuseIf (¬ reportCurrent svc snapshot review observation cleanupClaim expectedRevision report)
    unavailable
  reading fun t => validateReportFacts svc t report snapshot.execution observation
  insertReport svc report
  let _ ← bump svc amb 0 snapshot.execution fun next =>
    { next with
      status := report.status.execution
      currentReportSha256 := some (svc.digestOf report) }
  return ⟨"brpt_" ++ (svc.digestOf report).hex, report.baselineId, svc.digestOf report⟩

/-! ### The machine -/

/-- A transaction with its arguments. -/
inductive BaselineOp where
  | createReview (review : BaselineReview)
  | authorize (reviewId : String) (reviewSha256 : Sha256)
  | revoke (reviewId : String)
  | claimBaseline (reviewId : String) (reviewSha256 : Sha256) (authorizationId : String)
      (expectedRevision : ℕ)
  | reserveBaselineLease (claim : BaselineOwnerClaim) (lease : BaselineResourceLease)
  | activateBaselineLease (claim : BaselineOwnerClaim) (leaseId : String) (expectedRevision : ℕ)
      (resource : BaselineResource)
  | claimBaselineDispatch (claim : BaselineOwnerClaim) (expectedSnapshotSha256 : Sha256)
      (request : BaselineExecRequest) (lease : BaselineResourceLease)
  | markBaselineCreationDispatched (claim : BaselineOwnerClaim) (leaseId : String)
      (expectedRevision : ℕ)
  | activateBaselineExecution (claim : BaselineOwnerClaim) (leaseId : String)
      (expectedRevision : ℕ) (handle : BaselineExecutionHandle)
  | recordCommandObservation (claim : BaselineOwnerClaim) (expectedRevision : ℕ)
      (observation : BaselineCommandObservation)
  | beginBaselineCleanup (claim : BaselineOwnerClaim) (expected : BaselineResourceSnapshot)
  | claimBaselineCleanup (expected : BaselineResourceSnapshot)
      (stoppedOwner : BaselineStoppedOwnerReview)
  | finalizeBaselineLease (cleanupClaim : BaselineCleanupClaim) (leaseId : String)
      (expectedRevision : ℕ) (receipt : BaselineCleanupReceipt)
  | publishBaselineReport (cleanupClaim : BaselineCleanupClaim) (expectedRevision : ℕ)
      (report : BaselineReport)

/-- What a transaction returns. -/
inductive BaselineResult where
  | created (execution : BaselineExecution)
  | authorized (authorization : BaselineAuthorization)
  | revoked (execution : BaselineExecution)
  | claimed (claim : BaselineOwnerClaim)
  | reserved (lease : BaselineResourceLease)
  | activated (lease : BaselineResourceLease)
  | dispatched (claim : BaselineDispatchClaim)
  | creationDispatched (lease : BaselineResourceLease)
  | executionActivated (lease : BaselineResourceLease)
  | observed (reference : BaselineObservationRef)
  | cleanupClaimed (claim : BaselineCleanupClaim)
  | finalized (lease : BaselineResourceLease)
  | published (reference : BaselineReportRef)

/-- The body of a transaction. -/
def baselineBody : BaselineOp → BaselineTxn BaselineResult
  | .createReview review => .created <$> createReview svc reads amb review
  | .authorize reviewId reviewSha256 => .authorized <$> authorize svc reads amb reviewId reviewSha256
  | .revoke reviewId => .revoked <$> revoke svc amb reviewId
  | .claimBaseline reviewId reviewSha256 authorizationId expectedRevision => .claimed <$>
      claimBaseline svc reads amb reviewId reviewSha256 authorizationId expectedRevision
  | .reserveBaselineLease claim lease =>
      .reserved <$> reserveBaselineLease svc reads amb claim lease
  | .activateBaselineLease claim leaseId expectedRevision resource => .activated <$>
      activateBaselineLease svc reads amb claim leaseId expectedRevision resource
  | .claimBaselineDispatch claim expectedSnapshotSha256 request lease => .dispatched <$>
      claimBaselineDispatch svc reads amb claim expectedSnapshotSha256 request lease
  | .markBaselineCreationDispatched claim leaseId expectedRevision => .creationDispatched <$>
      markBaselineCreationDispatched svc reads amb claim leaseId expectedRevision
  | .activateBaselineExecution claim leaseId expectedRevision handle => .executionActivated <$>
      activateBaselineExecution svc reads amb claim leaseId expectedRevision handle
  | .recordCommandObservation claim expectedRevision observation => .observed <$>
      recordCommandObservation svc reads amb claim expectedRevision observation
  | .beginBaselineCleanup claim expected =>
      .cleanupClaimed <$> beginBaselineCleanup svc reads amb claim expected
  | .claimBaselineCleanup expected stoppedOwner =>
      .cleanupClaimed <$> claimBaselineCleanup svc reads amb expected stoppedOwner
  | .finalizeBaselineLease cleanupClaim leaseId expectedRevision receipt => .finalized <$>
      finalizeBaselineLease svc amb cleanupClaim leaseId expectedRevision receipt
  | .publishBaselineReport cleanupClaim expectedRevision report => .published <$>
      publishBaselineReport svc amb cleanupClaim expectedRevision report

/-- One input: a transaction with what it reads from its surroundings. -/
structure BaselineInput where
  op : BaselineOp
  reads : BaselineReads
  amb : Ambient

/-- The store under transactions. -/
def baselineMachine : Machine BaselineTables BaselineInput (Except FleetError BaselineResult) where
  step t input :=
    let r := commit (baselineBody svc input.reads input.amb input.op) t
    (r.2, r.1)

end AgentFleet.Baseline
