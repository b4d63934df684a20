import AgentFleet.Domain.BaselineModels
import AgentFleet.Lib.Checks
import AgentFleet.Lib.Table
import Mathlib.Data.List.MinMax

/-! # The baseline store: tables and validated reads

Ten tables hold the records of the baselines, each row as its decoded record.  A digest column is
kept where it is a key; elsewhere it repeats the row.  The `GLOB` checks on identifiers follow
from the validators of the records.

Every read validates what it returns against the other tables, as the source does:
`reviewOf` and `ownerOf` the authority, `cleanupEvent` a cleanup claim, `receiptState` a receipt,
`resourceSnapshot` the resources, `validateCleanup` the progress of a cleanup, `observationOf` the
outcome and `reportOf` the report. -/

namespace AgentFleet.Baseline

open Relational Checks

/-! ### Errors and services -/

/-- `unavailable`. -/
def unavailable : FleetError where
  code := .recoveryRequired
  message := "The exact baseline ownership or retained evidence is unavailable."
  remediation :=
    "Inspect the original baseline; do not replay or replace its permanent claims."

/-- What a SQLite error becomes. -/
def storeUnavailable : FleetError where
  code := .stateUnavailable
  message := "The migrated baseline store is unavailable."
  remediation := "Restore the selected local state before using baseline commands."

/-- What the store is constructed with. -/
structure BaselineServices extends BaselineModels where
  installationId : String
  /-- `redactor.contains_secret_data(value.model_dump(...))` -/
  containsSecret : BaselineRecord → Bool

/-- `_encode` returns: the record is valid and holds no secret. -/
def BaselineServices.encodable {α : Type} [BaselineModel α] (svc : BaselineServices) (value : α) :
    Bool :=
  svc.validates value && !svc.containsSecret (BaselineModel.record value)

/-- `value.digest`. -/
def BaselineServices.digestOf {α : Type} [BaselineModel α] (svc : BaselineServices) (value : α) :
    Sha256 :=
  svc.digest (BaselineModel.record value)

/-! ### Tables -/

/-- A row whose key is the digest of its record. -/
structure Digested (α : Type) where
  sha256 : Sha256
  value : α
deriving DecidableEq

/-- A row of `baseline_events`. -/
structure BaselineEvent where
  baselineId : String
  sequence : ℕ
  scopeSha256 : Sha256
  recordSha256 : Sha256
  claim : BaselineCleanupClaim
deriving DecidableEq

instance : Constrained BaselineExecution where
  clash a b := a.baselineId = b.baselineId
  symm _ _ h := h.symm
  decidableClash _ _ := inferInstanceAs (Decidable (_ = _))

instance : Constrained BaselineReview where
  clash a b := a.reviewId = b.reviewId ∨ a.baselineId = b.baselineId
  symm _ _ h := h.imp Eq.symm Eq.symm
  decidableClash _ _ := inferInstanceAs (Decidable (_ ∨ _))

instance : Constrained BaselineAuthorization where
  clash a b := a.authorizationId = b.authorizationId ∨ a.baselineId = b.baselineId
  symm _ _ h := h.imp Eq.symm Eq.symm
  decidableClash _ _ := inferInstanceAs (Decidable (_ ∨ _))

instance : Constrained BaselineOwnerClaim where
  clash a b := a.claimId = b.claimId ∨ a.owner.baselineId = b.owner.baselineId
  symm _ _ h := h.imp Eq.symm Eq.symm
  decidableClash _ _ := inferInstanceAs (Decidable (_ ∨ _))

instance : Constrained BaselineDispatchClaim where
  clash a b :=
    a.request.executionId = b.request.executionId ∨ a.owner.baselineId = b.owner.baselineId
  symm _ _ h := h.imp Eq.symm Eq.symm
  decidableClash _ _ := inferInstanceAs (Decidable (_ ∨ _))

instance : Constrained BaselineResourceLease where
  clash a b :=
    a.leaseId = b.leaseId ∨ a.owner.baselineId = b.owner.baselineId ∧ a.kind = b.kind
  symm _ _ h := h.imp Eq.symm fun h => ⟨h.1.symm, h.2.symm⟩
  decidableClash _ _ := inferInstanceAs (Decidable (_ ∨ _ ∧ _))

instance : Constrained (Digested BaselineCommandObservation) where
  clash a b := a.sha256 = b.sha256 ∨ a.value.baselineId = b.value.baselineId
    ∨ a.value.executionId = b.value.executionId
  symm _ _ h := h.imp Eq.symm fun h => h.imp Eq.symm Eq.symm
  decidableClash _ _ := inferInstanceAs (Decidable (_ ∨ _ ∨ _))

instance : Constrained (Digested BaselineReport) where
  clash a b := a.sha256 = b.sha256
  symm _ _ h := h.symm
  decidableClash _ _ := inferInstanceAs (Decidable (_ = _))

instance : Constrained (Digested BaselineCleanupReceipt) where
  clash a b := a.sha256 = b.sha256
  symm _ _ h := h.symm
  decidableClash _ _ := inferInstanceAs (Decidable (_ = _))

instance : Constrained BaselineEvent where
  clash a b :=
    a.baselineId = b.baselineId ∧ (a.sequence = b.sequence ∨ a.scopeSha256 = b.scopeSha256)
  symm _ _ h := ⟨h.1.symm, h.2.imp Eq.symm Eq.symm⟩
  decidableClash _ _ := inferInstanceAs (Decidable (_ ∧ (_ ∨ _)))

/-- The tables of the store. -/
structure BaselineTables where
  executions : Table BaselineExecution
  reviews : Table BaselineReview
  authorizations : Table BaselineAuthorization
  ownerClaims : Table BaselineOwnerClaim
  dispatchClaims : Table BaselineDispatchClaim
  leases : Table BaselineResourceLease
  observations : Table (Digested BaselineCommandObservation)
  reports : Table (Digested BaselineReport)
  receipts : Table (Digested BaselineCleanupReceipt)
  events : Table BaselineEvent

/-- The migrated store without rows. -/
def BaselineTables.empty : BaselineTables where
  executions := .empty
  reviews := .empty
  authorizations := .empty
  ownerClaims := .empty
  dispatchClaims := .empty
  leases := .empty
  observations := .empty
  reports := .empty
  receipts := .empty
  events := .empty

variable (svc : BaselineServices) (t : BaselineTables)

/-! ### Rows -/

/-- `_decode`. -/
def decode {α : Type} [BaselineModel α] (value : α) : Except FleetError α := do
  refuse (svc.encodable value = false) unavailable
  return value

/-- `_decode`, with the digest of the row. -/
def decodeDigested {α : Type} [BaselineModel α] (row : Digested α) : Except FleetError α := do
  refuse (svc.digestOf row.value ≠ row.sha256) unavailable
  decode svc row.value

/-- `_one`, by a key. -/
def one {α : Type} [Constrained α] [BaselineModel α] (table : Table α) (key : α → Bool) :
    Except FleetError α := do
  let row ← demand unavailable (table.find? key)
  decode svc row

/-- `_one`, by a digest. -/
def oneDigested {α : Type} [Constrained (Digested α)] [BaselineModel α]
    (table : Table (Digested α)) (sha256 : Sha256) : Except FleetError α := do
  let row ← demand unavailable (table.find? fun row => row.sha256 = sha256)
  decodeDigested svc row

/-- `_rows` by a key that admits one row, decoded. -/
def atMostOne {α : Type} [Constrained α] [BaselineModel α] (table : Table α) (key : α → Bool) :
    Except FleetError (Option α) :=
  match table.find? key with
  | none => .ok none
  | some row => some <$> decode svc row

/-- The rows of the leases of a baseline, by identifier. -/
def BaselineTables.leaseRows (baselineId : String) : List BaselineResourceLease :=
  (t.leases.rows.filter fun lease => lease.owner.baselineId = baselineId).mergeSort
    fun a b => a.leaseId ≤ b.leaseId

/-- The leases of a baseline, decoded. -/
def leasesOf (baselineId : String) : Except FleetError (List BaselineResourceLease) := do
  refuse (¬ (t.leaseRows baselineId).all fun lease => svc.encodable lease) unavailable
  return t.leaseRows baselineId

/-- The dispatch claim of a baseline. -/
def dispatchOf (baselineId : String) : Except FleetError (Option BaselineDispatchClaim) :=
  atMostOne svc t.dispatchClaims fun claim => claim.owner.baselineId = baselineId

/-- The authorization of a baseline. -/
def authorizationOf (baselineId : String) : Except FleetError (Option BaselineAuthorization) :=
  atMostOne svc t.authorizations fun authorization => authorization.baselineId = baselineId

/-! ### Authority -/

/-- `_execution`. -/
def executionOf (baselineId : String) : Except FleetError BaselineExecution :=
  one svc t.executions fun execution => execution.baselineId = baselineId

/-- `_review`. -/
def reviewOf (reviewId : String) : Except FleetError BaselineReview := do
  let review ← one svc t.reviews fun review => review.reviewId = reviewId
  let execution ← executionOf svc t review.baselineId
  refuse (execution.reviewId ≠ review.reviewId ∨ execution.reviewSha256 ≠ svc.digestOf review
    ∨ execution.projectId ≠ review.projectId) unavailable
  return review

/-- `_owner`. -/
def ownerOf (baselineId : String) : Except FleetError BaselineOwnerClaim := do
  let claim ← one svc t.ownerClaims fun claim => claim.owner.baselineId = baselineId
  let execution ← executionOf svc t baselineId
  let review ← reviewOf svc t execution.reviewId
  let authorization ← one svc t.authorizations fun authorization =>
    authorization.authorizationId = claim.authorizationId
  refuse (execution.ownerClaimId ≠ some claim.claimId ∨ claim.owner.projectId ≠ review.projectId
    ∨ claim.owner.reviewSha256 ≠ svc.digestOf review
    ∨ claim.installationId ≠ svc.installationId ∨ authorization.baselineId ≠ baselineId
    ∨ authorization.reviewId ≠ review.reviewId
    ∨ authorization.reviewSha256 ≠ svc.digestOf review ∨ authorization.status ≠ .consumed
    ∨ authorization.consumedAt ≠ some claim.claimedAt) unavailable
  return claim

/-! ### Cleanup claims and receipts -/

/-- `current` is `original`, or what a cleanup made of it. -/
def laterLease (original current : BaselineResourceLease) : Prop :=
  original.owner = current.owner ∧ original.payload = current.payload
    ∧ original.createdAt = current.createdAt ∧ original.revision ≤ current.revision
    ∧ original.updatedAt ≤ current.updatedAt
    ∧ (original.status = .released → original = current)
    ∧ (original.revision = current.revision → original = current)
    ∧ (original.revision < current.revision →
      (current.status = .failed ∨ current.status = .released)
        ∧ current.receiptSha256.isSome = true)
deriving Decidable

/-- The last event of a baseline, or the one with a scope. -/
def BaselineTables.lastEvent (baselineId : String) (scopeSha256 : Option Sha256) :
    Option BaselineEvent :=
  (t.events.rows.filter fun event => event.baselineId = baselineId
    ∧ scopeSha256.all fun scope => event.scopeSha256 = scope).argmax BaselineEvent.sequence

/-- What `_cleanup_event` checks of the selected row. -/
def checkedEvent (baselineId : String) (event : BaselineEvent) :
    Except FleetError BaselineCleanupClaim := do
  let claim := event.claim
  refuse (svc.validates claim = false) unavailable
  refuse (claim.owner.baselineId ≠ baselineId ∨ svc.digestOf claim ≠ event.recordSha256
    ∨ claim.scopeSha256 ≠ event.scopeSha256) unavailable
  let owner ← ownerOf svc t baselineId
  let execution ← executionOf svc t baselineId
  refuse (claim.snapshot.claim ≠ owner ∨ claim.owner ≠ owner.owner
    ∨ claim.snapshot.execution.reviewId ≠ execution.reviewId
    ∨ claim.snapshot.execution.reviewSha256 ≠ execution.reviewSha256
    ∨ claim.snapshot.execution.ownerClaimId ≠ some owner.claimId
    ∨ execution.revision ≤ claim.snapshot.execution.revision) unavailable
  let dispatch ← dispatchOf svc t baselineId
  let leases ← leasesOf svc t baselineId
  refuse (claim.snapshot.dispatch ≠ dispatch
    ∨ claim.snapshot.leases.map BaselineResourceLease.leaseId
      ≠ leases.map BaselineResourceLease.leaseId) unavailable
  refuse (¬ ∀ pair ∈ claim.snapshot.leases.zip leases, laterLease pair.1 pair.2) unavailable
  return claim

/-- `_cleanup_event`. -/
def cleanupEvent (baselineId : String) (scopeSha256 : Option Sha256) :
    Except FleetError (Option BaselineCleanupClaim) :=
  match t.lastEvent baselineId scopeSha256 with
  | none => .ok none
  | some event => some <$> checkedEvent svc t baselineId event

/-- What the result of a cleanup has to say of the resource of a sandbox lease. -/
def sandboxResultFits (payload : BaselineSandboxPayload) (result : SandboxCleanupResult) : Prop :=
  result.resourceId = payload.sandboxId ∧ result.resourcesFound = 0 ∧ result.resourcesRemoved = 0
deriving Decidable

/-- What the result of a cleanup has to say of the resource of an execution lease: a creation that
was dispatched and left no handle is not complete before its resource was found. -/
def executionResultFits (payload : BaselineCommandPayload) (result : SandboxCleanupResult) :
    Prop :=
  (result.resourceId = (match payload.handle with
      | some handle => handle.nativeResourceId
      | none => payload.request.executionId)
    ∨ payload.handle = none ∧ result.resourcesFound = 1 ∧ isHexText 64 result.resourceId = true)
  ∧ result.resourcesFound ≤ 1
  ∧ ¬ (payload.creationDispatched = true ∧ payload.handle = none ∧ result.resourcesFound = 0
    ∧ result.complete = true)

instance (payload : BaselineCommandPayload) (result : SandboxCleanupResult) :
    Decidable (executionResultFits payload result) :=
  inferInstanceAs (Decidable ((_ ∨ _ ∧ _ ∧ _) ∧ _ ∧ ¬ (_ ∧ _ ∧ _ ∧ _)))

/-- What the outcome in a receipt has to say of the resource of a lease. -/
def validateResult (payload : BaselineResourcePayload)
    (outcome : Option BaselineCanonicalSnapshot) : Except FleetError Unit :=
  match payload, outcome with
  | .workspace _, outcome => refuse (outcome ≠ none) unavailable
  | _, none => .error unavailable
  | .sandbox payload, some outcome => do
      let result ← demand unavailable (cleanupResultOf svc.toBaselineModels outcome)
      refuse (¬ sandboxResultFits payload result) unavailable
  | .execution payload, some outcome => do
      let result ← demand unavailable (cleanupResultOf svc.toBaselineModels outcome)
      refuse (¬ executionResultFits payload result) unavailable

/-- `_validate_receipt_binding`. -/
def validateReceiptBinding (lease : BaselineResourceLease) (receipt : BaselineCleanupReceipt)
    (scopeSha256 : Sha256) : Except FleetError Unit := do
  refuse (receipt.owner ≠ lease.owner ∨ receipt.leaseId ≠ lease.leaseId
    ∨ receipt.kind ≠ lease.kind ∨ receipt.leaseSha256 ≠ svc.digestOf lease
    ∨ receipt.cleanupScopeSha256 ≠ scopeSha256
    ∨ receipt.completedAt < lease.updatedAt) unavailable
  validateResult svc lease.payload receipt.result

/-- The lease after its receipt. -/
def finalized (lease : BaselineResourceLease) (receipt : BaselineCleanupReceipt) :
    BaselineResourceLease :=
  { lease with
    revision := lease.revision + 1
    status := if receipt.complete = true then .released else .failed
    receiptSha256 := some (svc.digestOf receipt)
    updatedAt := receipt.completedAt }

/-- `_receipt_state`. -/
def receiptState (receipt : BaselineCleanupReceipt) (expected : Option BaselineResourceLease) :
    Except FleetError BaselineResourceLease := do
  let scope ← cleanupEvent svc t receipt.owner.baselineId (some receipt.cleanupScopeSha256)
  let scope ← demand unavailable scope
  let original := scope.snapshot.leases.filter fun lease => lease.leaseId = receipt.leaseId
  refuse (original.length ≠ 1) unavailable
  let original ← demand unavailable original.head?
  validateReceiptBinding svc original receipt scope.scopeSha256
  let transformed := finalized svc original receipt
  refuse (svc.validates transformed = false) unavailable
  refuse (expected.any fun lease => transformed ≠ lease) unavailable
  return transformed

/-! ### Resources -/

/-- The workspaces of some leases. -/
def workspacesOf (leases : List BaselineResourceLease) : List BaselineWorkspace :=
  leases.filterMap fun lease => match lease.payload with
    | .workspace held => some held
    | _ => none

/-- The sandboxes of some leases. -/
def sandboxesOf (leases : List BaselineResourceLease) : List BaselineSandboxPayload :=
  leases.filterMap fun lease => match lease.payload with
    | .sandbox payload => some payload
    | _ => none

/-- The commands of some leases, with the identifiers of the leases. -/
def commandsOf (leases : List BaselineResourceLease) : List (String × BaselineCommandPayload) :=
  leases.filterMap fun lease => match lease.payload with
    | .execution payload => some (lease.leaseId, payload)
    | _ => none

/-- What `_snapshot` checks of the resources, of which there is at most one of a kind: the
dispatch is that of the command, the command runs in the sandbox and the sandbox in the
workspace, as they were reviewed. -/
structure ResourcesFit (review : BaselineReview) (dispatch : Option BaselineDispatchClaim)
    (leases : List BaselineResourceLease) : Prop where
  undispatched : dispatch = none ↔ commandsOf leases = []
  dispatched : ∀ claim ∈ dispatch, ∀ command ∈ commandsOf leases,
    claim.leaseId = command.1 ∧ claim.request = command.2.request
      ∧ claim.sandboxSpecSha256 = command.2.sandbox.sandboxSpecSha256
  workspaces : ∀ workspace ∈ workspacesOf leases,
    workspace.baseRevision = review.baseRevision
      ∧ workspace.approvedSourceSha256 = review.approvedSourceSha256
  sandboxes : ∀ sandbox ∈ sandboxesOf leases,
    workspacesOf leases = [sandbox.spec.workspace]
      ∧ review.sandboxPolicy.isSome = true
      ∧ sandboxPolicy svc.toBaselineModels sandbox.spec.sandbox = review.sandboxPolicy
  commands : ∀ command ∈ commandsOf leases,
    (sandboxesOf leases).map BaselineSandboxPayload.handle = [some command.2.sandbox]
      ∧ command.2.request.command = review.command
  handles : ∀ sandbox ∈ sandboxesOf leases, ∀ handle ∈ sandbox.handle,
    baselineSandboxHandle svc.toBaselineModels sandbox.spec sandbox.sandboxId review
      = some handle

instance (review : BaselineReview) (dispatch : Option BaselineDispatchClaim)
    (leases : List BaselineResourceLease) : Decidable (ResourcesFit svc review dispatch leases) :=
  decidable_of_iff
    ((dispatch = none ↔ commandsOf leases = [])
      ∧ (∀ claim ∈ dispatch, ∀ command ∈ commandsOf leases,
        claim.leaseId = command.1 ∧ claim.request = command.2.request
          ∧ claim.sandboxSpecSha256 = command.2.sandbox.sandboxSpecSha256)
      ∧ (∀ workspace ∈ workspacesOf leases, workspace.baseRevision = review.baseRevision
        ∧ workspace.approvedSourceSha256 = review.approvedSourceSha256)
      ∧ (∀ sandbox ∈ sandboxesOf leases, workspacesOf leases = [sandbox.spec.workspace]
        ∧ review.sandboxPolicy.isSome = true
        ∧ sandboxPolicy svc.toBaselineModels sandbox.spec.sandbox = review.sandboxPolicy)
      ∧ (∀ command ∈ commandsOf leases,
        (sandboxesOf leases).map BaselineSandboxPayload.handle = [some command.2.sandbox]
          ∧ command.2.request.command = review.command)
      ∧ ∀ sandbox ∈ sandboxesOf leases, ∀ handle ∈ sandbox.handle,
        baselineSandboxHandle svc.toBaselineModels sandbox.spec sandbox.sandboxId review
          = some handle)
    ⟨fun ⟨a, b, c, d, e, f⟩ => ⟨a, b, c, d, e, f⟩, fun ⟨a, b, c, d, e, f⟩ => ⟨a, b, c, d, e, f⟩⟩

/-- What `_snapshot` checks of the receipt of a lease. -/
def validateLeaseReceipt (claim : BaselineOwnerClaim) (lease : BaselineResourceLease) :
    Except FleetError Unit :=
  match lease.receiptSha256 with
  | none => .ok ()
  | some sha256 => do
      let receipt ← oneDigested svc t.receipts sha256
      refuse (receipt.owner ≠ claim.owner ∨ receipt.leaseId ≠ lease.leaseId
        ∨ receipt.kind ≠ lease.kind
        ∨ ¬ (receipt.complete = true ↔ lease.status = .released)) unavailable
      let _ ← receiptState svc t receipt (some lease)
      return ()

/-- `_snapshot`. -/
def resourceSnapshot (baselineId : String) : Except FleetError BaselineResourceSnapshot := do
  let execution ← executionOf svc t baselineId
  let claim ← ownerOf svc t baselineId
  let review ← reviewOf svc t execution.reviewId
  let leases ← leasesOf svc t baselineId
  let dispatch ← dispatchOf svc t baselineId
  let snapshot : BaselineResourceSnapshot := ⟨execution, claim, dispatch, leases⟩
  refuse (snapshot.validates svc.toBaselineModels = false) unavailable
  refuse (¬ ResourcesFit svc review dispatch leases) unavailable
  leases.forM (validateLeaseReceipt svc t claim)
  return snapshot

/-- What a cleanup did to one lease: nothing, or what its receipt says. -/
def leaseChange (claim : BaselineCleanupClaim) (before after : BaselineResourceLease) :
    Except FleetError ℕ :=
  if before = after then .ok 0
  else do
    let sha256 ← demand unavailable after.receiptSha256
    let receipt ← oneDigested svc t.receipts sha256
    refuse (receipt.cleanupScopeSha256 ≠ claim.scopeSha256
      ∨ receipt.leaseSha256 ≠ svc.digestOf before) unavailable
    refuse (finalized svc before receipt ≠ after) unavailable
    return 1

/-- How many leases a cleanup has changed. -/
def leaseChanges (claim : BaselineCleanupClaim) :
    List (BaselineResourceLease × BaselineResourceLease) → Except FleetError ℕ
  | [] => .ok 0
  | (before, after) :: pairs => do
      let change ← leaseChange svc t claim before after
      let changes ← leaseChanges claim pairs
      return change + changes

/-- `_validate_cleanup`. -/
def validateCleanup (claim : BaselineCleanupClaim) : Except FleetError BaselineResourceSnapshot :=
  do
  let event ← cleanupEvent svc t claim.owner.baselineId none
  refuse (event ≠ some claim) unavailable
  let current ← resourceSnapshot svc t claim.owner.baselineId
  let original := claim.snapshot
  refuse (current.claim ≠ original.claim ∨ current.dispatch ≠ original.dispatch
    ∨ current.leases.length ≠ original.leases.length) unavailable
  let changed ← leaseChanges svc t claim (original.leases.zip current.leases)
  refuse (current.execution ≠
    { original.execution with
      revision := original.execution.revision + changed + 1
      status := .cleaning
      updatedAt := current.execution.updatedAt }) unavailable
  return current

/-! ### Observations -/

/-- What `_observation` checks of an observation of a command. -/
def observationFits (snapshot : BaselineResourceSnapshot) (review : BaselineReview)
    (payload : BaselineCommandPayload) (configuration : SandboxConfiguration)
    (observation : BaselineCommandObservation) (native : BaselineExecutionHandle)
    (inspection : BaselineSandboxInspection) (controls : BaselineControlInspection) : Prop :=
  payload.handle = some native ∧ inspection.owner = snapshot.claim.owner
    ∧ inspection.nativeResourceId = native.nativeResourceId
    ∧ inspection.executionId = native.executionId ∧ inspection.sandboxId = native.sandboxId
    ∧ controls.capabilities = payload.sandbox.capabilities
    ∧ controls.configurationSha256 = payload.sandbox.configurationSha256
    ∧ controls.imageIdentity = payload.sandbox.imageIdentity
    ∧ controls.daemonIdentity = payload.sandbox.daemonIdentity
    ∧ inspection.tmpScratchMb = configuration.tmpfsMb
    ∧ inspection.cacheScratchMb = configuration.tmpfsMb
    ∧ inspection.shmScratchMb = configuration.shmMb
    ∧ snapshot.claim.claimedAt ≤ controls.inspectedAt
    ∧ controls.inspectedAt ≤ observation.startedAt
    ∧ observation.projectId = review.projectId ∧ observation.reviewId = review.reviewId
    ∧ observation.reviewSha256 = svc.digestOf review
    ∧ observation.authorizationId = snapshot.claim.authorizationId
    ∧ observation.claimId = snapshot.claim.claimId
    ∧ observation.executionId = payload.request.executionId
    ∧ observation.workspaceId = payload.request.workspaceId
    ∧ observation.sandboxId = payload.sandbox.sandboxId
    ∧ observation.commandSha256 = review.command.sha256
    ∧ observation.requestSha256 = svc.digestOf payload.request
    ∧ observation.sandboxSpecSha256 = payload.sandbox.sandboxSpecSha256
    ∧ observation.sandboxPolicySha256 = payload.sandbox.sandboxPolicySha256
    ∧ observation.approvedSourceSha256 = review.approvedSourceSha256
    ∧ observation.materializedSourceSha256 = payload.sandbox.materializedSourceSha256
deriving Decidable

/-- What `_observation` checks of the row of an observation. -/
def checkedObservation (baselineId : String) (row : Digested BaselineCommandObservation) :
    Except FleetError BaselineCommandObservation := do
  let observation ← decodeDigested svc row
  let snapshot ← resourceSnapshot svc t baselineId
  let review ← reviewOf svc t snapshot.execution.reviewId
  refuse ((commandsOf snapshot.leases).length ≠ 1 ∨ snapshot.dispatch = none) unavailable
  let command ← demand unavailable (commandsOf snapshot.leases).head?
  let native ← demand unavailable (snapshotModel svc.toBaselineModels observation.nativeHandle
    .nativeHandleV1 svc.nativeHandle (BaselineExecutionHandle.validates svc.toBaselineModels))
  let inspection ← demand unavailable (snapshotModel svc.toBaselineModels observation.inspection
    .sandboxInspectionV1 svc.sandboxInspection
    (BaselineSandboxInspection.validates svc.toBaselineModels))
  let controls ← demand unavailable
    (frozenControlsOf svc.toBaselineModels inspection.legacyControlInspection)
  refuse ((sandboxesOf snapshot.leases).length ≠ 1) unavailable
  let sandbox ← demand unavailable (sandboxesOf snapshot.leases).head?
  let spec ← demand unavailable (reconstructSandbox svc.toBaselineModels sandbox.spec.sandbox)
  refuse (¬ observationFits svc snapshot review command.2 spec.configuration observation native
    inspection controls) unavailable
  return observation

/-- `_observation`. -/
def observationOf (baselineId : String) : Except FleetError (Option BaselineCommandObservation) :=
  match t.observations.find? fun row => row.value.baselineId = baselineId with
  | none => .ok none
  | some row => some <$> checkedObservation svc t baselineId row

/-- `_observation_ref`. -/
def observationRef (observation : BaselineCommandObservation) : BaselineObservationRef where
  observationId := "bobs_" ++ (svc.digestOf observation).hex
  baselineId := observation.baselineId
  executionId := observation.executionId
  recordSha256 := svc.digestOf observation

/-! ### Reports -/

/-- Digests in the order of their texts, each once. -/
def sortedDigests (digests : List Sha256) : List Sha256 :=
  digests.dedup.mergeSort fun a b => a.hex ≤ b.hex

/-- The receipts that a report names. -/
def reportReceipts (owner : BaselineOwnerClaim) (report : BaselineReport) :
    List BaselineCleanupReceipt → List Sha256 → Except FleetError (List BaselineCleanupReceipt)
  | selected, [] => .ok selected
  | selected, sha256 :: digests => do
      let receipt ← oneDigested svc t.receipts sha256
      refuse (receipt.owner ≠ owner.owner
        ∨ receipt.leaseId ∈ selected.map BaselineCleanupReceipt.leaseId
        ∨ report.completedAt < receipt.completedAt) unavailable
      reportReceipts owner report (selected ++ [receipt]) digests

/-- The state of a lease that a report accounts for. -/
def reportedState (scope : BaselineCleanupClaim) (receipts : List BaselineCleanupReceipt)
    (original : BaselineResourceLease) : Except FleetError BaselineResourceLease :=
  match receipts.find? fun receipt => receipt.leaseId = original.leaseId with
  | none => do
      refuse (original.receiptSha256.isSome = true) unavailable
      return original
  | some receipt =>
      if some (svc.digestOf receipt) = original.receiptSha256 then
        receiptState svc t receipt (some original)
      else do
        validateReceiptBinding svc original receipt scope.scopeSha256
        receiptState svc t receipt none

/-- The states of the leases that a report accounts for. -/
def reportedStates (scope : BaselineCleanupClaim) (receipts : List BaselineCleanupReceipt) :
    List BaselineResourceLease → Except FleetError (List BaselineResourceLease)
  | [] => .ok []
  | original :: originals => do
      let state ← reportedState svc t scope receipts original
      let states ← reportedStates scope receipts originals
      return state :: states

/-- What `_validate_report_facts` checks of the predecessor of a report. -/
def validatePredecessor (report : BaselineReport) (execution : BaselineExecution)
    (scope : BaselineCleanupClaim) : Except FleetError Unit :=
  match report.predecessorReportSha256 with
  | none => .ok ()
  | some sha256 => do
      let predecessor ← oneDigested svc t.reports sha256
      let predecessorScope ← cleanupEvent svc t execution.baselineId
        (some predecessor.cleanupScopeSha256)
      refuse (predecessor.baselineId ≠ report.baselineId
        ∨ predecessor.claimId ≠ report.claimId
        ∨ predecessor.reviewSha256 ≠ report.reviewSha256
        ∨ scope.createdAt < predecessor.completedAt) unavailable
      let predecessorScope ← demand unavailable predecessorScope
      refuse (scope.snapshot.execution.revision
        ≤ predecessorScope.snapshot.execution.revision) unavailable

/-- `_validate_report_facts`. -/
def validateReportFacts (report : BaselineReport) (execution : BaselineExecution)
    (observation : Option BaselineCommandObservation) : Except FleetError Unit := do
  let review ← reviewOf svc t execution.reviewId
  let owner ← ownerOf svc t execution.baselineId
  let scope ← cleanupEvent svc t execution.baselineId (some report.cleanupScopeSha256)
  let scope ← demand unavailable scope
  refuse (report.baselineId ≠ execution.baselineId ∨ report.reviewId ≠ review.reviewId
    ∨ report.reviewSha256 ≠ svc.digestOf review ∨ report.projectId ≠ review.projectId
    ∨ report.authorizationId ≠ owner.authorizationId ∨ report.claimId ≠ owner.claimId
    ∨ report.commandSha256 ≠ review.command.sha256
    ∨ report.approvedSourceSha256 ≠ review.approvedSourceSha256
    ∨ report.predecessorReportSha256 ≠ scope.snapshot.execution.currentReportSha256
    ∨ report.predecessorReportSha256 = some (svc.digestOf report)
    ∨ report.completedAt < scope.createdAt) unavailable
  refuse (report.observation ≠ observation.map (observationRef svc)
    ∨ report.observedExitCode ≠ observation.bind BaselineCommandObservation.exitCode
    ∨ (observation.any fun observation => report.completedAt < observation.completedAt) = true
    ∨ (report.status = .observed ∧ ¬ ∃ conclusive ∈ observation, conclusive.conclusive))
    unavailable
  refuse (report.cleanupReceiptSha256s ≠ sortedDigests report.cleanupReceiptSha256s) unavailable
  let receipts ← reportReceipts svc t owner report [] report.cleanupReceiptSha256s
  refuse (¬ ∀ receipt ∈ receipts,
    receipt.leaseId ∈ scope.snapshot.leases.map BaselineResourceLease.leaseId) unavailable
  let states ← reportedStates svc t scope receipts scope.snapshot.leases
  refuse (¬ (report.cleanupComplete = true ↔ ∀ lease ∈ states, lease.status = .released))
    unavailable
  validatePredecessor svc t report execution scope

/-- `_report`. -/
def reportOf (execution : BaselineExecution) (observation : Option BaselineCommandObservation) :
    Except FleetError (Option BaselineReport) :=
  match execution.currentReportSha256 with
  | none => .ok none
  | some sha256 => do
      let report ← oneDigested svc t.reports sha256
      validateReportFacts svc t report execution observation
      return some report

end AgentFleet.Baseline
