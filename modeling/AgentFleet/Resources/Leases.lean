import AgentFleet.Conversations.Machine

/-! # The leases of the state store

What the state store does with the rows of `resource_leases` beside `updateLeaseStatus` and the
reviewed recovery: a lease is saved, activated, marked as dispatched and finalized, each in one
transaction that writes its events.  Only `validateLeaseTransition` and the primary key of the
table stand between a call and the row. -/

namespace AgentFleet.Resources

open Relational Transaction Checks Conversations

/-- `SandboxHandle`, as far as a lease is compared with it. -/
structure SandboxHandle where
  sandboxId : String
  runId : String
  projectId : Option String := none
  provider : String
deriving DecidableEq

/-- What the service is constructed with beside the stores. -/
structure ResourceServices extends ConversationServices where
  /-- the JSON text of the metadata of a lease, and what the text reads as -/
  metadataText : JsonObject → String
  metadataOf : String → JsonObject
  /-- `SandboxHandle.model_validate` -/
  sandboxHandle : JsonValue → Option SandboxHandle
  /-- `SandboxExecutionRecoveryRequest.model_validate` -/
  recoveryRequest : JsonObject → Bool
  /-- the identity that the metadata of a lease give to its workspace, its sandbox or its execution,
  with the provider that is asked for it, or the error of reading it -/
  cleanupIdentity : ResourceLease → Except StoreError Unit

variable (svc : ResourceServices) (amb : Ambient)

/-- The row of a lease. -/
def leaseRow (s : Registry) (leaseId : String) : Option ResourceLease :=
  s.shared.leases.find? fun lease => lease.leaseId = leaseId

/-- `metadata.get`. -/
def ResourceServices.metadata? (lease : ResourceLease) (key : String) : Option JsonValue :=
  JsonValue.field? (svc.metadataOf lease.metadata) key

/-- The metadata of a lease as they are stored. -/
def ResourceServices.cleaned (metadata : JsonObject) : String :=
  svc.metadataText (svc.redactor.redactData metadata).1

/-- The events of a lease with one payload, from place `k` on. -/
def noteLease (run : Run) (payload : JsonObject) : ℕ → List String → RegistryTxn Unit
  | _, [] => return ()
  | k, eventType :: eventTypes => do
      onDatabase (onStore (insertEvent svc.toServices
        (eventForRun svc.toServices amb k run eventType payload)))
      noteLease run payload (k + 1) eventTypes

/-- The INSERT into `resource_leases`. -/
def insertLease (lease : ResourceLease) : RegistryTxn Unit := do
  let s ← get
  let leases ← expect .integrity (s.shared.leases.insert lease)
  set { s with shared := { s.shared with leases } }

/-- `save_lease`. -/
def saveLease (lease : ResourceLease) : RegistryTxn Unit := do
  insertLease lease
  let run ← onDatabase (onStore (getRun lease.runId))
  noteLease svc amb run
    (JsonValue.object [("lease_id", .str lease.leaseId), ("resource_id", .str lease.resourceId)])
    1 (leaseEventTypes lease.kind lease.status)

/-- `get_lease`. -/
def getLease (leaseId : String) : RegistryTxn ResourceLease :=
  reading fun s => demand (notFound "resource lease" leaseId) (leaseRow s leaseId)

/-- `outstanding_leases` of a run. -/
def outstandingLeases (runId : String) (s : Registry) : List ResourceLease :=
  (s.leasesOf runId).filter fun lease => !leaseEnded lease

/-- The error of a reserved execution that is not in its reserved state. -/
def dispatchError (leaseId message remediation : String) : StoreError :=
  .fleet {
    code := .recoveryRequired
    message := message
    remediation := remediation
    details := JsonValue.object [("lease_id", .str leaseId)] }

/-- `value is False`. -/
def isFalse : Option JsonValue → Bool
  | some (.bool false) => true
  | _ => false

/-- `isinstance(value, dict)`. -/
def isObject : Option JsonValue → Bool
  | some (.obj _) => true
  | _ => false

/-- The lease is an execution that was reserved and not dispatched. -/
def reservedExecution (lease : ResourceLease) : Prop :=
  lease.kind = .execution ∧ lease.status = .creating
    ∧ isFalse (svc.metadata? lease "creation_dispatched") = true
    ∧ isObject (svc.metadata? lease "sandbox_handle") = true
deriving Decidable

/-- What `mark_execution_creation_dispatched` validates as a recovery request. -/
def dispatchRequest (lease : ResourceLease) (sandbox : SandboxHandle) : JsonObject :=
  let copied (key : String) := (key, (svc.metadata? lease key).getD .null)
  JsonValue.object [
    ("execution_id", .str lease.resourceId),
    ("sandbox_id", .str sandbox.sandboxId),
    ("run_id", .str lease.runId),
    copied "project_id", copied "provider", copied "intent_id", copied "task_id",
    copied "agent_instance_id", copied "stage",
    ("creation_dispatched", .bool false)]

/-- A member of the metadata is this text. -/
def ResourceServices.metadataIs (lease : ResourceLease) (key : String) (text : Option String) :
    Prop :=
  JsonValue.pyEq ((svc.metadata? lease key).getD .null) (.ofOption text) = true

instance (lease : ResourceLease) (key : String) (text : Option String) :
    Decidable (svc.metadataIs lease key text) :=
  inferInstanceAs (Decidable (_ = true))

/-- The sandbox of a reserved execution, where its binding is well formed. -/
def dispatchSandbox (lease : ResourceLease) : Option SandboxHandle := do
  let sandbox ← svc.sandboxHandle ((svc.metadata? lease "sandbox_handle").getD .null)
  if svc.recoveryRequest (dispatchRequest svc lease sandbox) = true then some sandbox else none

/-- A lease as it is written back by an update of these columns. -/
def rewritten (lease : ResourceLease) (status : LeaseStatus) (metadata : String)
    (updatedAt : Timestamp) : ResourceLease :=
  { lease with status := status, metadata := metadata, updatedAt := updatedAt }

/-- The metadata of an execution whose creation was dispatched. -/
def dispatchedMetadata (lease : ResourceLease) : String :=
  svc.metadataText (JsonValue.setField "creation_dispatched" (.bool true)
    (JsonValue.setField "schema_version" (.int 2) (svc.metadataOf lease.metadata)))

/-- `mark_execution_creation_dispatched`. -/
def markExecutionCreationDispatched (leaseId : String) : RegistryTxn ResourceLease := do
  let current ← getLease leaseId
  refuseIf (¬ reservedExecution svc current) (dispatchError leaseId
    "Execution creation dispatch checkpoint is not in its reserved state."
    "Do not dispatch or replay the execution; inspect its persisted lease.")
  let sandbox ← expect (dispatchError leaseId
    "Execution creation dispatch binding is incomplete or malformed."
    "Do not dispatch the execution; inspect its persisted lease.") (dispatchSandbox svc current)
  refuseIf (current.runId ≠ sandbox.runId
    ∨ ¬ svc.metadataIs current "project_id" sandbox.projectId
    ∨ ¬ svc.metadataIs current "provider" (some sandbox.provider)) (dispatchError leaseId
    "Execution creation dispatch binding does not match its sandbox."
    "Do not dispatch the execution; inspect its persisted lease.")
  let updated := rewritten current current.status (dispatchedMetadata svc current) (amb.clock 0)
  refuseIf (updated.validates = false) .validation
  replaceLease current updated
  let run ← onDatabase (onStore (getRun current.runId))
  noteLease svc amb run
    (JsonValue.object [("lease_id", .str leaseId), ("execution_id", .str current.resourceId)])
    1 ["sandbox.exec_dispatch_recorded"]
  return updated

/-- `activate_lease`. -/
def activateLease (leaseId : String) (metadata : JsonObject) : RegistryTxn ResourceLease := do
  let current ← getLease leaseId
  refuseIf (.active ∉ leaseTransitions current.status)
    (invalidLeaseTransition current.status .active)
  let updated := rewritten current .active (svc.cleaned metadata) (amb.clock 0)
  refuseIf (updated.validates = false) .validation
  replaceLease current updated
  let run ← onDatabase (onStore (getRun current.runId))
  noteLease svc amb run
    (JsonValue.object [("lease_id", .str leaseId), ("resource_id", .str current.resourceId)])
    1 (leaseEventTypes current.kind .active)
  return updated

/-- A finalization with other metadata than those that were stored. -/
def finalizedOtherwise : StoreError :=
  .fleet {
    code := .recoveryRequired
    message := "A terminal resource lease was finalized with different metadata."
    remediation := "Inspect the lease audit trail; do not replay the resource action." }

/-- The new row of a finalization with its events. -/
def finalizeRow (current : ResourceLease) (status : LeaseStatus) (metadata : JsonObject) :
    RegistryTxn ResourceLease := do
  refuseIf (status ∉ leaseTransitions current.status)
    (invalidLeaseTransition current.status status)
  let updated := rewritten current status (svc.cleaned metadata) (amb.clock 0)
  refuseIf (updated.validates = false) .validation
  replaceLease current updated
  let run ← onDatabase (onStore (getRun current.runId))
  noteLease svc amb run
    (JsonValue.object [("lease_id", .str current.leaseId), ("lease_status", .str status.value),
      ("terminal_metadata_sha256",
        .str (svc.canonicalJsonHash (.obj (svc.redactor.redactData metadata).1)).hex)])
    1 (leaseEventTypes current.kind status)
  return updated

/-- `finalize_lease`. -/
def finalizeLease (leaseId : String) (status : LeaseStatus) (metadata : JsonObject) :
    RegistryTxn ResourceLease := do
  refuseIf (¬ (status = .released ∨ status = .recovered)) .validation
  let current ← getLease leaseId
  if current.status = status then do
    refuseIf (JsonValue.pyEqFields (svc.metadataOf current.metadata)
      (svc.redactor.redactData metadata).1 = false) finalizedOtherwise
    return current
  else finalizeRow svc amb current status metadata

/-! ### Other clients of the stores -/

/-- A transaction of the stores. -/
inductive StoreCall where
  | conversation (op : ConversationOp)
  | database (op : DatabaseOp) (databaseReads : DatabaseReads)
  | saveLease (lease : ResourceLease)
  | updateLeaseStatus (leaseId : String) (status : LeaseStatus)
  | markExecutionCreationDispatched (leaseId : String)
  | activateLease (leaseId : String) (metadata : JsonObject)
  | finalizeLease (leaseId : String) (status : LeaseStatus) (metadata : JsonObject)
  | elsewhere (projects : Table ConversationProject) (artifacts : Table ArtifactMetadata)

/-- The claims that `claimRecoveryLease` gives out are on leases that are releasing. -/
def claimGiven : ConversationOp → Prop
  | .finishRecoveryLease claim _ => claim.lease.status = .releasing
  | _ => True

instance : DecidablePred claimGiven
  | .create _ _ | .get _ _ | .getTurn _ _ | .getSubmission _ _ _ | .bindingForRun _
  | .registerTurnRun _ _ _ _ | .assertClaim _ | .claimResume _ _ | .settle _ _ _ _
  | .fence _ _ _ _ | .reconcileFenced _ _ _ _ | .captureRecovery _ | .prepareReviewedRecovery _
  | .claimRecoveryLease _ _ | .reconcileReviewedRecovery _ => .isTrue trivial
  | .finishRecoveryLease claim _ => inferInstanceAs (Decidable (claim.lease.status = .releasing))

/-- The call of the conversation store writes no lease. -/
def keepsLeases : ConversationOp → Bool
  | .claimRecoveryLease _ _ | .finishRecoveryLease _ _ => false
  | _ => true

/-- The transaction writes no lease. -/
def StoreCall.keepsLeases : StoreCall → Bool
  | .conversation op => Resources.keepsLeases op
  | .database _ _ | .elsewhere _ _ => true
  | _ => false

/-- The body of a transaction. -/
def storeBody (reads : ConversationReads) : StoreCall → RegistryTxn Unit
  | .conversation op => do
      refuseIf (¬ claimGiven op) invalid
      let _ ← withinBoundary (conversationBody svc.toConversationServices reads amb op)
  | .database op databaseReads => do
      let _ ← onDatabase (databaseBody svc.toDatabaseServices databaseReads amb op)
  | .saveLease lease => saveLease svc amb lease
  | .updateLeaseStatus leaseId status =>
      Conversations.updateLeaseStatus svc.toConversationServices amb leaseId status
  | .markExecutionCreationDispatched leaseId => do
      let _ ← markExecutionCreationDispatched svc amb leaseId
  | .activateLease leaseId metadata => do
      let _ ← activateLease svc amb leaseId metadata
  | .finalizeLease leaseId status metadata => do
      let _ ← finalizeLease svc amb leaseId status metadata
  | .elsewhere projects artifacts =>
      modify fun s => { s with shared := { s.shared with projects, artifacts } }

end AgentFleet.Resources
