import AgentFleet.Domain.Workflow
import AgentFleet.Lib.Table
import AgentFleet.Lib.Transaction

/-! # The state store: tables, lookups and row writes

A row is the record decoded from its `data_json` column.  The columns that every write copies
from the record are not kept twice; a column that some write leaves behind is kept
(`RunRow.projectId`, `AgentRow.runId`).  Primary keys and UNIQUE constraints are the
`Constrained` instances, the CHECK constraint on grants is the subtype of `GrantRow`.

The journal `runEvents` is kept beside the other tables, because no guard of an operation on
intents, approvals or grants reads it.  Event identifiers are fresh UUIDs and an event's run
and project were read in the same transaction, so its insertion is not refused. -/

namespace AgentFleet

open Relational Transaction

/-! ### Rows and constraints -/

/-- A row of `runs`; no update writes the `project_id` column. -/
structure RunRow where
  run : Run
  projectId : String
deriving DecidableEq

/-- A row of `agent_instances`; the upsert leaves the `run_id` column alone. -/
structure AgentRow where
  agent : AgentInstance
  runId : String
deriving DecidableEq

/-- A row of `capability_grants`, within its CHECK constraint. -/
abbrev GrantRow := { grant : CapabilityGrant // grant.usesInRange }

/-- A row of `tool_dispatch_claims`. -/
structure DispatchClaim where
  intentId : String
  intentHash : Sha256
  claimedAt : Timestamp
deriving DecidableEq

instance : Constrained RunRow where
  clash a b := a.run.runId = b.run.runId
  symm _ _ h := h.symm
  decidableClash _ _ := inferInstanceAs (Decidable (_ = _))

instance : Constrained TaskSpec where
  clash a b := a.taskId = b.taskId ∨ a.runId = b.runId
  symm _ _ h := h.imp Eq.symm Eq.symm
  decidableClash _ _ := inferInstanceAs (Decidable (_ ∨ _))

instance : Constrained AgentRow where
  clash a b := a.agent.agentInstanceId = b.agent.agentInstanceId
  symm _ _ h := h.symm
  decidableClash _ _ := inferInstanceAs (Decidable (_ = _))

instance : Constrained StoredToolIntent where
  clash a b := a.intent.intentId = b.intent.intentId
    ∨ (a.intent.runId = b.intent.runId ∧ a.intent.idempotencyKey = b.intent.idempotencyKey)
  symm _ _ h := h.imp Eq.symm fun h => ⟨h.1.symm, h.2.symm⟩
  decidableClash _ _ := inferInstanceAs (Decidable (_ ∨ _))

instance : Constrained ApprovalRequest where
  clash a b := a.requestId = b.requestId ∨ a.intentId = b.intentId
  symm _ _ h := h.imp Eq.symm Eq.symm
  decidableClash _ _ := inferInstanceAs (Decidable (_ ∨ _))

instance : Constrained GrantRow where
  clash a b := a.1.grantId = b.1.grantId ∨ a.1.intentId = b.1.intentId
    ∨ (a.1.requestId = b.1.requestId ∧ a.1.requestId ≠ none)
  symm := by
    rintro _ _ (h | h | ⟨h, hn⟩)
    · exact .inl h.symm
    · exact .inr (.inl h.symm)
    · exact .inr (.inr ⟨h.symm, h ▸ hn⟩)
  decidableClash _ _ := inferInstanceAs (Decidable (_ ∨ _ ∨ _))

instance : Constrained DispatchClaim where
  clash a b := a.intentId = b.intentId
  symm _ _ h := h.symm
  decidableClash _ _ := inferInstanceAs (Decidable (_ = _))

/-- The tables that the operations on intents, approvals and grants read. -/
structure Records where
  runs : Table RunRow
  tasks : Table TaskSpec
  agentInstances : Table AgentRow
  toolIntents : Table StoredToolIntent
  approvals : Table ApprovalRequest
  capabilityGrants : Table GrantRow
  toolDispatchClaims : Table DispatchClaim

/-- The state of the store. -/
structure Store where
  records : Records
  runEvents : List FleetEvent

/-- A transaction body against the store. -/
abbrev StoreTxn := Txn Store StoreError

/-! ### Lookups -/

namespace Records

variable (r : Records)

/-- The run with an identifier. -/
def runRow? (runId : String) : Option RunRow :=
  r.runs.find? fun row => row.run.runId = runId

/-- The task with an identifier. -/
def task? (taskId : String) : Option TaskSpec :=
  r.tasks.find? fun task => task.taskId = taskId

/-- The agent with an identifier. -/
def agentRow? (agentInstanceId : String) : Option AgentRow :=
  r.agentInstances.find? fun row => row.agent.agentInstanceId = agentInstanceId

/-- The intent with an identifier. -/
def intent? (intentId : String) : Option StoredToolIntent :=
  r.toolIntents.find? fun row => row.intent.intentId = intentId

/-- The intent under an idempotency key of a run. -/
def intentByKey? (runId idempotencyKey : String) : Option StoredToolIntent :=
  r.toolIntents.find? fun row =>
    row.intent.runId = runId && row.intent.idempotencyKey = idempotencyKey

/-- The approval request with an identifier. -/
def approval? (requestId : String) : Option ApprovalRequest :=
  r.approvals.find? fun row => row.requestId = requestId

/-- The grant with an identifier. -/
def grant? (grantId : String) : Option GrantRow :=
  r.capabilityGrants.find? fun row => row.1.grantId = grantId

/-- The grant issued for an approval request. -/
def grantForRequest? (requestId : String) : Option GrantRow :=
  r.capabilityGrants.find? fun row => row.1.requestId = some requestId

/-- The grant issued for an intent. -/
def grantForIntent? (intentId : String) : Option GrantRow :=
  r.capabilityGrants.find? fun row => row.1.intentId = intentId

/-- The dispatch claim of an intent. -/
def claim? (intentId : String) : Option DispatchClaim :=
  r.toolDispatchClaims.find? fun row => row.intentId = intentId

variable {runId intentId requestId : String} {row : StoredToolIntent}

theorem runRow?_mem {r : Records} {row : RunRow} (h : r.runRow? runId = some row) :
    row ∈ r.runs ∧ row.run.runId = runId :=
  ⟨Table.mem_of_find? h, by simpa using Table.prop_of_find? h⟩

theorem agentRow?_mem {r : Records} {agentInstanceId : String} {row : AgentRow}
    (h : r.agentRow? agentInstanceId = some row) :
    row ∈ r.agentInstances ∧ row.agent.agentInstanceId = agentInstanceId :=
  ⟨Table.mem_of_find? h, by simpa using Table.prop_of_find? h⟩

theorem intent?_mem {r : Records} (h : r.intent? intentId = some row) :
    row ∈ r.toolIntents ∧ row.intent.intentId = intentId :=
  ⟨Table.mem_of_find? h, by simpa using Table.prop_of_find? h⟩

theorem intent?_eq_some {r : Records} (h : row ∈ r.toolIntents)
    (hid : row.intent.intentId = intentId) : r.intent? intentId = some row := by
  refine Table.find?_eq_some h (by simpa using hid) fun b hb => .inl ?_
  exact (of_decide_eq_true hb).trans hid.symm

theorem intentByKey?_mem {r : Records} {key : String} (h : r.intentByKey? runId key = some row) :
    row ∈ r.toolIntents ∧ row.intent.runId = runId ∧ row.intent.idempotencyKey = key :=
  ⟨Table.mem_of_find? h, by simpa using Table.prop_of_find? h⟩

theorem approval?_mem {r : Records} {row : ApprovalRequest} (h : r.approval? requestId = some row) :
    row ∈ r.approvals ∧ row.requestId = requestId :=
  ⟨Table.mem_of_find? h, by simpa using Table.prop_of_find? h⟩

theorem grant?_mem {r : Records} {grantId : String} {row : GrantRow}
    (h : r.grant? grantId = some row) :
    row ∈ r.capabilityGrants ∧ row.1.grantId = grantId :=
  ⟨Table.mem_of_find? h, by simpa using Table.prop_of_find? h⟩

theorem grantForRequest?_mem {r : Records} {row : GrantRow}
    (h : r.grantForRequest? requestId = some row) :
    row ∈ r.capabilityGrants ∧ row.1.requestId = some requestId :=
  ⟨Table.mem_of_find? h, by simpa using Table.prop_of_find? h⟩

end Records

/-- The records as they stand. -/
def getRecords : StoreTxn Records := do
  let s ← get
  return s.records

/-- `_get_run`. -/
def getRun (runId : String) : StoreTxn Run := do
  let r ← getRecords
  let row ← expect (notFound "run" runId) (r.runRow? runId)
  return row.run

/-- `_get_intent_by_id`. -/
def getIntentById (intentId : String) : StoreTxn StoredToolIntent := do
  let r ← getRecords
  expect (notFound "tool intent" intentId) (r.intent? intentId)

/-- `find_intent`. -/
def findIntent (runId idempotencyKey : String) : StoreTxn (Option StoredToolIntent) := do
  let r ← getRecords
  return r.intentByKey? runId idempotencyKey

/-- `_get_approval`. -/
def getApproval (requestId : String) : StoreTxn ApprovalRequest := do
  let r ← getRecords
  expect (notFound "approval request" requestId) (r.approval? requestId)

/-- `_grant_from_row`, with the row's run joined in: a grant whose run is missing is not
found, one that does not validate or whose project is not its run's is refused. -/
def grantFromRow (row : GrantRow) (owner : RunRow) : StoreTxn CapabilityGrant := do
  refuseIf (¬ row.1.validGrantChoice) .validation
  refuseIf (row.1.projectId ≠ owner.projectId) (invalidApproval row.1.requestId)
  return row.1

/-- `_get_grant`. -/
def getGrant (grantId : String) : StoreTxn CapabilityGrant := do
  let r ← getRecords
  let row ← expect (notFound "capability grant" grantId) (r.grant? grantId)
  let owner ← expect (notFound "capability grant" grantId) (r.runRow? row.1.runId)
  grantFromRow row owner

/-- `_get_grant_for_request`. -/
def getGrantForRequest (requestId : String) : StoreTxn (Option CapabilityGrant) := do
  let r ← getRecords
  match r.grantForRequest? requestId with
  | none => return none
  | some row =>
      match r.runRow? row.1.runId with
      | none => return none
      | some owner => do
          let grant ← grantFromRow row owner
          return some grant

/-! ### Row writes -/

/-- Replaces the records. -/
def setRecords (r : Records) : StoreTxn Unit :=
  modify fun s => { s with records := r }

/-- `r'` is `r` with a new row in `tool_intents`. -/
def Records.Inserts (r : Records) (stored : StoredToolIntent) (r' : Records) : Prop :=
  ∃ toolIntents, r.toolIntents.insert stored = some toolIntents ∧ { r with toolIntents } = r'

/-- `_insert_intent`. -/
def insertIntent (stored : StoredToolIntent) : StoreTxn Unit := do
  let r ← getRecords
  let toolIntents ← expect .integrity (r.toolIntents.insert stored)
  setRecords { r with toolIntents }

/-- The row that `_update_intent` leaves in place of `row`. -/
def StoredToolIntent.written (stored row : StoredToolIntent) : StoredToolIntent :=
  { row with
    status := stored.status
    approvalRequestId := stored.approvalRequestId
    result := stored.result }

theorem StoredToolIntent.keepsKeys_written (stored : StoredToolIntent) :
    KeepsKeys stored.written := fun _ _ h => h

/-- `tool_intents` after `_update_intent`. -/
def Records.withIntent (r : Records) (stored : StoredToolIntent) : Records :=
  { r with
    toolIntents := r.toolIntents.update
      (fun row => row.intent.intentId = stored.intent.intentId) stored.written
      stored.keepsKeys_written }

/-- `_update_intent`: `stored` is a copy of the row with that identifier in which only the
status, the approval request and the result may differ. -/
def updateIntent (stored : StoredToolIntent) : StoreTxn Unit := do
  let r ← getRecords
  setRecords (r.withIntent stored)

/-- The row that `_update_run` leaves in place of `row`. -/
def RunRow.written (run : Run) (row : RunRow) : RunRow :=
  { row with run := { run with runId := row.run.runId } }

theorem RunRow.keepsKeys_written (run : Run) : KeepsKeys (RunRow.written run) :=
  fun _ _ h => h

/-- `runs` after `_update_run`. -/
def Records.withRun (r : Records) (run : Run) : Records :=
  { r with
    runs := r.runs.update (fun row => row.run.runId = run.runId) (RunRow.written run)
      (RunRow.keepsKeys_written run) }

/-- `_update_run`. -/
def updateRun (run : Run) : StoreTxn Unit := do
  let r ← getRecords
  setRecords (r.withRun run)

/-- The row that the UPDATE of `approvals` leaves in place of `row`. -/
def ApprovalRequest.written (resolved row : ApprovalRequest) : ApprovalRequest :=
  { row with
    status := resolved.status
    resolutionChoice := resolved.resolutionChoice
    sourceRuleId := resolved.sourceRuleId
    resolvedAt := resolved.resolvedAt
    denialReason := resolved.denialReason }

theorem ApprovalRequest.keepsKeys_written (resolved : ApprovalRequest) :
    KeepsKeys resolved.written := fun _ _ h => h

/-- `approvals` after the UPDATE of `resolve_approval`. -/
def Records.withApproval (r : Records) (resolved : ApprovalRequest) : Records :=
  { r with
    approvals := r.approvals.update (fun row => row.requestId = resolved.requestId)
      resolved.written resolved.keepsKeys_written }

/-- The UPDATE of `approvals`. -/
def updateApproval (resolved : ApprovalRequest) : StoreTxn Unit := do
  let r ← getRecords
  setRecords (r.withApproval resolved)

/-- The row that `_update_grant` leaves in place of `row`. -/
def GrantRow.written (grant : GrantRow) (row : GrantRow) : GrantRow :=
  ⟨{ row.1 with
      remainingUses := grant.1.remainingUses
      consumedAt := grant.1.consumedAt
      revokedAt := grant.1.revokedAt }, grant.2⟩

theorem GrantRow.keepsKeys_written (grant : GrantRow) : KeepsKeys (GrantRow.written grant) :=
  fun _ _ h => h

/-- `capability_grants` after `_update_grant`. -/
def Records.withGrant (r : Records) (grant : GrantRow) : Records :=
  { r with
    capabilityGrants := r.capabilityGrants.update
      (fun row => row.1.grantId = grant.1.grantId) (GrantRow.written grant)
      (GrantRow.keepsKeys_written grant) }

/-- A grant within the CHECK constraint. -/
def checkGrant (grant : CapabilityGrant) : Option GrantRow :=
  if h : grant.usesInRange then some ⟨grant, h⟩ else none

/-- `_update_grant`. -/
def updateGrant (grant : CapabilityGrant) : StoreTxn Unit := do
  let r ← getRecords
  let row ← expect .integrity (checkGrant grant)
  setRecords (r.withGrant row)

/-- The INSERT into `capability_grants`. -/
def insertGrant (grant : CapabilityGrant) : StoreTxn Unit := do
  let r ← getRecords
  let row ← expect .integrity (checkGrant grant)
  let capabilityGrants ← expect .integrity (r.capabilityGrants.insert row)
  setRecords { r with capabilityGrants }

/-- The INSERT into `approvals`; its intent and its run must be stored. -/
def insertApproval (request : ApprovalRequest) : StoreTxn Unit := do
  let r ← getRecords
  refuseIf (r.intent? request.intentId = none ∨ r.runRow? request.runId = none) .integrity
  let approvals ← expect .integrity (r.approvals.insert request)
  setRecords { r with approvals }

/-- The INSERT into `tool_dispatch_claims`. -/
def insertClaim (claim : DispatchClaim) : StoreTxn Unit := do
  let r ← getRecords
  let toolDispatchClaims ← expect .integrity (r.toolDispatchClaims.insert claim)
  setRecords { r with toolDispatchClaims }

/-! ### The rows after a write -/

theorem Records.mem_withIntent {r : Records} {stored b : StoredToolIntent} :
    b ∈ (r.withIntent stored).toolIntents ↔ ∃ a ∈ r.toolIntents,
      b = if a.intent.intentId = stored.intent.intentId then stored.written a else a := by
  simp [withIntent, Table.mem_update]

theorem Records.mem_withRun {r : Records} {run : Run} {b : RunRow} :
    b ∈ (r.withRun run).runs ↔ ∃ a ∈ r.runs,
      b = if a.run.runId = run.runId then RunRow.written run a else a := by
  simp [withRun, Table.mem_update]

theorem Records.mem_withApproval {r : Records} {resolved b : ApprovalRequest} :
    b ∈ (r.withApproval resolved).approvals ↔ ∃ a ∈ r.approvals,
      b = if a.requestId = resolved.requestId then resolved.written a else a := by
  simp [withApproval, Table.mem_update]

/-! ### Events -/

variable (svc : Services)

/-- `_event_for_run`, with the identifier and the instant of place `k`. -/
def eventForRun (amb : Ambient) (k : ℕ) (run : Run) (eventType : String)
    (payload : JsonObject) (taskId : Option String := none) : FleetEvent :=
  let cleaned := svc.redactor.redactData payload
  { eventId := amb.ids k
    eventType := eventType
    occurredAt := amb.clock k
    projectId := run.projectId
    runId := some run.runId
    taskId := taskId <|> run.taskId
    correlationId := run.correlationId
    payload := cleaned.1
    redactionSummary := cleaned.2 }

/-- `_event_for_intent`. -/
def eventForIntent (amb : Ambient) (k : ℕ) (run : Run) (intent : ToolIntent)
    (eventType : String) (payload : JsonObject) : FleetEvent :=
  { eventForRun svc amb k run eventType payload (some intent.taskId) with
    agentInstanceId := some intent.agentInstanceId }

/-- Whether an event counts into the sequence of `event`: that of its run, or of its project
when it has no run. -/
def sameJournal (event other : FleetEvent) : Bool :=
  match event.runId with
  | some runId => other.runId = some runId
  | none => other.runId = none && other.projectId = event.projectId

/-- `COALESCE(MAX(sequence), 0) + 1` over the event's journal. -/
def nextSequence (events : List FleetEvent) (event : FleetEvent) : ℕ :=
  ((events.filter (sameJournal event)).map FleetEvent.sequence).foldl max 0 + 1

/-- The event that `_event` of the accounting and of the graphs builds. -/
def plainEvent (amb : Ambient) (k : ℕ) (run : Run) (eventType : String)
    (payload : JsonObject) : FleetEvent :=
  let cleaned := svc.redactor.redactData payload
  { eventId := amb.ids k
    eventType := eventType
    occurredAt := amb.clock k
    projectId := run.projectId
    runId := some run.runId
    taskId := none
    correlationId := run.correlationId
    payload := cleaned.1
    redactionSummary := cleaned.2 }

/-- The store after `_event` stored an event. -/
def Store.journal (s : Store) (event : FleetEvent) : Store :=
  { s with runEvents := s.runEvents
      ++ [{ event with sequence := nextSequence s.runEvents event }] }

/-- The event as `_insert_event` stores it. -/
def persisted (events : List FleetEvent) (event : FleetEvent) : FleetEvent :=
  let cleaned := svc.redactor.redactData event.payload
  { event with
    sequence := nextSequence events event
    payload := cleaned.1
    redactionSummary := sortedSet (event.redactionSummary ++ cleaned.2) }

/-- `_insert_event`. -/
def insertEvent (event : FleetEvent) : StoreTxn Unit :=
  modify fun s => { s with runEvents := s.runEvents ++ [persisted svc s.runEvents event] }

/-! ### What a committed step did -/

section Committed

variable {svc} {s t : Store} {u : Unit}

@[simp] theorem getRecords_ok {r : Records} :
    getRecords s = .ok (r, t) ↔ s.records = r ∧ s = t := by
  simp [getRecords, and_comm]

@[simp] theorem setRecords_ok {r : Records} :
    setRecords r s = .ok (u, t) ↔ { s with records := r } = t := by
  simp [setRecords]

variable {runId : String} {stored : StoredToolIntent} {grant : CapabilityGrant}

@[simp] theorem getRun_ok {run : Run} :
    getRun runId s = .ok (run, t)
      ↔ (∃ row, s.records.runRow? runId = some row ∧ row.run = run) ∧ s = t := by
  simp [getRun]
  tauto

@[simp] theorem getIntentById_ok {intentId : String} :
    getIntentById intentId s = .ok (stored, t)
      ↔ s.records.intent? intentId = some stored ∧ s = t := by
  simp [getIntentById, and_comm]

@[simp] theorem findIntent_ok {idempotencyKey : String} {existing : Option StoredToolIntent} :
    findIntent runId idempotencyKey s = .ok (existing, t)
      ↔ s.records.intentByKey? runId idempotencyKey = existing ∧ s = t := by
  simp [findIntent, and_comm]

@[simp] theorem getApproval_ok {requestId : String} {request : ApprovalRequest} :
    getApproval requestId s = .ok (request, t)
      ↔ s.records.approval? requestId = some request ∧ s = t := by
  simp [getApproval, and_comm]

@[simp] theorem insertEvent_ok {event : FleetEvent} :
    insertEvent svc event s = .ok (u, t)
      ↔ { s with runEvents := s.runEvents ++ [persisted svc s.runEvents event] } = t := by
  simp [insertEvent]

@[simp] theorem insertIntent_ok :
    insertIntent stored s = .ok (u, t)
      ↔ ∃ r, s.records.Inserts stored r ∧ { s with records := r } = t := by
  simp [insertIntent, Records.Inserts]

@[simp] theorem updateIntent_ok :
    updateIntent stored s = .ok (u, t)
      ↔ { s with records := s.records.withIntent stored } = t := by
  simp [updateIntent]

@[simp] theorem updateRun_ok {run : Run} :
    updateRun run s = .ok (u, t) ↔ { s with records := s.records.withRun run } = t := by
  simp [updateRun]

@[simp] theorem updateApproval_ok {resolved : ApprovalRequest} :
    updateApproval resolved s = .ok (u, t)
      ↔ { s with records := s.records.withApproval resolved } = t := by
  simp [updateApproval]

@[simp] theorem updateGrant_ok :
    updateGrant grant s = .ok (u, t)
      ↔ ∃ h : grant.usesInRange, { s with records := s.records.withGrant ⟨grant, h⟩ } = t := by
  simp [updateGrant, checkGrant]

@[simp] theorem insertGrant_ok :
    insertGrant grant s = .ok (u, t)
      ↔ ∃ h : grant.usesInRange, ∃ capabilityGrants,
        s.records.capabilityGrants.insert ⟨grant, h⟩ = some capabilityGrants
          ∧ { s with records := { s.records with capabilityGrants } } = t := by
  simp [insertGrant, checkGrant]

@[simp] theorem insertApproval_ok {request : ApprovalRequest} :
    insertApproval request s = .ok (u, t)
      ↔ (s.records.intent? request.intentId ≠ none ∧ s.records.runRow? request.runId ≠ none)
        ∧ ∃ approvals, s.records.approvals.insert request = some approvals
          ∧ { s with records := { s.records with approvals } } = t := by
  simp [insertApproval]

@[simp] theorem insertClaim_ok {claim : DispatchClaim} :
    insertClaim claim s = .ok (u, t)
      ↔ ∃ toolDispatchClaims,
        s.records.toolDispatchClaims.insert claim = some toolDispatchClaims
          ∧ { s with records := { s.records with toolDispatchClaims } } = t := by
  simp [insertClaim]

end Committed

end AgentFleet
