import AgentFleet.Budget.Ledger

/-! # The transactions of the runtime ledger

`initializeRun` binds a run to its owner's limits, `beginAttempt` opens an attempt, and the
operations of `SqliteRuntimeAccounting` account for its requests, tool batches and simulated
steps until `finish`.  A response is recorded even when its usage overshoots; the refusal of its
continuation (`continuation`) comes after the commit. -/

namespace AgentFleet

open Relational Transaction

variable (svc : BudgetServices) (reads : BudgetReads) (amb : Ambient)

/-! ### Writes -/

/-- Replaces the ledger. -/
def setLedger (l : Ledger) : BudgetTxn Unit := modify fun s => { s with ledger := l }

/-- `_event`, with the identifier and the instant of place `k`. -/
def budgetEvent (k : ℕ) (run : Run) (eventType : String) (payload : JsonObject) :
    BudgetTxn Unit :=
  modify fun s => { s with
    store := s.store.journal (plainEvent svc.toServices amb k run eventType payload) }

/-- The INSERT into `runtime_attempts`; its partial unique index admits one running attempt of
an agent. -/
def insertAttempt (attempt : RuntimeAttempt) : BudgetTxn Unit := do
  let l ← getLedger
  refuseIf (attempt.status = .running ∧ ∃ a ∈ l.attempts.rows,
    a.agentInstanceId = attempt.agentInstanceId ∧ a.status = .running) .integrity
  let attempts ← expect .integrity (l.attempts.insert attempt)
  setLedger { l with attempts }

/-- The INSERT into `runtime_model_requests`. -/
def insertRequest (item : ModelRequestAccounting) : BudgetTxn Unit := do
  let l ← getLedger
  let modelRequests ← expect .integrity (l.modelRequests.insert item)
  setLedger { l with modelRequests }

/-- The row that an UPDATE of a request's `data_json` leaves in place of `row`. -/
def ModelRequestAccounting.written (item row : ModelRequestAccounting) :
    ModelRequestAccounting :=
  { row with outcome := item.outcome, usage := item.usage }

theorem ModelRequestAccounting.keepsKeys_written (item : ModelRequestAccounting) :
    KeepsKeys (ModelRequestAccounting.written item) := fun _ _ h => h

/-- `runtime_model_requests` after `_save_request`, whose row keeps its reservation. -/
def Ledger.withRequest (l : Ledger) (item : ModelRequestAccounting) : Ledger :=
  { l with
    modelRequests := l.modelRequests.update
      (fun row => clash row item) (ModelRequestAccounting.written item)
      item.keepsKeys_written }

/-- The request without a response: its outcome is not known. -/
def ModelRequestAccounting.abandoned (item : ModelRequestAccounting) : ModelRequestAccounting :=
  { item with outcome := .unknown, usage := none }

theorem ModelRequestAccounting.keepsKeys_abandoned :
    KeepsKeys ModelRequestAccounting.abandoned := fun _ _ h => h

/-- `runtime_model_requests` after the loop of `finish`. -/
def Ledger.abandoning (l : Ledger) (attemptId : String) : Ledger :=
  { l with
    modelRequests := l.modelRequests.update
      (fun row => row.reservation.attemptId = attemptId && row.outcome = .reserved)
      ModelRequestAccounting.abandoned ModelRequestAccounting.keepsKeys_abandoned }

/-- The attempt as `finish` leaves it. -/
def RuntimeAttempt.finished (status : RuntimeAttemptStatus) (finishedAt : Timestamp)
    (errorCode : Option ErrorCode) (attempt : RuntimeAttempt) : RuntimeAttempt :=
  { attempt with status := status, finishedAt := some finishedAt, errorCode := errorCode }

theorem RuntimeAttempt.keepsKeys_finished (status : RuntimeAttemptStatus)
    (finishedAt : Timestamp) (errorCode : Option ErrorCode) :
    KeepsKeys (RuntimeAttempt.finished status finishedAt errorCode) := fun _ _ h => h

/-- `runtime_attempts` after the UPDATE of `finish`. -/
def Ledger.withFinished (l : Ledger) (attemptId : String) (status : RuntimeAttemptStatus)
    (finishedAt : Timestamp) (errorCode : Option ErrorCode) : Ledger :=
  { l with
    attempts := l.attempts.update (fun row => row.attemptId = attemptId)
      (RuntimeAttempt.finished status finishedAt errorCode)
      (RuntimeAttempt.keepsKeys_finished status finishedAt errorCode) }

/-! ### Dumps -/

/-- `reservation.model_dump(mode="json")`. -/
def ModelRequestReservation.modelDump (reservation : ModelRequestReservation) : JsonObject :=
  JsonValue.object [
    ("attempt_id", .str reservation.attemptId),
    ("request_sequence", .int reservation.requestSequence),
    ("token_allowance", .int reservation.tokenAllowance),
    ("requested_tokens", .int reservation.requestedTokens),
    ("reserved_at", .str (svc.isoTimestamp reservation.reservedAt))]

/-- `usage.model_dump(mode="json")`. -/
def UsageRecord.modelDump (usage : UsageRecord) : JsonObject :=
  let count := fun value : Option ℕ => JsonValue.ofOptionInt (value.map Int.ofNat)
  JsonValue.object [
    ("requests", count usage.requests),
    ("input_tokens", count usage.inputTokens),
    ("output_tokens", count usage.outputTokens),
    ("total_tokens", count usage.totalTokens),
    ("tool_calls", count usage.toolCalls),
    ("provider_cost", .ofOption (usage.providerCost.map svc.decimalText)),
    ("provider_currency", .ofOption usage.providerCurrency)]

/-- `item.model_dump(mode="json")`. -/
def ModelRequestAccounting.modelDump (item : ModelRequestAccounting) : JsonObject :=
  JsonValue.object [
    ("reservation", .obj (item.reservation.modelDump svc)),
    ("outcome", .str item.outcome.value),
    ("usage", match item.usage with
      | some usage => .obj (usage.modelDump svc)
      | none => .null)]

/-- `attempt.model_dump(mode="json")`. -/
def RuntimeAttempt.modelDump (attempt : RuntimeAttempt) : JsonObject :=
  JsonValue.object [
    ("attempt_id", .str attempt.attemptId),
    ("owner_run_id", .str attempt.ownerRunId),
    ("run_id", .str attempt.runId),
    ("agent_instance_id", .str attempt.agentInstanceId),
    ("task_id", .str attempt.taskId),
    ("role", .str attempt.role),
    ("stage", .str attempt.stage.value),
    ("iteration", .int attempt.iteration),
    ("max_steps", .int attempt.maxSteps),
    ("runtime_name", .str attempt.runtimeName),
    ("status", .str attempt.status.value),
    ("started_at", .str (svc.isoTimestamp attempt.startedAt)),
    ("finished_at", .ofOption (attempt.finishedAt.map svc.isoTimestamp)),
    ("error_code", .ofOption (attempt.errorCode.map ErrorCode.value))]

/-! ### Transactions -/

/-- The owner of the parent of a run that has one. -/
def parentOwner (parentRunId : Option String) :
    BudgetTxn (Option (String × RunBudgetLimits)) :=
  match parentRunId with
  | some parentId => ownerOf reads parentId
  | none => pure none

/-- The owners after a run was initialized: a run without a parent owns its limits. -/
def registerOwner (run : Run) (ownerRunId : String) (limits : RunBudgetLimits)
    (parent : Option (String × RunBudgetLimits)) : BudgetTxn (Table BudgetOwner) := do
  let l ← getLedger
  match parent with
  | none => do
      let owner : BudgetOwner := { ownerRunId, limits, createdAt := amb.clock 1 }
      expect .integrity (l.owners.insert owner)
  | some _ => do
      let ownerRun ← budgetRun ownerRunId
      refuseIf (ownerRun.projectId ≠ run.projectId) budgetInvalid
      return l.owners

/-- `initialize_run`. -/
def initializeRun (runId : String) (limits : RunBudgetLimits) (parentRunId : Option String) :
    BudgetTxn RunBudgetSnapshot := do
  refuseIf (reads.clean = false) budgetInvalid
  let run ← budgetRun runId
  refuseIf (run.parentRunId ≠ parentRunId) budgetInvalid
  let parent ← parentOwner reads parentRunId
  refuseIf (parentRunId ≠ none ∧ (parent = none ∨ parentRunId = some runId)) budgetInvalid
  let ownerRunId := (parent.map Prod.fst).getD runId
  refuseIf (∃ p ∈ parent, p.2 ≠ limits) budgetInvalid
  let existing ← ownerOf reads runId
  match existing with
  | some found => do
      refuseIf (found ≠ (ownerRunId, limits)) budgetInvalid
      snapshotOf svc reads (amb.clock 0) runId
  | none => do
      refuseIf (run.status ≠ .created ∨ run.stage ≠ none) budgetInvalid
      let owners ← registerOwner amb run ownerRunId limits parent
      let l ← getLedger
      let runs ← expect .integrity (l.runs.insert { runId, ownerRunId })
      setLedger { l with owners, runs }
      budgetEvent svc amb 2 run "runtime.budget_initialized" (JsonValue.object [
        ("owner_run_id", .str ownerRunId),
        ("parent_run_id", .ofOption parentRunId),
        ("limits", limits.modelDump)])
      snapshotOf svc reads (amb.clock 3) runId

/-- The attempt that `begin_attempt` asks for. -/
def candidateAttempt (request : AgentInvocation) (attemptId ownerRunId runtimeName : String)
    (startedAt : Timestamp) : RuntimeAttempt where
  attemptId := attemptId
  ownerRunId := ownerRunId
  runId := request.runId
  agentInstanceId := request.agentInstanceId
  taskId := request.taskId
  role := request.role
  stage := request.stage
  iteration := request.iteration
  maxSteps := request.maxSteps
  runtimeName := runtimeName
  startedAt := startedAt

/-- An earlier attempt of the agent stands in the way: it runs, or it is of another binding. -/
def RuntimeAttempt.conflicts (item candidate : RuntimeAttempt) : Prop :=
  item.status = .running
    ∨ item.maxSteps ≠ candidate.maxSteps
    ∨ item.runId ≠ candidate.runId
    ∨ item.taskId ≠ candidate.taskId
    ∨ item.stage ≠ candidate.stage
    ∨ item.iteration ≠ candidate.iteration
deriving Decidable

/-- The task of an invocation, which only the chief of staff works without. -/
def checkTask (request : AgentInvocation) (run : Run) (agent : AgentInstance) :
    BudgetTxn Unit :=
  if request.role ≠ "cos" then do
    let task ← budgetTask request.taskId
    refuseIf (run.taskId ≠ some request.taskId
      ∨ task.runId ≠ run.runId
      ∨ agent.taskId ≠ some request.taskId) budgetInvalid
  else pure ()

/-- The part of `begin_attempt` that opens a new attempt. -/
def openAttempt (run : Run) (limits : RunBudgetLimits) (candidate : RuntimeAttempt) :
    BudgetTxn String := do
  let l ← getLedger
  let attempts ← attemptsOfOwner reads candidate.ownerRunId
  refuseIf (∃ item ∈ attempts, item.agentInstanceId = candidate.agentInstanceId
    ∧ item.conflicts candidate) budgetInvalid
  let snapshot ← snapshotOf svc reads (amb.clock 2) run.runId
  let _ ← operational snapshot
  refuseIf (snapshot.agentInvocations ≥ limits.maxAgentInvocations) budgetExhausted
  refuseIf (l.stepsOf candidate.agentInstanceId ≥ candidate.maxSteps) budgetExhausted
  insertAttempt candidate
  budgetEvent svc amb 3 run "runtime.attempt_started" (JsonValue.object [
    ("attempt_id", .str candidate.attemptId),
    ("agent_instance_id", .str candidate.agentInstanceId),
    ("max_steps", .int candidate.maxSteps)])
  return candidate.attemptId

/-- `begin_attempt`: the identifier of the attempt. -/
def beginAttempt (request : AgentInvocation) (attemptId : Option String) :
    BudgetTxn String := do
  let selectedId := (attemptId.filter fun text => text ≠ "").getD (amb.ids 0)
  refuseIf (reads.clean = false) budgetInvalid
  let run ← budgetRun request.runId
  let owner ← ownerOf reads run.runId
  let (ownerRunId, limits) ← expect budgetInvalid owner
  campaignAdmission reads run.runId
  let agent ← budgetAgent request.agentInstanceId
  refuseIf (run.status ≠ .running
    ∨ run.stage ≠ some request.stage
    ∨ agent.agentInstanceId ≠ request.agentInstanceId
    ∨ agent.runId ≠ request.runId
    ∨ agent.role ≠ request.role
    ∨ agent.iteration ≠ request.iteration
    ∨ agent.status ≠ .running
    ∨ agent.completedAt ≠ none) budgetInvalid
  checkTask request run agent
  let runtimeName ← expect budgetInvalid (reads.runtimeName run request.role)
  let candidate := candidateAttempt request selectedId ownerRunId runtimeName (amb.clock 1)
  refuseIf (¬ candidate.validates) budgetInvalid
  let l ← getLedger
  match l.attempt? selectedId with
  | some _ => do
      let existing ← activeAttempt reads selectedId
      refuseIf ({ existing with startedAt := candidate.startedAt } ≠ candidate) budgetInvalid
      return selectedId
  | none => openAttempt svc reads amb run limits candidate

/-- `reserve_request`. -/
def reserveRequest (attemptId : String) (requestSequence requestedTokens : ℤ) :
    BudgetTxn ModelRequestReservation := do
  refuseIf (reads.clean = false) budgetInvalid
  refuseIf (¬ (1 ≤ requestSequence ∧ requestSequence ≤ 100000)) budgetInvalid
  refuseIf (¬ (1 ≤ requestedTokens ∧ requestedTokens ≤ 100000000)) budgetInvalid
  let attempt ← activeAttempt reads attemptId
  campaignAdmission reads attempt.runId
  let l ← getLedger
  -- a stored reservation is an accounting identity, never replay authority
  refuseIf (l.request? attemptId requestSequence.toNat ≠ none) budgetInvalid
  let snapshot ← snapshotOf svc reads (amb.clock 0) attempt.runId
  let limits ← operational snapshot
  let allowance : ℤ := min requestedTokens (limits.maxTotalTokens
    - snapshot.reportedTotalTokens - snapshot.reservedTokens - snapshot.unknownTokens)
  refuseIf (allowance ≤ 0
    ∨ snapshot.modelRequests ≥ limits.maxModelRequests
    ∨ l.stepsOf attempt.agentInstanceId ≥ attempt.maxSteps) budgetExhausted
  let reservation : ModelRequestReservation :=
    { attemptId := attemptId
      requestSequence := requestSequence.toNat
      tokenAllowance := allowance.toNat
      requestedTokens := requestedTokens.toNat
      reservedAt := amb.clock 1 }
  insertRequest { reservation }
  let run ← budgetRun attempt.runId
  budgetEvent svc amb 2 run "runtime.request_reserved" (reservation.modelDump svc)
  return reservation

/-- `_request`. -/
def requestOf (attemptId : String) (reservation : ModelRequestReservation) :
    BudgetTxn ModelRequestAccounting := do
  refuseIf (reservation.attemptId ≠ attemptId) budgetInvalid
  let l ← getLedger
  let item ← expect budgetInvalid (l.request? attemptId reservation.requestSequence)
  refuseIf (item.reservation ≠ reservation) budgetInvalid
  return item

/-- The transaction of `record_response`; `true` for a response that was recorded before. -/
def recordResponse (attemptId : String) (reservation : ModelRequestReservation)
    (usage : UsageRecord) : BudgetTxn (RunBudgetSnapshot × Bool) := do
  refuseIf (reads.clean = false ∨ ¬ usage.validates ∨ usage.requests ≠ some 1) budgetInvalid
  let attempt ← attemptById reads attemptId
  let item ← requestOf attemptId reservation
  if item.outcome ≠ .reserved then do
    refuseIf (¬ ∃ recorded ∈ item.usage, recorded.pyEq usage = true) budgetInvalid
    let snapshot ← snapshotOf svc reads (amb.clock 0) attempt.runId
    return (snapshot, true)
  else do
    refuseIf (attempt.status ≠ .running) budgetInvalid
    let updated : ModelRequestAccounting :=
      { reservation := reservation
        outcome := if usage.totalTokens ≠ none then .reported else .unknown
        usage := some usage }
    let l ← getLedger
    setLedger (l.withRequest updated)
    let run ← budgetRun attempt.runId
    budgetEvent svc amb 1 run "runtime.response_recorded" (updated.modelDump svc)
    let snapshot ← snapshotOf svc reads (amb.clock 2) attempt.runId
    return (snapshot, false)

/-- What `record_response` answers after its transaction committed: a response without a total,
or beyond the limit, must not be continued. -/
def continuation (usage : UsageRecord) (answer : RunBudgetSnapshot × Bool) :
    Except StoreError RunBudgetSnapshot :=
  if answer.2 = true then .ok answer.1
  else if usage.totalTokens = none then .error budgetInvalid
  else if ∃ limits ∈ answer.1.limits, answer.1.reportedTotalTokens > limits.maxTotalTokens then
    .error budgetExhausted
  else .ok answer.1

/-- `record_unknown`. -/
def recordUnknown (attemptId : String) (reservation : ModelRequestReservation) :
    BudgetTxn Unit := do
  refuseIf (reads.clean = false) budgetInvalid
  let attempt ← attemptById reads attemptId
  let item ← requestOf attemptId reservation
  if item.outcome ≠ .reserved then return ()
  else do
    let l ← getLedger
    setLedger (l.withRequest { reservation, outcome := .unknown })
    let run ← budgetRun attempt.runId
    budgetEvent svc amb 0 run "runtime.request_unknown" (reservation.modelDump svc)

/-- `reserve_tool_batch`. -/
def reserveToolBatch (attemptId : String) (batchSequence : ℤ) (callIds : List String) :
    BudgetTxn Unit := do
  refuseIf (reads.clean = false) budgetInvalid
  refuseIf (¬ (1 ≤ batchSequence ∧ batchSequence ≤ 100000)
    ∨ callIds = []
    ∨ 256 < callIds.length
    ∨ ¬ callIds.Nodup
    ∨ ∃ text ∈ callIds, ¬ (1 ≤ text.length ∧ text.length ≤ 128)) budgetInvalid
  let digest := svc.canonicalJsonHash (.arr (callIds.map .str))
  let attempt ← activeAttempt reads attemptId
  campaignAdmission reads attempt.runId
  let l ← getLedger
  refuseIf (l.toolBatch? attemptId batchSequence.toNat).isSome budgetInvalid
  let snapshot ← snapshotOf svc reads (amb.clock 0) attempt.runId
  let limits ← operational snapshot
  refuseIf (snapshot.toolCalls + callIds.length > limits.maxToolCalls
    ∨ snapshot.reportedTotalTokens ≥ limits.maxTotalTokens) budgetExhausted
  let batch : ToolBatch :=
    { attemptId := attemptId
      batchSequence := batchSequence.toNat
      callsSha256 := digest
      toolCalls := callIds.length }
  let toolBatches ← expect .integrity (l.toolBatches.insert batch)
  setLedger { l with toolBatches }
  let run ← budgetRun attempt.runId
  budgetEvent svc amb 1 run "runtime.tool_batch_reserved" (JsonValue.object [
    ("attempt_id", .str attemptId),
    ("batch_sequence", .int batchSequence),
    ("calls_sha256", .str digest.hex),
    ("tool_calls", .int callIds.length)])

/-- `record_simulated_step`. -/
def recordSimulatedStep (attemptId : String) : BudgetTxn Unit := do
  refuseIf (reads.clean = false) budgetInvalid
  let attempt ← activeAttempt reads attemptId
  refuseIf (attempt.runtimeName ≠ "fake") budgetInvalid
  let l ← getLedger
  refuseIf (l.simulatedStep? attemptId).isSome budgetInvalid
  let snapshot ← snapshotOf svc reads (amb.clock 0) attempt.runId
  let _ ← operational snapshot
  refuseIf (l.stepsOf attempt.agentInstanceId ≥ attempt.maxSteps) budgetExhausted
  let simulatedSteps ← expect .integrity (l.simulatedSteps.insert { attemptId })
  setLedger { l with simulatedSteps }
  let run ← budgetRun attempt.runId
  budgetEvent svc amb 1 run "runtime.simulated_step_recorded"
    (JsonValue.object [("attempt_id", .str attemptId)])

/-- `finish`. -/
def finishAttempt (attemptId : String) (status : RuntimeAttemptStatus)
    (errorCode : Option ErrorCode) : BudgetTxn RunBudgetSnapshot := do
  refuseIf (reads.clean = false ∨ status = .running) budgetInvalid
  let attempt ← attemptById reads attemptId
  if attempt.status ≠ .running then do
    refuseIf (attempt.status ≠ status ∨ attempt.errorCode ≠ errorCode) budgetInvalid
    snapshotOf svc reads (amb.clock 0) attempt.runId
  else do
    let l ← getLedger
    let updated := attempt.finished status (amb.clock 1) errorCode
    refuseIf (¬ updated.validates) budgetInvalid
    setLedger ((l.abandoning attemptId).withFinished attemptId status (amb.clock 1) errorCode)
    let run ← budgetRun attempt.runId
    budgetEvent svc amb 2 run "runtime.attempt_finished" (updated.modelDump svc)
    snapshotOf svc reads (amb.clock 3) attempt.runId

end AgentFleet
