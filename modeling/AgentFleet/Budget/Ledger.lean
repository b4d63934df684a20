import AgentFleet.Domain.Budgets
import AgentFleet.Lib.Aggregate
import AgentFleet.Persistence.Machine
import Mathlib.Algebra.Ring.Int.Defs

/-! # The runtime ledger

The tables of the runtime accounting, the snapshot that its guards read, and its transactions.
A graph's runs share the ledger of their owner: `runtime_budget_runs` maps each run to the
owner whose limits bind it.

The transactions also read runs, tasks and agents, which the workflow changes meanwhile; so the
state is the state store together with the ledger.  What else they read can only make them
refuse, and each transaction takes it as `BudgetReads`. -/

namespace AgentFleet

open Relational Transaction

/-! ### Tables -/

/-- A row of `runtime_budget_owners`. -/
structure BudgetOwner where
  ownerRunId : String
  limits : RunBudgetLimits
  createdAt : Timestamp

/-- A row of `runtime_budget_runs`. -/
structure BudgetRun where
  runId : String
  ownerRunId : String

/-- A row of `runtime_tool_batches`. -/
structure ToolBatch where
  attemptId : String
  batchSequence : ℕ
  callsSha256 : Sha256
  toolCalls : ℕ

/-- A row of `runtime_simulated_steps`. -/
structure SimulatedStep where
  attemptId : String

instance : Constrained BudgetOwner where
  clash a b := a.ownerRunId = b.ownerRunId
  symm _ _ h := h.symm
  decidableClash _ _ := inferInstanceAs (Decidable (_ = _))

instance : Constrained BudgetRun where
  clash a b := a.runId = b.runId
  symm _ _ h := h.symm
  decidableClash _ _ := inferInstanceAs (Decidable (_ = _))

instance : Constrained RuntimeAttempt where
  clash a b := a.attemptId = b.attemptId
  symm _ _ h := h.symm
  decidableClash _ _ := inferInstanceAs (Decidable (_ = _))

instance : Constrained ModelRequestAccounting where
  clash a b := a.reservation.attemptId = b.reservation.attemptId
    ∧ a.reservation.requestSequence = b.reservation.requestSequence
  symm _ _ h := ⟨h.1.symm, h.2.symm⟩
  decidableClash _ _ := inferInstanceAs (Decidable (_ ∧ _))

instance : Constrained ToolBatch where
  clash a b := a.attemptId = b.attemptId ∧ a.batchSequence = b.batchSequence
  symm _ _ h := ⟨h.1.symm, h.2.symm⟩
  decidableClash _ _ := inferInstanceAs (Decidable (_ ∧ _))

instance : Constrained SimulatedStep where
  clash a b := a.attemptId = b.attemptId
  symm _ _ h := h.symm
  decidableClash _ _ := inferInstanceAs (Decidable (_ = _))

/-- The tables of the accounting. -/
structure Ledger where
  owners : Table BudgetOwner
  runs : Table BudgetRun
  attempts : Table RuntimeAttempt
  modelRequests : Table ModelRequestAccounting
  toolBatches : Table ToolBatch
  simulatedSteps : Table SimulatedStep

/-- The accounting of a fresh database. -/
def Ledger.empty : Ledger := ⟨.empty, .empty, .empty, .empty, .empty, .empty⟩

/-- The state store and the ledger in one database. -/
structure BudgetState where
  store : Store
  ledger : Ledger

/-- A transaction body of the accounting. -/
abbrev BudgetTxn := Txn BudgetState StoreError

/-! ### Queries -/

namespace Ledger

variable (l : Ledger)

/-- The row of a run. -/
def run? (runId : String) : Option BudgetRun := l.runs.find? fun row => row.runId = runId

/-- The row of an owner. -/
def owner? (ownerRunId : String) : Option BudgetOwner :=
  l.owners.find? fun row => row.ownerRunId = ownerRunId

/-- The attempt with an identifier. -/
def attempt? (attemptId : String) : Option RuntimeAttempt :=
  l.attempts.find? fun row => row.attemptId = attemptId

/-- The request with an identity. -/
def request? (attemptId : String) (requestSequence : ℕ) : Option ModelRequestAccounting :=
  l.modelRequests.find? fun row =>
    row.reservation.attemptId = attemptId && row.reservation.requestSequence = requestSequence

/-- The tool batch with an identity. -/
def toolBatch? (attemptId : String) (batchSequence : ℕ) : Option ToolBatch :=
  l.toolBatches.find? fun row => row.attemptId = attemptId && row.batchSequence = batchSequence

/-- The simulated step of an attempt. -/
def simulatedStep? (attemptId : String) : Option SimulatedStep :=
  l.simulatedSteps.find? fun row => row.attemptId = attemptId

/-- `JOIN runtime_attempts a … WHERE a.owner_run_id = ?`. -/
def ownedBy (ownerRunId attemptId : String) : Bool :=
  (l.attempt? attemptId).any fun attempt => attempt.ownerRunId = ownerRunId

/-- `JOIN runtime_attempts a … WHERE a.agent_instance_id = ?`. -/
def madeBy (agentInstanceId attemptId : String) : Bool :=
  (l.attempt? attemptId).any fun attempt => attempt.agentInstanceId = agentInstanceId

/-- The attempts of an owner. -/
def attemptsOf (ownerRunId : String) : List RuntimeAttempt :=
  l.attempts.rows.filter fun attempt => attempt.ownerRunId = ownerRunId

/-- The model requests of an owner. -/
def requestsOf (ownerRunId : String) : List ModelRequestAccounting :=
  l.modelRequests.rows.filter fun item => l.ownedBy ownerRunId item.reservation.attemptId

/-- `SUM(b.tool_calls)` over an owner. -/
def toolCallsOf (ownerRunId : String) : ℕ :=
  l.toolBatches.sumOf (fun batch => l.ownedBy ownerRunId batch.attemptId) ToolBatch.toolCalls

/-- The simulated steps of an owner. -/
def simulatedOf (ownerRunId : String) : ℕ :=
  l.simulatedSteps.countOf fun step => l.ownedBy ownerRunId step.attemptId

/-- `_steps`: the model requests and simulated steps of an agent. -/
def stepsOf (agentInstanceId : String) : ℕ :=
  l.modelRequests.countOf (fun item => l.madeBy agentInstanceId item.reservation.attemptId)
    + l.simulatedSteps.countOf (fun step => l.madeBy agentInstanceId step.attemptId)

theorem run?_mem {l : Ledger} {runId : String} {row : BudgetRun}
    (h : l.run? runId = some row) : row ∈ l.runs ∧ row.runId = runId :=
  ⟨Table.mem_of_find? h, by simpa using Table.prop_of_find? h⟩

theorem owner?_mem {l : Ledger} {ownerRunId : String} {owner : BudgetOwner}
    (h : l.owner? ownerRunId = some owner) :
    owner ∈ l.owners ∧ owner.ownerRunId = ownerRunId :=
  ⟨Table.mem_of_find? h, by simpa using Table.prop_of_find? h⟩

theorem attempt?_mem {l : Ledger} {attemptId : String} {attempt : RuntimeAttempt}
    (h : l.attempt? attemptId = some attempt) :
    attempt ∈ l.attempts ∧ attempt.attemptId = attemptId :=
  ⟨Table.mem_of_find? h, by simpa using Table.prop_of_find? h⟩

theorem request?_mem {l : Ledger} {attemptId : String} {requestSequence : ℕ}
    {item : ModelRequestAccounting} (h : l.request? attemptId requestSequence = some item) :
    item ∈ l.modelRequests ∧ item.reservation.attemptId = attemptId
      ∧ item.reservation.requestSequence = requestSequence :=
  ⟨Table.mem_of_find? h, by simpa using Table.prop_of_find? h⟩

end Ledger

/-! ### Surroundings -/

/-- What the accounting is constructed with, beside the services of the store: the JSON text of
an instant, and decimal arithmetic. -/
structure BudgetServices extends Services where
  isoTimestamp : Timestamp → String
  decimalAdd : Decimal → Decimal → Decimal
  decimalText : Decimal → String

/-- What one transaction reads beside the two stores.  Each of these can only make it refuse. -/
structure BudgetReads where
  /-- No argument and no decoded row holds a secret, and no row is too long. -/
  clean : Bool
  /-- The journal, parent and graph checks of `_owner` on a run. -/
  ownerTrusted : String → Bool
  /-- The runtime that `_runtime_name` finds for a role of a run. -/
  runtimeName : Run → String → Option String
  /-- The error of `_campaign_admission` on a run. -/
  campaignRefusal : String → Option StoreError

/-- `_invalid`. -/
def budgetInvalid : StoreError :=
  .fleet {
    code := .recoveryRequired
    message := "Runtime accounting is missing, incomplete, or inconsistent with its trusted "
      ++ "binding."
    remediation := "Inspect the accounting journal; do not reset or silently refund an "
      ++ "uncertain attempt." }

/-- `_exhausted`. -/
def budgetExhausted : StoreError :=
  .fleet {
    code := .runtimeBudgetExceeded
    message := "The immutable runtime or logical-agent budget is exhausted."
    remediation := "Review preserved usage and artifacts; approval cannot raise or reset this "
      ++ "budget." }

variable (svc : BudgetServices) (reads : BudgetReads) (amb : Ambient)

/-! ### Reads -/

/-- The records as they stand. -/
def budgetRecords : BudgetTxn Records := do
  let s ← get
  return s.store.records

/-- The ledger as it stands. -/
def getLedger : BudgetTxn Ledger := do
  let s ← get
  return s.ledger

/-- `_run`. -/
def budgetRun (runId : String) : BudgetTxn Run := do
  let r ← budgetRecords
  let row ← expect budgetInvalid (r.runRow? runId)
  refuseIf (row.run.projectId ≠ row.projectId) budgetInvalid
  return row.run

/-- `_agent`. -/
def budgetAgent (agentInstanceId : String) : BudgetTxn AgentInstance := do
  let r ← budgetRecords
  let row ← expect budgetInvalid (r.agentRow? agentInstanceId)
  refuseIf (row.agent.runId ≠ row.runId) budgetInvalid
  return row.agent

/-- `_task`. -/
def budgetTask (taskId : String) : BudgetTxn TaskSpec := do
  let r ← budgetRecords
  expect budgetInvalid (r.task? taskId)

/-- `_owner`. -/
def ownerOf (runId : String) : BudgetTxn (Option (String × RunBudgetLimits)) := do
  let l ← getLedger
  match l.run? runId with
  | none => return none
  | some row => do
      let owner ← expect budgetInvalid (l.owner? row.ownerRunId)
      let run ← budgetRun runId
      let ownerRun ← budgetRun row.ownerRunId
      refuseIf (ownerRun.projectId ≠ run.projectId ∨ reads.ownerTrusted runId = false)
        budgetInvalid
      return some (row.ownerRunId, owner.limits)

/-- The checks of `_attempt` on a row. -/
def checkAttempt (attempt : RuntimeAttempt) : BudgetTxn Unit := do
  let owner ← ownerOf reads attempt.runId
  refuseIf (owner.map Prod.fst ≠ some attempt.ownerRunId) budgetInvalid
  let run ← budgetRun attempt.runId
  refuseIf (reads.runtimeName run attempt.role ≠ some attempt.runtimeName) budgetInvalid

/-- `_attempt`. -/
def attemptById (attemptId : String) : BudgetTxn RuntimeAttempt := do
  let l ← getLedger
  let attempt ← expect budgetInvalid (l.attempt? attemptId)
  checkAttempt reads attempt
  return attempt

/-- `_attempts`. -/
def attemptsOfOwner (ownerRunId : String) : BudgetTxn (List RuntimeAttempt) := do
  let l ← getLedger
  let attempts := l.attemptsOf ownerRunId
  refuseIf (10000 < attempts.length) budgetInvalid
  attempts.forM (checkAttempt reads)
  return attempts

/-- `_active`. -/
def activeAttempt (attemptId : String) : BudgetTxn RuntimeAttempt := do
  let attempt ← attemptById reads attemptId
  let run ← budgetRun attempt.runId
  refuseIf (attempt.status ≠ .running ∨ run.status ≠ .running
    ∨ run.stage ≠ some attempt.stage) budgetInvalid
  let agent ← budgetAgent attempt.agentInstanceId
  refuseIf (agent.status ≠ .running
    ∨ agent.runId ≠ attempt.runId
    ∨ agent.role ≠ attempt.role
    ∨ agent.iteration ≠ attempt.iteration
    ∨ agent.completedAt ≠ none
    ∨ (agent.taskId ≠ none ∧ agent.taskId ≠ some attempt.taskId)) budgetInvalid
  if attempt.role ≠ "cos" then do
    let task ← budgetTask attempt.taskId
    refuseIf (run.taskId ≠ some task.taskId ∨ task.runId ≠ run.runId) budgetInvalid
    return attempt
  else return attempt

/-- `_campaign_admission`. -/
def campaignAdmission (runId : String) : BudgetTxn Unit :=
  match reads.campaignRefusal runId with
  | some e => throw e
  | none => pure ()

/-! ### The snapshot -/

/-- `costs[currency] = costs.get(currency, 0) + cost`. -/
def addCost (costs : List (String × Decimal)) (currency : String) (cost : Decimal) :
    List (String × Decimal) :=
  match costs.lookup currency with
  | some sum => costs.map fun entry =>
      if entry.1 = currency then (currency, svc.decimalAdd sum cost) else entry
  | none => costs ++ [(currency, svc.decimalAdd ⟨0, 0⟩ cost)]

/-- The costs of the reported usages by currency. -/
def reportedCosts (usages : List UsageRecord) : List (String × Decimal) :=
  usages.foldl (fun costs usage => match usage.providerCurrency, usage.providerCost with
    | some currency, some cost => addCost svc costs currency cost
    | _, _ => costs) []

/-- The active time of attempts, in microseconds.  The source sums `total_seconds()` as floats, which
can differ from the exact sum by the rounding of the additions. -/
def activeMicroseconds (now : Timestamp) (attempts : List RuntimeAttempt) : ℤ :=
  (attempts.map fun attempt => max ((attempt.finishedAt.getD now) - attempt.startedAt) 0).sum

/-- The snapshot that `_snapshot` builds of an owner's rows. -/
def buildSnapshot (now : Timestamp) (l : Ledger) (runId ownerRunId : String)
    (limits : RunBudgetLimits) : RunBudgetSnapshot :=
  let attempts := l.attemptsOf ownerRunId
  let requests := l.requestsOf ownerRunId
  let usages := requests.filterMap ModelRequestAccounting.usage
  let unknown := requests.filter fun item => item.outcome = .unknown
  let reserved := requests.filter fun item => item.outcome = .reserved
  let total := (requests.map ModelRequestAccounting.reportedTokens).sum
  let active := activeMicroseconds now attempts
  { runId := runId
    ownerRunId := some ownerRunId
    limits := some limits
    completeness := if unknown = [] then "complete" else "unknown_requests"
    agentInvocations := attempts.length
    modelRequests := requests.length
    simulatedSteps := l.simulatedOf ownerRunId
    toolCalls := l.toolCallsOf ownerRunId
    reportedInputTokens := (usages.map fun usage => usage.inputTokens.getD 0).sum
    reportedOutputTokens := (usages.map fun usage => usage.outputTokens.getD 0).sum
    reportedTotalTokens := total
    reservedTokens := (requests.map ModelRequestAccounting.reservedTokens).sum
    unknownTokens := (requests.map ModelRequestAccounting.unknownTokens).sum
    outstandingRequests := reserved.length
    unknownRequests := unknown.length
    activeMicroseconds := active
    reportedCosts := reportedCosts svc usages
    exhausted := decide (attempts.length ≥ limits.maxAgentInvocations
      ∨ requests.length ≥ limits.maxModelRequests
      ∨ l.toolCallsOf ownerRunId ≥ limits.maxToolCalls
      ∨ total ≥ limits.maxTotalTokens
      ∨ active ≥ limits.maxActiveSeconds * 1000000) }

/-- `_snapshot`; its record holds at most 16 currencies. -/
def snapshotOf (now : Timestamp) (runId : String) : BudgetTxn RunBudgetSnapshot := do
  let owner ← ownerOf reads runId
  match owner with
  | none => return { runId := runId, completeness := "legacy_unknown" }
  | some (ownerRunId, limits) => do
      let _ ← attemptsOfOwner reads ownerRunId
      let l ← getLedger
      refuseIf (100000 < (l.requestsOf ownerRunId).length) budgetInvalid
      let snapshot := buildSnapshot svc now l runId ownerRunId limits
      refuseIf (16 < snapshot.reportedCosts.length) budgetInvalid
      return snapshot

/-- `_operational`: the limits of a snapshot that accounting may build on. -/
def operational (snapshot : RunBudgetSnapshot) : BudgetTxn RunBudgetLimits := do
  let limits ← expect budgetInvalid snapshot.limits
  refuseIf (snapshot.completeness ≠ "complete") budgetInvalid
  refuseIf (snapshot.activeMicroseconds ≥ limits.maxActiveSeconds * 1000000) budgetExhausted
  return limits

end AgentFleet
