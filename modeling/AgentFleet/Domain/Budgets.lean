import AgentFleet.Domain.Models
import Mathlib.Algebra.Group.Nat.Defs

/-! # Runtime budgets

The provider-neutral limits of a run and the durable accounting records of its attempts.

* `RunBudgetLimits` carries the bounds of its fields.
* `ModelRequestAccounting.charge` is what one request holds of the token limit. -/

namespace AgentFleet

/-- `RunBudgetLimits`. -/
structure RunBudgetLimits where
  maxAgentInvocations : ℕ := 64
  maxModelRequests : ℕ := 128
  maxToolCalls : ℕ := 512
  maxTotalTokens : ℕ := 262144
  maxActiveSeconds : ℕ := 3600
  agentInvocationsInRange : 1 ≤ maxAgentInvocations ∧ maxAgentInvocations ≤ 10000 := by decide
  modelRequestsInRange : 1 ≤ maxModelRequests ∧ maxModelRequests ≤ 100000 := by decide
  toolCallsInRange : maxToolCalls ≤ 100000 := by decide
  totalTokensInRange : 1 ≤ maxTotalTokens ∧ maxTotalTokens ≤ 100000000 := by decide
  activeSecondsInRange : 1 ≤ maxActiveSeconds ∧ maxActiveSeconds ≤ 86400 := by decide
deriving DecidableEq

/-- `limits.model_dump(mode="json")`. -/
def RunBudgetLimits.modelDump (limits : RunBudgetLimits) : JsonValue :=
  .obj (JsonValue.object [
    ("max_agent_invocations", .int limits.maxAgentInvocations),
    ("max_model_requests", .int limits.maxModelRequests),
    ("max_tool_calls", .int limits.maxToolCalls),
    ("max_total_tokens", .int limits.maxTotalTokens),
    ("max_active_seconds", .int limits.maxActiveSeconds)])

/-! ### Attempts -/

/-- `RuntimeAttemptStatus`. -/
inductive RuntimeAttemptStatus where
  | running
  | completed
  | paused
  | failed
  | cancelled
deriving DecidableEq, Repr

/-- The text of a `RuntimeAttemptStatus`. -/
def RuntimeAttemptStatus.value : RuntimeAttemptStatus → String
  | .running => "running"
  | .completed => "completed"
  | .paused => "paused"
  | .failed => "failed"
  | .cancelled => "cancelled"

/-- `AgentInvocation`, as far as the accounting reads it. -/
structure AgentInvocation where
  runId : String
  taskId : String
  agentInstanceId : String
  role : String
  stage : WorkflowStage
  iteration : ℕ
  maxSteps : ℕ

/-- `RuntimeAttempt`: a row of `runtime_attempts`. -/
structure RuntimeAttempt where
  attemptId : String
  ownerRunId : String
  runId : String
  agentInstanceId : String
  taskId : String
  role : String
  stage : WorkflowStage
  iteration : ℕ
  maxSteps : ℕ
  runtimeName : String
  status : RuntimeAttemptStatus := .running
  startedAt : Timestamp
  finishedAt : Option Timestamp := none
  errorCode : Option ErrorCode := none
deriving DecidableEq

/-- The pattern of a `RuntimeAttemptId`. -/
def isRuntimeAttemptId (text : String) : Bool :=
  "corr_".toList.isPrefixOf text.toList && text.toList.length = 37
    && (text.toList.drop 5).all isHexDigit

/-- What constructing a `RuntimeAttempt` checks: its field bounds and `validate_lifecycle`. -/
def RuntimeAttempt.validates (attempt : RuntimeAttempt) : Prop :=
  isRuntimeAttemptId attempt.attemptId = true
    ∧ attempt.iteration ≤ 100
    ∧ 1 ≤ attempt.maxSteps ∧ attempt.maxSteps ≤ 100
    ∧ (attempt.status = .running ↔ attempt.finishedAt = none)
    ∧ ∀ finished ∈ attempt.finishedAt, attempt.startedAt ≤ finished

instance RuntimeAttempt.decidableValidates (attempt : RuntimeAttempt) :
    Decidable attempt.validates := by
  unfold RuntimeAttempt.validates
  infer_instance

/-! ### Requests -/

/-- A `Decimal`: its value is `coefficient * 10 ^ exponent`. -/
structure Decimal where
  coefficient : ℕ
  exponent : ℤ
deriving DecidableEq

/-- `==` on decimals compares their values. -/
def Decimal.pyEq (a b : Decimal) : Bool :=
  let low := min a.exponent b.exponent
  a.coefficient * 10 ^ (a.exponent - low).toNat = b.coefficient * 10 ^ (b.exponent - low).toNat

/-- The value is at most `bound`. -/
def Decimal.atMost (a : Decimal) (bound : ℕ) : Bool :=
  let low := min a.exponent 0
  a.coefficient * 10 ^ (a.exponent - low).toNat ≤ bound * 10 ^ (-low).toNat

/-- `UsageRecord`: what a provider reported. -/
structure UsageRecord where
  requests : Option ℕ := none
  inputTokens : Option ℕ := none
  outputTokens : Option ℕ := none
  totalTokens : Option ℕ := none
  toolCalls : Option ℕ := none
  providerCost : Option Decimal := none
  providerCurrency : Option String := none
deriving DecidableEq

/-- The pattern of a currency. -/
def isCurrency (text : String) : Bool :=
  text.toList.length = 3 && text.toList.all fun c => 'A' ≤ c && c ≤ 'Z'

/-- What constructing a `UsageRecord` checks: its field bounds and
`validate_reported_usage`. -/
def UsageRecord.validates (usage : UsageRecord) : Prop :=
  (∀ n ∈ usage.requests, n ≤ 1000000)
    ∧ (∀ n ∈ usage.inputTokens, n ≤ 2000000000)
    ∧ (∀ n ∈ usage.outputTokens, n ≤ 2000000000)
    ∧ (∀ n ∈ usage.totalTokens, n ≤ 4000000000)
    ∧ (∀ n ∈ usage.toolCalls, n ≤ 1000000)
    ∧ (∀ cost ∈ usage.providerCost, cost.atMost 1000000 = true)
    ∧ (∀ currency ∈ usage.providerCurrency, isCurrency currency = true)
    ∧ usage ≠ {}
    ∧ (usage.providerCost = none ↔ usage.providerCurrency = none)
    ∧ ∀ total ∈ usage.totalTokens, ∀ input ∈ usage.inputTokens, ∀ output ∈ usage.outputTokens,
        input + output ≤ total

instance UsageRecord.decidableValidates (usage : UsageRecord) :
    Decidable usage.validates := by
  unfold UsageRecord.validates
  infer_instance

/-- `==` on usage records. -/
def UsageRecord.pyEq (a b : UsageRecord) : Bool :=
  a.requests = b.requests && a.inputTokens = b.inputTokens && a.outputTokens = b.outputTokens
    && a.totalTokens = b.totalTokens && a.toolCalls = b.toolCalls
    && (match a.providerCost, b.providerCost with
      | none, none => true
      | some x, some y => x.pyEq y
      | _, _ => false)
    && a.providerCurrency = b.providerCurrency

/-- `ModelRequestReservation`. -/
structure ModelRequestReservation where
  attemptId : String
  requestSequence : ℕ
  tokenAllowance : ℕ
  requestedTokens : ℕ
  reservedAt : Timestamp
deriving DecidableEq

/-- The outcome of a model request. -/
inductive RequestOutcome where
  | reserved
  | reported
  | unknown
deriving DecidableEq, Repr

/-- The text of a `RequestOutcome`. -/
def RequestOutcome.value : RequestOutcome → String
  | .reserved => "reserved"
  | .reported => "reported"
  | .unknown => "unknown"

/-- `ModelRequestAccounting`: a row of `runtime_model_requests`. -/
structure ModelRequestAccounting where
  reservation : ModelRequestReservation
  outcome : RequestOutcome := .reserved
  usage : Option UsageRecord := none
deriving DecidableEq

namespace ModelRequestAccounting

variable (item : ModelRequestAccounting)

/-- `usage.total_tokens or 0`. -/
def reportedTokens : ℕ := (item.usage.bind UsageRecord.totalTokens).getD 0

/-- The allowance of a request that waits for its response. -/
def reservedTokens : ℕ := if item.outcome = .reserved then item.reservation.tokenAllowance else 0

/-- The allowance of a request whose usage is not known. -/
def unknownTokens : ℕ := if item.outcome = .unknown then item.reservation.tokenAllowance else 0

/-- What the request holds of the token limit. -/
def charge : ℕ := item.reportedTokens + item.reservedTokens + item.unknownTokens

/-- The recorded total is at most the reservation's allowance. -/
def WithinAllowance : Prop :=
  ∀ usage ∈ item.usage, ∀ total ∈ usage.totalTokens, total ≤ item.reservation.tokenAllowance

variable {item}

/-- A new reservation holds its allowance. -/
theorem charge_reserved (reservation : ModelRequestReservation) :
    ({ reservation } : ModelRequestAccounting).charge = reservation.tokenAllowance := by
  simp [charge, reportedTokens, reservedTokens, unknownTokens]

theorem allowance_le_charge (h : item.outcome = .reserved) :
    item.reservation.tokenAllowance ≤ item.charge := by
  simp only [charge, reservedTokens, if_pos h]
  omega

theorem reportedTokens_le (h : item.WithinAllowance) :
    item.reportedTokens ≤ item.reservation.tokenAllowance := by
  unfold reportedTokens
  cases htotal : item.usage.bind UsageRecord.totalTokens with
  | none => exact Nat.zero_le _
  | some total =>
      obtain ⟨usage, husage, hsome⟩ := Option.bind_eq_some_iff.mp htotal
      exact h usage husage total hsome

/-- A settled request that stayed within its allowance holds no more than that. -/
theorem charge_settled (h : item.outcome
      = if item.usage.bind UsageRecord.totalTokens ≠ none then .reported else .unknown)
    (hwithin : item.WithinAllowance) : item.charge ≤ item.reservation.tokenAllowance := by
  by_cases htotal : item.usage.bind UsageRecord.totalTokens ≠ none
  · rw [if_pos htotal] at h
    have hreported := reportedTokens_le hwithin
    simpa [charge, reservedTokens, unknownTokens, h] using hreported
  · rw [if_neg htotal] at h
    simp [charge, reportedTokens, reservedTokens, unknownTokens, h, not_not.mp htotal]

end ModelRequestAccounting

/-- `RunBudgetSnapshot`. -/
structure RunBudgetSnapshot where
  runId : String
  ownerRunId : Option String := none
  limits : Option RunBudgetLimits := none
  completeness : String
  agentInvocations : ℕ := 0
  modelRequests : ℕ := 0
  simulatedSteps : ℕ := 0
  toolCalls : ℕ := 0
  reportedInputTokens : ℕ := 0
  reportedOutputTokens : ℕ := 0
  reportedTotalTokens : ℕ := 0
  reservedTokens : ℕ := 0
  unknownTokens : ℕ := 0
  outstandingRequests : ℕ := 0
  unknownRequests : ℕ := 0
  /-- `active_seconds`, in exact microseconds where the source has a float of seconds -/
  activeMicroseconds : ℤ := 0
  reportedCosts : List (String × Decimal) := []
  exhausted : Bool := false

end AgentFleet
