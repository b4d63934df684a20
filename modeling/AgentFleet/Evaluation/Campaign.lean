import AgentFleet.Evaluation.Metrics

/-! # The records of a campaign

A campaign is registered with its manifest; a reservation commits the whole envelope of one attempt
to it.  A snapshot is what the ledger holds of a campaign, and it validates when every reservation
is of a slot of the manifest, the envelopes stay within the budget of the campaign and the outcomes
can be evaluated.

No record authorizes an execution: the field that says so is always false and is left out. -/

namespace AgentFleet.Evaluation

/-! ### Outcomes that the ledger takes -/

/-- `IdempotencyKey`. -/
def isIdempotencyKey (value : String) : Bool :=
  value.toList.length ≤ 128
    && textMatches isAlphanumeric
      (fun c => isAlphanumeric c || c = '_' || c = '.' || c = ':' || c = '-') value

/-- `_PREFLIGHT_RESULTS`. -/
def preflightResults : List OutcomeKind :=
  [.environmentFailure, .providerFailure, .budgetExhausted, .timeout, .cancelled, .inconclusive,
    .notRun]

/-- `validate_preflight` accepts the record. -/
def OutcomeRecord.isPreflight (record : OutcomeRecord) : Prop :=
  record.externalResult ∈ preflightResults ∧ record.rootRunId = none ∧ record.taskId = none
    ∧ record.productStatus = none ∧ record.productVerdict = none
    ∧ record.productVerifiedComplete = none
    ∧ (record.applyStatus ≠ .applied ∧ record.applyStatus ≠ .failed)
    ∧ record.userAcceptance = .notObserved
    ∧ (∀ ref ∈ record.artifacts, ref.category = .diagnostic)
    ∧ record.reportedCostMicrounits.getD 0 = 0
    ∧ ∀ segment ∈ record.usage, ¬ segment.executed
deriving Decidable

/-- `validate_terminal_outcome` accepts the record. -/
def OutcomeRecord.isTerminal (record : OutcomeRecord) : Prop :=
  record.rootRunId ≠ none ∧ record.externalResult ∈ .dispatchUnknown :: preflightResults
    ∧ record.externalResult ≠ .notRun
    ∧ (record.productStatus = some .failed ∨ record.productStatus = some .cancelled)
    ∧ record.userAcceptance = .notObserved
    ∧ (record.applyStatus = .unknown ∨ record.applyStatus = .notApplied
      ∨ record.applyStatus = .notApplicable)
deriving Decidable

/-! ### Registrations and reservations -/

/-- `CampaignRegistration`. -/
structure CampaignRegistration where
  manifest : EvaluationManifest
  registeredAt : Timestamp
deriving DecidableEq

/-- `EvaluationReservation`. -/
structure EvaluationReservation where
  campaignId : String
  manifestSha256 : Sha256
  caseId : String
  repetition : ℕ
  attemptId : String
  idempotencySha256 : Sha256
  reservedAt : Timestamp
  commitment : EvaluationRunBudget
deriving DecidableEq

/-- The slot that is reserved. -/
def EvaluationReservation.slot (item : EvaluationReservation) : EvaluationSlot :=
  ⟨item.caseId, item.repetition⟩

/-- `EvaluationReservation` validates. -/
def EvaluationReservation.validates (item : EvaluationReservation) : Prop :=
  hasIdentity "campaign" 32 item.campaignId = true ∧ item.slot.validates
    ∧ hasIdentity "attempt" 32 item.attemptId = true ∧ item.commitment.validates
deriving Decidable

/-- `EvaluationCommitments`. -/
structure EvaluationCommitments where
  attempts : ℕ
  agentInvocations : ℕ
  modelRequests : ℕ
  toolCalls : ℕ
  totalTokens : ℕ
  activeSeconds : ℕ
deriving DecidableEq

/-- `EvaluationCommitments` validates. -/
def EvaluationCommitments.validates (committed : EvaluationCommitments) : Prop :=
  committed.attempts ≤ 256 ∧ committed.agentInvocations ≤ 10000
    ∧ committed.modelRequests ≤ 100000 ∧ committed.toolCalls ≤ 100000
    ∧ committed.totalTokens ≤ 100000000 ∧ committed.activeSeconds ≤ 86400
deriving Decidable

/-- No commitment exceeds the budget of the campaign. -/
def EvaluationCommitments.within (committed : EvaluationCommitments)
    (budget : EvaluationCampaignBudget) : Prop :=
  committed.attempts ≤ budget.maxAttempts
    ∧ committed.agentInvocations ≤ budget.maxAgentInvocations
    ∧ committed.modelRequests ≤ budget.maxModelRequests
    ∧ committed.toolCalls ≤ budget.maxToolCalls
    ∧ committed.totalTokens ≤ budget.maxTotalTokens
    ∧ committed.activeSeconds ≤ budget.maxActiveSeconds
deriving Decidable

/-- The envelopes of some reservations. -/
def sumCommitted (field : EvaluationRunBudget → ℕ) (reservations : List EvaluationReservation) : ℕ :=
  (reservations.map fun item => field item.commitment).sum

/-- The commitments that `committed_envelopes` counts. -/
def envelopesOf (reservations : List EvaluationReservation) : EvaluationCommitments where
  attempts := reservations.length
  agentInvocations := sumCommitted EvaluationRunBudget.maxAgentInvocations reservations
  modelRequests := sumCommitted EvaluationRunBudget.maxModelRequests reservations
  toolCalls := sumCommitted EvaluationRunBudget.maxToolCalls reservations
  totalTokens := sumCommitted EvaluationRunBudget.maxTotalTokens reservations
  activeSeconds := sumCommitted EvaluationRunBudget.maxActiveSeconds reservations

/-- The commitments with one more envelope. -/
def EvaluationCommitments.extended (committed : EvaluationCommitments)
    (envelope : EvaluationRunBudget) : EvaluationCommitments where
  attempts := committed.attempts + 1
  agentInvocations := committed.agentInvocations + envelope.maxAgentInvocations
  modelRequests := committed.modelRequests + envelope.maxModelRequests
  toolCalls := committed.toolCalls + envelope.maxToolCalls
  totalTokens := committed.totalTokens + envelope.maxTotalTokens
  activeSeconds := committed.activeSeconds + envelope.maxActiveSeconds

/-! ### Snapshots -/

/-- `EvaluationLedgerSnapshot`. -/
structure EvaluationLedgerSnapshot where
  registration : CampaignRegistration
  reservations : List EvaluationReservation := []
  outcomes : List OutcomeRecord := []
  committed : EvaluationCommitments
deriving DecidableEq

variable (models : EvaluationModels)

/-- `CampaignRegistration` validates. -/
def CampaignRegistration.validates (registration : CampaignRegistration) : Prop :=
  registration.manifest.validates models
    ∧ registration.manifest.frozenAt ≤ registration.registeredAt
deriving Decidable

namespace EvaluationLedgerSnapshot

variable (snapshot : EvaluationLedgerSnapshot)

/-- The manifest of the campaign. -/
def manifest : EvaluationManifest := snapshot.registration.manifest

/-- A reservation is of a registered slot, with the envelope of its case. -/
def registers (item : EvaluationReservation) : Prop :=
  item.campaignId = snapshot.manifest.campaignId
    ∧ item.manifestSha256 = snapshot.manifest.sha256 models
    ∧ item.slot ∈ snapshot.manifest.slots
    ∧ (∃ declared ∈ snapshot.manifest.case? item.caseId, item.commitment = declared.runBudget)
    ∧ snapshot.registration.registeredAt ≤ item.reservedAt
deriving Decidable

/-- `attempts.get(attempt_id)`. -/
def attempt? (attemptId : String) : Option EvaluationReservation :=
  Keyed.get? EvaluationReservation.attemptId snapshot.reservations attemptId

/-- An outcome is of an earlier reservation. -/
def attributes (record : OutcomeRecord) : Prop :=
  (if record.rootRunId = none then record.isPreflight else record.isTerminal)
    ∧ ∃ item ∈ snapshot.attempt? record.attemptId,
      record.slot = item.slot ∧ item.reservedAt ≤ record.recordedAt
deriving Decidable

/-- What `coherent` asks of a snapshot. -/
def coherent : Prop :=
  (∀ item ∈ snapshot.reservations, snapshot.registers models item)
    ∧ (snapshot.reservations.map EvaluationReservation.slot).Nodup
    ∧ (snapshot.reservations.map EvaluationReservation.attemptId).Nodup
    ∧ (snapshot.reservations.map EvaluationReservation.idempotencySha256).Nodup
    ∧ snapshot.committed = envelopesOf snapshot.reservations
    ∧ snapshot.committed.within snapshot.manifest.budget
    ∧ (∀ record ∈ snapshot.outcomes, snapshot.attributes record)
    ∧ (evaluateRecords models snapshot.manifest snapshot.outcomes).isOk = true

/-- `EvaluationLedgerSnapshot` validates; what it is built of has validated itself. -/
def validates : Prop :=
  snapshot.reservations.length ≤ 256 ∧ snapshot.outcomes.length ≤ 256
    ∧ snapshot.committed.validates ∧ snapshot.coherent models

instance : Decidable (snapshot.validates models) := by
  unfold validates coherent
  infer_instance

end EvaluationLedgerSnapshot

end AgentFleet.Evaluation
