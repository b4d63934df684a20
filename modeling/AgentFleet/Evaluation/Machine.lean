import AgentFleet.Evaluation.Execution

/-! # The evaluations as a machine

One input of `evaluationMachine` is one call of the two evaluation stores, or one transaction of the
stores that they share their database with, with arbitrary arguments and surroundings.  A run is any
interleaving of controllers, retries and late callers with the runs that they have started; a
controller that crashes is one whose next call never comes.

The runtime accounting asks the campaign of a run before it spends anything (`admittedReads`). -/

namespace AgentFleet.Evaluation

open Relational Transaction Transition

/-- A call of the evaluation stores with its arguments. -/
inductive EvaluationOp where
  | register (manifest : EvaluationManifest)
  | reserve (campaignId caseId : String) (repetition : ℤ) (idempotencyKey : String)
  | recordPreflightOutcome (record : OutcomeRecord)
  | recordTerminal (observation : EvaluationObservation) (record : OutcomeRecord)
  | snapshot (campaignId : String)
  | submission (campaignId : String) (manifestSha256 : Sha256) (caseId : String) (repetition : ℕ)
      (idempotencyKey : String)
  | forRun (runId : String)
  | forAttempt (submission : EvaluationSubmission)
  | registerExecution (submission : EvaluationSubmission) (run : Run)
      (admission : EvaluationAdmission) (bindings : RunModelBindings)
  | assertClaim (claim : EvaluationClaim)
  | settle (claim : EvaluationClaim)
  | fence (rootRunId : String)
  | database (op : DatabaseOp)

/-- What a call returns. -/
inductive EvaluationResult where
  | registration (value : CampaignRegistration)
  | reservation (value : EvaluationReservation)
  | ledger (value : EvaluationLedgerSnapshot)
  | outcome (value : OutcomeRecord)
  | submission (value : EvaluationSubmission)
  | found (value : Option EvaluationExecutionRecord)
  | registered (value : EvaluationRegistration)
  | execution (value : EvaluationExecutionRecord)
  | database (value : DatabaseResult)

variable (svc : EvaluationServices) (reads : EvaluationReads) (amb : Ambient)

/-- A body inside `_boundary`. -/
def withinBoundary {α : Type} (x : EvaluationTxn α) : EvaluationTxn α := fun s =>
  match x s with
  | .ok r => .ok r
  | .error e => .error (ledgerBoundary e)

@[simp] theorem withinBoundary_ok {α : Type} {x : EvaluationTxn α} {a : α} {s t : EvaluationState} :
    withinBoundary x s = .ok (a, t) ↔ x s = .ok (a, t) := by
  unfold withinBoundary
  cases x s with
  | error e | ok r => simp

/-- A transaction of the shared stores, which asks the campaigns of its runs. -/
def sharedBody (op : DatabaseOp) : EvaluationTxn DatabaseResult := do
  let s ← get
  onDatabase (databaseBody svc.toDatabaseServices
    (admittedReads svc reads s (amb.after 16).clock) amb op)

/-- The body of a call. -/
def evaluationBody : EvaluationOp → EvaluationTxn EvaluationResult
  | .register manifest => .registration <$> withinBoundary (register svc reads amb manifest)
  | .reserve campaignId caseId repetition idempotencyKey => .reservation <$>
      withinBoundary (reserve svc reads amb campaignId caseId repetition idempotencyKey)
  | .recordPreflightOutcome record =>
      .ledger <$> withinBoundary (recordPreflightOutcome svc reads record)
  | .recordTerminal observation record =>
      .outcome <$> withinBoundary (recordTerminal svc observation record)
  | .snapshot campaignId => .ledger <$> withinBoundary (ledgerSnapshot svc reads campaignId)
  | .submission campaignId manifestSha256 caseId repetition idempotencyKey => .submission <$>
      withinBoundary
        (submissionFor svc reads campaignId manifestSha256 caseId repetition idempotencyKey)
  | .forRun runId => .found <$> withinBoundary (forRun svc reads runId)
  | .forAttempt submission => .found <$> withinBoundary (forAttempt svc reads submission)
  | .registerExecution submission run admission bindings => .registered <$>
      withinBoundary (registerExecution svc reads amb submission run admission bindings)
  | .assertClaim claim => .execution <$> withinBoundary (assertClaim svc reads claim)
  | .settle claim => .execution <$> withinBoundary (settle svc reads amb claim)
  | .fence rootRunId => .execution <$> withinBoundary (fence svc reads amb rootRunId)
  | .database op => .database <$> sharedBody svc reads amb op

/-- One input: a call, and what it reads from its surroundings. -/
structure EvaluationInput where
  op : EvaluationOp
  reads : EvaluationReads
  amb : Ambient

/-- The evaluations under calls. -/
def evaluationMachine : Machine EvaluationState EvaluationInput (Except StoreError EvaluationResult)
    where
  step s input :=
    let r := commit (evaluationBody svc input.reads input.amb input.op) s
    (r.2, r.1)

/-! ### Committed and refused calls -/

variable {svc} {s : EvaluationState} {input : EvaluationInput}

/-- A call commits its body or changes nothing. -/
theorem next_cases (svc : EvaluationServices) (s : EvaluationState) (input : EvaluationInput) :
    (∃ result, evaluationBody svc input.reads input.amb input.op s
        = .ok (result, (evaluationMachine svc).next s input)
      ∧ (evaluationMachine svc).out s input = .ok result)
      ∨ ∃ e, (evaluationMachine svc).out s input = .error e
        ∧ (evaluationMachine svc).next s input = s := by
  rcases commit_cases (evaluationBody svc input.reads input.amb input.op) s with
    ⟨result, t, hok, hc⟩ | ⟨e, -, hc⟩
  · have hnext : (evaluationMachine svc).next s input = t := by
      simp only [Machine.next, evaluationMachine, hc]
    have hout : (evaluationMachine svc).out s input = .ok result := by
      simp only [Machine.out, evaluationMachine, hc]
    rw [hnext]
    exact .inl ⟨result, hok, hout⟩
  · have hnext : (evaluationMachine svc).next s input = s := by
      simp only [Machine.next, evaluationMachine, hc]
    have hout : (evaluationMachine svc).out s input = .error e := by
      simp only [Machine.out, evaluationMachine, hc]
    exact .inr ⟨e, hout, hnext⟩

/-- A call that answers has committed its body. -/
theorem body_of_out {result : EvaluationResult}
    (h : (evaluationMachine svc).out s input = .ok result) :
    evaluationBody svc input.reads input.amb input.op s
      = .ok (result, (evaluationMachine svc).next s input) := by
  rcases next_cases svc s input with ⟨answer, hok, hout⟩ | ⟨e, hout, -⟩
  · rw [h] at hout
    cases hout
    exact hok
  · rw [h] at hout
    cases hout

end AgentFleet.Evaluation
