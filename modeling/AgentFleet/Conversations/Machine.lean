import AgentFleet.Conversations.Recovery

/-! # The conversations as a machine

One input of `registryMachine` is one call of the conversation store, one transaction of the stores
it shares its database with, or whatever the rest of the program does to the projects, the artifacts
and the leases, with arbitrary arguments and surroundings.  A run is any interleaving of owners,
reviewers and workflows; an owner that stalls is one whose next call comes late. -/

namespace AgentFleet.Conversations

open Relational Transaction Checks Transition

/-- A call of the conversation store with its arguments. -/
inductive ConversationOp where
  | create (projectId : String) (repositoryIdentity : Sha256)
  | get (projectId conversationId : String)
  | getTurn (projectId turnId : String)
  | getSubmission (projectId conversationId submissionKey : String)
  | bindingForRun (runId : String)
  | registerTurnRun (submission : ConversationSubmission) (run : Run) (configHash : Sha256)
      (limits : RunBudgetLimits)
  | assertClaim (claim : ConversationClaim)
  | claimResume (runId : String) (expectedRevision : ℤ)
  | settle (claim : ConversationClaim) (expectedRevision : ℤ)
      (summary : Option ConversationSummary) (refs : List ConversationArtifactRef)
  | fence (runId : String) (expectedRevision : ℤ) (reason : FenceReason)
      (claim : Option ConversationClaim)
  | reconcileFenced (runId : String) (expectedRevision : ℤ)
      (summary : Option ConversationSummary) (refs : List ConversationArtifactRef)
  | captureRecovery (selection : SessionSelection)
  | prepareReviewedRecovery (binding : RecoveryBinding)
  | claimRecoveryLease (plan : ReviewedRecoveryPlan) (leaseId : String)
  | finishRecoveryLease (claim : RecoveryLeaseClaim) (status : LeaseStatus)
  | reconcileReviewedRecovery (plan : ReviewedRecoveryPlan)

/-- What happens to the tables. -/
inductive RegistryOp where
  | conversation (op : ConversationOp)
  | updateLeaseStatus (leaseId : String) (status : LeaseStatus)
  | database (op : DatabaseOp) (databaseReads : DatabaseReads)
  | elsewhere (shared : SharedTables)

/-- What a call returns. -/
inductive ConversationResult where
  | conversation (value : Conversation)
  | turn (value : ConversationTurn)
  | found (value : Option ConversationTurn)
  | binding (value : Option ConversationRunBinding)
  | registration (value : ConversationRegistration)
  | claim (value : ConversationClaim)
  | recovery (value : RecoveryBinding)
  | plan (value : ReviewedRecoveryPlan)
  | leaseClaim (value : RecoveryLeaseClaim)
  | run (value : Run)
  | done

variable (svc : ConversationServices) (reads : ConversationReads) (amb : Ambient)

/-- `get_submission`. -/
def getSubmission (s : Registry) (projectId conversationId submissionKey : String) :
    Except StoreError (Option ConversationTurn) := do
  refuse (isSubmissionKey submissionKey = false) denied
  refuse (svc.cleanText submissionKey = false) invalid
  let _ ← conversationOf svc s projectId conversationId
  match s.turnByKey? conversationId submissionKey with
  | none => return none
  | some row => some <$> turnOf svc s projectId row.turnId

/-- `binding_for_run`. -/
def bindingForRun (s : Registry) (runId : String) :
    Except StoreError (Option ConversationRunBinding) := do
  let turn ← turnForRun svc s runId
  return turn.map ConversationTurn.binding

/-- The body of a call. -/
def conversationBody : ConversationOp → RegistryTxn ConversationResult
  | .create projectId repositoryIdentity =>
      .conversation <$> create svc amb projectId repositoryIdentity
  | .get projectId conversationId =>
      .conversation <$> reading fun s => conversationOf svc s projectId conversationId
  | .getTurn projectId turnId => .turn <$> reading fun s => turnOf svc s projectId turnId
  | .getSubmission projectId conversationId submissionKey =>
      .found <$> reading fun s => getSubmission svc s projectId conversationId submissionKey
  | .bindingForRun runId => .binding <$> reading fun s => bindingForRun svc s runId
  | .registerTurnRun submission run configHash limits =>
      .registration <$> registerTurnRun svc reads amb submission run configHash limits
  | .assertClaim claim => .turn <$> reading fun s => owned svc s claim
  | .claimResume runId expectedRevision => .claim <$> claimResume svc amb runId expectedRevision
  | .settle claim expectedRevision summary refs =>
      .turn <$> settle svc reads amb claim expectedRevision summary refs
  | .fence runId expectedRevision reason claim =>
      .turn <$> fence svc amb runId expectedRevision reason claim
  | .reconcileFenced runId expectedRevision summary refs =>
      .turn <$> reconcileFenced svc reads amb runId expectedRevision summary refs
  | .captureRecovery selection =>
      .recovery <$> reading fun s => captureRecovery svc reads s selection
  | .prepareReviewedRecovery binding => .plan <$> prepareReviewedRecovery svc reads amb binding
  | .claimRecoveryLease plan leaseId =>
      .leaseClaim <$> claimRecoveryLease svc reads amb plan leaseId
  | .finishRecoveryLease claim status =>
      (fun _ => .done) <$> finishRecoveryLease svc reads amb claim status
  | .reconcileReviewedRecovery plan => .run <$> reconcileReviewedRecovery svc reads amb plan

/-- A body inside `_boundary`. -/
def withinBoundary {α : Type} (x : RegistryTxn α) : RegistryTxn α := fun s =>
  match x s with
  | .ok r => .ok r
  | .error e => .error (boundary e)

@[simp] theorem withinBoundary_ok {α : Type} {x : RegistryTxn α} {a : α} {s t : Registry} :
    withinBoundary x s = .ok (a, t) ↔ x s = .ok (a, t) := by
  unfold withinBoundary
  cases x s with
  | error e | ok r => simp

/-- The body of an input. -/
def registryBody : RegistryOp → RegistryTxn ConversationResult
  | .conversation op => withinBoundary (conversationBody svc reads amb op)
  | .updateLeaseStatus leaseId status =>
      (fun _ => .done) <$> updateLeaseStatus svc amb leaseId status
  | .database op databaseReads =>
      (fun _ => .done) <$> onDatabase (databaseBody svc.toDatabaseServices databaseReads amb op)
  | .elsewhere shared => (fun _ => .done) <$> modify fun s => { s with shared }

/-- One input: what happens, and what it reads from its surroundings. -/
structure RegistryInput where
  op : RegistryOp
  reads : ConversationReads
  amb : Ambient

/-- The conversations under calls. -/
def registryMachine : Machine Registry RegistryInput (Except StoreError ConversationResult) where
  step s input :=
    let r := commit (registryBody svc input.reads input.amb input.op) s
    (r.2, r.1)

/-! ### Committed and refused calls -/

variable {svc} {s : Registry} {input : RegistryInput}

/-- A call commits its body or changes nothing. -/
theorem next_cases (svc : ConversationServices) (s : Registry) (input : RegistryInput) :
    (∃ result, registryBody svc input.reads input.amb input.op s
        = .ok (result, (registryMachine svc).next s input)
      ∧ (registryMachine svc).out s input = .ok result)
      ∨ ∃ e, registryBody svc input.reads input.amb input.op s = .error e
        ∧ (registryMachine svc).out s input = .error e ∧ (registryMachine svc).next s input = s := by
  rcases commit_cases (registryBody svc input.reads input.amb input.op) s with
    ⟨result, t, hok, hc⟩ | ⟨e, herror, hc⟩
  · have hnext : (registryMachine svc).next s input = t := by
      simp only [Machine.next, registryMachine, hc]
    have hout : (registryMachine svc).out s input = .ok result := by
      simp only [Machine.out, registryMachine, hc]
    rw [hnext]
    exact .inl ⟨result, hok, hout⟩
  · have hnext : (registryMachine svc).next s input = s := by
      simp only [Machine.next, registryMachine, hc]
    have hout : (registryMachine svc).out s input = .error e := by
      simp only [Machine.out, registryMachine, hc]
    exact .inr ⟨e, herror, hout, hnext⟩

/-- A call that answers has committed its body. -/
theorem body_of_out {result : ConversationResult}
    (h : (registryMachine svc).out s input = .ok result) :
    registryBody svc input.reads input.amb input.op s
      = .ok (result, (registryMachine svc).next s input) := by
  rcases next_cases svc s input with ⟨answer, hok, hout⟩ | ⟨e, -, hout, -⟩
  · rw [h] at hout
    cases hout
    exact hok
  · rw [h] at hout
    cases hout

end AgentFleet.Conversations
