import AgentFleet.Evaluation.Ledger

/-! # Executions of reserved attempts

`registerExecution` binds an attempt to a new root run and hands out the claim to it, once;
`settle` and `fence` end the execution.  Every transaction reads an execution through `recordOf`,
which compares it with the manifest, the run, the budget and the journal.

`admitCampaign` compares the commitments of a campaign and what its runs used beyond them with its
budget; the runtime accounting asks it before an attempt, a request or a tool batch. -/

namespace AgentFleet.Evaluation

open Relational Transaction Checks

/-- `_denied`. -/
def executionDenied : StoreError :=
  .fleet {
    code := .recoveryRequired
    message := "The reserved execution identity or ownership is unavailable."
    remediation := "Inspect the original attempt; do not replay, replace or refund it." }

/-- The campaign admits nothing more. -/
def admissionExhausted : StoreError :=
  .fleet {
    code := .runtimeBudgetExceeded
    message := "The campaign's retained commitment and observed overruns exhaust admission."
    remediation :=
      "Keep actual usage and unknown requests; do not refund or replay this campaign." }

section Reads

variable (svc : EvaluationServices) (reads : EvaluationReads) (s : EvaluationState)

/-- The state of the accounting. -/
def EvaluationState.budget : BudgetState := ⟨s.database.store, s.database.ledger⟩

/-- What a body of the accounting answers about the state. -/
def askBudget {α : Type} (x : BudgetTxn α) : Except StoreError α := Prod.fst <$> x s.budget

/-- `_validated_run`. -/
def runOf (runId : String) : Except StoreError Run :=
  Prod.fst <$> validatedRun svc.toServices runId s.database.store

/-- `_manifest`. -/
def manifestOf (submission : EvaluationSubmission) : Except StoreError EvaluationManifest := do
  refuse (¬ submission.validates) .validation
  refuse (svc.cleanValue (svc.dump (.submission submission)) = false) executionDenied
  let snapshot ← snapshotOf svc s submission.campaignId
  refuse (snapshot.manifest.sha256 svc.toEvaluationModels ≠ submission.manifestSha256
    ∨ ¬ ∃ item ∈ snapshot.reservations, item.attemptId = submission.attemptId
      ∧ item.caseId = submission.caseId ∧ item.repetition = submission.repetition) executionDenied
  return snapshot.manifest

/-- The case and the repository of a submission. -/
def declaredBy (manifest : EvaluationManifest) (caseId : String) :
    Except StoreError (EvaluationCase × EvaluationRepository) := do
  let declared ← demand .validation (manifest.cases.find? fun item => item.caseId = caseId)
  let repo ← demand .validation
    (manifest.repositories.find? fun repo => repo.repositoryId = declared.repositoryId)
  return (declared, repo)

/-- The outcome of an executed attempt is that of its run. -/
def outcomeAgrees (record : EvaluationExecutionRecord) (run : Run) (outcome : OutcomeRecord) :
    Prop :=
  outcome.rootRunId = some record.rootRunId ∧ outcome.taskId = run.taskId
    ∧ outcome.productStatus = some run.status ∧ record.status ≠ .active

/-- What `_record` asks of the binding of a run. -/
def bindingAgrees (binding : EvaluationExecutionBinding) (declared : EvaluationCase)
    (repo : EvaluationRepository) (run : Run) : Prop :=
  run.parentRunId = none ∧ svc.runExecutionHash run = binding.runBindingSha256
    ∧ run.projectId = binding.projectId
    ∧ run.registration.modelBindingsSha256 = some binding.modelBindingsSha256
    ∧ run.configSnapshotHash = some binding.configurationSha256
    ∧ run.registration.sandboxImageIdentity = binding.imageIdentity
    ∧ binding.caseSha256 = svc.caseSha256 declared
    ∧ declared.runBudget.limits? = some binding.limits
    ∧ binding.sourceSha256 = repo.sourceSha256 ∧ binding.commitSha = repo.commitSha
    ∧ binding.configurationSha256 = declared.configurationSha256
    ∧ binding.dependenciesSha256 = declared.dependenciesSha256
    ∧ binding.imageIdentity = declared.imageIdentity ∧ binding.commands = declared.commands
deriving Decidable

instance (record : EvaluationExecutionRecord) (run : Run) (outcome : OutcomeRecord) :
    Decidable (outcomeAgrees record run outcome) := by
  unfold outcomeAgrees
  infer_instance

/-! ### Journal -/

/-- The kinds of events that an execution has. -/
def executionKinds : List String :=
  ["evaluation.execution_registered", "evaluation.execution_settled",
    "evaluation.execution_fenced"]

/-- The events of the execution of a run, in their order and at most four of them. -/
def EvaluationState.executionEvents (rootRunId : String) : List FleetEvent :=
  ((s.events.filter fun event => event.runId = some rootRunId
    && executionKinds.contains event.eventType).mergeSort
      fun a b => decide (a.sequence ≤ b.sequence)).take 4

/-- The payload of an event of an execution. -/
def executionPayload (record : EvaluationExecutionRecord) (revision : ℕ) : JsonObject :=
  JsonValue.object [
    ("binding_sha256", .str (svc.bindingSha256 record.binding).hex),
    ("claim_id", .str record.claim.claimId),
    ("revision", .int revision),
    ("attempt_id", .str record.attemptId),
    ("campaign_id", .str record.campaignId),
    ("manifest_sha256", .str record.binding.submission.manifestSha256.hex)]

/-- The event of a revision of an execution. -/
def eventAgrees (record : EvaluationExecutionRecord) (run : Run) (index : ℕ) (event : FleetEvent) :
    Prop :=
  event.eventType = (if index = 0 then "evaluation.execution_registered"
      else "evaluation.execution_" ++ record.status.value)
    ∧ JsonValue.pyEq (.obj event.payload) (.obj (executionPayload svc record (index + 1))) = true
    ∧ event.runId = some record.rootRunId ∧ event.projectId = record.binding.projectId
    ∧ event.correlationId = run.correlationId

instance (record : EvaluationExecutionRecord) (run : Run) (index : ℕ) (event : FleetEvent) :
    Decidable (eventAgrees svc record run index event) := by
  unfold eventAgrees
  infer_instance

/-- What `_record` asks of the events of an execution. -/
def checkEvents (record : EvaluationExecutionRecord) (run : Run) : Except StoreError Unit := do
  let events := s.executionEvents record.rootRunId
  refuse (events.length ≠ record.revision) executionDenied
  refuse (∃ event ∈ events, svc.cleanText (svc.eventText event) = false) executionDenied
  refuse (∃ indexed ∈ events.zipIdx, ¬ eventAgrees svc record run indexed.2 indexed.1)
    executionDenied
  refuse ((events.getLast?).map FleetEvent.occurredAt ≠ some record.updatedAt) executionDenied

/-! ### Records -/

/-- The text of an execution can be stored and read. -/
def EvaluationServices.legible (record : EvaluationExecutionRecord) : Bool :=
  encodedLength (svc.executionText record) ≤ 65536 && svc.cleanText (svc.executionText record)

/-- What `_record` asks of a stored execution. -/
def checkRecord (record : EvaluationExecutionRecord) : Except StoreError Unit := do
  refuse (svc.legible record = false) executionDenied
  refuse (¬ svc.validRecord record) .validation
  let binding := record.binding
  let manifest ← manifestOf svc s binding.submission
  let (declared, repo) ← declaredBy manifest binding.submission.caseId
  let run ← runOf svc s record.rootRunId
  let snapshot ← snapshotOf svc s record.campaignId
  let outcomes := snapshot.outcomes.filter fun outcome => outcome.attemptId = record.attemptId
  refuse (∃ outcome ∈ outcomes, ¬ outcome.isTerminal) .validation
  refuse (∃ outcome ∈ outcomes, ¬ outcomeAgrees record run outcome) executionDenied
  refuse (¬ bindingAgrees svc binding declared repo run) executionDenied
  let profiles ← reads.bindings binding.projectId record.rootRunId
  let bound ← demand executionDenied profiles
  refuse (svc.modelBindingsSha256 bound ≠ binding.modelBindingsSha256
    ∨ bound.repositoryIdentity ≠ binding.repositoryIdentity) executionDenied
  let owner ← askBudget s (ownerOf reads.budget record.rootRunId)
  refuse (owner ≠ some (record.rootRunId, binding.limits)) executionDenied
  checkEvents svc s record run

/-- `_record`. -/
def recordOf (rootRunId : String) : Except StoreError (Option EvaluationExecutionRecord) :=
  match s.execution? rootRunId with
  | none => do
      -- a deleted binding cannot turn a campaign run into an ordinary one
      refuse (∃ event ∈ s.events, event.runId = some rootRunId
        ∧ isRegistrationEvent event = true) executionDenied
      return none
  | some record => do
      checkRecord svc reads s record
      return some record

/-- The parent of a run that has one, or the run. -/
def rootOf (run : Run) : Except StoreError Run :=
  match run.parentRunId with
  | some parentRunId => runOf svc s parentRunId
  | none => return run

/-- `_for_run`: the execution of the root of a run. -/
def executionForRun (runId : String) : Except StoreError (Option EvaluationExecutionRecord) := do
  let run ← runOf svc s runId
  let root ← rootOf svc s run
  refuse (root.parentRunId ≠ none ∨ root.projectId ≠ run.projectId) executionDenied
  recordOf svc reads s root.runId

/-! ### Admission -/

/-- What a run used beyond the limits of its attempt: tokens, and exact microseconds where the source
subtracts and sums floats of seconds. -/
structure Overrun where
  tokens : ℕ
  microseconds : ℤ
deriving DecidableEq

/-- The overrun of an execution whose usage is complete. -/
def overrunOf (now : Timestamp) (row : EvaluationExecutionRecord) : Except StoreError Overrun := do
  let record ← recordOf svc reads s row.rootRunId
  let record ← demand executionDenied record
  let usage ← askBudget s
    (AgentFleet.snapshotOf svc.toBudgetServices reads.budget now row.rootRunId)
  refuse (usage.completeness ≠ "complete" ∨ usage.unknownRequests ≠ 0) executionDenied
  return {
    tokens := usage.reportedTotalTokens - record.binding.limits.maxTotalTokens
    microseconds := max 0
      (usage.activeMicroseconds - record.binding.limits.maxActiveSeconds * 1000000) }

/-- The runs that the journal registered for a campaign. -/
def EvaluationState.registeredRuns (campaignId : String) : List (Option String) :=
  (s.events.filter fun event => isRegistrationEvent event
    && payloadText? event "campaign_id" = some campaignId).map FleetEvent.runId

/-- `_admit_campaign`, at the instants that the accounting reads. -/
def admitCampaign (clock : ℕ → Timestamp) (campaignId : String) : Except StoreError Unit := do
  let snapshot ← snapshotOf svc s campaignId
  let rows := s.executionsOf campaignId
  refuse (256 < rows.length) executionDenied
  refuse (¬ (rows.map fun row => some row.rootRunId).Perm (s.registeredRuns campaignId))
    executionDenied
  let overruns ← rows.zipIdx.mapM fun row => overrunOf svc reads s (clock row.2) row.1
  let budget := snapshot.manifest.budget
  refuse (snapshot.committed.totalTokens + (overruns.map Overrun.tokens).sum > budget.maxTotalTokens
    ∨ snapshot.committed.activeSeconds * 1000000 + (overruns.map Overrun.microseconds).sum
      > budget.maxActiveSeconds * 1000000) admissionExhausted

/-- `_campaign_admission`: nothing is asked of a run without a campaign. -/
def campaignAdmission (clock : ℕ → Timestamp) (runId : String) : Except StoreError Unit := do
  match ← executionForRun svc reads s runId with
  | none => return ()
  | some record => do
      refuse (record.status ≠ .active) budgetInvalid
      admitCampaign svc reads s clock record.campaignId

/-- The error of an answer. -/
def errorOf {α : Type} (answer : Except StoreError α) : Option StoreError :=
  match answer with
  | .ok _ => none
  | .error e => some e

/-- The accounting asks the campaign of a run. -/
def admittedReads (clock : ℕ → Timestamp) : DatabaseReads where
  graph := reads.graph
  budget := { reads.budget with
    campaignRefusal := fun runId => errorOf (campaignAdmission svc reads s clock runId) }

/-- `_assert_no_orphan_claim`. -/
def checkOrphan (attemptId : String) : Except StoreError Unit :=
  refuse (s.claimed attemptId) executionDenied

end Reads

variable (svc : EvaluationServices) (reads : EvaluationReads) (amb : Ambient)

/-! ### Lookups -/

/-- `submission`. -/
def submissionFor (campaignId : String) (manifestSha256 : Sha256) (caseId : String)
    (repetition : ℕ) (idempotencyKey : String) : EvaluationTxn EvaluationSubmission := do
  refuseIf (isIdempotencyKey idempotencyKey = false) .validation
  refuseIf (svc.cleanText idempotencyKey = false
    ∨ svc.cleanValue (.arr [.str campaignId, .str manifestSha256.hex, .str caseId, .int repetition])
      = false) executionDenied
  beginLedger reads
  let snapshot ← reading fun s => snapshotOf svc s campaignId
  let found := snapshot.reservations.filter fun item => item.caseId = caseId
    && item.repetition = repetition && item.idempotencySha256 = svc.keySha256 idempotencyKey
  refuseIf (snapshot.manifest.sha256 svc.toEvaluationModels ≠ manifestSha256
    ∨ found.length ≠ 1) executionDenied
  let item ← expect executionDenied found.head?
  let submission : EvaluationSubmission :=
    { campaignId, manifestSha256, caseId, repetition, attemptId := item.attemptId }
  let _ ← reading fun s => manifestOf svc s submission
  return submission

/-- `for_run`. -/
def forRun (runId : String) : EvaluationTxn (Option EvaluationExecutionRecord) := do
  refuseIf (svc.cleanText runId = false) executionDenied
  beginLedger reads
  reading fun s => executionForRun svc reads s runId

/-- `for_attempt`. -/
def forAttempt (submission : EvaluationSubmission) :
    EvaluationTxn (Option EvaluationExecutionRecord) := do
  beginLedger reads
  let _ ← reading fun s => manifestOf svc s submission
  let s ← get
  match s.executionOf? submission.attemptId with
  | some row => reading fun s => recordOf svc reads s row.rootRunId
  | none => do
      reading fun s => checkOrphan s submission.attemptId
      return none

/-! ### Registration -/

/-- What `register` asks of the run of a case. -/
def runAgrees (declared : EvaluationCase) (repo : EvaluationRepository) (run : Run)
    (admission : EvaluationAdmission) (bindings : RunModelBindings) : Prop :=
  run.parentRunId = none
    ∧ (run.registration.sandboxName = "fake" ∧ declared.imageIdentity = none
      ∨ run.registration.sandboxName = "docker" ∧ declared.imageIdentity ≠ none)
    ∧ run.status = .created ∧ run.stage = none ∧ run.taskId = none
    ∧ run.registration.planReviewRequired = false ∧ run.goal = declared.requirement
    ∧ run.baseRevision = repo.commitSha
    ∧ run.configSnapshotHash = some declared.configurationSha256
    ∧ run.registration.sandboxImageIdentity = declared.imageIdentity
    ∧ admission.configurationSha256 = declared.configurationSha256
    ∧ admission.source.commitSha = repo.commitSha
    ∧ svc.sourceSha256 admission.source = repo.sourceSha256
    ∧ svc.dependenciesSha256 admission.source = declared.dependenciesSha256
    ∧ admission.commands = declared.commands ∧ bindings.rootRunId = run.runId
    ∧ bindings.projectId = run.projectId
    ∧ run.registration.modelBindingsSha256 = some (svc.modelBindingsSha256 bindings)
deriving Decidable

/-- `canonical_json_hash(profile.model_dump(mode="json"))`. -/
def EvaluationServices.profileSha256 (profile : ModelProfile) : Sha256 :=
  svc.toEvaluationModels.canonicalJsonHash (JsonValue.sorted (.obj profile.modelDump))

/-- Every role is bound to the profile of the case. -/
def checkProfile (declared : EvaluationCase) (binding : ResolvedModelBinding) :
    Except StoreError Unit := do
  let found ← reads.profile declared.profileId
  let profile ← demand executionDenied found
  refuse (some profile.name ≠ binding.profileName ∨ some profile.revision ≠ binding.profileRevision
    ∨ profile.revision ≠ declared.profileRevision
    ∨ svc.profileSha256 profile ≠ declared.profileSha256
    ∨ profile.configuration ≠ binding.configuration) executionDenied

/-- The binding of a new execution. -/
def newExecution (submission : EvaluationSubmission) (declared : EvaluationCase)
    (repo : EvaluationRepository) (run : Run) (bindings : RunModelBindings)
    (limits : RunBudgetLimits) (now : Timestamp) : EvaluationExecutionBinding where
  submission := submission
  projectId := run.projectId
  repositoryIdentity := bindings.repositoryIdentity
  rootRunId := run.runId
  runBindingSha256 := svc.runExecutionHash run
  caseSha256 := svc.caseSha256 declared
  sourceSha256 := repo.sourceSha256
  commitSha := repo.commitSha
  configurationSha256 := declared.configurationSha256
  modelBindingsSha256 := svc.modelBindingsSha256 bindings
  imageIdentity := declared.imageIdentity
  dependenciesSha256 := declared.dependenciesSha256
  commands := declared.commands
  limits := limits
  admittedAt := now

/-- A body of the database. -/
def onDatabase {α : Type} (x : DatabaseTxn α) : EvaluationTxn α :=
  onPart EvaluationState.database (fun database s => { s with database }) x

/-- The event of `_write`, at the instant of the record. -/
def journalExecution (k : ℕ) (record : EvaluationExecutionRecord) (kind : String) :
    EvaluationTxn Unit := do
  let run ← reading fun s => runOf svc s record.rootRunId
  let event := eventForRun svc.toServices amb k run ("evaluation.execution_" ++ kind)
    (executionPayload svc record record.revision)
  onDatabase (onStore
    (insertEvent svc.toServices { event with occurredAt := record.updatedAt }))

/-- `_write` of a new execution. -/
def insertExecution (k : ℕ) (record : EvaluationExecutionRecord) : EvaluationTxn Unit := do
  refuseIf (svc.legible record = false) executionDenied
  let s ← get
  refuseIf (¬ s.hasReservation record.campaignId record.attemptId
    ∨ (s.database.store.records.runRow? record.rootRunId).isNone = true) .integrity
  let executions ← expect .integrity (s.executions.insert record)
  set { s with executions }
  journalExecution svc amb k record "registered"

/-- `_write` of an execution that ended. -/
def updateExecution (k : ℕ) (record : EvaluationExecutionRecord) : EvaluationTxn Unit := do
  refuseIf (svc.legible record = false) executionDenied
  let s ← get
  let executions ← expect .integrity (s.executions.rewrite?
    (fun row => row.rootRunId = record.rootRunId) fun _ => record)
  set { s with executions }
  journalExecution svc amb k record record.status.value

/-- The end of `register`: the run, its budget and its execution are written. -/
def writeExecution (submission : EvaluationSubmission) (declared : EvaluationCase)
    (repo : EvaluationRepository) (run : Run) (bindings : RunModelBindings) :
    EvaluationTxn EvaluationRegistration := do
  let limits ← expect .validation declared.runBudget.limits?
  reading fun _ => reads.admission run
  onDatabase (onStore (insertRun svc.toDatabaseServices amb run []))
  reading fun _ => reads.saveBindings bindings
  let _ ← onDatabase (onLedger
    (initializeRun svc.toBudgetServices reads.budget (amb.after 1) run.runId limits none))
  let now := amb.clock 6
  let snapshot ← reading fun s => snapshotOf svc s submission.campaignId
  let reservation ← expect .validation
    (snapshot.reservations.find? fun item => item.attemptId = submission.attemptId)
  refuseIf (now < reservation.reservedAt) executionDenied
  let binding := newExecution svc submission declared repo run bindings limits now
  let claim : EvaluationClaim :=
    { rootRunId := run.runId, bindingSha256 := svc.bindingSha256 binding, claimId := amb.ids 6 }
  let record : EvaluationExecutionRecord := { binding, claim, updatedAt := now }
  refuseIf (¬ svc.validRecord record) .validation
  insertExecution svc amb 7 record
  let found ← reading fun s => recordOf svc reads s run.runId
  let checked ← expect executionDenied found
  return { record := checked, claim := some claim }

/-- `register` of an attempt that was not executed. -/
def registerNew (submission : EvaluationSubmission) (manifest : EvaluationManifest) (run : Run)
    (admission : EvaluationAdmission) (bindings : RunModelBindings) :
    EvaluationTxn EvaluationRegistration := do
  let s ← get
  reading fun s => checkOrphan s submission.attemptId
  refuseIf ((s.outcomeOf? submission.attemptId).isSome = true) executionDenied
  let (declared, repo) ← reading fun _ => declaredBy manifest submission.caseId
  refuseIf (¬ runAgrees svc declared repo run admission bindings) executionDenied
  reading fun _ => bindings.roles.entries.forM fun entry =>
    checkProfile svc reads declared entry.2
  reading fun s => admitCampaign svc reads s (amb.after 8).clock submission.campaignId
  writeExecution svc reads amb submission declared repo run bindings

/-- `register`. -/
def registerExecution (submission : EvaluationSubmission) (run : Run)
    (admission : EvaluationAdmission) (bindings : RunModelBindings) :
    EvaluationTxn EvaluationRegistration := do
  refuseIf (svc.cleanValue (.arr [svc.dump (.admission admission), svc.dump (.run run),
    svc.dump (.modelBindings bindings)]) = false) executionDenied
  beginLedger reads
  let manifest ← reading fun s => manifestOf svc s submission
  let s ← get
  match s.executionOf? submission.attemptId with
  | some row => do
      let found ← reading fun s => recordOf svc reads s row.rootRunId
      let existing ← expect executionDenied found
      refuseIf (existing.binding.projectId ≠ run.projectId) executionDenied
      return { record := existing }
  | none => registerNew svc reads amb submission manifest run admission bindings

/-! ### Ends -/

/-- The record of an execution after it ended. -/
def EvaluationExecutionRecord.ended (record : EvaluationExecutionRecord) (status : ExecutionStatus)
    (now : Timestamp) : EvaluationExecutionRecord :=
  { record with status, revision := 2, updatedAt := now }

/-- `assert_claim`. -/
def assertClaim (claim : EvaluationClaim) : EvaluationTxn EvaluationExecutionRecord := do
  beginLedger reads
  let found ← reading fun s => recordOf svc reads s claim.rootRunId
  let record ← expect executionDenied found
  refuseIf (record.claim ≠ claim ∨ record.status ≠ .active) executionDenied
  return record

/-- The end of an execution that is active. -/
def endExecution (record : EvaluationExecutionRecord) (status : ExecutionStatus) :
    EvaluationTxn EvaluationExecutionRecord := do
  let updated := record.ended status (amb.clock 0)
  refuseIf (¬ svc.validRecord updated) .validation
  updateExecution svc amb 1 updated
  return updated

/-- `settle`. -/
def settle (claim : EvaluationClaim) : EvaluationTxn EvaluationExecutionRecord := do
  beginLedger reads
  let found ← reading fun s => recordOf svc reads s claim.rootRunId
  let record ← expect executionDenied found
  refuseIf (record.claim ≠ claim) executionDenied
  if record.status ≠ .active then return record
  else do
    let run ← reading fun s => runOf svc s claim.rootRunId
    refuseIf (run.status = .created ∨ run.status = .running) executionDenied
    endExecution svc amb record .settled

/-- `fence`. -/
def fence (rootRunId : String) : EvaluationTxn EvaluationExecutionRecord := do
  beginLedger reads
  let found ← reading fun s => recordOf svc reads s rootRunId
  let record ← expect executionDenied found
  if record.status ≠ .active then return record
  else endExecution svc amb record .fenced

end AgentFleet.Evaluation
