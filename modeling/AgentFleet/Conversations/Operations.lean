import AgentFleet.Conversations.Store

/-! # The conversation store: turns and claims

The transactions by which a turn is registered with its run, claimed, settled, fenced and
reconciled.  Every one that writes a turn writes the claims that change with it, the turn, and its
conversation, each with a receipt in the journal. -/

namespace AgentFleet.Conversations

open Relational Transaction Checks

/-- A transaction body of the conversation store. -/
abbrev RegistryTxn := Txn Registry StoreError

/-- A body against the database. -/
def onDatabase {α : Type} (x : DatabaseTxn α) : RegistryTxn α :=
  onPart Registry.database (fun database s => { s with database }) x

variable (svc : ConversationServices) (reads : ConversationReads) (amb : Ambient)

/-! ### Writes -/

/-- `_validated`. -/
def checkRecord (record : ConversationRecord) (valid : Bool) : Except StoreError Unit := do
  refuse (svc.clean record = false) invalid
  refuse (valid = false) .validation

/-- The event that `_event` builds at place `k`. -/
def receiptEvent (k : ℕ) (projectId : String) (runId : Option String) (run : Option Run)
    (eventType recordType recordId : String) (value : JsonValue) : FleetEvent where
  eventId := amb.ids k
  eventType := eventType
  occurredAt := amb.clock k
  projectId := projectId
  runId := runId
  taskId := run.bind Run.taskId
  correlationId := match run with
    | some run => run.correlationId
    | none => amb.ids (k + 1)
  payload := receiptPayload svc recordType recordId value
  redactionSummary := []

/-- The run of an event, if it has one. -/
def eventRun (s : Registry) : Option String → Except StoreError (Option Run)
  | none => .ok none
  | some runId => some <$> runOf svc s runId

/-- `_event`; the identifier of an event is new. -/
def writeEvent (k : ℕ) (projectId : String) (runId : Option String)
    (eventType recordType recordId : String) (value : JsonValue) : RegistryTxn String := do
  refuseIf (svc.cleanValue value = false) invalid
  let run ← reading fun s => eventRun svc s runId
  reading fun s => refuse ((s.event? (amb.ids k)).isSome = true) .integrity
  onDatabase (onStore (insertEvent svc.toServices
    (receiptEvent svc amb k projectId runId run eventType recordType recordId value)))
  return amb.ids k

/-- A write to `conversations`. -/
def putConversations (f : Table ConversationRow → Option (Table ConversationRow)) :
    RegistryTxn Unit := do
  let s ← get
  let conversations ← expect .integrity (f s.conversations)
  set { s with conversations }

/-- A write to `conversation_turns`. -/
def putTurns (f : Table TurnRow → Option (Table TurnRow)) : RegistryTxn Unit := do
  let s ← get
  let turns ← expect .integrity (f s.turns)
  set { s with turns }

/-- A write to `conversation_turn_claims`. -/
def putClaims (f : Table TurnClaimRow → Option (Table TurnClaimRow)) : RegistryTxn Unit := do
  let s ← get
  let claims ← expect .integrity (f s.claims)
  set { s with claims }

/-- What `_write_conversation` does before the row is written. -/
def recordConversation (k : ℕ) (value : Conversation) (eventType : String) :
    RegistryTxn String := do
  reading fun _ => checkRecord svc (.conversation value)
    (value.validates svc.toConversationModels)
  writeEvent svc amb k value.projectId none eventType "conversation" value.conversationId
    (svc.dump (.conversation value))

/-- `_write_conversation` of a new conversation. -/
def insertConversation (k : ℕ) (value : Conversation) : RegistryTxn Unit := do
  let recordEventId ← recordConversation svc amb k value "conversation.created"
  putConversations fun rows => rows.insert ⟨value, recordEventId⟩

/-- `_write_conversation`. -/
def updateConversation (k : ℕ) (value : Conversation) : RegistryTxn Unit := do
  let recordEventId ← recordConversation svc amb k value "conversation.updated"
  putConversations fun rows => rows.rewrite?
    (fun row => row.conversationId = value.conversationId) fun _ => ⟨value, recordEventId⟩

/-- What `_write_turn` does before the row is written. -/
def recordTurn (k : ℕ) (turn : ConversationTurn) (eventType : String) : RegistryTxn String := do
  reading fun _ => checkRecord svc (.turn turn) (svc.validTurn turn)
  writeEvent svc amb k turn.binding.projectId (some turn.binding.runId) eventType "turn"
    turn.binding.turnId (svc.dump (.turn turn))

/-- `_write_turn` of a new turn. -/
def insertTurn (k : ℕ) (turn : ConversationTurn) (eventType : String) : RegistryTxn Unit := do
  let recordEventId ← recordTurn svc amb k turn eventType
  putTurns fun rows => rows.insert ⟨turn, recordEventId⟩

/-- `_write_turn`. -/
def updateTurn (k : ℕ) (turn : ConversationTurn) (eventType : String) : RegistryTxn Unit := do
  let recordEventId ← recordTurn svc amb k turn eventType
  putTurns fun rows => rows.rewrite?
    (fun row => row.turnId = turn.binding.turnId) fun _ => ⟨turn, recordEventId⟩

/-- The event of a claim by its status. -/
def claimEventType : TurnClaimStatus → String
  | .active => "conversation.claim_issued"
  | .released => "conversation.claim_released"
  | .fenced => "conversation.claim_fenced"

/-- What `_write_claim` does before the row is written. -/
def recordClaim (k : ℕ) (claim : ConversationClaim) (status : TurnClaimStatus)
    (releasedAt : Option Timestamp) : RegistryTxn String := do
  reading fun _ => checkRecord svc (.claim claim) (claim.validates svc.toConversationModels)
  writeEvent svc amb k claim.projectId (some claim.runId) (claimEventType status) "claim"
    claim.claimId (claimValue svc claim status releasedAt)

/-- `_write_claim` of a new claim. -/
def insertClaim (k : ℕ) (claim : ConversationClaim) : RegistryTxn Unit := do
  let recordEventId ← recordClaim svc amb k claim .active none
  putClaims fun rows => rows.insert { claim, recordEventId }

/-- `_write_claim` of a claim that ends; its end is read from the clock at place `k`. -/
def endClaim (k : ℕ) (claim : ConversationClaim) (status : TurnClaimStatus) : RegistryTxn Unit := do
  let releasedAt := some (amb.clock k)
  let recordEventId ← recordClaim svc amb (k + 1) claim status releasedAt
  putClaims fun rows => rows.rewrite? (fun row => row.claimId = claim.claimId)
    fun row => { row with status, releasedAt, recordEventId }

/-- The conversation after a write of its turn. -/
def advanced (conversation : Conversation) (turn : ConversationTurn) (now : Timestamp) :
    Conversation :=
  { conversation with
    revision := conversation.revision + 1
    activeTurnId := if turn.status.isActive = true then some turn.binding.turnId else none
    updatedAt := now }

/-- `_advance`. -/
def advance (k : ℕ) (conversation : Conversation) (turn : ConversationTurn) : RegistryTxn Unit :=
  updateConversation svc amb (k + 1) (advanced conversation turn (amb.clock k))

/-! ### Registration -/

/-- The conversation that `create` writes. -/
def newConversation (conversationId projectId : String) (repositoryIdentity : Sha256)
    (now : Timestamp) : Conversation where
  conversationId := conversationId
  projectId := projectId
  repositoryIdentity := repositoryIdentity
  createdAt := now
  updatedAt := now

/-- `create`. -/
def create (projectId : String) (repositoryIdentity : Sha256) : RegistryTxn Conversation := do
  refuseIf (svc.cleanText repositoryIdentity.hex = false) invalid
  let project ← reading fun s => projectOf svc s projectId
  refuseIf (project.identityHash ≠ repositoryIdentity) invalid
  let value := newConversation (amb.ids 0) projectId repositoryIdentity (amb.clock 0)
  insertConversation svc amb 1 value
  return value

/-- The entry of a context that describes a turn. -/
def contextEntry (turn : ConversationTurn) : ConversationContextEntry where
  turnId := turn.binding.turnId
  sequence := turn.binding.sequence
  runId := turn.binding.runId
  runStatus := turn.observedRunStatus
  userSummary := turn.userSummary
  resultSummary := turn.resultSummary
  artifactRefs := turn.artifactRefs

/-- What `register_turn_run` checks of an entry of the context. -/
def validateEntry (s : Registry) (conversation : Conversation) (projectId : String)
    (entry : ConversationContextEntry) : Except StoreError Unit := do
  let historical ← turnOf svc s projectId entry.turnId
  refuse (historical.binding.conversationId ≠ conversation.conversationId
    ∨ historical.status.isSettled = false ∨ entry ≠ contextEntry historical) invalid

/-- The binding of a new turn. -/
def newBinding (conversation : Conversation) (submission : ConversationSubmission) (run : Run)
    (configHash : Sha256) (limits : RunBudgetLimits) (turnId : String) (now : Timestamp) :
    ConversationRunBinding where
  conversationId := conversation.conversationId
  turnId := turnId
  projectId := run.projectId
  repositoryIdentity := conversation.repositoryIdentity
  sequence := conversation.nextTurnSequence
  submissionKey := submission.submissionKey
  submissionSha256 := submissionHash svc submission run configHash limits
  userGoalSha256 := svc.goalSha256 run.goal
  runId := run.runId
  runBindingSha256 := runHash svc run
  configSnapshotSha256 := configHash
  budgetLimits := limits
  contextSha256 := svc.contextSha256 submission.context
  createdAt := now

/-- A claim of the turn of a binding. -/
def newClaim (binding : ConversationRunBinding) (claimId : String) (generation : ℕ)
    (now : Timestamp) : ConversationClaim where
  claimId := claimId
  conversationId := binding.conversationId
  turnId := binding.turnId
  projectId := binding.projectId
  runId := binding.runId
  generation := generation
  claimedAt := now

/-- A new turn. -/
def newTurn (binding : ConversationRunBinding) (submission : ConversationSubmission) (run : Run)
    (claimId : String) (now : Timestamp) : ConversationTurn where
  binding := binding
  status := .running
  ownerGeneration := 1
  activeClaimId := some claimId
  context := submission.context
  userSummary := submission.userSummary
  observedRunStatus := run.status
  createdAt := now
  updatedAt := now

/-- The conversation after a new turn. -/
def extended (conversation : Conversation) (turnId : String) (now : Timestamp) : Conversation :=
  { conversation with
    revision := conversation.revision + 1
    nextTurnSequence := conversation.nextTurnSequence + 1
    activeTurnId := some turnId
    updatedAt := now }

/-- The members by which the journal binds a run to its turn. -/
def createdPayload (binding : ConversationRunBinding) : JsonObject :=
  [("conversation_id", .str binding.conversationId),
    ("conversation_turn_id", .str binding.turnId),
    ("conversation_binding_sha256", .str (svc.digestOf (.binding binding)).hex)]

/-- The run of a new turn is a new root run. -/
def isFreshRoot (run : Run) (configHash : Sha256) : Prop :=
  run.status = .created ∧ run.stage = none ∧ run.parentRunId = none ∧ run.taskId = none
    ∧ (run.configSnapshotHash = none ∨ run.configSnapshotHash = some configHash)
    ∧ run.fleetPlanHash = none ∧ run.pendingApprovalId = none
deriving Decidable

/-- The end of `register_turn_run`: the run, its claim, its turn and the conversation are
written. -/
def writeRegistration (conversation : Conversation) (submission : ConversationSubmission)
    (run : Run) (configHash : Sha256) (limits : RunBudgetLimits) :
    RegistryTxn ConversationRegistration := do
  let now := amb.clock 0
  let binding := newBinding svc conversation submission run configHash limits (amb.ids 0) now
  let claim := newClaim binding (amb.ids 1) 1 now
  let turn := newTurn binding submission run (amb.ids 1) now
  refuseIf (binding.validates svc.toConversationModels = false
    ∨ claim.validates svc.toConversationModels = false ∨ svc.validTurn turn = false) .validation
  reading fun _ => reads.admission run
  onDatabase (onStore (insertRun svc.toDatabaseServices (amb.after 2) run
    (createdPayload svc binding)))
  insertClaim svc amb 3 claim
  insertTurn svc amb 4 turn "conversation.turn_registered"
  updateConversation svc amb 5 (extended conversation binding.turnId now)
  return { turn, claim := some claim }

/-- `register_turn_run` under a key that is new to the conversation. -/
def registerNew (conversation : Conversation) (submission : ConversationSubmission) (run : Run)
    (configHash : Sha256) (limits : RunBudgetLimits) : RegistryTxn ConversationRegistration := do
  reading fun _ => checkRevision conversation.revision submission.expectedRevision
  refuseIf (conversation.activeTurnId ≠ none ∨ 1000 < conversation.nextTurnSequence)
    ownershipUnavailable
  refuseIf (submission.context.throughSequence + 1 ≠ conversation.nextTurnSequence) denied
  reading fun s => submission.context.entries.forM
    (validateEntry svc s conversation submission.projectId)
  refuseIf (¬ isFreshRoot run configHash) invalid
  let project ← reading fun s => projectOf svc s run.projectId
  refuseIf (project.fleetSpecHash ≠ some configHash) invalid
  writeRegistration svc reads amb conversation submission run configHash limits

/-- `register_turn_run` under a key that has a turn. -/
def replayRegistration (projectId turnId : String) (digest : Sha256) :
    RegistryTxn ConversationRegistration := do
  let turn ← reading fun s => turnOf svc s projectId turnId
  refuseIf (turn.binding.submissionSha256 ≠ digest) denied
  return { turn }

/-- What `register_turn_run` checks of its arguments. -/
def checkSubmission (submission : ConversationSubmission) (run : Run) (configHash : Sha256)
    (limits : RunBudgetLimits) : Except StoreError Unit := do
  checkRecord svc (.submission submission) (submission.validates svc.toConversationModels)
  refuse (svc.clean (.run run) = false ∨ svc.cleanValue limits.modelDump = false
    ∨ svc.cleanText configHash.hex = false) invalid
  refuse (isBlankText run.goal = true ∨ 16384 < run.goal.utf8ByteSize
    ∨ run.projectId ≠ submission.projectId) denied

/-- `register_turn_run`. -/
def registerTurnRun (submission : ConversationSubmission) (run : Run) (configHash : Sha256)
    (limits : RunBudgetLimits) : RegistryTxn ConversationRegistration := do
  reading fun _ => checkSubmission svc submission run configHash limits
  let conversation ← reading fun s =>
    conversationOf svc s submission.projectId submission.conversationId
  refuseIf (conversation.repositoryIdentity ≠ submission.repositoryIdentity) invalid
  let s ← get
  match s.turnByKey? submission.conversationId submission.submissionKey with
  | some existing =>
      replayRegistration svc submission.projectId existing.turnId
        (submissionHash svc submission run configHash limits)
  | none => registerNew svc reads amb conversation submission run configHash limits

/-! ### Ownership -/

/-- The statuses of a run in which its turn waits. -/
def isPaused (status : RunStatus) : Bool :=
  [.pausedForPlan, .pausedForApproval, .waitingForChildren].contains status

/-- The turn under a new claim. -/
def resumed (turn : ConversationTurn) (claim : ConversationClaim) (now : Timestamp) :
    ConversationTurn :=
  { turn with
    revision := turn.revision + 1
    status := .running
    ownerGeneration := claim.generation
    activeClaimId := some claim.claimId
    updatedAt := now }

/-- `claim_resume`. -/
def claimResume (runId : String) (expectedRevision : ℤ) : RegistryTxn ConversationClaim := do
  let turn ← reading fun s => requireTurn svc s runId
  reading fun _ => checkRevision turn.revision expectedRevision
  let run ← reading fun s => runOf svc s runId
  refuseIf (turn.status ≠ .waiting ∨ turn.activeClaimId ≠ none ∨ isPaused run.status = false)
    ownershipUnavailable
  let conversation ← reading fun s =>
    conversationOf svc s turn.binding.projectId turn.binding.conversationId
  let claim := { newClaim turn.binding (amb.ids 0) (turn.ownerGeneration + 1) (amb.clock 0) with
    runId := runId }
  let updated := resumed turn claim (amb.clock 1)
  refuseIf (claim.validates svc.toConversationModels = false) .validation
  insertClaim svc amb 2 claim
  updateTurn svc amb 3 updated "conversation.turn_claimed"
  advance svc amb 4 conversation updated
  return claim

/-- The status of a turn whose run has ended or is ready, by its run and by what is outstanding. -/
def endedStatus (status : RunStatus) (held : Bool) : ConversationTurnStatus :=
  if held = true then .recoveryRequired
  else if status = .readyForReview ∨ status = .completed then .delivered
  else if status = .cancelled then .cancelled
  else .failed

/-- The status that `_settled_update` finds for a turn. -/
def settledStatus (s : Registry) (run : Run) : Except StoreError ConversationTurnStatus :=
  if isPaused run.status = true then .ok .waiting
  else if run.status = .readyForReview ∨ isTerminal run.status = true then
    endedStatus run.status <$> outstanding svc reads s run
  else .error invalid

/-- The turn that `_settled_update` builds. -/
def settledTurn (turn : ConversationTurn) (run : Run) (status : ConversationTurnStatus)
    (summary : Option ConversationSummary) (refs : List ConversationArtifactRef)
    (now : Timestamp) : ConversationTurn :=
  { turn with
    revision := turn.revision + 1
    status := status
    activeClaimId := none
    observedRunStatus := run.status
    resultSummary := summary
    artifactRefs := refs
    updatedAt := now
    settledAt := if status.isSettled = true then some now else none
    fencedAt := if status = .recoveryRequired then some (turn.fencedAt.getD now)
      else turn.fencedAt }

/-- `_validated` on a summary, if there is one. -/
def checkSummary : Option ConversationSummary → Except StoreError Unit
  | none => .ok ()
  | some summary => checkRecord svc (.summary summary)
      (summary.validates svc.toConversationModels)

/-- `_settled_update`. -/
def settledUpdate (s : Registry) (turn : ConversationTurn)
    (summary : Option ConversationSummary) (refs : List ConversationArtifactRef)
    (now : Timestamp) : Except StoreError ConversationTurn := do
  let run ← runOf svc s turn.binding.runId
  validateRefs svc s run refs
  checkSummary svc summary
  let status ← settledStatus svc reads s run
  let updated := settledTurn turn run status summary refs now
  checkRecord svc (.turn updated) (svc.validTurn updated)
  return updated

/-- `settle`. -/
def settle (claim : ConversationClaim) (expectedRevision : ℤ)
    (summary : Option ConversationSummary) (refs : List ConversationArtifactRef) :
    RegistryTxn ConversationTurn := do
  let turn ← reading fun s => owned svc s claim
  reading fun _ => checkRevision turn.revision expectedRevision
  let conversation ← reading fun s =>
    conversationOf svc s turn.binding.projectId turn.binding.conversationId
  let updated ← reading fun s => settledUpdate svc reads s turn summary refs (amb.clock 0)
  endClaim svc amb 1 claim .released
  updateTurn svc amb 3 updated "conversation.turn_settled"
  advance svc amb 4 conversation updated
  return updated

/-- `reason` of a fence. -/
inductive FenceReason where
  | cancel
  | recovery
deriving DecidableEq, Repr

/-- What `_fence_in_transaction` asks of the caller. -/
def fenceAuthority (s : Registry) (turn : ConversationTurn) (runId : String) (reason : FenceReason) :
    Option ConversationClaim → Except StoreError Unit
  | some claim => do
      let held ← owned svc s claim
      refuse (held.binding.runId ≠ runId) ownershipUnavailable
  | none => refuse (reason = .cancel ∧ (turn.status ≠ .waiting ∨ turn.activeClaimId ≠ none))
      ownershipUnavailable

/-- The status in which a fence leaves a run that has not ended. -/
def FenceReason.runStatus : FenceReason → RunStatus
  | .cancel => .cancelled
  | .recovery => .failed

/-- The event of the end of the run. -/
def FenceReason.eventType : FenceReason → String
  | .cancel => "run.cancelled"
  | .recovery => "run.failed"

/-- The reason that the event names. -/
def FenceReason.text : FenceReason → String
  | .cancel => "conversation_cancelled"
  | .recovery => "operator_confirmed_owner_stopped"

/-- The run as a fence leaves it. -/
def fencedRun (run : Run) (reason : FenceReason) (now : Timestamp) : Run :=
  if isTerminal run.status = true then run
  else { run with status := reason.runStatus, updatedAt := now }

/-- The run is ended, unless it has ended. -/
def endRun (run : Run) (reason : FenceReason) : RegistryTxn Unit :=
  if isTerminal run.status = true then return ()
  else do
    let _ ← onDatabase (onStore (saveRun svc.toServices (amb.after 1)
      (fencedRun run reason (amb.clock 0)) reason.eventType
      (JsonValue.object [("reason", .str reason.text)])))

/-- The claim under which the turn is owned is ended, if there is one. -/
def fenceClaim : Option String → RegistryTxn Unit
  | none => return ()
  | some claimId => do
      let row ← reading fun s => demand invalid (s.claim? claimId)
      let claim ← reading fun s => claimRowOf svc s row
      endClaim svc amb 2 claim .fenced

/-- The turn behind a fence. -/
def fencedTurn (turn : ConversationTurn) (run : Run) (now : Timestamp) : ConversationTurn :=
  { turn with
    revision := turn.revision + 1
    status := .recoveryRequired
    activeClaimId := none
    observedRunStatus := run.status
    updatedAt := now
    fencedAt := some (turn.fencedAt.getD now)
    settledAt := none }

/-- `_fence_in_transaction`. -/
def fence (runId : String) (expectedRevision : ℤ) (reason : FenceReason)
    (claim : Option ConversationClaim) : RegistryTxn ConversationTurn := do
  let turn ← reading fun s => requireTurn svc s runId
  reading fun _ => checkRevision turn.revision expectedRevision
  reading fun s => fenceAuthority svc s turn runId reason claim
  refuseIf (turn.status.isActive = false) ownershipUnavailable
  let conversation ← reading fun s =>
    conversationOf svc s turn.binding.projectId turn.binding.conversationId
  let run ← reading fun s => runOf svc s runId
  endRun svc amb run reason
  fenceClaim svc amb turn.activeClaimId
  let updated := fencedTurn turn (fencedRun run reason (amb.clock 0)) (amb.clock 4)
  updateTurn svc amb 5 updated "conversation.turn_fenced"
  advance svc amb 6 conversation updated
  return updated

/-- `reconcile_fenced`. -/
def reconcileFenced (runId : String) (expectedRevision : ℤ)
    (summary : Option ConversationSummary) (refs : List ConversationArtifactRef) :
    RegistryTxn ConversationTurn := do
  let turn ← reading fun s => requireTurn svc s runId
  reading fun _ => checkRevision turn.revision expectedRevision
  let run ← reading fun s => runOf svc s runId
  refuseIf (turn.status ≠ .recoveryRequired ∨ turn.activeClaimId ≠ none
    ∨ isTerminal run.status = false) ownershipUnavailable
  let held ← reading fun s => outstanding svc reads s run
  refuseIf (held = true) ownershipUnavailable
  let conversation ← reading fun s =>
    conversationOf svc s turn.binding.projectId turn.binding.conversationId
  let updated ← reading fun s => settledUpdate svc reads s turn summary refs (amb.clock 0)
  updateTurn svc amb 1 updated "conversation.turn_reconciled"
  advance svc amb 2 conversation updated
  return updated

end AgentFleet.Conversations
