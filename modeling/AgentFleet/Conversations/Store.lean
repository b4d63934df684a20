import AgentFleet.Database.Machine
import AgentFleet.Domain.Conversation
import AgentFleet.Domain.Security
import AgentFleet.Lib.Checks
import AgentFleet.Lib.Keyed

/-! # The conversation store: tables and validated reads

Three tables hold the conversations, their turns and the claims under which a turn was owned; the
runs, the journal and the graphs are those of `Database`.  A row is its decoded record; a column
that every write copies from the record is not kept twice.

Every read validates what it returns: `conversationOf` a conversation with the count of its turns,
`claimRowOf` a claim, `turnOf` a turn with its run and its claims.  A record has a receipt in the
journal, which names its digest.  `recoverySnapshot` is what a reviewer sees, and
`assertRecoveryPlan` compares it with a plan and the plan's own events. -/

namespace AgentFleet.Conversations

open Relational Transaction Checks

/-! ### Errors and services -/

/-- `_invalid`. -/
def invalid : StoreError :=
  .fleet {
    code := .recoveryRequired
    message := "The durable conversation identity, history, or ownership is inconsistent."
    remediation := "Inspect the exact conversation and Run; do not replay uncertain work." }

/-- `_denied`. -/
def denied : StoreError :=
  .fleet {
    code := .commandDenied
    message := "The conversation submission or bounded context cannot be accepted."
    remediation := "Inspect the current turn and reuse its exact submission key "
      ++ "or select another conversation." }

/-- `ConversationOwnershipUnavailableError`. -/
def ownershipUnavailable : StoreError :=
  .fleet {
    code := .recoveryRequired
    message := "Conversation execution ownership is unavailable."
    remediation :=
      "Inspect the exact turn; do not replay uncertain work or clean another owner." }

/-- What a SQLite error becomes. -/
def storeUnavailable : FleetError where
  code := .stateUnavailable
  message := "The durable conversation store is unavailable."
  remediation := "Restore the selected local state before starting or resuming a turn."

/-- `_boundary`. -/
def boundary : StoreError → StoreError
  | .fleet error => .fleet error
  | .validation => invalid
  | .integrity => .fleet storeUnavailable

/-- What the store is constructed with; its redactor is that of the registered forms. -/
structure ConversationServices extends DatabaseServices, ConversationModels where
  forms : List SecretForm
  registered : redactor = Redactor.ofForms forms
  /-- `event.model_dump_json()` -/
  eventText : FleetEvent → String
  /-- `hashlib.sha256(goal.encode("utf-8")).hexdigest()` -/
  goalSha256 : String → Sha256
  /-- `datetime.fromisoformat`, which reads back what `isoformat` wrote -/
  fromIsoformat : String → Option Timestamp
  isoformat_read : ∀ instant, fromIsoformat (isoTimestamp instant) = some instant
  /-- a graph store was given, over the same database -/
  graphsAttached : Bool := true

/-- What a transaction reads beside the tables. -/
structure ConversationReads where
  graph : GraphReads
  /-- `check_organization_admission`. -/
  admission : Run → Except StoreError Unit
  /-- The rows of graphs and nodes that `_outstanding` decodes hold no secret and are short. -/
  graphLegible : Bool

section Legible

variable (svc : ConversationServices)

/-- `_clean` on a text. -/
def ConversationServices.cleanText (text : String) : Bool := !holdsSecret svc.forms text

/-- `_clean` on a document. -/
def ConversationServices.cleanValue (value : JsonValue) : Bool := !valueHoldsSecret svc.forms value

/-- `_clean` on the dump of a record. -/
def ConversationServices.clean (record : ConversationRecord) : Bool :=
  svc.cleanValue (svc.dump record)

/-- What `_decode` checks of a text before it is parsed. -/
def ConversationServices.legibleText (text : String) : Bool :=
  svc.cleanText text && text.utf8ByteSize ≤ 1048576

/-- What `_decode` checks of the text of a record. -/
def ConversationServices.legible (record : ConversationRecord) : Bool :=
  svc.legibleText (svc.text record)

/-- What `_identifier` checks. -/
def ConversationServices.identifies (kind value : String) : Bool :=
  hasIdentity kind 32 value && svc.cleanText value

/-- `canonical_json_hash` of the dump of a record. -/
def ConversationServices.digestOf (record : ConversationRecord) : Sha256 :=
  svc.canonicalJsonHash (svc.dump record)

/-- `context.context_sha256`. -/
def ConversationServices.contextSha256 (context : ConversationContext) : Sha256 :=
  svc.digestOf (.context context)

/-- `ConversationTurn` validates. -/
def ConversationServices.validTurn (turn : ConversationTurn) : Bool :=
  turn.validates svc.toConversationModels (svc.contextSha256 turn.context)

end Legible

/-! ### Tables -/

/-- A row of `conversations`. -/
structure ConversationRow where
  conversation : Conversation
  recordEventId : String
deriving DecidableEq

/-- A row of `conversation_turns`. -/
structure TurnRow where
  turn : ConversationTurn
  recordEventId : String
deriving DecidableEq

/-- A row of `conversation_turn_claims`. -/
structure TurnClaimRow where
  claim : ConversationClaim
  status : TurnClaimStatus := .active
  releasedAt : Option Timestamp := none
  recordEventId : String
deriving DecidableEq

/-- `conversation_id`. -/
def ConversationRow.conversationId (row : ConversationRow) : String :=
  row.conversation.conversationId

/-- `conversation_id`. -/
def TurnRow.conversationId (row : TurnRow) : String := row.turn.binding.conversationId

/-- `turn_id`. -/
def TurnRow.turnId (row : TurnRow) : String := row.turn.binding.turnId

/-- `run_id`. -/
def TurnRow.runId (row : TurnRow) : String := row.turn.binding.runId

/-- `sequence`. -/
def TurnRow.sequence (row : TurnRow) : ℕ := row.turn.binding.sequence

/-- `submission_key`. -/
def TurnRow.submissionKey (row : TurnRow) : String := row.turn.binding.submissionKey

/-- The status is in `_ACTIVE`. -/
def TurnRow.isActive (row : TurnRow) : Bool := row.turn.status.isActive

/-- `claim_id`. -/
def TurnClaimRow.claimId (row : TurnClaimRow) : String := row.claim.claimId

/-- `turn_id`. -/
def TurnClaimRow.turnId (row : TurnClaimRow) : String := row.claim.turnId

/-- `generation`. -/
def TurnClaimRow.generation (row : TurnClaimRow) : ℕ := row.claim.generation

/-- The status is `active`. -/
def TurnClaimRow.isActive (row : TurnClaimRow) : Bool := row.status = .active

instance : Constrained ConversationRow where
  clash a b := a.conversationId = b.conversationId
  symm _ _ h := h.symm
  decidableClash _ _ := inferInstanceAs (Decidable (_ = _))

instance : Constrained TurnRow where
  clash a b := a.turnId = b.turnId ∨ a.runId = b.runId
    ∨ a.conversationId = b.conversationId ∧ (a.sequence = b.sequence
      ∨ a.submissionKey = b.submissionKey ∨ a.isActive = true ∧ b.isActive = true)
  symm := by
    rintro a b (h | h | ⟨h, hseq | hkey | ⟨ha, hb⟩⟩)
    · exact .inl h.symm
    · exact .inr (.inl h.symm)
    · exact .inr (.inr ⟨h.symm, .inl hseq.symm⟩)
    · exact .inr (.inr ⟨h.symm, .inr (.inl hkey.symm)⟩)
    · exact .inr (.inr ⟨h.symm, .inr (.inr ⟨hb, ha⟩)⟩)
  decidableClash _ _ := inferInstanceAs (Decidable (_ ∨ _ ∨ _ ∧ (_ ∨ _ ∨ _ ∧ _)))

instance : Constrained TurnClaimRow where
  clash a b := a.claimId = b.claimId
    ∨ a.turnId = b.turnId ∧ (a.generation = b.generation ∨ a.isActive = true ∧ b.isActive = true)
  symm := by
    rintro a b (h | ⟨h, hgen | ⟨ha, hb⟩⟩)
    · exact .inl h.symm
    · exact .inr ⟨h.symm, .inl hgen.symm⟩
    · exact .inr ⟨h.symm, .inr ⟨hb, ha⟩⟩
  decidableClash _ _ := inferInstanceAs (Decidable (_ ∨ _ ∧ (_ ∨ _ ∧ _)))

instance : Constrained ConversationProject where
  clash a b := a.projectId = b.projectId ∨ a.canonicalRoot = b.canonicalRoot
  symm _ _ h := h.imp Eq.symm Eq.symm
  decidableClash _ _ := inferInstanceAs (Decidable (_ ∨ _))

instance : Constrained ArtifactMetadata where
  clash a b := a.artifactId = b.artifactId
  symm _ _ h := h.symm
  decidableClash _ _ := inferInstanceAs (Decidable (_ = _))

instance : Constrained ResourceLease where
  clash a b := a.leaseId = b.leaseId
  symm _ _ h := h.symm
  decidableClash _ _ := inferInstanceAs (Decidable (_ = _))

/-- The tables that other stores write and this one reads. -/
structure SharedTables where
  projects : Table ConversationProject
  artifacts : Table ArtifactMetadata
  leases : Table ResourceLease

/-- The state of the store. -/
structure Registry where
  database : Database
  shared : SharedTables
  conversations : Table ConversationRow
  turns : Table TurnRow
  claims : Table TurnClaimRow

/-! ### Queries -/

namespace Registry

variable (s : Registry)

/-- The journal. -/
def events : List FleetEvent := s.database.store.runEvents

/-- The row of an event. -/
def event? (eventId : String) : Option FleetEvent :=
  s.events.find? fun event => event.eventId = eventId

/-- The row of a project. -/
def project? (projectId : String) : Option ConversationProject :=
  s.shared.projects.find? fun row => row.projectId = projectId

/-- The row of a conversation. -/
def conversation? (conversationId : String) : Option ConversationRow :=
  s.conversations.find? fun row => row.conversationId = conversationId

/-- The row of a turn. -/
def turn? (turnId : String) : Option TurnRow := s.turns.find? fun row => row.turnId = turnId

/-- The row of the turn of a run. -/
def turnByRun? (runId : String) : Option TurnRow := s.turns.find? fun row => row.runId = runId

/-- The row under a submission key. -/
def turnByKey? (conversationId submissionKey : String) : Option TurnRow :=
  s.turns.find? fun row =>
    row.conversationId = conversationId && row.submissionKey = submissionKey

/-- The turns of a conversation. -/
def turnsOf (conversationId : String) : List TurnRow :=
  s.turns.rows.filter fun row => row.conversationId = conversationId

/-- The claims of a turn. -/
def claimsOf (turnId : String) : List TurnClaimRow :=
  s.claims.rows.filter fun row => row.turnId = turnId

/-- The row of a claim. -/
def claim? (claimId : String) : Option TurnClaimRow :=
  s.claims.find? fun row => row.claimId = claimId

/-- The claim of a turn with a generation. -/
def claimAt? (turnId : String) (generation : ℕ) : Option TurnClaimRow :=
  s.claims.find? fun row => row.turnId = turnId && row.generation = generation

/-- The leases of a run. -/
def leasesOf (runId : String) : List ResourceLease :=
  s.shared.leases.rows.filter fun lease => lease.runId = runId

/-- The graphs with the store. -/
def graphState : GraphState := ⟨s.database.store, s.database.graphs⟩

end Registry

variable (svc : ConversationServices) (reads : ConversationReads) (s : Registry)

/-! ### Digests -/

/-- The members of a run under `_RUN_IDENTITY`. -/
def runIdentity (run : Run) : JsonObject :=
  let fixed := run.registration
  JsonValue.object [
    ("run_id", .str run.runId),
    ("project_id", .str run.projectId),
    ("correlation_id", .str run.correlationId),
    ("goal", .str run.goal),
    ("base_revision", .str run.baseRevision),
    ("target_status_fingerprint", .str fixed.targetStatusFingerprint),
    ("runtime_name", .str fixed.runtimeName),
    ("provider_model", .ofOption fixed.providerModel),
    ("credential_ref", .ofOption fixed.credentialRef),
    ("sandbox_name", .str fixed.sandboxName),
    ("sandbox_configuration", .ofOption fixed.sandboxConfiguration),
    ("sandbox_configuration_hash", .ofOption (fixed.sandboxConfigurationHash.map Sha256.hex)),
    ("sandbox_requirements", .ofOption fixed.sandboxRequirements),
    ("sandbox_capabilities_snapshot", .ofOption fixed.sandboxCapabilitiesSnapshot),
    ("sandbox_capabilities_hash", .ofOption (fixed.sandboxCapabilitiesHash.map Sha256.hex)),
    ("sandbox_image_identity", .ofOption fixed.sandboxImageIdentity),
    ("sandbox_daemon_identity", .ofOption (fixed.sandboxDaemonIdentity.map Sha256.hex)),
    ("unsafe_local_confirmed", .bool fixed.unsafeLocalConfirmed),
    ("fake_scenario", .str fixed.fakeScenario),
    ("max_repair_iterations", .int fixed.maxRepairIterations),
    ("created_at", .str (svc.toGraphServices.isoTimestamp fixed.createdAt)),
    ("parent_run_id", .ofOption run.parentRunId),
    ("parent_plan_sha256", .ofOption (fixed.parentPlanSha256.map Sha256.hex)),
    ("parent_node_id", .ofOption fixed.parentNodeId),
    ("parent_iteration", .ofOptionInt (fixed.parentIteration.map Int.ofNat))]

/-- `_run_hash`. -/
def runHash (run : Run) : Sha256 :=
  let bound := match run.registration.modelBindingsSha256 with
    | some sha256 => JsonValue.setField "model_bindings_sha256" (.str sha256.hex)
        (runIdentity svc run)
    | none => runIdentity svc run
  svc.canonicalJsonHash (.obj (if run.registration.planReviewRequired = true then
    JsonValue.setField "plan_review_required" (.bool true) bound else bound))

/-- `_submission_hash`. -/
def submissionHash (submission : ConversationSubmission) (run : Run) (configHash : Sha256)
    (limits : RunBudgetLimits) : Sha256 :=
  svc.canonicalJsonHash (.obj (JsonValue.object [
    ("project_id", .str submission.projectId),
    ("conversation_id", .str submission.conversationId),
    ("user_goal_sha256", .str (svc.goalSha256 run.goal).hex),
    ("context_sha256", .str (svc.contextSha256 submission.context).hex),
    ("user_summary", svc.dump (.summary submission.userSummary)),
    ("budget_limits", limits.modelDump),
    ("config_snapshot_sha256", .str configHash.hex)]))

/-- The document of the row of a claim. -/
def claimValue (claim : ConversationClaim) (status : TurnClaimStatus)
    (releasedAt : Option Timestamp) : JsonValue :=
  .obj (JsonValue.object [
    ("claim", svc.dump (.claim claim)),
    ("status", .str status.value),
    ("released_at", .ofOption (releasedAt.map svc.toGraphServices.isoTimestamp))])

/-- The text under a key. -/
def textField? (fields : JsonObject) (key : String) : Option String :=
  match JsonValue.field? fields key with
  | some (.str text) => some text
  | _ => none

/-- The payload of the receipt of a document. -/
def receiptPayload (recordType recordId : String) (value : JsonValue) : JsonObject :=
  textFields [
    ("record_type", recordType),
    ("record_id", recordId),
    ("record_sha256", (svc.canonicalJsonHash value).hex)]

/-! ### Validated reads -/

/-- `_validated_run`. -/
def runOf (runId : String) : Except StoreError Run :=
  Prod.fst <$> validatedRun svc.toServices runId s.database.store

/-- `_project`. -/
def projectOf (projectId : String) : Except StoreError ConversationProject := do
  refuse (svc.identifies "prj" projectId = false) invalid
  let project ← demand invalid (s.project? projectId)
  refuse (svc.legible (.project project) = false) invalid
  return project

/-- `_receipt`. -/
def receiptOf (eventId projectId : String) (runId : Option String) (recordType recordId : String)
    (value : JsonValue) : Except StoreError Unit := do
  let event ← demand invalid (s.event? eventId)
  refuse (svc.legibleText (svc.eventText event) = false) invalid
  refuse (event.projectId ≠ projectId ∨ event.runId ≠ runId
    ∨ textStartsWith event.eventType "conversation." = false
    ∨ JsonValue.pyEqFields event.payload (receiptPayload svc recordType recordId value) = false)
    invalid

/-- The turns of a conversation are counted by its next sequence, and its active turn is the one
turn in an active status. -/
def turnsCounted (value : Conversation) : Prop :=
  (s.turnsOf value.conversationId).length + 1 = value.nextTurnSequence
    ∧ ((s.turnsOf value.conversationId).map TurnRow.sequence).foldr max 0 + 1
        = value.nextTurnSequence
    ∧ (((s.turnsOf value.conversationId).filter TurnRow.isActive).take 2).map TurnRow.turnId
        = value.activeTurnId.toList
deriving Decidable

/-- `_conversation`. -/
def conversationOf (projectId conversationId : String) : Except StoreError Conversation := do
  refuse (svc.identifies "conv" conversationId = false) invalid
  let project ← projectOf svc s projectId
  let row ← demand invalid (s.conversation? conversationId)
  let value := row.conversation
  refuse (svc.legible (.conversation value) = false
    ∨ value.validates svc.toConversationModels = false) invalid
  refuse (value.projectId ≠ projectId ∨ value.repositoryIdentity ≠ project.identityHash) invalid
  receiptOf svc s row.recordEventId projectId none "conversation" conversationId
    (svc.dump (.conversation value))
  refuse (¬ turnsCounted s value) invalid
  return value

/-- The events that `_created_binding` selects. -/
def Registry.createdEvents (runId : String) : List FleetEvent :=
  s.events.filter fun event => event.runId = some runId ∧ event.eventType = "run.created"

/-- `_created_binding`. -/
def createdBinding (run : Run) : Except StoreError JsonObject := do
  refuse ((s.createdEvents run.runId).length ≠ 1) invalid
  let event ← demand invalid (s.createdEvents run.runId).head?
  refuse (svc.legibleText (svc.eventText event) = false) invalid
  refuse (event.projectId ≠ run.projectId) invalid
  return event.payload

/-- `_claim_row`. -/
def claimRowOf (row : TurnClaimRow) : Except StoreError ConversationClaim := do
  refuse (svc.legible (.claim row.claim) = false
    ∨ row.claim.validates svc.toConversationModels = false) invalid
  refuse (¬ (row.status = .active ↔ row.releasedAt = none)) invalid
  receiptOf svc s row.recordEventId row.claim.projectId (some row.claim.runId) "claim"
    row.claim.claimId (claimValue svc row.claim row.status row.releasedAt)
  return row.claim

/-- What `_validate_refs` checks of one reference. -/
def validateRef (run : Run) (ref : ConversationArtifactRef) : Except StoreError Unit := do
  refuse (svc.clean (.artifactRef ref) = false
    ∨ ref.validates svc.toConversationModels = false) invalid
  let metadata ← demand invalid (s.shared.artifacts.find? fun row =>
    row.artifactId = ref.artifactId)
  refuse (svc.legible (.artifact metadata) = false) invalid
  refuse (ref.runId ≠ run.runId ∨ metadata.runId ≠ some run.runId
    ∨ metadata.projectId ≠ run.projectId ∨ metadata.taskId ≠ run.taskId
    ∨ metadata.sha256 ≠ ref.sha256 ∨ metadata.kind ≠ ref.kind) invalid

/-- `_validate_refs`. -/
def validateRefs (run : Run) (refs : List ConversationArtifactRef) : Except StoreError Unit := do
  refuse (8 < refs.length ∨ ¬ (refs.map ConversationArtifactRef.artifactId).Nodup) invalid
  refs.forM (validateRef svc s run)

/-- What `_turn` checks of the run of a turn. -/
def validateTurnRun (projectId : String) (binding : ConversationRunBinding) (run : Run) :
    Except StoreError Unit := do
  refuse (run.projectId ≠ projectId ∨ runHash svc run ≠ binding.runBindingSha256
    ∨ svc.goalSha256 run.goal ≠ binding.userGoalSha256
    ∨ (run.configSnapshotHash ≠ none
      ∧ run.configSnapshotHash ≠ some binding.configSnapshotSha256)) invalid
  let receipt ← createdBinding svc s run
  refuse (textField? receipt "conversation_id" ≠ some binding.conversationId
    ∨ textField? receipt "conversation_turn_id" ≠ some binding.turnId
    ∨ textField? receipt "conversation_binding_sha256"
        ≠ some (svc.digestOf (.binding binding)).hex) invalid

/-- The claims of a turn are counted by its owner generation, and its active claim is the one
claim that is active. -/
def claimsCounted (turn : ConversationTurn) : Prop :=
  (s.claimsOf turn.binding.turnId).length = turn.ownerGeneration
    ∧ ((s.claimsOf turn.binding.turnId).map TurnClaimRow.generation).foldr max 0
        = turn.ownerGeneration
    ∧ (((s.claimsOf turn.binding.turnId).filter TurnClaimRow.isActive).take 2).map
        TurnClaimRow.claimId = turn.activeClaimId.toList
deriving Decidable

/-- What `_turn` checks of the claims of a turn. -/
def validateTurnClaims (turn : ConversationTurn) : Except StoreError Unit := do
  refuse (¬ claimsCounted s turn) invalid
  let row ← demand invalid (s.claimAt? turn.binding.turnId turn.ownerGeneration)
  let claim ← claimRowOf svc s row
  refuse (claim.projectId ≠ turn.binding.projectId
    ∨ claim.conversationId ≠ turn.binding.conversationId
    ∨ claim.turnId ≠ turn.binding.turnId ∨ claim.runId ≠ turn.binding.runId) invalid

/-- `_turn`. -/
def turnOf (projectId turnId : String) : Except StoreError ConversationTurn := do
  refuse (svc.identifies "turn" turnId = false) invalid
  let row ← demand invalid (s.turn? turnId)
  let turn := row.turn
  refuse (svc.legible (.turn turn) = false ∨ svc.validTurn turn = false) invalid
  refuse (svc.legible (.binding turn.binding) = false) invalid
  let conversation ← conversationOf svc s projectId turn.binding.conversationId
  refuse (turn.binding.projectId ≠ projectId
    ∨ turn.binding.repositoryIdentity ≠ conversation.repositoryIdentity
    ∨ ¬ (turn.status.isActive = true ↔ conversation.activeTurnId = some turnId)) invalid
  receiptOf svc s row.recordEventId projectId (some turn.binding.runId) "turn" turnId
    (svc.dump (.turn turn))
  let run ← runOf svc s turn.binding.runId
  validateTurnRun svc s projectId turn.binding run
  validateTurnClaims svc s turn
  validateRefs svc s run turn.artifactRefs
  return turn

/-- The prefix of the members by which a run is bound to a turn. -/
def namesConversation (payload : JsonObject) : Prop :=
  ∃ entry ∈ payload, textStartsWith entry.1 "conversation_" = true
deriving Decidable

/-- `_turn_for_run`. -/
def turnForRun (runId : String) : Except StoreError (Option ConversationTurn) := do
  refuse (svc.identifies "run" runId = false) invalid
  let run ← runOf svc s runId
  match s.turnByRun? runId with
  | none => do
      let receipt ← createdBinding svc s run
      refuse (namesConversation receipt) invalid
      return none
  | some row => some <$> turnOf svc s run.projectId row.turnId

/-- The turn of a run that has one. -/
def requireTurn (runId : String) : Except StoreError ConversationTurn := do
  let turn ← turnForRun svc s runId
  demand invalid turn

/-- `_revision`. -/
def checkRevision (actual : ℕ) (expected : ℤ) : Except StoreError Unit :=
  refuse (expected ≠ actual) ownershipUnavailable

/-- `_owned`. -/
def owned (claim : ConversationClaim) : Except StoreError ConversationTurn := do
  refuse (svc.clean (.claim claim) = false
    ∨ claim.validates svc.toConversationModels = false) invalid
  let turn ← turnOf svc s claim.projectId claim.turnId
  refuse (turn.status ≠ .running ∨ turn.activeClaimId ≠ some claim.claimId) ownershipUnavailable
  let row ← demand ownershipUnavailable (s.claim? claim.claimId)
  let stored ← claimRowOf svc s row
  refuse (stored ≠ claim) ownershipUnavailable
  return turn

/-! ### Outstanding work -/

/-- What `_outstanding` checks of one node: whether its run has not ended. -/
def outstandingChild (run : Run) (graph : GraphSnapshot) (record : GraphNodeRecord) :
    Except StoreError Bool := do
  let child ← runOf svc s record.binding.childRunId
  refuse ((Keyed.get? (fun node : GraphNodeRecord => node.binding.childRunId) graph.nodes
      record.binding.childRunId).map GraphNodeRecord.binding ≠ some record.binding
    ∨ record.binding.parentRunId ≠ run.runId ∨ record.binding.projectId ≠ run.projectId
    ∨ child.projectId ≠ run.projectId ∨ child.parentRunId ≠ some run.runId
    ∨ child.registration.parentPlanSha256 ≠ some record.binding.planSha256
    ∨ child.registration.parentNodeId ≠ some record.binding.nodeId
    ∨ child.registration.parentIteration ≠ some 0) invalid
  return !isTerminal child.status

/-- What `_outstanding` checks of the graph of a run: the runs of its nodes, and whether a driver
or a run is still at work. -/
def outstandingGraph (run : Run) : Except StoreError (List String × Bool) :=
  match s.database.graphs.graph? run.runId with
  | none => do
      refuse (∃ event ∈ s.events,
        event.runId = some run.runId ∧ event.eventType = "graph.initialized") invalid
      return ([], false)
  | some row => do
      refuse (reads.graphLegible = false) invalid
      refuse (row.graph.projectId ≠ run.projectId) invalid
      let records := s.database.graphs.nodes.rows.filter fun record =>
        record.binding.parentRunId = run.runId
      refuse (records.length ≠ row.graph.nodes.length ∨ 16 < records.length) invalid
      let open_ ← records.mapM (outstandingChild svc s run row.graph)
      return (records.map fun record => record.binding.childRunId,
        row.graph.driverClaim.isSome || open_.any id)

/-- The lease has ended. -/
def leaseEnded (lease : ResourceLease) : Bool :=
  lease.status = .released || lease.status = .recovered

/-- What `_outstanding` checks of the leases of a run. -/
def outstandingLeases (runId : String) : Except StoreError Bool := do
  refuse (4096 < (s.leasesOf runId).length) invalid
  refuse ((s.leasesOf runId).any fun lease => !svc.legible (.lease lease)
    || !lease.validates) invalid
  return (s.leasesOf runId).any fun lease => !leaseEnded lease

/-- `_outstanding`. -/
def outstanding (run : Run) : Except StoreError Bool := do
  let (children, working) ← outstandingGraph svc reads s run
  let held ← (run.runId :: children).mapM (outstandingLeases svc s)
  return working || held.any id

/-! ### Reviewed recovery -/

/-- The graph of a run, as the graph store reads it. -/
def graphOf (runId : String) : Except StoreError (Option GraphSnapshot) :=
  Prod.fst <$> getGraph svc.toGraphServices reads.graph runId s.graphState

/-- The children of a run that its graph declares. -/
def declaredChildren (graph : Option GraphSnapshot) : List String :=
  graph.toList.flatMap fun graph => graph.nodes.map fun node => node.binding.childRunId

/-- The runs registered under a parent, `ORDER BY run_id LIMIT 130`. -/
def Registry.childRuns (runId : String) : List String :=
  ((((s.database.store.records.runs.rows.filter fun row =>
    row.run.parentRunId = some runId).map fun row => row.run.runId).mergeSort
      fun a b => a ≤ b)).take 130

/-- The runs of the nodes under a parent, `ORDER BY child_run_id LIMIT 130`. -/
def Registry.nodeRuns (runId : String) : List String :=
  ((((s.database.graphs.nodes.rows.filter fun record =>
    record.binding.parentRunId = runId).map fun record => record.binding.childRunId).mergeSort
      fun a b => a ≤ b)).take 130

/-- The runs, graphs and leases that the walk of `_recovery_snapshot` has collected. -/
structure RecoveryWalk where
  runs : List Run := []
  graphs : List GraphSnapshot := []
  leases : List ResourceLease := []

/-- One round of the walk of `_recovery_snapshot`; also the children that it goes on with. -/
def walkRun (projectId runId : String) (walk : RecoveryWalk) :
    Except StoreError (RecoveryWalk × List String) := do
  let run ← runOf svc s runId
  refuse (run.projectId ≠ projectId ∨ (walk.runs = [] ∧ run.parentRunId ≠ none)) invalid
  let graph ← graphOf svc reads s runId
  let children := declaredChildren graph
  let sorted := children.mergeSort fun a b => a ≤ b
  refuse (s.childRuns runId ≠ sorted ∨ s.nodeRuns runId ≠ sorted) invalid
  let leases := (s.leasesOf runId).mergeSort fun a b => a.leaseId ≤ b.leaseId
  refuse (256 < walk.leases.length + (leases.take 257).length) invalid
  refuse (leases.any fun lease => !svc.legible (.lease lease) || !lease.validates) invalid
  return (⟨walk.runs ++ [run], walk.graphs ++ graph.toList, walk.leases ++ leases⟩, children)

/-- The walk of `_recovery_snapshot` from the pending runs; a run is seen once, and at most 129
are. -/
def walkRuns (projectId : String) : ℕ → List String → List String → RecoveryWalk →
    Except StoreError RecoveryWalk
  | _, [], _, walk => .ok walk
  | 0, _ :: _, _, _ => .error invalid
  | fuel + 1, runId :: pending, seen, walk => do
      refuse (runId ∈ seen) invalid
      let (walk, children) ← walkRun svc reads s projectId runId walk
      walkRuns projectId fuel (pending ++ children) (runId :: seen) walk

/-- `_recovery_snapshot`. -/
def recoverySnapshot (selection : SessionSelection) : Except StoreError RecoverySnapshot := do
  let runId ← demand invalid selection.runId
  refuse (svc.graphsAttached = false) invalid
  let conversation ← conversationOf svc s selection.projectId selection.conversationId
  checkRevision conversation.revision selection.conversationRevision
  let turn ← requireTurn svc s runId
  refuse (turn.binding.conversationId ≠ selection.conversationId
    ∨ turn.binding.projectId ≠ selection.projectId
    ∨ turn.binding.sequence + 1 ≠ conversation.nextTurnSequence) invalid
  let row ← demand invalid (s.claimAt? turn.binding.turnId turn.ownerGeneration)
  let claim ← claimRowOf svc s row
  let walk ← walkRuns svc reads s selection.projectId 129 [runId] [] {}
  let project ← projectOf svc s selection.projectId
  let snapshot : RecoverySnapshot := {
    selection := selection
    project := project
    conversation := conversation
    turn := turn
    claim := claim
    claimStatus := row.status
    claimReleasedAt := row.releasedAt
    runs := walk.runs
    graphs := walk.graphs
    leases := walk.leases.mergeSort fun a b => a.leaseId ≤ b.leaseId }
  refuse (snapshot.validates = false) invalid
  return snapshot

/-- What `_recoverable` admits. -/
def recoverableStatus (snapshot : RecoverySnapshot) (run : Run) : Prop :=
  let retained := snapshot.turn.activeClaimId ≠ none ∨ snapshot.turn.status = .recoveryRequired
  let graphOwner := ∃ graph ∈ snapshot.graphs, graph.driverClaim ≠ none
  let held := ∃ lease ∈ snapshot.leases, leaseEnded lease = false
  (isTerminal run.status = true ∨ run.status = .running ∨ run.status = .applying ∨ retained
    ∨ (graphOwner ∧ (run.status = .pausedForApproval ∨ run.status = .waitingForChildren)))
  ∧ ¬ (isTerminal run.status = true ∧ ¬ held ∧ ¬ retained ∧ ¬ graphOwner)
deriving Decidable

/-- The root run of a snapshot. -/
def rootOf (snapshot : RecoverySnapshot) : Except StoreError Run :=
  demand invalid snapshot.runs.head?

/-- `_recoverable`. -/
def recoverable (snapshot : RecoverySnapshot) : Except StoreError Unit := do
  let run ← rootOf snapshot
  refuse (¬ recoverableStatus snapshot run) invalid

/-- `plan.sha256`. -/
def planSha256 (plan : ReviewedRecoveryPlan) : Sha256 := svc.digestOf (.plan plan)

/-- The events of a run in the order of their sequence. -/
def Registry.runEventsOf (runId : String) : List FleetEvent :=
  (s.events.filter fun event => event.runId = some runId).mergeSort
    fun a b => a.sequence ≤ b.sequence

/-- The event types of the progress of a plan. -/
def isLeaseProgress (eventType : String) : Bool :=
  eventType = "conversation.recovery_lease_claimed"
    || eventType = "conversation.recovery_lease_finished"

/-- The events that prepared a plan. -/
def Registry.preparations (runId planId : String) : List FleetEvent :=
  (s.runEventsOf runId).filter fun event =>
    event.eventType = "conversation.recovery_prepared"
      && textField? event.payload "record_id" = some planId

/-- The events that tell the progress of a plan. -/
def Registry.progress (runId planId : String) : List FleetEvent :=
  (s.runEventsOf runId).filter fun event =>
    isLeaseProgress event.eventType && textField? event.payload "plan_id" = some planId

/-- `_recovery_events`. -/
def recoveryEvents (plan : ReviewedRecoveryPlan) : Except StoreError (List FleetEvent) := do
  let original := plan.binding.snapshot
  let root ← rootOf original
  refuse ((s.preparations root.runId plan.planId).length ≠ 1) invalid
  let prepared ← demand invalid (s.preparations root.runId plan.planId).head?
  receiptOf svc s prepared.eventId original.selection.projectId (some root.runId) "recovery_plan"
    plan.planId (svc.dump (.plan plan))
  let events := s.progress root.runId plan.planId
  refuse (512 < events.length) invalid
  refuse (events.any fun event => !svc.legibleText (svc.eventText event)
    || !(event.projectId = original.selection.projectId)
    || !(textField? event.payload "plan_sha256" = some (planSha256 svc plan).hex)) invalid
  return events

end AgentFleet.Conversations
