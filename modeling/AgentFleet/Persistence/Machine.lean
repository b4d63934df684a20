import AgentFleet.Lib.Transition
import AgentFleet.Persistence.Grants
import AgentFleet.Persistence.Runs

/-! # The store as a machine

One input of `storeMachine` is one transaction with arbitrary arguments and arbitrary
surroundings, so a run of the machine is any interleaving of the transactions of any number
of callers.  A transaction that raises leaves the store unchanged.

* `Effect` lists what a committed transaction can do to the records; `effect_of_step` is the
  only place where the transactions are taken apart again.
* `Evolves` is what no transaction can undo: rows keep their identity, claims stay, a settled
  request keeps its resolution, a grant's uses never grow and its revocation stays. -/

namespace AgentFleet

open Relational Transaction Transition

/-- A transaction with its arguments. -/
inductive StoreOp where
  | findIntent (runId idempotencyKey : String)
  | getIntent (intentId : String)
  | getApproval (requestId : String)
  | reserveIntent (intent : ToolIntent) (intentHash : Sha256)
  | claimReservedIntentForDispatch (intentId : String) (intentHash : Sha256)
  | createApprovalAndPause (intent : ToolIntent) (intentHash : Sha256)
      (request : ApprovalRequest)
  | resolveApproval (requestId : String) (args : ResolveArgs)
  | consumeGrantAndReserve (requestId : String) (intentHash : Sha256)
  | revokeGrant (grantId : String)
  | consumeMatchingGrantAndReserve (grantId : String) (intent : ToolIntent)
      (intentHash scopeSha256 : Sha256)
  | reserveTrustRuleIntent (intent : ToolIntent) (intentHash scopeSha256 : Sha256)
      (sourceRuleId : String)
  | completeIntent (intentId : String) (result : JsonObject)
  | denyIntent (intentId : String)
  | createRun (run : Run)
  | saveRun (run : Run) (eventType : String) (payload : JsonObject)
  | saveTask (task : TaskSpec)
  | saveAgentInstance (agent : AgentInstance)
  | appendEvent (event : FleetEvent)

/-- What a transaction returns. -/
inductive StoreResult where
  | found (existing : Option StoredToolIntent)
  | approval (request : ApprovalRequest)
  | intent (stored : StoredToolIntent)
  | won (dispatch : Bool)
  | grant (grant : Option CapabilityGrant)
  | done

variable (svc : Services) (amb : Ambient)

/-- The body of a transaction. -/
def storeBody : StoreOp → StoreTxn StoreResult
  | .findIntent runId idempotencyKey => .found <$> findIntent runId idempotencyKey
  | .getIntent intentId => .intent <$> getIntentById intentId
  | .getApproval requestId => .approval <$> getApproval requestId
  | .reserveIntent intent intentHash =>
      .intent <$> reserveIntent svc amb intent intentHash
  | .claimReservedIntentForDispatch intentId intentHash =>
      .won <$> claimReservedIntentForDispatch svc amb intentId intentHash
  | .createApprovalAndPause intent intentHash request =>
      .intent <$> createApprovalAndPause svc amb intent intentHash request
  | .resolveApproval requestId args => .grant <$> resolveApproval svc amb requestId args
  | .consumeGrantAndReserve requestId intentHash =>
      .intent <$> consumeGrantAndReserve svc amb requestId intentHash
  | .revokeGrant grantId => (fun grant => .grant (some grant)) <$> revokeGrant svc amb grantId
  | .consumeMatchingGrantAndReserve grantId intent intentHash scopeSha256 =>
      .intent <$> consumeMatchingGrantAndReserve svc amb grantId intent intentHash scopeSha256
  | .reserveTrustRuleIntent intent intentHash scopeSha256 sourceRuleId =>
      .intent <$> reserveTrustRuleIntent svc amb intent intentHash scopeSha256 sourceRuleId
  | .completeIntent intentId result => .intent <$> completeIntent svc amb intentId result
  | .denyIntent intentId => (fun _ => .done) <$> denyIntent intentId
  | .createRun run => (fun _ => .done) <$> createRun svc amb run
  | .saveRun run eventType payload => (fun _ => .done) <$> saveRun svc amb run eventType payload
  | .saveTask task => (fun _ => .done) <$> saveTask svc amb task
  | .saveAgentInstance agent => (fun _ => .done) <$> saveAgentInstance agent
  | .appendEvent event => (fun _ => .done) <$> appendEvent svc event

/-- One input: a transaction and what it reads from its surroundings. -/
structure StoreInput where
  op : StoreOp
  amb : Ambient

/-- The store under transactions. -/
def storeMachine : Machine Store StoreInput (Except StoreError StoreResult) where
  step s input :=
    let r := commit (storeBody svc input.amb input.op) s
    (r.2, r.1)

/-! ### Effects -/

/-- What a committed transaction did to the records. -/
inductive Effect : StoreOp → Records → Records → Prop where
  | unchanged (op : StoreOp) (r : Records) : Effect op r r
  | reserved {r r' : Records} {intent : ToolIntent} {intentHash : Sha256}
      (h : r.Inserts { intent, intentHash, status := .reserved } r') :
      Effect (.reserveIntent intent intentHash) r r'
  | dispatched {r r' : Records} {intentId : String} {intentHash : Sha256}
      (h : Dispatched r intentId intentHash r') :
      Effect (.claimReservedIntentForDispatch intentId intentHash) r r'
  | paused {r r' : Records} {intent : ToolIntent} {intentHash : Sha256}
      {request : ApprovalRequest} (h : Paused r intent intentHash request r') :
      Effect (.createApprovalAndPause intent intentHash request) r r'
  | resolved {r r' : Records} {requestId : String} {args : ResolveArgs}
      {request : ApprovalRequest} {grant : Option CapabilityGrant}
      (found : r.approval? requestId = some request)
      (h : Resolved svc amb r request args grant r') :
      Effect (.resolveApproval requestId args) r r'
  | consumed {r r' : Records} {requestId : String} {intentHash : Sha256}
      {stored : StoredToolIntent} (h : Consumed svc amb r requestId stored r') :
      Effect (.consumeGrantAndReserve requestId intentHash) r r'
  | revoked {r : Records} {grantId : String} {row : GrantRow}
      (found : r.grant? grantId = some row) (unrevoked : row.1.revokedAt = none)
      (hrange : { row.1 with revokedAt := some (amb.clock 0) }.usesInRange) :
      Effect (.revokeGrant grantId) r
        (r.withGrant ⟨{ row.1 with revokedAt := some (amb.clock 0) }, hrange⟩)
  | reused {r r' : Records} {grantId : String} {intent : ToolIntent}
      {intentHash scopeSha256 : Sha256} {stored : StoredToolIntent}
      (own : stored.intent = intent) (h : Reused amb r grantId stored r') :
      Effect (.consumeMatchingGrantAndReserve grantId intent intentHash scopeSha256) r r'
  | receipted {r r' : Records} {intent : ToolIntent} {intentHash scopeSha256 : Sha256}
      {sourceRuleId : String} {stored : StoredToolIntent} (own : stored.intent = intent)
      (h : Receipted amb r stored r') :
      Effect (.reserveTrustRuleIntent intent intentHash scopeSha256 sourceRuleId) r r'
  | completed {r : Records} {intentId : String} {result : JsonObject}
      {current : StoredToolIntent} (found : r.intent? intentId = some current)
      (open_ : current.status ≠ .executed) :
      Effect (.completeIntent intentId result) r (r.withIntent { current with
        status := .executed, result := some (svc.redactor.redactData result).1 })
  | denied {r : Records} {intentId : String} {current : StoredToolIntent}
      (found : r.intent? intentId = some current) :
      Effect (.denyIntent intentId) r (r.withIntent { current with status := .denied })
  | runCreated {r : Records} {run : Run} {runs : Table RunRow}
      (h : r.runs.insert { run, projectId := run.projectId } = some runs) :
      Effect (.createRun run) r { r with runs }
  | runSaved {r : Records} {run : Run} {eventType : String} {payload : JsonObject}
      {row : RunRow} (found : r.runRow? run.runId = some row)
      (allowed : transitionAllowed row.run run.status run.stage) :
      Effect (.saveRun run eventType payload) r (r.withRun run)
  | taskSaved {r : Records} {task : TaskSpec} (tasks : Table TaskSpec) :
      Effect (.saveTask task) r { r with tasks }
  | agentSaved {r : Records} {agent : AgentInstance} :
      Effect (.saveAgentInstance agent) r
        { r with agentInstances := upsertAgent r.agentInstances agent }

variable {svc amb}

/-- A committed transaction has one of the listed effects. -/
theorem effect_of_body {op : StoreOp} {s t : Store} {result : StoreResult}
    (h : storeBody svc amb op s = .ok (result, t)) : Effect svc amb op s.records t.records := by
  cases op with
  | findIntent =>
      obtain ⟨existing, h, -⟩ := map_ok.mp h
      exact (findIntent_ok.mp h).2 ▸ .unchanged _ _
  | getIntent =>
      obtain ⟨stored, h, -⟩ := map_ok.mp h
      exact (getIntentById_ok.mp h).2 ▸ .unchanged _ _
  | getApproval =>
      obtain ⟨request, h, -⟩ := map_ok.mp h
      exact (getApproval_ok.mp h).2 ▸ .unchanged _ _
  | reserveIntent =>
      obtain ⟨stored, h, -⟩ := map_ok.mp h
      rcases reserveIntent_ok h with ⟨-, rfl⟩ | ⟨rfl, hins⟩
      · exact .unchanged _ _
      · exact .reserved hins
  | claimReservedIntentForDispatch =>
      obtain ⟨won, h, -⟩ := map_ok.mp h
      rcases claim_ok h with ⟨-, rfl⟩ | ⟨-, hd⟩
      · exact .unchanged _ _
      · exact .dispatched hd
  | createApprovalAndPause =>
      obtain ⟨stored, h, -⟩ := map_ok.mp h
      rcases createApprovalAndPause_ok h with ⟨-, rfl⟩ | hp
      · exact .unchanged _ _
      · exact .paused hp
  | resolveApproval =>
      obtain ⟨grant, h, -⟩ := map_ok.mp h
      obtain ⟨request, hrequest, hr, -⟩ := resolveApproval_ok h
      exact .resolved hrequest hr
  | consumeGrantAndReserve =>
      obtain ⟨stored, h, -⟩ := map_ok.mp h
      rcases consumeGrantAndReserve_ok h with rfl | hc
      · exact .unchanged _ _
      · exact .consumed hc
  | revokeGrant =>
      obtain ⟨grant, h, -⟩ := map_ok.mp h
      rcases revokeGrant_ok h with rfl | ⟨row, hrange, hrow, hnone, hrec⟩
      · exact .unchanged _ _
      · exact hrec ▸ .revoked hrow hnone hrange
  | consumeMatchingGrantAndReserve =>
      obtain ⟨stored, h, -⟩ := map_ok.mp h
      rcases consumeMatchingGrantAndReserve_ok h with rfl | ⟨hi, hr⟩
      · exact .unchanged _ _
      · exact .reused hi hr
  | reserveTrustRuleIntent =>
      obtain ⟨stored, h, -⟩ := map_ok.mp h
      rcases reserveTrustRuleIntent_ok h with rfl | ⟨hi, hr⟩
      · exact .unchanged _ _
      · exact .receipted hi hr
  | completeIntent =>
      obtain ⟨stored, h, -⟩ := map_ok.mp h
      obtain ⟨current, hc, ⟨-, -, rfl⟩ | ⟨hne, rfl, hrec⟩⟩ := completeIntent_ok h
      · exact .unchanged _ _
      · exact hrec ▸ .completed hc hne
  | denyIntent =>
      obtain ⟨_, h, -⟩ := map_ok.mp h
      obtain ⟨current, hc, hrec⟩ := denyIntent_ok h
      exact hrec ▸ .denied hc
  | createRun =>
      obtain ⟨_, h, -⟩ := map_ok.mp h
      obtain ⟨runs, hruns, hrec⟩ := createRun_ok h
      exact hrec ▸ .runCreated hruns
  | saveRun =>
      obtain ⟨_, h, -⟩ := map_ok.mp h
      obtain ⟨row, hrow, hallowed, hrec⟩ := saveRun_ok h
      exact hrec ▸ .runSaved hrow hallowed
  | saveTask =>
      obtain ⟨_, h, -⟩ := map_ok.mp h
      obtain ⟨tasks, hrec⟩ := saveTask_ok h
      exact hrec ▸ .taskSaved tasks
  | saveAgentInstance =>
      obtain ⟨_, h, -⟩ := map_ok.mp h
      exact saveAgentInstance_ok h ▸ .agentSaved
  | appendEvent =>
      obtain ⟨_, h, -⟩ := map_ok.mp h
      simp only [appendEvent, insertEvent_ok] at h
      exact h ▸ .unchanged _ _

/-- A step of the machine has one of the listed effects. -/
theorem effect_of_step (svc : Services) (s : Store) (input : StoreInput) :
    Effect svc input.amb input.op s.records ((storeMachine svc).next s input).records := by
  rcases commit_cases (storeBody svc input.amb input.op) s with ⟨a, t, hok, hc⟩ | ⟨e, -, hc⟩
  · simp only [Machine.next, storeMachine, hc]
    exact effect_of_body hok
  · simp only [Machine.next, storeMachine, hc]
    exact .unchanged _ _

/-- A transaction that returned is a step of the store machine. -/
theorem next_of_body {s t : Store} {op : StoreOp} {result : StoreResult}
    (h : storeBody svc amb op s = .ok (result, t)) : (storeMachine svc).next s ⟨op, amb⟩ = t := by
  simp only [Machine.next, storeMachine, commit, h]

/-! ### A sample store

One running run with its task and its engineer, for the concrete runs beside the theorems. -/

/-- The digest of zeros. -/
def zeroDigest : Sha256 :=
  ⟨"0000000000000000000000000000000000000000000000000000000000000000", by decide⟩

/-- The digest of ones. -/
def oneDigest : Sha256 :=
  ⟨"1111111111111111111111111111111111111111111111111111111111111111", by decide⟩

/-- No registered secret, and a digest that tells `intent_1` from the other intents. -/
def sampleServices : Services where
  redactor :=
    { containsSecretData := fun _ => false
      redactData := fun fields => (fields, [])
      redactText := fun text => (text, []) }
  canonicalJsonHash
    | .obj fields => match JsonValue.field? fields "intent_id" with
        | some (.str intentId) => if intentId = "intent_1" then oneDigest else zeroDigest
        | _ => zeroDigest
    | _ => zeroDigest
  stateRecordSafe := fun _ => true

/-- Surroundings with a constant clock and one fresh identifier. -/
def sampleAmbient (now : Timestamp) (fresh : String) : Ambient where
  clock := fun _ => now
  ids := fun _ => fresh

/-- A run that is implementing. -/
def sampleRun : Run where
  runId := "run_1"
  projectId := "prj_1"
  correlationId := "corr_1"
  goal := "Fix the parser"
  baseRevision := "main"
  status := .running
  stage := some .implementing
  taskId := some "task_1"
  updatedAt := 0

/-- The run's task. -/
def sampleTask : TaskSpec where
  taskId := "task_1"
  runId := "run_1"
  allowedPaths := ["src"]
  forbiddenPaths := []
  acceptanceCriteria := ["criterion_1"]
  requiredEvidence := ["canonical_patch", "command_evidence"]

/-- The run's engineer. -/
def sampleAgent : AgentInstance where
  agentInstanceId := "agent_1"
  runId := "run_1"
  taskId := some "task_1"
  role := "engineer"
  status := .running
  completedAt := none

/-- The run, its task and its engineer. -/
def sampleStore : Store where
  records :=
    { runs := ⟨[⟨sampleRun, "prj_1"⟩], List.pairwise_singleton _ _⟩
      tasks := ⟨[sampleTask], List.pairwise_singleton _ _⟩
      agentInstances := ⟨[⟨sampleAgent, "run_1"⟩], List.pairwise_singleton _ _⟩
      toolIntents := .empty
      approvals := .empty
      capabilityGrants := .empty
      toolDispatchClaims := .empty }
  runEvents := []

/-- A write by the engineer. -/
def sampleAction (idempotencyKey : String) : ScriptedAction where
  action := "workspace.write_file"
  resource := ⟨"path", "src/parser.py"⟩
  parameters := []
  reason := "Handle the empty input"
  sideEffect := true
  idempotencyKey := idempotencyKey

/-- The intent of `sampleAction`. -/
def sampleIntent (intentId idempotencyKey : String) : ToolIntent where
  intentId := intentId
  runId := "run_1"
  taskId := "task_1"
  agentInstanceId := "agent_1"
  principalRole := "engineer"
  workflow := "code-change"
  stage := .implementing
  action := (sampleAction idempotencyKey).action
  resource := (sampleAction idempotencyKey).resource
  parameters := (sampleAction idempotencyKey).parameters
  reason := (sampleAction idempotencyKey).reason
  sideEffect := (sampleAction idempotencyKey).sideEffect
  idempotencyKey := idempotencyKey

/-- The approval request of `intent_1`. -/
def sampleRequest : ApprovalRequest where
  requestId := "perm_1"
  intentId := "intent_1"
  runId := "run_1"
  intentHash := oneDigest
  principalRole := "engineer"
  action := "workspace.write_file"
  resource := ⟨"path", "src/parser.py"⟩
  reason := "Handle the empty input"
  createdAt := 0
  expiresAt := tenMinutes

/-- The sample store after the run paused for `perm_1`. -/
def pausedStore : Store :=
  (storeMachine sampleServices).run sampleStore
    [⟨.createApprovalAndPause (sampleIntent "intent_1" "key_1") oneDigest sampleRequest,
      sampleAmbient 0 "evt_1"⟩]

end AgentFleet
