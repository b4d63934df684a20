import AgentFleet.Persistence.Evolution

/-! # The tool gateway: concurrent calls of `execute`

A call of `ToolGateway.execute` is its position in the source (`CallState`): before each of
its store transactions, while the policy broker decides, while `_execute_reserved` runs, and
at its end.  `CallState.op?` is the transaction a position performs and `CallState.resume`
what the call does with the outcome, so a call is exactly its sequence of transactions.

`gatewayMachine` runs any number of calls against one store.  Its inputs choose who moves,
what the broker decides, what an execution yields, which call crashes, and what users and the
workflow do to the store meanwhile.  Calls that `_validate_context` or the secret screen
refuse touch no table and are not entered; the leases and artifacts that
`_execute_reserved` writes are no part of the records.

* `gateway_refines_store` says that every step is at most one transaction of the store. -/

namespace AgentFleet

open Transaction Transition

variable (svc : Services)

/-! ### Calls -/

/-- The arguments of `execute` that reach the store. -/
structure GatewayRequest where
  run : Run
  task : TaskSpec
  agent : AgentInstance
  scripted : ScriptedAction

/-- The intent that `execute` builds. -/
def buildIntent (request : GatewayRequest) (existing : Option StoredToolIntent)
    (freshId : String) : ToolIntent :=
  let scripted := request.scripted
  let fixture := decide (scripted.action = "fixture.record_side_effect")
  { intentId := (existing.map fun stored => stored.intent.intentId).getD freshId
    runId := request.run.runId
    taskId := request.task.taskId
    agentInstanceId := (existing.map fun stored => stored.intent.agentInstanceId).getD
      request.agent.agentInstanceId
    principalRole := request.agent.role
    workflow := request.task.workflow
    stage := request.run.stage.getD .implementing
    action := scripted.action
    resource := scripted.resource
    parameters := scripted.parameters
    reason := (existing.map fun stored => stored.intent.reason).getD scripted.reason
    sideEffect := scripted.sideEffect
    idempotencyKey := scripted.idempotencyKey
    requestedTtlSeconds := if fixture then some 600 else none
    requestedUses := if fixture then some 1 else none }

/-- A call that has built its intent. -/
structure CallContext where
  request : GatewayRequest
  existing : Option StoredToolIntent
  freshId : String
  intentHash : Sha256

/-- The intent of the call. -/
def CallContext.intent (ctx : CallContext) : ToolIntent :=
  buildIntent ctx.request ctx.existing ctx.freshId

/-- Where a call stands. -/
inductive CallState where
  /-- Before `find_intent`, with the identifier a new intent would get. -/
  | finding (request : GatewayRequest) (freshId : String)
  /-- The broker evaluates. -/
  | deciding (ctx : CallContext)
  /-- Before `_record_permission_decision`. -/
  | recording (ctx : CallContext) (decision : PermissionDecision)
  /-- Before `reserve_intent` of a denied new intent. -/
  | denyReserving (ctx : CallContext) (decision : PermissionDecision)
  /-- Before `deny_intent`. -/
  | denying (ctx : CallContext) (decision : PermissionDecision)
  /-- Before `get_approval` of a pending intent. -/
  | inspecting (ctx : CallContext) (decision : PermissionDecision) (requestId : String)
  /-- Before `consume_grant_and_reserve`. -/
  | consuming (ctx : CallContext) (decision : PermissionDecision) (requestId : String)
      (intentHash : Sha256)
  /-- Before `create_approval_and_pause`. -/
  | pausing (ctx : CallContext) (decision : PermissionDecision)
  /-- Before `consume_matching_grant_and_reserve`. -/
  | reservingGrant (ctx : CallContext) (grantId : String) (scopeSha256 : Sha256)
  /-- Before `reserve_trust_rule_intent`. -/
  | reservingRule (ctx : CallContext) (scopeSha256 : Sha256) (sourceRuleId : String)
  /-- Before `reserve_intent`. -/
  | reserving (ctx : CallContext)
  /-- Before `claim_reserved_intent_for_dispatch`. -/
  | claiming (ctx : CallContext)
  /-- Before `get_intent`, after a lost claim. -/
  | reviewing (ctx : CallContext)
  /-- After a won claim, before `_execute_reserved`. -/
  | owning (ctx : CallContext)
  /-- Inside `_execute_reserved`. -/
  | executing (ctx : CallContext)
  /-- Before `complete_intent`. -/
  | completing (ctx : CallContext) (result : JsonObject)
  | returned (result : JsonObject)
  | raised (error : StoreError)
  | crashed

/-- Ends a call with a `FleetError`. -/
def CallState.fail (code : ErrorCode) (message remediation : String)
    (details : JsonObject := []) : CallState :=
  .raised (.fleet { code, message, remediation, details })

/-- After `find_intent`: an intent recorded with another content, executed or denied ends the
call. -/
def afterFind (request : GatewayRequest) (freshId : String)
    (existing : Option StoredToolIntent) : CallState :=
  let intentHash := svc.canonicalJsonHash (buildIntent request existing freshId).modelDump
  let ctx : CallContext := { request, existing, freshId, intentHash }
  match existing with
  | none => .deciding ctx
  | some stored =>
      if stored.intentHash ≠ intentHash then
        .fail .commandDenied
          "An idempotency key was reused for a different canonical intent."
          "Start a new run rather than changing an already recorded logical action."
      else if stored.status = .executed then .returned (stored.result.getD [])
      else if stored.status = .denied then
        .raised (.fleet (approvalDeniedError (stored.approvalRequestId.getD "unknown")))
      else .deciding ctx

/-- `resumed_reserved_command`. -/
def CallContext.resumedReservedCommand (ctx : CallContext) : Bool :=
  match ctx.existing with
  | none => false
  | some stored => stored.status = .reserved && stored.intent.action = "command.run"

/-- The checks on a recorded intent before it is dispatched. -/
def dispatchExisting (ctx : CallContext) (decision : PermissionDecision)
    (existing : StoredToolIntent) : CallState :=
  if existing.status ≠ .reserved then
    .fail .commandDenied "The recorded tool intent is not executable."
      "Inspect the approval and run event history."
  else if decision.outcome ≠ .allow then
    .fail .approvalInvalid "The reserved operation is not authorized by current policy."
      "Inspect the interrupted operation and start a fresh run after review."
  else if ctx.resumedReservedCommand then
    .fail .commandOutcomeAmbiguous
      "A prior command intent has no authoritative terminal outcome."
      "Recover its sandbox resources and start a fresh run; Fleet will not replay it."
      (JsonValue.object [("intent_id", .str existing.intent.intentId)])
  else .claiming ctx

/-- What a recorded decision leads to. -/
def route (ctx : CallContext) (decision : PermissionDecision) : CallState :=
  if decision.outcome = .deny then
    match ctx.existing with
    | none => .denyReserving ctx decision
    | some _ => .denying ctx decision
  else match ctx.existing with
    | some existing =>
        if existing.status = .pendingApproval then
          match existing.approvalRequestId with
          | none => .fail .internalError "Pending intent has no approval request."
              "Inspect the local state database and rerun from a fresh state directory."
          | some requestId => .inspecting ctx decision requestId
        else dispatchExisting ctx decision existing
    | none =>
        if decision.outcome = .requireApproval then .pausing ctx decision
        else match decision.grantId, decision.sourceRuleId, decision.effectiveScope with
          | some _, _, none =>
              .fail .approvalInvalid "A reusable grant has no exact authorization scope."
                "Inspect the stored grant before retrying."
          | some grantId, _, some scope =>
              .reservingGrant ctx grantId (svc.canonicalJsonHash (.obj scope))
          | none, some _, none =>
              .fail .approvalInvalid "A persistent rule has no exact authorization scope."
                "Inspect the stored rule before retrying."
          | none, some sourceRuleId, some scope =>
              .reservingRule ctx (svc.canonicalJsonHash (.obj scope)) sourceRuleId
          | none, none, _ => .reserving ctx

/-- After `get_approval`. -/
def afterInspect (ctx : CallContext) (decision : PermissionDecision)
    (request : ApprovalRequest) : CallState :=
  match request.status with
  | .pending => .raised (.fleet (approvalRequiredError request.requestId))
  | .denied => .raised (.fleet (approvalDeniedError request.requestId))
  | .approved =>
      if decision.outcome ≠ .allow then
        .fail .approvalInvalid "The earlier approval is no longer authorized by current policy."
          "Review revoked or expired grants, then start a new run if needed."
      else .consuming ctx decision request.requestId
        ((ctx.existing.map StoredToolIntent.intentHash).getD ctx.intentHash)

/-- The approval request of a new intent. -/
def approvalRequest (amb : Ambient) (ctx : CallContext) (decision : PermissionDecision) :
    ApprovalRequest :=
  let now := amb.clock 3
  { requestId := amb.ids 3
    intentId := ctx.intent.intentId
    runId := ctx.request.run.runId
    intentHash := ctx.intentHash
    principalRole := ctx.intent.principalRole
    action := ctx.intent.action
    resource := ctx.intent.resource
    reason := ctx.intent.reason
    authorizationScope := decision.effectiveScope
    availableChoices := if decision.availableChoices = [] then [.deny, .allowOnce]
      else decision.availableChoices
    createdAt := now
    expiresAt := now + tenMinutes }

/-- The event of `_record_permission_decision`. -/
def decisionEvent (amb : Ambient) (ctx : CallContext) (decision : PermissionDecision) :
    FleetEvent :=
  let cleaned := svc.redactor.redactData (JsonValue.object [
    ("intent_id", .str ctx.intent.intentId),
    ("intent_hash", .str ctx.intentHash.hex),
    ("action", .str ctx.intent.action),
    ("resource", ctx.intent.resource.modelDump),
    ("outcome", .str decision.outcome.value),
    ("decision_code", .str decision.decisionCode),
    ("explanation", .str decision.explanation),
    ("protected", .bool decision.isProtected),
    ("matched_rule_ids", .arr (decision.matchedRuleIds.map .str)),
    ("effective_scope", match decision.effectiveScope with
      | some scope => .obj scope
      | none => .null),
    ("risk", .str decision.risk),
    ("grant_id", .ofOption decision.grantId),
    ("source_rule_id", .ofOption decision.sourceRuleId)])
  { eventId := amb.ids 0
    eventType := "permission.decision"
    occurredAt := amb.clock 0
    projectId := ctx.request.run.projectId
    runId := some ctx.request.run.runId
    taskId := some ctx.intent.taskId
    agentInstanceId := some ctx.intent.agentInstanceId
    correlationId := ctx.request.run.correlationId
    payload := cleaned.1
    redactionSummary := cleaned.2 }

namespace CallState

/-- The transaction at a position. -/
def op? (amb : Ambient) : CallState → Option StoreOp
  | .finding request _ =>
      some (.findIntent request.run.runId request.scripted.idempotencyKey)
  | .recording ctx decision => some (.appendEvent (decisionEvent svc amb ctx decision))
  | .denyReserving ctx _ => some (.reserveIntent ctx.intent ctx.intentHash)
  | .denying ctx _ => some (.denyIntent ctx.intent.intentId)
  | .inspecting _ _ requestId => some (.getApproval requestId)
  | .consuming _ _ requestId intentHash => some (.consumeGrantAndReserve requestId intentHash)
  | .pausing ctx decision =>
      some (.createApprovalAndPause ctx.intent ctx.intentHash (approvalRequest amb ctx decision))
  | .reservingGrant ctx grantId scopeSha256 =>
      some (.consumeMatchingGrantAndReserve grantId ctx.intent ctx.intentHash scopeSha256)
  | .reservingRule ctx scopeSha256 sourceRuleId =>
      some (.reserveTrustRuleIntent ctx.intent ctx.intentHash scopeSha256 sourceRuleId)
  | .reserving ctx => some (.reserveIntent ctx.intent ctx.intentHash)
  | .claiming ctx => some (.claimReservedIntentForDispatch ctx.intent.intentId ctx.intentHash)
  | .reviewing ctx => some (.getIntent ctx.intent.intentId)
  | .completing ctx result => some (.completeIntent ctx.intent.intentId result)
  | .deciding _ | .owning _ | .executing _ | .returned _ | .raised _ | .crashed => none

/-- Where a call goes on after its transaction returned. -/
def resume (amb : Ambient) : CallState → StoreResult → CallState
  | .finding request freshId, .found existing => afterFind svc request freshId existing
  | .recording ctx decision, _ => route svc ctx decision
  | .denyReserving ctx decision, _ => .denying ctx decision
  | .denying _ decision, _ =>
      .fail .commandDenied decision.explanation
        "Review the exact role, task, command, and user policy scope."
        (JsonValue.object [("decision_code", .str decision.decisionCode)])
  | .inspecting ctx decision _, .approval request => afterInspect ctx decision request
  | .consuming ctx decision _ _, .intent stored => dispatchExisting ctx decision stored
  | .pausing _ _, _ => .raised (.fleet (approvalRequiredError (amb.ids 3)))
  | .reservingGrant ctx _ _, _ => .claiming ctx
  | .reservingRule ctx _ _, _ => .claiming ctx
  | .reserving ctx, _ => .claiming ctx
  | .claiming ctx, .won true => .owning ctx
  | .claiming ctx, .won false => .reviewing ctx
  | .reviewing ctx, .intent stored =>
      if stored.intentHash = ctx.intentHash ∧ stored.status = .executed then
        .returned (stored.result.getD [])
      else .fail .commandOutcomeAmbiguous
        "This tool intent already has an execution owner without a terminal result."
        "Inspect or recover the existing operation; Fleet will not dispatch it twice."
        (JsonValue.object [("intent_id", .str ctx.intent.intentId)])
  | .completing _ _, .intent stored => .returned (stored.result.getD [])
  | state, _ => state

/-- The intent of a call that has built it. -/
def context? : CallState → Option CallContext
  | .deciding ctx | .recording ctx _ | .denyReserving ctx _ | .denying ctx _
  | .inspecting ctx _ _ | .consuming ctx _ _ _ | .pausing ctx _ | .reservingGrant ctx _ _
  | .reservingRule ctx _ _ | .reserving ctx | .claiming ctx | .reviewing ctx | .owning ctx
  | .executing ctx | .completing ctx _ => some ctx
  | .finding _ _ | .returned _ | .raised _ | .crashed => none

end CallState

/-! ### The machine -/

/-- What users and the workflow do to the store beside the gateway. -/
inductive EnvironmentOp where
  | resolveApproval (requestId : String) (args : ResolveArgs)
  | revokeGrant (grantId : String)
  | createRun (run : Run)
  | saveRun (run : Run) (eventType : String) (payload : JsonObject)
  | saveTask (task : TaskSpec)
  | saveAgentInstance (agent : AgentInstance)

/-- The transaction of the environment. -/
def EnvironmentOp.toStoreOp : EnvironmentOp → StoreOp
  | .resolveApproval requestId args => .resolveApproval requestId args
  | .revokeGrant grantId => .revokeGrant grantId
  | .createRun run => .createRun run
  | .saveRun run eventType payload => .saveRun run eventType payload
  | .saveTask task => .saveTask task
  | .saveAgentInstance agent => .saveAgentInstance agent

/-- One store, the calls made so far, and the intent identifiers issued so far. -/
structure Gateway where
  store : Store
  calls : List CallState
  issued : List String

/-- A store before any call: its intents had their identifiers issued. -/
def Gateway.start (store : Store) : Gateway where
  store := store
  calls := []
  issued := store.records.toolIntents.rows.map fun row => row.intent.intentId

/-- Who moves. -/
inductive GatewayAction where
  /-- A new call; a generated identifier that was issued before is no step. -/
  | enter (request : GatewayRequest) (freshId : String)
  | decide (call : ℕ) (decision : PermissionDecision)
  | advance (call : ℕ) (amb : Ambient)
  | finish (call : ℕ) (outcome : Except StoreError JsonObject)
  | crash (call : ℕ)
  | environment (op : EnvironmentOp) (amb : Ambient)

/-- What is observed of a step. -/
inductive Observation where
  | silent
  /-- `claim_reserved_intent_for_dispatch` returned `True`. -/
  | claimed (intentId : String)
  /-- `_execute_reserved` started. -/
  | started (intent : ToolIntent)

/-- A call moves to another position. -/
def Gateway.setCall (g : Gateway) (call : ℕ) (state : CallState) : Gateway :=
  { g with calls := g.calls.set call state }

/-- The observation of a returned transaction. -/
def observe : CallState → StoreResult → Observation
  | .claiming ctx, .won true => .claimed ctx.intent.intentId
  | _, _ => .silent

/-- One step of a call that performs a transaction. -/
def Gateway.transact (g : Gateway) (call : ℕ) (state : CallState) (op : StoreOp)
    (amb : Ambient) : Gateway × Observation :=
  match (storeMachine svc).step g.store ⟨op, amb⟩ with
  | (store, .ok result) =>
      ({ g with store := store }.setCall call (state.resume svc amb result),
        observe state result)
  | (store, .error error) => ({ g with store := store }.setCall call (.raised error), .silent)

/-- The gateway under any interleaving. -/
def gatewayMachine : Machine Gateway GatewayAction Observation where
  step g
    | .enter request freshId =>
        if freshId ∈ g.issued then (g, .silent)
        else ({ g with
          calls := g.calls ++ [.finding request freshId]
          issued := freshId :: g.issued }, .silent)
    | .decide call decision =>
        match g.calls[call]? with
        | some (.deciding ctx) => (g.setCall call (.recording ctx decision), .silent)
        | _ => (g, .silent)
    | .advance call amb =>
        match g.calls[call]? with
        | some (.owning ctx) => (g.setCall call (.executing ctx), .started ctx.intent)
        | some state =>
            match state.op? svc amb with
            | some op => g.transact svc call state op amb
            | none => (g, .silent)
        | none => (g, .silent)
    | .finish call outcome =>
        match g.calls[call]? with
        | some (.executing ctx) =>
            match outcome with
            | .ok result => (g.setCall call (.completing ctx result), .silent)
            | .error error => (g.setCall call (.raised error), .silent)
        | _ => (g, .silent)
    | .crash call => (g.setCall call .crashed, .silent)
    | .environment op amb =>
        ({ g with store := (storeMachine svc).next g.store ⟨op.toStoreOp, amb⟩ }, .silent)

/-! ### Steps -/

/-- A move that performs no transaction and starts nothing. -/
inductive LocalMove : CallState → CallState → Prop where
  | decided (ctx : CallContext) (decision : PermissionDecision) :
      LocalMove (.deciding ctx) (.recording ctx decision)
  | finished (ctx : CallContext) (result : JsonObject) :
      LocalMove (.executing ctx) (.completing ctx result)
  | raised (state : CallState) (error : StoreError) : LocalMove state (.raised error)
  | crashed (state : CallState) : LocalMove state .crashed

/-- What one step does. -/
inductive GatewayStep (svc : Services) (g : Gateway) :
    GatewayAction → Gateway → Observation → Prop where
  | idle (action : GatewayAction) : GatewayStep svc g action g .silent
  | entered (request : GatewayRequest) (freshId : String) (fresh : freshId ∉ g.issued) :
      GatewayStep svc g (.enter request freshId) { g with
        calls := g.calls ++ [.finding request freshId]
        issued := freshId :: g.issued } .silent
  | moved (action : GatewayAction) (call : ℕ) (state state' : CallState)
      (position : g.calls[call]? = some state) (move : LocalMove state state') :
      GatewayStep svc g action (g.setCall call state') .silent
  | started (call : ℕ) (amb : Ambient) (ctx : CallContext)
      (position : g.calls[call]? = some (.owning ctx)) :
      GatewayStep svc g (.advance call amb) (g.setCall call (.executing ctx))
        (.started ctx.intent)
  | transacted (call : ℕ) (state : CallState) (op : StoreOp) (amb : Ambient)
      (result : StoreResult) (store : Store) (position : g.calls[call]? = some state)
      (performs : state.op? svc amb = some op)
      (ran : storeBody svc amb op g.store = .ok (result, store)) :
      GatewayStep svc g (.advance call amb)
        ({ g with store := store }.setCall call (state.resume svc amb result))
        (observe state result)
  | environment (op : EnvironmentOp) (amb : Ambient) :
      GatewayStep svc g (.environment op amb)
        { g with store := (storeMachine svc).next g.store ⟨op.toStoreOp, amb⟩ } .silent

variable {svc}

variable {g : Gateway} {call : ℕ} {state x : CallState}

theorem transact_step {op : StoreOp} {amb : Ambient} (position : g.calls[call]? = some state)
    (performs : state.op? svc amb = some op) :
    GatewayStep svc g (.advance call amb) (g.transact svc call state op amb).1
      (g.transact svc call state op amb).2 := by
  unfold Gateway.transact
  rcases commit_cases (storeBody svc amb op) g.store with ⟨result, store, hok, hc⟩ | ⟨e, -, hc⟩
  · have hstep : (storeMachine svc).step g.store ⟨op, amb⟩ = (store, .ok result) := by
      simp only [storeMachine, hc]
    rw [hstep]
    exact .transacted call state op amb result store position performs hok
  · have hstep : (storeMachine svc).step g.store ⟨op, amb⟩ = (g.store, .error e) := by
      simp only [storeMachine, hc]
    rw [hstep]
    exact .moved _ call state _ position (.raised state e)

/-- Every step of the machine is one of the listed steps. -/
theorem gateway_step (svc : Services) (g : Gateway) (action : GatewayAction) :
    GatewayStep svc g action ((gatewayMachine svc).next g action)
      ((gatewayMachine svc).out g action) := by
  cases action with
  | enter request freshId =>
      simp only [Machine.next, Machine.out, gatewayMachine]
      split_ifs with hf
      · exact .idle _
      · exact .entered request freshId hf
  | decide call decision =>
      simp only [Machine.next, Machine.out, gatewayMachine]
      split
      · next ctx position => exact .moved _ call _ _ position (.decided ctx decision)
      · exact .idle _
  | advance call amb =>
      simp only [Machine.next, Machine.out, gatewayMachine]
      split
      · next ctx position => exact .started call amb ctx position
      · next state _ position =>
          split
          · next op performs => exact transact_step position performs
          · exact .idle _
      · exact .idle _
  | finish call outcome =>
      simp only [Machine.next, Machine.out, gatewayMachine]
      split
      · next ctx position =>
          cases outcome with
          | ok result => exact .moved _ call _ _ position (.finished ctx result)
          | error e => exact .moved _ call _ _ position (.raised _ e)
      · exact .idle _
  | crash call =>
      simp only [Machine.next, Machine.out, gatewayMachine]
      cases position : g.calls[call]? with
      | some state => exact .moved _ call state _ position (.crashed state)
      | none =>
          have hset : g.setCall call .crashed = g := by
            unfold Gateway.setCall
            rw [List.set_eq_of_length_le (List.getElem?_eq_none_iff.mp position)]
          rw [hset]
          exact .idle _
  | environment op amb => exact .environment op amb

/-- The transaction that a step performs. -/
def Gateway.performs? (svc : Services) (g : Gateway) : GatewayAction → Option StoreInput
  | .advance call amb => do
      let state ← g.calls[call]?
      let op ← state.op? svc amb
      some ⟨op, amb⟩
  | .environment op amb => some ⟨op.toStoreOp, amb⟩
  | _ => none

theorem store_of_transact (g : Gateway) (call : ℕ) (state : CallState) (op : StoreOp)
    (amb : Ambient) :
    (g.transact svc call state op amb).1.store = (storeMachine svc).next g.store ⟨op, amb⟩ := by
  unfold Gateway.transact Machine.next
  rcases (storeMachine svc).step g.store ⟨op, amb⟩ with ⟨store, result | error⟩ <;> rfl

/-- The store after a step is the store after the transaction that the step performs. -/
theorem store_of_action (svc : Services) (g : Gateway) (action : GatewayAction) :
    ((gatewayMachine svc).next g action).store
      = (storeMachine svc).run g.store (g.performs? svc action).toList := by
  cases action with
  | enter =>
      simp only [Machine.next, gatewayMachine]
      split_ifs <;> rfl
  | decide =>
      simp only [Machine.next, gatewayMachine]
      split <;> rfl
  | advance call =>
      simp only [Machine.next, gatewayMachine, Gateway.performs?]
      cases g.calls[call]? with
      | none => rfl
      | some state =>
          cases state with
          | owning => rfl
          | deciding | executing | returned | raised | crashed => rfl
          | _ => exact store_of_transact ..
  | finish =>
      simp only [Machine.next, gatewayMachine]
      split
      · split <;> rfl
      · rfl
  | crash call | environment op amb => rfl

/-- Every step of the gateway is at most one transaction of the store. -/
theorem gateway_refines_store (svc : Services) :
    (gatewayMachine svc).Refines (storeMachine svc) Gateway.store :=
  fun g action => ⟨(g.performs? svc action).toList, store_of_action svc g action⟩

/-- What no step of the gateway can undo. -/
theorem GatewayStep.evolves {g' : Gateway} {action : GatewayAction} {seen : Observation}
    (h : GatewayStep svc g action g' seen) : Evolves g.store.records g'.store.records := by
  cases h with
  | transacted call state op amb result store _ _ ran => exact (effect_of_body ran).evolves
  | environment => exact (effect_of_step svc _ _).evolves
  | _ => exact .refl _

theorem getElem?_setCall {i : ℕ} (h : (g.setCall call state).calls[i]? = some x) :
    (i = call ∧ x = state) ∨ (i ≠ call ∧ g.calls[i]? = some x) := by
  simp only [Gateway.setCall, List.getElem?_set] at h
  split_ifs at h with hi
  · exact .inl ⟨hi.symm, (Option.some.inj h).symm⟩
  · exact .inr ⟨fun he => hi he.symm, h⟩

theorem mem_setCall (h : x ∈ (g.setCall call state).calls) : x ∈ g.calls ∨ x = state :=
  List.mem_or_eq_of_mem_set h

/-! ### A sample gateway -/

/-- A call for the engineer's write under a key. -/
def writeRequest (idempotencyKey : String) : GatewayRequest where
  run := sampleRun
  task := sampleTask
  agent := sampleAgent
  scripted := sampleAction idempotencyKey

/-- What the broker answers. -/
def decided (outcome : PermissionOutcome) : PermissionDecision where
  outcome := outcome
  decisionCode := "sample"
  explanation := "The sample policy decided."

/-- A call moves, with the identifier that it would generate. -/
def advanceCall (call : ℕ) (fresh : String) : GatewayAction :=
  .advance call (sampleAmbient 0 fresh)

/-- The gateway after the actions. -/
def afterActions (actions : List GatewayAction) : Gateway :=
  (gatewayMachine sampleServices).run (Gateway.start sampleStore) actions

end AgentFleet
