import AgentFleet.Persistence.Intents

/-! # Approval requests: creation, binding and resolution

`createApprovalAndPause` records a pending intent with its request and pauses the run;
`resolveApproval` settles a request once.  `ApprovalBinding` is what
`_validate_approval_binding` establishes. -/

namespace AgentFleet

open Relational Transaction

variable (svc : Services) (amb : Ambient)

/-! ### Validators -/

/-- `_validate_intent_context`. -/
def validateIntentContext (run : Run) (intent : ToolIntent) : StoreTxn Unit := do
  let r ← getRecords
  let task ← expect (invalidApproval (some "unbound-intent")) (r.task? intent.taskId)
  let agentRow ← expect (invalidApproval (some "unbound-intent"))
    (r.agentRow? intent.agentInstanceId)
  let agent := agentRow.agent
  refuseIf (run.runId ≠ intent.runId
    ∨ run.taskId ≠ some intent.taskId
    ∨ task.runId ≠ run.runId
    ∨ task.workflow ≠ intent.workflow
    ∨ agent.runId ≠ run.runId
    ∨ agent.taskId ≠ some task.taskId
    ∨ agent.role ≠ intent.principalRole) (invalidApproval (some "unbound-intent"))

/-- `canonical_json_hash` of an optional authorization scope. -/
def scopeHash (scope : Option JsonObject) : Option Sha256 :=
  scope.map fun fields => svc.canonicalJsonHash (.obj fields)

/-- The conditions of `_validate_approval_binding` on a grant. -/
def grantBound (request : ApprovalRequest) (source : StoredToolIntent) (run : Run)
    (grant : CapabilityGrant) : Prop :=
  grant.requestId = some request.requestId
    ∧ grant.intentId = source.intent.intentId
    ∧ grant.projectId = run.projectId
    ∧ grant.runId = run.runId
    ∧ grant.taskId = source.intent.taskId
    ∧ grant.agentInstanceId = source.intent.agentInstanceId
    ∧ grant.principalRole = source.intent.principalRole
    ∧ grant.action = source.intent.action
    ∧ grant.resource = source.intent.resource
    ∧ grant.intentHash = source.intentHash
    ∧ grant.sourceRuleId = request.sourceRuleId
    ∧ grant.choice = request.resolutionChoice.getD .allowOnce
    ∧ grant.scopeSha256 = scopeHash svc request.authorizationScope
deriving Decidable

/-- `_validate_approval_binding`. -/
def validateApprovalBinding (request : ApprovalRequest) (source : StoredToolIntent)
    (grant : Option CapabilityGrant) : StoreTxn Run := do
  let intent := source.intent
  let run ← getRun request.runId
  validateIntentContext run intent
  refuseIf (request.intentId ≠ intent.intentId
    ∨ request.runId ≠ intent.runId
    ∨ source.approvalRequestId ≠ some request.requestId
    ∨ request.intentHash ≠ source.intentHash
    ∨ source.intentHash ≠ svc.canonicalJsonHash intent.modelDump
    ∨ request.principalRole ≠ intent.principalRole
    ∨ request.action ≠ intent.action
    ∨ request.resource ≠ intent.resource) (invalidApproval (some request.requestId))
  refuseIf (∃ g ∈ grant, ¬ grantBound svc request source run g)
    (invalidApproval (some request.requestId))
  return run

/-! ### Creation -/

/-- `create_approval_and_pause`. -/
def createApprovalAndPause (intent : ToolIntent) (intentHash : Sha256)
    (request : ApprovalRequest) : StoreTxn StoredToolIntent := do
  let r ← getRecords
  match r.intentByKey? intent.runId intent.idempotencyKey with
  | some existing => return existing
  | none => do
      let stored : StoredToolIntent :=
        { intent, intentHash, status := .pendingApproval
          approvalRequestId := some request.requestId }
      let run ← getRun intent.runId
      let paused : Run :=
        { run with
          status := .pausedForApproval
          pendingApprovalId := some request.requestId
          updatedAt := request.createdAt }
      refuseIf (¬ transitionAllowed run paused.status paused.stage)
        (.fleet (invalidTransition run paused.status paused.stage))
      insertIntent stored
      insertApproval request
      updateRun paused
      insertEvent svc (eventForIntent svc amb 0 run intent "tool.intent_created"
        (JsonValue.object [("action", .str intent.action)]))
      insertEvent svc (eventForIntent svc amb 1 run intent "approval.requested"
        (JsonValue.object [
          ("request_id", .str request.requestId),
          ("intent_hash", .str request.intentHash.hex),
          ("action", .str request.action),
          ("resource", request.resource.modelDump)]))
      insertEvent svc (eventForRun svc amb 2 paused "run.paused"
        (JsonValue.object [
          ("request_id", .str request.requestId),
          ("stage", .ofOption (paused.stage.map WorkflowStage.value))]))
      return stored

/-! ### Resolution -/

/-- The choice a settled request counts as: one recorded before choices were, by its status. -/
def ApprovalRequest.resolvedChoice (request : ApprovalRequest) : ApprovalChoice :=
  request.resolutionChoice.getD (if request.status = .approved then .allowOnce else .deny)

/-- The grant that an approval issues. -/
def issuedGrant (request : ApprovalRequest) (intent : StoredToolIntent) (run : Run)
    (choice : ApprovalChoice) (scopeSha256 : Option Sha256) (sourceRuleId : Option String) :
    CapabilityGrant :=
  let now := amb.clock 0
  { grantId := amb.ids 0
    requestId := some request.requestId
    intentId := request.intentId
    projectId := run.projectId
    runId := run.runId
    taskId := intent.intent.taskId
    agentInstanceId := intent.intent.agentInstanceId
    principalRole := intent.intent.principalRole
    action := intent.intent.action
    resource := intent.intent.resource
    intentHash := request.intentHash
    issuedAt := now
    expiresAt := if choice = .allowOnce then some (min request.expiresAt (now + tenMinutes))
      else none
    choice := choice
    scopeSha256 := scopeSha256
    sourceRuleId := sourceRuleId
    remainingUses := if choice = .allowOnce then some 1 else none }

/-- The approved request. -/
def approvedRequest (request : ApprovalRequest) (choice : ApprovalChoice)
    (sourceRuleId : Option String) : ApprovalRequest :=
  { request with
    status := .approved
    resolvedAt := some (amb.clock 0)
    resolutionChoice := some choice
    sourceRuleId := sourceRuleId }

/-- The denied request. -/
def deniedRequest (request : ApprovalRequest) (denialReason : Option String) :
    ApprovalRequest :=
  { request with
    status := .denied
    resolvedAt := some (amb.clock 0)
    denialReason := denialReason.map fun reason => (svc.redactor.redactText reason).1
    resolutionChoice := some .deny }

/-- The arguments of `resolve_approval` beside the request. -/
structure ResolveArgs where
  approve : Bool
  denialReason : Option String := none
  choice : ApprovalChoice := .allowOnce
  scopeSha256 : Option Sha256 := none
  sourceRuleId : Option String := none

/-- `selected_choice`. -/
def ResolveArgs.selectedChoice (args : ResolveArgs) : ApprovalChoice :=
  if args.approve then args.choice else .deny

/-- `resolve_approval` on a request that is settled: the same grant again, or a refusal. -/
def replayResolution (request : ApprovalRequest) (args : ResolveArgs) :
    StoreTxn (Option CapabilityGrant) := do
  let grant ← getGrantForRequest request.requestId
  match grant with
  | none => do
      refuseIf (args.selectedChoice ≠ request.resolvedChoice)
        (invalidApproval (some request.requestId))
      return none
  | some g => do
      let intent ← getIntentById request.intentId
      let _ ← validateApprovalBinding svc request intent (some g)
      refuseIf (args.selectedChoice ≠ request.resolvedChoice
        ∨ g.choice ≠ args.selectedChoice
        ∨ g.scopeSha256 ≠ args.scopeSha256
        ∨ g.sourceRuleId ≠ args.sourceRuleId) (invalidApproval (some request.requestId))
      return some g

/-- The approving branch of `resolve_approval`: its checks and the grant it stores. -/
def approvePending (request : ApprovalRequest) (intent : StoredToolIntent) (run : Run)
    (args : ResolveArgs) : StoreTxn CapabilityGrant := do
  refuseIf (request.expiresAt ≤ amb.clock 0
    ∨ args.choice = .deny
    ∨ scopeHash svc request.authorizationScope ≠ args.scopeSha256
    ∨ ((args.choice = .allowRun ∨ args.choice = .allowAlways) ∧ args.scopeSha256 = none)
    ∨ (request.sourceRuleId ≠ none ∧ request.sourceRuleId ≠ args.sourceRuleId))
    (invalidApproval (some request.requestId))
  let grant := issuedGrant amb request intent run args.choice args.scopeSha256
    args.sourceRuleId
  refuseIf (¬ grant.validates) .validation
  insertGrant grant
  return grant

/-- `resolve_approval`. -/
def resolveApproval (requestId : String) (args : ResolveArgs) :
    StoreTxn (Option CapabilityGrant) := do
  let request ← getApproval requestId
  if request.status ≠ .pending then
    replayResolution svc request args
  else do
    let intent ← getIntentById request.intentId
    let run ← validateApprovalBinding svc request intent none
    refuseIf (args.selectedChoice ∉ request.availableChoices
      ∨ run.status ≠ .pausedForApproval
      ∨ run.pendingApprovalId ≠ some requestId
      ∨ run.stage ≠ some intent.intent.stage
      ∨ intent.status ≠ .pendingApproval) (invalidApproval (some requestId))
    if args.approve then do
      let grant ← approvePending svc amb request intent run args
      updateApproval (approvedRequest amb request args.choice args.sourceRuleId)
      insertEvent svc (eventForIntent svc amb 1 run intent.intent "approval.resolved"
        (JsonValue.object [
          ("request_id", .str requestId),
          ("resolution", .str ApprovalStatus.approved.value),
          ("choice", .str args.selectedChoice.value)]))
      insertEvent svc (eventForIntent svc amb 2 run intent.intent "capability.issued"
        (JsonValue.object [
          ("grant_id", .str grant.grantId),
          ("remaining_uses", .ofOptionInt grant.remainingUses),
          ("choice", .str grant.choice.value),
          ("scope_sha256", .ofOption (grant.scopeSha256.map Sha256.hex)),
          ("source_rule_id", .ofOption grant.sourceRuleId)]))
      return some grant
    else do
      updateIntent { intent with status := .denied }
      updateApproval (deniedRequest svc amb request args.denialReason)
      insertEvent svc (eventForIntent svc amb 1 run intent.intent "approval.resolved"
        (JsonValue.object [
          ("request_id", .str requestId),
          ("resolution", .str ApprovalStatus.denied.value),
          ("choice", .str args.selectedChoice.value)]))
      return none

/-! ### What the transactions do -/

section Committed

variable {svc amb} {s t : Store}

/-- What `_validate_approval_binding` establishes. -/
structure ApprovalBinding (svc : Services) (r : Records) (request : ApprovalRequest)
    (source : StoredToolIntent) (grant : Option CapabilityGrant) (run : Run) : Prop where
  runRow : ∃ row, r.runRow? request.runId = some row ∧ row.run = run
  intentId : request.intentId = source.intent.intentId
  runId : request.runId = source.intent.runId
  requestId : source.approvalRequestId = some request.requestId
  intentHash : request.intentHash = source.intentHash
  grant : ∀ g ∈ grant, grantBound svc request source run g

variable {intent : ToolIntent} {grant : Option CapabilityGrant} {requestId : String}
  {args : ResolveArgs}

theorem validateIntentContext_ok {run : Run} {u : Unit}
    (h : validateIntentContext run intent s = .ok (u, t)) : run.runId = intent.runId ∧ t = s := by
  simp only [validateIntentContext, bind_ok, getRecords_ok, expect_ok, refuseIf_ok, not_or,
    not_not] at h
  obtain ⟨_, _, ⟨-, rfl⟩, _, _, ⟨-, rfl⟩, _, _, ⟨-, rfl⟩, hrun, rfl⟩ := h
  exact ⟨hrun.1, rfl⟩

theorem validateApprovalBinding_ok {request : ApprovalRequest} {source : StoredToolIntent}
    {run : Run} (h : validateApprovalBinding svc request source grant s = .ok (run, t)) :
    ApprovalBinding svc s.records request source grant run ∧ t = s := by
  simp only [validateApprovalBinding, bind_ok, getRun_ok, refuseIf_ok, pure_ok, not_or,
    not_not, not_exists, not_and] at h
  obtain ⟨_, _, ⟨hrun, rfl⟩, _, _, hctx, _, _, ⟨hbound, rfl⟩, _, _, ⟨hgrant, rfl⟩, rfl, rfl⟩ := h
  obtain ⟨-, rfl⟩ := validateIntentContext_ok hctx
  exact ⟨⟨hrun, hbound.1, hbound.2.1, hbound.2.2.1, hbound.2.2.2.1, hgrant⟩, rfl⟩

theorem grantFromRow_ok {row : GrantRow} {owner : RunRow} {grant : CapabilityGrant}
    (h : grantFromRow row owner s = .ok (grant, t)) :
    grant = row.1 ∧ grant.validGrantChoice ∧ t = s := by
  simp only [grantFromRow, bind_ok, refuseIf_ok, pure_ok, not_not] at h
  obtain ⟨_, _, ⟨hvalid, rfl⟩, _, _, ⟨-, rfl⟩, rfl, rfl⟩ := h
  exact ⟨rfl, hvalid, rfl⟩

/-- The grant of a request, as `_get_grant_for_request` reads it. -/
theorem getGrantForRequest_ok (h : getGrantForRequest requestId s = .ok (grant, t)) :
    t = s ∧ (∀ g ∈ grant, g.validGrantChoice
        ∧ ∃ row, s.records.grantForRequest? requestId = some row ∧ g = row.1)
      ∧ (grant = none → ∀ row, s.records.grantForRequest? requestId = some row →
          s.records.runRow? row.1.runId = none) := by
  simp only [getGrantForRequest, bind_ok, getRecords_ok] at h
  obtain ⟨_, _, ⟨rfl, rfl⟩, h⟩ := h
  cases hg : s.records.grantForRequest? requestId with
  | none =>
      simp only [hg, pure_ok] at h
      obtain ⟨rfl, rfl⟩ := h
      simp
  | some row =>
      cases ho : s.records.runRow? row.1.runId with
      | none =>
          simp only [hg, ho, pure_ok] at h
          obtain ⟨rfl, rfl⟩ := h
          refine ⟨rfl, by simp, fun _ row' hrow => ?_⟩
          cases hrow
          exact ho
      | some =>
          simp only [hg, ho, bind_ok, pure_ok] at h
          obtain ⟨g, _, hrow, rfl, rfl⟩ := h
          obtain ⟨rfl, hvalid, rfl⟩ := grantFromRow_ok hrow
          simp [hvalid]

/-- Creation returns the row of its key unchanged, or stores the pending intent and its
request and pauses the run. -/
structure Paused (r : Records) (intent : ToolIntent) (intentHash : Sha256)
    (request : ApprovalRequest) (r' : Records) : Prop where
  fresh : r.intentByKey? intent.runId intent.idempotencyKey = none
  written : ∃ row r₁ approvals, r.runRow? intent.runId = some row
    ∧ transitionAllowed row.run .pausedForApproval row.run.stage
    ∧ r.Inserts
      { intent, intentHash, status := .pendingApproval
        approvalRequestId := some request.requestId } r₁
    ∧ r₁.runRow? request.runId ≠ none
    ∧ r₁.approvals.insert request = some approvals
    ∧ r' = { r₁ with approvals }.withRun
      { row.run with
        status := .pausedForApproval
        pendingApprovalId := some request.requestId
        updatedAt := request.createdAt }

theorem createApprovalAndPause_ok {intentHash : Sha256} {request : ApprovalRequest}
    {stored : StoredToolIntent}
    (h : createApprovalAndPause svc amb intent intentHash request s = .ok (stored, t)) :
    (s.records.intentByKey? intent.runId intent.idempotencyKey = some stored ∧ t = s)
      ∨ Paused s.records intent intentHash request t.records := by
  simp only [createApprovalAndPause, bind_ok, getRecords_ok] at h
  obtain ⟨_, _, ⟨rfl, rfl⟩, h⟩ := h
  cases hf : s.records.intentByKey? intent.runId intent.idempotencyKey with
  | some =>
      simp only [hf, pure_ok] at h
      obtain ⟨rfl, rfl⟩ := h
      exact .inl ⟨rfl, rfl⟩
  | none =>
      simp only [hf, bind_ok, getRun_ok, refuseIf_ok, insertIntent_ok, insertApproval_ok,
        updateRun_ok, insertEvent_ok, pure_ok, not_not] at h
      obtain ⟨_, _, ⟨⟨row, hrow, rfl⟩, rfl⟩, _, _, ⟨hallowed, rfl⟩, _, _, ⟨r₁, hins, rfl⟩, _, _,
        ⟨⟨-, hrun⟩, approvals, happ, rfl⟩, _, _, rfl, _, _, rfl, _, _, rfl, _, _, rfl, -, rfl⟩ := h
      exact .inr ⟨hf, row, r₁, approvals, hrow, hallowed, hins, hrun, happ, rfl⟩

/-- What a committed `resolve_approval` did with a request. -/
inductive Resolved (svc : Services) (amb : Ambient) (r : Records) (request : ApprovalRequest)
    (args : ResolveArgs) : Option CapabilityGrant → Records → Prop where
  /-- The request was settled with this choice; its grant is returned again. -/
  | replayed (grant : Option CapabilityGrant)
      (settled : request.status ≠ .pending)
      (sameChoice : args.selectedChoice = request.resolvedChoice)
      (sameGrant : ∀ g ∈ grant, g.validGrantChoice ∧ g.choice = args.selectedChoice
        ∧ ∃ row, r.grantForRequest? request.requestId = some row ∧ g = row.1)
      (noGrant : grant = none → ∀ row, r.grantForRequest? request.requestId = some row →
        r.runRow? row.1.runId = none) :
      Resolved svc amb r request args grant r
  /-- The pending request was approved and its grant stored. -/
  | approved (intent : StoredToolIntent) (run : Run) (capabilityGrants : Table GrantRow)
      (pending : request.status = .pending)
      (approve : args.approve = true)
      (source : r.intent? request.intentId = some intent)
      (binding : ApprovalBinding svc r request intent none run)
      (current : run.pendingApprovalId = some request.requestId)
      (grant : GrantRow)
      (issued : grant.1 = issuedGrant amb request intent run args.choice args.scopeSha256
        args.sourceRuleId)
      (valid : grant.1.validates)
      (inserted : r.capabilityGrants.insert grant = some capabilityGrants) :
      Resolved svc amb r request args (some grant.1)
        ({ r with capabilityGrants }.withApproval
          (approvedRequest amb request args.choice args.sourceRuleId))
  /-- The pending request was denied, and its intent with it. -/
  | denied (intent : StoredToolIntent) (run : Run)
      (pending : request.status = .pending)
      (deny : args.approve = false)
      (source : r.intent? request.intentId = some intent)
      (waiting : intent.status = .pendingApproval)
      (binding : ApprovalBinding svc r request intent none run)
      (current : run.pendingApprovalId = some request.requestId) :
      Resolved svc amb r request args none
        ((r.withIntent { intent with status := .denied }).withApproval
          (deniedRequest svc amb request args.denialReason))

theorem replayResolution_ok (amb : Ambient) {request : ApprovalRequest}
    (hs : request.status ≠ .pending) (h : replayResolution svc request args s = .ok (grant, t)) :
    t = s ∧ Resolved svc amb s.records request args grant s.records := by
  simp only [replayResolution, bind_ok] at h
  obtain ⟨found, _, hfound, h⟩ := h
  obtain ⟨rfl, hsome, hnone⟩ := getGrantForRequest_ok hfound
  cases found with
  | none =>
      simp only [bind_ok, refuseIf_ok, pure_ok, not_not] at h
      obtain ⟨_, _, ⟨hchoice, rfl⟩, rfl, rfl⟩ := h
      exact ⟨rfl, .replayed none hs hchoice (by simp) hnone⟩
  | some g =>
      simp only [bind_ok, getIntentById_ok, refuseIf_ok, pure_ok, not_or, not_not] at h
      obtain ⟨_, _, ⟨-, rfl⟩, _, _, hbound, _, _, ⟨hchoice, rfl⟩, rfl, rfl⟩ := h
      obtain ⟨-, rfl⟩ := validateApprovalBinding_ok hbound
      refine ⟨rfl, .replayed _ hs hchoice.1 (fun g' hg' => ?_) hnone⟩
      cases hg'
      exact ⟨(hsome g rfl).1, hchoice.2.1, (hsome g rfl).2⟩

theorem approvePending_ok {request : ApprovalRequest} {intent : StoredToolIntent} {run : Run}
    {grant : CapabilityGrant}
    (h : approvePending svc amb request intent run args s = .ok (grant, t)) :
    ∃ (row : GrantRow) (capabilityGrants : Table GrantRow), row.1 = grant
      ∧ grant = issuedGrant amb request intent run args.choice args.scopeSha256
        args.sourceRuleId
      ∧ grant.validates
      ∧ s.records.capabilityGrants.insert row = some capabilityGrants
      ∧ t.records = { s.records with capabilityGrants } := by
  simp only [approvePending, bind_ok, refuseIf_ok, insertGrant_ok, pure_ok, not_not] at h
  obtain ⟨_, _, ⟨-, rfl⟩, _, _, ⟨hvalid, rfl⟩, _, _, ⟨hrange, T, hT, rfl⟩, rfl, rfl⟩ := h
  exact ⟨⟨_, hrange⟩, T, rfl, rfl, hvalid, hT, rfl⟩

/-- A committed `resolve_approval` replayed a settled request or settled a pending one. -/
theorem resolveApproval_ok (h : resolveApproval svc amb requestId args s = .ok (grant, t)) :
    ∃ request, s.records.approval? requestId = some request
      ∧ Resolved svc amb s.records request args grant t.records
      ∧ (request.status ≠ .pending → t = s) := by
  simp only [resolveApproval, bind_ok, getApproval_ok] at h
  obtain ⟨request, _, ⟨hrequest, rfl⟩, h⟩ := h
  refine ⟨request, hrequest, ?_⟩
  have hid : request.requestId = requestId := (Records.approval?_mem hrequest).2
  by_cases hs : request.status ≠ .pending
  · rw [if_pos hs] at h
    obtain ⟨rfl, hr⟩ := replayResolution_ok amb hs h
    exact ⟨hr, fun _ => rfl⟩
  · rw [if_neg hs] at h
    rw [not_not] at hs
    refine ⟨?_, fun hn => absurd hs hn⟩
    simp only [bind_ok, getIntentById_ok, refuseIf_ok, not_or, not_not] at h
    obtain ⟨intent, _, ⟨hintent, rfl⟩, run, _, hbound, _, _, ⟨hstate, rfl⟩, h⟩ := h
    obtain ⟨hbinding, rfl⟩ := validateApprovalBinding_ok hbound
    have hcurrent : run.pendingApprovalId = some request.requestId := hid ▸ hstate.2.2.1
    by_cases ha : args.approve = true
    · rw [if_pos ha] at h
      simp only [bind_ok, updateApproval_ok, insertEvent_ok, pure_ok] at h
      obtain ⟨g, _, happrove, _, _, rfl, _, _, rfl, _, _, rfl, rfl, rfl⟩ := h
      obtain ⟨row, T, rfl, hissued, hvalid, hT, hrec⟩ := approvePending_ok happrove
      simp only [hrec]
      exact .approved intent run T hs ha hintent hbinding hcurrent row hissued hvalid hT
    · rw [if_neg ha] at h
      simp only [bind_ok, updateIntent_ok, updateApproval_ok, insertEvent_ok, pure_ok] at h
      obtain ⟨_, _, rfl, _, _, rfl, _, _, rfl, rfl, rfl⟩ := h
      exact .denied intent run hs (by simpa using ha) hintent hstate.2.2.2.2 hbinding hcurrent

end Committed

end AgentFleet
