import AgentFleet.Persistence.Approvals

/-! # Capability grants: consumption, revocation and rule receipts

The transactions that move an intent to RESERVED on the authority of a grant:
`consumeGrantAndReserve` (the pending intent of the grant's own request),
`consumeMatchingGrantAndReserve` (a new intent under a reusable grant) and
`reserveTrustRuleIntent` (a new intent under an always-rule, with a receipt).  `Usable` is
what a grant must satisfy at the moment it is spent. -/

namespace AgentFleet

open Relational Transaction

variable (svc : Services) (amb : Ambient)

/-! ### Validation and consumption of a grant -/

/-- `_validate_active_grant`. -/
def validateActiveGrant (run : Run) (request : ApprovalRequest) (grant : CapabilityGrant)
    (intent : ToolIntent) : StoreTxn Unit :=
  refuseIf (request.status ≠ .approved
    ∨ grant.choice ∉ request.availableChoices
    ∨ grant.revokedAt ≠ none
    ∨ (∃ expiry ∈ grant.expiresAt, expiry ≤ amb.clock 0)
    ∨ run.stage ≠ some intent.stage
    ∨ (run.status ≠ .running ∧ run.status ≠ .pausedForApproval)
    ∨ (run.status = .running ∧ run.pendingApprovalId ≠ none)
    ∨ (run.status = .pausedForApproval ∧ run.pendingApprovalId ≠ some request.requestId))
    (invalidApproval (some request.requestId))

/-- The grant after one use. -/
def CapabilityGrant.consumed (grant : CapabilityGrant) (now : Timestamp) : CapabilityGrant :=
  { grant with
    remainingUses := grant.remainingUses.map fun n => n - 1
    consumedAt := some now }

/-- `_consume_grant`. -/
def consumeGrant (run : Run) (grant : CapabilityGrant) (intent : ToolIntent) :
    StoreTxn Unit := do
  refuseIf (∃ n ∈ grant.remainingUses, n ≤ 0) (invalidApproval grant.requestId)
  updateGrant (grant.consumed (amb.clock 1))
  insertEvent svc (eventForIntent svc amb 2 run intent "capability.consumed"
    (JsonValue.object [("grant_id", .str grant.grantId), ("intent_id", .str intent.intentId)]))

/-- `consume_grant_and_reserve`. -/
def consumeGrantAndReserve (requestId : String) (intentHash : Sha256) :
    StoreTxn StoredToolIntent := do
  let request ← getApproval requestId
  let intent ← getIntentById request.intentId
  let found ← getGrantForRequest requestId
  let grant ← expect (invalidApproval (some requestId)) found
  let run ← validateApprovalBinding svc request intent (some grant)
  validateActiveGrant amb run request grant intent.intent
  refuseIf (grant.intentHash ≠ intentHash ∨ request.intentHash ≠ intentHash
    ∨ intent.intentHash ≠ intentHash) (invalidApproval (some requestId))
  if intent.status = .reserved ∨ intent.status = .executed then
    return intent
  else do
    refuseIf (intent.status ≠ .pendingApproval) (invalidApproval (some requestId))
    let reserved := { intent with status := .reserved }
    consumeGrant svc amb run grant intent.intent
    updateIntent reserved
    return reserved

/-- `revoke_grant`. -/
def revokeGrant (grantId : String) : StoreTxn CapabilityGrant := do
  let grant ← getGrant grantId
  if grant.revokedAt ≠ none then
    return grant
  else do
    let revoked := { grant with revokedAt := some (amb.clock 0) }
    updateGrant revoked
    let run ← getRun grant.runId
    insertEvent svc (eventForRun svc amb 1 run "capability.revoked"
      (JsonValue.object [("grant_id", .str grantId)]))
    return revoked

/-- `consume_matching_grant_and_reserve`. -/
def consumeMatchingGrantAndReserve (grantId : String) (intent : ToolIntent)
    (intentHash scopeSha256 : Sha256) : StoreTxn StoredToolIntent := do
  let grant ← getGrant grantId
  let requestId ← expect (invalidApproval none) grant.requestId
  let request ← getApproval requestId
  let source ← getIntentById grant.intentId
  let run ← validateApprovalBinding svc request source (some grant)
  validateActiveGrant amb run request grant intent
  validateIntentContext run intent
  refuseIf (run.status ≠ .running
    ∨ grant.scopeSha256 ≠ some scopeSha256
    ∨ svc.canonicalJsonHash intent.modelDump ≠ intentHash
    ∨ intent.runId ≠ source.intent.runId
    ∨ intent.taskId ≠ source.intent.taskId
    ∨ intent.principalRole ≠ source.intent.principalRole
    ∨ intent.workflow ≠ source.intent.workflow
    ∨ intent.stage ≠ source.intent.stage
    ∨ intent.action ≠ source.intent.action
    ∨ intent.resource ≠ source.intent.resource
    ∨ JsonValue.pyEqFields intent.parameters source.intent.parameters = false
    ∨ intent.sideEffect ≠ source.intent.sideEffect
    ∨ (grant.choice = .allowOnce
        ∧ (intent.pyEq source.intent = false ∨ intentHash ≠ source.intentHash)))
    (invalidApproval (some request.requestId))
  let r ← getRecords
  match r.intentByKey? intent.runId intent.idempotencyKey with
  | some existing => do
      refuseIf (existing.intent.pyEq intent = false
        ∨ existing.intentHash ≠ intentHash
        ∨ existing.approvalRequestId ≠ grant.requestId
        ∨ (existing.status ≠ .reserved ∧ existing.status ≠ .executed))
        (invalidApproval (some request.requestId))
      return existing
  | none => do
      refuseIf (grant.choice = .allowOnce) (invalidApproval (some request.requestId))
      refuseIf ((r.intent? intent.intentId).isSome) (invalidApproval (some request.requestId))
      let reserved : StoredToolIntent :=
        { intent, intentHash, status := .reserved, approvalRequestId := grant.requestId }
      consumeGrant svc amb run grant intent
      insertIntent reserved
      insertEvent svc (eventForIntent svc amb 3 run intent "tool.intent_created"
        (JsonValue.object [("action", .str intent.action)]))
      return reserved

/-- The receipt of one action under an always-rule. -/
def ruleReceipt (intent : ToolIntent) (intentHash scopeSha256 : Sha256)
    (sourceRuleId : String) (run : Run) : CapabilityGrant :=
  let now := amb.clock 0
  { grantId := amb.ids 0
    intentId := intent.intentId
    projectId := run.projectId
    runId := run.runId
    taskId := intent.taskId
    agentInstanceId := intent.agentInstanceId
    principalRole := intent.principalRole
    action := intent.action
    resource := intent.resource
    intentHash := intentHash
    issuedAt := now
    choice := .allowAlways
    scopeSha256 := some scopeSha256
    sourceRuleId := some sourceRuleId
    remainingUses := some 0
    consumedAt := some now }

/-- The replay test of `reserve_trust_rule_intent` on the stored intent and its receipt. -/
def isExactReceipt (intent : ToolIntent) (intentHash scopeSha256 : Sha256)
    (sourceRuleId : String) (run : Run) (existing : StoredToolIntent)
    (receipt : CapabilityGrant) : Prop :=
  existing.intent.pyEq intent = true
    ∧ existing.intentHash = intentHash
    ∧ existing.approvalRequestId = none
    ∧ (existing.status = .reserved ∨ existing.status = .executed)
    ∧ receipt.requestId = none
    ∧ receipt.choice = .allowAlways
    ∧ receipt.sourceRuleId = some sourceRuleId
    ∧ receipt.scopeSha256 = some scopeSha256
    ∧ receipt.intentId = intent.intentId
    ∧ receipt.intentHash = intentHash
    ∧ receipt.projectId = run.projectId
    ∧ receipt.runId = run.runId
    ∧ receipt.taskId = intent.taskId
    ∧ receipt.agentInstanceId = intent.agentInstanceId
    ∧ receipt.principalRole = intent.principalRole
    ∧ receipt.action = intent.action
    ∧ receipt.resource = intent.resource
    ∧ receipt.remainingUses = some 0
    ∧ receipt.consumedAt ≠ none
    ∧ receipt.revokedAt = none
    ∧ ¬ ∃ expiry ∈ receipt.expiresAt, expiry ≤ amb.clock 0
deriving Decidable

/-- `reserve_trust_rule_intent`. -/
def reserveTrustRuleIntent (intent : ToolIntent) (intentHash scopeSha256 : Sha256)
    (sourceRuleId : String) : StoreTxn StoredToolIntent := do
  refuseIf (svc.redactor.containsSecretData (.obj (JsonValue.object [
    ("intent", intent.modelDump),
    ("scope_sha256", .str scopeSha256.hex),
    ("source_rule_id", .str sourceRuleId)])) = true) (invalidApproval none)
  let run ← getRun intent.runId
  validateIntentContext run intent
  refuseIf (run.status ≠ .running
    ∨ run.pendingApprovalId ≠ none
    ∨ run.stage ≠ some intent.stage
    ∨ svc.canonicalJsonHash intent.modelDump ≠ intentHash) (invalidApproval none)
  let r ← getRecords
  match r.intentByKey? intent.runId intent.idempotencyKey with
  | some existing => do
      let row ← expect (invalidApproval none) (r.grantForIntent? existing.intent.intentId)
      let receipt ← getGrant row.1.grantId
      refuseIf (¬ isExactReceipt amb intent intentHash scopeSha256 sourceRuleId run existing
        receipt) (invalidApproval none)
      return existing
  | none => do
      refuseIf ((r.intent? intent.intentId).isSome) (invalidApproval none)
      let receipt := ruleReceipt amb intent intentHash scopeSha256 sourceRuleId run
      refuseIf (¬ receipt.validates) (invalidApproval none)
      let reserved : StoredToolIntent := { intent, intentHash, status := .reserved }
      insertIntent reserved
      insertGrant receipt
      insertEvent svc (eventForIntent svc amb 1 run intent "tool.intent_created"
        (JsonValue.object [("action", .str intent.action)]))
      insertEvent svc (eventForIntent svc amb 2 run intent "capability.issued"
        (receiptPayload receipt 1))
      insertEvent svc (eventForIntent svc amb 3 run intent "capability.consumed"
        (receiptPayload receipt 0))
      return reserved
where
  /-- The payload of the receipt's events. -/
  receiptPayload (receipt : CapabilityGrant) (remainingUses : ℤ) : JsonObject :=
    JsonValue.object [
      ("grant_id", .str receipt.grantId),
      ("intent_id", .str intent.intentId),
      ("choice", .str receipt.choice.value),
      ("remaining_uses", .int remainingUses),
      ("source_rule_id", .str sourceRuleId),
      ("scope_sha256", .str scopeSha256.hex)]

/-! ### What the transactions do -/

section Committed

variable {svc amb} {s t : Store}

/-- What a grant satisfies at the moment it is spent. -/
structure Usable (amb : Ambient) (grant : CapabilityGrant) : Prop where
  unrevoked : grant.revokedAt = none
  unexpired : ∀ expiry ∈ grant.expiresAt, amb.clock 0 < expiry
  positive : ∀ n ∈ grant.remainingUses, 0 < n

variable {grant : CapabilityGrant} {intent : ToolIntent} {u : Unit} {grantId : String}
  {intentHash : Sha256} {stored : StoredToolIntent}

theorem validateActiveGrant_ok {run : Run} {request : ApprovalRequest}
    (h : validateActiveGrant amb run request grant intent s = .ok (u, t)) :
    request.status = .approved ∧ grant.revokedAt = none
      ∧ (∀ expiry ∈ grant.expiresAt, amb.clock 0 < expiry) ∧ t = s := by
  simp only [validateActiveGrant, refuseIf_ok, not_or, not_not, not_exists, not_and,
    Int.not_le] at h
  obtain ⟨⟨hstatus, -, hrevoked, hexpiry, -⟩, rfl⟩ := h
  exact ⟨hstatus, hrevoked, hexpiry, rfl⟩

theorem consumeGrant_ok {run : Run} (h : consumeGrant svc amb run grant intent s = .ok (u, t)) :
    (∀ n ∈ grant.remainingUses, 0 < n)
      ∧ ∃ hrange : (grant.consumed (amb.clock 1)).usesInRange,
        t.records = s.records.withGrant ⟨_, hrange⟩ := by
  simp only [consumeGrant, bind_ok, refuseIf_ok, updateGrant_ok, insertEvent_ok, not_exists,
    not_and, Int.not_le] at h
  obtain ⟨_, _, ⟨hpos, rfl⟩, _, _, ⟨hrange, rfl⟩, rfl⟩ := h
  exact ⟨hpos, hrange, rfl⟩

theorem getGrant_ok (h : getGrant grantId s = .ok (grant, t)) :
    ∃ row, s.records.grant? grantId = some row ∧ grant = row.1 ∧ grant.validGrantChoice
      ∧ t = s := by
  simp only [getGrant, bind_ok, getRecords_ok, expect_ok] at h
  obtain ⟨_, _, ⟨rfl, rfl⟩, row, _, ⟨hrow, rfl⟩, owner, _, ⟨-, rfl⟩, hg⟩ := h
  obtain ⟨rfl, hvalid, rfl⟩ := grantFromRow_ok hg
  exact ⟨row, hrow, rfl, hvalid, rfl⟩

/-- What `consume_grant_and_reserve` did when it spent the grant of `requestId`. -/
structure Consumed (svc : Services) (amb : Ambient) (r : Records) (requestId : String)
    (stored : StoredToolIntent) (r' : Records) : Prop where
  spent : ∃ request intent row run, r.approval? requestId = some request
    ∧ r.intent? request.intentId = some intent
    ∧ r.grantForRequest? requestId = some row
    ∧ ApprovalBinding svc r request intent (some row.1) run
    ∧ request.status = .approved
    ∧ Usable amb row.1
    ∧ intent.status = .pendingApproval
    ∧ stored = { intent with status := .reserved }
    ∧ ∃ hrange : (row.1.consumed (amb.clock 1)).usesInRange,
      r' = (r.withGrant ⟨_, hrange⟩).withIntent stored

/-- `consume_grant_and_reserve` returns the reserved or executed intent unchanged, or spends
the grant on the pending intent of its request. -/
theorem consumeGrantAndReserve_ok {requestId : String}
    (h : consumeGrantAndReserve svc amb requestId intentHash s = .ok (stored, t)) :
    t = s ∨ Consumed svc amb s.records requestId stored t.records := by
  simp only [consumeGrantAndReserve, bind_ok, getApproval_ok, getIntentById_ok, expect_ok,
    refuseIf_ok] at h
  obtain ⟨request, _, ⟨hrequest, rfl⟩, intent, _, ⟨hintent, rfl⟩, found, _, hfound, grant, _,
    ⟨rfl, rfl⟩, run, _, hbound, _, _, hactive, _, _, ⟨-, rfl⟩, h⟩ := h
  obtain ⟨rfl, hsome, -⟩ := getGrantForRequest_ok hfound
  obtain ⟨-, row, hrow, rfl⟩ := hsome grant rfl
  obtain ⟨hbinding, rfl⟩ := validateApprovalBinding_ok hbound
  obtain ⟨happroved, hrevoked, hexpiry, rfl⟩ := validateActiveGrant_ok hactive
  by_cases hs : intent.status = .reserved ∨ intent.status = .executed
  · rw [if_pos hs] at h
    simp only [pure_ok] at h
    exact .inl h.2.symm
  · rw [if_neg hs] at h
    simp only [bind_ok, refuseIf_ok, updateIntent_ok, pure_ok, not_not] at h
    obtain ⟨_, _, ⟨hpending, rfl⟩, _, _, hconsume, _, _, rfl, rfl, rfl⟩ := h
    obtain ⟨hpos, hrange, hrec⟩ := consumeGrant_ok hconsume
    refine .inr ⟨request, intent, row, run, hrequest, hintent, hrow, hbinding, happroved,
      ⟨hrevoked, hexpiry, hpos⟩, hpending, rfl, hrange, ?_⟩
    simp only [hrec]

/-- `revoke_grant` returns a revoked grant unchanged or marks the grant revoked. -/
theorem revokeGrant_ok (h : revokeGrant svc amb grantId s = .ok (grant, t)) :
    t = s ∨ ∃ row hrange, s.records.grant? grantId = some row ∧ row.1.revokedAt = none
      ∧ t.records = s.records.withGrant
        ⟨{ row.1 with revokedAt := some (amb.clock 0) }, hrange⟩ := by
  simp only [revokeGrant, bind_ok] at h
  obtain ⟨g, _, hg, h⟩ := h
  obtain ⟨row, hrow, rfl, -, rfl⟩ := getGrant_ok hg
  by_cases hr : row.1.revokedAt ≠ none
  · rw [if_pos hr] at h
    simp only [pure_ok] at h
    exact .inl h.2.symm
  · rw [if_neg hr] at h
    simp only [bind_ok, updateGrant_ok, getRun_ok, insertEvent_ok, pure_ok] at h
    obtain ⟨_, _, ⟨hrange, rfl⟩, _, _, ⟨-, rfl⟩, _, _, rfl, rfl, rfl⟩ := h
    exact .inr ⟨row, hrange, hrow, not_not.mp hr, rfl⟩

/-- What `consume_matching_grant_and_reserve` did when it spent a reusable grant. -/
structure Reused (amb : Ambient) (r : Records) (grantId : String)
    (stored : StoredToolIntent) (r' : Records) : Prop where
  spent : ∃ row, r.grant? grantId = some row
    ∧ Usable amb row.1
    ∧ row.1.choice ≠ .allowOnce
    ∧ stored.status = .reserved
    ∧ stored.approvalRequestId = row.1.requestId
    ∧ ∃ hrange : (row.1.consumed (amb.clock 1)).usesInRange,
      (r.withGrant ⟨_, hrange⟩).Inserts stored r'

/-- `consume_matching_grant_and_reserve` returns the intent of the key unchanged, or spends a
reusable grant on a new intent. -/
theorem consumeMatchingGrantAndReserve_ok {scopeSha256 : Sha256}
    (h : consumeMatchingGrantAndReserve svc amb grantId intent intentHash scopeSha256 s
      = .ok (stored, t)) :
    t = s ∨ (stored.intent = intent ∧ Reused amb s.records grantId stored t.records) := by
  simp only [consumeMatchingGrantAndReserve, bind_ok, getApproval_ok, getIntentById_ok,
    expect_ok, refuseIf_ok, getRecords_ok] at h
  obtain ⟨grant, _, hgrant, requestId, _, ⟨hid, rfl⟩, request, _, ⟨-, rfl⟩, source, _, ⟨-, rfl⟩,
    run, _, hbound, _, _, hactive, _, _, hctx, _, _, ⟨-, rfl⟩, r, _, ⟨rfl, rfl⟩, h⟩ := h
  obtain ⟨row, hrow, rfl, -, rfl⟩ := getGrant_ok hgrant
  obtain ⟨-, rfl⟩ := validateApprovalBinding_ok hbound
  obtain ⟨-, hrevoked, hexpiry, rfl⟩ := validateActiveGrant_ok hactive
  obtain ⟨-, rfl⟩ := validateIntentContext_ok hctx
  generalize Records.intentByKey? _ intent.runId intent.idempotencyKey = found at h
  cases found with
  | some =>
      simp only [bind_ok, refuseIf_ok, pure_ok] at h
      obtain ⟨_, _, ⟨-, rfl⟩, rfl, rfl⟩ := h
      exact .inl rfl
  | none =>
      simp only [bind_ok, refuseIf_ok, insertIntent_ok, insertEvent_ok, pure_ok] at h
      obtain ⟨_, _, ⟨hchoice, rfl⟩, _, _, ⟨-, rfl⟩, _, _, hconsume, _, _, ⟨r', hins, rfl⟩, _, _,
        rfl, rfl, rfl⟩ := h
      obtain ⟨hpos, hrange, hrec⟩ := consumeGrant_ok hconsume
      rw [hrec] at hins
      exact .inr ⟨rfl, row, hrow, ⟨hrevoked, hexpiry, hpos⟩, hchoice, rfl, rfl, hrange, hins⟩

/-- What `reserve_trust_rule_intent` did when it stored a new intent with its receipt. -/
structure Receipted (amb : Ambient) (r : Records) (stored : StoredToolIntent)
    (r' : Records) : Prop where
  written : ∃ (receipt : GrantRow) (r₁ : Records) (capabilityGrants : Table GrantRow),
    receipt.1.grantId = amb.ids 0
      ∧ receipt.1.requestId = none
      ∧ receipt.1.choice = .allowAlways
      ∧ stored.status = .reserved
      ∧ stored.approvalRequestId = none
      ∧ r.Inserts stored r₁
      ∧ r₁.capabilityGrants.insert receipt = some capabilityGrants
      ∧ r' = { r₁ with capabilityGrants }

/-- `reserve_trust_rule_intent` returns the intent of the key unchanged, or stores a new
intent with a spent receipt. -/
theorem reserveTrustRuleIntent_ok {scopeSha256 : Sha256} {sourceRuleId : String}
    (h : reserveTrustRuleIntent svc amb intent intentHash scopeSha256 sourceRuleId s
      = .ok (stored, t)) :
    t = s ∨ (stored.intent = intent ∧ Receipted amb s.records stored t.records) := by
  simp only [reserveTrustRuleIntent, bind_ok, getRun_ok, refuseIf_ok, getRecords_ok] at h
  obtain ⟨_, _, ⟨-, rfl⟩, run, _, ⟨-, rfl⟩, _, _, hctx, _, _, ⟨-, rfl⟩, r, _, ⟨rfl, rfl⟩, h⟩ := h
  obtain ⟨-, rfl⟩ := validateIntentContext_ok hctx
  generalize Records.intentByKey? _ intent.runId intent.idempotencyKey = found at h
  cases found with
  | some =>
      simp only [bind_ok, expect_ok, refuseIf_ok, pure_ok] at h
      obtain ⟨row, _, ⟨-, rfl⟩, receipt, _, hreceipt, _, _, ⟨-, rfl⟩, rfl, rfl⟩ := h
      obtain ⟨-, -, -, -, rfl⟩ := getGrant_ok hreceipt
      exact .inl rfl
  | none =>
      simp only [bind_ok, refuseIf_ok, insertIntent_ok, insertGrant_ok, insertEvent_ok,
        pure_ok] at h
      obtain ⟨_, _, ⟨-, rfl⟩, _, _, ⟨-, rfl⟩, _, _, ⟨r₁, hins, rfl⟩, _, _, ⟨hrange, T, hT, rfl⟩,
        _, _, rfl, _, _, rfl, _, _, rfl, rfl, rfl⟩ := h
      exact .inr ⟨rfl, ⟨_, hrange⟩, r₁, T, rfl, rfl, rfl, rfl, rfl, hins, hT, rfl⟩

end Committed

end AgentFleet
