import AgentFleet.Persistence.Store

/-! # Tool intents: reservation, dispatch claims, completion and denial

The transactions of the store that a gateway call makes on its own intent, and what each of
them does when it commits (`reserveIntent_ok`, `claim_ok`, `completeIntent_ok`,
`denyIntent_ok`). -/

namespace AgentFleet

open Relational Transaction

variable (svc : Services) (amb : Ambient)

/-- `reserve_intent`. -/
def reserveIntent (intent : ToolIntent) (intentHash : Sha256) : StoreTxn StoredToolIntent := do
  let r ← getRecords
  match r.intentByKey? intent.runId intent.idempotencyKey with
  | some existing => return existing
  | none => do
      let stored : StoredToolIntent := { intent, intentHash, status := .reserved }
      insertIntent stored
      let run ← getRun intent.runId
      insertEvent svc (eventForIntent svc amb 0 run intent "tool.intent_created"
        (JsonValue.object [("action", .str intent.action)]))
      return stored

/-- The error of `claim_reserved_intent_for_dispatch`. -/
def invalidDispatchClaim : StoreError :=
  .fleet {
    code := .recoveryRequired
    message := "The dispatch claim does not match an active exact reserved intent."
    remediation := "Inspect the persisted intent and execution journal before recovery; "
      ++ "do not replay it." }

/-- `claim_reserved_intent_for_dispatch`.  An existing exact claim returns `false`, also after
completion: a claim is never a reusable lease. -/
def claimReservedIntentForDispatch (intentId : String) (intentHash : Sha256) :
    StoreTxn Bool := do
  refuseIf (svc.redactor.containsSecretData (.obj (JsonValue.object
    [("intent_id", .str intentId), ("intent_hash", .str intentHash.hex)])) = true)
    invalidDispatchClaim
  let r ← getRecords
  let stored ← expect invalidDispatchClaim (r.intent? intentId)
  let intent := stored.intent
  refuseIf (stored.intentHash ≠ intentHash
    ∨ svc.canonicalJsonHash intent.modelDump ≠ intentHash
    ∨ svc.redactor.containsSecretData intent.modelDump = true) invalidDispatchClaim
  match r.claim? intentId with
  | some existing => do
      refuseIf (existing.intentHash ≠ intentHash) invalidDispatchClaim
      return false
  | none => do
      refuseIf (stored.status ≠ .reserved) invalidDispatchClaim
      let runRow ← expect invalidDispatchClaim (r.runRow? intent.runId)
      let task ← expect invalidDispatchClaim (r.task? intent.taskId)
      let agentRow ← expect invalidDispatchClaim (r.agentRow? intent.agentInstanceId)
      let run := runRow.run
      let agent := agentRow.agent
      refuseIf (run.projectId ≠ runRow.projectId
        ∨ run.stage = none
        ∨ run.status ≠ .running
        ∨ run.pendingApprovalId ≠ none
        ∨ run.stage ≠ some intent.stage
        ∨ run.taskId ≠ some intent.taskId
        ∨ task.runId ≠ run.runId
        ∨ task.workflow ≠ intent.workflow
        ∨ agent.runId ≠ run.runId
        ∨ agentRow.runId ≠ run.runId
        ∨ agent.taskId ≠ some task.taskId
        ∨ agent.role ≠ intent.principalRole
        ∨ agent.status ≠ .running
        ∨ agent.completedAt ≠ none) invalidDispatchClaim
      insertClaim { intentId, intentHash, claimedAt := amb.clock 0 }
      insertEvent svc (eventForIntent svc amb 1 run intent "intent.dispatch_claimed"
        (JsonValue.object [("intent_id", .str intentId), ("intent_hash", .str intentHash.hex)]))
      return true

/-- `complete_intent`. -/
def completeIntent (intentId : String) (result : JsonObject) : StoreTxn StoredToolIntent := do
  let current ← getIntentById intentId
  if current.status = .executed then
    return current
  else do
    let cleaned := (svc.redactor.redactData result).1
    let completed := { current with status := .executed, result := some cleaned }
    updateIntent completed
    let run ← getRun current.intent.runId
    insertEvent svc (eventForIntent svc amb 0 run current.intent "tool.intent_executed"
      (JsonValue.object [("intent_id", .str intentId), ("action", .str current.intent.action)]))
    return completed

/-- `deny_intent`: whatever the intent's status is. -/
def denyIntent (intentId : String) : StoreTxn Unit := do
  let current ← getIntentById intentId
  updateIntent { current with status := .denied }

/-! ### What the transactions do -/

section Committed

variable {svc amb} {s t : Store}

variable {intentHash : Sha256} {stored : StoredToolIntent} {intentId : String}

/-- A reservation returns the row of its key unchanged or adds a RESERVED row. -/
theorem reserveIntent_ok {intent : ToolIntent}
    (h : reserveIntent svc amb intent intentHash s = .ok (stored, t)) :
    (s.records.intentByKey? intent.runId intent.idempotencyKey = some stored ∧ t = s)
      ∨ (stored = { intent, intentHash, status := .reserved }
          ∧ s.records.Inserts stored t.records) := by
  simp only [reserveIntent, bind_ok, getRecords_ok] at h
  obtain ⟨r, _, ⟨rfl, rfl⟩, h⟩ := h
  cases hf : s.records.intentByKey? intent.runId intent.idempotencyKey with
  | some =>
      simp only [hf, pure_ok] at h
      obtain ⟨rfl, rfl⟩ := h
      exact .inl ⟨rfl, rfl⟩
  | none =>
      simp only [hf, bind_ok, insertIntent_ok, getRun_ok, insertEvent_ok, pure_ok] at h
      obtain ⟨_, _, ⟨r, hr, rfl⟩, run, _, ⟨-, rfl⟩, _, _, rfl, rfl, rfl⟩ := h
      exact .inr ⟨rfl, hr⟩

/-- What a successful dispatch claim found: the exact intent, RESERVED, in a run that is
running and not waiting for an approval. -/
structure Dispatched (r : Records) (intentId : String) (intentHash : Sha256)
    (r' : Records) : Prop where
  stored : ∃ stored, r.intent? intentId = some stored ∧ stored.intentHash = intentHash
    ∧ stored.status = .reserved
    ∧ ∃ row, r.runRow? stored.intent.runId = some row ∧ row.run.status = .running
      ∧ row.run.pendingApprovalId = none
  unclaimed : r.claim? intentId = none
  claimed : ∃ claimedAt toolDispatchClaims,
    r.toolDispatchClaims.insert { intentId, intentHash, claimedAt } = some toolDispatchClaims
      ∧ r' = { r with toolDispatchClaims }

/-- A dispatch claim returns `false` and changes nothing, or returns `true` and adds the claim
of a RESERVED intent that had none. -/
theorem claim_ok {won : Bool}
    (h : claimReservedIntentForDispatch svc amb intentId intentHash s = .ok (won, t)) :
    (won = false ∧ t = s)
      ∨ (won = true ∧ Dispatched s.records intentId intentHash t.records) := by
  simp only [claimReservedIntentForDispatch, bind_ok, getRecords_ok, refuseIf_ok, expect_ok] at h
  obtain ⟨_, _, ⟨-, rfl⟩, r, _, ⟨rfl, rfl⟩, stored, _, ⟨hstored, rfl⟩, _, _, ⟨hexact, rfl⟩, h⟩ := h
  cases hc : s.records.claim? intentId with
  | some =>
      simp only [hc, bind_ok, refuseIf_ok, pure_ok] at h
      obtain ⟨_, _, ⟨-, rfl⟩, rfl, rfl⟩ := h
      exact .inl ⟨rfl, rfl⟩
  | none =>
      simp only [hc, bind_ok, refuseIf_ok, expect_ok, insertClaim_ok, insertEvent_ok, pure_ok,
        not_or, not_not] at h hexact
      obtain ⟨_, _, ⟨hreserved, rfl⟩, row, _, ⟨hrow, rfl⟩, task, _, ⟨-, rfl⟩, agentRow, _,
        ⟨-, rfl⟩, _, _, ⟨hactive, rfl⟩, _, _, ⟨T, hT, rfl⟩, _, _, rfl, rfl, rfl⟩ := h
      exact .inr ⟨rfl, ⟨stored, hstored, hexact.1, hreserved, row, hrow, hactive.2.2.1,
        hactive.2.2.2.1⟩, hc, _, T, hT, rfl⟩

/-- Completion returns an executed intent as it is, or marks the intent EXECUTED. -/
theorem completeIntent_ok {result : JsonObject}
    (h : completeIntent svc amb intentId result s = .ok (stored, t)) :
    ∃ current, s.records.intent? intentId = some current
      ∧ ((current.status = .executed ∧ stored = current ∧ t = s)
        ∨ (current.status ≠ .executed
          ∧ stored = { current with
              status := .executed, result := some (svc.redactor.redactData result).1 }
          ∧ t.records = s.records.withIntent stored)) := by
  simp only [completeIntent, bind_ok, getIntentById_ok] at h
  obtain ⟨current, _, ⟨hcurrent, rfl⟩, h⟩ := h
  refine ⟨current, hcurrent, ?_⟩
  split_ifs at h with hs
  · simp only [pure_ok] at h
    obtain ⟨rfl, rfl⟩ := h
    exact .inl ⟨hs, rfl, rfl⟩
  · simp only [bind_ok, updateIntent_ok, getRun_ok, insertEvent_ok, pure_ok] at h
    obtain ⟨_, _, rfl, run, _, ⟨-, rfl⟩, _, _, rfl, rfl, rfl⟩ := h
    exact .inr ⟨hs, rfl, rfl⟩

/-- Denial marks the intent DENIED. -/
theorem denyIntent_ok {u : Unit} (h : denyIntent intentId s = .ok (u, t)) :
    ∃ current, s.records.intent? intentId = some current
      ∧ t.records = s.records.withIntent { current with status := .denied } := by
  simp only [denyIntent, bind_ok, getIntentById_ok, updateIntent_ok] at h
  obtain ⟨current, _, ⟨hcurrent, rfl⟩, rfl⟩ := h
  exact ⟨current, hcurrent, rfl⟩

end Committed

end AgentFleet
