import AgentFleet.Persistence.Machine

/-! # What no transaction can undo

`Evolves r r'` relates the records before and after any number of transactions: every row is
still there under the same identity, a dispatch claim is never removed, an intent that left
PENDING_APPROVAL does not return to it, a settled request is frozen, and a grant keeps its
identity and its revocation while its uses only shrink.  `evolves_run` is the statement for
whole runs; the safety theorems about grants, approvals and dispatch start from it.

`Effect.intent_origin` looks the other way: which transaction an intent of the present can come
from. -/

namespace AgentFleet

open Relational Relational.Table Transition

/-! ### Later versions of a row -/

/-- A later version of an intent's row. -/
structure IntentEvolves (a b : StoredToolIntent) : Prop where
  intent : b.intent = a.intent
  intentHash : b.intentHash = a.intentHash
  approvalRequestId : b.approvalRequestId = a.approvalRequestId
  settled : a.status ≠ .pendingApproval → b.status ≠ .pendingApproval

/-- A later version of an approval request's row. -/
structure ApprovalEvolves (a b : ApprovalRequest) : Prop where
  requestId : b.requestId = a.requestId
  intentId : b.intentId = a.intentId
  runId : b.runId = a.runId
  settled : a.status ≠ .pending → b = a

/-- The fields of a grant that no write changes. -/
def CapabilityGrant.identity (grant : CapabilityGrant) : CapabilityGrant :=
  { grant with remainingUses := none, consumedAt := none, revokedAt := none }

/-- A later version of a grant's row. -/
structure GrantEvolves (a b : GrantRow) : Prop where
  identity : b.1.identity = a.1.identity
  unlimited : a.1.remainingUses = none → b.1.remainingUses = none
  uses : ∀ n ∈ a.1.remainingUses, ∃ m ∈ b.1.remainingUses, m ≤ n
  revoked : a.1.revokedAt ≠ none → b.1.revokedAt = a.1.revokedAt

/-- A later version of a run's row. -/
structure RunEvolves (a b : RunRow) : Prop where
  runId : b.run.runId = a.run.runId
  projectId : b.projectId = a.projectId

/-- A later version of an agent's row: its `run_id` column stays. -/
structure AgentEvolves (a b : AgentRow) : Prop where
  agentInstanceId : b.agent.agentInstanceId = a.agent.agentInstanceId
  runId : b.runId = a.runId

/-- The records after any number of transactions. -/
structure Evolves (r r' : Records) : Prop where
  runs : Carries RunEvolves r.runs r'.runs
  agents : Carries AgentEvolves r.agentInstances r'.agentInstances
  intents : Carries IntentEvolves r.toolIntents r'.toolIntents
  approvals : Carries ApprovalEvolves r.approvals r'.approvals
  grants : Carries GrantEvolves r.capabilityGrants r'.capabilityGrants
  claims : Carries Eq r.toolDispatchClaims r'.toolDispatchClaims

theorem IntentEvolves.refl (a : StoredToolIntent) : IntentEvolves a a :=
  ⟨rfl, rfl, rfl, id⟩

theorem IntentEvolves.trans (a b c : StoredToolIntent) (h : IntentEvolves a b)
    (h' : IntentEvolves b c) : IntentEvolves a c :=
  ⟨h'.intent.trans h.intent, h'.intentHash.trans h.intentHash,
    h'.approvalRequestId.trans h.approvalRequestId, fun ha => h'.settled (h.settled ha)⟩

theorem ApprovalEvolves.refl (a : ApprovalRequest) : ApprovalEvolves a a :=
  ⟨rfl, rfl, rfl, fun _ => rfl⟩

theorem ApprovalEvolves.trans (a b c : ApprovalRequest) (h : ApprovalEvolves a b)
    (h' : ApprovalEvolves b c) : ApprovalEvolves a c := by
  refine ⟨h'.requestId.trans h.requestId, h'.intentId.trans h.intentId,
    h'.runId.trans h.runId, fun ha => ?_⟩
  have hb : b = a := h.settled ha
  exact (h'.settled (hb ▸ ha)).trans hb

theorem GrantEvolves.refl (a : GrantRow) : GrantEvolves a a :=
  ⟨rfl, id, fun n hn => ⟨n, hn, Int.le_refl n⟩, fun _ => rfl⟩

theorem GrantEvolves.trans (a b c : GrantRow) (h : GrantEvolves a b) (h' : GrantEvolves b c) :
    GrantEvolves a c := by
  refine ⟨h'.identity.trans h.identity, fun ha => h'.unlimited (h.unlimited ha),
    fun n hn => ?_, fun ha => ?_⟩
  · obtain ⟨m, hm, hle⟩ := h.uses n hn
    obtain ⟨k, hk, hle'⟩ := h'.uses m hm
    exact ⟨k, hk, Int.le_trans hle' hle⟩
  · have hb := h.revoked ha
    exact (h'.revoked (hb ▸ ha)).trans hb

theorem RunEvolves.refl (a : RunRow) : RunEvolves a a := ⟨rfl, rfl⟩

theorem RunEvolves.trans (a b c : RunRow) (h : RunEvolves a b) (h' : RunEvolves b c) :
    RunEvolves a c :=
  ⟨h'.runId.trans h.runId, h'.projectId.trans h.projectId⟩

theorem AgentEvolves.refl (a : AgentRow) : AgentEvolves a a := ⟨rfl, rfl⟩

theorem AgentEvolves.trans (a b c : AgentRow) (h : AgentEvolves a b) (h' : AgentEvolves b c) :
    AgentEvolves a c :=
  ⟨h'.agentInstanceId.trans h.agentInstanceId, h'.runId.trans h.runId⟩

/-- What a grant's identity determines does not change. -/
theorem GrantEvolves.field {a b : GrantRow} (h : GrantEvolves a b) {β : Type}
    (f : CapabilityGrant → β) (hf : ∀ g, f g.identity = f g) : f b.1 = f a.1 := by
  rw [← hf b.1, h.identity, hf a.1]

theorem Evolves.refl (r : Records) : Evolves r r :=
  ⟨.refl .refl _, .refl .refl _, .refl .refl _, .refl .refl _, .refl .refl _,
    .refl (fun _ => rfl) _⟩

theorem Evolves.trans {r r' r'' : Records} (h : Evolves r r') (h' : Evolves r' r'') :
    Evolves r r'' :=
  ⟨h.runs.trans RunEvolves.trans h'.runs, h.agents.trans AgentEvolves.trans h'.agents,
    h.intents.trans IntentEvolves.trans h'.intents,
    h.approvals.trans ApprovalEvolves.trans h'.approvals,
    h.grants.trans GrantEvolves.trans h'.grants,
    h.claims.trans (fun _ _ _ hab hbc => hab.trans hbc) h'.claims⟩

/-! ### Row writes evolve -/

theorem evolves_inserts {r r' : Records} {stored : StoredToolIntent}
    (h : r.Inserts stored r') : Evolves r r' := by
  obtain ⟨T, hT, rfl⟩ := h
  exact { Evolves.refl r with intents := .insert .refl hT }

theorem evolves_withIntent {r : Records} {stored : StoredToolIntent}
    (h : ∀ a ∈ r.toolIntents, a.intent.intentId = stored.intent.intentId →
      IntentEvolves a (stored.written a)) : Evolves r (r.withIntent stored) :=
  { Evolves.refl r with
    intents := .update .refl stored.keepsKeys_written fun a ha hp =>
      h a ha (of_decide_eq_true hp) }

theorem evolves_withRun (r : Records) (run : Run) : Evolves r (r.withRun run) :=
  { Evolves.refl r with
    runs := .update .refl (RunRow.keepsKeys_written run) fun _ _ _ => ⟨rfl, rfl⟩ }

theorem evolves_withApproval {r : Records} {resolved : ApprovalRequest}
    (h : ∀ a ∈ r.approvals, a.requestId = resolved.requestId → a.status = .pending) :
    Evolves r (r.withApproval resolved) :=
  { Evolves.refl r with
    approvals := .update .refl resolved.keepsKeys_written fun a ha hp =>
      ⟨rfl, rfl, rfl, fun hs => absurd (h a ha (of_decide_eq_true hp)) hs⟩ }

theorem evolves_withGrant {r : Records} {grant : GrantRow}
    (h : ∀ a ∈ r.capabilityGrants, a.1.grantId = grant.1.grantId →
      GrantEvolves a (GrantRow.written grant a)) : Evolves r (r.withGrant grant) :=
  { Evolves.refl r with
    grants := .update .refl (GrantRow.keepsKeys_written grant) fun a ha hp =>
      h a ha (of_decide_eq_true hp) }

/-- Writing a copy of the stored row under another status evolves, unless a settled intent
becomes pending. -/
theorem evolves_status {r : Records} {intentId : String} {current : StoredToolIntent}
    (found : r.intent? intentId = some current) (status : IntentStatus)
    (result : Option JsonObject) (h : status ≠ .pendingApproval) :
    Evolves r (r.withIntent { current with status := status, result := result }) := by
  refine evolves_withIntent fun a ha hid => ?_
  have hac : a = current := eq_of_clash ha (Records.intent?_mem found).1 (.inl hid)
  subst hac
  exact ⟨rfl, rfl, rfl, fun _ => h⟩

/-- One use of a grant evolves. -/
theorem evolves_consumed {r : Records} {row : GrantRow} (hrow : row ∈ r.capabilityGrants)
    {now : Timestamp} (hrange : (row.1.consumed now).usesInRange) :
    Evolves r (r.withGrant ⟨row.1.consumed now, hrange⟩) := by
  refine evolves_withGrant fun a ha hid => ?_
  have har : a = row := eq_of_clash ha hrow (.inl hid)
  subst har
  refine ⟨rfl, fun hn => ?_, fun n hn => ⟨n - 1, ?_, Int.sub_le_self n (by decide)⟩,
    fun _ => rfl⟩
  · simp [GrantRow.written, CapabilityGrant.consumed, hn]
  · simp only [Option.mem_def] at hn
    simp [GrantRow.written, CapabilityGrant.consumed, hn]

theorem evolves_revoked {r : Records} {row : GrantRow} (hrow : row ∈ r.capabilityGrants)
    (hnone : row.1.revokedAt = none) {now : Timestamp}
    (hrange : { row.1 with revokedAt := some now }.usesInRange) :
    Evolves r (r.withGrant ⟨{ row.1 with revokedAt := some now }, hrange⟩) := by
  refine evolves_withGrant fun a ha hid => ?_
  have har : a = row := eq_of_clash ha hrow (.inl hid)
  subst har
  exact ⟨rfl, id, fun n hn => ⟨n, hn, Int.le_refl n⟩, fun hr => absurd hnone hr⟩

theorem evolves_approval {r : Records} {requestId : String} {request resolved : ApprovalRequest}
    (found : r.approval? requestId = some request) (pending : request.status = .pending)
    (same : resolved.requestId = request.requestId) : Evolves r (r.withApproval resolved) := by
  refine evolves_withApproval fun a ha hid => ?_
  have har : a = request :=
    eq_of_clash ha (Records.approval?_mem found).1 (.inl (hid.trans same))
  exact har ▸ pending

theorem evolves_insertGrant {r : Records} {row : GrantRow} {capabilityGrants : Table GrantRow}
    (h : r.capabilityGrants.insert row = some capabilityGrants) :
    Evolves r { r with capabilityGrants } :=
  { Evolves.refl r with grants := .insert .refl h }

theorem evolves_upsertAgent (r : Records) (agent : AgentInstance) :
    Evolves r { r with agentInstances := upsertAgent r.agentInstances agent } := by
  have hagents : Carries AgentEvolves r.agentInstances
      (upsertAgent r.agentInstances agent) := by
    unfold upsertAgent
    cases hinsert : r.agentInstances.insert { agent, runId := agent.runId } with
    | some => exact .insert .refl hinsert
    | none => exact .update .refl _ fun _ _ _ => ⟨rfl, rfl⟩
  exact { Evolves.refl r with agents := hagents }

/-! ### Transactions evolve -/

variable {svc : Services}

theorem Paused.evolves {r r' : Records} {intent : ToolIntent} {intentHash : Sha256}
    {request : ApprovalRequest} (h : Paused r intent intentHash request r') : Evolves r r' := by
  obtain ⟨row, r₁, approvals, -, -, hins, -, happ, rfl⟩ := h.written
  have hrequest : Evolves r₁ { r₁ with approvals } :=
    { Evolves.refl r₁ with approvals := .insert .refl happ }
  exact (evolves_inserts hins).trans (hrequest.trans (evolves_withRun _ _))

theorem Resolved.evolves {amb : Ambient} {r r' : Records} {requestId : String}
    {request : ApprovalRequest} {args : ResolveArgs} {grant : Option CapabilityGrant}
    (found : r.approval? requestId = some request)
    (h : Resolved svc amb r request args grant r') : Evolves r r' := by
  cases h with
  | replayed => exact .refl r
  | approved intent run T pending _ _ _ _ row _ _ inserted =>
      have hgrant := evolves_insertGrant inserted
      exact hgrant.trans
        (evolves_approval (r := { r with capabilityGrants := T }) found pending rfl)
  | denied intent run pending _ source =>
      have hintent : Evolves r (r.withIntent { intent with status := .denied }) :=
        evolves_status source .denied intent.result (by decide)
      exact hintent.trans (evolves_approval (r := r.withIntent _) found pending rfl)

theorem Consumed.evolves {amb : Ambient} {r r' : Records} {requestId : String}
    {stored : StoredToolIntent} (h : Consumed svc amb r requestId stored r') :
    Evolves r r' := by
  obtain ⟨request, intent, row, run, -, hintent, hrow, -, -, -, -, rfl, hrange, rfl⟩ := h.spent
  have hgrant := evolves_consumed (Records.grantForRequest?_mem hrow).1 hrange
  exact hgrant.trans
    (evolves_status (r := r.withGrant _) hintent .reserved intent.result (by decide))

theorem Effect.evolves {amb : Ambient} {op : StoreOp} {r r' : Records}
    (h : Effect svc amb op r r') : Evolves r r' := by
  cases h with
  | unchanged => exact .refl r
  | reserved h => exact evolves_inserts h
  | dispatched h =>
      obtain ⟨_, T, hT, rfl⟩ := h.claimed
      exact { Evolves.refl r with claims := .insert (fun _ => rfl) hT }
  | paused h => exact h.evolves
  | resolved found h => exact h.evolves found
  | consumed h => exact h.evolves
  | revoked found unrevoked hrange =>
      exact evolves_revoked (Records.grant?_mem found).1 unrevoked hrange
  | reused _ h =>
      obtain ⟨row, hrow, -, -, -, -, hrange, hins⟩ := h.spent
      exact (evolves_consumed (Records.grant?_mem hrow).1 hrange).trans (evolves_inserts hins)
  | receipted _ h =>
      obtain ⟨receipt, r₁, T, -, -, -, -, -, hins, hT, rfl⟩ := h.written
      exact (evolves_inserts hins).trans (evolves_insertGrant hT)
  | completed found => exact evolves_status found .executed _ (by decide)
  | denied found => exact evolves_status found .denied _ (by decide)
  | runCreated h => exact { Evolves.refl r with runs := .insert .refl h }
  | runSaved => exact evolves_withRun r _
  | taskSaved => exact { Evolves.refl r with }
  | agentSaved => exact evolves_upsertAgent r _

/-- What holds across every run of the store. -/
theorem evolves_run (svc : Services) (s : Store) (inputs : List StoreInput) :
    Evolves s.records ((storeMachine svc).run s inputs).records :=
  Machine.run_rel (I := fun _ => True) (R := fun s t => Evolves s.records t.records)
    (fun _ _ _ => trivial) (fun _ => .refl _) (fun _ _ _ => .trans)
    (fun s input _ => (effect_of_step svc s input).evolves) trivial inputs

/-! ### Where rows come from -/

/-- The intent that a transaction may store. -/
def StoreOp.newIntent? : StoreOp → Option ToolIntent
  | .reserveIntent intent _ => some intent
  | .createApprovalAndPause intent _ _ => some intent
  | .consumeMatchingGrantAndReserve _ intent _ _ => some intent
  | .reserveTrustRuleIntent intent _ _ _ => some intent
  | _ => none

/-- What a transaction did to the row of an intent. -/
inductive IntentMove (op : StoreOp) (a b : StoredToolIntent) : Prop where
  | same (h : b = a)
  /-- A pending intent is reserved on its grant or denied by its user. -/
  | settled (intent : b.intent = a.intent) (pending : a.status = .pendingApproval)
      (status : b.status = .reserved ∨ b.status = .denied)
  | completed (intent : b.intent = a.intent) (result : JsonObject)
      (op_eq : op = .completeIntent a.intent.intentId result) (open_ : a.status ≠ .executed)
      (status : b.status = .executed)
  | denied (intent : b.intent = a.intent) (op_eq : op = .denyIntent a.intent.intentId)
      (status : b.status = .denied)

theorem IntentMove.intent_eq {op : StoreOp} {a b : StoredToolIntent} (h : IntentMove op a b) :
    b.intent = a.intent := by
  cases h with
  | same h => rw [h]
  | settled intent | completed intent | denied intent => exact intent

/-- A row of an intent after a transaction is a moved earlier row, or new, and then it is
RESERVED or PENDING_APPROVAL. -/
def IntentOrigin (op : StoreOp) (r : Records) (b : StoredToolIntent) : Prop :=
  (∃ a ∈ r.toolIntents, IntentMove op a b)
    ∨ (op.newIntent? = some b.intent ∧ (b.status = .reserved ∨ b.status = .pendingApproval)
        ∧ ∀ a ∈ r.toolIntents, a.intent.intentId ≠ b.intent.intentId)

theorem origin_of_inserts {op : StoreOp} {r r' : Records} {stored : StoredToolIntent}
    (h : r.Inserts stored r') (hnew : op.newIntent? = some stored.intent)
    (hstatus : stored.status = .reserved ∨ stored.status = .pendingApproval)
    {b : StoredToolIntent} (hb : b ∈ r'.toolIntents) : IntentOrigin op r b := by
  obtain ⟨T, hT, rfl⟩ := h
  rcases (Table.mem_insert hT).mp hb with hold | rfl
  · exact .inl ⟨b, hold, .same rfl⟩
  · exact .inr ⟨hnew, hstatus, fun a ha heq => Table.not_clash_of_insert hT ha (.inl heq)⟩

theorem origin_of_withIntent {op : StoreOp} {r : Records} {intentId : String}
    {current : StoredToolIntent} (found : r.intent? intentId = some current)
    {status : IntentStatus} {result : Option JsonObject}
    (h : ∀ b, b.intent = current.intent → b.status = status → b.result = result →
      IntentMove op current b)
    {b : StoredToolIntent}
    (hb : b ∈ (r.withIntent { current with status := status, result := result }).toolIntents) :
    IntentOrigin op r b := by
  obtain ⟨a, ha, rfl⟩ := Records.mem_withIntent.mp hb
  split_ifs with hid
  · have hac : a = current := eq_of_clash ha (Records.intent?_mem found).1 (.inl hid)
    subst hac
    exact .inl ⟨a, ha, h _ rfl rfl rfl⟩
  · exact .inl ⟨a, ha, .same rfl⟩

/-- Where the intents after a transaction come from. -/
theorem Effect.intent_origin {amb : Ambient} {op : StoreOp} {r r' : Records}
    (h : Effect svc amb op r r') {b : StoredToolIntent} (hb : b ∈ r'.toolIntents) :
    IntentOrigin op r b := by
  cases h with
  | reserved h => exact origin_of_inserts h rfl (.inl rfl) hb
  | paused h =>
      obtain ⟨row, r₁, approvals, -, -, hins, -, -, rfl⟩ := h.written
      exact origin_of_inserts hins rfl (.inr rfl) hb
  | resolved found h =>
      cases h with
      | replayed | approved => exact .inl ⟨b, hb, .same rfl⟩
      | denied intent run _ _ source waiting =>
          exact origin_of_withIntent source
            (fun c hc hs _ => .settled hc waiting (.inr hs)) hb
  | consumed h =>
      obtain ⟨request, intent, row, run, -, hintent, -, -, -, -, hpending, rfl, hrange, rfl⟩ :=
        h.spent
      exact origin_of_withIntent (r := r.withGrant _) hintent
        (fun c hc hs _ => .settled hc hpending (.inl hs)) hb
  | reused own h =>
      obtain ⟨row, -, -, -, hstatus, -, hrange, hins⟩ := h.spent
      exact origin_of_inserts hins (by simp [StoreOp.newIntent?, own]) (.inl hstatus) hb
  | receipted own h =>
      obtain ⟨receipt, r₁, T, -, -, -, hstatus, -, hins, -, rfl⟩ := h.written
      exact origin_of_inserts hins (by simp [StoreOp.newIntent?, own]) (.inl hstatus) hb
  | @completed _ intentId result current found hopen =>
      refine origin_of_withIntent found (fun c hc hs _ => .completed hc result ?_ hopen hs) hb
      rw [(Records.intent?_mem found).2]
  | denied found =>
      refine origin_of_withIntent found (fun c hc hs _ => .denied hc ?_ hs) hb
      rw [(Records.intent?_mem found).2]
  | dispatched h =>
      obtain ⟨_, T, -, rfl⟩ := h.claimed
      exact .inl ⟨b, hb, .same rfl⟩
  | unchanged => exact .inl ⟨b, hb, .same rfl⟩
  | revoked | runCreated | runSaved | taskSaved | agentSaved => exact .inl ⟨b, hb, .same rfl⟩

end AgentFleet
