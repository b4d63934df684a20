import AgentFleet.Application.Gateway

/-! # At most one dispatch

Calls name their intents before they own them: a call stands under an `IntentName` from its
first transaction on, and every row of `tool_intents` has one.  Whatever the interleaving,
equal identifiers mean equal names (`Named`), so callers that generate different identifiers
for one idempotency key meet in the one row that the key admits, and the claim table, which
nothing ever deletes from, admits one claim for that row.

* `claimed_at_most_once` bounds the dispatch claims that return `True` per intent.
* `started_at_most_once` bounds the started executions per run and idempotency key.
* `dispatch_at_most_once` is both, for every interleaving, crashes included. -/

namespace AgentFleet

open Relational Transaction Transition

variable {svc : Services} {action : GatewayAction}

/-! ### Names -/

/-- The identifier of an intent and the key that a run knows it by. -/
structure IntentName where
  intentId : String
  runId : String
  idempotencyKey : String

/-- The name of an intent. -/
def ToolIntent.name (intent : ToolIntent) : IntentName :=
  ⟨intent.intentId, intent.runId, intent.idempotencyKey⟩

/-- The name that a call stands under. -/
def CallState.name? : CallState → Option IntentName
  | .finding request freshId =>
      some ⟨freshId, request.run.runId, request.scripted.idempotencyKey⟩
  | state => state.context?.map fun ctx => ctx.intent.name

/-- A stored intent has the name. -/
def Records.Names (r : Records) (n : IntentName) : Prop :=
  ∃ a ∈ r.toolIntents, a.intent.name = n

/-- The names of stored intents and of calls. -/
def Gateway.Names (g : Gateway) (n : IntentName) : Prop :=
  g.store.records.Names n ∨ ∃ state ∈ g.calls, state.name? = some n

/-- Names were issued, and equal identifiers are equal names. -/
structure Named (g : Gateway) : Prop where
  issued : ∀ n, g.Names n → n.intentId ∈ g.issued
  unique : ∀ n n', g.Names n → g.Names n' → n.intentId = n'.intentId → n = n'

@[simp] theorem fail_name? (code : ErrorCode) (message remediation : String)
    (details : JsonObject) :
    (CallState.fail code message remediation details).name? = none := rfl

/-! ### What a call keeps when it goes on -/

variable {stored : StoredToolIntent} {freshId intentId : String} {n : IntentName}
  {ctx : CallContext} {state : CallState} {op : StoreOp} {amb : Ambient} {s t : Store}
  {result : StoreResult} {intent : ToolIntent} {r r' : Records} {g g' : Gateway} {call : ℕ}
  {seen : Observation}

theorem buildIntent_name {request : GatewayRequest}
    (hrun : stored.intent.runId = request.run.runId)
    (hkey : stored.intent.idempotencyKey = request.scripted.idempotencyKey) :
    (buildIntent request (some stored) freshId).name = stored.intent.name := by
  simp [buildIntent, ToolIntent.name, hrun, hkey]

theorem afterFind_none (request : GatewayRequest) (freshId : String) :
    (afterFind svc request freshId none).name?
      = some ⟨freshId, request.run.runId, request.scripted.idempotencyKey⟩ := rfl

/-- A call that found a row stands under the name of the row, or has ended. -/
theorem afterFind_some {request : GatewayRequest} (hrun : stored.intent.runId = request.run.runId)
    (hkey : stored.intent.idempotencyKey = request.scripted.idempotencyKey)
    (h : (afterFind svc request freshId (some stored)).name? = some n) :
    n = stored.intent.name := by
  simp only [afterFind] at h
  split_ifs at h
  · cases h
  · cases h
  · cases h
  · exact (Option.some.inj h).symm.trans (buildIntent_name hrun hkey)

theorem dispatchExisting_name {decision : PermissionDecision} {existing : StoredToolIntent}
    (h : (dispatchExisting ctx decision existing).name? = some n) : ctx.intent.name = n := by
  simp only [dispatchExisting] at h
  split_ifs at h
  · cases h
  · cases h
  · cases h
  · exact Option.some.inj h

theorem route_name {decision : PermissionDecision} (h : (route svc ctx decision).name? = some n) :
    ctx.intent.name = n := by
  simp only [route] at h
  split at h
  · split at h <;> exact Option.some.inj h
  · split at h
    · split at h
      · split at h
        · cases h
        · exact Option.some.inj h
      · exact dispatchExisting_name h
    · split at h
      · exact Option.some.inj h
      · split at h
        · cases h
        · exact Option.some.inj h
        · cases h
        · exact Option.some.inj h
        · exact Option.some.inj h

theorem afterInspect_name {decision : PermissionDecision} {request : ApprovalRequest}
    (h : (afterInspect ctx decision request).name? = some n) : ctx.intent.name = n := by
  simp only [afterInspect] at h
  split at h
  · cases h
  · cases h
  · split_ifs at h
    · cases h
    · exact Option.some.inj h

/-- A call goes on under its name or under the name of the row it found. -/
theorem resume_name (performs : state.op? svc amb = some op)
    (ran : storeBody svc amb op s = .ok (result, t))
    (h : (state.resume svc amb result).name? = some n) :
    state.name? = some n ∨ s.records.Names n := by
  cases state with
  | finding request freshId =>
      cases performs
      obtain ⟨existing, hfind, rfl⟩ := map_ok.mp ran
      obtain ⟨rfl, -⟩ := findIntent_ok.mp hfind
      simp only [CallState.resume] at h
      generalize hkey : s.records.intentByKey? _ _ = existing at h
      cases existing with
      | none => exact .inl ((afterFind_none request freshId).symm.trans h)
      | some stored =>
          obtain ⟨hmem, hrun, hidem⟩ := Records.intentByKey?_mem hkey
          exact .inr ⟨stored, hmem, (afterFind_some hrun hidem h).symm⟩
  | recording => exact .inl (congrArg some (route_name h))
  | inspecting =>
      cases result with
      | approval => exact .inl (congrArg some (afterInspect_name h))
      | _ => exact .inl h
  | consuming =>
      cases result with
      | intent => exact .inl (congrArg some (dispatchExisting_name h))
      | _ => exact .inl h
  | claiming =>
      cases result with
      | won dispatch => cases dispatch <;> exact .inl h
      | _ => exact .inl h
  | reviewing =>
      cases result with
      | intent =>
          simp only [CallState.resume] at h
          split_ifs at h <;> cases h
      | _ => exact .inl h
  | completing =>
      cases result with
      | intent => cases h
      | _ => exact .inl h
  | denyReserving | reservingGrant | reservingRule | reserving => exact .inl h
  | denying | pausing => cases h
  | deciding | owning | executing | returned | raised | crashed => cases performs

theorem newIntent_name (performs : state.op? svc amb = some op)
    (new : op.newIntent? = some intent) : state.name? = some intent.name := by
  cases state with
  | denyReserving | pausing | reservingGrant | reservingRule | reserving =>
      cases performs
      cases new
      rfl
  | finding | recording | denying | inspecting | consuming | claiming | reviewing | completing =>
      cases performs
      cases new
  | deciding | owning | executing | returned | raised | crashed => cases performs

theorem EnvironmentOp.newIntent (op : EnvironmentOp) : op.toStoreOp.newIntent? = none := by
  cases op <;> rfl

/-- A transaction stores no name but that of the intent it is given. -/
theorem Effect.names (h : Effect svc amb op r r') (hn : r'.Names n) :
    r.Names n ∨ ∃ intent, op.newIntent? = some intent ∧ intent.name = n := by
  obtain ⟨b, hb, rfl⟩ := hn
  rcases h.intent_origin hb with ⟨a, ha, hmove⟩ | ⟨hnew, -, -⟩
  · exact .inl ⟨a, ha, by rw [hmove.intent_eq]⟩
  · exact .inr ⟨b.intent, hnew, rfl⟩

theorem Evolves.names (h : Evolves r r') (hn : r.Names n) : r'.Names n := by
  obtain ⟨a, ha, rfl⟩ := hn
  obtain ⟨b, hb, hab⟩ := h.intents a ha
  exact ⟨b, hb, by rw [hab.intent]⟩

/-- One key of a run has one name. -/
theorem Records.name_of_key {n' : IntentName} (h : r.Names n) (h' : r.Names n')
    (hrun : n.runId = n'.runId) (hkey : n.idempotencyKey = n'.idempotencyKey) : n = n' := by
  obtain ⟨a, ha, rfl⟩ := h
  obtain ⟨b, hb, rfl⟩ := h'
  rw [Table.eq_of_clash ha hb (.inr ⟨hrun, hkey⟩)]

/-! ### Names agree -/

theorem Named.of_subset (h : Named g) (hissued : g'.issued = g.issued)
    (hnames : ∀ n, g'.Names n → g.Names n) : Named g' where
  issued n hn := hissued ▸ h.issued n (hnames n hn)
  unique n n' hn hn' := h.unique n n' (hnames n hn) (hnames n' hn')

theorem names_setCall (h : (g.setCall call state).Names n) : g.Names n ∨ state.name? = some n := by
  rcases h with hr | ⟨x, hx, hn⟩
  · exact .inl (.inl hr)
  · rcases mem_setCall hx with hx | rfl
    · exact .inl (.inr ⟨x, hx, hn⟩)
    · exact .inr hn

theorem LocalMove.name {state' : CallState} (h : LocalMove state state')
    (hn : state'.name? = some n) : state.name? = some n := by
  cases h with
  | decided | finished => exact hn
  | raised | crashed => cases hn

theorem Gateway.names_of_call (position : g.calls[call]? = some state) (h : state.name? = some n) :
    g.Names n :=
  .inr ⟨state, List.mem_of_getElem? position, h⟩

/-- Every step keeps names unique. -/
theorem Named.step (h : Named g) (hs : GatewayStep svc g action g' seen) : Named g' := by
  cases hs with
  | idle => exact h
  | entered request freshId fresh =>
      have newNames : ∀ n, Gateway.Names { g with
          calls := g.calls ++ [.finding request freshId], issued := freshId :: g.issued } n →
          g.Names n
            ∨ n = ⟨freshId, request.run.runId, request.scripted.idempotencyKey⟩ := by
        rintro n (hr | ⟨x, hx, hn⟩)
        · exact .inl (.inl hr)
        · rcases List.mem_append.mp hx with hx | hx
          · exact .inl (.inr ⟨x, hx, hn⟩)
          · rw [List.mem_singleton] at hx
            subst hx
            exact .inr (Option.some.inj hn).symm
      constructor
      · intro n hn
        rcases newNames n hn with hold | rfl
        · exact List.mem_cons_of_mem _ (h.issued n hold)
        · exact List.mem_cons_self
      · intro n n' hn hn' heq
        rcases newNames n hn with hold | rfl <;> rcases newNames n' hn' with hold' | rfl
        · exact h.unique n n' hold hold' heq
        · have hid : n.intentId = freshId := heq
          exact absurd (hid ▸ h.issued n hold) fresh
        · have hid : n'.intentId = freshId := heq.symm
          exact absurd (hid ▸ h.issued n' hold') fresh
        · rfl
  | moved action call state state' position move =>
      refine h.of_subset rfl fun n hn => ?_
      rcases names_setCall hn with hold | hnew
      · exact hold
      · exact g.names_of_call position (move.name hnew)
  | started call amb ctx position =>
      refine h.of_subset rfl fun n hn => ?_
      rcases names_setCall hn with hold | hnew
      · exact hold
      · exact g.names_of_call position hnew
  | transacted call state op amb result store position performs ran =>
      have stored : ∀ n, store.records.Names n → g.Names n := by
        intro n hn
        rcases (effect_of_body ran).names hn with hold | ⟨intent, hnew, rfl⟩
        · exact .inl hold
        · exact g.names_of_call position (newIntent_name performs hnew)
      refine h.of_subset rfl fun n hn => ?_
      rcases names_setCall hn with (hr | hcall) | hnew
      · exact stored n hr
      · exact .inr hcall
      · rcases resume_name performs ran hnew with hsame | hfound
        · exact g.names_of_call position hsame
        · exact .inl hfound
  | environment op amb =>
      refine h.of_subset rfl fun n hn => ?_
      rcases hn with hr | hcall
      · rcases (effect_of_step svc g.store ⟨op.toStoreOp, amb⟩).names hr with hold | ⟨_, hnew, -⟩
        · exact .inl hold
        · rw [op.newIntent] at hnew
          cases hnew
      · exact .inr hcall

/-! ### One owner for a name -/

/-- The name has a row and a dispatch claim. -/
structure Records.Claimed (r : Records) (n : IntentName) : Prop where
  names : r.Names n
  claim : ∃ claim ∈ r.toolDispatchClaims, claim.intentId = n.intentId

/-- The call won the dispatch claim of its intent and has not started to execute it. -/
def Gateway.Owns (g : Gateway) (call : ℕ) (ctx : CallContext) : Prop :=
  g.calls[call]? = some (.owning ctx)

/-- What holds of the calls that own their intent. -/
structure Owned (g : Gateway) : Prop where
  named : Named g
  claimed : ∀ call ctx, g.Owns call ctx → g.store.records.Claimed ctx.intent.name
  single : ∀ i j c d, g.Owns i c → g.Owns j d → c.intent.intentId = d.intent.intentId → i = j

theorem Evolves.claimed {r r' : Records} (h : Evolves r r') {n : IntentName}
    (hn : r.Claimed n) : r'.Claimed n := by
  obtain ⟨claim, hmem, hid⟩ := hn.claim
  obtain ⟨_, hmem', rfl⟩ := h.claims claim hmem
  exact ⟨h.names hn.names, claim, hmem', hid⟩

/-- The intent that a call has won and not yet completed. -/
def CallState.dispatching? : CallState → Option String
  | .owning ctx | .executing ctx | .completing ctx _ => some ctx.intent.intentId
  | _ => none

theorem afterFind_dispatching (request : GatewayRequest) (freshId : String)
    (existing : Option StoredToolIntent) :
    (afterFind svc request freshId existing).dispatching? = none := by
  cases existing with
  | none => rfl
  | some =>
      simp only [afterFind]
      split_ifs <;> rfl

theorem dispatchExisting_dispatching (ctx : CallContext) (decision : PermissionDecision)
    (existing : StoredToolIntent) :
    (dispatchExisting ctx decision existing).dispatching? = none := by
  simp only [dispatchExisting]
  split_ifs <;> rfl

theorem route_dispatching (ctx : CallContext) (decision : PermissionDecision) :
    (route svc ctx decision).dispatching? = none := by
  simp only [route]
  split
  · split <;> rfl
  · split
    · split
      · split <;> rfl
      · exact dispatchExisting_dispatching ..
    · split
      · rfl
      · split <;> rfl

theorem afterInspect_dispatching (ctx : CallContext) (decision : PermissionDecision)
    (request : ApprovalRequest) : (afterInspect ctx decision request).dispatching? = none := by
  simp only [afterInspect]
  split
  · rfl
  · rfl
  · split_ifs <;> rfl

/-- A call gets to dispatch an intent only by winning its dispatch claim. -/
theorem resume_dispatching (performs : state.op? svc amb = some op)
    (ran : storeBody svc amb op s = .ok (result, t))
    (h : (state.resume svc amb result).dispatching? = some intentId) :
    (state.resume svc amb result = state ∧ state.dispatching? = some intentId)
      ∨ ∃ ctx, state = .claiming ctx ∧ state.resume svc amb result = .owning ctx
        ∧ ctx.intent.intentId = intentId
        ∧ Dispatched s.records ctx.intent.intentId ctx.intentHash t.records := by
  cases state with
  | claiming ctx =>
      cases performs
      obtain ⟨won, hclaim, rfl⟩ := map_ok.mp ran
      rcases claim_ok hclaim with ⟨rfl, -⟩ | ⟨rfl, hd⟩
      · cases h
      · exact .inr ⟨ctx, rfl, rfl, Option.some.inj h, hd⟩
  | finding =>
      cases result with
      | found => cases (afterFind_dispatching ..).symm.trans h
      | _ => cases h
  | recording => cases (route_dispatching ..).symm.trans h
  | inspecting =>
      cases result with
      | approval => cases (afterInspect_dispatching ..).symm.trans h
      | _ => cases h
  | consuming =>
      cases result with
      | intent => cases (dispatchExisting_dispatching ..).symm.trans h
      | _ => cases h
  | reviewing =>
      cases result with
      | intent =>
          simp only [CallState.resume] at h
          split_ifs at h <;> cases h
      | _ => cases h
  | completing =>
      cases result with
      | intent => cases h
      | _ => exact .inl ⟨rfl, h⟩
  | denyReserving | denying | pausing | reservingGrant | reservingRule | reserving => cases h
  | deciding | owning | executing | returned | raised | crashed => cases performs

/-- A call becomes an owner only by winning the dispatch claim of its intent. -/
theorem resume_owning (performs : state.op? svc amb = some op)
    (ran : storeBody svc amb op s = .ok (result, t))
    (h : state.resume svc amb result = .owning ctx) :
    state = .claiming ctx
      ∧ Dispatched s.records ctx.intent.intentId ctx.intentHash t.records := by
  have hdispatching : (state.resume svc amb result).dispatching? = some ctx.intent.intentId := by
    rw [h]
    rfl
  rcases resume_dispatching performs ran hdispatching with
    ⟨hsame, -⟩ | ⟨c, hstate, howning, -, hd⟩
  · rw [← hsame, h] at performs
    cases performs
  · obtain rfl : c = ctx := CallState.owning.inj (howning.symm.trans h)
    exact ⟨hstate, hd⟩

/-- A won dispatch found no claim of the intent and left one. -/
theorem Dispatched.claims {intentHash : Sha256} (h : Dispatched r intentId intentHash r') :
    (∀ claim ∈ r.toolDispatchClaims, claim.intentId ≠ intentId)
      ∧ ∃ claim ∈ r'.toolDispatchClaims, claim.intentId = intentId := by
  obtain ⟨claimedAt, T, hT, rfl⟩ := h.claimed
  exact ⟨fun claim hmem => Table.not_clash_of_insert hT hmem,
    _, (Table.mem_insert hT).mpr (.inr rfl), rfl⟩

/-- The winner of a claim: its name is claimed afterwards and was not before. -/
theorem Named.winner (h : Named g) (position : g.calls[call]? = some (.claiming ctx))
    (hd : Dispatched g.store.records ctx.intent.intentId ctx.intentHash r')
    (evolves : Evolves g.store.records r') :
    r'.Claimed ctx.intent.name
      ∧ ∀ n, g.store.records.Claimed n → n.intentId ≠ ctx.intent.intentId := by
  obtain ⟨stored, hstored, -⟩ := hd.stored
  obtain ⟨hmem, hid⟩ := Records.intent?_mem hstored
  have hname : stored.intent.name = ctx.intent.name :=
    h.unique _ _ (.inl ⟨stored, hmem, rfl⟩) (g.names_of_call position rfl) hid
  have hnames : g.store.records.Names ctx.intent.name := ⟨stored, hmem, hname⟩
  obtain ⟨hno, hclaim⟩ := hd.claims
  refine ⟨⟨evolves.names hnames, hclaim⟩, ?_⟩
  rintro n ⟨-, claim, hmem, heq⟩ hsame
  exact hno claim hmem (heq.trans hsame)

/-- What a step does to the set of owners: none is added, or one that wins its claim. -/
theorem owners_of_step (hs : GatewayStep svc g action g' seen) :
    (∀ i c, g'.Owns i c → g.Owns i c)
      ∨ ∃ call ctx, g.calls[call]? = some (.claiming ctx)
        ∧ Dispatched g.store.records ctx.intent.intentId ctx.intentHash g'.store.records
        ∧ ∀ i c, g'.Owns i c → (i = call ∧ c = ctx) ∨ (i ≠ call ∧ g.Owns i c) := by
  cases hs with
  | idle | environment op amb => exact .inl fun _ _ h => h
  | entered request freshId =>
      refine .inl fun i c h => ?_
      have hi : (g.calls ++ [CallState.finding request freshId])[i]? = some (.owning c) := h
      rw [List.getElem?_append] at hi
      split_ifs at hi
      · exact hi
      · cases List.mem_singleton.mp (List.mem_of_getElem? hi)
  | moved action call state state' position move =>
      refine .inl fun i c h => ?_
      rcases getElem?_setCall h with ⟨-, heq⟩ | ⟨-, hold⟩
      · subst heq
        cases move
      · exact hold
  | started =>
      refine .inl fun i c h => ?_
      rcases getElem?_setCall h with ⟨-, heq⟩ | ⟨-, hold⟩
      · cases heq
      · exact hold
  | transacted call state op amb result store position performs ran =>
      by_cases hwin : ∃ ctx, state.resume svc amb result = .owning ctx
      · obtain ⟨ctx, hctx⟩ := hwin
        obtain ⟨rfl, hd⟩ := resume_owning performs ran hctx
        refine .inr ⟨call, ctx, position, hd, fun i c h => ?_⟩
        rcases getElem?_setCall h with ⟨hi, heq⟩ | hold
        · exact .inl ⟨hi, CallState.owning.inj (heq.trans hctx)⟩
        · exact .inr hold
      · refine .inl fun i c h => ?_
        rcases getElem?_setCall h with ⟨-, heq⟩ | ⟨-, hold⟩
        · exact absurd ⟨c, heq.symm⟩ hwin
        · exact hold

/-- Every step keeps the owners single. -/
theorem Owned.step (h : Owned g) (hs : GatewayStep svc g action g' seen) : Owned g' := by
  rcases owners_of_step hs with hkeep | ⟨call, ctx, position, hd, hnew⟩
  · exact ⟨h.named.step hs, fun i c hi => hs.evolves.claimed (h.claimed i c (hkeep i c hi)),
      fun i j c d hi hj => h.single i j c d (hkeep i c hi) (hkeep j d hj)⟩
  · obtain ⟨hclaimed, hother⟩ := h.named.winner position hd hs.evolves
    -- no earlier owner has the winner's identifier: its name would have been claimed
    have differ : ∀ i c, g.Owns i c → c.intent.intentId ≠ ctx.intent.intentId :=
      fun i c hi => hother _ (h.claimed i c hi)
    refine ⟨h.named.step hs, fun i c hi => ?_, fun i j c d hi hj heq => ?_⟩
    · rcases hnew i c hi with ⟨-, rfl⟩ | ⟨-, hold⟩
      · exact hclaimed
      · exact hs.evolves.claimed (h.claimed i c hold)
    · rcases hnew i c hi with ⟨rfl, rfl⟩ | ⟨-, hold⟩ <;>
        rcases hnew j d hj with ⟨rfl, rfl⟩ | ⟨-, hold'⟩
      · rfl
      · exact absurd heq.symm (differ j d hold')
      · exact absurd heq (differ i c hold)
      · exact h.single i j c d hold hold' heq

theorem owned_invariant (svc : Services) : (gatewayMachine svc).Invariant Owned :=
  fun g action h => h.step (gateway_step svc g action)

theorem owned_start (store : Store) : Owned (Gateway.start store) where
  named :=
    { issued := by
        rintro n (⟨a, ha, rfl⟩ | ⟨x, hx, -⟩)
        · exact List.mem_map.mpr ⟨a, ha, rfl⟩
        · cases hx
      unique := by
        rintro n n' (⟨a, ha, rfl⟩ | ⟨x, hx, -⟩) (⟨b, hb, rfl⟩ | ⟨y, hy, -⟩) heq
        · rw [Table.eq_of_clash ha hb (.inl heq)]
        · cases hy
        · cases hx
        · cases hx }
  claimed _ _ h := by cases h
  single _ _ _ _ h := by cases h

/-! ### Counting -/

/-- A dispatch claim of the intent returned `True`. -/
def isClaim (intentId : String) : Observation → Bool
  | .claimed id => id = intentId
  | _ => false

/-- An execution under the key of the run started. -/
def isStart (runId idempotencyKey : String) : Observation → Bool
  | .started intent => intent.runId = runId && intent.idempotencyKey = idempotencyKey
  | _ => false

/-- The key of the run has a claimed intent whose owner, if any, has started. -/
def Gateway.Started (g : Gateway) (runId idempotencyKey : String) : Prop :=
  ∃ n, n.runId = runId ∧ n.idempotencyKey = idempotencyKey ∧ g.store.records.Claimed n
    ∧ ∀ i c, g.Owns i c → c.intent.intentId ≠ n.intentId

/-- A claim that returns `True` finds no claim of its intent and leaves one. -/
theorem claimed_of_step (hs : GatewayStep svc g action g' (.claimed intentId)) :
    (¬ ∃ claim ∈ g.store.records.toolDispatchClaims, claim.intentId = intentId)
      ∧ ∃ claim ∈ g'.store.records.toolDispatchClaims, claim.intentId = intentId := by
  generalize hseen : Observation.claimed intentId = seen at hs
  cases hs with
  | transacted call state op amb result store position performs ran =>
      cases state with
      | claiming ctx =>
          cases performs
          obtain ⟨won, hclaim, rfl⟩ := map_ok.mp ran
          rcases claim_ok hclaim with ⟨rfl, -⟩ | ⟨rfl, hd⟩
          · cases hseen
          · obtain rfl : intentId = ctx.intent.intentId := Observation.claimed.inj hseen
            obtain ⟨hno, hclaim⟩ := hd.claims
            exact ⟨fun ⟨claim, hmem, hid⟩ => hno claim hmem hid, hclaim⟩
      | _ => cases hseen
  | _ => cases hseen

/-- A started execution belonged to an owner, which has left its position. -/
theorem started_of_step (hs : GatewayStep svc g action g' (.started intent)) :
    ∃ call ctx, ctx.intent = intent ∧ g.Owns call ctx ∧ g'.store = g.store
      ∧ ∀ i c, g'.Owns i c → i ≠ call ∧ g.Owns i c := by
  generalize hseen : Observation.started intent = seen at hs
  cases hs with
  | started call amb ctx position =>
      refine ⟨call, ctx, (Observation.started.inj hseen).symm, position, rfl, fun i c hi => ?_⟩
      rcases getElem?_setCall hi with ⟨-, heq⟩ | hold
      · cases heq
      · exact hold
  | transacted =>
      simp only [observe] at hseen
      split at hseen <;> cases hseen
  | _ => cases hseen

/-- `claim_reserved_intent_for_dispatch` returns `True` at most once per intent. -/
theorem claimed_at_most_once (g : Gateway) (actions : List GatewayAction) (intentId : String) :
    ((gatewayMachine svc).trace g actions).countP (isClaim intentId) ≤ 1 := by
  refine Machine.count_trace_le_one (I := fun _ => True)
    (F := fun g => ∃ claim ∈ g.store.records.toolDispatchClaims, claim.intentId = intentId)
    (fun _ _ _ => trivial) ?_ ?_ trivial actions
  · rintro g action - ⟨claim, hmem, hid⟩
    obtain ⟨_, hmem', rfl⟩ := (gateway_step svc g action).evolves.claims claim hmem
    exact ⟨claim, hmem', hid⟩
  · intro g action _ hp
    have hs := gateway_step svc g action
    generalize (gatewayMachine svc).out g action = seen at hs hp
    cases seen with
    | claimed id =>
        obtain rfl : id = intentId := of_decide_eq_true hp
        exact claimed_of_step hs
    | silent | started intent => cases hp

/-- A started key stays started: no later call can own an intent under it. -/
theorem started_stays (h : Owned g) {runId idempotencyKey : String}
    (hf : g.Started runId idempotencyKey) (hs : GatewayStep svc g action g' seen) :
    g'.Started runId idempotencyKey := by
  obtain ⟨n, hrun, hkey, hclaimed, hno⟩ := hf
  refine ⟨n, hrun, hkey, hs.evolves.claimed hclaimed, fun i c hi => ?_⟩
  rcases owners_of_step hs with hkeep | ⟨call, ctx, position, hd, hnew⟩
  · exact hno i c (hkeep i c hi)
  · rcases hnew i c hi with ⟨-, rfl⟩ | ⟨-, hold⟩
    · exact ((h.named.winner position hd hs.evolves).2 n hclaimed).symm
    · exact hno i c hold

/-- A key starts only once. -/
theorem started_once (h : Owned g) (hs : GatewayStep svc g action g' (.started intent)) :
    ¬ g.Started intent.runId intent.idempotencyKey
      ∧ g'.Started intent.runId intent.idempotencyKey := by
  obtain ⟨call, ctx, rfl, howns, hstore, hrest⟩ := started_of_step hs
  have hclaimed := h.claimed call ctx howns
  constructor
  · rintro ⟨n, hrun, hkey, hn, hno⟩
    obtain rfl : n = ctx.intent.name := Records.name_of_key hn.names hclaimed.names hrun hkey
    exact hno call ctx howns rfl
  · refine ⟨ctx.intent.name, rfl, rfl, hstore ▸ hclaimed, fun i c hi heq => ?_⟩
    obtain ⟨hne, hold⟩ := hrest i c hi
    exact hne (h.single i call c ctx hold howns heq)

/-- At most one execution is started per run and idempotency key. -/
theorem started_at_most_once (h : Owned g) (actions : List GatewayAction)
    (runId idempotencyKey : String) :
    ((gatewayMachine svc).trace g actions).countP (isStart runId idempotencyKey) ≤ 1 := by
  refine Machine.count_trace_le_one (I := Owned) (F := fun g => g.Started runId idempotencyKey)
    (owned_invariant svc) (fun g action h hf => started_stays h hf (gateway_step svc g action))
    ?_ h actions
  intro g action h hp
  have hs := gateway_step svc g action
  generalize (gatewayMachine svc).out g action = seen at hs hp
  cases seen with
  | started =>
      simp only [isStart, Bool.and_eq_true, decide_eq_true_eq] at hp
      obtain ⟨rfl, rfl⟩ := hp
      exact started_once h hs
  | silent | claimed id => cases hp

/-- At-most-once dispatch, for every interleaving of any number of calls on any store. -/
theorem dispatch_at_most_once (svc : Services) (store : Store) (actions : List GatewayAction) :
    let seen := (gatewayMachine svc).trace (Gateway.start store) actions
    (∀ intentId, seen.countP (isClaim intentId) ≤ 1)
      ∧ ∀ runId idempotencyKey, seen.countP (isStart runId idempotencyKey) ≤ 1 :=
  ⟨fun intentId => claimed_at_most_once _ actions intentId,
    fun runId idempotencyKey =>
      started_at_most_once (owned_start store) actions runId idempotencyKey⟩

end AgentFleet
