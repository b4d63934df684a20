import AgentFleet.Conversations.Writes

/-! # What the calls of the conversation store do

A call that moves a turn on ends or issues a claim (`ClaimStep`), replaces the row of the turn
(`TurnWrite`) and then that of its conversation (`ConversationWrite`); `TurnMove` is the three of
them, and the `…_ok` lemma of a call says from which turn to which, and what its guards have
found. -/

namespace AgentFleet.Conversations

open Relational Transaction Checks

variable {svc : ConversationServices} {reads : ConversationReads} {amb : Ambient} {s t : Registry}

/-! ### Moves of a turn -/

/-- How the claims change when a turn moves on. -/
inductive ClaimStep (svc : ConversationServices) (s : Registry) (old new : ConversationTurn) :
    Registry → Prop where
  | kept (hold : old.activeClaimId = none) (hnew : new.activeClaimId = none)
      (hgeneration : new.ownerGeneration = old.ownerGeneration) : ClaimStep svc s old new s
  | issued {claim : ConversationClaim} {event : FleetEvent} {claims : Table TurnClaimRow}
      (hold : old.activeClaimId = none) (hnew : new.activeClaimId = some claim.claimId)
      (hgeneration : new.ownerGeneration = old.ownerGeneration + 1)
      (hnext : claim.generation = old.ownerGeneration + 1) (hof : ClaimOf claim old.binding)
      (hnoted : ClaimNoted svc s claim .active none event)
      (hrows : s.claims.insert { claim, recordEventId := event.eventId } = some claims) :
      ClaimStep svc s old new { s.journaled event with claims }
  | ended {row : TurnClaimRow} {status : TurnClaimStatus} {instant : Timestamp}
      {event : FleetEvent} {claims : Table TurnClaimRow} (hold : old.activeClaimId = some row.claimId)
      (hnew : new.activeClaimId = none) (hgeneration : new.ownerGeneration = old.ownerGeneration)
      (hrow : s.claim? row.claimId = some row) (hfits : ClaimFits svc s row)
      (hended : status ≠ .active) (hnoted : ClaimNoted svc s row.claim status (some instant) event)
      (hrows : s.claims.replace? row { row with
          status := status, releasedAt := some instant, recordEventId := event.eventId }
        = some claims) : ClaimStep svc s old new { s.journaled event with claims }

/-- The row of a turn is replaced. -/
structure TurnWrite (svc : ConversationServices) (s : Registry) (row : TurnRow)
    (new : ConversationTurn) (event : FleetEvent) (t : Registry) : Prop where
  noted : ∃ eventType, textStartsWith eventType "conversation." = true
    ∧ TurnNoted svc s new eventType event
  written : ∃ turns, s.turns.replace? row ⟨new, event.eventId⟩ = some turns
    ∧ { s.journaled event with turns } = t

/-- The row of a conversation is replaced. -/
structure ConversationWrite (svc : ConversationServices) (s : Registry) (row : ConversationRow)
    (new : Conversation) (event : FleetEvent) (t : Registry) : Prop where
  noted : ConversationNoted svc s new "conversation.updated" event
  written : ∃ conversations, s.conversations.replace? row ⟨new, event.eventId⟩ = some conversations
    ∧ { s.journaled event with conversations } = t

/-- A turn moves on, with its claims and its conversation. -/
structure TurnMove (svc : ConversationServices) (s : Registry) (row : TurnRow)
    (new : ConversationTurn) (before : ConversationRow) (now : Timestamp) (t : Registry) : Prop where
  found : s.turn? row.turnId = some row
  conversation : s.conversation? row.conversationId = some before
  binding : new.binding = row.turn.binding
  revision : new.revision = row.turn.revision + 1
  active : row.turn.status.isActive = true ∨ new.status.isActive = true
  steps : ∃ s₁ event₁ s₂ event₂, ClaimStep svc s row.turn new s₁
    ∧ TurnWrite svc s₁ row new event₁ s₂
    ∧ ConversationWrite svc s₂ before (advanced before.conversation new now) event₂ t

theorem ClaimStep.kept_tables {old new : ConversationTurn} {s₁ : Registry}
    (h : ClaimStep svc s old new s₁) : s₁.turns = s.turns ∧ s₁.conversations = s.conversations
      ∧ s₁.shared = s.shared := by
  cases h with
  | kept | issued | ended => exact ⟨rfl, rfl, rfl⟩

variable {s₁ : Registry} {row : TurnRow} {new turn updated old : ConversationTurn}
  {before : ConversationRow} {u : Unit} {conversation : Conversation} {projectId runId : String}
  {claim : ConversationClaim} {expectedRevision : ℤ} {summary : Option ConversationSummary}
  {refs : List ConversationArtifactRef} {reason : FenceReason} {submission : ConversationSubmission}
  {configHash : Sha256} {limits : RunBudgetLimits} {registration : ConversationRegistration}

/-- The end of every call that moves a turn on. -/
theorem turnMove_of_writes {k k' : ℕ} {eventType : String}
    (hfound : s.turn? row.turnId = some row)
    (hconversation : s.conversation? row.conversationId = some before)
    (hbinding : new.binding = row.turn.binding) (hrevision : new.revision = row.turn.revision + 1)
    (hactive : row.turn.status.isActive = true ∨ new.status.isActive = true)
    (htype : textStartsWith eventType "conversation." = true)
    (hclaims : ClaimStep svc s row.turn new s₁)
    (h : (do updateTurn svc amb k new eventType
             advance svc amb k' before.conversation new) s₁ = .ok (u, t)) :
    TurnMove svc s row new before (amb.clock k') t := by
  obtain ⟨_, s₂, hturn, hadvance⟩ := Transaction.bind_ok.mp h
  obtain ⟨hturns, hconversations, -⟩ := hclaims.kept_tables
  have hfound₁ : s₁.turn? new.binding.turnId = some row := by
    rw [hbinding]
    show s₁.turns.find? _ = _
    rw [hturns]
    exact hfound
  obtain ⟨event₁, turns, hnoted₁, hrows₁, rfl⟩ := updateTurn_ok hfound₁ hturn
  have hid : row.conversationId = before.conversation.conversationId :=
    (Registry.conversation?_mem hconversation).2.symm
  have hconversation₂ : ({ s₁.journaled event₁ with turns } : Registry).conversation?
      (advanced before.conversation new (amb.clock k')).conversationId = some before := by
    show s₁.conversations.find? _ = _
    rw [hconversations]
    show s.conversation? before.conversation.conversationId = _
    rw [← hid]
    exact hconversation
  obtain ⟨event₂, conversations, hnoted₂, hrows₂, rfl⟩ :=
    updateConversation_ok hconversation₂ hadvance
  exact ⟨hfound, hconversation, hbinding, hrevision, hactive, s₁, event₁, _, event₂, hclaims,
    ⟨⟨eventType, htype, hnoted₁⟩, turns, hrows₁, rfl⟩, hnoted₂, conversations, hrows₂, rfl⟩

/-! ### Reads of a call -/

/-- The turn that a call is about, and its conversation. -/
structure TurnRead (svc : ConversationServices) (s : Registry) (row : TurnRow)
    (before : ConversationRow) : Prop where
  found : s.turn? row.turnId = some row
  turn : turnOf svc s row.turn.binding.projectId row.turnId = .ok row.turn
  stored : s.conversation? row.conversationId = some before
  conversation : conversationOf svc s row.turn.binding.projectId row.conversationId
    = .ok before.conversation

theorem turnRead_of_reads (hmem : row ∈ s.turns)
    (hturn : turnOf svc s projectId row.turnId = .ok row.turn)
    (hconversation : conversationOf svc s row.turn.binding.projectId
      row.turn.binding.conversationId = .ok conversation) :
    ∃ before, before.conversation = conversation ∧ TurnRead svc s row before := by
  obtain ⟨before, hbefore, rfl, -⟩ := conversationOf_ok.mp hconversation
  obtain ⟨other, hother, -, hproject, -⟩ := turnOf_ok.mp hturn
  refine ⟨before, rfl, Registry.turn?_eq_some hmem, ?_, hbefore, hconversation⟩
  rw [hproject]
  exact hturn

theorem turnRead_of_require (hturn : requireTurn svc s runId = .ok turn)
    (hconversation : conversationOf svc s turn.binding.projectId turn.binding.conversationId
      = .ok conversation) :
    ∃ row before, row.turn = turn ∧ row.runId = runId ∧ before.conversation = conversation
      ∧ TurnRead svc s row before := by
  obtain ⟨row, hmem, rfl, hrun, hread⟩ := requireTurn_ok hturn
  obtain ⟨before, rfl, hboth⟩ := turnRead_of_reads hmem hread hconversation
  exact ⟨row, before, rfl, hrun, rfl, hboth⟩

theorem turnRead_of_owned (howned : Owned svc s claim turn)
    (hconversation : conversationOf svc s turn.binding.projectId turn.binding.conversationId
      = .ok conversation) :
    ∃ row before, row.turn = turn ∧ row.turnId = claim.turnId
      ∧ before.conversation = conversation ∧ TurnRead svc s row before := by
  obtain ⟨row, hrow, rfl, -⟩ := turnOf_ok.mp howned.read
  obtain ⟨hmem, hid⟩ := Registry.turn?_mem hrow
  have hread := howned.read
  rw [← hid] at hread
  obtain ⟨before, rfl, hboth⟩ := turnRead_of_reads hmem hread hconversation
  exact ⟨row, before, rfl, hid, rfl, hboth⟩

/-! ### Claims and settlements -/

/-- What `claim_resume` has done. -/
structure Resumed (svc : ConversationServices) (amb : Ambient) (s : Registry) (runId : String)
    (claim : ConversationClaim) (t : Registry) (row : TurnRow) (before : ConversationRow)
    (run : Run) : Prop where
  read : TurnRead svc s row before
  about : row.runId = runId
  ran : runOf svc s runId = .ok run
  paused : isPaused run.status = true
  waiting : row.turn.status = .waiting
  free : row.turn.activeClaimId = none
  issued : claim = newClaim row.turn.binding (amb.ids 0) (row.turn.ownerGeneration + 1) (amb.clock 0)
  moved : TurnMove svc s row (resumed row.turn claim (amb.clock 1)) before (amb.clock 4) t

theorem claimResume_ok (h : claimResume svc amb runId expectedRevision s = .ok (claim, t)) :
    ∃ row before run, Resumed svc amb s runId claim t row before run
      ∧ expectedRevision = row.turn.revision := by
  unfold claimResume at h
  rw [reading_bind_ok] at h
  obtain ⟨turn, hturn, h⟩ := h
  rw [reading_bind_ok] at h
  obtain ⟨_, hrevision, h⟩ := h
  rw [reading_bind_ok] at h
  obtain ⟨run, hrun, h⟩ := h
  rw [refuseIf_bind_ok, reading_bind_ok] at h
  obtain ⟨hguard, conversation, hconversation, h⟩ := h
  obtain ⟨row, before, rfl, rfl, rfl, hread⟩ := turnRead_of_require hturn hconversation
  simp only [not_or, not_not, Bool.not_eq_false] at hguard
  obtain ⟨hwaiting, hfree, hpaused⟩ := hguard
  dsimp only at h
  rw [refuseIf_bind_ok] at h
  obtain ⟨-, h⟩ := h
  obtain ⟨_, s₁, hissue, h⟩ := Transaction.bind_ok.mp h
  obtain ⟨event, claims, hnoted, hrows, rfl⟩ := insertClaim_ok hissue
  obtain ⟨_, s₂, hturnWrite, h⟩ := Transaction.bind_ok.mp h
  obtain ⟨_, s₃, hadvance, h⟩ := Transaction.bind_ok.mp h
  obtain ⟨rfl, rfl⟩ := pure_ok.mp h
  have hstep : ClaimStep svc s row.turn
      (resumed row.turn (newClaim row.turn.binding (amb.ids 0) (row.turn.ownerGeneration + 1)
        (amb.clock 0)) (amb.clock 1)) _ :=
    .issued hfree rfl rfl rfl ⟨rfl, rfl, rfl, rfl⟩ hnoted hrows
  refine ⟨row, before, run, ⟨hread, rfl, hrun, hpaused, hwaiting, hfree, rfl, ?_⟩,
    checkRevision_ok.mp hrevision⟩
  exact turnMove_of_writes hread.found hread.stored rfl rfl (.inr rfl) rfl hstep
    (Transaction.bind_ok.mpr ⟨(), s₂, hturnWrite, hadvance⟩)

/-- What `_settled_update` has found. -/
structure SettledUpdate (svc : ConversationServices) (reads : ConversationReads) (s : Registry)
    (turn : ConversationTurn) (summary : Option ConversationSummary)
    (refs : List ConversationArtifactRef) (now : Timestamp) (updated : ConversationTurn)
    (run : Run) (status : ConversationTurnStatus) : Prop where
  ran : runOf svc s turn.binding.runId = .ok run
  checked : validateRefs svc s run refs = .ok ()
  found : settledStatus svc reads s run = .ok status
  built : updated = settledTurn turn run status summary refs now

theorem settledUpdate_ok {now : Timestamp}
    (h : settledUpdate svc reads s turn summary refs now = .ok updated) :
    ∃ run status, SettledUpdate svc reads s turn summary refs now updated run status := by
  unfold settledUpdate at h
  obtain ⟨run, hrun, h⟩ := Checks.bind_ok.mp h
  obtain ⟨_, hrefs, h⟩ := Checks.bind_ok.mp h
  obtain ⟨_, -, h⟩ := Checks.bind_ok.mp h
  obtain ⟨status, hstatus, h⟩ := Checks.bind_ok.mp h
  obtain ⟨_, -, h⟩ := Checks.bind_ok.mp h
  rw [return_ok] at h
  exact ⟨run, status, hrun, hrefs, hstatus, h.symm⟩

/-- What `settle` has done. -/
structure Settled (svc : ConversationServices) (reads : ConversationReads) (amb : Ambient)
    (s : Registry) (claim : ConversationClaim) (summary : Option ConversationSummary)
    (refs : List ConversationArtifactRef) (updated : ConversationTurn) (t : Registry)
    (row : TurnRow) (before : ConversationRow) : Prop where
  owned : Owned svc s claim row.turn
  read : TurnRead svc s row before
  settled : ∃ run status,
    SettledUpdate svc reads s row.turn summary refs (amb.clock 0) updated run status
  moved : TurnMove svc s row updated before (amb.clock 4) t

theorem settle_ok
    (h : settle svc reads amb claim expectedRevision summary refs s = .ok (updated, t)) :
    ∃ row before, Settled svc reads amb s claim summary refs updated t row before := by
  unfold settle at h
  rw [reading_bind_ok] at h
  obtain ⟨turn, hturn, h⟩ := h
  rw [reading_bind_ok] at h
  obtain ⟨_, -, h⟩ := h
  rw [reading_bind_ok] at h
  obtain ⟨conversation, hconversation, h⟩ := h
  rw [reading_bind_ok] at h
  obtain ⟨found, hupdate, h⟩ := h
  have howned := owned_ok hturn
  obtain ⟨row, before, rfl, hid, rfl, hread⟩ := turnRead_of_owned howned hconversation
  obtain ⟨run, status, hsettled⟩ := settledUpdate_ok hupdate
  obtain ⟨claimRow, hclaimRow, hfits, rfl⟩ := howned.stored
  obtain ⟨_, s₁, hend, h⟩ := Transaction.bind_ok.mp h
  obtain ⟨event, claims, hnoted, hrows, rfl⟩ := endClaim_ok hclaimRow hend
  obtain ⟨_, s₂, hturnWrite, h⟩ := Transaction.bind_ok.mp h
  obtain ⟨_, s₃, hadvance, h⟩ := Transaction.bind_ok.mp h
  obtain ⟨rfl, rfl⟩ := pure_ok.mp h
  have hnew := hsettled.built
  subst hnew
  have hstep : ClaimStep svc s row.turn
      (settledTurn row.turn run status summary refs (amb.clock 0)) _ :=
    .ended howned.active rfl rfl hclaimRow hfits (fun heq => by cases heq) hnoted hrows
  refine ⟨row, before, howned, hread, ⟨run, status, hsettled⟩, ?_⟩
  refine turnMove_of_writes hread.found hread.stored rfl rfl (.inl ?_) rfl hstep
    (Transaction.bind_ok.mpr ⟨(), s₂, hturnWrite, hadvance⟩)
  rw [howned.running]
  rfl

/-! ### Fences -/

/-- What `endRun` has done. -/
inductive RunEnded (svc : ConversationServices) (amb : Ambient) (s : Registry) (run : Run)
    (reason : FenceReason) : Registry → Prop where
  | before (h : isTerminal run.status = true) : RunEnded svc amb s run reason s
  | now {t : Registry} {saved : Run} (hopen : isTerminal run.status = false)
      (h : onDatabase (onStore (saveRun svc.toServices (amb.after 1)
        (fencedRun run reason (amb.clock 0)) reason.eventType
        (JsonValue.object [("reason", .str reason.text)]))) s = .ok (saved, t)) :
      RunEnded svc amb s run reason t

theorem endRun_ok {run : Run} (h : endRun svc amb run reason s = .ok (u, t)) :
    RunEnded svc amb s run reason t := by
  unfold endRun at h
  split_ifs at h with hended
  · obtain ⟨-, rfl⟩ := pure_ok.mp h
    exact .before hended
  · obtain ⟨saved, s₁, hsaved, h⟩ := Transaction.bind_ok.mp h
    obtain ⟨-, rfl⟩ := pure_ok.mp h
    exact .now (Bool.eq_false_iff.mpr hended) hsaved

theorem RunEnded.kept_tables {run : Run} (h : RunEnded svc amb s run reason t) : t.turns = s.turns
      ∧ t.conversations = s.conversations ∧ t.claims = s.claims ∧ t.shared = s.shared := by
  cases h with
  | before => exact ⟨rfl, rfl, rfl, rfl⟩
  | now hopen h =>
      obtain ⟨d, -, rfl⟩ := onDatabase_ok.mp h
      exact ⟨rfl, rfl, rfl, rfl⟩

theorem fenceClaim_ok (hnew : new.activeClaimId = none)
    (hgeneration : new.ownerGeneration = old.ownerGeneration)
    (h : fenceClaim svc amb old.activeClaimId s = .ok (u, t)) : ClaimStep svc s old new t := by
  unfold fenceClaim at h
  cases hactive : old.activeClaimId with
  | none =>
      rw [hactive] at h
      obtain ⟨-, rfl⟩ := pure_ok.mp h
      exact .kept hactive hnew hgeneration
  | some =>
      rw [hactive] at h
      dsimp only at h
      rw [reading_bind_ok] at h
      obtain ⟨row, hrow, h⟩ := h
      rw [demand_ok] at hrow
      rw [reading_bind_ok] at h
      obtain ⟨claim, hclaim, h⟩ := h
      obtain ⟨hfits, rfl⟩ := claimRowOf_ok.mp hclaim
      obtain ⟨-, rfl⟩ := Registry.claim?_mem hrow
      obtain ⟨event, claims, hnoted, hrows, rfl⟩ := endClaim_ok hrow h
      exact .ended hactive hnew hgeneration hrow hfits (fun heq => by cases heq) hnoted hrows

/-- What a fence has done; between the call and the move of the turn its run is ended. -/
structure Fenced (svc : ConversationServices) (amb : Ambient) (s : Registry) (runId : String)
    (reason : FenceReason) (claim : Option ConversationClaim) (updated : ConversationTurn)
    (t : Registry) (row : TurnRow) (before : ConversationRow) (run : Run) : Prop where
  read : TurnRead svc s row before
  about : row.runId = runId
  authority : fenceAuthority svc s row.turn runId reason claim = .ok ()
  active : row.turn.status.isActive = true
  ran : runOf svc s runId = .ok run
  built : updated
    = fencedTurn row.turn (fencedRun run reason (amb.clock 0)) (amb.clock 4)
  moved : ∃ s₁, RunEnded svc amb s run reason s₁
    ∧ TurnMove svc s₁ row updated before (amb.clock 6) t

theorem fence_ok {claim : Option ConversationClaim}
    (h : fence svc amb runId expectedRevision reason claim s = .ok (updated, t)) :
    ∃ row before run, Fenced svc amb s runId reason claim updated t row before run
      ∧ expectedRevision = row.turn.revision := by
  unfold fence at h
  rw [reading_bind_ok] at h
  obtain ⟨turn, hturn, h⟩ := h
  rw [reading_bind_ok] at h
  obtain ⟨_, hrevision, h⟩ := h
  rw [reading_bind_ok] at h
  obtain ⟨_, hauthority, h⟩ := h
  rw [refuseIf_bind_ok, reading_bind_ok, Bool.not_eq_false] at h
  obtain ⟨hactive, conversation, hconversation, h⟩ := h
  rw [reading_bind_ok] at h
  obtain ⟨run, hrun, h⟩ := h
  obtain ⟨row, before, rfl, rfl, rfl, hread⟩ := turnRead_of_require hturn hconversation
  obtain ⟨_, s₁, hend, h⟩ := Transaction.bind_ok.mp h
  have hended := endRun_ok hend
  obtain ⟨hturns, hconversations, -, -⟩ := hended.kept_tables
  obtain ⟨_, s₂, hclaim, h⟩ := Transaction.bind_ok.mp h
  obtain ⟨_, s₃, hturnWrite, h⟩ := Transaction.bind_ok.mp h
  obtain ⟨_, s₄, hadvance, h⟩ := Transaction.bind_ok.mp h
  obtain ⟨rfl, rfl⟩ := pure_ok.mp h
  have hstep : ClaimStep svc s₁ row.turn
      (fencedTurn row.turn (fencedRun run reason (amb.clock 0)) (amb.clock 4)) s₂ :=
    fenceClaim_ok rfl rfl hclaim
  refine ⟨row, before, run, ⟨hread, rfl, hauthority, hactive, hrun, rfl, s₁, hended, ?_⟩,
    checkRevision_ok.mp hrevision⟩
  refine turnMove_of_writes ?_ ?_ rfl rfl (.inl hactive) rfl hstep
    (Transaction.bind_ok.mpr ⟨(), s₃, hturnWrite, hadvance⟩)
  · show s₁.turns.find? _ = _
    rw [hturns]
    exact hread.found
  · show s₁.conversations.find? _ = _
    rw [hconversations]
    exact hread.stored

/-- What `reconcile_fenced` has done. -/
structure Reconciled (svc : ConversationServices) (reads : ConversationReads) (amb : Ambient)
    (s : Registry) (summary : Option ConversationSummary) (refs : List ConversationArtifactRef)
    (updated : ConversationTurn) (t : Registry) (row : TurnRow) (before : ConversationRow) :
    Prop where
  read : TurnRead svc s row before
  fenced : row.turn.status = .recoveryRequired
  free : row.turn.activeClaimId = none
  settled : ∃ run status, isTerminal run.status = true
    ∧ SettledUpdate svc reads s row.turn summary refs (amb.clock 0) updated run status
  moved : TurnMove svc s row updated before (amb.clock 2) t

theorem reconcileFenced_ok
    (h : reconcileFenced svc reads amb runId expectedRevision summary refs s = .ok (updated, t)) :
    ∃ row before, Reconciled svc reads amb s summary refs updated t row before
      ∧ row.runId = runId := by
  unfold reconcileFenced at h
  rw [reading_bind_ok] at h
  obtain ⟨turn, hturn, h⟩ := h
  rw [reading_bind_ok] at h
  obtain ⟨_, -, h⟩ := h
  rw [reading_bind_ok] at h
  obtain ⟨run, hrun, h⟩ := h
  rw [refuseIf_bind_ok, reading_bind_ok] at h
  obtain ⟨hguard, held, -, h⟩ := h
  rw [refuseIf_bind_ok, reading_bind_ok] at h
  obtain ⟨-, conversation, hconversation, h⟩ := h
  rw [reading_bind_ok] at h
  obtain ⟨found, hupdate, h⟩ := h
  obtain ⟨row, before, rfl, rfl, rfl, hread⟩ := turnRead_of_require hturn hconversation
  simp only [not_or, not_not, Bool.not_eq_false] at hguard
  obtain ⟨hfenced, hfree, hended⟩ := hguard
  obtain ⟨other, status, hsettled⟩ := settledUpdate_ok hupdate
  have hsame : other = run := by
    have hother := hsettled.ran
    change runOf svc s row.runId = _ at hother
    rw [hrun] at hother
    cases hother
    rfl
  subst hsame
  obtain ⟨_, s₁, hturnWrite, h⟩ := Transaction.bind_ok.mp h
  obtain ⟨_, s₂, hadvance, h⟩ := Transaction.bind_ok.mp h
  obtain ⟨rfl, rfl⟩ := pure_ok.mp h
  have hnew := hsettled.built
  subst hnew
  refine ⟨row, before, ⟨hread, hfenced, hfree, ⟨other, status, hended, hsettled⟩, ?_⟩, rfl⟩
  refine turnMove_of_writes hread.found hread.stored rfl rfl (.inl ?_) rfl (.kept hfree rfl rfl)
    (Transaction.bind_ok.mpr ⟨(), s₁, hturnWrite, hadvance⟩)
  rw [hfenced]
  rfl

/-! ### Registrations -/

/-- A conversation was created. -/
structure Created (svc : ConversationServices) (amb : Ambient) (s : Registry) (projectId : String)
    (value : Conversation) (event : FleetEvent) (t : Registry) : Prop where
  project : ∃ project, projectOf svc s projectId = .ok project
    ∧ value = newConversation (amb.ids 0) projectId project.identityHash (amb.clock 0)
  noted : ConversationNoted svc s value "conversation.created" event
  written : ∃ conversations, s.conversations.insert ⟨value, event.eventId⟩ = some conversations
    ∧ { s.journaled event with conversations } = t

theorem create_ok {repositoryIdentity : Sha256} {value : Conversation}
    (h : create svc amb projectId repositoryIdentity s = .ok (value, t)) :
    ∃ event, Created svc amb s projectId value event t := by
  unfold create at h
  rw [refuseIf_bind_ok, reading_bind_ok] at h
  obtain ⟨-, project, hproject, h⟩ := h
  rw [refuseIf_bind_ok, not_not] at h
  obtain ⟨rfl, h⟩ := h
  obtain ⟨_, s₁, hinsert, h⟩ := Transaction.bind_ok.mp h
  obtain ⟨rfl, rfl⟩ := pure_ok.mp h
  obtain ⟨event, conversations, hnoted, hrows, ht⟩ := insertConversation_ok hinsert
  exact ⟨event, ⟨project, hproject, rfl⟩, hnoted, conversations, hrows, ht⟩

/-- A run, the claim and the turn of a submission, and its conversation, were written. -/
structure Registration (svc : ConversationServices) (amb : Ambient) (s : Registry)
    (before : ConversationRow) (run : Run) (claim : ConversationClaim) (turn : ConversationTurn)
    (t : Registry) : Prop where
  turnOf : ClaimOf claim turn.binding
  bound : turn.binding.runId = run.runId
  steps : ∃ s₁ event₂ claims s₃ event₃ turns event₄,
    onDatabase (onStore (insertRun svc.toDatabaseServices (amb.after 2) run
      (createdPayload svc turn.binding))) s = .ok ((), s₁)
    ∧ ClaimNoted svc s₁ claim .active none event₂
    ∧ s₁.claims.insert { claim, recordEventId := event₂.eventId } = some claims
    ∧ TurnNoted svc { s₁.journaled event₂ with claims } turn "conversation.turn_registered" event₃
    ∧ s₁.turns.insert ⟨turn, event₃.eventId⟩ = some turns
    ∧ s₃ = { ({ s₁.journaled event₂ with claims } : Registry).journaled event₃ with turns }
    ∧ ConversationWrite svc s₃ before
        (extended before.conversation turn.binding.turnId turn.createdAt) event₄ t

/-- What `register_turn_run` has done under a key that is new to the conversation. -/
structure Registers (svc : ConversationServices) (amb : Ambient) (s : Registry)
    (submission : ConversationSubmission) (root : Run) (configHash : Sha256)
    (limits : RunBudgetLimits) (registration : ConversationRegistration) (t : Registry)
    (before : ConversationRow) : Prop where
  stored : s.conversation? submission.conversationId = some before
  conversation : conversationOf svc s submission.projectId submission.conversationId
    = .ok before.conversation
  newKey : s.turnByKey? submission.conversationId submission.submissionKey = none
  revision : submission.expectedRevision = before.conversation.revision
  idle : before.conversation.activeTurnId = none
  through : submission.context.throughSequence + 1 = before.conversation.nextTurnSequence
  fresh : isFreshRoot root configHash
  project : root.projectId = submission.projectId
  built : registration = {
      turn := newTurn (newBinding svc before.conversation submission root configHash limits
        (amb.ids 0) (amb.clock 0)) submission root (amb.ids 1) (amb.clock 0)
      claim := some (newClaim (newBinding svc before.conversation submission root configHash limits
        (amb.ids 0) (amb.clock 0)) (amb.ids 1) 1 (amb.clock 0)) }
  valid : registration.turn.binding.validates svc.toConversationModels = true
  written : ∃ claim ∈ registration.claim, Registration svc amb s before root claim
    registration.turn t

theorem writeRegistration_ok {run : Run}
    (hstored : s.conversation? conversation.conversationId = some before)
    (hbefore : before.conversation = conversation)
    (h : writeRegistration svc reads amb conversation submission run configHash limits s
      = .ok (registration, t)) :
    registration = {
        turn := newTurn (newBinding svc conversation submission run configHash limits
          (amb.ids 0) (amb.clock 0)) submission run (amb.ids 1) (amb.clock 0)
        claim := some (newClaim (newBinding svc conversation submission run configHash limits
          (amb.ids 0) (amb.clock 0)) (amb.ids 1) 1 (amb.clock 0)) }
      ∧ registration.turn.binding.validates svc.toConversationModels = true
      ∧ ∃ claim ∈ registration.claim, Registration svc amb s before run claim
          registration.turn t := by
  subst hbefore
  unfold writeRegistration at h
  rw [refuseIf_bind_ok, reading_bind_ok] at h
  obtain ⟨hvalid, _, -, h⟩ := h
  simp only [not_or, Bool.not_eq_false] at hvalid
  obtain ⟨_, s₁, hrun, h⟩ := Transaction.bind_ok.mp h
  obtain ⟨_, s₂, hclaim, h⟩ := Transaction.bind_ok.mp h
  obtain ⟨_, s₃, hturn, h⟩ := Transaction.bind_ok.mp h
  obtain ⟨_, s₄, hconversation, h⟩ := Transaction.bind_ok.mp h
  obtain ⟨rfl, rfl⟩ := pure_ok.mp h
  obtain ⟨event₂, claims, hnoted₂, hclaims, rfl⟩ := insertClaim_ok hclaim
  obtain ⟨event₃, turns, hnoted₃, hturns, rfl⟩ := insertTurn_ok hturn
  have hkept : s₁.conversations = s.conversations := by
    obtain ⟨d, -, rfl⟩ := onDatabase_ok.mp hrun
    rfl
  have hrow : s₁.conversation? before.conversation.conversationId = some before := by
    unfold Registry.conversation?
    rw [hkept]
    exact hstored
  have hupdated := fun hfound : _ = some before => updateConversation_ok hfound hconversation
  obtain ⟨event₄, conversations, hnoted₄, hconversations, rfl⟩ := hupdated hrow
  refine ⟨rfl, hvalid.1, _, rfl, ⟨rfl, rfl, rfl, rfl⟩, rfl, ?_⟩
  exact ⟨s₁, event₂, claims, _, event₃, turns, event₄, hrun, hnoted₂, hclaims, hnoted₃, hturns, rfl,
    hnoted₄, conversations, hconversations, rfl⟩

/-- What `register_turn_run` has done under a key that has a turn. -/
structure Replayed (svc : ConversationServices) (s : Registry)
    (submission : ConversationSubmission) (root : Run) (configHash : Sha256)
    (limits : RunBudgetLimits) (registration : ConversationRegistration) (row : TurnRow) : Prop where
  stored : s.turnByKey? submission.conversationId submission.submissionKey = some row
  read : turnOf svc s submission.projectId row.turnId = .ok row.turn
  digest : row.turn.binding.submissionSha256
    = submissionHash svc submission root configHash limits
  built : registration = { turn := row.turn }

theorem registerTurnRun_ok {run : Run}
    (h : registerTurnRun svc reads amb submission run configHash limits s = .ok (registration, t)) :
    (t = s ∧ ∃ row, Replayed svc s submission run configHash limits registration row)
      ∨ ∃ before, Registers svc amb s submission run configHash limits registration t before := by
  unfold registerTurnRun at h
  rw [reading_bind_ok] at h
  obtain ⟨_, hsubmission, h⟩ := h
  rw [reading_bind_ok] at h
  obtain ⟨conversation, hconversation, h⟩ := h
  rw [refuseIf_bind_ok, get_bind_ok] at h
  obtain ⟨-, h⟩ := h
  cases hkey : s.turnByKey? submission.conversationId submission.submissionKey with
  | some row =>
      rw [hkey] at h
      dsimp only at h
      unfold replayRegistration at h
      rw [reading_bind_ok] at h
      obtain ⟨turn, hturn, h⟩ := h
      rw [refuseIf_bind_ok, not_not] at h
      obtain ⟨hdigest, h⟩ := h
      obtain ⟨rfl, rfl⟩ := pure_ok.mp h
      obtain ⟨hmem, -, -⟩ := Registry.turnByKey?_mem hkey
      obtain ⟨other, hother, rfl, -⟩ := turnOf_ok.mp hturn
      rw [Registry.turn?_eq_some hmem] at hother
      cases hother
      exact .inl ⟨rfl, row, hkey, hturn, hdigest, rfl⟩
  | none =>
      rw [hkey] at h
      dsimp only at h
      unfold registerNew at h
      rw [reading_bind_ok] at h
      obtain ⟨_, hrevision, h⟩ := h
      rw [refuseIf_bind_ok, refuseIf_bind_ok, reading_bind_ok, not_not] at h
      obtain ⟨hidle, hthrough, _, -, h⟩ := h
      rw [refuseIf_bind_ok, reading_bind_ok, not_not] at h
      obtain ⟨hfresh, project, -, h⟩ := h
      rw [refuseIf_bind_ok] at h
      obtain ⟨-, h⟩ := h
      simp only [not_or, not_not] at hidle
      obtain ⟨before, hstored, rfl, -⟩ := conversationOf_ok.mp hconversation
      have hid := (Registry.conversation?_mem hstored).2
      have hstored' : s.conversation? before.conversation.conversationId = some before := by
        show s.conversation? before.conversationId = _
        rw [hid]
        exact hstored
      obtain ⟨hbuilt, hvalid, hwritten⟩ := writeRegistration_ok hstored' rfl h
      have hproject : run.projectId = submission.projectId := by
        unfold checkSubmission at hsubmission
        obtain ⟨_, -, hsubmission⟩ := Checks.bind_ok.mp hsubmission
        rw [refuse_bind_ok, refuse_ok] at hsubmission
        simp only [not_or, not_not] at hsubmission
        exact hsubmission.2.2.2
      refine .inr ⟨before, hstored, hconversation, hkey, ?_, hidle.1, hthrough, hfresh, hproject,
        hbuilt, hvalid, hwritten⟩
      exact_mod_cast checkRevision_ok.mp hrevision

end AgentFleet.Conversations
