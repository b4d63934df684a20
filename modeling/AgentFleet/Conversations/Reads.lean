import AgentFleet.Conversations.Machine
import AgentFleet.Persistence.Journal

/-! # What an accepted read has found

`ConversationFits`, `TurnFits` and `ClaimFits` are what the validators ask of one row and its
receipt; the rest of a read is how the rows are linked.  Each reader answers exactly the rows that
fit and are linked (`conversationOf_ok`, `turnOf_ok`, `claimRowOf_ok`). -/

namespace AgentFleet.Conversations

open Relational Transaction Checks

variable {svc : ConversationServices} {reads : ConversationReads} {s t : Registry}

/-! ### Runs, projects and receipts -/

variable {runId conversationId projectId turnId : String} {claim : ConversationClaim}
  {row : TurnRow} {turn : ConversationTurn}

theorem runOf_ok {run : Run} :
    runOf svc s runId = .ok run
      ↔ svc.redactor.containsSecretData (.str runId) = false
        ∧ ∃ row, s.database.store.records.runRow? runId = some row
          ∧ svc.stateRecordSafe row.run = true ∧ row.run.projectId = row.projectId
          ∧ row.run = run := by
  have hread : runOf svc s runId = .ok run ↔ ∃ store, validatedRun svc.toServices runId
      s.database.store = .ok (run, store) := by
    unfold runOf
    cases hx : validatedRun svc.toServices runId s.database.store with
    | error e =>
        constructor
        · intro h
          cases h
        · rintro ⟨store, h⟩
          cases h
    | ok r =>
        obtain ⟨found, store⟩ := r
        constructor
        · intro h
          cases h
          exact ⟨store, rfl⟩
        · rintro ⟨other, h⟩
          cases h
          rfl
  rw [hread]
  constructor
  · rintro ⟨store, h⟩
    obtain ⟨hclean, hrow, -⟩ := validatedRun_ok.mp h
    exact ⟨hclean, hrow⟩
  · rintro ⟨hclean, hrow⟩
    exact ⟨_, validatedRun_ok.mpr ⟨hclean, hrow, rfl⟩⟩

theorem runOf_runId {run : Run} (h : runOf svc s runId = .ok run) : run.runId = runId := by
  obtain ⟨-, row, hrow, -, -, rfl⟩ := runOf_ok.mp h
  exact (Records.runRow?_mem hrow).2

/-! ### Conversations -/

/-- What the validators ask of the row of a conversation and its receipt. -/
structure ConversationFits (svc : ConversationServices) (s : Registry) (row : ConversationRow) :
    Prop where
  identified : svc.identifies "conv" row.conversationId = true
  project : ∃ project, projectOf svc s row.conversation.projectId = .ok project
    ∧ row.conversation.repositoryIdentity = project.identityHash
  legible : svc.legible (.conversation row.conversation) = true
  valid : row.conversation.validates svc.toConversationModels = true
  receipt : receiptOf svc s row.recordEventId row.conversation.projectId none "conversation"
    row.conversationId (svc.dump (.conversation row.conversation)) = .ok ()

theorem Registry.conversation?_mem {row : ConversationRow}
    (h : s.conversation? conversationId = some row) :
    row ∈ s.conversations ∧ row.conversationId = conversationId :=
  ⟨Table.mem_of_find? h, by simpa using Table.prop_of_find? h⟩

theorem conversationOf_ok {value : Conversation} :
    conversationOf svc s projectId conversationId = .ok value
      ↔ ∃ row, s.conversation? conversationId = some row ∧ row.conversation = value
        ∧ value.projectId = projectId ∧ ConversationFits svc s row ∧ turnsCounted s value := by
  unfold conversationOf
  rw [refuse_bind_ok, Checks.bind_ok, Bool.not_eq_false]
  constructor
  · rintro ⟨hid, project, hproject, h⟩
    obtain ⟨row, hrow, h⟩ := Checks.bind_ok.mp h
    rw [demand_ok] at hrow
    rw [refuse_bind_ok, refuse_bind_ok, Checks.bind_ok] at h
    obtain ⟨hvalid, hmatch, _, hreceipt, h⟩ := h
    rw [refuse_bind_ok, return_ok, not_not] at h
    obtain ⟨hcounted, rfl⟩ := h
    simp only [not_or, not_not, Bool.not_eq_false] at hvalid hmatch
    obtain ⟨-, rfl⟩ := Registry.conversation?_mem hrow
    obtain ⟨rfl, hidentity⟩ := hmatch
    exact ⟨row, hrow, rfl, rfl,
      ⟨hid, ⟨project, hproject, hidentity⟩, hvalid.1, hvalid.2, hreceipt⟩, hcounted⟩
  · rintro ⟨row, hrow, rfl, rfl, hfits, hcounted⟩
    obtain ⟨-, rfl⟩ := Registry.conversation?_mem hrow
    obtain ⟨project, hproject, hidentity⟩ := hfits.project
    refine ⟨hfits.identified, project, hproject, Checks.bind_ok.mpr ⟨row, demand_ok.mpr hrow, ?_⟩⟩
    rw [refuse_bind_ok, refuse_bind_ok, Checks.bind_ok]
    simp only [not_or, not_not, Bool.not_eq_false]
    refine ⟨⟨hfits.legible, hfits.valid⟩, ⟨trivial, hidentity⟩, (), hfits.receipt, ?_⟩
    rw [refuse_bind_ok, return_ok, not_not]
    exact ⟨hcounted, rfl⟩

/-! ### Claims -/

/-- What the validators ask of the row of a claim and its receipt. -/
structure ClaimFits (svc : ConversationServices) (s : Registry) (row : TurnClaimRow) : Prop where
  legible : svc.legible (.claim row.claim) = true
  valid : row.claim.validates svc.toConversationModels = true
  ended : row.status = .active ↔ row.releasedAt = none
  receipt : receiptOf svc s row.recordEventId row.claim.projectId (some row.claim.runId) "claim"
    row.claim.claimId (claimValue svc row.claim row.status row.releasedAt) = .ok ()

theorem claimRowOf_ok {row : TurnClaimRow} :
    claimRowOf svc s row = .ok claim ↔ ClaimFits svc s row ∧ row.claim = claim := by
  unfold claimRowOf
  rw [refuse_bind_ok, refuse_bind_ok, Checks.bind_ok]
  simp only [not_or, not_not, Bool.not_eq_false, return_ok]
  constructor
  · rintro ⟨hvalid, hended, _, hreceipt, hclaim⟩
    exact ⟨⟨hvalid.1, hvalid.2, hended, hreceipt⟩, hclaim⟩
  · rintro ⟨hfits, hclaim⟩
    exact ⟨⟨hfits.legible, hfits.valid⟩, hfits.ended, (), hfits.receipt, hclaim⟩

/-! ### Turns -/

/-- What the validators ask of the row of a turn, of its receipt and of its run. -/
structure TurnFits (svc : ConversationServices) (s : Registry) (row : TurnRow) : Prop where
  identified : svc.identifies "turn" row.turnId = true
  legible : svc.legible (.turn row.turn) = true
  valid : svc.validTurn row.turn = true
  binding : svc.legible (.binding row.turn.binding) = true
  receipt : receiptOf svc s row.recordEventId row.turn.binding.projectId (some row.runId) "turn"
    row.turnId (svc.dump (.turn row.turn)) = .ok ()
  run : ∃ run, runOf svc s row.runId = .ok run
    ∧ validateTurnRun svc s row.turn.binding.projectId row.turn.binding run = .ok ()
    ∧ validateRefs svc s run row.turn.artifactRefs = .ok ()

/-- A claim is one of a turn. -/
structure ClaimOf (claim : ConversationClaim) (binding : ConversationRunBinding) : Prop where
  project : claim.projectId = binding.projectId
  conversation : claim.conversationId = binding.conversationId
  turn : claim.turnId = binding.turnId
  run : claim.runId = binding.runId

/-- What the reader of a turn asks of the other rows. -/
structure TurnLinked (svc : ConversationServices) (s : Registry) (turn : ConversationTurn) :
    Prop where
  conversation : ∃ conversation, conversationOf svc s turn.binding.projectId
      turn.binding.conversationId = .ok conversation
    ∧ turn.binding.repositoryIdentity = conversation.repositoryIdentity
    ∧ (turn.status.isActive = true ↔ conversation.activeTurnId = some turn.binding.turnId)
  counted : claimsCounted s turn
  claim : ∃ row, s.claimAt? turn.binding.turnId turn.ownerGeneration = some row
    ∧ ClaimFits svc s row ∧ ClaimOf row.claim turn.binding

theorem Registry.turn?_mem (h : s.turn? turnId = some row) : row ∈ s.turns ∧ row.turnId = turnId :=
  ⟨Table.mem_of_find? h, by simpa using Table.prop_of_find? h⟩

theorem Registry.turn?_eq_some (h : row ∈ s.turns) : s.turn? row.turnId = some row :=
  Table.find?_eq_some h (decide_eq_true rfl) fun _ hb => .inl (of_decide_eq_true hb)

theorem validateTurnClaims_ok :
    validateTurnClaims svc s turn = .ok () ↔ claimsCounted s turn
      ∧ ∃ row, s.claimAt? turn.binding.turnId turn.ownerGeneration = some row
        ∧ ClaimFits svc s row ∧ ClaimOf row.claim turn.binding := by
  unfold validateTurnClaims
  rw [refuse_bind_ok, Checks.bind_ok, not_not]
  refine and_congr_right fun _ => exists_congr fun row => ?_
  rw [demand_ok, Checks.bind_ok]
  refine and_congr_right fun _ => ?_
  constructor
  · rintro ⟨claim, hclaim, h⟩
    obtain ⟨hfits, rfl⟩ := claimRowOf_ok.mp hclaim
    rw [refuse_ok] at h
    simp only [not_or, not_not] at h
    exact ⟨hfits, h.1, h.2.1, h.2.2.1, h.2.2.2⟩
  · rintro ⟨hfits, hof⟩
    refine ⟨row.claim, claimRowOf_ok.mpr ⟨hfits, rfl⟩, ?_⟩
    rw [refuse_ok]
    simp only [not_or, not_not]
    exact ⟨hof.project, hof.conversation, hof.turn, hof.run⟩

theorem turnOf_ok :
    turnOf svc s projectId turnId = .ok turn
      ↔ ∃ row, s.turn? turnId = some row ∧ row.turn = turn
        ∧ turn.binding.projectId = projectId ∧ TurnFits svc s row ∧ TurnLinked svc s turn := by
  unfold turnOf
  rw [refuse_bind_ok, Checks.bind_ok, Bool.not_eq_false]
  constructor
  · rintro ⟨hid, row, hrow, h⟩
    rw [demand_ok] at hrow
    rw [refuse_bind_ok, refuse_bind_ok, Checks.bind_ok] at h
    obtain ⟨hvalid, hbinding, conversation, hconversation, h⟩ := h
    rw [refuse_bind_ok, Checks.bind_ok] at h
    obtain ⟨hmatch, _, hreceipt, h⟩ := h
    obtain ⟨run, hrun, h⟩ := Checks.bind_ok.mp h
    obtain ⟨_, hturnRun, h⟩ := Checks.bind_ok.mp h
    obtain ⟨_, hclaims, h⟩ := Checks.bind_ok.mp h
    obtain ⟨_, hrefs, h⟩ := Checks.bind_ok.mp h
    rw [return_ok] at h
    subst h
    simp only [not_or, not_not, Bool.not_eq_false] at hvalid hbinding hmatch
    obtain ⟨-, rfl⟩ := Registry.turn?_mem hrow
    obtain ⟨rfl, hrepository, hactive⟩ := hmatch
    obtain ⟨hcounted, hclaim⟩ := validateTurnClaims_ok.mp hclaims
    exact ⟨row, hrow, rfl, rfl,
      ⟨hid, hvalid.1, hvalid.2, hbinding, hreceipt, run, hrun, hturnRun, hrefs⟩,
      ⟨conversation, hconversation, hrepository, hactive⟩, hcounted, hclaim⟩
  · rintro ⟨row, hrow, rfl, rfl, hfits, hlinked⟩
    obtain ⟨-, rfl⟩ := Registry.turn?_mem hrow
    obtain ⟨conversation, hconversation, hrepository, hactive⟩ := hlinked.conversation
    obtain ⟨run, hrun, hturnRun, hrefs⟩ := hfits.run
    refine ⟨hfits.identified, row, demand_ok.mpr hrow, ?_⟩
    rw [refuse_bind_ok, refuse_bind_ok, Checks.bind_ok]
    simp only [not_or, Bool.not_eq_false]
    refine ⟨⟨hfits.legible, hfits.valid⟩, hfits.binding, conversation, hconversation, ?_⟩
    rw [refuse_bind_ok, Checks.bind_ok]
    simp only [not_or, not_not]
    refine ⟨⟨trivial, hrepository, hactive⟩, (), hfits.receipt, ?_⟩
    refine Checks.bind_ok.mpr ⟨run, hrun, Checks.bind_ok.mpr ⟨(), hturnRun, ?_⟩⟩
    refine Checks.bind_ok.mpr ⟨(), validateTurnClaims_ok.mpr ⟨hlinked.counted, hlinked.claim⟩, ?_⟩
    exact Checks.bind_ok.mpr ⟨(), hrefs, return_ok.mpr rfl⟩

theorem Registry.turnByRun?_mem (h : s.turnByRun? runId = some row) :
    row ∈ s.turns ∧ row.runId = runId :=
  ⟨Table.mem_of_find? h, by simpa using Table.prop_of_find? h⟩

theorem Registry.turnByKey?_mem {submissionKey : String}
    (h : s.turnByKey? conversationId submissionKey = some row) :
    row ∈ s.turns ∧ row.conversationId = conversationId ∧ row.submissionKey = submissionKey := by
  have hprop := Table.prop_of_find? h
  rw [Bool.and_eq_true, decide_eq_true_iff, decide_eq_true_iff] at hprop
  exact ⟨Table.mem_of_find? h, hprop.1, hprop.2⟩

/-- The turn of a run is read as its row. -/
theorem requireTurn_ok (h : requireTurn svc s runId = .ok turn) :
    ∃ row ∈ s.turns, row.turn = turn ∧ row.runId = runId
      ∧ turnOf svc s turn.binding.projectId row.turnId = .ok turn := by
  unfold requireTurn at h
  obtain ⟨found, hfound, hsome⟩ := Checks.bind_ok.mp h
  rw [demand_ok] at hsome
  subst hsome
  unfold turnForRun at hfound
  rw [refuse_bind_ok, Checks.bind_ok] at hfound
  obtain ⟨-, run, -, hfound⟩ := hfound
  cases hrow : s.turnByRun? runId with
  | none =>
      rw [hrow] at hfound
      obtain ⟨_, -, hfound⟩ := Checks.bind_ok.mp hfound
      rw [refuse_bind_ok, return_ok] at hfound
      exact absurd hfound.2 (fun heq => by cases heq)
  | some row =>
      rw [hrow] at hfound
      dsimp only at hfound
      obtain ⟨hmem, hrun⟩ := Registry.turnByRun?_mem hrow
      cases hread : turnOf svc s run.projectId row.turnId with
      | error =>
          rw [hread] at hfound
          cases hfound
      | ok =>
          rw [hread] at hfound
          cases hfound
          obtain ⟨other, hother, heq, hproject, -⟩ := turnOf_ok.mp hread
          rw [Registry.turn?_eq_some hmem] at hother
          cases hother
          refine ⟨row, hmem, heq, hrun, ?_⟩
          rw [hproject]
          exact hread

/-! ### Ownership -/

theorem checkRevision_ok {actual : ℕ} {expected : ℤ} :
    checkRevision actual expected = .ok () ↔ expected = actual := by
  unfold checkRevision
  rw [refuse_ok, not_not]

/-- What an owner of a running turn has shown. -/
structure Owned (svc : ConversationServices) (s : Registry) (claim : ConversationClaim)
    (turn : ConversationTurn) : Prop where
  read : turnOf svc s claim.projectId claim.turnId = .ok turn
  running : turn.status = .running
  active : turn.activeClaimId = some claim.claimId
  stored : ∃ row, s.claim? claim.claimId = some row ∧ ClaimFits svc s row ∧ row.claim = claim

theorem owned_ok (h : owned svc s claim = .ok turn) : Owned svc s claim turn := by
  unfold owned at h
  rw [refuse_bind_ok, Checks.bind_ok] at h
  obtain ⟨-, found, hread, h⟩ := h
  rw [refuse_bind_ok, Checks.bind_ok] at h
  obtain ⟨hguard, row, hrow, h⟩ := h
  obtain ⟨stored, hstored, h⟩ := Checks.bind_ok.mp h
  rw [refuse_bind_ok, return_ok, not_not] at h
  obtain ⟨rfl, rfl⟩ := h
  simp only [not_or, not_not] at hguard
  obtain ⟨hfits, rfl⟩ := claimRowOf_ok.mp hstored
  exact ⟨hread, hguard.1, hguard.2, row, demand_ok.mp hrow, hfits, rfl⟩

theorem Registry.claim?_mem {claimId : String} {row : TurnClaimRow}
    (h : s.claim? claimId = some row) : row ∈ s.claims ∧ row.claimId = claimId :=
  ⟨Table.mem_of_find? h, by simpa using Table.prop_of_find? h⟩

end AgentFleet.Conversations
