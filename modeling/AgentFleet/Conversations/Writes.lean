import AgentFleet.Conversations.Reads

/-! # What a write has done

A write puts the receipt of a record into the journal and then its row into one table.  `Noted` is
the new receipt; the `…_ok` lemma of a write gives the receipt, the new table, and the registry
after it, in which nothing else has changed. -/

namespace AgentFleet.Conversations

open Relational Transaction Checks

variable {svc : ConversationServices} {reads : ConversationReads} {amb : Ambient} {s t : Registry}

/-! ### The journal -/

/-- The registry after an event. -/
def Registry.journaled (s : Registry) (event : FleetEvent) : Registry :=
  { s with database := { s.database with
      store := { s.database.store with runEvents := s.events ++ [event] } } }

section journaled

variable (event : FleetEvent)

@[simp] theorem Registry.events_journaled : (s.journaled event).events = s.events ++ [event] := rfl
@[simp] theorem Registry.records_journaled :
    (s.journaled event).database.store.records = s.database.store.records := rfl
@[simp] theorem Registry.graphs_journaled :
    (s.journaled event).database.graphs = s.database.graphs := rfl
@[simp] theorem Registry.shared_journaled : (s.journaled event).shared = s.shared := rfl
@[simp] theorem Registry.conversations_journaled :
    (s.journaled event).conversations = s.conversations := rfl
@[simp] theorem Registry.turns_journaled : (s.journaled event).turns = s.turns := rfl
@[simp] theorem Registry.claims_journaled : (s.journaled event).claims = s.claims := rfl

end journaled

/-- The event that `insertEvent` stores. -/
def Registry.stored (svc : ConversationServices) (s : Registry) (event : FleetEvent) : FleetEvent :=
  persisted svc.toServices s.events event

theorem onDatabase_ok {α : Type} {x : DatabaseTxn α} {a : α} :
    onDatabase x s = .ok (a, t) ↔ ∃ d, x s.database = .ok (a, d) ∧ { s with database := d } = t := by
  unfold onDatabase
  exact onPart_ok

variable {u : Unit} {k : ℕ} {eventType eventId : String} {value : Conversation}
  {turn : ConversationTurn} {claim : ConversationClaim} {status : TurnClaimStatus}

theorem insertEvent_journaled {event : FleetEvent} :
    onDatabase (onStore (insertEvent svc.toServices event)) s = .ok (u, t)
      ↔ s.journaled (s.stored svc event) = t := by
  rw [onDatabase_ok]
  constructor
  · rintro ⟨d, hd, rfl⟩
    obtain ⟨store, hstore, rfl⟩ := onStore_ok.mp hd
    rw [insertEvent_ok] at hstore
    subst hstore
    rfl
  · rintro rfl
    exact ⟨_, onStore_ok.mpr ⟨_, insertEvent_ok.mpr rfl, rfl⟩, rfl⟩

/-- The new receipt of a document: nothing of it has changed but what was redacted. -/
structure Noted (svc : ConversationServices) (s : Registry) (projectId : String)
    (runId : Option String) (eventType recordType recordId : String) (value : JsonValue)
    (event : FleetEvent) : Prop where
  fresh : (s.event? event.eventId).isSome = false
  clean : svc.cleanValue value = true
  project : event.projectId = projectId
  run : event.runId = runId
  eventType : event.eventType = eventType
  payload : event.payload = (svc.redactor.redactData (receiptPayload svc recordType recordId value)).1
  summary : event.redactionSummary
    = sortedSet (svc.redactor.redactData (receiptPayload svc recordType recordId value)).2

theorem writeEvent_ok {projectId : String} {runId : Option String} {recordType recordId : String}
    {value : JsonValue}
    (h : writeEvent svc amb k projectId runId eventType recordType recordId value s
      = .ok (eventId, t)) :
    ∃ event, Noted svc s projectId runId eventType recordType recordId value event
      ∧ event.eventId = eventId ∧ s.journaled event = t := by
  unfold writeEvent at h
  rw [refuseIf_bind_ok, reading_bind_ok, Bool.not_eq_false] at h
  obtain ⟨hclean, run, -, h⟩ := h
  rw [reading_bind_ok] at h
  obtain ⟨_, hfresh, h⟩ := h
  obtain ⟨_, s₁, hinsert, h⟩ := Transaction.bind_ok.mp h
  obtain ⟨rfl, rfl⟩ := pure_ok.mp h
  have hjournal := insertEvent_journaled.mp hinsert
  have hnew := refuse_ok.mp hfresh
  rw [Bool.not_eq_true] at hnew
  refine ⟨_, ⟨hnew, hclean, rfl, rfl, rfl, rfl, ?_⟩, rfl, hjournal⟩
  show sortedSet ([] ++ _) = _
  rw [List.nil_append]
  rfl

theorem checkRecord_ok {record : ConversationRecord} {valid : Bool} :
    checkRecord svc record valid = .ok () ↔ svc.clean record = true ∧ valid = true := by
  unfold checkRecord
  rw [refuse_bind_ok, refuse_ok, Bool.not_eq_false, Bool.not_eq_false]

/-! ### Tables -/

theorem putConversations_ok {f : Table ConversationRow → Option (Table ConversationRow)}
    (h : putConversations f s = .ok (u, t)) :
    ∃ conversations, f s.conversations = some conversations ∧ { s with conversations } = t := by
  unfold putConversations at h
  rw [get_bind_ok, expect_bind_ok] at h
  obtain ⟨conversations, hrows, h⟩ := h
  exact ⟨conversations, hrows, set_ok.mp h⟩

theorem putTurns_ok {f : Table TurnRow → Option (Table TurnRow)} (h : putTurns f s = .ok (u, t)) :
    ∃ turns, f s.turns = some turns ∧ { s with turns } = t := by
  unfold putTurns at h
  rw [get_bind_ok, expect_bind_ok] at h
  obtain ⟨turns, hrows, h⟩ := h
  exact ⟨turns, hrows, set_ok.mp h⟩

theorem putClaims_ok {f : Table TurnClaimRow → Option (Table TurnClaimRow)}
    (h : putClaims f s = .ok (u, t)) :
    ∃ claims, f s.claims = some claims ∧ { s with claims } = t := by
  unfold putClaims at h
  rw [get_bind_ok, expect_bind_ok] at h
  obtain ⟨claims, hrows, h⟩ := h
  exact ⟨claims, hrows, set_ok.mp h⟩

/-! ### Rows -/

/-- A new version of a conversation was noted. -/
structure ConversationNoted (svc : ConversationServices) (s : Registry) (value : Conversation)
    (eventType : String) (event : FleetEvent) : Prop where
  clean : svc.clean (.conversation value) = true
  valid : value.validates svc.toConversationModels = true
  noted : Noted svc s value.projectId none eventType "conversation" value.conversationId
    (svc.dump (.conversation value)) event

/-- A new version of a turn was noted. -/
structure TurnNoted (svc : ConversationServices) (s : Registry) (turn : ConversationTurn)
    (eventType : String) (event : FleetEvent) : Prop where
  clean : svc.clean (.turn turn) = true
  valid : svc.validTurn turn = true
  noted : Noted svc s turn.binding.projectId (some turn.binding.runId) eventType "turn"
    turn.binding.turnId (svc.dump (.turn turn)) event

/-- A new version of the row of a claim was noted. -/
structure ClaimNoted (svc : ConversationServices) (s : Registry) (claim : ConversationClaim)
    (status : TurnClaimStatus) (releasedAt : Option Timestamp) (event : FleetEvent) : Prop where
  clean : svc.clean (.claim claim) = true
  valid : claim.validates svc.toConversationModels = true
  noted : Noted svc s claim.projectId (some claim.runId) (claimEventType status) "claim"
    claim.claimId (claimValue svc claim status releasedAt) event

theorem recordConversation_ok
    (h : recordConversation svc amb k value eventType s = .ok (eventId, t)) :
    ∃ event, ConversationNoted svc s value eventType event ∧ event.eventId = eventId
      ∧ s.journaled event = t := by
  unfold recordConversation at h
  rw [reading_bind_ok] at h
  obtain ⟨_, hcheck, h⟩ := h
  obtain ⟨hclean, hvalid⟩ := checkRecord_ok.mp hcheck
  obtain ⟨event, hnoted, hid, ht⟩ := writeEvent_ok h
  exact ⟨event, ⟨hclean, hvalid, hnoted⟩, hid, ht⟩

theorem recordTurn_ok (h : recordTurn svc amb k turn eventType s = .ok (eventId, t)) :
    ∃ event, TurnNoted svc s turn eventType event ∧ event.eventId = eventId
      ∧ s.journaled event = t := by
  unfold recordTurn at h
  rw [reading_bind_ok] at h
  obtain ⟨_, hcheck, h⟩ := h
  obtain ⟨hclean, hvalid⟩ := checkRecord_ok.mp hcheck
  obtain ⟨event, hnoted, hid, ht⟩ := writeEvent_ok h
  exact ⟨event, ⟨hclean, hvalid, hnoted⟩, hid, ht⟩

theorem recordClaim_ok {releasedAt : Option Timestamp}
    (h : recordClaim svc amb k claim status releasedAt s = .ok (eventId, t)) :
    ∃ event, ClaimNoted svc s claim status releasedAt event ∧ event.eventId = eventId
      ∧ s.journaled event = t := by
  unfold recordClaim at h
  rw [reading_bind_ok] at h
  obtain ⟨_, hcheck, h⟩ := h
  obtain ⟨hclean, hvalid⟩ := checkRecord_ok.mp hcheck
  obtain ⟨event, hnoted, hid, ht⟩ := writeEvent_ok h
  exact ⟨event, ⟨hclean, hvalid, hnoted⟩, hid, ht⟩

theorem insertConversation_ok (h : insertConversation svc amb k value s = .ok (u, t)) :
    ∃ event conversations, ConversationNoted svc s value "conversation.created" event
      ∧ s.conversations.insert ⟨value, event.eventId⟩ = some conversations
      ∧ { s.journaled event with conversations } = t := by
  unfold insertConversation at h
  obtain ⟨eventId, s₁, hrecord, h⟩ := Transaction.bind_ok.mp h
  obtain ⟨event, hnoted, rfl, rfl⟩ := recordConversation_ok hrecord
  obtain ⟨conversations, hrows, rfl⟩ := putConversations_ok h
  exact ⟨event, conversations, hnoted, hrows, rfl⟩

/-- The row of a conversation is replaced by its new version. -/
theorem updateConversation_ok {row : ConversationRow}
    (hrow : s.conversation? value.conversationId = some row)
    (h : updateConversation svc amb k value s = .ok (u, t)) :
    ∃ event conversations, ConversationNoted svc s value "conversation.updated" event
      ∧ s.conversations.replace? row ⟨value, event.eventId⟩ = some conversations
      ∧ { s.journaled event with conversations } = t := by
  unfold updateConversation at h
  obtain ⟨eventId, s₁, hrecord, h⟩ := Transaction.bind_ok.mp h
  obtain ⟨event, hnoted, rfl, rfl⟩ := recordConversation_ok hrecord
  obtain ⟨conversations, hrows, rfl⟩ := putConversations_ok h
  exact ⟨event, conversations, hnoted, Table.rewrite?_of_find? hrow hrows, rfl⟩

theorem insertTurn_ok (h : insertTurn svc amb k turn eventType s = .ok (u, t)) :
    ∃ event turns, TurnNoted svc s turn eventType event
      ∧ s.turns.insert ⟨turn, event.eventId⟩ = some turns
      ∧ { s.journaled event with turns } = t := by
  unfold insertTurn at h
  obtain ⟨eventId, s₁, hrecord, h⟩ := Transaction.bind_ok.mp h
  obtain ⟨event, hnoted, rfl, rfl⟩ := recordTurn_ok hrecord
  obtain ⟨turns, hrows, rfl⟩ := putTurns_ok h
  exact ⟨event, turns, hnoted, hrows, rfl⟩

/-- The row of a turn is replaced by its new version. -/
theorem updateTurn_ok {row : TurnRow} (hrow : s.turn? turn.binding.turnId = some row)
    (h : updateTurn svc amb k turn eventType s = .ok (u, t)) :
    ∃ event turns, TurnNoted svc s turn eventType event
      ∧ s.turns.replace? row ⟨turn, event.eventId⟩ = some turns
      ∧ { s.journaled event with turns } = t := by
  unfold updateTurn at h
  obtain ⟨eventId, s₁, hrecord, h⟩ := Transaction.bind_ok.mp h
  obtain ⟨event, hnoted, rfl, rfl⟩ := recordTurn_ok hrecord
  obtain ⟨turns, hrows, rfl⟩ := putTurns_ok h
  exact ⟨event, turns, hnoted, Table.rewrite?_of_find? hrow hrows, rfl⟩

theorem insertClaim_ok (h : insertClaim svc amb k claim s = .ok (u, t)) :
    ∃ event claims, ClaimNoted svc s claim .active none event
      ∧ s.claims.insert { claim, recordEventId := event.eventId } = some claims
      ∧ { s.journaled event with claims } = t := by
  unfold insertClaim at h
  obtain ⟨eventId, s₁, hrecord, h⟩ := Transaction.bind_ok.mp h
  obtain ⟨event, hnoted, rfl, rfl⟩ := recordClaim_ok hrecord
  obtain ⟨claims, hrows, rfl⟩ := putClaims_ok h
  exact ⟨event, claims, hnoted, hrows, rfl⟩

/-- The row of a claim that ends is replaced by its last version. -/
theorem endClaim_ok {row : TurnClaimRow} (hrow : s.claim? claim.claimId = some row)
    (h : endClaim svc amb k claim status s = .ok (u, t)) :
    ∃ event claims, ClaimNoted svc s claim status (some (amb.clock k)) event
      ∧ s.claims.replace? row { row with
          status := status, releasedAt := some (amb.clock k), recordEventId := event.eventId }
        = some claims
      ∧ { s.journaled event with claims } = t := by
  unfold endClaim at h
  obtain ⟨eventId, s₁, hrecord, h⟩ := Transaction.bind_ok.mp h
  obtain ⟨event, hnoted, rfl, rfl⟩ := recordClaim_ok hrecord
  obtain ⟨claims, hrows, rfl⟩ := putClaims_ok h
  exact ⟨event, claims, hnoted, Table.rewrite?_of_find? hrow hrows, rfl⟩

end AgentFleet.Conversations
