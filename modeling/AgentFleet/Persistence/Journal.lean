import AgentFleet.Lib.Journal
import AgentFleet.Persistence.Machine

/-! # The journal of the runs

Events go into one table; a run's events carry their place among them.  `listEventsAfter` reads
them by pages.

`Logs` is what a write does to the table: it leaves the events alone or adds one at the next
place.  Every transaction body of the store is a chain of such steps; each write says so, and
the bodies are walked through. -/

namespace AgentFleet

open Journaling Relational Transaction

/-- The journal that an event counts into, of its run or of its project, and its place. -/
def eventLog : Layout FleetEvent (String ⊕ String) where
  key event :=
    match event.runId with
    | some runId => .inl runId
    | none => .inr event.projectId
  seq := FleetEvent.sequence

/-- The events of a run, in the order of their commits. -/
def Store.eventsOf (s : Store) (runId : String) : List FleetEvent :=
  s.runEvents.filter fun event => event.runId = some runId

theorem sameJournal_eq (event other : FleetEvent) :
    sameJournal event other = decide (eventLog.key other = eventLog.key event) := by
  cases event with
  | mk _ _ _ _ runId =>
      cases other with
      | mk _ _ _ _ runId' => cases runId <;> cases runId' <;> simp [sameJournal, eventLog]

theorem nextSequence_eq (events : List FleetEvent) (event : FleetEvent) :
    nextSequence events event = eventLog.next events (eventLog.key event) := by
  have hsame : sameJournal event = fun other => decide (eventLog.key other = eventLog.key event) :=
    funext (sameJournal_eq event)
  unfold nextSequence Layout.next Layout.journal
  rw [hsame]
  rfl

theorem Store.eventsOf_eq (s : Store) (runId : String) :
    s.eventsOf runId = eventLog.journal s.runEvents (.inl runId) := by
  unfold Store.eventsOf Layout.journal
  refine List.filter_congr fun event _ => ?_
  cases event with
  | mk _ _ _ _ runId' => cases runId' <;> simp [eventLog]

/-! ### What a write does to the journal -/

/-- The events stay, or one more is stored at the next place. -/
def Logs (s t : Store) : Prop := eventLog.Step s.runEvents t.runEvents

theorem Logs.same {s t : Store} (h : t.runEvents = s.runEvents) : Logs s t := by
  unfold Logs
  rw [h]
  exact .same

theorem Logs.stored {s t : Store} {event : FleetEvent}
    (hseq : event.sequence = nextSequence s.runEvents event)
    (h : t.runEvents = s.runEvents ++ [event]) : Logs s t := by
  unfold Logs
  rw [h]
  exact .append event (hseq.trans (nextSequence_eq s.runEvents event))

/-- The place of an event depends on its run and its project alone. -/
theorem nextSequence_congr {events : List FleetEvent} {event other : FleetEvent}
    (hrun : other.runId = event.runId) (hproject : other.projectId = event.projectId) :
    nextSequence events other = nextSequence events event := by
  unfold nextSequence sameJournal
  rw [hrun, hproject]

theorem Logs.journal (s : Store) (event : FleetEvent) : Logs s (s.journal event) :=
  .stored (nextSequence_congr rfl rfl).symm rfl

/-! ### Pages -/

/-- The first error of `list_events_after`. -/
def invalidPagination : StoreError :=
  .fleet {
    code := .commandDenied
    message := "Event pagination requires a nonnegative cursor and a limit from 1 to 100."
    remediation := "Use the last recorded sequence as the next cursor." }

/-- The error of `list_events_after` for an event that is not of its run's journal. -/
def invalidPage : StoreError :=
  .fleet {
    code := .recoveryRequired
    message := "An event page does not match its durable Run journal."
    remediation := "Inspect the exact Run journal before continuing." }

section Pages

-- `eventRecordSafe` is the screen of `_decode_state_record` on an event
variable (svc : Services) (eventRecordSafe : FleetEvent → Bool)

/-- The loop of `list_events_after` over its rows. -/
def checkPage (run : Run) (runId : String) : ℤ → List FleetEvent → StoreTxn Unit
  | _, [] => return ()
  | previous, event :: events => do
      refuseIf (eventRecordSafe event = false) invalidStateRecord
      refuseIf (event.runId ≠ some runId
        ∨ event.projectId ≠ run.projectId
        ∨ (event.sequence : ℤ) ≤ previous) invalidPage
      checkPage run runId event.sequence events

/-- `list_events_after`. -/
def listEventsAfter (runId : String) (afterSequence limit : ℤ) : StoreTxn (List FleetEvent) := do
  refuseIf (afterSequence < 0 ∨ ¬ (1 ≤ limit ∧ limit ≤ 100)) invalidPagination
  let run ← validatedRun svc runId
  let s ← get
  let rows := (((s.eventsOf runId).filter fun event => afterSequence < event.sequence).mergeSort
    fun a b => a.sequence ≤ b.sequence).take limit.toNat
  checkPage eventRecordSafe run runId afterSequence rows
  return rows

/-- What `list_events_after` asks of a run and of the events of its journal. -/
structure Readable (s : Store) (runId : String) : Prop where
  identity : svc.redactor.containsSecretData (.str runId) = false
  run : ∃ row, s.records.runRow? runId = some row ∧ svc.stateRecordSafe row.run = true
    ∧ row.run.projectId = row.projectId
    ∧ ∀ event ∈ s.eventsOf runId, event.projectId = row.run.projectId
  events : ∀ event ∈ s.eventsOf runId, eventRecordSafe event = true

variable {svc eventRecordSafe} {s t : Store} {runId : String}

theorem validatedRun_ok {run : Run} :
    validatedRun svc runId s = .ok (run, t)
      ↔ svc.redactor.containsSecretData (.str runId) = false
        ∧ (∃ row, s.records.runRow? runId = some row ∧ svc.stateRecordSafe row.run = true
          ∧ row.run.projectId = row.projectId ∧ row.run = run) ∧ s = t := by
  simp [validatedRun]
  tauto

theorem checkPage_ok {run : Run} {previous : ℤ} {events : List FleetEvent} {u : Unit}
    (h : checkPage eventRecordSafe run runId previous events s = .ok (u, t)) : t = s := by
  induction events generalizing previous with
  | nil => exact (pure_ok.mp h).2.symm
  | cons event events ih =>
      simp only [checkPage, bind_ok, refuseIf_ok] at h
      obtain ⟨_, _, ⟨-, rfl⟩, _, _, ⟨-, rfl⟩, hrest⟩ := h
      exact ih hrest

/-- Events of the run in the order of their numbers pass the loop. -/
theorem checkPage_of_range {run : Run} {events : List FleetEvent} {n : ℕ}
    (hevents : ∀ event ∈ events, eventRecordSafe event = true ∧ event.runId = some runId
      ∧ event.projectId = run.projectId)
    (hseq : events.map FleetEvent.sequence = List.range' (n + 1) events.length) :
    checkPage eventRecordSafe run runId n events s = .ok ((), s) := by
  induction events generalizing n with
  | nil => exact pure_ok.mpr ⟨rfl, rfl⟩
  | cons event events ih =>
      rw [List.map_cons, List.length_cons, List.range'_succ] at hseq
      obtain ⟨hfirst, hrest⟩ := List.cons.inj hseq
      obtain ⟨hsafe, hrun, hproject⟩ := hevents event List.mem_cons_self
      have hlater := ih (fun other hother => hevents other (List.mem_cons_of_mem _ hother)) hrest
      rw [← hfirst] at hlater
      have hnext : ¬ ((event.sequence : ℤ) ≤ n) := by omega
      simp only [checkPage, bind_ok, refuseIf_ok]
      refine ⟨(), s, ⟨?_, rfl⟩, (), s, ⟨?_, rfl⟩, hlater⟩
      · rw [hsafe]
        exact Bool.noConfusion
      · rw [hrun, hproject]
        simp only [ne_eq, not_true_eq_false, false_or]
        exact hnext

/-- The rows of the query are a page of the journal. -/
theorem rows_eq_page (s : Store) (runId : String) (cursor limit : ℕ) :
    (((s.eventsOf runId).filter fun event => (cursor : ℤ) < event.sequence).mergeSort
        fun a b => a.sequence ≤ b.sequence).take limit
      = eventLog.page s.runEvents (.inl runId) cursor limit := by
  unfold Layout.page
  rw [← Store.eventsOf_eq]
  simp only [Int.ofNat_lt]
  rfl

/-- A page that is answered is one of the journal, and reading it changes nothing. -/
theorem listEventsAfter_ok {cursor : ℕ} {limit : ℤ} {page : List FleetEvent}
    (h : listEventsAfter svc eventRecordSafe runId cursor limit s = .ok (page, t)) :
    t = s ∧ page = eventLog.page s.runEvents (.inl runId) cursor limit.toNat := by
  simp only [listEventsAfter, bind_ok, refuseIf_ok, validatedRun_ok, get_ok, pure_ok] at h
  obtain ⟨_, _, ⟨-, rfl⟩, run, _, ⟨-, -, rfl⟩, _, _, ⟨rfl, rfl⟩, _, _, hchecked, rfl,
    rfl⟩ := h
  exact ⟨checkPage_ok hchecked, rows_eq_page s runId cursor limit.toNat⟩

/-- A page of a readable run is answered. -/
theorem listEventsAfter_eq (hdense : eventLog.Dense s.runEvents)
    (hreadable : Readable svc eventRecordSafe s runId) (cursor : ℕ) {limit : ℤ}
    (hlimit : 1 ≤ limit ∧ limit ≤ 100) :
    listEventsAfter svc eventRecordSafe runId cursor limit s
      = .ok (((s.eventsOf runId).drop cursor).take limit.toNat, s) := by
  obtain ⟨row, hrow, hsafe, hproject, hevents⟩ := hreadable.run
  have hrun : validatedRun svc runId s = .ok (row.run, s) :=
    validatedRun_ok.mpr ⟨hreadable.identity, ⟨row, hrow, hsafe, hproject, rfl⟩, rfl⟩
  have hpage := hdense.page_eq (.inl runId) cursor limit.toNat
  rw [← Store.eventsOf_eq] at hpage
  have hseq := hdense.seq_page (.inl runId) cursor limit.toNat
  rw [hpage] at hseq
  simp only [listEventsAfter, bind_ok, refuseIf_ok, get_ok, pure_ok]
  refine ⟨(), s, ⟨?_, rfl⟩, row.run, s, hrun, s, s, ⟨rfl, rfl⟩, (), s, ?_, ?_, rfl⟩
  · omega
  · rw [rows_eq_page, hpage]
    refine checkPage_of_range (fun event hevent => ?_) hseq
    have hmem : event ∈ s.eventsOf runId := List.mem_of_mem_drop (List.mem_of_mem_take hevent)
    have hof : event.runId = some runId := of_decide_eq_true (List.mem_filter.mp hmem).2
    exact ⟨hreadable.events event hmem, hof, hevents event hmem⟩
  · rw [rows_eq_page, hpage]

end Pages

/-! ### The transactions of the store -/

section Bodies

variable (svc : Services) (amb : Ambient)

@[grind ←]
theorem getRecords_steps : Steps Logs getRecords := by
  unfold getRecords
  grind

@[grind ←]
theorem setRecords_steps (r : Records) : Steps Logs (setRecords r) :=
  .modify fun _ => .same rfl

@[grind ←]
theorem insertEvent_steps (event : FleetEvent) : Steps Logs (insertEvent svc event) :=
  .modify fun _ => .stored (nextSequence_congr rfl rfl).symm rfl

@[grind ←]
theorem getRun_steps (runId : String) : Steps Logs (getRun runId) := by
  unfold getRun
  grind

@[grind ←]
theorem getIntentById_steps (intentId : String) : Steps Logs (getIntentById intentId) := by
  unfold getIntentById
  grind

@[grind ←]
theorem findIntent_steps (runId idempotencyKey : String) :
    Steps Logs (findIntent runId idempotencyKey) := by
  unfold findIntent
  grind

@[grind ←]
theorem getApproval_steps (requestId : String) : Steps Logs (getApproval requestId) := by
  unfold getApproval
  grind

@[grind ←]
theorem grantFromRow_steps (row : GrantRow) (owner : RunRow) :
    Steps Logs (grantFromRow row owner) := by
  unfold grantFromRow
  grind

@[grind ←]
theorem getGrant_steps (grantId : String) : Steps Logs (getGrant grantId) := by
  unfold getGrant
  grind

@[grind ←]
theorem getGrantForRequest_steps (requestId : String) :
    Steps Logs (getGrantForRequest requestId) := by
  unfold getGrantForRequest
  grind

@[grind ←]
theorem insertIntent_steps (stored : StoredToolIntent) : Steps Logs (insertIntent stored) := by
  unfold insertIntent
  grind

@[grind ←]
theorem updateIntent_steps (stored : StoredToolIntent) : Steps Logs (updateIntent stored) := by
  unfold updateIntent
  grind

@[grind ←]
theorem updateRun_steps (run : Run) : Steps Logs (updateRun run) := by
  unfold updateRun
  grind

@[grind ←]
theorem updateApproval_steps (resolved : ApprovalRequest) :
    Steps Logs (updateApproval resolved) := by
  unfold updateApproval
  grind

@[grind ←]
theorem updateGrant_steps (grant : CapabilityGrant) : Steps Logs (updateGrant grant) := by
  unfold updateGrant
  grind

@[grind ←]
theorem insertGrant_steps (grant : CapabilityGrant) : Steps Logs (insertGrant grant) := by
  unfold insertGrant
  grind

@[grind ←]
theorem insertApproval_steps (request : ApprovalRequest) : Steps Logs (insertApproval request) := by
  unfold insertApproval
  grind

@[grind ←]
theorem insertClaim_steps (claim : DispatchClaim) : Steps Logs (insertClaim claim) := by
  unfold insertClaim
  grind

@[grind ←]
theorem validatedRun_steps (runId : String) : Steps Logs (validatedRun svc runId) := by
  unfold validatedRun
  grind

@[grind ←]
theorem createRun_steps (run : Run) : Steps Logs (createRun svc amb run) := by
  unfold createRun
  grind

@[grind ←]
theorem saveRun_steps (run : Run) (eventType : String) (payload : JsonObject) :
    Steps Logs (saveRun svc amb run eventType payload) := by
  unfold saveRun
  grind

@[grind ←]
theorem saveTask_steps (task : TaskSpec) : Steps Logs (saveTask svc amb task) := by
  unfold saveTask
  grind

@[grind ←]
theorem saveAgentInstance_steps (agent : AgentInstance) : Steps Logs (saveAgentInstance agent) := by
  unfold saveAgentInstance
  grind

@[grind ←]
theorem appendEvent_steps (event : FleetEvent) : Steps Logs (appendEvent svc event) := by
  unfold appendEvent
  grind

@[grind ←]
theorem validateIntentContext_steps (run : Run) (intent : ToolIntent) :
    Steps Logs (validateIntentContext run intent) := by
  unfold validateIntentContext
  grind

@[grind ←]
theorem validateApprovalBinding_steps (request : ApprovalRequest) (source : StoredToolIntent)
    (grant : Option CapabilityGrant) :
    Steps Logs (validateApprovalBinding svc request source grant) := by
  unfold validateApprovalBinding
  grind

@[grind ←]
theorem createApprovalAndPause_steps (intent : ToolIntent) (intentHash : Sha256)
    (request : ApprovalRequest) :
    Steps Logs (createApprovalAndPause svc amb intent intentHash request) := by
  unfold createApprovalAndPause
  refine .bind getRecords_steps fun r => ?_
  split
  · exact .pure _
  · refine .bind (getRun_steps _) fun run => .bind (.refuseIf _ _) fun _ => ?_
    refine .bind (insertIntent_steps _) fun _ => .bind (insertApproval_steps _) fun _ => ?_
    grind

@[grind ←]
theorem replayResolution_steps (request : ApprovalRequest) (args : ResolveArgs) :
    Steps Logs (replayResolution svc request args) := by
  unfold replayResolution
  grind

@[grind ←]
theorem approvePending_steps (request : ApprovalRequest) (intent : StoredToolIntent) (run : Run)
    (args : ResolveArgs) :
    Steps Logs (approvePending svc amb request intent run args) := by
  unfold approvePending
  grind

@[grind ←]
theorem resolveApproval_steps (requestId : String) (args : ResolveArgs) :
    Steps Logs (resolveApproval svc amb requestId args) := by
  unfold resolveApproval
  refine .bind (getApproval_steps _) fun request => ?_
  split
  · exact replayResolution_steps svc request args
  · refine .bind (getIntentById_steps _) fun intent => ?_
    refine .bind (validateApprovalBinding_steps svc _ _ _) fun run => ?_
    refine .bind (.refuseIf _ _) fun _ => ?_
    split
    · grind
    · grind

@[grind ←]
theorem reserveIntent_steps (intent : ToolIntent) (intentHash : Sha256) :
    Steps Logs (reserveIntent svc amb intent intentHash) := by
  unfold reserveIntent
  grind

@[grind ←]
theorem claimReservedIntentForDispatch_steps (intentId : String) (intentHash : Sha256) :
    Steps Logs (claimReservedIntentForDispatch svc amb intentId intentHash) := by
  unfold claimReservedIntentForDispatch
  refine .bind (.refuseIf _ _) fun _ => .bind getRecords_steps fun r => ?_
  refine .bind (.expect _ _) fun stored => .bind (.refuseIf _ _) fun _ => ?_
  split
  · grind
  · refine .bind (.refuseIf _ _) fun _ => .bind (.expect _ _) fun runRow => ?_
    grind

@[grind ←]
theorem completeIntent_steps (intentId : String) (result : JsonObject) :
    Steps Logs (completeIntent svc amb intentId result) := by
  unfold completeIntent
  grind

@[grind ←]
theorem denyIntent_steps (intentId : String) : Steps Logs (denyIntent intentId) := by
  unfold denyIntent
  grind

@[grind ←]
theorem validateActiveGrant_steps (run : Run) (request : ApprovalRequest) (grant : CapabilityGrant)
    (intent : ToolIntent) :
    Steps Logs (validateActiveGrant amb run request grant intent) := by
  unfold validateActiveGrant
  grind

@[grind ←]
theorem consumeGrant_steps (run : Run) (grant : CapabilityGrant) (intent : ToolIntent) :
    Steps Logs (consumeGrant svc amb run grant intent) := by
  unfold consumeGrant
  grind

@[grind ←]
theorem consumeGrantAndReserve_steps (requestId : String) (intentHash : Sha256) :
    Steps Logs (consumeGrantAndReserve svc amb requestId intentHash) := by
  unfold consumeGrantAndReserve
  refine .bind (getApproval_steps _) fun request => ?_
  refine .bind (getIntentById_steps _) fun intent => ?_
  refine .bind (getGrantForRequest_steps _) fun found => .bind (.expect _ _) fun grant => ?_
  refine .bind (validateApprovalBinding_steps svc _ _ _) fun run => ?_
  grind

@[grind ←]
theorem revokeGrant_steps (grantId : String) : Steps Logs (revokeGrant svc amb grantId) := by
  unfold revokeGrant
  grind

@[grind ←]
theorem consumeMatchingGrantAndReserve_steps (grantId : String) (intent : ToolIntent)
    (intentHash scopeSha256 : Sha256) :
    Steps Logs (consumeMatchingGrantAndReserve svc amb grantId intent intentHash scopeSha256) := by
  unfold consumeMatchingGrantAndReserve
  refine .bind (getGrant_steps _) fun grant => .bind (.expect _ _) fun requestId => ?_
  refine .bind (getApproval_steps _) fun request => .bind (getIntentById_steps _) fun source => ?_
  refine .bind (validateApprovalBinding_steps svc _ _ _) fun run => ?_
  refine .bind (validateActiveGrant_steps amb _ _ _ _) fun _ => ?_
  refine .bind (validateIntentContext_steps _ _) fun _ => .bind (.refuseIf _ _) fun _ => ?_
  grind

@[grind ←]
theorem reserveTrustRuleIntent_steps (intent : ToolIntent) (intentHash scopeSha256 : Sha256)
    (sourceRuleId : String) :
    Steps Logs (reserveTrustRuleIntent svc amb intent intentHash scopeSha256 sourceRuleId) := by
  unfold reserveTrustRuleIntent
  refine .bind (.refuseIf _ _) fun _ => .bind (getRun_steps _) fun run => ?_
  refine .bind (validateIntentContext_steps _ _) fun _ => .bind (.refuseIf _ _) fun _ => ?_
  refine .bind getRecords_steps fun r => ?_
  split
  · grind
  · refine .bind (.refuseIf _ _) fun _ => .bind (.refuseIf _ _) fun _ => ?_
    grind

theorem storeBody_steps (op : StoreOp) : Steps Logs (storeBody svc amb op) := by
  cases op <;> exact .map (by grind)

end Bodies

end AgentFleet
