import AgentFleet.Conversations.Effects

/-! # What the calls of a reviewed recovery do

`SnapshotRead` is what a snapshot has been read from.  The preparation of a plan fences the turn of
a snapshot that still stands (`Prepared`); a claim and a finish of a lease replace its row and note
the step (`LeaseRecorded`). -/

namespace AgentFleet.Conversations

open Relational Transaction Checks

variable {svc : ConversationServices} {reads : ConversationReads} {amb : Ambient} {s t : Registry}

/-! ### Snapshots -/

/-- What one round of the walk has found. -/
structure WalkedRun (svc : ConversationServices) (reads : ConversationReads) (s : Registry)
    (projectId runId : String) (before : RecoveryWalk) (after : RecoveryWalk × List String) :
    Prop where
  walked : ∃ run graph, runOf svc s runId = .ok run ∧ graphOf svc reads s runId = .ok graph
    ∧ run.projectId = projectId
    ∧ after.2 = declaredChildren graph
    ∧ s.childRuns runId = (declaredChildren graph).mergeSort (fun a b => a ≤ b)
    ∧ after.1 = ⟨before.runs ++ [run], before.graphs ++ graph.toList,
        before.leases ++ (s.leasesOf runId).mergeSort fun a b => a.leaseId ≤ b.leaseId⟩

variable {projectId runId : String} {fuel k : ℕ} {u : Unit} {plan : ReviewedRecoveryPlan}
  {status : LeaseStatus} {before : ResourceLease} {claim : RecoveryLeaseClaim}

theorem walkRun_ok {walk : RecoveryWalk} {after : RecoveryWalk × List String}
    (h : walkRun svc reads s projectId runId walk = .ok after) :
    WalkedRun svc reads s projectId runId walk after := by
  unfold walkRun at h
  obtain ⟨run, hrun, h⟩ := Checks.bind_ok.mp h
  rw [refuse_bind_ok, Checks.bind_ok] at h
  obtain ⟨hproject, graph, hgraph, h⟩ := h
  rw [refuse_bind_ok, refuse_bind_ok, refuse_bind_ok, return_ok] at h
  obtain ⟨hchildren, -, -, rfl⟩ := h
  simp only [not_or, not_not] at hproject hchildren
  exact ⟨run, graph, hrun, hgraph, hproject.1, rfl, hchildren.1, rfl⟩

/-- The walk only adds to what it has collected. -/
theorem walkRuns_isPrefix {pending seen : List String} {walk after : RecoveryWalk}
    (h : walkRuns svc reads s projectId fuel pending seen walk = .ok after) :
    walk.runs <+: after.runs := by
  induction fuel generalizing pending seen walk with
  | zero =>
      cases pending with
      | nil =>
          unfold walkRuns at h
          cases h
          exact List.prefix_refl _
      | cons =>
          unfold walkRuns at h
          cases h
  | succ fuel ih =>
      cases pending with
      | nil =>
          unfold walkRuns at h
          cases h
          exact List.prefix_refl _
      | cons =>
          unfold walkRuns at h
          rw [refuse_bind_ok, Checks.bind_ok] at h
          obtain ⟨-, ⟨next, children⟩, hnext, h⟩ := h
          obtain ⟨run, graph, -, -, -, -, -, heq⟩ := (walkRun_ok hnext).walked
          dsimp only at heq h
          have hfirst : walk.runs <+: next.runs := by
            rw [heq]
            exact List.prefix_append _ _
          exact hfirst.trans (ih h)

theorem walkRuns_head {after : RecoveryWalk}
    (h : walkRuns svc reads s projectId (fuel + 1) [runId] [] {} = .ok after) :
    ∃ run, after.runs.head? = some run ∧ runOf svc s runId = .ok run := by
  unfold walkRuns at h
  rw [refuse_bind_ok, Checks.bind_ok] at h
  obtain ⟨-, ⟨next, children⟩, hnext, h⟩ := h
  obtain ⟨run, graph, hrun, -, -, -, -, heq⟩ := (walkRun_ok hnext).walked
  dsimp only at heq h
  obtain ⟨rest, hrest⟩ := walkRuns_isPrefix h
  refine ⟨run, ?_, hrun⟩
  rw [← hrest, heq]
  rfl

/-- What a snapshot has been read from. -/
structure SnapshotRead (svc : ConversationServices) (reads : ConversationReads) (s : Registry)
    (snapshot : RecoverySnapshot) : Prop where
  conversation : conversationOf svc s snapshot.selection.projectId
    snapshot.selection.conversationId = .ok snapshot.conversation
  revision : snapshot.selection.conversationRevision = snapshot.conversation.revision
  turn : ∃ runId, snapshot.selection.runId = some runId
    ∧ requireTurn svc s runId = .ok snapshot.turn
    ∧ ∃ root, snapshot.runs.head? = some root ∧ runOf svc s runId = .ok root
  bound : snapshot.turn.binding.conversationId = snapshot.selection.conversationId
    ∧ snapshot.turn.binding.projectId = snapshot.selection.projectId
    ∧ snapshot.turn.binding.sequence + 1 = snapshot.conversation.nextTurnSequence
  claim : ∃ row, s.claimAt? snapshot.turn.binding.turnId snapshot.turn.ownerGeneration = some row
    ∧ snapshot.claim = row.claim ∧ snapshot.claimStatus = row.status
    ∧ snapshot.claimReleasedAt = row.releasedAt
  project : projectOf svc s snapshot.selection.projectId = .ok snapshot.project
  walk : ∃ runId walk, walkRuns svc reads s snapshot.selection.projectId 129 [runId] [] {}
      = .ok walk
    ∧ snapshot.runs = walk.runs ∧ snapshot.graphs = walk.graphs
    ∧ snapshot.leases = walk.leases.mergeSort fun a b => a.leaseId ≤ b.leaseId

theorem recoverySnapshot_ok {selection : SessionSelection} {snapshot : RecoverySnapshot}
    (h : recoverySnapshot svc reads s selection = .ok snapshot) :
    SnapshotRead svc reads s snapshot ∧ snapshot.selection = selection := by
  unfold recoverySnapshot at h
  obtain ⟨runId, hrunId, h⟩ := Checks.bind_ok.mp h
  rw [demand_ok] at hrunId
  rw [refuse_bind_ok, Checks.bind_ok] at h
  obtain ⟨-, conversation, hconversation, h⟩ := h
  obtain ⟨_, hrevision, h⟩ := Checks.bind_ok.mp h
  obtain ⟨turn, hturn, h⟩ := Checks.bind_ok.mp h
  rw [refuse_bind_ok, Checks.bind_ok] at h
  obtain ⟨hbound, row, hrow, h⟩ := h
  rw [demand_ok] at hrow
  obtain ⟨claim, hclaim, h⟩ := Checks.bind_ok.mp h
  obtain ⟨-, rfl⟩ := claimRowOf_ok.mp hclaim
  obtain ⟨walk, hwalk, h⟩ := Checks.bind_ok.mp h
  obtain ⟨project, hproject, h⟩ := Checks.bind_ok.mp h
  rw [refuse_bind_ok, return_ok] at h
  obtain ⟨-, rfl⟩ := h
  simp only [not_or, not_not] at hbound
  refine ⟨⟨hconversation, ?_, ⟨runId, hrunId, hturn, walkRuns_head hwalk⟩, hbound,
    ⟨row, hrow, rfl, rfl, rfl⟩, hproject, runId, walk, hwalk, rfl, rfl, rfl⟩, rfl⟩
  exact_mod_cast checkRevision_ok.mp hrevision

/-- The root of a snapshot is the run of its turn. -/
theorem SnapshotRead.root {snapshot : RecoverySnapshot} (h : SnapshotRead svc reads s snapshot)
    {root : Run} (hroot : rootOf snapshot = .ok root) :
    snapshot.selection.runId = some root.runId ∧ requireTurn svc s root.runId = .ok snapshot.turn
      ∧ runOf svc s root.runId = .ok root := by
  obtain ⟨runId, hselected, hturn, other, hhead, hrun⟩ := h.turn
  unfold rootOf at hroot
  rw [demand_ok, hhead] at hroot
  cases hroot
  have hid := runOf_runId hrun
  subst hid
  exact ⟨hselected, hturn, hrun⟩

/-- The turn of a snapshot and its conversation. -/
theorem SnapshotRead.turnRead {snapshot : RecoverySnapshot}
    (h : SnapshotRead svc reads s snapshot) :
    ∃ row before, row.turn = snapshot.turn ∧ before.conversation = snapshot.conversation
      ∧ TurnRead svc s row before := by
  obtain ⟨runId, -, hturn, -⟩ := h.turn
  have hconversation : conversationOf svc s snapshot.turn.binding.projectId
      snapshot.turn.binding.conversationId = .ok snapshot.conversation := by
    rw [h.bound.1, h.bound.2.1]
    exact h.conversation
  obtain ⟨row, before, hrow, -, hbefore, hread⟩ := turnRead_of_require hturn hconversation
  exact ⟨row, before, hrow, hbefore, hread⟩

/-! ### The preparation of a plan -/

/-- The turn of a reviewed snapshot is behind a fence. -/
inductive ReviewFence (svc : ConversationServices) (amb : Ambient) (s : Registry)
    (current : RecoverySnapshot) (root : Run) (row : TurnRow) (before : ConversationRow)
    (s₁ : Registry) : Prop where
  | active {run : Run} {updated : ConversationTurn}
      (h : Fenced svc amb s root.runId .recovery none updated s₁ row before run)
      (hturn : row.turn = current.turn)
  | settled (hturn : row.turn = current.turn) (hbefore : before.conversation = current.conversation)
      (hread : TurnRead svc s row before) (hinactive : current.turn.status.isActive = false)
      (hended : isTerminal root.status = true)
      (hmoved : TurnMove svc s row (refencedTurn current.turn (amb.clock 0) (amb.clock 1)) before
        (amb.clock 3) s₁)

/-- The rows of a turn that settled hold no claim. -/
theorem not_claimed_of_inactive {turn : ConversationTurn} (hvalid : svc.validTurn turn = true)
    (hinactive : turn.status.isActive = false) : turn.activeClaimId = none := by
  unfold ConversationServices.validTurn ConversationTurn.validates at hvalid
  simp only [Bool.and_eq_true, decide_eq_true_eq] at hvalid
  obtain ⟨⟨-, hconsistent⟩, -⟩ := hvalid
  obtain ⟨-, -, -, -, -, -, -, -, -, -, hrunning, -⟩ := hconsistent
  cases hclaim : turn.activeClaimId with
  | none => rfl
  | some =>
      have hstatus : turn.status = .running := hrunning.mpr (by rw [hclaim]; rfl)
      rw [hstatus] at hinactive
      cases hinactive

theorem fenceReviewed_ok {current : RecoverySnapshot} {root : Run}
    (hread : SnapshotRead svc reads s current) (hroot : rootOf current = .ok root)
    (h : fenceReviewed svc amb current root s = .ok (u, t)) :
    ∃ row before, ReviewFence svc amb s current root row before t := by
  unfold fenceReviewed at h
  split_ifs at h with hactive
  · obtain ⟨updated, s₁, hfence, h⟩ := Transaction.bind_ok.mp h
    obtain ⟨-, rfl⟩ := pure_ok.mp h
    obtain ⟨row, before, run, hfenced, -⟩ := fence_ok hfence
    obtain ⟨-, hturn, -⟩ := hread.root hroot
    obtain ⟨other, hother, heq, hotherRun, -⟩ := requireTurn_ok hturn
    have hsame : row = other := by
      obtain ⟨hmem, -⟩ := Registry.turn?_mem hfenced.read.found
      exact Table.eq_of_clash hmem hother (.inr (.inl (hfenced.about.trans hotherRun.symm)))
    subst hsame
    exact ⟨row, before, .active hfenced heq⟩
  · rw [refuseIf_bind_ok, Bool.not_eq_false] at h
    obtain ⟨hended, h⟩ := h
    obtain ⟨row, before, hturn, hbefore, hboth⟩ := hread.turnRead
    have hinactive := Bool.eq_false_iff.mpr hactive
    have hvalid : svc.validTurn row.turn = true := by
      obtain ⟨other, hother, -, -, hfits, -⟩ := turnOf_ok.mp hboth.turn
      rw [hboth.found] at hother
      cases hother
      exact hfits.valid
    have hfree : row.turn.activeClaimId = none :=
      not_claimed_of_inactive hvalid (by rw [hturn]; exact hinactive)
    refine ⟨row, before, .settled hturn hbefore hboth hinactive hended ?_⟩
    rw [← hbefore] at h
    refine turnMove_of_writes hboth.found hboth.stored ?_ ?_ (.inr rfl) rfl
      (.kept hfree ?_ ?_) h
    · rw [hturn]
      rfl
    · rw [hturn]
      rfl
    · rw [← hturn]
      exact hfree
    · rw [hturn]
      rfl

theorem cancelGraphs_tables {graphs : List GraphSnapshot}
    (h : cancelGraphs svc reads amb k graphs s = .ok (u, t)) :
    t.turns = s.turns ∧ t.conversations = s.conversations ∧ t.claims = s.claims
      ∧ t.shared = s.shared := by
  induction graphs generalizing k s with
  | nil =>
      obtain ⟨-, rfl⟩ := pure_ok.mp h
      exact ⟨rfl, rfl, rfl, rfl⟩
  | cons graph graphs ih =>
      unfold cancelGraphs at h
      obtain ⟨_, s₁, hfirst, h⟩ := Transaction.bind_ok.mp h
      obtain ⟨d, -, rfl⟩ := onDatabase_ok.mp hfirst
      obtain ⟨hturns, hconversations, hclaims, hshared⟩ := ih h
      exact ⟨hturns, hconversations, hclaims, hshared⟩

/-- What `prepare_reviewed_recovery` has done. -/
structure Prepared (svc : ConversationServices) (reads : ConversationReads) (amb : Ambient)
    (s : Registry) (original : RecoverySnapshot) (plan : ReviewedRecoveryPlan) (t : Registry)
    (root : Run) (row : TurnRow) (before : ConversationRow) : Prop where
  read : SnapshotRead svc reads s original
  rooted : rootOf original = .ok root
  recoverable : recoverableStatus original root
  steps : ∃ s₁ s₂ event, ReviewFence svc amb s original root row before s₁
    ∧ cancelGraphs svc reads amb 8 original.graphs.reverse s₁ = .ok ((), s₂)
    ∧ SnapshotRead svc reads s₂ plan.binding.snapshot
    ∧ plan.binding.snapshot.selection.projectId = original.selection.projectId
    ∧ plan.binding.snapshot.selection.runId = original.selection.runId
    ∧ plan.binding.snapshot.selection.conversationId = original.selection.conversationId
    ∧ Noted svc s₂ original.selection.projectId original.selection.runId
        "conversation.recovery_prepared" "recovery_plan" plan.planId (svc.dump (.plan plan)) event
    ∧ s₂.journaled event = t

theorem prepareReviewedRecovery_ok {binding : RecoveryBinding}
    (h : prepareReviewedRecovery svc reads amb binding s = .ok (plan, t)) :
    ∃ root row before, Prepared svc reads amb s binding.snapshot plan t root row before := by
  unfold prepareReviewedRecovery at h
  rw [reading_bind_ok] at h
  obtain ⟨current, hcurrent, h⟩ := h
  rw [refuseIf_bind_ok, not_not] at h
  obtain ⟨rfl, h⟩ := h
  rw [reading_bind_ok] at h
  obtain ⟨_, hrecoverable, h⟩ := h
  rw [reading_bind_ok] at h
  obtain ⟨root, hroot, h⟩ := h
  obtain ⟨_, s₁, hfence, h⟩ := Transaction.bind_ok.mp h
  obtain ⟨_, s₂, hcancel, h⟩ := Transaction.bind_ok.mp h
  rw [reading_bind_ok] at h
  obtain ⟨conversation, -, h⟩ := h
  dsimp only at h
  rw [reading_bind_ok] at h
  obtain ⟨snapshot, hsnapshot, h⟩ := h
  rw [refuseIf_bind_ok] at h
  obtain ⟨-, h⟩ := h
  obtain ⟨eventId, s₃, hevent, h⟩ := Transaction.bind_ok.mp h
  obtain ⟨rfl, rfl⟩ := pure_ok.mp h
  obtain ⟨event, hnoted, -, ht⟩ := writeEvent_ok hevent
  obtain ⟨hread, -⟩ := recoverySnapshot_ok hcurrent
  obtain ⟨hafter, hselection⟩ := recoverySnapshot_ok hsnapshot
  unfold recoverable at hrecoverable
  obtain ⟨other, hother, hstatus⟩ := Checks.bind_ok.mp hrecoverable
  rw [hroot] at hother
  cases hother
  rw [refuse_ok, not_not] at hstatus
  obtain ⟨row, before, hfenced⟩ := fenceReviewed_ok hread hroot hfence
  refine ⟨root, row, before, hread, hroot, hstatus, s₁, s₂, event, hfenced, hcancel, hafter, ?_, ?_,
    ?_, hnoted, ht⟩
  · show snapshot.selection.projectId = _
    rw [hselection]
  · show snapshot.selection.runId = _
    rw [hselection]
  · show snapshot.selection.conversationId = _
    rw [hselection]

/-! ### The leases of a plan -/

/-- What `_assert_recovery_plan` has found. -/
structure PlanStands (svc : ConversationServices) (reads : ConversationReads) (s : Registry)
    (plan : ReviewedRecoveryPlan) (current : RecoverySnapshot) (progress : LeaseProgress) :
    Prop where
  read : SnapshotRead svc reads s current
  selection : current.selection = plan.binding.snapshot.selection
  events : ∃ events, recoveryEvents svc s plan = .ok events
    ∧ reviewedLeases svc plan events = .ok progress
  unchanged : RecoverySnapshot.withoutLeases current
    = RecoverySnapshot.withoutLeases plan.binding.snapshot
  leases : sameLeases current.leases progress.leases
  fenced : current.turn.status = .recoveryRequired
  free : current.turn.activeClaimId = none

theorem assertRecoveryPlan_ok {found : RecoverySnapshot × LeaseProgress}
    (h : assertRecoveryPlan svc reads s plan = .ok found) :
    PlanStands svc reads s plan found.1 found.2 := by
  unfold assertRecoveryPlan at h
  obtain ⟨current, hcurrent, h⟩ := Checks.bind_ok.mp h
  obtain ⟨events, hevents, h⟩ := Checks.bind_ok.mp h
  obtain ⟨progress, hprogress, h⟩ := Checks.bind_ok.mp h
  rw [refuse_bind_ok, return_ok] at h
  obtain ⟨hguard, rfl⟩ := h
  simp only [not_or, not_not] at hguard
  obtain ⟨hread, hselection⟩ := recoverySnapshot_ok hcurrent
  exact ⟨hread, hselection, ⟨events, hevents, hprogress⟩, hguard.1, hguard.2.1, hguard.2.2.1,
    hguard.2.2.2⟩

/-- The events that the change of a lease has added. -/
structure LeaseNotes (svc : ConversationServices) (s : Registry) (run : Run) (t : Registry)
    (notes : List FleetEvent) : Prop where
  events : t.events = s.events ++ notes
  about : ∀ event ∈ notes, event.runId = some run.runId
    ∧ textStartsWith event.eventType "conversation." = false ∧ event.eventType ≠ "run.created"
  database : t = { s with database := { s.database with
    store := { s.database.store with runEvents := s.events ++ notes } } }

theorem leaseEventTypes_other {kind : LeaseKind} {eventType : String}
    (h : eventType ∈ leaseEventTypes kind status) :
    textStartsWith eventType "conversation." = false ∧ eventType ≠ "run.created" := by
  have hall : ∀ kind status, ∀ eventType ∈ leaseEventTypes kind status,
      textStartsWith eventType "conversation." = false ∧ eventType ≠ "run.created" := by
    intro kind status
    cases kind with
    | worktree | sandbox | execution => cases status <;> decide
  exact hall kind status eventType h

theorem writeLeaseEvents_ok {run : Run} {lease : ResourceLease} {k : ℕ} {eventTypes : List String}
    {u : Unit} (htypes : ∀ eventType ∈ eventTypes,
      textStartsWith eventType "conversation." = false ∧ eventType ≠ "run.created")
    (h : writeLeaseEvents svc amb run lease k eventTypes s = .ok (u, t)) :
    ∃ notes, LeaseNotes svc s run t notes := by
  induction eventTypes generalizing k s with
  | nil =>
      obtain ⟨-, rfl⟩ := pure_ok.mp h
      refine ⟨[], (List.append_nil _).symm, fun event hevent => absurd hevent List.not_mem_nil, ?_⟩
      rw [List.append_nil]
      rfl
  | cons eventType eventTypes ih =>
      unfold writeLeaseEvents at h
      obtain ⟨_, s₁, hfirst, h⟩ := Transaction.bind_ok.mp h
      have hs₁ := insertEvent_journaled.mp hfirst
      generalize hnote : s.stored svc (eventForRun svc.toServices amb k run eventType
        (JsonValue.object [("lease_id", .str lease.leaseId),
          ("lease_status", .str lease.status.value)])) = note at hs₁
      subst hs₁
      rw [List.forall_mem_cons] at htypes
      obtain ⟨notes, hevents, habout, hdatabase⟩ := ih htypes.2 h
      refine ⟨note :: notes, ?_, ?_, ?_⟩
      · rw [hevents, Registry.events_journaled, List.append_assoc]
        rfl
      · intro event hevent
        rcases List.mem_cons.mp hevent with rfl | hrest
        · rw [← hnote]
          exact ⟨rfl, htypes.1.1, htypes.1.2⟩
        · exact habout event hrest
      · rw [hdatabase, Registry.events_journaled, List.append_assoc]
        rfl

theorem replaceLease_ok {after : ResourceLease} (h : replaceLease before after s = .ok (u, t)) :
    ∃ leases, s.shared.leases.replace? before after = some leases
      ∧ { s with shared := { s.shared with leases } } = t := by
  unfold replaceLease at h
  rw [get_bind_ok, expect_bind_ok] at h
  obtain ⟨leases, hrows, h⟩ := h
  exact ⟨leases, hrows, set_ok.mp h⟩

/-- A step of a plan was recorded: the row of a lease was replaced and the step was noted. -/
structure LeaseRecorded (svc : ConversationServices) (amb : Ambient) (s : Registry)
    (plan : ReviewedRecoveryPlan) (claimId : String) (before after : ResourceLease)
    (finished : Bool) (t : Registry) (root : Run) : Prop where
  rooted : rootOf plan.binding.snapshot = .ok root
  allowed : before.status = after.status ∨ after.status ∈ leaseTransitions before.status
  written : ∃ leases run notes, s.shared.leases.replace? before after = some leases
    ∧ LeaseNotes svc { s with shared := { s.shared with leases } } run
        { s with
          shared := { s.shared with leases }
          database := { s.database with
            store := { s.database.store with runEvents := s.events ++ notes } } } notes
    ∧ t = ({ s with
        shared := { s.shared with leases }
        database := { s.database with
          store := { s.database.store with runEvents := s.events ++ notes } } }
        : Registry).journaled (persisted svc.toServices (s.events ++ notes)
          (progressEvent svc amb 3 plan root claimId before after finished))

theorem recordRecoveryLease_ok {claimId : String} {after : ResourceLease} {finished : Bool}
    (h : recordRecoveryLease svc amb plan claimId before after finished s = .ok (u, t)) :
    ∃ root, LeaseRecorded svc amb s plan claimId before after finished t root := by
  unfold recordRecoveryLease at h
  rw [refuseIf_bind_ok] at h
  obtain ⟨hallowed, h⟩ := h
  obtain ⟨_, s₁, hreplace, h⟩ := Transaction.bind_ok.mp h
  obtain ⟨leases, hrows, rfl⟩ := replaceLease_ok hreplace
  rw [reading_bind_ok] at h
  obtain ⟨run, -, h⟩ := h
  obtain ⟨_, s₂, hevents, h⟩ := Transaction.bind_ok.mp h
  obtain ⟨notes, hnotes⟩ := writeLeaseEvents_ok (fun _ => leaseEventTypes_other) hevents
  have hs₂ := hnotes.database
  subst hs₂
  rw [reading_bind_ok] at h
  obtain ⟨root, hroot, h⟩ := h
  refine ⟨root, hroot, ?_, leases, run, notes, hrows, hnotes, (insertEvent_journaled.mp h).symm⟩
  by_contra hnot
  rw [not_or] at hnot
  exact hallowed ⟨hnot.1, hnot.2⟩

/-- What `claim_recovery_lease` has done. -/
structure LeaseClaimed (svc : ConversationServices) (reads : ConversationReads) (amb : Ambient)
    (s : Registry) (plan : ReviewedRecoveryPlan) (leaseId : String) (claim : RecoveryLeaseClaim)
    (t : Registry) (current : RecoverySnapshot) (progress : LeaseProgress)
    (before : ResourceLease) (root : Run) : Prop where
  stands : PlanStands svc reads s plan current progress
  about : before.leaseId = leaseId
  held : before ∈ current.leases
  unclaimed : leaseId ∉ progress.claims.map Prod.fst
  open_ : leaseEnded before = false
  identified : hasIdentity "corr" 32 (amb.ids 0) = true
  built : claim = ⟨amb.ids 0, plan, claimedLease before (amb.clock 0)⟩
  recorded : LeaseRecorded svc amb s plan (amb.ids 0) before (claimedLease before (amb.clock 0))
    false t root

theorem claimRecoveryLease_ok {leaseId : String}
    (h : claimRecoveryLease svc reads amb plan leaseId s = .ok (claim, t)) :
    ∃ current progress before root,
      LeaseClaimed svc reads amb s plan leaseId claim t current progress before root := by
  unfold claimRecoveryLease at h
  rw [reading_bind_ok] at h
  obtain ⟨⟨current, progress⟩, hplan, h⟩ := h
  dsimp only at h
  rw [refuseIf_bind_ok, expect_bind_ok] at h
  obtain ⟨hguard, before, hbefore, h⟩ := h
  rw [refuseIf_bind_ok, Bool.not_eq_true] at h
  obtain ⟨hopen, h⟩ := h
  obtain ⟨_, s₁, hrecord, h⟩ := Transaction.bind_ok.mp h
  rw [refuseIf_bind_ok, Bool.not_eq_false] at h
  obtain ⟨hid, h⟩ := h
  obtain ⟨rfl, rfl⟩ := pure_ok.mp h
  obtain ⟨root, hrecorded⟩ := recordRecoveryLease_ok hrecord
  have hmem := List.mem_of_mem_head? (Option.mem_def.mpr hbefore)
  rw [List.mem_filter, decide_eq_true_iff] at hmem
  rw [not_or] at hguard
  exact ⟨current, progress, before, root, assertRecoveryPlan_ok hplan, hmem.2, hmem.1, hguard.2,
    hopen, hid, rfl, hrecorded⟩

/-- What `finish_recovery_lease` has done. -/
structure LeaseFinished (svc : ConversationServices) (reads : ConversationReads) (amb : Ambient)
    (s : Registry) (claim : RecoveryLeaseClaim) (status : LeaseStatus) (t : Registry)
    (current : RecoverySnapshot) (progress : LeaseProgress) (root : Run) : Prop where
  stands : PlanStands svc reads s claim.plan current progress
  claimed : progress.claim? claim.lease.leaseId = some claim.claimId
  held : claim.lease ∈ current.leases
  ending : status = .recovered ∨ status = .failed
  recorded : LeaseRecorded svc amb s claim.plan claim.claimId claim.lease
    { claim.lease with status := status, updatedAt := amb.clock 0 } true t root

theorem finishRecoveryLease_ok (h : finishRecoveryLease svc reads amb claim status s = .ok (u, t)) :
    ∃ current progress root,
      LeaseFinished svc reads amb s claim status t current progress root := by
  unfold finishRecoveryLease at h
  rw [refuseIf_bind_ok, reading_bind_ok, not_not] at h
  obtain ⟨hstatus, ⟨current, progress⟩, hplan, h⟩ := h
  dsimp only at h
  rw [refuseIf_bind_ok] at h
  obtain ⟨hguard, h⟩ := h
  simp only [not_or, not_not] at hguard
  obtain ⟨root, hrecorded⟩ := recordRecoveryLease_ok h
  exact ⟨current, progress, root, assertRecoveryPlan_ok hplan, hguard.1, hguard.2, hstatus,
    hrecorded⟩

/-- What `reconcile_reviewed_recovery` has done. -/
structure ReviewReconciled (svc : ConversationServices) (reads : ConversationReads)
    (amb : Ambient) (s : Registry) (plan : ReviewedRecoveryPlan) (t : Registry)
    (current : RecoverySnapshot) (progress : LeaseProgress) (row : TurnRow)
    (before : ConversationRow) (updated : ConversationTurn) : Prop where
  stands : PlanStands svc reads s plan current progress
  turn : row.turn = current.turn
  read : TurnRead svc s row before
  settled : ∃ run status,
    SettledUpdate svc reads s row.turn none [] (amb.clock 0) updated run status
  moved : TurnMove svc s row updated before (amb.clock 2) t

theorem reconcileReviewedRecovery_ok {run : Run}
    (h : reconcileReviewedRecovery svc reads amb plan s = .ok (run, t)) :
    ∃ current progress row before updated,
      ReviewReconciled svc reads amb s plan t current progress row before updated := by
  unfold reconcileReviewedRecovery at h
  rw [reading_bind_ok] at h
  obtain ⟨⟨current, progress⟩, hplan, h⟩ := h
  dsimp only at h
  rw [refuseIf_bind_ok, reading_bind_ok] at h
  obtain ⟨-, updated, hupdate, h⟩ := h
  rw [refuseIf_bind_ok] at h
  obtain ⟨-, h⟩ := h
  obtain ⟨_, s₁, hturnWrite, h⟩ := Transaction.bind_ok.mp h
  obtain ⟨_, s₂, hadvance, h⟩ := Transaction.bind_ok.mp h
  rw [reading_bind_ok] at h
  obtain ⟨root, -, h⟩ := h
  obtain ⟨-, rfl⟩ := reading_ok.mp h
  have hstands := assertRecoveryPlan_ok hplan
  obtain ⟨row, before, hturn, hbefore, hread⟩ := hstands.read.turnRead
  obtain ⟨other, status, hsettled⟩ := settledUpdate_ok hupdate
  have hnew := hsettled.built
  subst hnew
  rw [← hbefore] at hadvance
  rw [← hturn] at hsettled hturnWrite hadvance
  have hfree : row.turn.activeClaimId = none := by
    rw [hturn]
    exact hstands.free
  refine ⟨current, progress, row, before, _, hstands, hturn, hread, ⟨other, status, hsettled⟩, ?_⟩
  refine turnMove_of_writes hread.found hread.stored rfl rfl (.inl ?_) rfl (.kept hfree rfl rfl)
    (Transaction.bind_ok.mpr ⟨(), s₁, hturnWrite, hadvance⟩)
  rw [hturn]
  have hfenced := hstands.fenced
  dsimp only at hfenced
  rw [hfenced]
  rfl

end AgentFleet.Conversations
