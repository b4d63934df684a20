import AgentFleet.Conversations.Reviews
import AgentFleet.Database.Runs

/-! # What one input does to the conversations

`RegistryStep` lists what an input can do to the tables of conversations, turns and claims;
`registryBody_step` says that it does nothing else, and that the database under the tables moves only
as its own transactions move it.  Beside them, a call writes no more than a lease (`Beside`).

A turn moves by a `TurnStep`, which keeps its binding, counts its revision and ends or issues its
claim (`ClaimChange`).  `TurnCause` is what the call has found before it moved the turn on. -/

namespace AgentFleet.Conversations

open Relational Transaction Checks Transition

variable {svc : ConversationServices} {reads : ConversationReads} {amb : Ambient} {s t u : Registry}

/-! ### The database and the shared tables -/

/-- The database of a registry moves on by its own transactions. -/
abbrev Registry.DatabaseMoved (svc : ConversationServices) (s t : Registry) : Prop :=
  DatabaseMoves svc.toDatabaseServices s.database t.database

/-- Events move neither the records nor the ledger nor the graphs. -/
theorem Registry.DatabaseMoved.of_events
    (hrecords : t.database.store.records = s.database.store.records)
    (hledger : t.database.ledger = s.database.ledger)
    (hgraphs : t.database.graphs = s.database.graphs) : s.DatabaseMoved svc t := by
  refine .single (.graph hledger ?_)
  rw [hrecords, hgraphs]
  exact .unchanged

theorem Registry.DatabaseMoved.of_eq (h : t.database = s.database) : s.DatabaseMoved svc t := by
  unfold Registry.DatabaseMoved
  rw [h]

/-- What a call leaves of the rest: the database has moved on, and no shared table has changed. -/
structure Beside (svc : ConversationServices) (s t : Registry) : Prop where
  moved : s.DatabaseMoved svc t
  shared : t.shared = s.shared

theorem Beside.refl (s : Registry) : Beside svc s s := ⟨.refl, rfl⟩

theorem Beside.trans (h : Beside svc s t) (h' : Beside svc t u) : Beside svc s u :=
  ⟨h.moved.trans h'.moved, Eq.trans h'.shared h.shared⟩

theorem Beside.of_events (hrecords : t.database.store.records = s.database.store.records)
    (hledger : t.database.ledger = s.database.ledger)
    (hgraphs : t.database.graphs = s.database.graphs) (hshared : t.shared = s.shared) :
    Beside svc s t :=
  ⟨Registry.DatabaseMoved.of_events hrecords hledger hgraphs, hshared⟩

variable {old new updated : ConversationTurn} {row : TurnRow} {event : FleetEvent}
  {before : ConversationRow} {now : Timestamp} {reason : FenceReason} {k : ℕ}
  {graphs : List GraphSnapshot} {v : Unit} {root : Run} {plan : ReviewedRecoveryPlan}
  {result : ConversationResult}

theorem ClaimStep.beside (h : ClaimStep svc s old new t) : Beside svc s t := by
  cases h with
  | kept => exact .refl s
  | issued | ended => exact .of_events rfl rfl rfl rfl

theorem TurnWrite.beside (h : TurnWrite svc s row new event t) : Beside svc s t := by
  obtain ⟨turns, -, rfl⟩ := h.written
  exact .of_events rfl rfl rfl rfl

theorem ConversationWrite.beside {row : ConversationRow} {new : Conversation}
    (h : ConversationWrite svc s row new event t) : Beside svc s t := by
  obtain ⟨conversations, -, rfl⟩ := h.written
  exact .of_events rfl rfl rfl rfl

theorem TurnMove.beside (h : TurnMove svc s row new before now t) : Beside svc s t := by
  obtain ⟨s₁, _, s₂, _, hclaims, hturn, hconversation⟩ := h.steps
  exact (hclaims.beside.trans hturn.beside).trans hconversation.beside

theorem RunEnded.beside {run : Run} (h : RunEnded svc amb s run reason t) : Beside svc s t := by
  cases h with
  | before => exact .refl s
  | now hopen h =>
      obtain ⟨d, hd, rfl⟩ := onDatabase_ok.mp h
      obtain ⟨store, hstore, rfl⟩ := onStore_ok.mp hd
      obtain ⟨row, hrow, hallowed, hrecords⟩ := saveRun_ok hstore
      have heffect : Effect svc.toServices (amb.after 1)
          (.saveRun (fencedRun run reason (amb.clock 0)) reason.eventType
            (JsonValue.object [("reason", .str reason.text)])) s.database.store.records
          store.records := by
        rw [hrecords]
        exact .runSaved hrow hallowed
      exact ⟨.single (.store heffect rfl rfl), rfl⟩

theorem cancelGraphs_moved (h : cancelGraphs svc reads amb k graphs s = .ok (v, t)) :
    s.DatabaseMoved svc t := by
  induction graphs generalizing k s with
  | nil =>
      obtain ⟨-, rfl⟩ := pure_ok.mp h
      exact .refl
  | cons graph graphs ih =>
      unfold cancelGraphs at h
      obtain ⟨_, s₁, hfirst, h⟩ := Transaction.bind_ok.mp h
      obtain ⟨d, hd, rfl⟩ := onDatabase_ok.mp hfirst
      obtain ⟨g, hg, rfl⟩ := onGraphs_ok.mp hd
      refine .trans ?_ (ih h)
      obtain ⟨found, -, -, ⟨rfl, -⟩ | hcancelled⟩ := requestCancel_ok hg
      · exact .single (.graph rfl .unchanged)
      · exact .single (.graph rfl (.cancelled hcancelled))

theorem cancelGraphs_beside (h : cancelGraphs svc reads amb k graphs s = .ok (v, t)) :
    Beside svc s t := by
  obtain ⟨-, -, -, hshared⟩ := cancelGraphs_tables h
  exact ⟨cancelGraphs_moved h, hshared⟩

theorem LeaseRecorded.moved {plan : ReviewedRecoveryPlan} {claimId : String}
    {before after : ResourceLease} {finished : Bool} {root : Run}
    (h : LeaseRecorded svc amb s plan claimId before after finished t root) :
    s.DatabaseMoved svc t := by
  obtain ⟨leases, run, notes, -, -, rfl⟩ := h.written
  exact .of_events rfl rfl rfl

/-! ### Steps of a turn -/

/-- How the claims change when a turn moves on. -/
inductive ClaimChange (claims : Table TurnClaimRow) (old new : ConversationTurn) :
    Table TurnClaimRow → Prop where
  | kept (hold : old.activeClaimId = none) (hnew : new.activeClaimId = none)
      (hgeneration : new.ownerGeneration = old.ownerGeneration) : ClaimChange claims old new claims
  | issued {claim : ConversationClaim} {recordEventId : String} {claims' : Table TurnClaimRow}
      (hold : old.activeClaimId = none) (hnew : new.activeClaimId = some claim.claimId)
      (hgeneration : new.ownerGeneration = old.ownerGeneration + 1)
      (hnext : claim.generation = old.ownerGeneration + 1) (hof : ClaimOf claim old.binding)
      (hrows : claims.insert { claim, recordEventId } = some claims') :
      ClaimChange claims old new claims'
  | ended {row after : TurnClaimRow} {claims' : Table TurnClaimRow}
      (hold : old.activeClaimId = some row.claimId) (hnew : new.activeClaimId = none)
      (hgeneration : new.ownerGeneration = old.ownerGeneration)
      (hclaim : after.claim = row.claim) (hended : after.status ≠ .active)
      (hrows : claims.replace? row after = some claims') : ClaimChange claims old new claims'

/-- A turn moves on in the three tables. -/
structure TurnStep (s : Registry) (row : TurnRow) (new : ConversationTurn) (t : Registry) :
    Prop where
  binding : new.binding = row.turn.binding
  revision : new.revision = row.turn.revision + 1
  claims : ClaimChange s.claims row.turn new t.claims
  turns : ∃ recordEventId, s.turns.replace? row ⟨new, recordEventId⟩ = some t.turns
  conversations : ∃ before now recordEventId, before.conversationId = row.conversationId
    ∧ s.conversations.replace? before ⟨advanced before.conversation new now, recordEventId⟩
      = some t.conversations

/-- The three tables are the same. -/
structure SameTables (s t : Registry) : Prop where
  conversations : t.conversations = s.conversations
  turns : t.turns = s.turns
  claims : t.claims = s.claims

theorem SameTables.refl (s : Registry) : SameTables s s := ⟨rfl, rfl, rfl⟩

theorem TurnStep.of_same {s' t' : Registry} (h : TurnStep s row new t) (hs : SameTables s' s)
    (ht : SameTables t t') : TurnStep s' row new t' := by
  obtain ⟨hbinding, hrevision, hclaims, hturns, hconversations⟩ := h
  rw [hs.claims, ← ht.claims] at hclaims
  rw [hs.turns, ← ht.turns] at hturns
  rw [hs.conversations, ← ht.conversations] at hconversations
  exact ⟨hbinding, hrevision, hclaims, hturns, hconversations⟩

theorem ClaimStep.change (h : ClaimStep svc s old new t) :
    ClaimChange s.claims old new t.claims := by
  cases h with
  | kept hold hnew hgeneration => exact .kept hold hnew hgeneration
  | issued hold hnew hgeneration hnext hof hnoted hrows =>
      exact .issued hold hnew hgeneration hnext hof hrows
  | ended hold hnew hgeneration hrow hfits hended hnoted hrows =>
      refine .ended hold hnew hgeneration ?_ ?_ hrows
      · rfl
      · exact hended

theorem TurnMove.step (h : TurnMove svc s row new before now t) : TurnStep s row new t := by
  obtain ⟨s₁, event₁, s₂, event₂, hclaims, hturn, hconversation⟩ := h.steps
  obtain ⟨hturns, hconversations, -⟩ := hclaims.kept_tables
  have hchange := hclaims.change
  obtain ⟨turns, hturnRows, rfl⟩ := hturn.written
  obtain ⟨conversations, hrows, rfl⟩ := hconversation.written
  rw [hturns] at hturnRows
  have hstored : s₁.conversations.replace? before _ = some conversations := hrows
  rw [hconversations] at hstored
  exact ⟨h.binding, h.revision, hchange, ⟨_, hturnRows⟩, before, now, _,
    (Registry.conversation?_mem h.conversation).2, hstored⟩

/-- What a call has found of a turn that it moves on. -/
inductive TurnCause (svc : ConversationServices) (s : Registry) (old new : ConversationTurn) :
    Prop where
  | resumed {run : Run} (hrun : runOf svc s old.binding.runId = .ok run)
      (hpaused : isPaused run.status = true) (hold : old.status = .waiting)
      (hnew : new.status = .running)
  | settled {reads : ConversationReads} {run : Run}
      (hrun : runOf svc s old.binding.runId = .ok run)
      (hold : old.status = .running ∨ old.status = .recoveryRequired)
      (hnew : settledStatus svc reads s run = .ok new.status) (hfree : new.activeClaimId = none)
  | fenced (hnew : new.status = .recoveryRequired) (hfree : new.activeClaimId = none)

/-- A turn, its run and its claim are registered. -/
structure TurnRegistered (svc : ConversationServices) (s : Registry) (before : ConversationRow)
    (turn : ConversationTurn) (t : Registry) : Prop where
  stored : before ∈ s.conversations
  idle : before.conversation.activeTurnId = none
  built : ∃ submission run configHash limits turnId claimId now,
    turn = newTurn (newBinding svc before.conversation submission run configHash limits turnId now)
        submission run claimId now
      ∧ s.turnByKey? before.conversationId submission.submissionKey = none
      ∧ ∃ recordEventId, s.claims.insert {
          claim := newClaim turn.binding claimId 1 now, recordEventId } = some t.claims
  turns : ∃ recordEventId, s.turns.insert ⟨turn, recordEventId⟩ = some t.turns
  conversations : ∃ now recordEventId, s.conversations.replace? before
    ⟨extended before.conversation turn.binding.turnId now, recordEventId⟩ = some t.conversations

/-- What one input does to the three tables. -/
inductive RegistryStep (svc : ConversationServices) (s t : Registry) : Prop where
  | same (h : SameTables s t)
  | created {row : ConversationRow} (hrows : s.conversations.insert row = some t.conversations)
      (hturns : t.turns = s.turns) (hclaims : t.claims = s.claims)
      (hbuilt : ∃ conversationId projectId identity now,
        row.conversation = newConversation conversationId projectId identity now)
  | registered {before : ConversationRow} {turn : ConversationTurn}
      (h : TurnRegistered svc s before turn t)
  | moved {row : TurnRow} {new : ConversationTurn} (hcause : TurnCause svc s row.turn new)
      (h : TurnStep s row new t)

/-! ### Every input is a step -/

theorem Registers.step {submission : ConversationSubmission} {configHash : Sha256}
    {limits : RunBudgetLimits} {registration : ConversationRegistration}
    (h : Registers svc amb s submission root configHash limits registration t before) :
    TurnRegistered svc s before registration.turn t ∧ Beside svc s t := by
  obtain ⟨hmem, hid⟩ := Registry.conversation?_mem h.stored
  obtain ⟨claim, hclaim, hwritten⟩ := h.written
  obtain ⟨s₁, event₂, claims, s₃, event₃, turns, event₄, hrun, -, hclaims, -, hturns, rfl, hwrite⟩ :=
    hwritten.steps
  obtain ⟨d, hd, rfl⟩ := onDatabase_ok.mp hrun
  have hbuilt := h.built
  subst hbuilt
  obtain rfl := Option.some.inj hclaim
  obtain ⟨conversations, hrows, rfl⟩ := hwrite.written
  constructor
  · refine ⟨hmem, h.idle, ⟨submission, root, configHash, limits, _, _, _, rfl, ?_, _, hclaims⟩,
      ⟨_, hturns⟩, _, _, hrows⟩
    rw [hid]
    exact h.newKey
  · obtain ⟨store, hstore, rfl⟩ := onStore_ok.mp hd
    obtain ⟨runs, hruns, hrecords⟩ := insertRun_ok hstore
    have heffect : Effect svc.toServices amb (.createRun root) s.database.store.records
        store.records := by
      rw [hrecords]
      exact .runCreated hruns
    exact ⟨.single (.store heffect rfl rfl), rfl⟩

theorem Fenced.step {runId : String} {claim : Option ConversationClaim} {run : Run}
    (h : Fenced svc amb s runId reason claim updated t row before run) :
    TurnStep s row updated t ∧ TurnCause svc s row.turn updated ∧ Beside svc s t := by
  obtain ⟨s₁, hended, hmoved⟩ := h.moved
  obtain ⟨hturns, hconversations, hclaims, -⟩ := hended.kept_tables
  have hbuilt := h.built
  subst hbuilt
  exact ⟨hmoved.step.of_same ⟨hconversations, hturns, hclaims⟩ (.refl t), .fenced rfl rfl,
    hended.beside.trans hmoved.beside⟩

theorem ReviewFence.step {current : RecoverySnapshot}
    (h : ReviewFence svc amb s current root row before t) :
    ∃ new, TurnStep s row new t ∧ new.status = .recoveryRequired ∧ new.activeClaimId = none
      ∧ Beside svc s t := by
  cases h with
  | active hfenced =>
      obtain ⟨hstep, -, hbeside⟩ := hfenced.step
      have hbuilt := hfenced.built
      subst hbuilt
      exact ⟨_, hstep, rfl, rfl, hbeside⟩
  | settled hturn _ hread hinactive _ hmoved =>
      obtain ⟨found, hfound, -, -, hfits, -⟩ := turnOf_ok.mp hread.turn
      rw [hread.found] at hfound
      cases hfound
      have hvalid := hfits.valid
      rw [hturn] at hvalid
      have hfree : current.turn.activeClaimId = none := not_claimed_of_inactive hvalid hinactive
      exact ⟨_, hmoved.step, rfl, hfree, hmoved.beside⟩

theorem Prepared.step {original : RecoverySnapshot}
    (h : Prepared svc reads amb s original plan t root row before) :
    ∃ new, TurnStep s row new t ∧ new.status = .recoveryRequired ∧ new.activeClaimId = none
      ∧ Beside svc s t := by
  obtain ⟨s₁, s₂, event, hfence, hcancel, -, -, -, -, -, rfl⟩ := h.steps
  obtain ⟨new, hstep, hstatus, hfree, hbeside⟩ := hfence.step
  obtain ⟨hturns, hconversations, hclaims, -⟩ := cancelGraphs_tables hcancel
  refine ⟨new, hstep.of_same (.refl s) ⟨hconversations, hturns, hclaims⟩, hstatus, hfree, ?_⟩
  exact (hbeside.trans (cancelGraphs_beside hcancel)).trans (.of_events rfl rfl rfl rfl)

theorem SettledUpdate.cause {turn : ConversationTurn} {summary : Option ConversationSummary}
    {refs : List ConversationArtifactRef} {run : Run} {status : ConversationTurnStatus}
    (h : SettledUpdate svc reads s turn summary refs now updated run status)
    (hold : turn.status = .running ∨ turn.status = .recoveryRequired) :
    TurnCause svc s turn updated := by
  have hbuilt := h.built
  subst hbuilt
  exact .settled h.ran hold h.found rfl

theorem LeaseRecorded.same {claimId : String} {before after : ResourceLease} {finished : Bool}
    (h : LeaseRecorded svc amb s plan claimId before after finished t root) : SameTables s t := by
  obtain ⟨leases, run, notes, -, -, rfl⟩ := h.written
  exact ⟨rfl, rfl, rfl⟩

theorem updateLeaseStatus_step {leaseId : String} {status : LeaseStatus}
    (h : updateLeaseStatus svc amb leaseId status s = .ok (v, t)) :
    SameTables s t ∧ s.DatabaseMoved svc t := by
  unfold updateLeaseStatus at h
  rw [get_bind_ok, expect_bind_ok] at h
  obtain ⟨current, -, h⟩ := h
  split_ifs at h with hsame
  · obtain ⟨-, rfl⟩ := pure_ok.mp h
    exact ⟨.refl s, .refl⟩
  · rw [refuseIf_bind_ok] at h
    obtain ⟨-, h⟩ := h
    obtain ⟨_, s₁, hreplace, h⟩ := Transaction.bind_ok.mp h
    obtain ⟨leases, -, rfl⟩ := replaceLease_ok hreplace
    obtain ⟨run, s₂, hrun, h⟩ := Transaction.bind_ok.mp h
    obtain ⟨d, hd, rfl⟩ := onDatabase_ok.mp hrun
    obtain ⟨store, hstore, rfl⟩ := onStore_ok.mp hd
    obtain ⟨-, rfl⟩ := getRun_ok.mp hstore
    obtain ⟨notes, hnotes⟩ := writeLeaseEvents_ok (fun _ => leaseEventTypes_other) h
    rw [hnotes.database]
    exact ⟨⟨rfl, rfl, rfl⟩, .of_events rfl rfl rfl⟩

/-- The call writes the row of a lease. -/
def ConversationOp.writesLease : ConversationOp → Bool
  | .claimRecoveryLease _ _ | .finishRecoveryLease _ _ => true
  | _ => false

/-- What a call of the store does to the tables, and how it moves the database; only the calls about
leases write a shared table. -/
theorem conversationBody_step {op : ConversationOp}
    (h : conversationBody svc reads amb op s = .ok (result, t)) :
    RegistryStep svc s t ∧ s.DatabaseMoved svc t
      ∧ (op.writesLease = false → t.shared = s.shared) := by
  have hread : s = t → RegistryStep svc s t ∧ s.DatabaseMoved svc t
      ∧ (op.writesLease = false → t.shared = s.shared) := by
    rintro rfl
    exact ⟨.same (.refl s), .refl, fun _ => rfl⟩
  have hwrite : RegistryStep svc s t → Beside svc s t → RegistryStep svc s t
      ∧ s.DatabaseMoved svc t ∧ (op.writesLease = false → t.shared = s.shared) := by
    intro hstep hbeside
    exact ⟨hstep, hbeside.moved, fun _ => hbeside.shared⟩
  cases op with
  | create =>
      obtain ⟨value, h, -⟩ := Transaction.map_ok.mp h
      obtain ⟨event, hcreated⟩ := create_ok h
      obtain ⟨conversations, hrows, rfl⟩ := hcreated.written
      obtain ⟨project, -, rfl⟩ := hcreated.project
      exact hwrite (.created hrows rfl rfl ⟨_, _, _, _, rfl⟩) (.of_events rfl rfl rfl rfl)
  | get projectId conversationId | getTurn projectId turnId
  | getSubmission projectId conversationId submissionKey | bindingForRun runId =>
      obtain ⟨_, h, -⟩ := Transaction.map_ok.mp h
      exact hread (reading_ok.mp h).2
  | registerTurnRun =>
      obtain ⟨registration, h, -⟩ := Transaction.map_ok.mp h
      rcases registerTurnRun_ok h with ⟨rfl, -⟩ | ⟨before, hregisters⟩
      · exact hread rfl
      · exact hwrite (.registered hregisters.step.1) hregisters.step.2
  | assertClaim =>
      obtain ⟨_, h, -⟩ := Transaction.map_ok.mp h
      exact hread (reading_ok.mp h).2
  | claimResume =>
      obtain ⟨claim, h, -⟩ := Transaction.map_ok.mp h
      obtain ⟨row, before, run, hresumed, -⟩ := claimResume_ok h
      have hran := hresumed.ran
      rw [← hresumed.about] at hran
      exact hwrite (.moved (.resumed hran hresumed.paused hresumed.waiting rfl)
        hresumed.moved.step) hresumed.moved.beside
  | settle =>
      obtain ⟨updated, h, -⟩ := Transaction.map_ok.mp h
      obtain ⟨row, before, hsettled⟩ := settle_ok h
      obtain ⟨run, status, hupdate⟩ := hsettled.settled
      exact hwrite (.moved (hupdate.cause (.inl hsettled.owned.running)) hsettled.moved.step)
        hsettled.moved.beside
  | fence =>
      obtain ⟨updated, h, -⟩ := Transaction.map_ok.mp h
      obtain ⟨row, before, run, hfenced, -⟩ := fence_ok h
      obtain ⟨hstep, hcause, hbeside⟩ := hfenced.step
      exact hwrite (.moved hcause hstep) hbeside
  | reconcileFenced =>
      obtain ⟨updated, h, -⟩ := Transaction.map_ok.mp h
      obtain ⟨row, before, hreconciled, -⟩ := reconcileFenced_ok h
      obtain ⟨run, status, -, hupdate⟩ := hreconciled.settled
      exact hwrite (.moved (hupdate.cause (.inr hreconciled.fenced)) hreconciled.moved.step)
        hreconciled.moved.beside
  | captureRecovery =>
      obtain ⟨_, h, -⟩ := Transaction.map_ok.mp h
      exact hread (reading_ok.mp h).2
  | prepareReviewedRecovery =>
      obtain ⟨plan, h, -⟩ := Transaction.map_ok.mp h
      obtain ⟨root, row, before, hprepared⟩ := prepareReviewedRecovery_ok h
      obtain ⟨new, hstep, hstatus, hfree, hbeside⟩ := hprepared.step
      exact hwrite (.moved (.fenced hstatus hfree) hstep) hbeside
  | claimRecoveryLease =>
      obtain ⟨claim, h, -⟩ := Transaction.map_ok.mp h
      obtain ⟨current, progress, before, root, hclaimed⟩ := claimRecoveryLease_ok h
      exact ⟨.same hclaimed.recorded.same, hclaimed.recorded.moved, fun hnot => by cases hnot⟩
  | finishRecoveryLease =>
      obtain ⟨_, h, -⟩ := Transaction.map_ok.mp h
      obtain ⟨current, progress, root, hfinished⟩ := finishRecoveryLease_ok h
      exact ⟨.same hfinished.recorded.same, hfinished.recorded.moved, fun hnot => by cases hnot⟩
  | reconcileReviewedRecovery =>
      obtain ⟨run, h, -⟩ := Transaction.map_ok.mp h
      obtain ⟨current, progress, row, before, updated, hreconciled⟩ := reconcileReviewedRecovery_ok h
      obtain ⟨other, status, hupdate⟩ := hreconciled.settled
      have hfenced : row.turn.status = .recoveryRequired := by
        rw [hreconciled.turn]
        exact hreconciled.stands.fenced
      exact hwrite (.moved (hupdate.cause (.inr hfenced)) hreconciled.moved.step)
        hreconciled.moved.beside

/-- What an input does to the tables, and how it moves the database. -/
theorem registryBody_step {op : RegistryOp}
    (h : registryBody svc reads amb op s = .ok (result, t)) :
    RegistryStep svc s t ∧ s.DatabaseMoved svc t := by
  cases op with
  | conversation =>
      obtain ⟨hstep, hmoved, -⟩ := conversationBody_step (withinBoundary_ok.mp h)
      exact ⟨hstep, hmoved⟩
  | updateLeaseStatus =>
      obtain ⟨_, h, -⟩ := Transaction.map_ok.mp h
      obtain ⟨hsame, hmoved⟩ := updateLeaseStatus_step h
      exact ⟨.same hsame, hmoved⟩
  | database =>
      obtain ⟨_, h, -⟩ := Transaction.map_ok.mp h
      obtain ⟨d, hd, rfl⟩ := onDatabase_ok.mp h
      exact ⟨.same ⟨rfl, rfl, rfl⟩, databaseBody_moves hd⟩
  | elsewhere =>
      obtain ⟨_, h, -⟩ := Transaction.map_ok.mp h
      obtain rfl := modify_ok.mp h
      exact ⟨.same ⟨rfl, rfl, rfl⟩, .of_eq rfl⟩

/-- Every input is a step, and moves the database by its own transactions. -/
theorem registryMachine_step (svc : ConversationServices) (s : Registry) (input : RegistryInput) :
    RegistryStep svc s ((registryMachine svc).next s input)
      ∧ s.DatabaseMoved svc ((registryMachine svc).next s input) := by
  rcases next_cases svc s input with ⟨result, hok, -⟩ | ⟨e, -, -, hsame⟩
  · exact registryBody_step hok
  · rw [hsame]
    exact ⟨.same (.refl s), .refl⟩

end AgentFleet.Conversations
