import AgentFleet.Budget.Accounting
import AgentFleet.Persistence.Evolution

/-! # What the transactions of the ledger do

For each transaction one lemma `…_ok` about its committed runs: what it left in the ledger, with
the facts that its guards established.  The agents and the other records of the state store
stay as they are.

* `Ledger.Binds` is what `_owner` finds: the owner and the limits of a run.
* `Began`, `Reserved`, `SettledRequest`, `Batched` and `Simulated` are the writes. -/

namespace AgentFleet

open Relational Transaction

variable {svc : BudgetServices} {reads : BudgetReads} {amb : Ambient} {s t : BudgetState}

/-! ### What the reads establish -/

variable {l : Ledger} {u : Unit} {runId ownerRunId selectedId : String} {agent : AgentInstance}
  {attempt : RuntimeAttempt} {now : Timestamp} {limits limits' : RunBudgetLimits}
  {reservation : ModelRequestReservation} {item : ModelRequestAccounting}
  {parentRunId : Option String}

@[simp] theorem getLedger_ok : getLedger s = .ok (l, t) ↔ s.ledger = l ∧ s = t := by
  simp [getLedger, and_comm]

@[simp] theorem setLedger_ok : setLedger l s = .ok (u, t) ↔ { s with ledger := l } = t := by
  simp [setLedger]

/-- A body leaves the ledger and the agents alone: it only reads, or adds an event. -/
theorem budgetEvent_ok {k : ℕ} {run : Run} {eventType : String} {payload : JsonObject}
    (h : budgetEvent svc amb k run eventType payload s = .ok (u, t)) :
    t.ledger = s.ledger ∧ t.store.records = s.store.records := by
  simp only [budgetEvent, modify_ok] at h
  subst h
  exact ⟨rfl, rfl⟩

theorem budgetRun_ok {run : Run} (h : budgetRun runId s = .ok (run, t)) :
    s = t ∧ run.runId = runId := by
  simp only [budgetRun, budgetRecords, bind_ok, get_ok, pure_ok, expect_ok, refuseIf_ok] at h
  obtain ⟨r, _, ⟨_, _, ⟨rfl, rfl⟩, rfl, rfl⟩, row, _, ⟨hrow, rfl⟩, _, _, ⟨-, rfl⟩, rfl, rfl⟩ := h
  exact ⟨rfl, (Records.runRow?_mem hrow).2⟩

/-- The agent of a row that carries the agent's own run. -/
theorem budgetAgent_ok {agentInstanceId : String}
    (h : budgetAgent agentInstanceId s = .ok (agent, t)) :
    s = t ∧ ∃ row ∈ s.store.records.agentInstances,
      row.agent.agentInstanceId = agentInstanceId ∧ row.runId = agent.runId := by
  simp only [budgetAgent, budgetRecords, bind_ok, get_ok, pure_ok, expect_ok, refuseIf_ok,
    not_not] at h
  obtain ⟨r, _, ⟨_, _, ⟨rfl, rfl⟩, rfl, rfl⟩, row, _, ⟨hrow, rfl⟩, _, _, ⟨hrun, rfl⟩, rfl,
    rfl⟩ := h
  obtain ⟨hmem, hid⟩ := Records.agentRow?_mem hrow
  exact ⟨rfl, row, hmem, hid, hrun.symm⟩

theorem budgetTask_ok {taskId : String} {task : TaskSpec}
    (h : budgetTask taskId s = .ok (task, t)) : s = t := by
  simp only [budgetTask, budgetRecords, bind_ok, get_ok, pure_ok, expect_ok] at h
  obtain ⟨r, _, ⟨_, _, ⟨rfl, rfl⟩, rfl, rfl⟩, -, rfl⟩ := h
  rfl

/-- The ledger binds a run to the limits of an owner. -/
def Ledger.Binds (l : Ledger) (runId ownerRunId : String) (limits : RunBudgetLimits) : Prop :=
  ∃ row ∈ l.runs, row.runId = runId ∧ row.ownerRunId = ownerRunId
    ∧ ∃ owner ∈ l.owners, owner.ownerRunId = ownerRunId ∧ owner.limits = limits

theorem ownerOf_ok {owner : Option (String × RunBudgetLimits)}
    (h : ownerOf reads runId s = .ok (owner, t)) :
    s = t ∧ ∀ p ∈ owner, s.ledger.Binds runId p.1 p.2 := by
  simp only [ownerOf, bind_ok, getLedger_ok] at h
  obtain ⟨l, _, ⟨rfl, rfl⟩, h⟩ := h
  cases hrow : s.ledger.run? runId with
  | none =>
      simp only [hrow, pure_ok] at h
      obtain ⟨rfl, rfl⟩ := h
      simp
  | some row =>
      simp only [hrow, bind_ok, expect_ok, refuseIf_ok, pure_ok] at h
      obtain ⟨found, _, ⟨hfound, rfl⟩, run, _, hrun, ownerRun, _, hownerRun, _, _, ⟨-, rfl⟩, rfl,
        rfl⟩ := h
      obtain ⟨rfl, -⟩ := budgetRun_ok hrun
      obtain ⟨rfl, -⟩ := budgetRun_ok hownerRun
      refine ⟨rfl, ?_⟩
      rintro p hp
      cases hp
      obtain ⟨hmem, hid⟩ := Ledger.run?_mem hrow
      obtain ⟨howner, hownerId⟩ := Ledger.owner?_mem hfound
      exact ⟨row, hmem, hid, rfl, found, howner, hownerId, rfl⟩

theorem checkAttempt_ok (h : checkAttempt reads attempt s = .ok (u, t)) :
    s = t ∧ ∃ limits, s.ledger.Binds attempt.runId attempt.ownerRunId limits := by
  simp only [checkAttempt, bind_ok, refuseIf_ok, not_not] at h
  obtain ⟨owner, _, howner, _, _, ⟨hown, rfl⟩, run, _, hrun, -, rfl⟩ := h
  obtain ⟨rfl, hbinds⟩ := ownerOf_ok howner
  obtain ⟨rfl, -⟩ := budgetRun_ok hrun
  obtain ⟨p, rfl, hp⟩ := Option.map_eq_some_iff.mp hown
  exact ⟨rfl, p.2, hp ▸ hbinds p rfl⟩

theorem attemptById_ok {attemptId : String} (h : attemptById reads attemptId s = .ok (attempt, t)) :
    s = t ∧ s.ledger.attempt? attemptId = some attempt
      ∧ ∃ limits, s.ledger.Binds attempt.runId attempt.ownerRunId limits := by
  simp only [attemptById, bind_ok, getLedger_ok, expect_ok, pure_ok] at h
  obtain ⟨l, _, ⟨rfl, rfl⟩, found, _, ⟨hfound, rfl⟩, _, _, hcheck, rfl, rfl⟩ := h
  obtain ⟨rfl, hbinds⟩ := checkAttempt_ok hcheck
  exact ⟨rfl, hfound, hbinds⟩

theorem attemptsOfOwner_ok {attempts : List RuntimeAttempt}
    (h : attemptsOfOwner reads ownerRunId s = .ok (attempts, t)) :
    s = t ∧ attempts = s.ledger.attemptsOf ownerRunId := by
  simp only [attemptsOfOwner, bind_ok, getLedger_ok, refuseIf_ok, pure_ok] at h
  obtain ⟨l, _, ⟨rfl, rfl⟩, _, _, ⟨-, rfl⟩, _, _, hcheck, rfl, rfl⟩ := h
  have hread : ReadOnly ((s.ledger.attemptsOf ownerRunId).forM (checkAttempt reads)) :=
    .forM (fun attempt _ _ _ h => (checkAttempt_ok h).1.symm) _
  exact ⟨(hread _ _ _ hcheck).symm, rfl⟩

theorem activeAttempt_ok {attemptId : String}
    (h : activeAttempt reads attemptId s = .ok (attempt, t)) :
    s = t ∧ s.ledger.attempt? attemptId = some attempt ∧ attempt.status = .running
      ∧ ∃ limits, s.ledger.Binds attempt.runId attempt.ownerRunId limits := by
  simp only [activeAttempt, bind_ok, refuseIf_ok, not_or, not_not] at h
  obtain ⟨found, _, hfound, run, _, hrun, _, _, ⟨⟨hrunning, -⟩, rfl⟩, agent, _, hagent, _, _,
    ⟨-, rfl⟩, h⟩ := h
  obtain ⟨rfl, hattempt, hbinds⟩ := attemptById_ok hfound
  obtain ⟨rfl, -⟩ := budgetRun_ok hrun
  obtain ⟨rfl, -⟩ := budgetAgent_ok hagent
  split_ifs at h
  · simp only [bind_ok, refuseIf_ok, pure_ok] at h
    obtain ⟨task, _, htask, _, _, ⟨-, rfl⟩, rfl, rfl⟩ := h
    obtain rfl := budgetTask_ok htask
    exact ⟨rfl, hattempt, hrunning, hbinds⟩
  · simp only [pure_ok] at h
    obtain ⟨rfl, rfl⟩ := h
    exact ⟨rfl, hattempt, hrunning, hbinds⟩

theorem campaignAdmission_ok (h : campaignAdmission reads runId s = .ok (u, t)) : s = t := by
  unfold campaignAdmission at h
  cases hrefusal : reads.campaignRefusal runId with
  | none =>
      simp only [hrefusal, pure_ok] at h
      exact h.2
  | some => simp [hrefusal] at h

theorem campaignRefusal_of_ok (h : campaignAdmission reads runId s = .ok (u, t)) :
    reads.campaignRefusal runId = none := by
  unfold campaignAdmission at h
  cases hrefusal : reads.campaignRefusal runId with
  | none => rfl
  | some => simp [hrefusal] at h

/-- A snapshot with limits is built of the rows of the owner that the ledger binds the run
to. -/
theorem snapshotOf_ok {snapshot : RunBudgetSnapshot}
    (h : snapshotOf svc reads now runId s = .ok (snapshot, t)) :
    s = t ∧ ∀ limits ∈ snapshot.limits, ∃ ownerRunId, s.ledger.Binds runId ownerRunId limits
      ∧ snapshot = buildSnapshot svc now s.ledger runId ownerRunId limits := by
  simp only [snapshotOf, bind_ok] at h
  obtain ⟨owner, _, howner, h⟩ := h
  obtain ⟨rfl, hbinds⟩ := ownerOf_ok howner
  cases owner with
  | none =>
      simp only [pure_ok] at h
      obtain ⟨rfl, rfl⟩ := h
      exact ⟨rfl, fun limits hl => by cases hl⟩
  | some p =>
      obtain ⟨ownerRunId, limits⟩ := p
      simp only [bind_ok, getLedger_ok, refuseIf_ok, pure_ok] at h
      obtain ⟨attempts, _, hattempts, l, _, ⟨rfl, rfl⟩, _, _, ⟨-, rfl⟩, _, _, ⟨-, rfl⟩, rfl,
        rfl⟩ := h
      obtain ⟨rfl, -⟩ := attemptsOfOwner_ok hattempts
      refine ⟨rfl, fun limits' hl => ?_⟩
      obtain rfl : limits = limits' := Option.some.inj hl
      exact ⟨ownerRunId, hbinds _ rfl, rfl⟩

theorem operational_ok {snapshot : RunBudgetSnapshot}
    (h : operational snapshot s = .ok (limits, t)) :
    s = t ∧ snapshot.limits = some limits ∧ snapshot.completeness = "complete" := by
  simp only [operational, bind_ok, expect_ok, refuseIf_ok, pure_ok, not_not] at h
  obtain ⟨_, _, ⟨hlimits, rfl⟩, _, _, ⟨hcomplete, rfl⟩, _, _, ⟨-, rfl⟩, rfl, rfl⟩ := h
  exact ⟨rfl, hlimits, hcomplete⟩

/-- No request of the owner is of unknown outcome. -/
def Ledger.Complete (l : Ledger) (ownerRunId : String) : Prop :=
  ∀ item ∈ l.requestsOf ownerRunId, item.outcome ≠ .unknown

/-- A snapshot that calls itself complete is. -/
theorem complete_of_snapshot
    (h : (buildSnapshot svc now l runId ownerRunId limits).completeness = "complete") :
    l.Complete ownerRunId := by
  intro item hitem hunknown
  have hmem : item ∈ (l.requestsOf ownerRunId).filter fun item => item.outcome = .unknown :=
    List.mem_filter.mpr ⟨hitem, decide_eq_true hunknown⟩
  unfold buildSnapshot at h
  dsimp only at h
  rw [if_neg (List.ne_nil_of_mem hmem)] at h
  exact absurd h (by decide)

theorem requestOf_ok {attemptId : String} (h : requestOf attemptId reservation s = .ok (item, t)) :
    s = t ∧ item ∈ s.ledger.modelRequests ∧ item.reservation = reservation
      ∧ reservation.attemptId = attemptId := by
  simp only [requestOf, bind_ok, refuseIf_ok, getLedger_ok, expect_ok, pure_ok, not_not] at h
  obtain ⟨_, _, ⟨hid, rfl⟩, l, _, ⟨rfl, rfl⟩, found, _, ⟨hfound, rfl⟩, _, _, ⟨hsame, rfl⟩, rfl,
    rfl⟩ := h
  exact ⟨rfl, (Ledger.request?_mem hfound).1, hsame, hid⟩

/-- A run is bound to one owner with one limit record. -/
theorem Ledger.Binds.unique {o o' : String} (h : l.Binds runId o limits)
    (h' : l.Binds runId o' limits') : o = o' ∧ limits = limits' := by
  obtain ⟨row, hrow, hid, rfl, owner, howner, hown, rfl⟩ := h
  obtain ⟨row', hrow', hid', rfl, owner', howner', hown', rfl⟩ := h'
  obtain rfl : row = row' := Table.eq_of_clash hrow hrow' (hid.trans hid'.symm)
  obtain rfl : owner = owner' := Table.eq_of_clash howner howner' (hown.trans hown'.symm)
  exact ⟨rfl, rfl⟩

/-! ### What the transactions do -/

/-- The tokens that an owner's requests hold of the limit. -/
def Ledger.tokensOf (l : Ledger) (ownerRunId : String) : ℕ :=
  ((l.requestsOf ownerRunId).map ModelRequestAccounting.reportedTokens).sum
    + ((l.requestsOf ownerRunId).map ModelRequestAccounting.reservedTokens).sum
    + ((l.requestsOf ownerRunId).map ModelRequestAccounting.unknownTokens).sum

/-- A run is bound to an owner: to a new one with its own limits, or to one that is known. -/
structure Initialized (l : Ledger) (row : BudgetRun) (l' : Ledger) : Prop where
  written : ∃ owners runs, l' = { l with owners, runs } ∧ l.runs.insert row = some runs
    ∧ ((∃ owner, owner.ownerRunId = row.ownerRunId ∧ l.owners.insert owner = some owners)
      ∨ (owners = l.owners ∧ ∃ owner ∈ l.owners, owner.ownerRunId = row.ownerRunId))

/-- An attempt begins below the limits of its owner and of its agent. -/
structure Began (r : Records) (l : Ledger) (attempt : RuntimeAttempt) (l' : Ledger) : Prop where
  below : ∃ limits, l.Binds attempt.runId attempt.ownerRunId limits
    ∧ (l.attemptsOf attempt.ownerRunId).length < limits.maxAgentInvocations
  agent : ∃ row ∈ r.agentInstances,
    row.agent.agentInstanceId = attempt.agentInstanceId ∧ row.runId = attempt.runId
  alike : ∀ a ∈ l.attempts, a.ownerRunId = attempt.ownerRunId →
    a.agentInstanceId = attempt.agentInstanceId → a.maxSteps = attempt.maxSteps
  steps : l.stepsOf attempt.agentInstanceId < attempt.maxSteps
  complete : l.Complete attempt.ownerRunId
  inserted : ∃ attempts, l.attempts.insert attempt = some attempts ∧ l' = { l with attempts }

/-- A request is reserved below the limits of its owner and of its agent. -/
structure Reserved (l : Ledger) (item : ModelRequestAccounting) (l' : Ledger) : Prop where
  waiting : item.usage = none
  below : ∃ attempt limits, l.attempt? item.reservation.attemptId = some attempt
    ∧ l.stepsOf attempt.agentInstanceId < attempt.maxSteps
    ∧ l.Binds attempt.runId attempt.ownerRunId limits
    ∧ (l.requestsOf attempt.ownerRunId).length < limits.maxModelRequests
    ∧ l.tokensOf attempt.ownerRunId + item.charge ≤ limits.maxTotalTokens
  active : ∀ attempt, l.attempt? item.reservation.attemptId = some attempt →
    attempt.status = .running ∧ l.Complete attempt.ownerRunId
  inserted : ∃ modelRequests, l.modelRequests.insert item = some modelRequests
    ∧ l' = { l with modelRequests }

/-- A reserved request is settled; it holds no more than before if its usage is within its
allowance. -/
structure SettledRequest (l : Ledger) (updated : ModelRequestAccounting) (l' : Ledger) :
    Prop where
  item : ∃ item ∈ l.modelRequests, item.reservation = updated.reservation
    ∧ item.outcome = .reserved ∧ (updated.WithinAllowance → updated.charge ≤ item.charge)
  settled : updated.outcome ≠ .reserved
  written : l' = l.withRequest updated

/-- A batch of tool calls is reserved below the limit of its owner. -/
structure Batched (l : Ledger) (batch : ToolBatch) (l' : Ledger) : Prop where
  below : ∃ attempt limits, l.attempt? batch.attemptId = some attempt
    ∧ l.Binds attempt.runId attempt.ownerRunId limits
    ∧ l.toolCallsOf attempt.ownerRunId + batch.toolCalls ≤ limits.maxToolCalls
  complete : ∀ attempt, l.attempt? batch.attemptId = some attempt →
    l.Complete attempt.ownerRunId
  inserted : ∃ toolBatches, l.toolBatches.insert batch = some toolBatches
    ∧ l' = { l with toolBatches }

/-- A simulated step is recorded below the limit of its agent. -/
structure Simulated (l : Ledger) (step : SimulatedStep) (l' : Ledger) : Prop where
  below : ∃ attempt, l.attempt? step.attemptId = some attempt
    ∧ l.stepsOf attempt.agentInstanceId < attempt.maxSteps
  complete : ∀ attempt, l.attempt? step.attemptId = some attempt →
    l.Complete attempt.ownerRunId
  inserted : ∃ simulatedSteps, l.simulatedSteps.insert step = some simulatedSteps
    ∧ l' = { l with simulatedSteps }

theorem parentOwner_ok {parent : Option (String × RunBudgetLimits)}
    (h : parentOwner reads parentRunId s = .ok (parent, t)) :
    s = t ∧ ∀ p ∈ parent, ∃ parentId, s.ledger.Binds parentId p.1 p.2 := by
  cases parentRunId with
  | none =>
      simp only [parentOwner, pure_ok] at h
      obtain ⟨rfl, rfl⟩ := h
      simp
  | some parentId =>
      obtain ⟨hs, hbinds⟩ := ownerOf_ok h
      exact ⟨hs, fun p hp => ⟨parentId, hbinds p hp⟩⟩

theorem registerOwner_ok {run : Run} {parent : Option (String × RunBudgetLimits)}
    {owners : Table BudgetOwner}
    (h : registerOwner amb run ownerRunId limits parent s = .ok (owners, t)) :
    s = t ∧ match parent with
      | none => ∃ owner : BudgetOwner, owner.ownerRunId = ownerRunId
          ∧ s.ledger.owners.insert owner = some owners
      | some _ => owners = s.ledger.owners := by
  simp only [registerOwner, bind_ok, getLedger_ok] at h
  obtain ⟨l, _, ⟨rfl, rfl⟩, h⟩ := h
  cases parent with
  | none =>
      obtain ⟨howners, rfl⟩ := expect_ok.mp h
      exact ⟨rfl, _, rfl, howners⟩
  | some =>
      simp only [bind_ok, refuseIf_ok, pure_ok] at h
      obtain ⟨ownerRun, _, hownerRun, _, _, ⟨-, rfl⟩, rfl, rfl⟩ := h
      exact ⟨(budgetRun_ok hownerRun).1, rfl⟩

theorem initializeRun_ok {snapshot : RunBudgetSnapshot}
    (h : initializeRun svc reads amb runId limits parentRunId s = .ok (snapshot, t)) :
    t.store.records = s.store.records
      ∧ (t.ledger = s.ledger ∨ ∃ row, Initialized s.ledger row t.ledger) := by
  simp only [initializeRun, bind_ok, refuseIf_ok] at h
  obtain ⟨_, _, ⟨-, rfl⟩, run, _, hrun, _, _, ⟨-, rfl⟩, parent, _, hparent, _, _, ⟨-, rfl⟩,
    _, _, ⟨-, rfl⟩, existing, _, hexisting, h⟩ := h
  obtain ⟨rfl, -⟩ := budgetRun_ok hrun
  obtain ⟨rfl, hbound⟩ := parentOwner_ok hparent
  obtain ⟨rfl, -⟩ := ownerOf_ok hexisting
  cases existing with
  | some =>
      simp only [bind_ok, refuseIf_ok] at h
      obtain ⟨_, _, ⟨-, rfl⟩, hsnapshot⟩ := h
      obtain ⟨rfl, -⟩ := snapshotOf_ok hsnapshot
      exact ⟨rfl, .inl rfl⟩
  | none =>
      simp only [bind_ok, refuseIf_ok, getLedger_ok, expect_ok, setLedger_ok] at h
      obtain ⟨_, _, ⟨-, rfl⟩, owners, _, howners, l, _, ⟨rfl, rfl⟩, runs, _, ⟨hruns, rfl⟩, _, _,
        rfl, _, _, hevent, hsnapshot⟩ := h
      obtain ⟨rfl, howners⟩ := registerOwner_ok howners
      obtain ⟨hledger, hrecords⟩ := budgetEvent_ok hevent
      obtain ⟨rfl, -⟩ := snapshotOf_ok hsnapshot
      refine ⟨hrecords, .inr ⟨_, ⟨owners, runs, hledger, hruns, ?_⟩⟩⟩
      cases parent with
      | none => exact .inl howners
      | some p =>
          obtain ⟨parentId, row, -, -, -, owner, howner, hid, -⟩ := hbound p rfl
          exact .inr ⟨howners, owner, howner, hid⟩

theorem insertAttempt_ok (h : insertAttempt attempt s = .ok (u, t)) :
    ∃ attempts, s.ledger.attempts.insert attempt = some attempts
      ∧ t = { s with ledger := { s.ledger with attempts } } := by
  simp only [insertAttempt, bind_ok, getLedger_ok, refuseIf_ok, expect_ok, setLedger_ok] at h
  obtain ⟨l, _, ⟨rfl, rfl⟩, _, _, ⟨-, rfl⟩, attempts, _, ⟨hattempts, rfl⟩, rfl⟩ := h
  exact ⟨attempts, hattempts, rfl⟩

theorem insertRequest_ok (h : insertRequest item s = .ok (u, t)) :
    ∃ modelRequests, s.ledger.modelRequests.insert item = some modelRequests
      ∧ t = { s with ledger := { s.ledger with modelRequests } } := by
  simp only [insertRequest, bind_ok, getLedger_ok, expect_ok, setLedger_ok] at h
  obtain ⟨l, _, ⟨rfl, rfl⟩, modelRequests, _, ⟨hrequests, rfl⟩, rfl⟩ := h
  exact ⟨modelRequests, hrequests, rfl⟩

theorem checkTask_ok {request : AgentInvocation} {run : Run}
    (h : checkTask request run agent s = .ok (u, t)) : s = t := by
  unfold checkTask at h
  split_ifs at h
  · simp only [bind_ok, refuseIf_ok] at h
    obtain ⟨task, _, htask, -, rfl⟩ := h
    exact budgetTask_ok htask
  · exact (pure_ok.mp h).2

/-- Opening an attempt of a bound run by an agent of that run. -/
theorem openAttempt_ok {run : Run} {candidate : RuntimeAttempt}
    (hrun : run.runId = candidate.runId)
    (hbinds : s.ledger.Binds candidate.runId candidate.ownerRunId limits)
    (hagent : ∃ row ∈ s.store.records.agentInstances,
      row.agent.agentInstanceId = candidate.agentInstanceId ∧ row.runId = candidate.runId)
    (h : openAttempt svc reads amb run limits candidate s = .ok (selectedId, t)) :
    t.store.records = s.store.records ∧ Began s.store.records s.ledger candidate t.ledger := by
  simp only [openAttempt, bind_ok, getLedger_ok, refuseIf_ok, pure_ok] at h
  obtain ⟨l, _, ⟨rfl, rfl⟩, attempts, _, hattempts, _, _, ⟨hconflict, rfl⟩, snapshot, _,
    hsnapshot, limits', _, hoperational, _, _, ⟨hinvocations, rfl⟩, _, _, ⟨hsteps, rfl⟩, _, _,
    hinsert, _, _, hevent, -, rfl⟩ := h
  obtain ⟨rfl, rfl⟩ := attemptsOfOwner_ok hattempts
  obtain ⟨rfl, hlimits⟩ := snapshotOf_ok hsnapshot
  obtain ⟨rfl, hsome, hcomplete⟩ := operational_ok hoperational
  obtain ⟨attempts, hins, rfl⟩ := insertAttempt_ok hinsert
  obtain ⟨hledger, hrecords⟩ := budgetEvent_ok hevent
  obtain ⟨ownerRunId, hbound, rfl⟩ := hlimits _ hsome
  obtain ⟨rfl, rfl⟩ := hbinds.unique (hrun ▸ hbound)
  refine ⟨hrecords, ⟨_, hbinds, Nat.lt_of_not_ge hinvocations⟩, hagent, ?_,
    Nat.lt_of_not_ge hsteps, complete_of_snapshot hcomplete, attempts, hins, hledger⟩
  intro a ha howner hsame
  have hmem : a ∈ s.ledger.attemptsOf candidate.ownerRunId :=
    List.mem_filter.mpr ⟨ha, decide_eq_true howner⟩
  by_contra hne
  exact hconflict ⟨a, hmem, hsame, .inr (.inl hne)⟩

theorem beginAttempt_ok {request : AgentInvocation} {attemptId : Option String}
    (h : beginAttempt svc reads amb request attemptId s = .ok (selectedId, t)) :
    t.store.records = s.store.records
      ∧ ((t.ledger = s.ledger ∧ s.ledger.attempt? selectedId ≠ none)
        ∨ ∃ attempt, attempt.runId = request.runId
          ∧ Began s.store.records s.ledger attempt t.ledger) := by
  simp only [beginAttempt, bind_ok, refuseIf_ok, expect_ok, getLedger_ok] at h
  obtain ⟨_, _, ⟨-, rfl⟩, run, _, hrun, owner, _, howner, ⟨ownerRunId, limits⟩, _,
    ⟨rfl, rfl⟩, _, _, hcampaign, agent, _, hagent, _, _, ⟨hguard, rfl⟩, _, _, htask,
    runtimeName, _, ⟨hruntime, rfl⟩, _, _, ⟨-, rfl⟩, l, _, ⟨rfl, rfl⟩, h⟩ := h
  obtain ⟨rfl, hid⟩ := budgetRun_ok hrun
  obtain ⟨rfl, hbinds⟩ := ownerOf_ok howner
  obtain rfl := campaignAdmission_ok hcampaign
  obtain ⟨rfl, row, hrow, hagentId, hagentRun⟩ := budgetAgent_ok hagent
  obtain rfl := checkTask_ok htask
  generalize hfound : s.ledger.attempt? _ = found at h
  cases found with
  | some =>
      simp only [bind_ok, refuseIf_ok, pure_ok] at h
      obtain ⟨existing, _, hexisting, _, _, ⟨-, rfl⟩, rfl, rfl⟩ := h
      obtain ⟨rfl, -⟩ := activeAttempt_ok hexisting
      refine ⟨rfl, .inl ⟨rfl, ?_⟩⟩
      rw [hfound]
      exact Option.some_ne_none _
  | none =>
      simp only [not_or, not_not] at hguard
      have hbound : s.ledger.Binds request.runId ownerRunId limits := hid ▸ hbinds _ rfl
      obtain ⟨hrecords, hbegan⟩ := openAttempt_ok hid hbound
        ⟨row, hrow, hagentId, hagentRun.trans hguard.2.2.2.1⟩ h
      exact ⟨hrecords, .inr ⟨_, rfl, hbegan⟩⟩

/-- The guards of a snapshot with limits, on the rows of a bound owner. -/
theorem operational_binds {snapshot : RunBudgetSnapshot} {s₁ : BudgetState}
    (hbinds : s.ledger.Binds runId ownerRunId limits)
    (hsnapshot : snapshotOf svc reads now runId s = .ok (snapshot, s₁))
    (hoperational : operational snapshot s₁ = .ok (limits', t)) :
    s = t ∧ limits' = limits
      ∧ snapshot = buildSnapshot svc now s.ledger runId ownerRunId limits
      ∧ s.ledger.Complete ownerRunId := by
  obtain ⟨rfl, hlimits⟩ := snapshotOf_ok hsnapshot
  obtain ⟨rfl, hsome, hcomplete⟩ := operational_ok hoperational
  obtain ⟨owner, hbound, hbuilt⟩ := hlimits _ hsome
  obtain ⟨rfl, rfl⟩ := hbinds.unique hbound
  rw [hbuilt] at hcomplete
  exact ⟨rfl, rfl, hbuilt, complete_of_snapshot hcomplete⟩

theorem reserveRequest_ok {attemptId : String} {requestSequence requestedTokens : ℤ}
    (h : reserveRequest svc reads amb attemptId requestSequence requestedTokens s
      = .ok (reservation, t)) :
    t.store.records = s.store.records ∧ ∃ item, item.reservation.attemptId = attemptId
      ∧ Reserved s.ledger item t.ledger := by
  simp only [reserveRequest, bind_ok, refuseIf_ok, getLedger_ok, pure_ok] at h
  obtain ⟨_, _, ⟨-, rfl⟩, _, _, ⟨-, rfl⟩, _, _, ⟨-, rfl⟩, attempt, _, hactive, _, _, hcampaign,
    l, _, ⟨rfl, rfl⟩, _, _, ⟨-, rfl⟩, snapshot, _, hsnapshot, limits, _, hoperational, _, _,
    ⟨hguard, rfl⟩, _, _, hinsert, run, _, hrun, _, _, hevent, rfl, rfl⟩ := h
  obtain ⟨rfl, hattempt, hrunning, limits', hbinds⟩ := activeAttempt_ok hactive
  obtain rfl := campaignAdmission_ok hcampaign
  obtain ⟨rfl, rfl, rfl, hcomplete⟩ := operational_binds hbinds hsnapshot hoperational
  obtain ⟨modelRequests, hins, rfl⟩ := insertRequest_ok hinsert
  obtain ⟨rfl, -⟩ := budgetRun_ok hrun
  obtain ⟨hledger, hrecords⟩ := budgetEvent_ok hevent
  simp only [not_or, not_le, ge_iff_le] at hguard
  obtain ⟨hallowance, hrequests, hsteps⟩ := hguard
  refine ⟨hrecords, _, rfl, rfl, ⟨attempt, _, hattempt, hsteps, hbinds, hrequests, ?_⟩,
    fun found hfound => ?_, modelRequests, hins, hledger⟩
  · -- the allowance is what the snapshot leaves of the limit, so the sum cannot pass it
    rw [ModelRequestAccounting.charge_reserved]
    simp only [buildSnapshot] at hallowance ⊢
    unfold Ledger.tokensOf
    omega
  · obtain rfl : attempt = found := Option.some.inj (hattempt.symm.trans hfound)
    exact ⟨hrunning, hcomplete⟩

theorem recordResponse_ok {attemptId : String} {usage : UsageRecord}
    {answer : RunBudgetSnapshot × Bool}
    (h : recordResponse svc reads amb attemptId reservation usage s = .ok (answer, t)) :
    t.store.records = s.store.records
      ∧ (t.ledger = s.ledger ∨ ∃ updated, SettledRequest s.ledger updated t.ledger) := by
  simp only [recordResponse, bind_ok, refuseIf_ok] at h
  obtain ⟨_, _, ⟨-, rfl⟩, attempt, _, hattempt, item, _, hitem, h⟩ := h
  obtain ⟨rfl, -⟩ := attemptById_ok hattempt
  obtain ⟨rfl, hmem, hreservation, -⟩ := requestOf_ok hitem
  by_cases houtcome : item.outcome ≠ .reserved
  · rw [if_pos houtcome] at h
    simp only [bind_ok, refuseIf_ok, pure_ok] at h
    obtain ⟨_, _, ⟨-, rfl⟩, snapshot, _, hsnapshot, -, rfl⟩ := h
    obtain ⟨rfl, -⟩ := snapshotOf_ok hsnapshot
    exact ⟨rfl, .inl rfl⟩
  · rw [if_neg houtcome] at h
    simp only [bind_ok, refuseIf_ok, getLedger_ok, setLedger_ok, pure_ok] at h
    obtain ⟨_, _, ⟨-, rfl⟩, l, _, ⟨rfl, rfl⟩, _, _, rfl, run, _, hrun, _, _, hevent, snapshot,
      _, hsnapshot, -, rfl⟩ := h
    obtain ⟨rfl, -⟩ := budgetRun_ok hrun
    obtain ⟨hledger, hrecords⟩ := budgetEvent_ok hevent
    obtain ⟨rfl, -⟩ := snapshotOf_ok hsnapshot
    have hreserved := not_not.mp houtcome
    have hheld := ModelRequestAccounting.allowance_le_charge hreserved
    rw [hreservation] at hheld
    refine ⟨hrecords, .inr ⟨_, ⟨item, hmem, hreservation, hreserved, fun hwithin => ?_⟩, ?_,
      hledger⟩⟩
    · exact Nat.le_trans (ModelRequestAccounting.charge_settled rfl hwithin) hheld
    · dsimp only
      split_ifs <;> decide

theorem recordUnknown_ok {attemptId : String}
    (h : recordUnknown svc reads amb attemptId reservation s = .ok (u, t)) :
    t.store.records = s.store.records
      ∧ (t.ledger = s.ledger ∨ ∃ updated, SettledRequest s.ledger updated t.ledger) := by
  simp only [recordUnknown, bind_ok, refuseIf_ok] at h
  obtain ⟨_, _, ⟨-, rfl⟩, attempt, _, hattempt, item, _, hitem, h⟩ := h
  obtain ⟨rfl, -⟩ := attemptById_ok hattempt
  obtain ⟨rfl, hmem, hreservation, -⟩ := requestOf_ok hitem
  split_ifs at h with houtcome
  · obtain ⟨-, rfl⟩ := pure_ok.mp h
    exact ⟨rfl, .inl rfl⟩
  · simp only [bind_ok, getLedger_ok, setLedger_ok] at h
    obtain ⟨l, _, ⟨rfl, rfl⟩, _, _, rfl, run, _, hrun, hevent⟩ := h
    obtain ⟨rfl, -⟩ := budgetRun_ok hrun
    obtain ⟨hledger, hrecords⟩ := budgetEvent_ok hevent
    have hreserved := not_not.mp houtcome
    have hheld := ModelRequestAccounting.allowance_le_charge hreserved
    rw [hreservation] at hheld
    refine ⟨hrecords, .inr ⟨_, ⟨item, hmem, hreservation, hreserved, fun hwithin => ?_⟩, ?_,
      hledger⟩⟩
    · exact Nat.le_trans (ModelRequestAccounting.charge_settled rfl hwithin) hheld
    · exact RequestOutcome.noConfusion

theorem reserveToolBatch_ok {attemptId : String} {batchSequence : ℤ} {callIds : List String}
    (h : reserveToolBatch svc reads amb attemptId batchSequence callIds s = .ok (u, t)) :
    t.store.records = s.store.records ∧ ∃ batch, batch.attemptId = attemptId
      ∧ Batched s.ledger batch t.ledger := by
  simp only [reserveToolBatch, bind_ok, refuseIf_ok, getLedger_ok, expect_ok,
    setLedger_ok] at h
  obtain ⟨_, _, ⟨-, rfl⟩, _, _, ⟨-, rfl⟩, attempt, _, hactive, _, _, hcampaign, l, _,
    ⟨rfl, rfl⟩, _, _, ⟨-, rfl⟩, snapshot, _, hsnapshot, limits, _, hoperational, _, _,
    ⟨hguard, rfl⟩, toolBatches, _, ⟨hins, rfl⟩, _, _, rfl, run, _, hrun, hevent⟩ := h
  obtain ⟨rfl, hattempt, -, limits', hbinds⟩ := activeAttempt_ok hactive
  obtain rfl := campaignAdmission_ok hcampaign
  obtain ⟨rfl, rfl, rfl, hcomplete⟩ := operational_binds hbinds hsnapshot hoperational
  obtain ⟨rfl, -⟩ := budgetRun_ok hrun
  obtain ⟨hledger, hrecords⟩ := budgetEvent_ok hevent
  simp only [not_or, not_lt, gt_iff_lt, buildSnapshot] at hguard
  refine ⟨hrecords, _, rfl, ⟨attempt, _, hattempt, hbinds, hguard.1⟩, fun found hfound => ?_,
    toolBatches, hins, hledger⟩
  obtain rfl : attempt = found := Option.some.inj (hattempt.symm.trans hfound)
  exact hcomplete

theorem recordSimulatedStep_ok {attemptId : String}
    (h : recordSimulatedStep svc reads amb attemptId s = .ok (u, t)) :
    t.store.records = s.store.records ∧ ∃ step, step.attemptId = attemptId
      ∧ Simulated s.ledger step t.ledger := by
  simp only [recordSimulatedStep, bind_ok, refuseIf_ok, getLedger_ok, expect_ok,
    setLedger_ok] at h
  obtain ⟨_, _, ⟨-, rfl⟩, attempt, _, hactive, _, _, ⟨-, rfl⟩, l, _, ⟨rfl, rfl⟩, _, _,
    ⟨-, rfl⟩, snapshot, _, hsnapshot, limits, _, hoperational, _, _, ⟨hsteps, rfl⟩,
    simulatedSteps, _, ⟨hins, rfl⟩, _, _, rfl, run, _, hrun, hevent⟩ := h
  obtain ⟨rfl, hattempt, -, limits', hbinds⟩ := activeAttempt_ok hactive
  obtain ⟨rfl, -, -, hcomplete⟩ := operational_binds hbinds hsnapshot hoperational
  obtain ⟨rfl, -⟩ := budgetRun_ok hrun
  obtain ⟨hledger, hrecords⟩ := budgetEvent_ok hevent
  refine ⟨hrecords, _, rfl, ⟨attempt, hattempt, Nat.lt_of_not_ge hsteps⟩,
    fun found hfound => ?_, simulatedSteps, hins, hledger⟩
  obtain rfl : attempt = found := Option.some.inj (hattempt.symm.trans hfound)
  exact hcomplete

theorem finishAttempt_ok {attemptId : String} {status : RuntimeAttemptStatus}
    {errorCode : Option ErrorCode} {snapshot : RunBudgetSnapshot}
    (h : finishAttempt svc reads amb attemptId status errorCode s = .ok (snapshot, t)) :
    t.store.records = s.store.records
      ∧ (t.ledger = s.ledger ∨ t.ledger = (s.ledger.abandoning attemptId).withFinished
        attemptId status (amb.clock 1) errorCode) := by
  simp only [finishAttempt, bind_ok, refuseIf_ok] at h
  obtain ⟨_, _, ⟨-, rfl⟩, attempt, _, hattempt, h⟩ := h
  obtain ⟨rfl, -⟩ := attemptById_ok hattempt
  split_ifs at h
  · simp only [bind_ok, refuseIf_ok] at h
    obtain ⟨_, _, ⟨-, rfl⟩, hsnapshot⟩ := h
    obtain ⟨rfl, -⟩ := snapshotOf_ok hsnapshot
    exact ⟨rfl, .inl rfl⟩
  · simp only [bind_ok, refuseIf_ok, getLedger_ok, setLedger_ok] at h
    obtain ⟨l, _, ⟨rfl, rfl⟩, _, _, ⟨-, rfl⟩, _, _, rfl, run, _, hrun, _, _, hevent,
      hsnapshot⟩ := h
    obtain ⟨rfl, -⟩ := budgetRun_ok hrun
    obtain ⟨hledger, hrecords⟩ := budgetEvent_ok hevent
    obtain ⟨rfl, -⟩ := snapshotOf_ok hsnapshot
    exact ⟨hrecords, .inr hledger⟩

end AgentFleet
