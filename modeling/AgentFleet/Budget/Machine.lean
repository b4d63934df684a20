import AgentFleet.Budget.Effects

/-! # The ledger as a machine

One input of `budgetMachine` is one transaction of the accounting or of the state store, with
arbitrary arguments and surroundings: a run of the machine is any interleaving of the attempts
of any number of runs with the workflow that moves those runs and their agents.

`LedgerEffect` lists what a step can do to the ledger, and `ledgerEffect_of_step` says that it
does nothing else. -/

namespace AgentFleet

open Relational Transaction Transition

/-- A transaction of the accounting with its arguments. -/
inductive BudgetOp where
  | initializeRun (runId : String) (limits : RunBudgetLimits) (parentRunId : Option String)
  | snapshot (runId : String)
  | beginAttempt (request : AgentInvocation) (attemptId : Option String)
  | reserveRequest (attemptId : String) (requestSequence requestedTokens : ℤ)
  | recordResponse (attemptId : String) (reservation : ModelRequestReservation)
      (usage : UsageRecord)
  | recordUnknown (attemptId : String) (reservation : ModelRequestReservation)
  | reserveToolBatch (attemptId : String) (batchSequence : ℤ) (callIds : List String)
  | recordSimulatedStep (attemptId : String)
  | finish (attemptId : String) (status : RuntimeAttemptStatus) (errorCode : Option ErrorCode)

/-- What a transaction of the accounting returns. -/
inductive BudgetResult where
  | snapshot (snapshot : RunBudgetSnapshot)
  | attempt (attemptId : String)
  | reservation (reservation : ModelRequestReservation)
  | response (answer : RunBudgetSnapshot × Bool)
  | done

variable (svc : BudgetServices) (reads : BudgetReads) (amb : Ambient)

/-- The body of a transaction. -/
def budgetBody : BudgetOp → BudgetTxn BudgetResult
  | .initializeRun runId limits parentRunId =>
      .snapshot <$> initializeRun svc reads amb runId limits parentRunId
  | .snapshot runId => .snapshot <$> snapshotOf svc reads (amb.clock 0) runId
  | .beginAttempt request attemptId =>
      .attempt <$> beginAttempt svc reads amb request attemptId
  | .reserveRequest attemptId requestSequence requestedTokens =>
      .reservation <$> reserveRequest svc reads amb attemptId requestSequence requestedTokens
  | .recordResponse attemptId reservation usage =>
      .response <$> recordResponse svc reads amb attemptId reservation usage
  | .recordUnknown attemptId reservation =>
      (fun _ => .done) <$> recordUnknown svc reads amb attemptId reservation
  | .reserveToolBatch attemptId batchSequence callIds =>
      (fun _ => .done) <$> reserveToolBatch svc reads amb attemptId batchSequence callIds
  | .recordSimulatedStep attemptId =>
      (fun _ => .done) <$> recordSimulatedStep svc reads amb attemptId
  | .finish attemptId status errorCode =>
      .snapshot <$> finishAttempt svc reads amb attemptId status errorCode

/-- What the caller sees of a committed transaction. -/
def answered : BudgetOp → BudgetResult → Except StoreError BudgetResult
  | .recordResponse _ _ usage, .response answer => .snapshot <$> continuation usage answer
  | _, result => .ok result

/-- One input: a transaction of the state store, or one of the accounting with what it reads
from its surroundings. -/
inductive BudgetInput where
  | store (input : StoreInput)
  | ledger (op : BudgetOp) (reads : BudgetReads) (amb : Ambient)

/-- The database under transactions. -/
def budgetMachine : Machine BudgetState BudgetInput (Option (Except StoreError BudgetResult)) where
  step s
    | .store input => ({ s with store := (storeMachine svc.toServices).next s.store input }, none)
    | .ledger op reads amb =>
        let r := commit (budgetBody svc reads amb op) s
        (r.2, some (r.1 >>= answered op))

/-! ### Effects -/

/-- What a committed transaction did to the ledger, beside the records `r`. -/
inductive LedgerEffect (r : Records) (l : Ledger) : Ledger → Prop where
  | unchanged : LedgerEffect r l l
  | initialized {l' : Ledger} {row : BudgetRun} (h : Initialized l row l') : LedgerEffect r l l'
  | began {l' : Ledger} {attempt : RuntimeAttempt} (h : Began r l attempt l') :
      LedgerEffect r l l'
  | reserved {l' : Ledger} {item : ModelRequestAccounting} (h : Reserved l item l') :
      LedgerEffect r l l'
  | settled {l' : Ledger} {updated : ModelRequestAccounting}
      (h : SettledRequest l updated l') : LedgerEffect r l l'
  | batched {l' : Ledger} {batch : ToolBatch} (h : Batched l batch l') : LedgerEffect r l l'
  | simulated {l' : Ledger} {step : SimulatedStep} (h : Simulated l step l') :
      LedgerEffect r l l'
  | finished (attemptId : String) (status : RuntimeAttemptStatus) (finishedAt : Timestamp)
      (errorCode : Option ErrorCode) :
      LedgerEffect r l
        ((l.abandoning attemptId).withFinished attemptId status finishedAt errorCode)

variable {svc reads amb}

variable {op : BudgetOp} {s t : BudgetState} {result : BudgetResult}

/-- A committed transaction keeps the records and has one of the listed effects. -/
theorem ledgerEffect_of_body (h : budgetBody svc reads amb op s = .ok (result, t)) :
    t.store.records = s.store.records
      ∧ LedgerEffect s.store.records s.ledger t.ledger := by
  cases op with
  | initializeRun =>
      obtain ⟨snapshot, h, -⟩ := map_ok.mp h
      obtain ⟨hrecords, heq | ⟨row, hrow⟩⟩ := initializeRun_ok h
      · exact ⟨hrecords, heq ▸ .unchanged⟩
      · exact ⟨hrecords, .initialized hrow⟩
  | snapshot =>
      obtain ⟨snapshot, h, -⟩ := map_ok.mp h
      obtain ⟨rfl, -⟩ := snapshotOf_ok h
      exact ⟨rfl, .unchanged⟩
  | beginAttempt =>
      obtain ⟨selectedId, h, -⟩ := map_ok.mp h
      obtain ⟨hrecords, ⟨heq, -⟩ | ⟨attempt, -, hbegan⟩⟩ := beginAttempt_ok h
      · exact ⟨hrecords, heq ▸ .unchanged⟩
      · exact ⟨hrecords, .began hbegan⟩
  | reserveRequest =>
      obtain ⟨reservation, h, -⟩ := map_ok.mp h
      obtain ⟨hrecords, item, -, hitem⟩ := reserveRequest_ok h
      exact ⟨hrecords, .reserved hitem⟩
  | recordResponse =>
      obtain ⟨answer, h, -⟩ := map_ok.mp h
      obtain ⟨hrecords, heq | ⟨updated, hupdated⟩⟩ := recordResponse_ok h
      · exact ⟨hrecords, heq ▸ .unchanged⟩
      · exact ⟨hrecords, .settled hupdated⟩
  | recordUnknown =>
      obtain ⟨_, h, -⟩ := map_ok.mp h
      obtain ⟨hrecords, heq | ⟨updated, hupdated⟩⟩ := recordUnknown_ok h
      · exact ⟨hrecords, heq ▸ .unchanged⟩
      · exact ⟨hrecords, .settled hupdated⟩
  | reserveToolBatch =>
      obtain ⟨_, h, -⟩ := map_ok.mp h
      obtain ⟨hrecords, batch, -, hbatch⟩ := reserveToolBatch_ok h
      exact ⟨hrecords, .batched hbatch⟩
  | recordSimulatedStep =>
      obtain ⟨_, h, -⟩ := map_ok.mp h
      obtain ⟨hrecords, step, -, hstep⟩ := recordSimulatedStep_ok h
      exact ⟨hrecords, .simulated hstep⟩
  | finish attemptId status errorCode =>
      obtain ⟨snapshot, h, -⟩ := map_ok.mp h
      obtain ⟨hrecords, heq | heq⟩ := finishAttempt_ok h
      · exact ⟨hrecords, heq ▸ .unchanged⟩
      · exact ⟨hrecords, heq ▸ .finished attemptId status _ errorCode⟩

/-- A step either is a step of the state store, which keeps the ledger and lets the records
evolve, or keeps the records and has one of the listed effects on the ledger. -/
theorem ledgerEffect_of_step (svc : BudgetServices) (s : BudgetState) (input : BudgetInput) :
    Evolves s.store.records ((budgetMachine svc).next s input).store.records
      ∧ LedgerEffect s.store.records s.ledger ((budgetMachine svc).next s input).ledger := by
  cases input with
  | store input =>
      exact ⟨(effect_of_step svc.toServices s.store input).evolves, .unchanged⟩
  | ledger op reads amb =>
      rcases commit_cases (budgetBody svc reads amb op) s with ⟨a, t, hok, hc⟩ | ⟨e, -, hc⟩
      · obtain ⟨hrecords, heffect⟩ := ledgerEffect_of_body hok
        simp only [Machine.next, budgetMachine, hc]
        exact ⟨hrecords ▸ .refl _, heffect⟩
      · simp only [Machine.next, budgetMachine, hc]
        exact ⟨.refl _, .unchanged⟩

/-! ### Admission -/

/-- The run for which a transaction spends, when its campaign is asked. -/
def BudgetOp.spendsFor? (l : Ledger) : BudgetOp → Option String
  | .beginAttempt request _ => some request.runId
  | .reserveRequest attemptId _ _ => (l.attempt? attemptId).map RuntimeAttempt.runId
  | .reserveToolBatch attemptId _ _ => (l.attempt? attemptId).map RuntimeAttempt.runId
  | _ => none

/-- Nothing is spent for a run that its campaign refuses. -/
theorem admitted_of_body {runId : String} (hspends : op.spendsFor? s.ledger = some runId)
    (h : budgetBody svc reads amb op s = .ok (result, t)) : reads.campaignRefusal runId = none := by
  cases op with
  | beginAttempt =>
      obtain ⟨selectedId, h, -⟩ := map_ok.mp h
      obtain rfl := Option.some.inj hspends
      simp only [beginAttempt, bind_ok, refuseIf_ok, expect_ok] at h
      obtain ⟨_, _, -, run, _, hrun, owner, _, -, _, _, -, _, _, hcampaign, -⟩ := h
      obtain ⟨-, hid⟩ := budgetRun_ok hrun
      rw [← hid]
      exact campaignRefusal_of_ok hcampaign
  | reserveRequest =>
      obtain ⟨reservation, h, -⟩ := map_ok.mp h
      simp only [reserveRequest, bind_ok, refuseIf_ok] at h
      obtain ⟨_, _, ⟨-, rfl⟩, _, _, ⟨-, rfl⟩, _, _, ⟨-, rfl⟩, attempt, _, hactive, _, _,
        hcampaign, -⟩ := h
      obtain ⟨-, hattempt, -⟩ := activeAttempt_ok hactive
      obtain ⟨found, hfound, rfl⟩ := Option.map_eq_some_iff.mp hspends
      obtain rfl : attempt = found := Option.some.inj (hattempt.symm.trans hfound)
      exact campaignRefusal_of_ok hcampaign
  | reserveToolBatch =>
      obtain ⟨_, h, -⟩ := map_ok.mp h
      simp only [reserveToolBatch, bind_ok, refuseIf_ok] at h
      obtain ⟨_, _, ⟨-, rfl⟩, _, _, ⟨-, rfl⟩, attempt, _, hactive, _, _, hcampaign, -⟩ := h
      obtain ⟨-, hattempt, -⟩ := activeAttempt_ok hactive
      obtain ⟨found, hfound, rfl⟩ := Option.map_eq_some_iff.mp hspends
      obtain rfl : attempt = found := Option.some.inj (hattempt.symm.trans hfound)
      exact campaignRefusal_of_ok hcampaign
  | initializeRun runId limits parentRunId | snapshot runId
  | recordResponse attemptId reservation usage | recordUnknown attemptId reservation
  | recordSimulatedStep attemptId | finish attemptId status errorCode => cases hspends

end AgentFleet
