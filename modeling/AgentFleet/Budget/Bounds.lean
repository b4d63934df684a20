import AgentFleet.Budget.Machine

/-! # The bounds of the ledger

`WithinLimits` says that every owner stays within its limits and every agent within its steps,
and `ledger_bounds` that this holds after every run of `budgetMachine`.  No transaction checks
all of the bounds: `begin_attempt` alone compares the invocations, and nothing compares the
tokens when a response is recorded.

The induction also needs that the rows fit together (`LedgerSound`): a request whose attempt
were unknown, or an agent that ran under two owners, would escape the sums that the guards
read. -/

namespace AgentFleet

open Relational Relational.Table Transition

variable {r r' : Records} {l l' : Ledger}

/-! ### The invariant -/

/-- The rows of the ledger fit together and fit the agents. -/
structure LedgerSound (r : Records) (l : Ledger) : Prop where
  owners : ∀ row ∈ l.runs, ∃ owner ∈ l.owners, owner.ownerRunId = row.ownerRunId
  attempts : ∀ a ∈ l.attempts, ∃ row ∈ l.runs,
    row.runId = a.runId ∧ row.ownerRunId = a.ownerRunId
  agents : ∀ a ∈ l.attempts, ∃ row ∈ r.agentInstances,
    row.agent.agentInstanceId = a.agentInstanceId ∧ row.runId = a.runId
  alike : ∀ a ∈ l.attempts, ∀ b ∈ l.attempts, a.agentInstanceId = b.agentInstanceId →
    a.maxSteps = b.maxSteps
  requests : ∀ item ∈ l.modelRequests, ∃ a, l.attempt? item.reservation.attemptId = some a
  batches : ∀ batch ∈ l.toolBatches, ∃ a, l.attempt? batch.attemptId = some a
  simulated : ∀ step ∈ l.simulatedSteps, ∃ a, l.attempt? step.attemptId = some a
  waiting : ∀ item ∈ l.modelRequests, item.outcome = .reserved → item.usage = none

/-- The usage of an owner is within its limits. -/
structure Ledger.OwnerWithin (l : Ledger) (owner : BudgetOwner) : Prop where
  invocations : (l.attemptsOf owner.ownerRunId).length ≤ owner.limits.maxAgentInvocations
  requests : (l.requestsOf owner.ownerRunId).length ≤ owner.limits.maxModelRequests
  toolCalls : l.toolCallsOf owner.ownerRunId ≤ owner.limits.maxToolCalls
  tokens : (∀ item ∈ l.requestsOf owner.ownerRunId, item.WithinAllowance) →
    l.tokensOf owner.ownerRunId ≤ owner.limits.maxTotalTokens

/-- Every owner is within its limits, and every agent within its steps. -/
structure Ledger.WithinLimits (l : Ledger) : Prop where
  owners : ∀ owner ∈ l.owners, l.OwnerWithin owner
  steps : ∀ a ∈ l.attempts, l.stepsOf a.agentInstanceId ≤ a.maxSteps

/-! ### Queries after a write -/

namespace Ledger

variable {a : RuntimeAttempt}

theorem attempt?_of_mem (ha : a ∈ l.attempts) : l.attempt? a.attemptId = some a :=
  find?_eq_some ha (decide_eq_true rfl) fun _ hb => of_decide_eq_true hb

theorem ownedBy_of_attempt? {attemptId ownerRunId : String} (h : l.attempt? attemptId = some a) :
    l.ownedBy ownerRunId attemptId = decide (a.ownerRunId = ownerRunId) := by
  simp [ownedBy, h]

theorem madeBy_of_attempt? {attemptId agentInstanceId : String}
    (h : l.attempt? attemptId = some a) :
    l.madeBy agentInstanceId attemptId = decide (a.agentInstanceId = agentInstanceId) := by
  simp [madeBy, h]

/-- What an owner's requests hold is one sum over the requests. -/
theorem tokensOf_eq (l : Ledger) (ownerRunId : String) :
    l.tokensOf ownerRunId = l.modelRequests.sumOf
      (fun item => l.ownedBy ownerRunId item.reservation.attemptId)
      ModelRequestAccounting.charge := by
  unfold ModelRequestAccounting.charge
  rw [sumOf_add, sumOf_add]
  rfl

/-- An inserted attempt hides none that is known. -/
theorem attempt?_insert {attempt : RuntimeAttempt} {attempts : Table RuntimeAttempt}
    (hins : l.attempts.insert attempt = some attempts) {attemptId : String}
    (h : l.attempt? attemptId = some a) : { l with attempts }.attempt? attemptId = some a := by
  unfold attempt? at h ⊢
  rw [find?_insert hins, h]
  rfl

theorem attempt?_withFinished (l : Ledger) (finishedId : String)
    (status : RuntimeAttemptStatus) (finishedAt : Timestamp) (errorCode : Option ErrorCode)
    (attemptId : String) :
    (l.withFinished finishedId status finishedAt errorCode).attempt? attemptId
      = (l.attempt? attemptId).map fun a =>
        if a.attemptId = finishedId then a.finished status finishedAt errorCode else a := by
  unfold attempt? withFinished
  dsimp only
  rw [find?_update (RuntimeAttempt.keepsKeys_finished status finishedAt errorCode) fun _ => rfl]
  simp only [decide_eq_true_eq]

/-- An owner without attempts is within any limits. -/
theorem ownerWithin_of_unowned {owner : BudgetOwner}
    (h : ∀ a ∈ l.attempts, a.ownerRunId ≠ owner.ownerRunId) : l.OwnerWithin owner := by
  have hattempts : l.attemptsOf owner.ownerRunId = [] :=
    List.filter_eq_nil_iff.mpr fun a ha => by simpa using h a ha
  have hunowned : ∀ attemptId, l.ownedBy owner.ownerRunId attemptId = false := by
    intro attemptId
    unfold ownedBy
    cases hfound : l.attempt? attemptId with
    | none => rfl
    | some a => simpa using h a (attempt?_mem hfound).1
  refine ⟨?_, ?_, ?_, fun _ => ?_⟩
  · simp [hattempts]
  · simp [requestsOf, hunowned]
  · simp [toolCallsOf, sumOf, hunowned]
  · simp [tokensOf, requestsOf, hunowned]

/-! An insertion adds to the sums of one owner and of one agent. -/

section Insert

variable {attempt : RuntimeAttempt} (ownerRunId agentInstanceId : String)

theorem attemptsOf_insert {attempts : Table RuntimeAttempt}
    (hins : l.attempts.insert attempt = some attempts) :
    ({ l with attempts }.attemptsOf ownerRunId).length
      = (l.attemptsOf ownerRunId).length + if attempt.ownerRunId = ownerRunId then 1 else 0 := by
  have hcount := countOf_insert hins fun a => a.ownerRunId = ownerRunId
  simp only [decide_eq_true_eq] at hcount
  exact hcount

variable {item : ModelRequestAccounting} {modelRequests : Table ModelRequestAccounting}

theorem requestsOf_insert (hins : l.modelRequests.insert item = some modelRequests)
    (hattempt : l.attempt? item.reservation.attemptId = some attempt) :
    ({ l with modelRequests }.requestsOf ownerRunId).length
      = (l.requestsOf ownerRunId).length + if attempt.ownerRunId = ownerRunId then 1 else 0 := by
  have hcount := countOf_insert hins fun item => l.ownedBy ownerRunId item.reservation.attemptId
  simp only [ownedBy_of_attempt? hattempt, decide_eq_true_eq] at hcount
  exact hcount

theorem tokensOf_insert (hins : l.modelRequests.insert item = some modelRequests)
    (hattempt : l.attempt? item.reservation.attemptId = some attempt) :
    { l with modelRequests }.tokensOf ownerRunId
      = l.tokensOf ownerRunId + if attempt.ownerRunId = ownerRunId then item.charge else 0 := by
  have hsum := sumOf_insert hins (fun item => l.ownedBy ownerRunId item.reservation.attemptId)
    ModelRequestAccounting.charge
  simp only [ownedBy_of_attempt? hattempt, decide_eq_true_eq] at hsum
  rw [tokensOf_eq, tokensOf_eq]
  exact hsum

theorem stepsOf_insertRequest (hins : l.modelRequests.insert item = some modelRequests)
    (hattempt : l.attempt? item.reservation.attemptId = some attempt) :
    { l with modelRequests }.stepsOf agentInstanceId
      = l.stepsOf agentInstanceId
        + if attempt.agentInstanceId = agentInstanceId then 1 else 0 := by
  have hcount := countOf_insert hins
    fun item => l.madeBy agentInstanceId item.reservation.attemptId
  simp only [madeBy_of_attempt? hattempt, decide_eq_true_eq] at hcount
  exact (congrArg (· + _) hcount).trans (Nat.add_right_comm _ _ _)

theorem toolCallsOf_insert {batch : ToolBatch} {toolBatches : Table ToolBatch}
    (hins : l.toolBatches.insert batch = some toolBatches)
    (hattempt : l.attempt? batch.attemptId = some attempt) :
    { l with toolBatches }.toolCallsOf ownerRunId
      = l.toolCallsOf ownerRunId
        + if attempt.ownerRunId = ownerRunId then batch.toolCalls else 0 := by
  have hsum := sumOf_insert hins (fun batch => l.ownedBy ownerRunId batch.attemptId)
    ToolBatch.toolCalls
  simp only [ownedBy_of_attempt? hattempt, decide_eq_true_eq] at hsum
  exact hsum

theorem stepsOf_insertStep {step : SimulatedStep} {simulatedSteps : Table SimulatedStep}
    (hins : l.simulatedSteps.insert step = some simulatedSteps)
    (hattempt : l.attempt? step.attemptId = some attempt) :
    { l with simulatedSteps }.stepsOf agentInstanceId
      = l.stepsOf agentInstanceId
        + if attempt.agentInstanceId = agentInstanceId then 1 else 0 := by
  have hcount := countOf_insert hins fun step => l.madeBy agentInstanceId step.attemptId
  simp only [madeBy_of_attempt? hattempt, decide_eq_true_eq] at hcount
  exact (congrArg (_ + ·) hcount).trans (Nat.add_assoc _ _ _).symm

end Insert

/-- What a finished attempt was stays known. -/
theorem attempt?_isSome_finish {attemptId finishedId : String} {status : RuntimeAttemptStatus}
    {finishedAt : Timestamp} {errorCode : Option ErrorCode}
    (h : ∃ a, l.attempt? attemptId = some a) :
    ∃ a, ((l.abandoning finishedId).withFinished finishedId status finishedAt errorCode).attempt?
      attemptId = some a := by
  obtain ⟨a, ha⟩ := h
  rw [attempt?_withFinished]
  exact ⟨_, congrArg _ ha⟩

/-- Finishing an attempt leaves it with its owner and with its agent. -/
theorem any_withFinished (l : Ledger) (finishedId : String) (status : RuntimeAttemptStatus)
    (finishedAt : Timestamp) (errorCode : Option ErrorCode) (attemptId : String)
    {p : RuntimeAttempt → Bool} (hp : ∀ a, p (a.finished status finishedAt errorCode) = p a) :
    ((l.withFinished finishedId status finishedAt errorCode).attempt? attemptId).any p
      = (l.attempt? attemptId).any p := by
  rw [attempt?_withFinished]
  cases l.attempt? attemptId with
  | none => rfl
  | some a =>
      simp only [Option.map_some, Option.any_some]
      split_ifs
      · exact hp a
      · rfl

end Ledger

/-! ### The rows keep fitting together -/

theorem LedgerSound.evolves (h : LedgerSound r l) (he : Evolves r r') : LedgerSound r' l := by
  refine { h with agents := fun a ha => ?_ }
  obtain ⟨row, hrow, hid, hrun⟩ := h.agents a ha
  obtain ⟨row', hrow', hev⟩ := he.agents row hrow
  exact ⟨row', hrow', hev.agentInstanceId.trans hid, hev.runId.trans hrun⟩

variable {a : RuntimeAttempt} {runId : String} {limits : RunBudgetLimits} {row : BudgetRun}
  {batch : ToolBatch} {owner : BudgetOwner}

/-- An agent runs under one owner. -/
theorem LedgerSound.owner_unique (h : LedgerSound r l) (ha : a ∈ l.attempts)
    {agentInstanceId ownerRunId : String}
    (hagent : ∃ row ∈ r.agentInstances,
      row.agent.agentInstanceId = agentInstanceId ∧ row.runId = runId)
    (hbinds : l.Binds runId ownerRunId limits) (hsame : a.agentInstanceId = agentInstanceId) :
    a.ownerRunId = ownerRunId := by
  obtain ⟨row, hrow, hid, hrun⟩ := hagent
  obtain ⟨row', hrow', hid', hrun'⟩ := h.agents a ha
  obtain rfl : row = row' := eq_of_clash hrow hrow' (hid.trans (hsame ▸ hid'.symm))
  obtain ⟨bound, hbound, hboundRun, hboundOwner⟩ := h.attempts a ha
  obtain ⟨bound', hbound', hboundRun', hboundOwner', -⟩ := hbinds
  obtain rfl : bound = bound' := eq_of_clash hbound hbound'
    (hboundRun.trans (hrun'.symm.trans (hrun.trans hboundRun'.symm)))
  exact hboundOwner.symm.trans hboundOwner'

theorem LedgerSound.initialized (h : LedgerSound r l) (hi : Initialized l row l') :
    LedgerSound r l' := by
  obtain ⟨owners, runs, rfl, hruns, howners⟩ := hi.written
  have hkept : ∀ owner ∈ l.owners, owner ∈ owners := by
    intro owner howner
    rcases howners with ⟨new, -, hnew⟩ | ⟨rfl, -⟩
    · exact (mem_insert hnew).mpr (.inl howner)
    · exact howner
  refine { h with owners := fun a ha => ?_, attempts := fun a ha => ?_ }
  · rcases (mem_insert hruns).mp ha with hold | rfl
    · obtain ⟨owner, howner, hid⟩ := h.owners a hold
      exact ⟨owner, hkept owner howner, hid⟩
    · rcases howners with ⟨owner, hid, hnew⟩ | ⟨rfl, owner, howner, hid⟩
      · exact ⟨owner, (mem_insert hnew).mpr (.inr rfl), hid⟩
      · exact ⟨owner, howner, hid⟩
  · obtain ⟨bound, hbound, hids⟩ := h.attempts a ha
    exact ⟨bound, (mem_insert hruns).mpr (.inl hbound), hids⟩

theorem LedgerSound.began (h : LedgerSound r l) {attempt : RuntimeAttempt}
    (hb : Began r l attempt l') : LedgerSound r l' := by
  obtain ⟨attempts, hins, rfl⟩ := hb.inserted
  obtain ⟨limits, hbinds, -⟩ := hb.below
  -- earlier attempts of the agent are of the same owner, where `begin_attempt` looked
  have halike : ∀ a ∈ l.attempts, a.agentInstanceId = attempt.agentInstanceId →
      a.maxSteps = attempt.maxSteps := fun a ha hsame =>
    hb.alike a ha (h.owner_unique ha hb.agent hbinds hsame) hsame
  have hknown : ∀ {attemptId : String}, (∃ a, l.attempt? attemptId = some a) →
      ∃ a, { l with attempts }.attempt? attemptId = some a := fun ⟨a, ha⟩ =>
    ⟨a, Ledger.attempt?_insert hins ha⟩
  refine { h with
    attempts := fun a ha => ?_, agents := fun a ha => ?_, alike := fun a ha b hb' hsame => ?_
    requests := fun item hitem => hknown (h.requests item hitem)
    batches := fun batch hbatch => hknown (h.batches batch hbatch)
    simulated := fun step hstep => hknown (h.simulated step hstep) }
  · rcases (mem_insert hins).mp ha with hold | rfl
    · exact h.attempts a hold
    · obtain ⟨row, hrow, hrun, howner, -⟩ := hbinds
      exact ⟨row, hrow, hrun, howner⟩
  · rcases (mem_insert hins).mp ha with hold | rfl
    · exact h.agents a hold
    · exact hb.agent
  · rcases (mem_insert hins).mp ha with hold | rfl <;>
      rcases (mem_insert hins).mp hb' with hold' | rfl
    · exact h.alike a hold b hold' hsame
    · exact halike a hold hsame
    · exact (halike b hold' hsame.symm).symm
    · rfl

theorem LedgerSound.reserved (h : LedgerSound r l) {item : ModelRequestAccounting}
    (hr : Reserved l item l') : LedgerSound r l' := by
  obtain ⟨attempt, limits, hattempt, -⟩ := hr.below
  obtain ⟨modelRequests, hins, rfl⟩ := hr.inserted
  refine { h with requests := fun a ha => ?_, waiting := fun a ha hout => ?_ }
  · rcases (mem_insert hins).mp ha with hold | rfl
    · exact h.requests a hold
    · exact ⟨attempt, hattempt⟩
  · rcases (mem_insert hins).mp ha with hold | rfl
    · exact h.waiting a hold hout
    · exact hr.waiting

theorem LedgerSound.settled (h : LedgerSound r l) {updated : ModelRequestAccounting}
    (hs : SettledRequest l updated l') : LedgerSound r l' := by
  rw [hs.written]
  refine { h with requests := fun a ha => ?_, waiting := fun a ha hout => ?_ }
  · obtain ⟨b, hb, rfl⟩ := (mem_update updated.keepsKeys_written).mp ha
    obtain ⟨attempt, hattempt⟩ := h.requests b hb
    split_ifs
    · exact ⟨attempt, hattempt⟩
    · exact ⟨attempt, hattempt⟩
  · obtain ⟨b, hb, rfl⟩ := (mem_update updated.keepsKeys_written).mp ha
    split_ifs at hout ⊢ with hclash
    · exact absurd hout hs.settled
    · exact h.waiting b hb hout

theorem LedgerSound.batched (h : LedgerSound r l) (hb : Batched l batch l') : LedgerSound r l' := by
  obtain ⟨attempt, limits, hattempt, -⟩ := hb.below
  obtain ⟨toolBatches, hins, rfl⟩ := hb.inserted
  refine { h with batches := fun a ha => ?_ }
  rcases (mem_insert hins).mp ha with hold | rfl
  · exact h.batches a hold
  · exact ⟨attempt, hattempt⟩

theorem LedgerSound.simulatedStep (h : LedgerSound r l) {step : SimulatedStep}
    (hs : Simulated l step l') : LedgerSound r l' := by
  obtain ⟨attempt, hattempt, -⟩ := hs.below
  obtain ⟨simulatedSteps, hins, rfl⟩ := hs.inserted
  refine { h with simulated := fun a ha => ?_ }
  rcases (mem_insert hins).mp ha with hold | rfl
  · exact h.simulated a hold
  · exact ⟨attempt, hattempt⟩

theorem LedgerSound.finished (h : LedgerSound r l) (attemptId : String)
    (status : RuntimeAttemptStatus) (finishedAt : Timestamp) (errorCode : Option ErrorCode) :
    LedgerSound r
      ((l.abandoning attemptId).withFinished attemptId status finishedAt errorCode) := by
  have hsource : ∀ a ∈ ((l.abandoning attemptId).withFinished attemptId status finishedAt
      errorCode).attempts, ∃ b ∈ l.attempts, a.runId = b.runId ∧ a.ownerRunId = b.ownerRunId
        ∧ a.agentInstanceId = b.agentInstanceId ∧ a.maxSteps = b.maxSteps := by
    intro a ha
    obtain ⟨b, hb, rfl⟩ := (mem_update (RuntimeAttempt.keepsKeys_finished _ _ _)).mp ha
    refine ⟨b, hb, ?_⟩
    split_ifs <;> exact ⟨rfl, rfl, rfl, rfl⟩
  refine {
    owners := h.owners
    attempts := fun a ha => ?_, agents := fun a ha => ?_, alike := fun a ha b hb hsame => ?_
    requests := fun item hitem => ?_
    batches := fun batch hbatch => Ledger.attempt?_isSome_finish (h.batches batch hbatch)
    simulated := fun step hstep => Ledger.attempt?_isSome_finish (h.simulated step hstep)
    waiting := fun item hitem hout => ?_ }
  · obtain ⟨b, hb, hrun, howner, -, -⟩ := hsource a ha
    rw [hrun, howner]
    exact h.attempts b hb
  · obtain ⟨b, hb, hrun, -, hagent, -⟩ := hsource a ha
    rw [hrun, hagent]
    exact h.agents b hb
  · obtain ⟨a', ha', -, -, hagent, hsteps⟩ := hsource a ha
    obtain ⟨b', hb', -, -, hagent', hsteps'⟩ := hsource b hb
    rw [hsteps, hsteps']
    exact h.alike a' ha' b' hb' (hagent.symm.trans (hsame.trans hagent'))
  · obtain ⟨b, hb, rfl⟩ := (mem_update ModelRequestAccounting.keepsKeys_abandoned).mp hitem
    split_ifs
    · exact Ledger.attempt?_isSome_finish (h.requests b hb)
    · exact Ledger.attempt?_isSome_finish (h.requests b hb)
  · obtain ⟨b, hb, rfl⟩ := (mem_update ModelRequestAccounting.keepsKeys_abandoned).mp hitem
    split_ifs at hout ⊢ with hown
    · rfl
    · exact h.waiting b hb hout

theorem LedgerSound.step (h : LedgerSound r l) (he : LedgerEffect r l l') : LedgerSound r l' := by
  cases he with
  | unchanged => exact h
  | initialized hi => exact h.initialized hi
  | began hb => exact h.began hb
  | reserved hr => exact h.reserved hr
  | settled hs => exact h.settled hs
  | batched hb => exact h.batched hb
  | simulated hs => exact h.simulatedStep hs
  | finished attemptId status finishedAt errorCode =>
      exact h.finished attemptId status finishedAt errorCode

/-! ### The bounds are kept -/

/-- The limits that bind a run are those of its owner's row. -/
theorem Ledger.Binds.limits_eq (h : l.Binds runId owner.ownerRunId limits)
    (howner : owner ∈ l.owners) : owner.limits = limits := by
  obtain ⟨row, -, -, -, found, hfound, hid, rfl⟩ := h
  obtain rfl : owner = found := eq_of_clash howner hfound hid.symm
  rfl

/-- A charge that fits below the limits of one owner fits below those of every owner. -/
theorem charge_owner (used : String → ℕ) (bound : RunBudgetLimits → ℕ) {ownerRunId : String}
    {charge : ℕ} (hbinds : l.Binds runId ownerRunId limits)
    (hfits : used ownerRunId + charge ≤ bound limits) (howner : owner ∈ l.owners)
    (hold : used owner.ownerRunId ≤ bound owner.limits) :
    used owner.ownerRunId + (if ownerRunId = owner.ownerRunId then charge else 0)
      ≤ bound owner.limits := by
  split_ifs with hown
  · subst hown
    rw [hbinds.limits_eq howner]
    exact hfits
  · exact hold

/-- A step of one agent leaves every agent within its steps. -/
theorem charge_agent (h : l.WithinLimits) (hl : LedgerSound r l) {attempt : RuntimeAttempt}
    (hattempt : attempt ∈ l.attempts)
    (hbelow : l.stepsOf attempt.agentInstanceId < attempt.maxSteps) (ha : a ∈ l.attempts) :
    l.stepsOf a.agentInstanceId
      + (if attempt.agentInstanceId = a.agentInstanceId then 1 else 0) ≤ a.maxSteps := by
  split_ifs with hsame
  · rw [← hsame, ← hl.alike attempt hattempt a ha hsame]
    exact hbelow
  · exact h.steps a ha

theorem Ledger.WithinLimits.initialized (h : l.WithinLimits) (hl : LedgerSound r l)
    (hi : Initialized l row l') : l'.WithinLimits := by
  obtain ⟨owners, runs, rfl, -, ⟨new, -, hnew⟩ | ⟨rfl, -⟩⟩ := hi.written
  · refine ⟨fun owner howner => ?_, h.steps⟩
    rcases (mem_insert hnew).mp howner with hold | rfl
    · exact { h.owners owner hold with }
    · -- nothing is accounted to an owner that was not there
      refine { Ledger.ownerWithin_of_unowned (l := l) fun a ha heq => ?_ with }
      obtain ⟨bound, hbound, -, hid⟩ := hl.attempts a ha
      obtain ⟨known, hmem, hknown⟩ := hl.owners bound hbound
      exact not_clash_of_insert hnew hmem (hknown.trans (hid.trans heq))
  · exact ⟨fun owner howner => { h.owners owner howner with }, h.steps⟩

theorem Ledger.WithinLimits.began (h : l.WithinLimits) (hl : LedgerSound r l)
    {attempt : RuntimeAttempt} (hb : Began r l attempt l') : l'.WithinLimits := by
  obtain ⟨attempts, hins, rfl⟩ := hb.inserted
  obtain ⟨limits, hbinds, hbelow⟩ := hb.below
  have howned : ∀ ownerRunId, ∀ {attemptId : String}, (∃ a, l.attempt? attemptId = some a) →
      { l with attempts }.ownedBy ownerRunId attemptId = l.ownedBy ownerRunId attemptId := by
    rintro ownerRunId attemptId ⟨a, ha⟩
    rw [Ledger.ownedBy_of_attempt? ha, Ledger.ownedBy_of_attempt? (Ledger.attempt?_insert hins ha)]
  have hmade : ∀ agentInstanceId, ∀ {attemptId : String}, (∃ a, l.attempt? attemptId = some a) →
      { l with attempts }.madeBy agentInstanceId attemptId
        = l.madeBy agentInstanceId attemptId := by
    rintro agentInstanceId attemptId ⟨a, ha⟩
    rw [Ledger.madeBy_of_attempt? ha, Ledger.madeBy_of_attempt? (Ledger.attempt?_insert hins ha)]
  have hrequests : ∀ ownerRunId,
      { l with attempts }.requestsOf ownerRunId = l.requestsOf ownerRunId := fun ownerRunId =>
    List.filter_congr fun item hitem => howned ownerRunId (hl.requests item hitem)
  have hsteps : ∀ agentInstanceId,
      { l with attempts }.stepsOf agentInstanceId = l.stepsOf agentInstanceId := fun agentId =>
    congrArg₂ (· + ·) (countOf_congr fun item hitem => hmade agentId (hl.requests item hitem))
      (countOf_congr fun step hstep => hmade agentId (hl.simulated step hstep))
  refine ⟨fun owner howner => ?_, fun a ha => ?_⟩
  · have hold := h.owners owner howner
    refine ⟨?_, ?_, ?_, fun hwithin => ?_⟩
    · rw [Ledger.attemptsOf_insert owner.ownerRunId hins]
      exact charge_owner (fun o => (l.attemptsOf o).length) RunBudgetLimits.maxAgentInvocations
        hbinds hbelow howner hold.invocations
    · rw [hrequests]
      exact hold.requests
    · have hcalls := sumOf_congr (t := l.toolBatches) (w := ToolBatch.toolCalls)
        (fun batch hbatch => howned owner.ownerRunId (hl.batches batch hbatch)) fun _ _ _ => rfl
      exact hcalls.trans_le hold.toolCalls
    · rw [hrequests] at hwithin
      have htokens := hold.tokens hwithin
      unfold Ledger.tokensOf at htokens ⊢
      rwa [hrequests]
  · rw [hsteps]
    rcases (mem_insert hins).mp ha with hold | rfl
    · exact h.steps a hold
    · exact hb.steps.le

theorem Ledger.WithinLimits.reserved (h : l.WithinLimits) (hl : LedgerSound r l)
    {item : ModelRequestAccounting} (hr : Reserved l item l') : l'.WithinLimits := by
  obtain ⟨modelRequests, hins, rfl⟩ := hr.inserted
  obtain ⟨attempt, limits, hattempt, hsteps, hbinds, hbelow, htokens⟩ := hr.below
  refine ⟨fun owner howner => ?_, fun a ha => ?_⟩
  · have hold := h.owners owner howner
    refine ⟨hold.invocations, ?_, hold.toolCalls, fun hwithin => ?_⟩
    · rw [Ledger.requestsOf_insert owner.ownerRunId hins hattempt]
      exact charge_owner (fun o => (l.requestsOf o).length) RunBudgetLimits.maxModelRequests
        hbinds hbelow howner hold.requests
    · rw [Ledger.tokensOf_insert owner.ownerRunId hins hattempt]
      refine charge_owner l.tokensOf RunBudgetLimits.maxTotalTokens hbinds htokens howner
        (hold.tokens fun old hmem => hwithin old ?_)
      obtain ⟨hin, howned⟩ := List.mem_filter.mp hmem
      exact List.mem_filter.mpr ⟨(mem_insert hins).mpr (.inl hin), howned⟩
  · rw [Ledger.stepsOf_insertRequest a.agentInstanceId hins hattempt]
    exact charge_agent h hl (Ledger.attempt?_mem hattempt).1 hsteps ha

theorem Ledger.WithinLimits.batched (h : l.WithinLimits) (hb : Batched l batch l') :
    l'.WithinLimits := by
  obtain ⟨toolBatches, hins, rfl⟩ := hb.inserted
  obtain ⟨attempt, limits, hattempt, hbinds, hbelow⟩ := hb.below
  refine ⟨fun owner howner => ?_, h.steps⟩
  have hold := h.owners owner howner
  refine ⟨hold.invocations, hold.requests, ?_, hold.tokens⟩
  rw [Ledger.toolCallsOf_insert owner.ownerRunId hins hattempt]
  exact charge_owner l.toolCallsOf RunBudgetLimits.maxToolCalls hbinds hbelow howner
    hold.toolCalls

theorem Ledger.WithinLimits.simulated (h : l.WithinLimits) (hl : LedgerSound r l)
    {step : SimulatedStep} (hs : Simulated l step l') : l'.WithinLimits := by
  obtain ⟨simulatedSteps, hins, rfl⟩ := hs.inserted
  obtain ⟨attempt, hattempt, hbelow⟩ := hs.below
  refine ⟨fun owner howner => { h.owners owner howner with }, fun a ha => ?_⟩
  rw [Ledger.stepsOf_insertStep a.agentInstanceId hins hattempt]
  exact charge_agent h hl (Ledger.attempt?_mem hattempt).1 hbelow ha

/-- Rewriting requests within their reservations keeps the bounds if it frees tokens. -/
theorem Ledger.WithinLimits.rewritten (h : l.WithinLimits) {q : ModelRequestAccounting → Bool}
    {f : ModelRequestAccounting → ModelRequestAccounting} (hf : KeepsKeys f)
    (hsame : ∀ item, (f item).reservation = item.reservation)
    (hfrees : ∀ item ∈ l.modelRequests, q item = true → (f item).WithinAllowance →
      item.WithinAllowance ∧ (f item).charge ≤ item.charge) :
    { l with modelRequests := l.modelRequests.update q f hf }.WithinLimits := by
  have howned : ∀ ownerRunId, ∀ item ∈ l.modelRequests, q item = true →
      l.ownedBy ownerRunId (f item).reservation.attemptId
        = l.ownedBy ownerRunId item.reservation.attemptId := by
    intro ownerRunId item _ _
    rw [hsame]
  refine ⟨fun owner howner => ?_, fun a ha => ?_⟩
  · have hold := h.owners owner howner
    refine ⟨hold.invocations, ?_, hold.toolCalls, fun hwithin => ?_⟩
    · exact (countOf_update hf (howned owner.ownerRunId)).trans_le hold.requests
    · -- a request of the owner is within its allowance after the rewriting, so it was before
      have hcharges : ∀ item ∈ l.requestsOf owner.ownerRunId, item.WithinAllowance
          ∧ (q item = true → (f item).charge ≤ item.charge) := by
        intro item hmem
        obtain ⟨hin, hown⟩ := List.mem_filter.mp hmem
        have hnew := hwithin (if q item then f item else item) (List.mem_filter.mpr
          ⟨(mem_update hf).mpr ⟨item, hin, rfl⟩, by
            split_ifs with hq
            · exact (howned owner.ownerRunId item hin hq).trans hown
            · exact hown⟩)
        split_ifs at hnew with hq
        · obtain ⟨hitem, hle⟩ := hfrees item hin hq hnew
          exact ⟨hitem, fun _ => hle⟩
        · exact ⟨hnew, fun hq' => absurd hq' hq⟩
      have hle : Ledger.tokensOf { l with modelRequests := l.modelRequests.update q f hf }
          owner.ownerRunId ≤ l.tokensOf owner.ownerRunId := by
        rw [Ledger.tokensOf_eq, Ledger.tokensOf_eq]
        exact sumOf_update_le hf (howned owner.ownerRunId) fun item hin hown hq =>
          (hcharges item (List.mem_filter.mpr ⟨hin, hown⟩)).2 hq
      exact hle.trans (hold.tokens fun item hmem => (hcharges item hmem).1)
  · have hmade : ∀ item ∈ l.modelRequests, q item = true →
        l.madeBy a.agentInstanceId (f item).reservation.attemptId
          = l.madeBy a.agentInstanceId item.reservation.attemptId := by
      intro item _ _
      rw [hsame]
    have hcount := countOf_update (p := fun item =>
      l.madeBy a.agentInstanceId item.reservation.attemptId) hf hmade
    exact (congrArg (· + _) hcount).trans_le (h.steps a ha)

/-- A request without usage is within its allowance. -/
theorem withinAllowance_of_none {item : ModelRequestAccounting}
    (h : item.usage = none) : item.WithinAllowance := by
  intro usage husage
  rw [h] at husage
  cases husage

theorem Ledger.WithinLimits.settled (h : l.WithinLimits) (hl : LedgerSound r l)
    {updated : ModelRequestAccounting} (hs : SettledRequest l updated l') :
    l'.WithinLimits := by
  obtain ⟨item, hitem, hreservation, hreserved, hcharge⟩ := hs.item
  rw [hs.written]
  refine h.rewritten updated.keepsKeys_written (fun _ => rfl) fun row hrow hclash hwithin => ?_
  obtain ⟨hattempt, hsequence⟩ := of_decide_eq_true hclash
  obtain rfl : row = item := eq_of_clash hrow hitem
    ⟨hattempt.trans (congrArg ModelRequestReservation.attemptId hreservation.symm),
      hsequence.trans (congrArg ModelRequestReservation.requestSequence hreservation.symm)⟩
  have hwritten : updated.written row = updated := by
    unfold ModelRequestAccounting.written
    rw [hreservation]
  rw [hwritten] at hwithin ⊢
  exact ⟨withinAllowance_of_none (hl.waiting row hrow hreserved), hcharge hwithin⟩

theorem Ledger.WithinLimits.abandoning (h : l.WithinLimits) (hl : LedgerSound r l)
    (attemptId : String) : (l.abandoning attemptId).WithinLimits := by
  refine h.rewritten ModelRequestAccounting.keepsKeys_abandoned (fun _ => rfl)
    fun item hitem hq _ => ?_
  simp only [Bool.and_eq_true, decide_eq_true_eq] at hq
  have hheld := ModelRequestAccounting.allowance_le_charge hq.2
  have hcharge : item.abandoned.charge ≤ item.abandoned.reservation.tokenAllowance :=
    ModelRequestAccounting.charge_settled rfl (withinAllowance_of_none rfl)
  exact ⟨withinAllowance_of_none (hl.waiting item hitem hq.2), hcharge.trans hheld⟩

theorem Ledger.WithinLimits.withFinished (h : l.WithinLimits) (attemptId : String)
    (status : RuntimeAttemptStatus) (finishedAt : Timestamp) (errorCode : Option ErrorCode) :
    (l.withFinished attemptId status finishedAt errorCode).WithinLimits := by
  have howned : (l.withFinished attemptId status finishedAt errorCode).ownedBy = l.ownedBy :=
    funext₂ fun _ id => l.any_withFinished attemptId status finishedAt errorCode id fun _ => rfl
  have hmade : (l.withFinished attemptId status finishedAt errorCode).madeBy = l.madeBy :=
    funext₂ fun _ id => l.any_withFinished attemptId status finishedAt errorCode id fun _ => rfl
  refine ⟨fun owner howner => ?_, fun a ha => ?_⟩
  · have hold := h.owners owner howner
    refine ⟨?_, ?_, ?_, fun hwithin => ?_⟩
    · exact (countOf_update (RuntimeAttempt.keepsKeys_finished _ _ _) fun _ _ _ => rfl).trans_le
        hold.invocations
    · unfold Ledger.requestsOf
      rw [howned]
      exact hold.requests
    · unfold Ledger.toolCallsOf
      rw [howned]
      exact hold.toolCalls
    · unfold Ledger.tokensOf Ledger.requestsOf at *
      rw [howned] at *
      exact hold.tokens hwithin
  · obtain ⟨b, hb, rfl⟩ := (mem_update (RuntimeAttempt.keepsKeys_finished _ _ _)).mp ha
    have hold := h.steps b hb
    unfold Ledger.stepsOf at *
    rw [hmade]
    split_ifs
    · exact hold
    · exact hold

theorem Ledger.WithinLimits.step (h : l.WithinLimits) (hl : LedgerSound r l)
    (he : LedgerEffect r l l') : l'.WithinLimits := by
  cases he with
  | unchanged => exact h
  | initialized hi => exact h.initialized hl hi
  | began hb => exact h.began hl hb
  | reserved hr => exact h.reserved hl hr
  | settled hs => exact h.settled hl hs
  | batched hb => exact h.batched hb
  | simulated hs => exact h.simulated hl hs
  | finished attemptId status finishedAt errorCode =>
      exact (h.abandoning hl attemptId).withFinished attemptId status finishedAt errorCode

/-! ### Runs -/

/-- The bounds with the soundness of the rows are an invariant of the machine. -/
theorem ledger_invariant (svc : BudgetServices) : (budgetMachine svc).Invariant fun s =>
    LedgerSound s.store.records s.ledger ∧ s.ledger.WithinLimits := by
  rintro s input ⟨hsound, hwithin⟩
  obtain ⟨hevolves, heffect⟩ := ledgerEffect_of_step svc s input
  exact ⟨(hsound.step heffect).evolves hevolves, hwithin.step hsound heffect⟩

theorem ledgerSound_empty (r : Records) : LedgerSound r .empty := by
  constructor <;> exact fun _ h => absurd h (not_mem_empty _)

theorem withinLimits_empty : Ledger.empty.WithinLimits := by
  constructor <;> exact fun _ h => absurd h (not_mem_empty _)

/-- After any transactions on a fresh ledger, in any order and by any number of runs that share
owners, every owner is within its limits and every agent within its steps. -/
theorem ledger_bounds (svc : BudgetServices) (store : Store) (inputs : List BudgetInput) :
    ((budgetMachine svc).run ⟨store, .empty⟩ inputs).ledger.WithinLimits :=
  ((ledger_invariant svc).run ⟨ledgerSound_empty store.records, withinLimits_empty⟩ inputs).2

/-! ### A sample run -/

/-- The sample services with a constant calendar and no decimal arithmetic. -/
def sampleBudgetServices : BudgetServices where
  toServices := sampleServices
  isoTimestamp := fun _ => "1970-01-01T00:00:00Z"
  decimalAdd := fun a _ => a
  decimalText := fun _ => "0"

/-- Reads that refuse nothing. -/
def sampleReads : BudgetReads where
  clean := true
  ownerTrusted := fun _ => true
  runtimeName := fun _ _ => some "fake"
  campaignRefusal := fun _ => none

/-- The sample store before its run started. -/
def createdStore : Store where
  records := { sampleStore.records with
    runs := ⟨[⟨{ sampleRun with status := .created, stage := none }, "prj_1"⟩],
      List.pairwise_singleton _ _⟩ }
  runEvents := []

/-- An attempt reserves two requests against a limit of a thousand tokens, the first of which
used less than its allowance. -/
def sampleSpending : List BudgetInput :=
  let attemptId := "corr_00000000000000000000000000000000"
  let ledger op := BudgetInput.ledger op sampleReads (sampleAmbient 0 "evt_1")
  [ledger (.initializeRun "run_1" { maxTotalTokens := 1000 } none),
    .store ⟨.saveRun { sampleRun with stage := some .intake } "run.started" [],
      sampleAmbient 0 "evt_2"⟩,
    ledger (.beginAttempt
      { runId := "run_1", taskId := "task_1", agentInstanceId := "agent_1", role := "engineer"
        stage := .intake, iteration := 0, maxSteps := 2 } (some attemptId)),
    ledger (.reserveRequest attemptId 1 600),
    ledger (.recordResponse attemptId ⟨attemptId, 1, 600, 600, 0⟩
      { requests := some 1, totalTokens := some 500 }),
    ledger (.reserveRequest attemptId 2 600)]

example : ((budgetMachine sampleBudgetServices).run ⟨createdStore, .empty⟩
    sampleSpending).ledger.tokensOf "run_1" = 1000 := by decide

end AgentFleet
