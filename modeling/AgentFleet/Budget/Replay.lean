import AgentFleet.Database.UnknownUsage

/-! # The verdict of a replayed response

`record_response` first records and then judges: a response without a total, or one that takes
its owner beyond the token limit, is recorded and its continuation denied.  A replay finds the
response recorded and returns the snapshot before it comes to the judgement; so it denies
nothing, whatever the first call answered.

* `RecordsDenied` is a first call whose continuation was denied.
* `Ledger.Continuable` says of the ledger before the call that it will not be.
* `SameVerdict` compares a call with every later repetition of it. -/

namespace AgentFleet

open Relational Relational.Table Transaction Transition

variable {svc : BudgetServices} {reads : BudgetReads} {amb : Ambient} {s t : BudgetState}

/-! ### What a call leaves -/

/-- `SUM(total_tokens)` over the requests of an owner. -/
def Ledger.reportedOf (l : Ledger) (ownerRunId : String) : ℕ :=
  l.modelRequests.sumOf (fun item => l.ownedBy ownerRunId item.reservation.attemptId)
    ModelRequestAccounting.reportedTokens

/-- The record of a response. -/
def recordedResponse (reservation : ModelRequestReservation) (usage : UsageRecord) :
    ModelRequestAccounting where
  reservation := reservation
  outcome := if usage.totalTokens ≠ none then .reported else .unknown
  usage := some usage

/-- A call that is not refused found its request; it replays a settled one, or it records the
response of a reserved one. -/
structure ResponseCall (svc : BudgetServices) (reads : BudgetReads) (amb : Ambient)
    (s : BudgetState) (attemptId : String) (reservation : ModelRequestReservation)
    (usage : UsageRecord) (answer : RunBudgetSnapshot × Bool) (t : BudgetState)
    (attempt : RuntimeAttempt) (item : ModelRequestAccounting) : Prop where
  legible : ¬ (reads.clean = false ∨ ¬ usage.validates ∨ usage.requests ≠ some 1)
  found : attemptById reads attemptId s = .ok (attempt, s)
  identity : reservation.attemptId = attemptId
  stored : s.ledger.request? attemptId reservation.requestSequence = some item
  matched : item.reservation = reservation
  records : t.store.records = s.store.records
  answered : (item.outcome ≠ .reserved ∧ answer.2 = true ∧ t = s)
    ∨ (item.outcome = .reserved ∧ answer.2 = false
      ∧ t.ledger = s.ledger.withRequest (recordedResponse reservation usage)
      ∧ snapshotOf svc reads (amb.clock 2) attempt.runId t = .ok (answer.1, t))

variable {reservation : ModelRequestReservation} {usage : UsageRecord}
  {answer : RunBudgetSnapshot × Bool} {runId ownerRunId : String} {attempt : RuntimeAttempt}
  {now : Timestamp} {l : Ledger} {item updated : ModelRequestAccounting}

theorem responseCall_of_ok {attemptId : String}
    (h : recordResponse svc reads amb attemptId reservation usage s = .ok (answer, t)) :
    ∃ attempt item, ResponseCall svc reads amb s attemptId reservation usage answer t attempt
      item := by
  unfold recordResponse at h
  rw [refuseIf_bind_ok] at h
  obtain ⟨hlegible, h⟩ := h
  obtain ⟨attempt, s₁, hattempt, h⟩ := Transaction.bind_ok.mp h
  have hs₁ := (attemptById_ok hattempt).1
  subst hs₁
  obtain ⟨item, s₂, hitem, h⟩ := Transaction.bind_ok.mp h
  unfold requestOf at hitem
  simp only [bind_ok, refuseIf_ok, getLedger_ok, expect_ok, pure_ok, not_not] at hitem
  obtain ⟨_, _, ⟨hidentity, rfl⟩, l, _, ⟨rfl, rfl⟩, found, _, ⟨hfound, rfl⟩, _, _,
    ⟨hreservation, rfl⟩, rfl, rfl⟩ := hitem
  by_cases houtcome : found.outcome ≠ .reserved
  · rw [if_pos houtcome] at h
    simp only [bind_ok, refuseIf_ok, pure_ok] at h
    obtain ⟨_, _, ⟨-, rfl⟩, snapshot, _, hsnapshot, rfl, rfl⟩ := h
    have hsame := (snapshotOf_ok hsnapshot).1
    subst hsame
    exact ⟨attempt, found, hlegible, hattempt, hidentity, hfound, hreservation, rfl,
      .inl ⟨houtcome, rfl, rfl⟩⟩
  · rw [if_neg houtcome] at h
    simp only [bind_ok, refuseIf_ok, getLedger_ok, setLedger_ok, pure_ok] at h
    obtain ⟨_, _, ⟨-, rfl⟩, l, _, ⟨rfl, rfl⟩, _, _, rfl, run, _, hrun, _, _, hevent, snapshot,
      _, hsnapshot, rfl, rfl⟩ := h
    obtain ⟨rfl, -⟩ := budgetRun_ok hrun
    obtain ⟨hledger, hrecords⟩ := budgetEvent_ok hevent
    have hsame := (snapshotOf_ok hsnapshot).1
    subst hsame
    exact ⟨attempt, found, hlegible, hattempt, hidentity, hfound, hreservation, hrecords,
      .inr ⟨not_not.mp houtcome, rfl, hledger, hsnapshot⟩⟩

/-! ### Reads that do not depend on the requests -/

/-- The two states bind and know the same runs, and have the same attempts. -/
structure SameBindings (s t : BudgetState) : Prop where
  records : t.store.records = s.store.records
  owners : t.ledger.owners = s.ledger.owners
  runs : t.ledger.runs = s.ledger.runs
  attempts : t.ledger.attempts = s.ledger.attempts

theorem budgetRun_same (h : SameBindings s t) {run : Run}
    (hrun : budgetRun runId s = .ok (run, s)) : budgetRun runId t = .ok (run, t) := by
  simp only [budgetRun, budgetRecords, bind_ok, get_ok, pure_ok, expect_ok, refuseIf_ok] at hrun ⊢
  obtain ⟨r, _, ⟨_, _, ⟨rfl, rfl⟩, rfl, rfl⟩, row, _, ⟨hrow, -⟩, _, _, ⟨hproject, -⟩, hfound,
    -⟩ := hrun
  refine ⟨_, _, ⟨_, _, ⟨rfl, rfl⟩, rfl, rfl⟩, row, _, ⟨?_, rfl⟩, (), _, ⟨hproject, rfl⟩, hfound,
    rfl⟩
  rw [h.records]
  exact hrow

theorem ownerOf_same (h : SameBindings s t) {owner : Option (String × RunBudgetLimits)}
    (howner : ownerOf reads runId s = .ok (owner, s)) : ownerOf reads runId t = .ok (owner, t) := by
  unfold ownerOf at howner ⊢
  simp only [bind_ok, getLedger_ok] at howner ⊢
  obtain ⟨_, _, ⟨rfl, rfl⟩, howner⟩ := howner
  refine ⟨_, _, ⟨rfl, rfl⟩, ?_⟩
  have hrow : t.ledger.run? runId = s.ledger.run? runId := by
    unfold Ledger.run?
    rw [h.runs]
  rw [hrow]
  cases hfound : s.ledger.run? runId with
  | none =>
      rw [hfound] at howner
      rw [pure_ok] at howner ⊢
      exact ⟨howner.1, rfl⟩
  | some =>
      rw [hfound] at howner
      simp only [bind_ok, expect_ok, refuseIf_ok, pure_ok] at howner ⊢
      obtain ⟨found, _, ⟨hknown, rfl⟩, run, _, hrun, ownerRun, _, hownerRun, _, _,
        ⟨htrusted, rfl⟩, hanswer, -⟩ := howner
      have hs₁ := (budgetRun_ok hrun).1
      subst hs₁
      have hs₂ := (budgetRun_ok hownerRun).1
      subst hs₂
      refine ⟨found, t, ⟨?_, rfl⟩, run, t, budgetRun_same h hrun, ownerRun, t,
        budgetRun_same h hownerRun, (), t, ⟨htrusted, rfl⟩, hanswer, rfl⟩
      unfold Ledger.owner?
      rw [h.owners]
      exact hknown

theorem attemptById_same (h : SameBindings s t) {attemptId : String}
    (hattempt : attemptById reads attemptId s = .ok (attempt, s)) :
    attemptById reads attemptId t = .ok (attempt, t) := by
  simp only [attemptById, checkAttempt, bind_ok, getLedger_ok, expect_ok, refuseIf_ok,
    pure_ok] at hattempt ⊢
  obtain ⟨_, _, ⟨rfl, rfl⟩, found, _, ⟨hfound, rfl⟩, _, _, ⟨owner, _, howner, _, _,
    ⟨hbound, rfl⟩, run, _, hrun, hruntime, rfl⟩, hanswer, -⟩ := hattempt
  have hs₁ := (ownerOf_ok howner).1
  subst hs₁
  have hs₂ := (budgetRun_ok hrun).1
  subst hs₂
  refine ⟨_, t, ⟨rfl, rfl⟩, found, t, ⟨?_, rfl⟩, (), t, ⟨owner, t, ownerOf_same h howner, (), t,
    ⟨hbound, rfl⟩, run, t, budgetRun_same h hrun, hruntime, rfl⟩, hanswer, rfl⟩
  unfold Ledger.attempt?
  rw [h.attempts]
  exact hfound

/-! ### The snapshot of a bound run -/

theorem ownerOf_attempt {attemptId : String}
    (h : attemptById reads attemptId s = .ok (attempt, s)) :
    ∃ limits, ownerOf reads attempt.runId s = .ok (some (attempt.ownerRunId, limits), s) := by
  simp only [attemptById, checkAttempt, bind_ok, getLedger_ok, expect_ok, refuseIf_ok,
    pure_ok] at h
  obtain ⟨_, _, ⟨rfl, rfl⟩, found, _, ⟨-, rfl⟩, _, _, ⟨owner, _, howner, _, _, ⟨hbound, rfl⟩, -⟩,
    rfl, -⟩ := h
  have hsame := (ownerOf_ok howner).1
  subst hsame
  obtain ⟨⟨ownerRunId, limits⟩, rfl, hid⟩ := Option.map_eq_some_iff.mp (not_not.mp hbound)
  subst hid
  exact ⟨limits, howner⟩

theorem snapshotOf_bound {limits : RunBudgetLimits} {snapshot : RunBudgetSnapshot}
    (howner : ownerOf reads runId s = .ok (some (ownerRunId, limits), s))
    (h : snapshotOf svc reads now runId s = .ok (snapshot, s)) :
    snapshot = buildSnapshot svc now s.ledger runId ownerRunId limits := by
  unfold snapshotOf at h
  obtain ⟨owner, s₁, hread, h⟩ := Transaction.bind_ok.mp h
  have heq := howner.symm.trans hread
  cases heq
  simp only [bind_ok, getLedger_ok, refuseIf_ok, pure_ok] at h
  obtain ⟨attempts, _, hattempts, l, _, ⟨rfl, rfl⟩, _, _, ⟨-, rfl⟩, _, _, ⟨-, rfl⟩, rfl, -⟩ := h
  have hsame := (attemptsOfOwner_ok hattempts).1
  subst hsame
  rfl

/-- Whether a snapshot can be read does not depend on the instant. -/
theorem snapshotOf_later (now' : Timestamp) {snapshot : RunBudgetSnapshot}
    (h : snapshotOf svc reads now runId s = .ok (snapshot, s)) :
    ∃ snapshot', snapshotOf svc reads now' runId s = .ok (snapshot', s) := by
  unfold snapshotOf at h ⊢
  simp only [bind_ok] at h ⊢
  obtain ⟨owner, s₁, howner, h⟩ := h
  have hs₁ := (ownerOf_ok howner).1
  subst hs₁
  cases owner with
  | none => exact ⟨_, none, s, howner, rfl⟩
  | some bound =>
      obtain ⟨ownerRunId, limits⟩ := bound
      simp only [bind_ok, getLedger_ok, refuseIf_ok, pure_ok] at h
      obtain ⟨attempts, _, hattempts, l, _, ⟨rfl, rfl⟩, _, _, ⟨hfew, rfl⟩, _, _, ⟨hcosts, rfl⟩,
        -, -⟩ := h
      have hsame := (attemptsOfOwner_ok hattempts).1
      subst hsame
      refine ⟨buildSnapshot svc now' s.ledger runId ownerRunId limits,
        some (ownerRunId, limits), s, howner, ?_⟩
      simp only [bind_ok, getLedger_ok, refuseIf_ok, pure_ok]
      exact ⟨attempts, s, hattempts, s.ledger, s, ⟨rfl, rfl⟩, (), s, ⟨hfew, rfl⟩, (), s,
        ⟨hcosts, rfl⟩, rfl, rfl⟩

/-! ### The recorded response -/

theorem request?_withRequest {attemptId : String} {requestSequence : ℕ}
    (h : l.request? attemptId requestSequence = some item)
    (hsame : item.reservation = updated.reservation) :
    (l.withRequest updated).request? attemptId requestSequence = some updated := by
  have hclash : clash item updated :=
    ⟨congrArg ModelRequestReservation.attemptId hsame,
      congrArg ModelRequestReservation.requestSequence hsame⟩
  unfold Ledger.request? Ledger.withRequest
  rw [find?_update updated.keepsKeys_written (p := fun row =>
    row.reservation.attemptId = attemptId && row.reservation.requestSequence = requestSequence)
    fun _ => rfl]
  unfold Ledger.request? at h
  rw [h, Option.map_some, if_pos (decide_eq_true hclash)]
  unfold ModelRequestAccounting.written
  rw [hsame]

/-- Recording the response of a request adds what it reports. -/
theorem reportedOf_withRequest (hitem : item ∈ l.modelRequests)
    (hsame : item.reservation = updated.reservation)
    (howned : l.ownedBy ownerRunId item.reservation.attemptId = true) :
    (l.withRequest updated).reportedOf ownerRunId + item.reportedTokens
      = l.reportedOf ownerRunId + updated.reportedTokens := by
  have hself : clash item item := ⟨rfl, rfl⟩
  have hclash : clash item updated :=
    ⟨congrArg ModelRequestReservation.attemptId hsame,
      congrArg ModelRequestReservation.requestSequence hsame⟩
  have hweight : (updated.written item).reportedTokens = updated.reportedTokens := rfl
  have hafter : (l.withRequest updated).reportedOf ownerRunId
      = l.modelRequests.sumOf (fun item => l.ownedBy ownerRunId item.reservation.attemptId)
        fun row => if decide (clash row updated) = true then (updated.written row).reportedTokens
          else row.reportedTokens :=
    sumOf_update updated.keepsKeys_written _ fun _ _ _ => rfl
  have hsum := sumOf_add_of_mem (p := fun item =>
      l.ownedBy ownerRunId item.reservation.attemptId)
    (w := ModelRequestAccounting.reportedTokens)
    (v := fun row => if decide (clash row updated) = true
      then (updated.written row).reportedTokens else row.reportedTokens)
    hitem hself howned fun b hb hne => by
      rw [if_neg]
      intro hother
      have hkey : clash b item := by
        obtain ⟨hattempt, hsequence⟩ := of_decide_eq_true hother
        exact ⟨hattempt.trans (congrArg ModelRequestReservation.attemptId hsame.symm),
          hsequence.trans (congrArg ModelRequestReservation.requestSequence hsame.symm)⟩
      exact hne (eq_of_clash hb hitem hkey)
  rw [hafter, hsum, if_pos (decide_eq_true hclash), hweight]
  rfl

theorem Decimal.pyEq_refl (a : Decimal) : a.pyEq a = true := by
  unfold Decimal.pyEq
  exact decide_eq_true rfl

theorem UsageRecord.pyEq_refl (usage : UsageRecord) : usage.pyEq usage = true := by
  unfold UsageRecord.pyEq
  cases usage.providerCost with
  | none => simp
  | some cost => simp [Decimal.pyEq_refl cost]

/-! ### Verdicts -/

/-- The call recorded the response, or found it recorded, and denied its continuation. -/
def RecordsDenied (svc : BudgetServices) (reads : BudgetReads) (amb : Ambient) (s : BudgetState)
    (attemptId : String) (reservation : ModelRequestReservation) (usage : UsageRecord) : Prop :=
  ∃ answer t e, recordResponse svc reads amb attemptId reservation usage s = .ok (answer, t)
    ∧ continuation usage answer = .error e

/-- If the request still waits for its response, this one has a total, and the owner stays within
its limit with it. -/
def Ledger.Continuable (l : Ledger) (attemptId : String)
    (reservation : ModelRequestReservation) (usage : UsageRecord) : Prop :=
  ∀ item, l.request? attemptId reservation.requestSequence = some item →
    item.outcome = .reserved → ∃ total, usage.totalTokens = some total ∧
      ∀ attempt limits, l.attempt? attemptId = some attempt →
        l.Binds attempt.runId attempt.ownerRunId limits →
        l.reportedOf attempt.ownerRunId + total ≤ limits.maxTotalTokens

/-- The snapshot after a recorded response reports it on top of what the owner had. -/
theorem ResponseCall.reported {attemptId : String}
    (h : ResponseCall svc reads amb s attemptId reservation usage answer t attempt item)
    (hsound : LedgerSound s.store.records s.ledger) (hreserved : item.outcome = .reserved) :
    ∃ limits, s.ledger.Binds attempt.runId attempt.ownerRunId limits
      ∧ answer.1.limits = some limits
      ∧ answer.1.reportedTotalTokens = s.ledger.reportedOf attempt.ownerRunId
        + usage.totalTokens.getD 0 := by
  rcases h.answered with ⟨hsettled, -⟩ | ⟨-, -, hledger, hsnapshot⟩
  · exact absurd hreserved hsettled
  have hsame : SameBindings s t := by
    refine ⟨h.records, ?_, ?_, ?_⟩ <;> rw [hledger] <;> rfl
  obtain ⟨limits, howner⟩ := ownerOf_attempt h.found
  have hsnap := snapshotOf_bound (ownerOf_same hsame howner) hsnapshot
  obtain ⟨hitem, hid, -⟩ := Ledger.request?_mem h.stored
  have howned : s.ledger.ownedBy attempt.ownerRunId item.reservation.attemptId = true := by
    rw [hid, Ledger.ownedBy_of_attempt? (attemptById_ok h.found).2.1]
    exact decide_eq_true rfl
  have hmatched : item.reservation = (recordedResponse reservation usage).reservation := h.matched
  have hsum := reportedOf_withRequest hitem hmatched howned
  have hbefore : item.reportedTokens = 0 := by
    unfold ModelRequestAccounting.reportedTokens
    rw [hsound.waiting item hitem hreserved]
    rfl
  refine ⟨limits, (ownerOf_ok howner).2 _ rfl, ?_, ?_⟩
  · rw [hsnap]
    rfl
  · rw [hsnap]
    show t.ledger.reportedOf attempt.ownerRunId = _
    rw [hbefore, Nat.add_zero] at hsum
    rw [hledger, hsum]
    rfl

/-- A continuable response is not denied. -/
theorem not_denied_of_continuable {attemptId : String}
    (hsound : LedgerSound s.store.records s.ledger)
    (h : recordResponse svc reads amb attemptId reservation usage s = .ok (answer, t))
    (hc : s.ledger.Continuable attemptId reservation usage) :
    continuation usage answer = .ok answer.1 := by
  obtain ⟨attempt, item, hcall⟩ := responseCall_of_ok h
  unfold continuation
  rcases hcall.answered with ⟨-, hreplay, -⟩ | ⟨hreserved, hfirst, -⟩
  · rw [if_pos hreplay]
  · obtain ⟨limits, hbinds, hlimits, hreported⟩ := hcall.reported hsound hreserved
    obtain ⟨total, htotal, hwithin⟩ := hc item hcall.stored hreserved
    have hle := hwithin attempt limits (attemptById_ok hcall.found).2.1 hbinds
    rw [htotal, Option.getD_some] at hreported
    rw [hfirst, htotal, if_neg (by decide), if_neg (by simp), if_neg]
    rintro ⟨found, hfound, hover⟩
    obtain rfl : limits = found := Option.some.inj (hlimits.symm.trans hfound)
    omega

/-- A response that is recorded and not continuable is denied. -/
theorem denied_of_not_continuable {attemptId : String}
    (hsound : LedgerSound s.store.records s.ledger)
    (h : recordResponse svc reads amb attemptId reservation usage s = .ok (answer, t))
    (hc : ¬ s.ledger.Continuable attemptId reservation usage) :
    RecordsDenied svc reads amb s attemptId reservation usage := by
  obtain ⟨attempt, item, hcall⟩ := responseCall_of_ok h
  unfold Ledger.Continuable at hc
  push Not at hc
  obtain ⟨item', hstored, hreserved, hc⟩ := hc
  obtain rfl : item = item' := Option.some.inj (hcall.stored.symm.trans hstored)
  have hfirst : answer.2 = false := by
    rcases hcall.answered with ⟨hsettled, -⟩ | ⟨-, hfirst, -⟩
    · exact absurd hreserved hsettled
    · exact hfirst
  obtain ⟨limits, hbinds, hlimits, hreported⟩ := hcall.reported hsound hreserved
  cases htotal : usage.totalTokens with
  | none =>
      refine ⟨answer, t, budgetInvalid, h, ?_⟩
      unfold continuation
      rw [hfirst, if_neg (by decide), if_pos htotal]
  | some total =>
      obtain ⟨found, limits', hfound, hbinds', hover⟩ := hc total htotal
      obtain rfl : attempt = found :=
        Option.some.inj ((attemptById_ok hcall.found).2.1.symm.trans hfound)
      obtain rfl := (hbinds.unique hbinds').2
      refine ⟨answer, t, budgetExhausted, h, ?_⟩
      unfold continuation
      rw [htotal, Option.getD_some] at hreported
      rw [hfirst, htotal, if_neg (by decide), if_neg (by simp), if_pos]
      exact ⟨limits, hlimits, by omega⟩

/-- A call that found or left the response recorded is repeated, with the same reads, as a
replay. -/
theorem replay_reads {attemptId : String} (amb' : Ambient)
    (h : ResponseCall svc reads amb s attemptId reservation usage answer t attempt item)
    (hreserved : item.outcome = .reserved) :
    ∃ snapshot, recordResponse svc reads amb' attemptId reservation usage t
      = .ok ((snapshot, true), t) := by
  rcases h.answered with ⟨hsettled, -⟩ | ⟨-, -, hledger, hsnapshot⟩
  · exact absurd hreserved hsettled
  have hsame : SameBindings s t := by
    refine ⟨h.records, ?_, ?_, ?_⟩ <;> rw [hledger] <;> rfl
  have hstored : t.ledger.request? attemptId reservation.requestSequence
      = some (recordedResponse reservation usage) := by
    rw [hledger]
    exact request?_withRequest h.stored h.matched
  have hsettled : (recordedResponse reservation usage).outcome ≠ .reserved := by
    unfold recordedResponse
    dsimp only
    split_ifs <;> decide
  obtain ⟨snapshot, hread⟩ := snapshotOf_later (amb'.clock 0) hsnapshot
  refine ⟨snapshot, ?_⟩
  unfold recordResponse
  rw [refuseIf_bind_ok]
  refine ⟨h.legible, bind_ok.mpr ⟨attempt, t, attemptById_same hsame h.found, ?_⟩⟩
  refine bind_ok.mpr ⟨recordedResponse reservation usage, t, ?_, ?_⟩
  · simp only [requestOf, bind_ok, refuseIf_ok, getLedger_ok, expect_ok, pure_ok, not_not]
    exact ⟨(), t, ⟨h.identity, rfl⟩, t.ledger, t, ⟨rfl, rfl⟩, _, t, ⟨hstored, rfl⟩, (), t,
      ⟨rfl, rfl⟩, rfl, rfl⟩
  · rw [if_pos hsettled, refuseIf_bind_ok]
    refine ⟨not_not.mpr ⟨usage, rfl, usage.pyEq_refl⟩, bind_ok.mpr ⟨snapshot, t, hread, rfl⟩⟩

/-- Once settled a request stays settled, so a later call for it is a replay. -/
theorem replay_of_settled {attemptId : String} {u : BudgetState}
    (hfollows : LedgerFollows s.ledger t.ledger)
    (hstored : s.ledger.request? attemptId reservation.requestSequence = some item)
    (hsettled : item.outcome ≠ .reserved)
    (h : recordResponse svc reads amb attemptId reservation usage t = .ok (answer, u)) :
    answer.2 = true := by
  obtain ⟨attempt, item', hcall⟩ := responseCall_of_ok h
  obtain ⟨hitem, hattempt, hsequence⟩ := Ledger.request?_mem hstored
  obtain ⟨hitem', hattempt', hsequence'⟩ := Ledger.request?_mem hcall.stored
  obtain ⟨later, hlater, hsame⟩ := hfollows.requests item hitem
  have hlater_eq : later = item := hsame.settled hsettled
  subst hlater_eq
  have heq : item' = later :=
    eq_of_clash hitem' hlater ⟨hattempt'.trans hattempt.symm, hsequence'.trans hsequence.symm⟩
  subst heq
  rcases hcall.answered with ⟨-, hreplay, -⟩ | ⟨hreserved, -⟩
  · exact hreplay
  · exact absurd hreserved hsettled

/-! ### Repetitions -/

/-- The input of a call of `record_response`. -/
def responseInput (reads : BudgetReads) (amb : Ambient) (attemptId : String)
    (reservation : ModelRequestReservation) (usage : UsageRecord) : BudgetInput :=
  .ledger (.recordResponse attemptId reservation usage) reads amb

/-- Whatever happens after a call, a repetition of it is refused when the continuation was denied,
and when it was not the repetition denies none either. -/
structure SameVerdict (svc : BudgetServices) (reads : BudgetReads) (amb : Ambient)
    (s : BudgetState) (attemptId : String) (reservation : ModelRequestReservation)
    (usage : UsageRecord) : Prop where
  denied : RecordsDenied svc reads amb s attemptId reservation usage →
    ∀ (after : List BudgetInput) (reads' : BudgetReads) (amb' : Ambient),
      let m := budgetMachine svc
      let first := m.next s (responseInput reads amb attemptId reservation usage)
      ∃ e, m.out (m.run first after) (responseInput reads' amb' attemptId reservation usage)
        = some (.error e)
  permitted : ∀ answer t, recordResponse svc reads amb attemptId reservation usage s
      = .ok (answer, t) → continuation usage answer = .ok answer.1 →
    ∀ (after : List BudgetInput) (reads' : BudgetReads) (amb' : Ambient),
      ¬ RecordsDenied svc reads' amb' ((budgetMachine svc).run t after) attemptId reservation
        usage

theorem next_of_recordResponse {attemptId : String}
    (h : recordResponse svc reads amb attemptId reservation usage s = .ok (answer, t)) :
    (budgetMachine svc).next s (responseInput reads amb attemptId reservation usage) = t
      ∧ (budgetMachine svc).out s (responseInput reads amb attemptId reservation usage)
        = some (.snapshot <$> continuation usage answer) := by
  have hbody : budgetBody svc reads amb (.recordResponse attemptId reservation usage) s
      = .ok (.response answer, t) := map_ok.mpr ⟨answer, h, rfl⟩
  have hcommit : commit (budgetBody svc reads amb (.recordResponse attemptId reservation usage)) s
      = (.ok (.response answer), t) := by
    unfold commit
    rw [hbody]
  refine ⟨?_, ?_⟩
  · show (commit (budgetBody svc reads amb _) s).2 = t
    rw [hcommit]
  · show some ((commit (budgetBody svc reads amb _) s).1 >>= _) = _
    rw [hcommit]
    rfl

theorem ledgerFollows_run (svc : BudgetServices) (s : BudgetState) (inputs : List BudgetInput) :
    LedgerFollows s.ledger ((budgetMachine svc).run s inputs).ledger := by
  induction inputs generalizing s with
  | nil => exact .refl _
  | cons input inputs ih =>
      have hstep := ledgerFollows_effect (ledgerEffect_of_step svc s input).2
      exact hstep.trans (ih _)

/-- After a call that was not refused its request is settled. -/
theorem ResponseCall.settled {attemptId : String} {reservation : ModelRequestReservation}
    {usage : UsageRecord} {answer : RunBudgetSnapshot × Bool} {attempt : RuntimeAttempt}
    {item : ModelRequestAccounting}
    (h : ResponseCall svc reads amb s attemptId reservation usage answer t attempt item) :
    ∃ later, t.ledger.request? attemptId reservation.requestSequence = some later
      ∧ later.outcome ≠ .reserved := by
  rcases h.answered with ⟨hsettled, -, rfl⟩ | ⟨-, -, hledger, -⟩
  · exact ⟨item, h.stored, hsettled⟩
  · refine ⟨recordedResponse reservation usage, ?_, ?_⟩
    · rw [hledger]
      exact request?_withRequest h.stored h.matched
    · unfold recordedResponse
      dsimp only
      split_ifs <;> decide

/-- In every reachable state a call of `record_response` and its repetitions have one verdict,
whatever lies between them, if and only if a response that the call records has a total with
which its owner stays within the token limit. -/
theorem same_verdict_iff (svc : BudgetServices) (store : Store) (before : List BudgetInput)
    (reads : BudgetReads) (amb : Ambient) (attemptId : String)
    (reservation : ModelRequestReservation) (usage : UsageRecord) :
    let s := (budgetMachine svc).run ⟨store, .empty⟩ before
    SameVerdict svc reads amb s attemptId reservation usage
      ↔ ((∃ answer t, recordResponse svc reads amb attemptId reservation usage s
          = .ok (answer, t)) → s.ledger.Continuable attemptId reservation usage) := by
  intro s
  have hsound : LedgerSound s.store.records s.ledger :=
    ((ledger_invariant svc).run ⟨ledgerSound_empty store.records, withinLimits_empty⟩ before).1
  constructor
  · rintro hsame ⟨answer, t, hok⟩
    by_contra hc
    obtain ⟨hnext, -⟩ := next_of_recordResponse hok
    obtain ⟨attempt, item, hcall⟩ := responseCall_of_ok hok
    have hreserved : item.outcome = .reserved := by
      by_contra hsettled
      refine hc fun found hfound hreserved => ?_
      obtain rfl : item = found := Option.some.inj (hcall.stored.symm.trans hfound)
      exact absurd hreserved hsettled
    -- the repetition at once, with the reads of the call, is a replay and permits
    obtain ⟨snapshot, hreplay⟩ := replay_reads amb hcall hreserved
    obtain ⟨-, hout⟩ := next_of_recordResponse hreplay
    obtain ⟨e, he⟩ := hsame.denied (denied_of_not_continuable hsound hok hc) [] reads amb
    rw [hnext, Machine.run_nil, hout] at he
    cases he
  · intro hc
    constructor
    · rintro ⟨answer, t, e, hok, hdenied⟩
      have hpermitted := not_denied_of_continuable hsound hok (hc ⟨answer, t, hok⟩)
      rw [hpermitted] at hdenied
      cases hdenied
    · rintro answer t hok - after reads' amb' ⟨answer', u, e, hagain, hdenied⟩
      obtain ⟨attempt, item, hcall⟩ := responseCall_of_ok hok
      obtain ⟨later, hstored, hsettled⟩ := hcall.settled
      have hreplay :=
        replay_of_settled (ledgerFollows_run svc t after) hstored hsettled hagain
      unfold continuation at hdenied
      rw [if_pos hreplay] at hdenied
      cases hdenied

/-! ### A permitted repetition -/

/-- The ledger with a reservation of six hundred tokens against a limit of a thousand. -/
def reservedState : BudgetState :=
  (budgetMachine sampleBudgetServices).run ⟨createdStore, .empty⟩ (sampleSpending.take 4)

/-- The reservation. -/
def sampleReservation : ModelRequestReservation :=
  ⟨"corr_00000000000000000000000000000000", 1, 600, 600, 0⟩

/-- A response beyond the limit. -/
def overshoot : UsageRecord := { requests := some 1, totalTokens := some 1500 }

/-- A response of fifteen hundred tokens is recorded and denied; the same call repeated at once
is permitted. -/
theorem overshoot_permitted : ¬ SameVerdict sampleBudgetServices sampleReads
    (sampleAmbient 0 "evt_1") reservedState sampleReservation.attemptId sampleReservation
    overshoot := by
  intro hsame
  let m := budgetMachine sampleBudgetServices
  let call := responseInput sampleReads (sampleAmbient 0 "evt_1") sampleReservation.attemptId
    sampleReservation overshoot
  have hrecorded : (recordResponse sampleBudgetServices sampleReads (sampleAmbient 0 "evt_1")
      sampleReservation.attemptId sampleReservation overshoot reservedState).isOk = true := by
    decide
  have hfirst : (m.out reservedState call).map Except.isOk = some false := by decide
  have hagain : (m.out (m.next reservedState call) call).map Except.isOk = some true := by decide
  cases hok : recordResponse sampleBudgetServices sampleReads (sampleAmbient 0 "evt_1")
      sampleReservation.attemptId sampleReservation overshoot reservedState with
  | error e =>
      rw [hok] at hrecorded
      cases hrecorded
  | ok result =>
      obtain ⟨answer, t⟩ := result
      obtain ⟨-, hout⟩ := next_of_recordResponse hok
      have hfirst_out : m.out reservedState call = _ := hout
      rw [hfirst_out] at hfirst
      cases hverdict : continuation overshoot answer with
      | ok =>
          rw [hverdict] at hfirst
          cases hfirst
      | error e =>
          obtain ⟨e', he⟩ := hsame.denied ⟨answer, t, e, hok, hverdict⟩ [] sampleReads
            (sampleAmbient 0 "evt_1")
          have hagain_out : m.out (m.next reservedState call) call = some (.error e') := he
          rw [hagain_out] at hagain
          cases hagain

end AgentFleet
