import AgentFleet.Budget.Replay
import AgentFleet.Evaluation.ExactlyOnce
import AgentFleet.Persistence.Journal

/-! # The commitments of a campaign

A reservation commits its envelope for ever: `Committed` says that the envelopes of every campaign
stay within its budget, and a later state holds every reservation of an earlier one.

A run can report more tokens than its envelope has.  `admits_of_campaign` says what `admitCampaign`
has found when it lets a campaign spend: each attempt counted with its envelope or with what it
reported, whichever is more, the campaign is within its budget, and every usage is known. -/

namespace AgentFleet.Evaluation

open Relational Relational.Table Transaction Transition

variable {svc : EvaluationServices} {reads : EvaluationReads} {amb : Ambient}
  {s t : EvaluationState}

/-! ### Envelopes -/

theorem envelopesOf_perm {items items' : List EvaluationReservation} (h : items.Perm items') :
    envelopesOf items = envelopesOf items' := by
  have hsum (field : EvaluationRunBudget → ℕ) : sumCommitted field items = sumCommitted field items' :=
    (h.map _).sum_eq
  unfold envelopesOf
  rw [h.length_eq, hsum, hsum, hsum, hsum, hsum]

/-- The envelopes of every campaign are within its budget. -/
def EvaluationState.Committed (s : EvaluationState) : Prop :=
  ∀ row ∈ s.campaigns,
    (envelopesOf (s.reservationsOf row.campaignId)).within row.registration.manifest.budget

theorem campaign?_mem {campaignId : String} {row : CampaignRow} (h : s.campaign? campaignId = some row) :
    row ∈ s.campaigns ∧ row.campaignId = campaignId :=
  ⟨mem_of_find? h, by simpa using prop_of_find? h⟩

/-- The envelopes that a snapshot has checked. -/
theorem Snapshots.within {campaignId : String} {snapshot : EvaluationLedgerSnapshot}
    (h : Snapshots svc s campaignId snapshot) {row : CampaignRow} (hrow : row ∈ s.campaigns)
    (hid : row.campaignId = campaignId) :
    (envelopesOf (s.reservationsOf campaignId)).within row.registration.manifest.budget := by
  obtain ⟨found, hfound, hregistration⟩ := h.row
  obtain ⟨hmem, hfoundId⟩ := campaign?_mem hfound
  obtain rfl : found = row := eq_of_clash hmem hrow (.inl (hfoundId.trans hid.symm))
  obtain ⟨-, -, -, -, -, -, -, hcommitted, hwithin, -⟩ := h.valid
  rw [hcommitted, envelopesOf_perm h.reservations] at hwithin
  unfold EvaluationLedgerSnapshot.manifest at hwithin
  rwa [hregistration] at hwithin

theorem Committed.step (h : s.Committed) (hmove : EvaluationMove svc s t) : t.Committed := by
  cases hmove with
  | shared => exact h
  | registered hinsert hslots hvalid =>
      intro row hmem
      rcases (mem_insert hinsert).mp hmem with hold | rfl
      · exact h row hold
      · exact hvalid.within hmem rfl
  | reserved hitem hvalid =>
      rename_i item reservations snapshot
      intro row hmem
      by_cases hid : row.campaignId = item.campaignId
      · rw [hid]
        exact hvalid.within hmem hid
      · have hsame : EvaluationState.reservationsOf { s with reservations } row.campaignId
            = s.reservationsOf row.campaignId := by
          unfold EvaluationState.reservationsOf
          rw [filter_insert hitem, if_neg (by simpa using Ne.symm hid), List.append_nil]
        rw [hsame]
        exact h row hmem
  | recorded hrecord hfree hsnapshot hextended | executed hrecord hreserved hfree hactive
  | ended => exact h

theorem committed_invariant (svc : EvaluationServices) :
    (evaluationMachine svc).Invariant EvaluationState.Committed :=
  (evaluationMoves svc).invariant fun _ _ hmove h => Committed.step h hmove

theorem committed_fresh (database : Database) : (EvaluationState.fresh database).Committed :=
  fun _ hrow => absurd hrow (not_mem_empty _)

/-! ### Executions and their reservations -/

/-- Every execution is of a reservation of its campaign. -/
def EvaluationState.Referenced (s : EvaluationState) : Prop :=
  ∀ row ∈ s.executions, s.hasReservation row.campaignId row.attemptId

theorem hasReservation_grows (h : EvaluationGrows s t) {campaignId attemptId : String}
    (hitem : s.hasReservation campaignId attemptId) : t.hasReservation campaignId attemptId := by
  obtain ⟨item, hmem, hids⟩ := hitem
  exact ⟨item, mem_of_carries_eq h.reservations hmem, hids⟩

theorem Referenced.step (h : s.Referenced) (hmove : EvaluationMove svc s t) : t.Referenced := by
  have hgrows := EvaluationGrows.of_move hmove
  have hkept : ∀ row ∈ s.executions, t.hasReservation row.campaignId row.attemptId :=
    fun row hrow => hasReservation_grows hgrows (h row hrow)
  cases hmove with
  | shared database | registered hrow hslots hvalid | reserved hitem hvalid
  | recorded => exact hkept
  | executed hrecord hreserved =>
      intro row hrow
      rcases (mem_insert hrecord).mp hrow with hold | rfl
      · exact hkept row hold
      · exact hreserved
  | ended hactive hstatus hrecord =>
      intro row hrow
      rcases (mem_replace? hrecord).mp hrow with rfl | ⟨hold, -⟩
      · have hbefore := hkept _ (replace?_eq_some hrecord).1
        exact hbefore
      · exact hkept row hold

theorem referenced_invariant (svc : EvaluationServices) :
    (evaluationMachine svc).Invariant EvaluationState.Referenced :=
  (evaluationMoves svc).invariant fun _ _ hmove h => Referenced.step h hmove

theorem referenced_fresh (database : Database) : (EvaluationState.fresh database).Referenced :=
  fun _ hrow => absurd hrow (not_mem_empty _)

variable {item : EvaluationReservation} {row record : EvaluationExecutionRecord} {u : Unit}
  {clock : ℕ → Timestamp} {runId : String}

/-- The execution of a reserved attempt is one of the campaign of the reservation. -/
theorem Referenced.campaign (h : s.Referenced) (hitem : item ∈ s.reservations)
    (hrow : row ∈ s.executions) (hattempt : row.attemptId = item.attemptId) :
    row.campaignId = item.campaignId := by
  obtain ⟨reserved, hmem, hcampaign, hid⟩ := h row hrow
  obtain rfl : reserved = item := eq_of_clash hmem hitem (.inl (hid.trans hattempt))
  exact hcampaign.symm

/-! ### What the checks of an execution have found -/

theorem maxTotalTokens_of_limits? {budget : EvaluationRunBudget} {limits : RunBudgetLimits}
    (h : budget.limits? = some limits) : limits.maxTotalTokens = budget.maxTotalTokens := by
  unfold EvaluationRunBudget.limits? at h
  split_ifs at h
  obtain rfl := Option.some.inj h
  rfl

theorem nodup_caseIds {models : EvaluationModels} {manifest : EvaluationManifest}
    (h : manifest.validates models) : (manifest.cases.map EvaluationCase.caseId).Nodup := by
  obtain ⟨-, -, -, -, -, -, -, -, -, -, -, -, -, hcases, -⟩ := h
  exact hcases

theorem askBudget_ok {α : Type} {x : BudgetTxn α} {a : α} :
    askBudget s x = .ok a ↔ ∃ u, x s.budget = .ok (a, u) := by
  unfold askBudget
  cases x s.budget with
  | error => simp
  | ok answer =>
      obtain ⟨b, u⟩ := answer
      simp

/-- The envelope of an execution that was checked is that of its reservation, and the accounting
binds its run to that envelope. -/
structure Checked (svc : EvaluationServices) (reads : EvaluationReads) (s : EvaluationState)
    (record : EvaluationExecutionRecord) : Prop where
  envelope : ∃ item ∈ s.reservationsOf record.campaignId, item.attemptId = record.attemptId
    ∧ item.commitment.maxTotalTokens = record.binding.limits.maxTotalTokens
  owner : ownerOf reads.budget record.rootRunId s.budget
    = .ok (some (record.rootRunId, record.binding.limits), s.budget)

theorem declaredBy_ok {manifest : EvaluationManifest} {caseId : String} {declared : EvaluationCase}
    {repo : EvaluationRepository} (h : declaredBy manifest caseId = .ok (declared, repo)) :
    declared ∈ manifest.cases ∧ declared.caseId = caseId := by
  obtain ⟨found, hfound, h⟩ := Checks.bind_ok.mp h
  obtain ⟨_, -, h⟩ := Checks.bind_ok.mp h
  obtain ⟨rfl, rfl⟩ := Prod.mk.inj (Checks.return_ok.mp h)
  rw [Checks.demand_ok] at hfound
  exact ⟨List.mem_of_find?_eq_some hfound, by simpa using List.find?_some hfound⟩

theorem manifestOf_ok {submission : EvaluationSubmission} {manifest : EvaluationManifest}
    (h : manifestOf svc s submission = .ok manifest) :
    manifest.validates svc.toEvaluationModels
      ∧ ∃ item ∈ s.reservationsOf submission.campaignId, item.attemptId = submission.attemptId
        ∧ ∃ declared ∈ manifest.cases, declared.caseId = submission.caseId
          ∧ item.commitment = declared.runBudget := by
  obtain ⟨-, h⟩ := Checks.refuse_bind_ok.mp h
  obtain ⟨-, h⟩ := Checks.refuse_bind_ok.mp h
  obtain ⟨snapshot, hsnapshot, h⟩ := Checks.bind_ok.mp h
  obtain ⟨hreserved, h⟩ := Checks.refuse_bind_ok.mp h
  obtain rfl := Checks.return_ok.mp h
  obtain ⟨item, hitem, hattempt, hcase, -⟩ := not_not.mp (not_or.mp hreserved).2
  have hread := snapshotOf_ok hsnapshot
  refine ⟨hread.registration.1, item, hread.reservations.mem_iff.mp hitem, hattempt, ?_⟩
  obtain ⟨-, -, -, hregisters, -⟩ := hread.valid
  obtain ⟨-, -, -, ⟨declared, hdeclared, hcommitment⟩, -⟩ := hregisters item hitem
  refine ⟨declared, Keyed.mem_of_get? hdeclared, ?_, hcommitment⟩
  rw [← hcase]
  exact Keyed.key_of_get? hdeclared

theorem checkRecord_ok (h : checkRecord svc reads s record = .ok u) :
    Checked svc reads s record := by
  obtain ⟨-, h⟩ := Checks.refuse_bind_ok.mp h
  obtain ⟨-, h⟩ := Checks.refuse_bind_ok.mp h
  obtain ⟨manifest, hmanifest, h⟩ := Checks.bind_ok.mp h
  obtain ⟨⟨declared, repo⟩, hdeclared, h⟩ := Checks.bind_ok.mp h
  obtain ⟨run, -, h⟩ := Checks.bind_ok.mp h
  obtain ⟨_, -, h⟩ := Checks.bind_ok.mp h
  obtain ⟨-, h⟩ := Checks.refuse_bind_ok.mp h
  obtain ⟨-, h⟩ := Checks.refuse_bind_ok.mp h
  obtain ⟨hbinding, h⟩ := Checks.refuse_bind_ok.mp h
  obtain ⟨profiles, -, h⟩ := Checks.bind_ok.mp h
  obtain ⟨bound, -, h⟩ := Checks.bind_ok.mp h
  obtain ⟨-, h⟩ := Checks.refuse_bind_ok.mp h
  obtain ⟨owner, howner, h⟩ := Checks.bind_ok.mp h
  obtain ⟨hbound, -⟩ := Checks.refuse_bind_ok.mp h
  refine ⟨?_, ?_⟩
  · obtain ⟨hvalid, item, hitem, hattempt, stated, hstated, hcase, hcommitment⟩ :=
      manifestOf_ok hmanifest
    obtain ⟨hmem, hdeclaredCase⟩ := declaredBy_ok hdeclared
    obtain rfl : stated = declared := List.inj_on_of_nodup_map (nodup_caseIds hvalid) hstated hmem
      (hcase.trans hdeclaredCase.symm)
    obtain ⟨-, -, -, -, -, -, -, hlimits, -⟩ := not_not.mp hbinding
    refine ⟨item, hitem, hattempt, ?_⟩
    rw [hcommitment, maxTotalTokens_of_limits? hlimits]
  · obtain ⟨u, hu⟩ := askBudget_ok.mp howner
    obtain rfl := not_not.mp hbound
    obtain ⟨rfl, -⟩ := ownerOf_ok hu
    exact hu

/-! ### Overruns -/

/-- What a run reported is what its snapshot counts. -/
theorem reportedTotalTokens_buildSnapshot (bsvc : BudgetServices) (now : Timestamp) (l : Ledger)
    (runId ownerRunId : String) (limits : RunBudgetLimits) :
    (buildSnapshot bsvc now l runId ownerRunId limits).reportedTotalTokens = l.reportedOf ownerRunId :=
  rfl

theorem overrunOf_ok {now : Timestamp} {overrun : Overrun} (hrow : row ∈ s.executions)
    (h : overrunOf svc reads s now row = .ok overrun) :
    Checked svc reads s row
      ∧ overrun.tokens = s.database.ledger.reportedOf row.rootRunId
        - row.binding.limits.maxTotalTokens
      ∧ s.database.ledger.Complete row.rootRunId := by
  obtain ⟨found, hfound, h⟩ := Checks.bind_ok.mp h
  obtain ⟨record, hrecord, h⟩ := Checks.bind_ok.mp h
  obtain ⟨usage, husage, hrest⟩ := Checks.bind_ok.mp h
  obtain ⟨hcomplete, hanswer⟩ := Checks.refuse_bind_ok.mp hrest
  obtain rfl := Checks.demand_ok.mp hrecord
  obtain ⟨hstored, hchecks⟩ := recordOf_ok hfound
  obtain ⟨hmem, hroot⟩ := execution?_mem hstored
  obtain rfl : record = row := eq_of_clash hmem hrow (.inr hroot)
  have hchecked := checkRecord_ok hchecks
  obtain ⟨u, hu⟩ := askBudget_ok.mp husage
  obtain ⟨rfl, -⟩ := AgentFleet.snapshotOf_ok hu
  have hbuilt := snapshotOf_bound hchecked.owner hu
  obtain ⟨hknown, -⟩ := not_or.mp hcomplete
  have hread := Checks.return_ok.mp hanswer
  rw [hbuilt] at hknown hread
  rw [← hread, reportedTotalTokens_buildSnapshot]
  exact ⟨hchecked, rfl, complete_of_snapshot (not_not.mp hknown)⟩

/-! ### Admission -/

/-- The tokens that the run of an attempt reported. -/
def EvaluationState.reportedFor (s : EvaluationState) (attemptId : String) : ℕ :=
  match s.executionOf? attemptId with
  | none => 0
  | some row => s.database.ledger.reportedOf row.rootRunId

/-- The tokens that the run of an attempt reported beyond its envelope. -/
def EvaluationState.beyondFor (s : EvaluationState) (attemptId : String) : ℕ :=
  match s.executionOf? attemptId with
  | none => 0
  | some row => s.database.ledger.reportedOf row.rootRunId - row.binding.limits.maxTotalTokens

/-- What a campaign may spend more under: each attempt counted with its envelope or with what it
reported, its tokens are within the budget, and every usage is known. -/
structure EvaluationState.Admits (s : EvaluationState) (campaignId : String) : Prop where
  tokens : ∀ row ∈ s.campaigns, row.campaignId = campaignId →
    ((s.reservationsOf campaignId).map fun item =>
        max item.commitment.maxTotalTokens (s.reportedFor item.attemptId)).sum
      ≤ row.registration.manifest.budget.maxTotalTokens
  known : ∀ row ∈ s.executionsOf campaignId, s.database.ledger.Complete row.rootRunId

/-- The execution of an attempt, by its row. -/
theorem executionOf?_of_mem (hrow : row ∈ s.executions) : s.executionOf? row.attemptId = some row :=
  find?_eq_some hrow (decide_eq_true rfl) fun _ hsame => .inl (of_decide_eq_true hsame)

/-- What a reserved attempt counts for is its envelope and what it reported beyond it. -/
theorem max_reportedFor (hreferenced : s.Referenced) {campaignId : String}
    (hchecked : ∀ row ∈ s.executionsOf campaignId, Checked svc reads s row)
    (hitem : item ∈ s.reservationsOf campaignId) :
    max item.commitment.maxTotalTokens (s.reportedFor item.attemptId)
      = item.commitment.maxTotalTokens + s.beyondFor item.attemptId := by
  unfold EvaluationState.reportedFor EvaluationState.beyondFor
  cases hknown : s.executionOf? item.attemptId with
  | none =>
      dsimp only
      omega
  | some row =>
      obtain ⟨hrow, hattempt⟩ := executionOf?_mem hknown
      obtain ⟨hmem, hcampaign⟩ := List.mem_filter.mp hitem
      have hof : row ∈ s.executionsOf campaignId := by
        have hsame := Referenced.campaign hreferenced hmem hrow hattempt
        exact List.mem_filter.mpr ⟨hrow, decide_eq_true (hsame.trans (of_decide_eq_true hcampaign))⟩
      obtain ⟨reserved, hreserved, hid, henvelope⟩ := (hchecked row hof).envelope
      obtain rfl : reserved = item := by
        refine eq_of_clash (t := s.reservations) (List.mem_filter.mp hreserved).1 hmem (.inl ?_)
        exact hid.trans hattempt
      dsimp only
      omega

/-- What the attempts of a campaign reported beyond their envelopes is what its executions did. -/
theorem sum_beyondFor {campaignId : String}
    (hreferenced : s.Referenced)
    (hchecked : ∀ row ∈ s.executionsOf campaignId, Checked svc reads s row) :
    ((s.reservationsOf campaignId).map fun item => s.beyondFor item.attemptId).sum
      = ((s.executionsOf campaignId).map fun row =>
          s.database.ledger.reportedOf row.rootRunId - row.binding.limits.maxTotalTokens).sum := by
  have hitems : ((s.reservationsOf campaignId).map EvaluationReservation.attemptId).Nodup := by
    refine List.pairwise_map.mpr ((s.reservations.unique.filter _).imp ?_)
    exact fun hclash hsame => hclash (.inl hsame)
  have hrows : ((s.executionsOf campaignId).map EvaluationExecutionRecord.attemptId).Nodup := by
    refine List.pairwise_map.mpr ((s.executions.unique.filter _).imp ?_)
    exact fun hclash hsame => hclash (.inl hsame)
  have hsub : ∀ attemptId ∈ (s.executionsOf campaignId).map EvaluationExecutionRecord.attemptId,
      attemptId ∈ (s.reservationsOf campaignId).map EvaluationReservation.attemptId := by
    intro attemptId hattempt
    obtain ⟨row, hrow, rfl⟩ := List.mem_map.mp hattempt
    obtain ⟨item, hitem, hid, -⟩ := (hchecked row hrow).envelope
    have hcampaign : row.campaignId = campaignId := of_decide_eq_true (List.mem_filter.mp hrow).2
    rw [hcampaign] at hitem
    exact List.mem_map.mpr ⟨item, hitem, hid⟩
  have hzero : ∀ attemptId ∈ (s.reservationsOf campaignId).map EvaluationReservation.attemptId,
      attemptId ∉ (s.executionsOf campaignId).map EvaluationExecutionRecord.attemptId →
        s.beyondFor attemptId = 0 := by
    intro attemptId hattempt hfree
    obtain ⟨item, hitem, rfl⟩ := List.mem_map.mp hattempt
    obtain ⟨hmem, hcampaign⟩ := List.mem_filter.mp hitem
    have hnone : s.executionOf? item.attemptId = none := by
      refine executionOf?_eq_none.mpr fun row hrow hid => hfree ?_
      have hsame := (Referenced.campaign hreferenced hmem hrow hid).trans (of_decide_eq_true hcampaign)
      exact List.mem_map.mpr ⟨row, List.mem_filter.mpr ⟨hrow, decide_eq_true hsame⟩, hid⟩
    unfold EvaluationState.beyondFor
    rw [hnone]
  have hsum := Counter.sum_map_of_subset hitems hrows hsub hzero
  rw [List.map_map, List.map_map] at hsum
  have hread : (s.executionsOf campaignId).map (s.beyondFor ∘ EvaluationExecutionRecord.attemptId)
      = (s.executionsOf campaignId).map fun row =>
          s.database.ledger.reportedOf row.rootRunId - row.binding.limits.maxTotalTokens := by
    refine List.map_congr_left fun row hrow => ?_
    dsimp only [Function.comp]
    unfold EvaluationState.beyondFor
    rw [executionOf?_of_mem (List.mem_filter.mp hrow).1]
  rw [hread] at hsum
  exact hsum

/-- A campaign that is let spend more may. -/
theorem admits_of_campaign (hreferenced : s.Referenced) {campaignId : String}
    (h : admitCampaign svc reads s clock campaignId = .ok u) : s.Admits campaignId := by
  obtain ⟨snapshot, hsnapshot, h⟩ := Checks.bind_ok.mp h
  obtain ⟨-, h⟩ := Checks.refuse_bind_ok.mp h
  obtain ⟨-, h⟩ := Checks.refuse_bind_ok.mp h
  obtain ⟨overruns, hoverruns, h⟩ := Checks.bind_ok.mp h
  have hbudget := Checks.refuse_ok.mp h
  have hread := snapshotOf_ok hsnapshot
  have hfound : ∀ row ∈ s.executionsOf campaignId, Checked svc reads s row
      ∧ s.database.ledger.Complete row.rootRunId := by
    intro row hrow
    obtain ⟨index, hindex⟩ := List.mem_iff_getElem?.mp hrow
    obtain ⟨overrun, hoverrun⟩ := Checks.exists_mapM_ok.mp ⟨overruns, hoverruns⟩ (row, index)
      (List.mk_mem_zipIdx_iff_getElem?.mpr hindex)
    obtain ⟨hchecked, -, hcomplete⟩ := overrunOf_ok (List.mem_filter.mp hrow).1 hoverrun
    exact ⟨hchecked, hcomplete⟩
  have htokens : overruns.map Overrun.tokens = (s.executionsOf campaignId).map fun row =>
      s.database.ledger.reportedOf row.rootRunId - row.binding.limits.maxTotalTokens := by
    rw [Checks.map_of_mapM_mem hoverruns (k := fun indexed =>
      s.database.ledger.reportedOf indexed.1.rootRunId - indexed.1.binding.limits.maxTotalTokens)]
    · rw [← List.zipIdx_map_fst 0 (s.executionsOf campaignId), List.map_map,
        List.zipIdx_map_fst]
      rfl
    · intro indexed hindexed overrun hoverrun
      have hrow := List.fst_mem_of_mem_zipIdx hindexed
      exact (overrunOf_ok (List.mem_filter.mp hrow).1 hoverrun).2.1
  refine ⟨?_, fun row hrow => (hfound row hrow).2⟩
  intro row hrow hid
  obtain ⟨found, hstored, hregistration⟩ := hread.row
  obtain ⟨hmem, hfoundId⟩ := campaign?_mem hstored
  obtain rfl : found = row := eq_of_clash hmem hrow (.inl (hfoundId.trans hid.symm))
  obtain ⟨-, -, -, -, -, -, -, hcommitted, -⟩ := hread.valid
  rw [htokens, hcommitted, envelopesOf_perm hread.reservations] at hbudget
  unfold EvaluationLedgerSnapshot.manifest at hbudget
  rw [hregistration] at hbudget
  have hsum := sum_beyondFor hreferenced fun row hrow => (hfound row hrow).1
  have hmax : (s.reservationsOf campaignId).map (fun item =>
        max item.commitment.maxTotalTokens (s.reportedFor item.attemptId))
      = (s.reservationsOf campaignId).map fun item =>
        item.commitment.maxTotalTokens + s.beyondFor item.attemptId :=
    List.map_congr_left fun item hitem =>
      max_reportedFor hreferenced (fun row hrow => (hfound row hrow).1) hitem
  have hcount : (envelopesOf (s.reservationsOf campaignId)).totalTokens
      = ((s.reservationsOf campaignId).map fun item => item.commitment.maxTotalTokens).sum := rfl
  rw [hmax, List.sum_map_add, hsum, ← hcount]
  exact Nat.le_of_not_lt (not_or.mp hbudget).1

/-! ### Spending -/

/-- The run is the root run of an execution, or a child of it. -/
def EvaluationState.RunsFor (s : EvaluationState) (runId : String)
    (record : EvaluationExecutionRecord) : Prop :=
  record ∈ s.executions ∧ ∃ row, s.database.store.records.runRow? runId = some row
    ∧ row.run.parentRunId.getD runId = record.rootRunId

theorem runOf_ok {runId : String} {run : Run} (h : runOf svc s runId = .ok run) :
    run.runId = runId ∧ ∃ row, s.database.store.records.runRow? runId = some row ∧ row.run = run := by
  unfold runOf at h
  cases hread : validatedRun svc.toServices runId s.database.store with
  | error =>
      rw [hread] at h
      cases h
  | ok answer =>
      obtain ⟨found, u⟩ := answer
      rw [hread] at h
      obtain rfl : found = run := Except.ok.inj h
      obtain ⟨-, ⟨row, hrow, -, -, rfl⟩, -⟩ := validatedRun_ok.mp hread
      exact ⟨(Records.runRow?_mem hrow).2, row, hrow, rfl⟩

/-- The execution that is found for a run is the one that the run is of. -/
theorem executionForRun_ok {found : Option EvaluationExecutionRecord}
    (hrun : s.RunsFor runId record) (h : executionForRun svc reads s runId = .ok found) :
    found = some record := by
  obtain ⟨hmem, row, hrow, hroot⟩ := hrun
  obtain ⟨run, hread, h⟩ := Checks.bind_ok.mp h
  obtain ⟨root, hparent, hrest⟩ := Checks.bind_ok.mp h
  obtain ⟨-, hrecord⟩ := Checks.refuse_bind_ok.mp hrest
  obtain ⟨hid, stored, hstored, rfl⟩ := runOf_ok hread
  obtain rfl : stored = row := Option.some.inj (hstored.symm.trans hrow)
  have hrootId : root.runId = record.rootRunId := by
    unfold rootOf at hparent
    cases hp : stored.run.parentRunId with
    | none =>
        rw [hp] at hparent hroot
        obtain rfl := Checks.return_ok.mp hparent
        exact hid.trans hroot
    | some =>
        rw [hp] at hparent hroot
        exact (runOf_ok hparent).1.trans hroot
  rw [hrootId] at hrecord
  cases found with
  | none =>
      have hknown : s.execution? record.rootRunId = some record :=
        find?_eq_some hmem (decide_eq_true rfl) fun _ hsame => .inr (of_decide_eq_true hsame)
      unfold recordOf at hrecord
      rw [hknown] at hrecord
      obtain ⟨_, -, hreturn⟩ := Checks.bind_ok.mp hrecord
      cases Checks.return_ok.mp hreturn
  | some =>
      obtain ⟨hother, hotherRoot⟩ := execution?_mem (recordOf_ok hrecord).1
      rw [eq_of_clash hother hmem (.inr hotherRoot)]

/-- A run that its campaign does not refuse is active, and the campaign may spend more. -/
theorem admits_of_campaignAdmission (hreferenced : s.Referenced) (hrun : s.RunsFor runId record)
    (h : errorOf (campaignAdmission svc reads s clock runId) = none) :
    record.status = .active ∧ s.Admits record.campaignId := by
  cases hasked : campaignAdmission svc reads s clock runId with
  | error =>
      rw [hasked] at h
      cases h
  | ok =>
      obtain ⟨found, hfound, hrest⟩ := Checks.bind_ok.mp hasked
      obtain rfl := executionForRun_ok hrun hfound
      obtain ⟨hactive, hallowed⟩ := Checks.refuse_bind_ok.mp hrest
      exact ⟨not_not.mp hactive, admits_of_campaign hreferenced hallowed⟩

/-- The calls that spend for a campaign: the accounting of one of its runs, and the registration of
a new one.  The registration of a stored attempt returns its record and claims nothing. -/
inductive Spends (s : EvaluationState) : EvaluationOp → String → Prop where
  | accounting {op : BudgetOp} {runId : String} {record : EvaluationExecutionRecord}
      (hspends : op.spendsFor? s.database.ledger = some runId) (hrun : s.RunsFor runId record) :
      Spends s (.database (.ledger op)) record.campaignId
  | registration {submission : EvaluationSubmission} {run : Run} {admission : EvaluationAdmission}
      {bindings : RunModelBindings} (hfree : s.executionOf? submission.attemptId = none) :
      Spends s (.registerExecution submission run admission bindings) submission.campaignId

theorem admits_of_spends (hreferenced : s.Referenced) {op : EvaluationOp} {campaignId : String}
    (hspends : Spends s op campaignId) {result : EvaluationResult}
    (h : evaluationBody svc reads amb op s = .ok (result, t)) : s.Admits campaignId := by
  cases hspends with
  | accounting hspends hrun =>
      obtain ⟨answer, hbody, -⟩ := map_ok.mp h
      obtain ⟨database, hshared, -⟩ := sharedBody_ok hbody
      obtain ⟨budgeted, hledger, -⟩ := map_ok.mp hshared
      obtain ⟨after, hcall, -⟩ := onLedger_ok.mp hledger
      exact (admits_of_campaignAdmission hreferenced hrun (admitted_of_body hspends hcall)).2
  | registration hfree =>
      obtain ⟨registration, hbody, -⟩ := map_ok.mp h
      cases registerExecution_ok (withinBoundary_ok.mp hbody) with
      | replayed hstored =>
          rw [hfree] at hstored
          cases hstored
      | new _ _ _ _ hallowed => exact admits_of_campaign hreferenced hallowed

/-! ### Commitments over runs -/

/-- Two reservations of a campaign are of one slot when they are under one key. -/
theorem slot_iff_key (hgrows : EvaluationGrows s t) {a b : EvaluationReservation}
    (ha : a ∈ s.reservations) (hb : b ∈ t.reservations) (hcampaign : a.campaignId = b.campaignId) :
    a.slot = b.slot ↔ a.idempotencySha256 = b.idempotencySha256 := by
  have hlater := mem_of_carries_eq hgrows.reservations ha
  constructor
  · intro hslot
    rw [eq_of_clash hlater hb (.inr ⟨hcampaign, .inl hslot⟩)]
  · intro hkey
    rw [eq_of_clash hlater hb (.inr ⟨hcampaign, .inr hkey⟩)]

/-- Whatever calls are made, the envelopes of a campaign stay within the budget that it was
registered with and are kept for ever, its slots and keys correspond, a reservation is of the slot
and the key that were asked for, and what spends for the campaign is answered only if the campaign
admits it. -/
theorem campaign_commitments (svc : EvaluationServices) (database : Database)
    (before later : List EvaluationInput) :
    let s := (evaluationMachine svc).run (.fresh database) before
    let t := (evaluationMachine svc).run s later
    (∀ row ∈ s.campaigns, row ∈ t.campaigns
        ∧ (envelopesOf (s.reservationsOf row.campaignId)).within row.registration.manifest.budget)
      ∧ (∀ item ∈ s.reservations, item ∈ t.reservations)
      ∧ (∀ a ∈ s.reservations, ∀ b ∈ t.reservations, a.campaignId = b.campaignId →
        (a.slot = b.slot ↔ a.idempotencySha256 = b.idempotencySha256))
      ∧ ∀ input result, (evaluationMachine svc).out s input = .ok result →
        (∀ campaignId caseId repetition idempotencyKey,
          input.op = .reserve campaignId caseId repetition idempotencyKey →
            ∃ item ∈ ((evaluationMachine svc).next s input).reservations,
              result = .reservation item ∧ Reserves item campaignId ⟨caseId, repetition.toNat⟩
                (svc.keySha256 idempotencyKey))
        ∧ ∀ campaignId, Spends s input.op campaignId → s.Admits campaignId := by
  intro s t
  have hgrows : EvaluationGrows s t := evaluation_grows svc s later
  have hcommitted : s.Committed :=
    (committed_invariant svc).run (committed_fresh database) before
  have hreferenced : s.Referenced :=
    (referenced_invariant svc).run (referenced_fresh database) before
  refine ⟨?_, ?_, ?_, ?_⟩
  · intro row hrow
    exact ⟨mem_of_carries_eq hgrows.campaigns hrow, hcommitted row hrow⟩
  · intro item hitem
    exact mem_of_carries_eq hgrows.reservations hitem
  · intro a ha b hb hcampaign
    exact slot_iff_key hgrows ha hb hcampaign
  · intro input result hout
    have hbody := body_of_out hout
    refine ⟨?_, ?_⟩
    · intro campaignId caseId repetition idempotencyKey hop
      rw [hop] at hbody
      obtain ⟨item, hcall, rfl⟩ := map_ok.mp hbody
      obtain ⟨hstored, hreserves, -⟩ := reserve_ok (withinBoundary_ok.mp hcall)
      exact ⟨item, hstored, rfl, hreserves⟩
    · intro campaignId hspends
      exact admits_of_spends hreferenced hspends hbody

end AgentFleet.Evaluation
