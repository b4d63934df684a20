import AgentFleet.Persistence.Evolution

/-! # Pending requests and the run that waits for them

A run names the one request it waits for.  `resolve_approval` settles a request only while
its run names it, so a PENDING request that its run does not name can never be settled.

`create_approval_and_pause` puts its own request in the run's field and leaves the test to
`validate_transition`, which lets a run that already waits pause again.

* `PendingNamed` says that every PENDING request is named by its run.
* `KeepsPending` is the condition on a transaction and the records before it.
* `pendingNamed_step` says that a transaction keeps `PendingNamed` exactly when it meets the
  condition. -/

namespace AgentFleet

open Relational Transaction Transition

variable {svc : Services} {amb : Ambient}

/-! ### The property -/

/-- The run names the request as the one it waits for. -/
def Records.Waits (r : Records) (request : ApprovalRequest) : Prop :=
  ∃ row ∈ r.runs, row.run.runId = request.runId
    ∧ row.run.pendingApprovalId = some request.requestId
deriving Decidable

/-- Every PENDING request is the one its run waits for. -/
def PendingNamed (r : Records) : Prop :=
  ∀ request ∈ r.approvals, request.status = .pending → r.Waits request
deriving Decidable

/-- The run has no PENDING request. -/
def Records.NoPending (r : Records) (runId : String) : Prop :=
  ∀ request ∈ r.approvals, request.status = .pending → request.runId ≠ runId

variable {s : Store} {r r' : Records} {intent : ToolIntent} {intentHash : Sha256} {op : StoreOp}

/-! ### When the transactions that write a run take effect -/

/-- `create_approval_and_pause` takes effect: the key, the intent and the request are new, and
the run may be PAUSED_FOR_APPROVAL in its stage. -/
structure PauseAdmitted (r : Records) (intent : ToolIntent) (request : ApprovalRequest) :
    Prop where
  newKey : r.intentByKey? intent.runId intent.idempotencyKey = none
  newIntent : r.intent? intent.intentId = none
  newRequest : ∀ q ∈ r.approvals, ¬ clash q request
  transition : ∃ row, r.runRow? intent.runId = some row
    ∧ transitionAllowed row.run .pausedForApproval row.run.stage

/-- `save_run` takes effect: the run is safe to record, and its state may follow the recorded
one. -/
structure SaveAdmitted (svc : Services) (r : Records) (run : Run) : Prop where
  safe : svc.stateRecordSafe run = true
  identity : svc.redactor.containsSecretData (.str run.runId) = false
  transition : ∃ row, r.runRow? run.runId = some row ∧ svc.stateRecordSafe row.run = true
    ∧ row.run.projectId = row.projectId ∧ transitionAllowed row.run run.status run.stage

theorem Paused.admitted {request : ApprovalRequest} (h : Paused r intent intentHash request r') :
    PauseAdmitted r intent request := by
  obtain ⟨row, r₁, approvals, hrow, hallowed, ⟨T, hT, rfl⟩, -, happ, -⟩ := h.written
  refine ⟨h.fresh, ?_, fun q => Table.not_clash_of_insert happ, row, hrow, hallowed⟩
  refine Table.find?_eq_none.mpr fun a ha hid => Table.not_clash_of_insert hT ha (.inl ?_)
  exact of_decide_eq_true hid

/-- A pause that is admitted is made. -/
theorem PauseAdmitted.paused {request : ApprovalRequest}
    (h : PauseAdmitted s.records intent request) (hintent : request.intentId = intent.intentId)
    (hrun : request.runId = intent.runId) (intentHash : Sha256) :
    ∃ stored t, createApprovalAndPause svc amb intent intentHash request s = .ok (stored, t)
      ∧ Paused s.records intent intentHash request t.records := by
  obtain ⟨row, hrow, hallowed⟩ := h.transition
  have hfree : ∀ a ∈ s.records.toolIntents, ¬ clash a
      { intent, intentHash, status := .pendingApproval
        approvalRequestId := some request.requestId } := by
    rintro a ha (hid | ⟨hr, hk⟩)
    · exact Table.find?_eq_none.mp h.newIntent a ha (decide_eq_true hid)
    · exact Table.find?_eq_none.mp h.newKey a ha
        (by rw [decide_eq_true hr, decide_eq_true hk]; rfl)
  obtain ⟨T, hT⟩ := Table.exists_insert hfree
  obtain ⟨approvals, happ⟩ := Table.exists_insert h.newRequest
  have hstored : ({ s.records with toolIntents := T } : Records).intent? request.intentId
      ≠ none := by
    rw [Records.intent?_eq_some ((Table.mem_insert hT).mpr (.inr rfl)) hintent.symm]
    exact Option.some_ne_none _
  have hrunKnown : s.records.runRow? request.runId ≠ none := by
    rw [hrun, hrow]
    exact Option.some_ne_none _
  have hok : ∃ stored t, createApprovalAndPause svc amb intent intentHash request s
      = .ok (stored, t) := by
    simp [createApprovalAndPause, h.newKey, hrow, hallowed, Records.Inserts, hT, hstored, happ]
    exact hrunKnown
  obtain ⟨stored, t, hok⟩ := hok
  rcases createApprovalAndPause_ok hok with ⟨hexisting, -⟩ | hpaused
  · cases h.newKey.symm.trans hexisting
  · exact ⟨stored, t, hok, hpaused⟩

theorem saveRun_admitted {run : Run} {eventType : String} {payload : JsonObject} :
    (∃ saved t, saveRun svc amb run eventType payload s = .ok (saved, t))
      ↔ SaveAdmitted svc s.records run := by
  constructor
  · rintro ⟨saved, t, h⟩
    simp only [saveRun, validatedRun, bind_ok, refuseIf_ok, getRecords_ok, expect_ok, pure_ok,
      not_not, Bool.not_eq_false, Bool.not_eq_true] at h
    obtain ⟨_, _, ⟨hsafe, rfl⟩, _, _, ⟨_, _, ⟨hid, rfl⟩, _, _, ⟨rfl, rfl⟩, row, _, ⟨hrow, rfl⟩,
      _, _, ⟨hrowSafe, rfl⟩, _, _, ⟨hproject, rfl⟩, rfl, rfl⟩, _, _, ⟨hallowed, rfl⟩, -⟩ := h
    exact ⟨hsafe, hid, row, hrow, hrowSafe, hproject, hallowed⟩
  · rintro ⟨hsafe, hid, row, hrow, hrowSafe, hproject, hallowed⟩
    simp [saveRun, validatedRun, hsafe, hid, hrow, hrowSafe, hproject, hallowed]

/-! ### Which transactions keep the property -/

/-- The request of `create_approval_and_pause` is a PENDING one for its intent. -/
def StoreOp.Bound : StoreOp → Prop
  | .createApprovalAndPause intent _ request =>
      request.intentId = intent.intentId ∧ request.runId = intent.runId
        ∧ request.status = .pending
  | _ => True

/-- A pause that takes effect finds no PENDING request of its run; a saved run that takes
effect still names every PENDING request of the run. -/
def KeepsPending (svc : Services) (r : Records) : StoreOp → Prop
  | .createApprovalAndPause intent _ request =>
      PauseAdmitted r intent request → r.NoPending intent.runId
  | .saveRun run _ _ =>
      SaveAdmitted svc r run → ∀ request ∈ r.approvals, request.status = .pending →
        request.runId = run.runId → run.pendingApprovalId = some request.requestId
  | _ => True

/-- After a write of its run, a request is waited for exactly when the written run names it. -/
theorem waits_withRun_self (run : Run) {request : ApprovalRequest}
    (own : request.runId = run.runId) (known : ∃ row ∈ r.runs, row.run.runId = run.runId) :
    (r.withRun run).Waits request ↔ run.pendingApprovalId = some request.requestId := by
  constructor
  · rintro ⟨b, hb, hid, hwaits⟩
    obtain ⟨a, ha, rfl⟩ := Records.mem_withRun.mp hb
    split_ifs at hid hwaits with hrow
    · exact hwaits
    · exact absurd (hid.trans own) hrow
  · intro hnames
    obtain ⟨a, ha, hrow⟩ := known
    refine ⟨_, Records.mem_withRun.mpr ⟨a, ha, rfl⟩, ?_⟩
    rw [if_pos hrow]
    exact ⟨hrow.trans own.symm, hnames⟩

theorem waits_withRun_other (run : Run) {request : ApprovalRequest}
    (other : request.runId ≠ run.runId) : (r.withRun run).Waits request ↔ r.Waits request := by
  constructor
  · rintro ⟨b, hb, hid, hwaits⟩
    obtain ⟨a, ha, rfl⟩ := Records.mem_withRun.mp hb
    split_ifs at hid hwaits with hrow
    · exact absurd (hid.symm.trans hrow) other
    · exact ⟨a, ha, hid, hwaits⟩
  · rintro ⟨a, ha, hid, hwaits⟩
    refine ⟨_, Records.mem_withRun.mpr ⟨a, ha, rfl⟩, ?_⟩
    rw [if_neg fun hrow => other (hid.symm.trans hrow)]
    exact ⟨hid, hwaits⟩

/-- A pause keeps the property exactly when the run had no PENDING request. -/
theorem Paused.pendingNamed_iff {request : ApprovalRequest}
    (h : Paused r intent intentHash request r') (hrun : request.runId = intent.runId)
    (pending : request.status = .pending) (named : PendingNamed r) :
    PendingNamed r' ↔ r.NoPending intent.runId := by
  obtain ⟨row, _, approvals, hrow, -, ⟨T, hT, rfl⟩, -, happ, rfl⟩ := h.written
  obtain ⟨hmem, hid⟩ := Records.runRow?_mem hrow
  let paused : Run := { row.run with
    status := .pausedForApproval
    pendingApprovalId := some request.requestId
    updatedAt := request.createdAt }
  have known : ∃ a ∈ r.runs, a.run.runId = paused.runId := ⟨row, hmem, rfl⟩
  constructor
  · intro h' q hq hpending hown
    -- the run names the new request only, so an older PENDING one would be orphaned
    have hwaits := h' q ((Table.mem_insert happ).mpr (.inl hq)) hpending
    have hname := (waits_withRun_self paused (hown.trans hid.symm) known).mp hwaits
    exact Table.not_clash_of_insert happ hq (.inl (Option.some.inj hname).symm)
  · intro hno q hq hpending
    rcases (Table.mem_insert happ).mp hq with hold | rfl
    · have hother : q.runId ≠ paused.runId :=
        fun hown => hno q hold hpending (hown.trans hid)
      exact (waits_withRun_other paused hother).mpr (named q hold hpending)
    · exact (waits_withRun_self paused (hrun.trans hid.symm) known).mpr rfl

/-- A saved run keeps the property exactly when it names the PENDING requests of the run. -/
theorem withRun_pendingNamed_iff {run : Run} {row : RunRow}
    (found : r.runRow? run.runId = some row) (named : PendingNamed r) :
    PendingNamed (r.withRun run) ↔ ∀ request ∈ r.approvals, request.status = .pending →
      request.runId = run.runId → run.pendingApprovalId = some request.requestId := by
  obtain ⟨hmem, hid⟩ := Records.runRow?_mem found
  have known : ∃ a ∈ r.runs, a.run.runId = run.runId := ⟨row, hmem, hid⟩
  constructor
  · intro h' q hq hpending hown
    exact (waits_withRun_self run hown known).mp (h' q hq hpending)
  · intro hnames q hq hpending
    by_cases hown : q.runId = run.runId
    · exact (waits_withRun_self run hown known).mpr (hnames q hq hpending hown)
    · exact (waits_withRun_other run hown).mpr (named q hq hpending)

theorem PendingNamed.of_kept (named : PendingNamed r) (hruns : ∀ row ∈ r.runs, row ∈ r'.runs)
    (happrovals : ∀ request ∈ r'.approvals, request.status = .pending → request ∈ r.approvals) :
    PendingNamed r' := by
  intro q hq hpending
  obtain ⟨row, hrow, hwaits⟩ := named q (happrovals q hq hpending) hpending
  exact ⟨row, hruns row hrow, hwaits⟩

theorem pending_of_withApproval {resolved q : ApprovalRequest}
    (settled : resolved.status ≠ .pending) (hq : q ∈ (r.withApproval resolved).approvals)
    (hpending : q.status = .pending) : q ∈ r.approvals := by
  obtain ⟨a, ha, rfl⟩ := Records.mem_withApproval.mp hq
  split_ifs at hpending ⊢ with hid
  · exact absurd hpending settled
  · exact ha

theorem Effect.pendingNamed (h : Effect svc amb op r r')
    (hpause : ∀ intent intentHash request, op ≠ .createApprovalAndPause intent intentHash request)
    (hsave : ∀ run eventType payload, op ≠ .saveRun run eventType payload)
    (named : PendingNamed r) : PendingNamed r' := by
  cases h with
  | paused => exact absurd rfl (hpause _ _ _)
  | runSaved => exact absurd rfl (hsave _ _ _)
  | resolved found h =>
      cases h with
      | replayed => exact named
      | approved | denied =>
          refine named.of_kept (fun _ h => h) fun _ => pending_of_withApproval ?_
          exact ApprovalStatus.noConfusion
  | runCreated h =>
      exact named.of_kept (fun _ hrow => (Table.mem_insert h).mpr (.inl hrow)) fun _ h _ => h
  | consumed h =>
      obtain ⟨request, intent, row, run, -, -, -, -, -, -, -, -, hrange, rfl⟩ := h.spent
      exact named
  | reserved h =>
      obtain ⟨T, -, rfl⟩ := h
      exact named
  | reused _ h =>
      obtain ⟨row, -, -, -, -, -, hrange, ⟨T, -, rfl⟩⟩ := h.spent
      exact named
  | receipted _ h =>
      obtain ⟨receipt, r₁, T, -, -, -, -, -, ⟨T', -, rfl⟩, -, rfl⟩ := h.written
      exact named
  | dispatched h =>
      obtain ⟨_, T, -, rfl⟩ := h.claimed
      exact named
  | _ => exact named

theorem pendingNamed_step (named : PendingNamed s.records) (bound : op.Bound) :
    PendingNamed ((storeMachine svc).next s ⟨op, amb⟩).records ↔ KeepsPending svc s.records op := by
  have effect := effect_of_step svc s ⟨op, amb⟩
  cases op with
  | createApprovalAndPause intent intentHash request =>
      obtain ⟨hintent, hrun, hpending⟩ := bound
      by_cases hadmitted : PauseAdmitted s.records intent request
      · obtain ⟨stored, t, hok, hpaused⟩ := hadmitted.paused hintent hrun intentHash
        rw [next_of_body (map_ok.mpr ⟨stored, hok, rfl⟩)]
        rw [hpaused.pendingNamed_iff hrun hpending named]
        exact ⟨fun h _ => h, fun h => h hadmitted⟩
      · refine iff_of_true ?_ fun h => absurd h hadmitted
        generalize ((storeMachine svc).next s _).records = r' at effect ⊢
        cases effect with
        | unchanged => exact named
        | paused h => exact absurd h.admitted hadmitted
  | saveRun run eventType payload =>
      by_cases hadmitted : SaveAdmitted svc s.records run
      · obtain ⟨saved, t, hok⟩ := saveRun_admitted.mpr hadmitted
        obtain ⟨row, hrow, -, hrecords⟩ := saveRun_ok hok
        rw [next_of_body (map_ok.mpr ⟨saved, hok, rfl⟩), hrecords,
          withRun_pendingNamed_iff hrow named]
        exact ⟨fun h _ => h, fun h => h hadmitted⟩
      · refine iff_of_true ?_ fun h => absurd h hadmitted
        rcases commit_cases (storeBody svc amb (.saveRun run eventType payload)) s with
          ⟨result, t, hok, -⟩ | ⟨e, -, hc⟩
        · obtain ⟨saved, hsaved, -⟩ := map_ok.mp hok
          exact absurd (saveRun_admitted.mp ⟨saved, t, hsaved⟩) hadmitted
        · simp only [Machine.next, storeMachine, hc]
          exact named
  | _ =>
      exact iff_of_true (effect.pendingNamed (fun _ _ _ => StoreOp.noConfusion)
        (fun _ _ _ => StoreOp.noConfusion) named) trivial

end AgentFleet
