import AgentFleet.Conversations.Steps
import AgentFleet.Resources.Leases

/-! # What a transaction does to the rows of leases

`Later` is what becomes of a row: it keeps its identity, a lease that is not in use any more stays
so, and a lease that has ended stays as it is.  `StoreCall` is any transaction of the stores;
whatever it commits carries every row to a later one (`storeCall_later`).  The transactions that a
cleanup makes replace one row, which `…_row` names. -/

namespace AgentFleet.Resources

open Relational Transaction Checks Conversations

variable {svc : ResourceServices} {reads : ConversationReads} {amb : Ambient} {s t u : Registry}

/-! ### Later rows -/

/-- The resource of the lease may be in use. -/
def leaseInUse (lease : ResourceLease) : Bool :=
  lease.status = .creating || lease.status = .active

/-- What becomes of the row of a lease. -/
structure Later (a b : ResourceLease) : Prop where
  leaseId : b.leaseId = a.leaseId
  runId : b.runId = a.runId
  kind : b.kind = a.kind
  closed : leaseInUse a = false → leaseInUse b = false
  ended : leaseEnded a = true → b = a

theorem Later.refl (a : ResourceLease) : Later a a := ⟨rfl, rfl, rfl, id, fun _ => rfl⟩

variable {a lease before : ResourceLease} {status : LeaseStatus} {metadata leaseId : String}
  {updatedAt : Timestamp} {k : ℕ} {eventTypes : List String} {v : Unit} {payload : JsonObject}
  {plan : ReviewedRecoveryPlan} {claim : RecoveryLeaseClaim} {op : ConversationOp}
  {result : ConversationResult} {call : StoreCall}

theorem Later.trans {b c : ResourceLease} (h : Later a b) (h' : Later b c) : Later a c where
  leaseId := h'.leaseId.trans h.leaseId
  runId := h'.runId.trans h.runId
  kind := h'.kind.trans h.kind
  closed hclosed := h'.closed (h.closed hclosed)
  ended hended := by
    have hb := h.ended hended
    subst hb
    exact h'.ended hended

/-- No transition leaves a status in which a lease has ended, and none returns to use. -/
theorem leaseTransitions_closed (h : status ∈ leaseTransitions lease.status) :
    leaseEnded lease = false
      ∧ (leaseInUse lease = false → status ≠ .creating ∧ status ≠ .active) := by
  unfold leaseEnded leaseInUse
  cases hstatus : lease.status with
  | creating | active => simp
  | releasing =>
      rw [hstatus] at h
      simp only [leaseTransitions, List.mem_cons, List.not_mem_nil, or_false] at h
      rcases h with rfl | rfl | rfl <;> simp
  | failed =>
      rw [hstatus] at h
      simp only [leaseTransitions, List.mem_cons, List.not_mem_nil, or_false] at h
      rcases h with rfl | rfl <;> simp
  | released | recovered =>
      rw [hstatus] at h
      simp [leaseTransitions] at h

/-- A row that moves along a transition becomes a later row. -/
theorem later_of_transition (h : status ∈ leaseTransitions lease.status) :
    Later lease (rewritten lease status metadata updatedAt) := by
  obtain ⟨hopen, hclosed⟩ := leaseTransitions_closed h
  refine ⟨rfl, rfl, rfl, fun hnot => ?_, fun hended => ?_⟩
  · obtain ⟨hcreating, hactive⟩ := hclosed hnot
    simp [leaseInUse, rewritten, hcreating, hactive]
  · rw [hopen] at hended
    cases hended

/-- An open row under the same status is a later row. -/
theorem later_of_open (h : leaseEnded lease = false) :
    Later lease (rewritten lease lease.status metadata updatedAt) := by
  refine ⟨rfl, rfl, rfl, fun hnot => hnot, fun hended => ?_⟩
  rw [h] at hended
  cases hended

/-- Every row has a later one. -/
def RowsLater (s t : Registry) : Prop := Table.Carries Later s.shared.leases t.shared.leases

theorem RowsLater.of_kept (h : t.shared.leases = s.shared.leases) : RowsLater s t := by
  unfold RowsLater
  rw [h]
  exact Table.Carries.refl Later.refl _

theorem RowsLater.refl (s : Registry) : RowsLater s s := .of_kept rfl

/-! ### Lookups -/

theorem leaseRow_mem (h : leaseRow s leaseId = some lease) :
    lease ∈ s.shared.leases ∧ lease.leaseId = leaseId :=
  ⟨Table.mem_of_find? h, by simpa using Table.prop_of_find? h⟩

theorem leaseRow_eq_some (h : lease ∈ s.shared.leases) : leaseRow s lease.leaseId = some lease :=
  Table.find?_eq_some h (decide_eq_true rfl) fun _ hb => of_decide_eq_true hb

theorem leaseRow_congr (h : t.shared.leases = s.shared.leases) (leaseId : String) :
    leaseRow t leaseId = leaseRow s leaseId := by
  unfold leaseRow
  rw [h]

theorem RowsLater.row (h : RowsLater s t) (ha : leaseRow s leaseId = some a) :
    ∃ b, leaseRow t leaseId = some b ∧ Later a b := by
  obtain ⟨hmem, hid⟩ := leaseRow_mem ha
  obtain ⟨b, hb, hlater⟩ := h a hmem
  refine ⟨b, ?_, hlater⟩
  rw [← hid, ← hlater.leaseId]
  exact leaseRow_eq_some hb

/-- A row that has ended stays. -/
theorem RowsLater.ended_row (h : RowsLater s t) (ha : leaseRow s leaseId = some a)
    (hended : leaseEnded a = true) : leaseRow t leaseId = some a := by
  obtain ⟨b, hb, hlater⟩ := h.row ha
  rw [hb, hlater.ended hended]

/-! ### Replacing one row -/

/-- One row of a lease was replaced by a later one. -/
structure Rewrites (s t : Registry) (before after : ResourceLease) : Prop where
  replaced : s.shared.leases.replace? before after = some t.shared.leases
  later : Later before after

theorem Rewrites.held {after : ResourceLease} (h : Rewrites s t before after) :
    leaseRow s before.leaseId = some before :=
  leaseRow_eq_some (Table.replace?_eq_some h.replaced).1

/-- The row under every identifier. -/
theorem Rewrites.row {after : ResourceLease} (h : Rewrites s t before after) (leaseId : String) :
    leaseRow t leaseId = if before.leaseId = leaseId then some after else leaseRow s leaseId :=
  Table.find?_replace? ResourceLease.leaseId (fun _ _ => Iff.rfl) h.replaced h.later.leaseId leaseId

theorem Rewrites.rowsLater {after : ResourceLease} (h : Rewrites s t before after) :
    RowsLater s t :=
  Table.Carries.replace? Later.refl h.replaced h.later

/-! ### The transactions of a cleanup -/

theorem onDatabase_shared {α : Type} {x : DatabaseTxn α} {a : α}
    (h : onDatabase x s = .ok (a, t)) : t.shared = s.shared := by
  obtain ⟨d, -, rfl⟩ := onDatabase_ok.mp h
  rfl

theorem writeLeaseEvents_shared {run : Run}
    (h : writeLeaseEvents svc.toConversationServices amb run lease k eventTypes s = .ok (v, t)) :
    t.shared = s.shared := by
  induction eventTypes generalizing k s with
  | nil =>
      obtain ⟨-, rfl⟩ := pure_ok.mp h
      rfl
  | cons eventType eventTypes ih =>
      unfold writeLeaseEvents at h
      obtain ⟨_, s₁, hfirst, h⟩ := Transaction.bind_ok.mp h
      rw [ih h, onDatabase_shared hfirst]

theorem noteLease_shared {run : Run}
    (h : noteLease svc amb run payload k eventTypes s = .ok (v, t)) : t.shared = s.shared := by
  induction eventTypes generalizing k s with
  | nil =>
      obtain ⟨-, rfl⟩ := pure_ok.mp h
      rfl
  | cons eventType eventTypes ih =>
      unfold noteLease at h
      obtain ⟨_, s₁, hfirst, h⟩ := Transaction.bind_ok.mp h
      rw [ih h, onDatabase_shared hfirst]

/-- What `update_lease_status` has done. -/
inductive StatusUpdated (s t : Registry) (leaseId : String) (status : LeaseStatus) : Prop where
  | same {lease : ResourceLease} (held : leaseRow s leaseId = some lease)
      (equal : lease.status = status) (kept : t = s)
  | moved {lease after : ResourceLease} (held : leaseRow s leaseId = some lease)
      (allowed : status ∈ leaseTransitions lease.status) (moved : after.status = status)
      (written : Rewrites s t lease after)

theorem updateLeaseStatus_ok
    (h : updateLeaseStatus svc.toConversationServices amb leaseId status s = .ok (v, t)) :
    StatusUpdated s t leaseId status := by
  unfold updateLeaseStatus at h
  rw [get_bind_ok, expect_bind_ok] at h
  obtain ⟨lease, hheld, h⟩ := h
  split_ifs at h with hsame
  · obtain ⟨-, rfl⟩ := pure_ok.mp h
    exact .same hheld hsame rfl
  · rw [refuseIf_bind_ok, not_not] at h
    obtain ⟨hallowed, h⟩ := h
    obtain ⟨_, s₁, hreplace, h⟩ := Transaction.bind_ok.mp h
    obtain ⟨leases, hrows, rfl⟩ := replaceLease_ok hreplace
    obtain ⟨run, s₂, hrun, h⟩ := Transaction.bind_ok.mp h
    have hshared := (writeLeaseEvents_shared h).trans (onDatabase_shared hrun)
    have hwritten : s.shared.leases.replace? lease
        { lease with status := status, updatedAt := amb.clock 0 } = some t.shared.leases := by
      rw [hshared]
      exact hrows
    exact .moved hheld hallowed rfl ⟨hwritten, later_of_transition hallowed⟩

/-- The row after an update has the status. -/
theorem StatusUpdated.row (h : StatusUpdated s t leaseId status) :
    ∃ lease, leaseRow t leaseId = some lease ∧ lease.status = status := by
  cases h with
  | same hheld hsame hkept =>
      subst hkept
      exact ⟨_, hheld, hsame⟩
  | moved hheld hallowed hmoved hwritten =>
      obtain ⟨-, hid⟩ := leaseRow_mem hheld
      refine ⟨_, ?_, hmoved⟩
      rw [hwritten.row, if_pos hid]

/-- No other row has changed. -/
theorem StatusUpdated.other {other : String} (h : StatusUpdated s t leaseId status)
    (hne : other ≠ leaseId) : leaseRow t other = leaseRow s other := by
  cases h with
  | same hheld hsame hkept => rw [hkept]
  | moved hheld hallowed hmoved hwritten =>
      obtain ⟨-, hid⟩ := leaseRow_mem hheld
      rw [hwritten.row, if_neg]
      intro heq
      exact hne (heq.symm.trans hid)

theorem StatusUpdated.rowsLater (h : StatusUpdated s t leaseId status) : RowsLater s t := by
  cases h with
  | same hheld hsame hkept =>
      rw [hkept]
      exact .refl s
  | moved hheld hallowed hmoved hwritten => exact hwritten.rowsLater

/-- A step of a plan replaces one row. -/
theorem recordRecoveryLease_rewrites {claimId : String} {after : ResourceLease} {finished : Bool}
    {root : Run}
    (h : LeaseRecorded svc.toConversationServices amb s plan claimId before after finished t root)
    (hlater : Later before after) : Rewrites s t before after := by
  obtain ⟨leases, run, notes, hrows, -, ht⟩ := h.written
  refine ⟨?_, hlater⟩
  rw [ht]
  exact hrows

/-- A claim for recovery makes the row one that is releasing. -/
theorem claimRecoveryLease_rewrites
    (h : claimRecoveryLease svc.toConversationServices reads amb plan leaseId s = .ok (claim, t)) :
    claim.lease.leaseId = leaseId ∧ claim.lease.status = .releasing
      ∧ ∃ before, leaseEnded before = false ∧ Rewrites s t before claim.lease := by
  obtain ⟨current, progress, before, root, hclaimed⟩ := claimRecoveryLease_ok h
  have hbuilt := hclaimed.built
  subst hbuilt
  refine ⟨hclaimed.about, rfl, before, hclaimed.open_, ?_⟩
  refine recordRecoveryLease_rewrites hclaimed.recorded ⟨rfl, rfl, rfl, fun _ => rfl, ?_⟩
  intro hended
  rw [hclaimed.open_] at hended
  cases hended

/-- The end of a claimed lease. -/
theorem finishRecoveryLease_rewrites (hclaim : claim.lease.status = .releasing)
    (h : finishRecoveryLease svc.toConversationServices reads amb claim status s = .ok (v, t)) :
    Rewrites s t claim.lease { claim.lease with status := status, updatedAt := amb.clock 0 } := by
  obtain ⟨current, progress, root, hfinished⟩ := finishRecoveryLease_ok h
  refine recordRecoveryLease_rewrites hfinished.recorded (later_of_transition ?_)
  rw [hclaim]
  rcases hfinished.ending with rfl | rfl
  · exact List.mem_cons_of_mem _ List.mem_cons_self
  · exact List.mem_cons_of_mem _ (List.mem_cons_of_mem _ List.mem_cons_self)

/-! ### Transactions that write no lease -/

/-- A call that keeps the leases writes no table that the stores share. -/
theorem conversationBody_shared (hkeeps : keepsLeases op = true)
    (h : conversationBody svc.toConversationServices reads amb op s = .ok (result, t)) :
    t.shared = s.shared := by
  obtain ⟨-, -, hshared⟩ := conversationBody_step h
  refine hshared ?_
  cases op with
  | claimRecoveryLease plan leaseId | finishRecoveryLease claim status => cases hkeeps
  | _ => rfl

/-! ### The other transactions on leases -/

theorem getLease_ok :
    getLease leaseId s = .ok (lease, t) ↔ leaseRow s leaseId = some lease ∧ s = t := by
  unfold getLease
  rw [reading_ok, demand_ok]

/-- The row of a lease is replaced and its events are written. -/
theorem rewrites_of_writes {after : ResourceLease} {runId : String} {result : ResourceLease}
    (hlater : Later before after)
    (h : (do
        replaceLease before after
        let run ← onDatabase (onStore (getRun runId))
        noteLease svc amb run payload 1 eventTypes
        return after : RegistryTxn ResourceLease) s = .ok (result, t)) :
    Rewrites s t before after ∧ result = after := by
  obtain ⟨_, s₁, hreplace, h⟩ := Transaction.bind_ok.mp h
  obtain ⟨leases, hrows, rfl⟩ := replaceLease_ok hreplace
  obtain ⟨run, s₂, hrun, h⟩ := Transaction.bind_ok.mp h
  obtain ⟨_, s₃, hnotes, h⟩ := Transaction.bind_ok.mp h
  obtain ⟨rfl, rfl⟩ := pure_ok.mp h
  have hshared := (noteLease_shared hnotes).trans (onDatabase_shared hrun)
  refine ⟨⟨?_, hlater⟩, rfl⟩
  rw [hshared]
  exact hrows

theorem saveLease_ok (h : saveLease svc amb lease s = .ok (v, t)) :
    s.shared.leases.insert lease = some t.shared.leases := by
  unfold saveLease at h
  obtain ⟨_, s₁, hinsert, h⟩ := Transaction.bind_ok.mp h
  unfold insertLease at hinsert
  rw [get_bind_ok, expect_bind_ok] at hinsert
  obtain ⟨leases, hrows, hs₁⟩ := hinsert
  have hstate := set_ok.mp hs₁
  obtain ⟨run, s₂, hrun, h⟩ := Transaction.bind_ok.mp h
  rw [noteLease_shared h, onDatabase_shared hrun, ← hstate]
  exact hrows

theorem markExecutionCreationDispatched_ok
    (h : markExecutionCreationDispatched svc amb leaseId s = .ok (lease, t)) :
    ∃ before, leaseRow s leaseId = some before ∧ reservedExecution svc before
      ∧ lease.status = .creating ∧ Rewrites s t before lease := by
  unfold markExecutionCreationDispatched at h
  obtain ⟨before, s₁, hread, h⟩ := Transaction.bind_ok.mp h
  obtain ⟨hheld, rfl⟩ := getLease_ok.mp hread
  rw [refuseIf_bind_ok, not_not, expect_bind_ok] at h
  obtain ⟨hreserved, sandbox, -, h⟩ := h
  rw [refuseIf_bind_ok] at h
  obtain ⟨-, h⟩ := h
  rw [refuseIf_bind_ok] at h
  obtain ⟨-, h⟩ := h
  have hopen : leaseEnded before = false := by
    unfold leaseEnded
    rw [hreserved.2.1]
    rfl
  obtain ⟨hwritten, hlease⟩ := rewrites_of_writes (later_of_open hopen) h
  subst hlease
  exact ⟨before, hheld, hreserved, hreserved.2.1, hwritten⟩

theorem activateLease_ok {metadata : JsonObject}
    (h : activateLease svc amb leaseId metadata s = .ok (lease, t)) :
    ∃ before, leaseRow s leaseId = some before ∧ before.status = .creating
      ∧ lease.status = .active ∧ Rewrites s t before lease := by
  unfold activateLease at h
  obtain ⟨before, s₁, hread, h⟩ := Transaction.bind_ok.mp h
  obtain ⟨hheld, rfl⟩ := getLease_ok.mp hread
  rw [refuseIf_bind_ok, not_not] at h
  obtain ⟨hallowed, h⟩ := h
  rw [refuseIf_bind_ok] at h
  obtain ⟨-, h⟩ := h
  obtain ⟨hwritten, hlease⟩ := rewrites_of_writes (later_of_transition hallowed) h
  subst hlease
  refine ⟨before, hheld, ?_, rfl, hwritten⟩
  cases hstatus : before.status with
  | creating => rfl
  | _ =>
      rw [hstatus] at hallowed
      simp [leaseTransitions] at hallowed

theorem finalizeLease_later {metadata : JsonObject}
    (h : finalizeLease svc amb leaseId status metadata s = .ok (lease, t)) : RowsLater s t := by
  unfold finalizeLease at h
  rw [refuseIf_bind_ok] at h
  obtain ⟨-, h⟩ := h
  obtain ⟨before, s₁, hread, h⟩ := Transaction.bind_ok.mp h
  obtain ⟨hheld, rfl⟩ := getLease_ok.mp hread
  split_ifs at h with hsame
  · rw [refuseIf_bind_ok] at h
    obtain ⟨-, h⟩ := h
    obtain ⟨-, rfl⟩ := pure_ok.mp h
    exact .refl s
  · unfold finalizeRow at h
    rw [refuseIf_bind_ok, not_not] at h
    obtain ⟨hallowed, h⟩ := h
    rw [refuseIf_bind_ok] at h
    obtain ⟨-, h⟩ := h
    exact (rewrites_of_writes (later_of_transition hallowed) h).1.rowsLater

theorem conversationBody_later (hgiven : claimGiven op)
    (h : conversationBody svc.toConversationServices reads amb op s = .ok (result, t)) :
    RowsLater s t := by
  by_cases hkeeps : keepsLeases op = true
  · exact .of_kept (congrArg SharedTables.leases (conversationBody_shared hkeeps h))
  · cases op with
    | claimRecoveryLease =>
        obtain ⟨claim, hclaim, -⟩ := Transaction.map_ok.mp h
        obtain ⟨-, -, before, -, hwritten⟩ := claimRecoveryLease_rewrites hclaim
        exact hwritten.rowsLater
    | finishRecoveryLease =>
        obtain ⟨_, hfinish, -⟩ := Transaction.map_ok.mp h
        exact (finishRecoveryLease_rewrites hgiven hfinish).rowsLater
    | _ => exact absurd rfl hkeeps

/-- A transaction that writes no lease. -/
theorem storeBody_kept (hkeeps : call.keepsLeases = true)
    (h : storeBody svc amb reads call s = .ok (v, t)) : t.shared.leases = s.shared.leases := by
  cases call with
  | conversation =>
      unfold storeBody at h
      rw [refuseIf_bind_ok] at h
      obtain ⟨-, h⟩ := h
      obtain ⟨_, s₁, hbody, h⟩ := Transaction.bind_ok.mp h
      obtain ⟨-, rfl⟩ := pure_ok.mp h
      rw [conversationBody_shared hkeeps (withinBoundary_ok.mp hbody)]
  | database =>
      unfold storeBody at h
      obtain ⟨_, s₁, hbody, h⟩ := Transaction.bind_ok.mp h
      obtain ⟨-, rfl⟩ := pure_ok.mp h
      rw [onDatabase_shared hbody]
  | elsewhere =>
      have hstate := modify_ok.mp h
      rw [← hstate]
  | _ => cases hkeeps

/-- Whatever a transaction of the stores commits, it carries every row to a later one. -/
theorem storeBody_later (h : storeBody svc amb reads call s = .ok (v, t)) : RowsLater s t := by
  cases call with
  | conversation =>
      unfold storeBody at h
      rw [refuseIf_bind_ok, not_not] at h
      obtain ⟨hgiven, h⟩ := h
      obtain ⟨_, s₁, hbody, h⟩ := Transaction.bind_ok.mp h
      obtain ⟨-, rfl⟩ := pure_ok.mp h
      exact conversationBody_later hgiven (withinBoundary_ok.mp hbody)
  | database =>
      unfold storeBody at h
      obtain ⟨_, s₁, hbody, h⟩ := Transaction.bind_ok.mp h
      obtain ⟨-, rfl⟩ := pure_ok.mp h
      exact .of_kept (congrArg SharedTables.leases (onDatabase_shared hbody))
  | saveLease => exact Table.Carries.insert Later.refl (saveLease_ok h)
  | updateLeaseStatus => exact (updateLeaseStatus_ok h).rowsLater
  | markExecutionCreationDispatched =>
      unfold storeBody at h
      obtain ⟨_, s₁, hbody, h⟩ := Transaction.bind_ok.mp h
      obtain ⟨-, rfl⟩ := pure_ok.mp h
      obtain ⟨before, -, -, -, hwritten⟩ := markExecutionCreationDispatched_ok hbody
      exact hwritten.rowsLater
  | activateLease =>
      unfold storeBody at h
      obtain ⟨_, s₁, hbody, h⟩ := Transaction.bind_ok.mp h
      obtain ⟨-, rfl⟩ := pure_ok.mp h
      obtain ⟨before, -, -, -, hwritten⟩ := activateLease_ok hbody
      exact hwritten.rowsLater
  | finalizeLease =>
      unfold storeBody at h
      obtain ⟨_, s₁, hbody, h⟩ := Transaction.bind_ok.mp h
      obtain ⟨-, rfl⟩ := pure_ok.mp h
      exact finalizeLease_later hbody
  | elsewhere =>
      have hstate := modify_ok.mp h
      exact .of_kept (by rw [← hstate])

end AgentFleet.Resources
