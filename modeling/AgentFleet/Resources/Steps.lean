import AgentFleet.Resources.Rows
import AgentFleet.Resources.Service

/-! # What a step of a cleanup does

`LeaseStep` is everything that the task of a lease can do between two points where other tasks may
run: it says which row was written and what is known of it then.  `TaskSound` is what holds of a
task in each of its phases; every step keeps it (`LeaseStep.sound`) and carries all rows to later
ones. -/

namespace AgentFleet.Resources

open Relational Transaction Checks Conversations Transition

variable {svc : ResourceServices} {reads : ConversationReads} {amb : Ambient} {r r' : Registry}

/-! ### What is known of a row -/

/-- A lease that was read still has its row, which may have moved on. -/
def Held (r : Registry) (lease : ResourceLease) : Prop :=
  ∃ row, leaseRow r lease.leaseId = some row ∧ Later lease row

/-- The lease has ended. -/
def Finished (r : Registry) (leaseId : String) : Prop :=
  ∃ row, leaseRow r leaseId = some row ∧ leaseEnded row = true

/-- The resource of the lease is not in use any more. -/
def Closed (r : Registry) (leaseId : String) : Prop :=
  ∃ row, leaseRow r leaseId = some row ∧ leaseInUse row = false

variable {leaseId : String} {lease : ResourceLease} {status : LeaseStatus}
  {claim : Option RecoveryLeaseClaim} {v : Unit} {task : LeaseTask} {phase : LeasePhase}

theorem held_of_row (h : leaseRow r leaseId = some lease) : Held r lease := by
  refine ⟨lease, ?_, .refl lease⟩
  rw [(leaseRow_mem h).2]
  exact h

theorem RowsLater.held (h : RowsLater r r') (hheld : Held r lease) : Held r' lease := by
  obtain ⟨row, hrow, hlater⟩ := hheld
  obtain ⟨after, hafter, hmoved⟩ := h.row hrow
  exact ⟨after, hafter, hlater.trans hmoved⟩

theorem RowsLater.finished (h : RowsLater r r') (hended : Finished r leaseId) :
    Finished r' leaseId := by
  obtain ⟨row, hrow, hended⟩ := hended
  exact ⟨row, h.ended_row hrow hended, hended⟩

theorem RowsLater.closed (h : RowsLater r r') {leaseId : String} (hclosed : Closed r leaseId) :
    Closed r' leaseId := by
  obtain ⟨row, hrow, hclosed⟩ := hclosed
  obtain ⟨after, hafter, hmoved⟩ := h.row hrow
  exact ⟨after, hafter, hmoved.closed hclosed⟩

/-- A lease that had ended when it was read has ended. -/
theorem Held.finished (h : Held r lease) (hended : leaseEnded lease = true) :
    Finished r lease.leaseId := by
  obtain ⟨row, hrow, hlater⟩ := h
  have hsame := hlater.ended hended
  subst hsame
  exact ⟨_, hrow, hended⟩

theorem Held.kind_eq {a b : ResourceLease} (ha : Held r a) (hb : Held r b)
    (h : a.leaseId = b.leaseId) : a.kind = b.kind := by
  obtain ⟨row, hrow, hlater⟩ := ha
  obtain ⟨other, hother, hlater'⟩ := hb
  rw [h, hother] at hrow
  cases hrow
  exact hlater.kind.symm.trans hlater'.kind

/-! ### Writing one row -/

/-- The status of one row was written. -/
structure RowWritten (r r' : Registry) (leaseId : String) (status : LeaseStatus) : Prop where
  later : RowsLater r r'
  row : ∃ lease, leaseRow r' leaseId = some lease ∧ lease.status = status
  other : ∀ other, other ≠ leaseId → leaseRow r' other = leaseRow r other

theorem StatusUpdated.rowWritten (h : StatusUpdated r r' leaseId status) :
    RowWritten r r' leaseId status :=
  ⟨h.rowsLater, h.row, fun _ hne => h.other hne⟩

theorem Rewrites.rowWritten {before after : ResourceLease} (h : Rewrites r r' before after) :
    RowWritten r r' before.leaseId after.status := by
  refine ⟨h.rowsLater, ⟨after, ?_, rfl⟩, fun other hne => ?_⟩
  · rw [h.row, if_pos rfl]
  · rw [h.row, if_neg (Ne.symm hne)]

/-- A row that ends was written with a status in which a lease has ended. -/
theorem RowWritten.finished (h : RowWritten r r' leaseId status)
    (hended : status = .released ∨ status = .recovered) : Finished r' leaseId := by
  obtain ⟨row, hrow, rfl⟩ := h.row
  refine ⟨row, hrow, ?_⟩
  unfold leaseEnded
  rcases hended with hstatus | hstatus
  · simp [hstatus]
  · simp [hstatus]

theorem RowWritten.closed {leaseId : String} {status : LeaseStatus}
    (h : RowWritten r r' leaseId status) (hstatus : status ≠ .creating ∧ status ≠ .active) :
    Closed r' leaseId := by
  obtain ⟨row, hrow, rfl⟩ := h.row
  refine ⟨row, hrow, ?_⟩
  unfold leaseInUse
  simp [hstatus.1, hstatus.2]

/-- A row that has ended was written as one. -/
theorem RowWritten.status_of_finished {other : String} (h : RowWritten r r' leaseId status)
    (hnot : ¬ Finished r other) (hended : Finished r' other) :
    other = leaseId ∧ (status = .released ∨ status = .recovered) := by
  obtain ⟨row, hrow, hrowEnded⟩ := hended
  have hsame : other = leaseId := by
    by_contra hne
    rw [h.other other hne] at hrow
    exact hnot ⟨row, hrow, hrowEnded⟩
  subst hsame
  obtain ⟨lease, hlease, rfl⟩ := h.row
  rw [hrow] at hlease
  cases hlease
  unfold leaseEnded at hrowEnded
  simpa using hrowEnded

/-- The claim under which a lease is handled. -/
def ClaimFor (lease : ResourceLease) (claim : Option RecoveryLeaseClaim) : Prop :=
  ∀ given, claim = some given → given.lease = lease ∧ lease.status = .releasing

theorem persist_written {target : LeaseStatus} (hclaim : ClaimFor lease claim)
    (h : persist svc reads amb lease.leaseId claim target r = .ok (v, r')) :
    RowWritten r r' lease.leaseId target := by
  unfold persist at h
  cases claim with
  | none => exact (updateLeaseStatus_ok h).rowWritten
  | some given =>
      obtain ⟨rfl, hreleasing⟩ := hclaim given rfl
      exact (finishRecoveryLease_rewrites hreleasing (withinBoundary_ok.mp h)).rowWritten

/-! ### Tasks of leases -/

/-- A task handles its own lease, as it was read or claimed. -/
structure Handles (r : Registry) (leaseId : String) (lease : ResourceLease)
    (claim : Option RecoveryLeaseClaim) : Prop where
  held : Held r lease
  same : lease.leaseId = leaseId
  claimed : ClaimFor lease claim

/-- What is known in a phase of a task that brings a lease to a status. -/
def PhaseSound (r : Registry) (leaseId : String) (status : LeaseStatus) : LeasePhase → Prop
  | .created => True
  | .opened lease claim => Handles r leaseId lease claim
  | .calling lease claim | .reported lease claim _ =>
      Handles r leaseId lease claim ∧ Closed r lease.leaseId
  | .ended (.ok _) => status = .released ∨ status = .recovered → Finished r leaseId
  | .ended (.error _) => True

/-- What the task of a lease can do in one step. -/
inductive LeaseStep (r : Registry) (task : LeaseTask) : LeasePhase → Registry → Prop where
  | taken (h : task.phase = .created) (hplan : task.plan = none) :
      LeaseStep r task (.opened task.lease none) r
  | claimed {claim : RecoveryLeaseClaim} {before : ResourceLease} {r' : Registry}
      (h : task.phase = .created) (hid : claim.lease.leaseId = task.lease.leaseId)
      (hstatus : claim.lease.status = .releasing) (hopen : leaseEnded before = false)
      (hwritten : Rewrites r r' before claim.lease) :
      LeaseStep r task (.opened claim.lease (some claim)) r'
  | refused {e : StoreError} (h : task.phase = .created) :
      LeaseStep r task (.ended (.error e)) r
  | unopened {lease : ResourceLease} {claim : Option RecoveryLeaseClaim} {e : StoreError}
      (h : task.phase = .opened lease claim) : LeaseStep r task (.ended (.error e)) r
  | already {lease : ResourceLease} {claim : Option RecoveryLeaseClaim}
      (h : task.phase = .opened lease claim) (hended : leaseEnded lease = true) :
      LeaseStep r task (.ended (.ok ())) r
  | asked {lease : ResourceLease} {claim : Option RecoveryLeaseClaim} {phase : LeasePhase}
      {r' : Registry} (h : task.phase = .opened lease claim) (hopen : leaseEnded lease = false)
      (hmarked : lease.status = .releasing ∧ r' = r
        ∨ RowWritten r r' lease.leaseId .releasing)
      (hphase : phase = .calling lease claim ∨ (∃ e, phase = .reported lease claim (.error e))
        ∨ ∃ e, phase = .ended (.error e)) : LeaseStep r task phase r'
  | proven {lease : ResourceLease} {claim : Option RecoveryLeaseClaim} {answer : Answer}
      {r' : Registry} (h : task.phase = .reported lease claim answer)
      (hproof : judge lease.kind answer = .ok ())
      (hwritten : RowWritten r r' lease.leaseId task.status) :
      LeaseStep r task (.ended (.ok ())) r'
  | failed {lease : ResourceLease} {claim : Option RecoveryLeaseClaim} {answer : Answer}
      {e : StoreError} {r' : Registry} (h : task.phase = .reported lease claim answer)
      (hproof : judge lease.kind answer ≠ .ok ())
      (hwritten : RowWritten r r' lease.leaseId .failed) :
      LeaseStep r task (.ended (.error e)) r'
  | unwritten {lease : ResourceLease} {claim : Option RecoveryLeaseClaim} {answer : Answer}
      {e : StoreError} (h : task.phase = .reported lease claim answer) :
      LeaseStep r task (.ended (.error e)) r
  | idle {phase : LeasePhase} (h : phase = task.phase) : LeaseStep r task phase r

theorem markReleasing_ok (h : markReleasing svc amb lease r = .ok (v, r')) :
    lease.status = .releasing ∧ r' = r ∨ RowWritten r r' lease.leaseId .releasing := by
  unfold markReleasing at h
  split_ifs at h with hstatus
  · obtain ⟨-, rfl⟩ := pure_ok.mp h
    exact .inl ⟨hstatus, rfl⟩
  · exact .inr (updateLeaseStatus_ok h).rowWritten

theorem askProvider_cases (svc : ResourceServices) (lease : ResourceLease)
    (claim : Option RecoveryLeaseClaim) :
    askProvider svc lease claim = .calling lease claim
      ∨ (∃ e, askProvider svc lease claim = .reported lease claim (.error e))
      ∨ ∃ e, askProvider svc lease claim = .ended (.error e) := by
  unfold askProvider
  cases svc.cleanupIdentity lease with
  | ok => exact .inl rfl
  | error e =>
      dsimp only
      split_ifs
      · exact .inr (.inl ⟨e, rfl⟩)
      · exact .inr (.inr ⟨e, rfl⟩)

theorem claimReviewed_step {plan : ReviewedRecoveryPlan} (hphase : task.phase = .created) :
    LeaseStep r task (claimReviewed svc reads amb task plan r).1
      (claimReviewed svc reads amb task plan r).2 := by
  unfold claimReviewed
  dsimp only
  split_ifs
  · exact .refused hphase
  · rcases commit_cases (withinBoundary (claimRecoveryLease svc.toConversationServices reads amb
      plan task.lease.leaseId)) r with ⟨claim, t, hclaim, hc⟩ | ⟨e, -, hc⟩
    · rw [hc]
      obtain ⟨hid, hstatus, before, hopen, hwritten⟩ :=
        claimRecoveryLease_rewrites (withinBoundary_ok.mp hclaim)
      exact .claimed hphase hid hstatus hopen hwritten
    · rw [hc]
      exact .refused hphase

theorem openCleanup_step (hphase : task.phase = .opened lease claim) :
    LeaseStep r task (openCleanup svc amb task.run lease claim r).1
      (openCleanup svc amb task.run lease claim r).2 := by
  unfold openCleanup
  cases cleanupProject task.run claim r with
  | error => exact .unopened hphase
  | ok =>
      dsimp only
      split_ifs with hended
      · exact .already hphase hended
      · rcases commit_cases (markReleasing svc amb lease) r with ⟨v, t, hmark, hc⟩ | ⟨e, -, hc⟩
        · rw [hc]
          exact .asked hphase (Bool.eq_false_iff.mpr hended) (markReleasing_ok hmark)
            (askProvider_cases svc lease claim)
        · rw [hc]
          exact .unopened hphase

theorem closeCleanup_step {answer : Answer} (hphase : task.phase = .reported lease claim answer)
    (hclaim : ClaimFor lease claim) :
    LeaseStep r task (closeCleanup svc reads amb task.status lease claim answer r).1
      (closeCleanup svc reads amb task.status lease claim answer r).2 := by
  unfold closeCleanup
  cases hproof : judge lease.kind answer with
  | ok =>
      dsimp only
      rcases commit_cases (persist svc reads amb lease.leaseId claim task.status) r with
        ⟨v, t, hwrite, hc⟩ | ⟨e, -, hc⟩
      · rw [hc]
        exact .proven hphase hproof (persist_written hclaim hwrite)
      · rw [hc]
        exact .unwritten hphase
  | error =>
      dsimp only
      rcases commit_cases (persist svc reads amb lease.leaseId claim .failed) r with
        ⟨v, t, hwrite, hc⟩ | ⟨e', -, hc⟩
      · rw [hc]
        refine .failed hphase ?_ (persist_written hclaim hwrite)
        rw [hproof]
        exact fun heq => by cases heq
      · rw [hc]
        exact .unwritten hphase

/-- A task whose claim is its own does one of the steps. -/
theorem stepLeaseTask_step (svc : ResourceServices) (reads : ConversationReads) (amb : Ambient)
    (hsound : PhaseSound r task.lease.leaseId task.status task.phase) :
    LeaseStep r task (stepLeaseTask svc reads amb task r).1
      (stepLeaseTask svc reads amb task r).2 := by
  unfold stepLeaseTask
  cases hphase : task.phase with
  | created =>
      cases hplan : task.plan with
      | none => exact .taken hphase hplan
      | some => exact claimReviewed_step hphase
  | opened => exact openCleanup_step hphase
  | calling =>
      exact .idle hphase.symm
  | reported =>
      rw [hphase] at hsound
      exact closeCleanup_step hphase hsound.1.claimed
  | ended =>
      exact .idle hphase.symm

/-! ### What a step keeps -/

theorem Handles.later (h : Handles r leaseId lease claim) (hlater : RowsLater r r') :
    Handles r' leaseId lease claim :=
  ⟨hlater.held h.held, h.same, h.claimed⟩

/-- What is known of a task stays known while other tasks go on. -/
theorem PhaseSound.later (h : PhaseSound r leaseId status phase) (hlater : RowsLater r r') :
    PhaseSound r' leaseId status phase := by
  cases phase with
  | created => trivial
  | opened => exact Handles.later h hlater
  | calling lease claim | reported lease claim answer => exact ⟨h.1.later hlater, hlater.closed h.2⟩
  | ended result =>
      cases result with
      | ok => exact fun hstatus => hlater.finished (h hstatus)
      | error e => trivial

/-- Only the row of the lease is written, and it moves on. -/
theorem LeaseStep.rows {task : LeaseTask} {phase : LeasePhase} (h : LeaseStep r task phase r')
    (hsound : PhaseSound r task.lease.leaseId task.status task.phase) :
    RowsLater r r' ∧ ∀ other, other ≠ task.lease.leaseId → leaseRow r' other = leaseRow r other := by
  cases h with
  | claimed hphase hid hstatus hopen hwritten =>
      have hrow := hwritten.rowWritten
      refine ⟨hrow.later, fun other hne => hrow.other other ?_⟩
      rw [← hwritten.later.leaseId, hid]
      exact hne
  | asked hphase hopen hmarked =>
      rw [hphase] at hsound
      rcases hmarked with ⟨-, rfl⟩ | hrow
      · exact ⟨.refl _, fun _ _ => rfl⟩
      · exact ⟨hrow.later, fun other hne => hrow.other other (hsound.same ▸ hne)⟩
  | proven hphase hproof hrow | failed hphase hproof hrow =>
      rw [hphase] at hsound
      exact ⟨hrow.later, fun other hne => hrow.other other (hsound.1.same ▸ hne)⟩
  | taken | refused | unopened | already | unwritten | idle =>
      exact ⟨.refl _, fun _ _ => rfl⟩

/-- What is known of the task after a step. -/
theorem LeaseStep.sound (h : LeaseStep r task phase r') (hheld : Held r task.lease)
    (hsound : PhaseSound r task.lease.leaseId task.status task.phase) :
    PhaseSound r' task.lease.leaseId task.status phase := by
  cases h with
  | taken => exact ⟨hheld, rfl, fun given hgiven => by cases hgiven⟩
  | @claimed claim before _ hphase hid hstatus hopen hwritten =>
      refine ⟨?_, hid, ?_⟩
      · have hrow := hwritten.row before.leaseId
        rw [if_pos rfl] at hrow
        exact held_of_row hrow
      · intro given hgiven
        cases hgiven
        exact ⟨rfl, hstatus⟩
  | refused hphase | unopened hphase => trivial
  | already hphase hended =>
      rw [hphase] at hsound
      intro _
      rw [← hsound.same]
      exact hsound.held.finished hended
  | @asked lease claim _ _ hphase hopen hmarked hnext =>
      rw [hphase] at hsound
      have hboth : Handles r' task.lease.leaseId lease claim ∧ Closed r' lease.leaseId := by
        rcases hmarked with ⟨hstatus, rfl⟩ | hrow
        · obtain ⟨row, hrow, hlater⟩ := hsound.held
          refine ⟨hsound, row, hrow, hlater.closed ?_⟩
          unfold leaseInUse
          rw [hstatus]
          rfl
        · exact ⟨hsound.later hrow.later, hrow.closed ⟨by simp, by simp⟩⟩
      rcases hnext with rfl | ⟨e, rfl⟩ | ⟨e, rfl⟩
      · exact hboth
      · exact hboth
      · trivial
  | proven hphase hproof hrow =>
      rw [hphase] at hsound
      intro hstatus
      rw [← hsound.1.same]
      exact hrow.finished hstatus
  | failed hphase hproof hrow | unwritten hphase => trivial
  | idle hphase =>
      subst hphase
      exact hsound

/-- A row ends only where an answer has proved its resource absent. -/
theorem LeaseStep.ending (h : LeaseStep r task phase r')
    (hsound : PhaseSound r task.lease.leaseId task.status task.phase)
    (hnot : ¬ Finished r leaseId) (hended : Finished r' leaseId) :
    ∃ lease claim answer, task.phase = .reported lease claim answer
      ∧ judge lease.kind answer = .ok () ∧ lease.leaseId = leaseId := by
  cases h with
  | claimed hphase hid hstatus hopen hwritten =>
      obtain ⟨-, hend⟩ := hwritten.rowWritten.status_of_finished hnot hended
      rw [hstatus] at hend
      rcases hend with hend | hend <;> cases hend
  | asked hphase hopen hmarked =>
      rcases hmarked with ⟨-, rfl⟩ | hrow
      · exact absurd hended hnot
      · obtain ⟨-, hend⟩ := hrow.status_of_finished hnot hended
        rcases hend with hend | hend <;> cases hend
  | @proven lease claim answer _ hphase hproof hrow =>
      obtain ⟨hid, -⟩ := hrow.status_of_finished hnot hended
      exact ⟨lease, claim, answer, hphase, hproof, hid.symm⟩
  | failed hphase hproof hrow =>
      obtain ⟨-, hend⟩ := hrow.status_of_finished hnot hended
      rcases hend with hend | hend <;> cases hend
  | taken | refused | unopened | already | unwritten | idle => exact absurd hended hnot

end AgentFleet.Resources
