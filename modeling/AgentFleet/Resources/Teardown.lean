import AgentFleet.Resources.Invariant

/-! # Tiered teardown

What the invariant of the cleanups says of every interleaving: which step ends a lease, what has
ended when a resource is asked away, what a failure leaves behind, and that no lease has two
cleanups at once.  `leaseTasks_next` is everything that a step does to the tasks of leases;
`aloneSound_run` sharpens the invariant for runs in which no other client writes a lease. -/

namespace AgentFleet.Resources

open Relational Transaction Checks Conversations Transition

variable {svc : ResourceServices} {reads : ConversationReads} {amb : Ambient} {r r' : Registry}
  {s t : Service} {input : CleanupInput}

/-! ### Steps -/

variable {lease : ResourceLease} {status : LeaseStatus} {plan : Option ReviewedRecoveryPlan}
  {creator : Option ℕ} {i : ℕ} {answer : Answer} {task : LeaseTask}
  {claim : Option RecoveryLeaseClaim} {inputs : List CleanupInput}

theorem leaseCleanupTask_keeps {run : Run}
    (h : leaseCleanupTask svc s run lease status plan creator = .ok (i, t)) :
    t.registry = s.registry ∧ (t.leaseTasks = s.leaseTasks
      ∨ ∃ given, taskLease s lease status plan = .ok given
        ∧ t.leaseTasks = s.leaseTasks ++ [{ run, lease := given, status, plan, creator }]) := by
  unfold leaseCleanupTask at h
  dsimp only at h
  cases hentry : s.leaseCleanupTasks lease.leaseId with
  | none =>
      rw [hentry] at h
      obtain ⟨given, hgiven, h⟩ := Checks.bind_ok.mp h
      rw [return_ok] at h
      cases h
      exact ⟨rfl, .inr ⟨given, hgiven, rfl⟩⟩
  | some =>
      rw [hentry] at h
      dsimp only at h
      rw [refuse_bind_ok, return_ok] at h
      obtain ⟨-, h⟩ := h
      cases h
      exact ⟨rfl, .inl rfl⟩

/-- The input is no step of a task of a lease. -/
def CleanupInput.quiet (input : CleanupInput) (s : Service) : Prop :=
  ∀ i, input.op = .leaseTask i → s.leaseTasks[i]? = none

/-- What a step does to the list of the tasks of leases. -/
inductive TasksStep (svc : ResourceServices) (s : Service) (input : CleanupInput) (t : Service) :
    Prop where
  | kept (hquiet : input.quiet s) (h : t.leaseTasks = s.leaseTasks)
  | created {task : LeaseTask} (hquiet : input.quiet s) (hphase : task.phase = .created)
      (hrow : task.plan = none → leaseRow s.registry task.lease.leaseId = some task.lease)
      (h : t.leaseTasks = s.leaseTasks ++ [task])
  | stepped {i : ℕ} {task : LeaseTask} (hop : input.op = .leaseTask i)
      (htask : s.leaseTasks[i]? = some task)
      (h : t.leaseTasks = s.leaseTasks.set i
        { task with phase := (stepLeaseTask svc input.reads input.amb task s.registry).1 })
      (hrows : t.registry = (stepLeaseTask svc input.reads input.amb task s.registry).2)
  | answered {i : ℕ} {task : LeaseTask} {answer : Answer} (hop : input.op = .answer i answer)
      (htask : s.leaseTasks[i]? = some task)
      (h : t.leaseTasks = s.leaseTasks.set i { task with phase := answered task answer })
  | interrupted {i : ℕ} {task : LeaseTask} {e : StoreError} (hop : input.op = .interruptLease i e)
      (htask : s.leaseTasks[i]? = some task)
      (h : t.leaseTasks = s.leaseTasks.set i { task with phase := interrupted task e })

theorem taskLease_row {given : ResourceLease} (h : taskLease s lease status plan = .ok given)
    (hplan : plan = none) : leaseRow s.registry given.leaseId = some given := by
  subst hplan
  unfold taskLease at h
  rw [demand_ok] at h
  rw [(leaseRow_mem h).2]
  exact h

theorem leaseCleanupTask_tasks (hquiet : input.quiet s) {run : Run}
    (h : leaseCleanupTask svc s run lease status plan creator = .ok (i, t)) :
    TasksStep svc s input t := by
  obtain ⟨-, hkept | ⟨given, hgiven, hnew⟩⟩ := leaseCleanupTask_keeps h
  · exact .kept hquiet hkept
  · exact .created hquiet rfl (fun hplan => taskLease_row hgiven hplan) hnew

@[simp] theorem forgetLease_registry (leaseId : String) (i : ℕ) :
    (s.forgetLease leaseId i).registry = s.registry := by
  unfold Service.forgetLease
  split_ifs <;> rfl

@[simp] theorem forgetLease_leaseTasks (leaseId : String) (i : ℕ) :
    (s.forgetLease leaseId i).leaseTasks = s.leaseTasks := by
  unfold Service.forgetLease
  split_ifs <;> rfl

@[simp] theorem forgetRun_registry (runId : String) (j : ℕ) :
    (s.forgetRun runId j).registry = s.registry := by
  unfold Service.forgetRun
  split_ifs <;> rfl

@[simp] theorem forgetRun_leaseTasks (runId : String) (j : ℕ) :
    (s.forgetRun runId j).leaseTasks = s.leaseTasks := by
  unfold Service.forgetRun
  split_ifs <;> rfl

/-- The task of a run writes no row, and creates at most one task. -/
theorem stepRunTask_tasks (svc : ResourceServices) (hquiet : input.quiet s) (j : ℕ)
    (task : RunTask) : (stepRunTask svc s j task).registry = s.registry
      ∧ TasksStep svc s input (stepRunTask svc s j task) := by
  unfold stepRunTask
  cases task.phase with
  | created =>
      dsimp only
      cases capture task s.registry with
      | error e | ok captured => exact ⟨rfl, .kept hquiet rfl⟩
  | tier kind todo =>
      cases todo with
      | nil => exact ⟨rfl, .kept hquiet rfl⟩
      | cons lease =>
          dsimp only
          unfold joinNext
          cases hjoin : leaseCleanupTask svc s task.run lease task.status task.plan (some j) with
          | error => exact ⟨rfl, .kept hquiet rfl⟩
          | ok joined =>
              obtain ⟨i, t⟩ := joined
              refine ⟨(leaseCleanupTask_keeps hjoin).1, ?_⟩
              obtain ⟨-, hkept | ⟨given, hgiven, hnew⟩⟩ := leaseCleanupTask_keeps hjoin
              · exact .kept hquiet hkept
              · exact .created hquiet rfl (fun hplan => taskLease_row hgiven hplan) hnew
  | waiting kind lease i =>
      dsimp only
      unfold afterJoin
      cases (s.leaseTasks[i]?).bind LeaseTask.result? with
      | none => exact ⟨rfl, .kept hquiet rfl⟩
      | some => exact ⟨forgetLease_registry _ _, .kept hquiet (forgetLease_leaseTasks _ _)⟩
  | ended => exact ⟨rfl, .kept hquiet rfl⟩

theorem cleanupRun_keeps {run : Run} {recovered stored : Bool} {j : ℕ}
    (h : cleanupRun svc s run recovered plan stored = .ok (j, t)) :
    t.registry = s.registry ∧ t.leaseTasks = s.leaseTasks := by
  unfold cleanupRun at h
  dsimp only at h
  rw [refuse_bind_ok] at h
  obtain ⟨-, h⟩ := h
  cases hentry : s.runCleanupTasks run.runId with
  | none =>
      rw [hentry, return_ok] at h
      cases h
      exact ⟨rfl, rfl⟩
  | some =>
      rw [hentry] at h
      dsimp only at h
      rw [refuse_bind_ok, return_ok] at h
      obtain ⟨-, h⟩ := h
      cases h
      exact ⟨rfl, rfl⟩

/-- Who writes rows: another client, the preparation of a plan, or the task of a lease. -/
inductive RowsStep (svc : ResourceServices) (s : Service) (input : CleanupInput) (t : Service) :
    Prop where
  | kept (h : t.registry.shared.leases = s.registry.shared.leases)
  | store {call : StoreCall} (hop : input.op = .store call)
      (h : t.registry = (commit (storeBody svc input.amb input.reads call) s.registry).2)
  | stepped {i : ℕ} {task : LeaseTask} (hop : input.op = .leaseTask i)
      (htask : s.leaseTasks[i]? = some task)
      (h : t.registry = (stepLeaseTask svc input.reads input.amb task s.registry).2)

/-- What a step does to the tasks of leases and to the rows. -/
theorem next_steps (svc : ResourceServices) (s : Service) (input : CleanupInput) :
    TasksStep svc s input ((cleanupMachine svc).next s input)
      ∧ RowsStep svc s input ((cleanupMachine svc).next s input) := by
  obtain ⟨op, reads, amb⟩ := input
  have hother : (∀ i, op ≠ .leaseTask i) → (⟨op, reads, amb⟩ : CleanupInput).quiet s :=
    fun hne i hi => absurd hi (hne i)
  cases op with
  | cleanupRun run recovered plan stored =>
      show TasksStep svc s _ (joined s _).1 ∧ RowsStep svc s _ (joined s _).1
      cases hcall : (do
          let plan ← s.plan? plan
          cleanupRun svc s run recovered plan stored) with
      | error e => exact ⟨.kept (hother (by simp)) rfl, .kept rfl⟩
      | ok result =>
          obtain ⟨value, -, hok⟩ := Checks.bind_ok.mp hcall
          obtain ⟨hregistry, htasks⟩ := cleanupRun_keeps hok
          exact ⟨.kept (hother (by simp)) htasks, .kept (by rw [← hregistry]; rfl)⟩
  | cleanupLease run lease status =>
      show TasksStep svc s _ (joined s _).1 ∧ RowsStep svc s _ (joined s _).1
      cases hcall : leaseCleanupTask svc s run lease status none none with
      | error => exact ⟨.kept (hother (by simp)) rfl, .kept rfl⟩
      | ok =>
          refine ⟨leaseCleanupTask_tasks (hother (by simp)) hcall, .kept ?_⟩
          rw [← (leaseCleanupTask_keeps hcall).1]
          rfl
  | prepare binding =>
      show TasksStep svc s _ (follow svc reads amb s (.prepare binding))
        ∧ RowsStep svc s _ (follow svc reads amb s (.prepare binding))
      unfold follow
      dsimp only
      rcases commit_cases (withinBoundary (prepareReviewedRecovery svc.toConversationServices reads
        amb binding)) s.registry with ⟨plan, t, hplan, hc⟩ | ⟨e, -, hc⟩
      · rw [hc]
        obtain ⟨root, row, before, hprepared⟩ :=
          prepareReviewedRecovery_ok (withinBoundary_ok.mp hplan)
        obtain ⟨-, -, -, -, hbeside⟩ := hprepared.step
        exact ⟨.kept (hother (by simp)) rfl, .kept (congrArg SharedTables.leases hbeside.shared)⟩
      · rw [hc]
        exact ⟨.kept (hother (by simp)) rfl, .kept rfl⟩
  | runTask j =>
      show TasksStep svc s _ (follow svc reads amb s (.runTask j))
        ∧ RowsStep svc s _ (follow svc reads amb s (.runTask j))
      unfold follow
      dsimp only
      cases s.runTasks[j]? with
      | none => exact ⟨.kept (hother (by simp)) rfl, .kept rfl⟩
      | some task =>
          obtain ⟨hregistry, htasks⟩ := stepRunTask_tasks svc (hother (by simp)) j task
          exact ⟨htasks, .kept (by rw [hregistry])⟩
  | leaseTask i =>
      show TasksStep svc s _ (follow svc reads amb s (.leaseTask i))
        ∧ RowsStep svc s _ (follow svc reads amb s (.leaseTask i))
      unfold follow
      dsimp only
      cases htask : s.leaseTasks[i]? with
      | none =>
          refine ⟨.kept (fun k hk => ?_) rfl, .kept rfl⟩
          cases hk
          exact htask
      | some => exact ⟨.stepped rfl htask rfl rfl, .stepped rfl htask rfl⟩
  | answer i answer =>
      show TasksStep svc s _ (follow svc reads amb s (.answer i answer))
        ∧ RowsStep svc s _ (follow svc reads amb s (.answer i answer))
      unfold follow
      dsimp only
      cases htask : s.leaseTasks[i]? with
      | none => exact ⟨.kept (hother (by simp)) rfl, .kept rfl⟩
      | some => exact ⟨.answered rfl htask rfl, .kept rfl⟩
  | interruptRun j e =>
      show TasksStep svc s _ (follow svc reads amb s (.interruptRun j e))
        ∧ RowsStep svc s _ (follow svc reads amb s (.interruptRun j e))
      unfold follow
      dsimp only
      cases s.runTasks[j]? with
      | none | some task => exact ⟨.kept (hother (by simp)) rfl, .kept rfl⟩
  | interruptLease i e =>
      show TasksStep svc s _ (follow svc reads amb s (.interruptLease i e))
        ∧ RowsStep svc s _ (follow svc reads amb s (.interruptLease i e))
      unfold follow
      dsimp only
      cases htask : s.leaseTasks[i]? with
      | none => exact ⟨.kept (hother (by simp)) rfl, .kept rfl⟩
      | some => exact ⟨.interrupted rfl htask rfl, .kept rfl⟩
  | forgetRun runId j =>
      refine ⟨.kept (hother (by simp)) (forgetRun_leaseTasks runId j), .kept ?_⟩
      show (s.forgetRun runId j).registry.shared.leases = _
      rw [forgetRun_registry]
  | forgetLease leaseId i =>
      refine ⟨.kept (hother (by simp)) (forgetLease_leaseTasks leaseId i), .kept ?_⟩
      show (s.forgetLease leaseId i).registry.shared.leases = _
      rw [forgetLease_registry]
  | store => exact ⟨.kept (hother (by simp)) rfl, .store rfl rfl⟩

/-- Every step carries all rows to later ones. -/
theorem next_rowsLater (hs : ServiceSound s) :
    RowsLater s.registry ((cleanupMachine svc).next s input).registry := by
  obtain ⟨-, hrows⟩ := next_steps svc s input
  cases hrows with
  | kept h => exact .of_kept h
  | store hop h =>
      rw [h]
      exact commit_later
  | stepped hop htask h =>
      rw [h]
      have hsound := hs.leases _ _ htask
      exact ((stepLeaseTask_step svc input.reads input.amb hsound.phase).rows hsound.phase).1

/-! ### What ends a lease -/

/-- The answer proves that the resource is absent: a provider has reported so, or the removal of a
worktree has returned. -/
def Proves (kind : LeaseKind) (answer : Answer) : Prop :=
  answer = .ok true ∨ kind = .worktree ∧ ∃ complete, answer = .ok complete

theorem judge_ok {kind : LeaseKind} : judge kind answer = .ok () ↔ Proves kind answer := by
  unfold Proves judge
  cases answer with
  | error => simp
  | ok =>
      dsimp only
      split_ifs with h
      · rcases h with hkind | hcomplete
        · simp [hkind]
        · simp [hcomplete]
      · rw [not_or] at h
        simp [h.1, h.2]

/-- A step that ends a lease is one of another client, or writes what an answer has proved. -/
theorem next_ending (hs : ServiceSound s) {leaseId : String}
    (hnot : ¬ Finished s.registry leaseId)
    (hended : Finished ((cleanupMachine svc).next s input).registry leaseId) :
    (∃ call, input.op = .store call) ∨ ∃ i task lease claim answer, input.op = .leaseTask i
      ∧ s.leaseTasks[i]? = some task ∧ task.phase = .reported lease claim answer
      ∧ lease.leaseId = leaseId ∧ Proves lease.kind answer := by
  obtain ⟨-, hrows⟩ := next_steps svc s input
  cases hrows with
  | kept h => exact absurd ((RowsLater.of_kept h.symm).finished hended) hnot
  | store hop => exact .inl ⟨_, hop⟩
  | @stepped i task hop htask h =>
      rw [h] at hended
      have hsound := hs.leases _ _ htask
      obtain ⟨lease, claim, answer, hphase, hproof, hid⟩ :=
        (stepLeaseTask_step svc input.reads input.amb hsound.phase).ending hsound.phase hnot hended
      exact .inr ⟨i, task, lease, claim, answer, hop, htask, hphase, hid, judge_ok.mp hproof⟩

theorem answered_cases (task : LeaseTask) (answer : Answer) :
    (∃ lease claim, task.phase = .calling lease claim
      ∧ answered task answer = .reported lease claim answer)
      ∨ answered task answer = task.phase := by
  unfold answered
  cases task.phase with
  | calling lease claim => exact .inl ⟨lease, claim, rfl, rfl⟩
  | _ => exact .inr rfl

theorem interrupted_cases (task : LeaseTask) (e : StoreError) :
    task.phase = .created ∧ interrupted task e = .ended (.error e)
      ∨ interrupted task e = task.phase := by
  unfold interrupted
  cases task.phase with
  | created => exact .inl ⟨rfl, rfl⟩
  | _ => exact .inr rfl

/-- A task that has an answer was given it. -/
theorem reported_next {complete : Bool}
    (htask : ((cleanupMachine svc).next s input).leaseTasks[i]? = some task)
    (hphase : task.phase = .reported lease claim (.ok complete)) :
    s.leaseTasks[i]? = some task ∨ input.op = .answer i (.ok complete) := by
  obtain ⟨hstep, -⟩ := next_steps svc s input
  cases hstep with
  | kept hquiet h =>
      rw [h] at htask
      exact .inl htask
  | created hquiet hnew hrow h =>
      rw [h] at htask
      rcases getElem?_append_cases htask with hold | ⟨-, rfl⟩
      · exact .inl hold
      · rw [hnew] at hphase
        cases hphase
  | @stepped k before hop hbefore h hrows =>
      rw [h] at htask
      rcases getElem?_set_cases htask with ⟨-, hold⟩ | ⟨rfl, rfl⟩
      · exact .inl hold
      · -- the step of a task goes on to an answer only when it cannot ask
        dsimp only at hphase
        unfold stepLeaseTask at hphase ⊢
        cases hcase : before.phase with
        | created =>
            rw [hcase] at hphase
            dsimp only at hphase
            cases hplan : before.plan with
            | none =>
                rw [hplan] at hphase
                cases hphase
            | some =>
                rw [hplan] at hphase
                dsimp only at hphase
                unfold claimReviewed at hphase
                dsimp only at hphase
                split_ifs at hphase
                split at hphase <;> cases hphase
        | opened =>
            rw [hcase] at hphase
            dsimp only at hphase
            unfold openCleanup at hphase
            split at hphase
            · cases hphase
            · split_ifs at hphase
              split at hphase
              · cases hphase
              · unfold askProvider at hphase
                split at hphase
                · cases hphase
                · split_ifs at hphase
                  cases hphase
        | calling =>
            rw [hcase] at hphase
            cases hphase
        | reported =>
            rw [hcase] at hphase
            dsimp only at hphase
            unfold closeCleanup at hphase
            split at hphase
            · cases hphase
            · split at hphase <;> cases hphase
        | ended =>
            rw [hcase] at hphase
            cases hphase
  | @answered k before answer hop hbefore h =>
      rw [h] at htask
      rcases getElem?_set_cases htask with ⟨-, hold⟩ | ⟨rfl, rfl⟩
      · exact .inl hold
      · dsimp only at hphase
        rcases answered_cases before answer with ⟨other, given, -, heq⟩ | heq
        · rw [heq] at hphase
          cases hphase
          exact .inr hop
        · rw [heq]
          exact .inl hbefore
  | @interrupted k before e hop hbefore h =>
      rw [h] at htask
      rcases getElem?_set_cases htask with ⟨-, hold⟩ | ⟨rfl, rfl⟩
      · exact .inl hold
      · dsimp only at hphase
        rcases interrupted_cases before e with ⟨-, heq⟩ | heq
        · rw [heq] at hphase
          cases hphase
        · rw [heq]
          exact .inl hbefore

/-- Every answer that a task has was given to it by an input. -/
def AnswersGiven (inputs : List CleanupInput) (s : Service) : Prop :=
  ∀ (i : ℕ) (task : LeaseTask) (lease : ResourceLease) (claim : Option RecoveryLeaseClaim)
    (complete : Bool), s.leaseTasks[i]? = some task →
    task.phase = .reported lease claim (.ok complete) →
    ∃ input ∈ inputs, input.op = .answer i (.ok complete)

theorem answersGiven_run (svc : ResourceServices) (registry : Registry)
    (inputs : List CleanupInput) :
    AnswersGiven inputs ((cleanupMachine svc).run { registry } inputs) := by
  refine Machine.run_induction (P := AnswersGiven) ?_ ?_ inputs
  · intro i task lease claim complete htask
    cases htask
  · intro before input ih i task lease claim complete htask hphase
    rcases reported_next htask hphase with hold | hop
    · obtain ⟨earlier, hearlier, hop⟩ := ih i task lease claim complete hold hphase
      exact ⟨earlier, List.mem_append_left _ hearlier, hop⟩
    · exact ⟨input, List.mem_append_right _ List.mem_cons_self, hop⟩

/-! ### One cleanup for each lease -/

/-- Two tasks of one lease that are not done are one task. -/
theorem ServiceSound.exclusive (h : ServiceSound s) {k : ℕ} {a b : LeaseTask}
    (ha : s.leaseTasks[i]? = some a) (hb : s.leaseTasks[k]? = some b)
    (hid : a.lease.leaseId = b.lease.leaseId) (harunning : a.result? = none)
    (hbrunning : b.result? = none) : i = k := by
  have hfirst := h.registered i a ha harunning
  have hsecond := h.registered k b hb hbrunning
  rw [hid, hsecond] at hfirst
  exact (congrArg Prod.snd (Option.some.inj hfirst)).symm

/-! ### Runs without other writers of leases -/

/-- The input writes no lease for another client. -/
def CleanupInput.alone (input : CleanupInput) : Prop :=
  ∀ call, input.op = .store call → call.keepsLeases = true

/-- What a task knows of its row while no other client writes it. -/
def AlonePhase (r : Registry) (task : LeaseTask) : LeasePhase → Prop
  | .created => task.plan = none → leaseRow r task.lease.leaseId = some task.lease
  | .opened lease _ => leaseRow r lease.leaseId = some lease
  | .calling lease _ | .reported lease _ _ =>
      ∃ row, leaseRow r lease.leaseId = some row ∧ row.status = .releasing
  | .ended _ => True

/-- The tasks know the rows that they handle. -/
def AloneSound (s : Service) : Prop :=
  ∀ (i : ℕ) task, s.leaseTasks[i]? = some task → AlonePhase s.registry task task.phase

/-- The rows of other leases do not matter to a task. -/
theorem AlonePhase.congr (h : AlonePhase r task task.phase)
    (hsound : PhaseSound r task.lease.leaseId task.status task.phase)
    (hrow : task.result? = none → leaseRow r' task.lease.leaseId = leaseRow r task.lease.leaseId) :
    AlonePhase r' task task.phase := by
  unfold LeaseTask.result? at hrow
  cases hcase : task.phase with
  | created =>
      rw [hcase] at h hrow
      intro hplan
      rw [hrow rfl]
      exact h hplan
  | opened lease =>
      rw [hcase] at h hrow hsound
      show leaseRow r' lease.leaseId = some lease
      rw [hsound.same, hrow rfl, ← hsound.same]
      exact h
  | calling lease claim | reported lease claim answer =>
      rw [hcase] at h hrow hsound
      obtain ⟨row, hheld, hstatus⟩ := h
      refine ⟨row, ?_, hstatus⟩
      rw [hsound.1.same, hrow rfl, ← hsound.1.same]
      exact hheld
  | ended result => trivial

/-- A step of a task knows the row that it has written. -/
theorem LeaseStep.alone {phase : LeasePhase} (h : LeaseStep r task phase r')
    (halone : AlonePhase r task task.phase) : AlonePhase r' task phase := by
  cases h with
  | taken hphase hplan =>
      rw [hphase] at halone
      exact halone hplan
  | @claimed claim before _ hphase hid hstatus hopen hwritten =>
      have hrow := hwritten.row before.leaseId
      rw [if_pos rfl, ← hwritten.later.leaseId] at hrow
      exact hrow
  | @asked lease claim _ _ hphase hopen hmarked hnext =>
      rw [hphase] at halone
      have hreleasing : ∃ row, leaseRow r' lease.leaseId = some row
          ∧ row.status = .releasing := by
        rcases hmarked with ⟨hstatus, rfl⟩ | hrow
        · exact ⟨lease, halone, hstatus⟩
        · exact hrow.row
      rcases hnext with rfl | ⟨e, rfl⟩ | ⟨e, rfl⟩
      · exact hreleasing
      · exact hreleasing
      · trivial
  | refused | unopened | already | proven | failed | unwritten => trivial
  | idle hphase =>
      subst hphase
      exact halone

/-- Without a step of a task no row is written. -/
theorem row_of_quiet (svc : ResourceServices) (hinput : input.alone) (hquiet : input.quiet s)
    (leaseId : String) :
    leaseRow ((cleanupMachine svc).next s input).registry leaseId
      = leaseRow s.registry leaseId := by
  obtain ⟨-, hrows⟩ := next_steps svc s input
  refine leaseRow_congr ?_ leaseId
  cases hrows with
  | kept h => exact h
  | @store call hop h =>
      rw [h]
      rcases commit_cases (storeBody svc input.amb input.reads call) s.registry with
        ⟨v, t, hbody, hc⟩ | ⟨e, -, hc⟩
      · rw [hc]
        exact storeBody_kept (hinput call hop) hbody
      · rw [hc]
  | stepped hop htask =>
      rw [hquiet _ hop] at htask
      cases htask

theorem aloneSound_next (hs : ServiceSound s) (halone : AloneSound s) (hinput : input.alone) :
    AloneSound ((cleanupMachine svc).next s input) := by
  obtain ⟨htasks, -⟩ := next_steps svc s input
  intro i task htask
  have hold : ∀ (hquiet : input.quiet s), s.leaseTasks[i]? = some task →
      AlonePhase ((cleanupMachine svc).next s input).registry task task.phase :=
    fun hquiet hbefore => (halone i task hbefore).congr (hs.leases i task hbefore).phase
      fun _ => row_of_quiet svc hinput hquiet _
  cases htasks with
  | kept hquiet h =>
      rw [h] at htask
      exact hold hquiet htask
  | created hquiet hnew hrow h =>
      rw [h] at htask
      rcases getElem?_append_cases htask with hbefore | ⟨-, rfl⟩
      · exact hold hquiet hbefore
      · rw [hnew]
        intro hplan
        rw [row_of_quiet svc hinput hquiet]
        exact hrow hplan
  | @stepped k before hop hbefore h hwritten =>
      have hsound := hs.leases k before hbefore
      have hstep := stepLeaseTask_step svc input.reads input.amb hsound.phase
      rw [← hwritten] at hstep
      rw [h] at htask
      rcases getElem?_set_cases htask with ⟨hne, hother⟩ | ⟨rfl, rfl⟩
      · -- another lease: the task that stepped was the only one of its own
        refine (halone i task hother).congr (hs.leases i task hother).phase fun hrunning => ?_
        by_cases hdone : before.result? = none
        · refine (hstep.rows hsound.phase).2 _ fun hid => hne ?_
          exact hs.exclusive hother hbefore hid hrunning hdone
        · have hidle : (stepLeaseTask svc input.reads input.amb before s.registry).2
              = s.registry := by
            unfold stepLeaseTask
            unfold LeaseTask.result? at hdone
            cases hcase : before.phase with
            | ended result | calling lease claim => rfl
            | _ =>
                rw [hcase] at hdone
                exact absurd rfl hdone
          rw [hwritten, hidle]
      · exact hstep.alone (halone i before hbefore)
  | @answered k before answer hop hbefore h =>
      have hquiet : input.quiet s := fun n hn => by rw [hop] at hn; cases hn
      rw [h] at htask
      rcases getElem?_set_cases htask with ⟨-, hother⟩ | ⟨rfl, rfl⟩
      · exact hold hquiet hother
      · have hkept := (halone i before hbefore).congr (hs.leases i before hbefore).phase
          fun _ => row_of_quiet svc hinput hquiet _
        rcases answered_cases before answer with ⟨lease, claim, hcase, heq⟩ | heq
        · rw [hcase] at hkept
          rw [heq]
          exact hkept
        · rw [heq]
          exact hkept
  | @interrupted k before e hop hbefore h =>
      have hquiet : input.quiet s := fun n hn => by rw [hop] at hn; cases hn
      rw [h] at htask
      rcases getElem?_set_cases htask with ⟨-, hother⟩ | ⟨rfl, rfl⟩
      · exact hold hquiet hother
      · have hkept := (halone i before hbefore).congr (hs.leases i before hbefore).phase
          fun _ => row_of_quiet svc hinput hquiet _
        rcases interrupted_cases before e with ⟨-, heq⟩ | heq
        · rw [heq]
          trivial
        · rw [heq]
          exact hkept

/-- The tasks know their rows in every run in which no other client writes a lease. -/
theorem aloneSound_run (svc : ResourceServices) (registry : Registry)
    (halone : ∀ input ∈ inputs, input.alone) :
    AloneSound ((cleanupMachine svc).run { registry } inputs) := by
  have hboth : ∀ s : Service, ServiceSound s → AloneSound s →
      AloneSound ((cleanupMachine svc).run s inputs) := by
    induction inputs with
    | nil => exact fun s _ h => h
    | cons input inputs ih =>
        rw [List.forall_mem_cons] at halone
        exact fun s hs h => ih halone.2 _ (serviceSound_invariant svc s input hs)
          (aloneSound_next hs h halone.1)
  refine hboth _ (serviceSound_start registry) ?_
  intro i task htask
  cases htask

/-! ### Failures -/

/-- An answer that proves nothing ends the task with an error; the row is marked as failed or left
as it is. -/
theorem closeCleanup_failed (svc : ResourceServices) (reads : ConversationReads) (amb : Ambient)
    (r : Registry) (status : LeaseStatus) (hclaim : ClaimFor lease claim)
    (hproof : ¬ Proves lease.kind answer) :
    (∃ e, (closeCleanup svc reads amb status lease claim answer r).1 = .ended (.error e))
      ∧ (RowWritten r (closeCleanup svc reads amb status lease claim answer r).2 lease.leaseId
          .failed
        ∨ (closeCleanup svc reads amb status lease claim answer r).2 = r) := by
  unfold closeCleanup
  cases hjudge : judge lease.kind answer with
  | ok => exact absurd (judge_ok.mp hjudge) hproof
  | error e =>
      dsimp only
      rcases commit_cases (persist svc reads amb lease.leaseId claim .failed) r with
        ⟨v, t, hwrite, hc⟩ | ⟨e', -, hc⟩
      · rw [hc]
        exact ⟨⟨e, rfl⟩, .inl (persist_written hclaim hwrite)⟩
      · rw [hc]
        exact ⟨⟨e', rfl⟩, .inr rfl⟩

/-- What the failure of a cleanup leaves: its task is done, its row is marked as failed or as it
was, and its registration can be forgotten. -/
structure FailureLeft (s t : Service) (i : ℕ) (leaseId : String) : Prop where
  ended : ∃ task e, t.leaseTasks[i]? = some task ∧ task.phase = .ended (.error e)
  row : ∃ before after, leaseRow s.registry leaseId = some before
    ∧ leaseRow t.registry leaseId = some after ∧ leaseInUse before = false
    ∧ (after.status = .failed ∨ after = before)
  freed : (t.forgetLease leaseId i).leaseCleanupTasks leaseId = none

theorem failureLeft_next (svc : ResourceServices) (hs : ServiceSound s)
    (hop : input.op = .leaseTask i) (htask : s.leaseTasks[i]? = some task)
    (hphase : task.phase = .reported lease claim answer) (hproof : ¬ Proves lease.kind answer) :
    FailureLeft s ((cleanupMachine svc).next s input) i lease.leaseId := by
  have hnext : (cleanupMachine svc).next s input
      = { s with registry := (closeCleanup svc input.reads input.amb task.status lease claim answer
            s.registry).2 }.setLeasePhase i task
          (closeCleanup svc input.reads input.amb task.status lease claim answer s.registry).1 := by
    obtain ⟨op, reads, amb⟩ := input
    subst hop
    show follow svc reads amb s (.leaseTask i) = _
    unfold follow
    dsimp only
    rw [htask]
    dsimp only
    unfold stepLeaseTask
    rw [hphase]
  have hsound := (hs.leases i task htask).phase
  rw [hphase] at hsound
  obtain ⟨⟨hheld, hsame, hclaim⟩, row, hrow, hclosed⟩ := hsound
  obtain ⟨⟨e, hended⟩, hwritten⟩ := closeCleanup_failed svc input.reads input.amb
    s.registry task.status hclaim hproof
  rw [hnext, hended]
  obtain ⟨hlt, -⟩ := List.getElem?_eq_some_iff.mp htask
  refine ⟨⟨_, e, List.getElem?_set_self hlt, rfl⟩, ?_, ?_⟩
  · rcases hwritten with hfailed | hkept
    · obtain ⟨after, hafter, hstatus⟩ := hfailed.row
      exact ⟨row, after, hrow, hafter, hclosed, .inl hstatus⟩
    · refine ⟨row, row, hrow, ?_, hclosed, .inr rfl⟩
      show leaseRow (closeCleanup svc input.reads input.amb task.status lease claim answer
        s.registry).2 lease.leaseId = some row
      rw [hkept]
      exact hrow
  · have hentry : s.leaseCleanupTasks lease.leaseId = some (task.status, i) := by
      rw [hsame]
      refine hs.registered i task htask ?_
      unfold LeaseTask.result?
      rw [hphase]
    unfold Service.forgetLease
    rw [if_pos]
    · exact Function.update_self ..
    · refine ⟨?_, ?_⟩
      · show (((s.leaseTasks.set i _)[i]?).bind LeaseTask.result?).isSome = true
        rw [List.getElem?_set_self hlt]
        rfl
      · show (s.leaseCleanupTasks lease.leaseId).map Prod.snd = some i
        rw [hentry]
        rfl

/-! ### Every run -/

/-- A lease ends where another client ends it, or where a cleanup writes what an earlier answer of
its provider has proved. -/
def EndsOnProof (inputs : List CleanupInput) (s : Service) (input : CleanupInput) (t : Service) :
    Prop :=
  ∀ leaseId, ¬ Finished s.registry leaseId → Finished t.registry leaseId →
    (∃ call, input.op = .store call) ∨ ∃ i task lease claim answer, input.op = .leaseTask i
      ∧ s.leaseTasks[i]? = some task ∧ task.phase = .reported lease claim answer
      ∧ lease.leaseId = leaseId ∧ Proves lease.kind answer
      ∧ ∃ earlier ∈ inputs, earlier.op = .answer i answer

/-- The provider of a task was asked for a lease. -/
def LeaseTask.asked (task : LeaseTask) (lease : ResourceLease) : Prop :=
  ∃ claim, task.phase = .calling lease claim ∨ ∃ answer, task.phase = .reported lease claim answer

/-- What the cleanup of a run asks away, or waits for, finds what it has captured of the kinds
before ended. -/
def InOrder (s : Service) : Prop :=
  (∀ (i j : ℕ) task lease, s.leaseTasks[i]? = some task → task.creator = some j →
    task.asked lease → ∃ run, s.runTasks[j]? = some run
      ∧ BelowEnded s.registry run.captured lease.kind)
  ∧ ∀ (i j : ℕ) run kind lease todo failures, s.runTasks[j]? = some run →
    run.phase = .waiting kind lease i todo failures →
    lease.kind = kind ∧ BelowEnded s.registry run.captured kind

/-- A failed cleanup leaves its lease outstanding, unless another client has ended it before. -/
def FailureOutstanding (inputs : List CleanupInput) (s : Service) (input : CleanupInput)
    (t : Service) : Prop :=
  ∀ (i : ℕ) task lease claim answer, input.op = .leaseTask i → s.leaseTasks[i]? = some task →
    task.phase = .reported lease claim answer → ¬ Proves lease.kind answer →
    FailureLeft s t i lease.leaseId
      ∧ ((∀ earlier ∈ inputs, earlier.alone) → ∃ row, leaseRow t.registry lease.leaseId = some row
        ∧ (row.status = .releasing ∨ row.status = .failed)
        ∧ row ∈ outstandingLeases row.runId t.registry)

/-- An outstanding lease can be cleaned again: a cleanup captures it, its status admits the
cleanup, and a call that meets no registration starts a new task over its row. -/
def Retried (svc : ResourceServices) (s : Service) : Prop :=
  ∀ row ∈ s.registry.shared.leases, leaseEnded row = false →
    row ∈ outstandingLeases row.runId s.registry
    ∧ (row.status = .releasing ∨ .releasing ∈ leaseTransitions row.status)
    ∧ ∀ run status, s.leaseCleanupTasks row.leaseId = none →
      ∃ t, leaseCleanupTask svc s run row status none none = .ok (s.leaseTasks.length, t)
        ∧ t.leaseTasks = s.leaseTasks
          ++ [{ run, lease := row, status, plan := none, creator := none }]

/-- A row that has ended stays. -/
def TerminalKept (s t : Service) : Prop :=
  ∀ leaseId row, leaseRow s.registry leaseId = some row → leaseEnded row = true →
    leaseRow t.registry leaseId = some row

/-- No lease has two cleanups that are not done. -/
def OneCleanup (s : Service) : Prop :=
  ∀ (i k : ℕ) a b, s.leaseTasks[i]? = some a → s.leaseTasks[k]? = some b →
    a.lease.leaseId = b.lease.leaseId → a.result? = none → b.result? = none → i = k

theorem mem_outstandingLeases {row : ResourceLease} (h : row ∈ r.shared.leases)
    (hopen : leaseEnded row = false) : row ∈ outstandingLeases row.runId r := by
  unfold outstandingLeases Registry.leasesOf
  rw [List.mem_filter, List.mem_filter]
  exact ⟨⟨h, decide_eq_true rfl⟩, by rw [hopen]; rfl⟩

theorem endsOnProof_next (hs : ServiceSound s) (hgiven : AnswersGiven inputs s) :
    EndsOnProof inputs s input ((cleanupMachine svc).next s input) := by
  intro leaseId hnot hended
  rcases next_ending hs hnot hended with hstore | hproven
  · exact .inl hstore
  · obtain ⟨i, task, lease, claim, answer, hop, htask, hphase, hid, hproof⟩ := hproven
    have hearlier : ∃ earlier ∈ inputs, earlier.op = .answer i answer := by
      rcases hproof with rfl | ⟨-, complete, rfl⟩
      · exact hgiven i task lease claim true htask hphase
      · exact hgiven i task lease claim complete htask hphase
    exact .inr ⟨i, task, lease, claim, answer, hop, htask, hphase, hid, hproof, hearlier⟩

theorem inOrder_of_sound (hs : ServiceSound s) : InOrder s := by
  constructor
  · intro i j task lease htask hcreator hasked
    have hsound := hs.leases i task htask
    obtain ⟨run, hrun, -, hbelow⟩ := hsound.order j hcreator
    have hkind : lease.kind = task.lease.kind := by
      have hphase := hsound.phase
      obtain ⟨claim, hcase | ⟨answer, hcase⟩⟩ := hasked
      · rw [hcase] at hphase
        exact hphase.1.held.kind_eq hsound.held hphase.1.same
      · rw [hcase] at hphase
        exact hphase.1.held.kind_eq hsound.held hphase.1.same
    refine ⟨run, hrun, ?_⟩
    rw [hkind]
    exact hbelow
  · intro i j run kind lease todo failures hrun hphase
    have hsound := (hs.runs j run hrun).phase
    rw [hphase] at hsound
    exact ⟨(hsound.1.own lease List.mem_cons_self).2, hsound.1.below⟩

theorem failureOutstanding_next (hs : ServiceSound s)
    (halone : (∀ earlier ∈ inputs, earlier.alone) → AloneSound s) :
    FailureOutstanding inputs s input ((cleanupMachine svc).next s input) := by
  intro i task lease claim answer hop htask hphase hproof
  have hleft := failureLeft_next svc hs hop htask hphase hproof
  refine ⟨hleft, fun hinputs => ?_⟩
  obtain ⟨before, after, hbefore, hafter, -, hstatus⟩ := hleft.row
  have hreleasing : before.status = .releasing := by
    have hknown := halone hinputs i task htask
    rw [hphase] at hknown
    obtain ⟨row, hrow, hrowStatus⟩ := hknown
    rw [hbefore] at hrow
    cases hrow
    exact hrowStatus
  have houtstanding : after.status = .releasing ∨ after.status = .failed := by
    rcases hstatus with hfailed | rfl
    · exact .inr hfailed
    · exact .inl hreleasing
  refine ⟨after, hafter, houtstanding, mem_outstandingLeases (leaseRow_mem hafter).1 ?_⟩
  unfold leaseEnded
  rcases houtstanding with hnow | hnow
  · simp [hnow]
  · simp [hnow]

theorem retried (svc : ResourceServices) (s : Service) : Retried svc s := by
  intro row hrow hopen
  refine ⟨mem_outstandingLeases hrow hopen, ?_, fun run status hfree => ?_⟩
  · unfold leaseEnded at hopen
    cases hstatus : row.status with
    | releasing => exact .inl rfl
    | released | recovered =>
        rw [hstatus] at hopen
        simp at hopen
    | _ => exact .inr (by simp [leaseTransitions])
  · unfold leaseCleanupTask
    dsimp only
    rw [hfree]
    refine ⟨_, Checks.bind_ok.mpr ⟨row, ?_, rfl⟩, rfl⟩
    unfold taskLease
    rw [demand_ok]
    exact leaseRow_eq_some hrow

/-- Tiered teardown: in every interleaving of cleanups and recoveries of one service, with any
answers of the providers and any other clients of the stores. -/
theorem tiered_teardown (svc : ResourceServices) (registry : Registry)
    (inputs : List CleanupInput) (input : CleanupInput) :
    let s := (cleanupMachine svc).run { registry } inputs
    let t := (cleanupMachine svc).next s input
    EndsOnProof inputs s input t ∧ InOrder s ∧ FailureOutstanding inputs s input t
      ∧ Retried svc s ∧ TerminalKept s t ∧ OneCleanup s := by
  have hs := (serviceSound_invariant svc).run (serviceSound_start registry) inputs
  refine ⟨endsOnProof_next hs (answersGiven_run svc registry inputs), inOrder_of_sound hs,
    failureOutstanding_next hs (aloneSound_run svc registry), retried svc _, ?_, ?_⟩
  · intro leaseId row hrow hended
    exact (next_rowsLater hs).ended_row hrow hended
  · intro i k a b ha hb hid harunning hbrunning
    exact hs.exclusive ha hb hid harunning hbrunning

end AgentFleet.Resources
