import AgentFleet.Resources.Steps

/-! # The invariant of the cleanups

`LeaseTaskSound` and `RunTaskSound` are what holds of one task of the service, `ServiceSound` of all
of them and of the registrations by which they are joined.  The task of a run goes on to a kind only
when every captured lease of the kinds before has ended, so the tasks that it creates find them so
(`LeaseTaskSound.order`).  One lemma for each way in which the service changes says that it keeps
`ServiceSound`; `serviceSound_invariant` puts them together. -/

namespace AgentFleet.Resources

open Relational Transaction Checks Conversations Transition

variable {svc : ResourceServices} {reads : ConversationReads} {amb : Ambient} {r r' : Registry}
  {s : Service}

/-! ### Tasks -/

/-- The place of a kind in the order of a cleanup. -/
def tierRank : LeaseKind → ℕ
  | .execution => 0
  | .sandbox => 1
  | .worktree => 2

/-- The task has captured its leases. -/
def RunTask.begun (task : RunTask) : Bool :=
  match task.phase with
  | .created => false
  | _ => true

/-- The leases that come before a kind have ended. -/
def BelowEnded (r : Registry) (captured : List ResourceLease) (kind : LeaseKind) : Prop :=
  ∀ lease ∈ captured, tierRank lease.kind < tierRank kind → Finished r lease.leaseId

/-- What holds of a task of a lease. -/
structure LeaseTaskSound (r : Registry) (runs : List RunTask) (task : LeaseTask) : Prop where
  held : Held r task.lease
  phase : PhaseSound r task.lease.leaseId task.status task.phase
  order : ∀ j, task.creator = some j → ∃ run, runs[j]? = some run ∧ run.begun = true
    ∧ BelowEnded r run.captured task.lease.kind

/-- Where a task of a run is in a kind: what has come before has ended, and so has what is not
left to do, unless something has failed. -/
structure TierSound (r : Registry) (captured : List ResourceLease) (kind : LeaseKind)
    (todo : List ResourceLease) (failures : List StoreError) : Prop where
  below : BelowEnded r captured kind
  own : ∀ lease ∈ todo, lease ∈ captured ∧ lease.kind = kind
  done : failures = [] → ∀ lease ∈ captured, lease.kind = kind →
    lease ∈ todo ∨ Finished r lease.leaseId

/-- What is known in a phase of a task that brings what it has captured to a status. -/
def RunPhaseSound (r : Registry) (tasks : List LeaseTask) (captured : List ResourceLease)
    (status : LeaseStatus) : RunPhase → Prop
  | .created => True
  | .tier kind todo failures => TierSound r captured kind todo failures
  | .waiting kind lease i todo failures => TierSound r captured kind (lease :: todo) failures
      ∧ ∃ awaited, tasks[i]? = some awaited ∧ awaited.lease.leaseId = lease.leaseId
        ∧ awaited.status = status
  | .ended (.ok _) => ∀ lease ∈ captured, Finished r lease.leaseId
  | .ended (.error _) => True

/-- What holds of a task of a run. -/
structure RunTaskSound (r : Registry) (tasks : List LeaseTask) (task : RunTask) : Prop where
  ending : task.status = .released ∨ task.status = .recovered
  planned : ∀ plan, task.plan = some plan → ∀ lease ∈ plan.binding.snapshot.leases, Held r lease
  held : ∀ lease ∈ task.captured, Held r lease
  phase : RunPhaseSound r tasks task.captured task.status task.phase

/-- What holds of the service. -/
structure ServiceSound (s : Service) : Prop where
  leases : ∀ (i : ℕ) task, s.leaseTasks[i]? = some task → LeaseTaskSound s.registry s.runTasks task
  runs : ∀ (j : ℕ) task, s.runTasks[j]? = some task → RunTaskSound s.registry s.leaseTasks task
  plans : ∀ plan ∈ s.plans, ∀ lease ∈ plan.binding.snapshot.leases, Held s.registry lease
  registered : ∀ (i : ℕ) task, s.leaseTasks[i]? = some task → task.result? = none →
    s.leaseCleanupTasks task.lease.leaseId = some (task.status, i)
  entries : ∀ leaseId status i, s.leaseCleanupTasks leaseId = some (status, i) →
    ∃ task, s.leaseTasks[i]? = some task ∧ task.lease.leaseId = leaseId ∧ task.status = status

/-! ### Rows that move on -/

variable {captured todo : List ResourceLease} {failures : List StoreError} {status : LeaseStatus}
  {task : RunTask} {i k j : ℕ} {lease : ResourceLease} {plan : Option ReviewedRecoveryPlan}
  {t : Service}

theorem BelowEnded.later {kind : LeaseKind} (h : BelowEnded r captured kind)
    (hlater : RowsLater r r') : BelowEnded r' captured kind :=
  fun lease hlease hrank => hlater.finished (h lease hlease hrank)

theorem LeaseTaskSound.later {runs : List RunTask} {task : LeaseTask}
    (h : LeaseTaskSound r runs task) (hlater : RowsLater r r') : LeaseTaskSound r' runs task where
  held := hlater.held h.held
  phase := h.phase.later hlater
  order j hj := by
    obtain ⟨run, hrun, hbegun, hbelow⟩ := h.order j hj
    exact ⟨run, hrun, hbegun, hbelow.later hlater⟩

theorem TierSound.later {kind : LeaseKind} (h : TierSound r captured kind todo failures)
    (hlater : RowsLater r r') :
    TierSound r' captured kind todo failures where
  below := h.below.later hlater
  own := h.own
  done hnone lease hlease hkind := (h.done hnone lease hlease hkind).imp id hlater.finished

theorem RunPhaseSound.later {tasks : List LeaseTask} {phase : RunPhase}
    (h : RunPhaseSound r tasks captured status phase) (hlater : RowsLater r r') :
    RunPhaseSound r' tasks captured status phase := by
  cases phase with
  | created => trivial
  | tier => exact TierSound.later h hlater
  | waiting => exact ⟨h.1.later hlater, h.2⟩
  | ended result =>
      cases result with
      | ok => exact fun lease hlease => hlater.finished (h lease hlease)
      | error e => trivial

theorem RunTaskSound.later {tasks : List LeaseTask} (h : RunTaskSound r tasks task)
    (hlater : RowsLater r r') : RunTaskSound r' tasks task where
  ending := h.ending
  planned plan hplan lease hlease := hlater.held (h.planned plan hplan lease hlease)
  held lease hlease := hlater.held (h.held lease hlease)
  phase := h.phase.later hlater

/-- The rows of the leases move on. -/
theorem ServiceSound.registry (h : ServiceSound s) (hlater : RowsLater s.registry r') :
    ServiceSound { s with registry := r' } where
  leases i task htask := (h.leases i task htask).later hlater
  runs j task htask := (h.runs j task htask).later hlater
  plans plan hplan lease hlease := hlater.held (h.plans plan hplan lease hlease)
  registered := h.registered
  entries := h.entries

/-! ### Tasks that go on -/

/-- Every task of `tasks` is still in `after`, in some phase. -/
def TasksKept (tasks after : List LeaseTask) : Prop :=
  ∀ (i : ℕ) task, tasks[i]? = some task → ∃ phase, after[i]? = some { task with phase := phase }

theorem RunTaskSound.tasks {tasks after : List LeaseTask} (h : RunTaskSound r tasks task)
    (hkept : TasksKept tasks after) :
    RunTaskSound r after task where
  ending := h.ending
  planned := h.planned
  held := h.held
  phase := by
    have hphase := h.phase
    cases hcase : task.phase with
    | waiting kind lease i =>
        rw [hcase] at hphase
        obtain ⟨htier, awaited, hawaited, hid, hstatus⟩ := hphase
        obtain ⟨phase, hafter⟩ := hkept i awaited hawaited
        exact ⟨htier, _, hafter, hid, hstatus⟩
    | created => trivial
    | tier =>
        rw [hcase] at hphase
        exact hphase
    | ended result =>
        rw [hcase] at hphase
        cases result with
        | ok => exact hphase
        | error e => trivial

/-- Every run of `runs` is still in `after`, with what it has captured. -/
def RunsKept (runs after : List RunTask) : Prop :=
  ∀ (j : ℕ) run, runs[j]? = some run → run.begun = true →
    ∃ other, after[j]? = some other ∧ other.begun = true ∧ other.captured = run.captured

theorem LeaseTaskSound.runs {runs after : List RunTask} {task : LeaseTask}
    (h : LeaseTaskSound r runs task) (hkept : RunsKept runs after) :
    LeaseTaskSound r after task where
  held := h.held
  phase := h.phase
  order j hj := by
    obtain ⟨run, hrun, hbegun, hbelow⟩ := h.order j hj
    obtain ⟨other, hother, hotherBegun, hcaptured⟩ := hkept j run hrun hbegun
    refine ⟨other, hother, hotherBegun, ?_⟩
    rw [hcaptured]
    exact hbelow

theorem tasksKept_set {tasks : List LeaseTask} {task : LeaseTask} (h : tasks[i]? = some task)
    (phase : LeasePhase) : TasksKept tasks (tasks.set i { task with phase := phase }) := by
  intro k other hother
  by_cases hk : i = k
  · subst hk
    rw [h] at hother
    cases hother
    obtain ⟨hlt, -⟩ := List.getElem?_eq_some_iff.mp h
    exact ⟨phase, List.getElem?_set_self hlt⟩
  · refine ⟨other.phase, ?_⟩
    rw [List.getElem?_set_ne hk, hother]

theorem getElem?_append_some {α : Type} {l : List α} {a : α} (h : l[k]? = some a) (b : α) :
    (l ++ [b])[k]? = some a := by
  obtain ⟨hlt, -⟩ := List.getElem?_eq_some_iff.mp h
  rw [List.getElem?_append_left hlt, h]

theorem tasksKept_append (tasks : List LeaseTask) (task : LeaseTask) :
    TasksKept tasks (tasks ++ [task]) :=
  fun _ other hother => ⟨other.phase, getElem?_append_some hother task⟩

/-- An element of a list with a new last element. -/
theorem getElem?_append_cases {α : Type} {l : List α} {b : α} {a : α}
    (h : (l ++ [b])[k]? = some a) : l[k]? = some a ∨ k = l.length ∧ a = b := by
  by_cases hlt : k < l.length
  · rw [List.getElem?_append_left hlt] at h
    exact .inl h
  · rw [List.getElem?_append_right (Nat.le_of_not_lt hlt), List.getElem?_singleton] at h
    split_ifs at h with hzero
    · refine .inr ⟨by omega, ?_⟩
      cases h
      rfl

/-- An element of a list with a new element at a place. -/
theorem getElem?_set_cases {α : Type} {l : List α} {b : α} {a : α} (h : (l.set i b)[k]? = some a) :
    k ≠ i ∧ l[k]? = some a ∨ k = i ∧ a = b := by
  by_cases hk : i = k
  · subst hk
    have hlt : i < (l.set i b).length := (List.getElem?_eq_some_iff.mp h).1
    rw [List.length_set] at hlt
    rw [List.getElem?_set_self hlt] at h
    cases h
    exact .inr ⟨rfl, rfl⟩
  · rw [List.getElem?_set_ne hk] at h
    exact .inl ⟨Ne.symm hk, h⟩

/-- The task of a lease goes on. -/
theorem ServiceSound.setLeasePhase (h : ServiceSound s) {task : LeaseTask} {phase : LeasePhase}
    (htask : s.leaseTasks[i]? = some task)
    (hphase : PhaseSound s.registry task.lease.leaseId task.status phase)
    (hended : ∀ result, task.phase = .ended result → phase = .ended result) :
    ServiceSound (s.setLeasePhase i task phase) where
  leases k other hother := by
    rcases getElem?_set_cases hother with ⟨-, hold⟩ | ⟨rfl, rfl⟩
    · exact h.leases k other hold
    · have hsound := h.leases k task htask
      exact ⟨hsound.held, hphase, hsound.order⟩
  runs j run hrun := (h.runs j run hrun).tasks (tasksKept_set htask phase)
  plans := h.plans
  registered k other hother hrunning := by
    rcases getElem?_set_cases hother with ⟨-, hold⟩ | ⟨rfl, rfl⟩
    · exact h.registered k other hold hrunning
    · refine h.registered k task htask ?_
      unfold LeaseTask.result? at hrunning ⊢
      cases hcase : task.phase with
      | ended result =>
          rw [hended result hcase] at hrunning
          cases hrunning
      | _ => rfl
  entries leaseId status k hk := by
    obtain ⟨other, hother, hid, hstatus⟩ := h.entries leaseId status k hk
    obtain ⟨after, hafter⟩ := tasksKept_set htask phase k other hother
    exact ⟨_, hafter, hid, hstatus⟩

/-- A new task of a lease, under a lease that has no registration. -/
theorem ServiceSound.addLeaseTask (h : ServiceSound s) {task : LeaseTask} {digest : Option Sha256}
    (hfree : s.leaseCleanupTasks task.lease.leaseId = none)
    (hsound : LeaseTaskSound s.registry s.runTasks task) :
    ServiceSound (s.addLeaseTask task digest) where
  leases k other hother := by
    rcases getElem?_append_cases hother with hold | ⟨-, rfl⟩
    · exact h.leases k other hold
    · exact hsound
  runs j run hrun := (h.runs j run hrun).tasks (tasksKept_append _ task)
  plans := h.plans
  registered k other hother hrunning := by
    show Function.update s.leaseCleanupTasks task.lease.leaseId _ _ = _
    rcases getElem?_append_cases hother with hold | ⟨rfl, rfl⟩
    · have hentry := h.registered k other hold hrunning
      rw [Function.update_of_ne, hentry]
      intro hsame
      rw [hsame, hfree] at hentry
      cases hentry
    · rw [Function.update_self]
  entries leaseId status k hk := by
    change Function.update s.leaseCleanupTasks task.lease.leaseId _ leaseId = _ at hk
    by_cases hsame : leaseId = task.lease.leaseId
    · subst hsame
      rw [Function.update_self] at hk
      cases hk
      exact ⟨task, List.getElem?_concat_length, rfl, rfl⟩
    · rw [Function.update_of_ne hsame] at hk
      obtain ⟨other, hother, hid, hstatus⟩ := h.entries leaseId status k hk
      exact ⟨other, getElem?_append_some hother task, hid, hstatus⟩

/-- A registration of a task that is done is forgotten. -/
theorem ServiceSound.forgetLease (h : ServiceSound s) (leaseId : String) (i : ℕ) :
    ServiceSound (s.forgetLease leaseId i) := by
  unfold Service.forgetLease
  split_ifs with hdone
  · obtain ⟨hresult, hentry⟩ := hdone
    refine ⟨h.leases, h.runs, h.plans, fun k other hother hrunning => ?_,
      fun key status k hk => ?_⟩
    · show Function.update s.leaseCleanupTasks leaseId none _ = _
      have hregistered := h.registered k other hother hrunning
      rw [Function.update_of_ne, hregistered]
      intro hsame
      rw [← hsame, hregistered] at hentry
      cases hentry
      rw [hother, Option.bind_some, hrunning] at hresult
      cases hresult
    · change Function.update s.leaseCleanupTasks leaseId none key = _ at hk
      by_cases hsame : key = leaseId
      · subst hsame
        rw [Function.update_self] at hk
        cases hk
      · rw [Function.update_of_ne hsame] at hk
        exact h.entries key status k hk
  · exact h

theorem ServiceSound.forgetRun (h : ServiceSound s) (runId : String) (j : ℕ) :
    ServiceSound (s.forgetRun runId j) := by
  unfold Service.forgetRun
  split_ifs with hdone
  · exact ⟨h.leases, h.runs, h.plans, h.registered, h.entries⟩
  · exact h

/-- The task of a run goes on; it captures its leases once. -/
theorem ServiceSound.setRunTask (h : ServiceSound s) {j : ℕ} {task after : RunTask}
    (htask : s.runTasks[j]? = some task)
    (hkept : task.begun = true → after.begun = true ∧ after.captured = task.captured)
    (hsound : RunTaskSound s.registry s.leaseTasks after) : ServiceSound (s.setRunTask j after) where
  leases k other hother := by
    refine (h.leases k other hother).runs fun i run hrun hbegun => ?_
    by_cases hi : j = i
    · subst hi
      rw [htask] at hrun
      cases hrun
      obtain ⟨hlt, -⟩ := List.getElem?_eq_some_iff.mp htask
      obtain ⟨hafter, hcaptured⟩ := hkept hbegun
      exact ⟨after, List.getElem?_set_self hlt, hafter, hcaptured⟩
    · exact ⟨run, (List.getElem?_set_ne hi).trans hrun, hbegun, rfl⟩
  runs k run hrun := by
    rcases getElem?_set_cases hrun with ⟨-, hold⟩ | ⟨-, rfl⟩
    · exact h.runs k run hold
    · exact hsound
  plans := h.plans
  registered := h.registered
  entries := h.entries

theorem ServiceSound.addRunTask (h : ServiceSound s) {digest : Option Sha256}
    (hsound : RunTaskSound s.registry s.leaseTasks task) :
    ServiceSound (s.addRunTask task digest) where
  leases k other hother :=
    (h.leases k other hother).runs fun _ run hrun hbegun =>
      ⟨run, getElem?_append_some hrun task, hbegun, rfl⟩
  runs k run hrun := by
    rcases getElem?_append_cases hrun with hold | ⟨-, rfl⟩
    · exact h.runs k run hold
    · exact hsound
  plans := h.plans
  registered := h.registered
  entries := h.entries

/-! ### Calls -/

theorem taskLease_held {given : ResourceLease}
    (hplanned : ∀ value, plan = some value → Held s.registry lease)
    (h : taskLease s lease status plan = .ok given) :
    Held s.registry given ∧ given.leaseId = lease.leaseId := by
  unfold taskLease at h
  cases plan with
  | none =>
      rw [demand_ok] at h
      exact ⟨held_of_row h, (leaseRow_mem h).2⟩
  | some value =>
      dsimp only at h
      split_ifs at h with hstatus
      cases h
      exact ⟨hplanned value rfl, rfl⟩

/-- A cleanup of a lease is joined: the task is about the lease and brings it to the status. -/
structure LeaseJoined (s t : Service) (leaseId : String) (status : LeaseStatus) (i : ℕ) : Prop where
  sound : ServiceSound t
  registry : t.registry = s.registry
  runs : t.runTasks = s.runTasks
  joined : ∃ task, t.leaseTasks[i]? = some task ∧ task.lease.leaseId = leaseId
    ∧ task.status = status
  tasks : TasksKept s.leaseTasks t.leaseTasks

/-- `order` is what a new task has to find: it is asked of the lease that the task is given. -/
theorem leaseCleanupTask_ok (hs : ServiceSound s) {run : Run} {creator : Option ℕ}
    (hplanned : ∀ value, plan = some value → Held s.registry lease)
    (horder : ∀ j, creator = some j → ∃ run, s.runTasks[j]? = some run ∧ run.begun = true
      ∧ Held s.registry lease ∧ BelowEnded s.registry run.captured lease.kind)
    (h : leaseCleanupTask svc s run lease status plan creator = .ok (i, t)) :
    LeaseJoined s t lease.leaseId status i := by
  unfold leaseCleanupTask at h
  dsimp only at h
  cases hentry : s.leaseCleanupTasks lease.leaseId with
  | none =>
      rw [hentry] at h
      obtain ⟨given, hgiven, h⟩ := Checks.bind_ok.mp h
      rw [return_ok] at h
      cases h
      obtain ⟨hheld, hid⟩ := taskLease_held hplanned hgiven
      refine ⟨hs.addLeaseTask ?_ ⟨hheld, trivial, ?_⟩, rfl, rfl, ?_, tasksKept_append _ _⟩
      · rw [← hid] at hentry
        exact hentry
      · intro j hj
        obtain ⟨owner, howner, hbegun, hlease, hbelow⟩ := horder j hj
        refine ⟨owner, howner, hbegun, ?_⟩
        rw [hheld.kind_eq hlease hid]
        exact hbelow
      · exact ⟨_, List.getElem?_concat_length, hid, rfl⟩
  | some entry =>
      obtain ⟨registered, task⟩ := entry
      rw [hentry] at h
      dsimp only at h
      rw [refuse_bind_ok, return_ok] at h
      obtain ⟨hsame, h⟩ := h
      cases h
      simp only [not_or, not_not] at hsame
      obtain ⟨other, hother, hid, hstatus⟩ := hs.entries _ _ _ hentry
      refine ⟨hs, rfl, rfl, ⟨other, hother, hid, hstatus.trans hsame.1⟩, ?_⟩
      exact fun k found hfound => ⟨found.phase, hfound⟩

/-! ### The task of a run -/

theorem outstandingLeases_held {runId : String} (h : lease ∈ outstandingLeases runId r) :
    Held r lease := by
  have hmem := List.mem_of_mem_filter (List.mem_of_mem_filter h)
  exact held_of_row (leaseRow_eq_some hmem)

theorem capture_held
    (hplanned : ∀ plan, task.plan = some plan →
      ∀ lease ∈ plan.binding.snapshot.leases, Held r lease) (h : capture task r = .ok captured) :
    ∀ lease ∈ captured, Held r lease := by
  unfold capture at h
  cases hplan : task.plan with
  | none =>
      rw [hplan] at h
      cases h
      exact fun lease hlease => outstandingLeases_held hlease
  | some plan =>
      rw [hplan] at h
      dsimp only at h
      rw [refuse_bind_ok, return_ok] at h
      obtain ⟨-, rfl⟩ := h
      exact fun lease hlease => hplanned plan hplan lease (List.mem_of_mem_filter hlease)

theorem mem_ofKind {kind : LeaseKind} :
    lease ∈ task.ofKind kind ↔ lease ∈ task.captured ∧ lease.kind = kind := by
  unfold RunTask.ofKind
  rw [List.mem_filter, decide_eq_true_iff]

/-- A kind begins with everything of it left to do. -/
theorem tierSound_begin {kind : LeaseKind} (hbelow : BelowEnded r task.captured kind) :
    TierSound r task.captured kind (task.ofKind kind) [] :=
  ⟨hbelow, fun _ hlease => mem_ofKind.mp hlease,
    fun _ _ hlease hkind => .inl (mem_ofKind.mpr ⟨hlease, hkind⟩)⟩

/-- When nothing of a kind is left and nothing has failed, everything up to it has ended. -/
theorem TierSound.ended {captured : List ResourceLease} {kind : LeaseKind}
    (h : TierSound r captured kind [] []) {lease : ResourceLease} (hlease : lease ∈ captured)
    (hrank : tierRank lease.kind ≤ tierRank kind) : Finished r lease.leaseId := by
  by_cases hkind : lease.kind = kind
  · rcases h.done rfl lease hlease hkind with hnone | hended
    · exact absurd hnone List.not_mem_nil
    · exact hended
  · refine h.below lease hlease (lt_of_le_of_ne hrank fun heq => hkind ?_)
    revert heq
    cases lease.kind <;> cases kind <;> simp [tierRank]

theorem nextTier_sound {tasks : List LeaseTask} {kind : LeaseKind}
    (h : TierSound r task.captured kind [] failures) :
    RunPhaseSound r tasks task.captured task.status (nextTier task kind failures) := by
  cases failures with
  | cons e failures => trivial
  | nil =>
      unfold nextTier
      cases kind with
      | execution | sandbox =>
          refine tierSound_begin fun lease hlease hrank => h.ended hlease ?_
          exact Nat.le_of_lt_succ hrank
      | worktree =>
          intro lease hlease
          refine h.ended hlease ?_
          cases lease.kind <;> decide

theorem withResult_nil {result : Except StoreError Unit} (h : withResult failures result = []) :
    failures = [] ∧ result = .ok () := by
  cases result with
  | ok => exact ⟨h, rfl⟩
  | error =>
      unfold withResult at h
      exact absurd h (by simp)

theorem joinNext_sound (hs : ServiceSound s) {kind : LeaseKind}
    (htask : s.runTasks[j]? = some task)
    (hphase : task.phase = .tier kind (lease :: todo) failures) :
    ServiceSound (joinNext svc s j task kind lease todo failures) := by
  have hsound := hs.runs j task htask
  have htier : TierSound s.registry task.captured kind (lease :: todo) failures := by
    have hknown := hsound.phase
    rw [hphase] at hknown
    exact hknown
  obtain ⟨hlease, hkind⟩ := htier.own lease List.mem_cons_self
  have hbegun : task.begun = true := by
    unfold RunTask.begun
    rw [hphase]
  unfold joinNext
  cases hjoin : leaseCleanupTask svc s task.run lease task.status task.plan (some j) with
  | error =>
      refine hs.setRunTask htask (fun _ => ⟨rfl, rfl⟩)
        ⟨hsound.ending, hsound.planned, hsound.held, htier.below, ?_, ?_⟩
      · exact fun other hother => htier.own other (List.mem_cons_of_mem _ hother)
      · exact fun hnone => absurd hnone (by simp)
  | ok joined =>
      obtain ⟨i, t⟩ := joined
      have hjoined : LeaseJoined s t lease.leaseId task.status i := by
        refine leaseCleanupTask_ok hs (fun _ _ => hsound.held lease hlease) ?_ hjoin
        intro k hk
        cases hk
        refine ⟨task, htask, hbegun, hsound.held lease hlease, ?_⟩
        rw [hkind]
        exact htier.below
      have htask' : t.runTasks[j]? = some task := by
        rw [hjoined.runs]
        exact htask
      refine hjoined.sound.setRunTask htask' (fun _ => ⟨rfl, rfl⟩) ?_
      have hkept := hjoined.sound.runs j task htask'
      refine ⟨hkept.ending, hkept.planned, hkept.held, ?_, hjoined.joined⟩
      rw [hjoined.registry]
      exact htier

theorem afterJoin_sound (hs : ServiceSound s) {kind : LeaseKind}
    (htask : s.runTasks[j]? = some task)
    (hphase : task.phase = .waiting kind lease i todo failures) :
    ServiceSound (afterJoin s j task kind lease i todo failures) := by
  have hsound := hs.runs j task htask
  obtain ⟨htier, awaited, hawaited, hid, hstatus⟩ :
      TierSound s.registry task.captured kind (lease :: todo) failures
      ∧ ∃ awaited, s.leaseTasks[i]? = some awaited ∧ awaited.lease.leaseId = lease.leaseId
        ∧ awaited.status = task.status := by
    have hknown := hsound.phase
    rw [hphase] at hknown
    exact hknown
  unfold afterJoin
  rw [hawaited, Option.bind_some]
  cases hresult : awaited.result? with
  | none => exact hs
  | some result =>
      have hforgot := hs.forgetLease lease.leaseId i
      have hsame : (s.forgetLease lease.leaseId i).runTasks = s.runTasks
          ∧ (s.forgetLease lease.leaseId i).leaseTasks = s.leaseTasks
          ∧ (s.forgetLease lease.leaseId i).registry = s.registry := by
        unfold Service.forgetLease
        split_ifs <;> exact ⟨rfl, rfl, rfl⟩
      obtain ⟨hruns, hleases, hregistry⟩ := hsame
      have htask' : (s.forgetLease lease.leaseId i).runTasks[j]? = some task := by
        rw [hruns]
        exact htask
      refine hforgot.setRunTask htask' (fun _ => ⟨rfl, rfl⟩) ?_
      rw [hleases, hregistry]
      refine ⟨hsound.ending, hsound.planned, hsound.held, htier.below, ?_, ?_⟩
      · exact fun other hother => htier.own other (List.mem_cons_of_mem _ hother)
      · -- nothing has failed, so the task that was awaited has ended its lease
        intro hnone other hother hkind
        obtain ⟨hbefore, rfl⟩ := withResult_nil hnone
        rcases htier.done hbefore other hother hkind with hleft | hended
        · rcases List.mem_cons.mp hleft with rfl | hrest
          · refine .inr ?_
            have hknown := (hs.leases i awaited hawaited).phase
            have hended : awaited.phase = .ended (.ok ()) := by
              unfold LeaseTask.result? at hresult
              split at hresult
              · cases hresult
                assumption
              · cases hresult
            rw [hended] at hknown
            rw [← hid]
            exact hknown (hstatus ▸ hsound.ending)
          · exact .inl hrest
        · exact .inr hended

theorem stepRunTask_sound (hs : ServiceSound s) (htask : s.runTasks[j]? = some task) :
    ServiceSound (stepRunTask svc s j task) := by
  have hsound := hs.runs j task htask
  unfold stepRunTask
  cases hphase : task.phase with
  | created =>
      dsimp only
      have hnew : task.begun = false := by
        unfold RunTask.begun
        rw [hphase]
      cases hcapture : capture task s.registry with
      | error e =>
          refine hs.setRunTask htask (fun hbegun => ?_)
            ⟨hsound.ending, hsound.planned, hsound.held, trivial⟩
          rw [hnew] at hbegun
          cases hbegun
      | ok =>
          refine hs.setRunTask htask (fun hbegun => ?_)
            ⟨hsound.ending, hsound.planned, capture_held hsound.planned hcapture, ?_⟩
          · rw [hnew] at hbegun
            cases hbegun
          · exact tierSound_begin fun lease _ hrank => absurd hrank (Nat.not_lt_zero _)
  | tier kind todo failures =>
      cases todo with
      | nil =>
          have hknown := hsound.phase
          rw [hphase] at hknown
          refine hs.setRunTask htask (fun _ => ⟨?_, rfl⟩)
            ⟨hsound.ending, hsound.planned, hsound.held, nextTier_sound hknown⟩
          unfold RunTask.begun nextTier
          cases failures with
          | cons => rfl
          | nil => cases kind <;> rfl
      | cons => exact joinNext_sound hs htask hphase
  | waiting => exact afterJoin_sound hs htask hphase
  | ended => exact hs

/-! ### Plans -/

theorem walkRuns_leases {projectId : String} {fuel : ℕ} {pending seen : List String}
    {walk after : RecoveryWalk}
    (h : walkRuns svc.toConversationServices reads r projectId fuel pending seen walk = .ok after) :
    ∀ lease ∈ after.leases, lease ∈ walk.leases ∨ lease ∈ r.shared.leases := by
  induction fuel generalizing pending seen walk with
  | zero =>
      cases pending with
      | nil =>
          unfold walkRuns at h
          cases h
          exact fun lease hlease => .inl hlease
      | cons =>
          unfold walkRuns at h
          cases h
  | succ fuel ih =>
      cases pending with
      | nil =>
          unfold walkRuns at h
          cases h
          exact fun lease hlease => .inl hlease
      | cons =>
          unfold walkRuns at h
          rw [refuse_bind_ok, Checks.bind_ok] at h
          obtain ⟨-, ⟨next, children⟩, hnext, h⟩ := h
          obtain ⟨run, graph, -, -, -, -, -, heq⟩ := (walkRun_ok hnext).walked
          dsimp only at heq h
          intro lease hlease
          rcases ih h lease hlease with hbefore | htable
          · rw [heq, List.mem_append, List.mem_mergeSort] at hbefore
            rcases hbefore with hold | hnew
            · exact .inl hold
            · exact .inr (List.mem_of_mem_filter hnew)
          · exact .inr htable

/-- The leases of a snapshot are rows. -/
theorem snapshot_held {snapshot : RecoverySnapshot}
    (h : SnapshotRead svc.toConversationServices reads r snapshot) :
    ∀ lease ∈ snapshot.leases, Held r lease := by
  obtain ⟨runId, walk, hwalk, -, -, hleases⟩ := h.walk
  intro lease hlease
  rw [hleases, List.mem_mergeSort] at hlease
  rcases walkRuns_leases hwalk lease hlease with hnone | htable
  · exact absurd hnone List.not_mem_nil
  · exact held_of_row (leaseRow_eq_some htable)

theorem prepareReviewedRecovery_held {binding : RecoveryBinding} {plan : ReviewedRecoveryPlan}
    (h : prepareReviewedRecovery svc.toConversationServices reads amb binding r = .ok (plan, r')) :
    RowsLater r r' ∧ ∀ lease ∈ plan.binding.snapshot.leases, Held r' lease := by
  obtain ⟨root, row, before, hprepared⟩ := prepareReviewedRecovery_ok h
  obtain ⟨-, -, -, -, hbeside⟩ := hprepared.step
  have hkept := congrArg SharedTables.leases hbeside.shared
  obtain ⟨r₁, r₂, event, -, -, hread, -, -, -, -, rfl⟩ := hprepared.steps
  refine ⟨.of_kept hkept, fun lease hlease => ?_⟩
  exact snapshot_held hread lease hlease

/-! ### Runs -/

variable {input : CleanupInput}

theorem commit_later {call : StoreCall} :
    RowsLater r (commit (storeBody svc amb reads call) r).2 := by
  rcases commit_cases (storeBody svc amb reads call) r with ⟨v, t, hbody, hc⟩ | ⟨e, -, hc⟩
  · rw [hc]
    exact storeBody_later hbody
  · rw [hc]
    exact .refl r

theorem follow_sound (svc : ResourceServices) (reads : ConversationReads) (amb : Ambient)
    (hs : ServiceSound s) (op : CleanupOp) : ServiceSound (follow svc reads amb s op) := by
  cases op with
  | prepare binding =>
      unfold follow
      dsimp only
      rcases commit_cases (withinBoundary (prepareReviewedRecovery svc.toConversationServices reads
        amb binding)) s.registry with ⟨plan, t, hplan, hc⟩ | ⟨e, -, hc⟩
      · rw [hc]
        obtain ⟨hlater, hheld⟩ := prepareReviewedRecovery_held (withinBoundary_ok.mp hplan)
        have hmoved := hs.registry hlater
        refine ⟨hmoved.leases, hmoved.runs, fun other hother => ?_, hmoved.registered,
          hmoved.entries⟩
        rcases List.mem_append.mp hother with hold | hnew
        · exact hmoved.plans other hold
        · rw [List.mem_singleton] at hnew
          subst hnew
          exact hheld
      · rw [hc]
        exact hs
  | runTask j =>
      unfold follow
      dsimp only
      cases htask : s.runTasks[j]? with
      | none => exact hs
      | some => exact stepRunTask_sound hs htask
  | leaseTask i =>
      unfold follow
      dsimp only
      cases htask : s.leaseTasks[i]? with
      | none => exact hs
      | some task =>
          have hsound := hs.leases i task htask
          have hstep := stepLeaseTask_step svc reads amb hsound.phase
          obtain ⟨hlater, -⟩ := hstep.rows hsound.phase
          refine (hs.registry hlater).setLeasePhase htask (hstep.sound hsound.held hsound.phase) ?_
          intro result hended
          unfold stepLeaseTask
          rw [hended]
  | answer i =>
      unfold follow
      dsimp only
      cases htask : s.leaseTasks[i]? with
      | none => exact hs
      | some task =>
          have hsound := (hs.leases i task htask).phase
          refine hs.setLeasePhase htask ?_ ?_
          · unfold answered
            cases hphase : task.phase with
            | calling lease claim | _ =>
                rw [hphase] at hsound
                exact hsound
          · intro result hended
            unfold answered
            rw [hended]
  | interruptRun j e =>
      unfold follow
      dsimp only
      cases htask : s.runTasks[j]? with
      | none => exact hs
      | some task =>
          have hsound := hs.runs j task htask
          refine hs.setRunTask htask ?_ ⟨hsound.ending, hsound.planned, hsound.held, ?_⟩
          · intro hbegun
            refine ⟨?_, rfl⟩
            unfold RunTask.begun at hbegun ⊢
            unfold interruptedRun
            cases hphase : task.phase with
            | created => rw [hphase] at hbegun
            | _ => rfl
          · have hphase := hsound.phase
            unfold interruptedRun
            cases hcase : task.phase with
            | created => trivial
            | _ =>
                rw [hcase] at hphase
                exact hphase
  | interruptLease i e =>
      unfold follow
      dsimp only
      cases htask : s.leaseTasks[i]? with
      | none => exact hs
      | some task =>
          have hsound := (hs.leases i task htask).phase
          refine hs.setLeasePhase htask ?_ ?_
          · unfold interrupted
            cases hphase : task.phase with
            | created => trivial
            | _ =>
                rw [hphase] at hsound
                exact hsound
          · intro result hended
            unfold interrupted
            rw [hended]
  | forgetRun runId task => exact hs.forgetRun runId task
  | forgetLease leaseId task => exact hs.forgetLease leaseId task
  | store => exact hs.registry commit_later
  | cleanupRun run recovered plan stored | cleanupLease run lease status => exact hs

theorem cleanupRun_sound (hs : ServiceSound s) {run : Run} {recovered stored : Bool}
    (hplan : ∀ value, plan = some value → value ∈ s.plans)
    (h : cleanupRun svc s run recovered plan stored = .ok (j, t)) :
    ServiceSound t ∧ t.registry = s.registry := by
  unfold cleanupRun at h
  dsimp only at h
  rw [refuse_bind_ok] at h
  obtain ⟨-, h⟩ := h
  cases hentry : s.runCleanupTasks run.runId with
  | none =>
      rw [hentry, return_ok] at h
      cases h
      refine ⟨hs.addRunTask ⟨?_, fun value hvalue => hs.plans value (hplan value hvalue), ?_,
        trivial⟩, rfl⟩
      · cases recovered
        · exact .inl rfl
        · exact .inr rfl
      · exact fun lease hlease => absurd hlease List.not_mem_nil
  | some entry =>
      obtain ⟨registered, task⟩ := entry
      rw [hentry] at h
      dsimp only at h
      rw [refuse_bind_ok, return_ok] at h
      obtain ⟨-, h⟩ := h
      cases h
      exact ⟨hs, rfl⟩

theorem plan?_ok {k : Option ℕ} (h : s.plan? k = .ok plan) :
    ∀ value, plan = some value → value ∈ s.plans := by
  unfold Service.plan? at h
  cases k with
  | none =>
      cases h
      exact fun value hvalue => by cases hvalue
  | some =>
      obtain ⟨found, hfound, rfl⟩ := Checks.map_ok.mp h
      rw [demand_ok] at hfound
      intro value hvalue
      cases hvalue
      exact List.mem_of_getElem? hfound

/-- A service that has no task yet, over any rows. -/
theorem serviceSound_start (registry : Registry) : ServiceSound { registry } := by
  refine ⟨?_, ?_, ?_, ?_, ?_⟩
  · intro i task htask
    cases htask
  · intro j task htask
    cases htask
  · intro plan hplan
    cases hplan
  · intro i task htask
    cases htask
  · intro leaseId status i hentry
    cases hentry

/-- Every step keeps what holds of the service. -/
theorem serviceSound_invariant (svc : ResourceServices) :
    (cleanupMachine svc).Invariant ServiceSound := by
  intro s input hs
  obtain ⟨op, reads, amb⟩ := input
  cases op with
  | cleanupRun run recovered plan stored =>
      show ServiceSound (joined s _).1
      cases hcall : (do
          let plan ← s.plan? plan
          cleanupRun svc s run recovered plan stored) with
      | error e => exact hs
      | ok result =>
          obtain ⟨value, hvalue, hok⟩ := Checks.bind_ok.mp hcall
          exact (cleanupRun_sound hs (plan?_ok hvalue) hok).1
  | cleanupLease run lease status =>
      show ServiceSound (joined s _).1
      cases hcall : leaseCleanupTask svc s run lease status none none with
      | error => exact hs
      | ok =>
          refine (leaseCleanupTask_ok hs ?_ ?_ hcall).sound
          · exact fun value hvalue => by cases hvalue
          · exact fun j hj => by cases hj
  | prepare binding => exact follow_sound svc reads amb hs (.prepare binding)
  | runTask j => exact follow_sound svc reads amb hs (.runTask j)
  | leaseTask i => exact follow_sound svc reads amb hs (.leaseTask i)
  | answer i answer => exact follow_sound svc reads amb hs (.answer i answer)
  | interruptRun j e => exact follow_sound svc reads amb hs (.interruptRun j e)
  | interruptLease i e => exact follow_sound svc reads amb hs (.interruptLease i e)
  | forgetRun runId j => exact follow_sound svc reads amb hs (.forgetRun runId j)
  | forgetLease leaseId i => exact follow_sound svc reads amb hs (.forgetLease leaseId i)
  | store call => exact follow_sound svc reads amb hs (.store call)

end AgentFleet.Resources
