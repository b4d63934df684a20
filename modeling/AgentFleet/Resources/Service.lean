import AgentFleet.Resources.Leases

/-! # The resource service as a machine

A call of `cleanup_run` or `cleanup_lease` joins the cleanup that is registered for its run or its
lease, or starts a task.  The task of a lease claims it under a plan or takes its row as it was
read, marks the row as releasing, asks the provider and writes what the answer proves; the task of a
run captures its leases and cleans them kind by kind.

One input of `cleanupMachine` is one call, one task that goes on to its next transaction or its next
`await`, one answer of a provider, or one transaction of another client of the stores.  A run is any
interleaving of these, in any order, with any answers. -/

namespace AgentFleet.Resources

open Relational Transaction Checks Conversations Transition

/-! ### Tasks -/

/-- What a provider answers: a result that is complete or not, or an exception. -/
abbrev Answer := Except StoreError Bool

/-- Where a cleanup of a lease is. -/
inductive LeasePhase where
  | created
  | opened (lease : ResourceLease) (claim : Option RecoveryLeaseClaim)
  /-- the provider, or the repository, was asked -/
  | calling (lease : ResourceLease) (claim : Option RecoveryLeaseClaim)
  | reported (lease : ResourceLease) (claim : Option RecoveryLeaseClaim) (answer : Answer)
  | ended (result : Except StoreError Unit)

/-- A task of `_lease_cleanup_task`. -/
structure LeaseTask where
  run : Run
  lease : ResourceLease
  status : LeaseStatus
  plan : Option ReviewedRecoveryPlan
  /-- the cleanup of a run that created the task; no code reads it -/
  creator : Option ℕ
  phase : LeasePhase := .created

/-- Where a cleanup of a run is. -/
inductive RunPhase where
  | created
  | tier (kind : LeaseKind) (todo : List ResourceLease) (failures : List StoreError)
  | waiting (kind : LeaseKind) (lease : ResourceLease) (task : ℕ) (todo : List ResourceLease)
      (failures : List StoreError)
  | ended (result : Except StoreError Unit)

/-- A task of `cleanup_run`. -/
structure RunTask where
  run : Run
  status : LeaseStatus
  plan : Option ReviewedRecoveryPlan
  captured : List ResourceLease := []
  phase : RunPhase := .created

/-- The task is done. -/
def LeaseTask.result? (task : LeaseTask) : Option (Except StoreError Unit) :=
  match task.phase with
  | .ended result => some result
  | _ => none

/-- The task is done. -/
def RunTask.result? (task : RunTask) : Option (Except StoreError Unit) :=
  match task.phase with
  | .ended result => some result
  | _ => none

/-- `ResourceService`, over the stores that it shares with other clients. -/
structure Service where
  registry : Registry
  /-- what `prepare_reviewed_recovery` has returned -/
  plans : List ReviewedRecoveryPlan := []
  leaseTasks : List LeaseTask := []
  runTasks : List RunTask := []
  leaseCleanupTasks : String → Option (LeaseStatus × ℕ) := fun _ => none
  reviewedLeasePlans : String → Option Sha256 := fun _ => none
  runCleanupTasks : String → Option (LeaseStatus × ℕ) := fun _ => none
  reviewedRunPlans : String → Option Sha256 := fun _ => none

variable (svc : ResourceServices) (reads : ConversationReads) (amb : Ambient)

/-! ### The cleanup of a lease -/

/-- The error of a cleanup that is incomplete. -/
def incompleteCleanup (kind : LeaseKind) : StoreError :=
  if kind = .sandbox then
    .fleet {
      code := .sandboxCleanupFailed
      message := "Sandbox cleanup could not prove every managed resource absent."
      remediation := "Inspect the persisted lease before continuing." }
  else
    .fleet {
      code := .sandboxCleanupFailed
      message := "Execution cleanup could not prove the exact resource absent."
      remediation := "Inspect the persisted execution lease before continuing." }

/-- What an answer proves: a provider has reported complete absence, the removal of a worktree has
returned. -/
def judge (kind : LeaseKind) : Answer → Except StoreError Unit
  | .error e => .error e
  | .ok complete =>
      if kind = .worktree ∨ complete = true then .ok () else .error (incompleteCleanup kind)

/-- `persist`. -/
def persist (leaseId : String) (claim : Option RecoveryLeaseClaim) (target : LeaseStatus) :
    RegistryTxn Unit :=
  match claim with
  | none => updateLeaseStatus svc.toConversationServices amb leaseId target
  | some claim =>
      withinBoundary (finishRecoveryLease svc.toConversationServices reads amb claim target)

/-- `_cleanup_reviewed_lease` up to the claim. -/
def claimReviewed (task : LeaseTask) (plan : ReviewedRecoveryPlan) (s : Registry) :
    LeasePhase × Registry :=
  let snapshot := plan.binding.snapshot
  if task.run ∉ snapshot.runs ∨ task.lease ∉ snapshot.leases
      ∨ task.lease.runId ≠ task.run.runId then
    (.ended (.error ownershipUnavailable), s)
  else
    match commit (withinBoundary (claimRecoveryLease svc.toConversationServices reads amb plan
      task.lease.leaseId)) s with
    | (.ok claim, t) => (.opened claim.lease (some claim), t)
    | (.error e, t) => (.ended (.error e), t)

/-- The project that `_cleanup_lease_once` reads. -/
def cleanupProject (run : Run) (claim : Option RecoveryLeaseClaim) (s : Registry) :
    Except StoreError ConversationProject :=
  match claim with
  | some claim => .ok claim.plan.binding.snapshot.project
  | none => demand (notFound "project" run.projectId) (s.project? run.projectId)

/-- The lease is marked as releasing, unless it is. -/
def markReleasing (lease : ResourceLease) : RegistryTxn Unit :=
  if lease.status = .releasing then return ()
  else updateLeaseStatus svc.toConversationServices amb lease.leaseId .releasing

/-- What is asked for a lease that is releasing; the identity of an execution is read where a
failure is written to the row. -/
def askProvider (lease : ResourceLease) (claim : Option RecoveryLeaseClaim) : LeasePhase :=
  match svc.cleanupIdentity lease with
  | .ok () => .calling lease claim
  | .error e =>
      if lease.kind = .execution then .reported lease claim (.error e) else .ended (.error e)

/-- `_cleanup_lease_once` up to the provider. -/
def openCleanup (run : Run) (lease : ResourceLease) (claim : Option RecoveryLeaseClaim)
    (s : Registry) : LeasePhase × Registry :=
  match cleanupProject run claim s with
  | .error e => (.ended (.error e), s)
  | .ok _ =>
      if leaseEnded lease = true then (.ended (.ok ()), s)
      else
        match commit (markReleasing svc amb lease) s with
        | (.error e, t) => (.ended (.error e), t)
        | (.ok _, t) => (askProvider svc lease claim, t)

/-- The end of `_cleanup_lease_once`. -/
def closeCleanup (status : LeaseStatus) (lease : ResourceLease)
    (claim : Option RecoveryLeaseClaim) (answer : Answer) (s : Registry) :
    LeasePhase × Registry :=
  match judge lease.kind answer with
  | .ok _ =>
      let r := commit (persist svc reads amb lease.leaseId claim status) s
      (.ended r.1, r.2)
  | .error e =>
      match commit (persist svc reads amb lease.leaseId claim .failed) s with
      | (.ok _, t) => (.ended (.error e), t)
      | (.error e', t) => (.ended (.error e'), t)

/-- The task of a lease goes on to its next transaction or its provider. -/
def stepLeaseTask (task : LeaseTask) (s : Registry) : LeasePhase × Registry :=
  match task.phase with
  | .created =>
      match task.plan with
      | none => (.opened task.lease none, s)
      | some plan => claimReviewed svc reads amb task plan s
  | .opened lease claim => openCleanup svc amb task.run lease claim s
  | .reported lease claim answer => closeCleanup svc reads amb task.status lease claim answer s
  | phase => (phase, s)

/-! ### Registration -/

/-- The error of a cleanup that meets another one. -/
def conflictingCleanup (what key remediation : String) (registered requested : LeaseStatus) :
    StoreError :=
  .fleet {
    code := .recoveryRequired
    message := "A conflicting resource cleanup mode is already active for this " ++ what ++ "."
    remediation := remediation
    details := JsonValue.object [
      (what ++ "_id", .str key),
      ("active_status", .str registered.value),
      ("requested_status", .str requested.value)] }

/-- The digest of a lease under a plan. -/
def leasePlanSha256 (plan : ReviewedRecoveryPlan) (lease : ResourceLease) : Sha256 :=
  svc.canonicalJsonHash (.obj (JsonValue.object [
    ("plan", .str (planSha256 svc.toConversationServices plan).hex),
    ("lease", svc.dump (.lease lease))]))

/-- A new task of a lease with its registration. -/
def Service.addLeaseTask (s : Service) (task : LeaseTask) (digest : Option Sha256) : Service :=
  { s with
    leaseTasks := s.leaseTasks ++ [task]
    leaseCleanupTasks := Function.update s.leaseCleanupTasks task.lease.leaseId
      (some (task.status, s.leaseTasks.length))
    reviewedLeasePlans := match digest with
      | none => s.reviewedLeasePlans
      | some sha256 =>
          Function.update s.reviewedLeasePlans task.lease.leaseId (some sha256) }

/-- The lease that a new task is given. -/
def taskLease (s : Service) (lease : ResourceLease) (status : LeaseStatus)
    (plan : Option ReviewedRecoveryPlan) : Except StoreError ResourceLease :=
  match plan with
  | none => demand (notFound "resource lease" lease.leaseId) (leaseRow s.registry lease.leaseId)
  | some _ => if status ≠ .recovered then .error ownershipUnavailable else .ok lease

/-- `_lease_cleanup_task`. -/
def leaseCleanupTask (s : Service) (run : Run) (lease : ResourceLease) (status : LeaseStatus)
    (plan : Option ReviewedRecoveryPlan) (creator : Option ℕ) : Except StoreError (ℕ × Service) :=
  let digest := plan.map fun plan => leasePlanSha256 svc plan lease
  match s.leaseCleanupTasks lease.leaseId with
  | none => do
      let given ← taskLease s lease status plan
      return (s.leaseTasks.length,
        s.addLeaseTask { run, lease := given, status, plan, creator } digest)
  | some (registered, task) => do
      refuse (registered ≠ status ∨ s.reviewedLeasePlans lease.leaseId ≠ digest)
        (conflictingCleanup "lease" lease.leaseId
          "Wait for the active cleanup to finish, then retry the exact lease." registered status)
      return (task, s)

/-- `_forget_lease_cleanup_task`. -/
def Service.forgetLease (s : Service) (leaseId : String) (task : ℕ) : Service :=
  if ((s.leaseTasks[task]?).bind LeaseTask.result?).isSome = true
      ∧ (s.leaseCleanupTasks leaseId).map Prod.snd = some task then
    { s with
      leaseCleanupTasks := Function.update s.leaseCleanupTasks leaseId none
      reviewedLeasePlans := Function.update s.reviewedLeasePlans leaseId none }
  else s

/-- The end of `cleanup_run`. -/
def Service.forgetRun (s : Service) (runId : String) (task : ℕ) : Service :=
  if ((s.runTasks[task]?).bind RunTask.result?).isSome = true
      ∧ (s.runCleanupTasks runId).map Prod.snd = some task then
    { s with
      runCleanupTasks := Function.update s.runCleanupTasks runId none
      reviewedRunPlans := Function.update s.reviewedRunPlans runId none }
  else s

/-- A new task of a run with its registration. -/
def Service.addRunTask (s : Service) (task : RunTask) (digest : Option Sha256) : Service :=
  { s with
    runTasks := s.runTasks ++ [task]
    runCleanupTasks := Function.update s.runCleanupTasks task.run.runId
      (some (task.status, s.runTasks.length))
    reviewedRunPlans := match digest with
      | none => s.reviewedRunPlans
      | some sha256 => Function.update s.reviewedRunPlans task.run.runId (some sha256) }

/-- `cleanup_run` up to the task that it awaits; `stored` says that a recovery store was given. -/
def cleanupRun (s : Service) (run : Run) (recovered : Bool) (plan : Option ReviewedRecoveryPlan)
    (stored : Bool) : Except StoreError (ℕ × Service) := do
  let status : LeaseStatus := if recovered then .recovered else .released
  let digest := plan.map (planSha256 svc.toConversationServices)
  refuse (plan.isSome = true ∧ (recovered = false ∨ stored = false)) ownershipUnavailable
  match s.runCleanupTasks run.runId with
  | none => return (s.runTasks.length, s.addRunTask { run, status, plan } digest)
  | some (registered, task) => do
      refuse (registered ≠ status ∨ s.reviewedRunPlans run.runId ≠ digest)
        (conflictingCleanup "run" run.runId
          "Wait for the active cancellation or recovery cleanup to finish, then retry."
          registered status)
      return (task, s)

/-! ### The cleanup of a run -/

/-- The leases that `_cleanup_run_ordered` captures. -/
def capture (task : RunTask) (s : Registry) : Except StoreError (List ResourceLease) :=
  match task.plan with
  | none => .ok (outstandingLeases task.run.runId s)
  | some plan => do
      let snapshot := plan.binding.snapshot
      refuse (task.run ∉ snapshot.runs) ownershipUnavailable
      return snapshot.leases.filter fun lease =>
        lease.runId = task.run.runId && !leaseEnded lease

/-- The captured leases of a kind. -/
def RunTask.ofKind (task : RunTask) (kind : LeaseKind) : List ResourceLease :=
  task.captured.filter fun lease => lease.kind = kind

/-- The kind that is cleaned after this one. -/
def nextKind : LeaseKind → Option LeaseKind
  | .execution => some .sandbox
  | .sandbox => some .worktree
  | .worktree => none

/-- The end of a kind. -/
def nextTier (task : RunTask) (kind : LeaseKind) : List StoreError → RunPhase
  | e :: _ => .ended (.error e)
  | [] =>
      match nextKind kind with
      | some next => .tier next (task.ofKind next) []
      | none => .ended (.ok ())

/-- `failures.append`. -/
def withResult (failures : List StoreError) : Except StoreError Unit → List StoreError
  | .ok _ => failures
  | .error e => failures ++ [e]

/-- A task of a run is replaced. -/
def Service.setRunTask (s : Service) (task : ℕ) (after : RunTask) : Service :=
  { s with runTasks := s.runTasks.set task after }

/-- `_join_lease_cleanup` for the next lease of a kind, up to its `await`. -/
def joinNext (s : Service) (j : ℕ) (task : RunTask) (kind : LeaseKind) (lease : ResourceLease)
    (todo : List ResourceLease) (failures : List StoreError) : Service :=
  match leaseCleanupTask svc s task.run lease task.status task.plan (some j) with
  | .error e => s.setRunTask j { task with phase := .tier kind todo (failures ++ [e]) }
  | .ok (i, s') => s'.setRunTask j { task with phase := .waiting kind lease i todo failures }

/-- `_join_lease_cleanup` after its `await`, when the task is done. -/
def afterJoin (s : Service) (j : ℕ) (task : RunTask) (kind : LeaseKind) (lease : ResourceLease)
    (i : ℕ) (todo : List ResourceLease) (failures : List StoreError) : Service :=
  match (s.leaseTasks[i]?).bind LeaseTask.result? with
  | none => s
  | some result =>
      (s.forgetLease lease.leaseId i).setRunTask j
        { task with phase := .tier kind todo (withResult failures result) }

/-- The task of a run goes on. -/
def stepRunTask (s : Service) (j : ℕ) (task : RunTask) : Service :=
  match task.phase with
  | .created =>
      match capture task s.registry with
      | .error e => s.setRunTask j { task with phase := .ended (.error e) }
      | .ok captured =>
          let task := { task with captured := captured }
          s.setRunTask j { task with phase := .tier .execution (task.ofKind .execution) [] }
  | .tier kind [] failures =>
      s.setRunTask j { task with phase := nextTier task kind failures }
  | .tier kind (lease :: todo) failures => joinNext svc s j task kind lease todo failures
  | .waiting kind lease i todo failures => afterJoin s j task kind lease i todo failures
  | .ended _ => s

/-! ### The machine -/

/-- What happens. -/
inductive CleanupOp where
  /-- `plan` is the place of a plan that was prepared -/
  | cleanupRun (run : Run) (recovered : Bool) (plan : Option ℕ) (stored : Bool)
  | cleanupLease (run : Run) (lease : ResourceLease) (status : LeaseStatus)
  | prepare (binding : RecoveryBinding)
  | runTask (task : ℕ)
  | leaseTask (task : ℕ)
  | answer (task : ℕ) (answer : Answer)
  /-- a task is cancelled before it has begun -/
  | interruptRun (task : ℕ) (e : StoreError)
  | interruptLease (task : ℕ) (e : StoreError)
  /-- a caller whose task is done goes on -/
  | forgetRun (runId : String) (task : ℕ)
  | forgetLease (leaseId : String) (task : ℕ)
  | store (call : StoreCall)

/-- One input: what happens, and what it reads from its surroundings. -/
structure CleanupInput where
  op : CleanupOp
  reads : ConversationReads
  amb : Ambient

/-- The phase of a task of a lease is replaced. -/
def Service.setLeasePhase (s : Service) (i : ℕ) (task : LeaseTask) (phase : LeasePhase) :
    Service :=
  { s with leaseTasks := s.leaseTasks.set i { task with phase := phase } }

/-- The state after a call that may be refused, with the task that it joined. -/
def joined (s : Service) : Except StoreError (ℕ × Service) → Service × Except StoreError ℕ
  | .ok (task, t) => (t, .ok task)
  | .error e => (s, .error e)

/-- The provider of a task has answered. -/
def answered (task : LeaseTask) (answer : Answer) : LeasePhase :=
  match task.phase with
  | .calling lease claim => .reported lease claim answer
  | phase => phase

/-- A task of a lease that is cancelled before it has begun. -/
def interrupted (task : LeaseTask) (e : StoreError) : LeasePhase :=
  match task.phase with
  | .created => .ended (.error e)
  | phase => phase

/-- A task of a run that is cancelled before it has begun. -/
def interruptedRun (task : RunTask) (e : StoreError) : RunPhase :=
  match task.phase with
  | .created => .ended (.error e)
  | phase => phase

/-- The state after an input that joins no task. -/
def follow (s : Service) : CleanupOp → Service
  | .prepare binding =>
      match commit (withinBoundary (prepareReviewedRecovery svc.toConversationServices reads amb
        binding)) s.registry with
      | (.ok plan, registry) => { s with registry, plans := s.plans ++ [plan] }
      | (.error _, registry) => { s with registry }
  | .runTask j =>
      match s.runTasks[j]? with
      | none => s
      | some task => stepRunTask svc s j task
  | .leaseTask i =>
      match s.leaseTasks[i]? with
      | none => s
      | some task =>
          let r := stepLeaseTask svc reads amb task s.registry
          { s with registry := r.2 }.setLeasePhase i task r.1
  | .answer i answer =>
      match s.leaseTasks[i]? with
      | none => s
      | some task => s.setLeasePhase i task (answered task answer)
  | .interruptRun j e =>
      match s.runTasks[j]? with
      | none => s
      | some task => s.setRunTask j { task with phase := interruptedRun task e }
  | .interruptLease i e =>
      match s.leaseTasks[i]? with
      | none => s
      | some task => s.setLeasePhase i task (interrupted task e)
  | .forgetRun runId task => s.forgetRun runId task
  | .forgetLease leaseId task => s.forgetLease leaseId task
  | .store call => { s with registry := (commit (storeBody svc amb reads call) s.registry).2 }
  | _ => s

/-- The plan at a place. -/
def Service.plan? (s : Service) : Option ℕ → Except StoreError (Option ReviewedRecoveryPlan)
  | none => .ok none
  | some k => some <$> demand ownershipUnavailable s.plans[k]?

/-- The service under calls: the next state, and the task that a call joined. -/
def cleanupMachine : Machine Service CleanupInput (Option (Except StoreError ℕ)) where
  step s input :=
    match input.op with
    | .cleanupRun run recovered plan stored =>
        let r := joined s (do
          let plan ← s.plan? plan
          cleanupRun svc s run recovered plan stored)
        (r.1, some r.2)
    | .cleanupLease run lease status =>
        let r := joined s (leaseCleanupTask svc s run lease status none none)
        (r.1, some r.2)
    | op => (follow svc input.reads input.amb s op, none)

end AgentFleet.Resources
