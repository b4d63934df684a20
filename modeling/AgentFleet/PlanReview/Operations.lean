import AgentFleet.PlanReview.Store

/-! # Plan reviews: the decisions and the machine

`create` pauses a run for the review of its plan, `approve` and `consume` take the two decisions.
All of them end in `publish`, which writes the run, the receipt and the version together.

One input of `planReviewMachine` is one call with arbitrary arguments, one transaction of the stores
it shares its database with, or whatever the rest of the program does to the projects, the
artifacts and the leases. -/

namespace AgentFleet.PlanReview

open Relational Transaction Checks Transition

section Bodies

variable (svc : PlanReviewServices) (reads : PlanReviewReads) (amb : Ambient)

/-- The upsert of `plan_review_heads`. -/
def upsertHead (heads : Table HeadRow) (head : HeadRow) : Table HeadRow :=
  heads.upsert head (fun row => row.rootRunId = head.rootRunId)
    (fun row => { row with revision := head.revision }) fun _ _ h => h

/-- The version and the head that a decision writes. -/
def insertVersion (runId : String) (item : PlanReviewCheckpoint) (auditEventId : String) :
    PlanTxn Unit := do
  let s ← get
  let versions ← expect .integrity (s.versions.insert { rootRunId := runId, item, auditEventId })
  let heads := upsertHead s.heads { rootRunId := runId, revision := item.revision }
  set { s with versions, heads }

/-- `_publish`. -/
def publish (run : Run) (item : PlanReviewCheckpoint) (transition : Option RunStatus) :
    PlanTxn Run := do
  let eventType := checkpointEventType item.status
  let payload := checkpointPayload svc item
  match transition with
  | some status => do
      let moved : Run := { run with status, updatedAt := item.updatedAt }
      let _ ← onState (saveRun svc.toServices amb moved eventType payload)
      let s ← get
      let event ← expect .validation (s.lastEvent? run.runId)
      insertVersion run.runId item event.eventId
      return moved
  | none => do
      let event := eventForRun svc.toServices amb 0 run eventType payload
      onState (insertEvent svc.toServices event)
      insertVersion run.runId item event.eventId
      return run

/-- `LIKE 'plan_review.%'`: the case of letters does not matter, and an underscore is any
character. -/
def likePlanReview (eventType : String) : Bool :=
  let head := eventType.toList.take 12
  head.length = 12 && (head.zip "plan_review.".toList).all fun (c, pattern) =>
    pattern = '_' || c.toLower = pattern

/-- The run has a plan review already. -/
def reviewed (s : PlanState) (runId : String) : Prop :=
  (s.head? runId).isSome = true ∨ s.versionsOf runId ≠ []
    ∨ ∃ event ∈ s.events, event.runId = some runId ∧ likePlanReview event.eventType = true
deriving Decidable

/-- `create`. -/
def create (run : Run) (checkpoint : PlanReviewCheckpoint) : PlanTxn PlanReviewCheckpoint := do
  refuseIf (¬ checkpoint.validates ∨ svc.checkpointSafe checkpoint = false) invalidStateRecord
  let current ← runOf svc run
  refuseIf (current ≠ run ∨ current.status ≠ .running ∨ current.stage ≠ some .scoping
    ∨ checkpoint.status ≠ .pending) planReviewStale
  reading fun s => checkBinding svc reads s current checkpoint
  reading fun _ => reads.checkAdmission current checkpoint.binding.organizationAdmission
  reading fun s => checkUneffected s current
  reading fun s => refuse (reviewed s run.runId) planReviewInvalid
  let _ ← publish svc amb current checkpoint (some .pausedForPlan)
  return checkpoint

/-- `get`. -/
def getReview (run : Run) : PlanTxn PlanReviewCheckpoint := do
  let current ← runOf svc run
  reading fun s => getCheckpoint svc reads s current

/-- The status that a decision needs, and the one that it leads to. -/
def decision (consume : Bool) : CheckpointStatus × CheckpointStatus :=
  if consume = true then (.approved, .consumed) else (.pending, .approved)

/-- The next checkpoint, which the user decided. -/
def PlanReviewCheckpoint.decided (item : PlanReviewCheckpoint) (consume : Bool)
    (now : Timestamp) : PlanReviewCheckpoint :=
  { item with
    revision := item.revision + 1
    status := (decision consume).2
    previousSha256 := some (checkpointSha256 svc item)
    actor := some .user
    updatedAt := now }

/-- `_advance`. -/
def advance (run : Run) (expectedSha256 : String) (consume : Bool) :
    PlanTxn (Run × PlanReviewCheckpoint) := do
  let current ← runOf svc run
  let item ← reading fun s => getCheckpoint svc reads s current
  refuseIf (current ≠ run ∨ current.status ≠ .pausedForPlan ∨ current.stage ≠ some .scoping
    ∨ item.status ≠ (decision consume).1
    ∨ expectedSha256 ≠ (checkpointSha256 svc item).hex) planReviewStale
  reading fun _ => reads.checkAdmission current item.binding.organizationAdmission
  reading fun s => checkUneffected s current
  let next := item.decided svc consume (amb.clock 1)
  refuseIf (¬ next.validates) .validation
  let result ← publish svc amb current next (if consume = true then some .running else none)
  return (result, next)

/-- `approve`. -/
def approve (run : Run) (expectedSha256 actor : String) : PlanTxn PlanReviewCheckpoint := do
  refuseIf (actor ≠ "user") planReviewStale
  let (_, item) ← advance svc reads amb run expectedSha256 false
  return item

/-- `consume`. -/
def consume (run : Run) (expectedSha256 : String) : PlanTxn Run := do
  let (result, _) ← advance svc reads amb run expectedSha256 true
  return result

end Bodies

/-! ### The machine -/

/-- A call of the store with its arguments. -/
inductive PlanReviewOp where
  | create (run : Run) (checkpoint : PlanReviewCheckpoint)
  | get (run : Run)
  | approve (run : Run) (expectedSha256 actor : String)
  | consume (run : Run) (expectedSha256 : String)

/-- What happens to the tables. -/
inductive PlanOp where
  | review (op : PlanReviewOp)
  | database (op : DatabaseOp) (databaseReads : DatabaseReads)
  | elsewhere (shared : Conversations.SharedTables)

/-- What a call returns. -/
inductive PlanResult where
  | checkpoint (item : PlanReviewCheckpoint)
  | consumed (run : Run)
  | done

variable (svc : PlanReviewServices) (reads : PlanReviewReads) (amb : Ambient)

/-- The body of a call. -/
def reviewBody : PlanReviewOp → PlanTxn PlanResult
  | .create run checkpoint => .checkpoint <$> create svc reads amb run checkpoint
  | .get run => .checkpoint <$> getReview svc reads run
  | .approve run expectedSha256 actor =>
      .checkpoint <$> approve svc reads amb run expectedSha256 actor
  | .consume run expectedSha256 => .consumed <$> consume svc reads amb run expectedSha256

/-- A body inside `_boundary`. -/
def withinBoundary {α : Type} (x : PlanTxn α) : PlanTxn α := fun s =>
  match x s with
  | .ok r => .ok r
  | .error e => .error (boundary e)

/-- A transaction of the stores in the same database. -/
def onDatabase {α : Type} (x : DatabaseTxn α) : PlanTxn α :=
  onPart PlanState.database (fun database s => { s with database }) x

/-- The body of an input. -/
def planBody : PlanOp → PlanTxn PlanResult
  | .review op => withinBoundary (reviewBody svc reads amb op)
  | .database op databaseReads =>
      (fun _ => .done) <$> onDatabase (databaseBody svc.toDatabaseServices databaseReads amb op)
  | .elsewhere shared => (fun _ => .done) <$> modify fun s => { s with shared }

/-- One input: what happens, and what it reads from its surroundings. -/
structure PlanInput where
  op : PlanOp
  reads : PlanReviewReads
  amb : Ambient

/-- The plan reviews under calls. -/
def planReviewMachine : Machine PlanState PlanInput (Except StoreError PlanResult) where
  step s input :=
    let r := commit (planBody svc input.reads input.amb input.op) s
    (r.2, r.1)

/-- A database whose runs have no plan review yet. -/
def PlanState.fresh (database : Database) (shared : Conversations.SharedTables) : PlanState where
  database := database
  shared := shared
  versions := .empty
  heads := .empty

end AgentFleet.PlanReview
