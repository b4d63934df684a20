import AgentFleet.Baseline.Operations

/-! # Publishing a report

`BaselineService._publish` reads the store three times, each time in a transaction of its own,
builds a report from what it has read, and publishes it in a fourth transaction.  Between two of
them any other transaction may run, and a controller may stop for good.

`serviceMachine` runs the transactions of the store beside the publications that are under way.
A report reaches the store only through a publication.  The cleanup claim of a publication and
what its controller knows of its own errors are arbitrary, so `run` and `recover` are among its
runs. -/

namespace AgentFleet.Baseline

open Relational Checks Transition

variable (svc : BaselineServices) (t : BaselineTables)

/-! ### The view of a baseline -/

/-- `BaselineShow`. -/
structure BaselineShow where
  review : BaselineReview
  execution : BaselineExecution
  report : Option BaselineReport
  observation : Option BaselineCommandObservation
  recoveryScopeSha256 : Option Sha256
deriving DecidableEq

/-- The review and the execution with an identity of either. -/
def shownRecords (identity : String) : Except FleetError (BaselineReview × BaselineExecution) :=
  if textStartsWith identity "breview_" = true then do
    let review ← reviewOf svc t identity
    let execution ← executionOf svc t review.baselineId
    return (review, execution)
  else do
    let execution ← executionOf svc t identity
    let review ← reviewOf svc t execution.reviewId
    return (review, execution)

/-- The digest of the resources of an owned execution. -/
def recoveryScope (execution : BaselineExecution) : Except FleetError (Option Sha256) :=
  match execution.ownerClaimId with
  | none => .ok none
  | some _ => do
      let snapshot ← resourceSnapshot svc t execution.baselineId
      return some (svc.digestOf snapshot)

/-- `show`. -/
def shown (identity : String) : Except FleetError BaselineShow := do
  let (review, execution) ← shownRecords svc t identity
  let observation ← observationOf svc t execution.baselineId
  let report ← reportOf svc t execution observation
  let recovery ← recoveryScope svc t execution
  return ⟨review, execution, report, observation, recovery⟩

/-! ### The report -/

/-- `controller_error` with what the report of the view recorded. -/
def erred (controllerError : Bool) (view : BaselineShow) : Bool :=
  controllerError || view.report.any fun report => decide (.controllerError ∈ report.proofGaps)

/-- What a proof of the outcome lacks in the observation. -/
def observationGaps : Option BaselineCommandObservation → List BaselineProofGap
  | none => [.missingResult]
  | some observation =>
      if observation.conclusive then []
      else if observation.postSourceSha256 ≠ some observation.approvedSourceSha256 then
        [.sourceDrift]
      else [.outputIncomplete]

/-- `gaps`. -/
def proofGaps (observation : Option BaselineCommandObservation) (complete controllerError : Bool) :
    List BaselineProofGap :=
  observationGaps observation ++ (if complete then [] else [.cleanupIncomplete])
    ++ if controllerError then [.controllerError] else []

/-- `complete`. -/
def cleanupComplete (snapshot : BaselineResourceSnapshot) : Bool :=
  snapshot.leases.all fun lease => lease.status = .released

/-- The status of a report. -/
def reportStatus (observation : Option BaselineCommandObservation)
    (complete controllerError : Bool) : BaselineReportStatus :=
  if complete = true ∧ controllerError = false ∧ ∃ recorded ∈ observation, recorded.conclusive then
    .observed
  else if complete then .inconclusive
  else .recoveryRequired

/-- The report that `_publish` builds. -/
def builtReport (cleanup : BaselineCleanupClaim) (snapshot : BaselineResourceSnapshot)
    (view : BaselineShow) (observation : Option BaselineCommandObservation)
    (controllerError : Bool) (now : Timestamp) : BaselineReport where
  baselineId := view.review.baselineId
  projectId := view.review.projectId
  reviewId := view.review.reviewId
  reviewSha256 := svc.digestOf view.review
  authorizationId := snapshot.claim.authorizationId
  claimId := snapshot.claim.claimId
  commandSha256 := view.review.command.sha256
  approvedSourceSha256 := view.review.approvedSourceSha256
  observation := observation.map (observationRef svc)
  cleanupScopeSha256 := cleanup.scopeSha256
  cleanupReceiptSha256s := (snapshot.leases.filterMap BaselineResourceLease.receiptSha256).mergeSort
    fun a b => a.hex ≤ b.hex
  cleanupComplete := cleanupComplete snapshot
  status := reportStatus observation (cleanupComplete snapshot) (erred controllerError view)
  observedExitCode := observation.bind BaselineCommandObservation.exitCode
  predecessorReportSha256 := snapshot.execution.currentReportSha256
  completedAt := now
  proofGaps := proofGaps observation (cleanupComplete snapshot) (erred controllerError view)

/-! ### The service -/

/-- How far a publication has come. -/
inductive PublicationStage where
  | started
  | validated (snapshot : BaselineResourceSnapshot)
  | viewed (snapshot : BaselineResourceSnapshot) (view : BaselineShow)
  | observed (snapshot : BaselineResourceSnapshot) (view : BaselineShow)
      (observation : Option BaselineCommandObservation)
  | ended

/-- A call of `_publish`. -/
structure Publication where
  cleanup : BaselineCleanupClaim
  controllerError : Bool
  stage : PublicationStage := .started

/-- The store and the publications under way. -/
structure BaselineSystem where
  tables : BaselineTables
  publications : List Publication

/-- The migrated store without rows and without publications. -/
def BaselineSystem.empty : BaselineSystem where
  tables := .empty
  publications := []

/-- A transaction that publishes a report. -/
def BaselineOp.publishes : BaselineOp → Bool
  | .publishBaselineReport .. => true
  | _ => false

/-- One input of the service. -/
inductive ServiceInput where
  | transact (input : BaselineInput) (unpublished : input.op.publishes = false)
  | publish (cleanup : BaselineCleanupClaim) (controllerError : Bool)
  | proceed (index : ℕ) (now : Timestamp) (reads : BaselineReads) (amb : Ambient)

/-- The stage after a read, if the read returns. -/
def PublicationStage.after {α : Type} (read : Except FleetError α) (stage : α → PublicationStage) :
    PublicationStage :=
  match read with
  | .ok value => stage value
  | .error _ => .ended

/-- The next transaction of a publication, at the time of its clock. -/
def advance (now : Timestamp) (reads : BaselineReads) (amb : Ambient)
    (publication : Publication) : BaselineTables × PublicationStage :=
  match publication.stage with
  | .started => (t, .after (validateCleanup svc t publication.cleanup) .validated)
  | .validated snapshot =>
      (t, .after (shown svc t publication.cleanup.owner.baselineId) (.viewed snapshot))
  | .viewed snapshot view =>
      (t, .after (observationOf svc t publication.cleanup.owner.baselineId)
        (.observed snapshot view))
  | .observed snapshot view observation =>
      let report := builtReport svc publication.cleanup snapshot view observation
        publication.controllerError now
      ((baselineMachine svc).next t ⟨.publishBaselineReport publication.cleanup
        snapshot.execution.revision report, reads, amb⟩, .ended)
  | .ended => (t, .ended)

/-- The service: transactions of the store, new publications, and their progress. -/
def serviceMachine : Machine BaselineSystem ServiceInput Unit where
  step s
    | .transact input _ => (⟨(baselineMachine svc).next s.tables input, s.publications⟩, ())
    | .publish cleanup controllerError =>
        (⟨s.tables, s.publications ++ [{ cleanup, controllerError }]⟩, ())
    | .proceed index now reads amb =>
        match s.publications[index]? with
        | none => (s, ())
        | some publication =>
            let (tables, stage) := advance svc s.tables now reads amb publication
            (⟨tables, s.publications.set index { publication with stage }⟩, ())

end AgentFleet.Baseline
