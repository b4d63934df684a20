import AgentFleet.Baseline.Publication
import AgentFleet.Baseline.Release

/-! # Reports are sound

A report that says `observed` has one conclusive observation behind it, all leases of its baseline
are released, and no report before it recorded an error of a controller.

The observation and the leases are checked by the store.  That errors are carried from report to
report is up to `_publish`: the revision that it publishes at makes the report that it has seen
the predecessor of the one that it builds (`Publication.Tracks`). -/

namespace AgentFleet.Baseline

open Relational Checks Transaction Transition

variable {svc : BaselineServices} {t t' : BaselineTables}

/-! ### What a report says holds -/

/-- The observation that a report names is recorded, conclusive, and of the approved source. -/
structure ObservedBy (svc : BaselineServices) (report : BaselineReport)
    (observation : BaselineCommandObservation) : Prop where
  baselineId : observation.baselineId = report.baselineId
  conclusive : observation.conclusive
  approved : observation.approvedSourceSha256 = report.approvedSourceSha256
  reference : report.observation = some (observationRef svc observation)
  exitCode : report.observedExitCode = observation.exitCode

/-- What a report says holds of the records. -/
structure ReportSound (svc : BaselineServices) (t : BaselineTables) (report : BaselineReport) :
    Prop where
  observed : report.status = .observed → ∃ row ∈ t.observations, ObservedBy svc report row.value
  fenced : Fenced t report.baselineId
  complete : report.cleanupComplete = true → ∀ lease ∈ t.leases,
    lease.owner.baselineId = report.baselineId → lease.status = .released
  -- `no_inferred_success`
  consistent : report.status = .observed → report.cleanupComplete = true ∧ report.proofGaps = []

/-- What the reports say holds. -/
def ReportsSound (svc : BaselineServices) (t : BaselineTables) : Prop :=
  ∀ row ∈ t.reports, ReportSound svc t row.value

variable {result : BaselineResult} {report : BaselineReport} {review : BaselineReview}
  {row : Digested BaselineReport} {execution : BaselineExecution} {view : BaselineShow}
  {publication : Publication} {amb : Ambient} {cleanup : BaselineCleanupClaim}
  {reads : BaselineReads} {controllerError : Bool} {now : Timestamp}

/-- What a report says still holds after an effect: its baseline is fenced, so its leases are
quiet. -/
theorem ReportSound.effect (h : ReportSound svc t report) (heffect : Effect svc t result t')
    (hfences : FencesHold t) :
    ReportSound svc t' report where
  observed hstatus := by
    obtain ⟨row, hrow, hby⟩ := h.observed hstatus
    exact ⟨row, heffect.follows.observations row hrow, hby⟩
  fenced := heffect.follows.fenced h.fenced
  complete hcomplete l' hl' hid := by
    obtain ⟨l, hl, hclosed⟩ := (heffect.quiet hfences h.fenced).leases l' hl' hid
    have hreleased := h.complete hcomplete l hl (hclosed.owner ▸ hid)
    obtain ⟨later, hlater, hfollows⟩ := heffect.follows.leases l hl
    have hsame : l' = later :=
      Table.eq_of_clash hl' hlater (.inl (hclosed.leaseId.trans hfollows.leaseId.symm))
    rw [hsame, hfollows.released hreleased]
    exact hreleased
  consistent := h.consistent

/-- A valid report that says `observed` says that the cleanup is complete and nothing lacks. -/
theorem consistent_of_encodable (h : svc.encodable report = true)
    (hstatus : report.status = .observed) :
    report.cleanupComplete = true ∧ report.proofGaps = [] := by
  unfold BaselineServices.encodable BaselineModels.validates at h
  simp only [Bool.and_eq_true, BaselineModel.record, BaselineRecord.validates,
    BaselineReport.validates, decide_eq_true_eq] at h
  obtain ⟨⟨-, ⟨⟨⟨-, hobserved⟩, -⟩, -⟩, -⟩, -⟩ := h
  exact (hobserved hstatus).2.2

theorem SnapshotReads.baselineId {baselineId : String} {snapshot : BaselineResourceSnapshot}
    (h : SnapshotReads svc t baselineId review snapshot) :
    snapshot.execution.baselineId = baselineId :=
  (executionOf_ok.mp h.execution).2.1

theorem approved_of_observationOf {snapshot : BaselineResourceSnapshot}
    {observation : BaselineCommandObservation} {baselineId : String}
    (hobservation : observationOf svc t baselineId = .ok (some observation))
    (hsnapshot : resourceSnapshot svc t baselineId = .ok snapshot)
    (hreview : reviewOf svc t snapshot.execution.reviewId = .ok review) :
    ∃ row ∈ t.observations, row.value = observation ∧ observation.baselineId = baselineId
      ∧ observation.approvedSourceSha256 = review.approvedSourceSha256 := by
  obtain ⟨row, hrow, hid, hchecked⟩ := observationOf_some.mp hobservation
  obtain ⟨-, -, rfl, found, reviewed, command, sandbox, spec, native, inspection, controls,
    hreads⟩ := checkedObservation_ok.mp hchecked
  have hfound : found = snapshot := Except.ok.inj (hreads.resources.symm.trans hsnapshot)
  subst hfound
  have hreviewed : reviewed = review := Except.ok.inj (hreads.reviewed.symm.trans hreview)
  subst hreviewed
  have hfits := hreads.fits
  unfold observationFits at hfits
  obtain ⟨-, -, -, -, -, -, -, -, -, -, -, -, -, -, -, -, -, -, -, -, -, -, -, -, -, -, happroved,
    -⟩ := hfits
  exact ⟨row, hrow, rfl, hid, happroved⟩

theorem reportsSound_effect (h : Effect svc t result t') (hfences : FencesHold t)
    (hI : ReportsSound svc t) : ReportsSound svc t' := by
  have hold : ∀ row ∈ t.reports, ReportSound svc t' row.value := fun row hrow =>
    (hI row hrow).effect h hfences
  have hkept : t'.reports = t.reports → ReportsSound svc t' := by
    intro hreports row hrow
    rw [hreports] at hrow
    exact hold row hrow
  cases h with
  | @published claim snapshot review observation report expectedRevision next now reports executions
      reference hread hreview hobservation hcurrent hfacts hvalid hinsert hnext hbump =>
      intro row hrow
      rcases (Table.mem_insert hinsert).mp hrow with hbefore | rfl
      · exact hold row hbefore
      obtain ⟨changed, hcleanup⟩ := validateCleanup_ok.mp hread
      obtain ⟨reviewed, hsnapshot⟩ := resourceSnapshot_ok.mp hcleanup.resources
      obtain ⟨hfenced, hleases⟩ := fenced_of_validateCleanup hread
      have hbaseline := hsnapshot.baselineId
      obtain ⟨-, hreportId, -, -, -, -, -, -, hsource, -, -, hcomplete, -, hreference, hexit,
        hconclusive⟩ := hcurrent
      have hid : report.baselineId = claim.owner.baselineId := hreportId.trans hbaseline
      refine ⟨fun hstatus => ?_, ?_, fun hdone lease hlease hleaseId => ?_,
        consistent_of_encodable hvalid⟩
      · obtain ⟨recorded, hrecorded, hproof⟩ := hconclusive hstatus
        cases hrecorded
        rw [hbaseline] at hobservation
        obtain ⟨row, hrow, rfl, hrowId, happroved⟩ :=
          approved_of_observationOf hobservation hcleanup.resources hreview
        exact ⟨row, hrow, hrowId.trans hid.symm, hproof, happroved.trans hsource.symm, hreference,
          hexit row.value rfl⟩
      · rw [hid]
        exact hfenced
      · exact hcomplete.mp hdone lease ((hleases lease).mpr ⟨hlease, hleaseId.trans hid⟩)
  | authorizedAgain | revokedAgain | observedAgain | created | authorized | revoked | claimed
  | reserved | progressed | dispatched | observed | cleanupClaimed | finalized => exact hkept rfl

/-! ### Errors are carried from report to report -/

/-- `report` was published as the successor of `predecessor`. -/
def Succeeds (t : BaselineTables) (report predecessor : BaselineReport) : Prop :=
  ∃ sha256, report.predecessorReportSha256 = some sha256 ∧ ⟨sha256, predecessor⟩ ∈ t.reports

/-- The predecessor of a report is stored, and its error is an error of the report. -/
def ErrorsCarried (t : BaselineTables) : Prop :=
  ∀ row ∈ t.reports, ∀ sha256, row.value.predecessorReportSha256 = some sha256 →
    ∃ predecessor, ⟨sha256, predecessor⟩ ∈ t.reports
      ∧ (.controllerError ∈ predecessor.proofGaps → .controllerError ∈ row.value.proofGaps)

/-- An error is carried along a chain of reports. -/
theorem ErrorsCarried.chain (h : ErrorsCarried t) {ancestor : BaselineReport}
    (hreport : ∃ row ∈ t.reports, row.value = report)
    (hchain : Relation.TransGen (Succeeds t) report ancestor)
    (herror : .controllerError ∈ ancestor.proofGaps) : .controllerError ∈ report.proofGaps := by
  have hlink : ∀ later earlier, (∃ row ∈ t.reports, row.value = later) →
      Succeeds t later earlier → .controllerError ∈ earlier.proofGaps →
      .controllerError ∈ later.proofGaps := by
    rintro _ earlier ⟨row, hrow, rfl⟩ ⟨sha256, hsha, hearlier⟩ hmem
    obtain ⟨predecessor, hpredecessor, hcarried⟩ := h row hrow sha256 hsha
    have hsame := Table.eq_of_clash hearlier hpredecessor (report_key _ _ rfl)
    cases hsame
    exact hcarried hmem
  induction hchain with
  | single hlast => exact hlink _ _ hreport hlast herror
  | @tail middle ancestor hfirst hlast ih =>
      refine ih (hlink _ _ ?_ hlast herror)
      cases hfirst with
      | single hone | tail _ hone =>
          obtain ⟨sha256, -, hmiddle⟩ := hone
          exact ⟨_, hmiddle, rfl⟩

theorem ErrorsCarried.same (h : ErrorsCarried t) (hreports : t'.reports = t.reports) :
    ErrorsCarried t' := by
  unfold ErrorsCarried
  rw [hreports]
  exact h

theorem ErrorsCarried.insert (h : ErrorsCarried t)
    (hinsert : t.reports.insert row = some t'.reports)
    (hrow : ∀ sha256, row.value.predecessorReportSha256 = some sha256 →
      ∃ predecessor, ⟨sha256, predecessor⟩ ∈ t.reports
        ∧ (.controllerError ∈ predecessor.proofGaps → .controllerError ∈ row.value.proofGaps)) :
    ErrorsCarried t' := by
  intro later hlater sha256 hsha
  rcases (Table.mem_insert hinsert).mp hlater with hold | rfl
  · obtain ⟨predecessor, hmem, hcarried⟩ := h later hold sha256 hsha
    exact ⟨predecessor, kept_of_insert hinsert _ hmem, hcarried⟩
  · obtain ⟨predecessor, hmem, hcarried⟩ := hrow sha256 hsha
    exact ⟨predecessor, kept_of_insert hinsert _ hmem, hcarried⟩

/-! ### Publications under way -/

/-- The current execution is a later version of one that was read. -/
def ReadBefore (t : BaselineTables) (baselineId : String) (execution : BaselineExecution) : Prop :=
  ∃ current ∈ t.executions, current.baselineId = baselineId ∧ ExecutionFollows execution current

/-- What a publication has seen after its snapshot: a later version of the execution, and the
report that was current for it. -/
structure ViewTracks (t : BaselineTables) (baselineId : String) (execution : BaselineExecution)
    (view : BaselineShow) : Prop where
  follows : ExecutionFollows execution view.execution
  current : ReadBefore t baselineId view.execution
  report : ∀ sha256, view.execution.currentReportSha256 = some sha256 →
    ∃ report, view.report = some report ∧ ⟨sha256, report⟩ ∈ t.reports

/-- What a publication under way has seen. -/
def Publication.Tracks (t : BaselineTables) (publication : Publication) : Prop :=
  let baselineId := publication.cleanup.owner.baselineId
  match publication.stage with
  | .started => True
  | .validated snapshot =>
      hasIdentity "baseline" 32 baselineId = true ∧ ReadBefore t baselineId snapshot.execution
  | .viewed snapshot view => ViewTracks t baselineId snapshot.execution view
  | .observed snapshot view _ => ViewTracks t baselineId snapshot.execution view
  | .ended => True

theorem Follows.readBefore (h : Follows t t') {baselineId : String}
    (hread : ReadBefore t baselineId execution) : ReadBefore t' baselineId execution := by
  obtain ⟨current, hcurrent, hid, hfollows⟩ := hread
  obtain ⟨later, hlater, hle⟩ := h.executions current hcurrent
  exact ⟨later, hlater, hle.baselineId.trans hid, hfollows.trans hle⟩

theorem Follows.viewTracks (h : Follows t t') {baselineId : String}
    (hview : ViewTracks t baselineId execution view) :
    ViewTracks t' baselineId execution view where
  follows := hview.follows
  current := h.readBefore hview.current
  report sha256 hsha := by
    obtain ⟨report, hreport, hstored⟩ := hview.report sha256 hsha
    exact ⟨report, hreport, h.reports _ hstored⟩

/-- A publication keeps track of the store while other transactions run. -/
theorem Follows.tracks (h : Follows t t') (htracks : publication.Tracks t) :
    publication.Tracks t' := by
  unfold Publication.Tracks at htracks ⊢
  cases hstage : publication.stage with
  | started => exact trivial
  | validated =>
      rw [hstage] at htracks
      exact ⟨htracks.1, h.readBefore htracks.2⟩
  | viewed snapshot view | observed snapshot view observation =>
      rw [hstage] at htracks
      exact h.viewTracks htracks
  | ended => exact trivial

theorem not_review_of_baseline {baselineId : String} (h : hasIdentity "baseline" 32 baselineId = true) :
    ¬ textStartsWith baselineId "breview_" = true := by
  unfold hasIdentity textAfter? at h
  intro hreview
  by_cases hhead : textStartsWith baselineId ("baseline" ++ "_") = true
  · unfold textStartsWith at hhead hreview
    rw [List.isPrefixOf_iff_prefix] at hhead hreview
    rcases List.prefix_or_prefix_of_prefix hhead hreview with hprefix | hprefix
    · exact absurd hprefix (by decide)
    · exact absurd hprefix (by decide)
  · rw [if_neg hhead] at h
    cases h

theorem ReadBefore.current {baselineId : String} {current : BaselineExecution}
    (h : ReadBefore t baselineId execution)
    (hcurrent : executionOf svc t baselineId = .ok current) :
    ExecutionFollows execution current := by
  obtain ⟨row, hrow, hid, hfollows⟩ := h
  obtain ⟨hmem, hcurrentId, -⟩ := executionOf_ok.mp hcurrent
  have hsame : row = current := Table.eq_of_clash hrow hmem (hid.trans hcurrentId.symm)
  rw [← hsame]
  exact hfollows

theorem readBefore_of_executionOf {baselineId : String} {current : BaselineExecution}
    (h : executionOf svc t baselineId = .ok current) : ReadBefore t baselineId current := by
  obtain ⟨hmem, hid, -⟩ := executionOf_ok.mp h
  exact ⟨current, hmem, hid, .refl current⟩

theorem shown_ok {baselineId : String} (hid : hasIdentity "baseline" 32 baselineId = true)
    (h : shown svc t baselineId = .ok view) :
    executionOf svc t baselineId = .ok view.execution
      ∧ ∃ observation, reportOf svc t view.execution observation = .ok view.report := by
  unfold shown shownRecords at h
  rw [if_neg (not_review_of_baseline hid)] at h
  simp only [Checks.bind_ok, Checks.return_ok] at h
  obtain ⟨_, ⟨execution, hexecution, review, -, rfl⟩, observation, -, report, hreport, recovery, -,
    rfl⟩ := h
  exact ⟨hexecution, observation, hreport⟩

theorem reportOf_ok {observation : Option BaselineCommandObservation}
    {report : Option BaselineReport} (h : reportOf svc t execution observation = .ok report)
    {sha256 : Sha256} (hsha : execution.currentReportSha256 = some sha256) :
    ∃ found, report = some found ∧ ⟨sha256, found⟩ ∈ t.reports := by
  unfold reportOf at h
  rw [hsha] at h
  dsimp only at h
  simp only [Checks.bind_ok, Checks.return_ok, oneDigested_ok report_key] at h
  obtain ⟨found, ⟨hstored, -, -⟩, _, -, rfl⟩ := h
  exact ⟨found, rfl, hstored⟩

theorem hasIdentity_of_executionOf {baselineId : String}
    (h : executionOf svc t baselineId = .ok execution) :
    hasIdentity "baseline" 32 baselineId = true := by
  obtain ⟨-, rfl, hvalid⟩ := executionOf_ok.mp h
  unfold BaselineServices.encodable BaselineModels.validates at hvalid
  simp only [Bool.and_eq_true, BaselineModel.record, BaselineRecord.validates,
    BaselineExecution.validates] at hvalid
  exact hvalid.1.2.1.1.1.1.1

/-! ### Steps of the service -/

theorem executionOf_of_validateCleanup {claim : BaselineCleanupClaim}
    {current : BaselineResourceSnapshot} (h : validateCleanup svc t claim = .ok current) :
    executionOf svc t claim.owner.baselineId = .ok current.execution := by
  obtain ⟨changed, hreads⟩ := validateCleanup_ok.mp h
  obtain ⟨review, hsnapshot⟩ := resourceSnapshot_ok.mp hreads.resources
  exact hsnapshot.execution

theorem publishBaselineReport_insert {expectedRevision : ℕ} {reference : BaselineReportRef}
    (h : publishBaselineReport svc amb cleanup expectedRevision report t = .ok (reference, t')) :
    ∃ snapshot, validateCleanup svc t cleanup = .ok snapshot
      ∧ snapshot.execution.revision = expectedRevision
      ∧ t.reports.insert ⟨svc.digestOf report, report⟩ = some t'.reports := by
  unfold publishBaselineReport at h
  rw [refuseIf_bind_ok, reading_bind_ok] at h
  obtain ⟨-, snapshot, hread, h⟩ := h
  rw [reading_bind_ok] at h
  obtain ⟨review, -, h⟩ := h
  rw [reading_bind_ok] at h
  obtain ⟨observation, -, h⟩ := h
  rw [refuseIf_bind_ok, not_not, reading_bind_ok] at h
  obtain ⟨hcurrent, _, -, h⟩ := h
  obtain ⟨_, u, hinsert, h⟩ := Transaction.bind_ok.mp h
  obtain ⟨next, v, hnext, h⟩ := Transaction.bind_ok.mp h
  obtain ⟨-, rfl⟩ := pure_ok.mp h
  obtain ⟨-, -, reports, hreports, rfl⟩ := insertRow_ok.mp hinsert
  obtain ⟨-, executions, -, rfl⟩ := bump_ok hnext
  exact ⟨snapshot, hread, hcurrent.1, hreports⟩

theorem unpublished_of_body {op : BaselineOp} (hop : op.publishes = false)
    (h : baselineBody svc reads amb op t = .ok (result, t')) :
    ∀ reference, result ≠ .published reference := by
  rintro reference rfl
  cases op with
  | publishBaselineReport => cases hop
  | _ =>
      obtain ⟨_, -, hresult⟩ := Transaction.map_ok.mp h
      cases hresult

theorem Effect.reports_eq (h : Effect svc t result t')
    (hresult : ∀ reference, result ≠ .published reference) : t'.reports = t.reports := by
  cases h with
  | published => exact absurd rfl (hresult _)
  | _ => rfl

theorem reports_of_unpublished {input : BaselineInput} (h : input.op.publishes = false) :
    ((baselineMachine svc).next t input).reports = t.reports := by
  rcases commit_cases (baselineBody svc input.reads input.amb input.op) t with
    ⟨result, u, hok, hc⟩ | ⟨error, -, hc⟩
  · simp only [Machine.next, baselineMachine, hc]
    exact (effect_of_body hok).reports_eq (unpublished_of_body h hok)
  · simp only [Machine.next, baselineMachine, hc]

/-- The report that a publication builds carries the error of the report that it has seen. -/
theorem controllerError_of_seen {snapshot : BaselineResourceSnapshot}
    {observation : Option BaselineCommandObservation} (hreport : view.report = some report)
    (herror : .controllerError ∈ report.proofGaps) :
    .controllerError ∈
      (builtReport svc cleanup snapshot view observation controllerError now).proofGaps := by
  have herred : erred controllerError view = true := by
    unfold erred
    rw [hreport, Option.any_some, decide_eq_true herror, Bool.or_true]
  show _ ∈ proofGaps observation (cleanupComplete snapshot) (erred controllerError view)
  unfold proofGaps
  rw [herred]
  exact List.mem_append_right _ (List.mem_singleton.mpr rfl)

/-- A publication that tracks the store publishes a report that carries the error of its
predecessor: at the revision of its snapshot, the report that it has seen is the current one. -/
theorem errorsCarried_publish {snapshot : BaselineResourceSnapshot}
    {observation : Option BaselineCommandObservation}
    (hview : ViewTracks t cleanup.owner.baselineId snapshot.execution view) (hI : ErrorsCarried t) :
    ErrorsCarried ((baselineMachine svc).next t ⟨.publishBaselineReport cleanup
      snapshot.execution.revision
      (builtReport svc cleanup snapshot view observation controllerError now), reads, amb⟩) := by
  rcases commit_cases (baselineBody svc reads amb (.publishBaselineReport cleanup
      snapshot.execution.revision
      (builtReport svc cleanup snapshot view observation controllerError now))) t with
    ⟨result, u, hok, hc⟩ | ⟨error, -, hc⟩
  · simp only [Machine.next, baselineMachine, hc]
    obtain ⟨reference, hbody, rfl⟩ := Transaction.map_ok.mp hok
    obtain ⟨current, hread, hrevision, hinsert⟩ := publishBaselineReport_insert hbody
    refine hI.insert hinsert fun sha256 hsha => ?_
    have hcurrent := hview.current.current (executionOf_of_validateCleanup hread)
    have hle := hview.follows.revision
    have hle' := hcurrent.revision
    have hsame : view.execution = snapshot.execution := hview.follows.same (by omega)
    have hseen : view.execution.currentReportSha256 = some sha256 := by
      rw [hsame]
      exact hsha
    obtain ⟨report, hreport, hstored⟩ := hview.report sha256 hseen
    exact ⟨report, hstored, controllerError_of_seen hreport⟩
  · simp only [Machine.next, baselineMachine, hc]
    exact hI

theorem advance_tables (svc : BaselineServices) (t : BaselineTables) (now : Timestamp)
    (reads : BaselineReads) (amb : Ambient) (publication : Publication) :
    (advance svc t now reads amb publication).1 = t
      ∨ ∃ input, (advance svc t now reads amb publication).1 = (baselineMachine svc).next t input
    := by
  unfold advance
  cases publication.stage with
  | started | validated snapshot | viewed snapshot view => exact .inl rfl
  | observed => exact .inr ⟨_, rfl⟩
  | ended => exact .inl rfl

theorem advance_follows (svc : BaselineServices) (t : BaselineTables) (now : Timestamp)
    (reads : BaselineReads) (amb : Ambient) (publication : Publication) :
    Follows t (advance svc t now reads amb publication).1 := by
  rcases advance_tables svc t now reads amb publication with h | ⟨input, h⟩
  · rw [h]
    exact .refl t
  · rw [h]
    exact follows_step svc t input

theorem advance_tracks (htracks : publication.Tracks t) :
    { publication with stage := (advance svc t now reads amb publication).2 : Publication }.Tracks
      (advance svc t now reads amb publication).1 := by
  unfold Publication.Tracks at htracks
  unfold advance
  cases hstage : publication.stage with
  | started =>
      dsimp only
      cases hread : validateCleanup svc t publication.cleanup with
      | error error => exact trivial
      | ok =>
          have hexecution := executionOf_of_validateCleanup hread
          exact ⟨hasIdentity_of_executionOf hexecution, readBefore_of_executionOf hexecution⟩
  | validated snapshot =>
      rw [hstage] at htracks
      dsimp only
      cases hread : shown svc t publication.cleanup.owner.baselineId with
      | error error => exact trivial
      | ok =>
          obtain ⟨hexecution, observation, hreport⟩ := shown_ok htracks.1 hread
          exact {
            follows := htracks.2.current hexecution
            current := readBefore_of_executionOf hexecution
            report := fun _ hsha => reportOf_ok hreport hsha : ViewTracks .. }
  | viewed snapshot view =>
      rw [hstage] at htracks
      dsimp only
      cases hread : observationOf svc t publication.cleanup.owner.baselineId with
      | error error => exact trivial
      | ok => exact htracks
  | observed snapshot view observation | ended => exact trivial

theorem advance_errorsCarried (htracks : publication.Tracks t) (hI : ErrorsCarried t) :
    ErrorsCarried (advance svc t now reads amb publication).1 := by
  unfold Publication.Tracks at htracks
  unfold advance
  cases hstage : publication.stage with
  | started | validated snapshot | viewed snapshot view => exact hI
  | observed =>
      rw [hstage] at htracks
      exact errorsCarried_publish htracks hI
  | ended => exact hI

/-! ### Runs of the service -/

theorem service_tables (svc : BaselineServices) (s : BaselineSystem) (input : ServiceInput) :
    ((serviceMachine svc).next s input).tables = s.tables
      ∨ ∃ stored, ((serviceMachine svc).next s input).tables
        = (baselineMachine svc).next s.tables stored := by
  cases input with
  | transact stored => exact .inr ⟨stored, rfl⟩
  | publish => exact .inl rfl
  | proceed index now reads amb =>
      cases hfound : s.publications[index]? with
      | none =>
          refine .inl ?_
          simp only [Machine.next, serviceMachine, hfound]
      | some publication =>
          simp only [Machine.next, serviceMachine, hfound]
          exact advance_tables svc s.tables now reads amb publication

theorem service_invariant {I : BaselineTables → Prop} (h : (baselineMachine svc).Invariant I) :
    (serviceMachine svc).Invariant fun s => I s.tables := by
  intro s input hI
  rcases service_tables svc s input with hsame | ⟨stored, hnext⟩
  · rw [hsame]
    exact hI
  · rw [hnext]
    exact h s.tables stored hI

theorem service_follows (svc : BaselineServices) (s : BaselineSystem)
    (inputs : List ServiceInput) : Follows s.tables ((serviceMachine svc).run s inputs).tables := by
  have hinv : (serviceMachine svc).Invariant fun _ => True := fun _ _ _ => trivial
  refine Machine.run_rel (R := fun s s' => Follows s.tables s'.tables) hinv
    (fun s => Follows.refl s.tables) (fun _ _ _ => Follows.trans) (fun s input _ => ?_) trivial
    inputs
  rcases service_tables svc s input with hsame | ⟨stored, hnext⟩
  · rw [hsame]
    exact .refl s.tables
  · rw [hnext]
    exact follows_step svc s.tables stored

/-- What holds of the store and the publications under way. -/
structure ServiceHolds (s : BaselineSystem) : Prop where
  errors : ErrorsCarried s.tables
  publications : ∀ publication ∈ s.publications, publication.Tracks s.tables

theorem serviceHolds_invariant (svc : BaselineServices) :
    (serviceMachine svc).Invariant ServiceHolds := by
  intro s input hI
  cases input with
  | transact stored unpublished =>
      refine ⟨hI.errors.same (reports_of_unpublished unpublished), fun publication hmem => ?_⟩
      exact (follows_step svc s.tables stored).tracks (hI.publications publication hmem)
  | publish cleanup controllerError =>
      refine ⟨hI.errors, fun publication hmem => ?_⟩
      rcases List.mem_append.mp hmem with hold | hnew
      · exact hI.publications publication hold
      · rw [List.mem_singleton.mp hnew]
        exact trivial
  | proceed index now reads amb =>
      cases hfound : s.publications[index]? with
      | none =>
          simp only [Machine.next, serviceMachine, hfound]
          exact hI
      | some publication =>
          simp only [Machine.next, serviceMachine, hfound]
          have htracks := hI.publications publication (List.mem_of_getElem? hfound)
          refine ⟨advance_errorsCarried htracks hI.errors, fun other hmem => ?_⟩
          rcases List.mem_or_eq_of_mem_set hmem with hold | rfl
          · exact (advance_follows svc s.tables now reads amb publication).tracks
              (hI.publications other hold)
          · exact advance_tracks htracks

/-- What the store itself keeps true of reports and leases. -/
structure StoreHolds (svc : BaselineServices) (t : BaselineTables) : Prop where
  fences : FencesHold t
  reports : ReportsSound svc t
  ordered : ReleasedInOrder t
  found : FoundBeforeRelease svc t

theorem storeHolds_invariant (svc : BaselineServices) :
    (baselineMachine svc).Invariant (StoreHolds svc) :=
  invariant_of_effect fun _ _ _ h hI => {
    fences := fencesHold_effect h hI.fences
    reports := reportsSound_effect h hI.fences hI.reports
    ordered := releasedInOrder_effect h hI.fences hI.ordered
    found := foundBeforeRelease_effect h hI.found }

theorem storeHolds_empty (svc : BaselineServices) : StoreHolds svc .empty where
  fences := fencesHold_empty
  reports row h := absurd h (Table.not_mem_empty row)
  ordered := releasedInOrder_empty
  found lease h := absurd h (Table.not_mem_empty lease)

/-! ### Report soundness -/

/-- What stands behind a report that says `observed`: its one observation, leases that are all
released, and predecessors without an error of a controller. -/
structure ObservedSoundly (svc : BaselineServices) (t : BaselineTables) (report : BaselineReport) :
    Prop where
  observation : ∃ row ∈ t.observations, ObservedBy svc report row.value
    ∧ ∀ other ∈ t.observations, other.value.baselineId = report.baselineId → other = row
  released : ∀ lease ∈ t.leases, lease.owner.baselineId = report.baselineId →
    lease.status = .released
  predecessors : ∀ ancestor, Relation.TransGen (Succeeds t) report ancestor →
    .controllerError ∉ ancestor.proofGaps

theorem observedSoundly (hstore : StoreHolds svc t) (herrors : ErrorsCarried t)
    (hrow : row ∈ t.reports) (hstatus : row.value.status = .observed) :
    ObservedSoundly svc t row.value where
  observation := by
    obtain ⟨observed, hobserved, hby⟩ := (hstore.reports row hrow).observed hstatus
    refine ⟨observed, hobserved, hby, fun other hother hid => ?_⟩
    exact Table.eq_of_clash hother hobserved (observation_key _ _ _ hid hby.baselineId)
  released :=
    (hstore.reports row hrow).complete ((hstore.reports row hrow).consistent hstatus).1
  predecessors ancestor hchain herror := by
    have hcarried := herrors.chain ⟨row, hrow, rfl⟩ hchain herror
    rw [((hstore.reports row hrow).consistent hstatus).2] at hcarried
    exact absurd hcarried List.not_mem_nil

/-- In every state that the service reaches: a report that says `observed` has a conclusive
observation of the approved source, released leases and no predecessor with an error of a
controller; every predecessor is stored; leases are released in the order of their tiers, a
released lease never changes, and the lease of a command whose resource may exist without a handle
is released only with a receipt that found it. -/
theorem report_soundness (svc : BaselineServices) (before after : List ServiceInput) :
    let s := (serviceMachine svc).run .empty before
    let s' := (serviceMachine svc).run s after
    (∀ row ∈ s.tables.reports, row.value.status = .observed →
      ObservedSoundly svc s.tables row.value)
      ∧ (∀ row ∈ s.tables.reports, ∀ sha256, row.value.predecessorReportSha256 = some sha256 →
        ∃ predecessor, ⟨sha256, predecessor⟩ ∈ s.tables.reports)
      ∧ ReleasedInOrder s.tables
      ∧ (∀ lease ∈ s.tables.leases, lease.status = .released → lease ∈ s'.tables.leases)
      ∧ FoundBeforeRelease svc s.tables := by
  intro s s'
  have hstore : StoreHolds svc s.tables :=
    (service_invariant (storeHolds_invariant svc)).run (storeHolds_empty svc) before
  have hservice : ServiceHolds s := by
    refine (serviceHolds_invariant svc).run ⟨?_, ?_⟩ before
    · exact fun row h => absurd h (Table.not_mem_empty row)
    · exact fun publication h => absurd h List.not_mem_nil
  refine ⟨fun row hrow => observedSoundly hstore hservice.errors hrow, fun row hrow sha256 hsha =>
    ?_, hstore.ordered, fun lease hlease hreleased => ?_, hstore.found⟩
  · obtain ⟨predecessor, hstored, -⟩ := hservice.errors row hrow sha256 hsha
    exact ⟨predecessor, hstored⟩
  · obtain ⟨later, hlater, hfollows⟩ := (service_follows svc s after).leases lease hlease
    rw [hfollows.released hreleased] at hlater
    exact hlater

end AgentFleet.Baseline
