import AgentFleet.Baseline.Operations
import AgentFleet.Baseline.Reads

/-! # What the transactions of the baseline store do

`Effect svc t result t'` lists what a transaction that returns `result` may have made of the
tables `t`, with what its guards have established; `effect_of_body` says that it did one of these.

* `Active` is what `_require_claim` establishes, and `Bumps` the write of the next revision of an
  execution.
* `PayloadStep` is the progress of a lease before its cleanup: it is activated, or its creation is
  dispatched. -/

namespace AgentFleet.Baseline

open Relational Transaction Transition

variable {svc : BaselineServices} {reads : BaselineReads} {amb : Ambient} {t t' : BaselineTables}

/-! ### Writes -/

variable {limit expectedRevision : ℕ} {u : Unit} {claim : BaselineOwnerClaim}
  {execution : BaselineExecution} {reviewId leaseId : String} {reviewSha256 : Sha256}
  {lease : BaselineResourceLease} {payload : BaselineResourcePayload} {resource : BaselineResource}
  {expected : BaselineResourceSnapshot} {cleanupClaim : BaselineCleanupClaim}

theorem insertRow_ok {α β : Type} [BaselineModel α] [Constrained β]
    {table : BaselineTables → Table β} {put : BaselineTables → Table β → BaselineTables}
    {value : α} {row : β} :
    insertRow svc limit table put value row t = .ok (u, t')
      ↔ svc.encodable value = true ∧ svc.fits limit value = true
        ∧ ∃ rows, (table t).insert row = some rows ∧ put t rows = t' := by
  unfold insertRow
  rw [refuseIf_bind_ok, refuseIf_bind_ok, get_bind_ok, expect_bind_ok, Bool.not_eq_false,
    Bool.not_eq_false]
  simp only [set_ok]

theorem updateRow_ok {α : Type} [BaselineModel α] [Constrained α] [DecidableEq α]
    {identity : α → String × String × ℕ} {table : BaselineTables → Table α}
    {put : BaselineTables → Table α → BaselineTables} {original replacement : α}
    (h : updateRow svc limit identity table put original replacement t = .ok (u, t')) :
    svc.encodable replacement = true
      ∧ ∃ rows, (table t).replace? original replacement = some rows ∧ put t rows = t' := by
  unfold updateRow at h
  rw [refuseIf_bind_ok, refuseIf_bind_ok, refuseIf_bind_ok, get_bind_ok, expect_bind_ok] at h
  obtain ⟨-, hencodable, -, rows, hrows, h⟩ := h
  push Not at hencodable
  rw [Bool.ne_false_iff] at hencodable
  exact ⟨hencodable.1, rows, hrows, set_ok.mp h⟩

/-- The next revision of an execution was written. -/
structure Bumps (svc : BaselineServices) (before : Table BaselineExecution)
    (original next : BaselineExecution) (after : Table BaselineExecution) : Prop where
  encodable : svc.encodable next = true
  replaced : before.replace? original next = some after

theorem bump_ok {k : ℕ} {original next : BaselineExecution}
    {changes : BaselineExecution → BaselineExecution}
    (h : bump svc amb k original changes t = .ok (next, t')) :
    next = changes (bumped (amb.clock k) original)
      ∧ ∃ executions, Bumps svc t.executions original next executions ∧ { t with executions } = t' := by
  unfold bump at h
  obtain ⟨_, u, hupdate, h⟩ := bind_ok.mp h
  obtain ⟨rfl, rfl⟩ := pure_ok.mp h
  obtain ⟨hencodable, executions, hrows, rfl⟩ := updateRow_ok hupdate
  exact ⟨rfl, executions, ⟨hencodable, hrows⟩, rfl⟩

/-! ### Guards -/

/-- What `_require_claim` establishes of an active claim. -/
structure Active (svc : BaselineServices) (t : BaselineTables) (claim : BaselineOwnerClaim)
    (execution : BaselineExecution) : Prop where
  owned : ownerOf svc t execution.baselineId = .ok claim
  current : executionOf svc t execution.baselineId = .ok execution
  running : execution.status = .owned ∨ execution.status = .executing
  baselineId : claim.owner.baselineId = execution.baselineId
  encodable : svc.encodable claim = true

theorem requireClaim_ok (h : requireClaim svc reads t claim = .ok execution) :
    Active svc t claim execution := by
  unfold requireClaim at h
  rw [Checks.refuse_bind_ok, Checks.bind_ok] at h
  obtain ⟨hencodable, owner, howner, h⟩ := h
  rw [Checks.refuse_bind_ok, Checks.bind_ok, not_ne_iff] at h
  obtain ⟨rfl, found, hfound, h⟩ := h
  rw [Checks.refuse_bind_ok, Checks.return_ok] at h
  obtain ⟨hactive, rfl⟩ := h
  have hid : found.baselineId = owner.owner.baselineId := (executionOf_ok.mp hfound).2.1
  refine ⟨?_, ?_, ?_, hid.symm, by simpa using hencodable⟩
  · rw [hid]
    exact howner
  · rw [hid]
    exact hfound
  · by_contra hnot
    push Not at hnot
    exact hactive (.inl hnot)

/-- The progress of a lease before its cleanup. -/
inductive PayloadStep (svc : BaselineServices) (review : BaselineReview) :
    BaselineResourcePayload → BaselineLeaseStatus → BaselineResourcePayload →
      (BaselineResourceLease → BaselineResult) → Prop where
  | workspace (held : BaselineWorkspace) :
      PayloadStep svc review (.workspace held) .active (.workspace (materialized held)) .activated
  | sandbox (payload : BaselineSandboxPayload) {handle : BaselineSandboxHandle}
      (h : baselineSandboxHandle svc.toBaselineModels payload.spec payload.sandboxId review
        = some handle) :
      PayloadStep svc review (.sandbox payload) .active
        (.sandbox { payload with handle := some handle }) .activated
  | mark (payload : BaselineCommandPayload) (h : payload.creationDispatched = false) :
      PayloadStep svc review (.execution payload) .creating
        (.execution { payload with creationDispatched := true }) .creationDispatched
  | execute (payload : BaselineCommandPayload) (handle : BaselineExecutionHandle)
      (hdispatched : payload.creationDispatched = true) (hnone : payload.handle = none) :
      PayloadStep svc review (.execution payload) .active
        (.execution { payload with handle := some handle }) .executionActivated

/-! ### Effects -/

/-- What a revocation makes of the authorizations: the one of the baseline is revoked. -/
inductive RevokesAuthorization (svc : BaselineServices) (t : BaselineTables)
    (baselineId : String) : Table BaselineAuthorization → Prop where
  | none (h : ∀ authorization ∈ t.authorizations, authorization.baselineId ≠ baselineId) :
      RevokesAuthorization svc t baselineId t.authorizations
  | some {authorization : BaselineAuthorization} {now : Timestamp}
      {authorizations : Table BaselineAuthorization}
      (hbaseline : authorization.baselineId = baselineId)
      (havailable : authorization.status = .available)
      (hvalid : svc.encodable (revokedAuthorization authorization now) = true)
      (hreplace : t.authorizations.replace? authorization (revokedAuthorization authorization now)
        = some authorizations) :
      RevokesAuthorization svc t baselineId authorizations

/-- What a transaction with a result does to the tables. -/
inductive Effect (svc : BaselineServices) (t : BaselineTables) :
    BaselineResult → BaselineTables → Prop where
  | authorizedAgain (authorization : BaselineAuthorization) :
      Effect svc t (.authorized authorization) t
  | revokedAgain (execution : BaselineExecution) : Effect svc t (.revoked execution) t
  | observedAgain {claim : BaselineOwnerClaim} {execution : BaselineExecution}
      {reference : BaselineObservationRef} (hactive : Active svc t claim execution)
      (hbaseline : reference.baselineId = execution.baselineId) :
      Effect svc t (.observed reference) t
  | created {review : BaselineReview} {now : Timestamp} {executions : Table BaselineExecution}
      {reviews : Table BaselineReview}
      (hexecution : svc.encodable (plannedExecution svc review now) = true)
      (hexecutions : t.executions.insert (plannedExecution svc review now) = some executions)
      (hreview : svc.encodable review = true)
      (hreviews : t.reviews.insert review = some reviews) :
      Effect svc t (.created (plannedExecution svc review now)) { t with executions, reviews }
  | authorized {review : BaselineReview} {execution : BaselineExecution}
      {authorizationId : String} {now : Timestamp} {authorizations : Table BaselineAuthorization}
      (hreview : reviewOf svc t review.reviewId = .ok review)
      (hexecution : executionOf svc t review.baselineId = .ok execution)
      (hplanned : execution.status = .planned)
      (hvalid : svc.encodable (newAuthorization svc review authorizationId now) = true)
      (hinsert : t.authorizations.insert (newAuthorization svc review authorizationId now)
        = some authorizations) :
      Effect svc t (.authorized (newAuthorization svc review authorizationId now))
        { t with authorizations }
  | revoked {review : BaselineReview} {execution next : BaselineExecution} {now : Timestamp}
      {authorizations : Table BaselineAuthorization} {executions : Table BaselineExecution}
      (hreview : reviewOf svc t review.reviewId = .ok review)
      (hexecution : executionOf svc t review.baselineId = .ok execution)
      (hplanned : execution.status = .planned)
      (hauthorizations : RevokesAuthorization svc t review.baselineId authorizations)
      (hnext : next = { bumped now execution with status := .revoked })
      (hbump : Bumps svc t.executions execution next executions) :
      Effect svc t (.revoked next) { t with authorizations, executions }
  | claimed {review : BaselineReview} {execution next : BaselineExecution}
      {authorization : BaselineAuthorization} {claimId : String} {pid : ℕ} {now later : Timestamp}
      {authorizations : Table BaselineAuthorization} {ownerClaims : Table BaselineOwnerClaim}
      {executions : Table BaselineExecution}
      (hreview : reviewOf svc t review.reviewId = .ok review)
      (hexecution : executionOf svc t review.baselineId = .ok execution)
      (hplanned : execution.status = .planned)
      (hbaseline : authorization.baselineId = review.baselineId)
      (hreviewId : authorization.reviewId = review.reviewId)
      (hreviewSha256 : authorization.reviewSha256 = svc.digestOf review)
      (havailable : authorization.status = .available)
      (hconsumed : svc.encodable (consumedAuthorization authorization now) = true)
      (hauthorizations : t.authorizations.replace? authorization
        (consumedAuthorization authorization now) = some authorizations)
      (hclaim : svc.encodable
        (newOwnerClaim svc review claimId authorization.authorizationId pid now) = true)
      (hclaims : t.ownerClaims.insert
        (newOwnerClaim svc review claimId authorization.authorizationId pid now)
        = some ownerClaims)
      (hnext : next =
        { bumped later execution with status := .owned, ownerClaimId := some claimId })
      (hbump : Bumps svc t.executions execution next executions) :
      Effect svc t
        (.claimed (newOwnerClaim svc review claimId authorization.authorizationId pid now))
        { t with authorizations, ownerClaims, executions }
  | reserved {claim : BaselineOwnerClaim} {lease : BaselineResourceLease}
      {execution : BaselineExecution} {review : BaselineReview}
      {snapshot : BaselineResourceSnapshot} {now : Timestamp}
      {leases : Table BaselineResourceLease} {executions : Table BaselineExecution}
      (hactive : Active svc t claim execution)
      (hreview : reviewOf svc t execution.reviewId = .ok review)
      (hsnapshot : resourceSnapshot svc t execution.baselineId = .ok snapshot)
      (howner : lease.owner = claim.owner) (hcreating : lease.status = .creating)
      (hkind : lease.kind ∉ snapshot.leases.map BaselineResourceLease.kind)
      (hfits : reservationFits svc review snapshot.leases lease.payload)
      (hvalid : svc.encodable lease = true) (hinsert : t.leases.insert lease = some leases)
      (hbump : Bumps svc t.executions execution (bumped now execution) executions) :
      Effect svc t (.reserved lease) { t with leases, executions }
  | progressed {claim : BaselineOwnerClaim} {lease : BaselineResourceLease}
      {execution : BaselineExecution} {review : BaselineReview} {status : BaselineLeaseStatus}
      {old payload : BaselineResourcePayload} {result : BaselineResourceLease → BaselineResult}
      {now later : Timestamp} {leases : Table BaselineResourceLease}
      {executions : Table BaselineExecution}
      (hactive : Active svc t claim execution)
      (hreview : reviewOf svc t execution.reviewId = .ok review) (hlease : lease ∈ t.leases)
      (howner : lease.owner = claim.owner) (hcreating : lease.status = .creating)
      (hold : lease.payload = old) (hstep : PayloadStep svc review old status payload result)
      (hvalid : svc.encodable (progressed now lease status payload) = true)
      (hreplace : t.leases.replace? lease (progressed now lease status payload) = some leases)
      (hbump : Bumps svc t.executions execution (bumped later execution) executions) :
      Effect svc t (result (progressed now lease status payload)) { t with leases, executions }
  | dispatched {claim : BaselineOwnerClaim} {lease : BaselineResourceLease}
      {execution next : BaselineExecution} {review : BaselineReview}
      {snapshot : BaselineResourceSnapshot} {payload : BaselineCommandPayload}
      {request : BaselineExecRequest} {now later : Timestamp}
      {leases : Table BaselineResourceLease} {dispatchClaims : Table BaselineDispatchClaim}
      {executions : Table BaselineExecution}
      (hactive : Active svc t claim execution)
      (hreview : reviewOf svc t execution.reviewId = .ok review)
      (hsnapshot : resourceSnapshot svc t execution.baselineId = .ok snapshot)
      (hundispatched : snapshot.dispatch = none)
      (hready : ∀ item ∈ snapshot.leases, item.status = .active)
      (howner : lease.owner = claim.owner) (hcreating : lease.status = .creating)
      (hpayload : lease.payload = .execution payload)
      (hfits : dispatchFits review claim request snapshot.leases payload)
      (hlease : svc.encodable lease = true) (hleases : t.leases.insert lease = some leases)
      (hclaim : svc.encodable (newDispatchClaim svc claim snapshot lease.leaseId payload now)
        = true)
      (hclaims : t.dispatchClaims.insert
        (newDispatchClaim svc claim snapshot lease.leaseId payload now) = some dispatchClaims)
      (hnext : next = { bumped later execution with status := .executing })
      (hbump : Bumps svc t.executions execution next executions) :
      Effect svc t (.dispatched (newDispatchClaim svc claim snapshot lease.leaseId payload now))
        { t with leases, dispatchClaims, executions }
  | observed {claim : BaselineOwnerClaim} {observation : BaselineCommandObservation}
      {execution : BaselineExecution} {now : Timestamp}
      {observations : Table (Digested BaselineCommandObservation)}
      {executions : Table BaselineExecution}
      (hactive : Active svc t claim execution)
      (hbaseline : observation.baselineId = execution.baselineId)
      (hvalid : svc.encodable observation = true)
      (hinsert : t.observations.insert ⟨svc.digestOf observation, observation⟩
        = some observations)
      (hread : ∃ read, observationOf svc { t with observations } observation.baselineId = .ok read)
      (hbump : Bumps svc t.executions execution (bumped now execution) executions) :
      Effect svc t (.observed (observationRef svc observation))
        { t with observations, executions }
  | cleanupClaimed {expected : BaselineResourceSnapshot} {claimId : String}
      {reason : BaselineCleanupReason} {now later : Timestamp} {next : BaselineExecution}
      {events : Table BaselineEvent} {executions : Table BaselineExecution}
      (hsnapshot : resourceSnapshot svc t expected.execution.baselineId = .ok expected)
      (hvalid : svc.encodable (newCleanupClaim svc expected claimId reason now) = true)
      (hinsert : t.events.insert (newEvent svc (newCleanupClaim svc expected claimId reason now)
        (t.nextSequence expected.execution.baselineId)) = some events)
      (hnext : next = { bumped later expected.execution with status := .cleaning })
      (hbump : Bumps svc t.executions expected.execution next executions) :
      Effect svc t (.cleanupClaimed (newCleanupClaim svc expected claimId reason now))
        { t with events, executions }
  | finalized {claim : BaselineCleanupClaim} {current : BaselineResourceSnapshot}
      {lease : BaselineResourceLease} {receipt : BaselineCleanupReceipt} {now : Timestamp}
      {receipts : Table (Digested BaselineCleanupReceipt)} {leases : Table BaselineResourceLease}
      {executions : Table BaselineExecution}
      (hread : validateCleanup svc t claim = .ok current) (hlease : lease ∈ current.leases)
      (honly : (claim.snapshot.leases.filter fun item => item.leaseId = lease.leaseId) = [lease])
      (hunreleased : lease.status ≠ .released)
      (hordered : ∀ item ∈ current.leases, tier item.kind < tier lease.kind →
        item.status = .released)
      (hbinds : ReceiptBinds svc lease receipt claim.scopeSha256)
      (hreceipt : svc.encodable receipt = true)
      (hreceipts : t.receipts.insert ⟨svc.digestOf receipt, receipt⟩ = some receipts)
      (hvalid : svc.encodable (finalized svc lease receipt) = true)
      (hreplace : t.leases.replace? lease (finalized svc lease receipt) = some leases)
      (hbump : Bumps svc t.executions current.execution (bumped now current.execution) executions) :
      Effect svc t (.finalized (finalized svc lease receipt))
        { t with receipts, leases, executions }
  | published {claim : BaselineCleanupClaim} {snapshot : BaselineResourceSnapshot}
      {review : BaselineReview} {observation : Option BaselineCommandObservation}
      {report : BaselineReport} {expectedRevision : ℕ} {next : BaselineExecution}
      {now : Timestamp} {reports : Table (Digested BaselineReport)}
      {executions : Table BaselineExecution} {reference : BaselineReportRef}
      (hread : validateCleanup svc t claim = .ok snapshot)
      (hreview : reviewOf svc t snapshot.execution.reviewId = .ok review)
      (hobservation : observationOf svc t snapshot.execution.baselineId = .ok observation)
      (hcurrent : reportCurrent svc snapshot review observation claim expectedRevision report)
      (hfacts : validateReportFacts svc t report snapshot.execution observation = .ok ())
      (hvalid : svc.encodable report = true)
      (hinsert : t.reports.insert ⟨svc.digestOf report, report⟩ = some reports)
      (hnext : next = { bumped now snapshot.execution with
        status := report.status.execution
        currentReportSha256 := some (svc.digestOf report) })
      (hbump : Bumps svc t.executions snapshot.execution next executions) :
      Effect svc t (.published reference) { t with reports, executions }

/-! ### Reviews and authority -/

theorem createReview_ok {review : BaselineReview}
    (h : createReview svc reads amb review t = .ok (execution, t')) :
    Effect svc t (.created execution) t' := by
  unfold createReview at h
  rw [refuseIf_bind_ok, refuseIf_bind_ok, refuseIf_bind_ok] at h
  obtain ⟨-, -, -, h⟩ := h
  obtain ⟨_, u, hexecution, h⟩ := bind_ok.mp h
  obtain ⟨_, v, hreview, h⟩ := bind_ok.mp h
  obtain ⟨rfl, rfl⟩ := pure_ok.mp h
  obtain ⟨hvalid, -, executions, hexecutions, rfl⟩ := insertRow_ok.mp hexecution
  obtain ⟨hvalidReview, -, reviews, hreviews, rfl⟩ := insertRow_ok.mp hreview
  exact .created hvalid hexecutions hvalidReview hreviews

theorem authorize_ok {authorization : BaselineAuthorization}
    (h : authorize svc reads amb reviewId reviewSha256 t = .ok (authorization, t')) :
    Effect svc t (.authorized authorization) t' := by
  unfold authorize at h
  rw [reading_bind_ok] at h
  obtain ⟨review, hreview, h⟩ := h
  rw [reading_bind_ok] at h
  obtain ⟨execution, hexecution, h⟩ := h
  rw [refuseIf_bind_ok, reading_bind_ok] at h
  obtain ⟨hguard, -, -, h⟩ := h
  rw [reading_bind_ok] at h
  obtain ⟨existing, -, h⟩ := h
  push Not at hguard
  have hid : review.reviewId = reviewId := (reviewOf_ok.mp hreview).2.1
  subst hid
  cases existing with
  | some =>
      unfold authorizeReview at h
      rw [refuseIf_bind_ok] at h
      obtain ⟨rfl, rfl⟩ := pure_ok.mp h.2
      exact .authorizedAgain _
  | none =>
      unfold authorizeReview at h
      obtain ⟨_, u, hinsert, h⟩ := bind_ok.mp h
      obtain ⟨rfl, rfl⟩ := pure_ok.mp h
      obtain ⟨hvalid, -, authorizations, hrows, rfl⟩ := insertRow_ok.mp hinsert
      exact .authorized hreview hexecution hguard.2.2.2.2 hvalid hrows

theorem revokeAuthorization_ok {baselineId : String} {existing : Option BaselineAuthorization}
    (hexisting : authorizationOf svc t baselineId = .ok existing)
    (h : revokeAuthorization svc amb existing t = .ok (u, t')) :
    ∃ authorizations, RevokesAuthorization svc t baselineId authorizations
      ∧ { t with authorizations } = t' := by
  obtain ⟨-, hread⟩ := (atMostOne_ok (authorizationBaseline_key baselineId)).mp hexisting
  cases existing with
  | none =>
      obtain ⟨-, rfl⟩ := pure_ok.mp h
      refine ⟨t.authorizations, .none fun authorization hmem hid => ?_, rfl⟩
      have := (hread authorization).mpr ⟨hmem, decide_eq_true hid⟩
      cases this
  | some authorization =>
      unfold revokeAuthorization at h
      rw [refuseIf_bind_ok, not_ne_iff] at h
      obtain ⟨havailable, h⟩ := h
      obtain ⟨hvalid, authorizations, hrows, rfl⟩ := updateRow_ok h
      have hid := of_decide_eq_true ((hread authorization).mp rfl).2
      exact ⟨authorizations, .some hid havailable hvalid hrows, rfl⟩

theorem revoke_ok (h : revoke svc amb reviewId t = .ok (execution, t')) :
    Effect svc t (.revoked execution) t' := by
  unfold revoke at h
  rw [reading_bind_ok] at h
  obtain ⟨review, hreview, h⟩ := h
  rw [reading_bind_ok] at h
  obtain ⟨found, hfound, h⟩ := h
  have hid : review.reviewId = reviewId := (reviewOf_ok.mp hreview).2.1
  subst hid
  split_ifs at h with hrevoked
  · obtain ⟨rfl, rfl⟩ := pure_ok.mp h
    exact .revokedAgain _
  · rw [refuseIf_bind_ok, not_ne_iff, reading_bind_ok] at h
    obtain ⟨hplanned, existing, hexisting, h⟩ := h
    obtain ⟨_, u, hauthorization, h⟩ := bind_ok.mp h
    obtain ⟨authorizations, hrevokes, rfl⟩ := revokeAuthorization_ok hexisting hauthorization
    obtain ⟨hnext, executions, hbump, rfl⟩ := bump_ok h
    exact .revoked hreview hfound hplanned hrevokes hnext hbump

theorem claimBaseline_ok {authorizationId : String}
    (h : claimBaseline svc reads amb reviewId reviewSha256 authorizationId expectedRevision t
      = .ok (claim, t')) : Effect svc t (.claimed claim) t' := by
  unfold claimBaseline at h
  rw [reading_bind_ok] at h
  obtain ⟨review, hreview, h⟩ := h
  rw [reading_bind_ok] at h
  obtain ⟨execution, hexecution, h⟩ := h
  rw [reading_bind_ok] at h
  obtain ⟨authorization, hauthorization, h⟩ := h
  rw [refuseIf_bind_ok, reading_bind_ok] at h
  obtain ⟨hguard, -, -, h⟩ := h
  push Not at hguard
  obtain ⟨-, hplanned, -, -, -, -, hbaseline, hreviewId, hsha, havailable, -, -⟩ := hguard
  have hid : review.reviewId = reviewId := (reviewOf_ok.mp hreview).2.1
  subst hid
  have hauthorizationId : authorization.authorizationId = authorizationId :=
    of_decide_eq_true ((one_ok (authorizationId_key authorizationId)).mp hauthorization).2.1
  subst hauthorizationId
  obtain ⟨_, u, hupdate, h⟩ := bind_ok.mp h
  obtain ⟨_, v, hinsert, h⟩ := bind_ok.mp h
  obtain ⟨next, w, hnext, h⟩ := bind_ok.mp h
  obtain ⟨rfl, rfl⟩ := pure_ok.mp h
  obtain ⟨hconsumed, authorizations, hauthorizations, rfl⟩ := updateRow_ok hupdate
  obtain ⟨hclaim, -, ownerClaims, hclaims, rfl⟩ := insertRow_ok.mp hinsert
  obtain ⟨hnextEq, executions, hbump, rfl⟩ := bump_ok hnext
  exact .claimed hreview hexecution hplanned hbaseline hreviewId hsha havailable hconsumed
    hauthorizations hclaim hclaims hnextEq hbump

/-! ### Leases -/

theorem reserveBaselineLease_ok {read : BaselineResourceLease}
    (h : reserveBaselineLease svc reads amb claim lease t = .ok (read, t')) :
    Effect svc t (.reserved read) t' := by
  unfold reserveBaselineLease at h
  rw [refuseIf_bind_ok, reading_bind_ok] at h
  obtain ⟨-, execution, hactive, h⟩ := h
  rw [reading_bind_ok] at h
  obtain ⟨review, hreview, h⟩ := h
  rw [reading_bind_ok] at h
  obtain ⟨snapshot, hsnapshot, h⟩ := h
  rw [refuseIf_bind_ok] at h
  obtain ⟨hguard, h⟩ := h
  push Not at hguard
  obtain ⟨howner, hcreating, -, -, hkind, hfits⟩ := hguard
  obtain ⟨_, u, hinsert, h⟩ := bind_ok.mp h
  obtain ⟨next, v, hnext, h⟩ := bind_ok.mp h
  obtain ⟨rfl, rfl⟩ := pure_ok.mp h
  obtain ⟨hvalid, -, leases, hleases, rfl⟩ := insertRow_ok.mp hinsert
  obtain ⟨rfl, executions, hbump, rfl⟩ := bump_ok hnext
  exact .reserved (requireClaim_ok hactive) hreview hsnapshot howner hcreating hkind hfits hvalid
    hleases hbump

theorem activatedPayload_ok {review : BaselineReview} {activated : BaselineResourcePayload}
    (hreview : reviewOf svc t execution.reviewId = .ok review)
    (h : activatedPayload svc t execution payload resource = .ok activated) :
    PayloadStep svc review payload .active activated .activated := by
  cases payload with
  | workspace held =>
      cases resource with
      | workspace =>
          unfold activatedPayload at h
          rw [Checks.refuse_bind_ok, Checks.return_ok, not_ne_iff] at h
          obtain ⟨rfl, rfl⟩ := h
          exact .workspace held
      | sandbox => cases h
  | sandbox payload =>
      cases resource with
      | workspace => cases h
      | sandbox =>
          unfold activatedPayload at h
          rw [Checks.bind_ok] at h
          obtain ⟨found, hfound, h⟩ := h
          rw [Checks.refuse_bind_ok, Checks.return_ok, not_ne_iff] at h
          obtain ⟨hhandle, rfl⟩ := h
          rw [Except.ok.inj (hfound.symm.trans hreview)] at hhandle
          exact .sandbox payload hhandle
  | execution => cases resource <;> cases h

/-- The review of an active claim can be read. -/
theorem Active.review (h : Active svc t claim execution) :
    ∃ review, reviewOf svc t execution.reviewId = .ok review := by
  obtain ⟨found, review, authorization, howned⟩ := ownerOf_ok.mp h.owned
  refine ⟨review, ?_⟩
  rw [← howned.execution_eq h.current]
  exact howned.reviewed

theorem activateBaselineLease_ok {read : BaselineResourceLease}
    (h : activateBaselineLease svc reads amb claim leaseId expectedRevision resource t
      = .ok (read, t')) : Effect svc t (.activated read) t' := by
  unfold activateBaselineLease at h
  rw [reading_bind_ok] at h
  obtain ⟨execution, hactive, h⟩ := h
  rw [reading_bind_ok] at h
  obtain ⟨lease, hlease, h⟩ := h
  rw [refuseIf_bind_ok, reading_bind_ok] at h
  obtain ⟨hguard, payload, hpayload, h⟩ := h
  push Not at hguard
  obtain ⟨_, u, hupdate, h⟩ := bind_ok.mp h
  obtain ⟨next, v, hnext, h⟩ := bind_ok.mp h
  obtain ⟨rfl, rfl⟩ := pure_ok.mp h
  obtain ⟨hvalid, leases, hleases, rfl⟩ := updateRow_ok hupdate
  obtain ⟨rfl, executions, hbump, rfl⟩ := bump_ok hnext
  have hclaim := requireClaim_ok hactive
  obtain ⟨review, hreview⟩ := hclaim.review
  have hmem := ((one_ok (lease_key leaseId)).mp hlease).1
  exact .progressed hclaim hreview hmem hguard.1 hguard.2.2 rfl
    (activatedPayload_ok hreview hpayload) hvalid hleases hbump

theorem command?_ok {command : BaselineCommandPayload}
    (h : BaselineResourcePayload.command? payload = some command) :
    payload = .execution command := by
  cases payload with
  | workspace held | sandbox payload => cases h
  | execution =>
      cases h
      rfl

theorem claimBaselineDispatch_ok {expectedSnapshotSha256 : Sha256} {request : BaselineExecRequest}
    {read : BaselineDispatchClaim}
    (h : claimBaselineDispatch svc reads amb claim expectedSnapshotSha256 request lease t
      = .ok (read, t')) : Effect svc t (.dispatched read) t' := by
  unfold claimBaselineDispatch at h
  rw [reading_bind_ok] at h
  obtain ⟨execution, hactive, h⟩ := h
  rw [reading_bind_ok] at h
  obtain ⟨snapshot, hsnapshot, h⟩ := h
  rw [reading_bind_ok] at h
  obtain ⟨review, hreview, h⟩ := h
  rw [refuseIf_bind_ok, expect_bind_ok] at h
  obtain ⟨hguard, payload, hpayload, h⟩ := h
  rw [refuseIf_bind_ok, not_not] at h
  obtain ⟨hfits, h⟩ := h
  push Not at hguard
  obtain ⟨-, hundispatched, -, hready, hcreating, -, howner⟩ := hguard
  obtain ⟨_, u, hlease, h⟩ := bind_ok.mp h
  obtain ⟨_, v, hclaim, h⟩ := bind_ok.mp h
  obtain ⟨next, w, hnext, h⟩ := bind_ok.mp h
  obtain ⟨rfl, rfl⟩ := pure_ok.mp h
  obtain ⟨hvalidLease, -, leases, hleases, rfl⟩ := insertRow_ok.mp hlease
  obtain ⟨hvalidClaim, -, dispatchClaims, hclaims, rfl⟩ := insertRow_ok.mp hclaim
  obtain ⟨hnextEq, executions, hbump, rfl⟩ := bump_ok hnext
  exact .dispatched (requireClaim_ok hactive) hreview hsnapshot hundispatched hready howner
    hcreating (command?_ok hpayload) hfits hvalidLease hleases hvalidClaim hclaims hnextEq hbump

/-- What `_execution_lease` establishes. -/
structure ExecutionLease (svc : BaselineServices) (t : BaselineTables)
    (claim : BaselineOwnerClaim) (execution : BaselineExecution) (lease : BaselineResourceLease)
    (payload : BaselineCommandPayload) : Prop where
  active : Active svc t claim execution
  stored : lease ∈ t.leases
  owner : lease.owner = claim.owner
  creating : lease.status = .creating
  payload : lease.payload = .execution payload

/-- The leases of a snapshot belong to the owner of the baseline. -/
theorem owner_of_validates {models : BaselineModels} {snapshot : BaselineResourceSnapshot}
    (h : snapshot.validates models = true) (hlease : lease ∈ snapshot.leases) :
    lease.owner = snapshot.claim.owner := by
  unfold BaselineResourceSnapshot.validates at h
  simp only [Bool.and_eq_true, List.all_eq_true, decide_eq_true_eq] at h
  exact h.1.1.1.2 lease hlease

theorem executionLease_ok {revision : ℕ} {payload : BaselineCommandPayload}
    (h : executionLease svc reads t claim leaseId revision = .ok (execution, lease, payload)) :
    ExecutionLease svc t claim execution lease payload := by
  unfold executionLease at h
  rw [Checks.bind_ok] at h
  obtain ⟨current, hactive, h⟩ := h
  rw [Checks.bind_ok] at h
  obtain ⟨snapshot, hsnapshot, h⟩ := h
  rw [Checks.refuse_bind_ok, Checks.bind_ok] at h
  obtain ⟨-, found, hfound, h⟩ := h
  rw [Checks.refuse_bind_ok, Checks.bind_ok] at h
  obtain ⟨hguard, command, hcommand, h⟩ := h
  push Not at hguard
  rw [Checks.return_ok] at h
  cases h
  have hclaim := requireClaim_ok hactive
  obtain ⟨review, hreads⟩ := resourceSnapshot_ok.mp hsnapshot
  have hmem : lease ∈ snapshot.leases :=
    List.mem_of_mem_filter (List.mem_of_mem_head? (Checks.demand_ok.mp hfound))
  have hrow := hmem
  rw [← hreads.leases, mem_leaseRows] at hrow
  refine ⟨hclaim, hrow.1, ?_, hguard.2, command?_ok (Checks.demand_ok.mp hcommand)⟩
  rw [owner_of_validates hreads.valid hmem, Except.ok.inj (hreads.owned.symm.trans hclaim.owned)]

theorem markBaselineCreationDispatched_ok {read : BaselineResourceLease}
    (h : markBaselineCreationDispatched svc reads amb claim leaseId expectedRevision t
      = .ok (read, t')) : Effect svc t (.creationDispatched read) t' := by
  unfold markBaselineCreationDispatched at h
  rw [reading_bind_ok] at h
  obtain ⟨⟨execution, lease, payload⟩, hfound, h⟩ := h
  dsimp only at h
  rw [refuseIf_bind_ok, Bool.not_eq_true] at h
  obtain ⟨hundispatched, h⟩ := h
  have hlease := executionLease_ok hfound
  rw [hlease.creating] at h
  obtain ⟨_, u, hupdate, h⟩ := bind_ok.mp h
  obtain ⟨next, v, hnext, h⟩ := bind_ok.mp h
  obtain ⟨rfl, rfl⟩ := pure_ok.mp h
  obtain ⟨hvalid, leases, hleases, rfl⟩ := updateRow_ok hupdate
  obtain ⟨rfl, executions, hbump, rfl⟩ := bump_ok hnext
  obtain ⟨review, hreview⟩ := hlease.active.review
  exact .progressed hlease.active hreview hlease.stored hlease.owner hlease.creating
    hlease.payload (.mark payload hundispatched) hvalid hleases hbump

theorem activateBaselineExecution_ok {handle : BaselineExecutionHandle}
    {read : BaselineResourceLease}
    (h : activateBaselineExecution svc reads amb claim leaseId expectedRevision handle t
      = .ok (read, t')) : Effect svc t (.executionActivated read) t' := by
  unfold activateBaselineExecution at h
  rw [reading_bind_ok] at h
  obtain ⟨⟨execution, lease, payload⟩, hfound, h⟩ := h
  dsimp only at h
  rw [refuseIf_bind_ok] at h
  obtain ⟨hguard, h⟩ := h
  push Not at hguard
  have hlease := executionLease_ok hfound
  obtain ⟨_, u, hupdate, h⟩ := bind_ok.mp h
  obtain ⟨next, v, hnext, h⟩ := bind_ok.mp h
  obtain ⟨rfl, rfl⟩ := pure_ok.mp h
  obtain ⟨hvalid, leases, hleases, rfl⟩ := updateRow_ok hupdate
  obtain ⟨rfl, executions, hbump, rfl⟩ := bump_ok hnext
  obtain ⟨review, hreview⟩ := hlease.active.review
  rw [Bool.ne_false_iff] at hguard
  exact .progressed hlease.active hreview hlease.stored hlease.owner hlease.creating
    hlease.payload (.execute payload handle hguard.1 hguard.2) hvalid hleases hbump

/-! ### Observations -/

theorem recordCommandObservation_ok {observation : BaselineCommandObservation}
    {read : BaselineObservationRef}
    (h : recordCommandObservation svc reads amb claim expectedRevision observation t
      = .ok (read, t')) : Effect svc t (.observed read) t' := by
  unfold recordCommandObservation at h
  rw [refuseIf_bind_ok, reading_bind_ok] at h
  obtain ⟨-, execution, hactive, h⟩ := h
  rw [reading_bind_ok] at h
  obtain ⟨existing, hexisting, h⟩ := h
  obtain ⟨_, u, hrecord, h⟩ := bind_ok.mp h
  obtain ⟨rfl, rfl⟩ := pure_ok.mp h
  cases existing with
  | some =>
      obtain ⟨hsame, rfl⟩ := refuseIf_ok.mp hrecord
      rw [not_ne_iff] at hsame
      subst hsame
      obtain ⟨row, hrow, hid, hchecked⟩ := observationOf_some.mp hexisting
      have hclaim := requireClaim_ok hactive
      refine .observedAgain hclaim ?_
      rw [← hclaim.baselineId, ← hid, (checkedObservation_ok.mp hchecked).2.2.1]
      rfl
  | none =>
      unfold recordObservation at hrecord
      rw [refuseIf_bind_ok] at hrecord
      obtain ⟨hguard, hrecord⟩ := hrecord
      push Not at hguard
      obtain ⟨_, v, hinsert, hrecord⟩ := bind_ok.mp hrecord
      rw [reading_bind_ok] at hrecord
      obtain ⟨again, hread, hrecord⟩ := hrecord
      obtain ⟨next, w, hnext, hrecord⟩ := bind_ok.mp hrecord
      obtain ⟨-, rfl⟩ := pure_ok.mp hrecord
      obtain ⟨hvalid, -, observations, hrows, rfl⟩ := insertRow_ok.mp hinsert
      obtain ⟨rfl, executions, hbump, rfl⟩ := bump_ok hnext
      exact .observed (requireClaim_ok hactive) hguard.2 hvalid hrows ⟨again, hread⟩
        hbump

/-! ### Cleanup and reports -/

theorem fence_ok {reason : BaselineCleanupReason} {claim : BaselineCleanupClaim}
    (h : fence svc amb expected reason t = .ok (claim, t')) :
    Effect svc t (.cleanupClaimed claim) t' := by
  unfold fence at h
  rw [reading_bind_ok] at h
  obtain ⟨current, hsnapshot, h⟩ := h
  rw [refuseIf_bind_ok, not_ne_iff, get_bind_ok] at h
  obtain ⟨rfl, h⟩ := h
  obtain ⟨_, u, hinsert, h⟩ := bind_ok.mp h
  obtain ⟨next, v, hnext, h⟩ := bind_ok.mp h
  obtain ⟨rfl, rfl⟩ := pure_ok.mp h
  obtain ⟨hvalid, -, events, hevents, rfl⟩ := insertRow_ok.mp hinsert
  obtain ⟨hnextEq, executions, hbump, rfl⟩ := bump_ok hnext
  exact .cleanupClaimed hsnapshot hvalid hevents hnextEq hbump

theorem beginBaselineCleanup_ok {read : BaselineCleanupClaim}
    (h : beginBaselineCleanup svc reads amb claim expected t = .ok (read, t')) :
    Effect svc t (.cleanupClaimed read) t' := by
  unfold beginBaselineCleanup at h
  rw [reading_bind_ok] at h
  obtain ⟨-, -, h⟩ := h
  rw [refuseIf_bind_ok] at h
  exact fence_ok h.2

theorem claimBaselineCleanup_ok {stoppedOwner : BaselineStoppedOwnerReview}
    {read : BaselineCleanupClaim}
    (h : claimBaselineCleanup svc reads amb expected stoppedOwner t = .ok (read, t')) :
    Effect svc t (.cleanupClaimed read) t' := by
  unfold claimBaselineCleanup at h
  rw [refuseIf_bind_ok] at h
  exact fence_ok h.2

theorem finalizeBaselineLease_ok {receipt : BaselineCleanupReceipt} {read : BaselineResourceLease}
    (h : finalizeBaselineLease svc amb cleanupClaim leaseId expectedRevision receipt t
      = .ok (read, t')) : Effect svc t (.finalized read) t' := by
  unfold finalizeBaselineLease at h
  rw [reading_bind_ok] at h
  obtain ⟨current, hread, h⟩ := h
  rw [refuseIf_bind_ok, expect_bind_ok] at h
  obtain ⟨hfound, lease, hlease, h⟩ := h
  rw [refuseIf_bind_ok, refuseIf_bind_ok, reading_bind_ok] at h
  obtain ⟨hguard, hordered, _, hbinds, h⟩ := h
  push Not at hfound hguard hordered
  obtain ⟨_, u, hreceipt, h⟩ := bind_ok.mp h
  obtain ⟨_, v, hupdate, h⟩ := bind_ok.mp h
  obtain ⟨next, w, hnext, h⟩ := bind_ok.mp h
  obtain ⟨rfl, rfl⟩ := pure_ok.mp h
  obtain ⟨hvalidReceipt, -, receipts, hreceipts, rfl⟩ := insertRow_ok.mp hreceipt
  obtain ⟨hvalid, leases, hleases, rfl⟩ := updateRow_ok hupdate
  obtain ⟨rfl, executions, hbump, rfl⟩ := bump_ok hnext
  have hmem := List.mem_of_mem_head? hlease
  have hid := of_decide_eq_true (List.mem_filter.mp hmem).2
  subst hid
  have honly := singleton_of_head? hfound.2.1 (hfound.2.2.symm.trans hlease)
  exact .finalized hread (List.mem_of_mem_filter hmem) honly hguard.2 hordered
    (validateReceiptBinding_ok.mp hbinds) hvalidReceipt hreceipts hvalid hleases
    hbump

theorem publishBaselineReport_ok {report : BaselineReport} {read : BaselineReportRef}
    (h : publishBaselineReport svc amb cleanupClaim expectedRevision report t = .ok (read, t')) :
    Effect svc t (.published read) t' := by
  unfold publishBaselineReport at h
  rw [refuseIf_bind_ok, reading_bind_ok] at h
  obtain ⟨-, snapshot, hread, h⟩ := h
  rw [reading_bind_ok] at h
  obtain ⟨review, hreview, h⟩ := h
  rw [reading_bind_ok] at h
  obtain ⟨observation, hobservation, h⟩ := h
  rw [refuseIf_bind_ok, not_not, reading_bind_ok] at h
  obtain ⟨hcurrent, _, hfacts, h⟩ := h
  obtain ⟨_, u, hinsert, h⟩ := bind_ok.mp h
  obtain ⟨next, v, hnext, h⟩ := bind_ok.mp h
  obtain ⟨-, rfl⟩ := pure_ok.mp h
  obtain ⟨hvalid, -, reports, hreports, rfl⟩ := insertRow_ok.mp hinsert
  obtain ⟨hnextEq, executions, hbump, rfl⟩ := bump_ok hnext
  exact .published hread hreview hobservation hcurrent hfacts hvalid hreports hnextEq
    hbump

/-! ### The machine -/

/-- A committed transaction has one of the listed effects. -/
theorem effect_of_body {op : BaselineOp} {result : BaselineResult}
    (h : baselineBody svc reads amb op t = .ok (result, t')) : Effect svc t result t' := by
  cases op with
  | createReview =>
      obtain ⟨_, hbody, rfl⟩ := Transaction.map_ok.mp h
      exact createReview_ok hbody
  | authorize =>
      obtain ⟨_, hbody, rfl⟩ := Transaction.map_ok.mp h
      exact authorize_ok hbody
  | revoke =>
      obtain ⟨_, hbody, rfl⟩ := Transaction.map_ok.mp h
      exact revoke_ok hbody
  | claimBaseline =>
      obtain ⟨_, hbody, rfl⟩ := Transaction.map_ok.mp h
      exact claimBaseline_ok hbody
  | reserveBaselineLease =>
      obtain ⟨_, hbody, rfl⟩ := Transaction.map_ok.mp h
      exact reserveBaselineLease_ok hbody
  | activateBaselineLease =>
      obtain ⟨_, hbody, rfl⟩ := Transaction.map_ok.mp h
      exact activateBaselineLease_ok hbody
  | claimBaselineDispatch =>
      obtain ⟨_, hbody, rfl⟩ := Transaction.map_ok.mp h
      exact claimBaselineDispatch_ok hbody
  | markBaselineCreationDispatched =>
      obtain ⟨_, hbody, rfl⟩ := Transaction.map_ok.mp h
      exact markBaselineCreationDispatched_ok hbody
  | activateBaselineExecution =>
      obtain ⟨_, hbody, rfl⟩ := Transaction.map_ok.mp h
      exact activateBaselineExecution_ok hbody
  | recordCommandObservation =>
      obtain ⟨_, hbody, rfl⟩ := Transaction.map_ok.mp h
      exact recordCommandObservation_ok hbody
  | beginBaselineCleanup =>
      obtain ⟨_, hbody, rfl⟩ := Transaction.map_ok.mp h
      exact beginBaselineCleanup_ok hbody
  | claimBaselineCleanup =>
      obtain ⟨_, hbody, rfl⟩ := Transaction.map_ok.mp h
      exact claimBaselineCleanup_ok hbody
  | finalizeBaselineLease =>
      obtain ⟨_, hbody, rfl⟩ := Transaction.map_ok.mp h
      exact finalizeBaselineLease_ok hbody
  | publishBaselineReport =>
      obtain ⟨_, hbody, rfl⟩ := Transaction.map_ok.mp h
      exact publishBaselineReport_ok hbody

/-- A step either commits one of the listed effects and returns its result, or leaves the tables
alone and raises. -/
theorem step_cases (svc : BaselineServices) (t : BaselineTables) (input : BaselineInput) :
    (∃ result, (baselineMachine svc).out t input = .ok result
      ∧ Effect svc t result ((baselineMachine svc).next t input))
    ∨ ∃ error, (baselineMachine svc).out t input = .error error
      ∧ (baselineMachine svc).next t input = t := by
  rcases commit_cases (baselineBody svc input.reads input.amb input.op) t with
    ⟨result, u, hok, hc⟩ | ⟨error, -, hc⟩
  · refine .inl ⟨result, ?_, ?_⟩
    · simp only [Machine.out, baselineMachine, hc]
    · simp only [Machine.next, baselineMachine, hc]
      exact effect_of_body hok
  · refine .inr ⟨error, ?_, ?_⟩
    · simp only [Machine.out, baselineMachine, hc]
    · simp only [Machine.next, baselineMachine, hc]

/-- What every effect preserves is an invariant of the machine. -/
theorem invariant_of_effect {I : BaselineTables → Prop}
    (h : ∀ t result t', Effect svc t result t' → I t → I t') :
    (baselineMachine svc).Invariant I := by
  intro t input hI
  rcases step_cases svc t input with ⟨result, -, heffect⟩ | ⟨error, -, hsame⟩
  · exact h t result _ heffect hI
  · rw [hsame]
    exact hI

end AgentFleet.Baseline
