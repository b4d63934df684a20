import AgentFleet.Baseline.Rows
import Mathlib.Data.List.Perm.Subperm

/-! # The resources of a baseline stay readable

`LinksHold` ties every execution to its review, its owner and what it holds, and `ResourcesHold`
says of the leases of a baseline what `_snapshot` checks of them.  Every effect keeps both, so the
resources of an owned execution can be read in every state that keeps its receipts readable. -/

namespace AgentFleet.Baseline

open Relational Checks Transition

variable {svc : BaselineServices} {t t' : BaselineTables}

/-! ### Links between the tables -/

/-- Every execution has its review and every review its execution; an execution that names a claim
has an owner, and what is held or dispatched belongs to the owner. -/
structure LinksHold (svc : BaselineServices) (t : BaselineTables) : Prop where
  reviewed : ∀ execution ∈ t.executions, ∃ review ∈ t.reviews, Reviewed svc execution review
  owned : ∀ execution ∈ t.executions, execution.ownerClaimId ≠ none →
    ∃ claim, ownerOf svc t execution.baselineId = .ok claim
  leases : ∀ lease ∈ t.leases, ∃ claim, ownerOf svc t lease.owner.baselineId = .ok claim
    ∧ lease.owner = claim.owner
  dispatches : ∀ claim ∈ t.dispatchClaims,
    ownerOf svc t claim.owner.baselineId = .ok claim.ownerClaim

theorem linksHold_empty (svc : BaselineServices) : LinksHold svc .empty where
  reviewed row h := absurd h (Table.not_mem_empty row)
  owned row h := absurd h (Table.not_mem_empty row)
  leases row h := absurd h (Table.not_mem_empty row)
  dispatches row h := absurd h (Table.not_mem_empty row)

variable {execution : BaselineExecution} {result : BaselineResult} {claim : BaselineOwnerClaim}
  {baselineId : String} {payload : BaselineResourcePayload} {lease : BaselineResourceLease}
  {leases : List BaselineResourceLease} {held : BaselineWorkspace} {now : Timestamp}

/-- The review that is read for an execution is the one that it is about. -/
theorem LinksHold.review (h : LinksHold svc t) {review : BaselineReview}
    (hexecution : execution ∈ t.executions)
    (hreview : reviewOf svc t execution.reviewId = .ok review) : Reviewed svc execution review := by
  obtain ⟨found, hfound, hfits⟩ := h.reviewed execution hexecution
  obtain ⟨hmem, hid, -⟩ := reviewOf_ok.mp hreview
  have hsame : found = review :=
    Table.eq_of_clash hfound hmem (.inl (hfits.reviewId.symm.trans hid.symm))
  rw [← hsame]
  exact hfits

theorem LinksHold.reviewOf (h : LinksHold svc t) (hrows : RowsHold svc t)
    (hexecution : execution ∈ t.executions) :
    ∃ review, reviewOf svc t execution.reviewId = .ok review := by
  obtain ⟨review, hmem, hfits⟩ := h.reviewed execution hexecution
  refine ⟨review, reviewOf_ok.mpr ⟨hmem, hfits.reviewId.symm, hrows.reviews review hmem, execution,
    hexecution, hrows.executions execution hexecution, hfits⟩⟩

/-- Where the executions of a later state come from. -/
inductive ExecutionOrigin (svc : BaselineServices) (t t' : BaselineTables)
    (execution : BaselineExecution) : Prop where
  | kept (h : execution ∈ t.executions)
  | bumped {original : BaselineExecution} (h : original ∈ t.executions)
      (hfollows : ExecutionFollows original execution)
      (howned : execution.ownerClaimId = original.ownerClaimId
        ∨ ∃ claim, ownerOf svc t' execution.baselineId = .ok claim)
  | created {review : BaselineReview} {now : Timestamp} (h : review ∈ t'.reviews)
      (hplanned : execution = plannedExecution svc review now)

/-- The next revision of an execution with the same owner. -/
theorem Bumps.origin {execution next : BaselineExecution}
    (h : Bumps svc t.executions execution next t'.executions) {now : Timestamp}
    {status : BaselineStatus} {report : Option Sha256}
    (hnext : next = { bumped now execution with
      status := status
      currentReportSha256 := report })
    {e : BaselineExecution} (he : e ∈ t'.executions) : ExecutionOrigin svc t t' e := by
  rcases (Table.mem_replace? h.replaced).mp he with rfl | ⟨hold, -⟩
  · refine .bumped (Table.replace?_eq_some h.replaced).1 ?_ (.inl ?_)
    · rw [hnext]
      refine ⟨rfl, rfl, rfl, rfl, fun claimId hclaim => hclaim, Nat.le_succ _, fun hsame => ?_⟩
      exact absurd hsame (Nat.ne_of_lt (Nat.lt_succ_self _))
    · rw [hnext]
      rfl
  · exact .kept hold

theorem ownerOf_claimed {review : BaselineReview} {execution next : BaselineExecution}
    {authorization : BaselineAuthorization} {claimId : String} {pid : ℕ} {now later : Timestamp}
    (hlinks : LinksHold svc t) (hfollows : Follows t t') (hrows : RowsHold svc t')
    (hreview : reviewOf svc t review.reviewId = .ok review)
    (hexecution : executionOf svc t review.baselineId = .ok execution)
    (hbaseline : authorization.baselineId = review.baselineId)
    (hreviewId : authorization.reviewId = review.reviewId)
    (hsha : authorization.reviewSha256 = svc.digestOf review)
    (hconsumed : consumedAuthorization authorization now ∈ t'.authorizations)
    (hclaim : newOwnerClaim svc review claimId authorization.authorizationId pid now
      ∈ t'.ownerClaims)
    (hnext : next = { bumped later execution with status := .owned, ownerClaimId := some claimId })
    (hmem : next ∈ t'.executions) :
    ownerOf svc t' review.baselineId
      = .ok (newOwnerClaim svc review claimId authorization.authorizationId pid now) := by
  obtain ⟨hstored, hid, -⟩ := executionOf_ok.mp hexecution
  have hreviewed : execution.reviewId = review.reviewId := by
    obtain ⟨found, hfound, hfits⟩ := hlinks.reviewed execution hstored
    have hsame : found = review := Table.eq_of_clash hfound (reviewOf_ok.mp hreview).1
      (.inr (hfits.baselineId.symm.trans hid))
    rw [hfits.reviewId, hsame]
  have hnextId : next.baselineId = review.baselineId := by
    rw [hnext]
    exact hid
  have hnextReview : next.reviewId = review.reviewId := by
    rw [hnext]
    exact hreviewed
  refine ownerOf_ok.mpr ⟨next, review, consumedAuthorization authorization now, {
    execution := executionOf_ok.mpr ⟨hmem, hnextId, hrows.executions next hmem⟩
    reviewed := ?_
    authorized := hconsumed
    claimed := hclaim
    validAuthorization := hrows.authorizations _ hconsumed
    validClaim := hrows.ownerClaims _ hclaim
    ofBaseline := rfl
    ownerClaimId := ?_
    projectId := rfl
    reviewSha256 := rfl
    installationId := rfl
    authorizationId := rfl
    authorizedBaseline := hbaseline
    authorizedReview := hreviewId
    authorizedSha256 := hsha
    consumed := rfl
    consumedAt := rfl }⟩
  · rw [hnextReview]
    exact hfollows.reviewOf hrows hreview
  · rw [hnext]
    rfl

theorem Effect.origin (h : Effect svc t result t') (hlinks : LinksHold svc t)
    (hrows : RowsHold svc t') {e : BaselineExecution} (he : e ∈ t'.executions) :
    ExecutionOrigin svc t t' e := by
  have hfollows := h.follows
  cases h with
  | authorizedAgain | revokedAgain | observedAgain => exact .kept he
  | created hexecution hexecutions hreview hreviews =>
      rcases (Table.mem_insert hexecutions).mp he with hold | hnew
      · exact .kept hold
      · exact .created ((Table.mem_insert hreviews).mpr (.inr rfl)) hnew
  | authorized => exact .kept he
  | revoked hreview hexecution hplanned hauthorizations hnext hbump => exact hbump.origin hnext he
  | claimed hreview hexecution hplanned hbaseline hreviewId hsha havailable hconsumed hauthorizations hclaim hclaims hnext hbump =>
      rcases (Table.mem_replace? hbump.replaced).mp he with rfl | ⟨hold, -⟩
      · have hauthorization := (Table.mem_replace? hauthorizations).mpr (.inl rfl)
        have hnewClaim := (Table.mem_insert hclaims).mpr (.inr rfl)
        have howner := ownerOf_claimed hlinks hfollows hrows hreview hexecution hbaseline hreviewId
          hsha hauthorization hnewClaim hnext he
        have hid := (executionOf_ok.mp hexecution).2.1
        have hnextId := (congrArg BaselineExecution.baselineId hnext).trans hid
        rw [← hnextId] at howner
        refine .bumped (Table.replace?_eq_some hbump.replaced).1 ?_ (.inr ⟨_, howner⟩)
        have hnone := ownerClaimId_of_planned (executionOf_ok.mp hexecution).2.2 (.inl hplanned)
        rw [hnext]
        refine ⟨rfl, rfl, rfl, rfl, fun claimId hsome => ?_, Nat.le_succ _, fun hsame => ?_⟩
        · rw [hnone] at hsome
          cases hsome
        · exact absurd hsame (Nat.ne_of_lt (Nat.lt_succ_self _))
      · exact .kept hold
  | reserved hactive hreview hsnapshot howner hcreating hkind hfits hvalid hinsert hbump
  | progressed hactive hreview hlease howner hcreating hold hstep hvalid hreplace hbump =>
      exact hbump.origin rfl he
  | dispatched hactive hreview hsnapshot hundispatched hready howner hcreating hpayload hfits hlease hleases hclaim hclaims hnext hbump => exact hbump.origin hnext he
  | observed hactive hbaseline hvalid hinsert hread hbump => exact hbump.origin rfl he
  | cleanupClaimed hsnapshot hvalid hinsert hnext hbump => exact hbump.origin hnext he
  | finalized hread hlease honly hunreleased hordered hbinds hreceipt hreceipts hvalid hreplace hbump => exact hbump.origin rfl he
  | published hread hreview hobservation hcurrent hfacts hvalid hinsert hnext hbump =>
      exact hbump.origin hnext he

theorem Active.owner_later (hfollows : Follows t t') (hrows : RowsHold svc t')
    (h : Active svc t claim execution) : ownerOf svc t' claim.owner.baselineId = .ok claim := by
  rw [h.baselineId]
  exact hfollows.ownerOf hrows h.owned

theorem Effect.lease_owners (h : Effect svc t result t') (hrows : RowsHold svc t')
    (hlinks : LinksHold svc t) :
    ∀ lease ∈ t'.leases, ∃ claim, ownerOf svc t' lease.owner.baselineId = .ok claim
      ∧ lease.owner = claim.owner := by
  have hfollows := h.follows
  have hkept : ∀ lease ∈ t.leases, ∃ claim, ownerOf svc t' lease.owner.baselineId = .ok claim
      ∧ lease.owner = claim.owner := by
    intro lease hlease
    obtain ⟨claim, hclaim, howner⟩ := hlinks.leases lease hlease
    exact ⟨claim, hfollows.ownerOf hrows hclaim, howner⟩
  have hworked : ∀ {claim : BaselineOwnerClaim} {execution : BaselineExecution}
      {lease : BaselineResourceLease}, Active svc t claim execution → lease.owner = claim.owner →
      ∃ claim, ownerOf svc t' lease.owner.baselineId = .ok claim ∧ lease.owner = claim.owner := by
    intro claim execution lease hactive howner
    refine ⟨claim, ?_, howner⟩
    rw [howner]
    exact hactive.owner_later hfollows hrows
  intro lease hlease
  cases h with
  | reserved hactive hreview hsnapshot howner hcreating hkind hfits hvalid hinsert =>
      rcases (Table.mem_insert hinsert).mp hlease with hold | rfl
      · exact hkept lease hold
      · exact hworked hactive howner
  | progressed hactive hreview hstored howner hcreating hpayload hstep hvalid hreplace =>
      rcases (Table.mem_replace? hreplace).mp hlease with rfl | ⟨hold, -⟩
      · exact hworked hactive howner
      · exact hkept lease hold
  | dispatched hactive hreview hsnapshot hundispatched hready howner hcreating hpayload hfits hvalid hleases =>
      rcases (Table.mem_insert hleases).mp hlease with hold | rfl
      · exact hkept lease hold
      · exact hworked hactive howner
  | finalized hread hstored honly hunreleased hordered hbinds hreceipt hreceipts hvalid hreplace =>
      rcases (Table.mem_replace? hreplace).mp hlease with rfl | ⟨hold, -⟩
      · have howner := hkept _ (Table.replace?_eq_some hreplace).1
        exact howner
      · exact hkept lease hold
  | _ => exact hkept lease hlease

theorem Effect.dispatch_owners (h : Effect svc t result t') (hrows : RowsHold svc t')
    (hlinks : LinksHold svc t) :
    ∀ claim ∈ t'.dispatchClaims, ownerOf svc t' claim.owner.baselineId = .ok claim.ownerClaim := by
  have hfollows := h.follows
  intro claim hclaim
  cases h with
  | dispatched hactive hreview hsnapshot hundispatched hready howner hcreating hpayload hfits hvalid hleases hvalidClaim hclaims =>
      rcases (Table.mem_insert hclaims).mp hclaim with hold | rfl
      · exact hfollows.ownerOf hrows (hlinks.dispatches claim hold)
      · exact hactive.owner_later hfollows hrows
  | _ => exact hfollows.ownerOf hrows (hlinks.dispatches claim hclaim)

theorem linksHold_effect (h : Effect svc t result t') (hrows : RowsHold svc t')
    (hI : LinksHold svc t) : LinksHold svc t' where
  reviewed e he := by
    have hfollows := h.follows
    rcases h.origin hI hrows he with hold | ⟨hold, hnext, -⟩ | ⟨hreview, rfl⟩
    · obtain ⟨review, hmem, hfits⟩ := hI.reviewed e hold
      exact ⟨review, hfollows.reviews review hmem, hfits⟩
    · obtain ⟨review, hmem, hfits⟩ := hI.reviewed _ hold
      exact ⟨review, hfollows.reviews review hmem, {
        baselineId := hnext.baselineId.trans hfits.baselineId
        reviewId := hnext.reviewId.trans hfits.reviewId
        reviewSha256 := hnext.reviewSha256.trans hfits.reviewSha256
        projectId := hnext.projectId.trans hfits.projectId }⟩
    · exact ⟨_, hreview, rfl, rfl, rfl, rfl⟩
  owned e he howned := by
    have hfollows := h.follows
    rcases h.origin hI hrows he with hold | ⟨hold, hnext, hsame | howner⟩ | ⟨hreview, rfl⟩
    · obtain ⟨claim, hclaim⟩ := hI.owned e hold howned
      exact ⟨claim, hfollows.ownerOf hrows hclaim⟩
    · rw [hsame] at howned
      obtain ⟨claim, hclaim⟩ := hI.owned _ hold howned
      rw [hnext.baselineId]
      exact ⟨claim, hfollows.ownerOf hrows hclaim⟩
    · exact howner
    · exact absurd rfl howned
  leases := h.lease_owners hrows hI
  dispatches := h.dispatch_owners hrows hI

/-! ### What a baseline holds -/

/-- A lease of the baseline has the payload. -/
def Held (t : BaselineTables) (baselineId leaseId : String) (payload : BaselineResourcePayload) :
    Prop :=
  ∃ lease ∈ t.leases, lease.owner.baselineId = baselineId ∧ lease.leaseId = leaseId
    ∧ lease.payload = payload

/-- The dispatch claim is of the baseline. -/
def DispatchedBy (t : BaselineTables) (baselineId : String) (claim : BaselineDispatchClaim) :
    Prop :=
  claim ∈ t.dispatchClaims ∧ claim.owner.baselineId = baselineId

/-- A baseline holds one payload of a kind. -/
theorem Held.unique {leaseId leaseId' : String} {payload' : BaselineResourcePayload}
    (h : Held t baselineId leaseId payload) (h' : Held t baselineId leaseId' payload')
    (hkind : payload.kind = payload'.kind) : leaseId = leaseId' ∧ payload = payload' := by
  obtain ⟨lease, hlease, hid, rfl, rfl⟩ := h
  obtain ⟨lease', hlease', hid', rfl, rfl⟩ := h'
  have hsame : lease = lease' :=
    Table.eq_of_clash hlease hlease' (.inr ⟨hid.trans hid'.symm, hkind⟩)
  rw [hsame]
  exact ⟨rfl, rfl⟩

/-- A resource is not finished while it is created. -/
def unfinished : BaselineResourcePayload → Prop
  | .workspace held => held.materializedSourceSha256 = none
  | .sandbox payload => payload.handle = none
  | .execution payload => payload.handle = none

/-- The resources that are created are not finished. -/
def CreatingUnfinished (t : BaselineTables) : Prop :=
  ∀ lease ∈ t.leases, lease.status = .creating → unfinished lease.payload

/-- What `_snapshot` checks of the resources of a reviewed baseline, row by row. -/
structure ResourcesHold (svc : BaselineServices) (t : BaselineTables) (review : BaselineReview) :
    Prop where
  undispatched : (∃ claim, DispatchedBy t review.baselineId claim)
    ↔ ∃ leaseId payload, Held t review.baselineId leaseId (.execution payload)
  dispatched : ∀ claim, DispatchedBy t review.baselineId claim → ∀ leaseId payload,
    Held t review.baselineId leaseId (.execution payload) →
      claim.leaseId = leaseId ∧ claim.request = payload.request
        ∧ claim.sandboxSpecSha256 = payload.sandbox.sandboxSpecSha256
  workspaces : ∀ leaseId held, Held t review.baselineId leaseId (.workspace held) →
    held.baseRevision = review.baseRevision
      ∧ held.approvedSourceSha256 = review.approvedSourceSha256
  sandboxes : ∀ leaseId payload, Held t review.baselineId leaseId (.sandbox payload) →
    (∃ leaseId, Held t review.baselineId leaseId (.workspace payload.spec.workspace))
      ∧ review.sandboxPolicy.isSome = true
      ∧ sandboxPolicy svc.toBaselineModels payload.spec.sandbox = review.sandboxPolicy
  commands : ∀ leaseId payload, Held t review.baselineId leaseId (.execution payload) →
    (∃ leaseId sandbox, Held t review.baselineId leaseId (.sandbox sandbox)
      ∧ sandbox.handle = some payload.sandbox) ∧ payload.request.command = review.command
  handles : ∀ leaseId payload, Held t review.baselineId leaseId (.sandbox payload) →
    ∀ handle ∈ payload.handle,
      baselineSandboxHandle svc.toBaselineModels payload.spec payload.sandboxId review
        = some handle

/-- The resources depend on what is held and dispatched. -/
theorem ResourcesHold.congr {review : BaselineReview} (h : ResourcesHold svc t review)
    (hheld : ∀ leaseId payload,
      Held t' review.baselineId leaseId payload ↔ Held t review.baselineId leaseId payload)
    (hdispatch : ∀ claim,
      DispatchedBy t' review.baselineId claim ↔ DispatchedBy t review.baselineId claim) :
    ResourcesHold svc t' review := by
  obtain ⟨hundispatched, hdispatched, hworkspaces, hsandboxes, hcommands, hhandles⟩ := h
  constructor
  · simp only [hheld, hdispatch]
    exact hundispatched
  · simp only [hheld, hdispatch]
    exact hdispatched
  · simp only [hheld]
    exact hworkspaces
  · simp only [hheld]
    exact hsandboxes
  · simp only [hheld]
    exact hcommands
  · simp only [hheld]
    exact hhandles

/-! ### What an effect makes of the resources -/

theorem held_insert {lease : BaselineResourceLease} (h : t.leases.insert lease = some t'.leases)
    {baselineId leaseId : String} {payload : BaselineResourcePayload} :
    Held t' baselineId leaseId payload
      ↔ Held t baselineId leaseId payload
        ∨ lease.owner.baselineId = baselineId ∧ lease.leaseId = leaseId ∧ lease.payload = payload := by
  unfold Held
  simp only [Table.mem_insert h]
  constructor
  · rintro ⟨other, hother | rfl, hrest⟩
    · exact .inl ⟨other, hother, hrest⟩
    · exact .inr hrest
  · rintro (⟨other, hother, hrest⟩ | hrest)
    · exact ⟨other, .inl hother, hrest⟩
    · exact ⟨lease, .inr rfl, hrest⟩

theorem held_replace {next : BaselineResourceLease}
    (h : t.leases.replace? lease next = some t'.leases) (hid : next.leaseId = lease.leaseId)
    (howner : next.owner = lease.owner) {leaseId : String} :
    Held t' baselineId leaseId payload
      ↔ lease.owner.baselineId = baselineId ∧ lease.leaseId = leaseId ∧ next.payload = payload
        ∨ Held t baselineId leaseId payload ∧ leaseId ≠ lease.leaseId := by
  have hstored := (Table.replace?_eq_some h).1
  unfold Held
  simp only [Table.mem_replace? h]
  constructor
  · rintro ⟨other, rfl | ⟨hother, hne⟩, hbaseline, hleaseId, hpayload⟩
    · rw [howner] at hbaseline
      rw [hid] at hleaseId
      exact .inl ⟨hbaseline, hleaseId, hpayload⟩
    · refine .inr ⟨⟨other, hother, hbaseline, hleaseId, hpayload⟩, fun hsame => hne ?_⟩
      exact Table.eq_of_clash hother hstored (.inl (hleaseId.trans hsame))
  · rintro (⟨hbaseline, hleaseId, hpayload⟩ | ⟨⟨other, hother, hbaseline, hleaseId, hpayload⟩, hne⟩)
    · rw [← howner] at hbaseline
      rw [← hid] at hleaseId
      exact ⟨next, .inl rfl, hbaseline, hleaseId, hpayload⟩
    · refine ⟨other, .inr ⟨hother, fun hsame => hne ?_⟩, hbaseline, hleaseId, hpayload⟩
      rw [← hleaseId, hsame]

theorem held_of_same_payload {next : BaselineResourceLease}
    (h : t.leases.replace? lease next = some t'.leases) (hid : next.leaseId = lease.leaseId)
    (howner : next.owner = lease.owner) (hpayload : next.payload = lease.payload)
    {leaseId : String} :
    Held t' baselineId leaseId payload ↔ Held t baselineId leaseId payload := by
  have hstored := (Table.replace?_eq_some h).1
  rw [held_replace h hid howner, hpayload]
  constructor
  · rintro (⟨hbaseline, hleaseId, hsame⟩ | ⟨hheld, -⟩)
    · exact ⟨lease, hstored, hbaseline, hleaseId, hsame⟩
    · exact hheld
  · rintro ⟨other, hother, hbaseline, hleaseId, hsame⟩
    by_cases hlease : leaseId = lease.leaseId
    · have heq : other = lease := Table.eq_of_clash hother hstored (.inl (hleaseId.trans hlease))
      rw [← heq]
      exact .inl ⟨hbaseline, hleaseId, hsame⟩
    · exact .inr ⟨⟨other, hother, hbaseline, hleaseId, hsame⟩, hlease⟩

/-- What is held after a lease of the baseline has progressed: the new payload of its kind, and
what was held of the other kinds. -/
structure Progress (t t' : BaselineTables) (baselineId leaseId : String)
    (old new : BaselineResourcePayload) : Prop where
  before : Held t baselineId leaseId old
  kind : new.kind = old.kind
  same : ∀ otherId payload, payload.kind = old.kind →
    (Held t' baselineId otherId payload ↔ leaseId = otherId ∧ new = payload)
  other : ∀ otherId payload, payload.kind ≠ old.kind →
    (Held t' baselineId otherId payload ↔ Held t baselineId otherId payload)

theorem progress_of_replace {lease next : BaselineResourceLease}
    (h : t.leases.replace? lease next = some t'.leases) (hid : next.leaseId = lease.leaseId)
    (howner : next.owner = lease.owner) (hkind : next.payload.kind = lease.payload.kind) :
    Progress t t' lease.owner.baselineId lease.leaseId lease.payload next.payload := by
  have hbefore : Held t lease.owner.baselineId lease.leaseId lease.payload :=
    ⟨lease, (Table.replace?_eq_some h).1, rfl, rfl, rfl⟩
  refine ⟨hbefore, hkind, fun otherId payload hsame => ?_, fun otherId payload hne => ?_⟩
  · rw [held_replace h hid howner]
    constructor
    · rintro (⟨-, hleaseId, hpayload⟩ | ⟨hheld, hne⟩)
      · exact ⟨hleaseId, hpayload⟩
      · exact absurd (hheld.unique hbefore hsame).1 hne
    · rintro ⟨hleaseId, hpayload⟩
      exact .inl ⟨rfl, hleaseId, hpayload⟩
  · rw [held_replace h hid howner]
    constructor
    · rintro (⟨-, -, rfl⟩ | ⟨hheld, -⟩)
      · exact absurd hkind hne
      · exact hheld
    · intro hheld
      refine .inr ⟨hheld, fun hsame => hne ?_⟩
      obtain ⟨found, hfound, -, hfoundId, rfl⟩ := hheld
      have heq : found = lease := Table.eq_of_clash hfound (Table.replace?_eq_some h).1
        (.inl (hfoundId.trans hsame))
      rw [heq]

/-- The workspace of a valid sandbox is materialized. -/
theorem materialized_of_held (hrows : RowsHold svc t) {leaseId : String}
    {payload : BaselineSandboxPayload} (h : Held t baselineId leaseId (.sandbox payload)) :
    payload.spec.workspace.materializedSourceSha256
      = some payload.spec.workspace.approvedSourceSha256 := by
  obtain ⟨lease, hlease, -, -, hpayload⟩ := h
  have hvalid := hrows.leases lease hlease
  unfold BaselineServices.encodable BaselineModels.validates at hvalid
  simp only [Bool.and_eq_true, BaselineModel.record, BaselineRecord.validates,
    BaselineResourceLease.validates, hpayload, BaselineResourcePayload.validates,
    BaselineSandboxPayload.validates, BaselineSandboxSpec.validates, decide_eq_true_eq] at hvalid
  exact hvalid.1.2.1.1.1.2.1.2.1.2

theorem PayloadStep.kind {review : BaselineReview} {old new : BaselineResourcePayload}
    {status : BaselineLeaseStatus} {result : BaselineResourceLease → BaselineResult}
    (h : PayloadStep svc review old status new result) : new.kind = old.kind := by
  cases h <;> rfl

section Progress

variable {review : BaselineReview} {leaseId : String}

/-- A workspace is materialized before a sandbox is reserved in it. -/
theorem ResourcesHold.materialize (h : ResourcesHold svc t review) (hrows : RowsHold svc t)
    {held : BaselineWorkspace}
    (hprogress : Progress t t' review.baselineId leaseId (.workspace held)
      (.workspace (materialized held)))
    (hunfinished : held.materializedSourceSha256 = none)
    (hdispatch : ∀ claim,
      DispatchedBy t' review.baselineId claim ↔ DispatchedBy t review.baselineId claim) :
    ResourcesHold svc t' review := by
  have hsandbox : ∀ otherId payload, ¬ Held t review.baselineId otherId (.sandbox payload) := by
    intro otherId payload hheld
    obtain ⟨⟨workspaceId, hworkspace⟩, -⟩ := h.sandboxes otherId payload hheld
    have hsame := (hworkspace.unique hprogress.before rfl).2
    have hdone := materialized_of_held hrows hheld
    rw [BaselineResourcePayload.workspace.injEq] at hsame
    rw [hsame, hunfinished] at hdone
    cases hdone
  have hexecution : ∀ otherId payload, Held t' review.baselineId otherId (.execution payload)
      ↔ Held t review.baselineId otherId (.execution payload) := fun otherId payload =>
    hprogress.other otherId _ BaselineResourceKind.noConfusion
  have hsandbox' : ∀ otherId payload, ¬ Held t' review.baselineId otherId (.sandbox payload) := by
    intro otherId payload hheld
    exact hsandbox otherId payload
      ((hprogress.other otherId _ BaselineResourceKind.noConfusion).mp hheld)
  constructor
  · simp only [hdispatch, hexecution]
    exact h.undispatched
  · simp only [hdispatch, hexecution]
    exact h.dispatched
  · intro otherId workspace hheld
    obtain ⟨-, hsame⟩ := (hprogress.same otherId (.workspace workspace) rfl).mp hheld
    rw [BaselineResourcePayload.workspace.injEq] at hsame
    rw [← hsame]
    exact h.workspaces leaseId held hprogress.before
  · intro otherId payload hheld
    exact absurd hheld (hsandbox' otherId payload)
  · intro otherId payload hheld
    obtain ⟨⟨sandboxId, sandbox, hfound, -⟩, -⟩ :=
      h.commands otherId payload ((hexecution otherId payload).mp hheld)
    exact absurd hfound (hsandbox sandboxId sandbox)
  · intro otherId payload hheld
    exact absurd hheld (hsandbox' otherId payload)

/-- A sandbox gets its handle before a command is dispatched in it. -/
theorem ResourcesHold.prepare (h : ResourcesHold svc t review) {payload : BaselineSandboxPayload}
    {handle : BaselineSandboxHandle}
    (hprogress : Progress t t' review.baselineId leaseId (.sandbox payload)
      (.sandbox { payload with handle := some handle }))
    (hunfinished : payload.handle = none)
    (hhandle : baselineSandboxHandle svc.toBaselineModels payload.spec payload.sandboxId review
      = some handle)
    (hdispatch : ∀ claim,
      DispatchedBy t' review.baselineId claim ↔ DispatchedBy t review.baselineId claim) :
    ResourcesHold svc t' review := by
  have hexecution : ∀ otherId command, Held t' review.baselineId otherId (.execution command)
      ↔ Held t review.baselineId otherId (.execution command) := fun otherId command =>
    hprogress.other otherId _ BaselineResourceKind.noConfusion
  have hworkspace : ∀ otherId workspace, Held t' review.baselineId otherId (.workspace workspace)
      ↔ Held t review.baselineId otherId (.workspace workspace) := fun otherId workspace =>
    hprogress.other otherId _ BaselineResourceKind.noConfusion
  constructor
  · simp only [hdispatch, hexecution]
    exact h.undispatched
  · simp only [hdispatch, hexecution]
    exact h.dispatched
  · simp only [hworkspace]
    exact h.workspaces
  · intro otherId found hheld
    obtain ⟨-, hsame⟩ := (hprogress.same otherId (.sandbox found) rfl).mp hheld
    rw [BaselineResourcePayload.sandbox.injEq] at hsame
    rw [← hsame]
    obtain ⟨⟨workspaceId, hfound⟩, hpolicy⟩ := h.sandboxes leaseId payload hprogress.before
    exact ⟨⟨workspaceId, (hworkspace _ _).mpr hfound⟩, hpolicy⟩
  · intro otherId command hheld
    obtain ⟨⟨sandboxId, sandbox, hfound, hsome⟩, -⟩ :=
      h.commands otherId command ((hexecution otherId command).mp hheld)
    have hsame := (hfound.unique hprogress.before rfl).2
    rw [BaselineResourcePayload.sandbox.injEq] at hsame
    rw [hsame, hunfinished] at hsome
    cases hsome
  · intro otherId found hheld native hnative
    obtain ⟨-, hsame⟩ := (hprogress.same otherId (.sandbox found) rfl).mp hheld
    rw [BaselineResourcePayload.sandbox.injEq] at hsame
    rw [← hsame] at hnative ⊢
    cases hnative
    exact hhandle

theorem ResourcesHold.command (h : ResourcesHold svc t review)
    {payload next : BaselineCommandPayload}
    (hprogress : Progress t t' review.baselineId leaseId (.execution payload) (.execution next))
    (hrequest : next.request = payload.request) (hsandbox : next.sandbox = payload.sandbox)
    (hdispatch : ∀ claim,
      DispatchedBy t' review.baselineId claim ↔ DispatchedBy t review.baselineId claim) :
    ResourcesHold svc t' review := by
  have hworkspace : ∀ otherId workspace, Held t' review.baselineId otherId (.workspace workspace)
      ↔ Held t review.baselineId otherId (.workspace workspace) := fun otherId workspace =>
    hprogress.other otherId _ BaselineResourceKind.noConfusion
  have hother : ∀ otherId sandbox, Held t' review.baselineId otherId (.sandbox sandbox)
      ↔ Held t review.baselineId otherId (.sandbox sandbox) := fun otherId sandbox =>
    hprogress.other otherId _ BaselineResourceKind.noConfusion
  constructor
  · simp only [hdispatch]
    rw [h.undispatched]
    constructor
    · intro _
      exact ⟨leaseId, next, (hprogress.same leaseId (.execution next) rfl).mpr ⟨rfl, rfl⟩⟩
    · intro _
      exact ⟨leaseId, payload, hprogress.before⟩
  · intro claim hclaim otherId command hheld
    obtain ⟨rfl, hsame⟩ := (hprogress.same otherId (.execution command) rfl).mp hheld
    rw [BaselineResourcePayload.execution.injEq] at hsame
    rw [← hsame, hrequest, hsandbox]
    exact h.dispatched claim ((hdispatch claim).mp hclaim) leaseId payload hprogress.before
  · simp only [hworkspace]
    exact h.workspaces
  · simp only [hworkspace, hother]
    exact h.sandboxes
  · intro otherId command hheld
    obtain ⟨-, hsame⟩ := (hprogress.same otherId (.execution command) rfl).mp hheld
    rw [BaselineResourcePayload.execution.injEq] at hsame
    rw [← hsame, hrequest, hsandbox]
    obtain ⟨⟨sandboxId, sandbox, hfound, hsome⟩, hcommand⟩ :=
      h.commands leaseId payload hprogress.before
    exact ⟨⟨sandboxId, sandbox, (hother _ _).mpr hfound, hsome⟩, hcommand⟩
  · simp only [hother]
    exact h.handles

theorem ResourcesHold.progress (h : ResourcesHold svc t review) (hrows : RowsHold svc t)
    {old new : BaselineResourcePayload} {status : BaselineLeaseStatus}
    {result : BaselineResourceLease → BaselineResult}
    (hstep : PayloadStep svc review old status new result)
    (hprogress : Progress t t' review.baselineId leaseId old new) (hunfinished : unfinished old)
    (hdispatch : ∀ claim,
      DispatchedBy t' review.baselineId claim ↔ DispatchedBy t review.baselineId claim) :
    ResourcesHold svc t' review := by
  cases hstep with
  | workspace => exact h.materialize hrows hprogress hunfinished hdispatch
  | sandbox payload hhandle => exact h.prepare hprogress hunfinished hhandle hdispatch
  | mark => exact h.command hprogress rfl rfl hdispatch
  | execute => exact h.command hprogress rfl rfl hdispatch

end Progress

theorem mem_workspacesOf :
    held ∈ workspacesOf leases ↔ ∃ lease ∈ leases, lease.payload = .workspace held := by
  unfold workspacesOf
  rw [List.mem_filterMap]
  refine exists_congr fun lease => and_congr_right fun _ => ?_
  cases lease.payload <;> simp

theorem mem_sandboxesOf {payload : BaselineSandboxPayload} :
    payload ∈ sandboxesOf leases ↔ ∃ lease ∈ leases, lease.payload = .sandbox payload := by
  unfold sandboxesOf
  rw [List.mem_filterMap]
  refine exists_congr fun lease => and_congr_right fun _ => ?_
  cases lease.payload <;> simp

theorem mem_commandsOf {leaseId : String} {payload : BaselineCommandPayload} :
    (leaseId, payload) ∈ commandsOf leases
      ↔ ∃ lease ∈ leases, lease.leaseId = leaseId ∧ lease.payload = .execution payload := by
  unfold commandsOf
  rw [List.mem_filterMap]
  refine exists_congr fun lease => and_congr_right fun _ => ?_
  cases lease.payload <;> simp

theorem held_iff_leaseRows {leaseId : String} :
    Held t baselineId leaseId payload
      ↔ ∃ lease ∈ t.leaseRows baselineId, lease.leaseId = leaseId ∧ lease.payload = payload := by
  unfold Held
  refine exists_congr fun lease => ?_
  rw [mem_leaseRows, and_assoc]

theorem ResourcesHold.reserve {review : BaselineReview} (h : ResourcesHold svc t review)
    {lease : BaselineResourceLease}
    (hheld : ∀ leaseId payload, Held t' review.baselineId leaseId payload
      ↔ Held t review.baselineId leaseId payload ∨ lease.leaseId = leaseId ∧ lease.payload = payload)
    (hfits : reservationFits svc review (t.leaseRows review.baselineId) lease.payload)
    (hdispatch : ∀ claim,
      DispatchedBy t' review.baselineId claim ↔ DispatchedBy t review.baselineId claim) :
    ResourcesHold svc t' review := by
  have hexecution : ∀ otherId command, Held t' review.baselineId otherId (.execution command)
      ↔ Held t review.baselineId otherId (.execution command) := by
    intro otherId command
    rw [hheld]
    refine or_iff_left ?_
    rintro ⟨-, hpayload⟩
    rw [hpayload] at hfits
    exact hfits
  constructor
  · simp only [hdispatch, hexecution]
    exact h.undispatched
  · simp only [hdispatch, hexecution]
    exact h.dispatched
  · intro otherId workspace hworkspace
    rcases (hheld _ _).mp hworkspace with hold | ⟨-, hpayload⟩
    · exact h.workspaces otherId workspace hold
    · rw [hpayload] at hfits
      exact ⟨hfits.2.2.1, hfits.2.1⟩
  · intro otherId payload hsandbox
    rcases (hheld _ _).mp hsandbox with hold | ⟨-, hpayload⟩
    · obtain ⟨⟨workspaceId, hworkspace⟩, hpolicy⟩ := h.sandboxes otherId payload hold
      exact ⟨⟨workspaceId, (hheld _ _).mpr (.inl hworkspace)⟩, hpolicy⟩
    · rw [hpayload] at hfits
      obtain ⟨hworkspaces, hsome, hpolicy, -⟩ := hfits
      have hmem : payload.spec.workspace ∈ workspacesOf
          ((t.leaseRows review.baselineId).filter fun lease => lease.status = .active) := by
        rw [hworkspaces]
        exact List.mem_singleton.mpr rfl
      obtain ⟨found, hfound, hfoundPayload⟩ := mem_workspacesOf.mp hmem
      refine ⟨⟨found.leaseId, (hheld _ _).mpr (.inl ?_)⟩, hsome, hpolicy⟩
      exact held_iff_leaseRows.mpr ⟨found, List.mem_of_mem_filter hfound, rfl, hfoundPayload⟩
  · intro otherId command hcommand
    obtain ⟨⟨sandboxId, sandbox, hsandbox, hsome⟩, hreviewed⟩ :=
      h.commands otherId command ((hexecution _ _).mp hcommand)
    exact ⟨⟨sandboxId, sandbox, (hheld _ _).mpr (.inl hsandbox), hsome⟩, hreviewed⟩
  · intro otherId payload hsandbox handle hhandle
    rcases (hheld _ _).mp hsandbox with hold | ⟨-, hpayload⟩
    · exact h.handles otherId payload hold handle hhandle
    · rw [hpayload] at hfits
      rw [hfits.2.2.2] at hhandle
      cases hhandle

theorem ResourcesHold.dispatch {review : BaselineReview} (h : ResourcesHold svc t review)
    {lease : BaselineResourceLease} {payload : BaselineCommandPayload}
    {claim : BaselineOwnerClaim} {dispatch : BaselineDispatchClaim}
    {request : BaselineExecRequest} (hpayload : lease.payload = .execution payload)
    (hheld : ∀ leaseId payload, Held t' review.baselineId leaseId payload
      ↔ Held t review.baselineId leaseId payload ∨ lease.leaseId = leaseId ∧ lease.payload = payload)
    (hfits : dispatchFits review claim request (t.leaseRows review.baselineId) payload)
    (hnone : ∀ claim, ¬ DispatchedBy t review.baselineId claim)
    (hdispatch : ∀ claim, DispatchedBy t' review.baselineId claim ↔ claim = dispatch)
    (hleaseId : dispatch.leaseId = lease.leaseId) (hrequest : dispatch.request = payload.request)
    (hspec : dispatch.sandboxSpecSha256 = payload.sandbox.sandboxSpecSha256) :
    ResourcesHold svc t' review := by
  have hundispatched : ∀ otherId command,
      ¬ Held t review.baselineId otherId (.execution command) := by
    intro otherId command hcommand
    obtain ⟨found, hfound⟩ := h.undispatched.mpr ⟨otherId, command, hcommand⟩
    exact hnone found hfound
  have hexecution : ∀ otherId command, Held t' review.baselineId otherId (.execution command)
      ↔ lease.leaseId = otherId ∧ payload = command := by
    intro otherId command
    rw [hheld, hpayload, BaselineResourcePayload.execution.injEq]
    exact or_iff_right (hundispatched otherId command)
  have hworkspace : ∀ otherId workspace, Held t' review.baselineId otherId (.workspace workspace)
      ↔ Held t review.baselineId otherId (.workspace workspace) := by
    intro otherId workspace
    rw [hheld, hpayload]
    exact or_iff_left fun hsame => BaselineResourcePayload.noConfusion hsame.2
  have hsandbox : ∀ otherId sandbox, Held t' review.baselineId otherId (.sandbox sandbox)
      ↔ Held t review.baselineId otherId (.sandbox sandbox) := by
    intro otherId sandbox
    rw [hheld, hpayload]
    exact or_iff_left fun hsame => BaselineResourcePayload.noConfusion hsame.2
  obtain ⟨hsandboxes, -, -, hsameRequest, -, -, hcommand⟩ := hfits
  constructor
  · constructor
    · intro _
      exact ⟨lease.leaseId, payload, (hexecution _ _).mpr ⟨rfl, rfl⟩⟩
    · intro _
      exact ⟨dispatch, (hdispatch dispatch).mpr rfl⟩
  · intro found hfound otherId command hheldCommand
    obtain ⟨rfl, rfl⟩ := (hexecution _ _).mp hheldCommand
    rw [(hdispatch found).mp hfound]
    exact ⟨hleaseId, hrequest, hspec⟩
  · simp only [hworkspace]
    exact h.workspaces
  · simp only [hworkspace, hsandbox]
    exact h.sandboxes
  · intro otherId command hheldCommand
    obtain ⟨rfl, rfl⟩ := (hexecution _ _).mp hheldCommand
    have hhandle : some payload.sandbox ∈ (sandboxesOf (t.leaseRows review.baselineId)).map
        BaselineSandboxPayload.handle := by
      rw [hsandboxes]
      exact List.mem_singleton.mpr rfl
    obtain ⟨sandbox, hmem, hsome⟩ := List.mem_map.mp hhandle
    obtain ⟨found, hfound, hfoundPayload⟩ := mem_sandboxesOf.mp hmem
    refine ⟨⟨found.leaseId, sandbox, (hsandbox _ _).mpr ?_, hsome⟩, ?_⟩
    · exact held_iff_leaseRows.mpr ⟨found, hfound, rfl, hfoundPayload⟩
    · rw [hsameRequest]
      exact hcommand
  · simp only [hsandbox]
    exact h.handles

theorem resourcesHold_created {review : BaselineReview} {executions : Table BaselineExecution}
    (hlinks : LinksHold svc t)
    (hinsert : t.executions.insert (plannedExecution svc review now) = some executions)
    (hleases : t'.leases = t.leases) (hclaims : t'.dispatchClaims = t.dispatchClaims) :
    ResourcesHold svc t' review := by
  have hunknown : ∀ claim, ownerOf svc t review.baselineId ≠ .ok claim := by
    intro claim hclaim
    obtain ⟨execution, _, _, howned⟩ := ownerOf_ok.mp hclaim
    obtain ⟨hmem, hid, -⟩ := executionOf_ok.mp howned.execution
    exact Table.not_clash_of_insert hinsert hmem hid
  have hheld : ∀ leaseId payload, ¬ Held t' review.baselineId leaseId payload := by
    rintro leaseId payload ⟨lease, hlease, hid, -⟩
    rw [hleases] at hlease
    obtain ⟨claim, hclaim, -⟩ := hlinks.leases lease hlease
    rw [hid] at hclaim
    exact hunknown claim hclaim
  have hdispatch : ∀ claim, ¬ DispatchedBy t' review.baselineId claim := by
    rintro claim ⟨hclaim, hid⟩
    rw [hclaims] at hclaim
    have howner := hlinks.dispatches claim hclaim
    rw [hid] at howner
    exact hunknown _ howner
  constructor
  · constructor
    · rintro ⟨claim, hclaim⟩
      exact absurd hclaim (hdispatch claim)
    · rintro ⟨leaseId, payload, h⟩
      exact absurd h (hheld _ _)
  · exact fun claim hclaim => absurd hclaim (hdispatch claim)
  · exact fun leaseId held h => absurd h (hheld _ _)
  · exact fun leaseId payload h => absurd h (hheld _ _)
  · exact fun leaseId payload h => absurd h (hheld _ _)
  · exact fun leaseId payload h => absurd h (hheld _ _)

theorem held_insert_other (h : t.leases.insert lease = some t'.leases)
    (hother : lease.owner.baselineId ≠ baselineId) (leaseId : String)
    (payload : BaselineResourcePayload) :
    Held t' baselineId leaseId payload ↔ Held t baselineId leaseId payload := by
  rw [held_insert h]
  exact or_iff_left fun hnew => hother hnew.1

theorem held_replace_other {next : BaselineResourceLease}
    (h : t.leases.replace? lease next = some t'.leases) (hid : next.leaseId = lease.leaseId)
    (howner : next.owner = lease.owner) (hother : lease.owner.baselineId ≠ baselineId)
    (leaseId : String) (payload : BaselineResourcePayload) :
    Held t' baselineId leaseId payload ↔ Held t baselineId leaseId payload := by
  rw [held_replace h hid howner, or_iff_right fun hnew => hother hnew.1]
  refine and_iff_left_of_imp ?_
  rintro ⟨found, hfound, hbaseline, rfl, -⟩ hsame
  have heq : found = lease :=
    Table.eq_of_clash hfound (Table.replace?_eq_some h).1 (.inl hsame)
  rw [heq] at hbaseline
  exact hother hbaseline

theorem review_eq (hlinks : LinksHold svc t) {review read : BaselineReview}
    (hexecution : execution ∈ t.executions) (hread : reviewOf svc t execution.reviewId = .ok read)
    (hreview : review ∈ t.reviews) (hid : review.baselineId = execution.baselineId) :
    read = review := by
  have hreviewed := hlinks.review hexecution hread
  refine Table.eq_of_clash (reviewOf_ok.mp hread).1 hreview (.inr ?_)
  rw [hid]
  exact hreviewed.baselineId.symm

theorem resourcesHold_effect (h : Effect svc t result t') (hrows : RowsHold svc t)
    (hlinks : LinksHold svc t) (hcreating : CreatingUnfinished t)
    (hI : ∀ review ∈ t.reviews, ResourcesHold svc t review) :
    ∀ review ∈ t'.reviews, ResourcesHold svc t' review := by
  intro review hreview
  cases h with
  | created hexecution hexecutions hvalid hreviews =>
      rcases (Table.mem_insert hreviews).mp hreview with hold | rfl
      · exact (hI review hold).congr (fun _ _ => Iff.rfl) fun _ => Iff.rfl
      · exact resourcesHold_created hlinks hexecutions rfl rfl
  | @reserved claim lease execution read snapshot now leases executions hactive hread hsnapshot
      howner hstatus hkind hfits hvalid hinsert hbump =>
      have hownerId := (congrArg BaselineResourceOwner.baselineId howner).trans hactive.baselineId
      by_cases hid : review.baselineId = execution.baselineId
      · have hsame := review_eq hlinks (executionOf_ok.mp hactive.current).1 hread hreview hid
        subst hsame
        obtain ⟨_, hreads⟩ := resourceSnapshot_ok.mp hsnapshot
        rw [← hreads.leases, ← hid] at hfits
        have hheld : ∀ leaseId payload, Held { t with leases, executions } read.baselineId leaseId
            payload ↔ Held t read.baselineId leaseId payload
              ∨ lease.leaseId = leaseId ∧ lease.payload = payload := by
          intro leaseId payload
          rw [held_insert hinsert, hownerId, hid]
          exact or_congr_right (and_iff_right rfl)
        exact (hI _ hreview).reserve hheld hfits fun _ => Iff.rfl
      · refine (hI review hreview).congr (held_insert_other hinsert ?_) fun _ => Iff.rfl
        rw [hownerId]
        exact Ne.symm hid
  | @progressed claim lease execution read status old payload result now later leases executions
      hactive hread hlease howner hstatus hpayload hstep hvalid hreplace hbump =>
      have hownerId := (congrArg BaselineResourceOwner.baselineId howner).trans hactive.baselineId
      by_cases hid : review.baselineId = execution.baselineId
      · have hsame := review_eq hlinks (executionOf_ok.mp hactive.current).1 hread hreview hid
        subst hsame
        have hunfinished := hcreating lease hlease hstatus
        subst hpayload
        have hprogress := @progress_of_replace t { t with leases, executions } lease
          (progressed now lease status payload) hreplace rfl rfl hstep.kind
        rw [hownerId, ← hid] at hprogress
        exact (hI _ hreview).progress hrows hstep hprogress hunfinished fun _ => Iff.rfl
      · refine (hI review hreview).congr (held_replace_other hreplace rfl rfl ?_) fun _ => Iff.rfl
        rw [hownerId]
        exact Ne.symm hid
  | @dispatched claim lease execution next read snapshot payload request now later leases
      dispatchClaims executions hactive hread hsnapshot hundispatched hready howner hstatus hpayload
      hfits hlease hleases hclaim hclaims hnext hbump =>
      have hownerId := (congrArg BaselineResourceOwner.baselineId howner).trans hactive.baselineId
      by_cases hid : review.baselineId = execution.baselineId
      · have hsame := review_eq hlinks (executionOf_ok.mp hactive.current).1 hread hreview hid
        subst hsame
        obtain ⟨_, hreads⟩ := resourceSnapshot_ok.mp hsnapshot
        rw [← hreads.leases, ← hid] at hfits
        have hnone : ∀ found, ¬ DispatchedBy t read.baselineId found := by
          rintro found ⟨hfound, hfoundId⟩
          have hsome := (mem_of_dispatchOf hreads.dispatched found).mpr
            ⟨hfound, hfoundId.trans hid⟩
          rw [hundispatched] at hsome
          cases hsome
        have hheld : ∀ leaseId payload,
            Held { t with leases, dispatchClaims, executions } read.baselineId leaseId payload
              ↔ Held t read.baselineId leaseId payload
                ∨ lease.leaseId = leaseId ∧ lease.payload = payload := by
          intro leaseId payload
          rw [held_insert hleases, hownerId, hid]
          exact or_congr_right (and_iff_right rfl)
        have hdispatch : ∀ found,
            DispatchedBy { t with leases, dispatchClaims, executions } read.baselineId found
              ↔ found = newDispatchClaim svc claim snapshot lease.leaseId payload now := by
          intro found
          unfold DispatchedBy
          rw [Table.mem_insert hclaims]
          constructor
          · rintro ⟨hold | hnew, hfoundId⟩
            · exact absurd ⟨hold, hfoundId⟩ (hnone found)
            · exact hnew
          · rintro rfl
            exact ⟨.inr rfl, hactive.baselineId.trans hid.symm⟩
        exact (hI _ hreview).dispatch hpayload hheld hfits hnone hdispatch rfl rfl rfl
      · refine (hI review hreview).congr (held_insert_other hleases ?_) fun found => ?_
        · rw [hownerId]
          exact Ne.symm hid
        · unfold DispatchedBy
          rw [Table.mem_insert hclaims, or_and_right]
          refine or_iff_left ?_
          rintro ⟨rfl, hfoundId⟩
          exact hid (hfoundId.symm.trans hactive.baselineId)
  | @finalized claim current lease receipt now receipts leases executions hread hlease honly
      hunreleased hordered hbinds hreceipt hreceipts hvalid hreplace hbump =>
      have hleaseId : (finalized svc lease receipt).leaseId = lease.leaseId := rfl
      have howner : (finalized svc lease receipt).owner = lease.owner := rfl
      refine (hI review hreview).congr (fun leaseId payload => ?_) fun _ => Iff.rfl
      exact held_of_same_payload hreplace hleaseId howner rfl
  | _ => exact (hI review hreview).congr (fun _ _ => Iff.rfl) fun _ => Iff.rfl

theorem creatingUnfinished_effect (h : Effect svc t result t') (hI : CreatingUnfinished t) :
    CreatingUnfinished t' := by
  intro lease hlease hcreating
  cases h with
  | reserved hactive hread hsnapshot howner hstatus hkind hfits hvalid hinsert =>
      rcases (Table.mem_insert hinsert).mp hlease with hold | rfl
      · exact hI lease hold hcreating
      · cases hpayload : lease.payload with
        | workspace held | sandbox payload =>
            rw [hpayload] at hfits
            exact hfits.2.2.2
        | execution =>
            rw [hpayload] at hfits
            exact hfits.elim
  | progressed hactive hread hstored howner hstatus hpayload hstep hvalid hreplace =>
      rcases (Table.mem_replace? hreplace).mp hlease with rfl | ⟨hold, -⟩
      · have hbefore := hI _ hstored hstatus
        cases hstep with
        | workspace held | sandbox payload hhandle => cases hcreating
        | mark =>
            rw [hpayload] at hbefore
            exact hbefore
        | execute => cases hcreating
      · exact hI lease hold hcreating
  | dispatched hactive hread hsnapshot hundispatched hready howner hstatus hpayload hfits hvalid hleases =>
      rcases (Table.mem_insert hleases).mp hlease with hold | rfl
      · exact hI lease hold hcreating
      · rw [hpayload]
        exact hfits.2.1
  | finalized hread hstored honly hunreleased hordered hbinds hreceipt hreceipts hvalid hreplace =>
      rcases (Table.mem_replace? hreplace).mp hlease with rfl | ⟨hold, -⟩
      · unfold finalized at hcreating
        dsimp only at hcreating
        split_ifs at hcreating
      · exact hI lease hold hcreating
  | _ => exact hI lease hlease hcreating

/-! ### The resources can be read -/

theorem filterMap_eq_singleton {α β κ : Type} {key : α → κ} {f : α → Option β} {k : κ} {b : β}
    (hf : ∀ a b, f a = some b → key a = k) :
    ∀ {l : List α}, (l.map key).Nodup → b ∈ l.filterMap f → l.filterMap f = [b]
  | [], _, hb => absurd hb List.not_mem_nil
  | a :: l, hnodup, hb => by
      rw [List.map_cons, List.nodup_cons] at hnodup
      cases hfa : f a with
      | none =>
          rw [List.filterMap_cons_none hfa] at hb ⊢
          exact filterMap_eq_singleton hf hnodup.2 hb
      | some c =>
          have hrest : l.filterMap f = [] := by
            rw [List.filterMap_eq_nil_iff]
            intro other hother
            cases hfo : f other with
            | none => rfl
            | some d =>
                have hkeys : key other = key a := (hf other d hfo).trans (hf a c hfa).symm
                exact absurd (List.mem_map.mpr ⟨other, hother, hkeys⟩) hnodup.1
          rw [List.filterMap_cons_some hfa, hrest] at hb ⊢
          rw [List.mem_singleton.mp hb]

theorem workspacesOf_eq {leaseId : String} (h : Held t baselineId leaseId (.workspace held)) :
    workspacesOf (t.leaseRows baselineId) = [held] := by
  obtain ⟨lease, hlease, -, hpayload⟩ := held_iff_leaseRows.mp h
  refine filterMap_eq_singleton (k := .workspace) (fun a b hab => ?_) (nodup_kinds baselineId)
    (mem_workspacesOf.mpr ⟨lease, hlease, hpayload⟩)
  unfold BaselineResourceLease.kind
  cases hp : a.payload with
  | workspace => rfl
  | sandbox _ | execution _ =>
      rw [hp] at hab
      cases hab

theorem sandboxesOf_eq {leaseId : String} {payload : BaselineSandboxPayload}
    (h : Held t baselineId leaseId (.sandbox payload)) :
    sandboxesOf (t.leaseRows baselineId) = [payload] := by
  obtain ⟨lease, hlease, -, hpayload⟩ := held_iff_leaseRows.mp h
  refine filterMap_eq_singleton (k := .sandbox) (fun a b hab => ?_) (nodup_kinds baselineId)
    (mem_sandboxesOf.mpr ⟨lease, hlease, hpayload⟩)
  unfold BaselineResourceLease.kind
  cases hp : a.payload with
  | workspace =>
      rw [hp] at hab
      cases hab
  | sandbox => rfl
  | execution =>
      rw [hp] at hab
      cases hab

theorem commandsOf_eq {leaseId : String} {payload : BaselineCommandPayload}
    (h : Held t baselineId leaseId (.execution payload)) :
    commandsOf (t.leaseRows baselineId) = [(leaseId, payload)] := by
  obtain ⟨lease, hlease, hid, hpayload⟩ := held_iff_leaseRows.mp h
  refine filterMap_eq_singleton (k := .execution) (fun a b hab => ?_) (nodup_kinds baselineId)
    (mem_commandsOf.mpr ⟨lease, hlease, hid, hpayload⟩)
  unfold BaselineResourceLease.kind
  cases hp : a.payload with
  | workspace _ | sandbox _ =>
      rw [hp] at hab
      cases hab
  | execution => rfl

/-- What holds of the resources is what `_snapshot` checks. -/
theorem ResourcesHold.fits {review : BaselineReview} (h : ResourcesHold svc t review)
    {dispatch : Option BaselineDispatchClaim}
    (hdispatch : dispatchOf svc t review.baselineId = .ok dispatch) :
    ResourcesFit svc review dispatch (t.leaseRows review.baselineId) := by
  have hclaim := mem_of_dispatchOf hdispatch
  have hworkspace : ∀ held ∈ workspacesOf (t.leaseRows review.baselineId),
      ∃ leaseId, Held t review.baselineId leaseId (.workspace held) := by
    intro held hheld
    obtain ⟨lease, hlease, hpayload⟩ := mem_workspacesOf.mp hheld
    exact ⟨lease.leaseId, held_iff_leaseRows.mpr ⟨lease, hlease, rfl, hpayload⟩⟩
  have hsandbox : ∀ payload ∈ sandboxesOf (t.leaseRows review.baselineId),
      ∃ leaseId, Held t review.baselineId leaseId (.sandbox payload) := by
    intro payload hheld
    obtain ⟨lease, hlease, hpayload⟩ := mem_sandboxesOf.mp hheld
    exact ⟨lease.leaseId, held_iff_leaseRows.mpr ⟨lease, hlease, rfl, hpayload⟩⟩
  have hcommand : ∀ command ∈ commandsOf (t.leaseRows review.baselineId),
      Held t review.baselineId command.1 (.execution command.2) := by
    rintro ⟨leaseId, payload⟩ hheld
    exact held_iff_leaseRows.mpr (mem_commandsOf.mp hheld)
  constructor
  · constructor
    · rintro rfl
      refine List.eq_nil_iff_forall_not_mem.mpr fun command hmem => ?_
      obtain ⟨found, hfound⟩ := h.undispatched.mpr ⟨_, _, hcommand command hmem⟩
      cases (hclaim found).mpr hfound
    · intro hnil
      refine Option.eq_none_iff_forall_ne_some.mpr fun found hfound => ?_
      obtain ⟨leaseId, payload, hheld⟩ := h.undispatched.mp ⟨found, (hclaim found).mp hfound⟩
      have hone := commandsOf_eq hheld
      rw [hnil] at hone
      cases hone
  · intro found hfound command hmem
    exact h.dispatched found ((hclaim found).mp hfound) command.1 command.2 (hcommand command hmem)
  · intro held hheld
    obtain ⟨leaseId, hmem⟩ := hworkspace held hheld
    exact h.workspaces leaseId held hmem
  · intro payload hheld
    obtain ⟨leaseId, hmem⟩ := hsandbox payload hheld
    obtain ⟨⟨workspaceId, hin⟩, hpolicy⟩ := h.sandboxes leaseId payload hmem
    exact ⟨workspacesOf_eq hin, hpolicy⟩
  · intro command hmem
    obtain ⟨⟨sandboxId, sandbox, hin, hhandle⟩, hreviewed⟩ :=
      h.commands command.1 command.2 (hcommand command hmem)
    refine ⟨?_, hreviewed⟩
    rw [sandboxesOf_eq hin, List.map_singleton, hhandle]
  · intro payload hheld
    obtain ⟨leaseId, hmem⟩ := hsandbox payload hheld
    exact h.handles leaseId payload hmem

theorem length_le_three {kinds : List BaselineResourceKind} (h : kinds.Nodup) :
    kinds.length ≤ 3 := by
  have hsub : kinds ⊆ [.workspace, .sandbox, .execution] := by
    intro kind _
    cases kind
    · exact List.mem_cons_self
    · exact List.mem_cons_of_mem _ List.mem_cons_self
    · exact List.mem_cons_of_mem _ (List.mem_cons_of_mem _ List.mem_cons_self)
  exact (List.subperm_of_subset h hsub).length_le

theorem valid_of_encodable {α : Type} [BaselineModel α] {value : α}
    (h : svc.encodable value = true) :
    (BaselineModel.record value).validates svc.toBaselineModels = true := by
  unfold BaselineServices.encodable BaselineModels.validates at h
  rw [Bool.and_eq_true, Bool.and_eq_true] at h
  exact h.1.2

theorem LinksHold.lease_owner (h : LinksHold svc t)
    (hclaim : ownerOf svc t baselineId = .ok claim) (hlease : lease ∈ t.leaseRows baselineId) :
    lease.owner = claim.owner := by
  obtain ⟨hmem, hid⟩ := mem_leaseRows.mp hlease
  obtain ⟨found, hfound, howner⟩ := h.leases lease hmem
  rw [hid] at hfound
  rw [howner, Except.ok.inj (hfound.symm.trans hclaim)]

theorem LinksHold.dispatch_owner (h : LinksHold svc t)
    (hclaim : ownerOf svc t baselineId = .ok claim) {dispatch : BaselineDispatchClaim}
    (hdispatch : DispatchedBy t baselineId dispatch) : dispatch.ownerClaim = claim := by
  have hfound := h.dispatches dispatch hdispatch.1
  rw [hdispatch.2] at hfound
  exact Except.ok.inj (hfound.symm.trans hclaim)

/-- What is read of a baseline is a valid snapshot. -/
theorem validates_of_reads (hrows : RowsHold svc t) (hlinks : LinksHold svc t)
    (hexecution : execution ∈ t.executions)
    (hclaim : ownerOf svc t execution.baselineId = .ok claim)
    {dispatch : Option BaselineDispatchClaim}
    (hdispatch : dispatchOf svc t execution.baselineId = .ok dispatch) :
    (BaselineResourceSnapshot.mk execution claim dispatch
      (t.leaseRows execution.baselineId)).validates svc.toBaselineModels = true := by
  obtain ⟨current, review, authorization, howned⟩ := ownerOf_ok.mp hclaim
  have hcurrent : current = execution := Table.eq_of_clash
    (executionOf_ok.mp howned.execution).1 hexecution (executionOf_ok.mp howned.execution).2.1
  subst hcurrent
  have hreviewed := hlinks.review hexecution howned.reviewed
  have hfound := mem_of_dispatchOf hdispatch
  have hkinds := nodup_kinds (t := t) current.baselineId
  have hids : ((t.leaseRows current.baselineId).map BaselineResourceLease.leaseId).Pairwise
      fun a b => a ≤ b := by
    rw [List.pairwise_map]
    exact sorted_leaseRows t current.baselineId
  have hlength := length_le_three hkinds
  rw [List.length_map] at hlength
  unfold BaselineResourceSnapshot.validates
  simp only [Bool.and_eq_true, decide_eq_true_eq, List.all_eq_true, Option.all_eq_true_iff_get]
  refine ⟨⟨⟨⟨⟨⟨⟨⟨⟨⟨⟨⟨?_, ?_⟩, ?_⟩, ?_⟩, hlength⟩, ?_⟩, ?_⟩, ?_⟩, ?_⟩, ?_⟩, hkinds⟩, hids⟩, ?_⟩
  · exact valid_of_encodable (hrows.executions current hexecution)
  · exact valid_of_encodable howned.validClaim
  · intro hsome
    have hmem := (hfound (dispatch.get hsome)).mp (Option.some_get hsome).symm
    exact valid_of_encodable (hrows.dispatchClaims _ hmem.1)
  · intro lease hlease
    exact valid_of_encodable (hrows.leases lease (mem_leaseRows.mp hlease).1)
  · exact howned.ofBaseline.symm
  · exact hreviewed.projectId.trans howned.projectId.symm
  · exact hreviewed.reviewSha256.trans howned.reviewSha256.symm
  · exact howned.ownerClaimId
  · intro lease hlease
    exact hlinks.lease_owner hclaim hlease
  · intro hsome
    have hmem := (hfound (dispatch.get hsome)).mp (Option.some_get hsome).symm
    exact hlinks.dispatch_owner hclaim hmem

/-- The resources of an owned execution can be read where its receipts can. -/
theorem resourceSnapshot_of_holds (hrows : RowsHold svc t) (hlinks : LinksHold svc t)
    (hresources : ∀ review ∈ t.reviews, ResourcesHold svc t review)
    (hexecution : execution ∈ t.executions)
    (hclaim : ownerOf svc t execution.baselineId = .ok claim)
    {dispatch : Option BaselineDispatchClaim}
    (hdispatch : dispatchOf svc t execution.baselineId = .ok dispatch)
    (hreceipts : ∀ lease ∈ t.leaseRows execution.baselineId,
      validateLeaseReceipt svc t claim lease = .ok ()) :
    resourceSnapshot svc t execution.baselineId
      = .ok ⟨execution, claim, dispatch, t.leaseRows execution.baselineId⟩ := by
  obtain ⟨review, hreview⟩ := hlinks.reviewOf hrows hexecution
  have hid := (hlinks.review hexecution hreview).baselineId
  refine resourceSnapshot_ok.mpr ⟨review, {
    execution := executionOf_ok.mpr ⟨hexecution, rfl, hrows.executions execution hexecution⟩
    owned := hclaim
    reviewed := hreview
    encodable := fun lease hlease => hrows.leases lease (mem_leaseRows.mp hlease).1
    leases := rfl
    dispatched := hdispatch
    valid := validates_of_reads hrows hlinks hexecution hclaim hdispatch
    fits := ?_
    receipts := hreceipts }⟩
  have hhold := hresources review (reviewOf_ok.mp hreview).1
  rw [hid] at hdispatch ⊢
  exact hhold.fits hdispatch

theorem dispatchOf_of_rows (hrows : RowsHold svc t) (baselineId : String) :
    ∃ dispatch, dispatchOf svc t baselineId = .ok dispatch := by
  by_cases h : ∃ claim ∈ t.dispatchClaims, claim.owner.baselineId = baselineId
  · obtain ⟨claim, hmem, hid⟩ := h
    exact ⟨some claim, dispatchOf_some hrows hmem hid⟩
  · push Not at h
    exact ⟨none, dispatchOf_none h⟩

end AgentFleet.Baseline
