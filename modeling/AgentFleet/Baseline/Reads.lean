import AgentFleet.Baseline.Store

/-! # What the validated reads establish

For each read of the store one lemma `…_ok` about its answer: the rows that it has found, and what
it has checked of them. -/

namespace AgentFleet.Baseline

open Relational Checks

variable {svc : BaselineServices} {t : BaselineTables}

/-! ### Rows -/

section Rows

variable {α : Type} [BaselineModel α]

theorem decode_ok {value read : α} :
    decode svc value = .ok read ↔ svc.encodable value = true ∧ value = read := by
  unfold decode
  rw [refuse_bind_ok, return_ok, Bool.not_eq_false]

theorem decodeDigested_ok {row : Digested α} {read : α} :
    decodeDigested svc row = .ok read
      ↔ svc.digestOf row.value = row.sha256 ∧ svc.encodable row.value = true
        ∧ row.value = read := by
  unfold decodeDigested
  rw [refuse_bind_ok, decode_ok, not_ne_iff]

/-- A read by a key of the table. -/
theorem one_ok [Constrained α] {table : Table α} {key : α → Bool}
    (hkey : ∀ a b, key a = true → key b = true → clash a b) {read : α} :
    one svc table key = .ok read
      ↔ read ∈ table ∧ key read = true ∧ svc.encodable read = true := by
  unfold one
  rw [bind_ok]
  simp only [demand_ok, decode_ok]
  constructor
  · rintro ⟨row, hrow, hencodable, rfl⟩
    exact ⟨Table.mem_of_find? hrow, Table.prop_of_find? hrow, hencodable⟩
  · rintro ⟨hmem, hread, hencodable⟩
    exact ⟨read, Table.find?_eq_some hmem hread fun b hb => hkey b read hb hread, hencodable, rfl⟩

theorem oneDigested_ok [Constrained (Digested α)] {table : Table (Digested α)} {sha256 : Sha256}
    (hkey : ∀ a b : Digested α, a.sha256 = b.sha256 → clash a b) {read : α} :
    oneDigested svc table sha256 = .ok read
      ↔ ⟨sha256, read⟩ ∈ table ∧ svc.digestOf read = sha256 ∧ svc.encodable read = true := by
  unfold oneDigested
  rw [bind_ok]
  simp only [demand_ok, decodeDigested_ok]
  constructor
  · rintro ⟨⟨found, value⟩, hrow, hdigest, hencodable, rfl⟩
    have hfound := Table.prop_of_find? hrow
    rw [decide_eq_true_eq] at hfound
    subst hfound
    exact ⟨Table.mem_of_find? hrow, hdigest, hencodable⟩
  · rintro ⟨hmem, hdigest, hencodable⟩
    refine ⟨_, Table.find?_eq_some hmem (decide_eq_true rfl) fun b hb => ?_, hdigest, hencodable,
      rfl⟩
    exact hkey b _ (of_decide_eq_true hb)

/-- A read of the one row with a key, if there is one. -/
theorem atMostOne_ok [Constrained α] {table : Table α} {key : α → Bool}
    (hkey : ∀ a b, key a = true → key b = true → clash a b) {read : Option α} :
    atMostOne svc table key = .ok read
      ↔ (∀ a ∈ table, key a = true → svc.encodable a = true)
        ∧ ∀ a, read = some a ↔ a ∈ table ∧ key a = true := by
  have hone : ∀ row, table.find? key = some row → ∀ a, a ∈ table ∧ key a = true ↔ a = row := by
    intro row hrow a
    constructor
    · rintro ⟨ha, hkeyed⟩
      exact Table.eq_of_clash ha (Table.mem_of_find? hrow)
        (hkey a row hkeyed (Table.prop_of_find? hrow))
    · rintro rfl
      exact ⟨Table.mem_of_find? hrow, Table.prop_of_find? hrow⟩
  unfold atMostOne
  cases hfound : table.find? key with
  | none =>
      have hnone := Table.find?_eq_none.mp hfound
      constructor
      · intro h
        cases h
        refine ⟨fun a ha hkeyed => absurd hkeyed (hnone a ha), fun a => ⟨fun h => ?_, ?_⟩⟩
        · cases h
        · rintro ⟨ha, hkeyed⟩
          exact absurd hkeyed (hnone a ha)
      · rintro ⟨-, hread⟩
        cases read with
        | none => rfl
        | some a =>
            obtain ⟨ha, hkeyed⟩ := (hread a).mp rfl
            exact absurd hkeyed (hnone a ha)
  | some row =>
      dsimp only
      rw [map_ok]
      simp only [decode_ok]
      constructor
      · rintro ⟨_, ⟨hencodable, rfl⟩, rfl⟩
        refine ⟨fun a ha hkeyed => ?_, fun a => ?_⟩
        · rw [(hone row hfound a).mp ⟨ha, hkeyed⟩]
          exact hencodable
        · rw [hone row hfound a, Option.some_inj, eq_comm]
      · rintro ⟨hencodable, hread⟩
        have hrow := (hone row hfound row).mpr rfl
        exact ⟨row, ⟨hencodable row hrow.1 hrow.2, rfl⟩, ((hread row).mpr hrow).symm⟩

end Rows

/-! ### Leases -/

variable {baselineId : String} {lease : BaselineResourceLease} {execution : BaselineExecution}
  {review : BaselineReview} {event : BaselineEvent} {claim : BaselineCleanupClaim}
  {receipt : BaselineCleanupReceipt} {u : Unit}

theorem mem_leaseRows :
    lease ∈ t.leaseRows baselineId ↔ lease ∈ t.leases ∧ lease.owner.baselineId = baselineId := by
  unfold BaselineTables.leaseRows
  rw [List.mem_mergeSort, List.mem_filter, decide_eq_true_eq, Table.mem_def]

theorem leasesOf_ok {leases : List BaselineResourceLease} :
    leasesOf svc t baselineId = .ok leases
      ↔ (∀ lease ∈ t.leaseRows baselineId, svc.encodable lease = true)
        ∧ t.leaseRows baselineId = leases := by
  unfold leasesOf
  rw [refuse_bind_ok, return_ok, not_not, List.all_eq_true]

/-- One lease of a baseline for each kind. -/
theorem nodup_kinds (baselineId : String) :
    ((t.leaseRows baselineId).map BaselineResourceLease.kind).Nodup := by
  have hperm : (t.leaseRows baselineId).Perm
      (t.leases.rows.filter fun lease => lease.owner.baselineId = baselineId) :=
    List.mergeSort_perm _ _
  refine (hperm.map _).nodup_iff.mpr ?_
  unfold List.Nodup
  rw [List.pairwise_map]
  refine (t.leases.unique.filter _).imp_of_mem ?_
  intro a b ha hb hclash hkind
  have hidA := of_decide_eq_true (List.mem_filter.mp ha).2
  have hidB := of_decide_eq_true (List.mem_filter.mp hb).2
  exact hclash (.inr ⟨hidA.trans hidB.symm, hkind⟩)

/-- The leases of a baseline have different identifiers. -/
theorem nodup_leaseIds (baselineId : String) :
    ((t.leaseRows baselineId).map BaselineResourceLease.leaseId).Nodup := by
  have hperm : (t.leaseRows baselineId).Perm
      (t.leases.rows.filter fun lease => lease.owner.baselineId = baselineId) :=
    List.mergeSort_perm _ _
  refine (hperm.map _).nodup_iff.mpr ?_
  unfold List.Nodup
  rw [List.pairwise_map]
  refine (t.leases.unique.filter _).imp ?_
  intro a b hclash hid
  exact hclash (.inl hid)

/-! ### Authority -/

theorem executionOf_ok :
    executionOf svc t baselineId = .ok execution
      ↔ execution ∈ t.executions ∧ execution.baselineId = baselineId
        ∧ svc.encodable execution = true := by
  unfold executionOf
  rw [one_ok, decide_eq_true_eq]
  intro a b ha hb
  exact (of_decide_eq_true ha).trans (of_decide_eq_true hb).symm

/-- The execution is that of the review. -/
structure Reviewed (svc : BaselineServices) (execution : BaselineExecution)
    (review : BaselineReview) : Prop where
  baselineId : execution.baselineId = review.baselineId
  reviewId : execution.reviewId = review.reviewId
  reviewSha256 : execution.reviewSha256 = svc.digestOf review
  projectId : execution.projectId = review.projectId

theorem reviewOf_ok {reviewId : String} :
    reviewOf svc t reviewId = .ok review
      ↔ review ∈ t.reviews ∧ review.reviewId = reviewId ∧ svc.encodable review = true
        ∧ ∃ execution ∈ t.executions, svc.encodable execution = true
          ∧ Reviewed svc execution review := by
  have hkey : ∀ a b : BaselineReview, decide (a.reviewId = reviewId) = true →
      decide (b.reviewId = reviewId) = true → clash a b := fun a b ha hb =>
    .inl ((of_decide_eq_true ha).trans (of_decide_eq_true hb).symm)
  unfold reviewOf
  simp only [bind_ok, one_ok hkey, executionOf_ok, refuse_ok, return_ok, decide_eq_true_eq]
  constructor
  · rintro ⟨found, ⟨hmem, hid, hencodable⟩, execution, ⟨hexecution, hbaseline, hvalid⟩, _, hfits,
      rfl⟩
    push Not at hfits
    exact ⟨hmem, hid, hencodable, execution, hexecution, hvalid, hbaseline, hfits.1, hfits.2.1,
      hfits.2.2⟩
  · rintro ⟨hmem, hid, hencodable, execution, hexecution, hvalid, hfits⟩
    refine ⟨review, ⟨hmem, hid, hencodable⟩, execution, ⟨hexecution, hfits.baselineId, hvalid⟩,
      (), ?_, rfl⟩
    push Not
    exact ⟨hfits.reviewId, hfits.reviewSha256, hfits.projectId⟩

/-- What `_owner` establishes of a claim, with the records that it has read. -/
structure Owned (svc : BaselineServices) (t : BaselineTables) (baselineId : String)
    (current : BaselineExecution) (review : BaselineReview)
    (authorization : BaselineAuthorization) (claim : BaselineOwnerClaim) : Prop where
  execution : executionOf svc t baselineId = .ok current
  reviewed : reviewOf svc t current.reviewId = .ok review
  authorized : authorization ∈ t.authorizations
  claimed : claim ∈ t.ownerClaims
  validAuthorization : svc.encodable authorization = true
  validClaim : svc.encodable claim = true
  ofBaseline : claim.owner.baselineId = baselineId
  ownerClaimId : current.ownerClaimId = some claim.claimId
  projectId : claim.owner.projectId = review.projectId
  reviewSha256 : claim.owner.reviewSha256 = svc.digestOf review
  installationId : claim.installationId = svc.installationId
  authorizationId : authorization.authorizationId = claim.authorizationId
  authorizedBaseline : authorization.baselineId = baselineId
  authorizedReview : authorization.reviewId = review.reviewId
  authorizedSha256 : authorization.reviewSha256 = svc.digestOf review
  consumed : authorization.status = .consumed
  consumedAt : authorization.consumedAt = some claim.claimedAt

theorem authorizationId_key (authorizationId : String) (a b : BaselineAuthorization)
    (ha : decide (a.authorizationId = authorizationId) = true)
    (hb : decide (b.authorizationId = authorizationId) = true) : clash a b :=
  .inl ((of_decide_eq_true ha).trans (of_decide_eq_true hb).symm)

theorem authorizationBaseline_key (baselineId : String) (a b : BaselineAuthorization)
    (ha : decide (a.baselineId = baselineId) = true)
    (hb : decide (b.baselineId = baselineId) = true) : clash a b :=
  .inr ((of_decide_eq_true ha).trans (of_decide_eq_true hb).symm)

theorem ownerClaim_key (baselineId : String) (a b : BaselineOwnerClaim)
    (ha : decide (a.owner.baselineId = baselineId) = true)
    (hb : decide (b.owner.baselineId = baselineId) = true) : clash a b :=
  .inr ((of_decide_eq_true ha).trans (of_decide_eq_true hb).symm)

theorem dispatch_key (baselineId : String) (a b : BaselineDispatchClaim)
    (ha : decide (a.owner.baselineId = baselineId) = true)
    (hb : decide (b.owner.baselineId = baselineId) = true) : clash a b :=
  .inr ((of_decide_eq_true ha).trans (of_decide_eq_true hb).symm)

theorem lease_key (leaseId : String) (a b : BaselineResourceLease)
    (ha : decide (a.leaseId = leaseId) = true) (hb : decide (b.leaseId = leaseId) = true) :
    clash a b :=
  .inl ((of_decide_eq_true ha).trans (of_decide_eq_true hb).symm)

theorem ownerOf_ok {claim : BaselineOwnerClaim} :
    ownerOf svc t baselineId = .ok claim
      ↔ ∃ execution review authorization,
        Owned svc t baselineId execution review authorization claim := by
  unfold ownerOf
  simp only [bind_ok, one_ok (ownerClaim_key _), one_ok (authorizationId_key _), refuse_ok,
    return_ok, decide_eq_true_eq]
  constructor
  · rintro ⟨found, ⟨hclaim, hid, hvalidClaim⟩, execution, hexecution, review, hreview,
      authorization, ⟨hauthorization, hauthorizationId, hvalidAuthorization⟩, _, hfits, rfl⟩
    push Not at hfits
    obtain ⟨howner, hproject, hsha, hinstallation, hbaseline, hreviewId, hreviewSha, hstatus,
      hat⟩ := hfits
    exact ⟨execution, review, authorization, {
      execution := hexecution
      reviewed := hreview
      authorized := hauthorization
      claimed := hclaim
      validAuthorization := hvalidAuthorization
      validClaim := hvalidClaim
      ofBaseline := hid
      ownerClaimId := howner
      projectId := hproject
      reviewSha256 := hsha
      installationId := hinstallation
      authorizationId := hauthorizationId
      authorizedBaseline := hbaseline
      authorizedReview := hreviewId
      authorizedSha256 := hreviewSha
      consumed := hstatus
      consumedAt := hat }⟩
  · rintro ⟨execution, review, authorization, h⟩
    refine ⟨claim, ⟨h.claimed, h.ofBaseline, h.validClaim⟩, execution, h.execution, review,
      h.reviewed, authorization, ⟨h.authorized, h.authorizationId, h.validAuthorization⟩, (), ?_,
      rfl⟩
    push Not
    exact ⟨h.ownerClaimId, h.projectId, h.reviewSha256, h.installationId, h.authorizedBaseline,
      h.authorizedReview, h.authorizedSha256, h.consumed, h.consumedAt⟩

/-- The claim of a baseline determines what was read with it. -/
theorem Owned.execution_eq {other : BaselineExecution} {authorization : BaselineAuthorization}
    {claim : BaselineOwnerClaim} (h : Owned svc t baselineId execution review authorization claim)
    (hother : executionOf svc t baselineId = .ok other) : execution = other :=
  Except.ok.inj (h.execution.symm.trans hother)

/-! ### Cleanup claims and receipts -/

/-- The event with a scope. -/
theorem lastEvent_scope {scopeSha256 : Sha256} :
    t.lastEvent baselineId (some scopeSha256) = some event
      ↔ event ∈ t.events ∧ event.baselineId = baselineId ∧ event.scopeSha256 = scopeSha256 := by
  have hmem : ∀ other, other ∈ t.events.rows.filter (fun event => event.baselineId = baselineId
      ∧ (some scopeSha256).all fun scope => event.scopeSha256 = scope)
      ↔ other ∈ t.events ∧ other.baselineId = baselineId ∧ other.scopeSha256 = scopeSha256 := by
    intro other
    simp only [List.mem_filter, Option.all_some, decide_eq_true_eq, Table.mem_def]
  unfold BaselineTables.lastEvent
  constructor
  · intro h
    exact (hmem event).mp (List.argmax_mem h)
  · intro h
    cases hlast : List.argmax BaselineEvent.sequence (t.events.rows.filter fun event =>
        event.baselineId = baselineId
          ∧ (some scopeSha256).all fun scope => event.scopeSha256 = scope) with
    | none =>
        rw [List.argmax_eq_none] at hlast
        have := (hmem event).mpr h
        rw [hlast] at this
        exact absurd this List.not_mem_nil
    | some other =>
        have hother := (hmem other).mp (List.argmax_mem hlast)
        refine congrArg some (Table.eq_of_clash hother.1 h.1 ?_)
        exact ⟨hother.2.1.trans h.2.1.symm, .inr (hother.2.2.trans h.2.2.symm)⟩

/-- The last event of a baseline comes after its other events. -/
theorem lastEvent_last (h : t.lastEvent baselineId none = some event) :
    event ∈ t.events ∧ event.baselineId = baselineId
      ∧ ∀ other ∈ t.events, other.baselineId = baselineId → other.sequence ≤ event.sequence := by
  have hmem : ∀ other, other ∈ t.events.rows.filter (fun event => event.baselineId = baselineId
      ∧ (none : Option Sha256).all fun scope => event.scopeSha256 = scope)
      ↔ other ∈ t.events ∧ other.baselineId = baselineId := by
    intro other
    simp [List.mem_filter, Table.mem_def]
  unfold BaselineTables.lastEvent at h
  obtain ⟨hevent, hid⟩ := (hmem event).mp (List.argmax_mem h)
  refine ⟨hevent, hid, fun other hother hotherId => ?_⟩
  exact List.le_of_mem_argmax ((hmem other).mpr ⟨hother, hotherId⟩) h

/-- An event that no other event of its baseline follows is the last. -/
theorem lastEvent_of_forall (hevent : event ∈ t.events) (hid : event.baselineId = baselineId)
    (hlast : ∀ other ∈ t.events, other.baselineId = baselineId → other.sequence ≤ event.sequence) :
    t.lastEvent baselineId none = some event := by
  cases hfound : t.lastEvent baselineId none with
  | none =>
      unfold BaselineTables.lastEvent at hfound
      rw [List.argmax_eq_none] at hfound
      have hmem : event ∈ t.events.rows.filter (fun event => event.baselineId = baselineId
          ∧ (none : Option Sha256).all fun scope => event.scopeSha256 = scope) := by
        simp only [List.mem_filter, Option.all_none, decide_eq_true_eq]
        exact ⟨hevent, hid, trivial⟩
      rw [hfound] at hmem
      exact absurd hmem List.not_mem_nil
  | some other =>
      obtain ⟨hother, hotherId, hmax⟩ := lastEvent_last hfound
      refine congrArg some (Table.eq_of_clash hother hevent ⟨hotherId.trans hid.symm, .inl ?_⟩)
      have hle := hlast other hother hotherId
      have hge := hmax event hevent hid
      omega

/-- What a cleanup claim shares with the execution that it fences. -/
structure FencedExecution (fenced current : BaselineExecution) (claimId : String) : Prop where
  reviewId : fenced.reviewId = current.reviewId
  reviewSha256 : fenced.reviewSha256 = current.reviewSha256
  ownerClaimId : fenced.ownerClaimId = some claimId
  revision : fenced.revision < current.revision

/-- What `_cleanup_event` establishes of an event. -/
structure EventFits (svc : BaselineServices) (t : BaselineTables) (baselineId : String)
    (event : BaselineEvent) (owner : BaselineOwnerClaim) (current : BaselineExecution) :
    Prop where
  valid : svc.validates event.claim = true
  ofBaseline : event.claim.owner.baselineId = baselineId
  digest : svc.digestOf event.claim = event.recordSha256
  scope : event.claim.scopeSha256 = event.scopeSha256
  owned : ownerOf svc t baselineId = .ok owner
  execution : executionOf svc t baselineId = .ok current
  claim : event.claim.snapshot.claim = owner
  claimOwner : event.claim.owner = owner.owner
  fenced : FencedExecution event.claim.snapshot.execution current owner.claimId
  dispatched : dispatchOf svc t baselineId = .ok event.claim.snapshot.dispatch
  encodable : ∀ lease ∈ t.leaseRows baselineId, svc.encodable lease = true
  leaseIds : event.claim.snapshot.leases.map BaselineResourceLease.leaseId
    = (t.leaseRows baselineId).map BaselineResourceLease.leaseId
  later : ∀ pair ∈ event.claim.snapshot.leases.zip (t.leaseRows baselineId),
    laterLease pair.1 pair.2

theorem checkedEvent_ok :
    checkedEvent svc t baselineId event = .ok claim
      ↔ event.claim = claim
        ∧ ∃ owner execution, EventFits svc t baselineId event owner execution := by
  unfold checkedEvent
  simp only [bind_ok, refuse_ok, return_ok, leasesOf_ok, Bool.not_eq_false, not_not]
  constructor
  · rintro ⟨_, hvalid, _, hids, owner, howner, execution, hexecution, _, hfits, dispatch,
      hdispatch, leases, ⟨hencodable, rfl⟩, _, hrows, _, hlater, rfl⟩
    push Not at hids hfits hrows
    obtain ⟨hbaseline, hdigest, hscope⟩ := hids
    obtain ⟨hclaim, hownerEq, hreviewId, hreviewSha, hownerId, hrevision⟩ := hfits
    obtain ⟨hdispatchEq, hleaseIds⟩ := hrows
    refine ⟨rfl, owner, execution, {
      valid := hvalid
      ofBaseline := hbaseline
      digest := hdigest
      scope := hscope
      owned := howner
      execution := hexecution
      claim := hclaim
      claimOwner := hownerEq
      fenced := ⟨hreviewId, hreviewSha, hownerId, hrevision⟩
      dispatched := ?_
      encodable := hencodable
      leaseIds := hleaseIds
      later := hlater }⟩
    rw [hdispatchEq]
    exact hdispatch
  · rintro ⟨rfl, owner, execution, h⟩
    refine ⟨(), h.valid, (), ?_, owner, h.owned, execution, h.execution, (), ?_, _, h.dispatched, _,
      ⟨h.encodable, rfl⟩, (), ?_, (), h.later, rfl⟩
    · push Not
      exact ⟨h.ofBaseline, h.digest, h.scope⟩
    · push Not
      exact ⟨h.claim, h.claimOwner, h.fenced.reviewId, h.fenced.reviewSha256, h.fenced.ownerClaimId,
        h.fenced.revision⟩
    · push Not
      exact ⟨rfl, h.leaseIds⟩

/-- An accepted event with a scope. -/
theorem cleanupEvent_scope_ok {scopeSha256 : Sha256} :
    cleanupEvent svc t baselineId (some scopeSha256) = .ok (some claim)
      ↔ ∃ event ∈ t.events, event.baselineId = baselineId ∧ event.scopeSha256 = scopeSha256
        ∧ event.claim = claim
        ∧ ∃ owner execution, EventFits svc t baselineId event owner execution := by
  unfold cleanupEvent
  cases hlast : t.lastEvent baselineId (some scopeSha256) with
  | none =>
      constructor
      · intro h
        cases h
      · rintro ⟨event, hevent, hid, hscope, -⟩
        rw [lastEvent_scope.mpr ⟨hevent, hid, hscope⟩] at hlast
        cases hlast
  | some found =>
      dsimp only
      rw [map_ok]
      simp only [checkedEvent_ok, Option.some_inj]
      obtain ⟨hfound, hfoundId, hfoundScope⟩ := lastEvent_scope.mp hlast
      constructor
      · rintro ⟨_, ⟨rfl, hfits⟩, rfl⟩
        exact ⟨found, hfound, hfoundId, hfoundScope, rfl, hfits⟩
      · rintro ⟨event, hevent, hid, hscope, rfl, hfits⟩
        have heq : event = found := Table.eq_of_clash hevent hfound
          ⟨hid.trans hfoundId.symm, .inr (hscope.trans hfoundScope.symm)⟩
        subst heq
        exact ⟨_, ⟨rfl, hfits⟩, rfl⟩

/-- What `_validate_receipt_binding` establishes. -/
structure ReceiptBinds (svc : BaselineServices) (lease : BaselineResourceLease)
    (receipt : BaselineCleanupReceipt) (scopeSha256 : Sha256) : Prop where
  owner : receipt.owner = lease.owner
  leaseId : receipt.leaseId = lease.leaseId
  kind : receipt.kind = lease.kind
  leaseSha256 : receipt.leaseSha256 = svc.digestOf lease
  scope : receipt.cleanupScopeSha256 = scopeSha256
  later : lease.updatedAt ≤ receipt.completedAt
  result : validateResult svc lease.payload receipt.result = .ok ()

theorem validateReceiptBinding_ok {scopeSha256 : Sha256} :
    validateReceiptBinding svc lease receipt scopeSha256 = .ok u
      ↔ ReceiptBinds svc lease receipt scopeSha256 := by
  unfold validateReceiptBinding
  rw [refuse_bind_ok]
  constructor
  · rintro ⟨hfits, hresult⟩
    push Not at hfits
    obtain ⟨howner, hleaseId, hkind, hsha, hscope, hlater⟩ := hfits
    exact ⟨howner, hleaseId, hkind, hsha, hscope, hlater, hresult⟩
  · intro h
    refine ⟨?_, h.result⟩
    push Not
    exact ⟨h.owner, h.leaseId, h.kind, h.leaseSha256, h.scope, h.later⟩

/-- What `_receipt_state` establishes: the lease that the receipt ended, and the cleanup claim
that it was fenced by. -/
structure ReceiptStates (svc : BaselineServices) (t : BaselineTables)
    (receipt : BaselineCleanupReceipt) (scope : BaselineCleanupClaim)
    (original : BaselineResourceLease) : Prop where
  event : cleanupEvent svc t receipt.owner.baselineId (some receipt.cleanupScopeSha256)
    = .ok (some scope)
  only : (scope.snapshot.leases.filter fun lease => lease.leaseId = receipt.leaseId) = [original]
  binds : ReceiptBinds svc original receipt scope.scopeSha256
  valid : svc.validates (finalized svc original receipt) = true

theorem receiptState_ok {expected : Option BaselineResourceLease} :
    receiptState svc t receipt expected = .ok lease
      ↔ (∀ state ∈ expected, lease = state)
        ∧ ∃ scope original, ReceiptStates svc t receipt scope original
          ∧ finalized svc original receipt = lease := by
  unfold receiptState
  simp only [bind_ok, demand_ok, refuse_ok, return_ok, validateReceiptBinding_ok, not_not,
    Bool.not_eq_false]
  constructor
  · rintro ⟨_, hscope, scope, rfl, _, hlength, original, horiginal, _, hbinds, _, hvalid, _,
      hexpected, rfl⟩
    refine ⟨fun state hstate => ?_, scope, original, ⟨hscope, ?_, hbinds, hvalid⟩, rfl⟩
    · by_contra hne
      refine hexpected ?_
      rw [hstate]
      simp [hne]
    · obtain ⟨only, honly⟩ := List.length_eq_one_iff.mp hlength
      rw [honly] at horiginal ⊢
      rw [List.head?_cons, Option.some_inj] at horiginal
      rw [horiginal]
  · rintro ⟨hexpected, scope, original, h, rfl⟩
    refine ⟨_, h.event, scope, rfl, (), ?_, original, ?_, (), h.binds, (), h.valid, (), ?_, rfl⟩
    · rw [h.only]
      rfl
    · rw [h.only]
      rfl
    · cases expected with
      | none => simp
      | some state =>
          have heq := hexpected state rfl
          simp [heq]

/-! ### Resources -/

/-- What `_snapshot` establishes of the receipt of a lease. -/
structure LeaseReceipted (svc : BaselineServices) (t : BaselineTables)
    (claim : BaselineOwnerClaim) (lease : BaselineResourceLease) (sha256 : Sha256)
    (receipt : BaselineCleanupReceipt) : Prop where
  stored : ⟨sha256, receipt⟩ ∈ t.receipts
  digest : svc.digestOf receipt = sha256
  encodable : svc.encodable receipt = true
  owner : receipt.owner = claim.owner
  leaseId : receipt.leaseId = lease.leaseId
  kind : receipt.kind = lease.kind
  complete : receipt.complete = true ↔ lease.status = .released
  state : receiptState svc t receipt (some lease) = .ok lease

theorem receipt_key (a b : Digested BaselineCleanupReceipt) (h : a.sha256 = b.sha256) : clash a b :=
  h

theorem report_key (a b : Digested BaselineReport) (h : a.sha256 = b.sha256) : clash a b := h

theorem validateLeaseReceipt_ok {claim : BaselineOwnerClaim} :
    validateLeaseReceipt svc t claim lease = .ok u
      ↔ ∀ sha256, lease.receiptSha256 = some sha256 →
        ∃ receipt, LeaseReceipted svc t claim lease sha256 receipt := by
  unfold validateLeaseReceipt
  cases hreceipt : lease.receiptSha256 with
  | none => simp
  | some sha256 =>
      simp only [bind_ok, oneDigested_ok receipt_key, refuse_ok, return_ok, Option.some_inj,
        forall_eq']
      constructor
      · rintro ⟨receipt, ⟨hstored, hdigest, hencodable⟩, _, hfits, state, hstate, -⟩
        push Not at hfits
        obtain ⟨howner, hleaseId, hkind, hcomplete⟩ := hfits
        have heq : state = lease := (receiptState_ok.mp hstate).1 lease rfl
        rw [heq] at hstate
        exact ⟨receipt, hstored, hdigest, hencodable, howner, hleaseId, hkind, hcomplete, hstate⟩
      · rintro ⟨receipt, h⟩
        refine ⟨receipt, ⟨h.stored, h.digest, h.encodable⟩, (), ?_, lease, h.state, trivial⟩
        push Not
        exact ⟨h.owner, h.leaseId, h.kind, h.complete⟩

/-- What `_snapshot` establishes of the resources of a baseline. -/
structure SnapshotReads (svc : BaselineServices) (t : BaselineTables) (baselineId : String)
    (review : BaselineReview) (snapshot : BaselineResourceSnapshot) : Prop where
  execution : executionOf svc t baselineId = .ok snapshot.execution
  owned : ownerOf svc t baselineId = .ok snapshot.claim
  reviewed : reviewOf svc t snapshot.execution.reviewId = .ok review
  encodable : ∀ lease ∈ t.leaseRows baselineId, svc.encodable lease = true
  leases : t.leaseRows baselineId = snapshot.leases
  dispatched : dispatchOf svc t baselineId = .ok snapshot.dispatch
  valid : snapshot.validates svc.toBaselineModels = true
  fits : ResourcesFit svc review snapshot.dispatch snapshot.leases
  receipts : ∀ lease ∈ snapshot.leases,
    validateLeaseReceipt svc t snapshot.claim lease = .ok ()

theorem resourceSnapshot_ok {snapshot : BaselineResourceSnapshot} :
    resourceSnapshot svc t baselineId = .ok snapshot
      ↔ ∃ review, SnapshotReads svc t baselineId review snapshot := by
  unfold resourceSnapshot
  simp only [bind_ok, leasesOf_ok, refuse_ok, return_ok, forM_ok, Bool.not_eq_false, not_not]
  constructor
  · rintro ⟨execution, hexecution, claim, hclaim, review, hreview, leases, ⟨hencodable, hleases⟩,
      dispatch, hdispatch, _, hvalid, _, hfits, _, hreceipts, rfl⟩
    exact ⟨review, hexecution, hclaim, hreview, hencodable, hleases, hdispatch, hvalid, hfits,
      hreceipts⟩
  · rintro ⟨review, h⟩
    exact ⟨_, h.execution, _, h.owned, review, h.reviewed, _, ⟨h.encodable, h.leases⟩, _,
      h.dispatched, (), h.valid, (), h.fits, (), h.receipts, rfl⟩

/-! ### The progress of a cleanup -/

/-- What a cleanup did to a lease, by its receipt. -/
structure LeaseFinalized (svc : BaselineServices) (t : BaselineTables)
    (claim : BaselineCleanupClaim) (before after : BaselineResourceLease)
    (receipt : BaselineCleanupReceipt) : Prop where
  stored : ⟨svc.digestOf receipt, receipt⟩ ∈ t.receipts
  encodable : svc.encodable receipt = true
  scope : receipt.cleanupScopeSha256 = claim.scopeSha256
  leaseSha256 : receipt.leaseSha256 = svc.digestOf before
  after : finalized svc before receipt = after

theorem leaseChange_ok {before after : BaselineResourceLease} {n : ℕ} :
    leaseChange svc t claim before after = .ok n
      ↔ before = after ∧ n = 0
        ∨ before ≠ after ∧ n = 1
          ∧ ∃ receipt, LeaseFinalized svc t claim before after receipt := by
  unfold leaseChange
  split_ifs with hsame
  · simp [hsame, eq_comm]
  · simp only [bind_ok, demand_ok, oneDigested_ok receipt_key, refuse_ok, return_ok, not_not]
    constructor
    · rintro ⟨sha256, hsha, receipt, ⟨hstored, hdigest, hencodable⟩, _, hfits, _, hafter, rfl⟩
      push Not at hfits
      subst hdigest
      exact .inr ⟨hsame, rfl, receipt, hstored, hencodable, hfits.1, hfits.2, hafter⟩
    · rintro (⟨heq, -⟩ | ⟨-, rfl, receipt, h⟩)
      · exact absurd heq hsame
      · refine ⟨svc.digestOf receipt, ?_, receipt, ⟨h.stored, rfl, h.encodable⟩, (), ?_, (),
          h.after, rfl⟩
        · rw [← h.after]
          rfl
        · push Not
          exact ⟨h.scope, h.leaseSha256⟩

/-- What `_validate_cleanup` establishes. -/
structure CleanupReads (svc : BaselineServices) (t : BaselineTables)
    (claim : BaselineCleanupClaim) (current : BaselineResourceSnapshot) (changed : ℕ) : Prop where
  event : cleanupEvent svc t claim.owner.baselineId none = .ok (some claim)
  resources : resourceSnapshot svc t claim.owner.baselineId = .ok current
  sameClaim : current.claim = claim.snapshot.claim
  sameDispatch : current.dispatch = claim.snapshot.dispatch
  length : current.leases.length = claim.snapshot.leases.length
  changes : leaseChanges svc t claim (claim.snapshot.leases.zip current.leases) = .ok changed
  execution : current.execution =
    { claim.snapshot.execution with
      revision := claim.snapshot.execution.revision + changed + 1
      status := .cleaning
      updatedAt := current.execution.updatedAt }

theorem validateCleanup_ok {current : BaselineResourceSnapshot} :
    validateCleanup svc t claim = .ok current ↔ ∃ changed, CleanupReads svc t claim current changed
    := by
  unfold validateCleanup
  simp only [bind_ok, refuse_ok, return_ok, not_not]
  constructor
  · rintro ⟨event, hevent, _, rfl, found, hfound, _, hfits, changed, hchanged, _, hexecution, rfl⟩
    push Not at hfits
    exact ⟨changed, hevent, hfound, hfits.1, hfits.2.1, hfits.2.2, hchanged, hexecution⟩
  · rintro ⟨changed, h⟩
    refine ⟨_, h.event, (), rfl, current, h.resources, (), ?_, changed, h.changes, (), h.execution,
      rfl⟩
    push Not
    exact ⟨h.sameClaim, h.sameDispatch, h.length⟩

/-! ### Observations -/

/-- What `_observation` establishes of an observation, beside what is checked of it alone. -/
structure ObservationReads (svc : BaselineServices) (t : BaselineTables) (baselineId : String)
    (observation : BaselineCommandObservation) (snapshot : BaselineResourceSnapshot)
    (review : BaselineReview) (command : String × BaselineCommandPayload)
    (sandbox : BaselineSandboxPayload) (spec : SandboxSpec) (native : BaselineExecutionHandle)
    (inspection : BaselineSandboxInspection) (controls : BaselineControlInspection) : Prop where
  resources : resourceSnapshot svc t baselineId = .ok snapshot
  reviewed : reviewOf svc t snapshot.execution.reviewId = .ok review
  commands : commandsOf snapshot.leases = [command]
  dispatched : snapshot.dispatch ≠ none
  nativeRead : snapshotModel svc.toBaselineModels observation.nativeHandle .nativeHandleV1
    svc.nativeHandle (BaselineExecutionHandle.validates svc.toBaselineModels) = some native
  inspectionRead : snapshotModel svc.toBaselineModels observation.inspection .sandboxInspectionV1
    svc.sandboxInspection (BaselineSandboxInspection.validates svc.toBaselineModels)
    = some inspection
  controlsRead : frozenControlsOf svc.toBaselineModels inspection.legacyControlInspection
    = some controls
  sandboxes : sandboxesOf snapshot.leases = [sandbox]
  specRead : reconstructSandbox svc.toBaselineModels sandbox.spec.sandbox = some spec
  fits : observationFits svc snapshot review command.2 spec.configuration observation native
    inspection controls

theorem singleton_of_head? {α : Type} {l : List α} {a : α} (hlength : l.length = 1)
    (h : l.head? = some a) : l = [a] := by
  obtain ⟨b, rfl⟩ := List.length_eq_one_iff.mp hlength
  rw [List.head?_cons, Option.some_inj] at h
  rw [h]

theorem checkedObservation_ok {row : Digested BaselineCommandObservation}
    {observation : BaselineCommandObservation} :
    checkedObservation svc t baselineId row = .ok observation
      ↔ svc.digestOf row.value = row.sha256 ∧ svc.encodable row.value = true
        ∧ row.value = observation
        ∧ ∃ snapshot review command sandbox spec native inspection controls,
          ObservationReads svc t baselineId observation snapshot review command sandbox spec native
            inspection controls := by
  unfold checkedObservation
  simp only [bind_ok, decodeDigested_ok, demand_ok, refuse_ok, return_ok, not_not]
  constructor
  · rintro ⟨_, ⟨hdigest, hencodable, rfl⟩, snapshot, hsnapshot, review, hreview, _, hone, command,
      hcommand, native, hnative, inspection, hinspection, controls, hcontrols, _, hsandboxes,
      sandbox, hsandbox, spec, hspec, _, hfits, rfl⟩
    push Not at hone
    exact ⟨hdigest, hencodable, rfl, snapshot, review, command, sandbox, spec, native, inspection,
      controls, hsnapshot, hreview, singleton_of_head? hone.1 hcommand, hone.2, hnative,
      hinspection, hcontrols, singleton_of_head? hsandboxes hsandbox, hspec, hfits⟩
  · rintro ⟨hdigest, hencodable, rfl, snapshot, review, command, sandbox, spec, native, inspection,
      controls, h⟩
    refine ⟨_, ⟨hdigest, hencodable, rfl⟩, snapshot, h.resources, review, h.reviewed, (), ?_,
      command, ?_, native, h.nativeRead, inspection, h.inspectionRead, controls, h.controlsRead, (), ?_,
      sandbox, ?_, spec, h.specRead, (), h.fits, rfl⟩
    · push Not
      exact ⟨by rw [h.commands]; rfl, h.dispatched⟩
    · rw [h.commands]
      rfl
    · rw [h.sandboxes]
      rfl
    · rw [h.sandboxes]
      rfl

theorem observation_key (baselineId : String) (a b : Digested BaselineCommandObservation)
    (ha : a.value.baselineId = baselineId) (hb : b.value.baselineId = baselineId) : clash a b :=
  .inr (.inl (ha.trans hb.symm))

/-- A recorded observation was read. -/
theorem observationOf_some {observation : BaselineCommandObservation} :
    observationOf svc t baselineId = .ok (some observation)
      ↔ ∃ row ∈ t.observations, row.value.baselineId = baselineId
        ∧ checkedObservation svc t baselineId row = .ok observation := by
  unfold observationOf
  cases hfound : t.observations.find? fun row => row.value.baselineId = baselineId with
  | none =>
      have hnone := Table.find?_eq_none.mp hfound
      constructor
      · intro h
        cases h
      · rintro ⟨row, hrow, hid, -⟩
        exact absurd (decide_eq_true hid) (hnone row hrow)
  | some found =>
      have hid := Table.prop_of_find? hfound
      rw [decide_eq_true_eq] at hid
      dsimp only
      rw [map_ok]
      simp only [Option.some_inj]
      constructor
      · rintro ⟨_, h, rfl⟩
        exact ⟨found, Table.mem_of_find? hfound, hid, h⟩
      · rintro ⟨row, hrow, hrowId, h⟩
        have heq : row = found :=
          Table.eq_of_clash hrow (Table.mem_of_find? hfound) (observation_key _ _ _ hrowId hid)
        rw [heq] at h
        exact ⟨observation, h, rfl⟩

/-- Without an observation there is nothing to check. -/
theorem observationOf_none :
    observationOf svc t baselineId = .ok none
      ↔ ∀ row ∈ t.observations, row.value.baselineId ≠ baselineId := by
  unfold observationOf
  cases hfound : t.observations.find? fun row => row.value.baselineId = baselineId with
  | none =>
      refine ⟨fun _ row hrow hid => ?_, fun _ => rfl⟩
      exact absurd (decide_eq_true hid) (Table.find?_eq_none.mp hfound row hrow)
  | some found =>
      have hid := Table.prop_of_find? hfound
      rw [decide_eq_true_eq] at hid
      dsimp only
      rw [map_ok]
      constructor
      · rintro ⟨_, -, h⟩
        cases h
      · intro h
        exact absurd hid (h found (Table.mem_of_find? hfound))

end AgentFleet.Baseline
