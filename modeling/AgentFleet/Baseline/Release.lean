import AgentFleet.Baseline.Once

/-! # The release of leases

The leases of a baseline are released in the order of their tiers, and the lease of a command
whose resource may exist without a handle is released only after the resource was found. -/

namespace AgentFleet.Baseline

open Relational Checks Transition

variable {svc : BaselineServices} {t t' : BaselineTables}

/-! ### The leases after an effect -/

/-- What an effect does to the leases: its active owner adds one or lets one progress, a cleanup
finalizes one, or they stay. -/
inductive LeaseEffect (svc : BaselineServices) (t t' : BaselineTables) : Prop where
  | worked {claim : BaselineOwnerClaim} {execution : BaselineExecution}
      (hactive : Active svc t claim execution)
      (hleases : ∀ lease ∈ t'.leases, lease ∈ t.leases
        ∨ lease.owner.baselineId = execution.baselineId ∧ lease.status ≠ .released
          ∧ lease.status ≠ .failed)
  | finalized {claim : BaselineCleanupClaim} {current : BaselineResourceSnapshot}
      {lease : BaselineResourceLease} {receipt : BaselineCleanupReceipt}
      (hread : validateCleanup svc t claim = .ok current) (hlease : lease ∈ current.leases)
      (hunreleased : lease.status ≠ .released)
      (hordered : ∀ item ∈ current.leases, tier item.kind < tier lease.kind →
        item.status = .released)
      (hbinds : ReceiptBinds svc lease receipt claim.scopeSha256)
      (hreceipt : svc.encodable receipt = true)
      (hreceipts : ⟨svc.digestOf receipt, receipt⟩ ∈ t'.receipts)
      (hreplace : t.leases.replace? lease (finalized svc lease receipt) = some t'.leases)
  | same (hleases : t'.leases = t.leases)

/-- The status of a lease that progresses is none that a cleanup leaves. -/
theorem PayloadStep.status {review : BaselineReview} {old payload : BaselineResourcePayload}
    {status : BaselineLeaseStatus} {result : BaselineResourceLease → BaselineResult}
    (h : PayloadStep svc review old status payload result) :
    status ≠ .released ∧ status ≠ .failed := by
  cases h with
  | workspace => exact ⟨BaselineLeaseStatus.noConfusion, BaselineLeaseStatus.noConfusion⟩
  | sandbox =>
      exact ⟨BaselineLeaseStatus.noConfusion, BaselineLeaseStatus.noConfusion⟩
  | mark => exact ⟨BaselineLeaseStatus.noConfusion, BaselineLeaseStatus.noConfusion⟩
  | execute =>
      exact ⟨BaselineLeaseStatus.noConfusion, BaselineLeaseStatus.noConfusion⟩

variable {lease : BaselineResourceLease} {result : BaselineResult}

theorem unended_of_creating (h : lease.status = .creating) :
    lease.status ≠ .released ∧ lease.status ≠ .failed := by
  rw [h]
  exact ⟨BaselineLeaseStatus.noConfusion, BaselineLeaseStatus.noConfusion⟩

theorem Effect.leases (h : Effect svc t result t') : LeaseEffect svc t t' := by
  cases h with
  | reserved hactive hreview hsnapshot howner hcreating hkind hfits hvalid hinsert =>
      refine .worked hactive fun l hl => ?_
      rcases (Table.mem_insert hinsert).mp hl with hold | rfl
      · exact .inl hold
      · refine .inr ⟨?_, unended_of_creating hcreating⟩
        rw [howner, hactive.baselineId]
  | progressed hactive hreview hlease howner hcreating hold hstep hvalid hreplace =>
      refine .worked hactive fun l hl => ?_
      rcases (Table.mem_replace? hreplace).mp hl with rfl | ⟨hold, -⟩
      · refine .inr ⟨?_, hstep.status⟩
        rw [← hactive.baselineId, ← howner]
        rfl
      · exact .inl hold
  | dispatched hactive hreview hsnapshot hundispatched hready howner hcreating hpayload hfits hlease hleases =>
      refine .worked hactive fun l hl => ?_
      rcases (Table.mem_insert hleases).mp hl with hold | rfl
      · exact .inl hold
      · refine .inr ⟨?_, unended_of_creating hcreating⟩
        rw [howner, hactive.baselineId]
  | finalized hread hlease honly hunreleased hordered hbinds hreceipt hreceipts hvalid hreplace =>
      exact .finalized hread hlease hunreleased hordered hbinds hreceipt
        ((Table.mem_insert hreceipts).mpr (.inr rfl)) hreplace
  | authorizedAgain | revokedAgain | observedAgain | created | authorized | revoked | claimed
  | observed | cleanupClaimed | published => exact .same rfl

/-! ### Leases are released in order -/

/-- A validated cleanup is of a fenced baseline, and its leases are those of the baseline. -/
theorem fenced_of_validateCleanup {claim : BaselineCleanupClaim}
    {current : BaselineResourceSnapshot} (h : validateCleanup svc t claim = .ok current) :
    Fenced t claim.owner.baselineId
      ∧ ∀ lease, lease ∈ current.leases
        ↔ lease ∈ t.leases ∧ lease.owner.baselineId = claim.owner.baselineId := by
  obtain ⟨changed, hreads⟩ := validateCleanup_ok.mp h
  obtain ⟨review, hsnapshot⟩ := resourceSnapshot_ok.mp hreads.resources
  refine ⟨?_, fun lease => ?_⟩
  · have hevent := hreads.event
    unfold cleanupEvent at hevent
    cases hlast : t.lastEvent claim.owner.baselineId none with
    | none =>
        rw [hlast] at hevent
        cases hevent
    | some event =>
        obtain ⟨hmem, hid, -⟩ := lastEvent_last hlast
        exact ⟨event, hmem, hid⟩
  · rw [← hsnapshot.leases, mem_leaseRows]

/-- Leases end in a cleanup, and are released in the order of their tiers. -/
structure ReleasedInOrder (t : BaselineTables) : Prop where
  fenced : ∀ lease ∈ t.leases, lease.status = .released ∨ lease.status = .failed →
    Fenced t lease.owner.baselineId
  ordered : ∀ lease ∈ t.leases, lease.status = .released →
    ∀ other ∈ t.leases, other.owner.baselineId = lease.owner.baselineId →
      tier other.kind < tier lease.kind → other.status = .released

theorem releasedInOrder_empty : ReleasedInOrder .empty where
  fenced lease h := absurd h (Table.not_mem_empty lease)
  ordered lease h := absurd h (Table.not_mem_empty lease)

theorem releasedInOrder_effect (h : Effect svc t result t') (hfences : FencesHold t)
    (hI : ReleasedInOrder t) : ReleasedInOrder t' := by
  have hfollows := h.follows
  cases h.leases with
  | @worked claim execution hactive hleases =>
      have hnot := hactive.not_fenced hfences
      have hold : ∀ lease ∈ t'.leases, lease.status = .released ∨ lease.status = .failed →
          lease ∈ t.leases := by
        intro lease hlease hended
        rcases hleases lease hlease with hmem | ⟨-, hunreleased, hunfailed⟩
        · exact hmem
        · exact absurd hended (not_or.mpr ⟨hunreleased, hunfailed⟩)
      refine ⟨fun lease hlease hended => ?_, fun lease hlease hreleased other hother hid htier => ?_⟩
      · exact hfollows.fenced (hI.fenced lease (hold lease hlease hended) hended)
      · have hmem := hold lease hlease (.inl hreleased)
        rcases hleases other hother with hbefore | ⟨hwork, -⟩
        · exact hI.ordered lease hmem hreleased other hbefore hid htier
        · refine absurd ?_ hnot
          rw [← hwork, hid]
          exact hI.fenced lease hmem (.inl hreleased)
  | @finalized claim current lease receipt hread hlease hunreleased hordered hbinds hreceipt
      hreceipts hreplace =>
      obtain ⟨hfenced, hcurrent⟩ := fenced_of_validateCleanup hread
      obtain ⟨hstored, hid⟩ := (hcurrent lease).mp hlease
      refine ⟨fun l hl hended => ?_, fun l hl hreleased other hother hsame htier => ?_⟩
      · refine hfollows.fenced ?_
        rcases (Table.mem_replace? hreplace).mp hl with rfl | ⟨hbefore, -⟩
        · show Fenced t lease.owner.baselineId
          rw [hid]
          exact hfenced
        · exact hI.fenced l hbefore hended
      · rcases (Table.mem_replace? hreplace).mp hl with rfl | ⟨hbefore, -⟩
        · rcases (Table.mem_replace? hreplace).mp hother with rfl | ⟨hotherBefore, -⟩
          · exact absurd htier (Nat.lt_irrefl _)
          · exact hordered other ((hcurrent other).mpr ⟨hotherBefore, hsame.trans hid⟩) htier
        · rcases (Table.mem_replace? hreplace).mp hother with rfl | ⟨hotherBefore, -⟩
          · exact absurd (hI.ordered l hbefore hreleased lease hstored hsame htier) hunreleased
          · exact hI.ordered l hbefore hreleased other hotherBefore hsame htier
  | same hleases =>
      refine ⟨fun lease hlease hended => ?_, ?_⟩
      · rw [hleases] at hlease
        exact hfollows.fenced (hI.fenced lease hlease hended)
      · rw [hleases]
        exact hI.ordered

/-! ### A resource that may exist is found before its lease is released -/

/-- The receipt of a lease found its resource. -/
def FoundByReceipt (svc : BaselineServices) (t : BaselineTables) (lease : BaselineResourceLease) :
    Prop :=
  ∃ receipt outcome result, ⟨svc.digestOf receipt, receipt⟩ ∈ t.receipts
    ∧ lease.receiptSha256 = some (svc.digestOf receipt) ∧ receipt.leaseId = lease.leaseId
    ∧ receipt.complete = true ∧ receipt.result = some outcome
    ∧ cleanupResultOf svc.toBaselineModels outcome = some result ∧ 0 < result.resourcesFound

/-- A released lease of a command whose creation was dispatched has a handle or a receipt that
found a resource. -/
def FoundBeforeRelease (svc : BaselineServices) (t : BaselineTables) : Prop :=
  ∀ lease ∈ t.leases, lease.status = .released → ∀ payload, lease.payload = .execution payload →
    payload.creationDispatched = true → payload.handle = none → FoundByReceipt svc t lease

theorem Follows.found (h : Follows t t') (hfound : FoundByReceipt svc t lease) :
    FoundByReceipt svc t' lease := by
  obtain ⟨receipt, outcome, result, hstored, hrest⟩ := hfound
  exact ⟨receipt, outcome, result, h.receipts _ hstored, hrest⟩

/-- A complete receipt has a complete outcome. -/
theorem result_of_validates {receipt : BaselineCleanupReceipt}
    {outcome : BaselineCanonicalSnapshot} {result : SandboxCleanupResult}
    (hvalid : svc.encodable receipt = true) (hkind : receipt.kind ≠ .workspace)
    (houtcome : receipt.result = some outcome)
    (hresult : cleanupResultOf svc.toBaselineModels outcome = some result) :
    result.complete = receipt.complete := by
  unfold BaselineServices.encodable BaselineModels.validates at hvalid
  simp only [Bool.and_eq_true, BaselineModel.record, BaselineRecord.validates,
    BaselineCleanupReceipt.validates] at hvalid
  have hneutral := hvalid.1.2.2
  rw [houtcome, Option.bind_some, hresult] at hneutral
  cases hk : receipt.kind with
  | workspace => exact absurd hk hkind
  | sandbox | execution =>
      simp only [Option.any_some, decide_eq_true_eq] at hneutral
      exact hneutral.2.1

theorem validateResult_execution {payload : BaselineCommandPayload}
    {outcome : Option BaselineCanonicalSnapshot}
    (h : validateResult svc (.execution payload) outcome = .ok ()) :
    ∃ snapshot result, outcome = some snapshot
      ∧ cleanupResultOf svc.toBaselineModels snapshot = some result
      ∧ executionResultFits payload result := by
  cases outcome with
  | none => cases h
  | some snapshot =>
      unfold validateResult at h
      rw [Checks.bind_ok] at h
      obtain ⟨result, hresult, h⟩ := h
      exact ⟨snapshot, result, rfl, demand_ok.mp hresult, not_not.mp (refuse_ok.mp h)⟩

theorem foundBeforeRelease_effect (h : Effect svc t result t') (hI : FoundBeforeRelease svc t) :
    FoundBeforeRelease svc t' := by
  have hfollows := h.follows
  intro l hl hreleased payload hpayload hdispatched hnone
  cases h.leases with
  | worked hactive hleases =>
      rcases hleases l hl with hbefore | ⟨-, hunreleased, -⟩
      · exact hfollows.found (hI l hbefore hreleased payload hpayload hdispatched hnone)
      · exact absurd hreleased hunreleased
  | @finalized claim current lease receipt hread hlease hunreleased hordered hbinds hreceipt
      hreceipts hreplace =>
      rcases (Table.mem_replace? hreplace).mp hl with rfl | ⟨hbefore, -⟩
      · have hcomplete : receipt.complete = true := by
          by_contra hnot
          unfold finalized at hreleased
          simp only [hnot] at hreleased
          cases hreleased
        have hbound := hbinds.result
        have hleasePayload : lease.payload = .execution payload := hpayload
        rw [hleasePayload] at hbound
        obtain ⟨outcome, found, houtcome, hfound, hfits⟩ := validateResult_execution hbound
        refine ⟨receipt, outcome, found, hreceipts, rfl, hbinds.leaseId, hcomplete, houtcome,
          hfound, ?_⟩
        have hkind : receipt.kind ≠ .workspace := by
          rw [hbinds.kind]
          unfold BaselineResourceLease.kind
          rw [hleasePayload]
          exact BaselineResourceKind.noConfusion
        have hfoundComplete := result_of_validates hreceipt hkind houtcome hfound
        refine Nat.pos_of_ne_zero fun hzero => ?_
        exact hfits.2.2 ⟨hdispatched, hnone, hzero, hfoundComplete.trans hcomplete⟩
      · exact hfollows.found (hI l hbefore hreleased payload hpayload hdispatched hnone)
  | same hleases =>
      rw [hleases] at hl
      exact hfollows.found (hI l hl hreleased payload hpayload hdispatched hnone)

end AgentFleet.Baseline
