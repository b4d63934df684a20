import AgentFleet.Baseline.Resources
import Mathlib.Data.List.Forall2

/-! # What later states leave readable

`Continues svc baselineId t t'` says how a baseline may move on once it is fenced: its leases go on
to what a cleanup makes of them, nothing is dispatched, and every other row is kept.  Cleanup
claims, receipts and reports that were accepted in `t` are then accepted in `t'`: the proofs go
through the checks of the source in order (`Persists`). -/

namespace AgentFleet.Baseline

open Relational Checks Transition

variable {svc : BaselineServices} {t t' : BaselineTables}

/-! ### Leases that a cleanup moves on -/

theorem laterLease_refl (lease : BaselineResourceLease) : laterLease lease lease := by
  refine ⟨rfl, rfl, rfl, le_refl _, le_refl _, fun _ => rfl, fun _ => rfl, fun h => ?_⟩
  exact absurd h (Nat.lt_irrefl _)

theorem laterLease_trans {first second third : BaselineResourceLease}
    (h : laterLease first second) (h' : laterLease second third) : laterLease first third := by
  obtain ⟨howner, hpayload, hcreated, hrevision, hupdated, hreleased, hsame, hended⟩ := h
  obtain ⟨howner', hpayload', hcreated', hrevision', hupdated', hreleased', hsame', hended'⟩ := h'
  refine ⟨howner.trans howner', hpayload.trans hpayload', hcreated.trans hcreated',
    hrevision.trans hrevision', le_trans hupdated hupdated', fun hstatus => ?_, fun heq => ?_,
    fun hlt => ?_⟩
  · have heq := hreleased hstatus
    subst heq
    exact hreleased' hstatus
  · have hfirst := hsame (by omega)
    have hsecond := hsame' (by omega)
    exact hfirst.trans hsecond
  · by_cases hmoved : second.revision < third.revision
    · exact hended' hmoved
    · have hsecond := hsame' (by omega)
      have hfirst := hended (by omega)
      rw [← hsecond]
      exact hfirst

/-- A lease is moved on in its place. -/
def LeaseContinues (lease later : BaselineResourceLease) : Prop :=
  lease.leaseId = later.leaseId ∧ laterLease lease later

theorem leaseContinues_refl (lease : BaselineResourceLease) : LeaseContinues lease lease :=
  ⟨rfl, laterLease_refl lease⟩

theorem leaseContinues_trans (first second third : BaselineResourceLease)
    (h : LeaseContinues first second) (h' : LeaseContinues second third) :
    LeaseContinues first third :=
  ⟨h.1.trans h'.1, laterLease_trans h.2 h'.2⟩

theorem forall₂_trans {α : Type} {R : α → α → Prop} (hR : ∀ a b c, R a b → R b c → R a c) :
    ∀ {l m n : List α}, List.Forall₂ R l m → List.Forall₂ R m n → List.Forall₂ R l n
  | _, _, _, .nil, .nil => .nil
  | _, _, _, .cons hab h, .cons hbc h' => .cons (hR _ _ _ hab hbc) (forall₂_trans hR h h')

/-- Leases with the same identifiers whose pairs are later versions. -/
theorem forall₂_of_zip {originals currents : List BaselineResourceLease}
    (hids : originals.map BaselineResourceLease.leaseId
      = currents.map BaselineResourceLease.leaseId)
    (hlater : ∀ pair ∈ originals.zip currents, laterLease pair.1 pair.2) :
    List.Forall₂ LeaseContinues originals currents := by
  induction originals generalizing currents with
  | nil =>
      cases currents with
      | nil => exact .nil
      | cons => cases hids
  | cons original originals ih =>
      cases currents with
      | nil => cases hids
      | cons =>
          rw [List.map_cons, List.map_cons, List.cons.injEq] at hids
          refine .cons ⟨hids.1, hlater _ List.mem_cons_self⟩ (ih hids.2 fun pair hpair => ?_)
          exact hlater pair (List.mem_cons_of_mem _ hpair)

theorem leaseIds_of_forall₂ {originals currents : List BaselineResourceLease}
    (h : List.Forall₂ LeaseContinues originals currents) :
    originals.map BaselineResourceLease.leaseId = currents.map BaselineResourceLease.leaseId := by
  induction h with
  | nil => rfl
  | cons hhead _ ih => rw [List.map_cons, List.map_cons, hhead.1, ih]

/-! ### Baselines that continue -/

/-- How a fenced baseline moves on. -/
structure Continues (svc : BaselineServices) (baselineId : String) (t t' : BaselineTables) :
    Prop where
  follows : Follows t t'
  rows : RowsHold svc t'
  dispatches : ∀ claim, DispatchedBy t' baselineId claim → DispatchedBy t baselineId claim
  leases : List.Forall₂ LeaseContinues (t.leaseRows baselineId) (t'.leaseRows baselineId)

section Continues

variable {baselineId : String} (h : Continues svc baselineId t t')

include h

theorem Continues.owner : Persists (ownerOf svc t baselineId) (ownerOf svc t' baselineId) :=
  fun _ hread => h.follows.ownerOf h.rows hread

theorem Continues.review (reviewId : String) :
    Persists (reviewOf svc t reviewId) (reviewOf svc t' reviewId) :=
  fun _ hread => h.follows.reviewOf h.rows hread

theorem Continues.dispatch : Persists (dispatchOf svc t baselineId) (dispatchOf svc t' baselineId) :=
  fun _ hread => h.follows.dispatchOf (fun claim hmem hid => (h.dispatches claim ⟨hmem, hid⟩).1) hread

theorem Continues.receipt (sha256 : Sha256) :
    Persists (oneDigested svc t.receipts sha256) (oneDigested svc t'.receipts sha256) := by
  intro receipt hread
  obtain ⟨hmem, hvalid⟩ := (oneDigested_ok receipt_key).mp hread
  exact (oneDigested_ok receipt_key).mpr ⟨h.follows.receipts _ hmem, hvalid⟩

theorem Continues.report (sha256 : Sha256) :
    Persists (oneDigested svc t.reports sha256) (oneDigested svc t'.reports sha256) := by
  intro report hread
  obtain ⟨hmem, hvalid⟩ := (oneDigested_ok report_key).mp hread
  exact (oneDigested_ok report_key).mpr ⟨h.follows.reports _ hmem, hvalid⟩

/-- An event that was accepted is accepted. -/
theorem Continues.event {event : BaselineEvent} {owner : BaselineOwnerClaim}
    {current : BaselineExecution} (hfits : EventFits svc t baselineId event owner current) :
    ∃ later, EventFits svc t' baselineId event owner later := by
  obtain ⟨later, hlater, hfollows⟩ := h.follows.executionOf h.rows hfits.execution
  have horiginals := forall₂_of_zip hfits.leaseIds hfits.later
  have hcurrents := forall₂_trans leaseContinues_trans horiginals h.leases
  have hrevision := hfits.fenced.revision
  have hle := hfollows.revision
  refine ⟨later, { hfits with
    owned := h.owner owner hfits.owned
    execution := hlater
    fenced := ?_
    dispatched := h.dispatch _ hfits.dispatched
    encodable := fun lease hlease => h.rows.leases lease (mem_leaseRows.mp hlease).1
    leaseIds := leaseIds_of_forall₂ hcurrents
    later := ?_ }⟩
  · exact {
      reviewId := hfits.fenced.reviewId.trans hfollows.reviewId.symm
      reviewSha256 := hfits.fenced.reviewSha256.trans hfollows.reviewSha256.symm
      ownerClaimId := hfits.fenced.ownerClaimId
      revision := by omega }
  · rintro ⟨original, current'⟩ hpair
    exact (List.forall₂_zip hcurrents hpair).2

theorem Continues.cleanupEvent {scopeSha256 : Sha256} {claim : BaselineCleanupClaim}
    (hread : cleanupEvent svc t baselineId (some scopeSha256) = .ok (some claim)) :
    cleanupEvent svc t' baselineId (some scopeSha256) = .ok (some claim) := by
  obtain ⟨event, hevent, hid, hscope, hclaim, owner, current, hfits⟩ :=
    cleanupEvent_scope_ok.mp hread
  obtain ⟨later, hlater⟩ := h.event hfits
  exact cleanupEvent_scope_ok.mpr ⟨event, h.follows.events event hevent, hid, hscope, hclaim, owner,
    later, hlater⟩

/-- A check that demands the cleanup claim with a scope. -/
theorem Continues.demandEvent {β : Type} {scopeSha256 : Sha256}
    {f g : BaselineCleanupClaim → Except FleetError β} (hf : ∀ claim, Persists (f claim) (g claim)) :
    Persists
      (Baseline.cleanupEvent svc t baselineId (some scopeSha256) >>= fun scope =>
        demand unavailable scope >>= f)
      (Baseline.cleanupEvent svc t' baselineId (some scopeSha256) >>= fun scope =>
        demand unavailable scope >>= g) := by
  refine .bind (fun event hevent hrest => ?_) fun event _ => .after fun claim _ => hf claim
  obtain ⟨result, hresult⟩ := hrest
  obtain ⟨claim, hclaim, -⟩ := bind_ok.mp hresult
  rw [demand_ok] at hclaim
  subst hclaim
  exact h.cleanupEvent hevent

theorem Continues.receiptState {receipt : BaselineCleanupReceipt}
    (hid : receipt.owner.baselineId = baselineId) (expected : Option BaselineResourceLease) :
    Persists (receiptState svc t receipt expected) (receiptState svc t' receipt expected) := by
  unfold Baseline.receiptState
  rw [hid]
  exact h.demandEvent fun claim => .refl _

theorem Continues.validateLeaseReceipt {claim : BaselineOwnerClaim}
    (hid : claim.owner.baselineId = baselineId) (lease : BaselineResourceLease) :
    Persists (validateLeaseReceipt svc t claim lease) (validateLeaseReceipt svc t' claim lease) := by
  unfold Baseline.validateLeaseReceipt
  cases lease.receiptSha256 with
  | none => exact .refl _
  | some sha256 =>
      refine .step (h.receipt sha256) fun receipt _ => .after fun _ hguard => .step ?_ fun _ _ => .refl _
      have howner := refuse_ok.mp hguard
      push Not at howner
      refine h.receiptState ?_ _
      rw [howner.1, hid]

/-! ### Reports -/

theorem Continues.reportReceipts {owner : BaselineOwnerClaim} {report : BaselineReport} :
    ∀ (digests : List Sha256) (selected : List BaselineCleanupReceipt),
      Persists (reportReceipts svc t owner report selected digests)
        (reportReceipts svc t' owner report selected digests)
  | [], _ => .refl _
  | sha256 :: digests, selected => by
      unfold Baseline.reportReceipts
      exact .step (h.receipt sha256) fun receipt _ => .after fun _ _ =>
        Continues.reportReceipts digests (selected ++ [receipt])

theorem Continues.reportedState {scope : BaselineCleanupClaim}
    {receipts : List BaselineCleanupReceipt}
    (hids : ∀ receipt ∈ receipts, receipt.owner.baselineId = baselineId)
    (original : BaselineResourceLease) :
    Persists (reportedState svc t scope receipts original)
      (reportedState svc t' scope receipts original) := by
  unfold Baseline.reportedState
  cases hfound : receipts.find? fun receipt => receipt.leaseId = original.leaseId with
  | none => exact .refl _
  | some receipt =>
      have hid := hids receipt (List.mem_of_find?_eq_some hfound)
      dsimp only
      split_ifs with hsame
      · exact h.receiptState hid _
      · exact .after fun _ _ => h.receiptState hid _

theorem Continues.reportedStates {scope : BaselineCleanupClaim}
    {receipts : List BaselineCleanupReceipt}
    (hids : ∀ receipt ∈ receipts, receipt.owner.baselineId = baselineId) :
    ∀ originals : List BaselineResourceLease, Persists (reportedStates svc t scope receipts originals)
      (reportedStates svc t' scope receipts originals)
  | [] => .refl _
  | original :: originals => by
      unfold Baseline.reportedStates
      exact .step (h.reportedState hids original) fun _ _ =>
        .step (Continues.reportedStates hids originals) fun _ _ => .refl _

omit h in
/-- The receipts of a report belong to the owner. -/
theorem owner_of_reportReceipts {owner : BaselineOwnerClaim} {report : BaselineReport} :
    ∀ {digests : List Sha256} {selected receipts : List BaselineCleanupReceipt},
      (∀ receipt ∈ selected, receipt.owner = owner.owner) →
      reportReceipts svc t owner report selected digests = .ok receipts →
      ∀ receipt ∈ receipts, receipt.owner = owner.owner
  | [], _, _, hselected, hread => by
      cases hread
      exact hselected
  | sha256 :: digests, selected, receipts, hselected, hread => by
      unfold Baseline.reportReceipts at hread
      obtain ⟨receipt, -, hread⟩ := bind_ok.mp hread
      obtain ⟨_, hguard, hread⟩ := bind_ok.mp hread
      have howner := refuse_ok.mp hguard
      push Not at howner
      refine owner_of_reportReceipts (fun other hother => ?_) hread
      rcases List.mem_append.mp hother with hold | hnew
      · exact hselected other hold
      · rw [List.mem_singleton.mp hnew]
        exact howner.1

theorem Continues.validatePredecessor {report : BaselineReport}
    {execution later : BaselineExecution} (hid : execution.baselineId = baselineId)
    (hlater : later.baselineId = execution.baselineId) (scope : BaselineCleanupClaim) :
    Persists (validatePredecessor svc t report execution scope)
      (validatePredecessor svc t' report later scope) := by
  unfold Baseline.validatePredecessor
  rw [hlater, hid]
  cases report.predecessorReportSha256 with
  | none => exact .refl _
  | some sha256 =>
      refine .step (h.report sha256) fun predecessor _ => .bind (fun event hevent hrest => ?_)
        fun event _ => .refl _
      obtain ⟨result, hresult⟩ := hrest
      obtain ⟨_, -, hresult⟩ := bind_ok.mp hresult
      obtain ⟨claim, hclaim, -⟩ := bind_ok.mp hresult
      rw [demand_ok] at hclaim
      subst hclaim
      exact h.cleanupEvent hevent

/-- A report that was accepted is accepted. -/
theorem Continues.validateReportFacts {report : BaselineReport} {execution later : BaselineExecution}
    (hid : execution.baselineId = baselineId) (hlater : later.baselineId = execution.baselineId)
    (hreview : later.reviewId = execution.reviewId)
    (observation : Option BaselineCommandObservation) :
    Persists (validateReportFacts svc t report execution observation)
      (validateReportFacts svc t' report later observation) := by
  unfold Baseline.validateReportFacts
  rw [hreview, hlater, hid]
  refine .step (h.review _) fun review _ => .step h.owner fun owner howner =>
    h.demandEvent fun scope => .after fun _ _ => .after fun _ _ => .after fun _ _ =>
    .step (h.reportReceipts _ _) fun receipts hreceipts => .after fun _ _ => ?_
  obtain ⟨_, _, _, howned⟩ := ownerOf_ok.mp howner
  have hids : ∀ receipt ∈ receipts, receipt.owner.baselineId = baselineId := by
    intro receipt hmem
    have hnone : ∀ receipt ∈ ([] : List BaselineCleanupReceipt), receipt.owner = owner.owner :=
      fun receipt hmem => absurd hmem List.not_mem_nil
    rw [owner_of_reportReceipts hnone hreceipts receipt hmem]
    exact howned.ofBaseline
  exact .step (h.reportedStates hids _) fun _ _ => .after fun _ _ =>
    h.validatePredecessor hid hlater scope

end Continues

end AgentFleet.Baseline
