import AgentFleet.Baseline.History
import Mathlib.Data.String.Basic

/-! # Rows that can be read

Every row of the store is valid (`RowsHold`), so a read by a key finds what was written, and what
a read has found of a review, an execution, an owner or a dispatch is found again in every later
state. -/

namespace AgentFleet.Baseline

open Relational Checks Transition

variable {svc : BaselineServices} {t t' : BaselineTables}

/-! ### Valid rows -/

/-- A row is valid and is stored under its digest. -/
def Readable {α : Type} [BaselineModel α] (svc : BaselineServices) (row : Digested α) : Prop :=
  svc.digestOf row.value = row.sha256 ∧ svc.encodable row.value = true

/-- Every row is valid. -/
structure RowsHold (svc : BaselineServices) (t : BaselineTables) : Prop where
  executions : ∀ execution ∈ t.executions, svc.encodable execution = true
  reviews : ∀ review ∈ t.reviews, svc.encodable review = true
  authorizations : ∀ authorization ∈ t.authorizations, svc.encodable authorization = true
  ownerClaims : ∀ claim ∈ t.ownerClaims, svc.encodable claim = true
  dispatchClaims : ∀ claim ∈ t.dispatchClaims, svc.encodable claim = true
  leases : ∀ lease ∈ t.leases, svc.encodable lease = true
  observations : ∀ row ∈ t.observations, Readable svc row
  reports : ∀ row ∈ t.reports, Readable svc row
  receipts : ∀ row ∈ t.receipts, Readable svc row

theorem rowsHold_empty (svc : BaselineServices) : RowsHold svc .empty where
  executions row h := absurd h (Table.not_mem_empty row)
  reviews row h := absurd h (Table.not_mem_empty row)
  authorizations row h := absurd h (Table.not_mem_empty row)
  ownerClaims row h := absurd h (Table.not_mem_empty row)
  dispatchClaims row h := absurd h (Table.not_mem_empty row)
  leases row h := absurd h (Table.not_mem_empty row)
  observations row h := absurd h (Table.not_mem_empty row)
  reports row h := absurd h (Table.not_mem_empty row)
  receipts row h := absurd h (Table.not_mem_empty row)

theorem rows_of_insert {α : Type} [Constrained α] {P : α → Prop} {table table' : Table α} {row : α}
    (h : table.insert row = some table') (hrow : P row) (hP : ∀ a ∈ table, P a) :
    ∀ a ∈ table', P a := by
  intro a ha
  rcases (Table.mem_insert h).mp ha with hold | rfl
  · exact hP a hold
  · exact hrow

theorem rows_of_replace {α : Type} [Constrained α] [DecidableEq α] {P : α → Prop}
    {table table' : Table α} {original next : α} (h : table.replace? original next = some table')
    (hnext : P next) (hP : ∀ a ∈ table, P a) : ∀ a ∈ table', P a := by
  intro a ha
  rcases (Table.mem_replace? h).mp ha with rfl | ⟨hold, -⟩
  · exact hnext
  · exact hP a hold

variable {baselineId : String}

theorem RevokesAuthorization.rows {authorizations : Table BaselineAuthorization}
    (h : RevokesAuthorization svc t baselineId authorizations)
    (hrows : ∀ authorization ∈ t.authorizations, svc.encodable authorization = true) :
    ∀ authorization ∈ authorizations, svc.encodable authorization = true := by
  cases h with
  | none => exact hrows
  | some hbaseline havailable hvalid hreplace => exact rows_of_replace hreplace hvalid hrows

theorem Bumps.rows {original next : BaselineExecution} {executions : Table BaselineExecution}
    (h : Bumps svc t.executions original next executions) (hI : RowsHold svc t) :
    ∀ execution ∈ executions, svc.encodable execution = true :=
  rows_of_replace h.replaced h.encodable hI.executions

theorem rowsHold_effect {result : BaselineResult} (h : Effect svc t result t')
    (hI : RowsHold svc t) : RowsHold svc t' := by
  cases h with
  | authorizedAgain | revokedAgain | observedAgain => exact hI
  | created hexecution hexecutions hreview hreviews =>
      exact { hI with
        executions := rows_of_insert hexecutions hexecution hI.executions
        reviews := rows_of_insert hreviews hreview hI.reviews }
  | authorized hreview hexecution hplanned hvalid hinsert =>
      exact { hI with authorizations := rows_of_insert hinsert hvalid hI.authorizations }
  | revoked hreview hexecution hplanned hauthorizations hnext hbump =>
      exact { hI with
        authorizations := hauthorizations.rows hI.authorizations
        executions := hbump.rows hI }
  | claimed hreview hexecution hplanned hbaseline hreviewId hsha havailable hconsumed hauthorizations hclaim hclaims hnext hbump =>
      exact { hI with
        authorizations := rows_of_replace hauthorizations hconsumed hI.authorizations
        ownerClaims := rows_of_insert hclaims hclaim hI.ownerClaims
        executions := hbump.rows hI }
  | reserved hactive hreview hsnapshot howner hcreating hkind hfits hvalid hinsert hbump =>
      exact { hI with
        leases := rows_of_insert hinsert hvalid hI.leases
        executions := hbump.rows hI }
  | progressed hactive hreview hlease howner hcreating hold hstep hvalid hreplace hbump =>
      exact { hI with
        leases := rows_of_replace hreplace hvalid hI.leases
        executions := hbump.rows hI }
  | dispatched hactive hreview hsnapshot hundispatched hready howner hcreating hpayload hfits hlease hleases hclaim hclaims hnext hbump =>
      exact { hI with
        leases := rows_of_insert hleases hlease hI.leases
        dispatchClaims := rows_of_insert hclaims hclaim hI.dispatchClaims
        executions := hbump.rows hI }
  | observed hactive hbaseline hvalid hinsert hread hbump =>
      exact { hI with
        observations := rows_of_insert hinsert ⟨rfl, hvalid⟩ hI.observations
        executions := hbump.rows hI }
  | cleanupClaimed hsnapshot hvalid hinsert hnext hbump =>
      exact { hI with executions := hbump.rows hI }
  | finalized hread hlease honly hunreleased hordered hbinds hreceipt hreceipts hvalid hreplace hbump =>
      exact { hI with
        receipts := rows_of_insert hreceipts ⟨rfl, hreceipt⟩ hI.receipts
        leases := rows_of_replace hreplace hvalid hI.leases
        executions := hbump.rows hI }
  | published hread hreview hobservation hcurrent hfacts hvalid hinsert hnext hbump =>
      exact { hI with
        reports := rows_of_insert hinsert ⟨rfl, hvalid⟩ hI.reports
        executions := hbump.rows hI }

/-! ### Reads that find the same again -/

/-- The later version of an execution that was read. -/
theorem Follows.executionOf (h : Follows t t') (hrows : RowsHold svc t')
    {execution : BaselineExecution} (hread : executionOf svc t baselineId = .ok execution) :
    ∃ later, executionOf svc t' baselineId = .ok later ∧ ExecutionFollows execution later := by
  obtain ⟨hmem, hid, -⟩ := executionOf_ok.mp hread
  obtain ⟨later, hlater, hfollows⟩ := h.executions execution hmem
  refine ⟨later, executionOf_ok.mpr ⟨hlater, ?_, hrows.executions later hlater⟩, hfollows⟩
  rw [hfollows.baselineId, hid]

/-- A review that was read is read again. -/
theorem Follows.reviewOf (h : Follows t t') (hrows : RowsHold svc t') {reviewId : String}
    {review : BaselineReview} (hread : reviewOf svc t reviewId = .ok review) :
    reviewOf svc t' reviewId = .ok review := by
  obtain ⟨hmem, hid, hvalid, execution, hexecution, -, hfits⟩ := reviewOf_ok.mp hread
  obtain ⟨later, hlater, hfollows⟩ := h.executions execution hexecution
  refine reviewOf_ok.mpr ⟨h.reviews review hmem, hid, hvalid, later, hlater,
    hrows.executions later hlater, ?_⟩
  exact {
    baselineId := hfollows.baselineId.trans hfits.baselineId
    reviewId := hfollows.reviewId.trans hfits.reviewId
    reviewSha256 := hfollows.reviewSha256.trans hfits.reviewSha256
    projectId := hfollows.projectId.trans hfits.projectId }

/-- An owner that was read is read again. -/
theorem Follows.ownerOf (h : Follows t t') (hrows : RowsHold svc t') {claim : BaselineOwnerClaim}
    (hread : ownerOf svc t baselineId = .ok claim) : ownerOf svc t' baselineId = .ok claim := by
  obtain ⟨execution, review, authorization, howned⟩ := ownerOf_ok.mp hread
  obtain ⟨later, hlater, hfollows⟩ := h.executionOf hrows howned.execution
  have hauthorized : authorization ∈ t'.authorizations := by
    obtain ⟨same, hsame, rfl | ⟨havailable, -⟩⟩ := h.authorizations authorization howned.authorized
    · exact hsame
    · rw [howned.consumed] at havailable
      cases havailable
  refine ownerOf_ok.mpr ⟨later, review, authorization, { howned with
    execution := hlater
    reviewed := ?_
    authorized := hauthorized
    claimed := h.ownerClaims claim howned.claimed
    ownerClaimId := hfollows.ownerClaimId _ howned.ownerClaimId }⟩
  rw [hfollows.reviewId]
  exact h.reviewOf hrows howned.reviewed

/-- The dispatch of a baseline is read again where no other was added. -/
theorem Follows.dispatchOf (h : Follows t t') {dispatch : Option BaselineDispatchClaim}
    (hback : ∀ claim ∈ t'.dispatchClaims, claim.owner.baselineId = baselineId →
      claim ∈ t.dispatchClaims) (hread : dispatchOf svc t baselineId = .ok dispatch) :
    dispatchOf svc t' baselineId = .ok dispatch := by
  obtain ⟨hvalid, hfound⟩ := (atMostOne_ok (dispatch_key baselineId)).mp hread
  refine (atMostOne_ok (dispatch_key baselineId)).mpr ⟨fun claim hmem hkey => ?_, fun claim => ?_⟩
  · exact hvalid claim (hback claim hmem (of_decide_eq_true hkey)) hkey
  · rw [hfound claim]
    constructor
    · rintro ⟨hmem, hkey⟩
      exact ⟨h.dispatchClaims claim hmem, hkey⟩
    · rintro ⟨hmem, hkey⟩
      exact ⟨hback claim hmem (of_decide_eq_true hkey), hkey⟩

/-- The dispatch claim of a baseline, where there is one. -/
theorem dispatchOf_some (hrows : RowsHold svc t) {claim : BaselineDispatchClaim}
    (hmem : claim ∈ t.dispatchClaims) (hid : claim.owner.baselineId = baselineId) :
    dispatchOf svc t baselineId = .ok (some claim) := by
  refine (atMostOne_ok (dispatch_key baselineId)).mpr ⟨fun other hother _ => ?_, fun other => ?_⟩
  · exact hrows.dispatchClaims other hother
  · rw [Option.some_inj, decide_eq_true_eq]
    constructor
    · rintro rfl
      exact ⟨hmem, hid⟩
    · rintro ⟨hother, hotherId⟩
      exact Table.eq_of_clash hmem hother (.inr (hid.trans hotherId.symm))

/-- No dispatch claim is read of a baseline that has none. -/
theorem dispatchOf_none (h : ∀ claim ∈ t.dispatchClaims, claim.owner.baselineId ≠ baselineId) :
    dispatchOf svc t baselineId = .ok none := by
  refine (atMostOne_ok (dispatch_key baselineId)).mpr ⟨fun claim hmem hkey => ?_, fun claim => ?_⟩
  · exact absurd (of_decide_eq_true hkey) (h claim hmem)
  · constructor
    · intro hnone
      cases hnone
    · rintro ⟨hmem, hkey⟩
      exact absurd (of_decide_eq_true hkey) (h claim hmem)

/-- The dispatch that was read is that of the table. -/
theorem mem_of_dispatchOf {dispatch : Option BaselineDispatchClaim}
    (h : dispatchOf svc t baselineId = .ok dispatch) (claim : BaselineDispatchClaim) :
    dispatch = some claim
      ↔ claim ∈ t.dispatchClaims ∧ claim.owner.baselineId = baselineId := by
  have hfound := ((atMostOne_ok (dispatch_key baselineId)).mp h).2 claim
  rw [hfound, decide_eq_true_eq]

/-! ### The leases of a baseline in order -/

theorem sorted_leaseRows (t : BaselineTables) (baselineId : String) :
    (t.leaseRows baselineId).Pairwise fun a b => a.leaseId ≤ b.leaseId := by
  have hsorted := @List.pairwise_mergeSort BaselineResourceLease
    (fun a b => decide (a.leaseId ≤ b.leaseId)) (fun a b c hab hbc => ?_) (fun a b => ?_)
    (t.leases.rows.filter fun lease => lease.owner.baselineId = baselineId)
  · exact hsorted.imp of_decide_eq_true
  · rw [decide_eq_true_eq] at hab hbc ⊢
    exact le_trans hab hbc
  · rw [Bool.or_eq_true, decide_eq_true_eq, decide_eq_true_eq]
    exact le_total _ _

theorem nodup_leaseRows (t : BaselineTables) (baselineId : String) :
    (t.leaseRows baselineId).Nodup :=
  .of_map _ (nodup_leaseIds baselineId)

/-- A sorted list of the leases of a baseline is the one that is read. -/
theorem leaseRows_eq {leases : List BaselineResourceLease}
    (hsorted : leases.Pairwise fun a b => a.leaseId ≤ b.leaseId) (hnodup : leases.Nodup)
    (hmem : ∀ lease, lease ∈ leases ↔ lease ∈ t.leases ∧ lease.owner.baselineId = baselineId) :
    t.leaseRows baselineId = leases := by
  have hsame : ∀ lease, lease ∈ t.leaseRows baselineId ↔ lease ∈ leases := by
    intro lease
    rw [mem_leaseRows, hmem lease]
  have hperm : (t.leaseRows baselineId).Perm leases :=
    (List.perm_ext_iff_of_nodup (nodup_leaseRows t baselineId) hnodup).mpr hsame
  refine hperm.eq_of_pairwise (fun a b ha hb hab hba => ?_) (sorted_leaseRows t baselineId) hsorted
  have hrow := (mem_leaseRows.mp ha).1
  have hrow' := ((hmem b).mp hb).1
  exact Table.eq_of_clash hrow hrow' (.inl (le_antisymm hab hba))

/-- The leases that are read of a baseline depend on its rows alone. -/
theorem leaseRows_congr
    (h : ∀ lease, lease.owner.baselineId = baselineId → (lease ∈ t'.leases ↔ lease ∈ t.leases)) :
    t'.leaseRows baselineId = t.leaseRows baselineId := by
  refine leaseRows_eq (sorted_leaseRows t baselineId) (nodup_leaseRows t baselineId) fun lease => ?_
  rw [mem_leaseRows]
  constructor
  · rintro ⟨hmem, hid⟩
    exact ⟨(h lease hid).mpr hmem, hid⟩
  · rintro ⟨hmem, hid⟩
    exact ⟨(h lease hid).mp hmem, hid⟩

/-- A lease is replaced in its place. -/
theorem leaseRows_replace {lease next : BaselineResourceLease}
    (h : t.leases.replace? lease next = some t'.leases) (hid : next.leaseId = lease.leaseId)
    (howner : next.owner = lease.owner) :
    t'.leaseRows baselineId
      = (t.leaseRows baselineId).map fun row => if row = lease then next else row := by
  have hrow : ∀ row : BaselineResourceLease, (if row = lease then next else row).leaseId = row.leaseId
      := by
    intro row
    by_cases hsame : row = lease
    · rw [if_pos hsame, hid, hsame]
    · rw [if_neg hsame]
  have hsorted : ((t.leaseRows baselineId).map fun row => if row = lease then next else row).Pairwise
      fun a b => a.leaseId ≤ b.leaseId := by
    rw [List.pairwise_map]
    refine (sorted_leaseRows t baselineId).imp fun {a b} hab => ?_
    rw [hrow a, hrow b]
    exact hab
  have hnodup : ((t.leaseRows baselineId).map fun row => if row = lease then next else row).Nodup := by
    refine .of_map BaselineResourceLease.leaseId ?_
    rw [List.map_map]
    have hids : (BaselineResourceLease.leaseId ∘ fun row => if row = lease then next else row)
        = BaselineResourceLease.leaseId := funext hrow
    rw [hids]
    exact nodup_leaseIds baselineId
  refine leaseRows_eq hsorted hnodup fun row => ?_
  have hstored := (Table.replace?_eq_some h).1
  rw [List.mem_map, Table.mem_replace? h]
  constructor
  · rintro ⟨original, horiginal, rfl⟩
    obtain ⟨hmem, horiginalId⟩ := mem_leaseRows.mp horiginal
    by_cases hsame : original = lease
    · rw [if_pos hsame]
      refine ⟨.inl rfl, ?_⟩
      rw [howner, ← hsame]
      exact horiginalId
    · rw [if_neg hsame]
      exact ⟨.inr ⟨hmem, hsame⟩, horiginalId⟩
  · rintro ⟨rfl | ⟨hmem, hne⟩, hrowId⟩
    · refine ⟨lease, mem_leaseRows.mpr ⟨hstored, ?_⟩, if_pos rfl⟩
      rw [← howner]
      exact hrowId
    · exact ⟨row, mem_leaseRows.mpr ⟨hmem, hrowId⟩, if_neg hne⟩

end AgentFleet.Baseline
