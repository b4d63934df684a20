import AgentFleet.Baseline.Continuity
import AgentFleet.Baseline.Release

/-! # Baselines that nothing is added to

A baseline is closed once it is fenced or its command has a native handle.  An effect moves a
closed baseline on at most by finalizing a lease (`Effect.continues`), and leaves a baseline alone
whose execution it keeps (`Effect.idle`). -/

namespace AgentFleet.Baseline

open Relational Checks Transition

variable {svc : BaselineServices} {t t' : BaselineTables}

/-- The command of the baseline has a native handle. -/
def Handled (t : BaselineTables) (baselineId : String) : Prop :=
  ∃ leaseId payload native, Held t baselineId leaseId (.execution payload)
    ∧ payload.handle = some native

/-- Nothing is reserved, activated or dispatched any more. -/
def Closed (t : BaselineTables) (baselineId : String) : Prop :=
  Fenced t baselineId ∨ Handled t baselineId

/-- What the effects keep of the resources. -/
structure ResourcesKept (svc : BaselineServices) (t : BaselineTables) : Prop where
  rows : RowsHold svc t
  fences : FencesHold t
  ordered : ReleasedInOrder t
  links : LinksHold svc t
  creating : CreatingUnfinished t
  resources : ∀ review ∈ t.reviews, ResourcesHold svc t review

theorem resourcesKept_empty (svc : BaselineServices) : ResourcesKept svc .empty where
  rows := rowsHold_empty svc
  fences := fencesHold_empty
  ordered := releasedInOrder_empty
  links := linksHold_empty svc
  creating row h := absurd h (Table.not_mem_empty row)
  resources row h := absurd h (Table.not_mem_empty row)

theorem resourcesKept_effect {result : BaselineResult} (h : Effect svc t result t')
    (hI : ResourcesKept svc t) : ResourcesKept svc t' where
  rows := rowsHold_effect h hI.rows
  fences := fencesHold_effect h hI.fences
  ordered := releasedInOrder_effect h hI.fences hI.ordered
  links := linksHold_effect h (rowsHold_effect h hI.rows) hI.links
  creating := creatingUnfinished_effect h hI.creating
  resources := resourcesHold_effect h hI.rows hI.links hI.creating hI.resources

/-! ### Work on a closed baseline -/

section Closed

variable (hI : ResourcesKept svc t) {claim : BaselineOwnerClaim} {execution : BaselineExecution}
  (hactive : Active svc t claim execution)

include hI hactive

/-- What an active owner holds fits its review. -/
theorem resources_of_active : ∃ review ∈ t.reviews, review.baselineId = execution.baselineId
    ∧ ResourcesHold svc t review := by
  obtain ⟨review, hmem, hfits⟩ := hI.links.reviewed execution (executionOf_ok.mp hactive.current).1
  exact ⟨review, hmem, hfits.baselineId.symm, hI.resources review hmem⟩

theorem handled_of_closed (h : Closed t execution.baselineId) : Handled t execution.baselineId :=
  h.resolve_left (hactive.not_fenced hI.fences)

/-- The workspace, the sandbox and the command of a baseline with a native handle. -/
theorem handled_resources (h : Handled t execution.baselineId) :
    ∃ commandId command native sandboxId sandbox workspaceId,
      Held t execution.baselineId commandId (.execution command)
        ∧ command.handle = some native
        ∧ Held t execution.baselineId sandboxId (.sandbox sandbox)
        ∧ sandbox.handle = some command.sandbox
        ∧ Held t execution.baselineId workspaceId (.workspace sandbox.spec.workspace) := by
  obtain ⟨commandId, command, native, hcommand, hnative⟩ := h
  obtain ⟨review, -, hid, hhold⟩ := resources_of_active hI hactive
  rw [← hid] at hcommand ⊢
  obtain ⟨⟨sandboxId, sandbox, hsandbox, hhandle⟩, -⟩ := hhold.commands commandId command hcommand
  obtain ⟨⟨workspaceId, hworkspace⟩, -⟩ := hhold.sandboxes sandboxId sandbox hsandbox
  exact ⟨commandId, command, native, sandboxId, sandbox, workspaceId, hcommand, hnative, hsandbox,
    hhandle, hworkspace⟩

variable {review : BaselineReview} {lease : BaselineResourceLease}

/-- Nothing is reserved for a closed baseline. -/
theorem not_reserved_of_closed {snapshot : BaselineResourceSnapshot}
    (hsnapshot : resourceSnapshot svc t execution.baselineId = .ok snapshot)
    (hkind : lease.kind ∉ snapshot.leases.map BaselineResourceLease.kind)
    (hfits : reservationFits svc review snapshot.leases lease.payload) :
    ¬ Closed t execution.baselineId := by
  intro hclosed
  obtain ⟨_, _, _, sandboxId, sandbox, workspaceId, -, -, hsandbox, -, hworkspace⟩ :=
    handled_resources hI hactive (handled_of_closed hI hactive hclosed)
  obtain ⟨_, hreads⟩ := resourceSnapshot_ok.mp hsnapshot
  have hheld : ∀ leaseId payload, Held t execution.baselineId leaseId payload →
      payload.kind ∈ snapshot.leases.map BaselineResourceLease.kind := by
    intro leaseId payload hpayload
    obtain ⟨found, hfound, -, hsame⟩ := held_iff_leaseRows.mp hpayload
    rw [hreads.leases] at hfound
    refine List.mem_map.mpr ⟨found, hfound, ?_⟩
    unfold BaselineResourceLease.kind
    rw [hsame]
  unfold BaselineResourceLease.kind at hkind
  cases hpayload : lease.payload with
  | workspace =>
      rw [hpayload] at hkind
      have hmem := hheld workspaceId _ hworkspace
      exact hkind hmem
  | sandbox =>
      rw [hpayload] at hkind
      have hmem := hheld sandboxId _ hsandbox
      exact hkind hmem
  | execution =>
      rw [hpayload] at hfits
      exact hfits

/-- No lease of a closed baseline progresses. -/
theorem not_progressed_of_closed {status : BaselineLeaseStatus}
    {old payload : BaselineResourcePayload} {result : BaselineResourceLease → BaselineResult}
    (hlease : lease ∈ t.leases) (howner : lease.owner = claim.owner)
    (hcreating : lease.status = .creating) (hold : lease.payload = old)
    (hstep : PayloadStep svc review old status payload result) :
    ¬ Closed t execution.baselineId := by
  intro hclosed
  obtain ⟨commandId, command, native, sandboxId, sandbox, workspaceId, hcommand, hnative, hsandbox,
    hhandle, hworkspace⟩ := handled_resources hI hactive (handled_of_closed hI hactive hclosed)
  have hunfinished := hI.creating lease hlease hcreating
  have hheld : Held t execution.baselineId lease.leaseId old := by
    refine ⟨lease, hlease, ?_, rfl, hold⟩
    rw [howner, hactive.baselineId]
  rw [hold] at hunfinished
  have hwhole : ∀ found, found = command → ¬ unfinished (.execution found) := by
    rintro found rfl hnone
    exact Option.some_ne_none native (hnative.symm.trans hnone)
  cases hstep with
  | workspace held =>
      have hsame := (hheld.unique hworkspace rfl).2
      rw [BaselineResourcePayload.workspace.injEq] at hsame
      have hnone : held.materializedSourceSha256 = none := hunfinished
      rw [hsame, materialized_of_held hI.rows hsandbox] at hnone
      cases hnone
  | sandbox payload =>
      have hsame := (hheld.unique hsandbox rfl).2
      rw [BaselineResourcePayload.sandbox.injEq] at hsame
      have hnone : payload.handle = none := hunfinished
      rw [hsame, hhandle] at hnone
      cases hnone
  | mark payload hnot | execute payload handle hcreated hnone =>
      have hsame := (hheld.unique hcommand rfl).2
      rw [BaselineResourcePayload.execution.injEq] at hsame
      exact hwhole payload hsame hunfinished

/-- Nothing is dispatched for a closed baseline. -/
theorem not_dispatched_of_closed {snapshot : BaselineResourceSnapshot}
    (hsnapshot : resourceSnapshot svc t execution.baselineId = .ok snapshot)
    (hnone : snapshot.dispatch = none) : ¬ Closed t execution.baselineId := by
  intro hclosed
  obtain ⟨commandId, command, -, hcommand, -⟩ := handled_of_closed hI hactive hclosed
  obtain ⟨review, -, hid, hhold⟩ := resources_of_active hI hactive
  rw [← hid] at hcommand
  obtain ⟨found, hfound⟩ := hhold.undispatched.mpr ⟨commandId, command, hcommand⟩
  obtain ⟨_, hreads⟩ := resourceSnapshot_ok.mp hsnapshot
  rw [hid] at hfound
  have hsome := (mem_of_dispatchOf hreads.dispatched found).mpr hfound
  rw [hnone] at hsome
  cases hsome

end Closed

/-! ### Effects on a closed baseline -/

/-- What an effect does to the leases of a closed baseline. -/
inductive ClosedLeases (svc : BaselineServices) (baselineId : String) (t t' : BaselineTables) :
    Prop where
  | same (h : ∀ lease, lease.owner.baselineId = baselineId →
      (lease ∈ t'.leases ↔ lease ∈ t.leases))
  | finalized {lease : BaselineResourceLease} {receipt : BaselineCleanupReceipt}
      (hunreleased : lease.status ≠ .released) (hlater : lease.updatedAt ≤ receipt.completedAt)
      (hreplace : t.leases.replace? lease (finalized svc lease receipt) = some t'.leases)

variable {lease l : BaselineResourceLease} {baselineId : String} {result : BaselineResult}
  {e : BaselineExecution}

theorem mem_insert_other (h : t.leases.insert lease = some t'.leases)
    (hother : lease.owner.baselineId ≠ baselineId) (hid : l.owner.baselineId = baselineId) :
    l ∈ t'.leases ↔ l ∈ t.leases := by
  rw [Table.mem_insert h]
  refine or_iff_left ?_
  rintro rfl
  exact hother hid

theorem mem_replace_other {next : BaselineResourceLease}
    (h : t.leases.replace? lease next = some t'.leases) (howner : next.owner = lease.owner)
    (hother : lease.owner.baselineId ≠ baselineId) (hid : l.owner.baselineId = baselineId) :
    l ∈ t'.leases ↔ l ∈ t.leases := by
  rw [Table.mem_replace? h]
  constructor
  · rintro (rfl | ⟨hmem, -⟩)
    · rw [howner] at hid
      exact absurd hid hother
    · exact hmem
  · intro hmem
    refine .inr ⟨hmem, ?_⟩
    rintro rfl
    exact hother hid

theorem Effect.closed_leases (h : Effect svc t result t') (hI : ResourcesKept svc t)
    (hclosed : Closed t baselineId) : ClosedLeases svc baselineId t t' := by
  cases h with
  | reserved hactive hreview hsnapshot howner hcreating hkind hfits hvalid hinsert =>
      refine .same fun l hid => mem_insert_other hinsert (fun hsame => ?_) hid
      rw [howner, hactive.baselineId] at hsame
      rw [← hsame] at hclosed
      exact not_reserved_of_closed hI hactive hsnapshot hkind hfits hclosed
  | progressed hactive hreview hlease howner hcreating hold hstep hvalid hreplace =>
      refine .same fun l hid => mem_replace_other hreplace ?_ (fun hsame => ?_) hid
      · rfl
      · rw [howner, hactive.baselineId] at hsame
        rw [← hsame] at hclosed
        exact not_progressed_of_closed hI hactive hlease howner hcreating hold hstep hclosed
  | dispatched hactive hreview hsnapshot hundispatched hready howner hcreating hpayload hfits hlease hleases =>
      refine .same fun l hid => mem_insert_other hleases (fun hsame => ?_) hid
      rw [howner, hactive.baselineId] at hsame
      rw [← hsame] at hclosed
      exact not_dispatched_of_closed hI hactive hsnapshot hundispatched hclosed
  | finalized hread hlease honly hunreleased hordered hbinds hreceipt hreceipts hvalid hreplace => exact .finalized hunreleased hbinds.later hreplace
  | _ => exact .same fun _ _ => Iff.rfl

/-- A finalized lease is what a cleanup makes of it. -/
theorem finalized_continues {receipt : BaselineCleanupReceipt}
    (hunreleased : lease.status ≠ .released) (hlater : lease.updatedAt ≤ receipt.completedAt) :
    LeaseContinues lease (finalized svc lease receipt) := by
  refine ⟨rfl, rfl, rfl, rfl, Nat.le_succ _, hlater, fun hstatus => ?_, fun hsame => ?_, fun _ => ?_⟩
  · exact absurd hstatus hunreleased
  · exact absurd hsame (Nat.ne_of_lt (Nat.lt_succ_self _))
  · refine ⟨?_, rfl⟩
    unfold finalized
    split_ifs
    · exact .inr rfl
    · exact .inl rfl

theorem ClosedLeases.continues (h : ClosedLeases svc baselineId t t') :
    List.Forall₂ LeaseContinues (t.leaseRows baselineId) (t'.leaseRows baselineId) := by
  cases h with
  | same h =>
      rw [leaseRows_congr h]
      exact List.forall₂_same.mpr fun lease _ => leaseContinues_refl lease
  | @finalized lease receipt hunreleased hlater hreplace =>
      rw [leaseRows_replace hreplace rfl rfl, List.forall₂_map_right_iff]
      refine List.forall₂_same.mpr fun row _ => ?_
      by_cases hsame : row = lease
      · rw [if_pos hsame, hsame]
        exact finalized_continues hunreleased hlater
      · rw [if_neg hsame]
        exact leaseContinues_refl row

/-- Nothing is dispatched for a closed baseline. -/
theorem Effect.closed_dispatches (h : Effect svc t result t') (hI : ResourcesKept svc t)
    (hclosed : Closed t baselineId) {found : BaselineDispatchClaim}
    (hfound : DispatchedBy t' baselineId found) : DispatchedBy t baselineId found := by
  cases h with
  | dispatched hactive hreview hsnapshot hundispatched hready howner hcreating hpayload hfits hlease hleases hclaim hclaims =>
      obtain ⟨hmem, hid⟩ := hfound
      rcases (Table.mem_insert hclaims).mp hmem with hold | rfl
      · exact ⟨hold, hid⟩
      · rw [← (hid.symm.trans hactive.baselineId).symm] at hclosed
        exact absurd hclosed (not_dispatched_of_closed hI hactive hsnapshot hundispatched)
  | _ => exact hfound

/-- An effect moves a closed baseline on. -/
theorem Effect.continues (h : Effect svc t result t') (hI : ResourcesKept svc t)
    (hclosed : Closed t baselineId) :
    Continues svc baselineId t t' where
  follows := h.follows
  rows := rowsHold_effect h hI.rows
  dispatches _ hfound := h.closed_dispatches hI hclosed hfound
  leases := (h.closed_leases hI hclosed).continues

/-! ### Baselines that an effect leaves alone -/

/-- The leases and the events of a baseline stay. -/
structure Idle (baselineId : String) (t t' : BaselineTables) : Prop where
  leases : t'.leaseRows baselineId = t.leaseRows baselineId
  dispatches : ∀ claim, DispatchedBy t' baselineId claim ↔ DispatchedBy t baselineId claim
  events : ∀ event, event.baselineId = baselineId → (event ∈ t'.events ↔ event ∈ t.events)

theorem Idle.refl (baselineId : String) (t : BaselineTables) : Idle baselineId t t :=
  ⟨rfl, fun _ => Iff.rfl, fun _ _ => Iff.rfl⟩

/-- An execution that is kept is not the one whose next revision was written. -/
theorem Bumps.other {execution next : BaselineExecution} {executions : Table BaselineExecution}
    (h : Bumps svc t.executions execution next executions) {now : Timestamp}
    {status : BaselineStatus} {ownerClaimId : Option String} {report : Option Sha256}
    (hnext : next = { bumped now execution with
      status := status
      ownerClaimId := ownerClaimId
      currentReportSha256 := report })
    {e : BaselineExecution} (he : e ∈ t.executions) (he' : e ∈ executions) :
    execution.baselineId ≠ e.baselineId := by
  have hstored := (Table.replace?_eq_some h.replaced).1
  intro hid
  have hsame : e = execution := Table.eq_of_clash he hstored hid.symm
  rcases (Table.mem_replace? h.replaced).mp he' with heq | ⟨-, hne⟩
  · have hrevision : execution.revision = execution.revision + 1 := by
      rw [heq, hnext] at hsame
      exact (congrArg BaselineExecution.revision hsame).symm
    omega
  · exact hne hsame

/-- The owner of a baseline whose execution was bumped is another. -/
theorem Active.other_owner {claim : BaselineOwnerClaim} {execution : BaselineExecution}
    (h : Active svc t claim execution) {owner : BaselineResourceOwner}
    (howner : owner = claim.owner) (hother : execution.baselineId ≠ e.baselineId) :
    owner.baselineId ≠ e.baselineId := by
  rw [howner, h.baselineId]
  exact hother

theorem Effect.idle (h : Effect svc t result t') (he : e ∈ t.executions) (he' : e ∈ t'.executions) :
    Idle e.baselineId t t' := by
  cases h with
  | reserved hactive hreview hsnapshot howner hcreating hkind hfits hvalid hinsert hbump =>
      have hother := hbump.other rfl he he'
      refine { Idle.refl e.baselineId t with leases := leaseRows_congr fun l hid => ?_ }
      exact mem_insert_other hinsert (hactive.other_owner howner hother) hid
  | progressed hactive hreview hlease howner hcreating hold hstep hvalid hreplace hbump =>
      have hother := hbump.other rfl he he'
      refine { Idle.refl e.baselineId t with leases := leaseRows_congr fun l hid => ?_ }
      refine mem_replace_other hreplace ?_ (hactive.other_owner howner hother) hid
      rfl
  | dispatched hactive hreview hsnapshot hundispatched hready howner hcreating hpayload hfits hlease hleases hclaim hclaims hnext hbump =>
      have hother := hbump.other hnext he he'
      refine { Idle.refl e.baselineId t with
        leases := leaseRows_congr fun l hid => ?_
        dispatches := fun found => ?_ }
      · exact mem_insert_other hleases (hactive.other_owner howner hother) hid
      · unfold DispatchedBy
        rw [Table.mem_insert hclaims, or_and_right]
        refine or_iff_left ?_
        rintro ⟨rfl, hid⟩
        exact hactive.other_owner rfl hother hid
  | cleanupClaimed hsnapshot hvalid hinsert hnext hbump =>
      have hother := hbump.other hnext he he'
      refine { Idle.refl e.baselineId t with events := fun event hid => ?_ }
      rw [Table.mem_insert hinsert]
      refine or_iff_left ?_
      rintro rfl
      exact hother hid
  | finalized hread hlease honly hunreleased hordered hbinds hreceipt hreceipts hvalid hreplace hbump =>
      have hother := hbump.other rfl he he'
      obtain ⟨-, hcurrent⟩ := fenced_of_validateCleanup hread
      obtain ⟨changed, hcleanup⟩ := validateCleanup_ok.mp hread
      obtain ⟨review, hreads⟩ := resourceSnapshot_ok.mp hcleanup.resources
      refine { Idle.refl e.baselineId t with leases := leaseRows_congr fun l hid => ?_ }
      refine mem_replace_other hreplace ?_ ?_ hid
      · rfl
      · rw [((hcurrent _).mp hlease).2, ← (executionOf_ok.mp hreads.execution).2.1]
        exact hother
  | _ => exact ⟨rfl, fun _ => Iff.rfl, fun _ _ => Iff.rfl⟩

end AgentFleet.Baseline
