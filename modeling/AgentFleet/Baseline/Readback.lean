import AgentFleet.Baseline.Moves
import AgentFleet.Baseline.Reports

/-! # The baseline store reads back what it wrote

Every state of a run is accepted by the validators of the store: the resources of an owned
baseline, every cleanup claim, the receipt of every lease, the progress of a cleanup, the
observation and the current report.  The readers bind each record to digests of earlier states;
`Effect.continues` says how far a later scope may have moved on from them. -/

namespace AgentFleet.Baseline

open Relational Checks Transition

variable {svc : BaselineServices} {t t' : BaselineTables}

/-! ### Receipts -/

/-- The receipt of every lease is accepted. -/
def ReceiptsRead (svc : BaselineServices) (t : BaselineTables) : Prop :=
  ∀ lease ∈ t.leases, ∀ claim, ownerOf svc t lease.owner.baselineId = .ok claim →
    validateLeaseReceipt svc t claim lease = .ok ()

/-- Every cleanup claim is accepted. -/
def EventsRead (svc : BaselineServices) (t : BaselineTables) : Prop :=
  ∀ event ∈ t.events, ∃ owner current, EventFits svc t event.baselineId event owner current

/-- Only a lease that a cleanup ended has a receipt. -/
theorem ended_of_receipt (hrows : RowsHold svc t) {lease : BaselineResourceLease}
    (hlease : lease ∈ t.leases) (hreceipt : lease.receiptSha256 ≠ none) :
    lease.status = .released ∨ lease.status = .failed := by
  have hvalid : lease.validates svc.toBaselineModels = true :=
    valid_of_encodable (hrows.leases lease hlease)
  unfold BaselineResourceLease.validates at hvalid
  simp only [Bool.and_eq_true, decide_eq_true_eq] at hvalid
  exact hvalid.2.mpr (Option.isSome_iff_ne_none.mpr hreceipt)

theorem validateLeaseReceipt_none {claim : BaselineOwnerClaim} {lease : BaselineResourceLease}
    (h : lease.receiptSha256 = none) : validateLeaseReceipt svc t claim lease = .ok () := by
  unfold validateLeaseReceipt
  rw [h]

/-- The live cleanup claim is one of the events. -/
theorem event_of_cleanup {baselineId : String} {claim : BaselineCleanupClaim}
    (h : cleanupEvent svc t baselineId none = .ok (some claim)) :
    ∃ event ∈ t.events, event.baselineId = baselineId ∧ event.claim = claim
      ∧ t.lastEvent baselineId none = some event
      ∧ ∃ owner current, EventFits svc t baselineId event owner current := by
  unfold cleanupEvent at h
  cases hlast : t.lastEvent baselineId none with
  | none =>
      rw [hlast] at h
      cases h
  | some event =>
      rw [hlast] at h
      dsimp only at h
      rw [map_ok] at h
      obtain ⟨found, hchecked, hsame⟩ := h
      obtain ⟨hclaim, hfits⟩ := checkedEvent_ok.mp hchecked
      obtain ⟨hmem, hid, -⟩ := lastEvent_last hlast
      refine ⟨event, hmem, hid, ?_, rfl, hfits⟩
      rw [hclaim]
      exact Option.some.inj hsame

/-- The receipt of a finalized lease is accepted. -/
theorem validateLeaseReceipt_finalized {claim : BaselineCleanupClaim}
    {current : BaselineResourceSnapshot} {lease : BaselineResourceLease}
    {receipt : BaselineCleanupReceipt} {owner : BaselineOwnerClaim}
    (hcontinues : Continues svc claim.owner.baselineId t t')
    (hread : validateCleanup svc t claim = .ok current)
    (honly : (claim.snapshot.leases.filter fun item => item.leaseId = lease.leaseId) = [lease])
    (hbinds : ReceiptBinds svc lease receipt claim.scopeSha256)
    (hreceipt : svc.encodable receipt = true)
    (hstored : ⟨svc.digestOf receipt, receipt⟩ ∈ t'.receipts)
    (hvalid : svc.encodable (finalized svc lease receipt) = true)
    (howner : lease.owner = owner.owner) (hid : lease.owner.baselineId = claim.owner.baselineId) :
    validateLeaseReceipt svc t' owner (finalized svc lease receipt) = .ok () := by
  obtain ⟨changed, hcleanup⟩ := validateCleanup_ok.mp hread
  obtain ⟨event, hevent, heventId, hclaim, -, eventOwner, eventCurrent, hfits⟩ :=
    event_of_cleanup hcleanup.event
  have hscope : event.scopeSha256 = receipt.cleanupScopeSha256 := by
    rw [hbinds.scope, ← hfits.scope, hclaim]
  have hbefore : cleanupEvent svc t claim.owner.baselineId (some receipt.cleanupScopeSha256)
      = .ok (some claim) := cleanupEvent_scope_ok.mpr
    ⟨event, hevent, heventId, hscope, hclaim, eventOwner, eventCurrent, hfits⟩
  have hafter := hcontinues.cleanupEvent hbefore
  refine validateLeaseReceipt_ok.mpr fun sha256 hsha => ?_
  cases hsha
  refine ⟨receipt, {
    stored := hstored
    digest := rfl
    encodable := hreceipt
    owner := hbinds.owner.trans howner
    leaseId := hbinds.leaseId
    kind := hbinds.kind
    complete := ?_
    state := receiptState_ok.mpr ⟨fun state hstate => Option.some.inj hstate, claim, lease, {
      event := ?_
      only := ?_
      binds := hbinds
      valid := ?_ }, rfl⟩ }⟩
  · unfold finalized
    by_cases hcomplete : receipt.complete = true
    · simp [hcomplete]
    · simp [hcomplete]
  · rw [hbinds.owner, hid]
    exact hafter
  · rw [hbinds.leaseId]
    exact honly
  · unfold BaselineServices.encodable at hvalid
    rw [Bool.and_eq_true] at hvalid
    exact hvalid.1

theorem receiptsRead_effect {result : BaselineResult} (h : Effect svc t result t')
    (hI : ResourcesKept svc t) (hreceipts : ReceiptsRead svc t) : ReceiptsRead svc t' := by
  have hrows' := rowsHold_effect h hI.rows
  -- a lease that was there: its baseline is fenced, or it has no receipt
  have hkept : ∀ lease ∈ t.leases, ∀ claim, ownerOf svc t' lease.owner.baselineId = .ok claim →
      validateLeaseReceipt svc t' claim lease = .ok () := by
    intro lease hlease claim hclaim
    by_cases hnone : lease.receiptSha256 = none
    · exact validateLeaseReceipt_none hnone
    · have hfenced := hI.ordered.fenced lease hlease (ended_of_receipt hI.rows hlease hnone)
      have hcontinues := h.continues hI (.inl hfenced)
      obtain ⟨owner, howner, -⟩ := hI.links.leases lease hlease
      have hsame : owner = claim :=
        Except.ok.inj ((hcontinues.owner owner howner).symm.trans hclaim)
      subst hsame
      obtain ⟨_, _, _, howned⟩ := ownerOf_ok.mp howner
      exact hcontinues.validateLeaseReceipt howned.ofBaseline lease () (hreceipts lease hlease _ howner)
  have hunended : ∀ lease ∈ t'.leases, lease.status ≠ .released → lease.status ≠ .failed →
      ∀ claim, validateLeaseReceipt svc t' claim lease = .ok () := by
    intro lease hlease hunreleased hunfailed claim
    refine validateLeaseReceipt_none ?_
    by_contra hsome
    rcases ended_of_receipt hrows' hlease hsome with hended | hended
    · exact hunreleased hended
    · exact hunfailed hended
  intro lease hlease claim hclaim
  cases h with
  | finalized hread hin honly hunreleased hordered hbinds hvalidReceipt hstored hvalid hreplace hbump =>
      rcases (Table.mem_replace? hreplace).mp hlease with rfl | ⟨hold, -⟩
      · obtain ⟨hfenced, hcurrent⟩ := fenced_of_validateCleanup hread
        obtain ⟨hbefore, hid⟩ := (hcurrent _).mp hin
        have heffect := Effect.finalized hread hin honly hunreleased hordered hbinds hvalidReceipt
          hstored hvalid hreplace hbump
        have hcontinues := heffect.continues hI (.inl hfenced)
        obtain ⟨owner, howner, hsame⟩ := hI.links.leases _ hbefore
        have hownerClaim : owner = claim := by
          refine Except.ok.inj (Eq.trans ?_ hclaim)
          exact ((heffect.follows.ownerOf hrows' howner).symm)
        refine validateLeaseReceipt_finalized hcontinues hread honly hbinds hvalidReceipt
          ((Table.mem_insert hstored).mpr (.inr rfl)) hvalid ?_ hid
        rw [← hownerClaim]
        exact hsame
      · exact hkept lease hold claim hclaim
  | reserved hactive hreview hsnapshot howner hcreating hkind hfits hvalid hinsert =>
      rcases (Table.mem_insert hinsert).mp hlease with hold | rfl
      · exact hkept lease hold claim hclaim
      · obtain ⟨hunreleased, hunfailed⟩ := unended_of_creating hcreating
        exact hunended lease hlease hunreleased hunfailed claim
  | progressed hactive hreview hin howner hcreating hold hstep hvalid hreplace =>
      rcases (Table.mem_replace? hreplace).mp hlease with rfl | ⟨hold, -⟩
      · exact hunended _ hlease hstep.status.1 hstep.status.2 claim
      · exact hkept lease hold claim hclaim
  | dispatched hactive hreview hsnapshot hundispatched hready howner hcreating hpayload hfits hvalid hleases =>
      rcases (Table.mem_insert hleases).mp hlease with hold | rfl
      · exact hkept lease hold claim hclaim
      · obtain ⟨hunreleased, hunfailed⟩ := unended_of_creating hcreating
        exact hunended lease hlease hunreleased hunfailed claim
  | _ => exact hkept lease hlease claim hclaim

/-- The resources of an owned baseline can be read. -/
theorem resourceSnapshot_of_kept (hI : ResourcesKept svc t) (hreceipts : ReceiptsRead svc t)
    {execution : BaselineExecution} (hexecution : execution ∈ t.executions)
    {claim : BaselineOwnerClaim} (hclaim : ownerOf svc t execution.baselineId = .ok claim)
    {dispatch : Option BaselineDispatchClaim}
    (hdispatch : dispatchOf svc t execution.baselineId = .ok dispatch) :
    resourceSnapshot svc t execution.baselineId
      = .ok ⟨execution, claim, dispatch, t.leaseRows execution.baselineId⟩ := by
  refine resourceSnapshot_of_holds hI.rows hI.links hI.resources hexecution hclaim hdispatch
    fun lease hlease => ?_
  obtain ⟨hmem, hid⟩ := mem_leaseRows.mp hlease
  rw [← hid] at hclaim
  exact hreceipts lease hmem claim hclaim

/-! ### Cleanup claims -/

/-- A new cleanup claim is accepted. -/
theorem eventFits_new {expected : BaselineResourceSnapshot} {claimId : String}
    {reason : BaselineCleanupReason} {now later : Timestamp} {next : BaselineExecution}
    {sequence : ℕ} (hfollows : Follows t t') (hrows : RowsHold svc t')
    (hsnapshot : resourceSnapshot svc t expected.execution.baselineId = .ok expected)
    (hvalid : svc.encodable (newCleanupClaim svc expected claimId reason now) = true)
    (hnext : next = { bumped later expected.execution with status := .cleaning })
    (hmem : next ∈ t'.executions) (hleases : t'.leases = t.leases)
    (hclaims : t'.dispatchClaims = t.dispatchClaims) :
    EventFits svc t' expected.execution.baselineId
      (newEvent svc (newCleanupClaim svc expected claimId reason now) sequence) expected.claim
      next := by
  obtain ⟨review, hreads⟩ := resourceSnapshot_ok.mp hsnapshot
  obtain ⟨current, _, _, howned⟩ := ownerOf_ok.mp hreads.owned
  have hcurrent : current = expected.execution := howned.execution_eq hreads.execution
  subst hcurrent
  have hid := (congrArg BaselineExecution.baselineId hnext).symm
  have hrowsEq : t'.leaseRows expected.execution.baselineId = expected.leases := by
    have hsame : ∀ lease, lease.owner.baselineId = expected.execution.baselineId →
        (lease ∈ t'.leases ↔ lease ∈ t.leases) := by
      intro lease _
      rw [hleases]
    exact (leaseRows_congr hsame).trans hreads.leases
  have hvalidates : svc.validates (newCleanupClaim svc expected claimId reason now) = true := by
    unfold BaselineServices.encodable at hvalid
    rw [Bool.and_eq_true] at hvalid
    exact hvalid.1
  refine {
    valid := hvalidates
    ofBaseline := howned.ofBaseline
    digest := rfl
    scope := rfl
    owned := hfollows.ownerOf hrows hreads.owned
    execution := executionOf_ok.mpr ⟨hmem, hid.symm, hrows.executions next hmem⟩
    claim := rfl
    claimOwner := rfl
    fenced := ?_
    dispatched := hfollows.dispatchOf (fun claim hclaim _ => hclaims ▸ hclaim) hreads.dispatched
    encodable := fun lease hlease => hrows.leases lease (mem_leaseRows.mp hlease).1
    leaseIds := ?_
    later := ?_ }
  · rw [hnext]
    exact ⟨rfl, rfl, howned.ownerClaimId, Nat.lt_succ_self _⟩
  · rw [hrowsEq]
    rfl
  · rw [hrowsEq]
    rintro ⟨original, current⟩ hpair
    exact List.forall₂_zip (List.forall₂_same.mpr fun lease _ => laterLease_refl lease) hpair

theorem eventsRead_effect {result : BaselineResult} (h : Effect svc t result t')
    (hI : ResourcesKept svc t) (hevents : EventsRead svc t) : EventsRead svc t' := by
  have hrows' := rowsHold_effect h hI.rows
  have hkept : ∀ event ∈ t.events,
      ∃ owner current, EventFits svc t' event.baselineId event owner current := by
    intro event hevent
    obtain ⟨owner, current, hfits⟩ := hevents event hevent
    obtain ⟨later, hlater⟩ := (h.continues hI (.inl ⟨event, hevent, rfl⟩)).event hfits
    exact ⟨owner, later, hlater⟩
  intro event hevent
  have hfollows := h.follows
  cases h with
  | cleanupClaimed hsnapshot hvalid hinsert hnext hbump =>
      rcases (Table.mem_insert hinsert).mp hevent with hold | rfl
      · exact hkept event hold
      · have hmem := (Table.mem_replace? hbump.replaced).mpr (.inl rfl)
        exact ⟨_, _, eventFits_new hfollows hrows' hsnapshot hvalid hnext hmem rfl rfl⟩
  | _ => exact hkept event hevent

/-! ### Observations -/

theorem commandsOf_continues {originals currents : List BaselineResourceLease}
    (h : List.Forall₂ LeaseContinues originals currents) :
    commandsOf currents = commandsOf originals := by
  induction h with
  | nil => rfl
  | @cons original current originals currents hhead _ ih =>
      unfold commandsOf at ih ⊢
      rw [List.filterMap_cons, List.filterMap_cons, ih, hhead.1, hhead.2.2.1]

theorem sandboxesOf_continues {originals currents : List BaselineResourceLease}
    (h : List.Forall₂ LeaseContinues originals currents) :
    sandboxesOf currents = sandboxesOf originals := by
  induction h with
  | nil => rfl
  | @cons original current originals currents hhead _ ih =>
      unfold sandboxesOf at ih ⊢
      rw [List.filterMap_cons, List.filterMap_cons, ih, hhead.2.2.1]

/-- The resources of a baseline that continues: its execution is later and its leases have moved
on. -/
theorem Continues.resources {baselineId : String} (h : Continues svc baselineId t t')
    (hI : ResourcesKept svc t') (hreceipts : ReceiptsRead svc t')
    {snapshot : BaselineResourceSnapshot}
    (hread : resourceSnapshot svc t baselineId = .ok snapshot) :
    ∃ later, ExecutionFollows snapshot.execution later
      ∧ resourceSnapshot svc t' baselineId
        = .ok ⟨later, snapshot.claim, snapshot.dispatch, t'.leaseRows baselineId⟩ := by
  obtain ⟨review, hreads⟩ := resourceSnapshot_ok.mp hread
  obtain ⟨later, hlater, hfollows⟩ := h.follows.executionOf h.rows hreads.execution
  obtain ⟨hmem, hid, -⟩ := executionOf_ok.mp hlater
  have howner := h.owner _ hreads.owned
  have hdispatch := h.dispatch _ hreads.dispatched
  subst hid
  exact ⟨later, hfollows, resourceSnapshot_of_kept hI hreceipts hmem howner hdispatch⟩

/-- An observation that was accepted is accepted. -/
theorem Continues.checkedObservation {baselineId : String} (h : Continues svc baselineId t t')
    (hI : ResourcesKept svc t') (hreceipts : ReceiptsRead svc t')
    (row : Digested BaselineCommandObservation) :
    Persists (checkedObservation svc t baselineId row) (checkedObservation svc t' baselineId row) := by
  intro observation hread
  obtain ⟨hdigest, hvalid, hvalue, snapshot, review, command, sandbox, spec, native, inspection,
    controls, hreads⟩ := checkedObservation_ok.mp hread
  obtain ⟨later, hfollows, hlater⟩ := h.resources hI hreceipts hreads.resources
  obtain ⟨_, hsnapshot⟩ := resourceSnapshot_ok.mp hreads.resources
  have hleases := h.leases
  rw [hsnapshot.leases] at hleases
  refine checkedObservation_ok.mpr ⟨hdigest, hvalid, hvalue, _, review, command, sandbox, spec,
    native, inspection, controls, { hreads with
      resources := hlater
      reviewed := ?_
      commands := ?_
      sandboxes := ?_ }⟩
  · show reviewOf svc t' later.reviewId = .ok review
    rw [hfollows.reviewId]
    exact h.review _ _ hreads.reviewed
  · rw [← hreads.commands]
    exact commandsOf_continues hleases
  · rw [← hreads.sandboxes]
    exact sandboxesOf_continues hleases

/-- Every observation is accepted. -/
def ObservationsRead (svc : BaselineServices) (t : BaselineTables) : Prop :=
  ∀ row ∈ t.observations, checkedObservation svc t row.value.baselineId row = .ok row.value

/-- A baseline with an accepted observation has a native handle. -/
theorem handled_of_observation {baselineId : String} {row : Digested BaselineCommandObservation}
    {observation : BaselineCommandObservation}
    (hread : checkedObservation svc t baselineId row = .ok observation) : Handled t baselineId := by
  obtain ⟨-, -, -, snapshot, review, command, sandbox, spec, native, inspection, controls,
    hreads⟩ := checkedObservation_ok.mp hread
  obtain ⟨_, hsnapshot⟩ := resourceSnapshot_ok.mp hreads.resources
  have hmem : (command.1, command.2) ∈ commandsOf (t.leaseRows baselineId) := by
    rw [hsnapshot.leases, hreads.commands]
    exact List.mem_singleton.mpr rfl
  have hfits := hreads.fits
  unfold observationFits at hfits
  exact ⟨command.1, command.2, native, held_iff_leaseRows.mpr (mem_commandsOf.mp hmem), hfits.1⟩

theorem observationsRead_effect {result : BaselineResult} (h : Effect svc t result t')
    (hI : ResourcesKept svc t) (hreceipts : ReceiptsRead svc t)
    (hobservations : ObservationsRead svc t) : ObservationsRead svc t' := by
  have hI' := resourcesKept_effect h hI
  have hreceipts' := receiptsRead_effect h hI hreceipts
  have hkept : ∀ row ∈ t.observations,
      checkedObservation svc t' row.value.baselineId row = .ok row.value := by
    intro row hrow
    have hread := hobservations row hrow
    have hcontinues := h.continues hI (.inr (handled_of_observation hread))
    exact hcontinues.checkedObservation hI' hreceipts' row _ hread
  intro row hrow
  cases h with
  | @observed claim observation execution now observations executions hactive hbaseline hvalid
      hinsert hread hbump =>
      rcases (Table.mem_insert hinsert).mp hrow with hold | rfl
      · exact hkept row hold
      · -- the operation has read the observation back before the execution was bumped
        obtain ⟨read, hread⟩ := hread
        have hnew := (Table.mem_insert hinsert).mpr (.inr rfl)
        have hcontinues : Continues svc observation.baselineId { t with observations }
            { t with observations, executions } := {
          follows := { Follows.refl { t with observations } with
            executions := hbump.carries rfl fun _ h => h }
          rows := hI'.rows
          dispatches := fun _ hfound => hfound
          leases := List.forall₂_same.mpr fun lease _ => leaseContinues_refl lease }
        cases read with
        | none => exact absurd rfl (observationOf_none.mp hread _ hnew)
        | some =>
            obtain ⟨other, hother, hid, hchecked⟩ := observationOf_some.mp hread
            have hsame : other = ⟨svc.digestOf observation, observation⟩ :=
              Table.eq_of_clash hother hnew (observation_key _ _ _ hid rfl)
            subst hsame
            have hvalue := (checkedObservation_ok.mp hchecked).2.2.1
            rw [← hvalue] at hchecked
            exact hcontinues.checkedObservation hI' hreceipts' _ _ hchecked
  | _ => exact hkept row hrow

/-! ### The progress of a cleanup -/

/-- The last cleanup claim of a baseline that is cleaned is accepted. -/
def CleanupsRead (svc : BaselineServices) (t : BaselineTables) : Prop :=
  ∀ execution ∈ t.executions, execution.status = .cleaning →
    ∃ claim current, claim.owner.baselineId = execution.baselineId
      ∧ validateCleanup svc t claim = .ok current

theorem cleanupEvent_last {baselineId : String} {event : BaselineEvent}
    (hlast : t.lastEvent baselineId none = some event) {owner : BaselineOwnerClaim}
    {current : BaselineExecution} (hfits : EventFits svc t baselineId event owner current) :
    cleanupEvent svc t baselineId none = .ok (some event.claim) := by
  unfold cleanupEvent
  rw [hlast]
  dsimp only
  rw [map_ok]
  exact ⟨event.claim, checkedEvent_ok.mpr ⟨rfl, owner, current, hfits⟩, rfl⟩

/-- The last cleanup claim stays the last where no other is made. -/
theorem Continues.lastCleanup {baselineId : String} (h : Continues svc baselineId t t')
    (hevents : ∀ event, event.baselineId = baselineId → (event ∈ t'.events ↔ event ∈ t.events))
    {claim : BaselineCleanupClaim}
    (hread : Baseline.cleanupEvent svc t baselineId none = .ok (some claim)) :
    Baseline.cleanupEvent svc t' baselineId none = .ok (some claim) := by
  obtain ⟨event, hevent, hid, rfl, hlast, owner, current, hfits⟩ := event_of_cleanup hread
  obtain ⟨later, hlater⟩ := h.event hfits
  refine cleanupEvent_last (lastEvent_of_forall ((hevents event hid).mpr hevent) hid
    fun other hother hotherId => ?_) hlater
  exact (lastEvent_last hlast).2.2 other ((hevents other hotherId).mp hother) hotherId

theorem Continues.leaseChange {baselineId : String} (h : Continues svc baselineId t t')
    (claim : BaselineCleanupClaim) (before after : BaselineResourceLease) :
    Persists (leaseChange svc t claim before after) (leaseChange svc t' claim before after) := by
  unfold Baseline.leaseChange
  split_ifs with hsame
  · exact .refl _
  · exact .after fun sha256 _ => .step (h.receipt sha256) fun _ _ => .refl _

theorem Continues.leaseChanges {baselineId : String} (h : Continues svc baselineId t t')
    (claim : BaselineCleanupClaim) :
    ∀ pairs : List (BaselineResourceLease × BaselineResourceLease),
      Persists (leaseChanges svc t claim pairs) (leaseChanges svc t' claim pairs)
  | [] => .refl _
  | (before, after) :: pairs => by
      unfold Baseline.leaseChanges
      exact .step (h.leaseChange claim before after) fun _ _ =>
        .step (h.leaseChanges claim pairs) fun _ _ => .refl _

/-- Leases that did not change. -/
theorem leaseChanges_same (claim : BaselineCleanupClaim) (leases : List BaselineResourceLease) :
    leaseChanges svc t claim (leases.zip leases) = .ok 0 := by
  induction leases with
  | nil => rfl
  | cons lease leases ih =>
      have hchange : leaseChange svc t claim lease lease = .ok 0 :=
        leaseChange_ok.mpr (.inl ⟨rfl, rfl⟩)
      rw [List.zip_cons_cons]
      unfold leaseChanges
      rw [hchange, ih]
      rfl

/-- A finalized lease is one more change: it was as the claim found it, and the others stay. -/
theorem leaseChanges_finalized {claim : BaselineCleanupClaim} {baselineId : String}
    (hcontinues : Continues svc baselineId t t') {lease next : BaselineResourceLease}
    (hchange : leaseChange svc t' claim lease next = .ok 1) :
    ∀ {originals currents : List BaselineResourceLease} {changed : ℕ},
      (currents.map BaselineResourceLease.leaseId).Nodup → lease ∈ currents →
      (∀ pair ∈ originals.zip currents, pair.2 = lease → pair.1 = lease) →
      originals.length = currents.length →
      leaseChanges svc t claim (originals.zip currents) = .ok changed →
      leaseChanges svc t' claim
        (originals.zip (currents.map fun row => if row = lease then next else row))
        = .ok (changed + 1)
  | _, [], _, _, hmem, _, _, _ => absurd hmem List.not_mem_nil
  | [], _ :: _, _, _, _, _, hlength, _ => by
      rw [List.length_nil, List.length_cons] at hlength
      omega
  | original :: originals, current :: currents, changed, hnodup, hmem, hpairs, hlength, hread => by
      rw [List.map_cons, List.nodup_cons] at hnodup
      rw [List.zip_cons_cons] at hread hpairs
      unfold leaseChanges at hread
      obtain ⟨first, hfirst, hread⟩ := Checks.bind_ok.mp hread
      obtain ⟨rest, hrest, hread⟩ := Checks.bind_ok.mp hread
      have hsum := Checks.return_ok.mp hread
      rw [List.map_cons, List.zip_cons_cons]
      unfold leaseChanges
      by_cases hhead : current = lease
      · -- this is the lease: it was unchanged, and it is not among the others
        have horiginal : original = lease := hpairs _ List.mem_cons_self hhead
        have hzero : first = 0 := by
          rw [horiginal, hhead] at hfirst
          rcases leaseChange_ok.mp hfirst with ⟨-, hzero⟩ | ⟨hne, -⟩
          · exact hzero
          · exact absurd rfl hne
        have hothers : (currents.map fun row => if row = lease then next else row) = currents := by
          refine (List.map_congr_left fun row hrow => if_neg ?_).trans (List.map_id currents)
          rintro rfl
          exact hnodup.1 (List.mem_map.mpr ⟨row, hrow, congrArg _ hhead.symm⟩)
        rw [if_pos hhead, hothers, horiginal]
        refine Checks.bind_ok.mpr ⟨1, hchange, Checks.bind_ok.mpr
          ⟨rest, hcontinues.leaseChanges claim _ _ hrest, Checks.return_ok.mpr ?_⟩⟩
        omega
      · have hrestMem : lease ∈ currents :=
          (List.mem_cons.mp hmem).resolve_left fun hsame => hhead hsame.symm
        have hrestPairs : ∀ pair ∈ originals.zip currents, pair.2 = lease → pair.1 = lease :=
          fun pair hpair => hpairs pair (List.mem_cons_of_mem _ hpair)
        have hrestLength : originals.length = currents.length := by
          rw [List.length_cons, List.length_cons] at hlength
          omega
        have hlater := leaseChanges_finalized hcontinues hchange hnodup.2 hrestMem hrestPairs
          hrestLength hrest
        rw [if_neg hhead]
        refine Checks.bind_ok.mpr ⟨first, hcontinues.leaseChange claim _ _ _ hfirst,
          Checks.bind_ok.mpr ⟨rest + 1, hlater, Checks.return_ok.mpr ?_⟩⟩
        omega

/-- A report does not leave its baseline in cleanup. -/
theorem report_status_ne (status : BaselineReportStatus) : status.execution ≠ .cleaning := by
  cases status
  · exact BaselineStatus.noConfusion
  · exact BaselineStatus.noConfusion
  · exact BaselineStatus.noConfusion

/-- A new execution is the next revision that was written. -/
theorem Bumps.new {execution next e : BaselineExecution} {executions : Table BaselineExecution}
    (h : Bumps svc t.executions execution next executions) (he : e ∈ executions)
    (hnew : e ∉ t.executions) : e = next := by
  rcases (Table.mem_replace? h.replaced).mp he with hsame | ⟨hold, -⟩
  · exact hsame
  · exact absurd hold hnew

/-- The next event of a baseline comes after its events. -/
theorem lt_nextSequence {baselineId : String} {event : BaselineEvent} (hevent : event ∈ t.events)
    (hid : event.baselineId = baselineId) : event.sequence < t.nextSequence baselineId := by
  have hle : ∀ (l : List ℕ) (n : ℕ), n ∈ l → n ≤ l.foldr max 0 := by
    intro l n hn
    induction l with
    | nil => exact absurd hn List.not_mem_nil
    | cons m l ih =>
        rw [List.foldr_cons]
        rcases List.mem_cons.mp hn with rfl | hrest
        · exact le_max_left _ _
        · exact (ih hrest).trans (le_max_right _ _)
  unfold BaselineTables.nextSequence
  refine hle _ _ (List.mem_map.mpr ⟨event, List.mem_filter.mpr ⟨hevent, ?_⟩, rfl⟩)
  exact decide_eq_true hid

/-- A new cleanup claim is the live one, and nothing has changed for it yet. -/
theorem validateCleanup_new {expected : BaselineResourceSnapshot} {claimId : String}
    {reason : BaselineCleanupReason} {now later : Timestamp} {next : BaselineExecution}
    {events : Table BaselineEvent} (hI : ResourcesKept svc t') (hreceipts : ReceiptsRead svc t')
    (hfollows : Follows t t')
    (hsnapshot : resourceSnapshot svc t expected.execution.baselineId = .ok expected)
    (hvalid : svc.encodable (newCleanupClaim svc expected claimId reason now) = true)
    (hinsert : t.events.insert (newEvent svc (newCleanupClaim svc expected claimId reason now)
      (t.nextSequence expected.execution.baselineId)) = some events)
    (hevents : t'.events = events)
    (hnext : next = { bumped later expected.execution with status := .cleaning })
    (hmem : next ∈ t'.executions) (hleases : t'.leases = t.leases)
    (hclaims : t'.dispatchClaims = t.dispatchClaims) :
    ∃ current, validateCleanup svc t' (newCleanupClaim svc expected claimId reason now)
      = .ok current := by
  obtain ⟨review, hreads⟩ := resourceSnapshot_ok.mp hsnapshot
  obtain ⟨_, _, _, howned⟩ := ownerOf_ok.mp hreads.owned
  have hid := congrArg BaselineExecution.baselineId hnext
  have hrows : t'.leaseRows expected.execution.baselineId = expected.leases := by
    have hsame : ∀ lease, lease.owner.baselineId = expected.execution.baselineId →
        (lease ∈ t'.leases ↔ lease ∈ t.leases) := by
      intro lease _
      rw [hleases]
    exact (leaseRows_congr hsame).trans hreads.leases
  have howner := hfollows.ownerOf hI.rows hreads.owned
  have hdispatch := hfollows.dispatchOf (fun claim hclaim _ => hclaims ▸ hclaim) hreads.dispatched
  have hresources : resourceSnapshot svc t' expected.execution.baselineId
      = .ok ⟨next, expected.claim, expected.dispatch, expected.leases⟩ := by
    rw [← hrows]
    have hread := resourceSnapshot_of_kept hI hreceipts hmem (hid ▸ howner) (hid ▸ hdispatch)
    rw [hid] at hread
    exact hread
  have hlast : t'.lastEvent expected.execution.baselineId none
      = some (newEvent svc (newCleanupClaim svc expected claimId reason now)
        (t.nextSequence expected.execution.baselineId)) := by
    refine lastEvent_of_forall ?_ rfl fun other hother hotherId => ?_
    · rw [hevents]
      exact (Table.mem_insert hinsert).mpr (.inr rfl)
    · rw [hevents] at hother
      rcases (Table.mem_insert hinsert).mp hother with hold | rfl
      · exact (lt_nextSequence hold hotherId).le
      · exact le_refl _
  refine ⟨⟨next, expected.claim, expected.dispatch, expected.leases⟩, validateCleanup_ok.mpr ⟨0, {
    event := ?_
    resources := ?_
    sameClaim := rfl
    sameDispatch := rfl
    length := rfl
    changes := leaseChanges_same _ _
    execution := ?_ }⟩⟩
  · show cleanupEvent svc t' expected.claim.owner.baselineId none = _
    rw [howned.ofBaseline]
    exact cleanupEvent_last hlast
      (eventFits_new hfollows hI.rows hsnapshot hvalid hnext hmem hleases hclaims)
  · show resourceSnapshot svc t' expected.claim.owner.baselineId = _
    rw [howned.ofBaseline]
    exact hresources
  · rw [hnext]
    rfl

/-- After a lease was finalized its cleanup claim is still the live one, with one more change. -/
theorem validateCleanup_finalized {claim : BaselineCleanupClaim}
    {current : BaselineResourceSnapshot} {lease : BaselineResourceLease}
    {receipt : BaselineCleanupReceipt} {now : Timestamp} (hI : ResourcesKept svc t')
    (hreceipts : ReceiptsRead svc t') (hcontinues : Continues svc claim.owner.baselineId t t')
    (hread : validateCleanup svc t claim = .ok current) (hin : lease ∈ current.leases)
    (honly : (claim.snapshot.leases.filter fun item => item.leaseId = lease.leaseId) = [lease])
    (hbinds : ReceiptBinds svc lease receipt claim.scopeSha256)
    (hreceipt : svc.encodable receipt = true)
    (hstored : ⟨svc.digestOf receipt, receipt⟩ ∈ t'.receipts)
    (hreplace : t.leases.replace? lease (finalized svc lease receipt) = some t'.leases)
    (hevents : t'.events = t.events) (hmem : bumped now current.execution ∈ t'.executions) :
    ∃ later, validateCleanup svc t' claim = .ok later := by
  obtain ⟨changed, hcleanup⟩ := validateCleanup_ok.mp hread
  obtain ⟨review, hsnapshot⟩ := resourceSnapshot_ok.mp hcleanup.resources
  obtain ⟨event, -, -, hclaim, -, _, _, hfits⟩ := event_of_cleanup hcleanup.event
  have hid := (executionOf_ok.mp hsnapshot.execution).2.1
  obtain ⟨later, -, hresources⟩ := hcontinues.resources hI hreceipts hcleanup.resources
  have hlater : later = bumped now current.execution := by
    obtain ⟨_, hlaterReads⟩ := resourceSnapshot_ok.mp hresources
    obtain ⟨hlaterMem, hlaterId, -⟩ := executionOf_ok.mp hlaterReads.execution
    exact Table.eq_of_clash hlaterMem hmem (hlaterId.trans hid.symm)
  have hrows : t'.leaseRows claim.owner.baselineId
      = current.leases.map fun row => if row = lease then finalized svc lease receipt else row := by
    rw [← hsnapshot.leases]
    exact leaseRows_replace hreplace rfl rfl
  have hchange : leaseChange svc t' claim lease (finalized svc lease receipt) = .ok 1 := by
    refine leaseChange_ok.mpr (.inr ⟨fun hsame => ?_, rfl, receipt, hstored, hreceipt, hbinds.scope,
      hbinds.leaseSha256, rfl⟩)
    have hrevision : lease.revision = lease.revision + 1 :=
      congrArg BaselineResourceLease.revision hsame
    omega
  have hpairs : ∀ pair ∈ claim.snapshot.leases.zip current.leases, pair.2 = lease →
      pair.1 = lease := by
    rintro ⟨original, row⟩ hpair hrow
    have hleaseIds := hfits.leaseIds
    have hlaters := hfits.later
    rw [hclaim, hsnapshot.leases] at hleaseIds hlaters
    have hsame := (List.forall₂_zip (forall₂_of_zip hleaseIds hlaters) hpair).1
    have hmemOriginal : original ∈ claim.snapshot.leases.filter fun item =>
        item.leaseId = lease.leaseId := by
      refine List.mem_filter.mpr ⟨(List.of_mem_zip hpair).1, decide_eq_true ?_⟩
      rw [hsame]
      exact congrArg _ hrow
    rw [honly] at hmemOriginal
    exact List.mem_singleton.mp hmemOriginal
  have hnodup : (current.leases.map BaselineResourceLease.leaseId).Nodup := by
    rw [← hsnapshot.leases]
    exact nodup_leaseIds _
  have hchanges := leaseChanges_finalized hcontinues hchange hnodup hin hpairs
    hcleanup.length.symm hcleanup.changes
  rw [hlater, hrows] at hresources
  refine ⟨_, validateCleanup_ok.mpr ⟨changed + 1, {
    event := hcontinues.lastCleanup (fun event _ => by rw [hevents]) hcleanup.event
    resources := hresources
    sameClaim := hcleanup.sameClaim
    sameDispatch := hcleanup.sameDispatch
    length := (List.length_map _).trans hcleanup.length
    changes := hchanges
    execution := ?_ }⟩⟩
  have hexecution := hcleanup.execution
  show bumped now current.execution = _
  unfold bumped
  rw [hexecution]
  simp only [BaselineExecution.mk.injEq, true_and, and_true]
  omega

theorem cleanupsRead_effect {result : BaselineResult} (h : Effect svc t result t')
    (hI : ResourcesKept svc t) (hreceipts : ReceiptsRead svc t) (hcleanups : CleanupsRead svc t) :
    CleanupsRead svc t' := by
  have hI' := resourcesKept_effect h hI
  have hreceipts' := receiptsRead_effect h hI hreceipts
  intro e he hstatus
  by_cases hold : e ∈ t.executions
  · obtain ⟨claim, current, hid, hread⟩ := hcleanups e hold hstatus
    have hidle := h.idle hold he
    have hcontinues := h.continues hI (.inl (fenced_of_validateCleanup hread).1)
    obtain ⟨changed, hcleanup⟩ := validateCleanup_ok.mp hread
    obtain ⟨_, hsnapshot⟩ := resourceSnapshot_ok.mp hcleanup.resources
    obtain ⟨hcurrentMem, hcurrentId, -⟩ := executionOf_ok.mp hsnapshot.execution
    have hcurrent : current.execution = e :=
      Table.eq_of_clash hcurrentMem hold (hcurrentId.trans hid)
    obtain ⟨later, -, hresources⟩ := hcontinues.resources hI' hreceipts' hcleanup.resources
    have hlater : later = current.execution := by
      obtain ⟨_, hlaterReads⟩ := resourceSnapshot_ok.mp hresources
      obtain ⟨hlaterMem, hlaterId, -⟩ := executionOf_ok.mp hlaterReads.execution
      rw [hcurrent]
      exact Table.eq_of_clash hlaterMem he (hlaterId.trans hid)
    have hrows : t'.leaseRows claim.owner.baselineId = current.leases := by
      rw [hid, hidle.leases, ← hid]
      exact hsnapshot.leases
    rw [hlater, hrows] at hresources
    refine ⟨claim, current, hid, validateCleanup_ok.mpr ⟨changed, { hcleanup with
      event := hcontinues.lastCleanup (fun event hevent => ?_) hcleanup.event
      resources := hresources
      changes := hcontinues.leaseChanges claim _ _ hcleanup.changes }⟩⟩
    exact hidle.events event (hevent.trans hid)
  · have hfollows := h.follows
    have hrunning : ∀ {claim : BaselineOwnerClaim} {execution : BaselineExecution} {now : Timestamp},
        Active svc t claim execution → e ≠ bumped now execution := by
      rintro claim execution now hactive rfl
      have hsame : execution.status = .cleaning := hstatus
      rcases hactive.running with hrunning | hrunning
      · rw [hrunning] at hsame
        cases hsame
      · rw [hrunning] at hsame
        cases hsame
    cases h with
    | authorizedAgain | revokedAgain | observedAgain => exact absurd he hold
    | created hexecution hexecutions =>
        rcases (Table.mem_insert hexecutions).mp he with hbefore | rfl
        · exact absurd hbefore hold
        · cases hstatus
    | authorized => exact absurd he hold
    | revoked hreview hexecution hplanned hauthorizations hnext hbump =>
        rw [hbump.new he hold, hnext] at hstatus
        cases hstatus
    | claimed hreview hexecution hplanned hbaseline hreviewId hsha havailable hconsumed hauthorizations hclaim hclaims hnext hbump =>
        rw [hbump.new he hold, hnext] at hstatus
        cases hstatus
    | reserved hactive hreview hsnapshot howner hcreating hkind hfits hvalid hinsert hbump
    | progressed hactive hreview hlease howner hcreating hpayload hstep hvalid hreplace hbump =>
        exact absurd (hbump.new he hold) (hrunning hactive)
    | dispatched hactive hreview hsnapshot hundispatched hready howner hcreating hpayload hfits hlease hleases hclaim hclaims hnext hbump =>
        rw [hbump.new he hold, hnext] at hstatus
        cases hstatus
    | observed hactive hbaseline hvalid hinsert hread hbump =>
        exact absurd (hbump.new he hold) (hrunning hactive)
    | cleanupClaimed hsnapshot hvalid hinsert hnext hbump =>
        have hnew := hbump.new he hold
        subst hnew
        obtain ⟨current, hcurrent⟩ := validateCleanup_new hI' hreceipts' hfollows hsnapshot hvalid
          hinsert rfl hnext he rfl rfl
        obtain ⟨_, hreads⟩ := resourceSnapshot_ok.mp hsnapshot
        obtain ⟨_, _, _, howned⟩ := ownerOf_ok.mp hreads.owned
        refine ⟨_, current, ?_, hcurrent⟩
        rw [hnext]
        exact howned.ofBaseline
    | finalized hread hin honly hunreleased hordered hbinds hreceipt hstored hvalid hreplace hbump =>
        have hnew := hbump.new he hold
        subst hnew
        have heffect := Effect.finalized hread hin honly hunreleased hordered hbinds hreceipt hstored
          hvalid hreplace hbump
        have hcontinues := heffect.continues hI (.inl (fenced_of_validateCleanup hread).1)
        obtain ⟨later, hlater⟩ := validateCleanup_finalized hI' hreceipts' hcontinues hread hin honly
          hbinds hreceipt ((Table.mem_insert hstored).mpr (.inr rfl)) hreplace rfl he
        refine ⟨_, later, ?_, hlater⟩
        exact (executionOf_ok.mp (executionOf_of_validateCleanup hread)).2.1.symm
    | published hread hreview hobservation hcurrent hfacts hvalid hinsert hnext hbump =>
        rw [hbump.new he hold, hnext] at hstatus
        exact absurd hstatus (report_status_ne _)

/-! ### The current report -/

/-- The report with a digest is accepted as the one of an execution. -/
def ReportRead (svc : BaselineServices) (t : BaselineTables) (execution : BaselineExecution)
    (sha256 : Sha256) : Prop :=
  ∃ observation report, observationOf svc t execution.baselineId = .ok observation
    ∧ oneDigested svc t.reports sha256 = .ok report
    ∧ validateReportFacts svc t report execution observation = .ok ()

/-- Every current report is accepted, and its baseline is fenced. -/
def ReportsRead (svc : BaselineServices) (t : BaselineTables) : Prop :=
  ∀ execution ∈ t.executions, ∀ sha256, execution.currentReportSha256 = some sha256 →
    Fenced t execution.baselineId ∧ ReportRead svc t execution sha256

/-- What is read as the observation of a fenced baseline stays so. -/
theorem Effect.observationOf {result : BaselineResult} (h : Effect svc t result t')
    (hI : ResourcesKept svc t) (hreceipts : ReceiptsRead svc t) {baselineId : String}
    (hfenced : Fenced t baselineId) {observation : Option BaselineCommandObservation}
    (hread : observationOf svc t baselineId = .ok observation) :
    observationOf svc t' baselineId = .ok observation := by
  cases observation with
  | none =>
      rw [observationOf_none] at hread ⊢
      intro row hrow hid
      exact hread row ((h.quiet hI.fences hfenced).observations row hrow hid) hid
  | some observation =>
      rw [observationOf_some] at hread ⊢
      obtain ⟨row, hrow, hid, hchecked⟩ := hread
      have hcontinues := h.continues hI (.inl hfenced)
      have hlater := hcontinues.checkedObservation (resourcesKept_effect h hI)
        (receiptsRead_effect h hI hreceipts) row observation hchecked
      exact ⟨row, h.follows.observations row hrow, hid, hlater⟩

/-- A report that was accepted is accepted, for a later version of the execution. -/
theorem ReportRead.effect {result : BaselineResult} {execution later : BaselineExecution}
    {sha256 : Sha256} (hread : ReportRead svc t execution sha256) (h : Effect svc t result t')
    (hI : ResourcesKept svc t) (hreceipts : ReceiptsRead svc t)
    (hfenced : Fenced t execution.baselineId) (hid : later.baselineId = execution.baselineId)
    (hreview : later.reviewId = execution.reviewId) : ReportRead svc t' later sha256 := by
  obtain ⟨observation, report, hobservation, hreport, hfacts⟩ := hread
  have hcontinues := h.continues hI (.inl hfenced)
  refine ⟨observation, report, ?_, hcontinues.report sha256 report hreport, ?_⟩
  · rw [hid]
    exact h.observationOf hI hreceipts hfenced hobservation
  · exact hcontinues.validateReportFacts rfl hid hreview observation () hfacts

/-- A report that was published is accepted. -/
theorem reportRead_published {claim : BaselineCleanupClaim} {snapshot : BaselineResourceSnapshot}
    {observation : Option BaselineCommandObservation} {report : BaselineReport}
    {result : BaselineResult} {next : BaselineExecution} (h : Effect svc t result t')
    (hI : ResourcesKept svc t) (hreceipts : ReceiptsRead svc t)
    (hread : validateCleanup svc t claim = .ok snapshot)
    (hobservation : observationOf svc t snapshot.execution.baselineId = .ok observation)
    (hfacts : validateReportFacts svc t report snapshot.execution observation = .ok ())
    (hvalid : svc.encodable report = true) (hmem : ⟨svc.digestOf report, report⟩ ∈ t'.reports)
    (hid : next.baselineId = snapshot.execution.baselineId)
    (hreview : next.reviewId = snapshot.execution.reviewId) :
    Fenced t' next.baselineId ∧ ReportRead svc t' next (svc.digestOf report) := by
  have hbaseline := (executionOf_ok.mp (executionOf_of_validateCleanup hread)).2.1
  have hfenced : Fenced t snapshot.execution.baselineId := by
    rw [hbaseline]
    exact (fenced_of_validateCleanup hread).1
  have hcontinues := h.continues hI (.inl hfenced)
  refine ⟨hid ▸ h.follows.fenced hfenced, observation, report, ?_, ?_, ?_⟩
  · rw [hid]
    exact h.observationOf hI hreceipts hfenced hobservation
  · exact (oneDigested_ok report_key).mpr ⟨hmem, rfl, hvalid⟩
  · exact hcontinues.validateReportFacts rfl hid hreview observation () hfacts

theorem reportsRead_effect {result : BaselineResult} (h : Effect svc t result t')
    (hI : ResourcesKept svc t) (hreceipts : ReceiptsRead svc t) (hreports : ReportsRead svc t) :
    ReportsRead svc t' := by
  have hkept : ∀ original ∈ t.executions, ∀ e : BaselineExecution,
      e.baselineId = original.baselineId → e.reviewId = original.reviewId →
      ∀ sha256, original.currentReportSha256 = some sha256 →
      Fenced t' e.baselineId ∧ ReportRead svc t' e sha256 := by
    intro original horiginal e hid hreview sha256 hsha
    obtain ⟨hfenced, hread⟩ := hreports original horiginal sha256 hsha
    exact ⟨hid ▸ h.follows.fenced hfenced, hread.effect h hI hreceipts hfenced hid hreview⟩
  intro e he sha256 hsha
  by_cases hold : e ∈ t.executions
  · exact hkept e hold e rfl rfl sha256 hsha
  have hbumped : ∀ {original : BaselineExecution} {now : Timestamp} {status : BaselineStatus}
      {ownerClaimId : Option String}, original ∈ t.executions →
      e = { bumped now original with status := status, ownerClaimId := ownerClaimId } →
      Fenced t' e.baselineId ∧ ReportRead svc t' e sha256 := by
    intro original now status ownerClaimId horiginal hsame
    subst hsame
    exact hkept original horiginal _ rfl rfl sha256 hsha
  have heffect := h
  cases h with
  | authorizedAgain | revokedAgain | observedAgain | authorized => exact absurd he hold
  | created hexecution hexecutions =>
      rcases (Table.mem_insert hexecutions).mp he with hbefore | rfl
      · exact absurd hbefore hold
      · cases hsha
  | revoked hreview hexecution hplanned hauthorizations hnext hbump =>
      exact hbumped (Table.replace?_eq_some hbump.replaced).1 ((hbump.new he hold).trans hnext)
  | claimed hreview hexecution hplanned hbaseline hreviewId hsha' havailable hconsumed hauthorizations hclaim hclaims hnext hbump =>
      exact hbumped (Table.replace?_eq_some hbump.replaced).1 ((hbump.new he hold).trans hnext)
  | reserved hactive hreview hsnapshot howner hcreating hkind hfits hvalid hinsert hbump
  | progressed hactive hreview hlease howner hcreating hpayload hstep hvalid hreplace hbump =>
      exact hbumped (Table.replace?_eq_some hbump.replaced).1 (hbump.new he hold)
  | dispatched hactive hreview hsnapshot hundispatched hready howner hcreating hpayload hfits hlease hleases hclaim hclaims hnext hbump =>
      exact hbumped (Table.replace?_eq_some hbump.replaced).1 ((hbump.new he hold).trans hnext)
  | observed hactive hbaseline hvalid hinsert hread hbump =>
      exact hbumped (Table.replace?_eq_some hbump.replaced).1 (hbump.new he hold)
  | cleanupClaimed hsnapshot hvalid hinsert hnext hbump =>
      exact hbumped (Table.replace?_eq_some hbump.replaced).1 ((hbump.new he hold).trans hnext)
  | finalized hread hin honly hunreleased hordered hbinds hreceipt hstored hvalid hreplace hbump =>
      exact hbumped (Table.replace?_eq_some hbump.replaced).1 (hbump.new he hold)
  | published hread hreview hobservation hcurrent hfacts hvalid hinsert hnext hbump =>
      have hsame := (hbump.new he hold).trans hnext
      have hmem := (Table.mem_insert hinsert).mpr (.inr rfl)
      subst hsame
      cases hsha
      exact reportRead_published heffect hI hreceipts hread hobservation hfacts hvalid hmem rfl rfl

/-! ### Every run -/

/-- What every state of a run keeps. -/
structure ReadbackHolds (svc : BaselineServices) (t : BaselineTables) : Prop where
  kept : ResourcesKept svc t
  receipts : ReceiptsRead svc t
  events : EventsRead svc t
  observations : ObservationsRead svc t
  cleanups : CleanupsRead svc t
  reports : ReportsRead svc t

theorem readbackHolds_empty (svc : BaselineServices) : ReadbackHolds svc .empty where
  kept := resourcesKept_empty svc
  receipts row h := absurd h (Table.not_mem_empty row)
  events row h := absurd h (Table.not_mem_empty row)
  observations row h := absurd h (Table.not_mem_empty row)
  cleanups row h := absurd h (Table.not_mem_empty row)
  reports row h := absurd h (Table.not_mem_empty row)

theorem readbackHolds_effect {result : BaselineResult} (h : Effect svc t result t')
    (hI : ReadbackHolds svc t) : ReadbackHolds svc t' where
  kept := resourcesKept_effect h hI.kept
  receipts := receiptsRead_effect h hI.kept hI.receipts
  events := eventsRead_effect h hI.kept hI.events
  observations := observationsRead_effect h hI.kept hI.receipts hI.observations
  cleanups := cleanupsRead_effect h hI.kept hI.receipts hI.cleanups
  reports := reportsRead_effect h hI.kept hI.receipts hI.reports

/-- The validators of the store accept its state. -/
structure ReadsBack (svc : BaselineServices) (t : BaselineTables) : Prop where
  resources : ∀ execution ∈ t.executions, execution.ownerClaimId ≠ none →
    ∃ snapshot, resourceSnapshot svc t execution.baselineId = .ok snapshot
  events : ∀ event ∈ t.events,
    cleanupEvent svc t event.baselineId (some event.scopeSha256) = .ok (some event.claim)
  receipts : ∀ lease ∈ t.leases, ∀ sha256, lease.receiptSha256 = some sha256 →
    ∃ receipt, oneDigested svc t.receipts sha256 = .ok receipt
      ∧ receiptState svc t receipt (some lease) = .ok lease
  cleanups : ∀ execution ∈ t.executions, execution.status = .cleaning →
    ∃ claim current, cleanupEvent svc t execution.baselineId none = .ok (some claim)
      ∧ validateCleanup svc t claim = .ok current
  reports : ∀ execution ∈ t.executions, ∀ sha256, execution.currentReportSha256 = some sha256 →
    ∃ observation report, observationOf svc t execution.baselineId = .ok observation
      ∧ oneDigested svc t.reports sha256 = .ok report
      ∧ validateReportFacts svc t report execution observation = .ok ()
  views : ∀ execution ∈ t.executions, ∃ view, shown svc t execution.baselineId = .ok view

section ReadsBack

variable (hI : ReadbackHolds svc t) {execution : BaselineExecution}
  (hexecution : execution ∈ t.executions)

include hI hexecution

theorem ReadbackHolds.resources (howned : execution.ownerClaimId ≠ none) :
    ∃ snapshot, resourceSnapshot svc t execution.baselineId = .ok snapshot := by
  obtain ⟨claim, hclaim⟩ := hI.kept.links.owned execution hexecution howned
  obtain ⟨dispatch, hdispatch⟩ := dispatchOf_of_rows hI.kept.rows execution.baselineId
  exact ⟨_, resourceSnapshot_of_kept hI.kept hI.receipts hexecution hclaim hdispatch⟩

omit hexecution in
theorem ReadbackHolds.observation :
    ∃ observation, observationOf svc t execution.baselineId = .ok observation := by
  by_cases hnone : ∀ row ∈ t.observations, row.value.baselineId ≠ execution.baselineId
  · exact ⟨none, observationOf_none.mpr hnone⟩
  · push Not at hnone
    obtain ⟨row, hrow, hid⟩ := hnone
    have hchecked := hI.observations row hrow
    rw [hid] at hchecked
    exact ⟨some row.value, observationOf_some.mpr ⟨row, hrow, hid, hchecked⟩⟩

theorem ReadbackHolds.report {observation : Option BaselineCommandObservation}
    (hobservation : observationOf svc t execution.baselineId = .ok observation) :
    ∃ report, reportOf svc t execution observation = .ok report := by
  unfold reportOf
  cases hsha : execution.currentReportSha256 with
  | none => exact ⟨none, rfl⟩
  | some sha256 =>
      obtain ⟨-, read, report, hread, hreport, hfacts⟩ :=
        hI.reports execution hexecution sha256 hsha
      have hsame : read = observation := Except.ok.inj (hread.symm.trans hobservation)
      subst hsame
      simp only [hreport, Checks.bind_ok, Checks.return_ok]
      exact ⟨some report, report, rfl, (), hfacts, rfl⟩

theorem ReadbackHolds.view : ∃ view, shown svc t execution.baselineId = .ok view := by
  have hread := executionOf_ok.mpr ⟨hexecution, rfl, hI.kept.rows.executions execution hexecution⟩
  have hid := not_review_of_baseline (hasIdentity_of_executionOf hread)
  obtain ⟨review, hreview⟩ := hI.kept.links.reviewOf hI.kept.rows hexecution
  obtain ⟨observation, hobservation⟩ := hI.observation
  obtain ⟨report, hreport⟩ := hI.report hexecution hobservation
  have hrecovery : ∃ recovery, recoveryScope svc t execution = .ok recovery := by
    unfold recoveryScope
    cases howner : execution.ownerClaimId with
    | none => exact ⟨none, rfl⟩
    | some =>
        obtain ⟨snapshot, hsnapshot⟩ := hI.resources hexecution (howner ▸ Option.some_ne_none _)
        simp only [hsnapshot, Checks.bind_ok, Checks.return_ok]
        exact ⟨_, snapshot, rfl, rfl⟩
  obtain ⟨recovery, hrecovery⟩ := hrecovery
  refine ⟨⟨review, execution, report, observation, recovery⟩, ?_⟩
  unfold shown shownRecords
  rw [if_neg hid]
  simp only [Checks.bind_ok, Checks.return_ok]
  exact ⟨_, ⟨execution, hread, review, hreview, rfl⟩, observation, hobservation, report, hreport,
    recovery, hrecovery, rfl⟩

end ReadsBack

theorem ReadbackHolds.readsBack (hI : ReadbackHolds svc t) : ReadsBack svc t where
  resources _ hexecution howned := hI.resources hexecution howned
  events event hevent := by
    obtain ⟨owner, current, hfits⟩ := hI.events event hevent
    exact cleanupEvent_scope_ok.mpr ⟨event, hevent, rfl, rfl, rfl, owner, current, hfits⟩
  receipts lease hlease sha256 hsha := by
    obtain ⟨claim, hclaim, -⟩ := hI.kept.links.leases lease hlease
    obtain ⟨receipt, hreceipted⟩ :=
      validateLeaseReceipt_ok.mp (hI.receipts lease hlease claim hclaim) sha256 hsha
    refine ⟨receipt, (oneDigested_ok receipt_key).mpr ?_, hreceipted.state⟩
    exact ⟨hreceipted.stored, hreceipted.digest, hreceipted.encodable⟩
  cleanups execution hexecution hstatus := by
    obtain ⟨claim, current, hid, hread⟩ := hI.cleanups execution hexecution hstatus
    obtain ⟨changed, hcleanup⟩ := validateCleanup_ok.mp hread
    exact ⟨claim, current, hid ▸ hcleanup.event, hread⟩
  reports execution hexecution sha256 hsha := (hI.reports execution hexecution sha256 hsha).2
  views _ hexecution := hI.view hexecution

/-- In every run, whatever the clock says: the validators of the store accept its state. -/
theorem baseline_readback (svc : BaselineServices) (inputs : List BaselineInput) :
    ReadsBack svc ((baselineMachine svc).run .empty inputs) := by
  have hinvariant : (baselineMachine svc).Invariant (ReadbackHolds svc) :=
    invariant_of_effect fun _ _ _ heffect hI => readbackHolds_effect heffect hI
  exact (hinvariant.run (readbackHolds_empty svc) inputs).readsBack

end AgentFleet.Baseline
