import AgentFleet.Baseline.Effects

/-! # What persists in the baseline store

`Follows t t'` says what an effect keeps of the rows of each table: claims, receipts, events,
observations and reports are permanent, an authorization that was spent is frozen, a lease keeps
its identity and is frozen once released, and an execution only goes forward.  It is reflexive and
transitive, so it holds across runs. -/

namespace AgentFleet.Baseline

open Relational Transition

variable {svc : BaselineServices} {t t' : BaselineTables}

/-! ### Later versions of rows -/

/-- A later version of an execution: it is about the same review, and its revision grows with
every change. -/
structure ExecutionFollows (e e' : BaselineExecution) : Prop where
  baselineId : e'.baselineId = e.baselineId
  reviewId : e'.reviewId = e.reviewId
  reviewSha256 : e'.reviewSha256 = e.reviewSha256
  projectId : e'.projectId = e.projectId
  ownerClaimId : ∀ claimId, e.ownerClaimId = some claimId → e'.ownerClaimId = some claimId
  revision : e.revision ≤ e'.revision
  same : e.revision = e'.revision → e' = e

/-- A later version of an authorization: the same one, or an available one that was spent. -/
def AuthorizationFollows (a a' : BaselineAuthorization) : Prop :=
  a' = a ∨ a.status = .available ∧ a'.status ≠ .available
    ∧ a'.authorizationId = a.authorizationId ∧ a'.baselineId = a.baselineId

/-- The creation of the resource of a lease was dispatched. -/
def creationDispatched (lease : BaselineResourceLease) : Prop :=
  match lease.payload with
  | .execution payload => payload.creationDispatched = true
  | _ => False

/-- A later version of a lease. -/
structure LeaseFollows (l l' : BaselineResourceLease) : Prop where
  leaseId : l'.leaseId = l.leaseId
  owner : l'.owner = l.owner
  kind : l'.kind = l.kind
  dispatched : creationDispatched l → creationDispatched l'
  released : l.status = .released → l' = l

theorem ExecutionFollows.refl (e : BaselineExecution) : ExecutionFollows e e :=
  ⟨rfl, rfl, rfl, rfl, fun _ h => h, Nat.le_refl _, fun _ => rfl⟩

theorem ExecutionFollows.trans {e e' e'' : BaselineExecution} (h : ExecutionFollows e e')
    (h' : ExecutionFollows e' e'') : ExecutionFollows e e'' where
  baselineId := h'.baselineId.trans h.baselineId
  reviewId := h'.reviewId.trans h.reviewId
  reviewSha256 := h'.reviewSha256.trans h.reviewSha256
  projectId := h'.projectId.trans h.projectId
  ownerClaimId claimId hclaim := h'.ownerClaimId claimId (h.ownerClaimId claimId hclaim)
  revision := h.revision.trans h'.revision
  same hsame := by
    have hle := h.revision
    have hle' := h'.revision
    have heq := h.same (by omega)
    have heq' := h'.same (by omega)
    rw [heq', heq]

theorem AuthorizationFollows.trans {a a' a'' : BaselineAuthorization}
    (h : AuthorizationFollows a a') (h' : AuthorizationFollows a' a'') :
    AuthorizationFollows a a'' := by
  rcases h with rfl | ⟨havailable, hspent, hid, hbaseline⟩
  · exact h'
  · rcases h' with rfl | ⟨havailable', -, -, -⟩
    · exact .inr ⟨havailable, hspent, hid, hbaseline⟩
    · exact absurd havailable' hspent

theorem LeaseFollows.refl (l : BaselineResourceLease) : LeaseFollows l l :=
  ⟨rfl, rfl, rfl, fun h => h, fun _ => rfl⟩

theorem LeaseFollows.trans {l l' l'' : BaselineResourceLease} (h : LeaseFollows l l')
    (h' : LeaseFollows l' l'') : LeaseFollows l l'' where
  leaseId := h'.leaseId.trans h.leaseId
  owner := h'.owner.trans h.owner
  kind := h'.kind.trans h.kind
  dispatched hdispatched := h'.dispatched (h.dispatched hdispatched)
  released hreleased := by
    have heq := h.released hreleased
    subst heq
    exact h'.released hreleased

/-! ### The tables -/

/-- What an effect keeps of each table. -/
structure Follows (t t' : BaselineTables) : Prop where
  executions : t.executions.Carries ExecutionFollows t'.executions
  reviews : ∀ review ∈ t.reviews, review ∈ t'.reviews
  authorizations : t.authorizations.Carries AuthorizationFollows t'.authorizations
  ownerClaims : ∀ claim ∈ t.ownerClaims, claim ∈ t'.ownerClaims
  dispatchClaims : ∀ claim ∈ t.dispatchClaims, claim ∈ t'.dispatchClaims
  leases : t.leases.Carries LeaseFollows t'.leases
  observations : ∀ row ∈ t.observations, row ∈ t'.observations
  reports : ∀ row ∈ t.reports, row ∈ t'.reports
  receipts : ∀ row ∈ t.receipts, row ∈ t'.receipts
  events : ∀ event ∈ t.events, event ∈ t'.events

theorem Follows.refl (t : BaselineTables) : Follows t t where
  executions := .refl ExecutionFollows.refl _
  reviews _ h := h
  authorizations := .refl (fun _ => .inl rfl) _
  ownerClaims _ h := h
  dispatchClaims _ h := h
  leases := .refl LeaseFollows.refl _
  observations _ h := h
  reports _ h := h
  receipts _ h := h
  events _ h := h

theorem Follows.trans {t'' : BaselineTables} (h : Follows t t') (h' : Follows t' t'') :
    Follows t t'' where
  executions := h.executions.trans (fun _ _ _ hab hbc => hab.trans hbc) h'.executions
  reviews review hmem := h'.reviews review (h.reviews review hmem)
  authorizations :=
    h.authorizations.trans (fun _ _ _ hab hbc => hab.trans hbc) h'.authorizations
  ownerClaims claim hmem := h'.ownerClaims claim (h.ownerClaims claim hmem)
  dispatchClaims claim hmem := h'.dispatchClaims claim (h.dispatchClaims claim hmem)
  leases := h.leases.trans (fun _ _ _ hab hbc => hab.trans hbc) h'.leases
  observations row hmem := h'.observations row (h.observations row hmem)
  reports row hmem := h'.reports row (h.reports row hmem)
  receipts row hmem := h'.receipts row (h.receipts row hmem)
  events event hmem := h'.events event (h.events event hmem)

theorem kept_of_insert {α : Type} [Constrained α] {table table' : Table α} {row : α}
    (h : table.insert row = some table') : ∀ a ∈ table, a ∈ table' :=
  fun _ ha => (Table.mem_insert h).mpr (.inl ha)

/-- The next revision of an execution follows it. -/
theorem Bumps.carries {before after : Table BaselineExecution} {original next : BaselineExecution}
    (h : Bumps svc before original next after) {now : Timestamp} {status : BaselineStatus}
    {ownerClaimId : Option String} {report : Option Sha256}
    (hnext : next = { bumped now original with
      status := status
      ownerClaimId := ownerClaimId
      currentReportSha256 := report })
    (howner : ∀ claimId, original.ownerClaimId = some claimId → ownerClaimId = some claimId) :
    before.Carries ExecutionFollows after := by
  refine .replace? ExecutionFollows.refl h.replaced ?_
  subst hnext
  refine ⟨rfl, rfl, rfl, rfl, howner, Nat.le_succ _, fun hsame => ?_⟩
  exact absurd hsame (Nat.ne_of_lt (Nat.lt_succ_self _))

/-- A planned execution has no owner. -/
theorem ownerClaimId_of_planned {execution : BaselineExecution}
    (hvalid : svc.encodable execution = true)
    (hplanned : execution.status = .planned ∨ execution.status = .revoked) :
    execution.ownerClaimId = none := by
  unfold BaselineServices.encodable BaselineModels.validates at hvalid
  simp only [Bool.and_eq_true, BaselineModel.record, BaselineRecord.validates,
    BaselineExecution.validates, decide_eq_true_eq] at hvalid
  exact hvalid.1.2.2.mp hplanned

theorem PayloadStep.follows {review : BaselineReview} {lease : BaselineResourceLease}
    {status : BaselineLeaseStatus} {old payload : BaselineResourcePayload}
    {result : BaselineResourceLease → BaselineResult} {now : Timestamp}
    (h : PayloadStep svc review old status payload result) (hold : lease.payload = old)
    (hcreating : lease.status = .creating) :
    LeaseFollows lease (progressed now lease status payload) := by
  have hreleased : lease.status = .released → progressed now lease status payload = lease := by
    rw [hcreating]
    exact fun h => BaselineLeaseStatus.noConfusion h
  refine ⟨rfl, rfl, ?_, fun hdispatched => ?_, hreleased⟩
  · unfold BaselineResourceLease.kind progressed
    rw [hold]
    cases h <;> rfl
  · unfold creationDispatched at hdispatched
    rw [hold] at hdispatched
    cases h with
    | workspace held | sandbox payload hhandle => exact hdispatched.elim
    | mark => exact rfl
    | execute payload handle hcreated => exact hcreated

theorem finalized_follows {lease : BaselineResourceLease} {receipt : BaselineCleanupReceipt}
    (h : lease.status ≠ .released) : LeaseFollows lease (finalized svc lease receipt) :=
  ⟨rfl, rfl, rfl, fun hdispatched => hdispatched, fun hreleased => absurd hreleased h⟩

theorem RevokesAuthorization.carries {baselineId : String}
    {authorizations : Table BaselineAuthorization}
    (h : RevokesAuthorization svc t baselineId authorizations) :
    t.authorizations.Carries AuthorizationFollows authorizations := by
  cases h with
  | none => exact .refl (fun _ => .inl rfl) _
  | some hbaseline havailable hvalid hreplace =>
      refine .replace? (fun _ => .inl rfl) hreplace (.inr ⟨havailable, ?_, rfl, rfl⟩)
      exact fun h => BaselineAuthorizationStatus.noConfusion h

/-- Every effect keeps what `Follows` says. -/
theorem Effect.follows {result : BaselineResult} (h : Effect svc t result t') : Follows t t' := by
  cases h with
  | authorizedAgain => exact .refl t
  | revokedAgain execution | observedAgain hactive hbaseline => exact .refl t
  | created hexecution hexecutions hreview hreviews =>
      exact { Follows.refl t with
        executions := .insert ExecutionFollows.refl hexecutions
        reviews := kept_of_insert hreviews }
  | authorized hreview hexecution hplanned hvalid hinsert =>
      exact { Follows.refl t with authorizations := .insert (fun _ => .inl rfl) hinsert }
  | revoked hreview hexecution hplanned hauthorizations hnext hbump =>
      have hnone := ownerClaimId_of_planned (executionOf_ok.mp hexecution).2.2 (.inl hplanned)
      exact { Follows.refl t with
        executions := hbump.carries hnext (fun claimId hclaim => hclaim)
        authorizations := hauthorizations.carries }
  | claimed hreview hexecution hplanned hbaseline hreviewId hsha havailable hconsumed hauthorizations hclaim hclaims hnext hbump =>
      have hnone := ownerClaimId_of_planned (executionOf_ok.mp hexecution).2.2 (.inl hplanned)
      refine { Follows.refl t with
        executions := hbump.carries hnext fun claimId hsome => ?_
        authorizations := .replace? (fun _ => .inl rfl) hauthorizations
          (.inr ⟨havailable, fun h => BaselineAuthorizationStatus.noConfusion h, rfl, rfl⟩)
        ownerClaims := kept_of_insert hclaims }
      rw [hnone] at hsome
      cases hsome
  | reserved hactive hreview hsnapshot howner hcreating hkind hfits hvalid hinsert hbump =>
      exact { Follows.refl t with
        executions := hbump.carries rfl fun _ h => h
        leases := .insert LeaseFollows.refl hinsert }
  | progressed hactive hreview hlease howner hcreating hold hstep hvalid hreplace hbump =>
      exact { Follows.refl t with
        executions := hbump.carries rfl fun _ h => h
        leases := .replace? LeaseFollows.refl hreplace (hstep.follows hold hcreating) }
  | dispatched hactive hreview hsnapshot hundispatched hready howner hcreating hpayload hfits hlease hleases hclaim hclaims hnext hbump =>
      exact { Follows.refl t with
        executions := hbump.carries hnext fun _ h => h
        leases := .insert LeaseFollows.refl hleases
        dispatchClaims := kept_of_insert hclaims }
  | observed hactive hbaseline hvalid hinsert hread hbump =>
      exact { Follows.refl t with
        executions := hbump.carries rfl fun _ h => h
        observations := kept_of_insert hinsert }
  | cleanupClaimed hsnapshot hvalid hinsert hnext hbump =>
      exact { Follows.refl t with
        executions := hbump.carries hnext fun _ h => h
        events := kept_of_insert hinsert }
  | finalized hread hlease honly hunreleased hordered hbinds hreceipt hreceipts hvalid hreplace hbump =>
      exact { Follows.refl t with
        executions := hbump.carries rfl fun _ h => h
        receipts := kept_of_insert hreceipts
        leases := .replace? LeaseFollows.refl hreplace (finalized_follows hunreleased) }
  | published hread hreview hobservation hcurrent hfacts hvalid hinsert hnext hbump =>
      exact { Follows.refl t with
        executions := hbump.carries hnext fun _ h => h
        reports := kept_of_insert hinsert }

/-- Every step keeps what `Follows` says. -/
theorem follows_step (svc : BaselineServices) (t : BaselineTables) (input : BaselineInput) :
    Follows t ((baselineMachine svc).next t input) := by
  rcases step_cases svc t input with ⟨result, -, heffect⟩ | ⟨error, -, hsame⟩
  · exact heffect.follows
  · rw [hsame]
    exact .refl t

/-- Every run keeps what `Follows` says. -/
theorem follows_run (svc : BaselineServices) (t : BaselineTables) (inputs : List BaselineInput) :
    Follows t ((baselineMachine svc).run t inputs) := by
  have hinv : (baselineMachine svc).Invariant fun _ => True := fun _ _ _ => trivial
  exact Machine.run_rel hinv Follows.refl (fun _ _ _ => Follows.trans)
    (fun s input _ => follows_step svc s input) trivial inputs

/-! ### Fenced baselines -/

/-- A status that a cleanup claim or a report leaves. -/
def fencedStatus : BaselineStatus → Prop
  | .cleaning | .observed | .inconclusive | .recoveryRequired => True
  | .planned | .revoked | .owned | .executing => False

/-- A cleanup claim was made for the baseline. -/
def Fenced (t : BaselineTables) (baselineId : String) : Prop :=
  ∃ event ∈ t.events, event.baselineId = baselineId

/-- A fenced baseline has an execution, and its status is one that the cleanup left. -/
structure FencesHold (t : BaselineTables) : Prop where
  known : ∀ event ∈ t.events, ∃ execution ∈ t.executions, execution.baselineId = event.baselineId
  status : ∀ execution ∈ t.executions, Fenced t execution.baselineId →
    fencedStatus execution.status

theorem Follows.fenced (h : Follows t t') {baselineId : String} (hfenced : Fenced t baselineId) :
    Fenced t' baselineId := by
  obtain ⟨event, hevent, hid⟩ := hfenced
  exact ⟨event, h.events event hevent, hid⟩

/-- An execution with another status is not fenced. -/
theorem FencesHold.not_fenced (h : FencesHold t) {baselineId : String}
    {execution : BaselineExecution} (hexecution : executionOf svc t baselineId = .ok execution)
    (hstatus : ¬ fencedStatus execution.status) : ¬ Fenced t execution.baselineId := by
  obtain ⟨hmem, -, -⟩ := executionOf_ok.mp hexecution
  exact fun hfenced => hstatus (h.status execution hmem hfenced)

theorem Active.not_fenced (h : FencesHold t) {claim : BaselineOwnerClaim}
    {execution : BaselineExecution} (hactive : Active svc t claim execution) :
    ¬ Fenced t execution.baselineId := by
  refine h.not_fenced hactive.current fun hfenced => ?_
  rcases hactive.running with hstatus | hstatus
  · rw [hstatus] at hfenced
    exact hfenced
  · rw [hstatus] at hfenced
    exact hfenced

/-- What new events and new revisions have to satisfy to keep the fences. -/
theorem FencesHold.step (h : FencesHold t) (hfollows : Follows t t')
    (hevents : ∀ event ∈ t'.events, event ∈ t.events
      ∨ ∃ execution ∈ t'.executions, execution.baselineId = event.baselineId)
    (hexecutions : ∀ execution ∈ t'.executions,
      execution ∈ t.executions ∧ (Fenced t' execution.baselineId → Fenced t execution.baselineId)
        ∨ fencedStatus execution.status ∨ ¬ Fenced t' execution.baselineId) : FencesHold t' where
  known event hevent := by
    rcases hevents event hevent with hold | hknown
    · obtain ⟨execution, hmem, hid⟩ := h.known event hold
      obtain ⟨later, hlater, hle⟩ := hfollows.executions execution hmem
      exact ⟨later, hlater, hle.baselineId.trans hid⟩
    · exact hknown
  status execution hmem hfenced := by
    rcases hexecutions execution hmem with ⟨hold, hback⟩ | hstatus | hnot
    · exact h.status execution hold (hback hfenced)
    · exact hstatus
    · exact absurd hfenced hnot

/-- A new revision keeps the fences where the events are the same. -/
theorem FencesHold.bumped (h : FencesHold t) (hfollows : Follows t t')
    {execution next : BaselineExecution}
    (hbump : Bumps svc t.executions execution next t'.executions)
    (hevents : t'.events = t.events)
    (hnext : fencedStatus next.status ∨ ¬ Fenced t next.baselineId) : FencesHold t' := by
  have hsame : ∀ baselineId, Fenced t' baselineId ↔ Fenced t baselineId := by
    intro baselineId
    unfold Fenced
    rw [hevents]
  refine h.step hfollows (fun event hevent => .inl (hevents ▸ hevent)) fun e he => ?_
  rcases (Table.mem_replace? hbump.replaced).mp he with rfl | ⟨hold, -⟩
  · exact .inr (hnext.imp_right fun hnot hfenced => hnot ((hsame _).mp hfenced))
  · exact .inl ⟨hold, (hsame _).mp⟩

theorem status_of_validateCleanup {claim : BaselineCleanupClaim}
    {current : BaselineResourceSnapshot} (h : validateCleanup svc t claim = .ok current) :
    current.execution.status = .cleaning := by
  obtain ⟨changed, hreads⟩ := validateCleanup_ok.mp h
  rw [hreads.execution]

theorem not_fencedStatus_planned {status : BaselineStatus} (h : status = .planned) :
    ¬ fencedStatus status := by
  rw [h]
  exact fun hfenced => hfenced

theorem fencedStatus_report (status : BaselineReportStatus) : fencedStatus status.execution := by
  cases status
  · exact trivial
  · exact trivial
  · exact trivial

theorem fencesHold_effect {result : BaselineResult} (h : Effect svc t result t')
    (hfences : FencesHold t) : FencesHold t' := by
  have hfollows := h.follows
  cases h with
  | authorizedAgain => exact hfences
  | revokedAgain execution | observedAgain hactive hbaseline => exact hfences
  | created hexecution hexecutions =>
      refine hfences.step hfollows (fun event hevent => .inl hevent) fun e he => ?_
      rcases (Table.mem_insert hexecutions).mp he with hold | rfl
      · exact .inl ⟨hold, fun hfenced => hfenced⟩
      · refine .inr (.inr ?_)
        rintro ⟨event, hevent, hid⟩
        obtain ⟨known, hknown, hknownId⟩ := hfences.known event hevent
        exact Table.not_clash_of_insert hexecutions hknown (hknownId.trans hid)
  | authorized => exact ⟨hfences.known, hfences.status⟩
  | revoked hreview hexecution hplanned hauthorizations hnext hbump =>
      have hnot := hfences.not_fenced hexecution (not_fencedStatus_planned hplanned)
      refine hfences.bumped hfollows hbump rfl (.inr ?_)
      rw [hnext]
      exact hnot
  | claimed hreview hexecution hplanned hbaseline hreviewId hsha havailable hconsumed hauthorizations hclaim hclaims hnext hbump =>
      have hnot := hfences.not_fenced hexecution (not_fencedStatus_planned hplanned)
      refine hfences.bumped hfollows hbump rfl (.inr ?_)
      rw [hnext]
      exact hnot
  | reserved hactive hreview hsnapshot howner hcreating hkind hfits hvalid hinsert hbump
  | progressed hactive hreview hlease howner hcreating hold hstep hvalid hreplace hbump =>
      exact hfences.bumped hfollows hbump rfl (.inr (hactive.not_fenced hfences))
  | dispatched hactive hreview hsnapshot hundispatched hready howner hcreating hpayload hfits hlease hleases hclaim hclaims hnext hbump =>
      refine hfences.bumped hfollows hbump rfl (.inr ?_)
      rw [hnext]
      exact hactive.not_fenced hfences
  | observed hactive hbaseline hvalid hinsert hread hbump =>
      exact hfences.bumped hfollows hbump rfl (.inr (hactive.not_fenced hfences))
  | cleanupClaimed hsnapshot hvalid hinsert hnext hbump =>
      have hin := (Table.mem_replace? hbump.replaced).mpr (.inl rfl)
      refine hfences.step hfollows (fun event hevent => ?_) fun e he => ?_
      · rcases (Table.mem_insert hinsert).mp hevent with hold | rfl
        · exact .inl hold
        · refine .inr ⟨_, hin, ?_⟩
          rw [hnext]
          rfl
      · rcases (Table.mem_replace? hbump.replaced).mp he with rfl | ⟨hold, hne⟩
        · refine .inr (.inl ?_)
          rw [hnext]
          exact trivial
        · refine .inl ⟨hold, ?_⟩
          rintro ⟨event, hevent, hid⟩
          rcases (Table.mem_insert hinsert).mp hevent with hbefore | rfl
          · exact ⟨event, hbefore, hid⟩
          · have hexecution := (Table.replace?_eq_some hbump.replaced).1
            exact absurd (Table.eq_of_clash hold hexecution hid.symm) hne
  | finalized hread hlease honly hunreleased hordered hbinds hreceipt hreceipts hvalid hreplace hbump =>
      refine hfences.bumped hfollows hbump rfl (.inl ?_)
      show fencedStatus (bumped _ _).status
      unfold bumped
      rw [status_of_validateCleanup hread]
      exact trivial
  | published hread hreview hobservation hcurrent hfacts hvalid hinsert hnext hbump =>
      refine hfences.bumped hfollows hbump rfl (.inl ?_)
      rw [hnext]
      exact fencedStatus_report _

theorem fencesHold_empty : FencesHold .empty where
  known event h := absurd h (Table.not_mem_empty event)
  status execution h := absurd h (Table.not_mem_empty execution)

/-- The fences hold in every state of a run. -/
theorem fencesHold_run (svc : BaselineServices) (inputs : List BaselineInput) :
    FencesHold ((baselineMachine svc).run .empty inputs) :=
  (invariant_of_effect fun _ _ _ h => fencesHold_effect h).run fencesHold_empty inputs

end AgentFleet.Baseline
