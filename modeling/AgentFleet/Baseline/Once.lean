import AgentFleet.Baseline.History

/-! # A baseline runs at most once

Whatever the controllers do, a baseline has at most one authorization, one owner, one dispatch and
one observation, and what was spent stays spent.  Once a cleanup claim is committed for it, the
baseline is quiet: no later transaction reserves, activates or dispatches anything for it, and
none records an observation. -/

namespace AgentFleet.Baseline

open Relational Transition

variable {svc : BaselineServices} {t t' : BaselineTables}

/-! ### Observations of runs -/

/-- The baseline that a result claims. -/
def BaselineResult.claims (baselineId : String) : Except FleetError BaselineResult → Bool
  | .ok (.claimed claim) => claim.owner.baselineId = baselineId
  | _ => false

/-- The result dispatches the command of the baseline. -/
def BaselineResult.dispatches (baselineId : String) : Except FleetError BaselineResult → Bool
  | .ok (.dispatched claim) => claim.owner.baselineId = baselineId
  | _ => false

/-- The result marks the creation of a resource of the baseline as dispatched. -/
def BaselineResult.creates (baselineId : String) : Except FleetError BaselineResult → Bool
  | .ok (.creationDispatched lease) => lease.owner.baselineId = baselineId
  | _ => false

/-- The result is work on the baseline: a reservation, an activation, a dispatch or an
observation. -/
def BaselineResult.works (baselineId : String) : Except FleetError BaselineResult → Bool
  | .ok (.reserved lease) => lease.owner.baselineId = baselineId
  | .ok (.activated lease) => lease.owner.baselineId = baselineId
  | .ok (.dispatched claim) => claim.owner.baselineId = baselineId
  | .ok (.creationDispatched lease) => lease.owner.baselineId = baselineId
  | .ok (.executionActivated lease) => lease.owner.baselineId = baselineId
  | .ok (.observed reference) => reference.baselineId = baselineId
  | _ => false

/-! ### At most once -/

/-- At most one step of a run is seen by `p`, which only effects that raise the flag `F` are. -/
theorem count_le_one {F : BaselineTables → Prop} {p : Except FleetError BaselineResult → Bool}
    (herror : ∀ error, p (.error error) = false) (hstay : ∀ t t', Follows t t' → F t → F t')
    (hfire : ∀ t result t', Effect svc t result t' → p (.ok result) = true → ¬ F t ∧ F t')
    (t : BaselineTables) (inputs : List BaselineInput) :
    ((baselineMachine svc).trace t inputs).countP p ≤ 1 := by
  have hinv : (baselineMachine svc).Invariant fun _ => True := fun _ _ _ => trivial
  refine Machine.count_trace_le_one (F := F) hinv (fun s input _ hF => ?_) (fun s input _ hp => ?_)
    trivial inputs
  · exact hstay s _ (follows_step svc s input) hF
  · rcases step_cases svc s input with ⟨result, hout, heffect⟩ | ⟨error, hout, -⟩
    · rw [hout] at hp
      exact hfire s result _ heffect hp
    · rw [hout, herror] at hp
      cases hp

theorem claims_le_one (baselineId : String) (t : BaselineTables) (inputs : List BaselineInput) :
    ((baselineMachine svc).trace t inputs).countP (BaselineResult.claims baselineId) ≤ 1 := by
  refine count_le_one (F := fun t => ∃ claim ∈ t.ownerClaims, claim.owner.baselineId = baselineId)
    (fun _ => rfl) (fun t t' hfollows => ?_) (fun t result t' heffect hp => ?_) t inputs
  · rintro ⟨claim, hclaim, hid⟩
    exact ⟨claim, hfollows.ownerClaims claim hclaim, hid⟩
  · cases heffect with
    | claimed hreview hexecution hplanned hbaseline hreviewId hsha havailable hconsumed hauthorizations hclaim hclaims =>
        have hid := of_decide_eq_true hp
        refine ⟨?_, _, (Table.mem_insert hclaims).mpr (.inr rfl), hid⟩
        rintro ⟨claim, hmem, hclaimId⟩
        exact Table.not_clash_of_insert hclaims hmem (.inr (hclaimId.trans hid.symm))
    | progressed _ _ _ _ _ _ hstep => cases hstep <;> cases hp
    | _ => cases hp

theorem dispatches_le_one (baselineId : String) (t : BaselineTables)
    (inputs : List BaselineInput) :
    ((baselineMachine svc).trace t inputs).countP (BaselineResult.dispatches baselineId) ≤ 1 := by
  refine count_le_one
    (F := fun t => ∃ claim ∈ t.dispatchClaims, claim.owner.baselineId = baselineId)
    (fun _ => rfl) (fun t t' hfollows => ?_) (fun t result t' heffect hp => ?_) t inputs
  · rintro ⟨claim, hclaim, hid⟩
    exact ⟨claim, hfollows.dispatchClaims claim hclaim, hid⟩
  · cases heffect with
    | dispatched hactive hreview hsnapshot hundispatched hready howner hcreating hpayload hfits hlease hleases hclaim hclaims =>
        have hid := of_decide_eq_true hp
        refine ⟨?_, _, (Table.mem_insert hclaims).mpr (.inr rfl), hid⟩
        rintro ⟨claim, hmem, hclaimId⟩
        exact Table.not_clash_of_insert hclaims hmem (.inr (hclaimId.trans hid.symm))
    | progressed _ _ _ _ _ _ hstep => cases hstep <;> cases hp
    | _ => cases hp

theorem creates_le_one (baselineId : String) (t : BaselineTables) (inputs : List BaselineInput) :
    ((baselineMachine svc).trace t inputs).countP (BaselineResult.creates baselineId) ≤ 1 := by
  refine count_le_one
    (F := fun t => ∃ lease ∈ t.leases, lease.owner.baselineId = baselineId
      ∧ creationDispatched lease)
    (fun _ => rfl) (fun t t' hfollows => ?_) (fun t result t' heffect hp => ?_) t inputs
  · rintro ⟨lease, hlease, hid, hdispatched⟩
    obtain ⟨later, hlater, hle⟩ := hfollows.leases lease hlease
    exact ⟨later, hlater, hle.owner ▸ hid, hle.dispatched hdispatched⟩
  · cases heffect with
    | @progressed claim lease execution review status old payload result now later leases
        executions hactive hreview hlease howner hcreating hold hstep hvalid hreplace hbump =>
        cases hstep with
        | workspace => cases hp
        | sandbox payload hhandle | execute payload handle hdispatched hnone => cases hp
        | mark payload hnot =>
            have hid : lease.owner.baselineId = baselineId := of_decide_eq_true hp
            refine ⟨?_, _, (Table.mem_replace? hreplace).mpr (.inl rfl), hid, rfl⟩
            rintro ⟨other, hother, hotherId, hdispatched⟩
            have hotherKind : other.kind = lease.kind := by
              unfold creationDispatched at hdispatched
              unfold BaselineResourceLease.kind
              rw [hold]
              cases hpay : other.payload with
              | workspace held | sandbox payload =>
                  rw [hpay] at hdispatched
                  exact hdispatched.elim
              | execution => rfl
            have hsame : other = lease :=
              Table.eq_of_clash hother hlease (.inr ⟨hotherId.trans hid.symm, hotherKind⟩)
            subst hsame
            unfold creationDispatched at hdispatched
            rw [hold] at hdispatched
            exact Bool.false_ne_true (hnot.symm.trans hdispatched)
    | _ => cases hp

/-! ### Fenced baselines are quiet -/

variable {result : BaselineResult} {baselineId : String} {l l' : BaselineResourceLease}

/-- Work on a baseline is done by its active owner. -/
theorem Effect.active_of_works (h : Effect svc t result t')
    (hworks : BaselineResult.works baselineId (.ok result) = true) :
    ∃ claim execution, Active svc t claim execution ∧ execution.baselineId = baselineId := by
  cases h with
  | observedAgain hactive hbaseline =>
      exact ⟨_, _, hactive, hbaseline.symm.trans (of_decide_eq_true hworks)⟩
  | reserved hactive hreview hsnapshot howner =>
      refine ⟨_, _, hactive, ?_⟩
      rw [← hactive.baselineId, ← howner]
      exact of_decide_eq_true hworks
  | progressed hactive hreview hlease howner hcreating hold hstep =>
      refine ⟨_, _, hactive, ?_⟩
      rw [← hactive.baselineId, ← howner]
      cases hstep with
      | workspace held | sandbox payload hhandle | mark payload hnot
      | execute => exact of_decide_eq_true hworks
  | dispatched hactive =>
      refine ⟨_, _, hactive, ?_⟩
      rw [← hactive.baselineId]
      exact of_decide_eq_true hworks
  | observed hactive hbaseline =>
      exact ⟨_, _, hactive, hbaseline.symm.trans (of_decide_eq_true hworks)⟩
  | authorizedAgain | revokedAgain | created | authorized | revoked | claimed | cleanupClaimed
  | finalized | published => cases hworks

/-- No work is done on a fenced baseline. -/
theorem works_eq_zero (baselineId : String) (hfences : FencesHold t) (hfenced : Fenced t baselineId)
    (inputs : List BaselineInput) :
    ((baselineMachine svc).trace t inputs).countP (BaselineResult.works baselineId) = 0 := by
  refine Machine.count_trace_eq_zero (F := fun t => Fenced t baselineId)
    (invariant_of_effect fun _ _ _ h => fencesHold_effect h) (fun s input _ hs => ?_)
    (fun s input hs hp hF => ?_) hfences hfenced inputs
  · exact (follows_step svc s input).fenced hs
  · rcases step_cases svc s input with ⟨result, hout, heffect⟩ | ⟨error, hout, -⟩
    · rw [hout] at hp
      obtain ⟨claim, execution, hactive, rfl⟩ := heffect.active_of_works hp
      exact hactive.not_fenced hs hF
    · rw [hout] at hp
      cases hp

/-- Where a lease of a fenced baseline comes from: it is the same one, or a cleanup ended it. -/
structure LeaseClosed (l l' : BaselineResourceLease) : Prop where
  leaseId : l'.leaseId = l.leaseId
  owner : l'.owner = l.owner
  payload : l'.payload = l.payload
  ended : l' = l ∨ l'.status = .released ∨ l'.status = .failed

/-- Nothing is added to the resources, the dispatch and the observation of a baseline. -/
structure Quiet (baselineId : String) (t t' : BaselineTables) : Prop where
  leases : ∀ l' ∈ t'.leases, l'.owner.baselineId = baselineId → ∃ l ∈ t.leases, LeaseClosed l l'
  dispatchClaims : ∀ claim ∈ t'.dispatchClaims, claim.owner.baselineId = baselineId →
    claim ∈ t.dispatchClaims
  observations : ∀ row ∈ t'.observations, row.value.baselineId = baselineId →
    row ∈ t.observations

theorem LeaseClosed.refl (l : BaselineResourceLease) : LeaseClosed l l :=
  ⟨rfl, rfl, rfl, .inl rfl⟩

theorem LeaseClosed.trans {l'' : BaselineResourceLease} (h : LeaseClosed l l')
    (h' : LeaseClosed l' l'') : LeaseClosed l l'' where
  leaseId := h'.leaseId.trans h.leaseId
  owner := h'.owner.trans h.owner
  payload := h'.payload.trans h.payload
  ended := by
    rcases h'.ended with rfl | hended
    · exact h.ended
    · exact .inr hended

theorem Quiet.refl (baselineId : String) (t : BaselineTables) : Quiet baselineId t t where
  leases l hl _ := ⟨l, hl, .refl l⟩
  dispatchClaims _ h _ := h
  observations _ h _ := h

theorem finalized_closed (lease : BaselineResourceLease) (receipt : BaselineCleanupReceipt) :
    LeaseClosed lease (finalized svc lease receipt) where
  leaseId := rfl
  owner := rfl
  payload := rfl
  ended := by
    refine .inr ?_
    unfold finalized
    split_ifs
    · exact .inl rfl
    · exact .inr rfl

/-- A replaced lease of another baseline, or one that a cleanup ended. -/
theorem quiet_leases {table : Table BaselineResourceLease} {next : BaselineResourceLease}
    (h : t.leases.replace? l next = some table)
    (hnext : next.owner.baselineId = baselineId → LeaseClosed l next) (hl' : l' ∈ table)
    (hid : l'.owner.baselineId = baselineId) : ∃ l ∈ t.leases, LeaseClosed l l' := by
  rcases (Table.mem_replace? h).mp hl' with rfl | ⟨hold, -⟩
  · exact ⟨l, (Table.replace?_eq_some h).1, hnext hid⟩
  · exact ⟨l', hold, .refl l'⟩

/-- An effect is quiet about a fenced baseline. -/
theorem Effect.quiet (h : Effect svc t result t') (hfences : FencesHold t)
    (hfenced : Fenced t baselineId) : Quiet baselineId t t' := by
  have hother : ∀ {claim : BaselineOwnerClaim} {execution : BaselineExecution},
      Active svc t claim execution → claim.owner.baselineId ≠ baselineId := by
    intro claim execution hactive hid
    refine hactive.not_fenced hfences ?_
    rw [← hactive.baselineId, hid]
    exact hfenced
  cases h with
  | reserved hactive hreview hsnapshot howner hcreating hkind hfits hvalid hinsert =>
      refine { Quiet.refl baselineId t with leases := fun l' hl' hid => ?_ }
      rcases (Table.mem_insert hinsert).mp hl' with hold | rfl
      · exact ⟨l', hold, .refl l'⟩
      · exact absurd (howner ▸ hid) (hother hactive)
  | progressed hactive hreview hlease howner hcreating hold hstep hvalid hreplace =>
      refine { Quiet.refl baselineId t with leases := fun l' hl' hid => ?_ }
      refine quiet_leases hreplace (fun hnext => ?_) hl' hid
      exact absurd (howner ▸ hnext) (hother hactive)
  | dispatched hactive hreview hsnapshot hundispatched hready howner hcreating hpayload hfits hlease hleases hclaim hclaims =>
      refine { Quiet.refl baselineId t with
        leases := fun l' hl' hid => ?_
        dispatchClaims := fun claim hclaim hid => ?_ }
      · rcases (Table.mem_insert hleases).mp hl' with hold | rfl
        · exact ⟨l', hold, .refl l'⟩
        · exact absurd (howner ▸ hid) (hother hactive)
      · rcases (Table.mem_insert hclaims).mp hclaim with hold | rfl
        · exact hold
        · exact absurd hid (hother hactive)
  | observed hactive hbaseline hvalid hinsert =>
      refine { Quiet.refl baselineId t with observations := fun row hrow hid => ?_ }
      rcases (Table.mem_insert hinsert).mp hrow with hold | rfl
      · exact hold
      · refine absurd ?_ (hother hactive)
        rw [hactive.baselineId, ← hbaseline]
        exact hid
  | finalized hread hlease honly hunreleased hordered hbinds hreceipt hreceipts hvalid hreplace =>
      refine { Quiet.refl baselineId t with leases := fun l' hl' hid => ?_ }
      exact quiet_leases hreplace (fun _ => finalized_closed _ _) hl' hid
  | authorizedAgain | revokedAgain | observedAgain => exact .refl baselineId t
  | created => exact { Quiet.refl baselineId t with }
  | authorized => exact { Quiet.refl baselineId t with }
  | revoked | claimed | cleanupClaimed | published => exact { Quiet.refl baselineId t with }

/-- A run is quiet about a fenced baseline. -/
theorem quiet_run (hfences : FencesHold t) (hfenced : Fenced t baselineId)
    (inputs : List BaselineInput) : Quiet baselineId t ((baselineMachine svc).run t inputs) := by
  induction inputs generalizing t with
  | nil => exact .refl baselineId t
  | cons input inputs ih =>
      have hnext : FencesHold ((baselineMachine svc).next t input) :=
        invariant_of_effect (fun _ _ _ h => fencesHold_effect h) t input hfences
      have hfirst : Quiet baselineId t ((baselineMachine svc).next t input) := by
        rcases step_cases svc t input with ⟨result, -, heffect⟩ | ⟨error, -, hsame⟩
        · exact heffect.quiet hfences hfenced
        · rw [hsame]
          exact .refl baselineId t
      have hrest := ih hnext ((follows_step svc t input).fenced hfenced)
      rw [Machine.run_cons]
      refine ⟨fun l'' hl'' hid => ?_, fun claim hclaim hid => ?_, fun row hrow hid => ?_⟩
      · obtain ⟨l', hl', hclosed'⟩ := hrest.leases l'' hl'' hid
        obtain ⟨l, hl, hclosed⟩ := hfirst.leases l' hl' (hclosed'.owner ▸ hid)
        exact ⟨l, hl, hclosed.trans hclosed'⟩
      · exact hfirst.dispatchClaims claim (hrest.dispatchClaims claim hclaim hid) hid
      · exact hfirst.observations row (hrest.observations row hrow hid) hid

/-! ### Exactly once -/

/-- At most one authorization, owner, dispatch and observation of a baseline. -/
structure AtMostOne (baselineId : String) (t : BaselineTables) : Prop where
  authorizations : ∀ a ∈ t.authorizations, ∀ b ∈ t.authorizations,
    a.baselineId = baselineId → b.baselineId = baselineId → a = b
  ownerClaims : ∀ a ∈ t.ownerClaims, ∀ b ∈ t.ownerClaims,
    a.owner.baselineId = baselineId → b.owner.baselineId = baselineId → a = b
  dispatchClaims : ∀ a ∈ t.dispatchClaims, ∀ b ∈ t.dispatchClaims,
    a.owner.baselineId = baselineId → b.owner.baselineId = baselineId → a = b
  observations : ∀ a ∈ t.observations, ∀ b ∈ t.observations,
    a.value.baselineId = baselineId → b.value.baselineId = baselineId → a = b

theorem atMostOne_of_table (baselineId : String) (t : BaselineTables) : AtMostOne baselineId t where
  authorizations _ ha _ hb hida hidb := Table.eq_of_clash ha hb (.inr (hida.trans hidb.symm))
  ownerClaims _ ha _ hb hida hidb := Table.eq_of_clash ha hb (.inr (hida.trans hidb.symm))
  dispatchClaims _ ha _ hb hida hidb := Table.eq_of_clash ha hb (.inr (hida.trans hidb.symm))
  observations _ ha _ hb hida hidb := Table.eq_of_clash ha hb (.inr (.inl (hida.trans hidb.symm)))

/-- What was done once between two states of a run is never undone or done again. -/
structure Permanent (t t' : BaselineTables) : Prop where
  -- an authorization is spent once, by its consumption or its revocation
  spent : ∀ a ∈ t.authorizations, a.status ≠ .available → a ∈ t'.authorizations
  unspent : ∀ a ∈ t.authorizations, a.status = .available → ∃ a' ∈ t'.authorizations,
    a' = a ∨ a'.status ≠ .available ∧ a'.authorizationId = a.authorizationId
      ∧ a'.baselineId = a.baselineId
  ownerClaims : ∀ claim ∈ t.ownerClaims, claim ∈ t'.ownerClaims
  dispatchClaims : ∀ claim ∈ t.dispatchClaims, claim ∈ t'.dispatchClaims
  observations : ∀ row ∈ t.observations, row ∈ t'.observations

theorem Follows.permanent (h : Follows t t') : Permanent t t' where
  spent a ha hspent := by
    obtain ⟨a', ha', rfl | ⟨havailable, -⟩⟩ := h.authorizations a ha
    · exact ha'
    · exact absurd havailable hspent
  unspent a ha _ := by
    obtain ⟨a', ha', hsame | ⟨-, hspent, hid, hbaseline⟩⟩ := h.authorizations a ha
    · exact ⟨a', ha', .inl hsame⟩
    · exact ⟨a', ha', .inr ⟨hspent, hid, hbaseline⟩⟩
  ownerClaims := h.ownerClaims
  dispatchClaims := h.dispatchClaims
  observations := h.observations

/-- In every run, whatever the controllers do and wherever they stop: a baseline has at most one
authorization, owner, dispatch and observation, and none of them is undone or done again; it is
claimed, dispatched and its creation marked by at most one transaction each; and after its first
cleanup claim no transaction works on it and nothing is added to its resources. -/
theorem baseline_exactly_once (svc : BaselineServices) (baselineId : String)
    (before after : List BaselineInput) :
    let machine := baselineMachine svc
    let t := machine.run .empty before
    let t' := machine.run t after
    AtMostOne baselineId t' ∧ Permanent t t'
      ∧ (machine.trace .empty before).countP (BaselineResult.claims baselineId) ≤ 1
      ∧ (machine.trace .empty before).countP (BaselineResult.dispatches baselineId) ≤ 1
      ∧ (machine.trace .empty before).countP (BaselineResult.creates baselineId) ≤ 1
      ∧ (Fenced t baselineId →
        (machine.trace t after).countP (BaselineResult.works baselineId) = 0
          ∧ Quiet baselineId t t') := by
  intro machine t t'
  have hfences : FencesHold t := fencesHold_run svc before
  refine ⟨atMostOne_of_table baselineId t', (follows_run svc t after).permanent, ?_, ?_, ?_,
    fun hfenced => ⟨?_, ?_⟩⟩
  · exact claims_le_one baselineId .empty before
  · exact dispatches_le_one baselineId .empty before
  · exact creates_le_one baselineId .empty before
  · exact works_eq_zero baselineId hfences hfenced after
  · exact quiet_run hfences hfenced after

end AgentFleet.Baseline
