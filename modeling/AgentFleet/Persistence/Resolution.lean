import AgentFleet.Persistence.Evolution

/-! # Approval resolution is final

`resolve_approval` settles a pending request once.  Afterwards the request's row is frozen
(`approval?_frozen`), and every further call for it either returns the grant of the first
resolution again or raises and leaves the store as it is (`resolution_final`). -/

namespace AgentFleet

open Relational Relational.Table Transaction Transition

variable {svc : Services}

variable {s t : Store} {requestId : String} {r r' : Records} {args : ResolveArgs}
  {grant : Option CapabilityGrant} {amb : Ambient}

theorem approval?_frozen {request : ApprovalRequest}
    (found : s.records.approval? requestId = some request) (settled : request.status ≠ .pending)
    (inputs : List StoreInput) :
    ((storeMachine svc).run s inputs).records.approval? requestId = some request := by
  obtain ⟨hmem, hid⟩ := Records.approval?_mem found
  obtain ⟨b, hb, hab⟩ := (evolves_run svc s inputs).approvals request hmem
  rw [hab.settled settled] at hb
  refine Table.find?_eq_some hb (by simpa using hid) fun c hc => .inl ?_
  rw [of_decide_eq_true hc, hid]

theorem approval?_withApproval {request resolved : ApprovalRequest}
    (found : r.approval? requestId = some request) (same : resolved.requestId = request.requestId) :
    (r.withApproval resolved).approval? requestId = some (resolved.written request) := by
  obtain ⟨hmem, hid⟩ := Records.approval?_mem found
  have hrow : resolved.written request ∈ (r.withApproval resolved).approvals :=
    Records.mem_withApproval.mpr ⟨request, hmem, by simp [same]⟩
  refine Table.find?_eq_some hrow ?_ fun c hc => .inl ?_
  · exact decide_eq_true hid
  · rw [of_decide_eq_true hc]
    exact hid.symm

/-- What the first resolution of a pending request leaves behind. -/
structure Settled (r : Records) (requestId : String) (args : ResolveArgs)
    (grant : Option CapabilityGrant) (request : ApprovalRequest) : Prop where
  found : r.approval? requestId = some request
  status : request.status = if args.approve then .approved else .denied
  choice : request.resolutionChoice = some args.selectedChoice
  issued : grant = none ↔ args.approve = false
  stored : ∀ g ∈ grant, ∃ row ∈ r.capabilityGrants, row.1.requestId = some requestId
    ∧ row.1.identity = g.identity ∧ ∃ owner ∈ r.runs, owner.run.runId = row.1.runId

theorem Settled.not_pending {request : ApprovalRequest}
    (h : Settled r requestId args grant request) : request.status ≠ .pending := by
  rw [h.status]
  split_ifs <;> decide

theorem Settled.resolvedChoice {request : ApprovalRequest}
    (h : Settled r requestId args grant request) :
    request.resolvedChoice = args.selectedChoice := by
  simp [ApprovalRequest.resolvedChoice, h.choice]

/-- Settling a pending request. -/
theorem settled_of_resolved {request : ApprovalRequest}
    (found : r.approval? requestId = some request) (pending : request.status = .pending)
    (h : Resolved svc amb r request args grant r') :
    ∃ settled, Settled r' requestId args grant settled := by
  have hid : request.requestId = requestId := (Records.approval?_mem found).2
  cases h with
  | replayed _ settled => exact absurd pending settled
  | approved intent run T _ approve _ binding _ row issued _ inserted =>
      refine ⟨_, approval?_withApproval (r := { r with capabilityGrants := T }) found rfl, ?_,
        ?_, ?_, fun g hg => ?_⟩
      · simp [ApprovalRequest.written, approvedRequest, approve]
      · simp [ApprovalRequest.written, approvedRequest, ResolveArgs.selectedChoice, approve]
      · simp [approve]
      · cases hg
        obtain ⟨owner, howner, hrun⟩ := binding.runRow
        refine ⟨row, (Table.mem_insert inserted).mpr (.inr rfl), ?_, rfl, owner,
          (Records.runRow?_mem howner).1, ?_⟩
        · rw [issued, ← hid]
          rfl
        · rw [issued, hrun]
          rfl
  | denied intent run _ deny =>
      refine ⟨_, approval?_withApproval (r := r.withIntent _) found rfl, ?_, ?_, ?_, ?_⟩
      · simp [ApprovalRequest.written, deniedRequest, deny]
      · simp [ApprovalRequest.written, deniedRequest, ResolveArgs.selectedChoice, deny]
      · simp [deny]
      · simp

theorem Settled.run {request : ApprovalRequest}
    (h : Settled s.records requestId args grant request) (inputs : List StoreInput) :
    Settled ((storeMachine svc).run s inputs).records requestId args grant request := by
  refine ⟨approval?_frozen h.found h.not_pending inputs, h.status, h.choice, h.issued,
    fun g hg => ?_⟩
  have hev := evolves_run svc s inputs
  obtain ⟨row, hrow, hreq, hidentity, owner, howner, hrun⟩ := h.stored g hg
  obtain ⟨row', hrow', hgrant⟩ := hev.grants row hrow
  obtain ⟨owner', howner', hrunev⟩ := hev.runs owner howner
  refine ⟨row', hrow', ?_, hgrant.identity.trans hidentity, owner', howner', ?_⟩
  · rw [hgrant.field CapabilityGrant.requestId fun _ => rfl, hreq]
  · rw [hrunev.runId, hrun, hgrant.field CapabilityGrant.runId fun _ => rfl]

/-- A call on a settled request: the grant of the first resolution again, under the same
choice, with nothing changed. -/
theorem Settled.replay {args' : ResolveArgs} {grant' : Option CapabilityGrant}
    {request : ApprovalRequest} (h : Settled s.records requestId args grant request)
    (hr : resolveApproval svc amb requestId args' s = .ok (grant', t)) :
    t = s ∧ args'.selectedChoice = args.selectedChoice
      ∧ grant'.map CapabilityGrant.identity = grant.map CapabilityGrant.identity := by
  obtain ⟨request', hfound, hres, hunchanged⟩ := resolveApproval_ok hr
  rw [h.found] at hfound
  cases hfound
  refine ⟨hunchanged h.not_pending, ?_⟩
  have hid : request.requestId = requestId := (Records.approval?_mem h.found).2
  generalize t.records = r' at hres
  cases hres with
  | approved _ _ _ pending | denied _ _ pending => exact absurd pending h.not_pending
  | replayed _ _ sameChoice sameGrant noGrant =>
      rw [h.resolvedChoice] at sameChoice
      refine ⟨sameChoice, ?_⟩
      rw [hid] at sameGrant noGrant
      cases grant with
      | none =>
          -- a denial: a stored grant would carry the choice DENY, which no grant validates
          cases grant' with
          | none => rfl
          | some g' =>
              obtain ⟨hvalid, hchoice, -⟩ := sameGrant g' rfl
              have hdeny : args.selectedChoice = .deny := by
                simp [ResolveArgs.selectedChoice, h.issued.mp rfl]
              exact absurd (hchoice.trans (sameChoice.trans hdeny)) hvalid.1
      | some g =>
          obtain ⟨row, hrow, hreq, hidentity, owner, howner, hrun⟩ := h.stored g rfl
          have hlookup : s.records.grantForRequest? requestId = some row := by
            refine Table.find?_eq_some hrow (by simpa using hreq) fun c hc => .inr (.inr ?_)
            have hc' : c.1.requestId = some requestId := of_decide_eq_true hc
            exact ⟨hc'.trans hreq.symm, by simp [hc']⟩
          cases grant' with
          | none =>
              have hmissing := Table.find?_eq_none.mp (noGrant rfl row hlookup) owner howner
              exact absurd (by simpa using hrun) hmissing
          | some g' =>
              obtain ⟨-, -, row', hrow', rfl⟩ := sameGrant g' rfl
              rw [hlookup] at hrow'
              cases hrow'
              simp [hidentity]

/-! ### Approved rows -/

theorem expired_unapproved {request : ApprovalRequest}
    (found : s.records.approval? requestId = some request) (pending : request.status = .pending)
    (expired : request.expiresAt ≤ amb.clock 0)
    (h : resolveApproval svc amb requestId args s = .ok (grant, t)) : args.approve = false := by
  unfold resolveApproval at h
  obtain ⟨read, _, hread, h⟩ := bind_ok.mp h
  obtain ⟨hfound, rfl⟩ := getApproval_ok.mp hread
  obtain rfl : request = read := Option.some.inj (found.symm.trans hfound)
  rw [if_neg (not_not_intro pending)] at h
  obtain ⟨intent, _, -, h⟩ := bind_ok.mp h
  obtain ⟨run, _, -, h⟩ := bind_ok.mp h
  obtain ⟨_, _, -, h⟩ := bind_ok.mp h
  by_contra happrove
  rw [if_pos (eq_true_of_ne_false happrove)] at h
  obtain ⟨issued, _, hissued, -⟩ := bind_ok.mp h
  unfold approvePending at hissued
  obtain ⟨_, _, hcheck, -⟩ := bind_ok.mp hissued
  obtain ⟨hopen, -⟩ := refuseIf_ok.mp hcheck
  exact hopen (.inl expired)

theorem Effect.approval_origin {op : StoreOp} (h : Effect svc amb op r r') {b : ApprovalRequest}
    (hb : b ∈ r'.approvals) :
    b ∈ r.approvals ∨ (∀ a ∈ r.approvals, a.requestId ≠ b.requestId)
      ∨ ∃ args, op = .resolveApproval b.requestId args
        ∧ b.status = (if args.approve then .approved else .denied)
        ∧ ∃ a, r.approval? b.requestId = some a ∧ a.status = .pending := by
  cases h with
  | paused h =>
      obtain ⟨row, r₁, approvals, -, -, ⟨T, -, rfl⟩, -, happ, rfl⟩ := h.written
      rcases (Table.mem_insert happ).mp hb with hold | rfl
      · exact .inl hold
      · exact .inr (.inl fun a ha heq => Table.not_clash_of_insert happ ha (.inl heq))
  | resolved found h =>
      rename_i requestId args request grant
      have hid := (Records.approval?_mem found).2
      have hsettled : ∀ {resolved a : ApprovalRequest}, resolved.requestId = request.requestId →
          resolved.status = (if args.approve then .approved else .denied) →
          request.status = .pending → a.requestId = resolved.requestId →
          ∃ args', StoreOp.resolveApproval requestId args
              = .resolveApproval (resolved.written a).requestId args'
            ∧ (resolved.written a).status = (if args'.approve then .approved else .denied)
            ∧ ∃ b, r.approval? (resolved.written a).requestId = some b ∧ b.status = .pending := by
        intro resolved a hsame hstatus hpending hself
        have hkey : (resolved.written a).requestId = requestId := hself.trans (hsame.trans hid)
        refine ⟨args, ?_, hstatus, request, ?_, hpending⟩
        · rw [hkey]
        · rw [hkey]
          exact found
      cases h with
      | replayed => exact .inl hb
      | approved intent run T pending approve =>
          obtain ⟨a, ha, rfl⟩ := Records.mem_withApproval.mp hb
          split_ifs with hself
          · refine .inr (.inr (hsettled rfl ?_ pending hself))
            rw [if_pos approve]
            rfl
          · exact .inl ha
      | denied intent run pending denied =>
          obtain ⟨a, ha, rfl⟩ := Records.mem_withApproval.mp hb
          split_ifs with hself
          · refine .inr (.inr (hsettled rfl ?_ pending hself))
            rw [if_neg (Bool.eq_false_iff.mp denied)]
            rfl
          · exact .inl ha
  | consumed h =>
      obtain ⟨request, intent, row, run, -, -, -, -, -, -, -, -, hrange, rfl⟩ := h.spent
      exact .inl hb
  | reserved h =>
      obtain ⟨T, -, rfl⟩ := h
      exact .inl hb
  | reused _ h =>
      obtain ⟨row, -, -, -, -, -, hrange, ⟨T, -, rfl⟩⟩ := h.spent
      exact .inl hb
  | receipted _ h =>
      obtain ⟨receipt, r₁, T, -, -, -, -, -, ⟨T', -, rfl⟩, -, rfl⟩ := h.written
      exact .inl hb
  | dispatched h =>
      obtain ⟨_, T, -, rfl⟩ := h.claimed
      exact .inl hb
  | _ => exact .inl hb

/-- The request has not been approved: its row is unsettled as it was, or denied. -/
def Unapproved (request : ApprovalRequest) (r : Records) : Prop :=
  (r.approval? request.requestId = some request ∧ request.status = .pending)
    ∨ ∃ row, r.approval? request.requestId = some row ∧ row.status = .denied

/-- A transaction that starts at or after the expiry of a request does not approve it. -/
theorem Unapproved.next {input : StoreInput} {request : ApprovalRequest}
    (h : Unapproved request s.records) (expired : request.expiresAt ≤ input.amb.clock 0) :
    Unapproved request ((storeMachine svc).next s input).records := by
  rcases h with ⟨hfound, hpending⟩ | ⟨row, hfound, hdenied⟩
  · obtain ⟨hmem, -⟩ := Records.approval?_mem hfound
    have heffect := effect_of_step svc s input
    obtain ⟨b, hb, hevolves⟩ := heffect.evolves.approvals request hmem
    have hstored : ((storeMachine svc).next s input).records.approval? request.requestId
        = some b := by
      refine Table.find?_eq_some hb (decide_eq_true hevolves.requestId) fun c hc => .inl ?_
      rw [of_decide_eq_true hc, hevolves.requestId]
    rcases heffect.approval_origin hb with hold | hnew | ⟨args, hop, hstatus, -⟩
    · obtain rfl : b = request := Table.eq_of_clash hold hmem (.inl hevolves.requestId)
      exact .inl ⟨hstored, hpending⟩
    · exact absurd hevolves.requestId.symm (hnew request hmem)
    · refine .inr ⟨b, hstored, ?_⟩
      rw [hstatus]
      split_ifs with happrove
      · -- an approval at this instant raises, and leaves the row pending
        obtain ⟨op, amb⟩ := input
        obtain rfl : op = .resolveApproval b.requestId args := hop
        rw [hevolves.requestId] at hb hstored
        rcases commit_cases (resolveApproval svc amb request.requestId args) s with
          ⟨grant, t, hok, -⟩ | ⟨e, -, hc⟩
        · rw [expired_unapproved hfound hpending expired hok] at happrove
          exact Bool.noConfusion happrove
        · have hsame : (storeMachine svc).next s ⟨.resolveApproval request.requestId args, amb⟩
              = s := by
            show (commit (StoreResult.grant <$> resolveApproval svc amb request.requestId args)
              s).2 = s
            rw [commit_map, hc]
          rw [hsame] at hb
          obtain rfl : b = request := Table.eq_of_clash hb hmem (.inl hevolves.requestId)
          rw [hpending, if_pos happrove] at hstatus
          exact ApprovalStatus.noConfusion hstatus
      · rfl
  · exact .inr ⟨row, approval?_frozen hfound (by rw [hdenied]; decide) [input], hdenied⟩

/-! ### Finality -/

/-- The observable outcome of a call to `resolve_approval`. -/
def resolveStep (svc : Services) (s : Store) (amb : Ambient) (requestId : String)
    (args : ResolveArgs) : Except StoreError (Option CapabilityGrant) × Store :=
  commit (resolveApproval svc amb requestId args) s

/-- Resolution is final and idempotent.  Take any store in which a request is pending and a
call that settles it.  After any further transactions the request's row is exactly the one
the call left, with the status and the choice of the call; and any further call for it leaves
the store unchanged and either raises or repeats the choice of the call and returns the grant
that the call issued (none for a denial).  A call with another choice raises. -/
theorem resolution_final (svc : Services) (s : Store) (requestId : String)
    (request : ApprovalRequest) (args : ResolveArgs) (amb : Ambient)
    (grant : Option CapabilityGrant)
    (found : s.records.approval? requestId = some request) (pending : request.status = .pending)
    (settles : (resolveStep svc s amb requestId args).1 = .ok grant)
    (later : List StoreInput) (args' : ResolveArgs) (amb' : Ambient) :
    let settled := (resolveStep svc s amb requestId args).2
    let reached := (storeMachine svc).run settled later
    let retry := resolveStep svc reached amb' requestId args'
    (∃ row, settled.records.approval? requestId = some row
        ∧ reached.records.approval? requestId = some row
        ∧ row.status = (if args.approve then .approved else .denied)
        ∧ row.resolutionChoice = some args.selectedChoice)
      ∧ (grant = none ↔ args.approve = false)
      ∧ (∀ g ∈ grant, ∃ row ∈ reached.records.capabilityGrants,
          row.1.requestId = some requestId ∧ row.1.identity = g.identity)
      ∧ retry.2 = reached
      ∧ ((∃ error, retry.1 = .error error)
        ∨ ∃ grant', retry.1 = .ok grant' ∧ args'.selectedChoice = args.selectedChoice
          ∧ grant'.map CapabilityGrant.identity = grant.map CapabilityGrant.identity)
      ∧ (args'.selectedChoice ≠ args.selectedChoice → ∃ error, retry.1 = .error error) := by
  intro settled reached retry
  obtain ⟨request', hfound', hres, -⟩ := resolveApproval_ok (commit_ok settles)
  rw [found] at hfound'
  cases hfound'
  obtain ⟨row, hsettled⟩ := settled_of_resolved found pending hres
  have hreached : Settled reached.records requestId args grant row := hsettled.run later
  refine ⟨⟨row, hsettled.found, hreached.found, hsettled.status, hsettled.choice⟩,
    hsettled.issued, fun g hg => ?_, ?_⟩
  · obtain ⟨stored, hstored, hreq, hidentity, -⟩ := hreached.stored g hg
    exact ⟨stored, hstored, hreq, hidentity⟩
  · rcases commit_cases (resolveApproval svc amb' requestId args') reached with
      ⟨grant', t, hok, hc⟩ | ⟨error, -, hc⟩
    · obtain ⟨rfl, hchoice, hgrant⟩ := hreached.replay hok
      have hretry : retry = (.ok grant', reached) := hc
      rw [hretry]
      exact ⟨rfl, .inr ⟨grant', rfl, hchoice, hgrant⟩, fun hne => absurd hchoice hne⟩
    · have hretry : retry = (.error error, reached) := hc
      rw [hretry]
      exact ⟨rfl, .inl ⟨error, rfl⟩, fun _ => ⟨error, rfl⟩⟩

/-- A request approved once cannot be denied afterwards. -/
theorem resolution_final_sample :
    let approved := (resolveStep sampleServices pausedStore (sampleAmbient 1 "grant_1") "perm_1"
      { approve := true }).2
    (resolveStep sampleServices approved (sampleAmbient 2 "evt_2") "perm_1"
      { approve := false }).2 = approved :=
  (resolution_final sampleServices pausedStore "perm_1" sampleRequest { approve := true }
    (sampleAmbient 1 "grant_1") _ rfl rfl rfl [] { approve := false }
    (sampleAmbient 2 "evt_2")).2.2.2.1

end AgentFleet
