import AgentFleet.Persistence.Resolution
import AgentFleet.Policy.Reset

/-! # Approvals and the rules they stage

An approval for always is written twice: the rule goes into the policy file, then the request is
settled in the store.  `approve` and `deny` end in a phase, and the phases of any number of calls
are taken in any order; a crash is a phase that is never taken.

* `approvalMachine` runs the calls beside every other call and transaction; each of its steps is
  one of `policyMachine`, or none.
* `Backs` is what the store has to say of a rule that was staged for a request.
* `staged_rules_dormant`: whatever the order, a staged rule matches only when it is backed. -/

namespace AgentFleet

open Checks Transition Transaction

/-! ### The service -/

/-- What the service uses: the policy's services, and the validation of a scope from JSON. -/
structure ApprovalServices extends PolicyServices where
  validateScope : JsonObject → PolicyResult ExactPermissionScope

/-- `RepositoryInfo`: what a run is compared with. -/
structure RepositoryInfo where
  identityHash : Sha256
  headRevision : String
  statusFingerprint : String

/-- What an approval reads: as an evaluation, and the repository of a project. -/
structure ApprovalReads extends PolicyReads where
  inspect : Project → PolicyResult RepositoryInfo

/-- A phase of a call: what it does next. -/
inductive ApprovalPhase where
  | staging (requestId : String) (scope : ExactPermissionScope) (scopeSha256 : Option Sha256)
  | resolving (requestId : String) (args : ResolveArgs)
  | returned

/-- `FleetError(ErrorCode.APPROVAL_INVALID, ...)`. -/
def approvalInvalid (message remediation : String) (details : JsonObject) : StoreError :=
  .fleet { code := .approvalInvalid, message, remediation, details }

/-- `if c: raise FleetError(ErrorCode.APPROVAL_INVALID, ...)`. -/
def approvalCheck (c : Prop) [Decidable c] (message remediation : String) : PolicyResult Unit :=
  if c then .error (approvalInvalid message remediation []) else .ok ()

section Service

variable (svc : ApprovalServices) (reads : ApprovalReads) (clock : PolicyClock)

/-- `validate_run_target`. -/
def validateRunTarget (run : SandboxedRun) : PolicyResult Unit := do
  let project ← reads.getProject run.projectId
  let info ← reads.inspect project
  policyCheck (info.identityHash ≠ project.identityHash
      ∨ info.headRevision ≠ run.baseRevision
      ∨ info.statusFingerprint ≠ run.registration.targetStatusFingerprint)
    "The repository identity, base, or working tree changed."
  let config ← reads.loadSnapshot 2 project
  policyCheck (some config.snapshotSha256 ≠ run.configSnapshotHash)
    "The reviewed run configuration changed."

/-- The error of a request whose run has no task or no sandbox. -/
def incompleteContext : StoreError :=
  approvalInvalid "Approval context is incomplete." "Inspect the run before retrying." []

/-- The task and the sandbox of a run. -/
def approvalContext (run : SandboxedRun) : PolicyResult (String × SandboxCapabilities) :=
  match run.taskId, run.sandboxCapabilitiesSnapshot with
  | some taskId, some sandbox => .ok (taskId, sandbox)
  | _, _ => .error incompleteContext

/-- The scope that a decision is about, unless the decision is a ceiling. -/
def effectiveScope (decision : PermissionDecision) : PolicyResult ExactPermissionScope :=
  match decision.outcome, decision.effectiveScope with
  | .deny, _ | _, none =>
      .error (.fleet
        { code := .commandDenied
          message := decision.explanation
          remediation := "A user approval cannot override a policy ceiling." })
  | _, some scope => svc.validateScope scope

/-- The scope of the request and the one that was evaluated now are the same. -/
def reviewScope (request : ApprovalRequest) (choice : ApprovalChoice)
    (scope : ExactPermissionScope) : PolicyResult (Option Sha256) :=
  match request.authorizationScope with
  | some requested => do
      approvalCheck (JsonValue.pyEqFields scope.modelDump requested = false)
        "The approval scope changed."
        "Start a new run after reviewing the changed conditions."
      pure (some (scope.scopeSha256 svc.toTrustServices))
  | none => do
      approvalCheck (choice ≠ .allowOnce) "A legacy request permits once only."
        "Start a new run to obtain a fully scoped request."
      pure none

/-- The evaluation of a pending request under the policy of now. -/
def reviewPending (intents : String → PolicyResult StoredToolIntent) (request : ApprovalRequest)
    (choice : ApprovalChoice) : PolicyResult (ExactPermissionScope × Option Sha256) := do
  let run ← reads.getRun request.runId
  validateRunTarget reads run
  let (taskId, sandbox) ← approvalContext run
  let stored ← intents request.intentId
  approvalCheck (svc.canonicalJsonHash stored.intent.modelDump ≠ request.intentHash)
    "The approved intent has changed." "Start a fresh run with the intended action."
  let task ← reads.getTask taskId
  let decision ← evaluate svc.toTrustServices reads.toPolicyReads clock stored.intent task sandbox
  let scope ← effectiveScope svc decision
  let scopeSha256 ← reviewScope svc request choice scope
  approvalCheck (choice ∉ request.availableChoices) "This approval duration is unavailable."
    "Choose an option present on the exact request."
  pure (scope, scopeSha256)

/-- `approve`, up to its first write; a service without a policy is not `configured`. -/
def approve (intents : String → PolicyResult StoredToolIntent) (configured : Bool)
    (requestId : String) (choice : ApprovalChoice) (actor : String) :
    PolicyResult ApprovalPhase := do
  if actor ≠ "user" then
    .error (approvalInvalid "Agents and workflow roles cannot approve permission requests."
      "A user must issue the explicit approval command." [("actor", .str actor)])
  else
    let request ← reads.getApproval requestId
    approvalCheck (request.status = .denied)
      "A denied approval request cannot later be approved."
      "Start a new run if the action is still wanted."
    approvalCheck (choice = .deny) "Deny is not an approval choice."
      "Use the explicit deny command."
    let requested : ResolveArgs :=
      { approve := true
        choice := choice
        scopeSha256 := scopeHash svc.toServices request.authorizationScope
        sourceRuleId := request.sourceRuleId }
    if request.status = .pending ∧ configured = true then
      let (scope, scopeSha256) ← reviewPending svc reads clock intents request choice
      if choice = .allowAlways then pure (.staging requestId scope scopeSha256)
      else pure (.resolving requestId { requested with scopeSha256 })
    else
      approvalCheck (request.status = .pending ∧ choice ≠ .allowOnce)
        "Persistent policy is not configured."
        "Use the complete Fleet application to grant a wider duration."
      pure (.resolving requestId requested)

/-- `deny`, up to its write. -/
def deny (requestId : String) (reason : Option String) (actor : String) :
    PolicyResult ApprovalPhase := do
  approvalCheck (actor ≠ "user") "Only the user may resolve approvals."
    "Request a decision from the user."
  let request ← reads.getApproval requestId
  approvalCheck (request.status = .approved)
    "An approved request cannot be changed to denied."
    "Cancel the run before resuming if the action is no longer wanted."
  pure (.resolving requestId { approve := false, denialReason := reason })

/-- The resolution that follows a staged rule. -/
def stagedResolution (requestId : String) (scopeSha256 : Option Sha256) : ResolveArgs where
  approve := true
  choice := .allowAlways
  scopeSha256 := scopeSha256
  sourceRuleId := some (ruleIdOf requestId)

end Service

/-! ### The machine -/

/-- The policy file and the store, and the calls with their next phases. -/
structure ApprovalState (svc : ApprovalServices) where
  state : PolicyState svc.toPolicyServices
  calls : List ApprovalPhase

/-- A call begins, or takes its next phase; any other call or transaction. -/
inductive ApprovalInput where
  | approve (reads : ApprovalReads) (clock : PolicyClock) (configured : Bool)
      (requestId : String) (choice : ApprovalChoice) (actor : String)
  | deny (reads : ApprovalReads) (requestId : String) (reason : Option String) (actor : String)
  | stage (index : ℕ) (now : Timestamp) (getProject : PolicyResult Project)
      (fault : Option SaveFault)
  | resolve (index : ℕ) (amb : Ambient)
  | other (input : PolicyInput)

section Machine

variable (svc : ApprovalServices)

/-- The reads of a call, with the requests, the grants and the policy of the state. -/
def ApprovalReads.ofState (reads : ApprovalReads) (s : PolicyState svc.toPolicyServices) :
    ApprovalReads :=
  { reads with
    getApproval := fun requestId => (getApproval requestId).value s.store
    listGrants := fun runId => (listGrants runId).value s.store
    loadTrust := .ok s.policy }

/-- A call that begins. -/
def ApprovalState.begin (s : ApprovalState svc) (phase : PolicyResult ApprovalPhase) :
    ApprovalState svc × PolicyResult Unit :=
  match phase with
  | .ok phase => ({ s with calls := s.calls ++ [phase] }, .ok ())
  | .error e => (s, .error e)

/-- `stage_always_rule` of a call, and what follows it. -/
def ApprovalState.stage (s : ApprovalState svc) (index : ℕ) (now : Timestamp)
    (getProject : PolicyResult Project) (fault : Option SaveFault) :
    ApprovalState svc × PolicyResult Unit :=
  match s.calls[index]? with
  | some (.staging requestId scope scopeSha256) =>
      let r := perform svc.toPolicyServices s.state
        (.stageAlwaysRule requestId scope now getProject) fault
      let phase := match r.1 with
        | .ok _ => ApprovalPhase.resolving requestId (stagedResolution requestId scopeSha256)
        | .error _ => .returned
      ({ state := r.2, calls := s.calls.set index phase }, r.1)
  | _ => (s, .ok ())

/-- `resolve_approval` of a call, which returns with the grant. -/
def ApprovalState.resolve (s : ApprovalState svc) (index : ℕ) (amb : Ambient) :
    ApprovalState svc × PolicyResult Unit :=
  match s.calls[index]? with
  | some (.resolving requestId args) =>
      let r := commit (resolveApproval svc.toServices amb requestId args) s.state.store
      let result := match r.1 with
        | .ok grant =>
            if args.approve = true ∧ grant = none then
              .error (approvalInvalid "Approval resolution did not issue a one-use grant."
                "Inspect the approval event history." [])
            else .ok ()
        | .error e => .error e
      ({ state := { s.state with store := r.2 }, calls := s.calls.set index .returned }, result)
  | _ => (s, .ok ())

/-- Approvals, denials and everything else that writes the policy or the store. -/
def approvalMachine : Machine (ApprovalState svc) ApprovalInput (PolicyResult Unit) where
  step s
    | .approve reads clock configured requestId choice actor =>
        s.begin svc (approve svc (reads.ofState svc s.state) clock
          (fun intentId => (getIntentById intentId).value s.state.store) configured requestId
          choice actor)
    | .deny reads requestId reason actor =>
        s.begin svc (deny (reads.ofState svc s.state) requestId reason actor)
    | .stage index now getProject fault => s.stage svc index now getProject fault
    | .resolve index amb => s.resolve svc index amb
    | .other input =>
        let r := (policyMachine svc.toPolicyServices).step s.state input
        ({ s with state := r.1 }, r.2)

end Machine

section Steps

variable {svc : ApprovalServices} {s : ApprovalState svc}

/-- A step is one of the policy's machine, or none. -/
theorem approval_refines (svc : ApprovalServices) :
    (approvalMachine svc).Refines (policyMachine svc.toPolicyServices) ApprovalState.state := by
  have hbegin (s : ApprovalState svc) (phase : PolicyResult ApprovalPhase) :
      (s.begin svc phase).1.state = s.state := by
    cases phase <;> rfl
  intro s input
  cases input with
  | approve => exact ⟨[], hbegin s _⟩
  | deny => exact ⟨[], hbegin s _⟩
  | stage index now getProject fault =>
      show ∃ bs, (s.stage svc index now getProject fault).1.state = _
      unfold ApprovalState.stage
      split
      · exact ⟨[.call (.stageAlwaysRule _ _ now getProject) fault], rfl⟩
      · exact ⟨[], rfl⟩
  | resolve index amb =>
      show ∃ bs, (s.resolve svc index amb).1.state = _
      unfold ApprovalState.resolve
      split
      · rename_i requestId args _
        refine ⟨[.transaction ⟨.resolveApproval requestId args, amb⟩], ?_⟩
        exact congrArg (fun store => { s.state with store }) (commit_map _ _ _).symm
      · exact ⟨[], rfl⟩
  | other input => exact ⟨[input], rfl⟩

theorem policyGrows_approvals (s : ApprovalState svc) (inputs : List ApprovalInput) :
    PolicyGrows s.state.policy ((approvalMachine svc).run s inputs).state.policy := by
  obtain ⟨bs, hrun⟩ := (approval_refines svc).run s inputs
  rw [hrun]
  exact policyGrows_run s.state bs

theorem storeEvolves_approvals (s : ApprovalState svc) (inputs : List ApprovalInput) :
    Evolves s.state.store.records ((approvalMachine svc).run s inputs).state.store.records := by
  obtain ⟨bs, hrun⟩ := (approval_refines svc).run s inputs
  rw [hrun]
  exact storeEvolves_run s.state bs

/-! ### What makes a staged rule match -/

/-- A request that was approved for always, for exactly this rule. -/
structure Backs (r : Records) (requestId : String) (rule : UserTrustRule)
    (request : ApprovalRequest) : Prop where
  found : r.approval? requestId = some request
  approved : request.status = .approved
  always : request.resolutionChoice = some .allowAlways
  named : request.sourceRuleId = some rule.ruleId
  scope : ∃ scope, request.authorizationScope = some scope
    ∧ JsonValue.pyEqFields scope rule.scope.modelDump = true

/-- An evaluation that reads the policy, the grants and the requests of a state. -/
structure ReadsState {svc : PolicyServices} (s : PolicyState svc) (reads : PolicyReads) : Prop
    extends ReadsFrom s reads where
  approvals : ∀ requestId, reads.getApproval requestId = (getApproval requestId).value s.store

variable {requestId : String} {now : Timestamp} {rule : UserTrustRule}

theorem getApproval_value {store : Store} {request : ApprovalRequest} :
    (getApproval requestId).value store = .ok request
      ↔ store.records.approval? requestId = some request := by
  constructor
  · intro h
    obtain ⟨t, h⟩ := value_ok h
    exact (getApproval_ok.mp h).1
  · intro h
    have hread : getApproval requestId store = .ok (request, store) :=
      getApproval_ok.mpr ⟨h, rfl⟩
    show (commit (getApproval requestId) store).1 = _
    unfold commit
    rw [hread]

theorem backs_of_active {state : PolicyState svc.toPolicyServices} {reads : PolicyReads}
    (hreads : ReadsState state reads) (hsource : requestId ∈ rule.sourceApprovalRequestId)
    (hactive : ruleIsActive reads now rule = .ok true) :
    ∃ request, Backs state.store.records requestId rule request := by
  unfold ruleIsActive at hactive
  split_ifs at hactive with hdead
  · exact Bool.noConfusion (Except.ok.inj hactive)
  · rw [Option.mem_def.mp hsource] at hactive
    obtain ⟨request, hrequest, hactive⟩ := bind_ok.mp hactive
    rw [hreads.approvals, getApproval_value] at hrequest
    have hall := Except.ok.inj hactive
    simp only [Bool.and_eq_true, decide_eq_true_iff] at hall
    obtain ⟨⟨⟨happroved, halways⟩, hnamed⟩, hscope⟩ := hall
    obtain ⟨scope, hscope, heq⟩ := (Option.any_eq_true _ _).mp hscope
    exact ⟨request, hrequest, happroved, halways, hnamed, scope, hscope, heq⟩

/-- A request that was found and does not back a rule keeps it inactive. -/
theorem inactive_of_request {state : PolicyState svc.toPolicyServices} {reads : PolicyReads}
    (hreads : ReadsState state reads) (hsource : requestId ∈ rule.sourceApprovalRequestId)
    {request : ApprovalRequest} (hfound : state.store.records.approval? requestId = some request)
    (hother : request.status ≠ .approved ∨ request.resolutionChoice ≠ some .allowAlways) :
    ruleIsActive reads now rule = .ok false := by
  cases hactive : ruleIsActive reads now rule with
  | error =>
      unfold ruleIsActive at hactive
      split_ifs at hactive with hdead
      rw [Option.mem_def.mp hsource] at hactive
      dsimp only at hactive
      rw [hreads.approvals, getApproval_value.mpr hfound] at hactive
      cases hactive
  | ok active =>
      cases active with
      | false => rfl
      | true =>
          obtain ⟨backing, hbacks⟩ := backs_of_active hreads hsource hactive
          obtain rfl : request = backing := Option.some.inj (hfound.symm.trans hbacks.found)
          rcases hother with hother | hother
          · exact absurd hbacks.approved hother
          · exact absurd hbacks.always hother

/-! ### Requests that expire -/

/-- The instant that a resolution in this step would read. -/
def ApprovalInput.instant? : ApprovalInput → Option Timestamp
  | .resolve _ amb => some (amb.clock 0)
  | .other (.transaction input) => some (input.amb.clock 0)
  | _ => none

theorem Unapproved.nextApproval {request : ApprovalRequest} {input : ApprovalInput}
    (h : Unapproved request s.state.store.records)
    (expired : ∀ now ∈ input.instant?, request.expiresAt ≤ now) :
    Unapproved request ((approvalMachine svc).next s input).state.store.records := by
  have hbegin (phase : PolicyResult ApprovalPhase) : (s.begin svc phase).1.state = s.state := by
    cases phase <;> rfl
  cases input with
  | approve reads clock configured requestId choice actor | deny reads requestId reason actor =>
      show Unapproved request (s.begin svc _).1.state.store.records
      rw [hbegin]
      exact h
  | stage index now getProject fault =>
      show Unapproved request (s.stage svc index now getProject fault).1.state.store.records
      unfold ApprovalState.stage
      split
      · rename_i requestId scope scopeSha256 _
        have hstore : (perform svc.toPolicyServices s.state
            (.stageAlwaysRule requestId scope now getProject) fault).2.store = s.state.store := by
          rcases next_policy s.state (.stageAlwaysRule requestId scope now getProject) fault with
            hsame | ⟨proposed, -, -, hstore⟩
          · exact congrArg PolicyState.store hsame
          · exact hstore
        dsimp only
        rw [hstore]
        exact h
      · exact h
  | resolve index amb =>
      show Unapproved request (s.resolve svc index amb).1.state.store.records
      unfold ApprovalState.resolve
      split
      · rename_i requestId args _
        have hnext : Unapproved request ((storeMachine svc.toServices).next s.state.store
            ⟨.resolveApproval requestId args, amb⟩).records := h.next (expired _ rfl)
        dsimp only
        rw [← commit_map _ StoreResult.grant]
        exact hnext
      · exact h
  | other input =>
      cases input with
      | call call fault =>
          show Unapproved request ((policyMachine svc.toPolicyServices).next s.state
            (.call call fault)).store.records
          rcases next_policy s.state call fault with hsame | ⟨proposed, -, -, hstore⟩
          · rw [hsame]
            exact h
          · rw [hstore]
            exact h
      | transaction => exact h.next (expired _ rfl)

/-! ### Rules that are already staged -/

/-- The rules of a policy under an identifier. -/
def UserTrustPolicy.rulesNamed (policy : UserTrustPolicy) (ruleId : String) :
    List UserTrustRule :=
  policy.rules.filter fun rule => rule.ruleId = ruleId

/-- A policy that validates has at most one rule under an identifier. -/
theorem rulesNamed_eq (state : PolicyState svc.toPolicyServices)
    (hrule : rule ∈ state.policy.rules) : state.policy.rulesNamed rule.ruleId = [rule] := by
  have hunique : (state.policy.rules.map UserTrustRule.ruleId).Nodup :=
    state.valid.2.2.2.2.2.2.1
  unfold UserTrustPolicy.rulesNamed
  generalize state.policy.rules = rules at hrule hunique
  induction rules with
  | nil => exact absurd hrule List.not_mem_nil
  | cons other rest ih =>
      rw [List.map_cons, List.nodup_cons] at hunique
      rcases List.mem_cons.mp hrule with rfl | hrule
      · rw [List.filter_cons, if_pos (decide_eq_true rfl)]
        congr 1
        rw [List.filter_eq_nil_iff]
        intro later hlater hsame
        have hmem : later.ruleId ∈ rest.map UserTrustRule.ruleId :=
          List.mem_map.mpr ⟨later, hlater, rfl⟩
        rw [of_decide_eq_true hsame] at hmem
        exact hunique.1 hmem
      · have hother : ¬ other.ruleId = rule.ruleId := by
          intro hsame
          rw [hsame] at hunique
          exact hunique.1 (List.mem_map.mpr ⟨rule, hrule, rfl⟩)
        rw [List.filter_cons, if_neg (by rwa [decide_eq_true_iff])]
        exact ih hrule hunique.2

/-- Staging again for a request whose rule is in the policy publishes nothing. -/
theorem perform_staged (state : PolicyState svc.toPolicyServices)
    (hstaged : ∃ rule ∈ state.policy.rules, rule.ruleId = ruleIdOf requestId)
    (scope : ExactPermissionScope) (now : Timestamp) (getProject : PolicyResult Project)
    (fault : Option SaveFault) :
    (perform svc.toPolicyServices state (.stageAlwaysRule requestId scope now getProject) fault).2
      = state := by
  obtain ⟨rule, hrule, hid⟩ := hstaged
  have hpropose : ∀ proposed, propose svc.toPolicyServices state
      (.stageAlwaysRule requestId scope now getProject) ≠ .ok (some proposed) := by
    intro proposed h
    change stageAlwaysRule _ _ _ _ _ _ = _ at h
    unfold stageAlwaysRule at h
    cases hfound : state.policy.rules.find? fun rule => rule.ruleId = ruleIdOf requestId with
    | none =>
        have hnone := List.find?_eq_none.mp hfound rule hrule
        rw [decide_eq_true_iff] at hnone
        exact hnone hid
    | some =>
        rw [hfound] at h
        obtain ⟨_, -, h⟩ := bind_ok.mp h
        cases h
  rcases next_policy state (.stageAlwaysRule requestId scope now getProject) fault with
    hsame | ⟨proposed, h, -⟩
  · exact hsame
  · exact absurd h (hpropose proposed)

/-! ### The theorem -/

/-- What holds of a state `t` that is reached from `s` by some inputs. -/
structure StagedRulesDormant (s : ApprovalState svc) (inputs : List ApprovalInput)
    (t : ApprovalState svc) : Prop where
  /-- A staged rule that an evaluation matches is backed by its request. -/
  matched : ∀ reads, ReadsState t.state reads → ∀ clock scope effect,
    ∀ rule ∈ matchedRules reads clock scope t.state.policy effect,
      ∀ requestId ∈ rule.sourceApprovalRequestId,
        ∃ request, Backs t.state.store.records requestId rule request
  /-- So is the rule that an evaluation names as the source of what it allows. -/
  allowed : ∀ reads, ReadsState t.state reads → ∀ clock intent task sandbox d,
    evaluate svc.toTrustServices reads clock intent task sandbox = .ok d → d.outcome = .allow →
      ∀ ruleId ∈ d.sourceRuleId, ∃ rule ∈ t.state.policy.rules, rule.ruleId = ruleId
        ∧ ∀ requestId ∈ rule.sourceApprovalRequestId,
          ∃ request, Backs t.state.store.records requestId rule request
  /-- A request settled in any other way keeps its rule inactive. -/
  refused : ∀ requestId request, s.state.store.records.approval? requestId = some request →
    request.status ≠ .pending →
    (request.status ≠ .approved ∨ request.resolutionChoice ≠ some .allowAlways) →
      ∀ reads, ReadsState t.state reads → ∀ now, ∀ rule : UserTrustRule,
        requestId ∈ rule.sourceApprovalRequestId → ruleIsActive reads now rule = .ok false
  /-- So does one that nobody settles before it expires. -/
  expired : ∀ request, s.state.store.records.approval? request.requestId = some request →
    request.status = .pending →
    (∀ input ∈ inputs, ∀ now ∈ input.instant?, request.expiresAt ≤ now) →
      ∀ reads, ReadsState t.state reads → ∀ now, ∀ rule : UserTrustRule,
        request.requestId ∈ rule.sourceApprovalRequestId →
          ruleIsActive reads now rule = .ok false
  /-- A rule stays the only one under its identifier, with its scope. -/
  single : ∀ rule ∈ s.state.policy.rules,
    ∃ later, t.state.policy.rulesNamed rule.ruleId = [later] ∧ RuleEvolves rule later
  /-- A call that stages a rule that is there leaves the policy and the store as they are, and
  goes on to settle the request under that rule. -/
  reused : ∀ index requestId scope scopeSha256,
    t.calls[index]? = some (.staging requestId scope scopeSha256) →
    (∃ rule ∈ t.state.policy.rules, rule.ruleId = ruleIdOf requestId) →
      ∀ now getProject fault,
        let step := (approvalMachine svc).step t (.stage index now getProject fault)
        step.1.state = t.state
          ∧ (step.2 = .ok () → step.1.calls[index]?
            = some (.resolving requestId (stagedResolution requestId scopeSha256)))

/-- Whatever is approved, denied, staged, revoked and reset, in whatever order and with whatever
crashes, a staged rule is dormant until its request is approved for always under that rule. -/
theorem staged_rules_dormant (svc : ApprovalServices) (s : ApprovalState svc)
    (inputs : List ApprovalInput) :
    StagedRulesDormant s inputs ((approvalMachine svc).run s inputs) where
  matched := by
    intro reads hreads clock scope effect rule hrule requestId hsource
    obtain ⟨-, -, happlies⟩ := mem_matchedRules.mp hrule
    exact backs_of_active hreads hsource (ruleApplies_true.mp happlies).1
  allowed := by
    intro reads hreads clock intent task sandbox d hd hallow ruleId hnamed
    obtain ⟨ctx, htrust, -, hrule⟩ := evaluate_named hd hallow
    obtain ⟨rule, hmem, hid, now, hactive⟩ := hrule ruleId hnamed
    have hctx : ctx.policy = ((approvalMachine svc).run s inputs).state.policy :=
      Except.ok.inj (htrust.symm.trans hreads.trust)
    refine ⟨rule, hctx ▸ hmem, hid, fun requestId hsource => ?_⟩
    exact backs_of_active hreads hsource hactive
  refused := by
    intro requestId request hfound hsettled hother reads hreads now rule hsource
    obtain ⟨hmem, hid⟩ := Records.approval?_mem hfound
    obtain ⟨b, hb, hevolves⟩ := (storeEvolves_approvals s inputs).approvals request hmem
    rw [hevolves.settled hsettled] at hb
    refine inactive_of_request hreads hsource ?_ hother
    refine Relational.Table.find?_eq_some hb (decide_eq_true hid) fun c hc => .inl ?_
    rw [of_decide_eq_true hc, hid]
  expired := by
    intro request hfound hpending hlate reads hreads now rule hsource
    have hunapproved : Unapproved request
        ((approvalMachine svc).run s inputs).state.store.records := by
      have hstart : Unapproved request s.state.store.records := .inl ⟨hfound, hpending⟩
      clear hreads hfound
      induction inputs generalizing s with
      | nil => exact hstart
      | cons input rest ih =>
          refine ih _ (fun later hlater => hlate later (List.mem_cons_of_mem _ hlater)) ?_
          exact hstart.nextApproval (hlate input List.mem_cons_self)
    rcases hunapproved with ⟨hrow, -⟩ | ⟨row, hrow, hdenied⟩
    · exact inactive_of_request hreads hsource hrow (.inl (by rw [hpending]; decide))
    · exact inactive_of_request hreads hsource hrow (.inl (by rw [hdenied]; decide))
  single := by
    intro rule hrule
    obtain ⟨later, hlater, hevolves⟩ := (policyGrows_approvals s inputs).rules rule hrule
    exact ⟨later, hevolves.ruleId ▸ rulesNamed_eq _ hlater, hevolves⟩
  reused := by
    intro index requestId scope scopeSha256 hcall hstaged now getProject fault
    generalize (approvalMachine svc).run s inputs = t at hcall hstaged
    dsimp only
    show (t.stage svc index now getProject fault).1.state = t.state
      ∧ ((t.stage svc index now getProject fault).2 = .ok () →
        (t.stage svc index now getProject fault).1.calls[index]? = some _)
    unfold ApprovalState.stage
    rw [hcall]
    refine ⟨perform_staged t.state hstaged scope now getProject fault, fun hok => ?_⟩
    dsimp only at hok ⊢
    rw [hok, List.getElem?_set_self]
    exact (List.getElem?_eq_some_iff.mp hcall).1

end Steps

end AgentFleet
