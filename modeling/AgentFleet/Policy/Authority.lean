import AgentFleet.Domain.RunRecords
import AgentFleet.Persistence.Machine
import AgentFleet.Policy.Broker

/-! # What an ALLOW of the broker rests on

* `context_ok` and `authorize_cases` say once what the trusted context and the decision under it
  have read; everything about the broker is proved from them.
* `evaluate_allow`: an intent is allowed only under all the authorities, and where the baseline
  leaves it to the user only by a permission that he gave for it. -/

namespace AgentFleet

open Checks

section Authority

variable {svc : TrustServices} {reads : PolicyReads} {clock : PolicyClock} {intent : ToolIntent}
  {task : ReviewedTask} {sandbox : SandboxCapabilities} {ctx : PolicyContext}

/-! ### The trusted context -/

/-- What `context` has found. -/
structure TrustedContext (svc : TrustServices) (reads : PolicyReads) (intent : ToolIntent)
    (task : ReviewedTask) (sandbox : SandboxCapabilities) (ctx : PolicyContext)
    (run : SandboxedRun) (networkMode : SandboxNetworkMode) (role : ResolvedRoleTemplate) :
    Prop where
  trusted : trustedRun svc reads intent task sandbox
    = .ok (run, networkMode, ctx.project, ctx.config, role)
  policy : reads.loadTrust = .ok ctx.policy
  settings : trustSettings ctx.project ctx.policy = .ok ctx.settings
  ceiling : ¬ exceedsCeiling svc task ctx.settings
  scope : ctx.scope = proposedScope svc intent task sandbox run ctx.project role networkMode
  valid : ctx.scope.validates svc
  clean : ¬ svc.redactor.containsSecretData (.obj ctx.scope.modelDump) = true

variable {scope : ExactPermissionScope} {ceiling d : PermissionDecision} {policy : UserTrustPolicy}
  {rule : UserTrustRule} {grant : CapabilityGrant} {path : String} {scopes : List String}

theorem validatedScope_ok {checked : ExactPermissionScope} :
    validatedScope svc scope = .ok checked ↔ scope.validates svc ∧ checked = scope := by
  unfold validatedScope
  by_cases hvalid : scope.validates svc
  · rw [if_pos hvalid]
    constructor
    · intro h
      cases h
      exact ⟨hvalid, rfl⟩
    · rintro ⟨-, rfl⟩
      rfl
  · rw [if_neg hvalid]
    exact iff_of_false (fun h => by cases h) fun h => hvalid h.1

theorem context_ok :
    context svc reads intent task sandbox = .ok ctx
      ↔ ∃ run networkMode role,
        TrustedContext svc reads intent task sandbox ctx run networkMode role := by
  unfold context
  constructor
  · intro h
    obtain ⟨⟨run, networkMode, project, config, role⟩, htrusted, h⟩ := bind_ok.mp h
    obtain ⟨policy, hpolicy, h⟩ := bind_ok.mp h
    obtain ⟨settings, hsettings, h⟩ := bind_ok.mp h
    obtain ⟨_, hceiling, h⟩ := bind_ok.mp h
    obtain ⟨scope, hscope, h⟩ := bind_ok.mp h
    obtain ⟨_, hclean, h⟩ := bind_ok.mp h
    obtain ⟨hvalid, rfl⟩ := validatedScope_ok.mp hscope
    cases h
    exact ⟨run, networkMode, role, htrusted, hpolicy, hsettings, policyCheck_ok.mp hceiling, rfl,
      hvalid, policyCheck_ok.mp hclean⟩
  · rintro ⟨run, networkMode, role, h⟩
    have hscope : validatedScope svc
        (proposedScope svc intent task sandbox run ctx.project role networkMode)
          = .ok ctx.scope :=
      validatedScope_ok.mpr ⟨h.scope ▸ h.valid, h.scope⟩
    refine bind_ok.mpr ⟨_, h.trusted, bind_ok.mpr ⟨_, h.policy, bind_ok.mpr ⟨_, h.settings, ?_⟩⟩⟩
    refine bind_ok.mpr ⟨(), policyCheck_ok.mpr h.ceiling, bind_ok.mpr ⟨_, hscope, ?_⟩⟩
    exact bind_ok.mpr ⟨(), policyCheck_ok.mpr h.clean, rfl⟩

/-! ### The decision under the ceilings -/

/-- The rules of one effect that match a scope. -/
def matchedRules (reads : PolicyReads) (clock : PolicyClock) (scope : ExactPermissionScope)
    (policy : UserTrustPolicy) (effect : RuleEffect) : List UserTrustRule :=
  (policy.rules.filter fun rule => passes (ruleApplies reads clock scope rule)).filter fun rule =>
    rule.effect = effect

/-- What the decision was, and what it rests on. -/
inductive Authorization (svc : TrustServices) (reads : PolicyReads) (clock : PolicyClock)
    (intent : ToolIntent) (sandbox : SandboxCapabilities) (ctx : PolicyContext)
    (ceiling : PermissionDecision) : PermissionDecision → Prop where
  | denied (found : matchedRules reads clock ctx.scope ctx.policy .deny ≠ []) :
      Authorization svc reads clock intent sandbox ctx ceiling
        (denyDecision ctx.scope (matchedRules reads clock ctx.scope ctx.policy .deny))
  | granted (undenied : matchedRules reads clock ctx.scope ctx.policy .deny = [])
      (grants : List CapabilityGrant) (listed : reads.listGrants intent.runId = .ok grants)
      (grant : CapabilityGrant)
      (found : first? (grantMatches svc reads clock intent ctx.scope ctx.policy) grants
        = .ok (some grant)) :
      Authorization svc reads clock intent sandbox ctx ceiling (grantDecision ctx.scope grant)
  | trusted (undenied : matchedRules reads clock ctx.scope ctx.policy .deny = [])
      (grants : List CapabilityGrant) (listed : reads.listGrants intent.runId = .ok grants)
      (found : matchedRules reads clock ctx.scope ctx.policy .allow ≠ []) :
      Authorization svc reads clock intent sandbox ctx ceiling
        (trustDecision ctx.scope (matchedRules reads clock ctx.scope ctx.policy .allow))
  | asked : Authorization svc reads clock intent sandbox ctx ceiling (askDecision ctx.scope)
  | mode (undenied : matchedRules reads clock ctx.scope ctx.policy .deny = [])
      (grants : List CapabilityGrant) (listed : reads.listGrants intent.runId = .ok grants)
      (unasked : ¬ asks intent sandbox ctx.settings) :
      Authorization svc reads clock intent sandbox ctx ceiling
        (modeDecision ctx.settings ctx.scope ceiling)

/-- The decision, given the rules that match. -/
def authorizeBy (svc : TrustServices) (reads : PolicyReads) (clock : PolicyClock)
    (intent : ToolIntent) (sandbox : SandboxCapabilities) (ctx : PolicyContext)
    (ceiling : PermissionDecision) (denied allowed : List UserTrustRule) :
    PolicyResult PermissionDecision :=
  if denied ≠ [] then checkedDecision (denyDecision ctx.scope denied)
  else do
    let grants ← reads.listGrants intent.runId
    match ← first? (grantMatches svc reads clock intent ctx.scope ctx.policy) grants with
    | some grant => checkedDecision (grantDecision ctx.scope grant)
    | none =>
        if allowed ≠ [] then checkedDecision (trustDecision ctx.scope allowed)
        else if asks intent sandbox ctx.settings then checkedDecision (askDecision ctx.scope)
        else .ok (modeDecision ctx.settings ctx.scope ceiling)

theorem authorize_eq
    (hanswered : ∀ rule ∈ ctx.policy.rules, Answered (ruleApplies reads clock ctx.scope rule)) :
    authorize svc reads clock intent sandbox ctx ceiling
      = authorizeBy svc reads clock intent sandbox ctx ceiling
          (matchedRules reads clock ctx.scope ctx.policy .deny)
          (matchedRules reads clock ctx.scope ctx.policy .allow) := by
  unfold authorize
  rw [select_ok.mpr ⟨hanswered, rfl⟩]
  rfl

/-- A decision was made only when every rule could be looked into. -/
theorem answered_of_authorize (h : authorize svc reads clock intent sandbox ctx ceiling = .ok d) :
    ∀ rule ∈ ctx.policy.rules, Answered (ruleApplies reads clock ctx.scope rule) := by
  unfold authorize at h
  obtain ⟨matched, hmatched, -⟩ := bind_ok.mp h
  exact (select_ok.mp hmatched).1

theorem authorize_cases (h : authorize svc reads clock intent sandbox ctx ceiling = .ok d) :
    Authorization svc reads clock intent sandbox ctx ceiling d := by
  rw [authorize_eq (answered_of_authorize h)] at h
  unfold authorizeBy at h
  by_cases hdenied : matchedRules reads clock ctx.scope ctx.policy .deny = []
  · rw [if_neg (not_not_intro hdenied)] at h
    obtain ⟨grants, hlisted, h⟩ := bind_ok.mp h
    obtain ⟨found, hfound, h⟩ := bind_ok.mp h
    cases found with
    | some grant =>
        obtain ⟨rfl, -⟩ := checkedDecision_ok h
        exact .granted hdenied grants hlisted grant hfound
    | none =>
        dsimp only at h
        by_cases hallowed : matchedRules reads clock ctx.scope ctx.policy .allow = []
        · rw [if_neg (not_not_intro hallowed)] at h
          by_cases hasks : asks intent sandbox ctx.settings
          · rw [if_pos hasks] at h
            obtain ⟨rfl, -⟩ := checkedDecision_ok h
            exact .asked
          · rw [if_neg hasks] at h
            cases h
            exact .mode hdenied grants hlisted hasks
        · rw [if_pos hallowed] at h
          obtain ⟨rfl, -⟩ := checkedDecision_ok h
          exact .trusted hdenied grants hlisted hallowed
  · rw [if_pos hdenied] at h
    obtain ⟨rfl, -⟩ := checkedDecision_ok h
    exact .denied hdenied

theorem mem_matchedRules {effect : RuleEffect} :
    rule ∈ matchedRules reads clock scope policy effect
      ↔ rule ∈ policy.rules ∧ rule.effect = effect
        ∧ ruleApplies reads clock scope rule = .ok true := by
  unfold matchedRules
  rw [List.mem_filter, List.mem_filter, decide_eq_true_iff, passes_iff]
  constructor
  · rintro ⟨⟨hmem, happlies⟩, heffect⟩
    exact ⟨hmem, heffect, happlies⟩
  · rintro ⟨hmem, heffect, happlies⟩
    exact ⟨⟨hmem, happlies⟩, heffect⟩

theorem ruleApplies_true :
    ruleApplies reads clock scope rule = .ok true
      ↔ ruleIsActive reads (clock.ruleIsActive rule.ruleId) rule = .ok true
        ∧ ruleMatches rule scope (clock.ruleMatches rule.ruleId) = true := by
  unfold ruleApplies
  constructor
  · intro h
    obtain ⟨active, hactive, h⟩ := bind_ok.mp h
    have hboth : (active && ruleMatches rule scope (clock.ruleMatches rule.ruleId)) = true :=
      Except.ok.inj h
    rw [Bool.and_eq_true] at hboth
    obtain ⟨rfl, hmatches⟩ := hboth
    exact ⟨hactive, hmatches⟩
  · rintro ⟨hactive, hmatches⟩
    rw [hactive, hmatches]
    rfl

/-- No deny rule was found: each was looked into, and does not apply. -/
theorem ruleApplies_false_of_undenied
    (hanswered : ∀ rule ∈ ctx.policy.rules, Answered (ruleApplies reads clock ctx.scope rule))
    (hundenied : matchedRules reads clock ctx.scope ctx.policy .deny = []) :
    ∀ rule ∈ ctx.policy.rules, rule.effect = .deny →
      ruleApplies reads clock ctx.scope rule = .ok false := by
  intro rule hmem heffect
  obtain ⟨applies, happlies⟩ := hanswered rule hmem
  cases applies with
  | false => exact happlies
  | true =>
      have hmatched := mem_matchedRules.mpr ⟨hmem, heffect, happlies⟩
      rw [hundenied] at hmatched
      exact absurd hmatched List.not_mem_nil

/-! ### Grants -/

/-- The rule that a grant came from stands in the policy, is active and matches. -/
def Sourced (reads : PolicyReads) (clock : PolicyClock) (scope : ExactPermissionScope)
    (policy : UserTrustPolicy) (grant : CapabilityGrant) : Prop :=
  ∀ sourceRuleId ∈ grant.sourceRuleId, ∃ rule ∈ policy.rules, rule.ruleId = sourceRuleId
    ∧ ruleIsActive reads (clock.sourceIsActive grant.grantId rule.ruleId) rule = .ok true
    ∧ ruleMatches rule scope (clock.grantMatches grant.grantId) = true

theorem sourceApplies_true {sourceRuleId : String} :
    sourceApplies reads clock scope grant sourceRuleId rule = .ok true
      ↔ rule.ruleId = sourceRuleId
        ∧ ruleIsActive reads (clock.sourceIsActive grant.grantId rule.ruleId) rule = .ok true
        ∧ ruleMatches rule scope (clock.grantMatches grant.grantId) = true := by
  unfold sourceApplies
  by_cases hid : rule.ruleId = sourceRuleId
  · rw [if_neg (not_not_intro hid)]
    constructor
    · intro h
      obtain ⟨active, hactive, h⟩ := bind_ok.mp h
      have hboth : (active && ruleMatches rule scope (clock.grantMatches grant.grantId)) = true :=
        Except.ok.inj h
      rw [Bool.and_eq_true] at hboth
      obtain ⟨rfl, hmatches⟩ := hboth
      exact ⟨hid, hactive, hmatches⟩
    · rintro ⟨-, hactive, hmatches⟩
      rw [hactive, hmatches]
      rfl
  · rw [if_pos hid]
    exact iff_of_false (fun h => Bool.noConfusion (Except.ok.inj h)) fun h => hid h.1

theorem isSourced_true (h : isSourced reads clock scope policy grant = .ok true) :
    Sourced reads clock scope policy grant := by
  unfold isSourced at h
  intro sourceRuleId hsource
  rw [Option.mem_def.mp hsource] at h
  obtain ⟨rule, hrule, happlies⟩ := holds_true h
  exact ⟨rule, hrule, sourceApplies_true.mp (passes_iff.mp happlies)⟩

/-- What a grant that matches has passed. -/
theorem grantMatches_true (h : grantMatches svc reads clock intent scope policy grant = .ok true) :
    grantAvailable clock intent scope policy grant
      ∧ isSourced reads clock scope policy grant = .ok true
      ∧ grantCovers svc intent scope grant := by
  unfold grantMatches at h
  by_cases havailable : grantAvailable clock intent scope policy grant
  · rw [if_neg (not_not_intro havailable)] at h
    obtain ⟨sourced, hsourced, h⟩ := bind_ok.mp h
    have hboth : (sourced && decide (grantCovers svc intent scope grant)) = true :=
      Except.ok.inj h
    rw [Bool.and_eq_true, decide_eq_true_iff] at hboth
    obtain ⟨rfl, hcovers⟩ := hboth
    exact ⟨havailable, hsourced, hcovers⟩
  · rw [if_pos havailable] at h
    exact Bool.noConfusion (Except.ok.inj h)

/-! ### What an allowed intent rests on -/

/-- A permission of the user for exactly the scope of an intent.  A one-use grant without the
digest of a scope is bound to the intent itself. -/
inductive UserPermits (svc : TrustServices) (reads : PolicyReads) (clock : PolicyClock)
    (intent : ToolIntent) (ctx : PolicyContext) : Prop where
  | rule (rule : UserTrustRule) (stored : rule ∈ ctx.policy.rules) (allows : rule.effect = .allow)
      (active : ruleIsActive reads (clock.ruleIsActive rule.ruleId) rule = .ok true)
      (scope : ruleMatches rule ctx.scope (clock.ruleMatches rule.ruleId) = true)
  | grant (grants : List CapabilityGrant) (listed : reads.listGrants intent.runId = .ok grants)
      (grant : CapabilityGrant) (stored : grant ∈ grants)
      (available : grantAvailable clock intent ctx.scope ctx.policy grant)
      (sourced : Sourced reads clock ctx.scope ctx.policy grant)
      (scope : grant.scopeSha256 = some (ctx.scope.scopeSha256 svc))
  | oneUse (grants : List CapabilityGrant) (listed : reads.listGrants intent.runId = .ok grants)
      (grant : CapabilityGrant) (stored : grant ∈ grants)
      (available : grantAvailable clock intent ctx.scope ctx.policy grant)
      (sourced : Sourced reads clock ctx.scope ctx.policy grant)
      (once : grant.choice = .allowOnce) (unscoped : grant.scopeSha256 = none)
      (bound : grant.intentId = intent.intentId ∧ grant.agentInstanceId = intent.agentInstanceId
        ∧ grant.intentHash = svc.canonicalJsonHash intent.modelDump)

/-- The second reading of the configuration agrees with the first, and declares the role. -/
def DeclaresRole (reads : PolicyReads) (intent : ToolIntent) (task : ReviewedTask)
    (ctx : PolicyContext) (role : ResolvedRoleTemplate) : Prop :=
  ∃ current, reads.loadSnapshot 1 ctx.project = .ok current
    ∧ current.spec = ctx.config.spec ∧ current.snapshotSha256 = task.configSnapshotSha256
    ∧ current.template? intent.principalRole = some role

/-- All the authorities over an intent, in favour of it. -/
structure Authorized (svc : TrustServices) (reads : PolicyReads) (clock : PolicyClock)
    (intent : ToolIntent) (task : ReviewedTask) (sandbox : SandboxCapabilities)
    (ctx : PolicyContext) (role : ResolvedRoleTemplate) : Prop where
  trusted : context svc reads intent task sandbox = .ok ctx
  policy : reads.loadTrust = .ok ctx.policy
  settings : trustSettings ctx.project ctx.policy = .ok ctx.settings
  declared : DeclaresRole reads intent task ctx role
  unprotected : ¬ isProtectedAction intent.action
  builtIn : isBuiltInRole intent.principalRole →
    (baselineEvaluate svc intent task sandbox none).outcome ≠ .deny
  baseline : (baselineEvaluate svc intent task sandbox (some role.executionKind)).outcome ≠ .deny
  requested : requestedByOrganization svc intent ctx.config.spec role = true
  ceiling : ∀ path ∈ task.allowedPaths,
    withinUserPaths svc.casefold path ctx.settings.allowedPaths = true
  touched : intent.resource.kind = "workspace_path" →
    ∃ scope ∈ ctx.settings.allowedPaths, scope = "."
      ∨ foldPath svc.casefold (PurePosixPath.parse scope)
        <+: foldPath svc.casefold (PurePosixPath.parse intent.resource.identifier)
  undenied : ∀ rule ∈ ctx.policy.rules, rule.effect = .deny →
    ruleApplies reads clock ctx.scope rule = .ok false
  permitted : (baselineEvaluate svc intent task sandbox (some role.executionKind)).outcome
      = .requireApproval →
    UserPermits svc reads clock intent ctx

theorem permitted_of_grant {grants : List CapabilityGrant}
    (hlisted : reads.listGrants intent.runId = .ok grants) (hmem : grant ∈ grants)
    (h : grantMatches svc reads clock intent ctx.scope ctx.policy grant = .ok true) :
    UserPermits svc reads clock intent ctx := by
  obtain ⟨havailable, hsourced, hcovers⟩ := grantMatches_true h
  have hsourced := isSourced_true hsourced
  unfold grantCovers at hcovers
  by_cases honce : grant.choice = .allowOnce
  · rw [if_pos honce] at hcovers
    obtain ⟨hintent, hagent, hhash, hnone | hscope⟩ := hcovers
    · exact .oneUse grants hlisted grant hmem havailable hsourced honce hnone
        ⟨hintent, hagent, hhash⟩
    · exact .grant grants hlisted grant hmem havailable hsourced hscope
  · rw [if_neg honce] at hcovers
    exact .grant grants hlisted grant hmem havailable hsourced hcovers

/-- An ALLOW under the ceilings: no deny rule applies, and the user has permitted it where the
baseline asks for his approval. -/
theorem authorize_allow (h : authorize svc reads clock intent sandbox ctx ceiling = .ok d)
    (hallow : d.outcome = .allow) :
    (∀ rule ∈ ctx.policy.rules, rule.effect = .deny →
        ruleApplies reads clock ctx.scope rule = .ok false)
      ∧ (ceiling.outcome = .requireApproval → UserPermits svc reads clock intent ctx) := by
  have hanswered := answered_of_authorize h
  cases authorize_cases h with
  | denied => exact PermissionOutcome.noConfusion hallow
  | granted undenied grants listed grant found =>
      obtain ⟨hmem, hpasses⟩ := first?_some found
      exact ⟨ruleApplies_false_of_undenied hanswered undenied,
        fun _ => permitted_of_grant listed hmem (passes_iff.mp hpasses)⟩
  | trusted undenied grants listed found =>
      refine ⟨ruleApplies_false_of_undenied hanswered undenied, fun _ => ?_⟩
      obtain ⟨rule, hrule⟩ := List.exists_mem_of_ne_nil _ found
      obtain ⟨hmem, heffect, happlies⟩ := mem_matchedRules.mp hrule
      obtain ⟨hactive, hmatches⟩ := ruleApplies_true.mp happlies
      exact .rule rule hmem heffect hactive hmatches
  | asked => exact PermissionOutcome.noConfusion hallow
  | mode undenied =>
      refine ⟨ruleApplies_false_of_undenied hanswered undenied, fun happroval => ?_⟩
      have heq : ceiling.outcome = .allow := hallow
      rw [heq] at happroval
      exact PermissionOutcome.noConfusion happroval

/-! ### Paths -/

theorem withinUserPaths_iff :
    withinUserPaths svc.casefold path scopes = true
      ↔ (¬ (foldPath svc.casefold (PurePosixPath.parse path) = []
          ∨ (foldPath svc.casefold (PurePosixPath.parse path)).head? = some ".git"
          ∨ (foldPath svc.casefold (PurePosixPath.parse path)).head? = some ".fleet"
          ∨ ".." ∈ foldPath svc.casefold (PurePosixPath.parse path)))
        ∧ ∃ scope ∈ scopes, scope = "."
          ∨ foldPath svc.casefold (PurePosixPath.parse scope)
            <+: foldPath svc.casefold (PurePosixPath.parse path) := by
  unfold withinUserPaths
  dsimp only
  split_ifs with houtside
  · exact iff_of_false not_false fun h => h.1 houtside
  · rw [List.any_eq_true]
    constructor
    · rintro ⟨scope, hscope, h⟩
      rw [Bool.or_eq_true, decide_eq_true_iff, startsWith_iff] at h
      exact ⟨houtside, scope, hscope, h⟩
    · rintro ⟨-, scope, hscope, h⟩
      refine ⟨scope, hscope, ?_⟩
      rw [Bool.or_eq_true, decide_eq_true_iff, startsWith_iff]
      exact h

/-- What lies in the task's scope lies under a path of the user's ceiling that the task does. -/
theorem covered_of_pathInTaskScope
    (htask : ∀ path ∈ task.allowedPaths, withinUserPaths svc.casefold path scopes = true)
    (hpath : pathInTaskScope svc task path = true) :
    ∃ scope ∈ scopes, scope = "."
      ∨ foldPath svc.casefold (PurePosixPath.parse scope)
        <+: foldPath svc.casefold (PurePosixPath.parse path) := by
  obtain ⟨parts, hparts, -, -, allowed, hallowed, item, hitem, hbelow⟩ := pathIsWithin_iff.mp hpath
  obtain ⟨-, scope, hscope, hroot | habove⟩ := withinUserPaths_iff.mp (htask allowed hallowed)
  · exact ⟨scope, hscope, .inl hroot⟩
  · refine ⟨scope, hscope, .inr ?_⟩
    rw [components_eq hparts, components_eq hitem] at hbelow
    exact habove.trans hbelow

/-- An intent on a path that the baseline lets through is in the scope of its task. -/
theorem pathInTaskScope_of_baseline {executionKind : Option AgentRole}
    (h : (baselineEvaluate svc intent task sandbox executionKind).outcome ≠ .deny)
    (hkind : intent.resource.kind = "workspace_path") :
    pathInTaskScope svc task intent.resource.identifier = true := by
  obtain ⟨-, hcase⟩ := baseline_cases h
  cases hcase with
  | mutation acts => exact acts.2.2.2.2.2.1
  | observation acts valid =>
      unfold observationValid at valid
      split_ifs at valid with hview hsearch
      · rw [valid.1] at hkind
        exact absurd hkind (by decide)
      · rw [valid.1] at hkind
        exact absurd hkind (by decide)
      · exact valid.2.2
  | command acts command reviewed valid | sideEffect acts =>
      rw [acts.2.2.1] at hkind
      exact absurd hkind (by decide)

/-! ### The broker -/

/-- What the evaluation has read when it allows: the role, and the decision under it. -/
theorem evaluate_cases (h : evaluate svc reads clock intent task sandbox = .ok d)
    (hallow : d.outcome = .allow) :
    ¬ isProtectedAction intent.action
      ∧ (isBuiltInRole intent.principalRole →
        (baselineEvaluate svc intent task sandbox none).outcome ≠ .deny)
      ∧ ∃ ctx, context svc reads intent task sandbox = .ok ctx
        ∧ evaluateIn svc reads clock intent task sandbox ctx = .ok d := by
  unfold evaluate at h
  dsimp only at h
  split_ifs at h with hprotected hdenied
  · cases h
    exact PermissionOutcome.noConfusion hallow
  · cases h
    rw [hdenied.2] at hallow
    exact PermissionOutcome.noConfusion hallow
  · obtain ⟨ctx, hctx, h⟩ := bind_ok.mp h
    exact ⟨hprotected, fun hbuiltIn hdeny => hdenied ⟨hbuiltIn, hdeny⟩, ctx, hctx, h⟩

theorem evaluateIn_allow (h : evaluateIn svc reads clock intent task sandbox ctx = .ok d)
    (hallow : d.outcome = .allow) :
    ∃ role, DeclaresRole reads intent task ctx role
      ∧ (baselineEvaluate svc intent task sandbox (some role.executionKind)).outcome ≠ .deny
      ∧ requestedByOrganization svc intent ctx.config.spec role = true
      ∧ authorize svc reads clock intent sandbox ctx
          (baselineEvaluate svc intent task sandbox (some role.executionKind)) = .ok d := by
  unfold evaluateIn at h
  obtain ⟨current, hcurrent, h⟩ := bind_ok.mp h
  obtain ⟨_, hunchanged, h⟩ := bind_ok.mp h
  have hsame := not_or.mp (policyCheck_ok.mp hunchanged)
  cases hrole : current.template? intent.principalRole with
  | none =>
      rw [hrole] at h
      cases h
      exact PermissionOutcome.noConfusion hallow
  | some role =>
      rw [hrole] at h
      dsimp only at h
      split_ifs at h with hdenied hrequested
      · cases h
        rw [hdenied] at hallow
        exact PermissionOutcome.noConfusion hallow
      · cases h
        exact PermissionOutcome.noConfusion hallow
      · exact ⟨role, ⟨current, hcurrent, not_not.mp hsame.1, not_not.mp hsame.2, hrole⟩, hdenied,
          (Bool.not_eq_false _).mp hrequested, h⟩

/-- Under the ceilings that let the intent through, the evaluation is the decision. -/
theorem evaluate_eq {role : ResolvedRoleTemplate} (hunprotected : ¬ isProtectedAction intent.action)
    (hbuiltIn : isBuiltInRole intent.principalRole →
      (baselineEvaluate svc intent task sandbox none).outcome ≠ .deny)
    (hctx : context svc reads intent task sandbox = .ok ctx)
    (hrole : DeclaresRole reads intent task ctx role)
    (hbaseline : (baselineEvaluate svc intent task sandbox (some role.executionKind)).outcome
      ≠ .deny)
    (hrequested : requestedByOrganization svc intent ctx.config.spec role = true) :
    evaluate svc reads clock intent task sandbox
      = authorize svc reads clock intent sandbox ctx
          (baselineEvaluate svc intent task sandbox (some role.executionKind)) := by
  obtain ⟨current, hcurrent, hspec, hsnapshot, htemplate⟩ := hrole
  have hunchanged : ¬ (current.spec ≠ ctx.config.spec
      ∨ current.snapshotSha256 ≠ task.configSnapshotSha256) :=
    not_or.mpr ⟨not_not_intro hspec, not_not_intro hsnapshot⟩
  have hrequests : ¬ requestedByOrganization svc intent ctx.config.spec role = false := by
    rw [hrequested]
    exact Bool.true_eq_false_eq_False
  unfold evaluate evaluateIn
  dsimp only
  rw [if_neg hunprotected, if_neg fun h => hbuiltIn h.1 h.2, hctx]
  dsimp only [bind, Except.bind]
  rw [hcurrent]
  dsimp only
  rw [(policyCheck_ok (u := ())).mpr hunchanged, htemplate]
  dsimp only
  rw [if_neg hbaseline, if_neg hrequests]

/-- An intent is allowed only under all the authorities. -/
theorem evaluate_allow (svc : TrustServices) (reads : PolicyReads) (clock : PolicyClock)
    (intent : ToolIntent) (task : ReviewedTask) (sandbox : SandboxCapabilities)
    (d : PermissionDecision) (h : evaluate svc reads clock intent task sandbox = .ok d)
    (hallow : d.outcome = .allow) :
    ∃ ctx role, Authorized svc reads clock intent task sandbox ctx role := by
  obtain ⟨hunprotected, hbuiltIn, ctx, hctx, hin⟩ := evaluate_cases h hallow
  obtain ⟨role, hrole, hbaseline, hrequested, hauthorize⟩ := evaluateIn_allow hin hallow
  obtain ⟨run, networkMode, _, htrusted⟩ := context_ok.mp hctx
  obtain ⟨hundenied, hpermitted⟩ := authorize_allow hauthorize hallow
  have hceiling : ∀ path ∈ task.allowedPaths,
      withinUserPaths svc.casefold path ctx.settings.allowedPaths = true := by
    intro path hpath
    by_contra houtside
    exact htrusted.ceiling ⟨path, hpath, (Bool.not_eq_true _).mp houtside⟩
  exact ⟨ctx, role,
    { trusted := hctx
      policy := htrusted.policy
      settings := htrusted.settings
      declared := hrole
      unprotected := hunprotected
      builtIn := hbuiltIn
      baseline := hbaseline
      requested := hrequested
      ceiling := hceiling
      touched := fun hkind =>
        covered_of_pathInTaskScope hceiling (pathInTaskScope_of_baseline hbaseline hkind)
      undenied := hundenied
      permitted := hpermitted }⟩

end Authority

/-! ### A sample project -/

/-- Case folding is the identity, and the digests are those of `sampleServices`. -/
def sampleTrustServices : TrustServices where
  toServices := sampleServices
  casefold := id
  textSha256 := fun _ => zeroDigest
  jsonBytes := fun _ => 0

/-- The sandbox of the approval fixture. -/
def fakeSandbox : SandboxCapabilities := .phase1Fake

/-- The sample task as it was reviewed. -/
def sampleReviewedTask : ReviewedTask where
  toTaskSpec := sampleTask
  configSnapshotSha256 := zeroDigest

/-- The sample run in its sandbox. -/
def sampleSandboxedRun : SandboxedRun where
  toRun := { sampleRun with configSnapshotHash := some zeroDigest }
  sandboxName := .fake
  sandboxCapabilitiesSnapshot := some fakeSandbox
  sandboxNetworkMode := some .none

/-- The scripted side effect of the fixture. -/
def sideEffectIntent : ToolIntent where
  intentId := "intent_1"
  runId := "run_1"
  taskId := "task_1"
  agentInstanceId := "agent_1"
  principalRole := "engineer"
  workflow := "code-change"
  stage := .implementing
  action := "fixture.record_side_effect"
  resource := approvalProof
  parameters := approvalParameters
  reason := "Record the approval"
  sideEffect := true
  idempotencyKey := "key_1"

/-- The project, whose whole tree is open to its tasks. -/
def sampleProject : Project where
  projectId := "prj_1"
  identityHash := zeroDigest

/-- The engineer of the project. -/
def sampleRole : ResolvedRoleTemplate where
  roleId := "engineer"
  executionKind := .engineer
  allowedTools := ["command.run", "workspace.write_file"]
  delegationAllowed := false

/-- The configuration of the project, which requests the approval fixture. -/
def sampleConfig : LoadedConfig where
  spec :=
    { adapter := "fake"
      workflows := [("code-change", none)]
      requestedPermissions := legacyRequests }
  snapshotSha256 := zeroDigest
  roleTemplates := [sampleRole]

/-- The stores of the project, with a policy and the grants of the run. -/
def samplePolicyReads (policy : UserTrustPolicy) (grants : List CapabilityGrant) : PolicyReads where
  getRun := fun _ => .ok sampleSandboxedRun
  getProject := fun _ => .ok sampleProject
  getTask := fun _ => .ok sampleReviewedTask
  getAgentInstance := fun _ => .ok { toAgentInstance := sampleAgent }
  getApproval := fun _ => .error .integrity
  listGrants := fun _ => .ok grants
  loadTrust := .ok policy
  loadSnapshot := fun _ _ => .ok sampleConfig

/-- A clock that stands still. -/
def sampleClock (now : Timestamp) : PolicyClock where
  ruleIsActive := fun _ => now
  ruleMatches := fun _ => now
  grantMatches := fun _ => now
  sourceIsActive := fun _ _ => now

/-- A one-use grant for the side effect, without the digest of a scope. -/
def unscopedGrant : CapabilityGrant where
  grantId := "grant_1"
  requestId := some "perm_1"
  intentId := "intent_1"
  projectId := "prj_1"
  runId := "run_1"
  taskId := "task_1"
  agentInstanceId := "agent_1"
  principalRole := "engineer"
  action := "fixture.record_side_effect"
  resource := approvalProof
  intentHash := oneDigest
  issuedAt := 0
  expiresAt := some 10

/-- A grant for the scope of the side effect, for the whole run. -/
def scopedGrant : CapabilityGrant :=
  { unscopedGrant with
    choice := .allowRun
    scopeSha256 := some zeroDigest
    remainingUses := none }

/-- The evaluation of the side effect in the sample project. -/
def evaluateSideEffect (policy : UserTrustPolicy) (grants : List CapabilityGrant) :
    PolicyResult PermissionDecision :=
  evaluate sampleTrustServices (samplePolicyReads policy grants) (sampleClock 1) sideEffectIntent
    sampleReviewedTask fakeSandbox

/-- The scope of the side effect. -/
def sideEffectScope : ExactPermissionScope :=
  proposedScope sampleTrustServices sideEffectIntent sampleReviewedTask fakeSandbox
    sampleSandboxedRun sampleProject sampleRole .none

theorem evaluate_allow_sideEffect :
    evaluateSideEffect {} [scopedGrant] = .ok (grantDecision sideEffectScope scopedGrant)
      ∧ ∃ ctx role, Authorized sampleTrustServices (samplePolicyReads {} [scopedGrant])
        (sampleClock 1) sideEffectIntent sampleReviewedTask fakeSandbox ctx role :=
  have hallowed : evaluateSideEffect {} [scopedGrant]
      = .ok (grantDecision sideEffectScope scopedGrant) := by rfl
  ⟨hallowed, evaluate_allow sampleTrustServices (samplePolicyReads {} [scopedGrant]) (sampleClock 1)
    sideEffectIntent sampleReviewedTask fakeSandbox _ hallowed rfl⟩

/-- Without any rule, a grant that names no scope is enough. -/
theorem evaluate_unscopedGrant :
    ¬ ∀ d, evaluateSideEffect {} [unscopedGrant] = .ok d → d.outcome = .allow →
      (baselineEvaluate sampleTrustServices sideEffectIntent sampleReviewedTask fakeSandbox
        (some sampleRole.executionKind)).outcome = .requireApproval →
      (∃ rule ∈ ({} : UserTrustPolicy).rules, rule.effect = .allow)
        ∨ ∃ grant ∈ [unscopedGrant],
          grant.scopeSha256 = some (sideEffectScope.scopeSha256 sampleTrustServices) := by
  intro h
  have hallowed : evaluateSideEffect {} [unscopedGrant]
      = .ok (grantDecision sideEffectScope unscopedGrant) := by rfl
  rcases h _ hallowed rfl (by decide) with ⟨rule, hrule, -⟩ | ⟨grant, hgrant, hscope⟩
  · exact List.not_mem_nil hrule
  · obtain rfl := List.mem_singleton.mp hgrant
    cases hscope

end AgentFleet
