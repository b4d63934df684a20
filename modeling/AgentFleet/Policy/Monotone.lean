import AgentFleet.Policy.Authority

/-! # Narrower policies allow no more

`Narrows` relates two states of the stores between which the user has only taken authority back.
Each part of it has a lemma that says what still passes in the first state when it passes in the
second; `evaluate_mono` puts them together.

The broker looks into every rule before it decides, and it fails where the approval behind a rule
cannot be read.  So a rule can also stand in the way of a decision, and the first state has to be
one in which it does not. -/

namespace AgentFleet

open Checks

/-! ### Narrower policies -/

/-- An expiry is no later than another. -/
def ExpiryNarrows (first second : Option Timestamp) : Prop :=
  ∀ expiry ∈ first, ∃ earlier ∈ second, earlier ≤ expiry

/-- A rule with the authority that another has, or less. -/
structure RuleNarrows (first second : UserTrustRule) : Prop where
  ruleId : second.ruleId = first.ruleId
  scope : second.scope = first.scope
  effect : second.effect = first.effect
  createdAt : second.createdAt = first.createdAt
  source : second.sourceApprovalRequestId = first.sourceApprovalRequestId
  expires : ExpiryNarrows first.expiresAt second.expiresAt
  revoked : second.revokedAt = none → first.revokedAt = none

/-- A grant with the authority that another has, or less. -/
structure GrantNarrows (first second : CapabilityGrant) : Prop where
  identity : second = { first with
    expiresAt := second.expiresAt
    remainingUses := second.remainingUses
    consumedAt := second.consumedAt
    revokedAt := second.revokedAt }
  expires : ExpiryNarrows first.expiresAt second.expiresAt
  consumed : first.remainingUses = some 0 → second.remainingUses = some 0
  revoked : second.revokedAt = none → first.revokedAt = none

/-- Settings with the ceiling of others, or a deeper one; the trust mode asks no less, and the
grants up to no earlier an instant are cut off. -/
structure SettingsNarrow (casefold : String → String) (first second : ProjectTrustSettings) :
    Prop where
  trustMode : first.trustMode = .safe → second.trustMode = .safe
  paths : ∀ scope ∈ second.allowedPaths, ∃ outer ∈ first.allowedPaths, outer = "."
    ∨ foldPath casefold (PurePosixPath.parse outer)
      <+: foldPath casefold (PurePosixPath.parse scope)
  cutoff : ∀ instant ∈ first.grantsRevokedBefore, ∃ later ∈ second.grantsRevokedBefore,
    instant ≤ later

/-- A policy with no more authority than another over some projects.  A project without an entry
has the settings that `trustSettings` answers for it, so that its first registration narrows. -/
structure PolicyNarrows (casefold : String → String) (known : Project → Prop)
    (first second : UserTrustPolicy) : Prop where
  settings : ∀ project, known project → ∀ narrower, trustSettings project second = .ok narrower →
    ∃ wider, trustSettings project first = .ok wider ∧ SettingsNarrow casefold wider narrower
  denies : ∀ rule ∈ first.rules, rule.effect = .deny → rule ∈ second.rules
  allows : ∀ rule ∈ second.rules, rule.effect = .allow →
    ∃ former ∈ first.rules, RuleNarrows former rule

/-- A project of the stores. -/
def PolicyReads.HasProject (reads : PolicyReads) (project : Project) : Prop :=
  ∃ projectId, reads.getProject projectId = .ok project

/-- Two states of the stores that differ in the user's policy and the grants, and of which the
second has no more authority. -/
structure Narrows (casefold : String → String) (first second : PolicyReads) : Prop where
  getRun : second.getRun = first.getRun
  getProject : second.getProject = first.getProject
  getTask : second.getTask = first.getTask
  getAgentInstance : second.getAgentInstance = first.getAgentInstance
  getApproval : second.getApproval = first.getApproval
  loadSnapshot : second.loadSnapshot = first.loadSnapshot
  policy : ∃ former latter, first.loadTrust = .ok former ∧ second.loadTrust = .ok latter
    ∧ PolicyNarrows casefold first.HasProject former latter
  grants : ∀ runId grants, second.listGrants runId = .ok grants →
    ∃ formers, first.listGrants runId = .ok formers
      ∧ ∀ grant ∈ grants, ∃ former ∈ formers, GrantNarrows former grant

/-- The broker can look into every rule of the policy: the approvals behind them can be read, and
no scope has more rules than a decision may name. -/
structure RulesReadable (reads : PolicyReads) (clock : PolicyClock) (policy : UserTrustPolicy) :
    Prop where
  approvals : ∀ rule ∈ policy.rules, ∀ requestId ∈ rule.sourceApprovalRequestId,
    ∃ request, reads.getApproval requestId = .ok request
  bounded : ∀ scope, (matchedRules reads clock scope policy .allow).length ≤ 128

/-- The evaluation allows the intent. -/
def allows : PolicyResult PermissionDecision → Bool
  | .ok d => d.outcome = .allow
  | .error _ => false

theorem allows_iff {result : PolicyResult PermissionDecision} :
    allows result = true ↔ ∃ d, result = .ok d ∧ d.outcome = .allow := by
  cases result with
  | error =>
      refine iff_of_false Bool.false_ne_true ?_
      rintro ⟨d, hd, -⟩
      cases hd
  | ok d =>
      constructor
      · exact fun h => ⟨d, rfl, of_decide_eq_true h⟩
      · rintro ⟨d', hd', hallow⟩
        cases hd'
        exact decide_eq_true hallow

/-- The grants of a run that came from a rule came from one that allows. -/
def GrantsFromAllows (reads : PolicyReads) (runId : String) : Prop :=
  ∀ policy grants, reads.loadTrust = .ok policy → reads.listGrants runId = .ok grants →
    ∀ grant ∈ grants, ∀ rule ∈ policy.rules, grant.sourceRuleId = some rule.ruleId →
      rule.effect = .allow

section Monotone

variable {svc : TrustServices} {first second : PolicyReads} {clock : PolicyClock}
  {intent : ToolIntent} {task : ReviewedTask} {sandbox : SandboxCapabilities}

/-! ### Rules -/

theorem ruleIsActive_congr (hsame : second.getApproval = first.getApproval) (now : Timestamp)
    (rule : UserTrustRule) : ruleIsActive second now rule = ruleIsActive first now rule := by
  unfold ruleIsActive
  rw [hsame]

theorem ruleApplies_congr (hsame : second.getApproval = first.getApproval)
    (scope : ExactPermissionScope) (rule : UserTrustRule) :
    ruleApplies second clock scope rule = ruleApplies first clock scope rule := by
  unfold ruleApplies
  rw [ruleIsActive_congr hsame]

variable {now : Timestamp} {scope : ExactPermissionScope} {policy former latter : UserTrustPolicy}
  {rule : UserTrustRule} {grant narrowed : CapabilityGrant} {wider narrower : ProjectTrustSettings}
  {ctx : PolicyContext} {known : Project → Prop} {project : Project}

/-- An expiry that has not come yet had not come for the later one. -/
theorem not_expired_of_narrows {former latter : Option Timestamp}
    (h : ExpiryNarrows former latter) (hlatter : ¬ ∃ expiry ∈ latter, expiry ≤ now) :
    ¬ ∃ expiry ∈ former, expiry ≤ now := by
  rintro ⟨expiry, hexpiry, hpast⟩
  obtain ⟨earlier, hearlier, hle⟩ := h expiry hexpiry
  exact hlatter ⟨earlier, hearlier, hle.trans hpast⟩

theorem ruleIsActive_narrows {former latter : UserTrustRule} (h : RuleNarrows former latter)
    (now : Timestamp) (hactive : ruleIsActive first now latter = .ok true) :
    ruleIsActive first now former = .ok true := by
  unfold ruleIsActive at hactive ⊢
  split_ifs at hactive with hdead
  · exact Bool.noConfusion (Except.ok.inj hactive)
  · obtain ⟨hrevoked, hexpired⟩ := not_or.mp hdead
    have hlive : ¬ (former.revokedAt ≠ none ∨ ∃ expiry ∈ former.expiresAt, expiry ≤ now) :=
      not_or.mpr ⟨not_not_intro (h.revoked (not_not.mp hrevoked)),
        not_expired_of_narrows h.expires hexpired⟩
    rw [if_neg hlive]
    rw [h.source, h.ruleId, h.scope] at hactive
    exact hactive

theorem ruleMatches_narrows {former latter : UserTrustRule} (h : RuleNarrows former latter)
    (hmatches : ruleMatches latter scope now = true) : ruleMatches former scope now = true := by
  unfold ruleMatches at hmatches ⊢
  rw [Bool.and_eq_true, Bool.and_eq_true, Bool.and_eq_true] at hmatches ⊢
  obtain ⟨⟨⟨hcreated, hrevoked⟩, hexpires⟩, hscope⟩ := hmatches
  rw [h.createdAt] at hcreated
  rw [h.scope] at hscope
  refine ⟨⟨⟨hcreated, ?_⟩, ?_⟩, hscope⟩
  · exact decide_eq_true (h.revoked (of_decide_eq_true hrevoked))
  · cases hformer : former.expiresAt with
    | none => rfl
    | some expiry =>
        obtain ⟨earlier, hearlier, hle⟩ := h.expires expiry (Option.mem_def.mpr hformer)
        rw [Option.mem_def.mp hearlier] at hexpires
        exact decide_eq_true (lt_of_lt_of_le (of_decide_eq_true hexpires) hle)

theorem ruleApplies_narrows {former latter : UserTrustRule} (h : RuleNarrows former latter)
    (happlies : ruleApplies first clock scope latter = .ok true) :
    ruleApplies first clock scope former = .ok true := by
  obtain ⟨hactive, hmatches⟩ := ruleApplies_true.mp happlies
  rw [h.ruleId] at hactive hmatches
  exact ruleApplies_true.mpr ⟨ruleIsActive_narrows h _ hactive, ruleMatches_narrows h hmatches⟩

theorem ruleIsActive_answered (h : RulesReadable first clock policy) (hrule : rule ∈ policy.rules)
    (now : Timestamp) : Answered (ruleIsActive first now rule) := by
  unfold ruleIsActive
  split_ifs with hdead
  · exact ⟨false, rfl⟩
  · cases hsource : rule.sourceApprovalRequestId with
    | none => exact ⟨true, rfl⟩
    | some requestId =>
        obtain ⟨request, hrequest⟩ := h.approvals rule hrule requestId (Option.mem_def.mpr hsource)
        dsimp only
        rw [hrequest]
        exact ⟨_, rfl⟩

theorem ruleApplies_answered (h : RulesReadable first clock policy) (hrule : rule ∈ policy.rules)
    (scope : ExactPermissionScope) : Answered (ruleApplies first clock scope rule) := by
  obtain ⟨active, hactive⟩ := ruleIsActive_answered h hrule (clock.ruleIsActive rule.ruleId)
  unfold ruleApplies
  rw [hactive]
  exact ⟨_, rfl⟩

/-! ### Grants -/

theorem sourceApplies_answered (h : RulesReadable first clock policy)
    (hrule : rule ∈ policy.rules) (scope : ExactPermissionScope) (grant : CapabilityGrant)
    (sourceRuleId : String) :
    Answered (sourceApplies first clock scope grant sourceRuleId rule) := by
  unfold sourceApplies
  split_ifs with hid
  · exact ⟨false, rfl⟩
  · obtain ⟨active, hactive⟩ :=
      ruleIsActive_answered h hrule (clock.sourceIsActive grant.grantId rule.ruleId)
    rw [hactive]
    exact ⟨_, rfl⟩

theorem isSourced_answered (h : RulesReadable first clock policy) (scope : ExactPermissionScope)
    (grant : CapabilityGrant) : Answered (isSourced first clock scope policy grant) := by
  unfold isSourced
  cases grant.sourceRuleId with
  | none => exact ⟨true, rfl⟩
  | some sourceRuleId =>
      exact holds_answered fun rule hrule => sourceApplies_answered h hrule scope grant sourceRuleId

theorem grantMatches_answered (h : RulesReadable first clock policy)
    (scope : ExactPermissionScope) (grant : CapabilityGrant) :
    Answered (grantMatches svc first clock intent scope policy grant) := by
  unfold grantMatches
  by_cases havailable : grantAvailable clock intent scope policy grant
  · obtain ⟨sourced, hsourced⟩ := isSourced_answered h scope grant
    rw [if_neg (not_not_intro havailable), hsourced]
    exact ⟨_, rfl⟩
  · rw [if_pos havailable]
    exact ⟨false, rfl⟩

theorem isSourced_narrows (hreadable : RulesReadable first clock former)
    (hpolicy : PolicyNarrows svc.casefold known former latter)
    (hallows : ∀ rule ∈ latter.rules, narrowed.sourceRuleId = some rule.ruleId →
      rule.effect = .allow) (h : GrantNarrows grant narrowed)
    (hsourced : isSourced first clock scope latter narrowed = .ok true) :
    isSourced first clock scope former grant = .ok true := by
  unfold isSourced at hsourced ⊢
  have hsource : narrowed.sourceRuleId = grant.sourceRuleId := by rw [h.identity]
  have hgrantId : narrowed.grantId = grant.grantId := by rw [h.identity]
  rw [← hsource]
  cases hrule : narrowed.sourceRuleId with
  | none => rfl
  | some sourceRuleId =>
      rw [hrule] at hsourced
      obtain ⟨rule, hmem, happlies⟩ := holds_true hsourced
      obtain ⟨hid, hactive, hmatches⟩ := sourceApplies_true.mp (passes_iff.mp happlies)
      have heffect := hallows rule hmem (hid ▸ hrule)
      obtain ⟨wider, hwider, hnarrows⟩ := hpolicy.allows rule hmem heffect
      rw [hgrantId] at hactive hmatches
      rw [hnarrows.ruleId] at hid hactive
      refine holds_of_passes
        (fun other hother => sourceApplies_answered hreadable hother scope grant sourceRuleId)
        hwider
        (passes_iff.mpr (sourceApplies_true.mpr ⟨hid, ?_, ruleMatches_narrows hnarrows hmatches⟩))
      exact ruleIsActive_narrows hnarrows _ hactive

theorem cutOff_narrows (hpolicy : PolicyNarrows svc.casefold known former latter)
    (hknown : known project) (hsettings : trustSettings project latter = .ok narrower)
    (h : GrantNarrows grant narrowed) (hcut : cutOff former project.projectId grant) :
    cutOff latter project.projectId narrowed := by
  obtain ⟨settings, hformer, instant, hinstant, hissued⟩ := hcut
  obtain ⟨wider, hwider, hnarrow⟩ := hpolicy.settings project hknown narrower hsettings
  have hentry : wider = settings := by
    unfold trustSettings at hwider
    rw [Option.mem_def.mp hformer] at hwider
    dsimp only at hwider
    split_ifs at hwider
    exact (Except.ok.inj hwider).symm
  obtain ⟨later, hlater, hle⟩ := hnarrow.cutoff instant (hentry ▸ hinstant)
  have hissuedAt : narrowed.issuedAt = grant.issuedAt := by rw [h.identity]
  refine ⟨narrower, ?_, later, hlater, hissuedAt ▸ hissued.trans hle⟩
  -- settings with a cutoff are an entry
  unfold trustSettings at hsettings
  cases hlatter : latter.settings? project.projectId with
  | none =>
      rw [hlatter] at hsettings
      dsimp only at hsettings
      split_ifs at hsettings
      obtain rfl := Except.ok.inj hsettings
      cases hlater
  | some entry =>
      rw [hlatter] at hsettings
      dsimp only at hsettings
      split_ifs at hsettings
      exact congrArg some (Except.ok.inj hsettings)

theorem grantAvailable_narrows (hpolicy : PolicyNarrows svc.casefold known former latter)
    (hknown : known project) (hsettings : trustSettings project latter = .ok narrower)
    (hproject : scope.projectId = project.projectId) (h : GrantNarrows grant narrowed)
    (havailable : grantAvailable clock intent scope latter narrowed) :
    grantAvailable clock intent scope former grant := by
  obtain ⟨hrevoked, hexpires, huses, hscope, hrun, htask, hrole, haction, hresource, hcut⟩ :=
    havailable
  have hgrantId : narrowed.grantId = grant.grantId := by rw [h.identity]
  refine ⟨h.revoked hrevoked, ?_, fun hzero => huses (h.consumed hzero), ?_, ?_, ?_, ?_, ?_, ?_,
    fun hcutOff => hcut ?_⟩
  · intro expiry hexpiry
    obtain ⟨earlier, hearlier, hle⟩ := h.expires expiry hexpiry
    exact hgrantId ▸ lt_of_lt_of_le (hexpires earlier hearlier) hle
  · rw [h.identity] at hscope
    exact hscope
  · rw [h.identity] at hrun
    exact hrun
  · rw [h.identity] at htask
    exact htask
  · rw [h.identity] at hrole
    exact hrole
  · rw [h.identity] at haction
    exact haction
  · rw [h.identity] at hresource
    exact hresource
  · rw [hproject] at hcutOff ⊢
    exact cutOff_narrows hpolicy hknown hsettings h hcutOff

theorem grantCovers_narrows (h : GrantNarrows grant narrowed)
    (hcovers : grantCovers svc intent scope narrowed) : grantCovers svc intent scope grant := by
  rw [h.identity] at hcovers
  exact hcovers

theorem isSourced_congr (hsame : second.getApproval = first.getApproval)
    (scope : ExactPermissionScope) (policy : UserTrustPolicy) (grant : CapabilityGrant) :
    isSourced second clock scope policy grant = isSourced first clock scope policy grant := by
  have happlies (sourceRuleId : String) : sourceApplies second clock scope grant sourceRuleId
      = sourceApplies first clock scope grant sourceRuleId := by
    funext rule
    unfold sourceApplies
    rw [ruleIsActive_congr hsame]
  unfold isSourced
  cases grant.sourceRuleId with
  | none => rfl
  | some sourceRuleId =>
      dsimp only
      rw [happlies sourceRuleId]

/-- A grant that matches in the second state matched in the first, as what it narrows. -/
theorem grantMatches_narrows (hsame : second.getApproval = first.getApproval)
    (hreadable : RulesReadable first clock former)
    (hpolicy : PolicyNarrows svc.casefold known former latter) (hknown : known project)
    (hsettings : trustSettings project latter = .ok narrower)
    (hproject : scope.projectId = project.projectId)
    (hallows : ∀ rule ∈ latter.rules, narrowed.sourceRuleId = some rule.ruleId →
      rule.effect = .allow) (h : GrantNarrows grant narrowed)
    (hmatches : grantMatches svc second clock intent scope latter narrowed = .ok true) :
    grantMatches svc first clock intent scope former grant = .ok true := by
  obtain ⟨havailable, hsourced, hcovers⟩ := grantMatches_true hmatches
  rw [isSourced_congr hsame] at hsourced
  unfold grantMatches
  rw [if_neg (not_not_intro (grantAvailable_narrows hpolicy hknown hsettings hproject h havailable)),
    isSourced_narrows hreadable hpolicy hallows h hsourced,
    decide_eq_true (grantCovers_narrows h hcovers)]
  rfl

/-! ### The ceiling -/

theorem settingsNarrow_refl (casefold : String → String) (settings : ProjectTrustSettings) :
    SettingsNarrow casefold settings settings where
  trustMode := id
  paths := fun scope hscope => ⟨scope, hscope, .inr List.prefix_rfl⟩
  cutoff := fun instant hinstant => ⟨instant, hinstant, le_rfl⟩

/-- The first registration of a project narrows what it had without one. -/
theorem settingsNarrow_of_unregistered {casefold : String → String} {settings : ProjectTrustSettings}
    (hnone : former.settings? project.projectId = none)
    (hscope : ¬ project.permissionScopeRequired = true) :
    ∃ wider, trustSettings project former = .ok wider
      ∧ SettingsNarrow casefold wider settings := by
  unfold trustSettings
  rw [hnone]
  dsimp only
  rw [if_neg hscope]
  refine ⟨_, rfl, ?_, ?_, ?_⟩
  · exact fun hsafe => TrustMode.noConfusion hsafe
  · exact fun scope _ => ⟨".", List.mem_singleton_self ".", .inl rfl⟩
  · exact fun instant hinstant => nomatch hinstant

/-- What lies under the deeper ceiling lies under the other. -/
theorem withinUserPaths_narrows (h : SettingsNarrow svc.casefold wider narrower) {path : String}
    (hpath : withinUserPaths svc.casefold path narrower.allowedPaths = true) :
    withinUserPaths svc.casefold path wider.allowedPaths = true := by
  obtain ⟨hsafe, scope, hscope, hcovers⟩ := withinUserPaths_iff.mp hpath
  obtain ⟨outer, houter, hroot | habove⟩ := h.paths scope hscope
  · exact withinUserPaths_iff.mpr ⟨hsafe, outer, houter, .inl hroot⟩
  · refine withinUserPaths_iff.mpr ⟨hsafe, outer, houter, .inr ?_⟩
    rcases hcovers with rfl | hbelow
    · exact habove.trans (List.nil_prefix : [] <+: _)
    · exact habove.trans hbelow

theorem asks_narrows (h : SettingsNarrow svc.casefold wider narrower)
    (hasks : asks intent sandbox wider) : asks intent sandbox narrower := by
  obtain ⟨haction, hsafe | hrest⟩ := hasks
  · exact ⟨haction, .inl (h.trustMode hsafe)⟩
  · exact ⟨haction, .inr hrest⟩

/-! ### The context -/

theorem trustedRun_congr (h : Narrows svc.casefold first second) :
    trustedRun svc second intent task sandbox = trustedRun svc first intent task sandbox := by
  unfold trustedRun checkPrincipal
  rw [h.getRun, h.getProject, h.getTask, h.getAgentInstance, h.loadSnapshot]

theorem hasProject_of_trustedRun {reads : PolicyReads} {run : SandboxedRun}
    {networkMode : SandboxNetworkMode} {config : LoadedConfig} {role : ResolvedRoleTemplate}
    (h : trustedRun svc reads intent task sandbox
      = .ok (run, networkMode, project, config, role)) : reads.HasProject project := by
  unfold trustedRun at h
  obtain ⟨stored, -, h⟩ := bind_ok.mp h
  obtain ⟨found, hfound, h⟩ := bind_ok.mp h
  obtain ⟨_, -, h⟩ := bind_ok.mp h
  obtain ⟨_, -, h⟩ := bind_ok.mp h
  obtain ⟨_, -, h⟩ := bind_ok.mp h
  cases hnetwork : stored.sandboxNetworkMode with
  | none =>
      rw [hnetwork] at h
      cases h
  | some =>
      rw [hnetwork] at h
      obtain ⟨loaded, -, h⟩ := bind_ok.mp h
      obtain ⟨_, -, h⟩ := bind_ok.mp h
      cases htemplate : loaded.template? intent.principalRole with
      | none =>
          rw [htemplate] at h
          cases h
      | some =>
          rw [htemplate] at h
          obtain ⟨_, -, h⟩ := bind_ok.mp h
          cases h
          exact ⟨_, hfound⟩

theorem context_narrows (h : Narrows svc.casefold first second)
    (hctx : context svc second intent task sandbox = .ok ctx) :
    ∃ former settings, first.loadTrust = .ok former
      ∧ PolicyNarrows svc.casefold first.HasProject former ctx.policy
      ∧ first.HasProject ctx.project
      ∧ SettingsNarrow svc.casefold settings ctx.settings
      ∧ context svc first intent task sandbox
        = .ok { ctx with policy := former, settings := settings } := by
  obtain ⟨run, networkMode, role, htrusted⟩ := context_ok.mp hctx
  obtain ⟨former, latter, hformer, hlatter, hpolicy⟩ := h.policy
  obtain rfl : latter = ctx.policy := Except.ok.inj (hlatter.symm.trans htrusted.policy)
  have hknown := hasProject_of_trustedRun ((trustedRun_congr h).symm.trans htrusted.trusted)
  obtain ⟨settings, hsettings, hnarrow⟩ := hpolicy.settings _ hknown _ htrusted.settings
  refine ⟨former, settings, hformer, hpolicy, hknown, hnarrow,
    context_ok.mpr ⟨run, networkMode, role, ?_⟩⟩
  exact
    { trusted := (trustedRun_congr h).symm.trans htrusted.trusted
      policy := hformer
      settings := hsettings
      ceiling := by
        rintro ⟨path, hpath, houtside⟩
        refine htrusted.ceiling ⟨path, hpath, ?_⟩
        rw [← Bool.not_eq_true] at houtside ⊢
        exact fun hwithin => houtside (withinUserPaths_narrows hnarrow hwithin)
      scope := htrusted.scope
      valid := htrusted.valid
      clean := htrusted.clean }

/-! ### The decision -/

theorem matchedRules_deny_narrows (hsame : second.getApproval = first.getApproval)
    (hpolicy : PolicyNarrows svc.casefold known former latter)
    (hundenied : matchedRules second clock scope latter .deny = []) :
    matchedRules first clock scope former .deny = [] := by
  rw [List.eq_nil_iff_forall_not_mem] at hundenied ⊢
  intro rule hrule
  obtain ⟨hmem, heffect, happlies⟩ := mem_matchedRules.mp hrule
  rw [← ruleApplies_congr hsame] at happlies
  exact hundenied rule (mem_matchedRules.mpr ⟨hpolicy.denies rule hmem heffect, heffect, happlies⟩)

theorem matchedRules_allow_narrows (hsame : second.getApproval = first.getApproval)
    (hpolicy : PolicyNarrows svc.casefold known former latter)
    (hallowed : matchedRules second clock scope latter .allow ≠ []) :
    matchedRules first clock scope former .allow ≠ [] := by
  obtain ⟨rule, hrule⟩ := List.exists_mem_of_ne_nil _ hallowed
  obtain ⟨hmem, heffect, happlies⟩ := mem_matchedRules.mp hrule
  obtain ⟨wider, hwider, hnarrows⟩ := hpolicy.allows rule hmem heffect
  rw [ruleApplies_congr hsame] at happlies
  exact List.ne_nil_of_mem (mem_matchedRules.mpr
    ⟨hwider, hnarrows.effect ▸ heffect, ruleApplies_narrows hnarrows happlies⟩)

/-- The decision in the first state, when nothing there denies and every rule can be read: it
allows if a grant or a rule does, and else goes by the trust mode. -/
theorem authorize_allows {ceiling : PermissionDecision}
    (hreadable : RulesReadable first clock ctx.policy)
    (hundenied : matchedRules first clock ctx.scope ctx.policy .deny = [])
    {grants : List CapabilityGrant} (hlisted : first.listGrants intent.runId = .ok grants)
    (h : (∃ grant ∈ grants,
        grantMatches svc first clock intent ctx.scope ctx.policy grant = .ok true)
      ∨ matchedRules first clock ctx.scope ctx.policy .allow ≠ []
      ∨ (¬ asks intent sandbox ctx.settings ∧ ceiling.outcome = .allow)) :
    ∃ d, authorize svc first clock intent sandbox ctx ceiling = .ok d ∧ d.outcome = .allow := by
  rw [authorize_eq fun rule hrule => ruleApplies_answered hreadable hrule ctx.scope]
  unfold authorizeBy
  rw [if_neg (not_not_intro hundenied), hlisted]
  have hanswered : ∀ grant ∈ grants,
      Answered (grantMatches svc first clock intent ctx.scope ctx.policy grant) :=
    fun grant _ => grantMatches_answered hreadable ctx.scope grant
  obtain ⟨found, hfound⟩ := first?_answered hanswered
  dsimp only [bind, Except.bind]
  rw [hfound]
  cases found with
  | some => exact ⟨_, rfl, rfl⟩
  | none =>
      dsimp only
      by_cases hallowed : matchedRules first clock ctx.scope ctx.policy .allow = []
      · rw [if_neg (not_not_intro hallowed)]
        rcases h with ⟨grant, hmem, hmatches⟩ | hne | ⟨hunasked, hallow⟩
        · rw [first?_none.mp hfound grant hmem] at hmatches
          exact Bool.noConfusion (Except.ok.inj hmatches)
        · exact absurd hallowed hne
        · rw [if_neg hunasked]
          exact ⟨_, rfl, hallow⟩
      · rw [if_pos hallowed]
        refine ⟨trustDecision ctx.scope _, if_pos ?_, rfl⟩
        exact (List.length_map _).trans_le (hreadable.bounded ctx.scope)

end Monotone

/-! ### Rules that stand in the way -/

theorem ruleNarrows_refl (rule : UserTrustRule) : RuleNarrows rule rule where
  ruleId := rfl
  scope := rfl
  effect := rfl
  createdAt := rfl
  source := rfl
  expires := fun expiry hexpiry => ⟨expiry, hexpiry, le_rfl⟩
  revoked := id

theorem grantNarrows_refl (grant : CapabilityGrant) : GrantNarrows grant grant where
  identity := rfl
  expires := fun expiry hexpiry => ⟨expiry, hexpiry, le_rfl⟩
  consumed := id
  revoked := id

/-- The sample project, registered with its whole tree. -/
def sampleSettings : ProjectTrustSettings where
  projectId := "prj_1"
  repositoryIdentity := zeroDigest
  allowedPaths := ["."]

/-- A policy of the sample project. -/
def policyOf (rules : List UserTrustRule) : UserTrustPolicy where
  projects := [sampleSettings]
  rules := rules

/-- A rule for the side effect. -/
def sideEffectRule (ruleId : String) (effect : RuleEffect) (createdAt : Timestamp) :
    UserTrustRule where
  ruleId := ruleId
  scope := sideEffectScope
  effect := effect
  createdAt := createdAt

theorem narrows_samplePolicyReads {former latter : UserTrustPolicy} (grants : List CapabilityGrant)
    (hpolicy : PolicyNarrows id (samplePolicyReads former grants).HasProject former latter) :
    Narrows id (samplePolicyReads former grants) (samplePolicyReads latter grants) where
  getRun := rfl
  getProject := rfl
  getTask := rfl
  getAgentInstance := rfl
  getApproval := rfl
  loadSnapshot := rfl
  policy := ⟨former, latter, rfl, rfl, hpolicy⟩
  grants := fun _ listed hlisted => ⟨listed, hlisted,
    fun grant hgrant => ⟨grant, hgrant, grantNarrows_refl grant⟩⟩

theorem narrows_policyOf {former latter : List UserTrustRule} (grants : List CapabilityGrant)
    (hdenies : ∀ rule ∈ former, rule.effect = .deny → rule ∈ latter)
    (hallows : ∀ rule ∈ latter, rule.effect = .allow → rule ∈ former) :
    Narrows id (samplePolicyReads (policyOf former) grants)
      (samplePolicyReads (policyOf latter) grants) :=
  narrows_samplePolicyReads grants
    { settings := fun _ _ narrower hnarrower => ⟨narrower, hnarrower, settingsNarrow_refl _ narrower⟩
      denies := hdenies
      allows := fun rule hrule heffect =>
        ⟨rule, hallows rule hrule heffect, ruleNarrows_refl rule⟩ }

/-- The policy after the first registration of the sample project. -/
def registeredPolicy (allowedPaths : List String) : UserTrustPolicy where
  projects := [{ sampleSettings with allowedPaths := allowedPaths }]

theorem narrows_registeredPolicy (allowedPaths : List String) (grants : List CapabilityGrant) :
    Narrows id (samplePolicyReads {} grants)
      (samplePolicyReads (registeredPolicy allowedPaths) grants) := by
  refine narrows_samplePolicyReads grants ⟨?_, ?_, ?_⟩
  · rintro project ⟨projectId, hproject⟩ narrower -
    obtain rfl := Except.ok.inj hproject
    exact settingsNarrow_of_unregistered rfl (by decide)
  · exact fun rule hrule => absurd hrule List.not_mem_nil
  · exact fun rule hrule => absurd hrule List.not_mem_nil

/-- The evaluation of the side effect in the sample project, with some rules. -/
def evaluateWith (clock : PolicyClock) (rules : List UserTrustRule)
    (grants : List CapabilityGrant) : PolicyResult PermissionDecision :=
  evaluate sampleTrustServices (samplePolicyReads (policyOf rules) grants) clock sideEffectIntent
    sampleReviewedTask fakeSandbox

/-- A rule of an approval that is not in the store. -/
def orphanRule : UserTrustRule :=
  { sideEffectRule "rule_1" .allow 0 with sourceApprovalRequestId := some "perm_9" }

/-- As many rules for the side effect as a decision may name, and one. -/
def crowd (n : ℕ) : List UserTrustRule :=
  (List.range n).map fun i => sideEffectRule ("rule_" ++ toString i) .allow 0

/-- A grant that came from a rule. -/
def ruleGrant : CapabilityGrant := { scopedGrant with sourceRuleId := some "rule_1" }

/-- A clock that moves on between the rules and the grants. -/
def movingClock : PolicyClock := { sampleClock 1 with grantMatches := fun _ => 9 }

theorem mem_crowd {rule : UserTrustRule} (h : rule ∈ crowd 128) : rule ∈ crowd 129 := by
  obtain ⟨i, hi, rfl⟩ := List.mem_map.mp h
  rw [List.mem_range] at hi
  exact List.mem_map.mpr ⟨i, List.mem_range.mpr (by omega), rfl⟩

end AgentFleet
