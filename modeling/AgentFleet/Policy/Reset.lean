import AgentFleet.Policy.Service

/-! # A reset is permanent

* `PolicyGrows` is what no publication can undo: a project's cutoff does not decrease, and a rule
  keeps its scope and, once revoked, its revocation.  `policyGrows_run` is the statement for runs.
* `reset_cutoff` and `reset_rules`: what a committed reset has put into the policy.
* `reset_permanent`: whatever follows a committed reset, no evaluation uses a grant or a rule that
  the project had before it. -/

namespace AgentFleet

open Checks Transition

/-! ### Cutoffs and rules of a policy -/

/-- The instant up to which the grants of a project are cut off. -/
def UserTrustPolicy.cutoff? (policy : UserTrustPolicy) (projectId : String) : Option Timestamp :=
  (policy.settings? projectId).bind ProjectTrustSettings.grantsRevokedBefore

/-- A later version of a rule. -/
structure RuleEvolves (former latter : UserTrustRule) : Prop where
  ruleId : latter.ruleId = former.ruleId
  scope : latter.scope = former.scope
  revoked : former.revokedAt ≠ none → latter.revokedAt = former.revokedAt

/-- The policy after any number of publications. -/
structure PolicyGrows (former latter : UserTrustPolicy) : Prop where
  cutoff : ∀ projectId, ∀ instant ∈ former.cutoff? projectId,
    ∃ later ∈ latter.cutoff? projectId, instant ≤ later
  rules : ∀ rule ∈ former.rules, ∃ later ∈ latter.rules, RuleEvolves rule later

theorem RuleEvolves.refl (rule : UserTrustRule) : RuleEvolves rule rule := ⟨rfl, rfl, fun _ => rfl⟩

theorem RuleEvolves.trans {first second third : UserTrustRule} (h : RuleEvolves first second)
    (h' : RuleEvolves second third) : RuleEvolves first third := by
  refine ⟨h'.ruleId.trans h.ruleId, h'.scope.trans h.scope, fun hrevoked => ?_⟩
  have hsecond := h.revoked hrevoked
  exact (h'.revoked (hsecond ▸ hrevoked)).trans hsecond

theorem PolicyGrows.refl (policy : UserTrustPolicy) : PolicyGrows policy policy where
  cutoff := fun _ instant hinstant => ⟨instant, hinstant, le_rfl⟩
  rules := fun rule hrule => ⟨rule, hrule, .refl rule⟩

theorem PolicyGrows.trans {first second third : UserTrustPolicy} (h : PolicyGrows first second)
    (h' : PolicyGrows second third) : PolicyGrows first third := by
  constructor
  · intro projectId instant hinstant
    obtain ⟨later, hlater, hle⟩ := h.cutoff projectId instant hinstant
    obtain ⟨last, hlast, hle'⟩ := h'.cutoff projectId later hlater
    exact ⟨last, hlast, hle.trans hle'⟩
  · intro rule hrule
    obtain ⟨later, hlater, hevolves⟩ := h.rules rule hrule
    obtain ⟨last, hlast, hevolves'⟩ := h'.rules later hlater
    exact ⟨last, hlast, hevolves.trans hevolves'⟩

theorem find?_otherProjects {projects : List ProjectTrustSettings} {projectId other : String} :
    (projects.filter fun settings => settings.projectId ≠ other).find?
        (fun settings => settings.projectId = projectId)
      = if projectId = other then none
        else projects.find? fun settings => settings.projectId = projectId := by
  induction projects with
  | nil =>
      rw [List.filter_nil, List.find?_nil, ite_self]
  | cons settings rest ih =>
      rw [List.filter_cons]
      by_cases hother : settings.projectId = other
      · have hdrop : ¬ decide (settings.projectId ≠ other) = true := by
          rw [decide_eq_true_iff]
          exact not_not_intro hother
        rw [if_neg hdrop, ih, List.find?_cons]
        by_cases hsame : projectId = other
        · rw [if_pos hsame, if_pos hsame]
        · have hne : ¬ settings.projectId = projectId := fun h => hsame (h.symm.trans hother)
          rw [if_neg hsame, if_neg hsame, decide_eq_false hne]
      · rw [if_pos (decide_eq_true hother), List.find?_cons, List.find?_cons, ih]
        by_cases hsame : projectId = other
        · have hne : ¬ settings.projectId = projectId := fun h => hother (h.trans hsame)
          rw [if_pos hsame, if_pos hsame, decide_eq_false hne]
        · rw [if_neg hsame, if_neg hsame]

/-- New settings are found under their project; the others stay. -/
theorem settings?_withSettings (policy : UserTrustPolicy) (settings : ProjectTrustSettings)
    (projectId : String) :
    (policy.withSettings settings).settings? projectId
      = if projectId = settings.projectId then some settings else policy.settings? projectId := by
  unfold UserTrustPolicy.settings? UserTrustPolicy.withSettings
  dsimp only
  rw [List.find?_append, find?_otherProjects, List.find?_singleton]
  by_cases hsame : projectId = settings.projectId
  · rw [if_pos hsame, if_pos hsame, decide_eq_true hsame.symm]
    rfl
  · rw [if_neg hsame, if_neg hsame, decide_eq_false (Ne.symm hsame)]
    exact Option.or_none

theorem cutoff?_withSettings (policy : UserTrustPolicy) (settings : ProjectTrustSettings)
    (projectId : String) :
    (policy.withSettings settings).cutoff? projectId
      = if projectId = settings.projectId then settings.grantsRevokedBefore
        else policy.cutoff? projectId := by
  unfold UserTrustPolicy.cutoff?
  rw [settings?_withSettings]
  by_cases hsame : projectId = settings.projectId
  · rw [if_pos hsame, if_pos hsame]
    rfl
  · rw [if_neg hsame, if_neg hsame]

/-- Replacing the settings of a project grows, unless its cutoff gets lost or earlier. -/
theorem grows_withSettings {policy : UserTrustPolicy} {settings : ProjectTrustSettings}
    (h : ∀ instant ∈ policy.cutoff? settings.projectId,
      ∃ later ∈ settings.grantsRevokedBefore, instant ≤ later) :
    PolicyGrows policy (policy.withSettings settings) := by
  refine ⟨fun projectId instant hinstant => ?_, fun rule hrule => ⟨rule, hrule, .refl rule⟩⟩
  rw [cutoff?_withSettings]
  by_cases hsame : projectId = settings.projectId
  · rw [if_pos hsame]
    exact h instant (hsame ▸ hinstant)
  · rw [if_neg hsame]
    exact ⟨instant, hinstant, le_rfl⟩

/-- Rewriting the rules grows, when each rule evolves. -/
theorem grows_rules {policy : UserTrustPolicy} {rules : List UserTrustRule}
    (h : ∀ rule ∈ policy.rules, ∃ later ∈ rules, RuleEvolves rule later) :
    PolicyGrows policy { policy with rules } :=
  ⟨fun _ instant hinstant => ⟨instant, hinstant, le_rfl⟩, h⟩

/-! ### What each call publishes -/

section Calls

variable {svc : PolicyServices} {policy proposed : UserTrustPolicy}

/-- The settings that an evaluation reads are those of the policy, or have no cutoff. -/
theorem trustSettings_ok {project : Project} {settings : ProjectTrustSettings}
    (h : trustSettings project policy = .ok settings) :
    settings.projectId = project.projectId
      ∧ settings.grantsRevokedBefore = policy.cutoff? project.projectId := by
  unfold trustSettings at h
  unfold UserTrustPolicy.cutoff?
  cases hsettings : policy.settings? project.projectId with
  | none =>
      rw [hsettings] at h
      dsimp only at h
      split_ifs at h with hrequired
      cases h
      exact ⟨rfl, rfl⟩
  | some =>
      rw [hsettings] at h
      dsimp only at h
      split_ifs at h with hidentity
      cases h
      have hid := List.find?_some hsettings
      exact ⟨of_decide_eq_true hid, rfl⟩

variable {actor : String} {now : Timestamp}

theorem configure_grows {projectAt : PolicyResult Project} {mode : TrustMode}
    {allowedPaths : Option (List String)} {expectedRevision : Option ℕ}
    (h : configure svc policy projectAt mode allowedPaths actor expectedRevision = .ok proposed) :
    PolicyGrows policy proposed := by
  unfold configure at h
  obtain ⟨_, -, h⟩ := bind_ok.mp h
  obtain ⟨_, -, h⟩ := bind_ok.mp h
  obtain ⟨project, -, h⟩ := bind_ok.mp h
  obtain ⟨_, -, h⟩ := bind_ok.mp h
  obtain ⟨_, -, h⟩ := bind_ok.mp h
  obtain ⟨paths, -, h⟩ := bind_ok.mp h
  dsimp only at h
  split_ifs at h with hvalid
  cases h
  exact grows_withSettings fun instant hinstant => ⟨instant, hinstant, le_rfl⟩

/-- A staged rule is added to the rules, and its project to the projects. -/
theorem stageAlwaysRule_grows {requestId : String} {scope : ExactPermissionScope}
    {getProject : PolicyResult Project}
    (h : stageAlwaysRule svc policy requestId scope now getProject = .ok (some proposed)) :
    PolicyGrows policy proposed := by
  unfold stageAlwaysRule at h
  cases hfound : policy.rules.find? fun rule => rule.ruleId = ruleIdOf requestId with
  | some =>
      rw [hfound] at h
      obtain ⟨_, -, h⟩ := bind_ok.mp h
      cases h
  | none =>
      rw [hfound] at h
      dsimp only at h
      split_ifs at h with hvalid
      obtain ⟨added, -, h⟩ := bind_ok.mp h
      cases h
      constructor
      · intro projectId instant hinstant
        refine ⟨instant, ?_, le_rfl⟩
        unfold UserTrustPolicy.cutoff? UserTrustPolicy.settings? at hinstant ⊢
        dsimp only
        rw [List.find?_append]
        cases hsettings : policy.projects.find? fun settings => settings.projectId = projectId with
        | none =>
            rw [hsettings] at hinstant
            cases hinstant
        | some =>
            rw [hsettings] at hinstant
            exact hinstant
      · exact fun rule hrule => ⟨rule, List.mem_append_left _ hrule, .refl rule⟩

/-- A rule that is revoked was not revoked before; the others stay. -/
theorem revokeRule_grows (hvalid : policy.validates svc.toTrustServices) {identifier : String}
    (h : revokeRule policy identifier actor now = .ok (some proposed)) :
    PolicyGrows policy proposed := by
  unfold revokeRule at h
  obtain ⟨_, -, h⟩ := bind_ok.mp h
  cases hfound : policy.rules.find? fun rule => rule.ruleId = identifier with
  | none =>
      rw [hfound] at h
      cases h
  | some rule =>
      rw [hfound] at h
      dsimp only at h
      split_ifs at h with hrevoked
      · cases h
      · cases h
        have hid := List.find?_some hfound
        have hunique := hvalid.2.2.2.2.2.2.1
        refine grows_rules fun other hother => ⟨_, List.mem_map.mpr ⟨other, hother, rfl⟩, ?_⟩
        by_cases hsame : other.ruleId = identifier
        · obtain rfl : other = rule := List.inj_on_of_nodup_map hunique hother
            (List.mem_of_find?_eq_some hfound) (hsame.trans (of_decide_eq_true hid).symm)
          rw [if_pos hsame]
          exact ⟨rfl, rfl, fun hlive => absurd (not_not.mp hrevoked) hlive⟩
        · rw [if_neg hsame]
          exact .refl other

/-- The cutoff of a reset is after the cutoff before, and no earlier than any grant. -/
theorem resetCutoff_spec (prior : ProjectTrustSettings) (grants : List CapabilityGrant)
    (now : Timestamp) :
    (∀ instant ∈ prior.grantsRevokedBefore, instant < resetCutoff prior grants now)
      ∧ (∀ grant ∈ grants, grant.issuedAt ≤ resetCutoff prior grants now)
      ∧ now ≤ resetCutoff prior grants now := by
  have hmax (instants : List Timestamp) (first : Timestamp) :
      first ≤ instants.foldl max first
        ∧ ∀ instant ∈ instants, instant ≤ instants.foldl max first := by
    induction instants generalizing first with
    | nil => exact ⟨le_rfl, fun instant hinstant => absurd hinstant List.not_mem_nil⟩
    | cons instant rest ih =>
        obtain ⟨hfirst, hrest⟩ := ih (max first instant)
        rw [List.foldl_cons, List.forall_mem_cons]
        exact ⟨(le_max_left _ _).trans hfirst, (le_max_right _ _).trans hfirst, hrest⟩
  obtain ⟨hnow, hissued⟩ := hmax (grants.map CapabilityGrant.issuedAt) now
  have hgrants : ∀ grant ∈ grants,
      grant.issuedAt ≤ (grants.map CapabilityGrant.issuedAt).foldl max now := fun grant hgrant =>
    hissued grant.issuedAt (List.mem_map.mpr ⟨grant, hgrant, rfl⟩)
  unfold resetCutoff
  dsimp only
  cases prior.grantsRevokedBefore with
  | none =>
      refine ⟨fun instant hinstant => ?_, hgrants, hnow⟩
      cases hinstant
  | some before =>
      refine ⟨fun instant hinstant => ?_,
        fun grant hgrant => (hgrants grant hgrant).trans (le_max_left _ _),
        hnow.trans (le_max_left _ _)⟩
      obtain rfl := Option.some.inj hinstant
      exact lt_of_lt_of_le (Int.lt_succ before) (le_max_right _ _)

/-- What a reset proposes. -/
structure ResetPolicy (policy : UserTrustPolicy) (store : Store) (projectId : String)
    (proposed : UserTrustPolicy) : Prop where
  grows : PolicyGrows policy proposed
  cutoff : ∃ cutoff, proposed.cutoff? projectId = some cutoff
    ∧ (∀ instant ∈ policy.cutoff? projectId, instant < cutoff)
    ∧ ∀ row ∈ projectGrantRows store.records projectId, row.1.issuedAt ≤ cutoff
  named : ∀ row ∈ projectGrantRows store.records projectId, row.1.projectId = projectId
  rules : ∀ rule ∈ policy.rules, rule.scope.projectId = projectId →
    ∃ later ∈ proposed.rules, later.ruleId = rule.ruleId ∧ later.revokedAt ≠ none

theorem reset_ok {store : Store} {project : Project} {revokedAt : String → Timestamp}
    (h : reset policy store (.ok project) actor now revokedAt = .ok proposed) :
    ResetPolicy policy store project.projectId proposed := by
  unfold reset at h
  obtain ⟨_, -, h⟩ := bind_ok.mp h
  obtain ⟨_, hproject, h⟩ := bind_ok.mp h
  obtain rfl := Except.ok.inj hproject
  obtain ⟨prior, hprior, h⟩ := bind_ok.mp h
  obtain ⟨grants, hgrants, h⟩ := bind_ok.mp h
  obtain ⟨hid, hbefore⟩ := trustSettings_ok hprior
  obtain ⟨hafter, hissued, -⟩ := resetCutoff_spec prior grants now
  have hlisted := listProjectGrants_ok hgrants
  cases h
  have hrules : ∀ rule ∈ policy.rules, ∃ later ∈ policy.rules.map (fun rule =>
      if rule.scope.projectId = project.projectId ∧ rule.revokedAt = none then
        { rule with revokedAt := some (revokedAt rule.ruleId) } else rule),
      RuleEvolves rule later
        ∧ (rule.scope.projectId = project.projectId → later.revokedAt ≠ none) := by
    intro rule hrule
    refine ⟨_, List.mem_map.mpr ⟨rule, hrule, rfl⟩, ?_⟩
    by_cases hlive : rule.scope.projectId = project.projectId ∧ rule.revokedAt = none
    · rw [if_pos hlive]
      exact ⟨⟨rfl, rfl, fun hrevoked => absurd hlive.2 hrevoked⟩, fun _ => Option.some_ne_none _⟩
    · rw [if_neg hlive]
      exact ⟨.refl rule, fun hown hnone => hlive ⟨hown, hnone⟩⟩
  exact
    { grows := by
        refine PolicyGrows.trans (grows_rules fun rule hrule => ?_) (grows_withSettings ?_)
        · obtain ⟨later, hlater, hevolves, -⟩ := hrules rule hrule
          exact ⟨later, hlater, hevolves⟩
        · intro instant hinstant
          refine ⟨resetCutoff prior grants now, rfl, (hafter instant ?_).le⟩
          rw [hbefore, ← hid]
          exact hinstant
      cutoff := by
        refine ⟨resetCutoff prior grants now, ?_, fun instant hinstant => hafter instant ?_,
          fun row hrow => hissued row.1 (hlisted row hrow).1⟩
        · rw [cutoff?_withSettings, if_pos hid.symm]
        · rw [hbefore]
          exact hinstant
      named := fun row hrow => (hlisted row hrow).2
      rules := fun rule hrule hown => by
        obtain ⟨later, hlater, hevolves, hrevoked⟩ := hrules rule hrule
        exact ⟨later, hlater, hevolves.ruleId, hrevoked hown⟩ }

end Calls

/-! ### Runs -/

section Runs

variable {svc : PolicyServices} {s t : PolicyState svc} {project : Project}

theorem propose_grows {call : PolicyCall} {proposed : UserTrustPolicy}
    (h : propose svc s call = .ok (some proposed)) : PolicyGrows s.policy proposed := by
  cases call with
  | configure =>
      obtain ⟨published, hpublished, h⟩ := bind_ok.mp h
      cases h
      exact configure_grows hpublished
  | stageAlwaysRule => exact stageAlwaysRule_grows h
  | revokeRule => exact revokeRule_grows s.valid h
  | reset projectAt =>
      obtain ⟨published, hpublished, h⟩ := bind_ok.mp h
      cases h
      cases projectAt with
      | error =>
          unfold reset at hpublished
          obtain ⟨_, -, hpublished⟩ := bind_ok.mp hpublished
          cases hpublished
      | ok => exact (reset_ok hpublished).grows

theorem policyGrows_step (s : PolicyState svc) (input : PolicyInput) :
    PolicyGrows s.policy ((policyMachine svc).next s input).policy := by
  cases input with
  | call call fault =>
      rcases next_policy s call fault with hsame | ⟨proposed, hpropose, hpolicy, -⟩
      · rw [hsame]
        exact .refl _
      · have hgrows := propose_grows hpropose
        rw [hpolicy]
        exact ⟨hgrows.cutoff, hgrows.rules⟩
  | transaction input =>
      rw [(next_transaction s input).1]
      exact .refl _

/-- What no run of calls and transactions can undo in the policy. -/
theorem policyGrows_run (s : PolicyState svc) (inputs : List PolicyInput) :
    PolicyGrows s.policy ((policyMachine svc).run s inputs).policy :=
  Machine.run_rel (I := fun _ => True)
    (R := fun s t : PolicyState svc => PolicyGrows s.policy t.policy)
    (fun _ _ _ => trivial) (fun _ => .refl _) (fun _ _ _ => .trans)
    (fun s input _ => policyGrows_step s input) trivial inputs

theorem evolves_step (s : PolicyState svc) (input : PolicyInput) :
    Evolves s.store.records ((policyMachine svc).next s input).store.records := by
  cases input with
  | call call fault =>
      rcases next_policy s call fault with hsame | ⟨proposed, -, -, hstore⟩
      · rw [hsame]
        exact .refl _
      · rw [hstore]
        exact .refl _
  | transaction input =>
      rw [(next_transaction s input).2]
      exact (effect_of_step svc.toServices s.store input).evolves

/-- The records of the store evolve under calls and transactions. -/
theorem storeEvolves_run (s : PolicyState svc) (inputs : List PolicyInput) :
    Evolves s.store.records ((policyMachine svc).run s inputs).store.records :=
  Machine.run_rel (I := fun _ => True)
    (R := fun s t : PolicyState svc => Evolves s.store.records t.store.records)
    (fun _ _ _ => trivial) (fun _ => .refl _) (fun _ _ _ => .trans)
    (fun s input _ => evolves_step s input) trivial inputs

/-! ### What a reset leaves behind -/

/-- An evaluation that reads the policy and the grants of a state; what else it reads is open. -/
structure ReadsFrom (s : PolicyState svc) (reads : PolicyReads) : Prop where
  trust : reads.loadTrust = .ok s.policy
  grants : ∀ runId, reads.listGrants runId = (listGrants runId).value s.store

/-- `t` has nothing left of what a project had in `s`: the cutoff lies after the one that it had
and after its grants, none of its grants or rules applies, and no evaluation allows by one. -/
structure Forgets (s t : PolicyState svc) (projectId : String) : Prop where
  cutoff : ∃ cutoff ∈ t.policy.cutoff? projectId,
    (∀ instant ∈ s.policy.cutoff? projectId, instant < cutoff)
      ∧ ∀ row ∈ projectGrantRows s.store.records projectId, row.1.issuedAt ≤ cutoff
  grants : ∀ row ∈ projectGrantRows s.store.records projectId,
    ∀ later ∈ t.store.records.capabilityGrants, later.1.grantId = row.1.grantId →
      ∀ reads clock intent scope,
        grantMatches svc.toTrustServices reads clock intent scope t.policy later.1 = .ok false
  rules : ∀ rule ∈ s.policy.rules, rule.scope.projectId = projectId →
    ∀ later ∈ t.policy.rules, later.ruleId = rule.ruleId →
      ∀ reads now, ruleIsActive reads now later = .ok false
  decisions : ∀ reads clock intent task sandbox d, ReadsFrom t reads →
    evaluate svc.toTrustServices reads clock intent task sandbox = .ok d → d.outcome = .allow →
      (∀ row ∈ projectGrantRows s.store.records projectId, d.grantId ≠ some row.1.grantId)
        ∧ ∀ rule ∈ s.policy.rules, rule.scope.projectId = projectId →
          d.sourceRuleId ≠ some rule.ruleId

variable {projectId : String} {grant : CapabilityGrant} {trust : TrustServices}
  {reads : PolicyReads} {clock : PolicyClock} {intent : ToolIntent}

theorem cutOff_of_cutoff? {policy : UserTrustPolicy} {cutoff : Timestamp}
    (hcutoff : cutoff ∈ policy.cutoff? projectId) (hissued : grant.issuedAt ≤ cutoff) :
    cutOff policy projectId grant := by
  obtain ⟨settings, hsettings, hinstant⟩ := Option.bind_eq_some_iff.mp hcutoff
  exact ⟨settings, hsettings, cutoff, hinstant, hissued⟩

theorem grantMatches_of_cutOff {scope : ExactPermissionScope} {policy : UserTrustPolicy}
    (h : cutOff policy grant.projectId grant) :
    grantMatches trust reads clock intent scope policy grant = .ok false := by
  unfold grantMatches
  refine if_pos fun havailable => ?_
  obtain ⟨-, -, -, hproject, -, -, -, -, -, hcut⟩ := havailable
  exact hcut (hproject ▸ h)

theorem ruleIsActive_of_revoked {now : Timestamp} {rule : UserTrustRule}
    (h : rule.revokedAt ≠ none) : ruleIsActive reads now rule = .ok false :=
  if_pos (.inl h)

/-- The decision of the baseline names no grant and no rule. -/
theorem baselineEvaluate_unnamed (trust : TrustServices) (intent : ToolIntent)
    (task : ReviewedTask) (sandbox : SandboxCapabilities) (executionKind : Option AgentRole) :
    (baselineEvaluate trust intent task sandbox executionKind).grantId = none
      ∧ (baselineEvaluate trust intent task sandbox executionKind).sourceRuleId = none := by
  unfold baselineEvaluate
  dsimp only
  split_ifs
  · exact ⟨rfl, rfl⟩
  · exact ⟨rfl, rfl⟩
  · exact ⟨rfl, rfl⟩
  · exact ⟨rfl, rfl⟩
  · exact ⟨rfl, rfl⟩
  · cases taskCommand task intent.resource.identifier sandbox.provider with
    | none => exact ⟨rfl, rfl⟩
    | some =>
        dsimp only
        split_ifs
        · exact ⟨rfl, rfl⟩
        · exact ⟨rfl, rfl⟩
  · exact ⟨rfl, rfl⟩
  · exact ⟨rfl, rfl⟩

/-- An evaluation allows only by grants that match and by rules that are active. -/
theorem evaluate_named {task : ReviewedTask} {sandbox : SandboxCapabilities}
    {d : PermissionDecision} (h : evaluate trust reads clock intent task sandbox = .ok d)
    (hallow : d.outcome = .allow) :
    ∃ ctx : PolicyContext, reads.loadTrust = .ok ctx.policy
      ∧ (∀ grantId ∈ d.grantId, ∃ grants grant, reads.listGrants intent.runId = .ok grants
        ∧ grant ∈ grants ∧ grant.grantId = grantId
        ∧ grantMatches trust reads clock intent ctx.scope ctx.policy grant = .ok true)
      ∧ ∀ ruleId ∈ d.sourceRuleId, ∃ rule ∈ ctx.policy.rules, rule.ruleId = ruleId
        ∧ ∃ now, ruleIsActive reads now rule = .ok true := by
  obtain ⟨-, -, ctx, hctx, hin⟩ := evaluate_cases h hallow
  obtain ⟨role, -, -, -, hauthorize⟩ := evaluateIn_allow hin hallow
  obtain ⟨run, networkMode, _, htrusted⟩ := context_ok.mp hctx
  refine ⟨ctx, htrusted.policy, ?_⟩
  cases authorize_cases hauthorize with
  | denied => exact PermissionOutcome.noConfusion hallow
  | granted undenied grants listed grant found =>
      obtain ⟨hmem, hpasses⟩ := first?_some found
      have hmatches := passes_iff.mp hpasses
      refine ⟨fun grantId hgrantId => ?_, fun ruleId hruleId => ?_⟩
      · exact ⟨grants, grant, listed, hmem, Option.some.inj hgrantId, hmatches⟩
      · obtain ⟨-, hsourced, -⟩ := grantMatches_true hmatches
        obtain ⟨rule, hrule, hid, hactive, -⟩ := isSourced_true hsourced ruleId hruleId
        exact ⟨rule, hrule, hid, _, hactive⟩
  | trusted =>
      refine ⟨fun grantId hgrantId => (by cases hgrantId), fun ruleId hruleId => ?_⟩
      obtain ⟨rule, hhead, rfl⟩ := Option.map_eq_some_iff.mp hruleId
      obtain ⟨hmem, -, happlies⟩ := mem_matchedRules.mp (List.mem_of_mem_head? hhead)
      exact ⟨rule, hmem, rfl, _, (ruleApplies_true.mp happlies).1⟩
  | asked => exact PermissionOutcome.noConfusion hallow
  | mode =>
      obtain ⟨hgrant, hrule⟩ :=
        baselineEvaluate_unnamed trust intent task sandbox (some role.executionKind)
      refine ⟨fun grantId hgrantId => ?_, fun ruleId hruleId => ?_⟩
      · rw [show (modeDecision ctx.settings ctx.scope _).grantId = none from hgrant] at hgrantId
        cases hgrantId
      · rw [show (modeDecision ctx.settings ctx.scope _).sourceRuleId = none from hrule] at hruleId
        cases hruleId

/-- A reset that is in the policy file, and whatever comes after it. -/
theorem forgets_of_reset {proposed : UserTrustPolicy}
    (hreset : ResetPolicy s.policy s.store projectId proposed)
    (hpolicy : PolicyGrows proposed t.policy) (hstore : Evolves s.store.records t.store.records) :
    Forgets s t projectId := by
  obtain ⟨cutoff, hcutoff, hafter, hissued⟩ := hreset.cutoff
  obtain ⟨later, hlater, hle⟩ := hpolicy.cutoff projectId cutoff hcutoff
  have hgrants : ∀ row ∈ projectGrantRows s.store.records projectId,
      ∀ current ∈ t.store.records.capabilityGrants, current.1.grantId = row.1.grantId →
        ∀ reads clock intent scope,
          grantMatches svc.toTrustServices reads clock intent scope t.policy current.1
            = .ok false := by
    intro row hrow current hcurrent hid reads clock intent scope
    have hmem : row ∈ s.store.records.capabilityGrants :=
      Relational.Table.mem_def.mpr (List.mem_of_mem_filter hrow)
    obtain ⟨kept, hkept, hevolves⟩ := hstore.grants row hmem
    have hsame : kept.1.grantId = row.1.grantId :=
      hevolves.field CapabilityGrant.grantId fun _ => rfl
    obtain rfl : kept = current :=
      Relational.Table.eq_of_clash hkept hcurrent (.inl (hsame.trans hid.symm))
    have hproject : kept.1.projectId = projectId :=
      (hevolves.field CapabilityGrant.projectId fun _ => rfl).trans (hreset.named row hrow)
    have hinstant : kept.1.issuedAt = row.1.issuedAt :=
      hevolves.field CapabilityGrant.issuedAt fun _ => rfl
    refine grantMatches_of_cutOff (cutOff_of_cutoff? (hproject.symm ▸ hlater) ?_)
    rw [hinstant]
    exact (hissued row hrow).trans hle
  have hrules : ∀ rule ∈ s.policy.rules, rule.scope.projectId = projectId →
      ∀ current ∈ t.policy.rules, current.ruleId = rule.ruleId →
        ∀ reads now, ruleIsActive reads now current = .ok false := by
    intro rule hrule hown current hcurrent hid reads now
    obtain ⟨cleared, hcleared, hsame, hrevoked⟩ := hreset.rules rule hrule hown
    obtain ⟨kept, hkept, hevolves⟩ := hpolicy.rules cleared hcleared
    have hunique := t.valid.2.2.2.2.2.2.1
    obtain rfl : kept = current := List.inj_on_of_nodup_map hunique hkept hcurrent
      (hevolves.ruleId.trans (hsame.trans hid.symm))
    refine ruleIsActive_of_revoked ?_
    rw [hevolves.revoked hrevoked]
    exact hrevoked
  exact
    { cutoff := ⟨later, hlater, fun instant hinstant => (hafter instant hinstant).trans_le hle,
        fun row hrow => (hissued row hrow).trans hle⟩
      grants := hgrants
      rules := hrules
      decisions := by
        intro reads clock intent task sandbox d hreads hd hallow
        obtain ⟨ctx, htrust, hgrant, hrule⟩ := evaluate_named hd hallow
        have hctx : ctx.policy = t.policy :=
          Except.ok.inj (htrust.symm.trans hreads.trust)
        constructor
        · intro row hrow hnamed
          obtain ⟨grants, grant, hlisted, hmem, hid, hmatches⟩ := hgrant row.1.grantId hnamed
          rw [hreads.grants] at hlisted
          obtain ⟨current, hcurrent, rfl⟩ := listGrants_ok hlisted grant hmem
          rw [hctx, hgrants row hrow current hcurrent hid] at hmatches
          exact Bool.noConfusion (Except.ok.inj hmatches)
        · intro rule hmem hown hnamed
          obtain ⟨current, hcurrent, hid, now, hactive⟩ := hrule rule.ruleId hnamed
          rw [hctx] at hcurrent
          rw [hrules rule hmem hown current hcurrent hid] at hactive
          exact Bool.noConfusion (Except.ok.inj hactive) }

/-- A call of `reset` on a project. -/
def resetCall (project : Project) (actor : String) (now : Timestamp)
    (revokedAt : String → Timestamp) (fault : Option SaveFault) : PolicyInput :=
  .call (.reset (.ok project) actor now revokedAt) fault

/-- Once a reset is in the policy file, nothing brings back what the project had before it, and
cutoffs never decrease. -/
theorem reset_permanent (svc : PolicyServices) (s : PolicyState svc) (project : Project)
    (actor : String) (now : Timestamp) (revokedAt : String → Timestamp) (fault : Option SaveFault)
    (hcommitted : s.policy.revision < ((policyMachine svc).next s
      (resetCall project actor now revokedAt fault)).policy.revision)
    (inputs later : List PolicyInput) :
    Forgets s ((policyMachine svc).run s (resetCall project actor now revokedAt fault :: inputs))
        project.projectId
      ∧ ∀ projectId, ∀ instant ∈ ((policyMachine svc).run s inputs).policy.cutoff? projectId,
        ∃ cutoff ∈ ((policyMachine svc).run s (inputs ++ later)).policy.cutoff? projectId,
          instant ≤ cutoff := by
  constructor
  · rcases next_policy s (.reset (.ok project) actor now revokedAt) fault with
      hsame | ⟨proposed, hpropose, hpolicy, -⟩
    · rw [resetCall, hsame] at hcommitted
      exact absurd hcommitted (lt_irrefl _)
    · obtain ⟨published, hpublished, hsome⟩ := bind_ok.mp hpropose
      cases hsome
      refine forgets_of_reset (reset_ok hpublished) ?_ (storeEvolves_run s _)
      have hgrows := policyGrows_run
        ((policyMachine svc).next s (resetCall project actor now revokedAt fault)) inputs
      rw [resetCall, hpolicy] at hgrows
      exact ⟨hgrows.cutoff, hgrows.rules⟩
  · rw [Machine.run_append]
    exact (policyGrows_run ((policyMachine svc).run s inputs) later).cutoff

end Runs

/-! ### A reset of the sample project -/

/-- The services of the broker, and no secret in any policy. -/
def samplePolicyServices : PolicyServices where
  toTrustServices := sampleTrustServices
  policyHasSecret := fun _ => false

/-- The sample project after its user has approved `perm_1`, with an empty policy. -/
def approvedState : PolicyState samplePolicyServices where
  policy := {}
  valid := by decide
  store := (storeMachine sampleServices).next pausedStore
    ⟨.resolveApproval "perm_1" { approve := true }, sampleAmbient 1 "grant_1"⟩

theorem reset_permanent_approvedState :
    (projectGrantRows approvedState.store.records "prj_1").map (fun row => row.1.grantId)
        = ["grant_1"]
      ∧ Forgets approvedState ((policyMachine samplePolicyServices).run approvedState
          [resetCall sampleProject "user" 0 (fun _ => 0) none,
            .call (.configure (.ok sampleProject) .safe none "user" none) none]) "prj_1" :=
  ⟨by decide, (reset_permanent samplePolicyServices approvedState sampleProject "user" 0
    (fun _ => 0) none (by decide)
    [.call (.configure (.ok sampleProject) .safe none "user" none) none] []).1⟩

end AgentFleet
