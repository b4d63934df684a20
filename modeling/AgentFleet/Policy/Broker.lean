import AgentFleet.Lib.Checks
import AgentFleet.Policy.Baseline

/-! # The policy permission broker

`evaluate` puts the authorities over an intent one after the other: the protected actions, the
baseline broker, the trusted context with the user's path ceiling, the requests of the project,
the user's deny rules, the grants, the user's allow rules, and last the trust mode.

An evaluation reads one state of the stores; the configuration files, which no lock holds, are
read twice.  The clock is read at many places, so an instant is given for each. -/

namespace AgentFleet

open Checks

/-! ### Records -/

/-- `Project`: its identity, and whether its permission scope has to be registered. -/
structure Project where
  projectId : String
  identityHash : Sha256
  permissionScopeRequired : Bool := false
deriving DecidableEq

/-- `Run` with its sandbox; of the sandbox configuration, the network mode. -/
structure SandboxedRun extends Run where
  sandboxName : SandboxName
  sandboxCapabilitiesSnapshot : Option SandboxCapabilities := none
  sandboxNetworkMode : Option SandboxNetworkMode := none
deriving DecidableEq

/-- `AgentInstance` with the kind it is bound to. -/
structure BoundAgent extends AgentInstance where
  executionKind : Option AgentRole := none

/-- `ResolvedRoleTemplate`: what the broker reads of it. -/
structure ResolvedRoleTemplate where
  roleId : String
  executionKind : AgentRole
  allowedTools : List String
  allowedPaths : Option (List String) := none
  delegationAllowed : Bool
deriving DecidableEq

/-- `RequestedPermission`. -/
structure RequestedPermission where
  principalRole : String
  action : String
  resource : String
deriving DecidableEq

/-- `FleetSpec`: its runtime adapter, the tools of its workflows and the requested permissions. -/
structure FleetSpec where
  adapter : String
  workflows : List (String × Option (List String))
  requestedPermissions : List RequestedPermission
deriving DecidableEq

/-- What one reading of the configuration files yields. -/
structure LoadedConfig where
  spec : FleetSpec
  snapshotSha256 : Sha256
  roleTemplates : List ResolvedRoleTemplate

/-- `role_templates(spec, snapshot).get(role)`. -/
def LoadedConfig.template? (config : LoadedConfig) (role : String) :
    Option ResolvedRoleTemplate :=
  config.roleTemplates.find? fun template => template.roleId = role

/-- What an evaluation returns. -/
abbrev PolicyResult := Except StoreError

/-- What an evaluation reads. -/
structure PolicyReads where
  getRun : String → PolicyResult SandboxedRun
  getProject : String → PolicyResult Project
  getTask : String → PolicyResult ReviewedTask
  getAgentInstance : String → PolicyResult BoundAgent
  getApproval : String → PolicyResult ApprovalRequest
  listGrants : String → PolicyResult (List CapabilityGrant)
  loadTrust : PolicyResult UserTrustPolicy
  loadSnapshot : ℕ → Project → PolicyResult LoadedConfig

/-- The instants that an evaluation reads from its clock. -/
structure PolicyClock where
  ruleIsActive : String → Timestamp
  ruleMatches : String → Timestamp
  grantMatches : String → Timestamp
  sourceIsActive : String → String → Timestamp

/-! ### Errors and decisions -/

/-- `_policy_error`. -/
def policyError (message : String) : FleetError where
  code := .approvalInvalid
  message := message
  remediation := "Review project permissions and the exact request before retrying."

/-- `if c: raise _policy_error(message)`. -/
def policyCheck (c : Prop) [Decidable c] (message : String) : PolicyResult Unit :=
  if c then .error (.fleet (policyError message)) else .ok ()

/-- `_deny`. -/
def policyDeny (code message : String) : PermissionDecision where
  outcome := .deny
  decisionCode := code
  explanation := message
  isProtected := true

/-- Constructing a `PermissionDecision`, which names at most 128 rules. -/
def checkedDecision (decision : PermissionDecision) : PolicyResult PermissionDecision :=
  if decision.matchedRuleIds.length ≤ 128 then .ok decision else .error .validation

@[simp] theorem policyCheck_ok {c : Prop} [Decidable c] {message : String} {u : Unit} :
    policyCheck c message = .ok u ↔ ¬ c := by
  unfold policyCheck
  by_cases h : c
  · rw [if_pos h]
    exact iff_of_false (fun heq => by cases heq) (not_not_intro h)
  · rw [if_neg h]
    exact iff_of_true rfl h

theorem checkedDecision_ok {decision d : PermissionDecision}
    (h : checkedDecision decision = .ok d) :
    d = decision ∧ decision.matchedRuleIds.length ≤ 128 := by
  unfold checkedDecision at h
  split_ifs at h with hbound
  cases h
  exact ⟨rfl, hbound⟩

/-! ### The user's ceiling -/

/-- `_within_user_paths`. -/
def withinUserPaths (casefold : String → String) (path : String) (scopes : List String) : Bool :=
  let parts := foldPath casefold (PurePosixPath.parse path)
  if parts = [] ∨ parts.head? = some ".git" ∨ parts.head? = some ".fleet" ∨ ".." ∈ parts then false
  else scopes.any fun scope =>
    scope = "." || startsWith parts (foldPath casefold (PurePosixPath.parse scope))

/-- `settings`. -/
def trustSettings (project : Project) (policy : UserTrustPolicy) :
    PolicyResult ProjectTrustSettings :=
  match policy.settings? project.projectId with
  | some settings =>
      if settings.repositoryIdentity ≠ project.identityHash then
        .error (.fleet (policyError "Stored project trust belongs to a different repository."))
      else .ok settings
  | none =>
      if project.permissionScopeRequired then
        .error (.fleet (policyError
          "This project has no completed user-owned scope registration."))
      else .ok
        { projectId := project.projectId
          repositoryIdentity := project.identityHash
          trustMode := .balanced
          allowedPaths := ["."] }

/-! ### The trusted context -/

/-- The keys whose text a scope holds as a digest. -/
def digestedKeys : List String := ["content", "old", "new"]

/-- A parameter as the scope holds it. -/
def scopeParameter (svc : TrustServices) (entry : String × JsonValue) : String × JsonValue :=
  match entry.2 with
  | .str text =>
      if entry.1 ∈ digestedKeys then (entry.1 ++ "_sha256", .str (svc.textSha256 text).hex)
      else entry
  | _ => entry

/-- The parameters as the scope holds them. -/
def scopeParameters (svc : TrustServices) (parameters : JsonObject) : JsonObject :=
  JsonValue.object (parameters.map (scopeParameter svc))

/-- `_validated_scope`. -/
def validatedScope (svc : TrustServices) (scope : ExactPermissionScope) :
    PolicyResult ExactPermissionScope :=
  if scope.validates svc then .ok scope
  else .error (.fleet
    { code := .commandDenied
      message := "The requested action has no valid exact permission scope."
      remediation := "Use only supported bounded tools and reviewed non-privileged commands." })

/-- What `context` returns. -/
structure PolicyContext where
  project : Project
  config : LoadedConfig
  settings : ProjectTrustSettings
  policy : UserTrustPolicy
  scope : ExactPermissionScope

/-- The role names of `AgentRole`. -/
def isBuiltInRole (role : String) : Prop := (AgentRole.ofText? role).isSome = true
deriving Decidable

section Evaluation

variable (svc : TrustServices) (reads : PolicyReads) (clock : PolicyClock) (intent : ToolIntent)
  (task : ReviewedTask) (sandbox : SandboxCapabilities)

/-- The scope that an intent asks for. -/
def proposedScope (run : SandboxedRun) (project : Project) (role : ResolvedRoleTemplate)
    (networkMode : SandboxNetworkMode) : ExactPermissionScope where
  projectId := project.projectId
  repositoryIdentity := project.identityHash
  principalRole := intent.principalRole
  workflow := intent.workflow
  stage := intent.stage
  action := intent.action
  resource := intent.resource
  parameters := scopeParameters svc intent.parameters
  command :=
    if intent.action = "command.run" then
      taskCommand task intent.resource.identifier sandbox.provider
    else none
  workspaceKind := if role.executionKind = .verifier then .verification else .candidate
  sandboxProvider := run.sandboxName
  sandboxSecurityLevel := sandbox.securityLevel
  networkMode := networkMode

/-- The run is active, and it is the intent's, the task's and the sandbox's. -/
def activeFor (run : SandboxedRun) : Prop :=
  run.stage = some intent.stage
    ∧ run.configSnapshotHash = some task.configSnapshotSha256
    ∧ run.sandboxCapabilitiesSnapshot = some sandbox
    ∧ (run.status = .running ∨ run.status = .pausedForApproval)
deriving Decidable

/-- The agent of a custom principal is bound to the role, and the role may do the task. -/
def customPrincipalBound (run : SandboxedRun) (role : ResolvedRoleTemplate) (agent : BoundAgent) :
    Prop :=
  agent.role = intent.principalRole
    ∧ agent.runId = run.runId
    ∧ agent.taskId = some task.taskId
    ∧ agent.executionKind = some role.executionKind
    ∧ role.delegationAllowed = true
    ∧ ∀ paths ∈ role.allowedPaths, ∀ path ∈ task.allowedPaths,
        pathIsWithin svc.casefold path paths = true

instance (run : SandboxedRun) (role : ResolvedRoleTemplate) (agent : BoundAgent) :
    Decidable (customPrincipalBound svc intent task run role agent) := by
  unfold customPrincipalBound
  infer_instance

/-- The check on a custom principal. -/
def checkPrincipal (run : SandboxedRun) (role : ResolvedRoleTemplate) : PolicyResult Unit :=
  if isBuiltInRole intent.principalRole then .ok ()
  else do
    let agent ← reads.getAgentInstance intent.agentInstanceId
    policyCheck (¬ customPrincipalBound svc intent task run role agent)
      "The custom principal does not match its bound role ceiling."

/-- A path of the task is outside the user's ceiling. -/
def exceedsCeiling (settings : ProjectTrustSettings) : Prop :=
  ∃ path ∈ task.allowedPaths, withinUserPaths svc.casefold path settings.allowedPaths = false
deriving Decidable

/-- The error of a run that is not the intent's. -/
def inactiveContext : String :=
  "The tool intent no longer matches the active trusted context."

/-- The run, its project, the configuration and the role, before the user's policy is read. -/
def trustedRun : PolicyResult (SandboxedRun × SandboxNetworkMode × Project × LoadedConfig
    × ResolvedRoleTemplate) := do
  let run ← reads.getRun intent.runId
  let project ← reads.getProject run.projectId
  policyCheck (run.taskId ≠ some task.taskId) inactiveContext
  let stored ← reads.getTask task.taskId
  policyCheck (stored ≠ task ∨ ¬ activeFor intent task sandbox run) inactiveContext
  match run.sandboxNetworkMode with
  | none => .error (.fleet (policyError inactiveContext))
  | some networkMode =>
      let config ← reads.loadSnapshot 0 project
      policyCheck (run.configSnapshotHash ≠ some config.snapshotSha256)
        "The reviewed configuration changed before tool authorization."
      match config.template? intent.principalRole with
      | none => .error (.fleet (policyError
          "The tool principal has no reviewed executable role template."))
      | some role =>
          checkPrincipal svc reads intent task run role
          pure (run, networkMode, project, config, role)

/-- `context`. -/
def context : PolicyResult PolicyContext := do
  let (run, networkMode, project, config, role) ← trustedRun svc reads intent task sandbox
  let policy ← reads.loadTrust
  let settings ← trustSettings project policy
  policyCheck (exceedsCeiling svc task settings)
    "The task exceeds the current user-owned path ceiling."
  let scope ← validatedScope svc
    (proposedScope svc intent task sandbox run project role networkMode)
  policyCheck (svc.redactor.containsSecretData (.obj scope.modelDump) = true)
    "A registered secret is present in the proposed permission scope."
  pure { project, config, settings, policy, scope }

/-! ### The requests of the project -/

/-- `_LEGACY_REQUESTS`. -/
def legacyRequests : List RequestedPermission :=
  [⟨"engineer", "workspace.write_file", "workspace://candidate/**"⟩,
    ⟨"engineer", "command.run", "command://declared-fake-command"⟩,
    ⟨"verifier", "command.run", "command://declared-fake-command"⟩]

/-- `requests == _LEGACY_REQUESTS`. -/
def isLegacy (requests : List RequestedPermission) : Prop :=
  requests ⊆ legacyRequests ∧ legacyRequests ⊆ requests
deriving Decidable

/-- What a request for a prefix of a workspace covers. -/
def suffixMatches (suffix : String) : Bool :=
  if suffix = "**" then true
  else if intent.resource.kind ≠ "workspace_path" then false
  else match textBefore? suffix "/**" with
    | some scope => withinUserPaths svc.casefold intent.resource.identifier [scope]
    | none => suffix = intent.resource.identifier

/-- The loop over the prefixes: the first that the request has decides. -/
def prefixMatches (request : String) : List String → Bool
  | [] => false
  | head :: rest =>
      match textAfter? request head with
      | some suffix => suffixMatches svc intent suffix
      | none => prefixMatches request rest

/-- `_requested_resource_matches`. -/
def requestedResourceMatches (request : String) (executionKind : AgentRole) : Bool :=
  if intent.action = "fixture.record_side_effect" then request = "fixture://approval-proof"
  else if intent.action = "command.run" then
    request = "command://declared-project-command"
      || request = "command://" ++ intent.resource.identifier
  else
    let workspace := if executionKind = .verifier then "verification" else "candidate"
    prefixMatches svc intent request
      (("workspace://" ++ workspace ++ "/") ::
        (if intent.sideEffect then [] else ["repo://current/"]))

/-- `_requested_by_organization`, for a role template. -/
def requestedByOrganization (spec : FleetSpec) (role : ResolvedRoleTemplate) : Bool :=
  let requests := spec.requestedPermissions
  match spec.workflows.lookup intent.workflow with
  | none => false
  | some allowedTools =>
      if ∃ tools ∈ allowedTools, intent.action ∉ tools then false
      else if intent.action = "fixture.record_side_effect" ∧ spec.adapter ≠ "fake" then false
      else if intent.action = "fixture.record_side_effect" ∧ isLegacy requests
        ∧ "command.run" ∈ role.allowedTools then true
      else if intent.action ∉ role.allowedTools then false
      else if requests.Nodup ∧ isLegacy requests then true
      else requests.any fun request =>
        request.principalRole = role.executionKind.value
          && request.action = intent.action
          && requestedResourceMatches svc intent request.resource role.executionKind

/-! ### Rules and grants -/

/-- `rule_is_active`, with the clock at an instant. -/
def ruleIsActive (now : Timestamp) (rule : UserTrustRule) : PolicyResult Bool :=
  if rule.revokedAt ≠ none ∨ (∃ expiry ∈ rule.expiresAt, expiry ≤ now) then .ok false
  else match rule.sourceApprovalRequestId with
    | none => .ok true
    | some requestId => do
        let request ← reads.getApproval requestId
        pure (request.status = .approved
          && request.resolutionChoice = some .allowAlways
          && request.sourceRuleId = some rule.ruleId
          && request.authorizationScope.any fun scope =>
            JsonValue.pyEqFields scope rule.scope.modelDump)

/-- The test of a rule against a scope. -/
def ruleApplies (scope : ExactPermissionScope) (rule : UserTrustRule) : PolicyResult Bool := do
  let active ← ruleIsActive reads (clock.ruleIsActive rule.ruleId) rule
  pure (active && ruleMatches rule scope (clock.ruleMatches rule.ruleId))

/-- The rule that a grant came from is active and matches. -/
def sourceApplies (scope : ExactPermissionScope) (grant : CapabilityGrant) (sourceRuleId : String)
    (rule : UserTrustRule) : PolicyResult Bool :=
  if rule.ruleId ≠ sourceRuleId then .ok false
  else do
    let active ← ruleIsActive reads (clock.sourceIsActive grant.grantId rule.ruleId) rule
    pure (active && ruleMatches rule scope (clock.grantMatches grant.grantId))

/-- The rule that a grant came from, if it came from one, stands and applies. -/
def isSourced (scope : ExactPermissionScope) (policy : UserTrustPolicy) (grant : CapabilityGrant) :
    PolicyResult Bool :=
  match grant.sourceRuleId with
  | none => .ok true
  | some sourceRuleId => holds (sourceApplies reads clock scope grant sourceRuleId) policy.rules

/-- The grant was revoked by a reset of its project. -/
def cutOff (policy : UserTrustPolicy) (projectId : String) (grant : CapabilityGrant) : Prop :=
  ∃ settings ∈ policy.settings? projectId, ∃ cutoff ∈ settings.grantsRevokedBefore,
    grant.issuedAt ≤ cutoff
deriving Decidable

/-- The grant is alive and for the run, the role and the resource of the intent. -/
def grantAvailable (scope : ExactPermissionScope) (policy : UserTrustPolicy)
    (grant : CapabilityGrant) : Prop :=
  grant.revokedAt = none
    ∧ (∀ expiry ∈ grant.expiresAt, clock.grantMatches grant.grantId < expiry)
    ∧ grant.remainingUses ≠ some 0
    ∧ grant.projectId = scope.projectId
    ∧ grant.runId = intent.runId
    ∧ grant.taskId = intent.taskId
    ∧ grant.principalRole = intent.principalRole
    ∧ grant.action = intent.action
    ∧ grant.resource = intent.resource
    ∧ ¬ cutOff policy scope.projectId grant
deriving Decidable

/-- The grant is bound to the intent, or to its scope. -/
def grantCovers (scope : ExactPermissionScope) (grant : CapabilityGrant) : Prop :=
  if grant.choice = .allowOnce then
    grant.intentId = intent.intentId
      ∧ grant.agentInstanceId = intent.agentInstanceId
      ∧ grant.intentHash = svc.canonicalJsonHash intent.modelDump
      ∧ (grant.scopeSha256 = none ∨ grant.scopeSha256 = some (scope.scopeSha256 svc))
  else grant.scopeSha256 = some (scope.scopeSha256 svc)
deriving Decidable

/-- `_grant_matches`. -/
def grantMatches (scope : ExactPermissionScope) (policy : UserTrustPolicy)
    (grant : CapabilityGrant) : PolicyResult Bool :=
  if ¬ grantAvailable clock intent scope policy grant then .ok false
  else do
    let sourced ← isSourced reads clock scope policy grant
    pure (sourced && grantCovers svc intent scope grant)

/-! ### The decision -/

/-- `asks`. -/
def asks (settings : ProjectTrustSettings) : Prop :=
  (intent.action = "command.run" ∨ intent.action = "fixture.record_side_effect")
    ∧ (settings.trustMode = .safe
      ∨ intent.action = "fixture.record_side_effect"
      ∨ sandbox.securityLevel = .unsafeHost)
deriving Decidable

/-- A deny rule matches. -/
def denyDecision (scope : ExactPermissionScope) (denied : List UserTrustRule) :
    PermissionDecision where
  outcome := .deny
  decisionCode := "USER_EXACT_DENY"
  explanation := "A user-owned deny rule matches."
  isProtected := true
  matchedRuleIds := denied.map UserTrustRule.ruleId
  effectiveScope := some scope.modelDump

/-- A grant matches. -/
def grantDecision (scope : ExactPermissionScope) (grant : CapabilityGrant) :
    PermissionDecision where
  outcome := .allow
  decisionCode := "EXACT_CAPABILITY_GRANT"
  explanation := "An active exact capability matches."
  grantId := some grant.grantId
  sourceRuleId := grant.sourceRuleId
  matchedRuleIds := [grant.grantId]
  effectiveScope := some scope.modelDump

/-- Allow rules match. -/
def trustDecision (scope : ExactPermissionScope) (allowed : List UserTrustRule) :
    PermissionDecision where
  outcome := .allow
  decisionCode := "EXACT_PROJECT_TRUST"
  explanation := "An active exact project rule matches."
  sourceRuleId := allowed.head?.map UserTrustRule.ruleId
  matchedRuleIds := allowed.map UserTrustRule.ruleId
  effectiveScope := some scope.modelDump

/-- The user has to be asked. -/
def askDecision (scope : ExactPermissionScope) : PermissionDecision where
  outcome := .requireApproval
  decisionCode := "EXACT_SCOPE_APPROVAL_REQUIRED"
  explanation := "The exact command, role, stage, project and sandbox scope requires user approval."
  effectiveScope := some scope.modelDump
  availableChoices := [.deny, .allowOnce, .allowRun, .allowAlways]
  risk := "command_execution"

/-- The trust mode decides, as the baseline does. -/
def modeDecision (settings : ProjectTrustSettings) (scope : ExactPermissionScope)
    (ceiling : PermissionDecision) : PermissionDecision :=
  { ceiling with
    effectiveScope := some scope.modelDump
    matchedRuleIds := ["baseline:" ++ settings.trustMode.value] }

/-- Rules, grants and the trust mode, under the ceilings. -/
def authorize (ctx : PolicyContext) (ceiling : PermissionDecision) :
    PolicyResult PermissionDecision := do
  let matched ← select (ruleApplies reads clock ctx.scope) ctx.policy.rules
  let denied := matched.filter fun rule => rule.effect = .deny
  if denied ≠ [] then checkedDecision (denyDecision ctx.scope denied)
  else
    let grants ← reads.listGrants intent.runId
    match ← first? (grantMatches svc reads clock intent ctx.scope ctx.policy) grants with
    | some grant => checkedDecision (grantDecision ctx.scope grant)
    | none =>
        let allowed := matched.filter fun rule => rule.effect = .allow
        if allowed ≠ [] then checkedDecision (trustDecision ctx.scope allowed)
        else if asks intent sandbox ctx.settings then checkedDecision (askDecision ctx.scope)
        else .ok (modeDecision ctx.settings ctx.scope ceiling)

/-- The role, the baseline and the project's requests, under the trusted context. -/
def evaluateIn (ctx : PolicyContext) : PolicyResult PermissionDecision := do
  let current ← reads.loadSnapshot 1 ctx.project
  policyCheck (current.spec ≠ ctx.config.spec
      ∨ current.snapshotSha256 ≠ task.configSnapshotSha256)
    "The role snapshot changed during permission evaluation."
  match current.template? intent.principalRole with
  | none => .ok (policyDeny "ORGANIZATION_PERMISSION_CEILING" "The role is not declared.")
  | some role =>
      let ceiling := baselineEvaluate svc intent task sandbox (some role.executionKind)
      if ceiling.outcome = .deny then .ok ceiling
      else if requestedByOrganization svc intent ctx.config.spec role = false then
        .ok (policyDeny "ORGANIZATION_PERMISSION_CEILING"
          "The role or workflow does not request this tool and resource.")
      else authorize svc reads clock intent sandbox ctx ceiling

/-- `PolicyPermissionBroker.evaluate`. -/
def evaluate : PolicyResult PermissionDecision :=
  let ceiling := baselineEvaluate svc intent task sandbox none
  if isProtectedAction intent.action then
    .ok (policyDeny "SYSTEM_HARD_DENY" "This protected action cannot be approved.")
  else if isBuiltInRole intent.principalRole ∧ ceiling.outcome = .deny then .ok ceiling
  else do
    let ctx ← context svc reads intent task sandbox
    evaluateIn svc reads clock intent task sandbox ctx

end Evaluation

end AgentFleet
