import AgentFleet.Domain.FleetPlan
import AgentFleet.Domain.Trust

/-! # The baseline permission broker

The fixed ceiling under which every other permission stands: which role may do what, at which
stage, on which resource and with which parameters.  `baseline_cases` lists what it lets through,
and what is known of an intent in each case.

An object is kept sorted by key, so the set of its keys is compared as the list of them. -/

namespace AgentFleet

/-- `TaskSpec` with its reviewed commands and its configuration. -/
structure ReviewedTask extends TaskSpec where
  configSnapshotSha256 : Sha256
  verificationCommands : List CommandSpec := []
deriving DecidableEq

/-! ### Parameters -/

/-- A string parameter. -/
def textField? (parameters : JsonObject) (key : String) : Option String :=
  match JsonValue.field? parameters key with
  | some (.str text) => some text
  | _ => none

/-- `type(parameters.get(key)) is int`. -/
def isIntField (parameters : JsonObject) (key : String) : Bool :=
  match JsonValue.field? parameters key with
  | some (.int _) => true
  | _ => false

/-- `_is_sha256`, of a string. -/
def isSha256Text (text : String) : Prop :=
  text.toList.length = 64 ∧ text.toList.all isHexDigit = true
deriving Decidable

/-- The keys of an object. -/
def keysOf (parameters : JsonObject) : List String := parameters.map Prod.fst

/-- `parameters_valid`. -/
def mutationParametersValid (intent : ToolIntent) : Prop :=
  let parameters := intent.parameters
  (intent.action = "workspace.write_file"
      ∧ keysOf parameters = ["content"]
      ∧ textField? parameters "content" ≠ none)
    ∨ (intent.action = "workspace.apply_edit"
      ∧ keysOf parameters = ["expected_matches", "expected_sha256", "new", "old"]
      ∧ (∃ digest ∈ textField? parameters "expected_sha256", isSha256Text digest)
      ∧ (∃ old ∈ textField? parameters "old", old ≠ "")
      ∧ textField? parameters "new" ≠ none
      ∧ isIntField parameters "expected_matches" = true)
    ∨ (intent.action = "workspace.delete_path"
      ∧ keysOf parameters = ["expected_sha256"]
      ∧ ∃ digest ∈ textField? parameters "expected_sha256", isSha256Text digest)
deriving Decidable

/-! ### The broker -/

/-- `_task_command`. -/
def taskCommand (task : ReviewedTask) (commandId sandboxProvider : String) : Option CommandSpec :=
  match task.verificationCommands.find? fun command => command.commandId = commandId with
  | some command => some command
  | none =>
      if sandboxProvider = "fake" ∧ task.verificationCommands = []
          ∧ commandId = "offline-canary" then
        some
          { commandId := "offline-canary"
            executable := "python"
            argv := ["-m", "pytest", "-q"] }
      else none

/-- `_role_stage_allowed`. -/
def roleStageAllowed (role : String) (stage : WorkflowStage) : Prop :=
  (role = "engineer" ∧ (stage = .implementing ∨ stage = .repairing))
    ∨ (role = "verifier" ∧ stage = .verifying)
    ∨ ((role = "researcher" ∨ role = "architect") ∧ stage = .implementing)
deriving Decidable

/-- `_default_deny`. -/
def defaultDeny : PermissionDecision where
  outcome := .deny
  decisionCode := "PHASE1_DEFAULT_DENY"
  explanation := "The action is outside the Phase 1.5 role, stage, resource, task, or sandbox "
    ++ "boundary."
  isProtected := true

section Broker

variable (svc : TrustServices) (intent : ToolIntent) (task : ReviewedTask)
  (sandbox : SandboxCapabilities) (role : String)

/-- `_path_in_task_scope`. -/
def pathInTaskScope (path : String) : Bool :=
  pathIsWithin svc.casefold path task.allowedPaths task.forbiddenPaths

/-- The intent changes the candidate workspace. -/
def mutatesWorkspace : Prop :=
  intent.action ∈ ["workspace.write_file", "workspace.apply_edit", "workspace.delete_path"]
    ∧ role = "engineer"
    ∧ (intent.stage = .implementing ∨ intent.stage = .repairing)
    ∧ task.changeKind = .codeChange
    ∧ intent.resource.kind = "workspace_path"
    ∧ pathInTaskScope svc task intent.resource.identifier = true
    ∧ intent.sideEffect = true
deriving Decidable

/-- The intent observes a workspace. -/
def observesWorkspace : Prop :=
  intent.action ∈ ["repo.list_files", "repo.read_file", "repo.search_text", "workspace.get_diff"]
    ∧ role ∈ ["engineer", "verifier", "researcher", "architect"]
    ∧ roleStageAllowed role intent.stage
    ∧ intent.sideEffect = false
deriving Decidable

/-- `valid`, for an observation. -/
def observationValid : Prop :=
  if intent.action = "repo.list_files" ∨ intent.action = "workspace.get_diff" then
    intent.resource = workspaceView ∧ intent.parameters = []
  else if intent.action = "repo.search_text" then
    intent.resource = workspaceView
      ∧ keysOf intent.parameters = ["query"]
      ∧ ∃ query ∈ textField? intent.parameters "query", query ≠ ""
  else
    intent.resource.kind = "workspace_path"
      ∧ intent.parameters = []
      ∧ pathInTaskScope svc task intent.resource.identifier = true
deriving Decidable

/-- The intent runs a command. -/
def runsCommand : Prop :=
  intent.action = "command.run"
    ∧ (role = "engineer" ∨ role = "verifier")
    ∧ intent.resource.kind = "project_command"
    ∧ task.changeKind = .codeChange
    ∧ intent.sideEffect = true
    ∧ ((role = "engineer" ∧ (intent.stage = .implementing ∨ intent.stage = .repairing))
      ∨ (role = "verifier" ∧ intent.stage = .verifying))
deriving Decidable

/-- `network_allowed`: a network beyond `none` needs the unsafe host. -/
def networkAllowed (networkMode : Option String) : Prop :=
  if networkMode = some "none" then
    SandboxNetworkMode.none ∈ sandbox.supportedNetworkModes
  else
    networkMode = some "approved-unrestricted"
      ∧ sandbox.securityLevel = .unsafeHost
      ∧ sandbox.provider = "local-unsafe"
deriving Decidable

/-- The parameters are those of the command, and the network is allowed. -/
def commandValid (command : CommandSpec) : Prop :=
  JsonValue.pyEqFields intent.parameters (commandParameters svc.toServices command
      ((JsonValue.field? intent.parameters "network_mode").getD .null)) = true
    ∧ command.networkRequirement = .none
    ∧ networkAllowed sandbox (textField? intent.parameters "network_mode")
deriving Decidable

/-- The intent is the scripted side effect of the fixture. -/
def recordsSideEffect : Prop :=
  intent.action = "fixture.record_side_effect"
    ∧ role = "engineer"
    ∧ intent.resource = approvalProof
    ∧ JsonValue.pyEqFields intent.parameters approvalParameters = true
    ∧ sandbox.provider = "fake"
    ∧ sandbox.executesCode = false
    ∧ task.changeKind = .codeChange
    ∧ (intent.stage = .implementing ∨ intent.stage = .repairing)
    ∧ intent.sideEffect = true
deriving Decidable

/-- The role that an intent acts as. -/
def actingRole (executionKind : Option AgentRole) : String :=
  match executionKind with
  | none => intent.principalRole
  | some kind => kind.value

/-- `BaselinePermissionBroker.evaluate`. -/
def baselineEvaluate (executionKind : Option AgentRole) : PermissionDecision :=
  let role := actingRole intent executionKind
  if intent.runId ≠ task.runId ∨ intent.taskId ≠ task.taskId ∨ intent.workflow ≠ task.workflow then
    defaultDeny
  else if mutatesWorkspace svc intent task role then
    if mutationParametersValid intent then
      { outcome := .allow
        decisionCode := "PHASE3_BOUNDED_CANDIDATE_MUTATION"
        explanation := "Bounded candidate workspace mutation is allowed." }
    else defaultDeny
  else if observesWorkspace intent role then
    if observationValid svc intent task then
      { outcome := .allow
        decisionCode := "PHASE3_BOUNDED_WORKSPACE_READ"
        explanation := "Bounded workspace observation is allowed." }
    else defaultDeny
  else if runsCommand intent task role then
    match taskCommand task intent.resource.identifier sandbox.provider with
    | none => defaultDeny
    | some command =>
        if commandValid svc intent sandbox command then
          { outcome := .allow
            decisionCode := "PHASE3_EXACT_REVIEWED_COMMAND"
            explanation := "Exact TaskSpec-bound command is allowed through the selected sandbox." }
        else defaultDeny
  else if recordsSideEffect intent task sandbox role then
    { outcome := .requireApproval
      decisionCode := "PHASE1_APPROVAL_PROOF"
      explanation := "The scripted logical side effect requires a one-use user grant." }
  else defaultDeny

/-! ### What the broker lets through -/

/-- The kinds of intents that the broker does not deny. -/
inductive BaselineCase : Prop where
  | mutation (acts : mutatesWorkspace svc intent task role) (valid : mutationParametersValid intent)
  | observation (acts : observesWorkspace intent role) (valid : observationValid svc intent task)
  | command (acts : runsCommand intent task role) (command : CommandSpec)
      (reviewed : taskCommand task intent.resource.identifier sandbox.provider = some command)
      (valid : commandValid svc intent sandbox command)
  | sideEffect (acts : recordsSideEffect intent task sandbox role)

variable {svc intent task sandbox}

theorem baseline_cases {executionKind : Option AgentRole}
    (h : (baselineEvaluate svc intent task sandbox executionKind).outcome ≠ .deny) :
    (intent.runId = task.runId ∧ intent.taskId = task.taskId ∧ intent.workflow = task.workflow)
      ∧ BaselineCase svc intent task sandbox (actingRole intent executionKind) := by
  unfold baselineEvaluate at h
  dsimp only at h
  split_ifs at h with hother hmutates hparameters hobserves hobservation hruns hrecords
  · exact absurd rfl h
  · rw [not_or, not_or, not_not, not_not, not_not] at hother
    exact ⟨hother, .mutation hmutates hparameters⟩
  · exact absurd rfl h
  · rw [not_or, not_or, not_not, not_not, not_not] at hother
    exact ⟨hother, .observation hobserves hobservation⟩
  · exact absurd rfl h
  · rw [not_or, not_or, not_not, not_not, not_not] at hother
    refine ⟨hother, ?_⟩
    cases hcommand : taskCommand task intent.resource.identifier sandbox.provider with
    | none =>
        rw [hcommand] at h
        exact absurd rfl h
    | some command =>
        rw [hcommand] at h
        dsimp only at h
        split_ifs at h with hvalid
        · exact .command hruns command hcommand hvalid
        · exact absurd rfl h
  · rw [not_or, not_or, not_not, not_not, not_not] at hother
    exact ⟨hother, .sideEffect hrecords⟩
  · exact absurd rfl h

end Broker

end AgentFleet
