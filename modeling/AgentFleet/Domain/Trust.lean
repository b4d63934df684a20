import AgentFleet.Domain.Paths
import AgentFleet.Domain.Sandbox
import AgentFleet.Domain.Texts
import Mathlib.Algebra.Group.Nat.Defs

/-! # User-owned permission scopes

An `ExactPermissionScope` is all that a reusable permission is bound to: who acts, where, with
which parameters and in which sandbox.  A `UserTrustRule` allows or denies one scope; a
`UserTrustPolicy` holds the rules of the user beside the settings of each project.

The validators of these records take the digest and the case folding from `TrustServices`, so they
are predicates; a policy that is loaded or published has passed `UserTrustPolicy.validates`. -/

namespace AgentFleet

/-- What scopes and policies are checked with: case folding, the digest of a text, and the length
of the JSON text of an object, beside the services of the store. -/
structure TrustServices extends Services where
  casefold : String → String
  textSha256 : String → Sha256
  jsonBytes : JsonObject → ℕ

/-! ### Commands -/

/-- `SandboxName`. -/
inductive SandboxName where
  | fake
  | docker
  | localUnsafe
deriving DecidableEq, Repr

/-- The text of a `SandboxName`. -/
def SandboxName.value : SandboxName → String
  | .fake => "fake"
  | .docker => "docker"
  | .localUnsafe => "local-unsafe"

/-- `network_requirement` of a command. -/
inductive NetworkRequirement where
  | none
  | required
deriving DecidableEq, Repr

/-- The text of a `NetworkRequirement`. -/
def NetworkRequirement.value : NetworkRequirement → String
  | .none => "none"
  | .required => "required"

/-- `CommandSpec`.  The environment is kept sorted by name, as the entries of an object are. -/
structure CommandSpec where
  commandId : String
  executable : String
  argv : List String := []
  logicalCwd : String := "."
  environment : List (String × String) := []
  timeoutSeconds : ℕ := 60
  maxOutputBytes : ℕ := 64000
  networkRequirement : NetworkRequirement := .none
deriving DecidableEq

/-- `command.model_dump(mode="json")`. -/
def CommandSpec.modelDump (command : CommandSpec) : JsonValue :=
  .obj (JsonValue.object [
    ("command_id", .str command.commandId),
    ("executable", .str command.executable),
    ("argv", .arr (command.argv.map .str)),
    ("logical_cwd", .str command.logicalCwd),
    ("environment", .obj (JsonValue.object (command.environment.map fun entry =>
      (entry.1, .str entry.2)))),
    ("timeout_seconds", .int command.timeoutSeconds),
    ("max_output_bytes", .int command.maxOutputBytes),
    ("network_requirement", .str command.networkRequirement.value)])

/-! ### Actions and paths -/

/-- `PROTECTED_ACTIONS`. -/
def protectedActions : List String :=
  ["host.sudo", "host.root", "sandbox.disable", "sandbox.privileged",
    "sandbox.mount-docker-socket", "sandbox.mount-host-root", "sandbox.mount-home",
    "sandbox.mount-credentials", "secret.read-raw", "secret.policy-change", "audit.delete",
    "audit.rewrite", "policy.hard-deny-edit", "policy.change-approver", "policy.self-approve",
    "policy.disable-redaction", "policy.raise-global-budget", "production.deploy",
    "production.database-destructive"]

/-- `is_protected_action`. -/
def isProtectedAction (action : String) : Prop :=
  action ∈ protectedActions
    ∨ ∃ family ∈ ["host.", "sandbox.", "secret.", "audit.", "policy.", "production."],
      textStartsWith action family = true
deriving Decidable

/-- `_WORKSPACE_ACTIONS`. -/
def workspaceActions : List String :=
  ["repo.read_file", "workspace.write_file", "workspace.apply_edit", "workspace.delete_path"]

/-- `_VIEW_ACTIONS`. -/
def viewActions : List String := ["repo.list_files", "repo.search_text", "workspace.get_diff"]

/-- `_SUPPORTED_ACTIONS`. -/
def supportedActions : List String :=
  workspaceActions ++ viewActions ++ ["command.run", "fixture.record_side_effect"]

/-- `canonical_trust_path` accepts the path. -/
def canonicalTrustPath (casefold : String → String) (path : String) (allowRoot : Bool := false) :
    Prop :=
  (path = "." ∧ allowRoot = true)
    ∨ ¬ (path = ""
      ∨ 4096 < path.length
      ∨ (PurePosixPath.parse path).parts = []
      ∨ textStartsWith path "/" = true
      ∨ path.toList.any (fun character => character ∈ "\\*?[]\x7b\x7d:".toList
        ∨ character.toNat < 32 ∨ character.toNat = 127)
      ∨ (∃ part ∈ (PurePosixPath.parse path).parts, part = "." ∨ part = "..")
      ∨ (PurePosixPath.parse path).str ≠ path
      ∨ ∃ part ∈ (PurePosixPath.parse path).parts,
        casefold part = ".git" ∨ casefold part = ".fleet")

instance (casefold : String → String) (path : String) (allowRoot : Bool) :
    Decidable (canonicalTrustPath casefold path allowRoot) :=
  inferInstanceAs (Decidable (_ ∨ _))

/-! ### Scopes -/

/-- `ExactPermissionScope`. -/
structure ExactPermissionScope where
  projectId : String
  repositoryIdentity : Sha256
  principalRole : String
  workflow : String
  stage : WorkflowStage
  action : String
  resource : CanonicalResource
  parameters : JsonObject := []
  command : Option CommandSpec := none
  workspaceKind : WorkspaceKind
  sandboxProvider : SandboxName
  sandboxSecurityLevel : SandboxSecurityLevel
  networkMode : SandboxNetworkMode

/-- The view of a whole workspace. -/
def workspaceView : CanonicalResource := ⟨"workspace_view", "."⟩

/-- The resource of the approval fixture. -/
def approvalProof : CanonicalResource := ⟨"fake_side_effect", "fixture://approval-proof"⟩

/-- The parameters that bind a command to its content and its network. -/
def commandParameters (svc : Services) (command : CommandSpec) (networkMode : JsonValue) :
    JsonObject :=
  JsonValue.object [
    ("command_id", .str command.commandId),
    ("command_spec_sha256", .str (svc.canonicalJsonHash command.modelDump).hex),
    ("network_mode", networkMode)]

/-- The parameters of the approval fixture. -/
def approvalParameters : JsonObject := [("record", .str "approved-once")]

/-- The last component of a path. -/
def PurePosixPath.name (path : PurePosixPath) : String := path.tail.getLast?.getD ""

/-- `expected_level`. -/
def SandboxName.expectedLevel : SandboxName → SandboxSecurityLevel
  | .fake => .fake
  | .docker => .isolated
  | .localUnsafe => .unsafeHost

/-- `expected_network`. -/
def SandboxName.expectedNetwork : SandboxName → SandboxNetworkMode
  | .localUnsafe => .approvedUnrestricted
  | _ => .none

namespace ExactPermissionScope

variable (svc : TrustServices) (scope : ExactPermissionScope)

/-- The checks on the scope of a command. -/
def commandBound : Prop :=
  match scope.command with
  | none => False
  | some command =>
      ¬ svc.casefold (PurePosixPath.parse command.executable).name ∈ ["sudo", "doas", "su"]
        ∧ canonicalTrustPath svc.casefold command.logicalCwd true
        ∧ scope.resource = ⟨"project_command", command.commandId⟩
        ∧ JsonValue.pyEqFields scope.parameters
          (commandParameters svc.toServices command (.str scope.networkMode.value)) = true
        ∧ command.networkRequirement = .none

instance : Decidable (scope.commandBound svc) := by
  unfold commandBound
  cases scope.command <;> infer_instance

/-- The checks on the resource and the parameters of each family of actions. -/
def actionBound : Prop :=
  if scope.action ∈ workspaceActions then
    scope.resource.kind = "workspace_path"
      ∧ canonicalTrustPath svc.casefold scope.resource.identifier
  else if scope.action ∈ viewActions then scope.resource = workspaceView
  else if scope.action = "command.run" then scope.commandBound svc
  else scope.resource = approvalProof
    ∧ JsonValue.pyEqFields scope.parameters approvalParameters = true
    ∧ scope.sandboxProvider = .fake
deriving Decidable

/-- What constructing an `ExactPermissionScope` checks; its identifiers come from validated
records. -/
def validates : Prop :=
  scope.parameters.length ≤ 32
    ∧ ¬ isProtectedAction scope.action
    ∧ scope.action ∈ supportedActions
    ∧ scope.principalRole ≠ "cos"
    ∧ scope.sandboxSecurityLevel = scope.sandboxProvider.expectedLevel
    ∧ scope.networkMode = scope.sandboxProvider.expectedNetwork
    ∧ scope.actionBound svc
    ∧ (scope.action ≠ "command.run" → scope.command = none)
    ∧ svc.jsonBytes scope.parameters ≤ 262144
deriving Decidable

/-- The entries of the JSON form of a scope. -/
def entries : List (String × JsonValue) :=
  [("project_id", .str scope.projectId),
    ("repository_identity", .str scope.repositoryIdentity.hex),
    ("principal_role", .str scope.principalRole),
    ("workflow", .str scope.workflow),
    ("stage", .str scope.stage.value),
    ("action", .str scope.action),
    ("resource", scope.resource.modelDump),
    ("parameters", .obj scope.parameters),
    ("command", (scope.command.map CommandSpec.modelDump).getD .null),
    ("workspace_kind", .str scope.workspaceKind.value),
    ("sandbox_provider", .str scope.sandboxProvider.value),
    ("sandbox_security_level", .str scope.sandboxSecurityLevel.value),
    ("network_mode", .str scope.networkMode.value),
    ("source_checkout_read_only", .bool true)]

/-- `scope.model_dump(mode="json")`. -/
def modelDump : JsonObject := JsonValue.object scope.entries

/-- `scope_sha256`. -/
def scopeSha256 : Sha256 := svc.canonicalJsonHash (.obj scope.modelDump)

/-- `==` on scopes: every field, the parameters compared as Python compares them. -/
def pyEq (left right : ExactPermissionScope) : Bool :=
  left.projectId = right.projectId && left.repositoryIdentity = right.repositoryIdentity
    && left.principalRole = right.principalRole && left.workflow = right.workflow
    && left.stage = right.stage && left.action = right.action
    && left.resource = right.resource
    && JsonValue.pyEqFields left.parameters right.parameters
    && left.command = right.command && left.workspaceKind = right.workspaceKind
    && left.sandboxProvider = right.sandboxProvider
    && left.sandboxSecurityLevel = right.sandboxSecurityLevel
    && left.networkMode = right.networkMode

end ExactPermissionScope

/-! ### Rules and policies -/

/-- `effect` of a rule. -/
inductive RuleEffect where
  | allow
  | deny
deriving DecidableEq, Repr

/-- `UserTrustRule`. -/
structure UserTrustRule where
  ruleId : String
  scope : ExactPermissionScope
  effect : RuleEffect
  createdAt : Timestamp
  expiresAt : Option Timestamp := none
  revokedAt : Option Timestamp := none
  sourceApprovalRequestId : Option String := none

/-- What constructing a `UserTrustRule` checks. -/
def UserTrustRule.validates (svc : TrustServices) (rule : UserTrustRule) : Prop :=
  rule.scope.validates svc
    ∧ (∀ expiry ∈ rule.expiresAt, rule.createdAt < expiry)
    ∧ ∀ revocation ∈ rule.revokedAt, rule.createdAt ≤ revocation
deriving Decidable

/-- `rule_matches`, of a rule that validates. -/
def ruleMatches (rule : UserTrustRule) (scope : ExactPermissionScope) (now : Timestamp) : Bool :=
  rule.createdAt ≤ now
    && rule.revokedAt = none
    && (rule.expiresAt.all fun expiry => now < expiry)
    && rule.scope.pyEq scope

/-- `TrustMode`. -/
inductive TrustMode where
  | safe
  | balanced
  | autonomousSandbox
deriving DecidableEq, Repr

/-- The text of a `TrustMode`. -/
def TrustMode.value : TrustMode → String
  | .safe => "safe"
  | .balanced => "balanced"
  | .autonomousSandbox => "autonomous-sandbox"

/-- `ProjectTrustSettings`. -/
structure ProjectTrustSettings where
  projectId : String
  repositoryIdentity : Sha256
  trustMode : TrustMode := .balanced
  allowedPaths : List String := []
  grantsRevokedBefore : Option Timestamp := none
deriving DecidableEq

/-- What constructing a `ProjectTrustSettings` checks. -/
def ProjectTrustSettings.validates (svc : TrustServices) (settings : ProjectTrustSettings) : Prop :=
  settings.allowedPaths.length ≤ 128
    ∧ (∀ path ∈ settings.allowedPaths, canonicalTrustPath svc.casefold path true)
    ∧ (settings.allowedPaths.map svc.casefold).Nodup
deriving Decidable

/-- `UserTrustPolicy`. -/
structure UserTrustPolicy where
  revision : ℕ := 0
  projects : List ProjectTrustSettings := []
  rules : List UserTrustRule := []

namespace UserTrustPolicy

variable (svc : TrustServices) (policy : UserTrustPolicy)

/-- The settings that the policy holds for a project. -/
def settings? (projectId : String) : Option ProjectTrustSettings :=
  policy.projects.find? fun settings => settings.projectId = projectId

/-- What constructing a `UserTrustPolicy` checks: its records and `validate_bindings`. -/
def validates : Prop :=
  policy.revision < 2 ^ 63
    ∧ policy.projects.length ≤ 1024
    ∧ policy.rules.length ≤ 8192
    ∧ (∀ settings ∈ policy.projects, settings.validates svc)
    ∧ (∀ rule ∈ policy.rules, rule.validates svc)
    ∧ (policy.projects.map ProjectTrustSettings.projectId).Nodup
    ∧ (policy.rules.map UserTrustRule.ruleId).Nodup
    ∧ ∀ rule ∈ policy.rules, ∃ settings ∈ policy.settings? rule.scope.projectId,
        settings.repositoryIdentity = rule.scope.repositoryIdentity
deriving Decidable

end UserTrustPolicy

end AgentFleet
