import AgentFleet.Domain.Models

/-! # Sandboxes

What a sandbox provider declares and what a run requires of it.  A descriptor that claims what
its security level excludes cannot be built: `SandboxCapabilities` carries the validators of the
source as fields. -/

namespace AgentFleet

/-- `SandboxSecurityLevel`. -/
inductive SandboxSecurityLevel where
  | fake
  | isolated
  | unsafeHost
deriving DecidableEq, Repr

/-- The text of a `SandboxSecurityLevel`. -/
def SandboxSecurityLevel.value : SandboxSecurityLevel → String
  | .fake => "fake"
  | .isolated => "isolated"
  | .unsafeHost => "unsafe_host"

/-- `SandboxNetworkMode`. -/
inductive SandboxNetworkMode where
  | none
  | approvedUnrestricted
deriving DecidableEq, Repr

/-- The text of a `SandboxNetworkMode`. -/
def SandboxNetworkMode.value : SandboxNetworkMode → String
  | .none => "none"
  | .approvedUnrestricted => "approved-unrestricted"

/-- `WorkspaceKind`. -/
inductive WorkspaceKind where
  | candidate
  | verification
deriving DecidableEq, Repr

/-- The text of a `WorkspaceKind`. -/
def WorkspaceKind.value : WorkspaceKind → String
  | .candidate => "candidate"
  | .verification => "verification"

/-- The fields of `SandboxCapabilities`. -/
structure SandboxDescriptor where
  provider : String
  securityLevel : SandboxSecurityLevel
  isolationEnforced : Bool
  executesCode : Bool
  supportedNetworkModes : List SandboxNetworkMode
  supportsResourceLimits : Bool
  supportsRecovery : Bool
  supportsNonRoot : Bool := false
  supportsReadOnlyRoot : Bool := false
  supportsNoNewPrivileges : Bool := false
  supportsCapabilityDrop : Bool := false
deriving DecidableEq

namespace SandboxDescriptor

/-- `phase1_fake`. -/
def phase1Fake : SandboxDescriptor where
  provider := "fake"
  securityLevel := .fake
  isolationEnforced := false
  executesCode := false
  supportedNetworkModes := [.none]
  supportsResourceLimits := false
  supportsRecovery := true

variable (sandbox : SandboxDescriptor)

/-- What an isolated sandbox has to offer. -/
def enforcesIsolation : Prop :=
  sandbox.isolationEnforced = true ∧ sandbox.executesCode = true
    ∧ sandbox.supportsResourceLimits = true ∧ sandbox.supportsNonRoot = true
    ∧ sandbox.supportsReadOnlyRoot = true ∧ sandbox.supportsNoNewPrivileges = true
    ∧ sandbox.supportsCapabilityDrop = true ∧ .none ∈ sandbox.supportedNetworkModes
deriving Decidable

/-- `validate_capability_coherence`. -/
def coherent : Prop :=
  if sandbox.provider = "fake" ∨ sandbox.securityLevel = .fake then sandbox = phase1Fake
  else match sandbox.securityLevel with
    | .isolated => sandbox.enforcesIsolation
    | .unsafeHost => sandbox.isolationEnforced = false ∧ sandbox.executesCode = true
    | .fake => True

instance : Decidable sandbox.coherent := by
  unfold coherent
  cases sandbox.securityLevel <;> infer_instance

/-- `sandbox.model_dump(mode="json")`. -/
def modelDump : JsonValue :=
  .obj (JsonValue.object [
    ("provider", .str sandbox.provider),
    ("security_level", .str sandbox.securityLevel.value),
    ("isolation_enforced", .bool sandbox.isolationEnforced),
    ("executes_code", .bool sandbox.executesCode),
    ("supported_network_modes",
      .arr (sandbox.supportedNetworkModes.map fun mode => .str mode.value)),
    ("supports_resource_limits", .bool sandbox.supportsResourceLimits),
    ("supports_recovery", .bool sandbox.supportsRecovery),
    ("supports_non_root", .bool sandbox.supportsNonRoot),
    ("supports_read_only_root", .bool sandbox.supportsReadOnlyRoot),
    ("supports_no_new_privileges", .bool sandbox.supportsNoNewPrivileges),
    ("supports_capability_drop", .bool sandbox.supportsCapabilityDrop)])

end SandboxDescriptor

/-- `SandboxCapabilities`: a descriptor that passed its validators. -/
structure SandboxCapabilities extends SandboxDescriptor where
  someNetworkMode : supportedNetworkModes ≠ []
  uniqueNetworkModes : supportedNetworkModes.Nodup
  coherence : toSandboxDescriptor.coherent
deriving DecidableEq

/-- `SandboxRequirements`. -/
structure SandboxRequirements where
  isolationRequired : Bool := false
  codeExecutionRequired : Bool := false
  resourceLimitsRequired : Bool := false
  nonRootRequired : Bool := false
  readOnlyRootRequired : Bool := false
  noNewPrivilegesRequired : Bool := false
  capabilityDropRequired : Bool := false
  networkMode : SandboxNetworkMode := .none
deriving DecidableEq

end AgentFleet
