import AgentFleet.Domain.Config
import AgentFleet.Lib.Checks

/-! # Role templates

A catalog asks for further roles, each based on a role of the specification.
`resolveRoleTemplates` resolves the roles that a configuration has; it reads the guidance of a role
from the files of the configuration. -/

namespace AgentFleet.Configuration

open Checks

section

-- `str.casefold`
variable (casefold : String → String)

/-- `RoleTemplate`. -/
structure RoleTemplate where
  baseRole : AgentRole
  description : String
  instructions : String
  modelProfile : Option String := none
  allowedTools : Option (List String) := none
  maxSteps : Option ℕ := none
  allowedPaths : Option (List String) := none
deriving DecidableEq

/-- `RoleCatalog`. -/
structure RoleCatalog where
  roles : Mapping RoleTemplate

/-- `_READ_TOOLS`. -/
def readTools : List String :=
  ["repo.list_files", "repo.read_file", "repo.search_text", "workspace.get_diff"]

/-- `_WRITE_TOOLS`. -/
def writeTools : List String :=
  readTools ++ ["workspace.write_file", "workspace.apply_edit", "workspace.delete_path",
    "command.run", "fixture.record_side_effect"]

/-- `ROLE_TOOL_CEILINGS`. -/
def roleToolCeilings : AgentRole → List String
  | .cos => []
  | .engineer => writeTools
  | .verifier => readTools ++ ["command.run"]
  | .researcher => readTools
  | .architect => readTools

/-- `validate_instruction_path` accepts the reference. -/
def isRoleInstruction (value : String) : Prop :=
  let path := PurePosixPath.parse value
  canonicalTrustPath casefold value
    ∧ (2 ≤ path.parts.length ∧ path.parts.length ≤ 16)
    ∧ path.parts.head? = some "agents" ∧ path.suffix = ".md" ∧ value.utf8ByteSize ≤ 4096
deriving Decidable

def RoleTemplate.Checked (template : RoleTemplate) : Prop :=
  template.baseRole ≠ .cos
    ∧ (1 ≤ template.description.toList.length ∧ template.description.toList.length ≤ 512)
    ∧ (∀ c ∈ template.description.toList, 32 ≤ c.toNat ∧ c.toNat ≠ 127)
    ∧ isRoleInstruction casefold template.instructions
    ∧ (∀ profile ∈ template.modelProfile, isProfileName profile)
    ∧ (∀ tools ∈ template.allowedTools, tools.length ≤ 32 ∧ (∀ tool ∈ tools, isActionId tool)
      ∧ tools.Nodup ∧ tools ⊆ roleToolCeilings template.baseRole)
    ∧ (∀ steps ∈ template.maxSteps, 1 ≤ steps ∧ steps ≤ 100)
    ∧ ∀ paths ∈ template.allowedPaths, (1 ≤ paths.length ∧ paths.length ≤ 128)
      ∧ (∀ path ∈ paths, isScopePath casefold path) ∧ FoldedDistinct casefold paths
deriving Decidable

/-- The role identities that a catalog must not use. -/
def reservedRoles : List String :=
  ["cos", "engineer", "verifier", "researcher", "architect", "chief-of-staff",
    "software-engineer"]

def RoleCatalog.Checked (catalog : RoleCatalog) : Prop :=
  catalog.roles.entries.length ≤ 32
    ∧ (∀ entry ∈ catalog.roles.entries, isRoleId entry.1 ∧ entry.2.Checked casefold)
    ∧ FoldedDistinct casefold catalog.roles.keys
    ∧ ∀ key ∈ catalog.roles.keys, casefold key ∉ reservedRoles
deriving Decidable

end

/-! ### Resolution -/

/-- `ResolvedRoleTemplate`. -/
structure ResolvedRoleTemplate where
  roleId : String
  executionKind : AgentRole
  lifecycle : AgentLifecycle
  description : String
  instructions : String
  instructionReferences : List String
  allowedTools : List String
  maxSteps : ℕ
  allowedPaths : Option (List String) := none
  modelProfile : Option String := none
  delegationAllowed : Bool
deriving DecidableEq

def ResolvedRoleTemplate.Checked (role : ResolvedRoleTemplate) : Prop :=
  isRoleId role.roleId ∧ role.description.toList.length ≤ 512
    ∧ role.instructions.toList.length ≤ 32768
    ∧ (1 ≤ role.instructionReferences.length ∧ role.instructionReferences.length ≤ 2)
    ∧ role.allowedTools.length ≤ 64 ∧ (∀ tool ∈ role.allowedTools, isActionId tool)
    ∧ (1 ≤ role.maxSteps ∧ role.maxSteps ≤ 100)
    ∧ (∀ paths ∈ role.allowedPaths, paths.length ≤ 128)
    ∧ ∀ profile ∈ role.modelProfile, isProfileName profile
deriving Decidable

/-- The roles of the enumeration, in its order. -/
def agentRoles : List AgentRole := [.cos, .engineer, .verifier, .researcher, .architect]

section

variable {Settings : Type} (spec : FleetSpec Settings) (contents : List (String × String))

/-- `guidance`; `ValueError` is the only error here. -/
def guidance (reference : String) : Except Unit String := do
  let content ← demand () ((Keyed.get? Prod.fst contents reference).map Prod.snd)
  refuse (32768 < content.utf8ByteSize) ()
  return content

/-- `cos` may delegate to the role. -/
def isDelegated (role : String) : Bool :=
  match spec.agents.get? "cos" with
  | some cos => role ∈ cos.mayDelegateTo
  | none => false

/-- A built-in role of the specification. -/
def resolveBuiltIn (kind : AgentRole) (request : AgentRequest) :
    Except Unit ResolvedRoleTemplate := do
  let instructions ← guidance contents request.instructions
  let role : ResolvedRoleTemplate :=
    { roleId := kind.value
      executionKind := kind
      lifecycle := request.lifecycle
      description := "Built-in " ++ kind.value ++ " responsibility"
      instructions := instructions
      instructionReferences := [request.instructions]
      allowedTools := request.allowedTools
      maxSteps := request.maxSteps
      delegationAllowed := isDelegated spec kind.value }
  refuse (¬ role.Checked) ()
  return role

/-- A role of the catalog, on the role that it is based on. -/
def resolveCustom (resolved : List ResolvedRoleTemplate) (roleId : String)
    (template : RoleTemplate) : Except Unit ResolvedRoleTemplate := do
  refuse (roleId ∈ spec.agents.keys) ()
  let base ← demand () (resolved.find? fun role => role.roleId = template.baseRole.value)
  let tools := template.allowedTools.getD
    (base.allowedTools.filter fun tool => tool ∈ roleToolCeilings base.executionKind)
  refuse (¬ tools ⊆ base.allowedTools) ()
  let steps := template.maxSteps.getD base.maxSteps
  refuse (base.maxSteps < steps) ()
  let more ← guidance contents template.instructions
  let instructions := base.instructions ++ "\n\n" ++ more
  refuse (32768 < instructions.utf8ByteSize) ()
  let role : ResolvedRoleTemplate :=
    { roleId := roleId
      executionKind := base.executionKind
      lifecycle := .perTask
      description := template.description
      instructions := instructions
      instructionReferences := base.instructionReferences.take 1 ++ [template.instructions]
      allowedTools := tools
      maxSteps := steps
      allowedPaths := template.allowedPaths
      modelProfile := template.modelProfile
      delegationAllowed := base.delegationAllowed }
  refuse (¬ role.Checked) ()
  return role

/-- `resolve_role_templates`. -/
def resolveRoleTemplates (catalog : Option RoleCatalog) :
    Except Unit (List ResolvedRoleTemplate) := do
  refuse ("cos" ∉ spec.agents.keys) ()
  let builtIn ← agentRoles.foldlM (fun resolved kind =>
    match spec.agents.get? kind.value with
    | none => pure resolved
    | some request => do
        let role ← resolveBuiltIn spec contents kind request
        return resolved ++ [role]) []
  let entries : List (String × RoleTemplate) := match catalog with
    | some catalog => catalog.roles.entries
    | none => []
  entries.foldlM (fun resolved entry => do
    let role ← resolveCustom spec contents resolved entry.1 entry.2
    return resolved ++ [role]) builtIn

end

end AgentFleet.Configuration
