import AgentFleet.Domain.JsonText
import AgentFleet.Domain.Texts
import Mathlib.Algebra.Group.Nat.Defs

/-! # Model profiles, selections and run bindings

A user keeps named model profiles, permits some of them to a project, and a run is bound to exact
revisions of them.  Every record has the checks of its constructor (`validates`), its dump with the
entries in the order of its fields, and the text that is stored. -/

namespace AgentFleet

/-! ### Patterns -/

/-- A nonempty text with patterns for its first character and the others. -/
def textMatches (first rest : Char → Bool) (text : String) : Bool :=
  match text.toList with
  | [] => false
  | c :: others => first c && others.all rest

/-- `[a-z]`. -/
def isLower (c : Char) : Bool := 'a' ≤ c && c ≤ 'z'

/-- `[0-9]`. -/
def isDigit (c : Char) : Bool := '0' ≤ c && c ≤ '9'

/-- `[A-Za-z0-9]`. -/
def isAlphanumeric (c : Char) : Bool := isLower c || 'A' ≤ c && c ≤ 'Z' || isDigit c

/-- `ProfileName`, and `RoleId`. -/
def isProfileName (name : String) : Bool :=
  name.toList.length ≤ 64
    && textMatches isLower (fun c => isLower c || isDigit c || c = '_' || c = '-') name

/-- `RuntimeName`. -/
def isRuntimeName (name : String) : Bool :=
  name.toList.length ≤ 64 && textMatches isLower (fun c => isLower c || isDigit c || c = '-') name

/-- `ProviderModelId`. -/
def isProviderModelId (model : String) : Bool :=
  model.toList.length ≤ 200
    && textMatches isAlphanumeric
      (fun c => isAlphanumeric c || c = '.' || c = '_' || c = ':' || c = '/' || c = '-') model

/-- `CredentialReferenceString`. -/
def isCredentialReference (reference : String) : Bool :=
  reference.toList.length ≤ 132 && match textAfter? reference "env:" with
    | none => false
    | some name =>
        textMatches (fun c => isAlphanumeric c && !isDigit c || c = '_')
          (fun c => isAlphanumeric c || c = '_') name

/-- `RunId`. -/
def isRunId (value : String) : Bool := hasIdentity "run" 32 value

/-- `Revision`. -/
def isRevision (revision : ℕ) : Prop := 1 ≤ revision ∧ revision ≤ 2 ^ 63 - 1
deriving Decidable

/-! ### Dictionaries -/

/-- A dictionary in the order of its entries. -/
structure Dictionary (α : Type) where
  entries : List (String × α)
  nodup : (entries.map Prod.fst).Nodup
deriving DecidableEq

namespace Dictionary

variable {α : Type}

/-- `get`. -/
def get? (dictionary : Dictionary α) (key : String) : Option α :=
  (dictionary.entries.find? fun entry => entry.1 = key).map Prod.snd

/-- `==`, where the order does not matter. -/
def pyEq [DecidableEq α] (left right : Dictionary α) : Bool :=
  left.entries.isPerm right.entries

end Dictionary

/-! ### Configurations -/

/-- `RuntimeConfiguration`. -/
structure RuntimeConfiguration where
  runtimeName : String := "fake"
  providerModel : Option String := none
  credentialRef : Option String := none
  maxRequests : ℤ := 8
  maxToolCalls : ℤ := 32
  maxTotalTokens : ℤ := 32768
  timeoutSeconds : ℤ := 120
  maxRetries : ℤ := 1
deriving DecidableEq

/-- `partition(":")` of a provider model: its prefix, and what follows the first colon. -/
def providerPartition (model : String) : List Char × Option (List Char) :=
  match model.toList.span (· ≠ ':') with
  | (head, []) => (head, none)
  | (head, _ :: rest) => (head, some rest)

/-- `_validate_runtime_selection`. -/
def runtimeSelectionValid (configuration : RuntimeConfiguration) : Prop :=
  (∀ model ∈ configuration.providerModel,
    (∃ name ∈ (providerPartition model).2, name ≠ [])
      ∧ textMatches isLower (fun c => isLower c || isDigit c || c = '-')
        (String.ofList (providerPartition model).1) = true)
    ∧ ¬ (configuration.runtimeName = "fake"
      ∧ (configuration.providerModel ≠ none ∨ configuration.credentialRef ≠ none))
    ∧ ¬ (configuration.runtimeName ∈ ["pydantic-ai", "openai-agents", "langgraph"]
      ∧ (configuration.providerModel = none ∨ configuration.credentialRef = none))
deriving Decidable

/-- What constructing a `RuntimeConfiguration` checks. -/
def RuntimeConfiguration.validates (configuration : RuntimeConfiguration) : Prop :=
  isRuntimeName configuration.runtimeName = true
    ∧ (∀ model ∈ configuration.providerModel, isProviderModelId model = true)
    ∧ (∀ reference ∈ configuration.credentialRef, isCredentialReference reference = true)
    ∧ (1 ≤ configuration.maxRequests ∧ configuration.maxRequests ≤ 100)
    ∧ (0 ≤ configuration.maxToolCalls ∧ configuration.maxToolCalls ≤ 256)
    ∧ (1 ≤ configuration.maxTotalTokens ∧ configuration.maxTotalTokens ≤ 2000000)
    ∧ (1 ≤ configuration.timeoutSeconds ∧ configuration.timeoutSeconds ≤ 3600)
    ∧ (0 ≤ configuration.maxRetries ∧ configuration.maxRetries ≤ 3)
    ∧ runtimeSelectionValid configuration
deriving Decidable

/-- `validate_profile_configuration`. -/
def profileConfigurationValid (configuration : RuntimeConfiguration) : Prop :=
  let providers := configuration.providerModel.map fun model =>
    String.ofList (providerPartition model).1
  configuration.runtimeName ∈ ["fake", "pydantic-ai", "openai-agents", "langgraph"]
    ∧ (configuration.runtimeName = "pydantic-ai" →
      ∃ provider ∈ providers, provider ∈ ["openai", "openai-chat", "anthropic", "google"])
    ∧ (configuration.runtimeName ∈ ["openai-agents", "langgraph"] →
      ∃ provider ∈ providers, provider = "openai")
deriving Decidable

/-- The dump of a configuration. -/
def RuntimeConfiguration.modelDump (configuration : RuntimeConfiguration) : JsonObject := [
  ("runtime_name", .str configuration.runtimeName),
  ("provider_model", .ofOption configuration.providerModel),
  ("credential_ref", .ofOption configuration.credentialRef),
  ("max_requests", .int configuration.maxRequests),
  ("max_tool_calls", .int configuration.maxToolCalls),
  ("max_total_tokens", .int configuration.maxTotalTokens),
  ("timeout_seconds", .int configuration.timeoutSeconds),
  ("max_retries", .int configuration.maxRetries)]

/-! ### Profiles -/

/-- `ModelProfile`. -/
structure ModelProfile where
  name : String
  revision : ℕ
  enabled : Bool := true
  configuration : RuntimeConfiguration
deriving DecidableEq

namespace ModelProfile

variable (profile : ModelProfile)

/-- What constructing a `ModelProfile` checks. -/
def validates : Prop :=
  isProfileName profile.name = true ∧ isRevision profile.revision
    ∧ profile.configuration.validates ∧ profileConfigurationValid profile.configuration
deriving Decidable

/-- The dump of a profile. -/
def modelDump : JsonObject := [
  ("schema_version", .int 1),
  ("name", .str profile.name),
  ("revision", .int profile.revision),
  ("enabled", .bool profile.enabled),
  ("configuration", .obj profile.configuration.modelDump)]

end ModelProfile

/-! ### Selections -/

/-- `ProjectModelSelection`. -/
structure ProjectModelSelection where
  projectId : String
  repositoryIdentity : Sha256
  revision : ℕ
  defaultProfile : Option String := none
  roleOverrides : Dictionary String
  permittedProfiles : List String := []
deriving DecidableEq

namespace ProjectModelSelection

variable (selection : ProjectModelSelection)

/-- What constructing a `ProjectModelSelection` checks. -/
def validates : Prop :=
  isProjectId selection.projectId = true ∧ isRevision selection.revision
    ∧ (∀ name ∈ selection.defaultProfile, isProfileName name = true)
    ∧ selection.roleOverrides.entries.length ≤ 64
    ∧ (∀ entry ∈ selection.roleOverrides.entries,
      isProfileName entry.1 = true ∧ isProfileName entry.2 = true)
    ∧ selection.permittedProfiles.length ≤ 128
    ∧ (∀ name ∈ selection.permittedProfiles, isProfileName name = true)
    ∧ sortedSet selection.permittedProfiles = selection.permittedProfiles
    ∧ (∀ entry ∈ selection.roleOverrides.entries, entry.2 ∈ selection.permittedProfiles)
    ∧ (∀ name ∈ selection.defaultProfile, name ∈ selection.permittedProfiles)
deriving Decidable

/-- The dump of a selection. -/
def modelDump : JsonObject := [
  ("schema_version", .int 1),
  ("project_id", .str selection.projectId),
  ("repository_identity", .str selection.repositoryIdentity.hex),
  ("revision", .int selection.revision),
  ("default_profile", .ofOption selection.defaultProfile),
  ("role_overrides", .obj (selection.roleOverrides.entries.map fun entry => (entry.1, .str entry.2))),
  ("permitted_profiles", .arr (selection.permittedProfiles.map .str))]

end ProjectModelSelection

/-! ### Bindings -/

/-- The source of a binding. -/
inductive BindingSource where
  | override
  | repositoryPreference
  | default
  | legacy
deriving DecidableEq, Repr

/-- The text of a source. -/
def BindingSource.value : BindingSource → String
  | .override => "override"
  | .repositoryPreference => "repository_preference"
  | .default => "default"
  | .legacy => "legacy"

/-- `ResolvedModelBinding`. -/
structure ResolvedModelBinding where
  roleId : String
  source : BindingSource
  profileName : Option String := none
  profileRevision : Option ℕ := none
  configuration : RuntimeConfiguration
  configurationSha256 : Sha256
deriving DecidableEq

/-- `RunModelBindings`. -/
structure RunModelBindings where
  rootRunId : String
  projectId : String
  repositoryIdentity : Sha256
  selectionRevision : Option ℕ := none
  createdAt : Timestamp
  roles : Dictionary ResolvedModelBinding
deriving DecidableEq

/-- An optional revision of a dump. -/
def revisionJson (revision : Option ℕ) : JsonValue := .ofOptionInt (revision.map Int.ofNat)

section Digests

variable (canonicalJsonHash : JsonValue → Sha256) (isoTimestamp : Timestamp → String)

/-- `configuration_hash`. -/
def configurationHash (configuration : RuntimeConfiguration) : Sha256 :=
  canonicalJsonHash (JsonValue.sorted (.obj configuration.modelDump))

namespace ResolvedModelBinding

variable (binding : ResolvedModelBinding)

/-- What constructing a `ResolvedModelBinding` checks. -/
def validates : Prop :=
  isProfileName binding.roleId = true
    ∧ (∀ name ∈ binding.profileName, isProfileName name = true)
    ∧ (∀ revision ∈ binding.profileRevision, isRevision revision)
    ∧ binding.configuration.validates ∧ profileConfigurationValid binding.configuration
    ∧ binding.configurationSha256 = configurationHash canonicalJsonHash binding.configuration
    ∧ (binding.source = .legacy → binding.profileName = none ∧ binding.profileRevision = none)
    ∧ (binding.source ≠ .legacy → binding.profileName ≠ none ∧ binding.profileRevision ≠ none)
deriving Decidable

/-- The dump of a binding. -/
def modelDump : JsonObject := [
  ("role_id", .str binding.roleId),
  ("source", .str binding.source.value),
  ("profile_name", .ofOption binding.profileName),
  ("profile_revision", revisionJson binding.profileRevision),
  ("configuration", .obj binding.configuration.modelDump),
  ("configuration_sha256", .str binding.configurationSha256.hex)]

end ResolvedModelBinding

namespace RunModelBindings

variable (bindings : RunModelBindings)

/-- What constructing a `RunModelBindings` checks. -/
def validates : Prop :=
  isRunId bindings.rootRunId = true ∧ isProjectId bindings.projectId = true
    ∧ (∀ revision ∈ bindings.selectionRevision, isRevision revision)
    ∧ (1 ≤ bindings.roles.entries.length ∧ bindings.roles.entries.length ≤ 64)
    ∧ (∀ entry ∈ bindings.roles.entries,
      entry.2.validates canonicalJsonHash ∧ entry.1 = entry.2.roleId
        ∧ (bindings.selectionRevision = none ↔ entry.2.source = .legacy))
    ∧ bindings.roles.entries.Pairwise fun a b =>
      a.2.profileName ≠ none → a.2.profileName = b.2.profileName →
        a.2.profileRevision = b.2.profileRevision
          ∧ a.2.configurationSha256 = b.2.configurationSha256
deriving Decidable

/-- The dump of the bindings of a run. -/
def modelDump : JsonObject := [
  ("schema_version", .int 1),
  ("root_run_id", .str bindings.rootRunId),
  ("project_id", .str bindings.projectId),
  ("repository_identity", .str bindings.repositoryIdentity.hex),
  ("selection_revision", revisionJson bindings.selectionRevision),
  ("created_at", .str (isoTimestamp bindings.createdAt)),
  ("roles", .obj (bindings.roles.entries.map fun entry => (entry.1, .obj entry.2.modelDump)))]

/-- `bindings_sha256`. -/
def bindingsSha256 : Sha256 :=
  canonicalJsonHash (JsonValue.sorted (.obj (bindings.modelDump isoTimestamp)))

/-- `==`. -/
def pyEq (left right : RunModelBindings) : Bool :=
  left.roles.pyEq right.roles && ({ left with roles := right.roles } : RunModelBindings) = right

end RunModelBindings

/-! ### The audit -/

/-- What a receipt is for. -/
inductive AuditAction where
  | profileSet
  | profileRemove
  | selectionSet
  | runBind
deriving DecidableEq, Repr

/-- The text of an action. -/
def AuditAction.value : AuditAction → String
  | .profileSet => "profile.set"
  | .profileRemove => "profile.remove"
  | .selectionSet => "selection.set"
  | .runBind => "run.bind"

/-- `ModelConfigurationAudit`. -/
structure ModelConfigurationAudit where
  sequence : ℕ
  action : AuditAction
  target : String
  revision : ℕ
  recordSha256 : Sha256
  previousSha256 : Option Sha256 := none
  occurredAt : Timestamp
deriving DecidableEq

namespace ModelConfigurationAudit

variable (audit : ModelConfigurationAudit)

/-- What constructing a `ModelConfigurationAudit` checks. -/
def validates : Prop :=
  isRevision audit.sequence ∧ audit.target.toList.length ≤ 128 ∧ isRevision audit.revision
deriving Decidable

/-- The dump of a receipt. -/
def modelDump : JsonObject := [
  ("schema_version", .int 1),
  ("sequence", .int audit.sequence),
  ("action", .str audit.action.value),
  ("target", .str audit.target),
  ("revision", .int audit.revision),
  ("record_sha256", .str audit.recordSha256.hex),
  ("previous_sha256", .ofOption (audit.previousSha256.map Sha256.hex)),
  ("occurred_at", .str (isoTimestamp audit.occurredAt))]

/-- `audit_sha256`. -/
def auditSha256 : Sha256 :=
  canonicalJsonHash (JsonValue.sorted (.obj (audit.modelDump isoTimestamp)))

end ModelConfigurationAudit

end Digests

end AgentFleet
