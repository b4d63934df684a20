import AgentFleet.Domain.FleetPlan
import AgentFleet.Domain.ModelProfiles
import AgentFleet.Domain.Trust
import AgentFleet.Lib.Keyed
import Mathlib.Data.List.Sort

/-! # Configuration models

The records that the YAML files of a repository are read into.  The types of their fields come from
the reader; `Checked` are the bounds, patterns and validators of the models.

* `FleetSpec` names the other files, `WorkflowDefinition` the skills of a workflow.
* `VerificationSkill` says which commands a change of some paths requires.
* `ConfigSnapshot` lists the files that a specification depends on.

What a specification says of its runtime and its sandbox is a parameter: nothing here reads it. -/

namespace AgentFleet

/-! ### Names of paths -/

namespace PurePosixPath

/-- The name before its last dot and from it on, when the dot is neither first nor last. -/
def splitName (path : PurePosixPath) : String × String :=
  let characters := path.name.toList
  let after := characters.reverse.takeWhile (· ≠ '.')
  let dot := characters.length - after.length - 1
  if '.' ∈ characters ∧ 0 < dot ∧ dot < characters.length - 1 then
    (String.ofList (characters.take dot), String.ofList (characters.drop dot))
  else (path.name, "")

/-- `path.stem`. -/
def stem (path : PurePosixPath) : String := path.splitName.1

/-- `path.suffix`. -/
def suffix (path : PurePosixPath) : String := path.splitName.2

end PurePosixPath

namespace Configuration

/-! ### Sorted texts -/

/-- `sorted(set(texts))`, by insertion: a definition that the kernel evaluates. -/
def sortedTexts (texts : List String) : List String := texts.dedup.insertionSort (· ≤ ·)

theorem mem_sortedTexts {texts : List String} {text : String} :
    text ∈ sortedTexts texts ↔ text ∈ texts := by
  rw [sortedTexts, List.mem_insertionSort, List.mem_dedup]

theorem nodup_sortedTexts (texts : List String) : (sortedTexts texts).Nodup :=
  (List.perm_insertionSort _ _).nodup_iff.mpr texts.nodup_dedup

/-- Sorted texts only depend on their members. -/
theorem sortedTexts_congr {texts texts' : List String} (h : ∀ text, text ∈ texts ↔ text ∈ texts') :
    sortedTexts texts = sortedTexts texts' := by
  have hperm : texts.dedup.Perm texts'.dedup :=
    (List.perm_ext_iff_of_nodup texts.nodup_dedup texts'.nodup_dedup).mpr fun text => by
      rw [List.mem_dedup, List.mem_dedup, h]
  have hsame := (List.perm_insertionSort (· ≤ ·) texts.dedup).trans
    (hperm.trans (List.perm_insertionSort (· ≤ ·) texts'.dedup).symm)
  exact hsame.eq_of_pairwise' (List.pairwise_insertionSort (· ≤ ·) _)
    (List.pairwise_insertionSort (· ≤ ·) _)

/-! ### Mappings -/

/-- A `dict` with text keys, in the order of insertion. -/
structure Mapping (α : Type) where
  entries : List (String × α)
  distinct : (entries.map Prod.fst).Nodup

namespace Mapping

variable {α : Type}

/-- `list(mapping)`. -/
def keys (mapping : Mapping α) : List String := mapping.entries.map Prod.fst

/-- `mapping.values()`. -/
def values (mapping : Mapping α) : List α := mapping.entries.map Prod.snd

/-- `mapping.get(key)`. -/
def get? (mapping : Mapping α) (key : String) : Option α :=
  (Keyed.get? Prod.fst mapping.entries key).map Prod.snd

/-- `{key: value for key, value in entries}`. -/
def ofEntries (entries : List (String × α)) : Mapping α where
  entries := Keyed.latest Prod.fst entries
  distinct := List.pairwise_map.mpr (List.pairwise_pwFilter entries)

/-- Equality of mappings, which does not see the order. -/
def Same (mapping mapping' : Mapping α) : Prop := mapping.entries.Perm mapping'.entries

instance [DecidableEq α] (mapping mapping' : Mapping α) : Decidable (mapping.Same mapping') :=
  inferInstanceAs (Decidable (mapping.entries.Perm mapping'.entries))

theorem Same.refl (mapping : Mapping α) : mapping.Same mapping := List.Perm.refl _

theorem entries_ofEntries {entries : List (String × α)} (h : (entries.map Prod.fst).Nodup) :
    (ofEntries entries).entries = entries := Keyed.latest_eq_self h

variable {mapping mapping' : Mapping α} {key : String} {value : α}

theorem get?_eq_some_iff : mapping.get? key = some value ↔ (key, value) ∈ mapping.entries := by
  unfold get?
  rw [Option.map_eq_some_iff]
  constructor
  · rintro ⟨⟨key', value'⟩, hget, rfl⟩
    obtain ⟨hmem, hkey⟩ := (Keyed.get?_eq_some_iff mapping.distinct).mp hget
    rw [← hkey]
    exact hmem
  · intro hmem
    exact ⟨(key, value), (Keyed.get?_eq_some_iff mapping.distinct).mpr ⟨hmem, rfl⟩, rfl⟩

theorem Same.get? (h : mapping.Same mapping') (key : String) :
    mapping.get? key = mapping'.get? key :=
  congrArg (Option.map Prod.snd) (Keyed.get?_perm h mapping.distinct key)

end Mapping

section

-- `str.casefold`
variable (casefold : String → String)

/-! ### Patterns -/

/-- `RoleId` and `WorkflowId`. -/
def isRoleId (value : String) : Bool := isProfileName value

/-- `ActionId`. -/
def isActionId (value : String) : Bool :=
  value.toList.length ≤ 100
    && textMatches isLower
      (fun c => isLower c || isDigit c || c = '_' || c = '.' || c = '-') value

/-- A character of `[A-Za-z0-9._-]`. -/
def isNameCharacter (c : Char) : Bool := isAlphanumeric c || c = '.' || c = '_' || c = '-'

/-- The name of `Metadata`. -/
def isMetadataName (value : String) : Bool :=
  value.toList.length ≤ 100 && textMatches isNameCharacter isNameCharacter value

/-- `LogicalRepoPath`. -/
def isLogicalRepoPath (value : String) : Bool :=
  value.toList.length ≤ 4096
    && textMatches (fun c => c ≠ '/' && c ≠ '\\' && c.toNat ≠ 0)
      (fun c => c ≠ '\\' && c.toNat ≠ 0) value

/-- `len({value.casefold() for value in values}) == len(values)`. -/
def FoldedDistinct (values : List String) : Prop := (values.map casefold).Nodup
deriving Decidable

/-- A path of `applies_to_paths` or `allowed_paths`; no `String` holds a surrogate. -/
def isScopePath (value : String) : Prop :=
  canonicalTrustPath casefold value true ∧ value.utf8ByteSize ≤ 4096
    ∧ (PurePosixPath.parse value).parts.length ≤ 64
deriving Decidable

/-! ### Specifications -/

/-- `AgentLifecycle`. -/
inductive AgentLifecycle where
  | persistent
  | perTask
deriving DecidableEq

/-- `AgentRequest`. -/
structure AgentRequest where
  role : String
  lifecycle : AgentLifecycle
  instructions : String
  allowedTools : List String
  mayDelegateTo : List String := []
  maxSteps : ℕ
deriving DecidableEq

/-- `WorkflowRequest`. -/
structure WorkflowRequest where
  definition : String
  maxRepairIterations : ℕ
  maxParallelAgents : ℕ := 2
  allowedTools : Option (List String) := none
deriving DecidableEq

/-- `ProjectFiles`. -/
structure ProjectFiles where
  charter : String
  architecture : String
  verification : String
deriving DecidableEq

/-- `RequestedPermission`. -/
structure RequestedPermission where
  principalRole : String
  action : String
  resource : String
deriving DecidableEq

/-- `FleetSpec`, with its body. -/
structure FleetSpec (Settings : Type) where
  name : String
  settings : Settings
  agents : Mapping AgentRequest
  workflows : Mapping WorkflowRequest
  project : ProjectFiles
  requestedPermissions : List RequestedPermission

/-- `_LEGACY_ROLE_LABELS`. -/
def legacyRoleLabels (role : String) : List String :=
  if role = "cos" then ["chief-of-staff"]
  else if role = "engineer" then ["software-engineer"] else []

def AgentRequest.Checked (request : AgentRequest) : Prop :=
  isRoleId request.role ∧ (∀ role ∈ request.mayDelegateTo, isRoleId role)
    ∧ 1 ≤ request.maxSteps ∧ request.maxSteps ≤ 100
deriving Decidable

def WorkflowRequest.Checked (request : WorkflowRequest) : Prop :=
  request.maxRepairIterations ≤ 5
    ∧ (1 ≤ request.maxParallelAgents ∧ request.maxParallelAgents ≤ 8)
    ∧ ∀ tools ∈ request.allowedTools, tools.length ≤ 64 ∧ ∀ tool ∈ tools, isActionId tool
deriving Decidable

namespace FleetSpec

variable {Settings : Type}

/-- The validators of `FleetSpec`, `validate_references` among them. -/
def Checked (spec : FleetSpec Settings) : Prop :=
  isMetadataName spec.name
    ∧ (∀ entry ∈ spec.agents.entries, isRoleId entry.1 ∧ entry.2.Checked
      ∧ (entry.2.role = entry.1 ∨ entry.2.role ∈ legacyRoleLabels entry.1)
      ∧ ∀ role ∈ entry.2.mayDelegateTo, role ∈ spec.agents.keys)
    ∧ (∀ entry ∈ spec.workflows.entries, isRoleId entry.1 ∧ entry.2.Checked)
    ∧ "cos" ∈ spec.agents.keys ∧ spec.workflows.entries ≠ []
    ∧ ∀ request ∈ spec.requestedPermissions, isRoleId request.principalRole
      ∧ isActionId request.action ∧ request.principalRole ∈ spec.agents.keys
deriving Decidable

/-- Equality of specifications. -/
def Same (spec spec' : FleetSpec Settings) : Prop :=
  spec.name = spec'.name ∧ spec.settings = spec'.settings ∧ spec.agents.Same spec'.agents
    ∧ spec.workflows.Same spec'.workflows ∧ spec.project = spec'.project
    ∧ spec.requestedPermissions = spec'.requestedPermissions

instance [DecidableEq Settings] (spec spec' : FleetSpec Settings) : Decidable (spec.Same spec') :=
  inferInstanceAs (Decidable (_ ∧ _))

theorem Same.refl (spec : FleetSpec Settings) : spec.Same spec :=
  ⟨rfl, rfl, .refl _, .refl _, rfl, rfl⟩

end FleetSpec

/-! ### Workflows and verification -/

/-- `WORKFLOW_STAGES`. -/
def workflowStages : List String :=
  ["intake", "scoping", "workspace-preparation", "implementing", "verifying", "repairing",
    "presenting", "applying"]

/-- `WorkflowDefinition`, with its limits. -/
structure WorkflowDefinition where
  name : String
  stages : List String
  maxRepairIterations : ℕ
  verificationSkills : List String := []
deriving DecidableEq

/-- A reference to a skill: `skills/name.yaml`. -/
def isSkillReference (value : String) : Prop :=
  let path := PurePosixPath.parse value
  path.parts.length = 2 ∧ path.parts.head? = some "skills" ∧ path.suffix = ".yaml"
    ∧ path.str = value ∧ path.stem.toList.length ≤ 100
    ∧ textMatches isAlphanumeric isNameCharacter path.stem
deriving Decidable

def WorkflowDefinition.Checked (definition : WorkflowDefinition) : Prop :=
  isMetadataName definition.name ∧ definition.stages = workflowStages
    ∧ definition.maxRepairIterations ≤ 5
    ∧ definition.verificationSkills.length ≤ 32
    ∧ (∀ reference ∈ definition.verificationSkills, isSkillReference reference)
    ∧ FoldedDistinct casefold definition.verificationSkills
deriving Decidable

/-- `VerificationSkill`. -/
structure VerificationSkill where
  name : String
  appliesToPaths : List String
  requiredCommandIds : List String
deriving DecidableEq

def VerificationSkill.Checked (skill : VerificationSkill) : Prop :=
  isMetadataName skill.name
    ∧ (1 ≤ skill.appliesToPaths.length ∧ skill.appliesToPaths.length ≤ 128)
    ∧ (∀ path ∈ skill.appliesToPaths, isLogicalRepoPath path ∧ isScopePath casefold path)
    ∧ FoldedDistinct casefold skill.appliesToPaths
    ∧ (1 ≤ skill.requiredCommandIds.length ∧ skill.requiredCommandIds.length ≤ 128)
    ∧ (∀ command ∈ skill.requiredCommandIds, isActionId command)
    ∧ skill.requiredCommandIds.Nodup
deriving Decidable

/-- `VerificationCommand`. -/
structure VerificationCommand where
  executable : String
  argv : List String
  cwd : String
  timeoutSeconds : ℕ
deriving DecidableEq

/-- `VerificationProfile`. -/
structure VerificationProfile where
  commands : Mapping VerificationCommand
  requiredForCodeChange : List String

/-- The pattern of an executable: a name, or a name below the working directory. -/
def isExecutableName (value : String) : Bool :=
  let character := fun c => isNameCharacter c || c = '+'
  textMatches character character ((textAfter? value "./").getD value)

/-- The executables that `reject_shell_executables` names. -/
def shellExecutables : List String :=
  ["bash", "cmd", "dash", "env", "fish", "ksh", "powershell", "pwsh", "sh", "zsh"]

/-- `reject_shell_executables` accepts the executable. -/
def isNoShell (executable : String) : Prop :=
  let name := casefold (PurePosixPath.parse executable).name
  name ∉ shellExecutables
    ∧ ∀ ending ∈ [".bat", ".cmd", ".ps1", ".sh"], ¬ ending.toList.isSuffixOf name.toList
deriving Decidable

/-- `validate_logical_cwd` accepts the directory. -/
def isLogicalCwd (value : String) : Prop :=
  let path := PurePosixPath.parse value
  value = "." ∨ ¬ (textStartsWith value "/" ∨ '\\' ∈ value.toList
    ∨ value.toList.any (fun c => c.toNat = 0) ∨ path.parts = [] ∨ "." ∈ path.parts
    ∨ ".." ∈ path.parts ∨ path.str ≠ value)
deriving Decidable

/-- A command, and the `CommandSpec` that `commands_exist` makes of it. -/
def VerificationCommand.Checked (command : VerificationCommand) : Prop :=
  isExecutableName command.executable ∧ command.executable.toList.length ≤ 128
    ∧ isNoShell casefold command.executable
    ∧ command.argv.length ≤ 128
    ∧ (∀ argument ∈ command.argv, argument.toList.length ≤ 4096
      ∧ ¬ argument.toList.any fun c => c.toNat = 0)
    ∧ (command.argv.map String.utf8ByteSize).sum ≤ 65536
    ∧ (1 ≤ command.cwd.toList.length ∧ command.cwd.toList.length ≤ 4096)
    ∧ isLogicalCwd command.cwd
    ∧ 1 ≤ command.timeoutSeconds ∧ command.timeoutSeconds ≤ 3600
deriving Decidable

def VerificationProfile.Checked (profile : VerificationProfile) : Prop :=
  profile.commands.entries.length ≤ 32 ∧ profile.requiredForCodeChange.length ≤ 32
    ∧ (∀ command ∈ profile.requiredForCodeChange, isActionId command)
    ∧ profile.requiredForCodeChange.Nodup
    ∧ (∀ command ∈ profile.requiredForCodeChange, command ∈ profile.commands.keys)
    ∧ ∀ entry ∈ profile.commands.entries, isActionId entry.1 ∧ entry.2.Checked casefold
deriving Decidable

end

/-! ### Snapshots -/

/-- `ConfigSnapshotFile`. -/
structure ConfigSnapshotFile where
  path : String
  sha256 : Sha256
  content : String
deriving DecidableEq

/-- `ConfigSnapshot`. -/
structure ConfigSnapshot where
  files : List ConfigSnapshotFile
deriving DecidableEq

def ConfigSnapshotFile.Checked (hash : Bytes → Sha256) (file : ConfigSnapshotFile) : Prop :=
  let path := PurePosixPath.parse file.path
  file.content.toList.length ≤ 512000
    ∧ ¬ (file.path = "" ∨ textStartsWith file.path "/" ∨ '\\' ∈ file.path.toList
      ∨ ".." ∈ path.parts ∨ path.str ≠ file.path)
    ∧ file.sha256 = hash (utf8 file.content)
deriving Decidable

def ConfigSnapshot.Checked (hash : Bytes → Sha256) (snapshot : ConfigSnapshot) : Prop :=
  (1 ≤ snapshot.files.length ∧ snapshot.files.length ≤ 256)
    ∧ (∀ file ∈ snapshot.files, file.Checked hash)
    ∧ snapshot.files.map ConfigSnapshotFile.path
      = sortedTexts (snapshot.files.map ConfigSnapshotFile.path)
    ∧ "fleet.yaml" ∈ snapshot.files.map ConfigSnapshotFile.path
deriving Decidable

end Configuration

end AgentFleet
