import AgentFleet.Configuration.Snapshot

/-! # Required verification commands

A change of some paths requires the commands of the profile and those of each skill whose scopes
overlap one of the paths.

* `requiredVerificationCommands_ok` states what is required by the skills of the workflow.
* `requiredVerificationCommands_complete` says that no path that a task may change and a skill covers
  goes without the commands of the skill. -/

namespace AgentFleet.Configuration

open Checks

/-! ### Dumps -/

/-- `lifecycle.value`. -/
def AgentLifecycle.value : AgentLifecycle → String
  | .persistent => "persistent"
  | .perTask => "per_task"

/-- A list of texts. -/
def dumpTexts (texts : List String) : JsonValue := .arr (texts.map .str)

/-- `agent.model_dump(mode="json")`. -/
def AgentRequest.modelDump (request : AgentRequest) : JsonValue :=
  .obj [("role", .str request.role), ("lifecycle", .str request.lifecycle.value),
    ("instructions", .str request.instructions), ("allowed_tools", dumpTexts request.allowedTools),
    ("may_delegate_to", dumpTexts request.mayDelegateTo), ("max_steps", .int request.maxSteps)]

/-- `workflow.model_dump(mode="json")`. -/
def WorkflowRequest.modelDump (request : WorkflowRequest) : JsonValue :=
  .obj [("definition", .str request.definition),
    ("max_repair_iterations", .int request.maxRepairIterations),
    ("max_parallel_agents", .int request.maxParallelAgents),
    ("allowed_tools", (request.allowedTools.map dumpTexts).getD .null)]

/-- `permission.model_dump(mode="json")`. -/
def RequestedPermission.modelDump (permission : RequestedPermission) : JsonValue :=
  .obj [("principal_role", .str permission.principalRole), ("action", .str permission.action),
    ("resource", .str permission.resource)]

/-- `spec.model_dump(mode="json")`. -/
def FleetSpec.modelDump {Settings : Type} (dumpSettings : Settings → JsonObject)
    (spec : FleetSpec Settings) : JsonValue :=
  .obj [("api_version", .str "agentfleet.dev/v1alpha1"), ("kind", .str "Fleet"),
    ("metadata", .obj [("name", .str spec.name)]),
    ("spec", .obj (dumpSettings spec.settings ++
      [("agents", .obj (spec.agents.entries.map fun entry => (entry.1, entry.2.modelDump))),
        ("workflows", .obj (spec.workflows.entries.map fun entry => (entry.1, entry.2.modelDump))),
        ("project", .obj [("charter", .str spec.project.charter),
          ("architecture", .str spec.project.architecture),
          ("verification", .str spec.project.verification)]),
        ("requested_permissions",
          .arr (spec.requestedPermissions.map RequestedPermission.modelDump))]))]

/-- `snapshot.model_dump(mode="json")`. -/
def ConfigSnapshot.modelDump (snapshot : ConfigSnapshot) : JsonValue :=
  .obj [("api_version", .str "agentfleet.dev/v1alpha1"), ("kind", .str "ConfigSnapshot"),
    ("files", .arr (snapshot.files.map fun file =>
      .obj [("path", .str file.path), ("sha256", .str file.sha256.hex),
        ("content", .str file.content)]))]

/-! ### The requirement -/

/-- `change_kind`. -/
inductive ChangeKind where
  | readOnly
  | codeChange
deriving DecidableEq

section

variable {Scalar Settings : Type} [DecidableEq Settings]
  (yaml : YamlConfiguration Scalar Settings)

/-- `_reject_registered_secret` for a document. -/
def rejectRegisteredSecret (value : JsonValue) : Except ConfigurationError Unit :=
  refuse (valueHoldsSecret yaml.forms value) registeredSecretError

/-- `verification_profile`. -/
def verificationProfile (spec : FleetSpec Settings) (snapshot : ConfigSnapshot) :
    Except ConfigurationError {profile : VerificationProfile // profile.Checked yaml.casefold} := do
  let file ← demand (configError "configuration snapshot is missing its verification profile")
    (snapshot.files.find? fun file => file.path = spec.project.verification)
  parseVerificationProfile yaml (utf8 file.content)

/-- What the paths of a task have to be. -/
def checkTaskPaths (allowedPaths : List String) : Except ConfigurationError Unit := do
  refuse (128 < allowedPaths.length) (configError "task path scope exceeds its bound")
  refuse ((∃ path ∈ allowedPaths, ¬ canonicalTrustPath yaml.casefold path true
        ∨ pathOverlapsScope yaml.casefold path [path] = false)
      ∨ ¬ FoldedDistinct yaml.casefold allowedPaths)
    (configError "task paths must be unique canonical unprotected repository paths")

/-- Some path overlaps a scope of the skill. -/
def selects (casefold : String → String) (allowedPaths : List String) (skill : VerificationSkill) :
    Bool :=
  allowedPaths.any fun path => pathOverlapsScope casefold path skill.appliesToPaths

/-- The skill of a reference. -/
def skillAt (files : Mapping String) (reference : String) :
    Except ConfigurationError {skill : VerificationSkill // skill.Checked yaml.casefold} := do
  let content ← demand .key (files.get? reference)
  parseVerificationSkill yaml (utf8 content)

/-- One round of the loop over the skills. -/
def addSkill (files : Mapping String) (allowedPaths : List String) (required : List String)
    (reference : String) : Except ConfigurationError (List String) := do
  let skill ← skillAt yaml files reference
  return if selects yaml.casefold allowedPaths skill.1 then required ++ skill.1.requiredCommandIds
    else required

/-- The workflow definition of a request. -/
def definitionAt (files : Mapping String) (spec : FleetSpec Settings) (workflowId : String) :
    Except ConfigurationError
      {definition : WorkflowDefinition // definition.Checked yaml.casefold} := do
  let request ← demand .key (spec.workflows.get? workflowId)
  let content ← demand .key (files.get? request.definition)
  parseWorkflowDefinition yaml (utf8 content)

/-- The commands that a code change requires. -/
def codeChangeCommands (spec : FleetSpec Settings) (snapshot : ConfigSnapshot)
    (workflowId : String) (allowedPaths : List String) :
    Except ConfigurationError (List String) := do
  let files := snapshotFiles snapshot
  let definition ← definitionAt yaml files spec workflowId
  let profile ← verificationProfile yaml spec snapshot
  let required ← definition.1.verificationSkills.foldlM (addSkill yaml files allowedPaths)
    profile.1.requiredForCodeChange
  return sortedTexts required

/-- `required_verification_commands`; the type of `changeKind` leaves no other kind to refuse. -/
def requiredVerificationCommands (spec : FleetSpec Settings) (snapshot : ConfigSnapshot)
    (workflowId : String) (allowedPaths : List String) (changeKind : ChangeKind) :
    Except ConfigurationError (List String) := do
  rejectRegisteredSecret yaml (spec.modelDump yaml.dumpSettings)
  rejectRegisteredSecret yaml snapshot.modelDump
  rejectRegisteredSecret yaml (dumpTexts (workflowId :: allowedPaths))
  let rebuilt ← snapshotFromFleetFiles yaml (snapshotFiles snapshot)
  refuse (¬ rebuilt.1.Same spec ∨ rebuilt.2 ≠ snapshot)
    (configError "the supplied specification and snapshot do not match their closure")
  refuse (workflowId ∉ spec.workflows.keys) (configError "the requested workflow is not declared")
  checkTaskPaths yaml allowedPaths
  if changeKind = .readOnly then return []
  else do
    refuse (allowedPaths = []) (configError "code-change requirements require a nonempty task scope")
    codeChangeCommands yaml spec rebuilt.2 workflowId allowedPaths

/-! ### What is accepted -/

/-- What is asked of a specification, a snapshot and a workflow, whatever the paths. -/
structure RequestAccepted (spec : FleetSpec Settings) (snapshot : ConfigSnapshot)
    (workflowId : String) : Prop where
  specClean : valueHoldsSecret yaml.forms (spec.modelDump yaml.dumpSettings) = false
  snapshotClean : valueHoldsSecret yaml.forms snapshot.modelDump = false
  workflowClean : AgentFleet.holdsSecret yaml.forms workflowId = false
  rebuilt : ∃ spec' : FleetSpec Settings, spec'.Same spec
    ∧ snapshotFromFleetFiles yaml (snapshotFiles snapshot) = .ok (spec', snapshot)
  declared : workflowId ∈ spec.workflows.keys

/-- What is asked of the paths of a task. -/
structure PathsAccepted (allowedPaths : List String) : Prop where
  clean : ∀ path ∈ allowedPaths, AgentFleet.holdsSecret yaml.forms path = false
  bounded : allowedPaths.length ≤ 128
  canonical : ∀ path ∈ allowedPaths, canonicalTrustPath yaml.casefold path true
    ∧ pathOverlapsScope yaml.casefold path [path] = true
  distinct : FoldedDistinct yaml.casefold allowedPaths

/-- The profile of a configuration and the skills of a workflow. -/
def Declares (spec : FleetSpec Settings) (snapshot : ConfigSnapshot) (workflowId : String)
    (profile : {profile : VerificationProfile // profile.Checked yaml.casefold})
    (skills : List {skill : VerificationSkill // skill.Checked yaml.casefold}) : Prop :=
  ∃ definition, definitionAt yaml (snapshotFiles snapshot) spec workflowId = .ok definition
    ∧ verificationProfile yaml spec snapshot = .ok profile
    ∧ definition.1.verificationSkills.mapM (skillAt yaml (snapshotFiles snapshot)) = .ok skills

/-- The commands of the profile and of the skills that the paths select. -/
def commandsFor {casefold : String → String} (profile : VerificationProfile)
    (skills : List {skill : VerificationSkill // skill.Checked casefold})
    (allowedPaths : List String) : List String :=
  profile.requiredForCodeChange
    ++ (skills.filter fun skill => selects casefold allowedPaths skill.1).flatMap
      fun skill => skill.1.requiredCommandIds

variable {yaml} {spec : FleetSpec Settings} {snapshot : ConfigSnapshot} {workflowId : String}
  {allowedPaths allowedPaths' commands : List String}

omit [DecidableEq Settings] in
/-- The loop over the skills. -/
theorem foldlM_addSkill {files : Mapping String} {references required result : List String} :
    references.foldlM (addSkill yaml files allowedPaths) required = .ok result
      ↔ ∃ skills, references.mapM (skillAt yaml files) = .ok skills
        ∧ required ++ (skills.filter fun skill => selects yaml.casefold allowedPaths skill.1).flatMap
          (fun skill => skill.1.requiredCommandIds) = result := by
  induction references generalizing required with
  | nil =>
      rw [List.foldlM_nil, return_ok, List.mapM_nil]
      constructor
      · rintro rfl
        exact ⟨[], rfl, List.append_nil _⟩
      · rintro ⟨skills, hskills, rfl⟩
        obtain rfl := return_ok.mp hskills
        exact (List.append_nil _).symm
  | cons reference references ih =>
      rw [List.foldlM_cons, bind_ok, List.mapM_cons]
      unfold addSkill at ih ⊢
      constructor
      · rintro ⟨middle, hfirst, hrest⟩
        obtain ⟨skill, hskill, hmiddle⟩ := bind_ok.mp hfirst
        obtain rfl := return_ok.mp hmiddle
        obtain ⟨skills, hskills, rfl⟩ := ih.mp hrest
        refine ⟨skill :: skills, bind_ok.mpr ⟨skill, hskill, bind_ok.mpr ⟨skills, hskills, rfl⟩⟩, ?_⟩
        rw [List.filter_cons]
        split_ifs with hselected
        · rw [List.flatMap_cons, List.append_assoc]
        · rfl
      · rintro ⟨all, hall, rfl⟩
        obtain ⟨skill, hskill, h⟩ := bind_ok.mp hall
        obtain ⟨skills, hskills, h⟩ := bind_ok.mp h
        obtain rfl := return_ok.mp h
        refine ⟨_, bind_ok.mpr ⟨skill, hskill, rfl⟩, ih.mpr ⟨skills, hskills, ?_⟩⟩
        rw [List.filter_cons]
        split_ifs with hselected
        · rw [List.flatMap_cons, List.append_assoc]
        · rfl

omit [DecidableEq Settings] in
theorem codeChangeCommands_ok :
    codeChangeCommands yaml spec snapshot workflowId allowedPaths = .ok commands
      ↔ ∃ profile skills, Declares yaml spec snapshot workflowId profile skills
        ∧ commands = sortedTexts (commandsFor profile.1 skills allowedPaths) := by
  unfold codeChangeCommands
  dsimp only
  rw [bind_ok]
  constructor
  · rintro ⟨definition, hdefinition, h⟩
    obtain ⟨profile, hprofile, h⟩ := bind_ok.mp h
    obtain ⟨required, hrequired, h⟩ := bind_ok.mp h
    obtain rfl := return_ok.mp h
    obtain ⟨skills, hskills, rfl⟩ := foldlM_addSkill.mp hrequired
    exact ⟨profile, skills, ⟨definition, hdefinition, hprofile, hskills⟩, rfl⟩
  · rintro ⟨profile, skills, ⟨definition, hdefinition, hprofile, hskills⟩, rfl⟩
    exact ⟨definition, hdefinition, bind_ok.mpr ⟨profile, hprofile,
      bind_ok.mpr ⟨_, foldlM_addSkill.mpr ⟨skills, hskills, rfl⟩, rfl⟩⟩⟩

omit [DecidableEq Settings] in
theorem checkTaskPaths_ok {u : Unit}
    (hclean : ∀ path ∈ allowedPaths, AgentFleet.holdsSecret yaml.forms path = false) :
    checkTaskPaths yaml allowedPaths = .ok u ↔ PathsAccepted yaml allowedPaths := by
  unfold checkTaskPaths
  rw [refuse_bind_ok, not_lt, refuse_ok, not_or, not_not]
  constructor
  · rintro ⟨hbounded, hcanonical, hdistinct⟩
    refine ⟨hclean, hbounded, fun path hmem => ⟨?_, ?_⟩, hdistinct⟩
    · exact not_not.mp fun hpath => hcanonical ⟨path, hmem, .inl hpath⟩
    · exact Bool.not_eq_false _ |>.mp fun hpath => hcanonical ⟨path, hmem, .inr hpath⟩
  · intro h
    refine ⟨h.bounded, ?_, h.distinct⟩
    rintro ⟨path, hmem, hpath | hpath⟩
    · exact hpath (h.canonical path hmem).1
    · rw [(h.canonical path hmem).2] at hpath
      cases hpath

theorem itemsHoldSecret_map_str {forms : List SecretForm} {texts : List String} :
    AgentFleet.itemsHoldSecret forms (texts.map .str) = false
      ↔ ∀ text ∈ texts, AgentFleet.holdsSecret forms text = false := by
  induction texts with
  | nil => exact ⟨fun _ _ hmem => absurd hmem List.not_mem_nil, fun _ => rfl⟩
  | cons text texts ih =>
      rw [List.map_cons, AgentFleet.itemsHoldSecret, Bool.or_eq_false_iff, ih,
        List.forall_mem_cons]
      rfl

/-- What a code change requires is what the profile and the selected skills require. -/
theorem requiredVerificationCommands_ok :
    requiredVerificationCommands yaml spec snapshot workflowId allowedPaths .codeChange
        = .ok commands
      ↔ RequestAccepted yaml spec snapshot workflowId ∧ PathsAccepted yaml allowedPaths
        ∧ allowedPaths ≠ []
        ∧ ∃ profile skills, Declares yaml spec snapshot workflowId profile skills
          ∧ commands = sortedTexts (commandsFor profile.1 skills allowedPaths) := by
  have hkind : ChangeKind.codeChange ≠ .readOnly := by decide
  have htexts : valueHoldsSecret yaml.forms (dumpTexts (workflowId :: allowedPaths)) = false
      ↔ AgentFleet.holdsSecret yaml.forms workflowId = false
        ∧ ∀ path ∈ allowedPaths, AgentFleet.holdsSecret yaml.forms path = false := by
    rw [dumpTexts, valueHoldsSecret, itemsHoldSecret_map_str, List.forall_mem_cons]
  unfold requiredVerificationCommands rejectRegisteredSecret
  rw [refuse_bind_ok, refuse_bind_ok, refuse_bind_ok, Bool.not_eq_true, Bool.not_eq_true,
    Bool.not_eq_true, htexts, bind_ok]
  constructor
  · rintro ⟨hspec, hsnapshot, ⟨hworkflow, hpaths⟩, ⟨spec', snapshot'⟩, hrebuilt, h⟩
    obtain ⟨hsame, h⟩ := refuse_bind_ok.mp h
    obtain ⟨hdeclared, h⟩ := refuse_bind_ok.mp h
    obtain ⟨_, hchecked, h⟩ := bind_ok.mp h
    rw [if_neg hkind, refuse_bind_ok, codeChangeCommands_ok] at h
    obtain ⟨hnonempty, hcommands⟩ := h
    rw [not_or, not_not, not_not] at hsame
    obtain ⟨hsame, rfl⟩ := hsame
    exact ⟨⟨hspec, hsnapshot, hworkflow, ⟨spec', hsame, hrebuilt⟩, not_not.mp hdeclared⟩,
      (checkTaskPaths_ok hpaths).mp hchecked, hnonempty, hcommands⟩
  · rintro ⟨haccepted, hpaths, hnonempty, hcommands⟩
    obtain ⟨spec', hsame, hrebuilt⟩ := haccepted.rebuilt
    refine ⟨haccepted.specClean, haccepted.snapshotClean, ⟨haccepted.workflowClean, hpaths.clean⟩,
      (spec', snapshot), hrebuilt, refuse_bind_ok.mpr ⟨?_, refuse_bind_ok.mpr
        ⟨not_not.mpr haccepted.declared, bind_ok.mpr ⟨(), (checkTaskPaths_ok hpaths.clean).mpr hpaths,
          ?_⟩⟩⟩⟩
    · rw [not_or, not_not, not_not]
      exact ⟨hsame, rfl⟩
    · rw [if_neg hkind, refuse_bind_ok, codeChangeCommands_ok]
      exact ⟨hnonempty, hcommands⟩

/-! ### Paths -/

omit [DecidableEq Settings] in
/-- Some of the paths are accepted where all of them are. -/
theorem PathsAccepted.subset (h : PathsAccepted yaml allowedPaths) (hnodup : allowedPaths'.Nodup)
    (hsub : allowedPaths' ⊆ allowedPaths) : PathsAccepted yaml allowedPaths' where
  clean path hmem := h.clean path (hsub hmem)
  bounded := (List.subperm_of_subset hnodup hsub).length_le.trans h.bounded
  canonical path hmem := h.canonical path (hsub hmem)
  distinct := hnodup.map_on fun _ hmem _ hmem' hsame =>
    List.inj_on_of_nodup_map h.distinct (hsub hmem) (hsub hmem') hsame

variable {path scope command : String} {casefold : String → String} {skill : VerificationSkill}
  {profile : VerificationProfile}

/-- A path that does not start with a slash is relative. -/
theorem root_of_not_startsWith (h : ¬ textStartsWith path "/" = true) :
    (PurePosixPath.parse path).root = "" := by
  show PurePosixPath.rootOf path.toList = ""
  have hslash : ∀ rest, path.toList ≠ '/' :: rest := by
    intro rest heq
    apply h
    unfold textStartsWith
    rw [heq]
    rfl
  unfold PurePosixPath.rootOf
  split
  · exact absurd ‹_› (hslash _)
  · exact absurd ‹_› (hslash _)
  · exact absurd ‹_› (hslash _)
  · rfl

/-- A scope of a skill is compared by its components. -/
theorem components_of_isScopePath (h : isScopePath casefold path) :
    components casefold path = some (foldPath casefold (PurePosixPath.parse path)) := by
  obtain ⟨htrusted, hbytes, hparts⟩ := h
  rw [components_eq_some_iff]
  rcases htrusted with ⟨rfl, -⟩ | hpath
  · have hdot : "." ≠ "" ∧ '\\' ∉ ".".toList ∧ ¬ (PurePosixPath.parse ".").isAbsolute
        ∧ (PurePosixPath.parse ".").str = "." ∧ ".." ∉ (PurePosixPath.parse ".").parts := by
      decide
    have hcharacters : ∀ character ∈ ".".toList, 32 ≤ character.toNat := by decide
    exact ⟨⟨hdot.1, hdot.2.1, hdot.2.2.1, hdot.2.2.2.1, hdot.2.2.2.2⟩, hbytes, hcharacters, hparts,
      rfl⟩
  · simp only [not_or, not_exists, not_and, List.any_eq_true, decide_eq_true_eq, not_lt,
      Bool.not_eq_true] at hpath
    obtain ⟨hempty, -, -, hroot, hcharacters, hnames, hnormal, -⟩ := hpath
    have hrelative := root_of_not_startsWith (Bool.eq_false_iff.mp hroot)
    refine ⟨⟨hempty, ?_, not_not.mpr hrelative, not_not.mp hnormal, ?_⟩, hbytes, ?_, hparts, rfl⟩
    · exact fun hmem => (hcharacters '\\' hmem).1 (by decide)
    · exact fun hmem => (hnames ".." hmem).2 rfl
    · exact fun character hmem => (hcharacters character hmem).2.1

/-- A path whose components lie on one line with those of a scope overlaps the scopes. -/
theorem pathOverlapsScope_of_comparable {scopes : List String} {parts item : List String}
    (hpath : components casefold path = some parts)
    (hscopes : ∀ scope ∈ scopes, components casefold scope ≠ none) (hmem : scope ∈ scopes)
    (hscope : components casefold scope = some item) (h : Comparable item parts) :
    pathOverlapsScope casefold path scopes = true := by
  unfold pathOverlapsScope
  dsimp only
  rw [hpath]
  have hnone : ¬ (none ∈ scopes.map (components casefold)
      ∨ none ∈ ([] : List String).map (components casefold)) := by
    rintro (hnone | hnone)
    · obtain ⟨other, hother, heq⟩ := List.mem_map.mp hnone
      exact hscopes other hother heq
    · exact List.not_mem_nil hnone
  dsimp only
  rw [if_neg hnone, List.map_nil, List.any_nil, if_neg Bool.false_ne_true]
  refine List.any_eq_true.mpr ⟨some item, List.mem_map.mpr ⟨scope, hmem, hscope⟩, ?_⟩
  rw [Option.any_some, Bool.or_eq_true, startsWith_iff, startsWith_iff]
  exact h

/-- A skill is selected by a path above what one of its scopes covers. -/
theorem selects_of_within (hskill : skill.Checked casefold) {allowed : String}
    (hallowed : allowed ∈ allowedPaths) (hwithin : pathIsWithin casefold path [allowed] = true)
    (hmem : scope ∈ skill.appliesToPaths) (hscope : pathIsWithin casefold path [scope] = true) :
    selects casefold allowedPaths skill = true := by
  obtain ⟨parts, hparts, -, -, _, hsingle, above, habove, hprefix⟩ := pathIsWithin_iff.mp hwithin
  obtain rfl := List.mem_singleton.mp hsingle
  obtain ⟨parts', hparts', -, -, _, hsingle, covered, hcovered, hprefix'⟩ :=
    pathIsWithin_iff.mp hscope
  obtain rfl := List.mem_singleton.mp hsingle
  obtain rfl := Option.some.inj (hparts.symm.trans hparts')
  have hscopes : ∀ scope ∈ skill.appliesToPaths, components casefold scope ≠ none := by
    intro other hother hnone
    rw [components_of_isScopePath (hskill.2.2.1 other hother).2] at hnone
    cases hnone
  refine List.any_eq_true.mpr ⟨_, hallowed, ?_⟩
  exact pathOverlapsScope_of_comparable habove hscopes hmem hcovered
    (comparable_of_startsWith hprefix' hprefix)

/-! ### Sets of commands -/

theorem mem_commandsFor {skills : List {skill : VerificationSkill // skill.Checked casefold}} :
    command ∈ commandsFor profile skills allowedPaths
      ↔ command ∈ profile.requiredForCodeChange
        ∨ ∃ skill ∈ skills, selects casefold allowedPaths skill.1 = true
          ∧ command ∈ skill.1.requiredCommandIds := by
  rw [commandsFor, List.mem_append, List.mem_flatMap]
  refine or_congr_right ⟨?_, ?_⟩
  · rintro ⟨skill, hmem, hcommand⟩
    obtain ⟨hskill, hselected⟩ := List.mem_filter.mp hmem
    exact ⟨skill, hskill, hselected, hcommand⟩
  · rintro ⟨skill, hskill, hselected, hcommand⟩
    exact ⟨skill, List.mem_filter.mpr ⟨hskill, hselected⟩, hcommand⟩

theorem selects_iff :
    selects casefold allowedPaths skill = true
      ↔ ∃ path ∈ allowedPaths, pathOverlapsScope casefold path skill.appliesToPaths = true :=
  List.any_eq_true

theorem mem_commandsFor_union
    {skills : List {skill : VerificationSkill // skill.Checked casefold}}
    {left right union : List String} (hunion : ∀ path, path ∈ union ↔ path ∈ left ∨ path ∈ right) :
    command ∈ commandsFor profile skills union
      ↔ command ∈ commandsFor profile skills left ∨ command ∈ commandsFor profile skills right := by
  have hselects (skill : VerificationSkill) : selects casefold union skill = true
      ↔ selects casefold left skill = true ∨ selects casefold right skill = true := by
    simp only [selects_iff, hunion, or_and_right, exists_or]
  rw [mem_commandsFor, mem_commandsFor, mem_commandsFor]
  constructor
  · rintro (hprofile | ⟨skill, hskill, hselected, hcommand⟩)
    · exact .inl (.inl hprofile)
    · rcases (hselects skill.1).mp hselected with hselected | hselected
      · exact .inl (.inr ⟨skill, hskill, hselected, hcommand⟩)
      · exact .inr (.inr ⟨skill, hskill, hselected, hcommand⟩)
  · rintro ((hprofile | ⟨skill, hskill, hselected, hcommand⟩)
      | hprofile | ⟨skill, hskill, hselected, hcommand⟩)
    · exact .inl hprofile
    · exact .inr ⟨skill, hskill, (hselects skill.1).mpr (.inl hselected), hcommand⟩
    · exact .inl hprofile
    · exact .inr ⟨skill, hskill, (hselects skill.1).mpr (.inr hselected), hcommand⟩

/-! ### Declared workflows -/

section Declared

open Footprint

variable {files : Mapping String} {contents : Contents} {includeRoles : Bool}

omit [DecidableEq Settings] in
/-- The profile of a closure is read and parsed, and the workflows after it. -/
theorem profile_of_closure
    (h : (readClosure yaml (readFile files) includeRoles).run {} = .ok (spec, contents)) :
    ∃ text profile before skillNames, files.get? spec.project.verification = some text
      ∧ Known contents spec.project.verification
      ∧ parseVerificationProfile yaml (utf8 text) = .ok profile
      ∧ ReadFrom files before
      ∧ ((sortedWorkflows spec).foldlM (readWorkflow yaml (readFile files) profile.1) []).run before
        = .ok (skillNames, contents) := by
  obtain ⟨start, hstart, hverification⟩ := verification_of_closure h
  have hknown := Local.known_bind readStep_grows (readWorkflows_local spec) hverification
    fun _ _ hread => known_of_read hread
  obtain ⟨content, before, hread, hrest⟩ := run_bind_ok.mp hverification
  obtain ⟨text, hget, rfl⟩ := text_of_read hstart hread
  have hbefore := (read_local _ _).invariant readFrom_step hread hstart
  unfold readWorkflows at hrest
  obtain ⟨profile, _, hlift, hrest⟩ := run_bind_ok.mp hrest
  obtain ⟨hprofile, rfl⟩ := run_lift_ok.mp hlift
  obtain ⟨skillNames, _, hworkflows, hrest⟩ := run_bind_ok.mp hrest
  obtain ⟨-, rfl⟩ := run_pure_ok.mp hrest
  exact ⟨text, profile, before, skillNames, hget, hknown, hprofile, hbefore, hworkflows⟩

omit [DecidableEq Settings] in
/-- Each workflow of a closure is read and parsed, and so are its skills. -/
theorem workflow_of_closure
    (h : (readClosure yaml (readFile files) includeRoles).run {} = .ok (spec, contents))
    {workflow : String × WorkflowRequest} (hworkflow : workflow ∈ spec.workflows.entries) :
    ∃ text definition, files.get? workflow.2.definition = some text
      ∧ Known contents workflow.2.definition
      ∧ parseWorkflowDefinition yaml (utf8 text) = .ok definition
      ∧ ∀ reference ∈ definition.1.verificationSkills, ∃ text skill,
        files.get? reference = some text ∧ Known contents reference
          ∧ parseVerificationSkill yaml (utf8 text) = .ok skill := by
  obtain ⟨_, profile, before, _, -, -, -, hbefore, hworkflows⟩ := profile_of_closure h
  have hmem : workflow ∈ sortedWorkflows spec := (List.mem_insertionSort _).mpr hworkflow
  obtain ⟨_, _, middle, middle', hmiddle, hrun, hlater⟩ := Local.exists_of_mem_foldlM readStep_grows
    (readWorkflow_local profile.1) readFrom_step hworkflows hbefore hmem
  unfold readWorkflow at hrun
  obtain ⟨content, first, hread, hrun⟩ := run_bind_ok.mp hrun
  obtain ⟨text, hget, rfl⟩ := text_of_read hmiddle hread
  have hfirst := (read_local _ _).invariant readFrom_step hread hmiddle
  obtain ⟨definition, _, hlift, hrun⟩ := run_bind_ok.mp hrun
  obtain ⟨hdefinition, rfl⟩ := run_lift_ok.mp hlift
  obtain ⟨_, _, hlift, hskills⟩ := run_bind_ok.mp hrun
  obtain ⟨-, rfl⟩ := run_lift_ok.mp hlift
  have hskill := @readSkill_local _ _ yaml profile.1
  have hknown : Known contents workflow.2.definition :=
    hlater _ ((Local.foldlM readStep_grows hskill _ _).invariant
      (fun hmove => readStep_grows _ _ _ hmove _) hskills (known_of_read hread))
  refine ⟨text, definition, hget, hknown, hdefinition, fun reference hreference => ?_⟩
  obtain ⟨_, _, start, stop, hstart, hrun, hafter⟩ := Local.exists_of_mem_foldlM readStep_grows
    hskill readFrom_step hskills hfirst hreference
  unfold readSkill at hrun
  obtain ⟨content, last, hread, hrun⟩ := run_bind_ok.mp hrun
  obtain ⟨text, hget, rfl⟩ := text_of_read hstart hread
  obtain ⟨skill, _, hlift, hrun⟩ := run_bind_ok.mp hrun
  obtain ⟨hparsed, rfl⟩ := run_lift_ok.mp hlift
  obtain ⟨-, rfl⟩ := run_lift_ok.mp hrun
  exact ⟨text, skill, hget, hlater _ (hafter _ (known_of_read hread)), hparsed⟩

omit [DecidableEq Settings] in
/-- An accepted snapshot declares each of its workflows. -/
theorem exists_declares (h : snapshotFromFleetFiles yaml files = .ok (spec, snapshot))
    (hdeclared : workflowId ∈ spec.workflows.keys) :
    ∃ profile skills, Declares yaml spec snapshot workflowId profile skills := by
  obtain ⟨-, hread⟩ := snapshotFromFleetFiles_ok.mp h
  obtain ⟨contents, hclosure, hsnapshot⟩ := snapshotFromReader_ok.mp hread
  have hsnapshotFiles {path text : String} (hknown : Known contents path)
      (hget : files.get? path = some text) : (snapshotFiles snapshot).get? path = some text :=
    Mapping.get?_eq_some_iff.mpr ((mem_of_mem_snapshotFiles h).mpr
      ((get?_of_mem_snapshot hclosure hsnapshot).mpr ⟨hknown, hget⟩))
  obtain ⟨text, profile, _, _, hget, hknown, hprofile, -, -⟩ := profile_of_closure hclosure
  obtain ⟨⟨_, request⟩, hentry, rfl⟩ := List.mem_map.mp hdeclared
  obtain ⟨text', definition, hget', hknown', hdefinition, hskills⟩ :=
    workflow_of_closure hclosure hentry
  obtain ⟨skills, hall⟩ : ∃ skills, definition.1.verificationSkills.mapM
      (skillAt yaml (snapshotFiles snapshot)) = .ok skills := by
    refine exists_mapM_ok.mpr fun reference hreference => ?_
    obtain ⟨text, skill, hget, hknown, hskill⟩ := hskills reference hreference
    exact ⟨skill, bind_ok.mpr ⟨text, demand_ok.mpr (hsnapshotFiles hknown hget), hskill⟩⟩
  refine ⟨profile, skills, definition, ?_, ?_, hall⟩
  · refine bind_ok.mpr ⟨request, demand_ok.mpr (Mapping.get?_eq_some_iff.mpr hentry), ?_⟩
    exact bind_ok.mpr ⟨text', demand_ok.mpr (hsnapshotFiles hknown' hget'), hdefinition⟩
  · obtain ⟨file, hfile, hpath, hcontent⟩ :=
      (get?_of_mem_snapshot hclosure hsnapshot).mpr ⟨hknown, hget⟩
    unfold verificationProfile
    cases hfound : snapshot.files.find? fun file => file.path = spec.project.verification with
    | none => exact absurd (decide_eq_true hpath) (List.find?_eq_none.mp hfound file hfile)
    | some found =>
        have hname := List.find?_some hfound
        have hsame := ((get?_of_mem_snapshot hclosure hsnapshot).mp
          ⟨found, List.mem_of_find?_eq_some hfound, of_decide_eq_true hname, rfl⟩).2
        obtain rfl := Option.some.inj (hsame.symm.trans hget)
        exact bind_ok.mpr ⟨found, rfl, hprofile⟩

end Declared

/-- The required commands do not see the order of the paths, are those of its parts together, and
leave out no skill that covers what may be changed. -/
theorem requiredVerificationCommands_complete {left right union commands : List String}
    (hleft : left ≠ []) (hright : right ≠ []) (hleft' : left.Nodup) (hright' : right.Nodup)
    (hunion : ∀ path, path ∈ union ↔ path ∈ left ∨ path ∈ right)
    (h : requiredVerificationCommands yaml spec snapshot workflowId union .codeChange
      = .ok commands) :
    ∃ profile skills fromLeft fromRight, Declares yaml spec snapshot workflowId profile skills
      ∧ requiredVerificationCommands yaml spec snapshot workflowId left .codeChange = .ok fromLeft
      ∧ requiredVerificationCommands yaml spec snapshot workflowId right .codeChange = .ok fromRight
      ∧ commands = sortedTexts (fromLeft ++ fromRight)
      ∧ (∀ left', left.Perm left' →
        requiredVerificationCommands yaml spec snapshot workflowId left' .codeChange = .ok fromLeft)
      ∧ profile.1.requiredForCodeChange ⊆ fromLeft
      ∧ ∀ skill ∈ skills, ∀ path,
        (∃ allowed ∈ left, pathIsWithin yaml.casefold path [allowed] = true) →
        (∃ scope ∈ skill.1.appliesToPaths, pathIsWithin yaml.casefold path [scope] = true) →
        skill.1.requiredCommandIds ⊆ fromLeft := by
  obtain ⟨haccepted, hpaths, -, profile, skills, hdeclares, rfl⟩ :=
    requiredVerificationCommands_ok.mp h
  have hpart {part : List String} (hnonempty : part ≠ []) (hnodup : part.Nodup)
      (hsub : part ⊆ union) :
      requiredVerificationCommands yaml spec snapshot workflowId part .codeChange
        = .ok (sortedTexts (commandsFor profile.1 skills part)) :=
    requiredVerificationCommands_ok.mpr ⟨haccepted, hpaths.subset hnodup hsub, hnonempty, profile,
      skills, hdeclares, rfl⟩
  have hsub : left ⊆ union := fun path hmem => (hunion path).mpr (.inl hmem)
  have hsub' : right ⊆ union := fun path hmem => (hunion path).mpr (.inr hmem)
  refine ⟨profile, skills, _, _, hdeclares, hpart hleft hleft' hsub, hpart hright hright' hsub',
    sortedTexts_congr fun command => ?_, fun left' hperm => ?_, fun command hcommand => ?_,
    fun skill hskill path hallowed hscope command hcommand => ?_⟩
  · rw [List.mem_append, mem_sortedTexts, mem_sortedTexts]
    exact mem_commandsFor_union hunion
  · rw [hpart (fun hnil => hleft (hperm.trans (List.Perm.of_eq hnil)).eq_nil)
      (hperm.nodup_iff.mp hleft') fun path hmem => hsub (hperm.mem_iff.mpr hmem)]
    refine congrArg Except.ok (sortedTexts_congr fun command => ?_)
    simp only [mem_commandsFor, selects_iff, hperm.mem_iff]
  · exact mem_sortedTexts.mpr (mem_commandsFor.mpr (.inl hcommand))
  · obtain ⟨allowed, hmem, hwithin⟩ := hallowed
    obtain ⟨scope, hscoped, hcovered⟩ := hscope
    have hselected := selects_of_within skill.2 hmem hwithin hscoped hcovered
    exact mem_sortedTexts.mpr (mem_commandsFor.mpr (.inr ⟨skill, hskill, hselected, hcommand⟩))

end

/-! ### The small configuration -/

section Sample

mutual

theorem valueHoldsSecret_nil (value : JsonValue) : valueHoldsSecret [] value = false := by
  cases value with
  | arr items => exact itemsHoldSecret_nil items
  | obj fields => exact fieldsHoldSecret_nil fields
  | _ => rfl

theorem itemsHoldSecret_nil (items : List JsonValue) :
    AgentFleet.itemsHoldSecret [] items = false := by
  cases items with
  | nil => rfl
  | cons =>
      rw [AgentFleet.itemsHoldSecret, valueHoldsSecret_nil, itemsHoldSecret_nil, Bool.or_false]

theorem fieldsHoldSecret_nil (fields : JsonObject) :
    AgentFleet.fieldsHoldSecret [] fields = false := by
  cases fields with
  | nil => rfl
  | cons =>
      rw [AgentFleet.fieldsHoldSecret, valueHoldsSecret_nil, fieldsHoldSecret_nil,
        Bool.or_false]
      rfl

end

/-- A change of the guide and the sources of the small configuration. -/
theorem requiredVerificationCommands_complete_sample :
    ∃ spec snapshot commands,
      requiredVerificationCommands sampleYaml spec snapshot "code-change" ["docs/guide.md", "src"]
          .codeChange = .ok commands
        ∧ ∃ fromLeft, requiredVerificationCommands sampleYaml spec snapshot "code-change"
            ["docs/guide.md"] .codeChange = .ok fromLeft ∧ fromLeft ⊆ commands := by
  obtain ⟨spec, snapshot, hsample, hkeys⟩ := snapshotFromFleetFiles_sampleFiles
  have hagain := (snapshotFromFleetFiles_fixpoint hsample).1
  have hdeclared : "code-change" ∈ spec.workflows.keys := by
    rw [hkeys]
    exact List.mem_singleton_self _
  obtain ⟨profile, skills, hdeclares⟩ := exists_declares hsample hdeclared
  have haccepted : RequestAccepted sampleYaml spec snapshot "code-change" := {
    specClean := valueHoldsSecret_nil _
    snapshotClean := valueHoldsSecret_nil _
    workflowClean := rfl
    rebuilt := ⟨spec, .refl spec, hagain⟩
    declared := hdeclared }
  have hpaths : PathsAccepted sampleYaml ["docs/guide.md", "src"] := by
    refine ⟨fun _ _ => rfl, by decide, ?_, ?_⟩
    · decide
    · decide
  have hunion := requiredVerificationCommands_ok.mpr
    ⟨haccepted, hpaths, List.cons_ne_nil _ _, profile, skills, hdeclares, rfl⟩
  obtain ⟨_, _, fromLeft, fromRight, -, hleft, -, hcommands, -⟩ :=
    @requiredVerificationCommands_complete _ _ _ _ _ _ _ ["docs/guide.md"] ["src"] _ _
      (List.cons_ne_nil _ _) (List.cons_ne_nil _ _) (List.nodup_singleton _)
      (List.nodup_singleton _) (fun path => by simp) hunion
  refine ⟨spec, snapshot, _, hunion, fromLeft, hleft, fun command hmem => ?_⟩
  rw [hcommands]
  exact mem_sortedTexts.mpr (List.mem_append_left _ hmem)

end Sample

end AgentFleet.Configuration
