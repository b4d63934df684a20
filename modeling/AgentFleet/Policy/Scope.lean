import AgentFleet.Policy.Authority

/-! # What an exact scope binds

A scope holds some of the parameters of an intent under other keys, as digests.  Under the schemas
that the baseline enforces for each action this loses nothing: `parameters_eq_of_scope` recovers
the parameters, and `sameExecution_of_scope` everything that an execution depends on.

A scope names no run and no task, so that a permission for it outlives them. -/

namespace AgentFleet

open JsonValue

/-! ### Equal scopes -/

/-- Two scopes agree, field by field. -/
structure ScopeAgrees (left right : ExactPermissionScope) : Prop where
  projectId : left.projectId = right.projectId
  repositoryIdentity : left.repositoryIdentity = right.repositoryIdentity
  principalRole : left.principalRole = right.principalRole
  workflow : left.workflow = right.workflow
  stage : left.stage = right.stage
  action : left.action = right.action
  resource : left.resource = right.resource
  parameters : pyEqFields left.parameters right.parameters = true
  command : left.command.map CommandSpec.modelDump = right.command.map CommandSpec.modelDump
  workspaceKind : left.workspaceKind = right.workspaceKind
  sandboxProvider : left.sandboxProvider = right.sandboxProvider
  sandboxSecurityLevel : left.sandboxSecurityLevel = right.sandboxSecurityLevel
  networkMode : left.networkMode = right.networkMode

theorem scopeAgrees_of_pyEq {left right : ExactPermissionScope} (h : left.pyEq right = true) :
    ScopeAgrees left right := by
  unfold ExactPermissionScope.pyEq at h
  simp only [Bool.and_eq_true, decide_eq_true_iff] at h
  obtain ⟨⟨⟨⟨⟨⟨⟨⟨⟨⟨⟨⟨hproject, hrepository⟩, hrole⟩, hworkflow⟩, hstage⟩, haction⟩, hresource⟩,
    hparameters⟩, hcommand⟩, hkind⟩, hprovider⟩, hlevel⟩, hnetwork⟩ := h
  exact ⟨hproject, hrepository, hrole, hworkflow, hstage, haction, hresource, hparameters,
    congrArg _ hcommand, hkind, hprovider, hlevel, hnetwork⟩

theorem WorkflowStage.value_injective {left right : WorkflowStage}
    (h : left.value = right.value) : left = right := by
  cases left <;> cases right <;> first | rfl | exact absurd h (by decide)

theorem WorkspaceKind.value_injective {left right : WorkspaceKind}
    (h : left.value = right.value) : left = right := by
  cases left <;> cases right <;> first | rfl | exact absurd h (by decide)

theorem SandboxName.value_injective {left right : SandboxName} (h : left.value = right.value) :
    left = right := by
  cases left <;> cases right <;> first | rfl | exact absurd h (by decide)

theorem SandboxSecurityLevel.value_injective {left right : SandboxSecurityLevel}
    (h : left.value = right.value) : left = right := by
  cases left <;> cases right <;> first | rfl | exact absurd h (by decide)

theorem SandboxNetworkMode.value_injective {left right : SandboxNetworkMode}
    (h : left.value = right.value) : left = right := by
  cases left <;> cases right <;> first | rfl | exact absurd h (by decide)

theorem Sha256.hex_injective {left right : Sha256} (h : left.hex = right.hex) : left = right := by
  cases left
  cases right
  cases h
  rfl

variable {key : String} {parameters : JsonObject}

/-- The entries of two equal objects at one place and under one key are equal. -/
theorem value_eq_of_object {left right : List (String × JsonValue)} {keys : List String}
    (hnodup : keys.Nodup) (hleft : left.map Prod.fst = keys) (hright : right.map Prod.fst = keys)
    (h : object left = object right) (i : ℕ) {value other : JsonValue}
    (hvalue : left[i]? = some (key, value)) (hother : right[i]? = some (key, other)) :
    value = other := by
  rw [← hleft] at hnodup
  have hfield := field?_object hnodup (List.mem_of_getElem? hvalue)
  rw [hleft, ← hright] at hnodup
  rw [h, field?_object hnodup (List.mem_of_getElem? hother)] at hfield
  exact (Option.some.inj hfield).symm

theorem CanonicalResource.modelDump_injective {left right : CanonicalResource}
    (h : left.modelDump = right.modelDump) : left = right := by
  have hnodup : ["kind", "identifier"].Nodup := by decide
  have hobject := JsonValue.obj.inj h
  have hkind := JsonValue.str.inj (value_eq_of_object hnodup rfl rfl hobject 0 rfl rfl)
  have hidentifier := JsonValue.str.inj (value_eq_of_object hnodup rfl rfl hobject 1 rfl rfl)
  cases left
  cases right
  cases hkind
  cases hidentifier
  rfl

/-- The fields of `ExactPermissionScope`. -/
def scopeKeys : List String :=
  ["project_id", "repository_identity", "principal_role", "workflow", "stage", "action",
    "resource", "parameters", "command", "workspace_kind", "sandbox_provider",
    "sandbox_security_level", "network_mode", "source_checkout_read_only"]

/-- Scopes with one JSON form agree. -/
theorem scopeAgrees_of_modelDump {left right : ExactPermissionScope}
    (h : left.modelDump = right.modelDump) : ScopeAgrees left right := by
  have hnodup : scopeKeys.Nodup := by decide
  have hat (i : ℕ) {key : String} {value other : JsonValue} :
      left.entries[i]? = some (key, value) → right.entries[i]? = some (key, other) →
        value = other :=
    value_eq_of_object hnodup rfl rfl h i
  have hcommand : (left.command.map CommandSpec.modelDump).getD .null
      = (right.command.map CommandSpec.modelDump).getD .null := hat 8 rfl rfl
  exact
    { projectId := JsonValue.str.inj (hat 0 rfl rfl)
      repositoryIdentity := Sha256.hex_injective (JsonValue.str.inj (hat 1 rfl rfl))
      principalRole := JsonValue.str.inj (hat 2 rfl rfl)
      workflow := JsonValue.str.inj (hat 3 rfl rfl)
      stage := WorkflowStage.value_injective (JsonValue.str.inj (hat 4 rfl rfl))
      action := JsonValue.str.inj (hat 5 rfl rfl)
      resource := CanonicalResource.modelDump_injective (hat 6 rfl rfl)
      parameters := by
        rw [JsonValue.obj.inj (hat 7 rfl rfl)]
        exact pyEqFields_refl _
      command := by
        cases hleft : left.command with
        | none =>
            cases hright : right.command with
            | none => rfl
            | some =>
                rw [hleft, hright] at hcommand
                cases hcommand
        | some =>
            cases hright : right.command with
            | none =>
                rw [hleft, hright] at hcommand
                cases hcommand
            | some =>
                rw [hleft, hright] at hcommand
                exact congrArg some hcommand
      workspaceKind := WorkspaceKind.value_injective (JsonValue.str.inj (hat 9 rfl rfl))
      sandboxProvider := SandboxName.value_injective (JsonValue.str.inj (hat 10 rfl rfl))
      sandboxSecurityLevel :=
        SandboxSecurityLevel.value_injective (JsonValue.str.inj (hat 11 rfl rfl))
      networkMode := SandboxNetworkMode.value_injective (JsonValue.str.inj (hat 12 rfl rfl)) }

/-! ### The parameters of an accepted intent -/

/-- The keys of the parameters of an action. -/
def parameterKeys (action : String) : List String :=
  if action = "workspace.write_file" then ["content"]
  else if action = "workspace.apply_edit" then ["expected_matches", "expected_sha256", "new", "old"]
  else if action = "workspace.delete_path" then ["expected_sha256"]
  else if action = "repo.search_text" then ["query"]
  else if action = "command.run" then ["command_id", "command_spec_sha256", "network_mode"]
  else if action = "fixture.record_side_effect" then ["record"]
  else []

/-- The parameters are those of the action: texts, and under keys that are not digested numbers. -/
structure HasSchema (action : String) (parameters : JsonObject) : Prop where
  keys : keysOf parameters = parameterKeys action
  values : ∀ entry ∈ parameters, (∃ text, entry.2 = .str text)
    ∨ (entry.1 ∉ digestedKeys ∧ ∃ n, entry.2 = .int n)

theorem textField?_eq_some {text : String} (h : textField? parameters key = some text) :
    field? parameters key = some (.str text) := by
  unfold textField? at h
  split at h
  · rename_i found hfound
    cases h
    exact hfound
  · cases h

theorem isIntField_eq_true (h : isIntField parameters key = true) :
    ∃ n, field? parameters key = some (.int n) := by
  unfold isIntField at h
  split at h
  · rename_i n hfound
    exact ⟨n, hfound⟩
  · exact Bool.noConfusion h

/-- A schema is checked key by key. -/
theorem hasSchema_of_fields {action : String} (hkeys : keysOf parameters = parameterKeys action)
    (hnodup : (parameterKeys action).Nodup)
    (hfields : ∀ key ∈ parameterKeys action, (∃ text, field? parameters key = some (.str text))
      ∨ (key ∉ digestedKeys ∧ ∃ n, field? parameters key = some (.int n))) :
    HasSchema action parameters := by
  refine ⟨hkeys, fun entry hentry => ?_⟩
  have hfield : field? parameters entry.1 = some entry.2 :=
    field?_of_mem (hkeys ▸ hnodup : (keysOf parameters).Nodup) hentry
  have hkey : entry.1 ∈ parameterKeys action := by
    rw [← hkeys]
    exact List.mem_map.mpr ⟨entry, hentry, rfl⟩
  rcases hfields entry.1 hkey with ⟨text, htext⟩ | ⟨hplain, n, hn⟩
  · rw [hfield] at htext
    exact .inl ⟨text, Option.some.inj htext⟩
  · rw [hfield] at hn
    exact .inr ⟨hplain, n, Option.some.inj hn⟩

section Accepted

variable {svc : TrustServices} {intent : ToolIntent} {task : ReviewedTask}
  {sandbox : SandboxCapabilities}

theorem hasSchema_of_mutation (h : mutationParametersValid intent) :
    HasSchema intent.action intent.parameters := by
  have htext {key : String} (hkey : textField? intent.parameters key ≠ none) :
      ∃ text, field? intent.parameters key = some (.str text) := by
    obtain ⟨text, htext⟩ := Option.ne_none_iff_exists'.mp hkey
    exact ⟨text, textField?_eq_some htext⟩
  have hmem {key : String} {P : String → Prop}
      (hkey : ∃ text ∈ textField? intent.parameters key, P text) :
      ∃ text, field? intent.parameters key = some (.str text) := by
    obtain ⟨text, hsome, -⟩ := hkey
    exact ⟨text, textField?_eq_some (Option.mem_def.mp hsome)⟩
  rcases h with ⟨haction, hkeys, hcontent⟩ | ⟨haction, hkeys, hdigest, hold, hnew, hmatches⟩
    | ⟨haction, hkeys, hdigest⟩
  · have hschema : parameterKeys intent.action = ["content"] := by rw [haction]; rfl
    refine hasSchema_of_fields (hkeys.trans hschema.symm) (hschema ▸ by decide) ?_
    rw [hschema]
    intro key hkey
    rw [List.mem_singleton] at hkey
    subst hkey
    exact .inl (htext hcontent)
  · have hschema : parameterKeys intent.action
        = ["expected_matches", "expected_sha256", "new", "old"] := by rw [haction]; rfl
    refine hasSchema_of_fields (hkeys.trans hschema.symm) (hschema ▸ by decide) ?_
    rw [hschema]
    intro key hkey
    simp only [List.mem_cons, List.not_mem_nil, or_false] at hkey
    rcases hkey with rfl | rfl | rfl | rfl
    · exact .inr ⟨by decide, isIntField_eq_true hmatches⟩
    · exact .inl (hmem hdigest)
    · exact .inl (htext hnew)
    · exact .inl (hmem hold)
  · have hschema : parameterKeys intent.action = ["expected_sha256"] := by rw [haction]; rfl
    refine hasSchema_of_fields (hkeys.trans hschema.symm) (hschema ▸ by decide) ?_
    rw [hschema]
    intro key hkey
    rw [List.mem_singleton] at hkey
    subst hkey
    exact .inl (hmem hdigest)

theorem hasSchema_nil {action : String} (h : parameterKeys action = []) : HasSchema action [] :=
  ⟨h.symm, fun _ hentry => absurd hentry List.not_mem_nil⟩

variable {role : String} {executionKind : Option AgentRole}

theorem hasSchema_of_observation (hacts : observesWorkspace intent role)
    (h : observationValid svc intent task) : HasSchema intent.action intent.parameters := by
  unfold observationValid at h
  have haction := hacts.1
  simp only [List.mem_cons, List.not_mem_nil, or_false] at haction
  split_ifs at h with hview hsearch
  · rw [h.2]
    rcases hview with hview | hview <;> rw [hview] <;> exact hasSchema_nil rfl
  · obtain ⟨-, hkeys, query, hquery, -⟩ := h
    have hschema : parameterKeys intent.action = ["query"] := by rw [hsearch]; rfl
    refine hasSchema_of_fields (hkeys.trans hschema.symm) (hschema ▸ by decide) ?_
    rw [hschema]
    intro key hkey
    rw [List.mem_singleton] at hkey
    subst hkey
    exact .inl ⟨query, textField?_eq_some (Option.mem_def.mp hquery)⟩
  · rw [h.2.1]
    rcases haction with haction | haction | haction | haction
    · exact absurd (.inl haction) hview
    · rw [haction]
      exact hasSchema_nil rfl
    · exact absurd haction hsearch
    · exact absurd (.inr haction) hview

/-- The parameters of a command are those that its content and its network determine. -/
theorem hasSchema_of_command {command : CommandSpec} (haction : intent.action = "command.run")
    (h : commandValid svc intent sandbox command) : HasSchema intent.action intent.parameters := by
  obtain ⟨hparameters, -, hnetwork⟩ := h
  obtain ⟨network, hfield⟩ :
      ∃ network, textField? intent.parameters "network_mode" = some network := by
    unfold networkAllowed at hnetwork
    split_ifs at hnetwork with hnone
    · exact ⟨_, hnone⟩
    · exact ⟨_, hnetwork.1⟩
  rw [textField?_eq_some hfield, Option.getD_some] at hparameters
  have hsorted : commandParameters svc.toServices command (.str network) =
      [("command_id", .str command.commandId),
        ("command_spec_sha256", .str (svc.canonicalJsonHash command.modelDump).hex),
        ("network_mode", .str network)] := by
    have hid : ¬ "command_spec_sha256" < "command_id" := by decide
    have hmode : ¬ "network_mode" < "command_id" := by decide
    have hmode' : ¬ "network_mode" < "command_spec_sha256" := by decide
    unfold commandParameters object
    simp only [List.foldl_cons, List.foldl_nil, setField, String.reduceEq, if_false, if_neg hid,
      if_neg hmode, if_neg hmode']
  rw [hsorted] at hparameters
  rw [eq_of_pyEqFields_str (by simp) hparameters, haction]
  exact ⟨rfl, by simp⟩

theorem hasSchema_of_sideEffect (h : recordsSideEffect intent task sandbox role) :
    HasSchema intent.action intent.parameters := by
  obtain ⟨haction, -, -, hparameters, -⟩ := h
  unfold approvalParameters at hparameters
  rw [eq_of_pyEqFields_str (by simp) hparameters, haction]
  exact ⟨rfl, by simp⟩

/-- What the baseline accepts has the parameters of its action. -/
theorem hasSchema_of_baseline
    (h : (baselineEvaluate svc intent task sandbox executionKind).outcome ≠ .deny) :
    HasSchema intent.action intent.parameters := by
  obtain ⟨-, hcase⟩ := baseline_cases h
  cases hcase with
  | mutation acts valid => exact hasSchema_of_mutation valid
  | observation acts valid => exact hasSchema_of_observation acts valid
  | command acts command reviewed valid => exact hasSchema_of_command acts.1 valid
  | sideEffect acts => exact hasSchema_of_sideEffect acts

/-- The action decides whether an accepted intent has a side effect. -/
theorem sideEffect_iff_of_baseline
    (h : (baselineEvaluate svc intent task sandbox executionKind).outcome ≠ .deny) :
    intent.sideEffect = true ↔ intent.action ∉
      ["repo.list_files", "repo.read_file", "repo.search_text", "workspace.get_diff"] := by
  obtain ⟨-, hcase⟩ := baseline_cases h
  cases hcase with
  | mutation acts valid =>
      refine iff_of_true acts.2.2.2.2.2.2 ?_
      have haction := acts.1
      simp only [List.mem_cons, List.not_mem_nil, or_false] at haction
      rcases haction with haction | haction | haction <;> rw [haction] <;> decide
  | observation acts =>
      rw [acts.2.2.2]
      exact iff_of_false Bool.false_ne_true (not_not_intro acts.1)
  | command acts command reviewed valid =>
      refine iff_of_true acts.2.2.2.2.1 ?_
      rw [acts.1]
      decide
  | sideEffect acts =>
      refine iff_of_true acts.2.2.2.2.2.2.2.2 ?_
      rw [acts.1]
      decide

end Accepted

/-! ### The parameters of a scope -/

/-- The key under which a scope holds a parameter. -/
def scopeKey (key : String) : String :=
  if key ∈ digestedKeys then key ++ "_sha256" else key

/-- The texts among the parameters. -/
def textsOf (parameters : JsonObject) : List String :=
  parameters.filterMap fun entry => match entry.2 with
    | .str text => some text
    | _ => none

section Parameters

variable {svc : TrustServices} {action : String} {left right : JsonObject}

variable {key : String}

theorem mem_textsOf {parameters : JsonObject} {text : String}
    (h : (key, JsonValue.str text) ∈ parameters) : text ∈ textsOf parameters :=
  List.mem_filterMap.mpr ⟨_, h, rfl⟩

theorem scopeParameter_str {text : String} :
    scopeParameter svc (key, .str text) = (scopeKey key,
      if key ∈ digestedKeys then .str (svc.textSha256 text).hex else .str text) := by
  unfold scopeParameter scopeKey
  by_cases hkey : key ∈ digestedKeys
  · rw [if_pos hkey, if_pos hkey]
    exact if_pos hkey
  · rw [if_neg hkey, if_neg hkey]
    exact if_neg hkey

theorem scopeParameter_int {n : ℤ} (hkey : key ∉ digestedKeys) :
    scopeParameter svc (key, .int n) = (scopeKey key, .int n) := by
  unfold scopeKey
  rw [if_neg hkey]
  rfl

theorem scopeParameter_key (h : HasSchema action left) {entry : String × JsonValue}
    (hentry : entry ∈ left) : (scopeParameter svc entry).1 = scopeKey entry.1 := by
  obtain ⟨key, value⟩ := entry
  rcases h.values _ hentry with ⟨text, rfl⟩ | ⟨hkey, n, rfl⟩
  · rw [scopeParameter_str]
  · rw [scopeParameter_int hkey]

theorem scopeKey_nodup (action : String) : ((parameterKeys action).map scopeKey).Nodup := by
  unfold parameterKeys
  split_ifs <;> decide

/-- A scope holds every parameter, under its key. -/
theorem field?_scopeParameters (h : HasSchema action left) {entry : String × JsonValue}
    (hentry : entry ∈ left) :
    field? (scopeParameters svc left) (scopeKey entry.1) = some (scopeParameter svc entry).2 := by
  have hkeys : (left.map (scopeParameter svc)).map Prod.fst
      = (parameterKeys action).map scopeKey := by
    rw [← h.keys, List.map_map]
    unfold keysOf
    rw [List.map_map]
    exact List.map_congr_left fun other hother => scopeParameter_key h hother
  refine field?_object (hkeys ▸ scopeKey_nodup action) ?_
  rw [← scopeParameter_key h hentry]
  exact List.mem_map.mpr ⟨entry, hentry, rfl⟩

/-- Two parameters under one key are equal when the scope holds equal values for them. -/
theorem value_eq_of_scopeParameter (hleft : HasSchema action left)
    (hright : HasSchema action right)
    (htexts : ∀ a ∈ textsOf left, ∀ b ∈ textsOf right, svc.textSha256 a = svc.textSha256 b → a = b)
    {value other : JsonValue} (hvalue : (key, value) ∈ left) (hother : (key, other) ∈ right)
    (h : pyEq (scopeParameter svc (key, value)).2 (scopeParameter svc (key, other)).2 = true) :
    value = other := by
  rcases hleft.values _ hvalue with ⟨text, htext⟩ | ⟨hkey, n, hn⟩
  · dsimp only at htext
    subst htext
    rcases hright.values _ hother with ⟨text', htext'⟩ | ⟨hkey, n, hn⟩
    · dsimp only at htext'
      subst htext'
      rw [scopeParameter_str, scopeParameter_str] at h
      dsimp only at h
      split_ifs at h with hkey
      · have hhex := JsonValue.str.inj (eq_str_of_pyEq h)
        rw [htexts text (mem_textsOf hvalue) text' (mem_textsOf hother)
          (Sha256.hex_injective hhex)]
      · exact eq_str_of_pyEq h
    · dsimp only at hn hkey
      subst hn
      rw [scopeParameter_str, if_neg hkey, scopeParameter_int hkey] at h
      simp [pyEq, number?] at h
  · dsimp only at hn hkey
    subst hn
    rcases hright.values _ hother with ⟨text', htext'⟩ | ⟨-, m, hm⟩
    · dsimp only at htext'
      subst htext'
      rw [scopeParameter_str, if_neg hkey, scopeParameter_int hkey] at h
      exact eq_str_of_pyEq h
    · dsimp only at hm
      subst hm
      rw [scopeParameter_int hkey, scopeParameter_int hkey] at h
      rw [eq_of_pyEq_int h]

theorem eq_of_keysOf (hkeys : keysOf left = keysOf right)
    (h : ∀ key value other, (key, value) ∈ left → (key, other) ∈ right → value = other) :
    left = right := by
  induction left generalizing right with
  | nil =>
      cases right with
      | nil => rfl
      | cons => cases hkeys
  | cons entry rest ih =>
      cases right with
      | nil => cases hkeys
      | cons entry' =>
          obtain ⟨key, value⟩ := entry
          obtain ⟨key', other⟩ := entry'
          obtain ⟨rfl, hrest⟩ := List.cons.inj hkeys
          rw [h key value other List.mem_cons_self List.mem_cons_self]
          rw [ih hrest fun k v w hv hw =>
            h k v w (List.mem_cons_of_mem _ hv) (List.mem_cons_of_mem _ hw)]

/-- Digesting some of the parameters under other keys loses nothing. -/
theorem parameters_eq_of_scope (hleft : HasSchema action left) (hright : HasSchema action right)
    (htexts : ∀ a ∈ textsOf left, ∀ b ∈ textsOf right, svc.textSha256 a = svc.textSha256 b → a = b)
    (h : pyEqFields (scopeParameters svc left) (scopeParameters svc right) = true) :
    left = right := by
  refine eq_of_keysOf (hleft.keys.trans hright.keys.symm) fun key value other hvalue hother => ?_
  obtain ⟨found, hfound, hpyEq⟩ := field?_of_pyEqFields h (field?_scopeParameters hleft hvalue)
  rw [field?_scopeParameters hright hother] at hfound
  obtain rfl := Option.some.inj hfound
  exact value_eq_of_scopeParameter hleft hright htexts hvalue hother hpyEq

end Parameters

/-! ### What two intents with one scope have in common -/

/-- An intent that the baseline accepts, with the scope that was built for it. -/
structure Proposal (svc : TrustServices) where
  reads : PolicyReads
  intent : ToolIntent
  task : ReviewedTask
  sandbox : SandboxCapabilities
  executionKind : Option AgentRole
  ctx : PolicyContext
  run : SandboxedRun
  networkMode : SandboxNetworkMode
  role : ResolvedRoleTemplate
  built : TrustedContext svc reads intent task sandbox ctx run networkMode role
  accepted : (baselineEvaluate svc intent task sandbox executionKind).outcome ≠ .deny

namespace Proposal

variable {svc : TrustServices} (left right : Proposal svc)

/-- The reviewed command of a proposal to run one. -/
def reviewedCommand (proposal : Proposal svc) : Option CommandSpec :=
  if proposal.intent.action = "command.run" then
    taskCommand proposal.task proposal.intent.resource.identifier proposal.sandbox.provider
  else none

/-- The scopes are equal, as values or by their digests. -/
def SameScope : Prop :=
  left.ctx.scope.pyEq right.ctx.scope = true
    ∨ left.ctx.scope.scopeSha256 svc = right.ctx.scope.scopeSha256 svc

/-- No digest takes a text, or the scope, of one proposal for another of the other. -/
structure DigestsApart : Prop where
  texts : ∀ a ∈ textsOf left.intent.parameters, ∀ b ∈ textsOf right.intent.parameters,
    svc.textSha256 a = svc.textSha256 b → a = b
  scopes : left.ctx.scope.scopeSha256 svc = right.ctx.scope.scopeSha256 svc →
    left.ctx.scope.modelDump = right.ctx.scope.modelDump

/-- The proposals are the same execution in the same kind of sandbox. -/
structure SameExecution : Prop where
  project : left.ctx.project.projectId = right.ctx.project.projectId
  repository : left.ctx.project.identityHash = right.ctx.project.identityHash
  principalRole : left.intent.principalRole = right.intent.principalRole
  workflow : left.intent.workflow = right.intent.workflow
  stage : left.intent.stage = right.intent.stage
  action : left.intent.action = right.intent.action
  resource : left.intent.resource = right.intent.resource
  sideEffect : left.intent.sideEffect = right.intent.sideEffect
  parameters : left.intent.parameters = right.intent.parameters
  command : left.reviewedCommand.map CommandSpec.modelDump
    = right.reviewedCommand.map CommandSpec.modelDump
  workspace : left.role.executionKind = .verifier ↔ right.role.executionKind = .verifier
  sandboxName : left.run.sandboxName = right.run.sandboxName
  securityLevel : left.sandbox.securityLevel = right.sandbox.securityLevel
  networkMode : left.networkMode = right.networkMode

theorem scopeAgrees (hscope : SameScope left right) (hapart : DigestsApart left right) :
    ScopeAgrees left.ctx.scope right.ctx.scope := by
  rcases hscope with hequal | hdigest
  · exact scopeAgrees_of_pyEq hequal
  · exact scopeAgrees_of_modelDump (hapart.scopes hdigest)

theorem workspaceKind_iff {kind kind' : AgentRole}
    (h : (if kind = .verifier then WorkspaceKind.verification else .candidate)
      = if kind' = .verifier then .verification else .candidate) :
    kind = .verifier ↔ kind' = .verifier := by
  by_cases hkind : kind = .verifier
  · by_cases hkind' : kind' = .verifier
    · exact iff_of_true hkind hkind'
    · rw [if_pos hkind, if_neg hkind'] at h
      cases h
  · by_cases hkind' : kind' = .verifier
    · rw [if_neg hkind, if_pos hkind'] at h
      cases h
    · exact iff_of_false hkind hkind'

/-- Intents with one scope are one execution. -/
theorem sameExecution_of_scope (svc : TrustServices) (left right : Proposal svc)
    (hscope : SameScope left right) (hapart : DigestsApart left right) :
    SameExecution left right := by
  have hagrees := scopeAgrees left right hscope hapart
  rw [left.built.scope, right.built.scope] at hagrees
  have haction : left.intent.action = right.intent.action := hagrees.action
  have hleft := hasSchema_of_baseline left.accepted
  have hright := hasSchema_of_baseline right.accepted
  rw [← haction] at hright
  have hsideEffect : left.intent.sideEffect = true ↔ right.intent.sideEffect = true := by
    rw [sideEffect_iff_of_baseline left.accepted, sideEffect_iff_of_baseline right.accepted,
      haction]
  have hworkspace := workspaceKind_iff hagrees.workspaceKind
  exact
    { project := hagrees.projectId
      repository := hagrees.repositoryIdentity
      principalRole := hagrees.principalRole
      workflow := hagrees.workflow
      stage := hagrees.stage
      action := haction
      resource := hagrees.resource
      sideEffect := Bool.eq_iff_iff.mpr hsideEffect
      parameters := parameters_eq_of_scope hleft hright hapart.texts hagrees.parameters
      command := hagrees.command
      workspace := hworkspace
      sandboxName := hagrees.sandboxProvider
      securityLevel := hagrees.sandboxSecurityLevel
      networkMode := hagrees.networkMode }

/-! ### One scope in two runs -/

/-- The sample run of a task. -/
def runOf (runId taskId : String) : SandboxedRun :=
  { sampleSandboxedRun with
    runId := runId
    taskId := some taskId }

/-- The sample task of a run, on some paths. -/
def taskOf (runId taskId : String) (allowedPaths : List String) : ReviewedTask :=
  { sampleReviewedTask with
    runId := runId
    taskId := taskId
    allowedPaths := allowedPaths }

/-- The stores with one run of the sample project. -/
def readsOf (runId taskId : String) (allowedPaths : List String) : PolicyReads :=
  { samplePolicyReads {} [] with
    getRun := fun _ => .ok (runOf runId taskId)
    getTask := fun _ => .ok (taskOf runId taskId allowedPaths) }

/-- A file, as a run proposes to write it. -/
def writeOf (runId taskId : String) : ToolIntent :=
  { sideEffectIntent with
    runId := runId
    taskId := taskId
    action := "workspace.write_file"
    resource := ⟨"workspace_path", "src/app.py"⟩
    parameters := [("content", .str "x = 1")] }

/-- What the broker knows of the write, whatever the run. -/
def writeContext : PolicyContext where
  project := sampleProject
  config := sampleConfig
  settings :=
    { projectId := "prj_1"
      repositoryIdentity := zeroDigest
      allowedPaths := ["."] }
  policy := {}
  scope :=
    proposedScope sampleTrustServices (writeOf "run_1" "task_1") (taskOf "run_1" "task_1" ["src"])
      fakeSandbox (runOf "run_1" "task_1") sampleProject sampleRole .none

/-- The proposal of the first run. -/
def firstProposal : Proposal sampleTrustServices where
  reads := readsOf "run_1" "task_1" ["src"]
  intent := writeOf "run_1" "task_1"
  task := taskOf "run_1" "task_1" ["src"]
  sandbox := fakeSandbox
  executionKind := some .engineer
  ctx := writeContext
  run := runOf "run_1" "task_1"
  networkMode := .none
  role := sampleRole
  built :=
    { trusted := rfl
      policy := rfl
      settings := rfl
      ceiling := by decide
      scope := rfl
      valid := by decide
      clean := Bool.false_ne_true }
  accepted := by decide

/-- The same proposal of a later run, whose task has other paths. -/
def secondProposal : Proposal sampleTrustServices where
  reads := readsOf "run_2" "task_2" ["src", "docs"]
  intent := writeOf "run_2" "task_2"
  task := taskOf "run_2" "task_2" ["src", "docs"]
  sandbox := fakeSandbox
  executionKind := some .engineer
  ctx := writeContext
  run := runOf "run_2" "task_2"
  networkMode := .none
  role := sampleRole
  built :=
    { trusted := rfl
      policy := rfl
      settings := rfl
      ceiling := by decide
      scope := rfl
      valid := by decide
      clean := Bool.false_ne_true }
  accepted := by decide

theorem firstProposal_apart : DigestsApart firstProposal secondProposal where
  texts := by decide
  scopes := fun _ => rfl

theorem sameExecution_firstProposal : SameExecution firstProposal secondProposal :=
  sameExecution_of_scope sampleTrustServices firstProposal secondProposal (.inr rfl)
    firstProposal_apart

/-- A scope does not tell the runs apart, nor the paths that their tasks may change. -/
theorem sameScope_of_otherTask :
    SameScope firstProposal secondProposal ∧ DigestsApart firstProposal secondProposal
      ∧ firstProposal.intent.runId ≠ secondProposal.intent.runId
      ∧ firstProposal.intent.taskId ≠ secondProposal.intent.taskId
      ∧ firstProposal.task.allowedPaths ≠ secondProposal.task.allowedPaths :=
  ⟨.inr rfl, firstProposal_apart, by decide, by decide, by decide⟩

end Proposal

end AgentFleet
