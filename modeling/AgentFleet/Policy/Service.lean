import AgentFleet.Persistence.Evolution
import AgentFleet.Policy.Authority

/-! # The user's policy beside the store

A call of the policy service proposes a new policy, which `publish` puts in place of the old one.
The policy is a file and the grants are rows of the store, so the two fail independently: a
publication can fail before or after the file is replaced, and the transactions that follow it
are inputs of their own.  A call reads the policy that it replaces, as the revision ensures; the
clock says anything at any time.

* `policyMachine` runs calls and transactions in any order, with any of these failures.
* `propose` says what each call wants to publish; `next_policy` that nothing else is published. -/

namespace AgentFleet

open Checks Transition Transaction

/-- What the policy service is constructed with. -/
structure PolicyServices extends TrustServices where
  policyHasSecret : UserTrustPolicy → Bool

/-! ### Grants of a run and of a project -/

/-- `_get_grant` for each identifier. -/
def readGrants : List String → StoreTxn (List CapabilityGrant)
  | [] => pure []
  | grantId :: rest => do
      let grant ← getGrant grantId
      let grants ← readGrants rest
      return grant :: grants

/-- The rows of the grants of a run. -/
def runGrantRows (r : Records) (runId : String) : List GrantRow :=
  r.capabilityGrants.rows.filter fun row => row.1.runId = runId

/-- The rows of the grants of a project: those of its runs. -/
def projectGrantRows (r : Records) (projectId : String) : List GrantRow :=
  r.capabilityGrants.rows.filter fun row =>
    (r.runRow? row.1.runId).any fun owner => owner.projectId = projectId

/-- `list_grants`. -/
def listGrants (runId : String) : StoreTxn (List CapabilityGrant) := do
  let r ← getRecords
  let grants ← readGrants ((runGrantRows r runId).map fun row => row.1.grantId)
  refuseIf (∃ grant ∈ grants, grant.runId ≠ runId) (invalidApproval (some "grant-list-binding"))
  return grants

/-- `list_project_grants`. -/
def listProjectGrants (projectId : String) : StoreTxn (List CapabilityGrant) := do
  let r ← getRecords
  let grants ← readGrants ((projectGrantRows r projectId).map fun row => row.1.grantId)
  refuseIf (∃ grant ∈ grants, grant.projectId ≠ projectId)
    (invalidApproval (some "grant-list-binding"))
  return grants

/-- What a body returns on a store. -/
def StoreTxn.value {α : Type} (x : StoreTxn α) (s : Store) : PolicyResult α := (commit x s).1

/-! ### Calls -/

/-- A call of `PermissionPolicyService` that may change the policy, with what it is given and
what it reads from its surroundings. -/
inductive PolicyCall where
  | configure (projectAt : PolicyResult Project) (mode : TrustMode)
      (allowedPaths : Option (List String)) (actor : String) (expectedRevision : Option ℕ)
  | stageAlwaysRule (requestId : String) (scope : ExactPermissionScope) (now : Timestamp)
      (getProject : PolicyResult Project)
  | revokeRule (identifier : String) (actor : String) (now : Timestamp)
  | reset (projectAt : PolicyResult Project) (actor : String) (now : Timestamp)
      (revokedAt : String → Timestamp)

/-- `_require_user`. -/
def requireUser (actor : String) : PolicyResult Unit :=
  policyCheck (actor ≠ "user") "Only an explicit user action may change trust or approvals."

section Calls

variable (svc : PolicyServices)

/-- `review_settings`. -/
def reviewSettings (paths : List String) : PolicyResult Unit := do
  policyCheck (svc.redactor.containsSecretData (.arr (paths.map .str)) = true)
    "A registered secret is present in a proposed path ceiling."
  policyCheck ((∃ path ∈ paths, ¬ canonicalTrustPath svc.casefold path true)
      ∨ paths = [] ∨ 128 < paths.length ∨ ¬ (paths.map svc.casefold).Nodup)
    "Reviewed path scopes must be canonical, bounded and unique."

/-- The policy with the settings of a project in place of those it had. -/
def UserTrustPolicy.withSettings (policy : UserTrustPolicy) (settings : ProjectTrustSettings) :
    UserTrustPolicy :=
  { policy with
    projects := policy.projects.filter (fun other => other.projectId ≠ settings.projectId)
      ++ [settings] }

/-- The review of the paths that a call of `configure` gives. -/
def reviewGiven (allowedPaths : Option (List String)) : PolicyResult Unit :=
  match allowedPaths with
  | some paths => reviewSettings svc paths
  | none => .ok ()

/-- The paths that `configure` sets: those given, or those that the project has. -/
def configuredPaths (policy : UserTrustPolicy) (project : Project)
    (allowedPaths : Option (List String)) : PolicyResult (List String) :=
  match allowedPaths with
  | some paths => .ok paths
  | none => ProjectTrustSettings.allowedPaths <$> trustSettings project policy

/-- `configure`: the policy that it publishes. -/
def configure (policy : UserTrustPolicy) (projectAt : PolicyResult Project) (mode : TrustMode)
    (allowedPaths : Option (List String)) (actor : String) (expectedRevision : Option ℕ) :
    PolicyResult UserTrustPolicy := do
  requireUser actor
  reviewGiven svc allowedPaths
  let project ← projectAt
  policyCheck (∃ revision ∈ expectedRevision, policy.revision ≠ revision)
    "The user trust policy changed after initialization review."
  let prior := policy.settings? project.projectId
  policyCheck (∃ settings ∈ prior, settings.repositoryIdentity ≠ project.identityHash)
    "Stored project trust belongs to a different repository."
  let paths ← configuredPaths policy project allowedPaths
  let settings : ProjectTrustSettings :=
    { projectId := project.projectId
      repositoryIdentity := project.identityHash
      trustMode := mode
      allowedPaths := paths
      grantsRevokedBefore := prior.bind ProjectTrustSettings.grantsRevokedBefore }
  if settings.validates svc.toTrustServices then pure (policy.withSettings settings)
  else .error .validation

/-- `"rule_" + request_id.removeprefix("perm_")`. -/
def ruleIdOf (requestId : String) : String :=
  "rule_" ++ (textAfter? requestId "perm_").getD requestId

/-- The settings that a staged rule adds, for a project that the policy does not have. -/
def addedSettings (policy : UserTrustPolicy) (projectId : String)
    (getProject : PolicyResult Project) : PolicyResult (List ProjectTrustSettings) :=
  match policy.settings? projectId with
  | some _ => .ok []
  | none => do
      let project ← getProject
      let settings ← trustSettings project policy
      pure [settings]

/-- `stage_always_rule`: the policy that it publishes, unless the rule is already there. -/
def stageAlwaysRule (policy : UserTrustPolicy) (requestId : String) (scope : ExactPermissionScope)
    (now : Timestamp) (getProject : PolicyResult Project) :
    PolicyResult (Option UserTrustPolicy) :=
  match policy.rules.find? fun rule => rule.ruleId = ruleIdOf requestId with
  | some rule => do
      policyCheck (rule.scope.pyEq scope = false ∨ rule.revokedAt ≠ none)
        "The approval's exact rule was changed or revoked."
      pure none
  | none => do
      let rule : UserTrustRule :=
        { ruleId := ruleIdOf requestId
          scope := scope
          effect := .allow
          createdAt := now
          sourceApprovalRequestId := some requestId }
      if ¬ rule.validates svc.toTrustServices then .error .validation
      else do
        let added ← addedSettings policy scope.projectId getProject
        pure (some
          { policy with
            rules := policy.rules ++ [rule]
            projects := policy.projects ++ added })

/-- `revoke`, for a rule: the policy that it publishes, unless the rule is already revoked. -/
def revokeRule (policy : UserTrustPolicy) (identifier actor : String) (now : Timestamp) :
    PolicyResult (Option UserTrustPolicy) := do
  requireUser actor
  match policy.rules.find? fun rule => rule.ruleId = identifier with
  | none => .error (.fleet (policyError "The requested permission rule does not exist."))
  | some rule =>
      if rule.revokedAt ≠ none then pure none
      else
        pure (some
          { policy with
            rules := policy.rules.map fun other =>
              if other.ruleId = identifier then { rule with revokedAt := some now } else other })

/-- The cutoff of a reset: now, no earlier than any grant, and later than the cutoff before. -/
def resetCutoff (prior : ProjectTrustSettings) (grants : List CapabilityGrant) (now : Timestamp) :
    Timestamp :=
  let cutoff := (grants.map CapabilityGrant.issuedAt).foldl max now
  match prior.grantsRevokedBefore with
  | none => cutoff
  | some before => max cutoff (before + 1)

/-- `reset`: the policy that it publishes before it revokes the grants one by one. -/
def reset (policy : UserTrustPolicy) (store : Store) (projectAt : PolicyResult Project)
    (actor : String) (now : Timestamp) (revokedAt : String → Timestamp) :
    PolicyResult UserTrustPolicy := do
  requireUser actor
  let project ← projectAt
  let prior ← trustSettings project policy
  let grants ← (listProjectGrants project.projectId).value store
  let settings := { prior with grantsRevokedBefore := some (resetCutoff prior grants now) }
  let cleared : UserTrustPolicy :=
    { policy with
      rules := policy.rules.map fun rule =>
        if rule.scope.projectId = project.projectId ∧ rule.revokedAt = none then
          { rule with revokedAt := some (revokedAt rule.ruleId) }
        else rule }
  pure (cleared.withSettings settings)

end Calls

/-! ### The machine -/

/-- The policy file, which has passed its validation, and the store. -/
structure PolicyState (svc : PolicyServices) where
  policy : UserTrustPolicy
  valid : policy.validates svc.toTrustServices
  store : Store

/-- What can go wrong with a publication: an error, before or after the file is replaced. -/
structure SaveFault where
  saved : Bool
  error : StoreError

/-- A call with the fault of its publication, or a transaction of the store. -/
inductive PolicyInput where
  | call (call : PolicyCall) (fault : Option SaveFault)
  | transaction (input : StoreInput)

section Machine

variable (svc : PolicyServices)

/-- What a call wants to publish. -/
def propose (s : PolicyState svc) : PolicyCall → PolicyResult (Option UserTrustPolicy)
  | .configure projectAt mode allowedPaths actor expectedRevision =>
      some <$> configure svc s.policy projectAt mode allowedPaths actor expectedRevision
  | .stageAlwaysRule requestId scope now getProject =>
      stageAlwaysRule svc s.policy requestId scope now getProject
  | .revokeRule identifier actor now => revokeRule s.policy identifier actor now
  | .reset projectAt actor now revokedAt =>
      some <$> reset s.policy s.store projectAt actor now revokedAt

/-- The policy under the revision after another. -/
def UserTrustPolicy.published (proposed : UserTrustPolicy) (revision : ℕ) : UserTrustPolicy :=
  { proposed with revision := revision + 1 }

/-- `_publish_policy_change`. -/
def publish (s : PolicyState svc) (proposed : UserTrustPolicy) (fault : Option SaveFault) :
    PolicyResult Unit × PolicyState svc :=
  if svc.policyHasSecret proposed = true then
    (.error (.fleet (policyError
      "A registered secret is present in the proposed trust policy.")), s)
  else if ¬ (proposed.validates svc.toTrustServices ∧ proposed.revision = s.policy.revision) then
    (.error (.fleet (policyError "The complete proposed user trust policy is invalid.")), s)
  else if h : (proposed.published s.policy.revision).validates svc.toTrustServices then
    let saved : PolicyState svc := ⟨proposed.published s.policy.revision, h, s.store⟩
    match fault with
    | none => (.ok (), saved)
    | some fault => (.error fault.error, if fault.saved then saved else s)
  else (.error (.fleet (policyError "The complete proposed user trust policy is invalid.")), s)

/-- A call. -/
def perform (s : PolicyState svc) (call : PolicyCall) (fault : Option SaveFault) :
    PolicyResult Unit × PolicyState svc :=
  match propose svc s call with
  | .error e => (.error e, s)
  | .ok none => (.ok (), s)
  | .ok (some proposed) => publish svc s proposed fault

/-- The policy and the store under calls and transactions. -/
def policyMachine : Machine (PolicyState svc) PolicyInput (PolicyResult Unit) where
  step s
    | .call call fault =>
        let r := perform svc s call fault
        (r.2, r.1)
    | .transaction input =>
        let r := (storeMachine svc.toServices).step s.store input
        ({ s with store := r.1 }, r.2.map fun _ => ())

end Machine

section Steps

variable {svc : PolicyServices} {s : PolicyState svc}

/-- A call replaces the policy by what it proposes, or leaves it. -/
theorem next_policy (s : PolicyState svc) (call : PolicyCall) (fault : Option SaveFault) :
    (policyMachine svc).next s (.call call fault) = s
      ∨ ∃ proposed, propose svc s call = .ok (some proposed)
        ∧ ((policyMachine svc).next s (.call call fault)).policy
          = proposed.published s.policy.revision
        ∧ ((policyMachine svc).next s (.call call fault)).store = s.store := by
  have hnext : (policyMachine svc).next s (.call call fault) = (perform svc s call fault).2 := rfl
  rw [hnext]
  unfold perform
  cases hpropose : propose svc s call with
  | error => exact .inl rfl
  | ok proposed =>
      cases proposed with
      | none => exact .inl rfl
      | some proposed =>
          dsimp only
          unfold publish
          by_cases hsecret : svc.policyHasSecret proposed = true
          · rw [if_pos hsecret]
            exact .inl rfl
          · rw [if_neg hsecret]
            by_cases hinvalid : proposed.validates svc.toTrustServices
                ∧ proposed.revision = s.policy.revision
            · rw [if_neg (not_not_intro hinvalid)]
              by_cases hvalid : (proposed.published s.policy.revision).validates svc.toTrustServices
              · rw [dif_pos hvalid]
                cases fault with
                | none => exact .inr ⟨proposed, rfl, rfl, rfl⟩
                | some fault =>
                    dsimp only
                    cases fault.saved with
                    | true => exact .inr ⟨proposed, rfl, rfl, rfl⟩
                    | false => exact .inl rfl
              · rw [dif_neg hvalid]
                exact .inl rfl
            · rw [if_pos hinvalid]
              exact .inl rfl

theorem next_transaction (s : PolicyState svc) (input : StoreInput) :
    ((policyMachine svc).next s (.transaction input)).policy = s.policy
      ∧ ((policyMachine svc).next s (.transaction input)).store
        = (storeMachine svc.toServices).next s.store input :=
  ⟨rfl, rfl⟩

variable {store : Store} {grants : List CapabilityGrant}

theorem value_ok {α : Type} {x : StoreTxn α} {a : α} (h : x.value store = .ok a) :
    ∃ t, x store = .ok (a, t) :=
  ⟨_, commit_ok h⟩

/-! ### What the lists hold -/

theorem readGrants_ok {ids : List String} {t : Store} (h : readGrants ids store = .ok (grants, t)) :
    t = store ∧ (∀ grant ∈ grants, ∃ row ∈ store.records.capabilityGrants, grant = row.1)
      ∧ ∀ id ∈ ids, ∃ grant ∈ grants, ∃ row, store.records.grant? id = some row
        ∧ grant = row.1 := by
  induction ids generalizing grants t with
  | nil =>
      obtain ⟨rfl, rfl⟩ := pure_ok.mp h
      exact ⟨rfl, fun grant hgrant => absurd hgrant List.not_mem_nil,
        fun id hid => absurd hid List.not_mem_nil⟩
  | cons grantId rest ih =>
      obtain ⟨grant, u, hgrant, h⟩ := Transaction.bind_ok.mp h
      obtain ⟨others, v, hothers, h⟩ := Transaction.bind_ok.mp h
      obtain ⟨rfl, rfl⟩ := pure_ok.mp h
      obtain ⟨row, hrow, rfl, -, rfl⟩ := getGrant_ok hgrant
      obtain ⟨rfl, hrows, hids⟩ := ih hothers
      refine ⟨rfl, ?_, ?_⟩
      · rw [List.forall_mem_cons]
        exact ⟨⟨row, (Records.grant?_mem hrow).1, rfl⟩, hrows⟩
      · rw [List.forall_mem_cons]
        refine ⟨⟨row.1, List.mem_cons_self, row, hrow, rfl⟩, fun id hid => ?_⟩
        obtain ⟨other, hother, hfound⟩ := hids id hid
        exact ⟨other, List.mem_cons_of_mem _ hother, hfound⟩

theorem listGrants_ok {runId : String} (h : (listGrants runId).value store = .ok grants) :
    ∀ grant ∈ grants, ∃ row ∈ store.records.capabilityGrants, grant = row.1 := by
  obtain ⟨t, h⟩ := value_ok h
  obtain ⟨r, u, hr, h⟩ := Transaction.bind_ok.mp h
  obtain ⟨listed, v, hlisted, h⟩ := Transaction.bind_ok.mp h
  obtain ⟨_, w, hbound, h⟩ := Transaction.bind_ok.mp h
  obtain ⟨rfl, -⟩ := pure_ok.mp h
  obtain ⟨rfl, rfl⟩ := getRecords_ok.mp hr
  exact (readGrants_ok hlisted).2.1

/-- A project's list holds each of its grants, and they all name the project. -/
theorem listProjectGrants_ok {projectId : String}
    (h : (listProjectGrants projectId).value store = .ok grants) :
    ∀ row ∈ projectGrantRows store.records projectId,
      row.1 ∈ grants ∧ row.1.projectId = projectId := by
  obtain ⟨t, h⟩ := value_ok h
  obtain ⟨r, u, hr, h⟩ := Transaction.bind_ok.mp h
  obtain ⟨listed, v, hlisted, h⟩ := Transaction.bind_ok.mp h
  obtain ⟨_, w, hbound, h⟩ := Transaction.bind_ok.mp h
  obtain ⟨rfl, -⟩ := pure_ok.mp h
  obtain ⟨rfl, rfl⟩ := getRecords_ok.mp hr
  obtain ⟨hsame, -⟩ := refuseIf_ok.mp hbound
  intro row hrow
  have hmem : row ∈ store.records.capabilityGrants :=
    Relational.Table.mem_def.mpr (List.mem_of_mem_filter hrow)
  obtain ⟨grant, hgrant, found, hfound, rfl⟩ :=
    (readGrants_ok hlisted).2.2 row.1.grantId (List.mem_map.mpr ⟨row, hrow, rfl⟩)
  obtain ⟨hstored, hid⟩ := Records.grant?_mem hfound
  obtain rfl : found = row := Relational.Table.eq_of_clash hstored hmem (.inl hid)
  refine ⟨hgrant, ?_⟩
  by_contra hother
  exact hsame ⟨found.1, hgrant, hother⟩

end Steps

end AgentFleet
