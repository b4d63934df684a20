import AgentFleet.Domain.Conversation
import AgentFleet.Domain.ModelProfiles
import AgentFleet.Domain.Security
import AgentFleet.Lib.Checks
import AgentFleet.Lib.Versions
import AgentFleet.Persistence.Runs

/-! # The model configuration store: tables and validated reads

The versions of profiles and selections, the bindings of runs and the audit receipts are only ever
added.  A profile that was removed has a tombstone as its last version.  The projects and the runs
are those of the other stores.

A stored text is decoded when it is read: `decode` refuses a text that is too long or in which a
registered secret shows.  What is written is looked through as data where it is a receipt, and not
at all where it is a tombstone. -/

namespace AgentFleet.ModelProfiles

open Relational Transaction Checks Versions

/-! ### Errors and services -/

/-- `_invalid`. -/
def modelInvalid : StoreError :=
  .fleet {
    code := .recoveryRequired
    message := "The model configuration identity, revision or audit record is inconsistent."
    remediation := "Inspect the selected local state; do not fall back to another model "
      ++ "configuration." }

/-- `_stale`. -/
def modelStale : StoreError :=
  .fleet {
    code := .configInvalid
    message := "The reviewed model configuration revision is stale or still referenced."
    remediation := "Inspect current profiles and project selections, then review the exact "
      ++ "change again." }

/-- `_boundary`. -/
def boundary : StoreError → StoreError
  | .fleet error => .fleet error
  | .validation => modelInvalid
  | .integrity =>
      .fleet {
        code := .stateUnavailable
        message := "The model configuration store is unavailable."
        remediation := "Restore the selected local state before changing or resolving model "
          ++ "selections." }

/-- `_MAX_RECORD_BYTES`. -/
def maxRecordBytes : ℕ := 1048576

/-- `_MAX_CATALOG`. -/
def maxCatalog : ℕ := 1024

/-- What the store is constructed with: the forms of the registered secrets, how a time is
written, and whether the text of a project is accepted by `_decode`. -/
structure ModelServices extends Services where
  forms : List SecretForm
  isoTimestamp : Timestamp → String
  projectSafe : ConversationProject → Bool

/-! ### Tables -/

/-- A row of `model_configuration_audit`. -/
structure AuditRow where
  sequence : ℕ
  auditSha256 : Sha256
  audit : ModelConfigurationAudit
deriving DecidableEq

/-- A row of `model_profile_versions` beside its name and its revision. -/
structure ProfileRecord where
  removed : Bool
  recordSha256 : Sha256
  profile : ModelProfile
  auditSequence : ℕ
deriving DecidableEq

/-- A row of `project_model_selection_versions` beside its project and its revision. -/
structure SelectionRecord where
  recordSha256 : Sha256
  selection : ProjectModelSelection
  auditSequence : ℕ
deriving DecidableEq

/-- A row of `run_model_bindings`. -/
structure BindingsRow where
  rootRunId : String
  projectId : String
  bindingsSha256 : Sha256
  bindings : RunModelBindings
  auditSequence : ℕ
deriving DecidableEq

instance : Constrained AuditRow where
  clash a b := a.sequence = b.sequence
  symm _ _ h := h.symm
  decidableClash _ _ := inferInstanceAs (Decidable (_ = _))

instance : Constrained BindingsRow where
  clash a b := a.rootRunId = b.rootRunId
  symm _ _ h := h.symm
  decidableClash _ _ := inferInstanceAs (Decidable (_ = _))

/-- The state of the store. -/
structure ModelState where
  store : Store
  projects : List ConversationProject
  audits : Table AuditRow
  profiles : History String ProfileRecord
  selections : History String SelectionRecord
  bindings : Table BindingsRow

/-- A transaction body of the store. -/
abbrev ModelTxn := Txn ModelState StoreError

/-- The tables before the first call. -/
def ModelState.fresh (store : Store) (projects : List ConversationProject) : ModelState where
  store := store
  projects := projects
  audits := .empty
  profiles := .empty
  selections := .empty
  bindings := .empty

section Reads

variable (svc : ModelServices) (s : ModelState)

/-! ### Digests and texts -/

/-- The digest of a profile. -/
def profileSha256 (profile : ModelProfile) : Sha256 :=
  svc.canonicalJsonHash (JsonValue.sorted (.obj profile.modelDump))

/-- The digest of a selection. -/
def selectionSha256 (selection : ProjectModelSelection) : Sha256 :=
  svc.canonicalJsonHash (JsonValue.sorted (.obj selection.modelDump))

/-- `bindings_sha256`. -/
def bindingsSha256 (bindings : RunModelBindings) : Sha256 :=
  bindings.bindingsSha256 svc.canonicalJsonHash svc.isoTimestamp

/-- `audit_sha256`. -/
def auditSha256 (audit : ModelConfigurationAudit) : Sha256 :=
  audit.auditSha256 svc.canonicalJsonHash svc.isoTimestamp

/-- The dump of a receipt. -/
def auditDump (audit : ModelConfigurationAudit) : JsonValue :=
  .obj (audit.modelDump svc.isoTimestamp)

/-- The dump of the bindings of a run. -/
def bindingsDump (bindings : RunModelBindings) : JsonValue :=
  .obj (bindings.modelDump svc.isoTimestamp)

/-- The text of a document is short, and no registered secret shows in it. -/
def decodable (dump : JsonValue) : Prop :=
  encodedLength dump.text ≤ maxRecordBytes ∧ holdsSecret svc.forms dump.text = false

/-- Whether a document can be decoded is decided on its characters. -/
theorem decodable_iff {dump : JsonValue} : decodable svc dump ↔
    (dump.chars.map Char.utf8Size).sum ≤ maxRecordBytes
      ∧ (svc.forms.any fun form => form.1.toList <:+: dump.chars) = false := by
  unfold decodable encodedLength holdsSecret textHas JsonValue.text
  simp only [String.toList_ofList]

instance (dump : JsonValue) : Decidable (decodable svc dump) :=
  decidable_of_iff _ (decodable_iff svc).symm

/-- `_decode`, of the text of a record. -/
def decode (dump : JsonValue) (valid : Prop) [Decidable valid] : Except StoreError Unit := do
  refuse (¬ decodable svc dump) modelInvalid
  refuse (¬ valid) .validation

/-- `_decode`, of the text of a profile. -/
def decodeProfile (profile : ModelProfile) : Except StoreError Unit :=
  decode svc (.obj profile.modelDump) profile.validates

/-- `_decode`, of the text of a selection. -/
def decodeSelection (selection : ProjectModelSelection) : Except StoreError Unit :=
  decode svc (.obj selection.modelDump) selection.validates

/-- `_decode`, of the text of the bindings of a run. -/
def decodeBindings (bindings : RunModelBindings) : Except StoreError Unit :=
  decode svc (bindingsDump svc bindings) (bindings.validates svc.canonicalJsonHash)

/-- `_decode`, of the text of a receipt. -/
def decodeAudit (audit : ModelConfigurationAudit) : Except StoreError Unit :=
  decode svc (auditDump svc audit) audit.validates

/-! ### Reads -/

/-- `_name`. -/
def checkName (name : String) : Except StoreError Unit := do
  refuse (isProfileName name = false) .validation
  refuse (holdsSecret svc.forms name = true) modelInvalid

/-- `_project`. -/
def projectOf (projectId : String) : Except StoreError ConversationProject := do
  refuse (isProjectId projectId = false) .validation
  refuse (holdsSecret svc.forms projectId = true) modelInvalid
  let project ← demand modelInvalid (s.projects.find? fun project => project.projectId = projectId)
  refuse (svc.projectSafe project = false) modelInvalid
  return project

/-- The row of a receipt. -/
def auditRow? (sequence : ℕ) : Option AuditRow :=
  s.audits.find? fun row => row.sequence = sequence

/-- The receipt with a number is stored under it and under its digest. -/
def checkedAudit (sequence : ℕ) : Except StoreError ModelConfigurationAudit := do
  let row ← demand modelInvalid (auditRow? s sequence)
  decodeAudit svc row.audit
  refuse (row.audit.sequence ≠ sequence ∨ auditSha256 svc row.audit ≠ row.auditSha256) modelInvalid
  return row.audit

/-- `_audit`. -/
def auditOf (sequence : ℕ) : Except StoreError ModelConfigurationAudit := do
  let audit ← checkedAudit svc s sequence
  if sequence = 1 then refuse (audit.previousSha256 ≠ none) modelInvalid
  else do
    let previous ← checkedAudit svc s (sequence - 1)
    refuse (audit.previousSha256 ≠ some (auditSha256 svc previous)) modelInvalid
  return audit

/-- `_receipt`. -/
def checkReceipt (sequence : ℕ) (action : AuditAction) (target : String) (revision : ℕ)
    (recordHash : Sha256) : Except StoreError Unit := do
  let audit ← auditOf svc s sequence
  refuse ((audit.action, audit.target, audit.revision, audit.recordSha256)
    ≠ (action, target, revision, recordHash)) modelInvalid

/-- What a version of a profile is audited as. -/
def profileAction (removed : Bool) : AuditAction :=
  if removed then .profileRemove else .profileSet

/-- `_profile`: the profile unless it was removed, and its latest revision. -/
def profileOf (name : String) : Except StoreError (Option ModelProfile × ℕ) := do
  checkName svc name
  match ← s.profiles.current modelInvalid name with
  | none => return (none, 0)
  | some row => do
      let record := row.record
      decodeProfile svc record.profile
      refuse (record.profile.name ≠ name ∨ record.profile.revision ≠ row.revision
        ∨ profileSha256 svc record.profile ≠ record.recordSha256) modelInvalid
      checkReceipt svc s record.auditSequence (profileAction record.removed) name row.revision
        record.recordSha256
      refuse (record.removed = true ∧ record.profile.enabled = true) modelInvalid
      return (if record.removed then none else some record.profile, row.revision)

/-- The names of all profiles, in order. -/
def profileNames : List String := sortedSet (s.profiles.versions.rows.map Version.key)

/-- `list_profiles`. -/
def listProfiles : Except StoreError (List ModelProfile) := do
  refuse (maxCatalog < (profileNames s).length) modelInvalid
  let read ← (profileNames s).mapM (profileOf svc s)
  return read.filterMap Prod.fst

/-- `_selection`. -/
def selectionOf (projectId : String) : Except StoreError (Option ProjectModelSelection) := do
  let project ← projectOf svc s projectId
  match ← s.selections.current modelInvalid projectId with
  | none => return none
  | some row => do
      let record := row.record
      decodeSelection svc record.selection
      refuse (record.selection.projectId ≠ projectId ∨ record.selection.revision ≠ row.revision
        ∨ record.selection.repositoryIdentity ≠ project.identityHash
        ∨ selectionSha256 svc record.selection ≠ record.recordSha256) modelInvalid
      checkReceipt svc s record.auditSequence .selectionSet projectId row.revision
        record.recordSha256
      return some record.selection

/-- `_validated_run`. -/
def runOf (runId : String) : Except StoreError Run :=
  Prod.fst <$> validatedRun svc.toServices runId s.store

/-- The run is a root run of the project; the project and the run. -/
def rootRunOf (projectId rootRunId : String) : Except StoreError (ConversationProject × Run) := do
  let project ← projectOf svc s projectId
  refuse (isRunId rootRunId = false) .validation
  refuse (holdsSecret svc.forms rootRunId = true) modelInvalid
  let run ← runOf svc s rootRunId
  refuse (run.projectId ≠ projectId ∨ run.parentRunId ≠ none) modelInvalid
  return (project, run)

/-- `_bindings`. -/
def bindingsOf (projectId rootRunId : String) : Except StoreError (Option RunModelBindings) := do
  let (project, _) ← rootRunOf svc s projectId rootRunId
  match s.bindings.find? fun row => row.rootRunId = rootRunId with
  | none => return none
  | some row => do
      decodeBindings svc row.bindings
      refuse (row.bindings.rootRunId ≠ rootRunId ∨ row.bindings.projectId ≠ projectId
        ∨ row.projectId ≠ projectId
        ∨ row.bindings.repositoryIdentity ≠ project.identityHash
        ∨ bindingsSha256 svc row.bindings ≠ row.bindingsSha256) modelInvalid
      checkReceipt svc s row.auditSequence .runBind rootRunId 1 row.bindingsSha256
      return some row.bindings

/-- `list_audit`. -/
def listAudit (afterSequence limit : ℤ) : Except StoreError (List ModelConfigurationAudit) := do
  refuse (afterSequence < 0 ∨ limit < 1 ∨ 100 < limit) modelInvalid
  let sequences := (s.audits.rows.map AuditRow.sequence).mergeSort fun a b => a ≤ b
  ((sequences.filter fun (sequence : ℕ) => afterSequence < (sequence : ℤ)).take limit.toNat).mapM
    (auditOf svc s)

end Reads

end AgentFleet.ModelProfiles
