import AgentFleet.ModelProfiles.Store
import AgentFleet.Lib.Transition

/-! # The model configuration store: the calls

A call checks the current heads and says what it is about to write (`planned`); then a receipt is
appended to the audit, and the record is written with the number of its receipt.  Both happen in
one transaction. -/

namespace AgentFleet.ModelProfiles

open Relational Transaction Checks Versions Transition

/-- `ModelSelectionReview`, as far as a selection is compared with it. -/
structure ModelSelectionReview where
  projectId : String
  conversationId : String
  conversationRevision : ℕ
  runId : Option String
  profileName : String
  profileRevision : ℕ
  configurationSha256 : Sha256
  roleId : Option String
  expectedSelectionRevision : ℤ

/-- What a transaction reads of the conversations, and the answer of `validate_review`. -/
structure ModelReads where
  /-- The revision of a conversation, and its active or else its last run. -/
  conversation : (projectId conversationId : String) → Except StoreError (ℕ × Option String)
  validateReview : Except StoreError Unit

/-- What a call is about to write. -/
inductive ModelWrite where
  | profile (profile : ModelProfile) (removed : Bool)
  | selection (selection : ProjectModelSelection)
  | bindings (bindings : RunModelBindings)

section Calls

variable (svc : ModelServices) (reads : ModelReads) (s : ModelState)

/-! ### What the calls check -/

/-- The checks of `save_profile`. -/
def saveProfile (profile : ModelProfile) (expectedRevision : ℤ) : Except StoreError ModelWrite := do
  decodeProfile svc profile
  let (_, revision) ← profileOf svc s profile.name
  refuse ((revision : ℤ) ≠ expectedRevision ∨ profile.revision ≠ revision + 1) modelStale
  refuse (revision = 0 ∧ maxCatalog ≤ s.profiles.heads.rows.length) modelStale
  return .profile profile false

/-- The reviewed change is the selection, and nothing it was reviewed under has moved. -/
def checkReview (selection : ProjectModelSelection) (expectedRevision : ℤ) :
    Option ModelSelectionReview → Except StoreError Unit
  | none => pure ()
  | some expected => do
      let (reviewed, _) ← profileOf svc s expected.profileName
      let profile ← demand modelStale reviewed
      refuse (expected.projectId ≠ selection.projectId
        ∨ expected.expectedSelectionRevision ≠ expectedRevision
        ∨ profile.enabled = false
        ∨ profile.revision ≠ expected.profileRevision
        ∨ configurationHash svc.canonicalJsonHash profile.configuration
          ≠ expected.configurationSha256
        ∨ (match expected.roleId with
          | some role => selection.roleOverrides.get? role
          | none => selection.defaultProfile) ≠ some expected.profileName) modelStale
      let (revision, runId) ← reads.conversation selection.projectId expected.conversationId
      refuse (revision ≠ expected.conversationRevision) modelStale
      refuse (runId ≠ expected.runId) modelStale
      reads.validateReview

/-- A permitted profile is there and enabled. -/
def checkPermitted (name : String) : Except StoreError Unit := do
  let (found, _) ← profileOf svc s name
  let profile ← demand modelStale found
  refuse (profile.enabled = false) modelStale

/-- The checks of `save_selection`, which is given a review together with what validates it. -/
def saveSelection (selection : ProjectModelSelection) (expectedRevision : ℤ)
    (review : Option ModelSelectionReview) (validates : Bool) : Except StoreError ModelWrite := do
  decodeSelection svc selection
  refuse (review.isSome ≠ validates) modelStale
  let current ← selectionOf svc s selection.projectId
  let project ← projectOf svc s selection.projectId
  let revision := (current.map ProjectModelSelection.revision).getD 0
  refuse ((revision : ℤ) ≠ expectedRevision ∨ selection.revision ≠ revision + 1
    ∨ selection.repositoryIdentity ≠ project.identityHash) modelStale
  selection.permittedProfiles.forM (checkPermitted svc s)
  checkReview svc reads s selection expectedRevision review
  return .selection selection

/-- No current selection of a project permits a profile. -/
def checkUnreferenced (name projectId : String) : Except StoreError Unit := do
  let selection ← selectionOf svc s projectId
  refuse (∃ current ∈ selection, name ∈ current.permittedProfiles) modelStale

/-- The checks of `remove_profile`; it writes the tombstone. -/
def removeProfile (name : String) (expectedRevision : ℤ) : Except StoreError ModelWrite := do
  let (found, revision) ← profileOf svc s name
  let profile ← demand modelStale found
  refuse ((revision : ℤ) ≠ expectedRevision) modelStale
  (s.selections.versions.rows.map Version.key).dedup.forM (checkUnreferenced svc s name)
  let tombstone : ModelProfile :=
    { name, revision := revision + 1, enabled := false, configuration := profile.configuration }
  refuse (¬ tombstone.validates) .validation
  return .profile tombstone true

/-- The binding of a role is to the run itself, or to a permitted profile as it is now. -/
def checkBinding (run : Run) (selection : Option ProjectModelSelection)
    (entry : String × ResolvedModelBinding) : Except StoreError Unit := do
  let (role, binding) := entry
  match binding.profileName with
  | none =>
      let configuration := binding.configuration
      refuse ((configuration.runtimeName, configuration.providerModel, configuration.credentialRef)
        ≠ (run.registration.runtimeName, run.registration.providerModel,
          run.registration.credentialRef)) modelInvalid
  | some name => do
      let (found, _) ← profileOf svc s name
      let selection ← demand modelStale selection
      let profile ← demand modelStale found
      refuse (profile.enabled = false
        ∨ some profile.revision ≠ binding.profileRevision
        ∨ profile.configuration ≠ binding.configuration
        ∨ profile.name ∉ selection.permittedProfiles) modelStale
      let override := selection.roleOverrides.get? role
      refuse (binding.source = .override ∧ override ≠ some profile.name
        ∨ binding.source ≠ .override ∧ override ≠ none
        ∨ binding.source = .default ∧ selection.defaultProfile ≠ some profile.name) modelInvalid

/-- The checks of `save_bindings`; the same bindings are not written twice. -/
def saveBindings (bindings : RunModelBindings) : Except StoreError (Option ModelWrite) := do
  decodeBindings svc bindings
  match ← bindingsOf svc s bindings.projectId bindings.rootRunId with
  | some existing => do
      refuse (existing.pyEq bindings = false) modelStale
      return none
  | none => do
      let (project, run) ← rootRunOf svc s bindings.projectId bindings.rootRunId
      refuse (bindings.repositoryIdentity ≠ project.identityHash) modelInvalid
      let selection ← selectionOf svc s bindings.projectId
      refuse (bindings.selectionRevision ≠ selection.map ProjectModelSelection.revision) modelStale
      bindings.roles.entries.forM (checkBinding svc s run selection)
      return some (.bindings bindings)

/-- A call of the store with its arguments. -/
inductive ModelOp where
  | saveProfile (profile : ModelProfile) (expectedRevision : ℤ)
  | saveSelection (selection : ProjectModelSelection) (expectedRevision : ℤ)
      (review : Option ModelSelectionReview) (validates : Bool)
  | removeProfile (name : String) (expectedRevision : ℤ)
  | saveBindings (bindings : RunModelBindings)

/-- What a call is about to write, if anything. -/
def planned : ModelOp → Except StoreError (Option ModelWrite)
  | .saveProfile profile expectedRevision => some <$> saveProfile svc s profile expectedRevision
  | .saveSelection selection expectedRevision review validates =>
      some <$> saveSelection svc reads s selection expectedRevision review validates
  | .removeProfile name expectedRevision => some <$> removeProfile svc s name expectedRevision
  | .saveBindings bindings => saveBindings svc s bindings

/-! ### What the calls write -/

/-- `COALESCE(MAX(sequence), 0)`. -/
def latestSequence : ℕ := (s.audits.rows.map AuditRow.sequence).foldr max 0

/-- What a receipt says of a write. -/
structure ReceiptSubject where
  action : AuditAction
  target : String
  revision : ℕ
  recordSha256 : Sha256

/-- The subject of the receipt of a write. -/
def subjectOf : ModelWrite → ReceiptSubject
  | .profile profile removed =>
      ⟨profileAction removed, profile.name, profile.revision, profileSha256 svc profile⟩
  | .selection selection =>
      ⟨.selectionSet, selection.projectId, selection.revision, selectionSha256 svc selection⟩
  | .bindings bindings => ⟨.runBind, bindings.rootRunId, 1, bindingsSha256 svc bindings⟩

/-- The receipt with the next number. -/
def nextAudit (previous : Option ModelConfigurationAudit) (subject : ReceiptSubject)
    (now : Timestamp) : ModelConfigurationAudit where
  sequence := latestSequence s + 1
  action := subject.action
  target := subject.target
  revision := subject.revision
  recordSha256 := subject.recordSha256
  previousSha256 := previous.map (auditSha256 svc)
  occurredAt := now

/-- The last receipt, if there is one. -/
def lastAudit : Except StoreError (Option ModelConfigurationAudit) :=
  if latestSequence s = 0 then pure none else some <$> auditOf svc s (latestSequence s)

/-- `_append`. -/
def append (now : Timestamp) (subject : ReceiptSubject) : ModelTxn ℕ := do
  let s ← get
  refuseIf (latestSequence s ≠ s.audits.rows.length) modelInvalid
  let previous ← reading (lastAudit svc)
  let audit := nextAudit svc s previous subject now
  refuseIf (¬ audit.validates) .validation
  refuseIf (valueHoldsSecret svc.forms (auditDump svc audit) = true) modelInvalid
  let audits ← expect .integrity (s.audits.insert {
    sequence := audit.sequence, auditSha256 := auditSha256 svc audit, audit })
  set { s with audits }
  return audit.sequence

/-- The row of a write, and its head. -/
def insertRecord (auditSequence : ℕ) : ModelWrite → ModelTxn Unit
  | .profile profile removed => do
      let s ← get
      let profiles ← expect .integrity (s.profiles.put {
        key := profile.name
        revision := profile.revision
        record := { removed, recordSha256 := profileSha256 svc profile, profile, auditSequence } })
      set { s with profiles }
  | .selection selection => do
      let s ← get
      let selections ← expect .integrity (s.selections.put {
        key := selection.projectId
        revision := selection.revision
        record := {
          recordSha256 := selectionSha256 svc selection, selection, auditSequence } })
      set { s with selections }
  | .bindings bindings => do
      let s ← get
      let rows ← expect .integrity (s.bindings.insert {
        rootRunId := bindings.rootRunId
        projectId := bindings.projectId
        bindingsSha256 := bindingsSha256 svc bindings
        bindings
        auditSequence })
      set { s with bindings := rows }

/-- The receipt and the record of a write. -/
def writeRecord (now : Timestamp) (write : ModelWrite) : ModelTxn Unit := do
  let auditSequence ← append svc now (subjectOf svc write)
  insertRecord svc auditSequence write

end Calls

/-! ### The machine -/

/-- The body of a call; it says what was written. -/
def modelBody (svc : ModelServices) (reads : ModelReads) (now : Timestamp) (op : ModelOp) :
    ModelTxn (Option ModelWrite) := do
  let write ← reading fun s => planned svc reads s op
  match write with
  | none => return none
  | some write => do
      writeRecord svc now write
      return some write

/-- A body inside `_boundary`. -/
def withinBoundary {α : Type} (x : ModelTxn α) : ModelTxn α := fun s =>
  match x s with
  | .ok r => .ok r
  | .error e => .error (boundary e)

/-- One call, and what it reads from its surroundings. -/
structure ModelInput where
  op : ModelOp
  reads : ModelReads
  now : Timestamp

/-- The model configuration under calls. -/
def modelMachine (svc : ModelServices) :
    Machine ModelState ModelInput (Except StoreError (Option ModelWrite)) where
  step s input :=
    let r := commit (withinBoundary (modelBody svc input.reads input.now input.op)) s
    (r.2, r.1)

end AgentFleet.ModelProfiles
