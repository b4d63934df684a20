import AgentFleet.Assurance.Evidence
import AgentFleet.Domain.BaselineModels
import AgentFleet.Domain.Config

/-! # Evaluation manifests and outcomes

A manifest freezes the repositories, the cases and the attempt slots of a campaign before anything
is run; an outcome is what was observed of one attempt.  `validates` are the validators of the
records, nested records included; `EvaluationModels` is how the records are dumped.

The records of a campaign's ledger are in `Evaluation.Campaign`, the report over its outcomes in
`Evaluation.Metrics`. -/

namespace AgentFleet.Evaluation

/-! ### Enumerations -/

/-- `EvidenceCategory`. -/
inductive EvidenceCategory where
  | sourceBaseline
  | patch
  | verification
  | apply
  | postApply
  | oracle
  | cleanup
  | answer
  | diagnostic
deriving DecidableEq, Repr

/-- `Cohort`. -/
inductive Cohort where
  | development
  | sealedHoldout
  | auxiliary
deriving DecidableEq, Repr

/-- `task_kind`. -/
inductive TaskKind where
  | codeChange
  | readOnly
deriving DecidableEq, Repr

/-- `auxiliary_purpose`. -/
inductive AuxiliaryPurpose where
  | providerCanary
  | coldStart
  | safety
deriving DecidableEq, Repr

/-- `OutcomeKind`. -/
inductive OutcomeKind where
  | verifiedSuccess
  | functionalFailure
  | environmentFailure
  | providerFailure
  | budgetExhausted
  | timeout
  | cancelled
  | inconclusive
  | notRun
  | dispatchUnknown
deriving DecidableEq, Repr

/-- `user_acceptance`. -/
inductive UserAcceptance where
  | accepted
  | rejected
  | notObserved
deriving DecidableEq, Repr

/-- `apply_status`. -/
inductive ApplyStatus where
  | applied
  | notApplied
  | failed
  | notApplicable
  | unknown
deriving DecidableEq, Repr

/-! ### Manifests -/

/-- `EvaluationRunBudget`. -/
structure EvaluationRunBudget where
  maxAgentInvocations : ℕ
  maxModelRequests : ℕ
  maxToolCalls : ℕ
  maxTotalTokens : ℕ
  maxActiveSeconds : ℕ
deriving DecidableEq

/-- `EvaluationCampaignBudget`. -/
structure EvaluationCampaignBudget extends EvaluationRunBudget where
  maxAttempts : ℕ
deriving DecidableEq

/-- `EvaluationRepository`. -/
structure EvaluationRepository where
  repositoryId : String
  sourceSha256 : Sha256
  commitSha : String
  cohort : Cohort
deriving DecidableEq

/-- `EvaluationCommand`. -/
structure EvaluationCommand where
  commandId : String
  sha256 : Sha256
deriving DecidableEq

/-- `EvaluationCase`. -/
structure EvaluationCase where
  caseId : String
  repositoryId : String
  taskKind : TaskKind
  requirement : String
  allowedPaths : List String
  requiredEvidence : List EvidenceCategory
  oracleSha256 : Sha256
  scoringSha256 : Sha256
  commands : List EvaluationCommand
  imageIdentity : Option String
  dependenciesSha256 : Sha256
  profileId : String
  profileRevision : ℕ
  profileSha256 : Sha256
  configurationSha256 : Sha256
  runBudget : EvaluationRunBudget
  auxiliaryPurpose : Option AuxiliaryPurpose := none
deriving DecidableEq

/-- `EvaluationSlot`. -/
structure EvaluationSlot where
  caseId : String
  repetition : ℕ
deriving DecidableEq

/-- `EvaluationManifest`. -/
structure EvaluationManifest where
  manifestId : String
  campaignId : String
  revision : ℕ
  previousSha256 : Option Sha256 := none
  frozenAt : Timestamp
  repositories : List EvaluationRepository
  cases : List EvaluationCase
  slots : List EvaluationSlot
  budget : EvaluationCampaignBudget
deriving DecidableEq

/-! ### Outcomes -/

/-- `OutcomeArtifactRef`. -/
structure OutcomeArtifactRef where
  artifactId : String
  category : EvidenceCategory
  runId : Option String
  sha256 : Sha256
deriving DecidableEq

/-- `OutcomeUsage`. -/
structure OutcomeUsage where
  segmentId : String
  modelRequests : Option ℕ := none
  toolCalls : Option ℕ := none
  inputTokens : Option ℕ := none
  outputTokens : Option ℕ := none
  activeMilliseconds : Option ℕ := none
  unknownRequests : ℕ := 0
deriving DecidableEq

/-- `OutcomeRecord`. -/
structure OutcomeRecord where
  outcomeId : String
  campaignId : String
  manifestSha256 : Sha256
  caseId : String
  repetition : ℕ
  attemptId : String
  rootRunId : Option String := none
  taskId : Option String := none
  recordedAt : Timestamp
  configurationSha256 : Sha256
  oracleSha256 : Sha256
  scoringSha256 : Sha256
  productStatus : Option RunStatus := none
  productVerdict : Option Verdict := none
  productVerifiedComplete : Option Bool := none
  externalResult : OutcomeKind
  userAcceptance : UserAcceptance := .notObserved
  applyStatus : ApplyStatus
  artifacts : List OutcomeArtifactRef := []
  usage : List OutcomeUsage := []
  reportedCostMicrounits : Option ℕ := none
  currency : Option String := none
deriving DecidableEq

/-! ### Dumps -/

/-- How the records are dumped. -/
structure EvaluationModels where
  /-- `str.casefold` -/
  casefold : String → String
  canonicalJsonHash : JsonValue → Sha256
  /-- `manifest.model_dump(mode="json")` -/
  dumpManifest : EvaluationManifest → JsonValue

variable (models : EvaluationModels)

/-- `manifest.sha256`. -/
def EvaluationManifest.sha256 (manifest : EvaluationManifest) : Sha256 :=
  models.canonicalJsonHash (models.dumpManifest manifest)

/-! ### Patterns and bounds -/

/-- `2**63 - 1`. -/
def maxCount : ℕ := 2 ^ 63 - 1

/-- A match of `^[a-z][a-z0-9_-]*$` of at most `limit` characters. -/
def isSlug (limit : ℕ) (value : String) : Bool :=
  value.toList.length ≤ limit
    && textMatches isLower (fun c => isLower c || isDigit c || c = '_' || c = '-') value

/-- `Currency`. -/
def isCurrency (value : String) : Bool :=
  value.toList.length = 3 ∧ value.toList.all (fun c => 'A' ≤ c && c ≤ 'Z') = true

/-- What `coherent` asks of an allowed path. -/
def isEvaluationPath (value : String) : Prop :=
  let path := PurePosixPath.parse value
  ¬ (path.isAbsolute ∨ path.str ≠ value ∨ ".." ∈ path.parts ∨ path.parts = []
    ∨ '\\' ∈ value.toList ∨ value.toList.any (fun c => c.toNat < 32 || c.toNat = 127) = true)
deriving Decidable

/-- `_CODE_EVIDENCE`. -/
def codeEvidence : List EvidenceCategory :=
  [.sourceBaseline, .patch, .verification, .apply, .postApply, .oracle, .cleanup]

/-- `_READ_EVIDENCE`. -/
def readEvidence : List EvidenceCategory := [.sourceBaseline, .answer, .oracle, .cleanup]

/-- The evidence of an application. -/
def applyEvidence : List EvidenceCategory := [.patch, .apply, .postApply]

/-- What the success contract of a task requires at least. -/
def TaskKind.requiredEvidence : TaskKind → List EvidenceCategory
  | .codeChange => codeEvidence
  | .readOnly => readEvidence

/-! ### Validators of a manifest -/

/-- `EvaluationRunBudget` validates. -/
def EvaluationRunBudget.validates (budget : EvaluationRunBudget) : Prop :=
  1 ≤ budget.maxAgentInvocations ∧ budget.maxAgentInvocations ≤ 10000
    ∧ 1 ≤ budget.maxModelRequests ∧ budget.maxModelRequests ≤ 100000
    ∧ budget.maxToolCalls ≤ 100000
    ∧ 1 ≤ budget.maxTotalTokens ∧ budget.maxTotalTokens ≤ 100000000
    ∧ 1 ≤ budget.maxActiveSeconds ∧ budget.maxActiveSeconds ≤ 86400
deriving Decidable

/-- No envelope of a run exceeds that of the campaign. -/
def EvaluationRunBudget.within (budget ceiling : EvaluationRunBudget) : Prop :=
  budget.maxAgentInvocations ≤ ceiling.maxAgentInvocations
    ∧ budget.maxModelRequests ≤ ceiling.maxModelRequests
    ∧ budget.maxToolCalls ≤ ceiling.maxToolCalls
    ∧ budget.maxTotalTokens ≤ ceiling.maxTotalTokens
    ∧ budget.maxActiveSeconds ≤ ceiling.maxActiveSeconds
deriving Decidable

/-- `EvaluationRepository` validates. -/
def EvaluationRepository.validates (repo : EvaluationRepository) : Prop :=
  isSlug 64 repo.repositoryId = true ∧ isCommitId repo.commitSha = true
deriving Decidable

/-- `EvaluationCase` validates. -/
def EvaluationCase.validates (item : EvaluationCase) : Prop :=
  isSlug 100 item.caseId = true ∧ isSlug 64 item.repositoryId = true
    ∧ (1 ≤ item.requirement.length ∧ item.requirement.length ≤ 8192)
    ∧ isBlankText item.requirement = false
    ∧ (item.allowedPaths.length ≤ 128
      ∧ ∀ path ∈ item.allowedPaths, (1 ≤ path.length ∧ path.length ≤ 4096) ∧ isEvaluationPath path)
    ∧ (item.allowedPaths.map models.casefold).Nodup
    ∧ (1 ≤ item.requiredEvidence.length ∧ item.requiredEvidence.length ≤ 9)
    ∧ item.requiredEvidence.Nodup
    ∧ (item.commands.length ≤ 32
      ∧ ∀ command ∈ item.commands, Configuration.isActionId command.commandId = true)
    ∧ (item.commands.map EvaluationCommand.commandId).Nodup
    ∧ (∀ image ∈ item.imageIdentity, isImageIdentity image = true)
    ∧ Configuration.isActionId item.profileId = true ∧ item.profileRevision ≤ maxCount
    ∧ item.runBudget.validates
    ∧ (∀ category ∈ item.taskKind.requiredEvidence, category ∈ item.requiredEvidence)
    ∧ ¬ (item.taskKind = .codeChange ∧ (item.commands = [] ∨ item.allowedPaths = []))
    ∧ ¬ (item.taskKind = .readOnly ∧ ∃ category ∈ applyEvidence, category ∈ item.requiredEvidence)
deriving Decidable

/-- `EvaluationSlot` validates. -/
def EvaluationSlot.validates (slot : EvaluationSlot) : Prop :=
  isSlug 100 slot.caseId = true ∧ slot.repetition ≤ 2
deriving Decidable

namespace EvaluationManifest

variable (manifest : EvaluationManifest)

/-- `cases[case_id]`. -/
def case? (caseId : String) : Option EvaluationCase :=
  Keyed.get? EvaluationCase.caseId manifest.cases caseId

/-- `repos[repository_id]`. -/
def repository? (repositoryId : String) : Option EvaluationRepository :=
  Keyed.get? EvaluationRepository.repositoryId manifest.repositories repositoryId

/-- `registered[case_id]`. -/
def repetitions (caseId : String) : List ℕ :=
  (manifest.slots.filter fun slot => slot.caseId = caseId).map EvaluationSlot.repetition

/-- The repositories of a manifest are distinct, and none is on both sides of the holdout. -/
def repositoriesSplit : Prop :=
  (manifest.repositories.map EvaluationRepository.repositoryId).Nodup
    ∧ (∀ a ∈ manifest.repositories, ∀ b ∈ manifest.repositories,
      a.sourceSha256 = b.sourceSha256 → ¬ (a.cohort = .development ∧ b.cohort = .sealedHoldout))
    ∧ (manifest.repositories.map fun repo =>
      (repo.sourceSha256, repo.commitSha, repo.cohort)).Nodup
deriving Decidable

/-- What the manifest asks of one of its cases. -/
def declares (item : EvaluationCase) : Prop :=
  (∃ repo ∈ manifest.repository? item.repositoryId,
      ¬ (repo.cohort = .auxiliary ∧ item.auxiliaryPurpose = none))
    ∧ item.runBudget.within manifest.budget.toEvaluationRunBudget
deriving Decidable

/-- The attempts of a case are `0, 1, …`, and those of an auxiliary case are `0`. -/
def attemptsContiguous (item : EvaluationCase) : Prop :=
  (manifest.repetitions item.caseId).mergeSort (fun a b => a ≤ b)
      = List.range (manifest.repetitions item.caseId).length
    ∧ manifest.repetitions item.caseId ≠ []
    ∧ (item.auxiliaryPurpose ≠ none → manifest.repetitions item.caseId = [0])
deriving Decidable

/-- The text of a manifest whose size is bounded. -/
def encoded : String := (models.dumpManifest manifest).sorted.text

/-- `EvaluationManifest` validates. -/
def validates : Prop :=
  hasIdentity "eval" 32 manifest.manifestId = true
    ∧ hasIdentity "campaign" 32 manifest.campaignId = true ∧ manifest.revision ≤ maxCount
    ∧ (manifest.revision = 0 ↔ manifest.previousSha256 = none)
    ∧ (1 ≤ manifest.repositories.length ∧ manifest.repositories.length ≤ 16)
    ∧ (∀ repo ∈ manifest.repositories, repo.validates)
    ∧ (1 ≤ manifest.cases.length ∧ manifest.cases.length ≤ 64)
    ∧ (∀ item ∈ manifest.cases, item.validates models)
    ∧ (1 ≤ manifest.slots.length ∧ manifest.slots.length ≤ 256)
    ∧ (∀ slot ∈ manifest.slots, slot.validates)
    ∧ manifest.budget.toEvaluationRunBudget.validates
    ∧ (1 ≤ manifest.budget.maxAttempts ∧ manifest.budget.maxAttempts ≤ 256)
    ∧ manifest.repositoriesSplit
    ∧ (manifest.cases.map EvaluationCase.caseId).Nodup
    ∧ (∀ item ∈ manifest.cases, manifest.declares item)
    ∧ (∀ slot ∈ manifest.slots, slot.caseId ∈ manifest.cases.map EvaluationCase.caseId)
    ∧ (∀ item ∈ manifest.cases, manifest.attemptsContiguous item)
    ∧ manifest.budget.maxAttempts = manifest.slots.length
    ∧ encodedLength (manifest.encoded models) ≤ 1048576
deriving Decidable

end EvaluationManifest

/-! ### Validators of an outcome -/

/-- The fields of a usage segment that may be left unreported. -/
def OutcomeUsage.reported (segment : OutcomeUsage) : List (Option ℕ) :=
  [segment.modelRequests, segment.toolCalls, segment.inputTokens, segment.outputTokens,
    segment.activeMilliseconds]

/-- `OutcomeUsage` validates. -/
def OutcomeUsage.validates (segment : OutcomeUsage) : Prop :=
  isSlug 100 segment.segmentId = true ∧ (∀ field ∈ segment.reported, ∀ n ∈ field, n ≤ maxCount)
    ∧ segment.unknownRequests ≤ maxCount
deriving Decidable

/-- A segment of an attempt that executed something. -/
def OutcomeUsage.executed (segment : OutcomeUsage) : Prop :=
  0 < segment.modelRequests.getD 0 ∨ 0 < segment.toolCalls.getD 0
    ∨ 0 < segment.inputTokens.getD 0 ∨ 0 < segment.outputTokens.getD 0
    ∨ 0 < segment.unknownRequests
deriving Decidable

/-- `OutcomeArtifactRef` validates. -/
def OutcomeArtifactRef.validates (ref : OutcomeArtifactRef) : Prop :=
  hasIdentity "art" 32 ref.artifactId = true ∧ ∀ run ∈ ref.runId, hasIdentity "run" 32 run = true
deriving Decidable

namespace OutcomeRecord

variable (record : OutcomeRecord)

/-- `{ref.category for ref in record.artifacts}`. -/
def categories : List EvidenceCategory := record.artifacts.map OutcomeArtifactRef.category

/-- The fields of a record are within their bounds. -/
def bounded : Prop :=
  hasIdentity "outcome" 32 record.outcomeId = true
    ∧ hasIdentity "campaign" 32 record.campaignId = true ∧ isSlug 100 record.caseId = true
    ∧ record.repetition ≤ 2 ∧ hasIdentity "attempt" 32 record.attemptId = true
    ∧ (∀ run ∈ record.rootRunId, hasIdentity "run" 32 run = true)
    ∧ (∀ task ∈ record.taskId, hasIdentity "task" 32 task = true)
    ∧ record.artifacts.length ≤ 64 ∧ (∀ ref ∈ record.artifacts, ref.validates)
    ∧ record.usage.length ≤ 64 ∧ (∀ segment ∈ record.usage, segment.validates)
    ∧ (∀ cost ∈ record.reportedCostMicrounits, cost ≤ maxCount)
    ∧ ∀ currency ∈ record.currency, isCurrency currency = true
deriving Decidable

/-- What `coherent` asks of an outcome that was not run. -/
def coherentNotRun : Prop :=
  record.rootRunId = none ∧ record.applyStatus ≠ .applied
    ∧ (∀ segment ∈ record.usage, ¬ segment.executed)
    ∧ record.reportedCostMicrounits.getD 0 = 0
    ∧ ∀ ref ∈ record.artifacts, ref.category = .diagnostic
deriving Decidable

/-- What `coherent` asks of a verified success. -/
def coherentSuccess : Prop :=
  record.rootRunId ≠ none ∧ record.taskId ≠ none ∧ .oracle ∈ record.categories
    ∧ .cleanup ∈ record.categories
deriving Decidable

/-- `OutcomeRecord` validates. -/
def validates : Prop :=
  record.bounded ∧ (record.taskId ≠ none → record.rootRunId ≠ none)
    ∧ (record.rootRunId = none → record.productStatus = none ∧ record.productVerdict = none
      ∧ record.productVerifiedComplete = none)
    ∧ (record.externalResult = .verifiedSuccess → record.coherentSuccess)
    ∧ (record.externalResult = .notRun → record.coherentNotRun)
    ∧ (record.artifacts.map OutcomeArtifactRef.artifactId).Nodup
    ∧ (∀ ref ∈ record.artifacts, ref.runId = record.rootRunId)
    ∧ (record.usage.map OutcomeUsage.segmentId).Nodup
    ∧ (record.reportedCostMicrounits = none ↔ record.currency = none)
deriving Decidable

end OutcomeRecord

end AgentFleet.Evaluation
