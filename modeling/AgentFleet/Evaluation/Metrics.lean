import AgentFleet.Domain.Evaluation
import AgentFleet.Lib.Checks
import AgentFleet.Lib.Counter
import Mathlib.Data.String.Basic

/-! # Evaluation metrics

`evaluateRecords` links the outcomes of a campaign to its manifest and counts them over the slots
that were registered beforehand.  Linking goes through the records in their order and remembers the
identities that it has seen (`linkRecord`); the report is built from what was linked, and every
model that it is built of validates itself. -/

namespace AgentFleet.Evaluation

open Checks

/-! ### Results -/

/-- What `evaluate_records` raises. -/
inductive EvaluationError where
  /-- A `ValueError` of the function. -/
  | value (message : String)
  /-- A `KeyError`. -/
  | key (missing : String)
  /-- The `ValidationError` of a model. -/
  | validation (model : String)
deriving DecidableEq, Repr

/-- The text of an `OutcomeKind`. -/
def OutcomeKind.value : OutcomeKind → String
  | .verifiedSuccess => "verified_success"
  | .functionalFailure => "functional_failure"
  | .environmentFailure => "environment_failure"
  | .providerFailure => "provider_failure"
  | .budgetExhausted => "budget_exhausted"
  | .timeout => "timeout"
  | .cancelled => "cancelled"
  | .inconclusive => "inconclusive"
  | .notRun => "not_run"
  | .dispatchUnknown => "dispatch_unknown"

/-- `OutcomeKind | Literal["missing"]`. -/
inductive Observed where
  | outcome (kind : OutcomeKind)
  | missing
deriving Repr

/-- The text of a result. -/
def Observed.value : Observed → String
  | .outcome kind => kind.value
  | .missing => "missing"

theorem Observed.value_injective : Function.Injective Observed.value := by
  intro a b h
  cases a with
  | missing =>
      cases b with
      | missing => rfl
      | outcome kind => cases kind <;> simp [Observed.value, OutcomeKind.value] at h
  | outcome kind =>
      cases b with
      | missing => cases kind <;> simp [Observed.value, OutcomeKind.value] at h
      | outcome other =>
          cases kind <;> cases other <;> first
            | rfl
            | simp [Observed.value, OutcomeKind.value] at h

/-- Results are sorted as their texts. -/
instance : LinearOrder Observed := LinearOrder.lift' Observed.value Observed.value_injective

/-- Every result. -/
def Observed.all : List Observed :=
  .missing :: ([.verifiedSuccess, .functionalFailure, .environmentFailure, .providerFailure,
    .budgetExhausted, .timeout, .cancelled, .inconclusive, .notRun, .dispatchUnknown]
      : List OutcomeKind).map .outcome

/-! ### Counts -/

/-- `EvaluationCounts`; an `OutcomeCount` is a pair, and a percentage is in millionths. -/
structure EvaluationCounts where
  planned : ℕ
  observed : ℕ
  successful : ℕ
  successPercentage : Option ℕ := none
  outcomes : List (Observed × ℕ)
deriving DecidableEq

/-- `round(100.0 * successful / planned, 6)` in millionths.  Up to 256 planned slots no quotient
lies halfway between two millionths, so the nearest one is what the rounding gives. -/
def successRate (successful planned : ℕ) : ℕ :=
  (2 * (100000000 * successful) + planned) / (2 * planned)

/-- `bins.get(result, 0)`. -/
def EvaluationCounts.bin (counts : EvaluationCounts) (result : Observed) : ℕ :=
  ((Keyed.get? Prod.fst counts.outcomes result).map Prod.snd).getD 0

/-- What `coherent` asks of the counts. -/
def EvaluationCounts.coherent (counts : EvaluationCounts) : Prop :=
  (counts.outcomes.map Prod.fst).Nodup ∧ (counts.outcomes.map Prod.snd).sum = counts.planned
    ∧ counts.observed = counts.planned - counts.bin .missing - counts.bin (.outcome .notRun)
    ∧ counts.successful = counts.bin (.outcome .verifiedSuccess)
    ∧ counts.successPercentage = if counts.observed = 0 then none
      else some (successRate counts.successful counts.planned)

/-- `EvaluationCounts` validates. -/
def EvaluationCounts.validates (counts : EvaluationCounts) : Prop :=
  counts.planned ≤ 256 ∧ counts.observed ≤ 256 ∧ counts.successful ≤ 256
    ∧ (∀ percentage ∈ counts.successPercentage, percentage ≤ 100000000)
    ∧ counts.outcomes.length ≤ 11 ∧ (∀ item ∈ counts.outcomes, item.2 ≤ 256)
    ∧ counts.coherent

instance (counts : EvaluationCounts) : Decidable counts.validates := by
  unfold EvaluationCounts.validates EvaluationCounts.coherent
  infer_instance

/-- The counts that `_counts` builds. -/
def buildCounts (results : List Observed) : EvaluationCounts :=
  let counts := Counter.ofKeys results
  let observed := results.length - counts.count .missing - counts.count (.outcome .notRun)
  let successful := counts.count (.outcome .verifiedSuccess)
  { planned := results.length
    observed := observed
    successful := successful
    successPercentage := if observed = 0 then none
      else some (successRate successful results.length)
    outcomes := counts.items }

/-- `_counts`. -/
def countsOf (results : List Observed) : Except EvaluationError EvaluationCounts := do
  refuse (¬ (buildCounts results).validates) (.validation "EvaluationCounts")
  return buildCounts results

/-! ### Reports -/

/-- `group`. -/
inductive SlotGroup where
  | firstRound
  | repeated
  | auxiliary
deriving DecidableEq, Repr

/-- `SlotEvaluation`. -/
structure SlotEvaluation where
  caseId : String
  repetition : ℕ
  group : SlotGroup
  result : Observed
deriving DecidableEq

/-- The slot that was observed. -/
def SlotEvaluation.slot (value : SlotEvaluation) : EvaluationSlot :=
  ⟨value.caseId, value.repetition⟩

/-- `SlotEvaluation` validates. -/
def SlotEvaluation.validates (value : SlotEvaluation) : Prop :=
  value.slot.validates ∧ (value.group = .repeated ↔ 0 < value.repetition)
deriving Decidable

/-- `RepositoryEvaluation`. -/
structure RepositoryEvaluation where
  repositoryId : String
  firstRound : EvaluationCounts
deriving DecidableEq

/-- The bound of an `AggregateCount`. -/
def maxAggregate : ℕ := 256 * 64 * maxCount

/-- `ReportedUsage`. -/
structure ReportedUsage where
  modelRequestsLowerBound : ℕ
  toolCallsLowerBound : ℕ
  inputTokensLowerBound : ℕ
  outputTokensLowerBound : ℕ
  activeMillisecondsLowerBound : ℕ
  unknownRequests : ℕ
  unreportedSegments : ℕ
  recordsWithoutUsage : ℕ
deriving DecidableEq

/-- `ReportedUsage` validates. -/
def ReportedUsage.validates (usage : ReportedUsage) : Prop :=
  usage.modelRequestsLowerBound ≤ maxAggregate ∧ usage.toolCallsLowerBound ≤ maxAggregate
    ∧ usage.inputTokensLowerBound ≤ maxAggregate ∧ usage.outputTokensLowerBound ≤ maxAggregate
    ∧ usage.activeMillisecondsLowerBound ≤ maxAggregate ∧ usage.unknownRequests ≤ maxAggregate
    ∧ usage.unreportedSegments ≤ maxAggregate ∧ usage.recordsWithoutUsage ≤ 256
deriving Decidable

/-- `ReportedCost`. -/
structure ReportedCost where
  currency : String
  microunitsLowerBound : ℕ
  reportedRecords : ℕ
deriving DecidableEq

/-- `ReportedCost` validates. -/
def ReportedCost.validates (cost : ReportedCost) : Prop :=
  isCurrency cost.currency = true ∧ cost.microunitsLowerBound ≤ maxAggregate
    ∧ 1 ≤ cost.reportedRecords ∧ cost.reportedRecords ≤ 256
deriving Decidable

/-- `EvaluationCoverage`. -/
structure EvaluationCoverage where
  plannedSlots : ℕ
  recordedOutcomes : ℕ
  missingOutcomes : ℕ
  usageComplete : Bool
  costComplete : Bool
deriving DecidableEq

/-- `EvaluationCoverage` validates. -/
def EvaluationCoverage.validates (coverage : EvaluationCoverage) : Prop :=
  1 ≤ coverage.plannedSlots ∧ coverage.plannedSlots ≤ 256 ∧ coverage.recordedOutcomes ≤ 256
    ∧ coverage.missingOutcomes ≤ 256
    ∧ coverage.recordedOutcomes + coverage.missingOutcomes = coverage.plannedSlots
    ∧ ¬ (coverage.missingOutcomes ≠ 0
      ∧ (coverage.usageComplete = true ∨ coverage.costComplete = true))
deriving Decidable

/-- `EvaluationReport`. -/
structure EvaluationReport where
  campaignId : String
  manifestSha256 : Sha256
  firstRound : EvaluationCounts
  development : EvaluationCounts
  sealedHoldout : EvaluationCounts
  repositories : List RepositoryEvaluation
  repeats : EvaluationCounts
  auxiliary : EvaluationCounts
  slots : List SlotEvaluation
  coverage : EvaluationCoverage
  usage : ReportedUsage
  costs : List ReportedCost
  recordsWithoutCost : ℕ
deriving DecidableEq

namespace EvaluationReport

variable (report : EvaluationReport)

/-- The results of the slots of a group. -/
def resultsOf (group : SlotGroup) : List Observed :=
  (report.slots.filter fun slot => slot.group = group).map SlotEvaluation.result

/-- The slots of a report are distinct, and a repeated slot comes after the earlier ones. -/
def slotsRetained : Prop :=
  (report.slots.map SlotEvaluation.slot).Nodup
    ∧ ∀ value ∈ report.slots, 0 < value.repetition →
      (∀ previous ∈ List.range value.repetition,
        (⟨value.caseId, previous⟩ : EvaluationSlot) ∈ report.slots.map SlotEvaluation.slot)
      ∧ (Keyed.get? SlotEvaluation.slot report.slots ⟨value.caseId, 0⟩).map SlotEvaluation.group
        = some .firstRound

/-- The counts of the groups are those of the slots. -/
def groupsCounted : Prop :=
  countsOf (report.resultsOf .firstRound) = .ok report.firstRound
    ∧ countsOf (report.resultsOf .repeated) = .ok report.repeats
    ∧ countsOf (report.resultsOf .auxiliary) = .ok report.auxiliary

/-- The results that some counts have counted. -/
def combined (groups : List EvaluationCounts) : List Observed :=
  groups.flatMap fun group => Counter.elements group.outcomes

/-- The cohorts, and the repositories, make up the first round. -/
def reconciled : Prop :=
  countsOf (combined [report.development, report.sealedHoldout]) = .ok report.firstRound
    ∧ countsOf (combined (report.repositories.map RepositoryEvaluation.firstRound))
      = .ok report.firstRound

/-- The coverage is that of the slots and of the costs and the usage that were reported. -/
def covered : Prop :=
  report.coverage.plannedSlots = report.slots.length
    ∧ report.coverage.missingOutcomes
      = (report.slots.filter fun slot => slot.result = .missing).length
    ∧ (report.costs.map ReportedCost.reportedRecords).sum + report.recordsWithoutCost
      = report.coverage.recordedOutcomes
    ∧ ¬ (report.coverage.costComplete = true ∧ report.recordsWithoutCost ≠ 0)
    ∧ ¬ (report.coverage.usageComplete = true ∧ (report.usage.recordsWithoutUsage ≠ 0
      ∨ report.usage.unreportedSegments ≠ 0 ∨ report.usage.unknownRequests ≠ 0))
    ∧ report.usage.recordsWithoutUsage ≤ report.coverage.recordedOutcomes

/-- What `coherent` asks of a report. -/
def coherent : Prop :=
  report.slotsRetained ∧ (report.repositories.map RepositoryEvaluation.repositoryId).Nodup
    ∧ (report.costs.map ReportedCost.currency).Nodup ∧ report.groupsCounted ∧ report.reconciled
    ∧ report.covered

/-- `EvaluationReport` validates; the models that it is built of have validated themselves. -/
def validates : Prop :=
  hasIdentity "campaign" 32 report.campaignId = true ∧ report.repositories.length ≤ 16
    ∧ (1 ≤ report.slots.length ∧ report.slots.length ≤ 256) ∧ report.costs.length ≤ 256
    ∧ report.recordsWithoutCost ≤ 256 ∧ report.coherent

end EvaluationReport

instance (report : EvaluationReport) : Decidable report.validates := by
  unfold EvaluationReport.validates EvaluationReport.coherent EvaluationReport.slotsRetained
    EvaluationReport.groupsCounted EvaluationReport.reconciled EvaluationReport.covered
  infer_instance

/-! ### Linking -/

/-- The slot of an outcome. -/
def OutcomeRecord.slot (record : OutcomeRecord) : EvaluationSlot :=
  ⟨record.caseId, record.repetition⟩

/-- What `evaluate_records` has seen: the records by slot and the identities that they used. -/
structure Linked where
  indexed : List OutcomeRecord := []
  outcomes : List String := []
  attempts : List String := []
  runs : List String := []
  tasks : List String := []
  artifacts : List OutcomeArtifactRef := []

/-- A reference of a record: an artifact that was seen is the same one. -/
def linkArtifact (artifacts : List OutcomeArtifactRef) (ref : OutcomeArtifactRef) :
    Except EvaluationError (List OutcomeArtifactRef) := do
  refuse (∃ known ∈ Keyed.get? OutcomeArtifactRef.artifactId artifacts ref.artifactId, known ≠ ref)
    (.value "an artifact identity cannot change its run, category or hash")
  return artifacts ++ [ref]

/-- What the contract of a case asks of an outcome. -/
def checkContract (item : EvaluationCase) (record : OutcomeRecord) : Except EvaluationError Unit := do
  refuse (item.taskKind = .readOnly ∧ (record.applyStatus ≠ .notApplicable
      ∨ ∃ category ∈ applyEvidence, category ∈ record.categories))
    (.value "read-only outcomes cannot fabricate patch application")
  refuse (record.externalResult = .verifiedSuccess
      ∧ ∃ category ∈ item.requiredEvidence, category ∉ record.categories)
    (.value "success lacks the frozen required evidence categories")
  refuse (record.externalResult = .verifiedSuccess ∧ item.taskKind = .codeChange
      ∧ record.applyStatus ≠ .applied)
    (.value "code-change success requires explicit application evidence")

variable (models : EvaluationModels) (manifest : EvaluationManifest)

/-- One round of the loop over the records. -/
def linkRecord (linked : Linked) (record : OutcomeRecord) : Except EvaluationError Linked := do
  refuse (record.campaignId ≠ manifest.campaignId
      ∨ record.manifestSha256 ≠ manifest.sha256 models)
    (.value "outcome does not belong to the frozen campaign manifest")
  refuse (record.recordedAt < manifest.frozenAt)
    (.value "outcome cannot predate the frozen manifest")
  refuse (record.slot ∉ manifest.slots)
    (.value "outcome does not belong to a preregistered attempt slot")
  let item ← demand (.key record.caseId) (manifest.case? record.caseId)
  refuse (record.configurationSha256 ≠ item.configurationSha256
      ∨ record.oracleSha256 ≠ item.oracleSha256 ∨ record.scoringSha256 ≠ item.scoringSha256)
    (.value "outcome configuration or oracle/scoring contract differs")
  refuse (record.slot ∈ linked.indexed.map OutcomeRecord.slot
      ∨ record.outcomeId ∈ linked.outcomes ∨ record.attemptId ∈ linked.attempts)
    (.value "duplicate outcome, attempt or case repetition")
  refuse (∃ run ∈ record.rootRunId, run ∈ linked.runs)
    (.value "a root Run cannot count as more than one attempt")
  refuse (∃ task ∈ record.taskId, task ∈ linked.tasks)
    (.value "a Task cannot count as more than one attempt")
  let artifacts ← record.artifacts.foldlM linkArtifact linked.artifacts
  checkContract item record
  return {
    indexed := linked.indexed ++ [record]
    outcomes := linked.outcomes ++ [record.outcomeId]
    attempts := linked.attempts ++ [record.attemptId]
    runs := linked.runs ++ record.rootRunId.toList
    tasks := linked.tasks ++ record.taskId.toList
    artifacts := artifacts }

/-- The checks of `evaluate_records`. -/
def linkRecords (records : List OutcomeRecord) : Except EvaluationError Linked := do
  refuse (256 < records.length)
    (.value "evaluation records must be a bounded immutable tuple")
  refuse (¬ manifest.validates models) (.validation "EvaluationManifest")
  refuse (¬ ∀ record ∈ records, record.validates) (.validation "OutcomeRecord")
  records.foldlM (linkRecord models manifest) {}

/-! ### The report -/

/-- `sorted(slots)`. -/
def slotLe (a b : EvaluationSlot) : Bool :=
  decide (a.caseId < b.caseId) || (decide (a.caseId = b.caseId) && decide (a.repetition ≤ b.repetition))

/-- The slots of a manifest in order. -/
def EvaluationManifest.sortedSlots : List EvaluationSlot := manifest.slots.dedup.mergeSort slotLe

/-- The group of a slot of a case. -/
def groupOf (item : EvaluationCase) (repetition : ℕ) : SlotGroup :=
  if item.auxiliaryPurpose ≠ none then .auxiliary
  else if 0 < repetition then .repeated
  else .firstRound

/-- The result of an outcome, or that there is none. -/
def observedResult : Option OutcomeRecord → Observed
  | some record => .outcome record.externalResult
  | none => .missing

/-- What is observed of one slot. -/
def observeSlot (linked : Linked) (slot : EvaluationSlot) : Except EvaluationError SlotEvaluation := do
  let item ← demand (.key slot.caseId) (manifest.case? slot.caseId)
  let value : SlotEvaluation := {
    caseId := slot.caseId
    repetition := slot.repetition
    group := groupOf item slot.repetition
    result := observedResult (Keyed.get? OutcomeRecord.slot linked.indexed slot) }
  refuse (¬ value.validates) (.validation "SlotEvaluation")
  return value

/-- `cases[case_id].repository_id`. -/
def EvaluationManifest.repositoryOf? (caseId : String) : Option String :=
  (manifest.case? caseId).map EvaluationCase.repositoryId

/-- `repos[cases[case_id].repository_id].cohort`. -/
def EvaluationManifest.cohortOf? (caseId : String) : Option Cohort :=
  ((manifest.repositoryOf? caseId).bind manifest.repository?).map EvaluationRepository.cohort

/-- The results of the observations that a test selects. -/
def selectResults (observations : List SlotEvaluation) (test : SlotEvaluation → Bool) :
    List Observed := (observations.filter test).map SlotEvaluation.result

/-- The counts of one repository. -/
def evaluateRepository (first : List SlotEvaluation) (repositoryId : String) :
    Except EvaluationError RepositoryEvaluation := do
  let firstRound ← countsOf (selectResults first fun item =>
    manifest.repositoryOf? item.caseId = some repositoryId)
  return { repositoryId, firstRound }

/-- The usage segments of the records. -/
def segmentsOf (records : List OutcomeRecord) : List OutcomeUsage :=
  records.flatMap OutcomeRecord.usage

/-- `sum(getattr(segment, name) or 0 for segment in segments)`. -/
def amountOf (field : OutcomeUsage → Option ℕ) (segments : List OutcomeUsage) : ℕ :=
  (segments.map fun segment => (field segment).getD 0).sum

/-- A segment that leaves a field unreported. -/
def OutcomeUsage.unreported (segment : OutcomeUsage) : Bool := segment.reported.contains none

/-- The usage of the records. -/
def reportUsage (records : List OutcomeRecord) : ReportedUsage :=
  let segments := segmentsOf records
  { modelRequestsLowerBound := amountOf OutcomeUsage.modelRequests segments
    toolCallsLowerBound := amountOf OutcomeUsage.toolCalls segments
    inputTokensLowerBound := amountOf OutcomeUsage.inputTokens segments
    outputTokensLowerBound := amountOf OutcomeUsage.outputTokens segments
    activeMillisecondsLowerBound := amountOf OutcomeUsage.activeMilliseconds segments
    unknownRequests := (segments.map OutcomeUsage.unknownRequests).sum
    unreportedSegments := (segments.filter OutcomeUsage.unreported).length
    recordsWithoutUsage := (records.filter fun record => record.usage = []).length }

/-- The cost that a record reports. -/
def OutcomeRecord.cost? (record : OutcomeRecord) : Option (String × ℕ) := do
  let currency ← record.currency
  let microunits ← record.reportedCostMicrounits
  return (currency, microunits)

/-- The costs of the records by currency. -/
def reportCosts (records : List OutcomeRecord) : List ReportedCost :=
  let reported := records.filterMap OutcomeRecord.cost?
  let costs := Counter.total reported
  let currencyRecords := Counter.ofKeys (reported.map Prod.fst)
  costs.items.map fun item => ⟨item.1, item.2, currencyRecords.count item.1⟩

/-- Every segment of a record is fully reported. -/
def OutcomeRecord.usageComplete (record : OutcomeRecord) : Bool :=
  record.usage ≠ [] && record.usage.all fun segment =>
    segment.unknownRequests = 0 && !segment.unreported

/-- The coverage of the slots by the records. -/
def reportCoverage (records : List OutcomeRecord) : EvaluationCoverage where
  plannedSlots := manifest.slots.dedup.length
  recordedOutcomes := records.length
  missingOutcomes := manifest.slots.dedup.length - records.length
  usageComplete := records.length = manifest.slots.dedup.length
    && records.all OutcomeRecord.usageComplete
  costComplete := records.length = manifest.slots.dedup.length
    && records.all fun record => record.reportedCostMicrounits.isSome

/-- The report over the records that were linked. -/
def buildReport (linked : Linked) (records : List OutcomeRecord) :
    Except EvaluationError EvaluationReport := do
  let observations ← manifest.sortedSlots.mapM (observeSlot manifest linked)
  let first := observations.filter fun item => item.group = .firstRound
  let firstRound ← countsOf (first.map SlotEvaluation.result)
  let development ← countsOf (selectResults first fun item =>
    manifest.cohortOf? item.caseId = some .development)
  let sealedHoldout ← countsOf (selectResults first fun item =>
    manifest.cohortOf? item.caseId = some .sealedHoldout)
  let repositories ← ((manifest.repositories.map EvaluationRepository.repositoryId).dedup.mergeSort
    fun a b => decide (a ≤ b)).mapM (evaluateRepository manifest first)
  let repeats ← countsOf (selectResults observations fun item => item.group = .repeated)
  let auxiliary ← countsOf (selectResults observations fun item => item.group = .auxiliary)
  let coverage := reportCoverage manifest records
  refuse (¬ coverage.validates) (.validation "EvaluationCoverage")
  let usage := reportUsage records
  refuse (¬ usage.validates) (.validation "ReportedUsage")
  let costs := reportCosts records
  refuse (¬ ∀ cost ∈ costs, cost.validates) (.validation "ReportedCost")
  let report : EvaluationReport := {
    campaignId := manifest.campaignId
    manifestSha256 := manifest.sha256 models
    firstRound, development, sealedHoldout, repositories, repeats, auxiliary
    slots := observations
    coverage, usage, costs
    recordsWithoutCost :=
      (records.filter fun record => record.reportedCostMicrounits = none).length }
  refuse (¬ report.validates) (.validation "EvaluationReport")
  return report

/-- `evaluate_records`. -/
def evaluateRecords (records : List OutcomeRecord) : Except EvaluationError EvaluationReport := do
  let linked ← linkRecords models manifest records
  buildReport models manifest linked records

end AgentFleet.Evaluation
