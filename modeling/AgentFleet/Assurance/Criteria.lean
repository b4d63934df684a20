import AgentFleet.Assurance.Evidence
import AgentFleet.Lib.Keyed

/-! # Criterion assessment

`assessCriterionResults` resolves what the verifier reports of each criterion against the command
records of the control plane.  `assessCriterionResults_append` says when records in front of the
bundle's own change nothing: their identifiers are new, and they are of other agents. -/

namespace AgentFleet

open Keyed

/-- What the records that prove a criterion have to be bound to. -/
structure CriterionSubject where
  runId : String
  taskId : String
  verifierAgentInstanceId : Option String
  baseRevision : String
  configSnapshotSha256 : Sha256
  patchSha256 : Option Sha256
  commandHashes : List (String × Sha256)
  verifierRole : String

section Assessment

variable (subject : CriterionSubject) (expectedCriteria : List String)
  (results : List CriterionResult) (commands : List CommandEvidence) (declared : List String)

/-- `invalid_catalog`. -/
def invalidCatalog : Prop :=
  ¬ (results.map CriterionResult.criterionId).Nodup
    ∨ ¬ (results.map CriterionResult.criterionId ⊆ expectedCriteria
      ∧ expectedCriteria ⊆ results.map CriterionResult.criterionId)
    ∨ ¬ (commands.map CommandEvidence.evidenceId).Nodup
deriving Decidable

/-- The records of the verifier for a command and the current patch. -/
def matching (command : CommandEvidence) : List CommandEvidence :=
  commands.filter fun item =>
    item.commandId = command.commandId
      ∧ some item.agentInstanceId = subject.verifierAgentInstanceId
      ∧ item.candidatePatchSha256 = subject.patchSha256

/-- `latest`. -/
def latestCompletion (command : CommandEvidence) : Option Timestamp :=
  ((matching subject commands command).map CommandEvidence.completedAt).max?

/-- The selected record is the verifier's, is bound to the subject, and is uniquely the latest of
its command. -/
def provesCommand (command : CommandEvidence) : Prop :=
  command.runId = subject.runId
    ∧ command.taskId = subject.taskId
    ∧ some command.agentInstanceId = subject.verifierAgentInstanceId
    ∧ command.principalRole = some subject.verifierRole
    ∧ command.workflowStage = some .verifying
    ∧ command.workspaceKind = .verification
    ∧ command.workspaceId ≠ none
    ∧ command.sandboxId ≠ none
    ∧ command.workspaceBaseRevision = subject.baseRevision
    ∧ command.configSnapshotSha256 = subject.configSnapshotSha256
    ∧ command.candidatePatchSha256 = subject.patchSha256
    ∧ command.commandId ∈ subject.commandHashes.map Prod.fst
    ∧ command.commandSpecSha256 = subject.commandHashes.lookup command.commandId
    ∧ command.strength = .independentlyVerified
    ∧ command.sandboxSecurityLevel = .isolated
    ∧ ¬ (command.sandboxProvider = "fake" ∨ command.sandboxProvider = "local-unsafe")
    ∧ command.workspaceMutatedDuringExecution = false
    ∧ command.outputTruncated = false
    ∧ command.startedAt ≤ command.completedAt
    ∧ some command.completedAt = latestCompletion subject commands command
    ∧ (matching subject commands command).countP
        (fun item => some item.completedAt = latestCompletion subject commands command) = 1
deriving Decidable

/-- `selected`: the records that the report of a criterion cites. -/
def selectedCommands (result : CriterionResult) : List CommandEvidence :=
  result.evidenceArtifactIds.filterMap (get? CommandEvidence.evidenceId commands)

/-- The report cites one declared record for each of its commands. -/
def citesCommands (result : CriterionResult) : Prop :=
  let selected := selectedCommands commands result
  selected ≠ []
    ∧ selected.length = result.evidenceArtifactIds.length
    ∧ result.evidenceArtifactIds.Nodup
    ∧ result.commandIds.Nodup
    ∧ selected.length = result.commandIds.length
    ∧ (selected.map CommandEvidence.commandId ⊆ result.commandIds
      ∧ result.commandIds ⊆ selected.map CommandEvidence.commandId)
    ∧ result.evidenceArtifactIds ⊆ declared
deriving Decidable

/-- The cited records are of one workspace and one sandbox. -/
def oneSandbox (result : CriterionResult) : Prop :=
  ((selectedCommands commands result).map fun item =>
    (item.workspaceId, item.sandboxId)).dedup.length ≤ 1
deriving Decidable

/-- `valid`, for a reported criterion. -/
def mappingValid (result : CriterionResult) : Prop :=
  ¬ invalidCatalog expectedCriteria results commands
    ∧ citesCommands commands declared result
    ∧ (∀ command ∈ selectedCommands commands result, provesCommand subject commands command)
    ∧ oneSandbox commands result
deriving Decidable

/-- The gap of a criterion without a valid mapping. -/
def mappingGap (criterionId : String) : ProofGap where
  code := "STRUCTURED_CRITERION_MAPPING_INVALID"
  description := "Criterion " ++ criterionId ++ " lacks an exact current verifier mapping."
  requiredStrength := some .independentlyVerified

/-- The assessment of a criterion with a valid mapping. -/
def provenAssessment (criterionId : String) (result : CriterionResult) : CriterionAssessment where
  criterionId := criterionId
  verdict :=
    if ∃ item ∈ selectedCommands commands result, item.failed then .fail else result.verdict
  evidenceArtifactIds := result.evidenceArtifactIds
  explanation := "Exact current independent verifier command records resolve this criterion."

/-- The assessment of a criterion without one. -/
def unprovenAssessment (criterionId : String) : CriterionAssessment where
  criterionId := criterionId
  verdict := .inconclusive
  explanation := "The criterion mapping is missing, ambiguous, or unbound."

/-- One pass of the loop: the assessment of a criterion, and its gap. -/
def assessCriterion (criterionId : String) : CriterionAssessment × List ProofGap :=
  match get? CriterionResult.criterionId results criterionId with
  | none => (unprovenAssessment criterionId, [mappingGap criterionId])
  | some result =>
      if mappingValid subject expectedCriteria results commands declared result then
        (provenAssessment commands criterionId result, [])
      else (unprovenAssessment criterionId, [mappingGap criterionId])

/-- `assess_criterion_results`. -/
def assessCriterionResults : List CriterionAssessment × List ProofGap :=
  let assessed := (sortedSet expectedCriteria).map
    (assessCriterion subject expectedCriteria results commands declared)
  (assessed.map Prod.fst, assessed.flatMap Prod.snd)

end Assessment

/-! ### Records of other agents -/

section Append

variable {subject : CriterionSubject} {expectedCriteria : List String}
  {results : List CriterionResult} {earlier commands : List CommandEvidence}
  {declared : List String}

/-- A report of a criterion whose mapping is valid cites records of the catalog only. -/
theorem mem_of_citesCommands {result : CriterionResult}
    (h : citesCommands commands declared result) :
    ∀ id ∈ result.evidenceArtifactIds, id ∈ commands.map CommandEvidence.evidenceId := by
  intro id hid
  by_contra hnone
  have hsome := List.filterMap_length_eq_length.mp h.2.1 id hid
  rw [get?_eq_none.mpr hnone] at hsome
  exact Bool.noConfusion hsome

theorem matching_append (h : ∀ item ∈ earlier,
      some item.agentInstanceId ≠ subject.verifierAgentInstanceId) (command : CommandEvidence) :
    matching subject (earlier ++ commands) command = matching subject commands command := by
  unfold matching
  rw [List.filter_append]
  apply List.append_left_eq_self.mpr
  rw [List.filter_eq_nil_iff]
  intro item hitem hmatches
  exact h item hitem (of_decide_eq_true hmatches).2.1

theorem provesCommand_append (h : ∀ item ∈ earlier,
      some item.agentInstanceId ≠ subject.verifierAgentInstanceId) (command : CommandEvidence) :
    provesCommand subject (earlier ++ commands) command
      ↔ provesCommand subject commands command := by
  unfold provesCommand latestCompletion
  rw [matching_append h]

theorem selectedCommands_append {result : CriterionResult}
    (h : ∀ id ∈ result.evidenceArtifactIds, id ∈ commands.map CommandEvidence.evidenceId) :
    selectedCommands (earlier ++ commands) result = selectedCommands commands result := by
  unfold selectedCommands
  exact List.filterMap_congr fun id hid => get?_append_of_mem (h id hid)

theorem invalidCatalog_append
    (h : ((earlier ++ commands).map CommandEvidence.evidenceId).Nodup) :
    invalidCatalog expectedCriteria results (earlier ++ commands)
      ↔ invalidCatalog expectedCriteria results commands := by
  unfold invalidCatalog
  have hnodup : (commands.map CommandEvidence.evidenceId).Nodup := by
    rw [List.map_append] at h
    exact h.of_append_right
  rw [eq_false (not_not_intro h), eq_false (not_not_intro hnodup)]

/-- A criterion without a gap is assessed the same with new records of other agents in front. -/
theorem assessCriterion_append (hother : ∀ item ∈ earlier,
      some item.agentInstanceId ≠ subject.verifierAgentInstanceId)
    (hnodup : ((earlier ++ commands).map CommandEvidence.evidenceId).Nodup) {criterionId : String}
    (hproven : (assessCriterion subject expectedCriteria results commands declared
      criterionId).2 = []) :
    assessCriterion subject expectedCriteria results (earlier ++ commands) declared criterionId
      = assessCriterion subject expectedCriteria results commands declared criterionId := by
  unfold assessCriterion at hproven ⊢
  cases hresult : get? CriterionResult.criterionId results criterionId with
  | none => rfl
  | some result =>
      rw [hresult] at hproven
      dsimp only at hproven ⊢
      split_ifs at hproven with hvalid
      obtain ⟨hcatalog, hcites, hproves, hone⟩ := hvalid
      have hselected : selectedCommands (earlier ++ commands) result
          = selectedCommands commands result :=
        selectedCommands_append (mem_of_citesCommands hcites)
      have hvalid' : mappingValid subject expectedCriteria results (earlier ++ commands) declared
          result := by
        refine ⟨fun h => hcatalog ((invalidCatalog_append hnodup).mp h), ?_, ?_, ?_⟩
        · unfold citesCommands at hcites ⊢
          rw [hselected]
          exact hcites
        · rw [hselected]
          exact fun command hmem => (provesCommand_append hother command).mpr (hproves command hmem)
        · unfold oneSandbox at hone ⊢
          rw [hselected]
          exact hone
      rw [if_pos hvalid', if_pos ⟨hcatalog, hcites, hproves, hone⟩]
      unfold provenAssessment
      rw [hselected]

/-- Without gaps, new records of other agents in front change nothing. -/
theorem assessCriterionResults_append (hother : ∀ item ∈ earlier,
      some item.agentInstanceId ≠ subject.verifierAgentInstanceId)
    (hnodup : ((earlier ++ commands).map CommandEvidence.evidenceId).Nodup)
    (hproven : (assessCriterionResults subject expectedCriteria results commands declared).2 = []) :
    assessCriterionResults subject expectedCriteria results (earlier ++ commands) declared
      = assessCriterionResults subject expectedCriteria results commands declared := by
  unfold assessCriterionResults at hproven ⊢
  dsimp only at hproven ⊢
  have hsame : (sortedSet expectedCriteria).map
        (assessCriterion subject expectedCriteria results (earlier ++ commands) declared)
      = (sortedSet expectedCriteria).map
        (assessCriterion subject expectedCriteria results commands declared) := by
    refine List.map_congr_left fun criterionId hmem => assessCriterion_append hother hnodup ?_
    exact List.flatMap_eq_nil_iff.mp hproven _ (List.mem_map_of_mem hmem)
  rw [hsame]

end Append

end AgentFleet
