import AgentFleet.Assurance.Criteria
import Mathlib.Data.List.Nodup
import Mathlib.Order.Basic

/-! # Which records pass a criterion

A criterion passes on the latest records of its commands only.

* `latest_of_provesCommand`: a record that proves a command is later than every other record of the
  verifier for it.
* `passed_of_verdict`: what the records that a passing criterion cites are.
* `assessCriterionResults_perm`: the records and the reports may come in any order. -/

namespace AgentFleet

open Keyed

variable {subject : CriterionSubject} {expectedCriteria : List String}
  {results results' : List CriterionResult} {commands commands' : List CommandEvidence}
  {declared : List String}

/-! ### The latest record -/

/-- The verifier's record of a command on the current patch that every other one is older than. -/
structure IsLatest (subject : CriterionSubject) (commands : List CommandEvidence)
    (command : CommandEvidence) : Prop where
  verifier : some command.agentInstanceId = subject.verifierAgentInstanceId
  role : command.principalRole = some subject.verifierRole
  patch : command.candidatePatchSha256 = subject.patchSha256
  latest : ∀ other ∈ commands, other.commandId = command.commandId →
    some other.agentInstanceId = subject.verifierAgentInstanceId →
    other.candidatePatchSha256 = subject.patchSha256 → other ≠ command →
    other.completedAt < command.completedAt

variable {command : CommandEvidence} {result : CriterionResult} {criterionId : String}

theorem mem_matching {other : CommandEvidence} :
    other ∈ matching subject commands command
      ↔ other ∈ commands ∧ other.commandId = command.commandId
        ∧ some other.agentInstanceId = subject.verifierAgentInstanceId
        ∧ other.candidatePatchSha256 = subject.patchSha256 := by
  unfold matching
  rw [List.mem_filter, decide_eq_true_iff]

theorem latest_of_provesCommand (hmem : command ∈ commands)
    (h : provesCommand subject commands command) : IsLatest subject commands command := by
  obtain ⟨-, -, hverifier, hrole, -, -, -, -, -, -, hpatch, -, -, -, -, -, -, -, -, hlatest, hone⟩ := h
  refine ⟨hverifier, hrole, hpatch, fun other hother hcommand hagent hcurrent hne => ?_⟩
  have hself : command ∈ matching subject commands command :=
    mem_matching.mpr ⟨hmem, rfl, hverifier, hpatch⟩
  have hmatches : other ∈ matching subject commands command :=
    mem_matching.mpr ⟨hother, hcommand, hagent, hcurrent⟩
  have hmax := List.max?_eq_some_iff.mp hlatest.symm
  refine lt_of_le_of_ne (hmax.2 _ (List.mem_map_of_mem hmatches)) fun htie => hne ?_
  -- two records of the latest time would be counted twice
  rw [List.countP_eq_length_filter, List.length_eq_one_iff] at hone
  obtain ⟨only, honly⟩ := hone
  have heq {item : CommandEvidence} (hitem : item ∈ matching subject commands command)
      (htime : some item.completedAt = latestCompletion subject commands command) :
      item = only := by
    have hfiltered : item ∈ (matching subject commands command).filter fun item =>
        some item.completedAt = latestCompletion subject commands command :=
      List.mem_filter.mpr ⟨hitem, decide_eq_true htime⟩
    rw [honly] at hfiltered
    exact List.mem_singleton.mp hfiltered
  rw [heq hself hlatest, heq hmatches ((congrArg some htie).trans hlatest)]

/-! ### A passing criterion -/

theorem mem_selectedCommands (hnodup : (commands.map CommandEvidence.evidenceId).Nodup) :
    command ∈ selectedCommands commands result
      ↔ command ∈ commands ∧ command.evidenceId ∈ result.evidenceArtifactIds := by
  unfold selectedCommands
  rw [List.mem_filterMap]
  constructor
  · rintro ⟨id, hid, hget⟩
    obtain ⟨hmem, rfl⟩ := (get?_eq_some_iff hnodup).mp hget
    exact ⟨hmem, hid⟩
  · rintro ⟨hmem, hid⟩
    exact ⟨_, hid, (get?_eq_some_iff hnodup).mpr ⟨hmem, rfl⟩⟩

/-- What passes a criterion: a valid report that says so, none of whose records failed. -/
theorem pass_of_assessCriterion
    (h : (assessCriterion subject expectedCriteria results commands declared criterionId).1.verdict
      = .pass) :
    ∃ result, get? CriterionResult.criterionId results criterionId = some result
      ∧ mappingValid subject expectedCriteria results commands declared result
      ∧ (assessCriterion subject expectedCriteria results commands declared
        criterionId).1.evidenceArtifactIds = result.evidenceArtifactIds
      ∧ ∀ command ∈ selectedCommands commands result, ¬ command.failed := by
  unfold assessCriterion at h ⊢
  cases hresult : get? CriterionResult.criterionId results criterionId with
  | none =>
      rw [hresult] at h
      cases h
  | some result =>
      rw [hresult] at h
      dsimp only at h ⊢
      split_ifs at h ⊢ with hvalid
      · refine ⟨result, rfl, hvalid, rfl, fun command hmem hfailed => ?_⟩
        have hfail : (provenAssessment commands criterionId result).verdict = .fail :=
          if_pos ⟨command, hmem, hfailed⟩
        rw [hfail] at h
        cases h
      · cases h

theorem mem_assessCriterionResults {assessment : CriterionAssessment} :
    assessment ∈ (assessCriterionResults subject expectedCriteria results commands declared).1
      ↔ ∃ criterionId ∈ sortedSet expectedCriteria,
        (assessCriterion subject expectedCriteria results commands declared criterionId).1
          = assessment := by
  unfold assessCriterionResults
  dsimp only
  rw [List.map_map, List.mem_map]
  rfl

theorem criterionId_assessCriterion (criterionId : String) :
    (assessCriterion subject expectedCriteria results commands declared criterionId).1.criterionId
      = criterionId := by
  unfold assessCriterion
  cases get? CriterionResult.criterionId results criterionId with
  | none => rfl
  | some =>
      dsimp only
      split_ifs <;> rfl

/-- What a report has to be for its criterion to pass. -/
structure Passes (subject : CriterionSubject) (results : List CriterionResult)
    (commands : List CommandEvidence) (result : CriterionResult) : Prop where
  unique : (results.map CriterionResult.criterionId).Nodup
  cited : result.evidenceArtifactIds ≠ []
  records : ∀ id ∈ result.evidenceArtifactIds, ∃ command ∈ commands,
    command.evidenceId = id ∧ IsLatest subject commands command ∧ ¬ command.failed
  others : ∀ command ∈ commands, command.evidenceId ∈ result.evidenceArtifactIds →
    IsLatest subject commands command

theorem passed_of_verdict
    (h : (assessCriterion subject expectedCriteria results commands declared criterionId).1.verdict
      = .pass) :
    ∃ result ∈ results, result.criterionId = criterionId
      ∧ (assessCriterion subject expectedCriteria results commands declared
        criterionId).1.evidenceArtifactIds = result.evidenceArtifactIds
      ∧ Passes subject results commands result := by
  obtain ⟨result, hget, ⟨hcatalog, hcites, hproves, -⟩, hids, hpassed⟩ := pass_of_assessCriterion h
  have hresults := not_not.mp (not_or.mp hcatalog).1
  have hcommands := not_not.mp (not_or.mp (not_or.mp hcatalog).2).2
  refine ⟨result, mem_of_get? hget, key_of_get? hget, hids, hresults, ?_, ?_, ?_⟩
  · intro hnil
    exact hcites.1 (by rw [selectedCommands, hnil, List.filterMap_nil])
  · intro id hid
    obtain ⟨command, hmem, rfl⟩ := List.mem_map.mp (mem_of_citesCommands hcites id hid)
    have hselected := (mem_selectedCommands hcommands).mpr ⟨hmem, hid⟩
    exact ⟨command, hmem, rfl, latest_of_provesCommand hmem (hproves command hselected),
      hpassed command hselected⟩
  · intro command hmem hid
    exact latest_of_provesCommand hmem
      (hproves command ((mem_selectedCommands hcommands).mpr ⟨hmem, hid⟩))

/-! ### The order of the records -/

theorem latestCompletion_perm (h : commands.Perm commands') (command : CommandEvidence) :
    latestCompletion subject commands command = latestCompletion subject commands' command := by
  have hperm : ((matching subject commands command).map CommandEvidence.completedAt).Perm
      ((matching subject commands' command).map CommandEvidence.completedAt) :=
    (h.filter _).map _
  unfold latestCompletion
  refine Option.ext fun time => ?_
  rw [List.max?_eq_some_iff, List.max?_eq_some_iff, hperm.mem_iff]
  exact and_congr_right fun _ => forall_congr' fun _ => imp_congr_left hperm.mem_iff

theorem provesCommand_perm (h : commands.Perm commands') (command : CommandEvidence) :
    provesCommand subject commands command ↔ provesCommand subject commands' command := by
  have hcount (p : CommandEvidence → Bool) : (matching subject commands command).countP p
      = (matching subject commands' command).countP p := (h.filter _).countP_eq p
  unfold provesCommand
  rw [latestCompletion_perm h, hcount]

theorem invalidCatalog_perm (hresults : results.Perm results') (hcommands : commands.Perm commands') :
    invalidCatalog expectedCriteria results commands
      ↔ invalidCatalog expectedCriteria results' commands' := by
  have hids := hresults.map CriterionResult.criterionId
  have hmem (left : List String) :
      left ⊆ results.map CriterionResult.criterionId
        ↔ left ⊆ results'.map CriterionResult.criterionId :=
    ⟨fun h => List.Subset.trans h hids.subset, fun h => List.Subset.trans h hids.symm.subset⟩
  have hsubset : results.map CriterionResult.criterionId ⊆ expectedCriteria
      ↔ results'.map CriterionResult.criterionId ⊆ expectedCriteria :=
    ⟨fun h => List.Subset.trans hids.symm.subset h, fun h => List.Subset.trans hids.subset h⟩
  unfold invalidCatalog
  rw [hids.nodup_iff, (hcommands.map CommandEvidence.evidenceId).nodup_iff, hmem, hsubset]

theorem selectedCommands_perm (h : commands.Perm commands')
    (hnodup : (commands.map CommandEvidence.evidenceId).Nodup) (result : CriterionResult) :
    selectedCommands commands result = selectedCommands commands' result := by
  unfold selectedCommands
  exact List.filterMap_congr fun id _ => get?_perm h hnodup id

theorem mappingValid_perm (hresults : results.Perm results') (hcommands : commands.Perm commands') :
    mappingValid subject expectedCriteria results commands declared result
      → mappingValid subject expectedCriteria results' commands' declared result := by
  rintro ⟨hcatalog, hcites, hproves, hone⟩
  have hnodup := not_not.mp (not_or.mp (not_or.mp hcatalog).2).2
  have hselected := selectedCommands_perm hcommands hnodup result
  refine ⟨fun h => hcatalog ((invalidCatalog_perm hresults hcommands).mpr h), ?_, ?_, ?_⟩
  · unfold citesCommands at hcites ⊢
    rw [← hselected]
    exact hcites
  · rw [← hselected]
    exact fun command hmem => (provesCommand_perm hcommands command).mp (hproves command hmem)
  · unfold oneSandbox at hone ⊢
    rw [← hselected]
    exact hone

theorem assessCriterion_eq_unproven
    (h : ∀ result, get? CriterionResult.criterionId results criterionId = some result →
      ¬ mappingValid subject expectedCriteria results commands declared result) :
    assessCriterion subject expectedCriteria results commands declared criterionId
      = (unprovenAssessment criterionId, [mappingGap criterionId]) := by
  unfold assessCriterion
  cases hget : get? CriterionResult.criterionId results criterionId with
  | none => rfl
  | some result => exact if_neg (h result hget)

theorem assessCriterion_perm (hresults : results.Perm results') (hcommands : commands.Perm commands')
    (criterionId : String) :
    assessCriterion subject expectedCriteria results commands declared criterionId
      = assessCriterion subject expectedCriteria results' commands' declared criterionId := by
  by_cases hcatalog : invalidCatalog expectedCriteria results commands
  · have hcatalog' := (invalidCatalog_perm hresults hcommands).mp hcatalog
    rw [assessCriterion_eq_unproven fun _ _ h => h.1 hcatalog,
      assessCriterion_eq_unproven fun _ _ h => h.1 hcatalog']
  · have hnodup := not_not.mp (not_or.mp hcatalog).1
    have hids := not_not.mp (not_or.mp (not_or.mp hcatalog).2).2
    unfold assessCriterion
    rw [← get?_perm hresults hnodup]
    cases get? CriterionResult.criterionId results criterionId with
    | none => rfl
    | some result =>
        have hvalid : mappingValid subject expectedCriteria results commands declared result
            ↔ mappingValid subject expectedCriteria results' commands' declared result :=
          ⟨mappingValid_perm hresults hcommands,
            mappingValid_perm hresults.symm hcommands.symm⟩
        dsimp only
        simp only [hvalid]
        unfold provenAssessment
        rw [selectedCommands_perm hcommands hids]

theorem assessCriterionResults_perm (hresults : results.Perm results')
    (hcommands : commands.Perm commands') :
    assessCriterionResults subject expectedCriteria results commands declared
      = assessCriterionResults subject expectedCriteria results' commands' declared := by
  unfold assessCriterionResults
  rw [funext (assessCriterion_perm hresults hcommands)]

/-! ### No cherry-picking -/

/-- A criterion passes only on records that exist, are the latest of their commands and passed; a
record for another patch, or another run of the command that is not older, keeps its criterion from
passing; and the order of the records and of the reports does not matter. -/
theorem assessCriterionResults_latest (subject : CriterionSubject) (expectedCriteria : List String)
    (results : List CriterionResult) (commands : List CommandEvidence) (declared : List String) :
    (∀ assessment ∈ (assessCriterionResults subject expectedCriteria results commands declared).1,
      assessment.verdict = .pass →
        assessment.evidenceArtifactIds ≠ [] ∧ ∀ id ∈ assessment.evidenceArtifactIds,
          ∃ command ∈ commands, command.evidenceId = id ∧ IsLatest subject commands command
            ∧ ¬ command.failed)
      ∧ (∀ result ∈ results, ∀ command ∈ commands,
        command.evidenceId ∈ result.evidenceArtifactIds →
        (command.candidatePatchSha256 ≠ subject.patchSha256
          ∨ ∃ other ∈ commands, other ≠ command ∧ other.commandId = command.commandId
            ∧ some other.agentInstanceId = subject.verifierAgentInstanceId
            ∧ other.candidatePatchSha256 = subject.patchSha256
            ∧ command.completedAt ≤ other.completedAt) →
        ∀ assessment ∈
          (assessCriterionResults subject expectedCriteria results commands declared).1,
          assessment.criterionId = result.criterionId → assessment.verdict ≠ .pass)
      ∧ ∀ results' commands', results.Perm results' → commands.Perm commands' →
        assessCriterionResults subject expectedCriteria results' commands' declared
          = assessCriterionResults subject expectedCriteria results commands declared := by
  refine ⟨fun assessment hmem hpass => ?_, fun result hresult command hcommand hid hother
    assessment hmem hcriterion hpass => ?_, fun results' commands' hresults hcommands => ?_⟩
  · obtain ⟨criterionId, -, rfl⟩ := mem_assessCriterionResults.mp hmem
    obtain ⟨result, -, -, hids, hpasses⟩ := passed_of_verdict hpass
    rw [hids]
    exact ⟨hpasses.cited, hpasses.records⟩
  · obtain ⟨criterionId, -, rfl⟩ := mem_assessCriterionResults.mp hmem
    obtain ⟨reported, hreported, hname, -, hpasses⟩ := passed_of_verdict hpass
    rw [criterionId_assessCriterion] at hcriterion
    obtain rfl := List.inj_on_of_nodup_map hpasses.unique hreported hresult (hname.trans hcriterion)
    have hlatest := hpasses.others command hcommand hid
    rcases hother with hpatch | ⟨other, hmemOther, hne, hsame, hagent, hpatch, htime⟩
    · exact hpatch hlatest.patch
    · exact absurd (hlatest.latest other hmemOther hsame hagent hpatch hne) (not_lt.mpr htime)
  · exact (assessCriterionResults_perm hresults hcommands).symm

end AgentFleet
