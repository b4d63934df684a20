import AgentFleet.Evaluation.Observations
import AgentFleet.Evaluation.Totals

/-! # Reports are coherent

Over outcomes that are linkable every model of the report validates, so `evaluateRecords` refuses
nothing that its checks accept (`buildReport_eq`).  The cohorts and the repositories part the first
round (`cohorts_perm`, `repositories_perm`), the records fill distinct slots (`length_missing`), and
the currencies part the records that report a cost (`sum_reportedRecords`); with the bounds of the
sums this is what the report's own validator asks for.

`report_coherence` adds that neither the decision nor the report depends on the order. -/

namespace AgentFleet.Evaluation

open Checks

section

variable (models : EvaluationModels) (manifest : EvaluationManifest) (records : List OutcomeRecord)

/-- The observations of the first round. -/
def firstObservations : List SlotEvaluation :=
  (observations manifest records).filter fun item => item.group = .firstRound

/-- The counts of the observations that a test selects. -/
def countsWhere (items : List SlotEvaluation) (test : SlotEvaluation → Bool) : EvaluationCounts :=
  buildCounts (selectResults items test)

/-- The repositories of a report in their order. -/
def reportedRepositories : List String :=
  (manifest.repositories.map EvaluationRepository.repositoryId).dedup.mergeSort
    fun a b => decide (a ≤ b)

/-- What the report says of one repository. -/
def repositoryReport (repositoryId : String) : RepositoryEvaluation where
  repositoryId := repositoryId
  firstRound := countsWhere (firstObservations manifest records) fun item =>
    manifest.repositoryOf? item.caseId = some repositoryId

/-- The records that report no cost. -/
def withoutCost : ℕ := (records.filter fun record => record.reportedCostMicrounits = none).length

/-- The report that the records make. -/
def reportOf : EvaluationReport where
  campaignId := manifest.campaignId
  manifestSha256 := manifest.sha256 models
  firstRound := buildCounts ((firstObservations manifest records).map SlotEvaluation.result)
  development := countsWhere (firstObservations manifest records) fun item =>
    manifest.cohortOf? item.caseId = some .development
  sealedHoldout := countsWhere (firstObservations manifest records) fun item =>
    manifest.cohortOf? item.caseId = some .sealedHoldout
  repositories := (reportedRepositories manifest).map (repositoryReport manifest records)
  repeats := countsWhere (observations manifest records) fun item => item.group = .repeated
  auxiliary := countsWhere (observations manifest records) fun item => item.group = .auxiliary
  slots := observations manifest records
  coverage := reportCoverage manifest records
  usage := reportUsage records
  costs := reportCosts records
  recordsWithoutCost := withoutCost records

end

variable {models : EvaluationModels} {manifest : EvaluationManifest}
  {records records' : List OutcomeRecord}

/-! ### Parts of the first round -/

theorem length_observations_le (h : Registered manifest) :
    (observations manifest records).length ≤ 256 := by
  rw [length_observations, ← length_sortedSlots]
  exact h.length_le

theorem length_selectResults_le {items : List SlotEvaluation} (test : SlotEvaluation → Bool)
    (h : items.length ≤ 256) : (selectResults items test).length ≤ 256 := by
  unfold selectResults
  rw [List.length_map]
  exact (List.length_filter_le _ _).trans h

theorem length_firstObservations_le (h : Registered manifest) :
    (firstObservations manifest records).length ≤ 256 :=
  (List.length_filter_le _ _).trans (length_observations_le h)

/-- Counts of parts are counts of the results in all of them. -/
theorem combined_perm (parts : List (List Observed)) :
    (EvaluationReport.combined (parts.map buildCounts)).Perm parts.flatten := by
  unfold EvaluationReport.combined
  induction parts with
  | nil => exact .nil
  | cons results parts ih =>
      rw [List.map_cons, List.flatMap_cons, List.flatten_cons]
      exact (Counter.elements_ofKeys results).append ih

/-- A case of the first round has its repository in a cohort. -/
theorem cohort_of_mem_first (h : Registered manifest) {item : SlotEvaluation}
    (hitem : item ∈ firstObservations manifest records) :
    (∃ repositoryId ∈ reportedRepositories manifest,
        manifest.repositoryOf? item.caseId = some repositoryId)
      ∧ (manifest.cohortOf? item.caseId = some .development
        ∨ manifest.cohortOf? item.caseId = some .sealedHoldout) := by
  obtain ⟨hmem, hgroup⟩ := List.mem_filter.mp hitem
  obtain ⟨slot, hslot, rfl⟩ := mem_observations.mp hmem
  obtain ⟨declared, hcase, ⟨⟨repo, hrepo, hcohort⟩, -⟩, -⟩ := h.item slot hslot
  have hdeclared : manifest.case? (observation manifest records slot).caseId = some declared := hcase
  have hfirst : groupOf declared slot.repetition = .firstRound := by
    have hgroup' : (observation manifest records slot).group = groupOf declared slot.repetition := by
      unfold observation
      rw [hcase]
      rfl
    rw [← hgroup']
    exact of_decide_eq_true hgroup
  have hpurpose := (groupOf_firstRound.mp hfirst).1
  have hrepository : manifest.repositoryOf? (observation manifest records slot).caseId
      = some declared.repositoryId := by
    unfold EvaluationManifest.repositoryOf?
    rw [hdeclared]
    rfl
  refine ⟨⟨declared.repositoryId, ?_, hrepository⟩, ?_⟩
  · unfold reportedRepositories
    rw [List.mem_mergeSort, List.mem_dedup, List.mem_map]
    exact ⟨repo, Keyed.mem_of_get? hrepo, Keyed.key_of_get? hrepo⟩
  · unfold EvaluationManifest.cohortOf?
    rw [hrepository, Option.bind_some, Option.mem_def.mp hrepo, Option.map_some]
    cases hkind : repo.cohort with
    | development => exact Or.inl rfl
    | sealedHoldout => exact Or.inr rfl
    | auxiliary => exact absurd ⟨hkind, hpurpose⟩ hcohort

/-- The two cohorts make up the first round. -/
theorem cohorts_perm (h : Registered manifest) :
    (selectResults (firstObservations manifest records) (fun item =>
        manifest.cohortOf? item.caseId = some .development)
      ++ selectResults (firstObservations manifest records) fun item =>
        manifest.cohortOf? item.caseId = some .sealedHoldout).Perm
      ((firstObservations manifest records).map SlotEvaluation.result) := by
  have hother : (firstObservations manifest records).filter
        (fun item => manifest.cohortOf? item.caseId = some .sealedHoldout)
      = (firstObservations manifest records).filter
        fun item => !decide (manifest.cohortOf? item.caseId = some .development) := by
    refine List.filter_congr fun item hitem => ?_
    rcases (cohort_of_mem_first h hitem).2 with hcohort | hcohort <;> rw [hcohort] <;> rfl
  unfold selectResults
  rw [hother, ← List.map_append]
  exact (List.filter_append_perm _ _).map _

/-- The repositories make up the first round. -/
theorem repositories_perm (h : Registered manifest) :
    ((reportedRepositories manifest).map fun repositoryId =>
      selectResults (firstObservations manifest records) fun item =>
        manifest.repositoryOf? item.caseId = some repositoryId).flatten.Perm
      ((firstObservations manifest records).map SlotEvaluation.result) := by
  have hnodup : (reportedRepositories manifest).Nodup :=
    (List.mergeSort_perm _ _).nodup_iff.mpr (List.nodup_dedup _)
  have hparts := @Counter.parts_perm String _ SlotEvaluation
    (fun item => manifest.repositoryOf? item.caseId) _ (firstObservations manifest records) hnodup
    fun item hitem => (cohort_of_mem_first h hitem).1
  unfold selectResults
  rw [← List.flatMap_def, ← List.map_flatMap]
  exact hparts.map _

theorem groups_reconciled (h : Registered manifest) : (reportOf models manifest records).reconciled := by
  have hfirst : (firstObservations manifest records).length ≤ 256 := length_firstObservations_le h
  have hcounts : ∀ parts : List (List Observed),
      parts.flatten.Perm ((firstObservations manifest records).map SlotEvaluation.result) →
        countsOf (EvaluationReport.combined (parts.map buildCounts))
          = .ok (reportOf models manifest records).firstRound := by
    intro parts hparts
    rw [countsOf_perm ((combined_perm parts).trans hparts)]
    refine countsOf_eq ?_
    rw [List.length_map]
    exact hfirst
  refine ⟨hcounts [_, _] ?_, ?_⟩
  · have hcohorts := @cohorts_perm manifest records h
    rw [List.flatten_cons, List.flatten_cons, List.flatten_nil, List.append_nil]
    exact hcohorts
  · have hrepositories := hcounts _ (@repositories_perm manifest records h)
    rw [List.map_map] at hrepositories
    have hmap : (reportOf models manifest records).repositories.map RepositoryEvaluation.firstRound
        = (reportedRepositories manifest).map (RepositoryEvaluation.firstRound
          ∘ repositoryReport manifest records) := List.map_map
    rw [hmap]
    exact hrepositories

/-! ### Slots -/

theorem slots_retained (h : Registered manifest) : (reportOf models manifest records).slotsRetained := by
  have hslots : (reportOf models manifest records).slots.map SlotEvaluation.slot
      = manifest.sortedSlots := map_slot_observations
  refine ⟨?_, fun value hvalue hpos => ?_⟩
  · rw [hslots]
    exact nodup_sortedSlots manifest
  obtain ⟨slot, hslot, rfl⟩ := mem_observations.mp hvalue
  constructor
  · intro previous hprevious
    rw [hslots, mem_sortedSlots]
    exact h.previous hslot (List.mem_range.mp hprevious).le
  · have hzero : (⟨slot.caseId, 0⟩ : EvaluationSlot) ∈ manifest.slots :=
      h.previous hslot (Nat.zero_le _)
    have hget : Keyed.get? SlotEvaluation.slot (observations manifest records) ⟨slot.caseId, 0⟩
        = some (observation manifest records ⟨slot.caseId, 0⟩) := by
      have hnodup : ((observations manifest records).map SlotEvaluation.slot).Nodup := by
        rw [map_slot_observations]
        exact nodup_sortedSlots manifest
      exact (Keyed.get?_eq_some_iff hnodup).mpr ⟨mem_observations.mpr ⟨_, hzero, rfl⟩, rfl⟩
    obtain ⟨item, hitem, -⟩ := h.item slot hslot
    have hpurpose : item.auxiliaryPurpose = none := by
      by_contra hauxiliary
      exact absurd (h.once hslot hitem hauxiliary) (Nat.pos_iff_ne_zero.mp hpos)
    have hgroup : (observation manifest records ⟨slot.caseId, 0⟩).group = groupOf item 0 := by
      unfold observation
      rw [hitem]
      rfl
    have hlookup : Keyed.get? SlotEvaluation.slot (reportOf models manifest records).slots
        ⟨(observation manifest records slot).caseId, 0⟩
        = some (observation manifest records ⟨slot.caseId, 0⟩) := hget
    rw [hlookup, Option.map_some, hgroup, groupOf_firstRound.mpr ⟨hpurpose, rfl⟩]

theorem groups_counted (h : Registered manifest) : (reportOf models manifest records).groupsCounted := by
  have hall : (observations manifest records).length ≤ 256 := length_observations_le h
  have hgroup : ∀ group, countsOf ((reportOf models manifest records).resultsOf group)
      = .ok (countsWhere (observations manifest records) fun item => item.group = group) :=
    fun group => countsOf_eq (length_selectResults_le _ hall)
  exact ⟨hgroup .firstRound, hgroup .repeated, hgroup .auxiliary⟩

/-! ### Coverage -/

theorem mem_slots_of_linkable (h : Linkable models manifest records) {slot : EvaluationSlot}
    (hslot : slot ∈ records.map OutcomeRecord.slot) : slot ∈ manifest.sortedSlots := by
  obtain ⟨record, hrecord, rfl⟩ := List.mem_map.mp hslot
  exact mem_sortedSlots.mpr (h.fits record hrecord).slot

theorem observedResult_missing {record? : Option OutcomeRecord} :
    observedResult record? = .missing ↔ record? = none := by
  cases record? with
  | none => exact iff_of_true rfl rfl
  | some => exact iff_of_false (fun h => by cases h) (fun h => by cases h)

/-- The slots of the records. -/
theorem filled_perm (h : Linkable models manifest records) :
    (manifest.sortedSlots.filter fun slot => slot ∈ records.map OutcomeRecord.slot).Perm
      (records.map OutcomeRecord.slot) := by
  rw [List.perm_ext_iff_of_nodup ((nodup_sortedSlots manifest).filter _) h.distinct.slots]
  intro slot
  rw [List.mem_filter, decide_eq_true_iff]
  exact and_iff_right_of_imp (mem_slots_of_linkable h)

theorem length_records_le (h : Linkable models manifest records) :
    records.length ≤ manifest.slots.dedup.length := by
  have hlength := (filled_perm h).length_eq
  rw [List.length_map] at hlength
  rw [← hlength, ← length_sortedSlots]
  exact List.length_filter_le _ _

/-- The missing slots are those that no record fills. -/
theorem length_missing (h : Linkable models manifest records) :
    ((observations manifest records).filter fun value => value.result = .missing).length
      = manifest.slots.dedup.length - records.length := by
  have hmissing : (observations manifest records).filter (fun value => value.result = .missing)
      = (manifest.sortedSlots.filter fun slot =>
        !decide (slot ∈ records.map OutcomeRecord.slot)).map (observation manifest records) := by
    unfold observations
    rw [List.filter_map]
    congr 1
    refine List.filter_congr fun slot _ => ?_
    rw [Function.comp_apply, ← decide_not]
    refine decide_eq_decide.mpr ?_
    rw [← Keyed.get?_eq_none]
    exact observedResult_missing
  have hsplit := (List.filter_append_perm
    (fun slot => decide (slot ∈ records.map OutcomeRecord.slot)) manifest.sortedSlots).length_eq
  have hfilled := (filled_perm h).length_eq
  rw [List.length_append, length_sortedSlots, hfilled, List.length_map] at hsplit
  rw [hmissing, List.length_map]
  omega

theorem coverage_validates (h : Linkable models manifest records) :
    (reportCoverage manifest records).validates := by
  have hregistered := registered_of_validates h.frozen
  have hle := length_records_le h
  have hplanned : manifest.slots.dedup.length ≤ 256 := by
    rw [← length_sortedSlots]
    exact hregistered.length_le
  have hpos : 1 ≤ manifest.slots.dedup.length := by
    rw [Nat.one_le_iff_ne_zero, Ne, List.length_eq_zero_iff]
    intro hempty
    obtain ⟨slot, hslot⟩ := List.exists_mem_of_length_pos
      (Nat.lt_of_lt_of_le one_pos hregistered.slots.1)
    have hmem := List.mem_dedup.mpr hslot
    rw [hempty] at hmem
    cases hmem
  refine ⟨hpos, hplanned, h.bounded, (Nat.sub_le _ _).trans hplanned, Nat.add_sub_cancel' hle, ?_⟩
  rintro ⟨hmissing, hcomplete⟩
  refine hmissing (Nat.sub_eq_zero_of_le (le_of_eq ?_))
  rcases hcomplete with hcomplete | hcomplete
  · exact (of_decide_eq_true (Bool.and_eq_true_iff.mp hcomplete).1).symm
  · exact (of_decide_eq_true (Bool.and_eq_true_iff.mp hcomplete).1).symm

theorem report_covered (h : Linkable models manifest records) :
    (reportOf models manifest records).covered := by
  have hlength : (reportOf models manifest records).slots.length
      = manifest.slots.dedup.length := length_observations
  refine ⟨hlength.symm, (length_missing h).symm, sum_reportedRecords h.valid, ?_, ?_,
    List.length_filter_le _ _⟩
  · rintro ⟨hcomplete, hwithout⟩
    have hall : ∀ record ∈ records, record.reportedCostMicrounits.isSome = true :=
      List.all_eq_true.mp (Bool.and_eq_true_iff.mp hcomplete).2
    refine hwithout (List.length_eq_zero_iff.mpr ?_)
    refine List.filter_eq_nil_iff.mpr fun record hrecord hnone => ?_
    have hsome := hall record hrecord
    rw [of_decide_eq_true hnone] at hsome
    cases hsome
  · rintro ⟨hcomplete, hunreported⟩
    have hall : ∀ record ∈ records, record.usageComplete = true :=
      List.all_eq_true.mp (Bool.and_eq_true_iff.mp hcomplete).2
    obtain ⟨hwithout, hsegments, hrequests⟩ := usage_of_complete hall
    rcases hunreported with hne | hne | hne
    · exact hne hwithout
    · exact hne hsegments
    · exact hne hrequests

/-! ### Reports -/

theorem reportOf_validates (h : Linkable models manifest records) :
    (reportOf models manifest records).validates := by
  have hregistered := registered_of_validates h.frozen
  have hpos := (coverage_validates h).1
  have hslots : (reportOf models manifest records).slots.length
      = manifest.slots.dedup.length := length_observations
  have hnodup : (reportedRepositories manifest).Nodup :=
    (List.mergeSort_perm _ _).nodup_iff.mpr (List.nodup_dedup _)
  have hrepositories : (reportOf models manifest records).repositories.map
      RepositoryEvaluation.repositoryId = reportedRepositories manifest := by
    have hmap : (reportOf models manifest records).repositories.map RepositoryEvaluation.repositoryId
        = (reportedRepositories manifest).map (RepositoryEvaluation.repositoryId
          ∘ repositoryReport manifest records) := List.map_map
    rw [hmap]
    exact List.map_id _
  refine ⟨hregistered.campaign, ?_, ⟨?_, ?_⟩, length_reportCosts_le h.bounded h.valid,
    (List.length_filter_le _ _).trans h.bounded, slots_retained hregistered, ?_, nodup_currencies,
    groups_counted hregistered, groups_reconciled hregistered, report_covered h⟩
  · have hlength := (List.mergeSort_perm (manifest.repositories.map
      EvaluationRepository.repositoryId).dedup fun a b => decide (a ≤ b)).length_eq
    have hle := (List.dedup_sublist (manifest.repositories.map
      EvaluationRepository.repositoryId)).length_le
    rw [List.length_map] at hle
    have hcount : (reportOf models manifest records).repositories.length
        = (reportedRepositories manifest).length := List.length_map _
    rw [hcount]
    exact (hlength.le.trans hle).trans hregistered.repositories
  · rw [hslots]
    exact hpos
  · exact length_observations_le hregistered
  · rw [hrepositories]
    exact hnodup

/-- Over linkable outcomes no model of the report refuses. -/
theorem buildReport_eq (h : Linkable models manifest records) :
    buildReport models manifest (linkedOf records) records
      = .ok (reportOf models manifest records) := by
  have hregistered := registered_of_validates h.frozen
  have hall : (observations manifest records).length ≤ 256 := length_observations_le hregistered
  have hfirst : (firstObservations manifest records).length ≤ 256 :=
    length_firstObservations_le hregistered
  have hrepositories : (reportedRepositories manifest).mapM
      (evaluateRepository manifest (firstObservations manifest records))
      = .ok ((reportedRepositories manifest).map (repositoryReport manifest records)) := by
    refine mapM_eq_ok fun repositoryId _ => ?_
    unfold evaluateRepository
    rw [countsOf_eq (length_selectResults_le _ hfirst)]
    rfl
  unfold buildReport
  rw [bind_ok]
  refine ⟨_, observeSlots_eq hregistered, ?_⟩
  dsimp only
  rw [bind_ok]
  refine ⟨_, countsOf_eq ?_, ?_⟩
  · rw [List.length_map]
    exact hfirst
  rw [bind_ok]
  refine ⟨_, countsOf_eq (length_selectResults_le _ hfirst), bind_ok.2
    ⟨_, countsOf_eq (length_selectResults_le _ hfirst), bind_ok.2 ⟨_, hrepositories, bind_ok.2
      ⟨_, countsOf_eq (length_selectResults_le _ hall), bind_ok.2
        ⟨_, countsOf_eq (length_selectResults_le _ hall), ?_⟩⟩⟩⟩⟩
  rw [refuse_bind_ok, refuse_bind_ok, refuse_bind_ok, refuse_bind_ok, return_ok, not_not, not_not,
    not_not, not_not]
  exact ⟨coverage_validates h, usage_validates h.bounded h.valid, costs_validate h.bounded h.valid,
    reportOf_validates h, rfl⟩

theorem exists_linked_iff : (∃ linked, linkRecords models manifest records = .ok linked)
    ↔ Linkable models manifest records := by
  constructor
  · rintro ⟨linked, hlinked⟩
    exact (linkRecords_ok.1 hlinked).1
  · exact fun hlinkable => ⟨_, linkRecords_ok.2 ⟨hlinkable, rfl⟩⟩

theorem evaluateRecords_ok {report : EvaluationReport} :
    evaluateRecords models manifest records = .ok report
      ↔ Linkable models manifest records ∧ reportOf models manifest records = report := by
  unfold evaluateRecords
  rw [bind_ok]
  constructor
  · rintro ⟨linked, hlinked, hreport⟩
    obtain ⟨hlinkable, rfl⟩ := linkRecords_ok.1 hlinked
    rw [buildReport_eq hlinkable] at hreport
    exact ⟨hlinkable, Except.ok.inj hreport⟩
  · rintro ⟨hlinkable, rfl⟩
    exact ⟨_, linkRecords_ok.2 ⟨hlinkable, rfl⟩, buildReport_eq hlinkable⟩

/-- The order of linkable outcomes does not matter to their report. -/
theorem reportOf_perm (hperm : records.Perm records') (h : Linkable models manifest records) :
    reportOf models manifest records = reportOf models manifest records' := by
  have hreport := @buildReport_perm models manifest records records' hperm h.distinct
  rw [buildReport_eq h, buildReport_eq (h.perm hperm)] at hreport
  exact Except.ok.inj hreport

/-- Outcomes that pass the checks of a campaign make a report that validates and holds the cells of
the campaign, and neither what the checks decide nor the report depends on the order of the
outcomes. -/
theorem report_coherence (models : EvaluationModels) (manifest : EvaluationManifest)
    (records : List OutcomeRecord) :
    (∀ linked, linkRecords models manifest records = .ok linked →
      ∃ report, evaluateRecords models manifest records = .ok report ∧ report.validates
        ∧ report = reportOf models manifest records)
    ∧ ∀ records', records.Perm records' →
      ((∃ linked, linkRecords models manifest records = .ok linked)
        ↔ ∃ linked, linkRecords models manifest records' = .ok linked)
      ∧ ∀ report, evaluateRecords models manifest records = .ok report
        ↔ evaluateRecords models manifest records' = .ok report := by
  refine ⟨fun linked hlinked => ?_, fun records' hperm => ⟨?_, fun report => ?_⟩⟩
  · obtain ⟨hlinkable, -⟩ := linkRecords_ok.1 hlinked
    exact ⟨_, evaluateRecords_ok.2 ⟨hlinkable, rfl⟩, reportOf_validates hlinkable, rfl⟩
  · rw [exists_linked_iff, exists_linked_iff]
    exact ⟨fun hlinkable => hlinkable.perm hperm, fun hlinkable => hlinkable.perm hperm.symm⟩
  · rw [evaluateRecords_ok, evaluateRecords_ok]
    constructor
    · rintro ⟨hlinkable, rfl⟩
      exact ⟨hlinkable.perm hperm, (reportOf_perm hperm hlinkable).symm⟩
    · rintro ⟨hlinkable, rfl⟩
      exact ⟨hlinkable.perm hperm.symm, (reportOf_perm hperm.symm hlinkable).symm⟩

/-! ### A campaign of two attempts -/

/-- The digest of eights. -/
def eightDigest : Sha256 :=
  ⟨"8888888888888888888888888888888888888888888888888888888888888888", by decide⟩

/-- Models whose dumps are empty. -/
def sampleModels : EvaluationModels where
  casefold := id
  canonicalJsonHash := fun _ => eightDigest
  dumpManifest := fun _ => .null

/-- A question about a repository. -/
def sampleCase : EvaluationCase where
  caseId := "c"
  repositoryId := "r"
  taskKind := .readOnly
  requirement := "why"
  allowedPaths := []
  requiredEvidence := readEvidence
  oracleSha256 := eightDigest
  scoringSha256 := eightDigest
  commands := []
  imageIdentity := none
  dependenciesSha256 := eightDigest
  profileId := "p"
  profileRevision := 0
  profileSha256 := eightDigest
  configurationSha256 := eightDigest
  runBudget := ⟨1, 1, 0, 1, 1⟩

/-- A campaign that asks it twice. -/
def sampleManifest : EvaluationManifest where
  manifestId := "eval_00000000000000000000000000000000"
  campaignId := "campaign_00000000000000000000000000000000"
  revision := 0
  frozenAt := 0
  repositories := [⟨"r", eightDigest, "0000000000000000000000000000000000000000", .development⟩]
  cases := [sampleCase]
  slots := [⟨"c", 0⟩, ⟨"c", 1⟩]
  budget := ⟨⟨1, 1, 0, 1, 1⟩, 2⟩


/-- An attempt of the case that was not run. -/
def sampleOutcome (outcomeId attemptId : String) (repetition : ℕ) : OutcomeRecord where
  outcomeId := outcomeId
  campaignId := sampleManifest.campaignId
  manifestSha256 := eightDigest
  caseId := "c"
  repetition := repetition
  attemptId := attemptId
  recordedAt := 0
  configurationSha256 := eightDigest
  oracleSha256 := eightDigest
  scoringSha256 := eightDigest
  externalResult := .notRun
  applyStatus := .notApplicable

/-- The outcomes of both attempts, the later one first. -/
def sampleOutcomes : List OutcomeRecord := [
  sampleOutcome "outcome_00000000000000000000000000000001"
    "attempt_00000000000000000000000000000001" 1,
  sampleOutcome "outcome_00000000000000000000000000000000"
    "attempt_00000000000000000000000000000000" 0]

theorem sampleManifest_validates : sampleManifest.validates sampleModels := by
  have hcontiguous : ∀ item ∈ sampleManifest.cases, sampleManifest.attemptsContiguous item := by
    intro item hitem
    obtain rfl := List.mem_singleton.mp hitem
    refine ⟨List.mergeSort_of_pairwise ?_, ?_, ?_⟩
    all_goals decide
  refine ⟨?_, ?_, ?_, ?_, ?_, ?_, ?_, ?_, ?_, ?_, ?_, ?_, ?_, ?_, ?_, ?_, hcontiguous, ?_, ?_⟩
  all_goals decide

theorem sampleOutcome_fits {outcomeId attemptId : String} {repetition : ℕ}
    (hslot : (⟨"c", repetition⟩ : EvaluationSlot) ∈ sampleManifest.slots) :
    Fits sampleModels sampleManifest (sampleOutcome outcomeId attemptId repetition) :=
  ⟨rfl, rfl, le_refl _, hslot, sampleCase, rfl, rfl, rfl, rfl, rfl⟩

theorem sampleOutcomes_linkable : Linkable sampleModels sampleManifest sampleOutcomes := by
  have hfits : ∀ record ∈ sampleOutcomes, Fits sampleModels sampleManifest record := by
    refine List.forall_mem_cons.mpr ⟨sampleOutcome_fits ?_,
      List.forall_mem_singleton.mpr (sampleOutcome_fits ?_)⟩
    all_goals decide
  refine ⟨?_, sampleManifest_validates, ?_, hfits, ⟨?_, ?_, ?_, ?_, ?_, fun a ha => by cases ha⟩⟩
  all_goals decide

/-- The outcomes make the same report in the order of the attempts. -/
theorem report_coherence_sample : ∃ report,
    evaluateRecords sampleModels sampleManifest sampleOutcomes.reverse = .ok report
      ∧ report.validates := by
  obtain ⟨hcoherent, hperm⟩ := report_coherence sampleModels sampleManifest sampleOutcomes
  obtain ⟨report, hreport, hvalidates, -⟩ :=
    hcoherent _ (linkRecords_ok.2 ⟨sampleOutcomes_linkable, rfl⟩)
  exact ⟨report, ((hperm _ (List.reverse_perm _).symm).2 report).1 hreport, hvalidates⟩

end AgentFleet.Evaluation
