import AgentFleet.Evaluation.Metrics

/-! # What linked outcomes have in common

The loop over the records accepts them exactly when each fits the manifest (`Fits`) and no two of
them use an identity of the other (`Distinct`), and then it has seen all of them (`linkedOf`).
Neither speaks of the order of the records, and the report reads the records by slot and in sums, so
it does not depend on the order either (`buildReport_perm`). -/

namespace AgentFleet.Evaluation

open Checks

/-! ### Artifacts -/

/-- One artifact has one reference. -/
def SameArtifacts (refs : List OutcomeArtifactRef) : Prop :=
  ∀ a ∈ refs, ∀ b ∈ refs, a.artifactId = b.artifactId → a = b

theorem SameArtifacts.of_subset {refs refs' : List OutcomeArtifactRef} (h : SameArtifacts refs')
    (hsub : refs ⊆ refs') : SameArtifacts refs :=
  fun a ha b hb heq => h a (hsub ha) b (hsub hb) heq

theorem linkArtifact_ok {known all : List OutcomeArtifactRef} {ref : OutcomeArtifactRef}
    (hknown : SameArtifacts known) :
    linkArtifact known ref = .ok all ↔ SameArtifacts (known ++ [ref]) ∧ known ++ [ref] = all := by
  unfold linkArtifact
  rw [refuse_bind_ok, return_ok]
  refine and_congr_left fun _ => ?_
  constructor
  · intro hclash
    have hsame : ∀ a ∈ known, a.artifactId = ref.artifactId → a = ref := by
      intro a ha heq
      cases hget : Keyed.get? OutcomeArtifactRef.artifactId known ref.artifactId with
      | none => exact absurd (List.mem_map.mpr ⟨a, ha, heq⟩) (Keyed.get?_eq_none.mp hget)
      | some found =>
          have hfound : found = ref := by
            by_contra hne
            exact hclash ⟨found, hget, hne⟩
          have hid := (Keyed.key_of_get? hget).trans heq.symm
          rw [← hfound]
          exact hknown a ha found (Keyed.mem_of_get? hget) hid.symm
    intro a ha b hb heq
    rcases List.mem_append.mp ha with ha | ha
    · rcases List.mem_append.mp hb with hb | hb
      · exact hknown a ha b hb heq
      · rw [List.mem_singleton.mp hb] at heq ⊢
        exact hsame a ha heq
    · rw [List.mem_singleton.mp ha] at heq ⊢
      rcases List.mem_append.mp hb with hb | hb
      · exact (hsame b hb heq.symm).symm
      · exact (List.mem_singleton.mp hb).symm
  · rintro hall ⟨found, hfound, hne⟩
    refine hne (hall found ?_ ref ?_ (Keyed.key_of_get? hfound))
    · exact List.mem_append_left _ (Keyed.mem_of_get? hfound)
    · exact List.mem_append_right _ (List.mem_singleton.mpr rfl)

theorem linkArtifacts_ok {known all refs : List OutcomeArtifactRef} (hknown : SameArtifacts known) :
    refs.foldlM linkArtifact known = .ok all ↔ SameArtifacts (known ++ refs) ∧ known ++ refs = all := by
  induction refs generalizing known with
  | nil =>
      rw [List.foldlM_nil, return_ok, List.append_nil]
      exact (and_iff_right hknown).symm
  | cons ref refs ih =>
      have happend : known ++ ref :: refs = known ++ [ref] ++ refs := by
        rw [List.append_assoc, List.singleton_append]
      rw [List.foldlM_cons, bind_ok, happend]
      constructor
      · rintro ⟨next, hnext, hrest⟩
        obtain ⟨hsame, rfl⟩ := (linkArtifact_ok hknown).1 hnext
        exact (ih hsame).1 hrest
      · rintro ⟨hall, heq⟩
        have hsame : SameArtifacts (known ++ [ref]) :=
          hall.of_subset (List.subset_append_left _ _)
        exact ⟨known ++ [ref], (linkArtifact_ok hknown).2 ⟨hsame, rfl⟩, (ih hsame).2 ⟨hall, heq⟩⟩

/-! ### Records -/

section Records

variable (models : EvaluationModels) (manifest : EvaluationManifest)

/-- The case of a record has its contract. -/
structure FitsCase (item : EvaluationCase) (record : OutcomeRecord) : Prop where
  configuration : record.configurationSha256 = item.configurationSha256
  oracle : record.oracleSha256 = item.oracleSha256
  scoring : record.scoringSha256 = item.scoringSha256
  contract : checkContract item record = .ok ()

/-- What linking asks of a record by itself. -/
structure Fits (record : OutcomeRecord) : Prop where
  campaign : record.campaignId = manifest.campaignId
  digest : record.manifestSha256 = manifest.sha256 models
  recorded : manifest.frozenAt ≤ record.recordedAt
  slot : record.slot ∈ manifest.slots
  item : ∃ item, manifest.case? record.caseId = some item ∧ FitsCase item record

/-- The runs that records use. -/
def runsOf (records : List OutcomeRecord) : List String :=
  records.flatMap fun record => record.rootRunId.toList

/-- The tasks that records use. -/
def tasksOf (records : List OutcomeRecord) : List String :=
  records.flatMap fun record => record.taskId.toList

/-- The artifacts that records refer to. -/
def artifactsOf (records : List OutcomeRecord) : List OutcomeArtifactRef :=
  records.flatMap OutcomeRecord.artifacts

/-- No record uses an identity of another one. -/
structure Distinct (records : List OutcomeRecord) : Prop where
  slots : (records.map OutcomeRecord.slot).Nodup
  outcomes : (records.map OutcomeRecord.outcomeId).Nodup
  attempts : (records.map OutcomeRecord.attemptId).Nodup
  runs : (runsOf records).Nodup
  tasks : (tasksOf records).Nodup
  artifacts : SameArtifacts (artifactsOf records)

/-- What linking has seen of some records. -/
def linkedOf (records : List OutcomeRecord) : Linked where
  indexed := records
  outcomes := records.map OutcomeRecord.outcomeId
  attempts := records.map OutcomeRecord.attemptId
  runs := runsOf records
  tasks := tasksOf records
  artifacts := artifactsOf records

end Records

variable {models : EvaluationModels} {manifest : EvaluationManifest}
  {records records' : List OutcomeRecord} {record : OutcomeRecord} {linked : Linked}

theorem distinct_nil : Distinct [] :=
  ⟨.nil, .nil, .nil, .nil, .nil, fun _ ha => absurd ha List.not_mem_nil⟩

theorem nodup_concat {α : Type} {l : List α} {a : α} : (l ++ [a]).Nodup ↔ a ∉ l ∧ l.Nodup := by
  rw [(List.perm_append_singleton a l).nodup_iff, List.nodup_cons]

/-- The identities of one option join those that were used. -/
theorem nodup_append_toList {α : Type} {l : List α} {o : Option α} (hl : l.Nodup) :
    (l ++ o.toList).Nodup ↔ ¬ ∃ a ∈ o, a ∈ l := by
  cases o with
  | none =>
      rw [Option.toList_none, List.append_nil]
      refine iff_of_true hl ?_
      rintro ⟨a, ha, -⟩
      cases ha
  | some a =>
      rw [Option.toList_some, nodup_concat, and_iff_left hl]
      constructor
      · rintro hnot ⟨b, hb, hmem⟩
        cases hb
        exact hnot hmem
      · intro hnot hmem
        exact hnot ⟨a, rfl, hmem⟩

theorem runsOf_concat : runsOf (records ++ [record]) = runsOf records ++ record.rootRunId.toList := by
  unfold runsOf
  rw [List.flatMap_append, List.flatMap_singleton]

theorem tasksOf_concat : tasksOf (records ++ [record]) = tasksOf records ++ record.taskId.toList := by
  unfold tasksOf
  rw [List.flatMap_append, List.flatMap_singleton]

theorem artifactsOf_concat :
    artifactsOf (records ++ [record]) = artifactsOf records ++ record.artifacts := by
  unfold artifactsOf
  rw [List.flatMap_append, List.flatMap_singleton]

theorem Distinct.of_append (h : Distinct (records ++ records')) : Distinct records := by
  obtain ⟨hslots, houtcomes, hattempts, hruns, htasks, hartifacts⟩ := h
  have hsub : records.Sublist (records ++ records') := List.sublist_append_left _ _
  refine ⟨hslots.sublist (hsub.map _), houtcomes.sublist (hsub.map _),
    hattempts.sublist (hsub.map _), hruns.sublist ?_, htasks.sublist ?_, hartifacts.of_subset ?_⟩
  · unfold runsOf
    rw [List.flatMap_append]
    exact List.sublist_append_left _ _
  · unfold tasksOf
    rw [List.flatMap_append]
    exact List.sublist_append_left _ _
  · unfold artifactsOf
    rw [List.flatMap_append]
    exact List.subset_append_left _ _

/-- What a record adds to distinct ones. -/
theorem distinct_concat (hdistinct : Distinct records) : Distinct (records ++ [record])
    ↔ ¬ (record.slot ∈ records.map OutcomeRecord.slot
        ∨ record.outcomeId ∈ records.map OutcomeRecord.outcomeId
        ∨ record.attemptId ∈ records.map OutcomeRecord.attemptId)
      ∧ (¬ ∃ run ∈ record.rootRunId, run ∈ runsOf records)
      ∧ (¬ ∃ task ∈ record.taskId, task ∈ tasksOf records)
      ∧ SameArtifacts (artifactsOf records ++ record.artifacts) := by
  rw [not_or, not_or, ← nodup_append_toList hdistinct.runs, ← nodup_append_toList hdistinct.tasks,
    ← runsOf_concat, ← tasksOf_concat, ← artifactsOf_concat]
  constructor
  · rintro ⟨hslots, houtcomes, hattempts, hruns, htasks, hartifacts⟩
    rw [List.map_append, List.map_singleton, nodup_concat] at hslots houtcomes hattempts
    exact ⟨⟨hslots.1, houtcomes.1, hattempts.1⟩, hruns, htasks, hartifacts⟩
  · rintro ⟨⟨hslot, houtcome, hattempt⟩, hruns, htasks, hartifacts⟩
    refine ⟨?_, ?_, ?_, hruns, htasks, hartifacts⟩
    · rw [List.map_append, List.map_singleton, nodup_concat]
      exact ⟨hslot, hdistinct.slots⟩
    · rw [List.map_append, List.map_singleton, nodup_concat]
      exact ⟨houtcome, hdistinct.outcomes⟩
    · rw [List.map_append, List.map_singleton, nodup_concat]
      exact ⟨hattempt, hdistinct.attempts⟩

theorem linkedOf_concat : linkedOf (records ++ [record]) = {
    indexed := (linkedOf records).indexed ++ [record]
    outcomes := (linkedOf records).outcomes ++ [record.outcomeId]
    attempts := (linkedOf records).attempts ++ [record.attemptId]
    runs := (linkedOf records).runs ++ record.rootRunId.toList
    tasks := (linkedOf records).tasks ++ record.taskId.toList
    artifacts := artifactsOf records ++ record.artifacts } := by
  unfold linkedOf
  rw [runsOf_concat, tasksOf_concat, artifactsOf_concat, List.map_append, List.map_append,
    List.map_singleton, List.map_singleton]

/-- One round of the loop. -/
theorem linkRecord_ok (hdistinct : Distinct records) :
    linkRecord models manifest (linkedOf records) record = .ok linked
      ↔ Fits models manifest record ∧ Distinct (records ++ [record])
        ∧ linkedOf (records ++ [record]) = linked := by
  rw [distinct_concat hdistinct, linkedOf_concat]
  unfold linkRecord
  rw [refuse_bind_ok, refuse_bind_ok, refuse_bind_ok, bind_ok, not_or, not_not, not_not, not_not,
    not_lt]
  constructor
  · rintro ⟨⟨hcampaign, hmanifest⟩, hrecorded, hslot, item, hitem, h⟩
    rw [demand_ok] at hitem
    rw [refuse_bind_ok, refuse_bind_ok, refuse_bind_ok, refuse_bind_ok, bind_ok] at h
    obtain ⟨hhashes, hnew, hruns, htasks, artifacts, hartifacts, h⟩ := h
    obtain ⟨_, hcontract, h⟩ := bind_ok.1 h
    rw [return_ok] at h
    simp only [not_or, not_not] at hhashes
    obtain ⟨hconfiguration, horacle, hscoring⟩ := hhashes
    obtain ⟨hsame, rfl⟩ := (linkArtifacts_ok hdistinct.artifacts).1 hartifacts
    exact ⟨⟨hcampaign, hmanifest, hrecorded, hslot, item, hitem,
      ⟨hconfiguration, horacle, hscoring, hcontract⟩⟩, ⟨hnew, hruns, htasks, hsame⟩, h⟩
  · rintro ⟨⟨hcampaign, hmanifest, hrecorded, hslot, item, hitem, hcase⟩,
      ⟨hnew, hruns, htasks, hsame⟩, h⟩
    refine ⟨⟨hcampaign, hmanifest⟩, hrecorded, hslot, item, demand_ok.mpr hitem, ?_⟩
    rw [refuse_bind_ok, refuse_bind_ok, refuse_bind_ok, refuse_bind_ok, bind_ok]
    simp only [not_or, not_not]
    refine ⟨⟨hcase.configuration, hcase.oracle, hcase.scoring⟩, not_or.mp hnew |>.imp_right not_or.mp,
      hruns, htasks, _, (linkArtifacts_ok hdistinct.artifacts).2 ⟨hsame, rfl⟩, ?_⟩
    exact bind_ok.2 ⟨(), hcase.contract, return_ok.mpr h⟩

/-- The loop over the records. -/
theorem foldlM_linkRecord_ok (hdistinct : Distinct records) (rest : List OutcomeRecord) :
    rest.foldlM (linkRecord models manifest) (linkedOf records) = .ok linked
      ↔ (∀ record ∈ rest, Fits models manifest record) ∧ Distinct (records ++ rest)
        ∧ linkedOf (records ++ rest) = linked := by
  induction rest generalizing records with
  | nil =>
      rw [List.foldlM_nil, return_ok, List.append_nil]
      constructor
      · exact fun h => ⟨fun _ hrecord => absurd hrecord List.not_mem_nil, hdistinct, h⟩
      · exact fun h => h.2.2
  | cons record rest ih =>
      have happend : records ++ record :: rest = records ++ [record] ++ rest := by
        rw [List.append_assoc, List.singleton_append]
      rw [List.foldlM_cons, bind_ok, happend, List.forall_mem_cons]
      constructor
      · rintro ⟨next, hnext, hrest⟩
        obtain ⟨hfits, hnew, rfl⟩ := (linkRecord_ok hdistinct).1 hnext
        obtain ⟨hall, hlater, heq⟩ := (ih hnew).1 hrest
        exact ⟨⟨hfits, hall⟩, hlater, heq⟩
      · rintro ⟨⟨hfits, hall⟩, hlater, heq⟩
        have hnew := hlater.of_append
        exact ⟨_, (linkRecord_ok hdistinct).2 ⟨hfits, hnew, rfl⟩, (ih hnew).2 ⟨hall, hlater, heq⟩⟩

/-- What the checks of `evaluate_records` ask of a manifest and its outcomes. -/
structure Linkable (models : EvaluationModels) (manifest : EvaluationManifest)
    (records : List OutcomeRecord) : Prop where
  bounded : records.length ≤ 256
  frozen : manifest.validates models
  valid : ∀ record ∈ records, record.validates
  fits : ∀ record ∈ records, Fits models manifest record
  distinct : Distinct records

/-- The checks accept exactly the outcomes that are linkable, whatever their order. -/
theorem linkRecords_ok : linkRecords models manifest records = .ok linked
    ↔ Linkable models manifest records ∧ linkedOf records = linked := by
  unfold linkRecords
  rw [refuse_bind_ok, refuse_bind_ok, refuse_bind_ok, not_lt, not_not, not_not]
  have hloop := @foldlM_linkRecord_ok models manifest [] linked distinct_nil records
  rw [List.nil_append] at hloop
  have hstart : linkedOf [] = {} := rfl
  rw [hstart] at hloop
  rw [hloop]
  constructor
  · rintro ⟨hbounded, hmanifest, hrecords, hfits, hdistinct, heq⟩
    exact ⟨⟨hbounded, hmanifest, hrecords, hfits, hdistinct⟩, heq⟩
  · rintro ⟨⟨hbounded, hmanifest, hrecords, hfits, hdistinct⟩, heq⟩
    exact ⟨hbounded, hmanifest, hrecords, hfits, hdistinct, heq⟩

/-! ### The order of the records -/

theorem Distinct.perm (hperm : records.Perm records') (h : Distinct records) : Distinct records' := by
  obtain ⟨hslots, houtcomes, hattempts, hruns, htasks, hartifacts⟩ := h
  refine ⟨(hperm.map _).nodup_iff.mp hslots, (hperm.map _).nodup_iff.mp houtcomes,
    (hperm.map _).nodup_iff.mp hattempts, ?_, ?_, hartifacts.of_subset ?_⟩
  · exact (hperm.flatMap_right _).nodup_iff.mp hruns
  · exact (hperm.flatMap_right _).nodup_iff.mp htasks
  · exact (hperm.flatMap_right _).symm.subset

theorem Linkable.perm (hperm : records.Perm records') (h : Linkable models manifest records) :
    Linkable models manifest records' := by
  refine ⟨?_, h.frozen, fun record hrecord => ?_, fun record hrecord => ?_, h.distinct.perm hperm⟩
  · rw [← hperm.length_eq]
    exact h.bounded
  · exact h.valid record (hperm.mem_iff.mpr hrecord)
  · exact h.fits record (hperm.mem_iff.mpr hrecord)

theorem observeSlot_perm (hperm : records.Perm records') (hdistinct : Distinct records) :
    observeSlot manifest (linkedOf records) = observeSlot manifest (linkedOf records') := by
  funext slot
  have hget : Keyed.get? OutcomeRecord.slot (linkedOf records).indexed slot
      = Keyed.get? OutcomeRecord.slot (linkedOf records').indexed slot :=
    Keyed.get?_perm hperm hdistinct.slots slot
  unfold observeSlot
  rw [hget]

theorem reportUsage_perm (hperm : records.Perm records') : reportUsage records = reportUsage records' := by
  have hsegments : (segmentsOf records).Perm (segmentsOf records') := hperm.flatMap_right _
  have hamount : ∀ field, amountOf field (segmentsOf records) = amountOf field (segmentsOf records') :=
    fun field => (hsegments.map _).sum_eq
  unfold reportUsage
  simp only [hamount, (hsegments.map OutcomeUsage.unknownRequests).sum_eq,
    (hsegments.filter OutcomeUsage.unreported).length_eq,
    (hperm.filter fun record => record.usage = []).length_eq]

theorem reportCosts_perm (hperm : records.Perm records') : reportCosts records = reportCosts records' := by
  have hreported := hperm.filterMap OutcomeRecord.cost?
  unfold reportCosts
  dsimp only
  rw [Counter.total_perm hreported, Counter.ofKeys_perm (hreported.map Prod.fst)]

theorem reportCoverage_perm (hperm : records.Perm records') :
    reportCoverage manifest records = reportCoverage manifest records' := by
  unfold reportCoverage
  rw [hperm.length_eq, hperm.all_eq, hperm.all_eq]

/-- The report over records that were linked does not depend on their order. -/
theorem buildReport_perm (hperm : records.Perm records') (hdistinct : Distinct records) :
    buildReport models manifest (linkedOf records) records
      = buildReport models manifest (linkedOf records') records' := by
  unfold buildReport
  rw [observeSlot_perm hperm hdistinct, reportUsage_perm hperm, reportCosts_perm hperm,
    reportCoverage_perm hperm,
    (hperm.filter fun record => record.reportedCostMicrounits = none).length_eq]

end AgentFleet.Evaluation
