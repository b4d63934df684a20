import AgentFleet.Evaluation.Linking
import Mathlib.Algebra.Order.BigOperators.Group.List

/-! # Counts and observations

The counts of a group are those of a multiset of results (`countsOf_perm`), and over at most 256
results they validate (`countsOf_eq`).  A validated manifest (`Registered`) declares the case of
every slot, so each slot is observed (`observeSlots_eq`): as a repeated one exactly when its
repetition is not the first. -/

namespace AgentFleet.Evaluation

open Checks

variable {models : EvaluationModels} {manifest : EvaluationManifest}
  {records records' : List OutcomeRecord} {results results' : List Observed}

/-! ### Counts -/

theorem Observed.mem_all (result : Observed) : result ∈ Observed.all := by
  cases result with
  | missing => exact List.mem_cons_self
  | outcome kind =>
      refine List.mem_cons_of_mem _ (List.mem_map_of_mem ?_)
      cases kind <;> simp

/-- A rate of at most all of the slots is at most a hundred percent. -/
theorem successRate_le {successful planned : ℕ} (h : successful ≤ planned) (hpos : 0 < planned) :
    successRate successful planned ≤ 100000000 := by
  unfold successRate
  rw [← Nat.lt_succ_iff, Nat.div_lt_iff_lt_mul (by omega)]
  omega

theorem bin_buildCounts (results : List Observed) (result : Observed) :
    (buildCounts results).bin result = results.count result := by
  have hitems : (buildCounts results).outcomes = (Counter.ofKeys results).items := rfl
  unfold EvaluationCounts.bin
  rw [hitems, Counter.get?_items, ← Counter.count_ofKeys]
  rfl

theorem buildCounts_coherent (results : List Observed) : (buildCounts results).coherent := by
  refine ⟨Counter.nodup_keys _, Counter.sum_ofKeys results, ?_, ?_, rfl⟩
  · rw [bin_buildCounts, bin_buildCounts, ← Counter.count_ofKeys, ← Counter.count_ofKeys]
    rfl
  · rw [bin_buildCounts, ← Counter.count_ofKeys]
    rfl

theorem length_items_le (results : List Observed) : (Counter.ofKeys results).items.length ≤ 11 := by
  have hsub : (Counter.ofKeys results).items.map Prod.fst ⊆ Observed.all :=
    fun result _ => result.mem_all
  have hle := ((Counter.nodup_keys (Counter.ofKeys results)).subperm hsub).length_le
  rw [List.length_map] at hle
  exact hle

theorem buildCounts_validates (h : results.length ≤ 256) : (buildCounts results).validates := by
  have hsuccessful : (Counter.ofKeys results).count (.outcome .verifiedSuccess) ≤ results.length := by
    rw [Counter.count_ofKeys]
    exact List.count_le_length
  refine ⟨h, ?_, hsuccessful.trans h, ?_, length_items_le results, ?_, buildCounts_coherent results⟩
  · have hobserved : (buildCounts results).observed ≤ results.length :=
      (Nat.sub_le _ _).trans (Nat.sub_le _ _)
    exact hobserved.trans h
  · intro percentage hpercentage
    have hrate : (buildCounts results).successPercentage = if (buildCounts results).observed = 0
        then none else some (successRate _ results.length) := rfl
    rw [hrate] at hpercentage
    split_ifs at hpercentage with hobserved
    · cases hpercentage
    · have hpos : 0 < results.length := by
        by_contra hempty
        have hzero : results.length - (Counter.ofKeys results).count .missing
            - (Counter.ofKeys results).count (.outcome .notRun) = 0 := by omega
        exact hobserved hzero
      obtain rfl := Option.some.inj hpercentage
      exact successRate_le hsuccessful hpos
  · intro item hitem
    obtain ⟨-, hcount⟩ := Counter.mem_items_ofKeys.mp hitem
    rw [hcount]
    exact List.count_le_length.trans h

theorem countsOf_eq (h : results.length ≤ 256) : countsOf results = .ok (buildCounts results) := by
  unfold countsOf
  rw [refuse_bind_ok, return_ok, not_not]
  exact ⟨buildCounts_validates h, rfl⟩

theorem buildCounts_perm (h : results.Perm results') : buildCounts results = buildCounts results' := by
  unfold buildCounts
  rw [Counter.ofKeys_perm h, h.length_eq]

/-- Counts forget the order of the results. -/
theorem countsOf_perm (h : results.Perm results') : countsOf results = countsOf results' := by
  unfold countsOf
  rw [buildCounts_perm h]

/-! ### Manifests -/

variable {caseId : String} {repetition : ℕ} {slot : EvaluationSlot} {item : EvaluationCase}

theorem EvaluationManifest.mem_repetitions :
    repetition ∈ manifest.repetitions caseId
      ↔ (⟨caseId, repetition⟩ : EvaluationSlot) ∈ manifest.slots := by
  unfold repetitions
  rw [List.mem_map]
  constructor
  · rintro ⟨slot, hslot, rfl⟩
    obtain ⟨hmem, hcase⟩ := List.mem_filter.mp hslot
    obtain rfl := of_decide_eq_true hcase
    exact hmem
  · intro hmem
    exact ⟨_, List.mem_filter.mpr ⟨hmem, decide_eq_true rfl⟩, rfl⟩

/-- What a validated manifest says of its slots. -/
structure Registered (manifest : EvaluationManifest) : Prop where
  campaign : hasIdentity "campaign" 32 manifest.campaignId = true
  repositories : manifest.repositories.length ≤ 16
  slots : 1 ≤ manifest.slots.length ∧ manifest.slots.length ≤ 256
  valid : ∀ slot ∈ manifest.slots, slot.validates
  item : ∀ slot ∈ manifest.slots, ∃ item, manifest.case? slot.caseId = some item
    ∧ manifest.declares item ∧ manifest.attemptsContiguous item ∧ item.caseId = slot.caseId

theorem registered_of_validates (h : manifest.validates models) : Registered manifest := by
  obtain ⟨-, hcampaign, -, -, ⟨-, hrepositories⟩, -, -, -, hslots, hvalid, -, -, -, hcases,
    hdeclares, hdeclared, hcontiguous, -⟩ := h
  refine ⟨hcampaign, hrepositories, hslots, hvalid, fun slot hslot => ?_⟩
  obtain ⟨item, hitem, hid⟩ := List.mem_map.mp (hdeclared slot hslot)
  exact ⟨item, (Keyed.get?_eq_some_iff hcases).mpr ⟨hitem, hid⟩, hdeclares item hitem,
    hcontiguous item hitem, hid⟩

/-- The attempts of a case before one of its attempts are registered too. -/
theorem Registered.previous (h : Registered manifest) {previous : ℕ}
    (hslot : (⟨caseId, repetition⟩ : EvaluationSlot) ∈ manifest.slots)
    (hle : previous ≤ repetition) : (⟨caseId, previous⟩ : EvaluationSlot) ∈ manifest.slots := by
  obtain ⟨item, -, -, ⟨hsorted, -, -⟩, hid⟩ := h.item _ hslot
  dsimp only at hid
  subst hid
  have hrange : ∀ n, n ∈ manifest.repetitions item.caseId
      ↔ n < (manifest.repetitions item.caseId).length := by
    intro n
    rw [← List.mem_range, ← hsorted, List.mem_mergeSort]
  rw [← EvaluationManifest.mem_repetitions, hrange] at hslot ⊢
  omega

/-- An auxiliary case is attempted once. -/
theorem Registered.once (h : Registered manifest) (hslot : slot ∈ manifest.slots)
    (hitem : manifest.case? slot.caseId = some item) (hauxiliary : item.auxiliaryPurpose ≠ none) :
    slot.repetition = 0 := by
  obtain ⟨other, hother, -, ⟨-, -, honce⟩, hid⟩ := h.item slot hslot
  rw [hitem] at hother
  obtain rfl := Option.some.inj hother
  have hmem : slot.repetition ∈ manifest.repetitions item.caseId := by
    rw [EvaluationManifest.mem_repetitions, hid]
    exact hslot
  rw [honce hauxiliary] at hmem
  exact List.mem_singleton.mp hmem

theorem mem_sortedSlots : slot ∈ manifest.sortedSlots ↔ slot ∈ manifest.slots := by
  unfold EvaluationManifest.sortedSlots
  rw [List.mem_mergeSort, List.mem_dedup]

theorem nodup_sortedSlots (manifest : EvaluationManifest) : manifest.sortedSlots.Nodup :=
  (List.mergeSort_perm _ _).nodup_iff.mpr (List.nodup_dedup _)

theorem length_sortedSlots (manifest : EvaluationManifest) :
    manifest.sortedSlots.length = manifest.slots.dedup.length :=
  (List.mergeSort_perm _ _).length_eq

theorem Registered.length_le (h : Registered manifest) : manifest.sortedSlots.length ≤ 256 := by
  rw [length_sortedSlots]
  exact (List.dedup_sublist _).length_le.trans h.slots.2

/-! ### Observations -/

/-- What is observed of a slot whose case is declared. -/
def observation (manifest : EvaluationManifest) (records : List OutcomeRecord)
    (slot : EvaluationSlot) : SlotEvaluation where
  caseId := slot.caseId
  repetition := slot.repetition
  group := (manifest.case? slot.caseId).elim .auxiliary fun item => groupOf item slot.repetition
  result := observedResult (Keyed.get? OutcomeRecord.slot records slot)

/-- The observations of a report. -/
def observations (manifest : EvaluationManifest) (records : List OutcomeRecord) :
    List SlotEvaluation := manifest.sortedSlots.map (observation manifest records)

theorem groupOf_repeated (honce : item.auxiliaryPurpose ≠ none → repetition = 0) :
    groupOf item repetition = .repeated ↔ 0 < repetition := by
  unfold groupOf
  split_ifs with hauxiliary hpos
  · rw [honce hauxiliary]
    exact iff_of_false (fun h => by cases h) (Nat.lt_irrefl 0)
  · exact iff_of_true rfl hpos
  · exact iff_of_false (fun h => by cases h) hpos

theorem groupOf_firstRound :
    groupOf item repetition = .firstRound ↔ item.auxiliaryPurpose = none ∧ repetition = 0 := by
  unfold groupOf
  split_ifs with hauxiliary hpos
  · exact iff_of_false (fun h => by cases h) fun h => hauxiliary h.1
  · exact iff_of_false (fun h => by cases h) fun h => by omega
  · exact iff_of_true rfl ⟨not_not.mp hauxiliary, by omega⟩

theorem observation_validates (h : Registered manifest) {slot : EvaluationSlot}
    (hslot : slot ∈ manifest.slots) : (observation manifest records slot).validates := by
  obtain ⟨item, hitem, -⟩ := h.item slot hslot
  refine ⟨h.valid slot hslot, ?_⟩
  have hgroup : (observation manifest records slot).group = groupOf item slot.repetition := by
    unfold observation
    rw [hitem]
    rfl
  rw [hgroup]
  exact groupOf_repeated fun hauxiliary => h.once hslot hitem hauxiliary

theorem observeSlot_eq (h : Registered manifest) (hslot : slot ∈ manifest.slots) :
    observeSlot manifest (linkedOf records) slot = .ok (observation manifest records slot) := by
  have hvalid := @observation_validates manifest records h slot hslot
  obtain ⟨item, hitem, -⟩ := h.item slot hslot
  unfold observeSlot
  rw [bind_ok]
  refine ⟨item, demand_ok.mpr hitem, ?_⟩
  have hvalue : observation manifest records slot = {
      caseId := slot.caseId
      repetition := slot.repetition
      group := groupOf item slot.repetition
      result := observedResult (Keyed.get? OutcomeRecord.slot (linkedOf records).indexed slot) } := by
    unfold observation
    rw [hitem]
    rfl
  rw [hvalue] at hvalid ⊢
  rw [refuse_bind_ok, return_ok, not_not]
  exact ⟨hvalid, rfl⟩

theorem observeSlots_eq (h : Registered manifest) :
    manifest.sortedSlots.mapM (observeSlot manifest (linkedOf records))
      = .ok (observations manifest records) :=
  mapM_eq_ok fun _ hslot => observeSlot_eq h (mem_sortedSlots.mp hslot)

theorem map_slot_observations : (observations manifest records).map SlotEvaluation.slot
    = manifest.sortedSlots := by
  unfold observations
  rw [List.map_map]
  exact List.map_id _

theorem mem_observations {value : SlotEvaluation} : value ∈ observations manifest records
    ↔ ∃ slot ∈ manifest.slots, observation manifest records slot = value := by
  unfold observations
  rw [List.mem_map]
  exact exists_congr fun slot => and_congr_left fun _ => mem_sortedSlots

theorem length_observations : (observations manifest records).length = manifest.slots.dedup.length := by
  unfold observations
  rw [List.length_map, length_sortedSlots]

end AgentFleet.Evaluation
