import AgentFleet.Evaluation.Linking
import Mathlib.Algebra.Order.BigOperators.Group.List

/-! # Usage and costs of outcomes

Validated records bound the sums of their usage (`usage_validates`) and of their costs
(`costs_validate`), and every record either reports a cost in one currency or counts as one without
(`sum_reportedRecords`). -/

namespace AgentFleet.Evaluation

variable {records : List OutcomeRecord} {record : OutcomeRecord}

theorem sum_map_le {α : Type} {l : List α} {f : α → ℕ} {bound limit : ℕ} (hf : ∀ a ∈ l, f a ≤ bound)
    (hlimit : l.length ≤ limit) : (l.map f).sum ≤ limit * bound := by
  have hsum : (l.map f).sum ≤ (l.map f).length • bound := by
    refine List.sum_le_card_nsmul _ _ fun n hn => ?_
    obtain ⟨a, ha, rfl⟩ := List.mem_map.mp hn
    exact hf a ha
  rw [List.length_map, Nat.nsmul_eq_mul] at hsum
  exact hsum.trans (Nat.mul_le_mul_right _ hlimit)

/-- The bounds of the usage and of the cost of a validated record. -/
theorem bounds_of_validates (h : record.validates) : record.usage.length ≤ 64
    ∧ (∀ segment ∈ record.usage, segment.validates)
    ∧ (∀ cost ∈ record.reportedCostMicrounits, cost ≤ maxCount)
    ∧ ∀ currency ∈ record.currency, isCurrency currency = true := by
  obtain ⟨⟨-, -, -, -, -, -, -, -, -, hbounds⟩, -⟩ := h
  exact hbounds

/-! ### Usage -/

theorem length_segmentsOf_le (hbounded : records.length ≤ 256)
    (hvalid : ∀ record ∈ records, record.validates) : (segmentsOf records).length ≤ 256 * 64 := by
  unfold segmentsOf
  rw [List.length_flatMap]
  exact sum_map_le (fun record hrecord => (bounds_of_validates (hvalid record hrecord)).1) hbounded

theorem segment_validates (hvalid : ∀ record ∈ records, record.validates) {segment : OutcomeUsage}
    (hsegment : segment ∈ segmentsOf records) : segment.validates := by
  obtain ⟨record, hrecord, hmem⟩ := List.mem_flatMap.mp hsegment
  exact (bounds_of_validates (hvalid record hrecord)).2.1 segment hmem

/-- Validated records bound the amounts of their usage. -/
theorem usage_validates (hbounded : records.length ≤ 256)
    (hvalid : ∀ record ∈ records, record.validates) : (reportUsage records).validates := by
  have hlength := length_segmentsOf_le hbounded hvalid
  have hamount : ∀ field : OutcomeUsage → Option ℕ,
      (∀ segment : OutcomeUsage, field segment ∈ segment.reported) →
        amountOf field (segmentsOf records) ≤ maxAggregate := by
    intro field hfield
    refine sum_map_le (fun segment hsegment => ?_) hlength
    have hle := (segment_validates hvalid hsegment).2.1 (field segment) (hfield segment)
    cases hvalue : field segment with
    | none => exact Nat.zero_le _
    | some n => exact hle n (by rw [hvalue]; rfl)
  have hunknown : ((segmentsOf records).map OutcomeUsage.unknownRequests).sum ≤ maxAggregate :=
    sum_map_le (fun segment hsegment => (segment_validates hvalid hsegment).2.2) hlength
  have hunreported : ((segmentsOf records).filter OutcomeUsage.unreported).length ≤ maxAggregate := by
    refine ((List.length_filter_le _ _).trans hlength).trans ?_
    unfold maxAggregate maxCount
    omega
  refine ⟨hamount _ ?_, hamount _ ?_, hamount _ ?_, hamount _ ?_, hamount _ ?_, hunknown, hunreported,
    (List.length_filter_le _ _).trans hbounded⟩
  all_goals
    intro segment
    simp only [OutcomeUsage.reported, List.mem_cons, true_or, or_true]

/-- Complete usage leaves nothing unreported. -/
theorem usage_of_complete (h : ∀ record ∈ records, record.usageComplete = true) :
    (reportUsage records).recordsWithoutUsage = 0 ∧ (reportUsage records).unreportedSegments = 0
      ∧ (reportUsage records).unknownRequests = 0 := by
  have hrecord : ∀ record ∈ records, record.usage ≠ [] ∧ ∀ segment ∈ record.usage,
      segment.unknownRequests = 0 ∧ segment.unreported = false := by
    intro record hrecord
    have hcomplete := h record hrecord
    unfold OutcomeRecord.usageComplete at hcomplete
    simp only [Bool.and_eq_true, decide_eq_true_eq, List.all_eq_true, Bool.not_eq_true'] at hcomplete
    exact hcomplete
  have hsegment : ∀ segment ∈ segmentsOf records,
      segment.unknownRequests = 0 ∧ segment.unreported = false := by
    intro segment hsegment
    obtain ⟨record, hmem, hsegment⟩ := List.mem_flatMap.mp hsegment
    exact (hrecord record hmem).2 segment hsegment
  refine ⟨?_, ?_, ?_⟩
  · refine List.length_eq_zero_iff.mpr (List.filter_eq_nil_iff.mpr fun record hmem hempty => ?_)
    exact (hrecord record hmem).1 (of_decide_eq_true hempty)
  · refine List.length_eq_zero_iff.mpr (List.filter_eq_nil_iff.mpr fun segment hmem hunreported => ?_)
    rw [(hsegment segment hmem).2] at hunreported
    cases hunreported
  · refine List.sum_eq_zero fun n hn => ?_
    obtain ⟨segment, hmem, rfl⟩ := List.mem_map.mp hn
    exact (hsegment segment hmem).1

/-! ### Costs -/

/-- The costs that some records report. -/
def reportedOf (records : List OutcomeRecord) : List (String × ℕ) :=
  records.filterMap OutcomeRecord.cost?

theorem cost?_eq_some {entry : String × ℕ} : record.cost? = some entry
    ↔ record.currency = some entry.1 ∧ record.reportedCostMicrounits = some entry.2 := by
  unfold OutcomeRecord.cost?
  constructor
  · intro h
    obtain ⟨currency, hcurrency, h⟩ := Option.bind_eq_some_iff.mp h
    obtain ⟨microunits, hmicrounits, h⟩ := Option.bind_eq_some_iff.mp h
    obtain rfl := Option.some.inj h
    exact ⟨hcurrency, hmicrounits⟩
  · rintro ⟨hcurrency, hmicrounits⟩
    rw [hcurrency, hmicrounits]
    rfl

/-- A validated record has no cost exactly where it reports none. -/
theorem cost?_isSome (hvalid : record.validates) :
    record.cost?.isSome = decide (record.reportedCostMicrounits ≠ none) := by
  obtain ⟨-, -, -, -, -, -, -, -, hcurrency⟩ := hvalid
  unfold OutcomeRecord.cost?
  cases hcost : record.reportedCostMicrounits with
  | none =>
      rw [hcurrency.mp hcost]
      rfl
  | some =>
      cases hname : record.currency with
      | none =>
          rw [hcurrency.mpr hname] at hcost
          cases hcost
      | some => rfl

theorem length_reportedOf (hvalid : ∀ record ∈ records, record.validates) :
    (reportedOf records).length
      + (records.filter fun record => record.reportedCostMicrounits = none).length
      = records.length := by
  induction records with
  | nil => rfl
  | cons record records ih =>
      rw [List.forall_mem_cons] at hvalid
      have hrest := ih hvalid.2
      have hsome := cost?_isSome hvalid.1
      unfold reportedOf at hrest ⊢
      rw [List.filterMap_cons, List.filter_cons]
      cases hcost : record.reportedCostMicrounits with
      | none =>
          rw [hcost] at hsome
          rw [Option.isSome_eq_false_iff.mp hsome |> Option.isNone_iff_eq_none.mp]
          simp only [decide_true, if_true, List.length_cons]
          omega
      | some microunits =>
          rw [hcost] at hsome
          obtain ⟨entry, hentry⟩ := Option.isSome_iff_exists.mp hsome
          rw [hentry]
          simp only [reduceCtorEq, decide_false, Bool.false_eq_true, if_false, List.length_cons]
          omega

theorem length_reportedOf_le (hbounded : records.length ≤ 256) : (reportedOf records).length ≤ 256 :=
  (List.length_filterMap_le _ _).trans hbounded

theorem map_reportedRecords : (reportCosts records).map ReportedCost.reportedRecords
    = (Counter.ofKeys ((reportedOf records).map Prod.fst)).items.map Prod.snd := by
  have hcounts : (reportCosts records).map ReportedCost.reportedRecords
      = ((Counter.total (reportedOf records)).items.map Prod.fst).map
        (Counter.ofKeys ((reportedOf records).map Prod.fst)).count := by
    unfold reportCosts
    rw [List.map_map, List.map_map]
    rfl
  rw [hcounts, Counter.keys_total, List.map_map]
  refine List.map_congr_left fun item hitem => ?_
  rw [Function.comp_apply, Counter.count_ofKeys, (Counter.mem_items_ofKeys.mp hitem).2]

/-- Every cost that was reported is counted under one currency. -/
theorem sum_reportedRecords (hvalid : ∀ record ∈ records, record.validates) :
    ((reportCosts records).map ReportedCost.reportedRecords).sum
      + (records.filter fun record => record.reportedCostMicrounits = none).length
      = records.length := by
  rw [map_reportedRecords, Counter.sum_ofKeys, List.length_map]
  exact length_reportedOf hvalid

theorem currencies_reportCosts : (reportCosts records).map ReportedCost.currency
    = (Counter.total (reportedOf records)).items.map Prod.fst := by
  unfold reportCosts
  rw [List.map_map]
  rfl

theorem nodup_currencies : ((reportCosts records).map ReportedCost.currency).Nodup := by
  rw [currencies_reportCosts]
  exact Counter.nodup_keys _

/-- Validated records bound the amounts of their costs. -/
theorem costs_validate (hbounded : records.length ≤ 256)
    (hvalid : ∀ record ∈ records, record.validates) : ∀ cost ∈ reportCosts records, cost.validates := by
  intro cost hcost
  obtain ⟨item, hitem, rfl⟩ := List.mem_map.mp hcost
  obtain ⟨hkey, hamount⟩ := Counter.mem_items_total.mp hitem
  obtain ⟨entry, hentry, hcurrency⟩ := List.mem_map.mp hkey
  obtain ⟨record, hrecord, hcost?⟩ := List.mem_filterMap.mp hentry
  obtain ⟨hname, -⟩ := cost?_eq_some.mp hcost?
  obtain ⟨-, -, -, hcurrencies⟩ := bounds_of_validates (hvalid record hrecord)
  have hcount : (Counter.ofKeys ((reportedOf records).map Prod.fst)).count item.1
      = ((reportedOf records).map Prod.fst).count item.1 := Counter.count_ofKeys _
  refine ⟨?_, ?_, ?_, ?_⟩
  · rw [← hcurrency]
    exact hcurrencies entry.1 hname
  · have hle : ∀ entry ∈ (reportedOf records).filter (fun entry => entry.1 = item.1),
        entry.2 ≤ maxCount := by
      intro entry hentry
      obtain ⟨record, hrecord, hcost?⟩ := List.mem_filterMap.mp (List.mem_filter.mp hentry).1
      obtain ⟨-, hmicrounits⟩ := cost?_eq_some.mp hcost?
      exact (bounds_of_validates (hvalid record hrecord)).2.2.1 entry.2 hmicrounits
    have hsum := sum_map_le hle ((List.length_filter_le _ _).trans (length_reportedOf_le hbounded))
    dsimp only
    rw [hamount]
    refine (Nat.le_trans hsum ?_)
    exact Nat.mul_le_mul_right _ (by omega)
  · dsimp only
    exact hcount.symm ▸ List.count_pos_iff.mpr hkey
  · dsimp only
    refine (le_of_eq hcount).trans (List.count_le_length.trans ?_)
    rw [List.length_map]
    exact length_reportedOf_le hbounded

theorem length_reportCosts_le (hbounded : records.length ≤ 256)
    (hvalid : ∀ record ∈ records, record.validates) : (reportCosts records).length ≤ 256 := by
  have hsum := sum_reportedRecords hvalid
  have hle := List.length_le_sum_of_one_le ((reportCosts records).map ReportedCost.reportedRecords) <| by
    intro n hn
    obtain ⟨cost, hcost, rfl⟩ := List.mem_map.mp hn
    exact (costs_validate hbounded hvalid cost hcost).2.2.1
  rw [List.length_map] at hle
  omega

end AgentFleet.Evaluation
