import AgentFleet.Assurance.Soundness

/-! # Earlier records in a bundle

A run that repairs keeps the command records of its earlier iterations, and the bundle of its last
iteration holds them in front of its own.  The gate holds every record to its checks, whichever
iteration it is of: `withEarlier_verified` says exactly which earlier records leave a verified
bundle verified, and `repair_decision` what that means for failures and for earlier verifiers. -/

namespace AgentFleet

open Findings Keyed

/-- The bundle with the records of earlier iterations in front. -/
def EvidenceBundle.withEarlier (bundle : EvidenceBundle) (earlier : List CommandEvidence) :
    EvidenceBundle :=
  { bundle with commandEvidence := earlier ++ bundle.commandEvidence }

namespace CompletionGate

variable {svc : EvidenceServices} {bundle : EvidenceBundle} {earlier : List CommandEvidence}
  {expectedCriteria : List String} {authoritative : List String}

/-! ### What earlier records leave alone -/

theorem verifierCommands_withEarlier
    (hother : ∀ item ∈ earlier, some item.agentInstanceId ≠ bundle.verifierAgentInstanceId) :
    (bundle.withEarlier earlier).verifierCommands = bundle.verifierCommands := by
  show (earlier ++ bundle.commandEvidence).filter _ = bundle.commandEvidence.filter _
  rw [List.filter_append]
  apply List.append_left_eq_self.mpr
  rw [List.filter_eq_nil_iff]
  intro item hmem howned
  exact hother item hmem (of_decide_eq_true howned)

theorem recordAccepted_withEarlier {item : CommandEvidence} :
    RecordAccepted (bundle.withEarlier earlier) authoritative item
      ↔ RecordAccepted bundle authoritative item :=
  ⟨fun h => ⟨h.artifacts, h.identity, h.reviewed, h.sandbox, h.inspected, h.executed, h.network,
      h.succeeded, h.timed, h.whole, h.genuine, h.independent, h.current⟩,
    fun h => ⟨h.artifacts, h.identity, h.reviewed, h.sandbox, h.inspected, h.executed, h.network,
      h.succeeded, h.timed, h.whole, h.genuine, h.independent, h.current⟩⟩

/-- The mapping of the criteria looks at the records of the verifier only. -/
theorem mappingReasons_withEarlier
    (hother : ∀ item ∈ earlier, some item.agentInstanceId ≠ bundle.verifierAgentInstanceId)
    (hnodup : (evidenceIds (earlier ++ bundle.commandEvidence)).Nodup)
    (h : mappingReasons bundle expectedCriteria = []) :
    mappingReasons (bundle.withEarlier earlier) expectedCriteria = [] := by
  unfold mappingReasons at h ⊢
  have hkept : (bundle.withEarlier earlier).structuredCriterionResults
      = bundle.structuredCriterionResults := rfl
  rw [hkept]
  cases hresults : bundle.structuredCriterionResults with
  | none =>
      rw [hresults] at h
      exact h
  | some results =>
      rw [hresults] at h
      dsimp only at h ⊢
      have hsound := not_or.mp (reasonIf_eq_nil.mp h)
      have hsame : mapping (bundle.withEarlier earlier) expectedCriteria results
          = mapping bundle expectedCriteria results :=
        assessCriterionResults_append hother hnodup (not_not.mp hsound.1)
      rw [hsame]
      exact h

theorem deliveryReasons_withEarlier
    (hother : ∀ item ∈ earlier, some item.agentInstanceId ≠ bundle.verifierAgentInstanceId)
    (hnodup : (evidenceIds (earlier ++ bundle.commandEvidence)).Nodup)
    (h : deliveryReasons svc bundle expectedCriteria authoritative = []) :
    deliveryReasons svc (bundle.withEarlier earlier) expectedCriteria authoritative = [] := by
  unfold deliveryReasons at h ⊢
  rw [List.flatten_eq_nil_iff, List.forall_mem_cons, List.forall_mem_cons] at h ⊢
  exact ⟨h.1, mappingReasons_withEarlier hother hnodup h.2.1, h.2.2⟩

theorem profileReasons_withEarlier
    (hother : ∀ item ∈ earlier, some item.agentInstanceId ≠ bundle.verifierAgentInstanceId)
    (hnodup : (evidenceIds (earlier ++ bundle.commandEvidence)).Nodup)
    (hartifacts : ∀ item ∈ earlier, artifactsOf item ⊆ authoritative)
    (h : profileReasons bundle authoritative = []) :
    profileReasons (bundle.withEarlier earlier) authoritative = [] := by
  simp only [profileReasons, List.flatten_eq_nil_iff, List.forall_mem_cons, reasonIf_eq_nil]
    at h ⊢
  obtain ⟨hrequired, hreviewed, -, hdeclared, hmissing, hnil⟩ := h
  refine ⟨hrequired, hreviewed, not_not.mpr hnodup, ?_, ?_, hnil⟩
  · rw [not_not, declaredArtifactIds_subset] at hdeclared ⊢
    refine ⟨hdeclared.1, fun item hmem => ?_, hdeclared.2.2⟩
    rcases List.mem_append.mp hmem with hearlier | hown
    · exact hartifacts item hearlier
    · exact hdeclared.2.1 item hown
  · rintro ⟨requirement, hmem, hplan | hpatch | ⟨hid, hempty⟩ | ⟨hid, hverdict⟩⟩
    · exact hmissing ⟨requirement, hmem, .inl hplan⟩
    · exact hmissing ⟨requirement, hmem, .inr (.inl hpatch)⟩
    · have hnone : bundle.commandEvidence = [] := (List.append_eq_nil_iff.mp hempty).2
      exact hmissing ⟨requirement, hmem, .inr (.inr (.inl ⟨hid, hnone⟩))⟩
    · rw [verifierCommands_withEarlier hother] at hverdict
      exact hmissing ⟨requirement, hmem, .inr (.inr (.inr ⟨hid, hverdict⟩))⟩

theorem criterionReasons_withEarlier
    (h : criterionReasons bundle expectedCriteria authoritative = []) :
    criterionReasons (bundle.withEarlier earlier) expectedCriteria authoritative = [] := by
  simp only [criterionReasons, List.flatten_eq_nil_iff, List.forall_mem_cons, reasonIf_eq_nil]
    at h ⊢
  obtain ⟨hunique, hcomplete, hpassing, hcited, hbound, hgaps⟩ := h
  refine ⟨hunique, hcomplete, hpassing, hcited, ?_, hgaps⟩
  have hids : criterionEvidenceIds bundle ⊆ criterionEvidenceIds (bundle.withEarlier earlier) := by
    intro id hid
    rcases List.mem_append.mp hid with hcommand | hverdict
    · obtain ⟨item, hmem, rfl⟩ := List.mem_map.mp hcommand
      exact List.mem_append_left _ (List.mem_map_of_mem (List.mem_append_right _ hmem))
    · exact List.mem_append_right _ hverdict
  rintro ⟨assessment, hmem, hunbound | hunauthorized⟩
  · exact hbound ⟨assessment, hmem, .inl fun hsubset => hunbound (List.Subset.trans hsubset hids)⟩
  · exact hbound ⟨assessment, hmem, .inr hunauthorized⟩

theorem verdictReasons_withEarlier
    (hother : ∀ item ∈ earlier, some item.agentInstanceId ≠ bundle.verifierAgentInstanceId)
    (h : verdictReasons bundle authoritative = []) :
    verdictReasons (bundle.withEarlier earlier) authoritative = [] := by
  unfold verdictReasons at h ⊢
  rw [verifierCommands_withEarlier hother]
  simp only [List.flatten_eq_nil_iff, List.forall_mem_cons, reasonIf_eq_nil] at h ⊢
  obtain ⟨h₁, h₂, h₃, h₄, h₅, h₆, h₇, h₈, hmissing, h₁₀, h₁₁, hnil⟩ := h
  refine ⟨h₁, h₂, h₃, h₄, h₅, h₆, h₇, h₈, ?_, h₁₀, h₁₁, hnil⟩
  rintro ⟨hpatch, hempty⟩
  exact hmissing ⟨hpatch, (List.append_eq_nil_iff.mp hempty).2⟩

theorem commandsCover_withEarlier
    (hother : ∀ item ∈ earlier, some item.agentInstanceId ≠ bundle.verifierAgentInstanceId)
    (h : CommandsCover bundle) : CommandsCover (bundle.withEarlier earlier) := by
  constructor
  · intro id hid
    obtain ⟨item, hmem, rfl⟩ := List.mem_map.mp (h.required hid)
    exact List.mem_map_of_mem (List.mem_append_right _ hmem)
  · rw [verifierCommands_withEarlier hother]
    exact h.verifierRequired
  · rw [verifierCommands_withEarlier hother]
    exact fun item hmem =>
      ⟨(h.verifier item hmem).unchanged, (h.verifier item hmem).provenance,
        (h.verifier item hmem).strong, (h.verifier item hmem).patch⟩
  · intro hsome
    obtain ⟨item, hmem, hcurrent⟩ := h.patch hsome
    exact ⟨item, List.mem_append_right _ hmem, hcurrent⟩
  · rw [verifierCommands_withEarlier hother]
    exact h.verifierPatch

/-! ### The decision on the extended bundle -/

/-- Earlier records of other agents leave a verified bundle verified exactly when their
identifiers are new and the gate accepts each of them. -/
theorem withEarlier_verified
    (hverified : (evaluate svc bundle expectedCriteria authoritative).verifiedComplete = true)
    (hother : ∀ item ∈ earlier, some item.agentInstanceId ≠ bundle.verifierAgentInstanceId) :
    (evaluate svc (bundle.withEarlier earlier) expectedCriteria
        authoritative).verifiedComplete = true
      ↔ (evidenceIds (earlier ++ bundle.commandEvidence)).Nodup
        ∧ ∀ item ∈ earlier, RecordAccepted bundle authoritative item := by
  obtain ⟨hreasons, hreported⟩ := verified_iff.mp hverified
  obtain ⟨hdelivery, hsandbox, hprofile, hcriteria, hverdict, hcommands, hstrength⟩ :=
    reasons_eq_nil.mp hreasons
  rw [verified_iff, reasons_eq_nil]
  constructor
  · rintro ⟨⟨-, -, hprofile', -, -, hcommands', hstrength'⟩, -⟩
    simp only [profileReasons, List.flatten_eq_nil_iff, List.forall_mem_cons, reasonIf_eq_nil]
      at hprofile'
    obtain ⟨-, -, hnodup, hdeclared, -⟩ := hprofile'
    have hartifacts := (declaredArtifactIds_subset.mp (not_not.mp hdeclared)).2.1
    have haccepted := (commands_passed.mp ⟨hcommands', hstrength', hartifacts⟩).1
    refine ⟨not_not.mp hnodup, fun item hmem => ?_⟩
    exact recordAccepted_withEarlier.mp (haccepted item (List.mem_append_left _ hmem))
  · rintro ⟨hnodup, haccepted⟩
    have hprofile' := profileReasons_withEarlier hother hnodup
      (fun item hmem => (haccepted item hmem).artifacts) hprofile
    simp only [profileReasons, List.flatten_eq_nil_iff, List.forall_mem_cons, reasonIf_eq_nil]
      at hprofile
    obtain ⟨-, -, -, hdeclared, -⟩ := hprofile
    have hartifacts := (declaredArtifactIds_subset.mp (not_not.mp hdeclared)).2.1
    obtain ⟨hown, hcover⟩ := commands_passed.mp ⟨hcommands, hstrength, hartifacts⟩
    have hall : ∀ item ∈ (bundle.withEarlier earlier).commandEvidence,
        RecordAccepted (bundle.withEarlier earlier) authoritative item := by
      intro item hmem
      rw [recordAccepted_withEarlier]
      rcases List.mem_append.mp hmem with hearlier | hmem
      · exact haccepted item hearlier
      · exact hown item hmem
    obtain ⟨hcommands', hstrength', -⟩ :=
      commands_passed.mpr ⟨hall, commandsCover_withEarlier hother hcover⟩
    exact ⟨⟨deliveryReasons_withEarlier hother hnodup hdelivery, hsandbox, hprofile',
      criterionReasons_withEarlier hcriteria, verdictReasons_withEarlier hother hverdict,
      hcommands', hstrength'⟩, hreported⟩

/-- Earlier records of other agents leave a verified bundle verified exactly when their
identifiers are new and the gate accepts each of them; a failed record among them, or one that an
earlier verifier made as independent proof, never does. -/
theorem repair_decision (svc : EvidenceServices) (bundle : EvidenceBundle)
    (earlier : List CommandEvidence) (expectedCriteria authoritative : List String)
    (hverified : (evaluate svc bundle expectedCriteria authoritative).verifiedComplete = true)
    (hother : ∀ item ∈ earlier, some item.agentInstanceId ≠ bundle.verifierAgentInstanceId) :
    let decision := evaluate svc (bundle.withEarlier earlier) expectedCriteria authoritative
    (decision.verifiedComplete = true
        ↔ (evidenceIds (earlier ++ bundle.commandEvidence)).Nodup
          ∧ ∀ item ∈ earlier, RecordAccepted bundle authoritative item)
      ∧ ∀ item ∈ earlier, item.failed ∨ item.strength = .independentlyVerified →
        decision.verifiedComplete = false := by
  intro decision
  have hiff := withEarlier_verified hverified hother
  refine ⟨hiff, fun item hmem hrefused => eq_false_of_ne_true fun h => ?_⟩
  have haccepted := (hiff.mp h).2 item hmem
  rcases hrefused with hfailed | hindependent
  · exact haccepted.succeeded hfailed
  · exact hother item hmem (haccepted.independent hindependent).1

/-- The failed run of the tests by the verifier of the first iteration. -/
def sampleEarlier : CommandEvidence :=
  { sampleCommand with
    evidenceId := "evidence_1"
    agentInstanceId := "verifier_1"
    workspaceId := some "workspace_1"
    sandboxId := some "sandbox_1"
    exitCode := 1
    transcriptArtifactId := "transcript_1"
    candidatePatchSha256 := none
    executionId := some "execution_1"
    sandboxInspectionArtifactId := some "inspection_1"
    startedAt := 0
    completedAt := 10 }

/-- The artifacts of both iterations. -/
def sampleRepairArtifacts : List String :=
  ["evidence_1", "transcript_1", "inspection_1"] ++ sampleArtifacts

theorem repair_decision_sampleBundle :
    let decision := evaluate sampleEvidenceServices (sampleBundle.withEarlier [sampleEarlier])
      ["criterion_1"] sampleRepairArtifacts
    (decision.verifiedComplete = true
        ↔ (evidenceIds [sampleEarlier, sampleCommand]).Nodup
          ∧ ∀ item ∈ [sampleEarlier], RecordAccepted sampleBundle sampleRepairArtifacts item)
      ∧ ∀ item ∈ [sampleEarlier], item.failed ∨ item.strength = .independentlyVerified →
        decision.verifiedComplete = false :=
  repair_decision sampleEvidenceServices sampleBundle [sampleEarlier] ["criterion_1"]
    sampleRepairArtifacts (by decide +kernel) (by decide)

/-- A verified bundle that is not verified any more with the failed record of an earlier
verifier. -/
theorem repair_not_verified :
    (evaluate sampleEvidenceServices sampleBundle ["criterion_1"]
        sampleRepairArtifacts).verifiedComplete = true
      ∧ some sampleEarlier.agentInstanceId ≠ sampleBundle.verifierAgentInstanceId
      ∧ (evaluate sampleEvidenceServices (sampleBundle.withEarlier [sampleEarlier])
          ["criterion_1"] sampleRepairArtifacts).verifiedComplete = false
      ∧ (evaluate sampleEvidenceServices (sampleBundle.withEarlier [sampleEarlier])
          ["criterion_1"] sampleRepairArtifacts).effectiveVerdict = .fail := by
  decide +kernel

end CompletionGate

end AgentFleet
