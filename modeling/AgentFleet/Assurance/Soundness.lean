import AgentFleet.Assurance.Gate

/-! # Soundness of the completion gate

* `RecordAccepted` is what the gate has checked of every command record when it found nothing, and
  `CommandsCover` what it has checked of the records together; `commands_passed` is both directions.
* `completion_sound`: an accepted bundle that requires an independent verdict has one, with
  evidence for every required command and every criterion, and the effective verdict is a pass
  exactly when the gate accepts. -/

namespace AgentFleet

open Findings Keyed

namespace CompletionGate

/-! ### What each record has passed -/

/-- The checks on one record. -/
structure RecordAccepted (bundle : EvidenceBundle) (authoritative : List String)
    (item : CommandEvidence) : Prop where
  artifacts : artifactsOf item ⊆ authoritative
  identity : item.runId = bundle.runId ∧ item.taskId = bundle.taskId
  reviewed : bundle.verificationCommandHashes ≠ [] →
    commandReviewed bundle item ∨ isAuxiliaryApprovalEvidence bundle item
  sandbox : sandboxBound bundle item
  inspected : item.sandboxSecurityLevel = .isolated →
    item.sandboxInspectionArtifactId ≠ none ∧ item.sandboxInspectionSha256 ≠ none
  executed : item.sandboxSecurityLevel = .isolated → item.executionId ≠ none
  network : item.networkMode ∈ bundle.sandboxCapabilities.supportedNetworkModes
    ∧ item.networkMode = .none
  succeeded : ¬ item.failed
  timed : item.startedAt ≤ item.completedAt
  whole : item.outputTruncated = false
  genuine : item.strength ≠ .simulated ∧ item.sandboxSecurityLevel ≠ .fake
  independent : item.strength = .independentlyVerified →
    some item.agentInstanceId = bundle.verifierAgentInstanceId
      ∧ verifierProvenance bundle item ∧ verificationWorkspace item
  current : item.configSnapshotSha256 = bundle.configSnapshotSha256
    ∧ item.workspaceBaseRevision = bundle.baseRevision

/-- The checks on one record of the verifier. -/
structure VerifierRecordAccepted (bundle : EvidenceBundle) (item : CommandEvidence) : Prop where
  unchanged : item.workspaceMutatedDuringExecution = false
  provenance : verifierProvenance bundle item
  strong : bundle.requiresIndependentVerifier →
    item.strength = .independentlyVerified ∧ verificationWorkspace item
  patch : bundle.requiresIndependentVerifier → bundle.patchSha256 ≠ none →
    item.candidatePatchSha256 = bundle.patchSha256

/-- The checks on the records together. -/
structure CommandsCover (bundle : EvidenceBundle) : Prop where
  required : bundle.requiredVerificationCommandIds ⊆ commandIds bundle.commandEvidence
  verifierRequired : bundle.requiresIndependentVerifier →
    bundle.requiredVerificationCommandIds ⊆ commandIds bundle.verifierCommands
  verifier : ∀ item ∈ bundle.verifierCommands, VerifierRecordAccepted bundle item
  patch : bundle.patchSha256 ≠ none →
    ∃ item ∈ bundle.commandEvidence, item.candidatePatchSha256 = bundle.patchSha256
  verifierPatch : bundle.requiresIndependentVerifier → bundle.patchSha256 ≠ none →
    bundle.verifierCommands ≠ []

section Passed

variable {svc : EvidenceServices} {bundle : EvidenceBundle} {expectedCriteria : List String}
  {authoritative : List String}

theorem verified_iff :
    (evaluate svc bundle expectedCriteria authoritative).verifiedComplete = true
      ↔ reasons svc bundle expectedCriteria authoritative = []
        ∧ (bundle.reportedVerdict = none ∨ bundle.reportedVerdict = some .pass) := by
  unfold evaluate
  exact decide_eq_true_iff

theorem reasons_eq_nil :
    reasons svc bundle expectedCriteria authoritative = []
      ↔ deliveryReasons svc bundle expectedCriteria authoritative = []
        ∧ sandboxReasons svc bundle = []
        ∧ profileReasons bundle authoritative = []
        ∧ criterionReasons bundle expectedCriteria authoritative = []
        ∧ verdictReasons bundle authoritative = []
        ∧ commandReasons bundle = []
        ∧ strengthReasons bundle = [] := by
  unfold reasons
  simp only [List.flatten_eq_nil_iff, List.forall_mem_cons, List.not_mem_nil, false_implies,
    implies_true, and_true]

theorem declaredArtifactIds_subset :
    declaredArtifactIds bundle ⊆ authoritative
      ↔ [bundle.configSnapshotArtifactId, bundle.taskSpecArtifactId, bundle.fleetPlanArtifactId]
          ⊆ authoritative
        ∧ (∀ item ∈ bundle.commandEvidence, artifactsOf item ⊆ authoritative)
        ∧ bundle.patchArtifactId.toList ⊆ authoritative
        ∧ bundle.verifierVerdictArtifactId.toList ⊆ authoritative := by
  unfold declaredArtifactIds
  have hrecords : bundle.commandEvidence.flatMap artifactsOf ⊆ authoritative
      ↔ ∀ item ∈ bundle.commandEvidence, artifactsOf item ⊆ authoritative := by
    constructor
    · exact fun h item hmem id hid => h (List.mem_flatMap.mpr ⟨item, hmem, hid⟩)
    · intro h id hid
      obtain ⟨item, hmem, hid⟩ := List.mem_flatMap.mp hid
      exact h item hmem hid
  rw [List.append_subset, List.append_subset, List.append_subset, hrecords, and_assoc, and_assoc]

theorem mem_verifierCommands {item : CommandEvidence} :
    item ∈ bundle.verifierCommands
      ↔ item ∈ bundle.commandEvidence
        ∧ some item.agentInstanceId = bundle.verifierAgentInstanceId := by
  unfold EvidenceBundle.verifierCommands
  rw [List.mem_filter, decide_eq_true_iff]

theorem accepted_of_passed (hcommands : commandReasons bundle = [])
    (hstrength : strengthReasons bundle = []) {item : CommandEvidence}
    (hmem : item ∈ bundle.commandEvidence) (hartifacts : artifactsOf item ⊆ authoritative) :
    RecordAccepted bundle authoritative item := by
  simp only [commandReasons, List.flatten_eq_nil_iff, List.forall_mem_cons, reasonIf_eq_nil]
    at hcommands
  simp only [strengthReasons, List.flatten_eq_nil_iff, List.forall_mem_cons, reasonIf_eq_nil]
    at hstrength
  obtain ⟨hidentity, hreviewed, -, -, hsandbox, hinspected, hexecuted, hnetwork, hsucceeded,
    htimed, hwhole, -⟩ := hcommands
  obtain ⟨hgenuine, -, hindependent, -, -, -, hconfig, hbase, -⟩ := hstrength
  constructor
  · exact hartifacts
  · by_contra h
    exact hidentity ⟨item, hmem, not_and_or.mp h⟩
  · intro hsome
    by_contra h
    exact hreviewed ⟨hsome, item, hmem, not_or.mp h⟩
  · by_contra h
    exact hsandbox ⟨item, hmem, h⟩
  · intro hisolated
    by_contra h
    rw [not_and_or, not_not, not_not] at h
    exact hinspected ⟨item, hmem, hisolated, h⟩
  · intro hisolated h
    exact hexecuted ⟨item, hmem, hisolated, h⟩
  · by_contra h
    exact hnetwork ⟨item, hmem, not_and_or.mp h⟩
  · intro h
    exact hsucceeded ⟨item, hmem, h⟩
  · by_contra h
    exact htimed ⟨item, hmem, not_le.mp h⟩
  · by_contra h
    exact hwhole ⟨item, hmem, eq_true_of_ne_false h⟩
  · by_contra h
    rw [not_and_or, not_not, not_not] at h
    exact hgenuine ⟨item, hmem, h⟩
  · intro hstrong
    by_contra h
    rw [not_and_or, not_and_or] at h
    exact hindependent ⟨item, hmem, hstrong, h⟩
  · constructor
    · by_contra h
      exact hconfig ⟨item, hmem, h⟩
    · by_contra h
      exact hbase ⟨item, hmem, h⟩

theorem cover_of_passed (hcommands : commandReasons bundle = [])
    (hstrength : strengthReasons bundle = []) : CommandsCover bundle := by
  simp only [commandReasons, List.flatten_eq_nil_iff, List.forall_mem_cons, reasonIf_eq_nil]
    at hcommands
  simp only [strengthReasons, List.flatten_eq_nil_iff, List.forall_mem_cons, reasonIf_eq_nil]
    at hstrength
  obtain ⟨-, -, hrequired, hverifierRequired, -⟩ := hcommands
  obtain ⟨-, -, -, hunchanged, hprovenance, hstrong, -, -, hpatch, hverifierPatch, -⟩ := hstrength
  constructor
  · exact not_not.mp hrequired
  · intro hrequires
    by_contra h
    exact hverifierRequired ⟨hrequires, h⟩
  · intro item hmem
    constructor
    · by_contra h
      exact hunchanged ⟨item, hmem, eq_true_of_ne_false h⟩
    · by_contra h
      exact hprovenance ⟨item, hmem, h⟩
    · intro hrequires
      by_contra h
      exact hstrong ⟨hrequires, item, hmem, not_and_or.mp h⟩
    · intro hrequires hsome
      by_contra h
      exact hverifierPatch ⟨hrequires, hsome, .inr ⟨item, hmem, h⟩⟩
  · intro hsome
    by_contra h
    exact hpatch ⟨hsome, h⟩
  · intro hrequires hsome h
    exact hverifierPatch ⟨hrequires, hsome, .inl h⟩

theorem commandReasons_of_accepted
    (h : ∀ item ∈ bundle.commandEvidence, RecordAccepted bundle authoritative item)
    (hcover : CommandsCover bundle) : commandReasons bundle = [] := by
  simp only [commandReasons, List.flatten_eq_nil_iff, List.forall_mem_cons, reasonIf_eq_nil]
  refine ⟨?_, ?_, not_not.mpr hcover.required, ?_, ?_, ?_, ?_, ?_, ?_, ?_, ?_, by simp⟩
  · rintro ⟨item, hmem, hrun | htask⟩
    · exact hrun (h item hmem).identity.1
    · exact htask (h item hmem).identity.2
  · rintro ⟨hsome, item, hmem, hreviewed, hauxiliary⟩
    exact ((h item hmem).reviewed hsome).elim hreviewed hauxiliary
  · rintro ⟨hrequires, hmissing⟩
    exact hmissing (hcover.verifierRequired hrequires)
  · rintro ⟨item, hmem, hunbound⟩
    exact hunbound (h item hmem).sandbox
  · rintro ⟨item, hmem, hisolated, hid | hsha⟩
    · exact ((h item hmem).inspected hisolated).1 hid
    · exact ((h item hmem).inspected hisolated).2 hsha
  · rintro ⟨item, hmem, hisolated, hid⟩
    exact (h item hmem).executed hisolated hid
  · rintro ⟨item, hmem, hunsupported | hmode⟩
    · exact hunsupported (h item hmem).network.1
    · exact hmode (h item hmem).network.2
  · rintro ⟨item, hmem, hfailed⟩
    exact (h item hmem).succeeded hfailed
  · rintro ⟨item, hmem, hearly⟩
    exact absurd (h item hmem).timed (not_le.mpr hearly)
  · rintro ⟨item, hmem, htruncated⟩
    rw [(h item hmem).whole] at htruncated
    exact Bool.noConfusion htruncated

theorem strengthReasons_of_accepted
    (h : ∀ item ∈ bundle.commandEvidence, RecordAccepted bundle authoritative item)
    (hcover : CommandsCover bundle) : strengthReasons bundle = [] := by
  simp only [strengthReasons, List.flatten_eq_nil_iff, List.forall_mem_cons, reasonIf_eq_nil]
  refine ⟨?_, ?_, ?_, ?_, ?_, ?_, ?_, ?_, ?_, ?_, by simp⟩
  · rintro ⟨item, hmem, hsimulated | hfake⟩
    · exact (h item hmem).genuine.1 hsimulated
    · exact (h item hmem).genuine.2 hfake
  · rintro ⟨item, hmem, hfake, -⟩
    exact (h item hmem).genuine.2 hfake
  · rintro ⟨item, hmem, hstrong, hagent | hprovenance | hworkspace⟩
    · exact hagent ((h item hmem).independent hstrong).1
    · exact hprovenance ((h item hmem).independent hstrong).2.1
    · exact hworkspace ((h item hmem).independent hstrong).2.2
  · rintro ⟨item, hmem, hmutated⟩
    rw [(hcover.verifier item hmem).unchanged] at hmutated
    exact Bool.noConfusion hmutated
  · rintro ⟨item, hmem, hprovenance⟩
    exact hprovenance (hcover.verifier item hmem).provenance
  · rintro ⟨hrequires, item, hmem, hweak | hworkspace⟩
    · exact hweak ((hcover.verifier item hmem).strong hrequires).1
    · exact hworkspace ((hcover.verifier item hmem).strong hrequires).2
  · rintro ⟨item, hmem, hstale⟩
    exact hstale (h item hmem).current.1
  · rintro ⟨item, hmem, hstale⟩
    exact hstale (h item hmem).current.2
  · rintro ⟨hsome, hnone⟩
    exact hnone (hcover.patch hsome)
  · rintro ⟨hrequires, hsome, hnone | ⟨item, hmem, hstale⟩⟩
    · exact hcover.verifierPatch hrequires hsome hnone
    · exact hstale ((hcover.verifier item hmem).patch hrequires hsome)

/-- The gate has nothing to say about the records exactly when each is accepted and they cover
what is required. -/
theorem commands_passed :
    (commandReasons bundle = [] ∧ strengthReasons bundle = []
        ∧ ∀ item ∈ bundle.commandEvidence, artifactsOf item ⊆ authoritative)
      ↔ (∀ item ∈ bundle.commandEvidence, RecordAccepted bundle authoritative item)
        ∧ CommandsCover bundle := by
  constructor
  · rintro ⟨hcommands, hstrength, hartifacts⟩
    exact ⟨fun item hmem => accepted_of_passed hcommands hstrength hmem (hartifacts item hmem),
      cover_of_passed hcommands hstrength⟩
  · rintro ⟨haccepted, hcover⟩
    exact ⟨commandReasons_of_accepted haccepted hcover,
      strengthReasons_of_accepted haccepted hcover,
      fun item hmem => (haccepted item hmem).artifacts⟩

end Passed

/-! ### What an accepted bundle proves -/

/-- A record of the verifier proves its command for the bundle. -/
structure ProvesCommand (bundle : EvidenceBundle) (item : CommandEvidence) : Prop where
  owned : some item.agentInstanceId = bundle.verifierAgentInstanceId
    ∧ item.principalRole = some bundle.verifierRoleName
  independent : item.strength = .independentlyVerified
  isolated : item.sandboxSecurityLevel = .isolated
  verification : item.workspaceKind = .verification
  unchanged : item.workspaceMutatedDuringExecution = false
  succeeded : item.exitCode = 0 ∧ item.timedOut = false
  whole : item.outputTruncated = false
  reviewed : ∃ sha, bundle.verificationCommandHashes.lookup item.commandId = some sha
    ∧ item.commandSpecSha256 = some sha
  task : item.runId = bundle.runId ∧ item.taskId = bundle.taskId
  current : item.workspaceBaseRevision = bundle.baseRevision
    ∧ item.configSnapshotSha256 = bundle.configSnapshotSha256
  sandbox : item.sandboxCapabilitiesSha256 = bundle.sandboxCapabilitiesSha256
    ∧ item.sandboxConfigurationSha256 = bundle.sandboxConfigurationSha256
    ∧ item.sandboxRequirementsSha256 = bundle.sandboxRequirementsSha256
    ∧ item.sandboxImageIdentity = bundle.sandboxImageIdentity
    ∧ item.sandboxDaemonIdentity = bundle.sandboxDaemonIdentity
  patch : bundle.patchArtifactId ≠ none →
    bundle.patchSha256 ≠ none ∧ item.candidatePatchSha256 = bundle.patchSha256

/-- What a bundle with an independent verdict has to show. -/
structure IndependentlyProven (bundle : EvidenceBundle)
    (expectedCriteria authoritative : List String) : Prop where
  reported : bundle.reportedVerdict = some .pass
  verdict : ∃ id ∈ bundle.verifierVerdictArtifactId, id ∈ authoritative
  commands : ∀ id ∈ bundle.requiredVerificationCommandIds, ∃ item ∈ bundle.commandEvidence,
    item.commandId = id ∧ ProvesCommand bundle item
  criteria : ∀ id, id ∈ expectedCriteria ↔
    ∃ assessment ∈ bundle.criterionAssessments, assessment.criterionId = id
  assessed : ∀ assessment ∈ bundle.criterionAssessments, assessment.verdict = .pass
    ∧ assessment.evidenceArtifactIds ≠ []
    ∧ ∀ id ∈ assessment.evidenceArtifactIds, id ∈ authoritative
      ∧ (id ∈ evidenceIds bundle.commandEvidence ∨ id ∈ bundle.verifierVerdictArtifactId)
  cleanup : bundle.cleanupComplete = true ∧ bundle.cleanupReceiptSha256 ≠ none
    ∧ ∃ id ∈ bundle.cleanupReceiptArtifactId, id ∈ authoritative
  genuine : bundle.sandboxSecurityLevel ≠ .fake
    ∧ ∀ item ∈ bundle.commandEvidence,
      item.strength ≠ .simulated ∧ item.sandboxSecurityLevel ≠ .fake

section Sound

variable {svc : EvidenceServices} {bundle : EvidenceBundle} {expectedCriteria : List String}
  {authoritative : List String}

theorem exists_mem_of_subset {id? : Option String} (hsome : id? ≠ none)
    (h : id?.toList ⊆ authoritative) : ∃ id ∈ id?, id ∈ authoritative := by
  obtain ⟨id, rfl⟩ := Option.ne_none_iff_exists'.mp hsome
  exact ⟨id, rfl, h (List.mem_singleton_self id)⟩

/-- What the gate asks of a bundle that requires an independent verdict. -/
theorem required_of_passed (hprofile : profileReasons bundle authoritative = [])
    (hrequired : "independent_verifier_verdict" ∈ bundle.requiredEvidence) :
    bundle.verifierVerdictArtifactId ≠ none ∧ bundle.reportedVerdict ≠ none
      ∧ bundle.verifierCommands ≠ [] := by
  simp only [profileReasons, List.flatten_eq_nil_iff, List.forall_mem_cons, reasonIf_eq_nil]
    at hprofile
  obtain ⟨-, -, -, -, hmissing, -⟩ := hprofile
  have hpresent : ¬ requirementMissing bundle authoritative "independent_verifier_verdict" :=
    fun h => hmissing ⟨_, hrequired, h⟩
  unfold requirementMissing at hpresent
  rw [not_or, not_or, not_or] at hpresent
  obtain ⟨-, -, -, hverdict⟩ := hpresent
  refine ⟨fun h => hverdict ⟨rfl, ?_⟩, fun h => hverdict ⟨rfl, ?_⟩, fun h => hverdict ⟨rfl, ?_⟩⟩
  · exact .inr (.inl h)
  · exact .inr (.inr (.inl h))
  · exact .inr (.inr (.inr (.inl h)))

/-- A record of the verifier proves its command, where that command was reviewed. -/
theorem provesCommand_of_accepted {item : CommandEvidence}
    (hrequires : bundle.requiresIndependentVerifier)
    (howned : some item.agentInstanceId = bundle.verifierAgentInstanceId)
    (haccepted : RecordAccepted bundle authoritative item)
    (hverifier : VerifierRecordAccepted bundle item)
    (hreviewed : item.commandId ∈ reviewedCommandIds bundle)
    (hpatch : bundle.patchArtifactId = none ↔ bundle.patchSha256 = none) :
    ProvesCommand bundle item := by
  obtain ⟨hstrong, hisolated, hkind, -⟩ := hverifier.strong hrequires
  obtain ⟨-, -, hcapabilities, hconfiguration, hrequirements, himage, hdaemon⟩ :=
    haccepted.sandbox
  have hsucceeded := not_or.mp haccepted.succeeded
  constructor
  · exact ⟨howned, hverifier.provenance.1⟩
  · exact hstrong
  · exact hisolated
  · exact hkind
  · exact hverifier.unchanged
  · exact ⟨not_not.mp hsucceeded.1, eq_false_of_ne_true hsucceeded.2⟩
  · exact haccepted.whole
  · have hsome : bundle.verificationCommandHashes ≠ [] := by
      intro hnil
      unfold reviewedCommandIds at hreviewed
      rw [hnil] at hreviewed
      exact List.not_mem_nil hreviewed
    -- an auxiliary record is simulated, and this one is not
    rcases haccepted.reviewed hsome with hspec | hauxiliary
    · obtain ⟨sha, hsha⟩ : ∃ sha,
          bundle.verificationCommandHashes.lookup item.commandId = some sha := by
        refine Option.ne_none_iff_exists'.mp fun hnone => ?_
        obtain ⟨entry, hentry, hid⟩ := List.mem_map.mp hspec.1
        have hne := List.lookup_eq_none_iff.mp hnone entry hentry
        rw [hid] at hne
        exact absurd hne (by simp)
      exact ⟨sha, hsha, hspec.2.trans hsha⟩
    · have hsimulated := hauxiliary.2.2
      rw [hstrong] at hsimulated
      exact EvidenceStrength.noConfusion hsimulated
  · exact haccepted.identity
  · exact ⟨haccepted.current.2, haccepted.current.1⟩
  · exact ⟨hcapabilities, hconfiguration, hrequirements, himage, hdaemon⟩
  · intro hsome
    have hsha : bundle.patchSha256 ≠ none := fun h => hsome (hpatch.mpr h)
    exact ⟨hsha, hverifier.patch hrequires hsha⟩

/-- The assessments of a bundle without findings on its criteria. -/
theorem assessed_of_passed
    (hcriteria : criterionReasons bundle expectedCriteria authoritative = []) :
    (∀ id, id ∈ expectedCriteria ↔
        ∃ assessment ∈ bundle.criterionAssessments, assessment.criterionId = id)
      ∧ ∀ assessment ∈ bundle.criterionAssessments, assessment.verdict = .pass
        ∧ assessment.evidenceArtifactIds ≠ []
        ∧ ∀ id ∈ assessment.evidenceArtifactIds, id ∈ authoritative
          ∧ (id ∈ evidenceIds bundle.commandEvidence
            ∨ id ∈ bundle.verifierVerdictArtifactId) := by
  simp only [criterionReasons, latest_eq_self bundle.uniqueCriteria, List.flatten_eq_nil_iff,
    List.forall_mem_cons, reasonIf_eq_nil] at hcriteria
  obtain ⟨-, hcomplete, hpassing, hcited, hbound, -⟩ := hcriteria
  obtain ⟨honly, hall⟩ := not_not.mp hcomplete
  constructor
  · intro id
    constructor
    · exact fun hid => List.mem_map.mp (hall hid)
    · rintro ⟨assessment, hmem, rfl⟩
      exact honly (List.mem_map_of_mem hmem)
  · intro assessment hmem
    have hpass : assessment.verdict = .pass := by
      by_contra h
      exact hpassing ⟨assessment, hmem, h⟩
    have hsubset : ¬ (¬ assessment.evidenceArtifactIds ⊆ criterionEvidenceIds bundle
        ∨ ¬ assessment.evidenceArtifactIds ⊆ authoritative) :=
      fun h => hbound ⟨assessment, hmem, h⟩
    rw [not_or, not_not, not_not] at hsubset
    refine ⟨hpass, fun h => hcited ⟨assessment, hmem, hpass, h⟩, fun id hid => ?_⟩
    refine ⟨hsubset.2 hid, ?_⟩
    rcases List.mem_append.mp (hsubset.1 hid) with hcommand | hverdict
    · exact .inl hcommand
    · exact .inr (Option.mem_toList.mp hverdict)

/-- A verified bundle has no evidence of a failure. -/
theorem not_reportsFailure
    (h : (evaluate svc bundle expectedCriteria authoritative).verifiedComplete = true) :
    ¬ reportsFailure bundle := by
  obtain ⟨hreasons, hverdict⟩ := verified_iff.mp h
  obtain ⟨-, -, -, hcriteria, -, hcommands, hstrength⟩ := reasons_eq_nil.mp hreasons
  rintro (hreported | ⟨item, hmem, hfailed⟩ | ⟨assessment, hmem, hfail⟩)
  · rw [hreported] at hverdict
    exact absurd hverdict (by decide)
  · simp only [commandReasons, List.flatten_eq_nil_iff, List.forall_mem_cons, reasonIf_eq_nil]
      at hcommands
    obtain ⟨-, -, -, -, -, -, -, -, hsucceeded, -⟩ := hcommands
    exact hsucceeded ⟨item, hmem, hfailed⟩
  · have hpass := ((assessed_of_passed hcriteria).2 assessment hmem).1
    rw [hpass] at hfail
    exact Verdict.noConfusion hfail

/-- The effective verdict is a pass exactly for the verified bundles. -/
theorem effectiveVerdict_eq_pass :
    (evaluate svc bundle expectedCriteria authoritative).effectiveVerdict = .pass
      ↔ (evaluate svc bundle expectedCriteria authoritative).verifiedComplete = true := by
  constructor
  · intro h
    by_contra hnot
    rw [verified_iff] at hnot
    unfold evaluate at h
    dsimp only at h
    rw [if_neg hnot] at h
    split_ifs at h
  · intro h
    have hfailure := not_reportsFailure h
    rw [verified_iff] at h
    unfold evaluate
    dsimp only
    rw [if_neg hfailure, if_pos h]

/-- A verified bundle that requires an independent verdict has everything such a verdict needs. -/
theorem independentlyProven_of_verified
    (hverified : (evaluate svc bundle expectedCriteria authoritative).verifiedComplete = true)
    (hrequired : "independent_verifier_verdict" ∈ bundle.requiredEvidence) :
    IndependentlyProven bundle expectedCriteria authoritative := by
  obtain ⟨hreasons, hreported⟩ := verified_iff.mp hverified
  obtain ⟨hdelivery, -, hprofile, hcriteria, hverdict, hcommands, hstrength⟩ :=
    reasons_eq_nil.mp hreasons
  obtain ⟨hverdictId, hverdictSome, hrecords⟩ := required_of_passed hprofile hrequired
  have hrequires : bundle.requiresIndependentVerifier := .inl hrequired
  simp only [profileReasons, List.flatten_eq_nil_iff, List.forall_mem_cons, reasonIf_eq_nil]
    at hprofile
  obtain ⟨hreviewed, -, -, hdeclared, -, -⟩ := hprofile
  have hdeclared := declaredArtifactIds_subset.mp (not_not.mp hdeclared)
  obtain ⟨haccepted, hcover⟩ := commands_passed.mp ⟨hcommands, hstrength, hdeclared.2.1⟩
  simp only [verdictReasons, List.flatten_eq_nil_iff, List.forall_mem_cons, reasonIf_eq_nil]
    at hverdict
  obtain ⟨-, -, -, -, -, -, -, -, -, hpatch, -⟩ := hverdict
  simp only [deliveryReasons, List.flatten_eq_nil_iff, List.forall_mem_cons, reasonIf_eq_nil]
    at hdelivery
  obtain ⟨-, -, hcleanup, -⟩ := hdelivery
  rw [not_or, not_or, not_or, not_not] at hcleanup
  obtain ⟨hcomplete, hreceipt, hsha, hreceiptId⟩ := hcleanup
  obtain ⟨hcriteriaIds, hassessed⟩ := assessed_of_passed hcriteria
  constructor
  · exact hreported.resolve_left hverdictSome
  · exact exists_mem_of_subset hverdictId hdeclared.2.2.2
  · intro id hid
    obtain ⟨item, hitem, rfl⟩ := List.mem_map.mp (hcover.verifierRequired hrequires hid)
    obtain ⟨hmem, howned⟩ := mem_verifierCommands.mp hitem
    exact ⟨item, hmem, rfl, provesCommand_of_accepted hrequires howned (haccepted item hmem)
      (hcover.verifier item hitem) (not_not.mp hreviewed hid) (not_not.mp hpatch)⟩
  · exact hcriteriaIds
  · exact hassessed
  · exact ⟨eq_true_of_ne_false hcomplete, hsha, exists_mem_of_subset hreceipt hreceiptId⟩
  · obtain ⟨item, hitem⟩ := List.exists_mem_of_ne_nil _ hrecords
    have hmem := (mem_verifierCommands.mp hitem).1
    refine ⟨?_, fun item hmem => (haccepted item hmem).genuine⟩
    rw [← (haccepted item hmem).sandbox.2.1]
    exact (haccepted item hmem).genuine.2

end Sound

/-- The effective verdict is a pass exactly when the gate accepts, and an accepted bundle that
requires an independent verdict is proven by one. -/
theorem completion_sound (svc : EvidenceServices) (bundle : EvidenceBundle)
    (expectedCriteria authoritative : List String) :
    let decision := evaluate svc bundle expectedCriteria authoritative
    (decision.effectiveVerdict = .pass ↔ decision.verifiedComplete = true)
      ∧ (decision.verifiedComplete = true →
        "independent_verifier_verdict" ∈ bundle.requiredEvidence →
        IndependentlyProven bundle expectedCriteria authoritative) :=
  ⟨effectiveVerdict_eq_pass, independentlyProven_of_verified⟩

/-! ### A sample bundle -/

/-- A digest. -/
def sampleDigest : Sha256 :=
  ⟨"2222222222222222222222222222222222222222222222222222222222222222", by decide⟩

/-- No registered secret, and one digest for every text. -/
def sampleEvidenceServices : EvidenceServices where
  redactor :=
    { containsSecretData := fun _ => false
      redactData := fun fields => (fields, [])
      redactText := fun text => (text, []) }
  canonicalJsonHash := fun _ => sampleDigest
  stateRecordSafe := fun _ => true
  isoTimestamp := fun _ => "1970-01-01T00:00:00Z"
  nodeSha256 := fun _ => sampleDigest
  taskSha256 := fun _ => sampleDigest
  runBindingSha256 := fun _ => sampleDigest
  recordSha256 := fun _ => sampleDigest
  snapshotSha256 := fun _ => sampleDigest
  planTextSha256 := fun _ => sampleDigest
  preparationTextSha256 := fun _ => sampleDigest
  cleanupTextSha256 := fun _ => sampleDigest

/-- An isolated sandbox. -/
def sampleSandbox : SandboxCapabilities where
  provider := "docker"
  securityLevel := .isolated
  isolationEnforced := true
  executesCode := true
  supportedNetworkModes := [.none]
  supportsResourceLimits := true
  supportsRecovery := true
  supportsNonRoot := true
  supportsReadOnlyRoot := true
  supportsNoNewPrivileges := true
  supportsCapabilityDrop := true
  someNetworkMode := by decide
  uniqueNetworkModes := by decide
  coherence := by decide

/-- A run of the tests by the verifier. -/
def sampleCommand : CommandEvidence where
  evidenceId := "evidence_2"
  runId := "run_1"
  taskId := "task_1"
  agentInstanceId := "verifier_2"
  principalRole := some "verifier"
  workflowStage := some .verifying
  workspaceId := some "workspace_2"
  sandboxId := some "sandbox_2"
  commandId := "tests"
  commandSpecSha256 := some sampleDigest
  sandboxProvider := "docker"
  sandboxSecurityLevel := .isolated
  sandboxCapabilitiesSha256 := some sampleDigest
  sandboxConfigurationSha256 := some sampleDigest
  sandboxRequirementsSha256 := some sampleDigest
  sandboxImageIdentity := some "sha256:image"
  sandboxDaemonIdentity := some sampleDigest
  strength := .independentlyVerified
  exitCode := 0
  timedOut := false
  outputTruncated := false
  transcriptArtifactId := "transcript_2"
  workspaceBaseRevision := "main"
  configSnapshotSha256 := sampleDigest
  candidatePatchSha256 := some sampleDigest
  workspaceKind := .verification
  executionId := some "execution_2"
  sandboxInspectionArtifactId := some "inspection_2"
  sandboxInspectionSha256 := some sampleDigest
  startedAt := 20
  completedAt := 30

/-- The bundle of a run with one engineer and one verifier. -/
def sampleBundle : EvidenceBundle where
  runId := "run_1"
  projectId := "prj_1"
  taskId := "task_1"
  baseRevision := "main"
  configSnapshotArtifactId := "config_1"
  configSnapshotSha256 := sampleDigest
  taskSpecArtifactId := "spec_1"
  fleetPlanArtifactId := "plan_1"
  fleetPlanSha256 := sampleDigest
  fleetStrategy := .engineerVerifier
  requiredEvidence := ["canonical_patch", "independent_verifier_verdict"]
  sandboxProvider := "docker"
  sandboxSecurityLevel := .isolated
  sandboxConfigurationSha256 := some sampleDigest
  sandboxRequirements := some {}
  sandboxRequirementsSha256 := some sampleDigest
  sandboxImageIdentity := some "sha256:image"
  sandboxDaemonIdentity := some sampleDigest
  sandboxCapabilities := sampleSandbox
  sandboxCapabilitiesSha256 := some sampleDigest
  verificationCommandHashes := [("tests", sampleDigest)]
  requiredVerificationCommandIds := ["tests"]
  patchArtifactId := some "patch_2"
  patchSha256 := some sampleDigest
  changedPaths := ["src/parser.py"]
  commandEvidence := [sampleCommand]
  verifierAgentInstanceId := some "verifier_2"
  verifierRole := some "verifier"
  verifierVerdictArtifactId := some "verdict_2"
  verifierEvidenceArtifactIds := ["evidence_2"]
  reportedVerdict := some .pass
  cleanupReceiptArtifactId := some "cleanup_1"
  cleanupReceiptSha256 := some sampleDigest
  cleanupComplete := true
  criterionAssessments := [{
    criterionId := "criterion_1"
    verdict := .pass
    evidenceArtifactIds := ["evidence_2"]
    explanation := "Exact current independent verifier command records resolve this criterion." }]
  structuredCriterionResults := some [{
    criterionId := "criterion_1"
    verdict := .pass
    evidenceArtifactIds := ["evidence_2"]
    commandIds := ["tests"] }]
  uniqueCommandHashes := by decide
  someEvidence := by decide
  uniqueEvidence := by decide
  pairedReceipt := by decide
  completeWithReceipt := by decide
  pairedRequirements := by decide
  uniqueRequiredCommands := by decide
  someCriteria := by decide
  uniqueCriteria := by decide

/-- The artifacts that the control plane holds for the sample bundle. -/
def sampleArtifacts : List String :=
  ["config_1", "spec_1", "plan_1", "evidence_2", "transcript_2", "inspection_2", "patch_2",
    "verdict_2", "cleanup_1"]

theorem completion_sound_sampleBundle :
    (evaluate sampleEvidenceServices sampleBundle ["criterion_1"]
        sampleArtifacts).verifiedComplete = true
      ∧ IndependentlyProven sampleBundle ["criterion_1"] sampleArtifacts :=
  have hverified : (evaluate sampleEvidenceServices sampleBundle ["criterion_1"]
      sampleArtifacts).verifiedComplete = true := by decide +kernel
  ⟨hverified, (completion_sound sampleEvidenceServices sampleBundle ["criterion_1"]
    sampleArtifacts).2 hverified (by decide)⟩

end CompletionGate

end AgentFleet
