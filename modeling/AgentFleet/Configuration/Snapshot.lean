import AgentFleet.Configuration.Yaml
import AgentFleet.Lib.Footprint
import Mathlib.Algebra.Order.BigOperators.Group.List

/-! # Configuration snapshots

A specification names other files, and those name more.  `snapshotFromReader` reads them one after
another and lists what it has read; `snapshotFromFleetFiles` reads from a mapping of files.

* `snapshotFromReader_local` says that each file that is read becomes part of the snapshot.
* `snapshotFromFleetFiles_fixpoint` rebuilds a snapshot from its own files; the order of the files
  and the files that are not in the snapshot do not show in it. -/

namespace AgentFleet.Configuration

open Checks

/-! ### Reading -/

/-- The files read so far and their size. -/
structure Contents where
  files : List (String × Bytes) := []
  totalBytes : ℕ := 0

/-- `_snapshot_from_reader` reads files and may stop. -/
abbrev Reading := StateT Contents (Except ConfigurationError)

/-- `read_content`: the content of a reference within a limit. -/
abbrev ReadContent := String → ℕ → Except ConfigurationError Bytes

/-- `MAX_CONFIG_BYTES`. -/
def maxConfigBytes : ℕ := 512000

/-- `MAX_CONFIG_SNAPSHOT_BYTES`. -/
def maxConfigSnapshotBytes : ℕ := 4000000

/-- `MAX_AGENT_GUIDANCE_BYTES`. -/
def maxAgentGuidanceBytes : ℕ := 32768

/-- `MAX_CONFIG_FILES`. -/
def maxConfigFiles : ℕ := 256

/-- `ROLE_CATALOG_PATH`. -/
def roleCatalogPath : String := "agents/roles.yaml"

section

variable {Scalar Settings : Type} (yaml : YamlConfiguration Scalar Settings)

/-- A file that is not read yet. -/
def readNew (readContent : ReadContent) (reference : String) (limit : ℕ) (contents : Contents) :
    Except ConfigurationError (Bytes × Contents) := do
  refuse (maxConfigFiles ≤ contents.files.length)
    (configError "configuration reference closure exceeds its file limit")
  let remaining := maxConfigSnapshotBytes - contents.totalBytes
  let content ← readContent reference (min limit remaining)
  refuse (min limit remaining < content.length)
    (configError "configuration reference closure exceeds its byte limit")
  refuse (bytesHoldSecret yaml.forms content) registeredSecretError
  let _ ← decodeUtf8 content
  return (content, { files := contents.files ++ [(reference, content)]
                     totalBytes := contents.totalBytes + content.length })

/-- `read`. -/
def read (readContent : ReadContent) (reference : String) (limit : ℕ := maxConfigBytes) :
    Reading Bytes := do
  StateT.lift (refuse (AgentFleet.holdsSecret yaml.forms reference) registeredSecretError)
  let contents ← get
  StateT.lift (validateReferenceSet yaml.casefold (contents.files.map Prod.fst ++ [reference]))
  match Keyed.get? Prod.fst contents.files reference with
  | some (_, content) => do
      StateT.lift (refuse (limit < content.length)
        (configError "referenced configuration exceeds its role-specific byte limit"))
      return content
  | none => fun contents => readNew yaml readContent reference limit contents

/-- `_fleet_references`. -/
def fleetReferences (spec : FleetSpec Settings) : List String :=
  spec.agents.values.map AgentRequest.instructions
    ++ spec.workflows.values.map WorkflowRequest.definition
    ++ [spec.project.charter, spec.project.architecture, spec.project.verification]

/-- The references of a specification. -/
def readReferences (readContent : ReadContent) (spec : FleetSpec Settings) : Reading Unit := do
  let references := fleetReferences spec
  StateT.lift (validateReferenceSet yaml.casefold ("fleet.yaml" :: references))
  let guidance := spec.agents.values.map AgentRequest.instructions
  (sortedTexts references).forM fun reference => do
    let _ ← read yaml readContent reference
      (if reference ∈ guidance then maxAgentGuidanceBytes else maxConfigBytes)

/-- The files read so far as texts. -/
def decodedFiles (contents : Contents) : Except ConfigurationError (List (String × String)) :=
  contents.files.mapM fun entry => do
    let text ← decodeUtf8 entry.2
    return (entry.1, text)

/-- `_resolve_catalog`. -/
def resolveCatalog (spec : FleetSpec Settings) (files : List (String × String))
    (catalog : Option RoleCatalog) : Except ConfigurationError (List ResolvedRoleTemplate) :=
  match resolveRoleTemplates spec files catalog with
  | .ok roles => .ok roles
  | .error _ =>
      .error (configError
        "role catalog violates its declared base, guidance or capability ceiling")

/-- The guidance of the roles of a catalog. -/
def readTemplates (readContent : ReadContent) (spec : FleetSpec Settings) (content : Bytes) :
    Reading Unit := do
  let catalog ← StateT.lift (parseRoleCatalog yaml content)
  catalog.1.roles.values.forM fun template => do
    let _ ← read yaml readContent template.instructions maxAgentGuidanceBytes
  let contents ← get
  let files ← StateT.lift (decodedFiles contents)
  let _ ← StateT.lift (resolveCatalog spec files (some catalog.1))

/-- The role catalog and its guidance. -/
def readRoles (readContent : ReadContent) (spec : FleetSpec Settings) : Reading Unit := do
  let content ← read yaml readContent roleCatalogPath
  readTemplates yaml readContent spec content

/-- What a skill has to agree with: its file, the names of the others and the profile. -/
def checkSkill (profile : VerificationProfile) (skillNames : List (String × String))
    (reference : String) (skill : VerificationSkill) :
    Except ConfigurationError (List (String × String)) := do
  refuse (skill.name ≠ (PurePosixPath.parse reference).stem)
    (configError "verification skill metadata and reference names must agree")
  let foldedName := yaml.casefold skill.name
  refuse (∃ other ∈ Keyed.get? Prod.fst skillNames foldedName, other.2 ≠ reference)
    (configError "verification skill names must be unique")
  refuse (¬ skill.requiredCommandIds ⊆ profile.commands.keys)
    (configError "verification skill requires an undeclared command ID")
  return skillNames ++ [(foldedName, reference)]

/-- A skill of a workflow. -/
def readSkill (readContent : ReadContent) (profile : VerificationProfile)
    (skillNames : List (String × String)) (reference : String) :
    Reading (List (String × String)) := do
  let content ← read yaml readContent reference
  let skill ← StateT.lift (parseVerificationSkill yaml content)
  StateT.lift (checkSkill yaml profile skillNames reference skill.1)

/-- What a workflow definition has to agree with. -/
def checkDefinition (workflowId : String) (request : WorkflowRequest)
    (definition : WorkflowDefinition) : Except ConfigurationError Unit := do
  refuse (definition.name ≠ workflowId
      ∨ (PurePosixPath.parse request.definition).stem ≠ workflowId)
    (configError "workflow metadata, declaration and reference names must agree")
  refuse (definition.maxRepairIterations ≠ request.maxRepairIterations)
    (configError "workflow repair limits must match the FleetSpec ceiling")

/-- A workflow and its skills. -/
def readWorkflow (readContent : ReadContent) (profile : VerificationProfile)
    (skillNames : List (String × String)) (workflow : String × WorkflowRequest) :
    Reading (List (String × String)) := do
  let content ← read yaml readContent workflow.2.definition
  let definition ← StateT.lift (parseWorkflowDefinition yaml content)
  StateT.lift (checkDefinition workflow.1 workflow.2 definition.1)
  definition.1.verificationSkills.foldlM (readSkill yaml readContent profile) skillNames

/-- The workflows of a specification in their order. -/
def sortedWorkflows (spec : FleetSpec Settings) : List (String × WorkflowRequest) :=
  spec.workflows.entries.insertionSort fun a b => a.1 ≤ b.1

/-- The role catalog, if the files have one. -/
def readCatalog (readContent : ReadContent) (includeRoles : Bool) (spec : FleetSpec Settings) :
    Reading Unit :=
  if includeRoles then readRoles yaml readContent spec else pure ()

/-- The workflows, with the verification profile. -/
def readWorkflows (readContent : ReadContent) (spec : FleetSpec Settings) (content : Bytes) :
    Reading Unit := do
  let profile ← StateT.lift (parseVerificationProfile yaml content)
  let _ ← (sortedWorkflows spec).foldlM (readWorkflow yaml readContent profile.1) []

/-- The verification profile and the workflows. -/
def readVerification (readContent : ReadContent) (spec : FleetSpec Settings) : Reading Unit := do
  let content ← read yaml readContent spec.project.verification
  readWorkflows yaml readContent spec content

/-- What the specification refers to. -/
def readSpecified (readContent : ReadContent) (includeRoles : Bool) (content : Bytes) :
    Reading (FleetSpec Settings) := do
  let spec ← StateT.lift (parseFleetSpec yaml content)
  readReferences yaml readContent spec.1
  readCatalog yaml readContent includeRoles spec.1
  readVerification yaml readContent spec.1
  return spec.1

/-- The closure of the references. -/
def readClosure (readContent : ReadContent) (includeRoles : Bool) :
    Reading (FleetSpec Settings) := do
  let content ← read yaml readContent "fleet.yaml"
  readSpecified yaml readContent includeRoles content

/-- The snapshot of what was read. -/
def snapshotOf (contents : Contents) : Except ConfigurationError ConfigSnapshot := do
  let files ← (contents.files.insertionSort fun a b => a.1 ≤ b.1).mapM fun entry => do
    let text ← decodeUtf8 entry.2
    return ({ path := entry.1, sha256 := yaml.hash entry.2, content := text } : ConfigSnapshotFile)
  let snapshot : ConfigSnapshot := { files := files }
  refuse (¬ snapshot.Checked yaml.hash) .validation
  return snapshot

/-- `_snapshot_from_reader`. -/
def snapshotFromReader (readContent : ReadContent) (includeRoles : Bool := false) :
    Except ConfigurationError (FleetSpec Settings × ConfigSnapshot) := do
  let result ← (readClosure yaml readContent includeRoles).run {}
  let snapshot ← snapshotOf yaml result.2
  return (result.1, snapshot)

/-! ### A mapping of files -/

/-- `read_content` of `snapshot_from_fleet_files`. -/
def readFile (files : Mapping String) : ReadContent := fun reference limit => do
  let content ← demand (configError ("referenced file is missing: " ++ reference))
    (files.get? reference)
  refuse (limit < (utf8 content).length)
    (configError "referenced configuration file exceeds its byte limit")
  return utf8 content

/-- The sizes of the encoded files. -/
def checkEncoded : ℕ → List (String × String) → Except ConfigurationError Unit
  | _, [] => .ok ()
  | totalBytes, (path, content) :: entries => do
      refuse (maxConfigBytes < content.toList.length)
        (configError "configuration file exceeds 512000 bytes")
      refuse (maxConfigBytes < content.utf8ByteSize)
        (configError ("configuration file exceeds 512000 bytes: " ++ path))
      refuse (maxConfigSnapshotBytes < totalBytes + content.utf8ByteSize)
        (configError "configuration snapshot exceeds 4000000 bytes")
      checkEncoded (totalBytes + content.utf8ByteSize) entries

/-- What is asked of a mapping as a whole. -/
def checkFiles (files : Mapping String) : Except ConfigurationError Unit := do
  refuse (maxConfigFiles < files.entries.length)
    (configError "configuration files must be a bounded plain mapping")
  refuse ((∃ entry ∈ files.entries, 4096 < entry.1.toList.length
        ∨ maxConfigBytes < entry.2.toList.length)
      ∨ maxConfigSnapshotBytes < (files.values.map fun content => content.toList.length).sum)
    (configError "configuration files exceed their size bounds")
  refuse (∃ entry ∈ files.entries, AgentFleet.holdsSecret yaml.forms entry.1
      ∨ AgentFleet.holdsSecret yaml.forms entry.2)
    registeredSecretError
  validateReferenceSet yaml.casefold files.keys
  checkEncoded 0 files.entries
  refuse ("fleet.yaml" ∉ files.keys) (configError "fleet.yaml is required")

/-- `snapshot_from_fleet_files`. -/
def snapshotFromFleetFiles (files : Mapping String) :
    Except ConfigurationError (FleetSpec Settings × ConfigSnapshot) := do
  checkFiles yaml files
  snapshotFromReader yaml (readFile files) (roleCatalogPath ∈ files.keys)

/-! ### What is read -/

open Footprint

/-- The file is read. -/
def Known (contents : Contents) (reference : String) : Prop :=
  reference ∈ contents.files.map Prod.fst

/-- One file more. -/
def ReadStep (readContent : ReadContent) (contents contents' : Contents) : Prop :=
  ∃ reference limit content, ¬ Known contents reference
    ∧ readContent reference limit = .ok content
    ∧ contents' = { files := contents.files ++ [(reference, content)]
                    totalBytes := contents.totalBytes + content.length }

theorem readStep_grows : Grows Known ReadStep := by
  rintro source contents contents' ⟨reference, limit, content, -, -, rfl⟩ key hkey
  show key ∈ (contents.files ++ [(reference, content)]).map Prod.fst
  rw [List.map_append]
  exact List.mem_append_left _ hkey

variable {yaml} {readContent : ReadContent} {reference : String} {limit : ℕ}
  {contents contents' : Contents} {content : Bytes}

theorem readNew_ok :
    readNew yaml readContent reference limit contents = .ok (content, contents')
      ↔ contents.files.length < maxConfigFiles
        ∧ readContent reference (min limit (maxConfigSnapshotBytes - contents.totalBytes))
          = .ok content
        ∧ content.length ≤ min limit (maxConfigSnapshotBytes - contents.totalBytes)
        ∧ bytesHoldSecret yaml.forms content = false
        ∧ (∃ text, decodeUtf8 content = .ok text)
        ∧ contents' = { files := contents.files ++ [(reference, content)]
                        totalBytes := contents.totalBytes + content.length } := by
  unfold readNew
  dsimp only
  rw [refuse_bind_ok, not_le, bind_ok]
  refine and_congr_right fun _ => ?_
  constructor
  · rintro ⟨content', hread, h⟩
    obtain ⟨hlength, h⟩ := refuse_bind_ok.mp h
    obtain ⟨hclean, h⟩ := refuse_bind_ok.mp h
    obtain ⟨text, htext, h⟩ := bind_ok.mp h
    obtain ⟨rfl, rfl⟩ := Prod.mk.inj (return_ok.mp h)
    exact ⟨hread, not_lt.mp hlength, Bool.eq_false_iff.mpr hclean, ⟨text, htext⟩, rfl⟩
  · rintro ⟨hread, hlength, hclean, ⟨text, htext⟩, rfl⟩
    exact ⟨content, hread, refuse_bind_ok.mpr ⟨not_lt.mpr hlength,
      refuse_bind_ok.mpr ⟨Bool.eq_false_iff.mp hclean, bind_ok.mpr ⟨text, htext, rfl⟩⟩⟩⟩

theorem read_ok :
    (read yaml readContent reference limit).run contents = .ok (content, contents')
      ↔ AgentFleet.holdsSecret yaml.forms reference = false
        ∧ validateReferenceSet yaml.casefold (contents.files.map Prod.fst ++ [reference]) = .ok ()
        ∧ ((∃ key, Keyed.get? Prod.fst contents.files reference = some (key, content)
            ∧ content.length ≤ limit ∧ contents' = contents)
          ∨ Keyed.get? Prod.fst contents.files reference = none
            ∧ readNew yaml readContent reference limit contents = .ok (content, contents')) := by
  unfold read
  simp only [run_bind_ok, run_lift_ok, run_get_ok, refuse_ok]
  constructor
  · rintro ⟨_, _, ⟨hclean, rfl⟩, _, _, ⟨rfl, rfl⟩, _, _, ⟨hset, rfl⟩, h⟩
    refine ⟨Bool.eq_false_iff.mpr hclean, hset, ?_⟩
    cases hget : Keyed.get? Prod.fst contents.files reference with
    | none =>
        rw [hget] at h
        exact .inr ⟨rfl, h⟩
    | some entry =>
        obtain ⟨key, found⟩ := entry
        rw [hget] at h
        simp only [run_bind_ok, run_lift_ok, refuse_ok, run_pure_ok] at h
        obtain ⟨_, _, ⟨hlength, rfl⟩, rfl, rfl⟩ := h
        exact .inl ⟨key, rfl, not_lt.mp hlength, rfl⟩
  · rintro ⟨hclean, hset, hfound⟩
    refine ⟨(), contents, ⟨Bool.eq_false_iff.mp hclean, rfl⟩, contents, contents, ⟨rfl, rfl⟩, (),
      contents, ⟨hset, rfl⟩, ?_⟩
    rcases hfound with ⟨key, hget, hlength, rfl⟩ | ⟨hget, hnew⟩
    · rw [hget]
      simp only [run_bind_ok, run_lift_ok, refuse_ok, run_pure_ok]
      exact ⟨(), contents', ⟨not_lt.mpr hlength, rfl⟩, trivial, rfl⟩
    · rw [hget]
      exact hnew

/-- What is read is known afterwards. -/
theorem known_of_read
    (h : (read yaml readContent reference limit).run contents = .ok (content, contents')) :
    Known contents' reference := by
  obtain ⟨-, -, ⟨key, hget, -, rfl⟩ | ⟨-, hnew⟩⟩ := read_ok.mp h
  · have hkey : key = reference := Keyed.key_of_get? hget
    exact hkey ▸ List.mem_map_of_mem (Keyed.mem_of_get? hget)
  · obtain ⟨-, -, -, -, -, rfl⟩ := readNew_ok.mp hnew
    show reference ∈ (contents.files ++ [(reference, content)]).map Prod.fst
    rw [List.map_append]
    exact List.mem_append_right _ (List.mem_singleton_self _)

theorem read_local (reference : String) (limit : ℕ) :
    Local Known ReadStep fun readContent => read yaml readContent reference limit where
  moves {readContent contents contents' content} h := by
    obtain ⟨-, -, ⟨_, -, -, rfl⟩ | ⟨hget, hnew⟩⟩ := read_ok.mp h
    · exact .refl
    · obtain ⟨-, hread, -, -, -, rfl⟩ := readNew_ok.mp hnew
      exact .single ⟨reference, _, content, Keyed.get?_eq_none.mp hget, hread, rfl⟩
  agrees {readContent readContent' contents contents' content} h hsame := by
    have hreference := hsame reference (known_of_read h)
    obtain ⟨hclean, hset, hfound | ⟨hget, hnew⟩⟩ := read_ok.mp h
    · exact read_ok.mpr ⟨hclean, hset, .inl hfound⟩
    · obtain ⟨hcount, hread, hrest⟩ := readNew_ok.mp hnew
      rw [hreference] at hread
      exact read_ok.mpr ⟨hclean, hset, .inr ⟨hget, readNew_ok.mpr ⟨hcount, hread, hrest⟩⟩⟩

theorem readReferences_local (spec : FleetSpec Settings) :
    Local Known ReadStep fun readContent => readReferences yaml readContent spec := by
  unfold readReferences
  dsimp only
  refine .bind readStep_grows (.lift _) fun _ => .forM readStep_grows (fun reference => ?_) _
  exact .bind readStep_grows (read_local reference _) fun _ => .pure ()

theorem readTemplates_local (spec : FleetSpec Settings) (content : Bytes) :
    Local Known ReadStep fun readContent => readTemplates yaml readContent spec content := by
  unfold readTemplates
  refine .bind readStep_grows (.lift _) fun catalog => ?_
  refine .bind readStep_grows (.forM readStep_grows (fun template => ?_) _) fun _ => ?_
  · exact .bind readStep_grows (read_local _ _) fun _ => .pure ()
  · refine .bind readStep_grows .get fun contents => ?_
    refine .bind readStep_grows (.lift _) fun files => ?_
    exact .bind readStep_grows (.lift _) fun _ => .pure ()

theorem readRoles_local (spec : FleetSpec Settings) :
    Local Known ReadStep fun readContent => readRoles yaml readContent spec :=
  .bind readStep_grows (read_local _ _) (readTemplates_local spec)

theorem readCatalog_local (includeRoles : Bool) (spec : FleetSpec Settings) :
    Local Known ReadStep fun readContent => readCatalog yaml readContent includeRoles spec := by
  unfold readCatalog
  cases includeRoles with
  | false => exact .pure ()
  | true => exact readRoles_local spec

theorem readSkill_local (profile : VerificationProfile) (skillNames : List (String × String))
    (reference : String) :
    Local Known ReadStep fun readContent =>
      readSkill yaml readContent profile skillNames reference := by
  unfold readSkill
  refine .bind readStep_grows (read_local _ _) fun content => ?_
  exact .bind readStep_grows (.lift _) fun skill => .lift _

theorem readWorkflow_local (profile : VerificationProfile) (skillNames : List (String × String))
    (workflow : String × WorkflowRequest) :
    Local Known ReadStep fun readContent =>
      readWorkflow yaml readContent profile skillNames workflow := by
  unfold readWorkflow
  refine .bind readStep_grows (read_local _ _) fun content => ?_
  refine .bind readStep_grows (.lift _) fun definition => ?_
  refine .bind readStep_grows (.lift _) fun _ => ?_
  exact .foldlM readStep_grows (readSkill_local profile) _ _

theorem readWorkflows_local (spec : FleetSpec Settings) (content : Bytes) :
    Local Known ReadStep fun readContent => readWorkflows yaml readContent spec content := by
  unfold readWorkflows
  refine .bind readStep_grows (.lift _) fun profile => ?_
  refine .bind readStep_grows (.foldlM readStep_grows (readWorkflow_local profile.1) _ _) fun _ => ?_
  exact .pure ()

theorem readVerification_local (spec : FleetSpec Settings) :
    Local Known ReadStep fun readContent => readVerification yaml readContent spec :=
  .bind readStep_grows (read_local _ _) (readWorkflows_local spec)

theorem readSpecified_local (includeRoles : Bool) (content : Bytes) :
    Local Known ReadStep fun readContent =>
      readSpecified yaml readContent includeRoles content := by
  unfold readSpecified
  refine .bind readStep_grows (.lift _) fun spec => ?_
  refine .bind readStep_grows (readReferences_local spec.1) fun _ => ?_
  refine .bind readStep_grows (readCatalog_local includeRoles spec.1) fun _ => ?_
  exact .bind readStep_grows (readVerification_local spec.1) fun _ => .pure spec.1

/-- The closure looks up the files that it keeps, and no others. -/
theorem readClosure_local (includeRoles : Bool) :
    Local Known ReadStep fun readContent => readClosure yaml readContent includeRoles :=
  .bind readStep_grows (read_local _ _) (readSpecified_local includeRoles)

/-! ### Accepted mappings -/

/-- What `checkFiles` asks of a mapping. -/
structure FilesAccepted (yaml : YamlConfiguration Scalar Settings) (files : Mapping String) :
    Prop where
  count : files.entries.length ≤ maxConfigFiles
  bounded : ∀ entry ∈ files.entries, entry.1.toList.length ≤ 4096
    ∧ entry.2.toList.length ≤ maxConfigBytes ∧ entry.2.utf8ByteSize ≤ maxConfigBytes
  characters :
    (files.entries.map fun entry => entry.2.toList.length).sum ≤ maxConfigSnapshotBytes
  bytes : (files.entries.map fun entry => entry.2.utf8ByteSize).sum ≤ maxConfigSnapshotBytes
  clean : ∀ entry ∈ files.entries, AgentFleet.holdsSecret yaml.forms entry.1 = false
    ∧ AgentFleet.holdsSecret yaml.forms entry.2 = false
  agree : ReferencesAgree yaml.casefold files.keys
  entry : "fleet.yaml" ∈ files.keys

variable {files files' : Mapping String}

theorem checkEncoded_ok {totalBytes : ℕ} {entries : List (String × String)} {u : Unit}
    (htotal : totalBytes ≤ maxConfigSnapshotBytes) :
    checkEncoded totalBytes entries = .ok u
      ↔ (∀ entry ∈ entries, entry.2.toList.length ≤ maxConfigBytes
          ∧ entry.2.utf8ByteSize ≤ maxConfigBytes)
        ∧ totalBytes + (entries.map fun entry => entry.2.utf8ByteSize).sum
          ≤ maxConfigSnapshotBytes := by
  induction entries generalizing totalBytes with
  | nil => exact ⟨fun _ => ⟨fun _ hmem => absurd hmem List.not_mem_nil, htotal⟩, fun _ => rfl⟩
  | cons entry entries ih =>
      obtain ⟨path, content⟩ := entry
      rw [checkEncoded, refuse_bind_ok, refuse_bind_ok, refuse_bind_ok, List.forall_mem_cons,
        List.map_cons, List.sum_cons, ← Nat.add_assoc, not_lt, not_lt, not_lt]
      constructor
      · rintro ⟨hlength, hbytes, hsum, hrest⟩
        obtain ⟨hentries, hall⟩ := (ih hsum).mp hrest
        exact ⟨⟨⟨hlength, hbytes⟩, hentries⟩, hall⟩
      · rintro ⟨⟨⟨hlength, hbytes⟩, hentries⟩, hall⟩
        have hsum := (Nat.le_add_right _ _).trans hall
        exact ⟨hlength, hbytes, hsum, (ih hsum).mpr ⟨hentries, hall⟩⟩

theorem checkFiles_ok {u : Unit} : checkFiles yaml files = .ok u ↔ FilesAccepted yaml files := by
  unfold checkFiles
  rw [refuse_bind_ok, refuse_bind_ok, refuse_bind_ok, bind_ok, not_lt]
  constructor
  · rintro ⟨hcount, hsizes, hclean, _, hagree, h⟩
    obtain ⟨_, hencoded, hentry⟩ := bind_ok.mp h
    obtain ⟨hbounded, hbytes⟩ := (checkEncoded_ok (Nat.zero_le _)).mp hencoded
    rw [Nat.zero_add] at hbytes
    obtain ⟨hlengths, hcharacters⟩ := not_or.mp hsizes
    refine ⟨hcount, fun entry hmem => ?_, ?_, hbytes, fun entry hmem => ?_,
      validateReferenceSet_ok.mp hagree, not_not.mp (refuse_ok.mp hentry)⟩
    · refine ⟨not_lt.mp fun hlong => hlengths ⟨entry, hmem, .inl hlong⟩, hbounded entry hmem⟩
    · have hmap : files.values.map (fun content => content.toList.length)
          = files.entries.map fun entry => entry.2.toList.length := by
        rw [Mapping.values, List.map_map]
        rfl
      rw [hmap] at hcharacters
      exact not_lt.mp hcharacters
    · refine ⟨Bool.eq_false_iff.mpr fun hholds => hclean ⟨entry, hmem, .inl hholds⟩,
        Bool.eq_false_iff.mpr fun hholds => hclean ⟨entry, hmem, .inr hholds⟩⟩
  · intro h
    refine ⟨h.count, ?_, ?_, (), validateReferenceSet_ok.mpr h.agree, bind_ok.mpr ⟨(), ?_, ?_⟩⟩
    · rintro (⟨entry, hmem, hlong | hlong⟩ | hlong)
      · exact absurd (h.bounded entry hmem).1 (not_le.mpr hlong)
      · exact absurd (h.bounded entry hmem).2.1 (not_le.mpr hlong)
      · rw [Mapping.values, List.map_map] at hlong
        exact absurd h.characters (not_le.mpr hlong)
    · rintro ⟨entry, hmem, hholds | hholds⟩
      · exact Bool.eq_false_iff.mp (h.clean entry hmem).1 hholds
      · exact Bool.eq_false_iff.mp (h.clean entry hmem).2 hholds
    · refine (checkEncoded_ok (Nat.zero_le _)).mpr ⟨fun entry hmem => (h.bounded entry hmem).2, ?_⟩
      rw [Nat.zero_add]
      exact h.bytes
    · exact refuse_ok.mpr (not_not.mpr h.entry)

theorem length_le_utf8ByteSize (text : String) : text.toList.length ≤ text.utf8ByteSize := by
  rw [← length_utf8, ← String.ofList_toList (s := text), utf8_ofList, String.toList_ofList]
  induction text.toList with
  | nil => exact Nat.le_refl 0
  | cons character characters ih =>
      have hpos := character.utf8Size_pos
      rw [List.flatMap_cons, List.length_append, String.length_utf8EncodeChar, List.length_cons]
      omega

/-- A text has no more characters than bytes, so the bounds on the bytes are enough. -/
theorem FilesAccepted.of_bytes (hcount : files.entries.length ≤ maxConfigFiles)
    (hpaths : ∀ entry ∈ files.entries, entry.1.toList.length ≤ 4096)
    (hbounded : ∀ entry ∈ files.entries, entry.2.utf8ByteSize ≤ maxConfigBytes)
    (hbytes : (files.entries.map fun entry => entry.2.utf8ByteSize).sum ≤ maxConfigSnapshotBytes)
    (hclean : ∀ entry ∈ files.entries, AgentFleet.holdsSecret yaml.forms entry.1 = false
      ∧ AgentFleet.holdsSecret yaml.forms entry.2 = false)
    (hagree : ReferencesAgree yaml.casefold files.keys) (hentry : "fleet.yaml" ∈ files.keys) :
    FilesAccepted yaml files where
  count := hcount
  bounded entry hmem := ⟨hpaths entry hmem,
    (length_le_utf8ByteSize entry.2).trans (hbounded entry hmem), hbounded entry hmem⟩
  characters := (List.sum_le_sum fun entry _ => length_le_utf8ByteSize entry.2).trans hbytes
  bytes := hbytes
  clean := hclean
  agree := hagree
  entry := hentry

/-- Fewer files are accepted when the specification is among them. -/
theorem FilesAccepted.subset (h : FilesAccepted yaml files) (hsub : files'.entries ⊆ files.entries)
    (hentry : "fleet.yaml" ∈ files'.keys) : FilesAccepted yaml files' := by
  obtain ⟨kept, hperm, hsublist⟩ :=
    List.subperm_of_subset (List.Nodup.of_map _ files'.distinct) hsub
  have hsum (size : String × String → ℕ) :
      (files'.entries.map size).sum ≤ (files.entries.map size).sum := by
    rw [← (hperm.map size).sum_eq]
    exact (hsublist.map size).sum_le_sum fun _ _ => Nat.zero_le _
  exact {
    count := (hperm.length_eq.symm.le.trans hsublist.length_le).trans h.count
    bounded := fun entry hmem => h.bounded entry (hsub hmem)
    characters := (hsum _).trans h.characters
    bytes := (hsum _).trans h.bytes
    clean := fun entry hmem => h.clean entry (hsub hmem)
    agree := h.agree.subset (List.map_subset _ hsub)
    entry := hentry }

/-! ### The files of a snapshot -/

/-- `{item.path: item.content for item in snapshot.files}`. -/
def snapshotFiles (snapshot : ConfigSnapshot) : Mapping String :=
  .ofEntries (snapshot.files.map fun file => (file.path, file.content))

/-- The entries of the files of an accepted snapshot. -/
theorem entries_snapshotFiles {snapshot : ConfigSnapshot} {hash : Bytes → Sha256}
    (h : snapshot.Checked hash) :
    (snapshotFiles snapshot).entries
      = snapshot.files.map fun file => (file.path, file.content) := by
  refine Mapping.entries_ofEntries ?_
  rw [List.map_map]
  exact h.2.2.1 ▸ nodup_sortedTexts _

/-- The contents that were read come from the files. -/
def ReadFrom (files : Mapping String) (contents : Contents) : Prop :=
  ∀ entry ∈ contents.files, ∃ text, files.get? entry.1 = some text ∧ utf8 text = entry.2

theorem readFile_ok : readFile files reference limit = .ok content
    ↔ ∃ text, files.get? reference = some text ∧ content.length ≤ limit ∧ utf8 text = content := by
  unfold readFile
  rw [bind_ok]
  constructor
  · rintro ⟨text, htext, h⟩
    obtain ⟨hlength, h⟩ := refuse_bind_ok.mp h
    obtain rfl := return_ok.mp h
    exact ⟨text, demand_ok.mp htext, not_lt.mp hlength, rfl⟩
  · rintro ⟨text, htext, hlength, rfl⟩
    exact ⟨text, demand_ok.mpr htext, refuse_bind_ok.mpr ⟨not_lt.mpr hlength, rfl⟩⟩

/-- A lookup keeps the contents within the files. -/
theorem readFrom_step (h : ReadStep (readFile files) contents contents')
    (hcontents : ReadFrom files contents) : ReadFrom files contents' := by
  obtain ⟨reference, limit, content, -, hread, rfl⟩ := h
  intro entry hmem
  rcases List.mem_append.mp hmem with hold | hnew
  · exact hcontents entry hold
  · obtain ⟨text, htext, -, hutf8⟩ := readFile_ok.mp hread
    obtain rfl := List.mem_singleton.mp hnew
    exact ⟨text, htext, hutf8⟩

theorem snapshotOf_ok {snapshot : ConfigSnapshot} :
    snapshotOf yaml contents = .ok snapshot
      ↔ ((contents.files.insertionSort fun a b => a.1 ≤ b.1).mapM fun entry => do
          let text ← decodeUtf8 entry.2
          return ({ path := entry.1, sha256 := yaml.hash entry.2, content := text } :
            ConfigSnapshotFile)) = .ok snapshot.files
        ∧ snapshot.Checked yaml.hash := by
  unfold snapshotOf
  rw [bind_ok]
  constructor
  · rintro ⟨entries, hentries, h⟩
    obtain ⟨hchecked, h⟩ := refuse_bind_ok.mp h
    obtain rfl := return_ok.mp h
    exact ⟨hentries, not_not.mp hchecked⟩
  · rintro ⟨hentries, hchecked⟩
    exact ⟨_, hentries, refuse_bind_ok.mpr ⟨not_not.mpr hchecked, rfl⟩⟩

/-- The snapshot has the texts of the contents. -/
theorem mem_snapshotOf {snapshot : ConfigSnapshot} (h : snapshotOf yaml contents = .ok snapshot)
    {path text : String} :
    (∃ file ∈ snapshot.files, file.path = path ∧ file.content = text)
      ↔ ∃ content, (path, content) ∈ contents.files ∧ decodeUtf8 content = .ok text := by
  have hmem := @mem_of_mapM_ok _ _ _ _ _ _ (snapshotOf_ok.mp h).1
  constructor
  · rintro ⟨file, hfile, rfl, rfl⟩
    obtain ⟨⟨path, content⟩, hentry, hmade⟩ := hmem.mp hfile
    obtain ⟨text, htext, hmade⟩ := bind_ok.mp hmade
    obtain rfl := return_ok.mp hmade
    exact ⟨content, (List.mem_insertionSort _).mp hentry, htext⟩
  · rintro ⟨content, hentry, htext⟩
    exact ⟨{ path := path, sha256 := yaml.hash content, content := text },
      hmem.mpr ⟨(path, content), (List.mem_insertionSort _).mpr hentry, bind_ok.mpr ⟨text, htext, rfl⟩⟩,
      rfl, rfl⟩

/-! ### Closures -/

variable {spec : FleetSpec Settings} {snapshot : ConfigSnapshot} {includeRoles : Bool}

theorem snapshotFromReader_ok {result : FleetSpec Settings × ConfigSnapshot} :
    snapshotFromReader yaml readContent includeRoles = .ok result
      ↔ ∃ contents, (readClosure yaml readContent includeRoles).run {} = .ok (result.1, contents)
        ∧ snapshotOf yaml contents = .ok result.2 := by
  unfold snapshotFromReader
  rw [bind_ok]
  constructor
  · rintro ⟨⟨spec, contents⟩, hclosure, h⟩
    obtain ⟨snapshot, hsnapshot, h⟩ := bind_ok.mp h
    obtain rfl := return_ok.mp h
    exact ⟨contents, hclosure, hsnapshot⟩
  · rintro ⟨contents, hclosure, hsnapshot⟩
    exact ⟨_, hclosure, bind_ok.mpr ⟨_, hsnapshot, rfl⟩⟩

/-- A file of the snapshot of some files has the content of that file. -/
theorem get?_of_mem_snapshot
    (hclosure : (readClosure yaml (readFile files) includeRoles).run {} = .ok (spec, contents))
    (hsnapshot : snapshotOf yaml contents = .ok snapshot) {path text : String} :
    (∃ file ∈ snapshot.files, file.path = path ∧ file.content = text)
      ↔ Known contents path ∧ files.get? path = some text := by
  have hread : ReadFrom files contents :=
    (readClosure_local includeRoles).invariant readFrom_step hclosure
      fun _ hmem => absurd hmem List.not_mem_nil
  rw [mem_snapshotOf hsnapshot]
  constructor
  · rintro ⟨content, hmem, htext⟩
    obtain ⟨text', hget, rfl⟩ := hread _ hmem
    rw [decodeUtf8_utf8] at htext
    cases htext
    exact ⟨List.mem_map_of_mem hmem, hget⟩
  · rintro ⟨hknown, hget⟩
    obtain ⟨⟨path', content⟩, hmem, rfl⟩ := List.mem_map.mp hknown
    obtain ⟨text', hget', rfl⟩ := hread _ hmem
    have htext : text' = text := Option.some.inj (hget'.symm.trans hget)
    exact ⟨_, hmem, htext ▸ decodeUtf8_utf8 _⟩

/-- The specification is read. -/
theorem known_fleet
    (h : (readClosure yaml readContent includeRoles).run {} = .ok (spec, contents)) :
    Known contents "fleet.yaml" :=
  Local.known_bind readStep_grows (readSpecified_local includeRoles) h
    fun _ _ hread => known_of_read hread

/-- No file is read twice. -/
theorem nodup_of_closure
    (h : (readClosure yaml readContent includeRoles).run {} = .ok (spec, contents)) :
    (contents.files.map Prod.fst).Nodup := by
  refine (readClosure_local includeRoles).invariant
    (P := fun contents => (contents.files.map Prod.fst).Nodup) ?_ h List.nodup_nil
  rintro contents contents' ⟨reference, limit, content, hnew, -, rfl⟩ hnodup
  show ((contents.files ++ [(reference, content)]).map Prod.fst).Nodup
  rw [List.map_append, List.nodup_append]
  refine ⟨hnodup, List.nodup_singleton _, ?_⟩
  rintro key hkey other hother rfl
  obtain rfl := List.mem_singleton.mp hother
  exact hnew hkey

theorem not_startsWith_of_relative {path : String} (h : ¬ (PurePosixPath.parse path).isAbsolute) :
    ¬ textStartsWith path "/" = true := by
  intro hstarts
  apply h
  show PurePosixPath.rootOf path.toList ≠ ""
  obtain ⟨rest, hrest⟩ := List.isPrefixOf_iff_prefix.mp hstarts
  rw [← hrest]
  show PurePosixPath.rootOf ('/' :: rest) ≠ ""
  unfold PurePosixPath.rootOf
  split
  · decide
  · decide
  · decide
  · exact absurd rfl (‹∀ tail, '/' :: rest = '/' :: tail → False› rest)

/-- What was read from accepted files is a snapshot. -/
theorem exists_snapshotOf (haccepted : FilesAccepted yaml files)
    (hclosure : (readClosure yaml (readFile files) includeRoles).run {} = .ok (spec, contents)) :
    ∃ snapshot, snapshotOf yaml contents = .ok snapshot := by
  have hread : ReadFrom files contents :=
    (readClosure_local includeRoles).invariant readFrom_step hclosure
      fun _ hmem => absurd hmem List.not_mem_nil
  have hnodup := nodup_of_closure hclosure
  have hkeys : contents.files.map Prod.fst ⊆ files.keys := by
    intro key hkey
    obtain ⟨entry, hmem, rfl⟩ := List.mem_map.mp hkey
    obtain ⟨text, hget, -⟩ := hread entry hmem
    exact List.mem_map_of_mem (Mapping.get?_eq_some_iff.mp hget)
  obtain ⟨entries, hentries⟩ : ∃ entries,
      ((contents.files.insertionSort fun a b => a.1 ≤ b.1).mapM fun entry => do
        let text ← decodeUtf8 entry.2
        return ({ path := entry.1, sha256 := yaml.hash entry.2, content := text } :
          ConfigSnapshotFile)) = .ok entries := by
    refine exists_mapM_ok.mpr fun entry hmem => ?_
    obtain ⟨text, -, hutf8⟩ := hread entry ((List.mem_insertionSort _).mp hmem)
    exact ⟨_, bind_ok.mpr ⟨text, hutf8 ▸ decodeUtf8_utf8 text, rfl⟩⟩
  have hpaths : entries.map ConfigSnapshotFile.path
      = (contents.files.map Prod.fst).insertionSort (· ≤ ·) := by
    rw [← List.map_insertionSort (fun a b => a.1 ≤ b.1) (· ≤ ·) Prod.fst contents.files
      fun _ _ _ _ => Iff.rfl]
    refine map_of_mapM_ok hentries fun entry file hfile => ?_
    obtain ⟨text, -, hmade⟩ := bind_ok.mp hfile
    obtain rfl := return_ok.mp hmade
    rfl
  have hperm := List.perm_insertionSort (· ≤ ·) (contents.files.map Prod.fst)
  refine ⟨⟨entries⟩, snapshotOf_ok.mpr ⟨hentries, ⟨?_, ?_⟩, ?_, ?_, ?_⟩⟩
  · have hmem := hperm.mem_iff.mpr (known_fleet hclosure)
    rw [← hpaths] at hmem
    exact List.length_pos_of_mem (List.mem_map.mp hmem).choose_spec.1
  · have hlength := congrArg List.length hpaths
    rw [List.length_map, hperm.length_eq] at hlength
    rw [hlength]
    have hle := (List.subperm_of_subset hnodup hkeys).length_le
    have hcount : files.keys.length = files.entries.length := List.length_map _
    exact hle.trans (hcount.le.trans haccepted.count)
  · intro file hmem
    obtain ⟨entry, hentry, hfile⟩ := (mem_of_mapM_ok hentries).mp hmem
    have hentry := (List.mem_insertionSort _).mp hentry
    obtain ⟨text, hget, hutf8⟩ := hread entry hentry
    obtain ⟨text', htext, hmade⟩ := bind_ok.mp hfile
    obtain rfl := return_ok.mp hmade
    rw [← hutf8, decodeUtf8_utf8] at htext
    obtain rfl := Except.ok.inj htext
    have hcanonical := haccepted.agree.canonical entry.1 (hkeys (List.mem_map_of_mem hentry))
    simp only [isLogicalReference, not_or] at hcanonical
    obtain ⟨hempty, -, hnormal, hrelative, hparent, hbackslash, -⟩ := hcanonical
    refine ⟨(haccepted.bounded _ (Mapping.get?_eq_some_iff.mp hget)).2.1, ?_, ?_⟩
    · rintro (hpath | hpath | hpath | hpath | hpath)
      · exact hempty hpath
      · exact not_startsWith_of_relative hrelative hpath
      · exact hbackslash hpath
      · exact hparent hpath
      · exact hnormal hpath
    · show yaml.hash entry.2 = yaml.hash (utf8 text)
      rw [hutf8]
  · show entries.map ConfigSnapshotFile.path = sortedTexts (entries.map ConfigSnapshotFile.path)
    rw [hpaths, sortedTexts, (hperm.nodup_iff.mpr hnodup).dedup,
      (List.pairwise_insertionSort (· ≤ ·) _).insertionSort_eq]
  · show "fleet.yaml" ∈ entries.map ConfigSnapshotFile.path
    rw [hpaths]
    exact hperm.mem_iff.mpr (known_fleet hclosure)

/-- What is read from files is the content of one of them. -/
theorem text_of_read (hcontents : ReadFrom files contents)
    (h : (read yaml (readFile files) reference limit).run contents = .ok (content, contents')) :
    ∃ text, files.get? reference = some text ∧ utf8 text = content := by
  obtain ⟨-, -, ⟨key, hget, -, -⟩ | ⟨-, hnew⟩⟩ := read_ok.mp h
  · obtain ⟨text, htext, hutf8⟩ := hcontents _ (Keyed.mem_of_get? hget)
    have hkey : key = reference := Keyed.key_of_get? hget
    exact ⟨text, hkey ▸ htext, hutf8⟩
  · obtain ⟨-, hread, -⟩ := readNew_ok.mp hnew
    obtain ⟨text, htext, -, hutf8⟩ := readFile_ok.mp hread
    exact ⟨text, htext, hutf8⟩

/-- A catalog that is to be included is read. -/
theorem known_roleCatalog
    (h : (readClosure yaml readContent true).run {} = .ok (spec, contents)) :
    Known contents roleCatalogPath := by
  obtain ⟨_, _, -, h⟩ := run_bind_ok.mp h
  unfold readSpecified at h
  obtain ⟨parsed, _, -, h⟩ := run_bind_ok.mp h
  obtain ⟨_, _, -, h⟩ := run_bind_ok.mp h
  refine Local.known_bind readStep_grows (fun _ =>
    .bind readStep_grows (readVerification_local parsed.1) fun _ => .pure parsed.1) h ?_
  intro _ _ hroles
  exact Local.known_bind readStep_grows (readTemplates_local parsed.1) hroles
    fun _ _ hread => known_of_read hread

/-- The verification part of a closure ends in what was read. -/
theorem verification_of_closure
    (h : (readClosure yaml (readFile files) includeRoles).run {} = .ok (spec, contents)) :
    ∃ before, ReadFrom files before
      ∧ (readVerification yaml (readFile files) spec).run before = .ok ((), contents) := by
  obtain ⟨content, first, hfirst, h⟩ := run_bind_ok.mp h
  unfold readSpecified at h
  obtain ⟨parsed, second, hparsed, h⟩ := run_bind_ok.mp h
  obtain ⟨-, rfl⟩ := run_lift_ok.mp hparsed
  obtain ⟨_, third, hreferences, h⟩ := run_bind_ok.mp h
  obtain ⟨_, before, hcatalog, h⟩ := run_bind_ok.mp h
  obtain ⟨_, after, hverification, h⟩ := run_bind_ok.mp h
  obtain ⟨rfl, rfl⟩ := run_pure_ok.mp h
  have hread₁ := (read_local "fleet.yaml" _).invariant readFrom_step hfirst
    fun _ hmem => absurd hmem List.not_mem_nil
  have hread₂ := (readReferences_local parsed.1).invariant readFrom_step hreferences hread₁
  exact ⟨before, (readCatalog_local includeRoles parsed.1).invariant readFrom_step hcatalog hread₂,
    hverification⟩

/-- The closure of the files of a snapshot, and of any files that agree with it, is the same. -/
theorem snapshotFromReader_agrees
    (h : snapshotFromReader yaml (readFile files) includeRoles = .ok (spec, snapshot))
    (hsame : ∀ file ∈ snapshot.files, files'.get? file.path = some file.content) :
    snapshotFromReader yaml (readFile files') includeRoles = .ok (spec, snapshot) := by
  obtain ⟨contents, hclosure, hsnapshot⟩ := snapshotFromReader_ok.mp h
  refine snapshotFromReader_ok.mpr ⟨contents, ?_, hsnapshot⟩
  refine (readClosure_local includeRoles).agrees hclosure fun key hknown => ?_
  have hread : ReadFrom files contents :=
    (readClosure_local includeRoles).invariant readFrom_step hclosure
      fun _ hmem => absurd hmem List.not_mem_nil
  obtain ⟨entry, hmem, rfl⟩ := List.mem_map.mp hknown
  obtain ⟨text, hget, -⟩ := hread entry hmem
  obtain ⟨file, hfile, hpath, hcontent⟩ :=
    (get?_of_mem_snapshot hclosure hsnapshot).mpr ⟨hknown, hget⟩
  have hget' := hsame file hfile
  rw [hpath, hcontent] at hget'
  unfold readFile
  rw [hget, hget']

theorem snapshotFromFleetFiles_ok {result : FleetSpec Settings × ConfigSnapshot} :
    snapshotFromFleetFiles yaml files = .ok result
      ↔ FilesAccepted yaml files
        ∧ snapshotFromReader yaml (readFile files) (roleCatalogPath ∈ files.keys)
          = .ok result := by
  unfold snapshotFromFleetFiles
  rw [bind_ok]
  constructor
  · rintro ⟨_, hfiles, hread⟩
    exact ⟨checkFiles_ok.mp hfiles, hread⟩
  · rintro ⟨hfiles, hread⟩
    exact ⟨(), checkFiles_ok.mpr hfiles, hread⟩

/-- A file of an accepted snapshot is one of the files. -/
theorem mem_of_mem_snapshotFiles
    (h : snapshotFromFleetFiles yaml files = .ok (spec, snapshot)) {path text : String} :
    (path, text) ∈ (snapshotFiles snapshot).entries
      ↔ ∃ file ∈ snapshot.files, file.path = path ∧ file.content = text := by
  obtain ⟨-, h⟩ := snapshotFromFleetFiles_ok.mp h
  obtain ⟨contents, -, hsnapshot⟩ := snapshotFromReader_ok.mp h
  rw [entries_snapshotFiles (snapshotOf_ok.mp hsnapshot).2, List.mem_map]
  constructor
  · rintro ⟨file, hfile, heq⟩
    obtain ⟨hpath, hcontent⟩ := Prod.mk.inj heq
    exact ⟨file, hfile, hpath, hcontent⟩
  · rintro ⟨file, hfile, rfl, rfl⟩
    exact ⟨file, hfile, rfl⟩

/-- Files that agree with a snapshot give the snapshot again. -/
theorem snapshotFromFleetFiles_agrees
    (h : snapshotFromFleetFiles yaml files = .ok (spec, snapshot))
    (haccepted : FilesAccepted yaml files')
    (hsame : ∀ file ∈ snapshot.files, files'.get? file.path = some file.content)
    (hroles : roleCatalogPath ∈ files.keys ↔ roleCatalogPath ∈ files'.keys) :
    snapshotFromFleetFiles yaml files' = .ok (spec, snapshot) := by
  obtain ⟨-, hread⟩ := snapshotFromFleetFiles_ok.mp h
  refine snapshotFromFleetFiles_ok.mpr ⟨haccepted, ?_⟩
  have hagrees := snapshotFromReader_agrees hread hsame
  rw [decide_eq_decide.mpr hroles] at hagrees
  exact hagrees

/-- The files of a snapshot are enough to give it again; the order of the files and the files that
are not in it do not show. -/
theorem snapshotFromFleetFiles_fixpoint
    (h : snapshotFromFleetFiles yaml files = .ok (spec, snapshot)) :
    snapshotFromFleetFiles yaml (snapshotFiles snapshot) = .ok (spec, snapshot)
      ∧ (∀ files', files.Same files' →
        snapshotFromFleetFiles yaml files' = .ok (spec, snapshot))
      ∧ ∀ files' result, snapshotFromFleetFiles yaml files' = .ok result →
        (∀ file ∈ snapshot.files, files'.get? file.path = some file.content) →
        (roleCatalogPath ∈ files.keys ↔ roleCatalogPath ∈ files'.keys) →
        result = (spec, snapshot) := by
  obtain ⟨haccepted, hread⟩ := snapshotFromFleetFiles_ok.mp h
  obtain ⟨contents, hclosure, hsnapshot⟩ := snapshotFromReader_ok.mp hread
  have hentries := @mem_of_mem_snapshotFiles _ _ _ _ _ _ h
  have hfiles : ∀ file ∈ snapshot.files, files.get? file.path = some file.content := fun file hmem =>
    ((get?_of_mem_snapshot hclosure hsnapshot).mp ⟨file, hmem, rfl, rfl⟩).2
  refine ⟨?_, ?_, ?_⟩
  · have hsub : (snapshotFiles snapshot).entries ⊆ files.entries := by
      rintro ⟨path, text⟩ hmem
      obtain ⟨file, hfile, rfl, rfl⟩ := hentries.mp hmem
      exact Mapping.get?_eq_some_iff.mp (hfiles file hfile)
    have hkey {file : ConfigSnapshotFile} (hfile : file ∈ snapshot.files) :
        file.path ∈ (snapshotFiles snapshot).keys :=
      List.mem_map.mpr ⟨(file.path, file.content), hentries.mpr ⟨file, hfile, rfl, rfl⟩, rfl⟩
    obtain ⟨file, hfile, hpath⟩ := List.mem_map.mp (snapshotOf_ok.mp hsnapshot).2.2.2.2
    refine snapshotFromFleetFiles_agrees h (haccepted.subset hsub (hpath ▸ hkey hfile)) ?_ ?_
    · intro file hfile
      exact Mapping.get?_eq_some_iff.mpr (hentries.mpr ⟨file, hfile, rfl, rfl⟩)
    · constructor
      · intro hroles
        rw [decide_eq_true hroles] at hclosure
        obtain ⟨⟨path, text⟩, hmem, rfl⟩ := List.mem_map.mp hroles
        obtain ⟨file, hfile, hpath, -⟩ := (get?_of_mem_snapshot hclosure hsnapshot).mpr
          ⟨known_roleCatalog hclosure, Mapping.get?_eq_some_iff.mpr hmem⟩
        exact hpath ▸ hkey hfile
      · exact fun hroles => List.map_subset _ hsub hroles
  · intro files' hsame
    refine snapshotFromFleetFiles_agrees h (haccepted.subset hsame.symm.subset ?_) ?_ ?_
    · exact (hsame.map Prod.fst).mem_iff.mp haccepted.entry
    · exact fun file hfile => (hsame.get? file.path).symm.trans (hfiles file hfile)
    · exact (hsame.map Prod.fst).mem_iff
  · intro files' result h' hsame hroles
    have haccepted' := (snapshotFromFleetFiles_ok.mp h').1
    have hagain := snapshotFromFleetFiles_agrees h haccepted' hsame hroles
    exact Except.ok.inj (h'.symm.trans hagain)

end

/-! ### A small configuration -/

section Sample

def sampleFleetText : String :=
  "kind: Fleet\napiVersion: agentfleet.dev/v1alpha1\nmetadata:\n"
    ++ "  name: app\nspec:\n  runtime:\n    adapter: fake\n"
    ++ "    requiredCapabilities: [structured_output, tool_calling]\n"
    ++ "  sandbox:\n    provider: fake\n    networkMode: none\n  agents:\n"
    ++ "    cos:\n      role: cos\n      lifecycle: persistent\n"
    ++ "      instructions: guide.md\n      allowedTools: []\n"
    ++ "      maxSteps: 8\n  workflows:\n    code-change:\n"
    ++ "      definition: code-change.yaml\n      maxRepairIterations: 1\n"
    ++ "  project:\n    charter: guide.md\n    architecture: guide.md\n"
    ++ "    verification: verification.yaml\n  requestedPermissions: []\n"

def sampleWorkflowText : String :=
  "stages: [intake, scoping, workspace-preparation, implementing, "
    ++ "verifying, repairing, presenting, applying]\n"
    ++ "apiVersion: agentfleet.dev/v1alpha1\nkind: Workflow\nmetadata:\n"
    ++ "  name: code-change\nlimits:\n  maxRepairIterations: 1\n"
    ++ "verificationSkills: [skills/docs.yaml]\n"

def sampleProfileText : String :=
  "commands:\n  lint:\n    executable: ruff\n    argv: [check]\n"
    ++ "    cwd: .\n    timeoutSeconds: 60\n    networkRequired: false\n"
    ++ "requiredForCodeChange: []\napiVersion: agentfleet.dev/v1alpha1\n"
    ++ "kind: VerificationProfile\n"

def sampleSkillText : String :=
  "metadata:\n  name: docs\napiVersion: agentfleet.dev/v1alpha1\n"
    ++ "kind: VerificationSkill\nappliesToPaths: [docs]\n"
    ++ "requiredCommandIds: [lint]\n"

def sampleFiles : Mapping String where
  entries := [("fleet.yaml", sampleFleetText), ("guide.md", "Guide.\n"),
    ("code-change.yaml", sampleWorkflowText), ("verification.yaml", sampleProfileText),
    ("skills/docs.yaml", sampleSkillText), ("notes.md", "")]
  distinct := by decide

/-- The leaf of a text. -/
def textNode (text : String) : YamlNode JsonValue := .leaf (some (.str text))

/-- The leaf of a number. -/
def numberNode (value : ℤ) : YamlNode JsonValue := .leaf (some (.scalar (.int value)))

/-- A sequence of texts. -/
def textsNode (texts : List String) : YamlNode JsonValue := .sequence (texts.map textNode)

/-- A mapping. -/
def mappingNode (entries : List (String × YamlNode JsonValue)) : YamlNode JsonValue :=
  .mapping (entries.map fun entry => (textNode entry.1, entry.2))

def sampleFleetNode : YamlNode JsonValue := mappingNode [
  ("kind", textNode "Fleet"), ("apiVersion", textNode "agentfleet.dev/v1alpha1"),
  ("metadata", mappingNode [("name", textNode "app")]),
  ("spec", mappingNode [
    ("runtime", mappingNode [("adapter", textNode "fake"),
      ("requiredCapabilities", textsNode ["structured_output", "tool_calling"])]),
    ("sandbox", mappingNode [("provider", textNode "fake"), ("networkMode", textNode "none")]),
    ("agents", mappingNode [("cos", mappingNode [("role", textNode "cos"),
      ("lifecycle", textNode "persistent"), ("instructions", textNode "guide.md"),
      ("allowedTools", textsNode []), ("maxSteps", numberNode 8)])]),
    ("workflows", mappingNode [("code-change", mappingNode [
      ("definition", textNode "code-change.yaml"), ("maxRepairIterations", numberNode 1)])]),
    ("project", mappingNode [("charter", textNode "guide.md"),
      ("architecture", textNode "guide.md"), ("verification", textNode "verification.yaml")]),
    ("requestedPermissions", textsNode [])])]

def sampleWorkflowNode : YamlNode JsonValue := mappingNode [
  ("stages", textsNode workflowStages),
  ("apiVersion", textNode "agentfleet.dev/v1alpha1"), ("kind", textNode "Workflow"),
  ("metadata", mappingNode [("name", textNode "code-change")]),
  ("limits", mappingNode [("maxRepairIterations", numberNode 1)]),
  ("verificationSkills", textsNode ["skills/docs.yaml"])]

def sampleProfileNode : YamlNode JsonValue := mappingNode [
  ("commands", mappingNode [("lint", mappingNode [("executable", textNode "ruff"),
    ("argv", textsNode ["check"]), ("cwd", textNode "."), ("timeoutSeconds", numberNode 60),
    ("networkRequired", .leaf (some (.scalar (.bool false))))])]),
  ("requiredForCodeChange", textsNode []),
  ("apiVersion", textNode "agentfleet.dev/v1alpha1"), ("kind", textNode "VerificationProfile")]

def sampleSkillNode : YamlNode JsonValue := mappingNode [
  ("metadata", mappingNode [("name", textNode "docs")]),
  ("apiVersion", textNode "agentfleet.dev/v1alpha1"), ("kind", textNode "VerificationSkill"),
  ("appliesToPaths", textsNode ["docs"]), ("requiredCommandIds", textsNode ["lint"])]

/-- The document of a text, which its first letter tells from the others. -/
def sampleDocument? (text : String) : Option (YamlNode JsonValue) :=
  match (utf8 text).head? with
  | some 107 => some sampleFleetNode
  | some 115 => some sampleWorkflowNode
  | some 99 => some sampleProfileNode
  | some 109 => some sampleSkillNode
  | _ => none

mutual

/-- The tokens of a node. -/
def sampleTokens : YamlNode JsonValue → List YamlToken
  | .leaf _ => [.other]
  | .sequence items => .collectionStart :: sampleItemTokens items ++ [.collectionEnd]
  | .mapping entries => .collectionStart :: sampleEntryTokens entries ++ [.collectionEnd]

/-- The tokens of the items of a sequence. -/
def sampleItemTokens : List (YamlNode JsonValue) → List YamlToken
  | [] => []
  | item :: items => .other :: sampleTokens item ++ sampleItemTokens items

/-- The tokens of the entries of a mapping. -/
def sampleEntryTokens : List (YamlNode JsonValue × YamlNode JsonValue) → List YamlToken
  | [] => []
  | (key, value) :: entries =>
      .other :: sampleTokens key ++ .other :: sampleTokens value ++ sampleEntryTokens entries

end

/-- The value of a key. -/
def valueAt (entries : List (String × YamlValue JsonValue)) (key : String) : YamlValue JsonValue :=
  ((Keyed.get? Prod.fst entries key).map Prod.snd).getD (.scalar .null)

/-- A text. -/
def asText : YamlValue JsonValue → String
  | .str text => text
  | _ => ""

/-- A number. -/
def asNumber : YamlValue JsonValue → ℕ
  | .scalar (.int value) => value.toNat
  | _ => 0

/-- The texts of a list. -/
def asTexts : YamlValue JsonValue → List String
  | .list items => items.map asText
  | _ => []

/-- The entries of a mapping. -/
def asEntries : YamlValue JsonValue → List (String × YamlValue JsonValue)
  | .dict entries => entries
  | _ => []

/-- A mapping of records. -/
def asMapping {α : Type} (record : List (String × YamlValue JsonValue) → α)
    (value : YamlValue JsonValue) : Mapping α :=
  .ofEntries ((asEntries value).map fun entry => (entry.1, record (asEntries entry.2)))

/-- The name of the metadata. -/
def nameOf (entries : List (String × YamlValue JsonValue)) : String :=
  asText (valueAt (asEntries (valueAt entries "metadata")) "name")

def sampleFleetSpec (entries : List (String × YamlValue JsonValue)) : FleetSpec Unit :=
  let body := asEntries (valueAt entries "spec")
  let project := asEntries (valueAt body "project")
  { name := nameOf entries
    settings := ()
    agents := asMapping (fun agent =>
      { role := asText (valueAt agent "role")
        lifecycle := .persistent
        instructions := asText (valueAt agent "instructions")
        allowedTools := asTexts (valueAt agent "allowedTools")
        maxSteps := asNumber (valueAt agent "maxSteps") }) (valueAt body "agents")
    workflows := asMapping (fun workflow =>
      { definition := asText (valueAt workflow "definition")
        maxRepairIterations := asNumber (valueAt workflow "maxRepairIterations") })
      (valueAt body "workflows")
    project :=
      { charter := asText (valueAt project "charter")
        architecture := asText (valueAt project "architecture")
        verification := asText (valueAt project "verification") }
    requestedPermissions := [] }

def sampleWorkflow (entries : List (String × YamlValue JsonValue)) : WorkflowDefinition where
  name := nameOf entries
  stages := asTexts (valueAt entries "stages")
  maxRepairIterations :=
    asNumber (valueAt (asEntries (valueAt entries "limits")) "maxRepairIterations")
  verificationSkills := asTexts (valueAt entries "verificationSkills")

def sampleProfile (entries : List (String × YamlValue JsonValue)) : VerificationProfile where
  commands := asMapping (fun command =>
    { executable := asText (valueAt command "executable")
      argv := asTexts (valueAt command "argv")
      cwd := asText (valueAt command "cwd")
      timeoutSeconds := asNumber (valueAt command "timeoutSeconds") }) (valueAt entries "commands")
  requiredForCodeChange := asTexts (valueAt entries "requiredForCodeChange")

def sampleSkill (entries : List (String × YamlValue JsonValue)) : VerificationSkill where
  name := nameOf entries
  appliesToPaths := asTexts (valueAt entries "appliesToPaths")
  requiredCommandIds := asTexts (valueAt entries "requiredCommandIds")

/-- A reader whose records need no text of an error. -/
def sampleReader {Raw : Type} (record : List (String × YamlValue JsonValue) → Raw) :
    ModelReader JsonValue Raw where
  fields entries := .ok (record entries)
  refusal _ := ""

/-- The digests of the files. -/
def sampleHash (content : Bytes) : Sha256 :=
  if content.length = 567 then
    ⟨"48708c137e3d487783bc4e5f5e233543d32f1e950e93dbcbaae3b1e32adaeb48",
      by simp [isHexDigit]⟩
  else if content.length = 260 then
    ⟨"98fccd2bc2feb6a6738b3c79f2f5335bab8d11413b7f77f52132bd65bc5a81d0",
      by simp [isHexDigit]⟩
  else if content.length = 206 then
    ⟨"30e8540e4b529b3a9b50997f057be3ea83ee1de29b7c36188b7cc242e08e9dd3",
      by simp [isHexDigit]⟩
  else if content.length = 133 then
    ⟨"75c940bd0803ab0ed6549ed5e501ad9925c37e41b3779e047e1752f3d5c0de4e",
      by simp [isHexDigit]⟩
  else
    ⟨"2e8faaa5c331ce0718e04ada7cce3feaa5b675d2f44bbaf0a56b809a136f7563",
      by simp [isHexDigit]⟩

def sampleYaml : YamlConfiguration JsonValue Unit where
  casefold := lowerCasefold.fold
  forms := []
  hash := sampleHash
  scan text :=
    match sampleDocument? text with
    | some node => (.other :: sampleTokens node ++ [.other], false)
    | none => ([], true)
  compose text := (sampleDocument? text).map some
  fleetSpec := sampleReader sampleFleetSpec
  verificationProfile := sampleReader sampleProfile
  workflowDefinition := sampleReader sampleWorkflow
  verificationSkill := sampleReader sampleSkill
  roleCatalog := sampleReader fun _ => ⟨.ofEntries []⟩
  dumpSettings _ :=
    [("runtime", .obj [("adapter", .str "fake"), ("provider_model", .null),
        ("required_capabilities", .arr [.str "structured_output", .str "tool_calling"])]),
      ("sandbox", .obj [("provider", .str "fake"), ("network_mode", .str "none")])]

theorem sampleFiles_accepted : FilesAccepted sampleYaml sampleFiles := by
  refine .of_bytes (by decide) ?_ ?_ ?_ ?_ ?_ ?_
  · decide
  · decide +kernel
  · decide +kernel
  · exact fun _ _ => ⟨rfl, rfl⟩
  · have hset : (validateReferenceSet lowerCasefold.fold sampleFiles.keys).toOption = some () := by
      decide
    cases hok : validateReferenceSet lowerCasefold.fold sampleFiles.keys with
    | error =>
        rw [hok] at hset
        cases hset
    | ok => exact validateReferenceSet_ok.mp hok
  · decide

/-- What the configuration is read into. -/
theorem snapshotFromFleetFiles_sampleFiles : ∃ spec snapshot,
    snapshotFromFleetFiles sampleYaml sampleFiles = .ok (spec, snapshot)
      ∧ spec.workflows.keys = ["code-change"] := by
  have hclosure : ((readClosure sampleYaml (readFile sampleFiles) false).run {}).toOption.map
      (fun result => result.1.workflows.keys) = some ["code-change"] := by
    decide +kernel
  cases hrun : (readClosure sampleYaml (readFile sampleFiles) false).run {} with
  | error =>
      rw [hrun] at hclosure
      cases hclosure
  | ok result =>
      obtain ⟨snapshot, hsnapshot⟩ := exists_snapshotOf sampleFiles_accepted hrun
      have hroles : decide (roleCatalogPath ∈ sampleFiles.keys) = false := by decide
      rw [hrun] at hclosure
      refine ⟨result.1, snapshot, snapshotFromFleetFiles_ok.mpr ⟨sampleFiles_accepted, ?_⟩,
        Option.some.inj hclosure⟩
      rw [hroles]
      exact snapshotFromReader_ok.mpr ⟨result.2, hrun, hsnapshot⟩

theorem snapshotFromFleetFiles_fixpoint_sample :
    ∃ spec snapshot, snapshotFromFleetFiles sampleYaml sampleFiles = .ok (spec, snapshot)
      ∧ snapshotFromFleetFiles sampleYaml (snapshotFiles snapshot) = .ok (spec, snapshot) := by
  obtain ⟨spec, snapshot, hsample, -⟩ := snapshotFromFleetFiles_sampleFiles
  exact ⟨spec, snapshot, hsample, (snapshotFromFleetFiles_fixpoint hsample).1⟩

end Sample

end AgentFleet.Configuration
