import AgentFleet.Domain.OrganizationTree
import AgentFleet.Lib.Checks

/-! # Fleet patches

A fleet patch adds, replaces and removes files of an organization.  `FleetPatch.Valid` gathers the
validators of the patch and of its changes; `validateFleetPatch` bounds its text and checks that no
two changes are about one path or about a path and one below it, whatever the case of their letters
(`validateFleetPatch_ok`). -/

namespace AgentFleet

open Checks

/-- `FleetPatchOperation`. -/
inductive FleetPatchOperation where
  | add
  | replace
  | remove
deriving DecidableEq

/-- `FleetPatchOperation.value`. -/
def FleetPatchOperation.value : FleetPatchOperation → String
  | .add => "add"
  | .replace => "replace"
  | .remove => "remove"

/-- `FleetPatchFileChange`. -/
structure FleetPatchFileChange where
  operation : FleetPatchOperation
  path : String
  beforeSha256 : Option Sha256 := none
  afterSha256 : Option Sha256 := none
  content : Option String := none
deriving DecidableEq

/-- `FleetPatch`. -/
structure FleetPatch where
  fleetPatchId : String
  projectId : String
  baseFleetSpecSha256 : Sha256
  changes : List FleetPatchFileChange
  rationale : String
  rollbackOf : Option String := none
deriving DecidableEq

/-! ### The validators -/

/-- `FleetPatchPath` and `validate_path`. -/
def IsFleetPatchPath (value : String) : Prop :=
  let path := PurePosixPath.parse value
  (8 ≤ value.length ∧ value.length ≤ 4096) ∧ textStartsWith value ".fleet/" = true
    ∧ (∀ character ∈ value.toList, ¬ (character.toNat < 32 ∨ character.toNat = 127))
    ∧ ¬ path.isAbsolute ∧ '\\' ∉ value.toList ∧ ".." ∉ path.parts
    ∧ path.parts.head? = some ".fleet" ∧ path.str = value
deriving Decidable

section

variable (hash : Bytes → Sha256)

/-- `_require_content_hash`. -/
def FleetPatchFileChange.HasContent (change : FleetPatchFileChange) : Prop :=
  ∃ content ∈ change.content, change.afterSha256 = some (hash (utf8 content))

/-- `validate_operation_content`. -/
def FleetPatchFileChange.OperationContent (change : FleetPatchFileChange) : Prop :=
  match change.operation with
  | .add => change.beforeSha256 = none ∧ change.HasContent hash
  | .replace => change.beforeSha256 ≠ none ∧ change.HasContent hash
  | .remove => change.beforeSha256 ≠ none ∧ change.afterSha256 = none ∧ change.content = none

/-- The validators of a change, with the bounds of its fields. -/
def FleetPatchFileChange.Valid (change : FleetPatchFileChange) : Prop :=
  IsFleetPatchPath change.path ∧ (∀ content ∈ change.content, content.length ≤ 1000000)
    ∧ change.OperationContent hash

/-- The fields of a patch and of its changes. -/
def FleetPatch.Valid (patch : FleetPatch) : Prop :=
  hasIdentity "fpatch" 32 patch.fleetPatchId = true ∧ isProjectId patch.projectId = true
    ∧ (1 ≤ patch.changes.length ∧ patch.changes.length ≤ 128)
    ∧ (∀ change ∈ patch.changes, change.Valid hash)
    ∧ (1 ≤ patch.rationale.length ∧ patch.rationale.length ≤ 4096)
    ∧ ∀ rollbackOf ∈ patch.rollbackOf, hasIdentity "fpatch" 32 rollbackOf = true

instance (change : FleetPatchFileChange) : Decidable (change.HasContent hash) :=
  match h : change.content with
  | none => isFalse fun ⟨_, hcontent, _⟩ => by
      rw [h] at hcontent
      cases hcontent
  | some content =>
      decidable_of_iff (change.afterSha256 = some (hash (utf8 content))) <| by
        unfold FleetPatchFileChange.HasContent
        rw [h]
        exact ⟨fun hhash => ⟨content, rfl, hhash⟩, fun ⟨_, hcontent, hhash⟩ => by
          cases hcontent
          exact hhash⟩

instance (change : FleetPatchFileChange) : Decidable (change.OperationContent hash) := by
  unfold FleetPatchFileChange.OperationContent
  cases change.operation <;> infer_instance

instance (change : FleetPatchFileChange) : Decidable (change.Valid hash) :=
  inferInstanceAs (Decidable (_ ∧ _))

instance (patch : FleetPatch) : Decidable (patch.Valid hash) :=
  inferInstanceAs (Decidable (_ ∧ _))

end

/-! ### The proposal's scope -/

/-- `_invalid`. -/
def invalidFleetPatch (message : String) : FleetError where
  code := .configInvalid
  message := message
  remediation := "Create a new patch against the current FleetSpec using only reviewable " ++
    "organization files."

/-- The bytes of a text that may be missing. -/
def optionalBytes (text : Option String) : ℕ := (text.map String.utf8ByteSize).getD 0

/-- The bytes of the keys and the texts of a change. -/
def FleetPatchFileChange.payloadBytes (change : FleetPatchFileChange) : ℕ :=
  ("operation" ++ "path" ++ "before_sha256" ++ "after_sha256" ++ "content").utf8ByteSize
    + change.operation.value.utf8ByteSize + change.path.utf8ByteSize
    + optionalBytes (change.beforeSha256.map Sha256.hex)
    + optionalBytes (change.afterSha256.map Sha256.hex) + optionalBytes change.content

/-- The bytes that `_is_builtin_json_value` counts in the typed payload; its nodes and its depth are
far below their bounds. -/
def FleetPatch.payloadBytes (patch : FleetPatch) : ℕ :=
  ("api_version" ++ "kind" ++ "fleet_patch_id" ++ "project_id" ++ "base_fleet_spec_sha256"
      ++ "changes" ++ "rationale" ++ "rollback_of").utf8ByteSize
    + ("agentfleet.dev/v1alpha1" ++ "FleetPatch").utf8ByteSize + patch.fleetPatchId.utf8ByteSize
    + patch.projectId.utf8ByteSize + patch.baseFleetSpecSha256.hex.utf8ByteSize
    + (patch.changes.map FleetPatchFileChange.payloadBytes).sum + patch.rationale.utf8ByteSize
    + optionalBytes patch.rollbackOf

/-- `_SKILL_FILENAME.fullmatch(name)`. -/
def isSkillFilename (name : String) : Bool :=
  match textBefore? name ".yaml" with
  | none => false
  | some stem =>
      match stem.toList with
      | [] => false
      | first :: rest =>
          (first.isAlphanum && rest.length ≤ 99)
            && rest.all fun character => character.isAlphanum || character ∈ ['.', '_', '-']

/-- `_is_allowed_organization_path`. -/
def isAllowedOrganizationPath (value : String) : Bool :=
  match (PurePosixPath.parse value).parts.drop 1 with
  | [] => false
  | first :: rest =>
      if first = "agents" ∨ first = "workflows" then rest ≠ []
      else if first = "skills" then
        match rest with
        | [name] => isSkillFilename name
        | _ => false
      else
        "/".intercalate (first :: rest) ∈ ["project/charter.md", "project/architecture.md",
          "project/verification.yaml", "README.md"]

variable (casefold : Casefold)

/-- `folded_path`. -/
def FleetPatchFileChange.foldedPath (change : FleetPatchFileChange) : List String :=
  (PurePosixPath.parse change.path).parts.map casefold.fold

/-- One change, after the paths that were `seen`. -/
def validateChange (seen : List (List String)) (change : FleetPatchFileChange) :
    Except FleetError (List (List String)) := do
  let foldedPath := change.foldedPath casefold
  refuse (foldedPath ∈ seen) (invalidFleetPatch "FleetPatch changes path more than once.")
  refuse (∃ prior ∈ seen, startsWith foldedPath prior ∨ startsWith prior foldedPath)
    (invalidFleetPatch "FleetPatch change paths contain an ancestor collision.")
  refuse (isAllowedOrganizationPath change.path = false)
    (invalidFleetPatch "FleetPatch targets a protected path.")
  return foldedPath :: seen

/-- `validate_fleet_patch`, without secrets. -/
def validateFleetPatch (hash : Bytes → Sha256) (patch : FleetPatch)
    (currentFleetSpecSha256 : Sha256) : Except FleetError Unit := do
  refuse (4000000 < patch.payloadBytes)
    (invalidFleetPatch "FleetPatch input must be a bounded plain JSON object.")
  refuse (¬ patch.Valid hash)
    (invalidFleetPatch "FleetPatch does not match the required schema.")
  refuse (patch.baseFleetSpecSha256 ≠ currentFleetSpecSha256)
    (invalidFleetPatch "FleetPatch base hash does not match the current FleetSpec.")
  let _ ← patch.changes.foldlM (validateChange casefold) []

/-! ### What is accepted -/

variable {casefold} {hash : Bytes → Sha256} {patch : FleetPatch} {current : Sha256}
  {changes : List FleetPatchFileChange} {seen : List (List String)}

/-- Two changes are about paths that lie apart. -/
def FleetPatchFileChange.Apart (casefold : Casefold) (a b : FleetPatchFileChange) : Prop :=
  ¬ a.foldedPath casefold <+: b.foldedPath casefold
    ∧ ¬ b.foldedPath casefold <+: a.foldedPath casefold

theorem FleetPatchFileChange.Apart.symm {a b : FleetPatchFileChange} (h : a.Apart casefold b) :
    b.Apart casefold a := ⟨h.2, h.1⟩

theorem validateChange_ok {change : FleetPatchFileChange} {after : List (List String)} :
    validateChange casefold seen change = .ok after
      ↔ (∀ prior ∈ seen, ¬ prior <+: change.foldedPath casefold
          ∧ ¬ change.foldedPath casefold <+: prior)
        ∧ isAllowedOrganizationPath change.path = true
        ∧ after = change.foldedPath casefold :: seen := by
  unfold validateChange
  simp only [bind_ok, refuse_ok, return_ok, startsWith_iff, not_exists, not_and, not_or,
    Bool.not_eq_false, exists_const]
  constructor
  · rintro ⟨-, hapart, hallowed, rfl⟩
    exact ⟨hapart, hallowed, rfl⟩
  · rintro ⟨hapart, hallowed, rfl⟩
    exact ⟨fun hmem => (hapart _ hmem).1 (List.prefix_refl _), hapart, hallowed, rfl⟩

theorem foldlM_validateChange_ok :
    (∃ after, changes.foldlM (validateChange casefold) seen = .ok after)
      ↔ (∀ change ∈ changes, (∀ prior ∈ seen, ¬ prior <+: change.foldedPath casefold
          ∧ ¬ change.foldedPath casefold <+: prior)
          ∧ isAllowedOrganizationPath change.path = true)
        ∧ changes.Pairwise (FleetPatchFileChange.Apart casefold) := by
  induction changes generalizing seen with
  | nil =>
      refine iff_of_true ⟨seen, rfl⟩ ⟨fun change hmem => ?_, .nil⟩
      exact absurd hmem List.not_mem_nil
  | cons change changes ih =>
      rw [List.foldlM_cons, List.forall_mem_cons, List.pairwise_cons]
      constructor
      · rintro ⟨after, h⟩
        obtain ⟨middle, hchange, hrest⟩ := bind_ok.mp h
        obtain ⟨hapart, hallowed, rfl⟩ := validateChange_ok.mp hchange
        obtain ⟨hall, hpairwise⟩ := ih.mp ⟨after, hrest⟩
        refine ⟨⟨⟨hapart, hallowed⟩, fun other hmem => ?_⟩, fun other hmem => ?_, hpairwise⟩
        · exact ⟨fun prior hprior => (hall other hmem).1 prior (List.mem_cons_of_mem _ hprior),
            (hall other hmem).2⟩
        · exact (hall other hmem).1 _ List.mem_cons_self
      · rintro ⟨⟨⟨hapart, hallowed⟩, hall⟩, hfirst, hpairwise⟩
        have hrest := (@ih (change.foldedPath casefold :: seen)).mpr
          ⟨fun other hmem => ⟨fun prior hprior => ?_, (hall other hmem).2⟩, hpairwise⟩
        · obtain ⟨after, hafter⟩ := hrest
          exact ⟨after, bind_ok.mpr ⟨_, validateChange_ok.mpr ⟨hapart, hallowed, rfl⟩, hafter⟩⟩
        · rcases List.mem_cons.mp hprior with rfl | hprior
          · exact hfirst other hmem
          · exact (hall other hmem).1 prior hprior

/-- Which patches are accepted. -/
theorem validateFleetPatch_ok :
    validateFleetPatch casefold hash patch current = .ok ()
      ↔ patch.payloadBytes ≤ 4000000 ∧ patch.Valid hash ∧ patch.baseFleetSpecSha256 = current
        ∧ (∀ change ∈ patch.changes, isAllowedOrganizationPath change.path = true)
        ∧ patch.changes.Pairwise (FleetPatchFileChange.Apart casefold) := by
  have hscope : (∃ after, patch.changes.foldlM (validateChange casefold) [] = .ok after)
      ↔ (∀ change ∈ patch.changes, isAllowedOrganizationPath change.path = true)
        ∧ patch.changes.Pairwise (FleetPatchFileChange.Apart casefold) := by
    rw [foldlM_validateChange_ok]
    simp
  unfold validateFleetPatch
  rw [refuse_bind_ok, refuse_bind_ok, refuse_bind_ok, not_lt, not_not, not_not, bind_ok]
  refine and_congr_right fun _ => and_congr_right fun _ => and_congr_right fun _ => ?_
  rw [← hscope]
  exact ⟨fun ⟨after, h, _⟩ => ⟨after, h⟩, fun ⟨after, h⟩ => ⟨after, h, rfl⟩⟩

end AgentFleet
