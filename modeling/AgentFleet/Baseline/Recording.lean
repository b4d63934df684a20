import AgentFleet.Baseline.Output
import AgentFleet.Domain.BaselineSource
import AgentFleet.Lib.Checks
import AgentFleet.Persistence.Machine

/-! # Recording a baseline command

`execute_baseline` builds a `BaselineCommandObservation` from the reviewed identities of a command,
what its sandbox returned and the texts that `_baseline_output` keeps of its streams.  The bound on
the bytes of both texts is checked before they are escaped for JSON, the bound on the record after.

`recordObservation_iff` says which records are accepted: of all the checks only the bound on the
canonical bytes can fail, and the bytes of a text are counted there with one more for each
character that JSON escapes. -/

namespace AgentFleet

open JsonValue

/-! ### The bytes of a document -/

namespace JsonValue

/-- The bytes of an entry, with the comma after it. -/
def entryBytes (entry : String × JsonValue) : ℕ :=
  escapedBytes entry.1 + 4 + bytesOf entry.2.chars

theorem bytesOf_fieldChars (entry : String × JsonValue) (rest : JsonObject) :
    bytesOf (fieldChars (entry :: rest)) + 1 = ((entry :: rest).map entryBytes).sum := by
  induction rest generalizing entry with
  | nil =>
      rw [bytesOf_lastField]
      simp [entryBytes]
      omega
  | cons next rest ih =>
      have hrest := ih next
      rw [bytesOf_nextField, List.map_cons, List.sum_cons, entryBytes]
      omega

/-- An object of entries has their bytes, two braces, and a comma less. -/
theorem bytesOf_obj (entry : String × JsonValue) (rest : JsonObject) :
    bytesOf (JsonValue.obj (entry :: rest)).chars = ((entry :: rest).map entryBytes).sum + 1 := by
  have hopen : (Char.ofNat 123).utf8Size = 1 := rfl
  have hclose : (Char.ofNat 125).utf8Size = 1 := rfl
  have hfields := bytesOf_fieldChars entry rest
  rw [chars, bytesOf_append, bytesOf_cons, hopen, bytesOf_cons, hclose, bytesOf_nil]
  omega

theorem perm_setField {key : String} {value : JsonValue} {fields : JsonObject}
    (h : key ∉ fields.map Prod.fst) : (setField key value fields).Perm ((key, value) :: fields) := by
  induction fields with
  | nil => exact .refl _
  | cons entry rest ih =>
      rw [List.map_cons, List.mem_cons, not_or] at h
      rw [setField, if_neg h.1]
      split_ifs
      · exact .refl _
      · exact ((ih h.2).cons entry).trans (.swap _ _ _)

/-- Sorting an object puts its entries, sorted themselves, into another order. -/
theorem perm_sortedFields {fields : JsonObject} (h : (fields.map Prod.fst).Nodup) :
    (sortedFields fields).Perm (fields.map fun entry => (entry.1, sorted entry.2)) := by
  induction fields with
  | nil => exact .refl _
  | cons entry rest ih =>
      obtain ⟨key, value⟩ := entry
      rw [List.map_cons, List.nodup_cons] at h
      have hrest := ih h.2
      have hfresh : key ∉ (sortedFields rest).map Prod.fst := by
        intro hmem
        have hkeys := (hrest.map Prod.fst).mem_iff.mp hmem
        rw [List.map_map] at hkeys
        exact h.1 hkeys
      rw [sortedFields, List.map_cons]
      exact (perm_setField hfresh).trans (hrest.cons _)

/-- The bytes of a sorted object do not depend on the order of its entries. -/
theorem bytesOf_sorted_obj (entry : String × JsonValue) (rest : JsonObject)
    (h : ((entry :: rest).map Prod.fst).Nodup) :
    bytesOf (sorted (.obj (entry :: rest))).chars
      = ((entry :: rest).map fun field => entryBytes (field.1, sorted field.2)).sum + 1 := by
  have hperm := perm_sortedFields h
  rw [sorted]
  cases hfields : sortedFields (entry :: rest) with
  | nil =>
      rw [hfields] at hperm
      exact absurd (hperm.length_eq.trans (List.length_map _)) (Nat.succ_ne_zero _).symm
  | cons =>
      rw [hfields] at hperm
      have hsum := (hperm.map entryBytes).sum_eq
      rw [List.map_map] at hsum
      rw [bytesOf_obj, hsum]
      rfl

mutual

/-- The bytes of a document without its commas, where nothing is escaped. -/
def plainBytes : JsonValue → ℕ
  | .str text => text.utf8ByteSize + 2
  | .arr items => itemsPlainBytes items + 2
  | .obj fields => fieldsPlainBytes fields + 2
  | _ => 0

def itemsPlainBytes : List JsonValue → ℕ
  | [] => 0
  | item :: rest => plainBytes item + itemsPlainBytes rest

def fieldsPlainBytes : JsonObject → ℕ
  | [] => 0
  | (key, value) :: rest => key.utf8ByteSize + 3 + plainBytes value + fieldsPlainBytes rest

end

/-- Escapes only add to the bytes of a text. -/
theorem utf8ByteSize_le_escapedBytes (text : String) : text.utf8ByteSize ≤ escapedBytes text := by
  have hbytes : text.utf8ByteSize = bytesOf text.toList := by
    rw [← length_utf8_ofList, String.ofList_toList, length_utf8]
  have hcharacter (character : Char) : character.utf8Size ≤ bytesOf (escapedChar character) := by
    have hbackslash : (Char.ofNat 92).utf8Size = 1 := rfl
    by_cases hcontrol : character.toNat < 32
    · have hsize : character.utf8Size = 1 := by
        rw [Char.utf8Size_eq_one_iff, UInt32.le_iff_toNat_le]
        exact (show character.toNat ≤ 127 by omega)
      unfold escapedChar
      dsimp only
      split_ifs
      all_goals
        simp only [bytesOf_cons, bytesOf_nil, hbackslash, hsize]
        omega
    · by_cases hquoted : character = '"' ∨ character = '\\'
      · rcases hquoted with rfl | rfl
        · decide
        · decide
      · rw [not_or] at hquoted
        rw [escapedChar_plain (not_lt.mp hcontrol) hquoted.1 hquoted.2, bytesOf_cons, bytesOf_nil]
        omega
  rw [hbytes]
  unfold escapedBytes
  generalize text.toList = characters
  induction characters with
  | nil => exact Nat.zero_le _
  | cons character rest ih =>
      rw [bytesOf_cons, List.flatMap_cons, bytesOf_append]
      exact Nat.add_le_add (hcharacter character) ih

mutual

/-- No object of the document has a key twice. -/
def distinct : JsonValue → Bool
  | .arr items => itemsDistinct items
  | .obj fields => decide (fields.map Prod.fst).Nodup && fieldsDistinct fields
  | _ => true

def itemsDistinct : List JsonValue → Bool
  | [] => true
  | item :: rest => distinct item && itemsDistinct rest

def fieldsDistinct : JsonObject → Bool
  | [] => true
  | (_, value) :: rest => distinct value && fieldsDistinct rest

end

mutual

/-- However a document is sorted and escaped, it has its plain bytes. -/
theorem plainBytes_le (value : JsonValue) (h : value.distinct = true) :
    value.plainBytes ≤ bytesOf (sorted value).chars := by
  match value with
  | .null => exact Nat.zero_le _
  | .bool _ => exact Nat.zero_le _
  | .int _ => exact Nat.zero_le _
  | .float _ => exact Nat.zero_le _
  | .str text =>
      rw [sorted, chars, bytesOf_quotedChars, plainBytes]
      · exact Nat.add_le_add_right (utf8ByteSize_le_escapedBytes text) 2
      · rintro _ ⟨⟩
      · rintro _ ⟨⟩
  | .arr items =>
      have hbracket : '['.utf8Size = 1 := rfl
      have hbracket' : ']'.utf8Size = 1 := rfl
      have hitems := itemsPlainBytes_le items h
      rw [sorted, chars, plainBytes, bytesOf_append, bytesOf_cons, bytesOf_cons, bytesOf_nil,
        hbracket, hbracket']
      omega
  | .obj [] => decide
  | .obj (entry :: rest) =>
      rw [distinct, Bool.and_eq_true, decide_eq_true_eq] at h
      have hfields := fieldsPlainBytes_le (entry :: rest) h.2
      rw [bytesOf_sorted_obj _ _ h.1, plainBytes]
      rw [List.length_cons] at hfields
      omega

theorem itemsPlainBytes_le (items : List JsonValue) (h : itemsDistinct items = true) :
    itemsPlainBytes items ≤ bytesOf (itemChars (sortedItems items)) := by
  match items with
  | [] => exact Nat.zero_le _
  | [item] =>
      rw [itemsDistinct, Bool.and_eq_true] at h
      rw [itemsPlainBytes, itemsPlainBytes, sortedItems, sortedItems, itemChars, Nat.add_zero]
      exact plainBytes_le item h.1
  | item :: next :: rest =>
      rw [itemsDistinct, Bool.and_eq_true] at h
      have hitem := plainBytes_le item h.1
      have hrest := itemsPlainBytes_le (next :: rest) h.2
      rw [sortedItems] at hrest
      rw [itemsPlainBytes, sortedItems, sortedItems, itemChars, bytesOf_append, bytesOf_cons]
      · omega
      · exact List.cons_ne_nil _ _

theorem fieldsPlainBytes_le (fields : JsonObject) (h : fieldsDistinct fields = true) :
    fieldsPlainBytes fields + fields.length
      ≤ (fields.map fun field => entryBytes (field.1, sorted field.2)).sum := by
  match fields with
  | [] => exact Nat.zero_le _
  | (key, value) :: rest =>
      rw [fieldsDistinct, Bool.and_eq_true] at h
      have hkey := utf8ByteSize_le_escapedBytes key
      have hvalue := plainBytes_le value h.1
      have hrest := fieldsPlainBytes_le rest h.2
      rw [fieldsPlainBytes, List.map_cons, List.sum_cons, entryBytes, List.length_cons]
      dsimp only
      omega

end

theorem fieldsPlainBytes_eq (fields : JsonObject) :
    fieldsPlainBytes fields = ((fields.map Prod.fst).map String.utf8ByteSize).sum
      + (fields.map fun field => field.2.plainBytes + 3).sum := by
  induction fields with
  | nil => rfl
  | cons field rest ih =>
      obtain ⟨key, value⟩ := field
      rw [fieldsPlainBytes, ih]
      simp only [List.map_cons, List.sum_cons]
      omega

/-- The characters that JSON escapes with one more. -/
def isEscaped (character : Char) : Bool :=
  character = '"' ∨ character = '\\' ∨ character = '\n' ∨ character = '\t'

theorem bytesOf_escapedChar {character : Char}
    (h : character.toNat < 32 → character = '\n' ∨ character = '\t') :
    bytesOf (escapedChar character)
      = character.utf8Size + if isEscaped character = true then 1 else 0 := by
  by_cases hescaped : isEscaped character = true
  · rw [if_pos hescaped]
    rcases of_decide_eq_true hescaped with rfl | rfl | rfl | rfl
    · rfl
    · rfl
    · rfl
    · rfl
  · rw [if_neg hescaped]
    have hplain := of_decide_eq_false (Bool.not_eq_true _ ▸ hescaped)
    simp only [not_or] at hplain
    obtain ⟨hquote, hbackslash, hfeed, htab⟩ := hplain
    have hprintable : 32 ≤ character.toNat := by
      by_contra hcontrol
      rcases h (not_le.mp hcontrol) with hsame | hsame
      · exact hfeed hsame
      · exact htab hsame
    rw [escapedChar_plain hprintable hquote hbackslash, bytesOf_cons, bytesOf_nil]

/-- A text without other control characters has one byte more for each character that is escaped. -/
theorem escapedBytes_eq {text : String}
    (h : ∀ character ∈ text.toList, character.toNat < 32 → character = '\n' ∨ character = '\t') :
    escapedBytes text = bytesOf text.toList + text.toList.countP isEscaped := by
  unfold escapedBytes
  generalize text.toList = characters at h ⊢
  induction characters with
  | nil => rfl
  | cons character rest ih =>
      rw [List.forall_mem_cons] at h
      rw [List.flatMap_cons, bytesOf_append, bytesOf_escapedChar h.1, ih h.2, bytesOf_cons,
        List.countP_cons]
      omega

end JsonValue

/-! ### The documents of the records -/

/-- The members of `SnapshotTag`. -/
def SnapshotTag.value : SnapshotTag → String
  | .commandV1 => "command-v1"
  | .sandboxSpecV1 => "sandbox-spec-v1"
  | .sandboxPolicyV1 => "sandbox-policy-v1"
  | .sandboxInspectionV1 => "sandbox-inspection-v1"
  | .capabilitiesV1 => "capabilities-v1"
  | .configurationV1 => "configuration-v1"
  | .requirementsV1 => "requirements-v1"
  | .sourceManifestV1 => "source-manifest-v1"
  | .nativeHandleV1 => "native-handle-v1"
  | .cleanupV1 => "cleanup-v1"

/-- `model_dump(mode="json", by_alias=True)` of a snapshot. -/
def BaselineCanonicalSnapshot.dump (snapshot : BaselineCanonicalSnapshot) : JsonValue :=
  .obj [("schema_tag", .str snapshot.schemaTag.value),
    ("canonical_json", .str snapshot.canonicalUtf8), ("sha256", .str snapshot.sha256.hex)]

def BaselineResourceOwner.dump (owner : BaselineResourceOwner) : JsonValue :=
  .obj [("baseline_id", .str owner.baselineId), ("project_id", .str owner.projectId),
    ("review_sha256", .str owner.reviewSha256.hex)]

def BaselineExecutionHandle.dump (handle : BaselineExecutionHandle) : JsonValue :=
  .obj [("owner", handle.owner.dump), ("claim_id", .str handle.claimId),
    ("execution_id", .str handle.executionId), ("sandbox_id", .str handle.sandboxId),
    ("provider", .str "docker"), ("native_resource_id", .str handle.nativeResourceId),
    ("labels", .arr (handle.labels.map fun label => .arr [.str label.1, .str label.2])),
    ("labels_sha256", .str handle.labelsSha256.hex)]

def BaselineSandboxInspection.dump (inspection : BaselineSandboxInspection) : JsonValue :=
  .obj [("owner", inspection.owner.dump), ("sandbox_id", .str inspection.sandboxId),
    ("execution_id", .str inspection.executionId),
    ("native_resource_id", .str inspection.nativeResourceId),
    ("legacy_control_inspection", inspection.legacyControlInspection.dump),
    ("mount_policy", .str "baseline-readonly-v1"), ("workspace_read_only", .bool true),
    ("tmp_scratch_mb", .int inspection.tmpScratchMb),
    ("cache_scratch_mb", .int inspection.cacheScratchMb),
    ("shm_scratch_mb", .int inspection.shmScratchMb),
    ("mount_inspection_sha256", .str inspection.mountInspectionSha256.hex)]

section Recording

-- the JSON text of an instant
variable (isoTimestamp : Timestamp → String)

/-- The entries of an observation. -/
def BaselineCommandObservation.fields (observation : BaselineCommandObservation) : JsonObject :=
  [("schema_version", .int 1), ("baseline_id", .str observation.baselineId),
    ("project_id", .str observation.projectId), ("review_id", .str observation.reviewId),
    ("review_sha256", .str observation.reviewSha256.hex),
    ("authorization_id", .str observation.authorizationId),
    ("claim_id", .str observation.claimId), ("execution_id", .str observation.executionId),
    ("workspace_id", .str observation.workspaceId), ("sandbox_id", .str observation.sandboxId),
    ("command_sha256", .str observation.commandSha256.hex),
    ("sandbox_policy_sha256", .str observation.sandboxPolicySha256.hex),
    ("sandbox_spec_sha256", .str observation.sandboxSpecSha256.hex),
    ("request_sha256", .str observation.requestSha256.hex),
    ("approved_source_sha256", .str observation.approvedSourceSha256.hex),
    ("materialized_source_sha256", .str observation.materializedSourceSha256.hex),
    ("post_source_sha256", .ofOption (observation.postSourceSha256.map Sha256.hex)),
    ("native_handle", observation.nativeHandle.dump), ("inspection", observation.inspection.dump),
    ("started_at", .str (isoTimestamp observation.startedAt)),
    ("completed_at", .str (isoTimestamp observation.completedAt)),
    ("exit_code", .ofOptionInt (observation.exitCode.map Int.ofNat)),
    ("timed_out", .bool observation.timedOut), ("cancelled", .bool observation.cancelled),
    ("capture_truncated", .bool observation.captureTruncated),
    ("redaction_truncated", .bool observation.redactionTruncated),
    ("decoding_replaced", .bool observation.decodingReplaced),
    ("stdout", .str observation.stdout), ("stderr", .str observation.stderr),
    ("stdout_sha256", .str observation.stdoutSha256.hex),
    ("stderr_sha256", .str observation.stderrSha256.hex)]

def BaselineCommandObservation.dump (observation : BaselineCommandObservation) : JsonValue :=
  .obj (observation.fields isoTimestamp)

/-- The models, with the documents that are written here. -/
def recordingModels (models : BaselineModels) : BaselineModels := { models with
  nativeHandle := { models.nativeHandle with dump := fun handle => (sorted handle.dump).text }
  sandboxInspection := { models.sandboxInspection with
    dump := fun inspection => (sorted inspection.dump).text }
  canonicalBytes := fun record =>
    match record with
    | .observation observation =>
        (canonical (observation.dump isoTimestamp) maxReportBytes).map List.length
    | record => models.canonicalBytes record }

/-! ### Recording -/

/-- What the observation takes from the review, the claim, the request, the workspace and the
sandbox, and the fingerprint of the workspace after the command. -/
structure ReviewedIdentities where
  baselineId : String
  projectId : String
  reviewId : String
  reviewSha256 : Sha256
  authorizationId : String
  claimId : String
  executionId : String
  workspaceId : String
  sandboxId : String
  commandSha256 : Sha256
  sandboxPolicySha256 : Sha256
  sandboxSpecSha256 : Sha256
  requestSha256 : Sha256
  approvedSourceSha256 : Sha256
  materializedSourceSha256 : Sha256
  postSourceSha256 : Option Sha256
  /-- what the validators of these records have checked -/
  valid : hasIdentity "baseline" 32 baselineId = true ∧ isProjectId projectId = true
    ∧ hasIdentity "breview" 32 reviewId = true ∧ hasIdentity "bauth" 32 authorizationId = true
    ∧ hasIdentity "bclaim" 32 claimId = true ∧ hasIdentity "bexec" 32 executionId = true
    ∧ hasIdentity "bws" 32 workspaceId = true ∧ hasIdentity "bsandbox" 32 sandboxId = true
  materialized : materializedSourceSha256 = approvedSourceSha256

/-- `BaselineExecResult`, with its `volatile_bounds`. -/
structure BaselineExecResult where
  handle : BaselineExecutionHandle
  inspection : BaselineSandboxInspection
  startedAt : Timestamp
  completedAt : Timestamp
  exitCode : Option ℕ
  timedOut : Bool
  cancelled : Bool
  outputTruncated : Bool
  stdout : Bytes
  stderr : Bytes
  exitRange : ∀ code ∈ exitCode, code ≤ 255
  captured : stdout.length + stderr.length ≤ 64000
  ordered : startedAt ≤ completedAt

/-- What stops the recording: a `FleetError`, or a `ValueError` of a record. -/
inductive RecordingFailure where
  | refused (error : FleetError)
  | value

variable (models : BaselineModels) (table : FormatTable) (registry : SecretRegistry)

/-- The observation that is built, before it is validated. -/
def observationOf (ids : ReviewedIdentities) (result : BaselineExecResult)
    (nativeHandle inspection : BaselineCanonicalSnapshot) (out : BaselineOutput) :
    BaselineCommandObservation where
  baselineId := ids.baselineId
  projectId := ids.projectId
  reviewId := ids.reviewId
  reviewSha256 := ids.reviewSha256
  authorizationId := ids.authorizationId
  claimId := ids.claimId
  executionId := ids.executionId
  workspaceId := ids.workspaceId
  sandboxId := ids.sandboxId
  commandSha256 := ids.commandSha256
  sandboxPolicySha256 := ids.sandboxPolicySha256
  sandboxSpecSha256 := ids.sandboxSpecSha256
  requestSha256 := ids.requestSha256
  approvedSourceSha256 := ids.approvedSourceSha256
  materializedSourceSha256 := ids.materializedSourceSha256
  postSourceSha256 := ids.postSourceSha256
  nativeHandle := nativeHandle
  inspection := inspection
  startedAt := result.startedAt
  completedAt := result.completedAt
  exitCode := result.exitCode
  timedOut := result.timedOut
  cancelled := result.cancelled
  captureTruncated := result.outputTruncated
  redactionTruncated := out.shortened
  decodingReplaced := out.replaced
  stdout := out.stdout
  stderr := out.stderr
  stdoutSha256 := models.sha256 out.stdout
  stderrSha256 := models.sha256 out.stderr

/-- `execute_baseline`, from the result of the sandbox to the observation. -/
def recordObservation (ids : ReviewedIdentities) (result : BaselineExecResult) :
    Except RecordingFailure BaselineCommandObservation := do
  let models := recordingModels isoTimestamp models
  let out ← (baselineOutput table registry result.stdout result.stderr).mapError .refused
  let nativeHandle ← Checks.demand .value
    (freezeSnapshot models .nativeHandleV1 models.nativeHandle result.handle)
  let inspection ← Checks.demand .value
    (freezeSnapshot models .sandboxInspectionV1 models.sandboxInspection result.inspection)
  let observation := observationOf models ids result nativeHandle inspection out
  Checks.refuse (observation.validates models = false) .value
  return observation

end Recording

/-! ### The bytes of a record -/

variable {isoTimestamp : Timestamp → String} {models : BaselineModels} {table : FormatTable}
  {registry : SecretRegistry} {ids : ReviewedIdentities} {result : BaselineExecResult}
  {observation : BaselineCommandObservation}

/-- The bytes of the canonical encoding. -/
def recordBytes (isoTimestamp : Timestamp → String) (observation : BaselineCommandObservation) : ℕ :=
  bytesOf (sorted (observation.dump isoTimestamp)).chars

def observationKeys : List String :=
  ["schema_version", "baseline_id", "project_id", "review_id", "review_sha256", "authorization_id",
    "claim_id", "execution_id", "workspace_id", "sandbox_id", "command_sha256",
    "sandbox_policy_sha256", "sandbox_spec_sha256", "request_sha256", "approved_source_sha256",
    "materialized_source_sha256", "post_source_sha256", "native_handle", "inspection", "started_at",
    "completed_at", "exit_code", "timed_out", "cancelled", "capture_truncated",
    "redaction_truncated", "decoding_replaced", "stdout", "stderr", "stdout_sha256",
    "stderr_sha256"]

theorem observationKeys_nodup : observationKeys.Nodup := by decide

theorem fields_keys (observation : BaselineCommandObservation) :
    (observation.fields isoTimestamp).map Prod.fst = observationKeys := rfl

theorem recordBytes_eq (observation : BaselineCommandObservation) :
    recordBytes isoTimestamp observation
      = ((observation.fields isoTimestamp).map fun field =>
        entryBytes (field.1, sorted field.2)).sum + 1 := by
  refine bytesOf_sorted_obj _ _ ?_
  have hkeys := @fields_keys isoTimestamp observation
  unfold BaselineCommandObservation.fields at hkeys
  rw [hkeys]
  exact observationKeys_nodup

/-- A record has the bytes of its envelope, and of its texts as they are escaped. -/
theorem recordBytes_observationOf (nativeHandle inspection : BaselineCanonicalSnapshot)
    (out : BaselineOutput) :
    recordBytes isoTimestamp (observationOf models ids result nativeHandle inspection out)
      = recordBytes isoTimestamp (observationOf models ids result nativeHandle inspection
          { out with stdout := "", stderr := "" })
        + escapedBytes out.stdout + escapedBytes out.stderr := by
  have htext (text : String) : bytesOf (sorted (JsonValue.str text)).chars = escapedBytes text + 2 :=
    bytesOf_quotedChars text
  have hempty : escapedBytes "" = 0 := rfl
  rw [recordBytes_eq, recordBytes_eq]
  simp only [BaselineCommandObservation.fields, observationOf, List.map_cons, List.map_nil,
    List.sum_cons, List.sum_nil, entryBytes, htext, hempty, Sha256.escapedBytes_hex]
  omega

/-- A record is shallow and small but for its texts. -/
theorem dump_bounds (observation : BaselineCommandObservation) :
    (observation.dump isoTimestamp).height ≤ 24 ∧ (observation.dump isoTimestamp).nodes ≤ 30000 := by
  have hsource : (ofOption (observation.postSourceSha256.map Sha256.hex)).height = 0
      ∧ (ofOption (observation.postSourceSha256.map Sha256.hex)).nodes = 1 := by
    cases observation.postSourceSha256 with
    | none | some digest => exact ⟨rfl, rfl⟩
  have hexit : (ofOptionInt (observation.exitCode.map Int.ofNat)).height = 0
      ∧ (ofOptionInt (observation.exitCode.map Int.ofNat)).nodes = 1 := by
    cases observation.exitCode with
    | none | some code => exact ⟨rfl, rfl⟩
  simp only [BaselineCommandObservation.dump, BaselineCommandObservation.fields,
    BaselineCanonicalSnapshot.dump, height, fieldsHeight, nodes, fieldsNodes, hsource, hexit]
  decide

/-- A record is within its limit when its bytes are. -/
theorem fits_iff (observation : BaselineCommandObservation) :
    (recordingModels isoTimestamp models).fits maxObservationBytes observation = true
      ↔ recordBytes isoTimestamp observation ≤ maxObservationBytes := by
  have hbytes : (utf8 (sorted (observation.dump isoTimestamp)).text).length
      = recordBytes isoTimestamp observation := length_utf8_ofList _
  obtain ⟨hheight, hnodes⟩ := @dump_bounds isoTimestamp observation
  have hfits : (recordingModels isoTimestamp models).fits maxObservationBytes observation
      = ((canonical (observation.dump isoTimestamp) maxReportBytes).map List.length).any
        fun size => size ≤ maxObservationBytes := rfl
  rw [hfits]
  constructor
  · intro h
    cases hraw : canonical (observation.dump isoTimestamp) maxReportBytes with
    | none =>
        rw [hraw] at h
        cases h
    | some =>
        rw [hraw, Option.map_some, Option.any_some, decide_eq_true_eq] at h
        obtain ⟨-, -, -, htext⟩ := canonical_eq_some_iff.mp hraw
        rw [← hbytes, ← htext]
        exact h
  · intro h
    have hlimit : maxObservationBytes ≤ maxReportBytes := by decide
    have hraw := canonical_eq_some_iff.mpr ⟨hheight, hnodes, (hbytes.trans_le h).trans hlimit, rfl⟩
    rw [hraw, Option.map_some, Option.any_some, decide_eq_true_eq]
    exact hbytes.trans_le h

/-! ### What is recorded -/

theorem freezeSnapshot_some {α : Type} {tag : SnapshotTag} {model : JsonModel α} {value : α}
    {snapshot : BaselineCanonicalSnapshot}
    (h : freezeSnapshot models tag model value = some snapshot) :
    snapshot.schemaTag = tag ∧ snapshot.validates models = true := by
  unfold freezeSnapshot at h
  obtain ⟨⟨⟩, -, h⟩ := Option.bind_eq_some_iff.mp h
  obtain ⟨⟨⟩, hvalid, h⟩ := Option.bind_eq_some_iff.mp h
  obtain rfl := Option.some.inj h
  refine ⟨rfl, ?_⟩
  by_contra hinvalid
  rw [guard, if_neg hinvalid] at hvalid
  cases hvalid

/-- What `_baseline_output` keeps may stand in a transcript. -/
theorem isTranscriptChar_of_output {character : Char}
    (h : isControlOrFormat table character = true → character = '\n' ∨ character = '\t') :
    isTranscriptChar character = true
      ∧ (character.toNat < 32 → character = '\n' ∨ character = '\t') := by
  have hcontrol (hcode : isControl character = true) : character = '\n' ∨ character = '\t' :=
    h (by rw [isControlOrFormat, hcode, Bool.true_or])
  have hlow (hcode : character.toNat < 32) : character = '\n' ∨ character = '\t' :=
    hcontrol (decide_eq_true (.inl hcode))
  refine ⟨decide_eq_true ⟨?_, fun hdelete => ?_⟩, hlow⟩
  · by_cases hcode : character.toNat < 32
    · exact .inr (hlow hcode)
    · exact .inl (not_lt.mp hcode)
  · rcases hcontrol (decide_eq_true (.inr (by omega))) with rfl | rfl
    · exact absurd hdelete (by decide)
    · exact absurd hdelete (by decide)

variable {nativeHandle inspection : BaselineCanonicalSnapshot} {out : BaselineOutput}

/-- Of all the checks of an observation only the last can fail. -/
theorem validates_observationOf
    (hout : baselineOutput table registry result.stdout result.stderr = .ok out)
    (hnative : nativeHandle.schemaTag = .nativeHandleV1
      ∧ nativeHandle.validates (recordingModels isoTimestamp models) = true)
    (hinspection : inspection.schemaTag = .sandboxInspectionV1
      ∧ inspection.validates (recordingModels isoTimestamp models) = true) :
    (observationOf (recordingModels isoTimestamp models) ids result nativeHandle inspection
        out).validates (recordingModels isoTimestamp models) = true
      ↔ recordBytes isoTimestamp (observationOf (recordingModels isoTimestamp models) ids result
        nativeHandle inspection out) ≤ maxObservationBytes := by
  obtain ⟨out', hout', hlength, -, -, hcontrol, -⟩ :=
    baselineOutput_bounded table registry result.stdout result.stderr result.captured
  obtain rfl := Except.ok.inj (hout'.symm.trans hout)
  rw [length_utf8, length_utf8] at hlength
  have htranscript : (out'.stdout ++ out'.stderr).toList.all isTranscriptChar = true := by
    rw [List.all_eq_true, String.toList_append]
    exact fun character hmem => (isTranscriptChar_of_output (hcontrol character hmem)).1
  obtain ⟨h₁, h₂, h₃, h₄, h₅, h₆, h₇, h₈⟩ := ids.valid
  have hexit : result.exitCode.all (fun exitCode => exitCode ≤ 255) = true := by
    rw [Option.all_eq_true]
    exact fun code hcode => decide_eq_true (result.exitRange code hcode)
  rw [← @fits_iff isoTimestamp models]
  unfold BaselineCommandObservation.validates
  simp only [observationOf, h₁, h₂, h₃, h₄, h₅, h₆, h₇, h₈, hexit, result.ordered,
    ids.materialized, hnative, hinspection, htranscript, maxOutputBytes, hlength, decide_true,
    beq_self_eq_true, Bool.and_true, Bool.true_and]

/-- What is shown of the first stream: what fits of its redacted and escaped text. -/
def shownStdout (table : FormatTable) (registry : SecretRegistry) (result : BaselineExecResult) :
    List Char :=
  Utf8.fitting 64000 (safeText table registry result.stdout).toList

/-- What is shown of the second stream, beside the first. -/
def shownStderr (table : FormatTable) (registry : SecretRegistry) (result : BaselineExecResult) :
    List Char :=
  Utf8.fitting (64000 - bytesOf (shownStdout table registry result))
    (safeText table registry result.stderr).toList

/-- Bytes of both streams were replaced, or left out. -/
def outputMarks (table : FormatTable) (registry : SecretRegistry) (result : BaselineExecResult) :
    BaselineOutput where
  stdout := ""
  stderr := ""
  replaced := (decodedStream result.stdout).2 || (decodedStream result.stderr).2
  shortened := decide (64000 < (utf8 (safeText table registry result.stdout)).length)
    || decide (64000 - bytesOf (shownStdout table registry result)
      < (utf8 (safeText table registry result.stderr)).length)

/-- The bytes of a text in a record. -/
def shownBytes (text : List Char) : ℕ := bytesOf text + text.countP isEscaped

theorem baselineOutput_shown (table : FormatTable) (registry : SecretRegistry)
    (result : BaselineExecResult) :
    baselineOutput table registry result.stdout result.stderr
      = .ok { outputMarks table registry result with
        stdout := String.ofList (shownStdout table registry result)
        stderr := String.ofList (shownStderr table registry result) } := by
  unfold baselineOutput
  rw [if_neg (not_lt.mpr result.captured)]
  dsimp only
  rw [keptText_eq]
  dsimp only
  rw [keptText_eq, length_utf8_ofList]
  rfl

/-- What is shown of a stream counts as many bytes as its characters, and the escapes. -/
theorem escapedBytes_shown {text : List Char} (h : ∀ character ∈ text,
    isControlOrFormat table character = true → character = '\n' ∨ character = '\t') :
    escapedBytes (String.ofList text) = shownBytes text := by
  have hescaped := @escapedBytes_eq (String.ofList text)
  rw [String.toList_ofList] at hescaped
  exact hescaped fun character hmem => (isTranscriptChar_of_output (h character hmem)).2

/-- With the native handle and the inspection frozen, the bytes of the record decide. -/
theorem recordObservation_frozen
    (hnative : freezeSnapshot (recordingModels isoTimestamp models) .nativeHandleV1
      (recordingModels isoTimestamp models).nativeHandle result.handle = some nativeHandle)
    (hinspection : freezeSnapshot (recordingModels isoTimestamp models) .sandboxInspectionV1
      (recordingModels isoTimestamp models).sandboxInspection result.inspection = some inspection) :
    (∃ observation, recordObservation isoTimestamp models table registry ids result
        = .ok observation)
      ↔ recordBytes isoTimestamp (observationOf (recordingModels isoTimestamp models) ids result
          nativeHandle inspection (outputMarks table registry result))
        + shownBytes (shownStdout table registry result)
        + shownBytes (shownStderr table registry result) ≤ maxObservationBytes := by
  have hout := baselineOutput_shown table registry result
  obtain ⟨out, hout', -, -, -, hcontrol, -⟩ :=
    baselineOutput_bounded table registry result.stdout result.stderr result.captured
  obtain rfl := Except.ok.inj (hout'.symm.trans hout)
  dsimp only at hcontrol
  rw [String.toList_ofList, String.toList_ofList] at hcontrol
  have hvalid := @validates_observationOf isoTimestamp models table registry ids result nativeHandle
    inspection _ hout (freezeSnapshot_some hnative) (freezeSnapshot_some hinspection)
  rw [recordBytes_observationOf, escapedBytes_shown fun character hmem =>
    hcontrol character (List.mem_append_left _ hmem), escapedBytes_shown fun character hmem =>
    hcontrol character (List.mem_append_right _ hmem)] at hvalid
  unfold recordObservation
  dsimp only
  rw [hout, hnative, hinspection]
  constructor
  · rintro ⟨observation, h⟩
    obtain ⟨haccepted, -⟩ := Checks.refuse_bind_ok.mp h
    rw [Bool.not_eq_false] at haccepted
    exact hvalid.mp haccepted
  · intro h
    have haccepted := hvalid.mpr h
    rw [← Bool.not_eq_false] at haccepted
    exact ⟨_, Checks.refuse_bind_ok.mpr ⟨haccepted, rfl⟩⟩

/-- The observation of a completed command can be recorded exactly when its native handle and its
inspection can be frozen, and the bytes of the record with what is shown of the streams, and one
more for each character that JSON escapes, are within the limit. -/
theorem recordObservation_iff (isoTimestamp : Timestamp → String) (models : BaselineModels)
    (table : FormatTable) (registry : SecretRegistry) (ids : ReviewedIdentities)
    (result : BaselineExecResult) :
    (∃ observation, recordObservation isoTimestamp models table registry ids result
        = .ok observation)
      ↔ ∃ nativeHandle inspection,
        freezeSnapshot (recordingModels isoTimestamp models) .nativeHandleV1
            (recordingModels isoTimestamp models).nativeHandle result.handle = some nativeHandle
          ∧ freezeSnapshot (recordingModels isoTimestamp models) .sandboxInspectionV1
            (recordingModels isoTimestamp models).sandboxInspection result.inspection
              = some inspection
          ∧ recordBytes isoTimestamp (observationOf (recordingModels isoTimestamp models) ids
              result nativeHandle inspection (outputMarks table registry result))
            + shownBytes (shownStdout table registry result)
            + shownBytes (shownStderr table registry result) ≤ maxObservationBytes := by
  constructor
  · rintro ⟨observation, h⟩
    have hfrozen := h
    unfold recordObservation at hfrozen
    obtain ⟨out, -, hfrozen⟩ := Checks.bind_ok.mp hfrozen
    obtain ⟨nativeHandle, hnative, hfrozen⟩ := Checks.bind_ok.mp hfrozen
    obtain ⟨inspection, hinspection, -⟩ := Checks.bind_ok.mp hfrozen
    rw [Checks.demand_ok] at hnative hinspection
    exact ⟨nativeHandle, inspection, hnative, hinspection,
      (recordObservation_frozen hnative hinspection).mp ⟨observation, h⟩⟩
  · rintro ⟨nativeHandle, inspection, hnative, hinspection, hbytes⟩
    exact (recordObservation_frozen hnative hinspection).mpr hbytes

/-! ### Quotation marks -/

/-- A text without control and format characters and without secrets is shown as it is. -/
theorem safeText_plain {text : String} (h : ∀ character ∈ text.toList,
    isControlOrFormat table character = false) : safeText table {} (utf8 text) = text := by
  have hdecoded : (decodedStream (utf8 text)).1 = text := by
    have hbytes : utf8 text = text.toList.flatMap String.utf8EncodeChar := by
      rw [← utf8_ofList, String.ofList_toList]
    unfold decodedStream
    rw [hbytes, Utf8.strict_encode, String.ofList_toList]
  have hshown : text.toList.flatMap (escapeControl table) = text.toList := by
    have hsame : ∀ character ∈ text.toList, escapeControl table character = [character] := by
      intro character hmem
      unfold escapeControl
      rw [h character hmem]
      rfl
    rw [List.flatMap_congr hsame, List.flatMap_singleton']
  have hnone : ({} : SecretRegistry).snapshot = [] := List.mergeSort_nil
  have hclean : redactText [] text = (text, []) := rfl
  unfold safeText
  rw [hdecoded, hnone, hclean, hshown, String.ofList_toList]

theorem length_quotes (count : ℕ) :
    (utf8 (String.ofList (List.replicate count '"'))).length = count := by
  have hascii : ∀ character ∈ List.replicate count '"', character.toNat < 128 := by
    intro character hmem
    rw [List.eq_of_mem_replicate hmem]
    decide
  rw [length_utf8_ofList, bytesOf_ascii hascii, List.length_replicate]

def zeroSha256 : Sha256 := zeroDigest

def quotedOwner : BaselineResourceOwner where
  baselineId := "baseline_00000000000000000000000000000000"
  projectId := "prj_00000000000000000000000000000000"
  reviewSha256 := zeroSha256

def quotedHandle : BaselineExecutionHandle where
  owner := quotedOwner
  claimId := "bclaim_00000000000000000000000000000000"
  executionId := "bexec_00000000000000000000000000000000"
  sandboxId := "bsandbox_00000000000000000000000000000000"
  nativeResourceId := zeroSha256.hex
  labels := [("agent-fleet.baseline", "baseline_00000000000000000000000000000000"),
    ("agent-fleet.claim", "bclaim_00000000000000000000000000000000"), ("agent-fleet.command", zeroSha256.hex),
    ("agent-fleet.daemon", zeroSha256.hex), ("agent-fleet.execution", "bexec_00000000000000000000000000000000"),
    ("agent-fleet.installation", "00000000000000000000000000000000"), ("agent-fleet.managed", "true"),
    ("agent-fleet.owner-kind", "baseline"), ("agent-fleet.project", "prj_00000000000000000000000000000000"),
    ("agent-fleet.review", zeroSha256.hex), ("agent-fleet.sandbox", "bsandbox_00000000000000000000000000000000")]
  labelsSha256 := zeroSha256

/-- What a sandbox that enforces its isolation is inspected for. -/
def isolatedCapabilities : JsonValue :=
  .obj [("provider", .str "docker"), ("security_level", .str "isolated"),
    ("isolation_enforced", .bool true), ("executes_code", .bool true),
    ("supported_network_modes", .arr [.str "none"]), ("supports_resource_limits", .bool true),
    ("supports_recovery", .bool true), ("supports_non_root", .bool true),
    ("supports_read_only_root", .bool true), ("supports_no_new_privileges", .bool true),
    ("supports_capability_drop", .bool true)]

def isolatedControls : JsonValue :=
  .obj [("provider", .str "docker"), ("ready", .bool true),
    ("capabilities", (BaselineCanonicalSnapshot.mk .capabilitiesV1
      (sorted isolatedCapabilities).text zeroSha256).dump),
    ("configuration_sha256", .str zeroSha256.hex), ("image_identity", .str "sha256:0000000000000000000000000000000000000000000000000000000000000000"),
    ("daemon_identity", .str zeroSha256.hex), ("effective_network_mode", .str "none"),
    ("non_root", .bool true), ("read_only_root", .bool true), ("no_new_privileges", .bool true),
    ("capabilities_dropped", .bool true), ("resource_limits_enforced", .bool true),
    ("exact_mounts", .bool true), ("inspected_at", .str "1970-01-01T00:00:00Z")]

def quotedInspection : BaselineSandboxInspection where
  owner := quotedOwner
  sandboxId := "bsandbox_00000000000000000000000000000000"
  executionId := "bexec_00000000000000000000000000000000"
  nativeResourceId := zeroSha256.hex
  legacyControlInspection := ⟨.sandboxInspectionV1, (sorted isolatedControls).text, zeroSha256⟩
  tmpScratchMb := 64
  cacheScratchMb := 64
  shmScratchMb := 64
  mountInspectionSha256 := zeroSha256

/-- A command that has written quotation marks only, as many as are captured. -/
def quotedResult : BaselineExecResult where
  handle := quotedHandle
  inspection := quotedInspection
  startedAt := 0
  completedAt := 1
  exitCode := some 0
  timedOut := false
  cancelled := false
  outputTruncated := false
  stdout := utf8 (String.ofList (List.replicate 64000 '"'))
  stderr := []
  exitRange := fun code hcode => by
    obtain rfl := Option.some.inj hcode
    decide
  captured := by rw [length_quotes, List.length_nil]
  ordered := by decide

def quotedIdentities : ReviewedIdentities where
  baselineId := "baseline_00000000000000000000000000000000"
  projectId := "prj_00000000000000000000000000000000"
  reviewId := "breview_00000000000000000000000000000000"
  reviewSha256 := zeroSha256
  authorizationId := "bauth_00000000000000000000000000000000"
  claimId := "bclaim_00000000000000000000000000000000"
  executionId := "bexec_00000000000000000000000000000000"
  workspaceId := "bws_00000000000000000000000000000000"
  sandboxId := "bsandbox_00000000000000000000000000000000"
  commandSha256 := zeroSha256
  sandboxPolicySha256 := zeroSha256
  sandboxSpecSha256 := zeroSha256
  requestSha256 := zeroSha256
  approvedSourceSha256 := zeroSha256
  materializedSourceSha256 := zeroSha256
  postSourceSha256 := some zeroSha256
  valid := by decide
  materialized := rfl

/-- A model that is not read or written here. -/
def unusedModel {α : Type} : JsonModel α := ⟨fun _ => none, fun _ => ""⟩

/-- Models for which the two documents are canonical and short enough, as they are. -/
def quotedModels : BaselineModels where
  sha256 := fun _ => zeroSha256
  isCanonical := fun _ _ => true
  labelsSha256 := fun _ => zeroSha256
  digest := fun _ => zeroSha256
  canonicalBytes := fun _ => none
  command := unusedModel
  configuration := unusedModel
  requirements := unusedModel
  sandboxSpec := unusedModel
  sandboxPolicy := unusedModel
  capabilities := unusedModel
  nativeHandle := unusedModel
  sandboxInspection := unusedModel
  controlInspection := unusedModel
  cleanupResult := unusedModel

theorem freezeSnapshot_quoted {α : Type} (tag : SnapshotTag) (model : JsonModel α) (value : α) :
    freezeSnapshot (recordingModels isoTimestamp quotedModels) tag model value
      = some ⟨tag, model.dump value, zeroSha256⟩ := by
  have hvalid : (BaselineCanonicalSnapshot.mk tag (model.dump value) zeroSha256).validates
      (recordingModels isoTimestamp quotedModels) = true := beq_self_eq_true zeroSha256
  have hcanonical : (recordingModels isoTimestamp quotedModels).isCanonical maxReportBytes
      (model.dump value) = true := rfl
  have hsha256 : (recordingModels isoTimestamp quotedModels).sha256 (model.dump value)
      = zeroSha256 := rfl
  unfold freezeSnapshot
  dsimp only
  rw [hcanonical, hsha256, hvalid]
  rfl

theorem quotedHandle_bytes : 1260 ≤ bytesOf (sorted quotedHandle.dump).chars := by
  have hplain : 1260 ≤ quotedHandle.dump.plainBytes ∧ quotedHandle.dump.distinct = true := by
    decide +kernel
  exact hplain.1.trans (plainBytes_le _ hplain.2)

/-- What the keys, the identities and the digests of an inspection are in its document. -/
theorem le_plainBytes_inspection (inspection : BaselineSandboxInspection) :
    222 + inspection.owner.dump.plainBytes + inspection.sandboxId.utf8ByteSize
        + inspection.executionId.utf8ByteSize + inspection.nativeResourceId.utf8ByteSize
        + inspection.legacyControlInspection.sha256.hex.utf8ByteSize
        + inspection.mountInspectionSha256.hex.utf8ByteSize ≤ inspection.dump.plainBytes := by
  have hkeys : (["owner", "sandbox_id", "execution_id", "native_resource_id",
      "legacy_control_inspection", "mount_policy", "workspace_read_only", "tmp_scratch_mb",
      "cache_scratch_mb", "shm_scratch_mb", "mount_inspection_sha256"].map
        String.utf8ByteSize).sum = 168 := by decide
  unfold BaselineSandboxInspection.dump
  rw [plainBytes, fieldsPlainBytes_eq]
  simp only [List.map_cons, List.map_nil, List.sum_cons, List.sum_nil] at hkeys ⊢
  simp only [plainBytes, BaselineCanonicalSnapshot.dump, fieldsPlainBytes]
  omega

theorem quotedInspection_bytes : 590 ≤ bytesOf (sorted quotedInspection.dump).chars := by
  have hdistinct : quotedInspection.dump.distinct = true := by decide
  have howner : 150 ≤ quotedInspection.owner.dump.plainBytes := by decide
  have hsandbox : quotedInspection.sandboxId.utf8ByteSize = 41 := rfl
  have hexecution : quotedInspection.executionId.utf8ByteSize = 38 := rfl
  have hnative : quotedInspection.nativeResourceId.utf8ByteSize = 64 := rfl
  have hcontrols : quotedInspection.legacyControlInspection.sha256.hex.utf8ByteSize = 64 := rfl
  have hmounts : quotedInspection.mountInspectionSha256.hex.utf8ByteSize = 64 := rfl
  have hplain := le_plainBytes_inspection quotedInspection
  have hbytes := plainBytes_le _ hdistinct
  omega

theorem distinct_dump (observation : BaselineCommandObservation) :
    (observation.dump isoTimestamp).distinct = true := by
  have hsnapshot (snapshot : BaselineCanonicalSnapshot) : snapshot.dump.distinct = true := by
    have hnames : ["schema_tag", "canonical_json", "sha256"].Nodup := by decide
    rw [BaselineCanonicalSnapshot.dump, distinct, Bool.and_eq_true, decide_eq_true_eq]
    exact ⟨hnames, rfl⟩
  have hsource : (ofOption (observation.postSourceSha256.map Sha256.hex)).distinct = true := by
    cases observation.postSourceSha256 with
    | none | some digest => rfl
  have hexit : (ofOptionInt (observation.exitCode.map Int.ofNat)).distinct = true := by
    cases observation.exitCode with
    | none | some code => rfl
  rw [BaselineCommandObservation.dump, distinct, Bool.and_eq_true, decide_eq_true_eq, fields_keys]
  refine ⟨observationKeys_nodup, ?_⟩
  simp only [BaselineCommandObservation.fields, fieldsDistinct, distinct, hsnapshot, hsource,
    hexit, Bool.and_true]

/-- What the snapshots and the digests are of the bytes of a record. -/
theorem le_recordBytes (observation : BaselineCommandObservation) :
    520 + observation.nativeHandle.canonicalUtf8.utf8ByteSize
        + observation.inspection.canonicalUtf8.utf8ByteSize
        + observation.reviewSha256.hex.utf8ByteSize + observation.commandSha256.hex.utf8ByteSize
        + observation.sandboxPolicySha256.hex.utf8ByteSize
        + observation.sandboxSpecSha256.hex.utf8ByteSize
        + observation.requestSha256.hex.utf8ByteSize
        + observation.approvedSourceSha256.hex.utf8ByteSize
        + observation.materializedSourceSha256.hex.utf8ByteSize
        + observation.stdoutSha256.hex.utf8ByteSize + observation.stderrSha256.hex.utf8ByteSize
        + observation.nativeHandle.sha256.hex.utf8ByteSize
        + observation.inspection.sha256.hex.utf8ByteSize
      ≤ recordBytes isoTimestamp observation := by
  have hkeys : (observationKeys.map String.utf8ByteSize).sum = 412 := by decide
  refine le_trans ?_ (plainBytes_le _ (distinct_dump observation))
  rw [BaselineCommandObservation.dump, plainBytes, fieldsPlainBytes_eq, fields_keys, hkeys]
  simp only [BaselineCommandObservation.fields, List.map_cons, List.map_nil, List.sum_cons,
    List.sum_nil, plainBytes, BaselineCanonicalSnapshot.dump, fieldsPlainBytes]
  omega

/-- The record of the command has more than 3072 bytes beside its texts. -/
theorem quoted_envelope (out : BaselineOutput) :
    3072 < recordBytes isoTimestamp (observationOf (recordingModels isoTimestamp quotedModels)
      quotedIdentities quotedResult
      ⟨.nativeHandleV1, (sorted quotedHandle.dump).text, zeroSha256⟩
      ⟨.sandboxInspectionV1, (sorted quotedInspection.dump).text, zeroSha256⟩ out) := by
  have hsha256 : zeroSha256.hex.utf8ByteSize = 64 := rfl
  have htext (value : JsonValue) : value.text.utf8ByteSize = bytesOf value.chars := by
    rw [← length_utf8, text, length_utf8_ofList]
  have hnative := quotedHandle_bytes
  have hinspection := quotedInspection_bytes
  rw [← htext] at hnative hinspection
  refine lt_of_lt_of_le ?_ (le_recordBytes _)
  simp only [observationOf, quotedIdentities, recordingModels, quotedModels, hsha256]
  generalize (sorted quotedHandle.dump).text = handle at hnative ⊢
  generalize (sorted quotedInspection.dump).text = inspection at hinspection ⊢
  omega

/-- Quotation marks are shown as they are. -/
theorem shownStdout_quotes {count : ℕ} (hcount : count ≤ 64000)
    (hstdout : result.stdout = utf8 (String.ofList (List.replicate count '"'))) :
    shownStdout noFormats {} result = List.replicate count '"' := by
  have hplain : ∀ character ∈ (String.ofList (List.replicate count '"')).toList,
      isControlOrFormat noFormats character = false := by
    intro character h
    rw [String.toList_ofList] at h
    obtain rfl := List.eq_of_mem_replicate h
    rfl
  have hbytes : ((List.replicate count '"').flatMap String.utf8EncodeChar).length = count := by
    rw [← utf8_ofList, length_quotes]
  unfold shownStdout
  rw [hstdout, safeText_plain hplain, String.toList_ofList, Utf8.fitting_eq_iff, hbytes]
  exact hcount

/-- Quotation marks take two bytes each in a record. -/
theorem shownBytes_quotes (count : ℕ) : shownBytes (List.replicate count '"') = 2 * count := by
  have hsize : '"'.utf8Size = 1 := rfl
  have hescaped : isEscaped '"' = true := rfl
  induction count with
  | zero => rfl
  | succ count ih =>
      unfold shownBytes at ih ⊢
      rw [List.replicate_succ, bytesOf_cons, List.countP_cons_of_pos hescaped, hsize]
      omega

/-- The text of the instant that the records here are of. -/
def quotedTimestamp : Timestamp → String := fun _ => "1970-01-01T00:00:00Z"

/-- The command has completed and both of its snapshots can be frozen, but no record is accepted. -/
theorem recordObservation_quoted :
    (∃ snapshot, freezeSnapshot (recordingModels quotedTimestamp quotedModels) .nativeHandleV1
        (recordingModels quotedTimestamp quotedModels).nativeHandle quotedResult.handle
          = some snapshot)
      ∧ (∃ snapshot, freezeSnapshot (recordingModels quotedTimestamp quotedModels)
          .sandboxInspectionV1 (recordingModels quotedTimestamp quotedModels).sandboxInspection
          quotedResult.inspection = some snapshot)
      ∧ ¬ ∃ observation, recordObservation quotedTimestamp quotedModels noFormats {}
        quotedIdentities quotedResult = .ok observation := by
  have hnative : freezeSnapshot (recordingModels quotedTimestamp quotedModels) .nativeHandleV1
      (recordingModels quotedTimestamp quotedModels).nativeHandle quotedResult.handle
        = some ⟨.nativeHandleV1, (sorted quotedHandle.dump).text, zeroSha256⟩ :=
    freezeSnapshot_quoted _ _ _
  have hinspection : freezeSnapshot (recordingModels quotedTimestamp quotedModels)
      .sandboxInspectionV1 (recordingModels quotedTimestamp quotedModels).sandboxInspection
      quotedResult.inspection
        = some ⟨.sandboxInspectionV1, (sorted quotedInspection.dump).text, zeroSha256⟩ :=
    freezeSnapshot_quoted _ _ _
  have hstdout : quotedResult.stdout = utf8 (String.ofList (List.replicate 64000 '"')) := by
    unfold quotedResult
    dsimp only
  have hshown := shownStdout_quotes (le_refl 64000) hstdout
  have henvelope := @quoted_envelope quotedTimestamp (outputMarks noFormats {} quotedResult)
  refine ⟨⟨_, hnative⟩, ⟨_, hinspection⟩, fun hrecorded => ?_⟩
  have hbytes := (recordObservation_frozen hnative hinspection).mp hrecorded
  rw [hshown, shownBytes_quotes] at hbytes
  have hlimit : maxObservationBytes = 131072 := rfl
  rw [hlimit] at hbytes
  omega

end AgentFleet
