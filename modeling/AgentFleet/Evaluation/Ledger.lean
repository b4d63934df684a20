import AgentFleet.Evaluation.Attempts

/-! # The evaluation ledger

Five tables hold the campaigns with their slots, the reservations, the outcomes and the executions;
the runs, the journal and the runtime accounting are those of `Database`.  A row is its decoded
record, with the digest of its manifest beside a campaign.

`snapshotOf` reads everything that the ledger holds of a campaign and validates it; every
transaction reads the campaign that way before it writes and most of them once more after it.  A
reservation, once written, is neither changed nor removed by any of them. -/

namespace AgentFleet.Evaluation

open Relational Transaction Checks

/-! ### Errors -/

/-- `_invalid`. -/
def ledgerInvalid : StoreError :=
  .fleet {
    code := .recoveryRequired
    message := "The evaluation ledger identity, content or chronology is inconsistent."
    remediation := "Inspect the selected local ledger; do not replace or replay its reservations." }

/-- `_conflict`. -/
def ledgerConflict : StoreError :=
  .fleet {
    code := .configInvalid
    message := "The evaluation preregistration or reservation conflicts with retained state."
    remediation := "Reuse the exact registered identity and content; commitments are permanent." }

/-- The campaign is not registered. -/
def campaignNotFound : StoreError :=
  .fleet {
    code := .resourceNotFound
    message := "The evaluation campaign is not registered."
    remediation := "Register an immutable manifest before reserving its slots." }

/-- The database has another schema. -/
def ledgerIncompatible : StoreError :=
  .fleet {
    code := .stateSchemaIncompatible
    message := "The evaluation ledger requires the exact supported migrated schema."
    remediation := "Explicitly migrate a compatible database before using this service." }

/-- The envelope does not fit. -/
def campaignExhausted : StoreError :=
  .fleet {
    code := .runtimeBudgetExceeded
    message := "The evaluation campaign cannot commit another complete Run envelope."
    remediation := "Retain every reservation; this ledger does not refund or execute work." }

/-- `_boundary`. -/
def ledgerBoundary : StoreError → StoreError
  | .fleet error => .fleet error
  | .validation => ledgerInvalid
  | .integrity =>
      .fleet {
        code := .stateUnavailable
        message := "The migrated evaluation ledger is unavailable."
        remediation := "Restore the selected local database before preparing an evaluation." }

/-! ### Tables -/

/-- A row of `evaluation_campaigns`. -/
structure CampaignRow where
  registration : CampaignRegistration
  manifestSha256 : Sha256
deriving DecidableEq

/-- A row of `evaluation_slots`. -/
structure SlotRow where
  campaignId : String
  slot : EvaluationSlot
deriving DecidableEq

/-- `campaign_id`. -/
def CampaignRow.campaignId (row : CampaignRow) : String := row.registration.manifest.campaignId

instance : Constrained CampaignRow where
  clash a b := a.campaignId = b.campaignId ∨ a.manifestSha256 = b.manifestSha256
    ∨ a.registration.manifest.manifestId = b.registration.manifest.manifestId
      ∧ a.registration.manifest.revision = b.registration.manifest.revision
  symm := by
    rintro a b (h | h | ⟨hid, hrevision⟩)
    · exact .inl h.symm
    · exact .inr (.inl h.symm)
    · exact .inr (.inr ⟨hid.symm, hrevision.symm⟩)
  decidableClash _ _ := inferInstanceAs (Decidable (_ ∨ _ ∨ _ ∧ _))

instance : Constrained SlotRow where
  clash a b := a = b
  symm _ _ h := h.symm
  decidableClash _ _ := inferInstanceAs (Decidable (_ = _))

instance : Constrained EvaluationReservation where
  clash a b := a.attemptId = b.attemptId
    ∨ a.campaignId = b.campaignId
      ∧ (a.slot = b.slot ∨ a.idempotencySha256 = b.idempotencySha256)
  symm := by
    rintro a b (h | ⟨h, hslot | hkey⟩)
    · exact .inl h.symm
    · exact .inr ⟨h.symm, .inl hslot.symm⟩
    · exact .inr ⟨h.symm, .inr hkey.symm⟩
  decidableClash _ _ := inferInstanceAs (Decidable (_ ∨ _ ∧ (_ ∨ _)))

instance : Constrained OutcomeRecord where
  clash a b := a.outcomeId = b.outcomeId ∨ a.attemptId = b.attemptId
  symm _ _ h := h.imp Eq.symm Eq.symm
  decidableClash _ _ := inferInstanceAs (Decidable (_ ∨ _))

instance : Constrained EvaluationExecutionRecord where
  clash a b := a.attemptId = b.attemptId ∨ a.rootRunId = b.rootRunId
  symm _ _ h := h.imp Eq.symm Eq.symm
  decidableClash _ _ := inferInstanceAs (Decidable (_ ∨ _))

/-- The state of the stores. -/
structure EvaluationState where
  database : Database
  campaigns : Table CampaignRow
  slots : Table SlotRow
  reservations : Table EvaluationReservation
  outcomes : Table OutcomeRecord
  executions : Table EvaluationExecutionRecord

/-- The tables before the first call. -/
def EvaluationState.fresh (database : Database) : EvaluationState where
  database := database
  campaigns := .empty
  slots := .empty
  reservations := .empty
  outcomes := .empty
  executions := .empty

/-- A transaction body of the stores. -/
abbrev EvaluationTxn := Txn EvaluationState StoreError

/-- What one transaction reads beside the tables.  Each of these can only make it refuse. -/
structure EvaluationReads extends DatabaseReads where
  /-- The migrations are those of the supported schema. -/
  schemaCurrent : Bool
  /-- `check_organization_admission`. -/
  admission : Run → Except StoreError Unit
  /-- `_profile` of the model configuration. -/
  profile : String → Except StoreError (Option ModelProfile)
  /-- `_save_bindings_in_transaction`. -/
  saveBindings : RunModelBindings → Except StoreError Unit
  /-- `_bindings` of the model configuration. -/
  bindings : String → String → Except StoreError (Option RunModelBindings)

namespace EvaluationState

variable (s : EvaluationState)

/-- The journal. -/
def events : List FleetEvent := s.database.store.runEvents

/-- The row of a campaign. -/
def campaign? (campaignId : String) : Option CampaignRow :=
  s.campaigns.find? fun row => row.campaignId = campaignId

/-- The row of a manifest. -/
def campaignBySha? (manifestSha256 : Sha256) : Option CampaignRow :=
  s.campaigns.find? fun row => row.manifestSha256 = manifestSha256

/-- The slots of a campaign, in order and at most 257 of them. -/
def slotsOf (campaignId : String) : List EvaluationSlot :=
  (((s.slots.rows.filter fun row => row.campaignId = campaignId).map SlotRow.slot).mergeSort
    slotLe).take 257

/-- The reservations of a campaign. -/
def reservationsOf (campaignId : String) : List EvaluationReservation :=
  s.reservations.rows.filter fun item => item.campaignId = campaignId

/-- The outcomes of a campaign. -/
def outcomesOf (campaignId : String) : List OutcomeRecord :=
  s.outcomes.rows.filter fun record => record.campaignId = campaignId

/-- The executions of a campaign. -/
def executionsOf (campaignId : String) : List EvaluationExecutionRecord :=
  s.executions.rows.filter fun record => record.campaignId = campaignId

/-- The outcome of an attempt. -/
def outcomeOf? (attemptId : String) : Option OutcomeRecord :=
  s.outcomes.find? fun record => record.attemptId = attemptId

/-- The execution of an attempt. -/
def executionOf? (attemptId : String) : Option EvaluationExecutionRecord :=
  s.executions.find? fun record => record.attemptId = attemptId

/-- The execution of a root run. -/
def execution? (rootRunId : String) : Option EvaluationExecutionRecord :=
  s.executions.find? fun record => record.rootRunId = rootRunId

/-- The slot of a reservation is there. -/
def hasSlot (item : EvaluationReservation) : Prop :=
  (⟨item.campaignId, item.slot⟩ : SlotRow) ∈ s.slots.rows
deriving Decidable

/-- The reservation of an attempt of a campaign is there. -/
def hasReservation (campaignId attemptId : String) : Prop :=
  ∃ item ∈ s.reservations.rows, item.campaignId = campaignId ∧ item.attemptId = attemptId
deriving Decidable

/-- What `pragma_foreign_key_check` asks of the tables of the ledger. -/
def referencesHold : Prop :=
  (∀ row ∈ s.slots.rows, (s.campaign? row.campaignId).isSome = true)
    ∧ (∀ item ∈ s.reservations.rows, s.hasSlot item)
    ∧ ∀ record ∈ s.outcomes.rows, s.hasReservation record.campaignId record.attemptId
deriving Decidable

end EvaluationState

/-- The key under which an event names what it is about. -/
def payloadText? (event : FleetEvent) (key : String) : Option String :=
  match JsonValue.field? event.payload key with
  | some (.str text) => some text
  | _ => none

/-- The event registers an execution. -/
def isRegistrationEvent (event : FleetEvent) : Bool :=
  event.eventType = "evaluation.execution_registered"

section Reads

variable (svc : EvaluationServices) (reads : EvaluationReads) (amb : Ambient) (s : EvaluationState)

/-- `_clean` on a text. -/
def EvaluationServices.cleanText (text : String) : Bool :=
  !svc.toServices.redactor.containsSecretData (.str text)

/-- `_clean` on a document. -/
def EvaluationServices.cleanValue (value : JsonValue) : Bool :=
  !svc.toServices.redactor.containsSecretData value

/-- `_encode` takes the document. -/
def EvaluationServices.encodes (content : JsonValue) : Bool :=
  svc.cleanValue content && encodedLength content.sorted.text ≤ 2097152
    && svc.cleanText content.sorted.text

/-- `_decode` of a row. -/
def decodeRow (document : EvaluationDocument) (valid : Prop) [Decidable valid] :
    Except StoreError Unit := do
  refuse (svc.encodes (svc.dump document) = false) ledgerInvalid
  refuse (¬ valid) .validation

/-- The beginning of `_transaction`. -/
def beginLedger : EvaluationTxn Unit := do
  refuseIf (reads.schemaCurrent = false) ledgerIncompatible
  let s ← get
  refuseIf (¬ s.referencesHold) ledgerInvalid

/-! ### Reads -/

/-- `_registration`. -/
def registrationOf (row : CampaignRow) : Except StoreError CampaignRegistration := do
  decodeRow svc (.registration row.registration) (row.registration.validates svc.toEvaluationModels)
  refuse (row.registration.manifest.sha256 svc.toEvaluationModels ≠ row.manifestSha256)
    ledgerInvalid
  return row.registration

/-- What a revised manifest asks of the registration before it. -/
def follows (registration prior : CampaignRegistration) : Prop :=
  prior.manifest.manifestId = registration.manifest.manifestId
    ∧ prior.manifest.revision + 1 = registration.manifest.revision
    ∧ prior.registeredAt ≤ registration.registeredAt
deriving Decidable

/-- `_snapshot` finds the manifest that a revised one names. -/
def checkPrevious (registration : CampaignRegistration) : Except StoreError Unit :=
  match registration.manifest.previousSha256 with
  | none => return ()
  | some previous => do
      let row ← demand ledgerInvalid (s.campaignBySha? previous)
      let prior ← registrationOf svc row
      refuse (¬ (follows registration prior
        ∧ prior.manifest.campaignId ≠ registration.manifest.campaignId)) ledgerInvalid

/-- The reservations of a campaign in the order of their slots, decoded. -/
def readReservations (campaignId : String) : Except StoreError (List EvaluationReservation) := do
  let rows := ((s.reservationsOf campaignId).mergeSort fun a b => slotLe a.slot b.slot).take 257
  rows.forM fun item => decodeRow svc (.reservation item) item.validates
  return rows

/-- The outcomes of a campaign in the order of their identifiers, decoded. -/
def readOutcomes (campaignId : String) : Except StoreError (List OutcomeRecord) := do
  let rows := ((s.outcomesOf campaignId).mergeSort fun a b => decide (a.outcomeId ≤ b.outcomeId)).take
    257
  rows.forM fun record => decodeRow svc (.outcome record) record.validates
  return rows

/-- `EvaluationLedgerSnapshot(…)`. -/
def newSnapshot (registration : CampaignRegistration) (reservations : List EvaluationReservation)
    (outcomes : List OutcomeRecord) : Except StoreError EvaluationLedgerSnapshot := do
  let snapshot : EvaluationLedgerSnapshot :=
    { registration, reservations, outcomes, committed := envelopesOf reservations }
  refuse (¬ snapshot.validates svc.toEvaluationModels) .validation
  return snapshot

/-- `_snapshot`. -/
def snapshotOf (campaignId : String) : Except StoreError EvaluationLedgerSnapshot := do
  let row ← demand campaignNotFound (s.campaign? campaignId)
  let registration ← registrationOf svc row
  checkPrevious svc s registration
  refuse (¬ ∀ slot ∈ s.slotsOf campaignId, slot.validates) .validation
  refuse (s.slotsOf campaignId ≠ registration.manifest.slots.mergeSort slotLe) ledgerInvalid
  let reservations ← readReservations svc s campaignId
  let outcomes ← readOutcomes svc s campaignId
  newSnapshot svc registration reservations outcomes

/-! ### Registration -/

/-- The rows that a manifest stands in conflict with, or is a replay of. -/
def EvaluationState.registered (manifest : EvaluationManifest) : List CampaignRow :=
  s.campaigns.rows.filter fun row => row.campaignId = manifest.campaignId
    ∨ row.registration.manifest.manifestId = manifest.manifestId
      ∧ row.registration.manifest.revision = manifest.revision

/-- The row of a registered manifest holds the same manifest. -/
def replayCampaign (manifest : EvaluationManifest) (row : CampaignRow) :
    Except StoreError CampaignRegistration := do
  let snapshot ← snapshotOf svc s row.campaignId
  refuse (snapshot.manifest ≠ manifest) ledgerConflict
  return snapshot.registration

/-- `register` asks for the registration that a revised manifest names. -/
def checkPrior (registration : CampaignRegistration) : Except StoreError Unit :=
  match registration.manifest.previousSha256 with
  | none => return ()
  | some previous => do
      let row ← demand ledgerConflict (s.campaignBySha? previous)
      let prior ← snapshotOf svc s row.campaignId
      refuse (¬ follows registration prior.registration) ledgerConflict

end Reads

variable (svc : EvaluationServices) (reads : EvaluationReads) (amb : Ambient)

/-- The INSERT into `evaluation_campaigns`. -/
def insertCampaign (row : CampaignRow) : EvaluationTxn Unit := do
  let s ← get
  let campaigns ← expect .integrity (s.campaigns.insert row)
  set { s with campaigns }

/-- One INSERT into `evaluation_slots`. -/
def insertSlot (row : SlotRow) : EvaluationTxn Unit := do
  let s ← get
  refuseIf ((s.campaign? row.campaignId).isNone = true) .integrity
  let slots ← expect .integrity (s.slots.insert row)
  set { s with slots }

/-- `register` of a manifest that is new. -/
def registerCampaign (manifest : EvaluationManifest) : EvaluationTxn CampaignRegistration := do
  let registration : CampaignRegistration := ⟨manifest, amb.clock 0⟩
  refuseIf (¬ registration.validates svc.toEvaluationModels) .validation
  reading fun s => checkPrior svc s registration
  refuseIf (svc.encodes (svc.dump (.registration registration)) = false) ledgerInvalid
  insertCampaign ⟨registration, manifest.sha256 svc.toEvaluationModels⟩
  manifest.slots.forM fun slot => insertSlot ⟨manifest.campaignId, slot⟩
  let snapshot ← reading fun s => snapshotOf svc s manifest.campaignId
  return snapshot.registration

/-- `register`. -/
def register (manifest : EvaluationManifest) : EvaluationTxn CampaignRegistration := do
  refuseIf (¬ manifest.validates svc.toEvaluationModels) .validation
  refuseIf (svc.encodes (svc.dumpManifest manifest) = false) ledgerInvalid
  beginLedger reads
  let known ← reading fun s => (s.registered manifest).mapM (replayCampaign svc s manifest)
  match known.getLast? with
  | some registration => return registration
  | none => registerCampaign svc amb manifest

/-! ### Reservations -/

/-- The INSERT into `evaluation_reservations`. -/
def insertReservation (item : EvaluationReservation) : EvaluationTxn Unit := do
  let s ← get
  refuseIf (¬ s.hasSlot item) .integrity
  let reservations ← expect .integrity (s.reservations.insert item)
  set { s with reservations }

/-- The reservation that `reserve` writes. -/
def newReservation (campaignId : String) (manifest : EvaluationManifest) (declared : EvaluationCase)
    (slot : EvaluationSlot) (digest : Sha256) : EvaluationReservation where
  campaignId := campaignId
  manifestSha256 := manifest.sha256 svc.toEvaluationModels
  caseId := slot.caseId
  repetition := slot.repetition
  attemptId := "attempt_" ++ (textAfter? (amb.ids 0) "corr_").getD (amb.ids 0)
  idempotencySha256 := digest
  reservedAt := amb.clock 0
  commitment := declared.runBudget

/-- No reservation of any campaign has the identity of the attempt. -/
def checkCollisions (s : EvaluationState) (attemptId : String) : Except StoreError Unit := do
  let collisions := s.reservations.rows.filter fun item => item.attemptId = attemptId
  collisions.forM fun item => (fun _ => ()) <$> snapshotOf svc s item.campaignId
  refuse (collisions ≠ []) ledgerConflict

/-- `reserve` of a slot under a key, neither of which was used. -/
def reserveNew (campaignId : String) (snapshot : EvaluationLedgerSnapshot) (slot : EvaluationSlot)
    (digest : Sha256) : EvaluationTxn EvaluationReservation := do
  let manifest := snapshot.manifest
  refuseIf (slot ∉ manifest.slots) ledgerConflict
  let declared ← expect .validation
    (manifest.cases.find? fun item => item.caseId = slot.caseId)
  refuseIf (¬ (snapshot.committed.extended declared.runBudget).within manifest.budget)
    campaignExhausted
  refuseIf (hasIdentity "corr" 32 (amb.ids 0) = false) .validation
  let reservation := newReservation svc amb campaignId manifest declared slot digest
  refuseIf (¬ reservation.validates) .validation
  reading fun s => checkCollisions svc s reservation.attemptId
  refuseIf (svc.encodes (svc.dump (.reservation reservation)) = false) ledgerInvalid
  insertReservation reservation
  let _ ← reading fun s => snapshotOf svc s campaignId
  return reservation

/-- `reserve`. -/
def reserve (campaignId caseId : String) (repetition : ℤ) (idempotencyKey : String) :
    EvaluationTxn EvaluationReservation := do
  let slot : EvaluationSlot := ⟨caseId, repetition.toNat⟩
  refuseIf (hasIdentity "campaign" 32 campaignId = false) .validation
  refuseIf (svc.cleanText campaignId = false) ledgerInvalid
  refuseIf (repetition < 0 ∨ ¬ slot.validates) .validation
  refuseIf (svc.encodes (svc.dump (.slot slot)) = false) ledgerInvalid
  refuseIf (isIdempotencyKey idempotencyKey = false) .validation
  refuseIf (svc.cleanText idempotencyKey = false
    ∨ svc.cleanText (JsonValue.str idempotencyKey).text = false) ledgerInvalid
  let digest := svc.keySha256 idempotencyKey
  beginLedger reads
  let snapshot ← reading fun s => snapshotOf svc s campaignId
  match snapshot.reservations.find? fun item =>
      item.slot = slot ∨ item.idempotencySha256 = digest with
  | some item => do
      refuseIf (¬ (item.slot = slot ∧ item.idempotencySha256 = digest)) ledgerConflict
      return item
  | none => reserveNew svc amb campaignId snapshot slot digest

/-! ### Outcomes -/

/-- The INSERT into `evaluation_outcomes`. -/
def insertOutcome (record : OutcomeRecord) : EvaluationTxn Unit := do
  let s ← get
  refuseIf (¬ s.hasReservation record.campaignId record.attemptId) .integrity
  let outcomes ← expect .integrity (s.outcomes.insert record)
  set { s with outcomes }

/-- An outcome is added to what the ledger holds of its campaign. -/
def addOutcome (snapshot : EvaluationLedgerSnapshot) (record : OutcomeRecord) :
    EvaluationTxn Unit := do
  let _ ← reading fun _ =>
    newSnapshot svc snapshot.registration snapshot.reservations (snapshot.outcomes ++ [record])
  refuseIf (svc.encodes (svc.dump (.outcome record)) = false) ledgerInvalid
  insertOutcome record

/-- An outcome that stands where `record_preflight_outcome` writes is the same one. -/
def replayOutcome (s : EvaluationState) (record row : OutcomeRecord) : Except StoreError Unit := do
  let _ ← snapshotOf svc s row.campaignId
  decodeRow svc (.outcome row) row.validates
  refuse (row ≠ record) ledgerConflict

/-- The journal registered an execution of the attempt. -/
def EvaluationState.claimed (s : EvaluationState) (attemptId : String) : Prop :=
  ∃ event ∈ s.events, isRegistrationEvent event = true
    ∧ payloadText? event "attempt_id" = some attemptId
deriving Decidable

/-- The outcomes with an identity of a record. -/
def EvaluationState.outcomesLike (s : EvaluationState) (record : OutcomeRecord) :
    List OutcomeRecord :=
  s.outcomes.rows.filter fun row =>
    row.outcomeId = record.outcomeId ∨ row.attemptId = record.attemptId

/-- `record_preflight_outcome`. -/
def recordPreflightOutcome (record : OutcomeRecord) : EvaluationTxn EvaluationLedgerSnapshot := do
  refuseIf (¬ record.validates) .validation
  refuseIf (svc.encodes (svc.dump (.outcome record)) = false) ledgerInvalid
  refuseIf (¬ record.isPreflight) .validation
  beginLedger reads
  let s ← get
  refuseIf ((s.executionOf? record.attemptId).isSome = true) ledgerConflict
  refuseIf (s.claimed record.attemptId) ledgerConflict
  let snapshot ← reading fun s => snapshotOf svc s record.campaignId
  if s.outcomesLike record ≠ [] then do
    reading fun s => (s.outcomesLike record).forM (replayOutcome svc s record)
    return snapshot
  else do
    addOutcome svc snapshot record
    reading fun s => snapshotOf svc s record.campaignId

/-- The fields of an outcome that a replay of its observation repeats. -/
def OutcomeRecord.sameObservation (record other : OutcomeRecord) : Prop :=
  { record with outcomeId := other.outcomeId, recordedAt := other.recordedAt } = other
deriving Decidable

/-- `_record_terminal_in_transaction`. -/
def recordTerminal (observation : EvaluationObservation) (record : OutcomeRecord) :
    EvaluationTxn OutcomeRecord := do
  refuseIf (¬ record.validates) .validation
  refuseIf (svc.encodes (svc.dump (.outcome record)) = false) ledgerInvalid
  refuseIf (¬ record.isTerminal) .validation
  refuseIf (¬ observation.projects record ∨ record.reportedCostMicrounits ≠ none
    ∨ record.currency ≠ none) ledgerConflict
  let snapshot ← reading fun s => snapshotOf svc s record.campaignId
  match snapshot.outcomes.find? fun item => item.attemptId = record.attemptId with
  | some original => do
      refuseIf (¬ original.sameObservation record) ledgerConflict
      return original
  | none => do
      addOutcome svc snapshot record
      return record

/-- `snapshot`. -/
def ledgerSnapshot (campaignId : String) : EvaluationTxn EvaluationLedgerSnapshot := do
  refuseIf (hasIdentity "campaign" 32 campaignId = false) .validation
  refuseIf (svc.cleanText campaignId = false) ledgerInvalid
  beginLedger reads
  reading fun s => snapshotOf svc s campaignId

end AgentFleet.Evaluation
