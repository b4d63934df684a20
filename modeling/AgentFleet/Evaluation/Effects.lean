import AgentFleet.Evaluation.Machine

/-! # What the evaluation stores do

`snapshotOf_ok` says what a snapshot holds; it is read from the rows of the campaign, each once.
Every operation has one lemma about its committed calls: it returns a row that is stored, and either
writes nothing or writes one row of a kind of `EvaluationMove`.  `evaluationMoves` collects them. -/

namespace AgentFleet.Evaluation

open Relational Relational.Table Transaction Transition

variable {svc : EvaluationServices} {reads : EvaluationReads} {amb : Ambient}
  {s t : EvaluationState}

/-! ### Snapshots -/

/-- What a snapshot says of the ledger. -/
structure Snapshots (svc : EvaluationServices) (s : EvaluationState) (campaignId : String)
    (snapshot : EvaluationLedgerSnapshot) : Prop where
  row : ∃ row, s.campaign? campaignId = some row ∧ snapshot.registration = row.registration
  registration : snapshot.registration.validates svc.toEvaluationModels
  reservations : snapshot.reservations.Perm (s.reservationsOf campaignId)
  outcomes : snapshot.outcomes.Perm (s.outcomesOf campaignId)
  valid : snapshot.validates svc.toEvaluationModels

variable {registration : CampaignRegistration} {u : Unit} {item : EvaluationReservation}
  {caseId : String} {record row : EvaluationExecutionRecord} {k : ℕ}
  {submission : EvaluationSubmission} {bindings : RunModelBindings} {status : ExecutionStatus}
  {claim : EvaluationClaim}

theorem newSnapshot_ok {reservations : List EvaluationReservation} {outcomes : List OutcomeRecord}
    {snapshot : EvaluationLedgerSnapshot} :
    newSnapshot svc registration reservations outcomes = .ok snapshot
      ↔ snapshot.validates svc.toEvaluationModels
        ∧ ⟨registration, reservations, outcomes, envelopesOf reservations⟩ = snapshot := by
  unfold newSnapshot
  rw [Checks.refuse_bind_ok, Checks.return_ok, not_not]
  constructor
  · rintro ⟨hvalid, rfl⟩
    exact ⟨hvalid, rfl⟩
  · rintro ⟨hvalid, rfl⟩
    exact ⟨hvalid, rfl⟩

/-- At most 256 rows that were sorted and read up to the 257th are all of the rows. -/
theorem take_mergeSort_perm {α : Type} {rows : List α} {le : α → α → Bool}
    (h : ((rows.mergeSort le).take 257).length ≤ 256) : ((rows.mergeSort le).take 257).Perm rows := by
  rw [List.length_take] at h
  have hall : (rows.mergeSort le).take 257 = rows.mergeSort le := by
    refine List.take_of_length_le ?_
    omega
  rw [hall]
  exact List.mergeSort_perm rows le

theorem snapshotOf_ok {campaignId : String} {snapshot : EvaluationLedgerSnapshot}
    (h : snapshotOf svc s campaignId = .ok snapshot) : Snapshots svc s campaignId snapshot := by
  obtain ⟨row, hrow, h⟩ := Checks.bind_ok.mp h
  rw [Checks.demand_ok] at hrow
  obtain ⟨registration, hregistration, h⟩ := Checks.bind_ok.mp h
  obtain ⟨_, -, h⟩ := Checks.bind_ok.mp h
  obtain ⟨-, h⟩ := Checks.refuse_bind_ok.mp h
  obtain ⟨-, h⟩ := Checks.refuse_bind_ok.mp h
  obtain ⟨reservations, hreservations, h⟩ := Checks.bind_ok.mp h
  obtain ⟨outcomes, houtcomes, h⟩ := Checks.bind_ok.mp h
  obtain ⟨hvalid, rfl⟩ := newSnapshot_ok.1 h
  obtain ⟨_, hdecoded, hregistration⟩ := Checks.bind_ok.mp hregistration
  obtain ⟨-, hregistration⟩ := Checks.refuse_bind_ok.mp hregistration
  obtain ⟨_, -, hreservations⟩ := Checks.bind_ok.mp hreservations
  obtain ⟨_, -, houtcomes⟩ := Checks.bind_ok.mp houtcomes
  rw [Checks.return_ok] at hregistration hreservations houtcomes
  subst hregistration hreservations houtcomes
  have hregistered := (Checks.refuse_bind_ok.mp hdecoded).2
  exact ⟨⟨row, hrow, rfl⟩, not_not.mp (Checks.refuse_ok.mp hregistered), take_mergeSort_perm hvalid.1, take_mergeSort_perm hvalid.2.1, hvalid⟩

theorem beginLedger_ok (h : beginLedger reads s = .ok (u, t)) : s = t := by
  unfold beginLedger at h
  rw [refuseIf_bind_ok, get_bind_ok, refuseIf_ok] at h
  exact h.2.2

theorem beginLedger_bind {α : Type} {f : Unit → EvaluationTxn α} {a : α}
    (h : (beginLedger reads >>= f) s = .ok (a, t)) : f () s = .ok (a, t) := by
  obtain ⟨_, _, hbegin, h⟩ := bind_ok.mp h
  obtain rfl := beginLedger_ok hbegin
  exact h

/-! ### Moves -/

/-- What a committed transaction does to the tables. -/
inductive EvaluationMove (svc : EvaluationServices) (s : EvaluationState) : EvaluationState → Prop
  where
  | shared (database : Database) : EvaluationMove svc s { s with database }
  | registered {row : CampaignRow} {campaigns : Table CampaignRow} {slots : Table SlotRow}
      {snapshot : EvaluationLedgerSnapshot} (hrow : s.campaigns.insert row = some campaigns)
      (hslots : Carries Eq s.slots slots)
      (hvalid : Snapshots svc { s with campaigns, slots } row.campaignId snapshot) :
      EvaluationMove svc s { s with campaigns, slots }
  | reserved {item : EvaluationReservation} {reservations : Table EvaluationReservation}
      {snapshot : EvaluationLedgerSnapshot} (hitem : s.reservations.insert item = some reservations)
      (hvalid : Snapshots svc { s with reservations } item.campaignId snapshot) :
      EvaluationMove svc s { s with reservations }
  | recorded {record : OutcomeRecord} {outcomes : Table OutcomeRecord}
      {snapshot extended : EvaluationLedgerSnapshot}
      (hrecord : s.outcomes.insert record = some outcomes)
      (hfree : record.rootRunId = none → s.executionOf? record.attemptId = none)
      (hsnapshot : Snapshots svc s record.campaignId snapshot)
      (hextended : newSnapshot svc snapshot.registration snapshot.reservations
        (snapshot.outcomes ++ [record]) = .ok extended) :
      EvaluationMove svc s { s with outcomes }
  | executed {record : EvaluationExecutionRecord} {executions : Table EvaluationExecutionRecord}
      {database : Database} (hrecord : s.executions.insert record = some executions)
      (hreserved : s.hasReservation record.campaignId record.attemptId)
      (hfree : s.outcomeOf? record.attemptId = none) (hactive : record.status = .active) :
      EvaluationMove svc s { s with executions, database }
  | ended {record : EvaluationExecutionRecord} {status : ExecutionStatus} {now : Timestamp}
      {executions : Table EvaluationExecutionRecord} {database : Database}
      (hactive : record.status = .active) (hstatus : status ≠ .active)
      (hrecord : s.executions.replace? record (record.ended status now) = some executions) :
      EvaluationMove svc s { s with executions, database }

/-! ### Campaigns -/

theorem insertSlots_ok {campaignId : String} {slots : List EvaluationSlot}
    (h : (slots.forM fun slot => insertSlot ⟨campaignId, slot⟩) s = .ok (u, t)) :
    ∃ rows, t = { s with slots := rows } ∧ Carries Eq s.slots rows := by
  induction slots generalizing s with
  | nil =>
      obtain ⟨-, rfl⟩ := pure_ok.mp h
      exact ⟨s.slots, rfl, .refl (fun _ => rfl) _⟩
  | cons slot slots ih =>
      obtain ⟨_, u, hfirst, hrest⟩ := bind_ok.mp h
      unfold insertSlot at hfirst
      rw [get_bind_ok, refuseIf_bind_ok, expect_bind_ok] at hfirst
      obtain ⟨-, rows, hrows, hset⟩ := hfirst
      obtain rfl := set_ok.mp hset
      obtain ⟨rows', rfl, hcarries⟩ := ih hrest
      have hinsert : Carries Eq s.slots rows := .insert (fun _ => rfl) hrows
      exact ⟨rows', rfl, hinsert.trans (fun _ _ _ hab hbc => hab.trans hbc) hcarries⟩

theorem registerCampaign_ok {manifest : EvaluationManifest}
    (h : registerCampaign svc amb manifest s = .ok (registration, t)) : EvaluationMove svc s t := by
  unfold registerCampaign at h
  rw [refuseIf_bind_ok, reading_bind_ok] at h
  obtain ⟨-, _, -, h⟩ := h
  rw [refuseIf_bind_ok] at h
  obtain ⟨_, s₁, hcampaign, h⟩ := bind_ok.mp h.2
  unfold insertCampaign at hcampaign
  rw [get_bind_ok, expect_bind_ok] at hcampaign
  obtain ⟨campaigns, hrow, hset⟩ := hcampaign
  obtain rfl := set_ok.mp hset
  obtain ⟨_, s₂, hslots, h⟩ := bind_ok.mp h
  obtain ⟨slots, rfl, hcarries⟩ := insertSlots_ok hslots
  obtain ⟨snapshot, hsnapshot, h⟩ := reading_bind_ok.mp h
  obtain ⟨-, rfl⟩ := pure_ok.mp h
  exact .registered hrow hcarries (snapshotOf_ok hsnapshot)

theorem register_ok {manifest : EvaluationManifest}
    (h : register svc reads amb manifest s = .ok (registration, t)) :
    s = t ∨ EvaluationMove svc s t := by
  unfold register at h
  rw [refuseIf_bind_ok, refuseIf_bind_ok] at h
  have hread := beginLedger_bind h.2.2
  obtain ⟨known, -, h⟩ := reading_bind_ok.mp hread
  cases hlast : known.getLast? with
  | some =>
      rw [hlast] at h
      exact .inl (pure_ok.mp h).2
  | none =>
      rw [hlast] at h
      exact .inr (registerCampaign_ok h)

/-! ### Reservations -/

/-- The reservation is of a slot of a campaign under a key. -/
structure Reserves (item : EvaluationReservation) (campaignId : String) (slot : EvaluationSlot)
    (digest : Sha256) : Prop where
  campaign : item.campaignId = campaignId
  slot : item.slot = slot
  digest : item.idempotencySha256 = digest

theorem reserveNew_ok {campaignId : String} {snapshot : EvaluationLedgerSnapshot}
    {slot : EvaluationSlot} {digest : Sha256}
    (h : reserveNew svc amb campaignId snapshot slot digest s = .ok (item, t)) :
    item ∈ t.reservations ∧ Reserves item campaignId slot digest
      ∧ (∀ other ∈ s.reservations, ¬ clash other item) ∧ EvaluationMove svc s t := by
  unfold reserveNew at h
  dsimp only at h
  rw [refuseIf_bind_ok, expect_bind_ok] at h
  obtain ⟨-, declared, -, h⟩ := h
  rw [refuseIf_bind_ok, refuseIf_bind_ok, refuseIf_bind_ok, reading_bind_ok] at h
  obtain ⟨-, -, -, _, -, h⟩ := h
  rw [refuseIf_bind_ok] at h
  obtain ⟨_, s₁, hinsert, h⟩ := bind_ok.mp h.2
  unfold insertReservation at hinsert
  rw [get_bind_ok, refuseIf_bind_ok, expect_bind_ok] at hinsert
  obtain ⟨-, reservations, hitem, hset⟩ := hinsert
  obtain rfl := set_ok.mp hset
  obtain ⟨after, hafter, h⟩ := reading_bind_ok.mp h
  obtain ⟨rfl, rfl⟩ := pure_ok.mp h
  exact ⟨(mem_insert hitem).mpr (.inr rfl), ⟨rfl, rfl, rfl⟩, fun _ => not_clash_of_insert hitem,
    .reserved hitem (snapshotOf_ok hafter)⟩

/-- A committed reservation: it was stored, or it is new. -/
theorem reserve_ok {campaignId : String} {repetition : ℤ} {key : String}
    (h : reserve svc reads amb campaignId caseId repetition key s = .ok (item, t)) :
    item ∈ t.reservations ∧ Reserves item campaignId ⟨caseId, repetition.toNat⟩ (svc.keySha256 key)
      ∧ (s = t ∨ (∀ other ∈ s.reservations, ¬ clash other item) ∧ EvaluationMove svc s t) := by
  unfold reserve at h
  dsimp only at h
  rw [refuseIf_bind_ok, refuseIf_bind_ok, refuseIf_bind_ok, refuseIf_bind_ok, refuseIf_bind_ok,
    refuseIf_bind_ok] at h
  have hread := beginLedger_bind h.2.2.2.2.2.2
  obtain ⟨snapshot, hsnapshot, h⟩ := reading_bind_ok.mp hread
  have hreservations := (snapshotOf_ok hsnapshot).reservations
  cases hfound : snapshot.reservations.find? fun item =>
      item.slot = ⟨caseId, repetition.toNat⟩ ∨ item.idempotencySha256 = svc.keySha256 key with
  | some known =>
      rw [hfound] at h
      obtain ⟨hsame, h⟩ := refuseIf_bind_ok.mp h
      obtain ⟨rfl, rfl⟩ := pure_ok.mp h
      obtain ⟨hslot, hdigest⟩ := not_not.mp hsame
      have hmem := hreservations.mem_iff.mp (List.mem_of_find?_eq_some hfound)
      obtain ⟨hrow, hcampaign⟩ := List.mem_filter.mp hmem
      exact ⟨hrow, ⟨of_decide_eq_true hcampaign, hslot, hdigest⟩, .inl rfl⟩
  | none =>
      rw [hfound] at h
      obtain ⟨hmem, hreserves, hnew, hmove⟩ := reserveNew_ok h
      exact ⟨hmem, hreserves, .inr ⟨hnew, hmove⟩⟩

/-! ### Outcomes -/

theorem addOutcome_ok {snapshot : EvaluationLedgerSnapshot} {record : OutcomeRecord}
    (h : addOutcome svc snapshot record s = .ok (u, t)) :
    ∃ outcomes extended, s.outcomes.insert record = some outcomes
      ∧ newSnapshot svc snapshot.registration snapshot.reservations (snapshot.outcomes ++ [record])
        = .ok extended
      ∧ t = { s with outcomes } := by
  unfold addOutcome at h
  obtain ⟨extended, hextended, h⟩ := reading_bind_ok.mp h
  rw [refuseIf_bind_ok] at h
  unfold insertOutcome at h
  rw [get_bind_ok, refuseIf_bind_ok, expect_bind_ok] at h
  obtain ⟨-, -, outcomes, houtcomes, hset⟩ := h
  exact ⟨outcomes, extended, houtcomes, hextended, (set_ok.mp hset).symm⟩

theorem replayOutcome_ok {record row : OutcomeRecord} (h : replayOutcome svc s record row = .ok u) :
    row = record := by
  obtain ⟨_, -, h⟩ := Checks.bind_ok.mp h
  obtain ⟨_, -, h⟩ := Checks.bind_ok.mp h
  exact not_not.mp (Checks.refuse_ok.mp h)

/-- A committed outcome of an attempt that was not run: it was stored, or it is new. -/
theorem recordPreflightOutcome_ok {record : OutcomeRecord} {snapshot : EvaluationLedgerSnapshot}
    (h : recordPreflightOutcome svc reads record s = .ok (snapshot, t)) :
    record ∈ t.outcomes ∧ record.rootRunId = none
      ∧ (s = t ∨ (∀ other ∈ s.outcomes, ¬ clash other record) ∧ EvaluationMove svc s t) := by
  unfold recordPreflightOutcome at h
  rw [refuseIf_bind_ok, refuseIf_bind_ok, refuseIf_bind_ok] at h
  obtain ⟨-, -, hpreflight, h⟩ := h
  obtain ⟨-, hroot, -⟩ := not_not.mp hpreflight
  have hread := beginLedger_bind h
  rw [get_bind_ok, refuseIf_bind_ok, refuseIf_bind_ok] at hread
  obtain ⟨hfree, -, h⟩ := hread
  obtain ⟨before, hbefore, h⟩ := reading_bind_ok.mp h
  have hsnapshot := snapshotOf_ok hbefore
  have hnone : s.executionOf? record.attemptId = none := Option.not_isSome_iff_eq_none.mp hfree
  split_ifs at h with hlike
  · obtain ⟨_, hreplay, h⟩ := reading_bind_ok.mp h
    obtain ⟨-, rfl⟩ := pure_ok.mp h
    rw [Checks.forM_ok] at hreplay
    obtain ⟨row, hrow⟩ := List.exists_mem_of_ne_nil _ hlike
    obtain rfl := replayOutcome_ok (hreplay row hrow)
    exact ⟨(List.mem_filter.mp hrow).1, hroot, .inl rfl⟩
  · obtain ⟨_, s₁, hadd, h⟩ := bind_ok.mp h
    obtain ⟨outcomes, extended, houtcomes, hextended, rfl⟩ := addOutcome_ok hadd
    obtain ⟨-, rfl⟩ := reading_ok.mp h
    exact ⟨(mem_insert houtcomes).mpr (.inr rfl), hroot, .inr ⟨fun _ => not_clash_of_insert houtcomes,
      .recorded houtcomes (fun _ => hnone) hsnapshot hextended⟩⟩

/-- A committed terminal outcome: one of the same observation was stored, or it is new. -/
theorem recordTerminal_ok {observation : EvaluationObservation} {record stored : OutcomeRecord}
    (h : recordTerminal svc observation record s = .ok (stored, t)) :
    stored ∈ t.outcomes ∧ stored.sameObservation record
      ∧ (s = t ∧ stored.attemptId = record.attemptId
        ∨ (∀ other ∈ s.outcomes, ¬ clash other record) ∧ EvaluationMove svc s t) := by
  unfold recordTerminal at h
  rw [refuseIf_bind_ok, refuseIf_bind_ok, refuseIf_bind_ok, refuseIf_bind_ok] at h
  obtain ⟨-, -, hterminal, -, h⟩ := h
  obtain ⟨hroot, -⟩ := not_not.mp hterminal
  obtain ⟨snapshot, hread, h⟩ := reading_bind_ok.mp h
  have hsnapshot := snapshotOf_ok hread
  cases hfound : snapshot.outcomes.find? fun item => item.attemptId = record.attemptId with
  | some original =>
      rw [hfound] at h
      obtain ⟨hsame, h⟩ := refuseIf_bind_ok.mp h
      obtain ⟨rfl, rfl⟩ := pure_ok.mp h
      have hmem := hsnapshot.outcomes.mem_iff.mp (List.mem_of_find?_eq_some hfound)
      have hattempt : original.attemptId = record.attemptId := by
        simpa using List.find?_some hfound
      exact ⟨(List.mem_filter.mp hmem).1, not_not.mp hsame, .inl ⟨rfl, hattempt⟩⟩
  | none =>
      rw [hfound] at h
      obtain ⟨_, s₁, hadd, h⟩ := bind_ok.mp h
      obtain ⟨outcomes, extended, houtcomes, hextended, rfl⟩ := addOutcome_ok hadd
      obtain ⟨rfl, rfl⟩ := pure_ok.mp h
      exact ⟨(mem_insert houtcomes).mpr (.inr rfl), rfl, .inr ⟨fun _ => not_clash_of_insert houtcomes,
        .recorded houtcomes (fun hnone => absurd hnone hroot) hsnapshot hextended⟩⟩

/-! ### Executions -/

theorem recordOf_ok {rootRunId : String} (h : recordOf svc reads s rootRunId = .ok (some record)) :
    s.execution? rootRunId = some record ∧ checkRecord svc reads s record = .ok () := by
  unfold recordOf at h
  cases hrow : s.execution? rootRunId with
  | none =>
      rw [hrow] at h
      obtain ⟨-, h⟩ := Checks.refuse_bind_ok.mp h
      cases Checks.return_ok.mp h
  | some =>
      rw [hrow] at h
      obtain ⟨_, hcheck, h⟩ := Checks.bind_ok.mp h
      obtain rfl := Option.some.inj (Checks.return_ok.mp h)
      exact ⟨rfl, hcheck⟩

theorem execution?_mem {rootRunId : String} (h : s.execution? rootRunId = some record) :
    record ∈ s.executions ∧ record.rootRunId = rootRunId :=
  ⟨mem_of_find? h, by simpa using prop_of_find? h⟩

theorem executionOf?_mem {attemptId : String} (h : s.executionOf? attemptId = some record) :
    record ∈ s.executions ∧ record.attemptId = attemptId :=
  ⟨mem_of_find? h, by simpa using prop_of_find? h⟩

theorem onDatabase_ok {α : Type} {x : DatabaseTxn α} {a : α} (h : onDatabase x s = .ok (a, t)) :
    ∃ database, x s.database = .ok (a, database) ∧ t = { s with database } := by
  unfold onDatabase at h
  obtain ⟨database, hx, rfl⟩ := onPart_ok.mp h
  exact ⟨database, hx, rfl⟩

theorem journalExecution_ok {kind : String}
    (h : journalExecution svc amb k record kind s = .ok (u, t)) :
    ∃ database, t = { s with database } := by
  unfold journalExecution at h
  obtain ⟨run, -, h⟩ := reading_bind_ok.mp h
  obtain ⟨database, -, rfl⟩ := onDatabase_ok h
  exact ⟨database, rfl⟩

theorem insertExecution_ok (h : insertExecution svc amb k record s = .ok (u, t)) :
    ∃ executions database, s.executions.insert record = some executions
      ∧ s.hasReservation record.campaignId record.attemptId
      ∧ t = { s with executions, database } := by
  unfold insertExecution at h
  rw [refuseIf_bind_ok, get_bind_ok, refuseIf_bind_ok, expect_bind_ok] at h
  obtain ⟨-, hreferences, executions, hrecord, h⟩ := h
  have hreserved := not_not.mp (not_or.mp hreferences).1
  obtain ⟨_, s₁, hset, h⟩ := bind_ok.mp h
  obtain rfl := set_ok.mp hset
  obtain ⟨database, rfl⟩ := journalExecution_ok h
  exact ⟨executions, database, hrecord, hreserved, rfl⟩

/-- The end of a committed registration: the execution is active, stored and claimed. -/
theorem writeExecution_ok {declared : EvaluationCase} {repo : EvaluationRepository} {run : Run}
    {registration : EvaluationRegistration}
    (h : writeExecution svc reads amb submission declared repo run bindings s
      = .ok (registration, t)) :
    ∃ record executions database, registration = { record, claim := some record.claim }
      ∧ record.binding.submission = submission ∧ record.status = .active
      ∧ s.executions.insert record = some executions
      ∧ s.hasReservation record.campaignId record.attemptId
      ∧ t = { s with executions, database } := by
  unfold writeExecution at h
  obtain ⟨limits, -, h⟩ := expect_bind_ok.mp h
  obtain ⟨_, -, h⟩ := reading_bind_ok.mp h
  obtain ⟨_, s₁, hrun, h⟩ := bind_ok.mp h
  obtain ⟨database₁, -, rfl⟩ := onDatabase_ok hrun
  obtain ⟨_, -, h⟩ := reading_bind_ok.mp h
  obtain ⟨_, s₂, hbudget, h⟩ := bind_ok.mp h
  obtain ⟨database₂, -, rfl⟩ := onDatabase_ok hbudget
  obtain ⟨snapshot, -, h⟩ := reading_bind_ok.mp h
  obtain ⟨reservation, -, h⟩ := expect_bind_ok.mp h
  obtain ⟨-, h⟩ := refuseIf_bind_ok.mp h
  obtain ⟨-, h⟩ := refuseIf_bind_ok.mp h
  obtain ⟨_, s₃, hinsert, h⟩ := bind_ok.mp h
  obtain ⟨executions, database, hrecord, hreserved, rfl⟩ := insertExecution_ok hinsert
  obtain ⟨found, hfound, h⟩ := reading_bind_ok.mp h
  obtain ⟨checked, rfl, h⟩ := expect_bind_ok.mp h
  obtain ⟨rfl, rfl⟩ := pure_ok.mp h
  obtain ⟨hchecked, hroot⟩ := execution?_mem (recordOf_ok hfound).1
  obtain rfl : checked = _ :=
    eq_of_clash hchecked ((mem_insert hrecord).mpr (.inr rfl)) (.inr hroot)
  exact ⟨_, executions, database, rfl, rfl, rfl, hrecord, hreserved, rfl⟩

theorem registerNew_ok {manifest : EvaluationManifest} {run : Run}
    {admission : EvaluationAdmission} {registration : EvaluationRegistration}
    (h : registerNew svc reads amb submission manifest run admission bindings s
      = .ok (registration, t)) : ∃ record, registration = { record, claim := some record.claim }
      ∧ record.binding.submission = submission ∧ record ∈ t.executions
      ∧ admitCampaign svc reads s (amb.after 8).clock submission.campaignId = .ok ()
      ∧ EvaluationMove svc s t := by
  unfold registerNew at h
  rw [get_bind_ok] at h
  obtain ⟨_, -, h⟩ := reading_bind_ok.mp h
  obtain ⟨houtcome, h⟩ := refuseIf_bind_ok.mp h
  obtain ⟨⟨declared, repo⟩, -, h⟩ := reading_bind_ok.mp h
  obtain ⟨-, h⟩ := refuseIf_bind_ok.mp h
  obtain ⟨_, -, h⟩ := reading_bind_ok.mp h
  obtain ⟨_, hallowed, h⟩ := reading_bind_ok.mp h
  obtain ⟨record, executions, database, hregistration, hsubmission, hactive, hrecord, hreserved,
    rfl⟩ := writeExecution_ok h
  have hfree : s.outcomeOf? record.attemptId = none := by
    unfold EvaluationExecutionRecord.attemptId
    rw [hsubmission]
    exact Option.not_isSome_iff_eq_none.mp houtcome
  exact ⟨record, hregistration, hsubmission, (mem_insert hrecord).mpr (.inr rfl), hallowed,
    .executed hrecord hreserved hfree hactive⟩

/-- What a committed registration answers: the stored execution of the attempt and no claim, or a
new execution and the claim to it. -/
inductive Registers (svc : EvaluationServices) (reads : EvaluationReads) (amb : Ambient)
    (s : EvaluationState) (submission : EvaluationSubmission) (registration : EvaluationRegistration)
    (t : EvaluationState) : Prop where
  | replayed (hstored : s.executionOf? submission.attemptId = some registration.record)
      (hclaim : registration.claim = none) (hsame : s = t)
  | new (hfree : s.executionOf? submission.attemptId = none)
      (hsubmission : registration.record.binding.submission = submission)
      (hclaim : registration.claim = some registration.record.claim)
      (hstored : registration.record ∈ t.executions)
      (hallowed : admitCampaign svc reads s (amb.after 8).clock submission.campaignId = .ok ())
      (hmove : EvaluationMove svc s t)

theorem registerExecution_ok {run : Run} {admission : EvaluationAdmission}
    {registration : EvaluationRegistration}
    (h : registerExecution svc reads amb submission run admission bindings s
      = .ok (registration, t)) : Registers svc reads amb s submission registration t := by
  unfold registerExecution at h
  rw [refuseIf_bind_ok] at h
  have hread := beginLedger_bind h.2
  obtain ⟨manifest, -, h⟩ := reading_bind_ok.mp hread
  rw [get_bind_ok] at h
  cases hknown : s.executionOf? submission.attemptId with
  | some row =>
      rw [hknown] at h
      obtain ⟨found, hfound, h⟩ := reading_bind_ok.mp h
      obtain ⟨existing, rfl, hrest⟩ := expect_bind_ok.mp h
      obtain ⟨-, hpure⟩ := refuseIf_bind_ok.mp hrest
      obtain ⟨rfl, rfl⟩ := pure_ok.mp hpure
      obtain ⟨hexisting, hroot⟩ := execution?_mem (recordOf_ok hfound).1
      obtain ⟨hrow, -⟩ := executionOf?_mem hknown
      obtain rfl : existing = row := eq_of_clash hexisting hrow (.inr hroot)
      exact .replayed hknown rfl rfl
  | none =>
      rw [hknown] at h
      obtain ⟨record, rfl, hsubmission, hstored, hallowed, hmove⟩ := registerNew_ok h
      exact .new hknown hsubmission rfl hstored hallowed hmove

/-! ### Ends -/

theorem endExecution_ok {updated : EvaluationExecutionRecord}
    (hrow : s.execution? record.rootRunId = some record)
    (h : endExecution svc amb record status s = .ok (updated, t)) :
    updated = record.ended status (amb.clock 0) ∧ ∃ executions database,
      s.executions.replace? record updated = some executions
        ∧ t = { s with executions, database } := by
  unfold endExecution at h
  obtain ⟨-, h⟩ := refuseIf_bind_ok.mp h
  obtain ⟨_, s₁, hupdate, h⟩ := bind_ok.mp h
  obtain ⟨rfl, rfl⟩ := pure_ok.mp h
  unfold updateExecution at hupdate
  rw [refuseIf_bind_ok, get_bind_ok, expect_bind_ok] at hupdate
  obtain ⟨-, executions, hwritten, hjournal⟩ := hupdate
  obtain ⟨_, s₂, hset, hjournal⟩ := bind_ok.mp hjournal
  obtain rfl := set_ok.mp hset
  obtain ⟨database, rfl⟩ := journalExecution_ok hjournal
  exact ⟨rfl, executions, database, rewrite?_of_find? hrow hwritten, rfl⟩

/-- What a committed end answers: the execution as it was if it had ended before, or the execution
that ended now. -/
inductive Ends (svc : EvaluationServices) (amb : Ambient) (s : EvaluationState)
    (row : EvaluationExecutionRecord) (status : ExecutionStatus) (record : EvaluationExecutionRecord)
    (t : EvaluationState) : Prop where
  | replayed (hended : row.status ≠ .active) (hrecord : record = row) (hsame : s = t)
  | now (hactive : row.status = .active) (hrecord : record = row.ended status (amb.clock 0))
      (hstored : record ∈ t.executions) (hmove : EvaluationMove svc s t)

theorem ends_of_endExecution (hrow : s.execution? row.rootRunId = some row)
    (hactive : row.status = .active) (hstatus : status ≠ .active)
    (h : endExecution svc amb row status s = .ok (record, t)) :
    Ends svc amb s row status record t := by
  obtain ⟨rfl, executions, database, hreplaced, rfl⟩ := endExecution_ok hrow h
  exact .now hactive rfl ((mem_replace? hreplaced).mpr (.inl rfl))
    (.ended hactive hstatus hreplaced)

theorem settle_ok (h : settle svc reads amb claim s = .ok (record, t)) :
    ∃ row, s.execution? claim.rootRunId = some row ∧ row.claim = claim
      ∧ Ends svc amb s row .settled record t := by
  have hread := beginLedger_bind h
  obtain ⟨found, hfound, h⟩ := reading_bind_ok.mp hread
  obtain ⟨row, rfl, hrest⟩ := expect_bind_ok.mp h
  obtain ⟨hclaim, hend⟩ := refuseIf_bind_ok.mp hrest
  have hrow := (recordOf_ok hfound).1
  refine ⟨row, hrow, not_not.mp hclaim, ?_⟩
  split_ifs at hend with hactive
  · obtain ⟨rfl, rfl⟩ := pure_ok.mp hend
    exact .replayed hactive rfl rfl
  · obtain ⟨run, -, hstop⟩ := reading_bind_ok.mp hend
    obtain ⟨-, hstop⟩ := refuseIf_bind_ok.mp hstop
    rw [← (execution?_mem hrow).2] at hrow
    exact ends_of_endExecution hrow (not_not.mp hactive) (by decide) hstop

theorem fence_ok {rootRunId : String} (h : fence svc reads amb rootRunId s = .ok (record, t)) :
    ∃ row, s.execution? rootRunId = some row ∧ Ends svc amb s row .fenced record t := by
  have hread := beginLedger_bind h
  obtain ⟨found, hfound, h⟩ := reading_bind_ok.mp hread
  obtain ⟨row, rfl, hend⟩ := expect_bind_ok.mp h
  have hrow := (recordOf_ok hfound).1
  refine ⟨row, hrow, ?_⟩
  split_ifs at hend with hactive
  · obtain ⟨rfl, rfl⟩ := pure_ok.mp hend
    exact .replayed hactive rfl rfl
  · rw [← (execution?_mem hrow).2] at hrow
    exact ends_of_endExecution hrow (not_not.mp hactive) (by decide) hend

theorem Ends.move (h : Ends svc amb s row status record t) : s = t ∨ EvaluationMove svc s t := by
  cases h with
  | replayed _ _ hsame => exact .inl hsame
  | now _ _ _ hmove => exact .inr hmove

/-! ### Lookups -/

theorem ledgerSnapshot_ok {campaignId : String} {snapshot : EvaluationLedgerSnapshot}
    (h : ledgerSnapshot svc reads campaignId s = .ok (snapshot, t)) : s = t := by
  unfold ledgerSnapshot at h
  rw [refuseIf_bind_ok, refuseIf_bind_ok] at h
  exact (reading_ok.mp (beginLedger_bind h.2.2)).2

theorem submissionFor_ok {campaignId : String} {manifestSha256 : Sha256} {repetition : ℕ}
    {idempotencyKey : String}
    (h : submissionFor svc reads campaignId manifestSha256 caseId repetition idempotencyKey s
      = .ok (submission, t)) : s = t := by
  unfold submissionFor at h
  rw [refuseIf_bind_ok, refuseIf_bind_ok] at h
  have hread := beginLedger_bind h.2.2
  obtain ⟨snapshot, -, h⟩ := reading_bind_ok.mp hread
  dsimp only at h
  rw [refuseIf_bind_ok, expect_bind_ok] at h
  obtain ⟨-, item, -, h⟩ := h
  obtain ⟨_, -, h⟩ := reading_bind_ok.mp h
  exact (pure_ok.mp h).2

theorem forRun_ok {runId : String} {found : Option EvaluationExecutionRecord}
    (h : forRun svc reads runId s = .ok (found, t)) : s = t := by
  unfold forRun at h
  rw [refuseIf_bind_ok] at h
  exact (reading_ok.mp (beginLedger_bind h.2)).2

theorem forAttempt_ok {found : Option EvaluationExecutionRecord}
    (h : forAttempt svc reads submission s = .ok (found, t)) : s = t := by
  have hread := beginLedger_bind h
  obtain ⟨manifest, -, h⟩ := reading_bind_ok.mp hread
  rw [get_bind_ok] at h
  cases hknown : s.executionOf? submission.attemptId with
  | some =>
      rw [hknown] at h
      exact (reading_ok.mp h).2
  | none =>
      rw [hknown] at h
      obtain ⟨_, -, h⟩ := reading_bind_ok.mp h
      exact (pure_ok.mp h).2

theorem assertClaim_ok (h : assertClaim svc reads claim s = .ok (record, t)) : s = t := by
  have hread := beginLedger_bind h
  obtain ⟨found, -, h⟩ := reading_bind_ok.mp hread
  obtain ⟨row, -, h⟩ := expect_bind_ok.mp h
  obtain ⟨-, h⟩ := refuseIf_bind_ok.mp h
  exact (pure_ok.mp h).2

/-! ### Steps -/

theorem sharedBody_ok {op : DatabaseOp} {result : DatabaseResult}
    (h : sharedBody svc reads amb op s = .ok (result, t)) :
    ∃ database, databaseBody svc.toDatabaseServices
        (admittedReads svc reads s (amb.after 16).clock) amb op s.database = .ok (result, database)
      ∧ t = { s with database } := by
  unfold sharedBody at h
  rw [get_bind_ok] at h
  exact onDatabase_ok h

/-- A committed call writes nothing, or one row. -/
theorem evaluationBody_move {op : EvaluationOp} {result : EvaluationResult}
    (h : evaluationBody svc reads amb op s = .ok (result, t)) : s = t ∨ EvaluationMove svc s t := by
  cases op with
  | register =>
      obtain ⟨registration, h, -⟩ := map_ok.mp h
      exact register_ok (withinBoundary_ok.mp h)
  | reserve =>
      obtain ⟨item, h, -⟩ := map_ok.mp h
      exact (reserve_ok (withinBoundary_ok.mp h)).2.2.imp_right And.right
  | recordPreflightOutcome =>
      obtain ⟨snapshot, h, -⟩ := map_ok.mp h
      exact (recordPreflightOutcome_ok (withinBoundary_ok.mp h)).2.2.imp_right And.right
  | recordTerminal =>
      obtain ⟨stored, h, -⟩ := map_ok.mp h
      exact (recordTerminal_ok (withinBoundary_ok.mp h)).2.2.imp And.left And.right
  | snapshot =>
      obtain ⟨snapshot, h, -⟩ := map_ok.mp h
      exact .inl (ledgerSnapshot_ok (withinBoundary_ok.mp h))
  | submission =>
      obtain ⟨submission, h, -⟩ := map_ok.mp h
      exact .inl (submissionFor_ok (withinBoundary_ok.mp h))
  | forRun =>
      obtain ⟨found, h, -⟩ := map_ok.mp h
      exact .inl (forRun_ok (withinBoundary_ok.mp h))
  | forAttempt =>
      obtain ⟨found, h, -⟩ := map_ok.mp h
      exact .inl (forAttempt_ok (withinBoundary_ok.mp h))
  | registerExecution =>
      obtain ⟨registration, h, -⟩ := map_ok.mp h
      cases registerExecution_ok (withinBoundary_ok.mp h) with
      | replayed _ _ hsame => exact .inl hsame
      | new _ _ _ _ _ hmove => exact .inr hmove
  | assertClaim =>
      obtain ⟨record, h, -⟩ := map_ok.mp h
      exact .inl (assertClaim_ok (withinBoundary_ok.mp h))
  | settle =>
      obtain ⟨record, h, -⟩ := map_ok.mp h
      obtain ⟨row, -, -, hends⟩ := settle_ok (withinBoundary_ok.mp h)
      exact hends.move
  | fence =>
      obtain ⟨record, h, -⟩ := map_ok.mp h
      obtain ⟨row, -, hends⟩ := fence_ok (withinBoundary_ok.mp h)
      exact hends.move
  | database =>
      obtain ⟨answer, h, -⟩ := map_ok.mp h
      obtain ⟨database, -, rfl⟩ := sharedBody_ok h
      exact .inr (.shared database)

/-- Every step of the machine writes nothing, or one row. -/
theorem evaluationMoves (svc : EvaluationServices) :
    (evaluationMachine svc).Moves (EvaluationMove svc) := by
  intro s input
  rcases next_cases svc s input with ⟨result, hbody, -⟩ | ⟨_, -, hsame⟩
  · rcases evaluationBody_move hbody with hsame | hmove
    · rw [← hsame]
    · exact .single hmove
  · rw [hsame]

end AgentFleet.Evaluation
