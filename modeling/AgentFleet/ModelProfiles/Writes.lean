import AgentFleet.ModelProfiles.Operations

/-! # What a call writes

`Written` says what a committed write leaves: one receipt more, and the record that the receipt is
for.  `next_cases` says that a call leaves what it planned or nothing; `next_of_written` that what
it planned is committed when it can be stored. -/

namespace AgentFleet.ModelProfiles

open Relational Transaction Checks Versions Transition

/-! ### Stored writes -/

/-- The row of a written profile. -/
def profileVersion (svc : ModelServices) (auditSequence : ℕ) (profile : ModelProfile)
    (removed : Bool) : Version String ProfileRecord where
  key := profile.name
  revision := profile.revision
  record := { removed, recordSha256 := profileSha256 svc profile, profile, auditSequence }

/-- The row of a written selection. -/
def selectionVersion (svc : ModelServices) (auditSequence : ℕ)
    (selection : ProjectModelSelection) : Version String SelectionRecord where
  key := selection.projectId
  revision := selection.revision
  record := { recordSha256 := selectionSha256 svc selection, selection, auditSequence }

/-- The row of the written bindings of a run. -/
def bindingsRow (svc : ModelServices) (auditSequence : ℕ) (bindings : RunModelBindings) :
    BindingsRow where
  rootRunId := bindings.rootRunId
  projectId := bindings.projectId
  bindingsSha256 := bindingsSha256 svc bindings
  bindings := bindings
  auditSequence := auditSequence

/-- The write that a version of a profile is from, with the number of its receipt. -/
def profileWrite (version : Version String ProfileRecord) : ℕ × ModelWrite :=
  (version.record.auditSequence, .profile version.record.profile version.record.removed)

/-- The write that a version of a selection is from, with the number of its receipt. -/
def selectionWrite (version : Version String SelectionRecord) : ℕ × ModelWrite :=
  (version.record.auditSequence, .selection version.record.selection)

/-- The write that the bindings of a run are from, with the number of its receipt. -/
def bindingsWrite (row : BindingsRow) : ℕ × ModelWrite :=
  (row.auditSequence, .bindings row.bindings)

/-- All writes with the numbers of their receipts. -/
def ModelState.writes (s : ModelState) : List (ℕ × ModelWrite) :=
  s.profiles.versions.rows.map profileWrite ++ s.selections.versions.rows.map selectionWrite
    ++ s.bindings.rows.map bindingsWrite

/-! ### What a call leaves -/

/-- The record of a write is stored with the number of its receipt. -/
def Inserted (svc : ModelServices) (s t : ModelState) (auditSequence : ℕ) : ModelWrite → Prop
  | .profile profile removed =>
      s.profiles.put (profileVersion svc auditSequence profile removed) = some t.profiles
        ∧ t.selections = s.selections ∧ t.bindings = s.bindings
  | .selection selection =>
      s.selections.put (selectionVersion svc auditSequence selection) = some t.selections
        ∧ t.profiles = s.profiles ∧ t.bindings = s.bindings
  | .bindings bindings =>
      s.bindings.insert (bindingsRow svc auditSequence bindings) = some t.bindings
        ∧ t.profiles = s.profiles ∧ t.selections = s.selections

/-- The row of a receipt. -/
def auditRow (svc : ModelServices) (audit : ModelConfigurationAudit) : AuditRow where
  sequence := audit.sequence
  auditSha256 := auditSha256 svc audit
  audit := audit

/-- What a committed write leaves. -/
structure Written (svc : ModelServices) (s t : ModelState) (now : Timestamp) (write : ModelWrite)
    (audit : ModelConfigurationAudit) : Prop where
  dense : latestSequence s = s.audits.rows.length
  next : ∃ previous, lastAudit svc s = .ok previous
    ∧ audit = nextAudit svc s previous (subjectOf svc write) now
  valid : audit.validates
  clean : valueHoldsSecret svc.forms (auditDump svc audit) = false
  audits : s.audits.insert (auditRow svc audit) = some t.audits
  inserted : Inserted svc s t audit.sequence write
  store : t.store = s.store
  projects : t.projects = s.projects

section Calls

variable {svc : ModelServices} {reads : ModelReads} {now : Timestamp} {s t : ModelState}

theorem append_ok {subject : ReceiptSubject} {sequence : ℕ} :
    append svc now subject s = .ok (sequence, t) ↔
      ∃ audit audits, latestSequence s = s.audits.rows.length
        ∧ (∃ previous, lastAudit svc s = .ok previous
          ∧ audit = nextAudit svc s previous subject now)
        ∧ audit.validates
        ∧ valueHoldsSecret svc.forms (auditDump svc audit) = false
        ∧ s.audits.insert (auditRow svc audit) = some audits
        ∧ sequence = audit.sequence ∧ t = { s with audits } := by
  unfold append
  rw [get_bind_ok, refuseIf_bind_ok, reading_bind_ok]
  constructor
  · rintro ⟨hdense, previous, hprevious, h⟩
    rw [refuseIf_bind_ok, refuseIf_bind_ok, expect_bind_ok] at h
    obtain ⟨hvalid, hclean, audits, hinsert, h⟩ := h
    obtain ⟨_, _, hset, h⟩ := Transaction.bind_ok.mp h
    obtain ⟨hsequence, hstate⟩ := pure_ok.mp h
    have hstored := set_ok.mp hset
    refine ⟨_, audits, not_not.mp hdense, ⟨previous, hprevious, rfl⟩, not_not.mp hvalid,
      Bool.eq_false_iff.mpr hclean, hinsert, hsequence.symm, ?_⟩
    rw [← hstate, ← hstored]
  · rintro ⟨audit, audits, hdense, ⟨previous, hprevious, rfl⟩, hvalid, hclean, hinsert, rfl, rfl⟩
    refine ⟨not_not.mpr hdense, previous, hprevious, ?_⟩
    rw [refuseIf_bind_ok, refuseIf_bind_ok, expect_bind_ok]
    refine ⟨not_not.mpr hvalid, Bool.eq_false_iff.mp hclean, audits, hinsert, ?_⟩
    exact Transaction.bind_ok.mpr ⟨⟨⟩, _, set_ok.mpr rfl, pure_ok.mpr ⟨rfl, rfl⟩⟩

theorem insertRecord_ok {auditSequence : ℕ} {write : ModelWrite} {u : Unit} :
    insertRecord svc auditSequence write s = .ok (u, t) ↔
      Inserted svc s t auditSequence write ∧ t.audits = s.audits ∧ t.store = s.store
        ∧ t.projects = s.projects := by
  cases write with
  | profile profile removed =>
      unfold insertRecord Inserted
      rw [get_bind_ok, expect_bind_ok]
      constructor
      · rintro ⟨profiles, hput, hset⟩
        have hstored := set_ok.mp hset
        subst hstored
        exact ⟨⟨hput, rfl, rfl⟩, rfl, rfl, rfl⟩
      · rintro ⟨⟨hput, hselections, hbindings⟩, haudits, hstore, hprojects⟩
        refine ⟨t.profiles, hput, set_ok.mpr ?_⟩
        rw [← hselections, ← hbindings, ← haudits, ← hstore, ← hprojects]
  | selection selection =>
      unfold insertRecord Inserted
      rw [get_bind_ok, expect_bind_ok]
      constructor
      · rintro ⟨selections, hput, hset⟩
        have hstored := set_ok.mp hset
        subst hstored
        exact ⟨⟨hput, rfl, rfl⟩, rfl, rfl, rfl⟩
      · rintro ⟨⟨hput, hprofiles, hbindings⟩, haudits, hstore, hprojects⟩
        refine ⟨t.selections, hput, set_ok.mpr ?_⟩
        rw [← hprofiles, ← hbindings, ← haudits, ← hstore, ← hprojects]
  | bindings bindings =>
      unfold insertRecord Inserted
      rw [get_bind_ok, expect_bind_ok]
      constructor
      · rintro ⟨rows, hinsert, hset⟩
        have hstored := set_ok.mp hset
        subst hstored
        exact ⟨⟨hinsert, rfl, rfl⟩, rfl, rfl, rfl⟩
      · rintro ⟨⟨hinsert, hprofiles, hselections⟩, haudits, hstore, hprojects⟩
        refine ⟨t.bindings, hinsert, set_ok.mpr ?_⟩
        rw [← hprofiles, ← hselections, ← haudits, ← hstore, ← hprojects]

/-- Where a record goes does not depend on the audit. -/
theorem inserted_of_audits {audits : Table AuditRow} {auditSequence : ℕ} {write : ModelWrite} :
    Inserted svc { s with audits } t auditSequence write
      ↔ Inserted svc s t auditSequence write := by
  cases write <;> rfl

theorem writeRecord_ok {write : ModelWrite} {u : Unit} :
    writeRecord svc now write s = .ok (u, t) ↔ ∃ audit, Written svc s t now write audit := by
  unfold writeRecord
  rw [Transaction.bind_ok]
  constructor
  · rintro ⟨sequence, _, happend, hinsert⟩
    obtain ⟨audit, audits, hdense, hnext, hvalid, hclean, haudits, rfl, rfl⟩ :=
      append_ok.1 happend
    obtain ⟨hinserted, hkept, hstore, hprojects⟩ := insertRecord_ok.1 hinsert
    exact ⟨audit, hdense, hnext, hvalid, hclean, hkept ▸ haudits,
      inserted_of_audits.mp hinserted, hstore, hprojects⟩
  · rintro ⟨audit, h⟩
    refine ⟨_, _, append_ok.2 ⟨audit, t.audits, h.dense, h.next, h.valid, h.clean, h.audits, rfl,
      rfl⟩, insertRecord_ok.2 ⟨inserted_of_audits.mpr h.inserted, rfl, h.store, h.projects⟩⟩

theorem withinBoundary_ok {α : Type} {x : ModelTxn α} {a : α} :
    withinBoundary x s = .ok (a, t) ↔ x s = .ok (a, t) := by
  unfold withinBoundary
  cases x s with
  | error e | ok r => simp

theorem modelBody_ok {op : ModelOp} {result : Option ModelWrite} :
    modelBody svc reads now op s = .ok (result, t) ↔
      planned svc reads s op = .ok result ∧ match result with
        | none => s = t
        | some write => ∃ audit, Written svc s t now write audit := by
  unfold modelBody
  rw [reading_bind_ok]
  constructor
  · rintro ⟨write, hplanned, h⟩
    cases write with
    | none =>
        obtain ⟨rfl, rfl⟩ := pure_ok.mp h
        exact ⟨hplanned, rfl⟩
    | some =>
        obtain ⟨_, _, hwrite, h⟩ := Transaction.bind_ok.mp h
        obtain ⟨rfl, rfl⟩ := pure_ok.mp h
        exact ⟨hplanned, writeRecord_ok.1 hwrite⟩
  · rintro ⟨hplanned, h⟩
    refine ⟨result, hplanned, ?_⟩
    cases result with
    | none => exact pure_ok.mpr ⟨rfl, h⟩
    | some =>
        exact Transaction.bind_ok.mpr ⟨(), t, writeRecord_ok.2 h, pure_ok.mpr ⟨rfl, rfl⟩⟩

/-- A call writes what it planned, or changes nothing. -/
theorem next_cases (svc : ModelServices) (s : ModelState) (input : ModelInput) :
    (∃ write audit, planned svc input.reads s input.op = .ok (some write)
        ∧ (modelMachine svc).out s input = .ok (some write)
        ∧ Written svc s ((modelMachine svc).next s input) input.now write audit)
      ∨ ((∀ write, (modelMachine svc).out s input ≠ .ok (some write))
        ∧ (modelMachine svc).next s input = s) := by
  rcases commit_cases (withinBoundary (modelBody svc input.reads input.now input.op)) s with
    ⟨result, t, hok, hc⟩ | ⟨e, -, hc⟩
  · have hnext : (modelMachine svc).next s input = t := by
      show (commit _ s).2 = t
      rw [hc]
    have hout : (modelMachine svc).out s input = .ok result := by
      show (commit _ s).1 = _
      rw [hc]
    obtain ⟨hplanned, hbody⟩ := modelBody_ok.1 (withinBoundary_ok.1 hok)
    cases result with
    | none =>
        have hsame : s = t := hbody
        refine .inr ⟨fun write hwrite => ?_, hnext.trans hsame.symm⟩
        rw [hout] at hwrite
        cases hwrite
    | some write =>
        obtain ⟨audit, hwritten⟩ := hbody
        rw [hnext]
        exact .inl ⟨write, audit, hplanned, hout, hwritten⟩
  · refine .inr ⟨fun write hwrite => ?_, ?_⟩
    · have hout : (modelMachine svc).out s input = .error e := by
        show (commit _ s).1 = _
        rw [hc]
      rw [hout] at hwrite
      cases hwrite
    · show (commit _ s).2 = s
      rw [hc]

/-- A planned write whose receipt and record can be stored is committed. -/
theorem next_of_written {input : ModelInput} {write : ModelWrite}
    {audit : ModelConfigurationAudit}
    (hplanned : planned svc input.reads s input.op = .ok (some write))
    (hwritten : Written svc s t input.now write audit) : (modelMachine svc).next s input = t := by
  have hbody : withinBoundary (modelBody svc input.reads input.now input.op) s
      = .ok (some write, t) :=
    withinBoundary_ok.2 (modelBody_ok.2 ⟨hplanned, audit, hwritten⟩)
  show (commit _ s).2 = t
  unfold commit
  rw [hbody]

end Calls

end AgentFleet.ModelProfiles
