import AgentFleet.ModelProfiles.Writes

/-! # What the tables keep

The invariant `Configured`: the receipts are a numbered and linked chain and each of them is for
one stored record; every record has passed its checks (`Sound`); the revisions of profiles and of
selections count from one; and what a current selection permits is there (`Available`).

A planned write is sound and fits to the current heads (`planned_ok`), and a sound write that fits
keeps the invariant (`Configured.written`). -/

namespace AgentFleet.ModelProfiles

open Relational Transaction Checks Versions Transition

/-! ### The invariant -/

/-- The last version of a profile is not a tombstone. -/
def Available (s : ModelState) (name : String) : Prop :=
  ∃ version, (s.profiles.of name).getLast? = some version ∧ version.record.removed = false

/-- The current selection of a project permits a profile. -/
def Permits (s : ModelState) (projectId name : String) : Prop :=
  ∃ version, (s.selections.of projectId).getLast? = some version
    ∧ name ∈ version.record.selection.permittedProfiles

/-- The revision of a profile that a binding names is stored, with the configuration of the
binding. -/
def BoundTo (s : ModelState) (name : String) (binding : ResolvedModelBinding) : Prop :=
  ∃ version ∈ s.profiles.versions, version.key = name
    ∧ some version.revision = binding.profileRevision
    ∧ version.record.removed = false
    ∧ version.record.profile.configuration = binding.configuration

/-- A write has passed its checks. -/
def Sound (svc : ModelServices) (s : ModelState) : ModelWrite → Prop
  | .profile profile removed =>
      checkName svc profile.name = .ok () ∧ profile.validates
        ∧ (removed = false → decodable svc (.obj profile.modelDump))
        ∧ (removed = true → profile.enabled = false)
  | .selection selection =>
      decodable svc (.obj selection.modelDump) ∧ selection.validates
        ∧ ∃ project, projectOf svc s selection.projectId = .ok project
          ∧ selection.repositoryIdentity = project.identityHash
  | .bindings bindings =>
      decodable svc (bindingsDump svc bindings) ∧ bindings.validates svc.canonicalJsonHash
        ∧ (∃ root, rootRunOf svc s bindings.projectId bindings.rootRunId = .ok root
          ∧ bindings.repositoryIdentity = root.1.identityHash)
        ∧ ∀ entry ∈ bindings.roles.entries, ∀ name ∈ entry.2.profileName, BoundTo s name entry.2

/-- A write fits to the current heads. -/
def Fits (s : ModelState) : ModelWrite → Prop
  | .profile profile removed =>
      profile.revision = s.profiles.latest profile.name + 1
        ∧ (s.profiles.latest profile.name = 0 → s.profiles.heads.rows.length < maxCatalog)
        ∧ (removed = true → ∀ projectId, ¬ Permits s projectId profile.name)
  | .selection selection =>
      selection.revision = s.selections.latest selection.projectId + 1
        ∧ ∀ name ∈ selection.permittedProfiles, Available s name
  | .bindings bindings => ∀ row ∈ s.bindings, row.rootRunId ≠ bindings.rootRunId

/-- What a receipt is for. -/
def receiptSubject (audit : ModelConfigurationAudit) : ReceiptSubject :=
  ⟨audit.action, audit.target, audit.revision, audit.recordSha256⟩

/-- What the tables keep. -/
structure Configured (svc : ModelServices) (s : ModelState) : Prop where
  /-- The audit is numbered and linked. -/
  numbered : Chain.Numbered AuditRow.sequence s.audits.rows
  linked : Chain.Linked AuditRow.auditSha256 (fun row => row.audit.previousSha256) s.audits.rows
  receipts : ∀ row ∈ s.audits, row = auditRow svc row.audit ∧ row.audit.validates
  /-- There is one receipt for every write, and no other. -/
  once : (s.writes.map Prod.fst).Perm (s.audits.rows.map AuditRow.sequence)
  received : ∀ write ∈ s.writes, ∃ row ∈ s.audits,
    row.sequence = write.1 ∧ receiptSubject row.audit = subjectOf svc write.2
  sound : ∀ write ∈ s.writes, Sound svc s write.2
  /-- A row says what its record says. -/
  profileRows : ∀ version ∈ s.profiles.versions,
    version = profileVersion svc version.record.auditSequence version.record.profile
      version.record.removed
  selectionRows : ∀ version ∈ s.selections.versions,
    version = selectionVersion svc version.record.auditSequence version.record.selection
  bindingsRows : ∀ row ∈ s.bindings, row = bindingsRow svc row.auditSequence row.bindings
  profiles : Counted s.profiles
  selections : Counted s.selections
  catalog : s.profiles.heads.rows.length ≤ maxCatalog
  /-- What a current selection permits has not been removed. -/
  permitted : ∀ projectId name, Permits s projectId name → Available s name

theorem configured_fresh (svc : ModelServices) (store : Store)
    (projects : List ConversationProject) : Configured svc (.fresh store projects) where
  numbered := Chain.numbered_nil _
  linked := Chain.linked_nil _ _
  receipts := fun _ h => absurd h (Table.not_mem_empty _)
  once := .nil
  received := fun _ h => absurd h List.not_mem_nil
  sound := fun _ h => absurd h List.not_mem_nil
  profileRows := fun _ h => absurd h (Table.not_mem_empty _)
  selectionRows := fun _ h => absurd h (Table.not_mem_empty _)
  bindingsRows := fun _ h => absurd h (Table.not_mem_empty _)
  profiles := counted_empty
  selections := counted_empty
  catalog := Nat.zero_le _
  permitted := by
    rintro projectId name ⟨version, hlast, -⟩
    cases hlast

variable {svc : ModelServices} {reads : ModelReads} {s t : ModelState}

theorem mem_writes {write : ℕ × ModelWrite} :
    write ∈ s.writes ↔ (∃ version ∈ s.profiles.versions, profileWrite version = write)
      ∨ (∃ version ∈ s.selections.versions, selectionWrite version = write)
      ∨ ∃ row ∈ s.bindings, bindingsWrite row = write := by
  unfold ModelState.writes
  rw [List.mem_append, List.mem_append, List.mem_map, List.mem_map, List.mem_map, or_assoc]
  rfl

/-! ### What the reads have found -/

theorem decode_ok {dump : JsonValue} {valid : Prop} [Decidable valid] {u : Unit} :
    decode svc dump valid = .ok u ↔ decodable svc dump ∧ valid := by
  unfold decode
  rw [refuse_bind_ok, refuse_ok, not_not, not_not]

variable {name projectId : String} {expectedRevision : ℤ} {row : AuditRow}

/-- A profile that is read is the last version, and its revision is the latest. -/
theorem profileOf_ok (h : Configured svc s) {found : Option ModelProfile} {revision : ℕ}
    (hread : profileOf svc s name = .ok (found, revision)) :
    checkName svc name = .ok () ∧ revision = s.profiles.latest name
      ∧ ∀ profile ∈ found, ∃ version, (s.profiles.of name).getLast? = some version
        ∧ version.record.removed = false ∧ version.record.profile = profile := by
  unfold profileOf at hread
  rw [h.profiles.current] at hread
  obtain ⟨_, hname, hread⟩ := Checks.bind_ok.mp hread
  refine ⟨hname, ?_⟩
  obtain ⟨last, hlast, hread⟩ := Checks.bind_ok.mp hread
  obtain rfl := Except.ok.inj hlast
  have hlatest := h.profiles.latest name
  cases hversion : (s.profiles.of name).getLast? with
  | none =>
      rw [hversion] at hread
      obtain ⟨rfl, rfl⟩ := Prod.mk.inj (Checks.return_ok.mp hread)
      rw [List.getLast?_eq_none_iff.mp hversion] at hlatest
      exact ⟨hlatest.symm, fun profile hfound => absurd hfound (Option.not_mem_none _)⟩
  | some version =>
      rw [hversion] at hread
      dsimp only at hread
      obtain ⟨_, -, hread⟩ := Checks.bind_ok.mp hread
      obtain ⟨-, hread⟩ := refuse_bind_ok.mp hread
      obtain ⟨_, -, hread⟩ := Checks.bind_ok.mp hread
      obtain ⟨-, hread⟩ := refuse_bind_ok.mp hread
      obtain ⟨hfound, hrevision⟩ := Prod.mk.inj (Checks.return_ok.mp hread)
      have hnumber := (h.profiles name).1.getLast? hversion
      refine ⟨by omega, ?_⟩
      intro profile hprofile
      cases hremoved : version.record.removed with
      | true =>
          rw [hremoved, if_pos rfl] at hfound
          rw [← hfound] at hprofile
          cases hprofile
      | false =>
          rw [hremoved, if_neg Bool.false_ne_true] at hfound
          rw [← hfound] at hprofile
          exact ⟨version, rfl, hremoved, Option.some.inj hprofile⟩

/-- A selection that is read is the last version. -/
theorem selectionOf_ok (h : Configured svc s) {found : Option ProjectModelSelection}
    (hread : selectionOf svc s projectId = .ok found) :
    found = (s.selections.of projectId).getLast?.map fun version => version.record.selection := by
  unfold selectionOf at hread
  rw [h.selections.current] at hread
  obtain ⟨project, -, hread⟩ := Checks.bind_ok.mp hread
  obtain ⟨last, hlast, hread⟩ := Checks.bind_ok.mp hread
  obtain rfl := Except.ok.inj hlast
  cases hversion : (s.selections.of projectId).getLast? with
  | none =>
      rw [hversion] at hread
      exact (Checks.return_ok.mp hread).symm
  | some =>
      rw [hversion] at hread
      dsimp only at hread
      obtain ⟨_, -, hread⟩ := Checks.bind_ok.mp hread
      obtain ⟨-, hread⟩ := refuse_bind_ok.mp hread
      obtain ⟨_, -, hread⟩ := Checks.bind_ok.mp hread
      exact (Checks.return_ok.mp hread).symm

theorem latest_selection (h : Configured svc s) {found : Option ProjectModelSelection}
    (hread : selectionOf svc s projectId = .ok found) :
    (found.map ProjectModelSelection.revision).getD 0 = s.selections.latest projectId := by
  have hlatest := h.selections.latest projectId
  rw [selectionOf_ok h hread, hlatest]
  cases hversion : (s.selections.of projectId).getLast? with
  | none =>
      rw [List.getLast?_eq_none_iff.mp hversion]
      rfl
  | some version =>
      have hnumber := (h.selections projectId).1.getLast? hversion
      have hrow := h.selectionRows version (mem_of.mp (List.mem_of_getLast? hversion)).1
      have hrevision : version.revision = version.record.selection.revision :=
        congrArg Version.revision hrow
      show version.record.selection.revision = _
      omega

/-! ### What the calls have checked -/

theorem saveProfile_ok (h : Configured svc s) {profile : ModelProfile} {write : ModelWrite}
    (hcall : saveProfile svc s profile expectedRevision = .ok write) :
    Sound svc s write ∧ Fits s write := by
  unfold saveProfile at hcall
  obtain ⟨_, hdecode, hcall⟩ := Checks.bind_ok.mp hcall
  obtain ⟨⟨found, revision⟩, hread, hcall⟩ := Checks.bind_ok.mp hcall
  obtain ⟨hexpected, hcall⟩ := refuse_bind_ok.mp hcall
  obtain ⟨hcatalog, hcall⟩ := refuse_bind_ok.mp hcall
  obtain rfl := Checks.return_ok.mp hcall
  obtain ⟨hname, hlatest, -⟩ := profileOf_ok h hread
  obtain ⟨htext, hvalid⟩ := decode_ok.mp hdecode
  rw [not_or, not_not, not_not] at hexpected
  refine ⟨⟨hname, hvalid, fun _ => htext, fun hremoved => absurd hremoved Bool.false_ne_true⟩, ?_⟩
  refine ⟨hlatest ▸ hexpected.2, fun hfirst => ?_, fun hremoved =>
    absurd hremoved Bool.false_ne_true⟩
  rw [not_and, not_le] at hcatalog
  exact hcatalog (hlatest.trans hfirst)

theorem checkPermitted_ok (h : Configured svc s) (hcheck : checkPermitted svc s name = .ok ⟨⟩) :
    Available s name := by
  unfold checkPermitted at hcheck
  obtain ⟨⟨found, revision⟩, hread, hcheck⟩ := Checks.bind_ok.mp hcheck
  obtain ⟨profile, hprofile, -⟩ := Checks.bind_ok.mp hcheck
  obtain ⟨-, -, hfound⟩ := profileOf_ok h hread
  obtain ⟨version, hlast, hremoved, -⟩ := hfound profile (demand_ok.mp hprofile)
  exact ⟨version, hlast, hremoved⟩

theorem saveSelection_ok (h : Configured svc s) {selection : ProjectModelSelection}
    {review : Option ModelSelectionReview} {validates : Bool} {write : ModelWrite}
    (hcall : saveSelection svc reads s selection expectedRevision review validates = .ok write) :
    Sound svc s write ∧ Fits s write := by
  unfold saveSelection at hcall
  obtain ⟨_, hdecode, hcall⟩ := Checks.bind_ok.mp hcall
  obtain ⟨-, hcall⟩ := refuse_bind_ok.mp hcall
  obtain ⟨current, hcurrent, hcall⟩ := Checks.bind_ok.mp hcall
  obtain ⟨project, hproject, hcall⟩ := Checks.bind_ok.mp hcall
  obtain ⟨hexpected, hcall⟩ := refuse_bind_ok.mp hcall
  obtain ⟨_, hpermitted, hcall⟩ := Checks.bind_ok.mp hcall
  obtain ⟨_, -, hcall⟩ := Checks.bind_ok.mp hcall
  obtain rfl := Checks.return_ok.mp hcall
  obtain ⟨htext, hvalid⟩ := decode_ok.mp hdecode
  rw [not_or, not_or, not_not, not_not, not_not] at hexpected
  obtain ⟨-, hrevision, hidentity⟩ := hexpected
  rw [latest_selection h hcurrent] at hrevision
  exact ⟨⟨htext, hvalid, project, hproject, hidentity⟩, hrevision,
    fun name hname => checkPermitted_ok h (Checks.forM_ok.mp hpermitted name hname)⟩

theorem removeProfile_ok (h : Configured svc s) {write : ModelWrite}
    (hcall : removeProfile svc s name expectedRevision = .ok write) :
    Sound svc s write ∧ Fits s write := by
  unfold removeProfile at hcall
  obtain ⟨⟨found, revision⟩, hread, hcall⟩ := Checks.bind_ok.mp hcall
  obtain ⟨profile, hprofile, hcall⟩ := Checks.bind_ok.mp hcall
  obtain ⟨hexpected, hcall⟩ := refuse_bind_ok.mp hcall
  obtain ⟨_, hunreferenced, hcall⟩ := Checks.bind_ok.mp hcall
  obtain ⟨hvalid, hcall⟩ := refuse_bind_ok.mp hcall
  obtain rfl := Checks.return_ok.mp hcall
  obtain ⟨hname, hlatest, hfound⟩ := profileOf_ok h hread
  obtain ⟨version, hlast, -, -⟩ := hfound profile (demand_ok.mp hprofile)
  refine ⟨⟨hname, not_not.mp hvalid, fun hremoved => absurd hremoved.symm Bool.false_ne_true,
    fun _ => rfl⟩, ?_⟩
  refine ⟨by rw [← hlatest], fun hfirst => ?_, fun _ projectId hpermits => ?_⟩
  · have hempty : (s.profiles.of name).length = 0 := (h.profiles.latest name).symm.trans hfirst
    rw [List.length_eq_zero_iff.mp hempty] at hlast
    cases hlast
  · obtain ⟨selected, hselected, hmem⟩ := hpermits
    obtain ⟨hstored, hkey⟩ := mem_of.mp (List.mem_of_getLast? hselected)
    have hproject : projectId ∈ (s.selections.versions.rows.map Version.key).dedup :=
      List.mem_dedup.mpr (hkey ▸ List.mem_map_of_mem hstored)
    have hcheck := Checks.forM_ok.mp hunreferenced projectId hproject
    unfold checkUnreferenced at hcheck
    obtain ⟨current, hcurrent, hcheck⟩ := Checks.bind_ok.mp hcheck
    have hpermitted : selected.record.selection ∈ current := by
      rw [selectionOf_ok h hcurrent, hselected]
      rfl
    exact refuse_ok.mp hcheck ⟨_, hpermitted, hmem⟩

theorem checkBinding_ok (h : Configured svc s) {run : Run}
    {selection : Option ProjectModelSelection} {entry : String × ResolvedModelBinding}
    (hcheck : checkBinding svc s run selection entry = .ok ⟨⟩)
    (hname : name ∈ entry.2.profileName) : BoundTo s name entry.2 := by
  obtain ⟨role, binding⟩ := entry
  unfold checkBinding at hcheck
  have hbinding : binding.profileName = some name := hname
  dsimp only at hcheck
  rw [hbinding] at hcheck
  obtain ⟨⟨found, revision⟩, hread, hcheck⟩ := Checks.bind_ok.mp hcheck
  obtain ⟨permitting, -, hcheck⟩ := Checks.bind_ok.mp hcheck
  obtain ⟨profile, hprofile, hcheck⟩ := Checks.bind_ok.mp hcheck
  obtain ⟨hsame, -⟩ := refuse_bind_ok.mp hcheck
  rw [not_or, not_or, not_or, not_not, not_not] at hsame
  obtain ⟨-, hrevision, hconfiguration, -⟩ := hsame
  obtain ⟨-, -, hfound⟩ := profileOf_ok h hread
  obtain ⟨version, hlast, hremoved, hversion⟩ := hfound profile (demand_ok.mp hprofile)
  obtain ⟨hstored, hkey⟩ := mem_of.mp (List.mem_of_getLast? hlast)
  have hrow : version.revision = version.record.profile.revision :=
    congrArg Version.revision (h.profileRows version hstored)
  exact ⟨version, hstored, hkey, by rw [hrow, hversion, hrevision], hremoved,
    by rw [hversion, hconfiguration]⟩

theorem saveBindings_ok (h : Configured svc s) {bindings : RunModelBindings} {write : ModelWrite}
    (hcall : saveBindings svc s bindings = .ok (some write)) : Sound svc s write ∧ Fits s write := by
  unfold saveBindings at hcall
  obtain ⟨_, hdecode, hcall⟩ := Checks.bind_ok.mp hcall
  obtain ⟨existing, hexisting, hcall⟩ := Checks.bind_ok.mp hcall
  cases existing with
  | some =>
      obtain ⟨-, hcall⟩ := refuse_bind_ok.mp hcall
      cases Checks.return_ok.mp hcall
  | none =>
      obtain ⟨⟨project, run⟩, hroot, hcall⟩ := Checks.bind_ok.mp hcall
      obtain ⟨hidentity, hcall⟩ := refuse_bind_ok.mp hcall
      obtain ⟨selection, -, hcall⟩ := Checks.bind_ok.mp hcall
      obtain ⟨-, hcall⟩ := refuse_bind_ok.mp hcall
      obtain ⟨_, hroles, hcall⟩ := Checks.bind_ok.mp hcall
      obtain rfl := Option.some.inj (Checks.return_ok.mp hcall)
      obtain ⟨htext, hvalid⟩ := decode_ok.mp hdecode
      refine ⟨⟨htext, hvalid, ⟨(project, run), hroot, not_not.mp hidentity⟩,
        fun entry hentry name hname =>
          checkBinding_ok h (Checks.forM_ok.mp hroles entry hentry) hname⟩, ?_⟩
      intro row hrow hsame
      unfold bindingsOf at hexisting
      obtain ⟨_, -, hexisting⟩ := Checks.bind_ok.mp hexisting
      have hfound : s.bindings.find? (fun row => row.rootRunId = bindings.rootRunId) = some row :=
        Table.find?_eq_some hrow (decide_eq_true hsame) fun other hother =>
          (of_decide_eq_true hother).trans hsame.symm
      dsimp only at hexisting
      rw [hfound] at hexisting
      obtain ⟨_, -, hexisting⟩ := Checks.bind_ok.mp hexisting
      obtain ⟨-, hexisting⟩ := refuse_bind_ok.mp hexisting
      obtain ⟨_, -, hexisting⟩ := Checks.bind_ok.mp hexisting
      cases Checks.return_ok.mp hexisting

/-- A planned write has passed its checks. -/
theorem planned_ok (h : Configured svc s) {op : ModelOp} {write : ModelWrite}
    (hplanned : planned svc reads s op = .ok (some write)) : Sound svc s write ∧ Fits s write := by
  cases op with
  | saveProfile =>
      obtain ⟨_, hcall, hwrite⟩ := Checks.map_ok.mp hplanned
      exact Option.some.inj hwrite ▸ saveProfile_ok h hcall
  | saveSelection =>
      obtain ⟨_, hcall, hwrite⟩ := Checks.map_ok.mp hplanned
      exact Option.some.inj hwrite ▸ saveSelection_ok h hcall
  | removeProfile =>
      obtain ⟨_, hcall, hwrite⟩ := Checks.map_ok.mp hplanned
      exact Option.some.inj hwrite ▸ removeProfile_ok h hcall
  | saveBindings => exact saveBindings_ok h hplanned

/-! ### A committed write -/

theorem foldr_max_sequence (h : Configured svc s) : latestSequence s = s.audits.rows.length := by
  have hnumbered : s.audits.rows.map AuditRow.sequence = List.range' 1 s.audits.rows.length :=
    h.numbered
  unfold latestSequence
  rw [hnumbered, foldr_max_range']

/-! ### Receipts -/

theorem checkedAudit_ok (h : Configured svc s) (hmem : row ∈ s.audits)
    {audit : ModelConfigurationAudit} :
    checkedAudit svc s row.sequence = .ok audit
      ↔ decodable svc (auditDump svc row.audit) ∧ audit = row.audit := by
  have hfound : auditRow? s row.sequence = some row :=
    Table.find?_eq_some hmem (decide_eq_true rfl) fun other hother => of_decide_eq_true hother
  obtain ⟨hrow, hvalid⟩ := h.receipts row hmem
  have hsequence : row.sequence = row.audit.sequence := congrArg AuditRow.sequence hrow
  have hdigest : row.auditSha256 = auditSha256 svc row.audit := congrArg AuditRow.auditSha256 hrow
  unfold checkedAudit
  rw [hfound]
  constructor
  · intro hread
    obtain ⟨_, hdemand, hread⟩ := Checks.bind_ok.mp hread
    obtain rfl := Option.some.inj (demand_ok.mp hdemand)
    obtain ⟨_, hdecode, hread⟩ := Checks.bind_ok.mp hread
    obtain ⟨-, hread⟩ := refuse_bind_ok.mp hread
    exact ⟨(decode_ok.mp hdecode).1, (Checks.return_ok.mp hread).symm⟩
  · rintro ⟨htext, rfl⟩
    refine Checks.bind_ok.mpr ⟨row, rfl, Checks.bind_ok.mpr ⟨(), decode_ok.mpr ⟨htext, hvalid⟩, ?_⟩⟩
    exact refuse_bind_ok.mpr ⟨by simp [hsequence, hdigest], rfl⟩

/-- A receipt that is read is the row with its number. -/
theorem auditOf_ok (h : Configured svc s) (hmem : row ∈ s.audits)
    {audit : ModelConfigurationAudit} (hread : auditOf svc s row.sequence = .ok audit) :
    decodable svc (auditDump svc row.audit) ∧ audit = row.audit := by
  unfold auditOf at hread
  obtain ⟨checked, hchecked, hread⟩ := Checks.bind_ok.mp hread
  obtain ⟨htext, rfl⟩ := (checkedAudit_ok h hmem).mp hchecked
  refine ⟨htext, ?_⟩
  by_cases hfirst : row.sequence = 1
  · rw [if_pos hfirst] at hread
    obtain ⟨-, hread⟩ := refuse_bind_ok.mp hread
    exact (Checks.return_ok.mp hread).symm
  · rw [if_neg hfirst] at hread
    obtain ⟨_, -, hread⟩ := Checks.bind_ok.mp hread
    obtain ⟨-, hread⟩ := refuse_bind_ok.mp hread
    exact (Checks.return_ok.mp hread).symm

section Write

variable {now : Timestamp} {write : ModelWrite} {audit : ModelConfigurationAudit}

variable {auditSequence : ℕ}

/-- One write more, whichever table it is in. -/
theorem writes_perm (h : Inserted svc s t auditSequence write) :
    t.writes.Perm ((auditSequence, write) :: s.writes) := by
  unfold ModelState.writes
  cases write with
  | profile =>
      obtain ⟨hput, hselections, hbindings⟩ := h
      have hrows := (Table.insert_eq_some (put_versions hput)).2
      rw [hrows, hselections, hbindings, List.map_append, List.append_assoc, List.append_assoc,
        List.append_assoc]
      exact List.perm_middle
  | selection =>
      obtain ⟨hput, hprofiles, hbindings⟩ := h
      have hrows := (Table.insert_eq_some (put_versions hput)).2
      rw [hrows, hprofiles, hbindings, List.map_append, ← List.append_assoc, List.append_assoc]
      exact List.perm_middle
  | bindings =>
      obtain ⟨hinsert, hprofiles, hselections⟩ := h
      have hrows := (Table.insert_eq_some hinsert).2
      rw [hrows, hprofiles, hselections, List.map_append, ← List.append_assoc]
      exact List.perm_append_singleton _ _

/-- Versions stay. -/
theorem Inserted.profiles (h : Inserted svc s t auditSequence write)
    {version : Version String ProfileRecord} (hmem : version ∈ s.profiles.versions) :
    version ∈ t.profiles.versions := by
  cases write with
  | profile => exact (mem_put h.1).mpr (.inl hmem)
  | selection selection | bindings bindings => exact h.2.1 ▸ hmem

theorem Sound.mono (hstore : t.store = s.store) (hprojects : t.projects = s.projects)
    (hprofiles : ∀ version ∈ s.profiles.versions, version ∈ t.profiles.versions)
    (h : Sound svc s write) : Sound svc t write := by
  cases write with
  | profile => exact h
  | selection =>
      obtain ⟨htext, hvalid, project, hproject, hidentity⟩ := h
      refine ⟨htext, hvalid, project, ?_, hidentity⟩
      unfold projectOf at hproject ⊢
      rw [hprojects]
      exact hproject
  | bindings =>
      obtain ⟨htext, hvalid, ⟨root, hroot, hidentity⟩, hbound⟩ := h
      refine ⟨htext, hvalid, ⟨root, ?_, hidentity⟩, fun entry hentry name hname => ?_⟩
      · unfold rootRunOf projectOf runOf at hroot ⊢
        rw [hprojects, hstore]
        exact hroot
      · obtain ⟨version, hmem, hversion⟩ := hbound entry hentry name hname
        exact ⟨version, hprofiles version hmem, hversion⟩

/-- The rows of a table after a write. -/
theorem Inserted.profileRows (h : Inserted svc s t auditSequence write)
    (hrows : ∀ version ∈ s.profiles.versions,
      version = profileVersion svc version.record.auditSequence version.record.profile
        version.record.removed) :
    ∀ version ∈ t.profiles.versions,
      version = profileVersion svc version.record.auditSequence version.record.profile
        version.record.removed := by
  intro version hmem
  cases write with
  | profile =>
      rcases (mem_put h.1).mp hmem with hold | rfl
      · exact hrows version hold
      · rfl
  | selection selection | bindings bindings => exact hrows version (h.2.1 ▸ hmem)

theorem Inserted.selectionRows (h : Inserted svc s t auditSequence write)
    (hrows : ∀ version ∈ s.selections.versions,
      version = selectionVersion svc version.record.auditSequence version.record.selection) :
    ∀ version ∈ t.selections.versions,
      version = selectionVersion svc version.record.auditSequence version.record.selection := by
  intro version hmem
  cases write with
  | profile => exact hrows version (h.2.1 ▸ hmem)
  | selection =>
      rcases (mem_put h.1).mp hmem with hold | rfl
      · exact hrows version hold
      · rfl
  | bindings => exact hrows version (h.2.2 ▸ hmem)

theorem Inserted.bindingsRows (h : Inserted svc s t auditSequence write)
    (hrows : ∀ row ∈ s.bindings, row = bindingsRow svc row.auditSequence row.bindings) :
    ∀ row ∈ t.bindings, row = bindingsRow svc row.auditSequence row.bindings := by
  intro row hmem
  cases write with
  | profile profile removed | selection selection => exact hrows row (h.2.2 ▸ hmem)
  | bindings =>
      rcases (Table.mem_insert h.1).mp hmem with hold | rfl
      · exact hrows row hold
      · rfl

theorem Inserted.counted (h : Inserted svc s t auditSequence write) (hfits : Fits s write)
    (hprofiles : Counted s.profiles) (hselections : Counted s.selections) :
    Counted t.profiles ∧ Counted t.selections := by
  cases write with
  | profile =>
      obtain ⟨hput, hsame, -⟩ := h
      exact ⟨hprofiles.put hput hfits.1, hsame ▸ hselections⟩
  | selection =>
      obtain ⟨hput, hsame, -⟩ := h
      exact ⟨hsame ▸ hprofiles, hselections.put hput hfits.1⟩
  | bindings =>
      obtain ⟨-, hsame, hsame'⟩ := h
      exact ⟨hsame ▸ hprofiles, hsame' ▸ hselections⟩

/-- A name that is new to the catalog is only added below the bound. -/
theorem Inserted.catalog (h : Inserted svc s t auditSequence write) (hfits : Fits s write)
    (hprofiles : Counted s.profiles) (hcatalog : s.profiles.heads.rows.length ≤ maxCatalog) :
    t.profiles.heads.rows.length ≤ maxCatalog := by
  cases write with
  | profile profile removed =>
      have hlength := heads_put h.1
      by_cases hfirst : s.profiles.latest profile.name = 0
      · have hbelow := hfits.2.1 hfirst
        split_ifs at hlength <;> omega
      · have hhead : (s.profiles.head? profile.name).isSome = true := by
          rw [(hprofiles profile.name).2, Option.isSome_map, List.getLast?_isSome]
          intro hempty
          apply hfirst
          rw [hprofiles.latest, hempty]
          rfl
        have hkey : (profileVersion svc auditSequence profile removed).key = profile.name := rfl
        rw [hkey, if_pos hhead] at hlength
        omega
  | selection selection | bindings bindings => exact h.2.1 ▸ hcatalog

/-- A selection only permits what is there, and what it permits is not removed. -/
theorem Inserted.permitted (h : Inserted svc s t auditSequence write) (hfits : Fits s write)
    (hpermitted : ∀ projectId name, Permits s projectId name → Available s name) :
    ∀ projectId name, Permits t projectId name → Available t name := by
  rintro projectId name ⟨selected, hselected, hmem⟩
  unfold Available
  cases write with
  | profile profile removed =>
      obtain ⟨hput, hsame, -⟩ := h
      rw [hsame] at hselected
      have hpermits : Permits s projectId name := ⟨selected, hselected, hmem⟩
      rw [of_put hput]
      by_cases hname : profile.name = name
      · have hkey : (profileVersion svc auditSequence profile removed).key = name := hname
        rw [if_pos hkey, List.getLast?_concat]
        refine ⟨_, rfl, ?_⟩
        show removed = false
        by_contra hremoved
        exact hfits.2.2 (eq_true_of_ne_false hremoved) projectId (hname ▸ hpermits)
      · have hkey : ¬ (profileVersion svc auditSequence profile removed).key = name := hname
        rw [if_neg hkey, List.append_nil]
        exact hpermitted projectId name hpermits
  | selection selection =>
      obtain ⟨hput, hsame, -⟩ := h
      rw [hsame]
      rw [of_put hput] at hselected
      by_cases hproject : selection.projectId = projectId
      · have hkey : (selectionVersion svc auditSequence selection).key = projectId := hproject
        rw [if_pos hkey, List.getLast?_concat] at hselected
        obtain rfl := Option.some.inj hselected
        exact hfits.2 name hmem
      · have hkey : ¬ (selectionVersion svc auditSequence selection).key = projectId := hproject
        rw [if_neg hkey, List.append_nil] at hselected
        exact hpermitted projectId name ⟨selected, hselected, hmem⟩
  | bindings =>
      obtain ⟨-, hprofiles, hsame⟩ := h
      rw [hsame] at hselected
      rw [hprofiles]
      exact hpermitted projectId name ⟨selected, hselected, hmem⟩

/-- The last receipt is the last row. -/
theorem lastAudit_ok (h : Configured svc s) {previous : Option ModelConfigurationAudit}
    (hlast : lastAudit svc s = .ok previous) :
    previous = s.audits.rows.getLast?.map AuditRow.audit := by
  unfold lastAudit at hlast
  rw [foldr_max_sequence h] at hlast
  cases hrow : s.audits.rows.getLast? with
  | none =>
      rw [List.getLast?_eq_none_iff.mp hrow, List.length_nil, if_pos rfl] at hlast
      exact (Checks.return_ok.mp hlast).symm
  | some =>
      have hpositive : s.audits.rows.length ≠ 0 := by
        intro hempty
        rw [List.length_eq_zero_iff.mp hempty] at hrow
        cases hrow
      rw [if_neg hpositive, ← h.numbered.getLast? hrow] at hlast
      obtain ⟨found, hread, rfl⟩ := Checks.map_ok.mp hlast
      exact congrArg some (auditOf_ok h (List.mem_of_getLast? hrow) hread).2

/-- A committed write that fits keeps the invariant. -/
theorem Configured.written (h : Configured svc s) (hsound : Sound svc s write)
    (hfits : Fits s write) (hwritten : Written svc s t now write audit) : Configured svc t := by
  have hrows := (Table.insert_eq_some hwritten.audits).2
  have hperm := writes_perm hwritten.inserted
  obtain ⟨previous, hprevious, haudit⟩ := hwritten.next
  obtain ⟨hprofiles, hselections⟩ := hwritten.inserted.counted hfits h.profiles h.selections
  have hnumber : audit.sequence = s.audits.rows.length + 1 := by
    rw [haudit, ← hwritten.dense]
    rfl
  have hlink : audit.previousSha256 = s.audits.rows.getLast?.map AuditRow.auditSha256 := by
    have hdigest : audit.previousSha256 = previous.map (auditSha256 svc) := by
      rw [haudit]
      rfl
    rw [hdigest, lastAudit_ok h hprevious, Option.map_map]
    cases hrow : s.audits.rows.getLast? with
    | none => rfl
    | some row =>
        have hreceipt := (h.receipts row (List.mem_of_getLast? hrow)).1
        exact congrArg some (congrArg AuditRow.auditSha256 hreceipt).symm
  have hkept : ∀ row ∈ s.audits, row ∈ t.audits := fun row hmem =>
    (Table.mem_insert hwritten.audits).mpr (.inl hmem)
  exact
    { numbered := by
        rw [hrows]
        exact Chain.numbered_concat.mpr ⟨h.numbered, hnumber⟩
      linked := by
        rw [hrows]
        exact Chain.linked_concat.mpr ⟨h.linked, hlink⟩
      receipts := by
        intro row hmem
        rcases (Table.mem_insert hwritten.audits).mp hmem with hold | rfl
        · exact h.receipts row hold
        · exact ⟨rfl, hwritten.valid⟩
      once := by
        rw [hrows, List.map_append]
        have hhead : ((audit.sequence, write) :: s.writes).map Prod.fst
            = audit.sequence :: s.writes.map Prod.fst := rfl
        refine (hperm.map Prod.fst).trans ?_
        rw [hhead]
        exact (h.once.cons audit.sequence).trans (List.perm_append_singleton _ _).symm
      received := by
        intro stored hmem
        rcases List.mem_cons.mp (hperm.mem_iff.mp hmem) with rfl | hold
        · refine ⟨_, (Table.mem_insert hwritten.audits).mpr (.inr rfl), rfl, ?_⟩
          show receiptSubject audit = _
          rw [haudit]
          rfl
        · obtain ⟨row, hrow, hreceipt⟩ := h.received stored hold
          exact ⟨row, hkept row hrow, hreceipt⟩
      sound := by
        intro stored hmem
        rcases List.mem_cons.mp (hperm.mem_iff.mp hmem) with rfl | hold
        · exact hsound.mono hwritten.store hwritten.projects fun _ => hwritten.inserted.profiles
        · exact (h.sound stored hold).mono hwritten.store hwritten.projects
            fun _ => hwritten.inserted.profiles
      profileRows := hwritten.inserted.profileRows h.profileRows
      selectionRows := hwritten.inserted.selectionRows h.selectionRows
      bindingsRows := hwritten.inserted.bindingsRows h.bindingsRows
      profiles := hprofiles
      selections := hselections
      catalog := hwritten.inserted.catalog hfits h.profiles h.catalog
      permitted := hwritten.inserted.permitted hfits h.permitted }

end Write

theorem configured_invariant (svc : ModelServices) :
    (modelMachine svc).Invariant (Configured svc) := by
  intro s input h
  rcases next_cases svc s input with ⟨write, audit, hplanned, -, hwritten⟩ | ⟨-, hsame⟩
  · obtain ⟨hsound, hfits⟩ := planned_ok h hplanned
    exact h.written hsound hfits hwritten
  · rw [hsame]
    exact h

end AgentFleet.ModelProfiles
