import AgentFleet.ModelProfiles.Invariant

/-! # The history of the model configuration

What the readers accept is a matter of texts: in a configured state they accept everything exactly
when every receipt and the last version of every profile have texts that `_decode` accepts
(`readable_iff_legible`).  A call keeps that exactly when what it is about to write has such texts
(`legible_next`).  A receipt is looked through as data and a tombstone is not looked through, so a
secret form that shows in the text of a record, but in none of its strings, gets written; with one
registered secret the first saved profile makes the store unreadable (`unreadable_receipt`). -/

namespace AgentFleet.ModelProfiles

open Relational Transaction Checks Versions Transition

/-! ### Legible states -/

/-- The store accepts what it has stored. -/
structure Readable (svc : ModelServices) (s : ModelState) : Prop where
  audit : ∀ row ∈ s.audits, ∃ audit, auditOf svc s row.sequence = .ok audit
  page : ∀ afterSequence limit : ℤ, 0 ≤ afterSequence → 1 ≤ limit → limit ≤ 100 →
    ∃ audits, listAudit svc s afterSequence limit = .ok audits
  profile : ∀ name, checkName svc name = .ok () → ∃ found, profileOf svc s name = .ok found
  catalog : ∃ profiles, listProfiles svc s = .ok profiles
  selection : ∀ projectId project, projectOf svc s projectId = .ok project →
    ∃ selection, selectionOf svc s projectId = .ok selection
  bindings : ∀ projectId rootRunId root, rootRunOf svc s projectId rootRunId = .ok root →
    ∃ bindings, bindingsOf svc s projectId rootRunId = .ok bindings

/-- The texts of the receipts and of the last versions of the profiles can be decoded. -/
structure Legible (svc : ModelServices) (s : ModelState) : Prop where
  audits : ∀ row ∈ s.audits, decodable svc (auditDump svc row.audit)
  profiles : ∀ name version, (s.profiles.of name).getLast? = some version →
    decodable svc (.obj version.record.profile.modelDump)

/-- If a write's receipt passes as data, its receipt and its profile pass as texts. -/
def LegibleWrite (svc : ModelServices) (s : ModelState) (now : Timestamp) (write : ModelWrite) :
    Prop :=
  ∀ previous, lastAudit svc s = .ok previous →
    (nextAudit svc s previous (subjectOf svc write) now).validates →
    valueHoldsSecret svc.forms
      (auditDump svc (nextAudit svc s previous (subjectOf svc write) now)) = false →
    decodable svc (auditDump svc (nextAudit svc s previous (subjectOf svc write) now))
      ∧ ∀ profile removed, write = .profile profile removed →
        decodable svc (.obj profile.modelDump)

/-- What a call is about to write is legible. -/
def LegibleCall (svc : ModelServices) (s : ModelState) (input : ModelInput) : Prop :=
  ∀ write, planned svc input.reads s input.op = .ok (some write) →
    LegibleWrite svc s input.now write

variable {svc : ModelServices} {s t : ModelState}

/-! ### The readers -/

theorem auditOf_legible (h : Configured svc s) (hlegible : Legible svc s) {row : AuditRow}
    (hmem : row ∈ s.audits) : auditOf svc s row.sequence = .ok row.audit := by
  have hread := (checkedAudit_ok h hmem).mpr ⟨hlegible.audits row hmem, rfl⟩
  obtain ⟨i, hi, rfl⟩ := List.mem_iff_getElem.mp (Table.mem_def.mp hmem)
  have hnumber := h.numbered.getElem hi
  unfold auditOf
  refine Checks.bind_ok.mpr ⟨_, hread, ?_⟩
  cases i with
  | zero =>
      rw [if_pos hnumber]
      have hnone := h.linked.head? (List.head?_eq_getElem?.trans (List.getElem?_eq_getElem hi))
      exact refuse_bind_ok.mpr ⟨not_not.mpr hnone, rfl⟩
  | succ i =>
      have hbefore : i < s.audits.rows.length := by omega
      have hprior := h.numbered.getElem hbefore
      have hlink := h.linked.getElem_succ hi
      have hsequence : s.audits.rows[i + 1].sequence - 1 = s.audits.rows[i].sequence := by omega
      have hpriorMem : s.audits.rows[i] ∈ s.audits := List.getElem_mem hbefore
      have hpriorRow := (h.receipts _ hpriorMem).1
      rw [if_neg (by omega), hsequence]
      refine Checks.bind_ok.mpr ⟨_,
        (checkedAudit_ok h hpriorMem).mpr ⟨hlegible.audits _ hpriorMem, rfl⟩, ?_⟩
      refine refuse_bind_ok.mpr ⟨not_not.mpr (hlink.trans ?_), rfl⟩
      exact congrArg some (congrArg AuditRow.auditSha256 hpriorRow)

/-- The receipt of a stored write is accepted. -/
theorem checkReceipt_legible (h : Configured svc s) (hlegible : Legible svc s)
    {write : ℕ × ModelWrite} (hmem : write ∈ s.writes) (subject : ReceiptSubject)
    (hsubject : subject = subjectOf svc write.2) :
    checkReceipt svc s write.1 subject.action subject.target subject.revision
      subject.recordSha256 = .ok () := by
  obtain ⟨row, hrow, hsequence, hreceipt⟩ := h.received write hmem
  have hread := auditOf_legible h hlegible hrow
  rw [hsequence] at hread
  unfold checkReceipt
  refine Checks.bind_ok.mpr ⟨row.audit, hread, refuse_ok.mpr ?_⟩
  rw [not_not, hsubject, ← hreceipt]
  rfl

theorem profileWrite_mem {version : Version String ProfileRecord}
    (hmem : version ∈ s.profiles.versions) : profileWrite version ∈ s.writes :=
  mem_writes.mpr (.inl ⟨version, hmem, rfl⟩)

theorem selectionWrite_mem {version : Version String SelectionRecord}
    (hmem : version ∈ s.selections.versions) : selectionWrite version ∈ s.writes :=
  mem_writes.mpr (.inr (.inl ⟨version, hmem, rfl⟩))

theorem bindingsWrite_mem {row : BindingsRow} (hmem : row ∈ s.bindings) :
    bindingsWrite row ∈ s.writes :=
  mem_writes.mpr (.inr (.inr ⟨row, hmem, rfl⟩))

theorem profileOf_legible (h : Configured svc s) (hlegible : Legible svc s) {name : String}
    (hname : checkName svc name = .ok ()) : ∃ found, profileOf svc s name = .ok found := by
  unfold profileOf
  rw [h.profiles.current]
  cases hlast : (s.profiles.of name).getLast? with
  | none =>
      exact ⟨(none, 0), Checks.bind_ok.mpr ⟨(), hname, Checks.bind_ok.mpr ⟨none, rfl, rfl⟩⟩⟩
  | some version =>
      obtain ⟨hmem, hkey⟩ := mem_of.mp (List.mem_of_getLast? hlast)
      have hwrite := profileWrite_mem hmem
      obtain ⟨-, hvalid, -, htombstone⟩ := h.sound _ hwrite
      have hrow := h.profileRows version hmem
      have hown : version.record.profile.name = name :=
        (congrArg Version.key hrow).symm.trans hkey
      have hrevision : version.revision = version.record.profile.revision :=
        congrArg Version.revision hrow
      have hdigest : version.record.recordSha256 = profileSha256 svc version.record.profile :=
        congrArg (fun version => version.record.recordSha256) hrow
      have hreceipt := checkReceipt_legible h hlegible hwrite
        ⟨profileAction version.record.removed, name, version.revision,
          version.record.recordSha256⟩ (by
            rw [hdigest, hrevision, ← hown]
            rfl)
      refine ⟨(if version.record.removed then none else some version.record.profile,
        version.revision), ?_⟩
      refine Checks.bind_ok.mpr ⟨(), hname, Checks.bind_ok.mpr ⟨some version, rfl, ?_⟩⟩
      refine Checks.bind_ok.mpr ⟨(), decode_ok.mpr ⟨hlegible.profiles name version hlast, hvalid⟩,
        refuse_bind_ok.mpr ⟨?_, Checks.bind_ok.mpr ⟨(), hreceipt, refuse_bind_ok.mpr ⟨?_, rfl⟩⟩⟩⟩
      · simp [hown, hrevision, hdigest]
      · rintro ⟨hremoved, henabled⟩
        rw [htombstone hremoved] at henabled
        cases henabled

variable {projectId : String} {now : Timestamp} {audit : ModelConfigurationAudit}

theorem selectionOf_legible (h : Configured svc s) (hlegible : Legible svc s)
    {project : ConversationProject} (hproject : projectOf svc s projectId = .ok project) :
    ∃ selection, selectionOf svc s projectId = .ok selection := by
  unfold selectionOf
  rw [h.selections.current]
  cases hlast : (s.selections.of projectId).getLast? with
  | none =>
      exact ⟨none, Checks.bind_ok.mpr ⟨project, hproject, Checks.bind_ok.mpr ⟨none, rfl, rfl⟩⟩⟩
  | some version =>
      obtain ⟨hmem, hkey⟩ := mem_of.mp (List.mem_of_getLast? hlast)
      have hwrite := selectionWrite_mem hmem
      obtain ⟨htext, hvalid, owner, howner, hidentity⟩ := h.sound _ hwrite
      have hrow := h.selectionRows version hmem
      have hown : version.record.selection.projectId = projectId :=
        (congrArg Version.key hrow).symm.trans hkey
      have hrevision : version.revision = version.record.selection.revision :=
        congrArg Version.revision hrow
      have hdigest : version.record.recordSha256 = selectionSha256 svc version.record.selection :=
        congrArg (fun version => version.record.recordSha256) hrow
      have hsame : owner = project := by
        rw [hown, hproject] at howner
        exact (Except.ok.inj howner).symm
      have hreceipt := checkReceipt_legible h hlegible hwrite
        ⟨.selectionSet, projectId, version.revision, version.record.recordSha256⟩ (by
          rw [hdigest, hrevision, ← hown]
          rfl)
      refine ⟨some version.record.selection, ?_⟩
      refine Checks.bind_ok.mpr ⟨project, hproject, Checks.bind_ok.mpr ⟨some version, rfl, ?_⟩⟩
      refine Checks.bind_ok.mpr ⟨(), decode_ok.mpr ⟨htext, hvalid⟩,
        refuse_bind_ok.mpr ⟨?_, Checks.bind_ok.mpr ⟨(), hreceipt, rfl⟩⟩⟩
      simp [hown, hrevision, hdigest, hidentity, hsame]

/-- A root run is of one project. -/
theorem rootRunOf_unique {first second rootRunId : String} {left right : ConversationProject × Run}
    (hfirst : rootRunOf svc s first rootRunId = .ok left)
    (hsecond : rootRunOf svc s second rootRunId = .ok right) : first = second ∧ left = right := by
  have howner : ∀ {projectId : String} {root : ConversationProject × Run},
      rootRunOf svc s projectId rootRunId = .ok root →
        ∃ run, runOf svc s rootRunId = .ok run ∧ run.projectId = projectId := by
    intro projectId root h
    unfold rootRunOf at h
    obtain ⟨project, -, h⟩ := Checks.bind_ok.mp h
    obtain ⟨-, h⟩ := refuse_bind_ok.mp h
    obtain ⟨-, h⟩ := refuse_bind_ok.mp h
    obtain ⟨run, hrun, h⟩ := Checks.bind_ok.mp h
    obtain ⟨hown, -⟩ := refuse_bind_ok.mp h
    rw [not_or, not_not] at hown
    exact ⟨run, hrun, hown.1⟩
  obtain ⟨run, hrun, hown⟩ := howner hfirst
  obtain ⟨other, hother, hown'⟩ := howner hsecond
  obtain rfl : run = other := Except.ok.inj (hrun.symm.trans hother)
  obtain rfl := hown.symm.trans hown'
  exact ⟨rfl, Except.ok.inj (hfirst.symm.trans hsecond)⟩

theorem bindingsOf_legible (h : Configured svc s) (hlegible : Legible svc s) {rootRunId : String}
    {root : ConversationProject × Run} (hroot : rootRunOf svc s projectId rootRunId = .ok root) :
    ∃ bindings, bindingsOf svc s projectId rootRunId = .ok bindings := by
  unfold bindingsOf
  cases hfound : s.bindings.find? fun row => row.rootRunId = rootRunId with
  | none => exact ⟨none, Checks.bind_ok.mpr ⟨root, hroot, rfl⟩⟩
  | some row =>
      have hmem := Table.mem_of_find? hfound
      have hkey : row.rootRunId = rootRunId := by
        simpa using Table.prop_of_find? hfound
      have hwrite := bindingsWrite_mem hmem
      obtain ⟨htext, hvalid, ⟨stored, hstored, hidentity⟩, -⟩ := h.sound _ hwrite
      have hrow := h.bindingsRows row hmem
      have hown : row.bindings.rootRunId = rootRunId :=
        (congrArg BindingsRow.rootRunId hrow).symm.trans hkey
      have hproject : row.projectId = row.bindings.projectId :=
        congrArg BindingsRow.projectId hrow
      have hdigest : row.bindingsSha256 = bindingsSha256 svc row.bindings :=
        congrArg BindingsRow.bindingsSha256 hrow
      have hsame : row.bindings.projectId = projectId ∧ stored = root :=
        rootRunOf_unique (hown ▸ hstored) hroot
      have hreceipt := checkReceipt_legible h hlegible hwrite
        ⟨.runBind, rootRunId, 1, row.bindingsSha256⟩ (by
          rw [hdigest, ← hown]
          rfl)
      refine ⟨some row.bindings, ?_⟩
      refine Checks.bind_ok.mpr ⟨root, hroot, ?_⟩
      refine Checks.bind_ok.mpr ⟨(), decode_ok.mpr ⟨htext, hvalid⟩,
        refuse_bind_ok.mpr ⟨?_, Checks.bind_ok.mpr ⟨(), hreceipt, rfl⟩⟩⟩
      simp [hown, hproject, hdigest, hsame.1, hsame.2 ▸ hidentity]

/-- There are at most as many names as heads. -/
theorem length_profileNames_le (h : Configured svc s) :
    (profileNames s).length ≤ s.profiles.heads.rows.length := by
  unfold profileNames sortedSet
  have hheads : (s.profiles.heads.rows.map Head.key).length = s.profiles.heads.rows.length :=
    List.length_map _
  rw [List.length_mergeSort, ← hheads]
  refine (List.subperm_of_subset (List.nodup_dedup _) fun name hname => ?_).length_le
  obtain ⟨version, hmem, rfl⟩ := List.mem_map.mp (List.mem_dedup.mp hname)
  have hhead := (h.profiles version.key).2
  cases hlast : (s.profiles.of version.key).getLast? with
  | none =>
      have hof : version ∈ s.profiles.of version.key := mem_of.mpr ⟨hmem, rfl⟩
      rw [List.getLast?_eq_none_iff.mp hlast] at hof
      cases hof
  | some =>
      rw [hlast] at hhead
      obtain ⟨head, hfound, -⟩ := Option.map_eq_some_iff.mp hhead
      have hkey : head.key = version.key := by
        simpa using Table.prop_of_find? hfound
      exact hkey ▸ List.mem_map_of_mem (Table.mem_of_find? hfound)

theorem listProfiles_legible (h : Configured svc s) (hlegible : Legible svc s) :
    ∃ profiles, listProfiles svc s = .ok profiles := by
  have hread : ∃ read, (profileNames s).mapM (profileOf svc s) = .ok read := by
    refine Checks.exists_mapM_ok.mpr fun name hname => ?_
    unfold profileNames sortedSet at hname
    obtain ⟨version, hmem, rfl⟩ :=
      List.mem_map.mp (List.mem_dedup.mp (List.mem_mergeSort.mp hname))
    have hkey : version.key = version.record.profile.name :=
      congrArg Version.key (h.profileRows version hmem)
    exact profileOf_legible h hlegible (hkey ▸ (h.sound _ (profileWrite_mem hmem)).1)
  obtain ⟨read, hread⟩ := hread
  have hbound := (length_profileNames_le h).trans h.catalog
  refine ⟨read.filterMap Prod.fst, ?_⟩
  exact refuse_bind_ok.mpr ⟨not_lt.mpr hbound, Checks.bind_ok.mpr ⟨read, hread, rfl⟩⟩

theorem listAudit_legible (h : Configured svc s) (hlegible : Legible svc s)
    {afterSequence limit : ℤ} (hafter : 0 ≤ afterSequence) (hone : 1 ≤ limit)
    (hlimit : limit ≤ 100) : ∃ audits, listAudit svc s afterSequence limit = .ok audits := by
  unfold listAudit
  have hread : ∀ sequences : List ℕ, (∀ n ∈ sequences, n ∈ s.audits.rows.map AuditRow.sequence) →
      ∃ audits, sequences.mapM (auditOf svc s) = .ok audits := by
    intro sequences hsequences
    refine Checks.exists_mapM_ok.mpr fun n hn => ?_
    obtain ⟨row, hmem, rfl⟩ := List.mem_map.mp (hsequences n hn)
    exact ⟨row.audit, auditOf_legible h hlegible hmem⟩
  obtain ⟨audits, haudits⟩ := hread _ fun n hn =>
    List.mem_mergeSort.mp (List.mem_filter.mp (List.mem_of_mem_take hn)).1
  exact ⟨audits, refuse_bind_ok.mpr ⟨by omega, haudits⟩⟩

/-- The store accepts what it has stored exactly when the texts can be decoded. -/
theorem readable_iff_legible (h : Configured svc s) : Readable svc s ↔ Legible svc s := by
  constructor
  · intro hread
    refine ⟨fun row hmem => ?_, fun name version hlast => ?_⟩
    · obtain ⟨audit, haudit⟩ := hread.audit row hmem
      exact (auditOf_ok h hmem haudit).1
    · obtain ⟨hmem, hkey⟩ := mem_of.mp (List.mem_of_getLast? hlast)
      have hrow : version.key = version.record.profile.name :=
        congrArg Version.key (h.profileRows version hmem)
      have hname := (h.sound _ (profileWrite_mem hmem)).1
      rw [← hrow, hkey] at hname
      obtain ⟨found, hfound⟩ := hread.profile name hname
      unfold profileOf at hfound
      rw [h.profiles.current, hlast] at hfound
      obtain ⟨_, -, hfound⟩ := Checks.bind_ok.mp hfound
      obtain ⟨current, hcurrent, hfound⟩ := Checks.bind_ok.mp hfound
      obtain rfl := Except.ok.inj hcurrent
      obtain ⟨_, hdecode, -⟩ := Checks.bind_ok.mp hfound
      exact (decode_ok.mp hdecode).1
  · intro hlegible
    exact
      { audit := fun row hmem => ⟨row.audit, auditOf_legible h hlegible hmem⟩
        page := fun _ _ => listAudit_legible h hlegible
        profile := fun _ => profileOf_legible h hlegible
        catalog := listProfiles_legible h hlegible
        selection := fun _ _ => selectionOf_legible h hlegible
        bindings := fun _ _ _ => bindingsOf_legible h hlegible }

/-! ### Legible calls -/

/-- A write that fits, and whose receipt passes, can be stored. -/
theorem exists_written (h : Configured svc s) {write : ModelWrite} (hfits : Fits s write)
    {previous : Option ModelConfigurationAudit} (hprevious : lastAudit svc s = .ok previous)
    (hvalid : (nextAudit svc s previous (subjectOf svc write) now).validates)
    (hclean : valueHoldsSecret svc.forms
      (auditDump svc (nextAudit svc s previous (subjectOf svc write) now)) = false) :
    ∃ t, Written svc s t now write (nextAudit svc s previous (subjectOf svc write) now) := by
  have hdense := foldr_max_sequence h
  have hfresh : ∀ row ∈ s.audits,
      ¬ clash row (auditRow svc (nextAudit svc s previous (subjectOf svc write) now)) := by
    intro row hmem hclash
    obtain ⟨i, hi, rfl⟩ := List.mem_iff_getElem.mp (Table.mem_def.mp hmem)
    have hnumber := h.numbered.getElem hi
    have hnext : s.audits.rows[i].sequence = latestSequence s + 1 := hclash
    omega
  obtain ⟨audits, haudits⟩ := Table.exists_insert hfresh
  have hinserted : ∃ t, Inserted svc s t (latestSequence s + 1) write ∧ t.audits = audits
      ∧ t.store = s.store ∧ t.projects = s.projects := by
    cases write with
    | profile profile removed =>
        obtain ⟨profiles, hput⟩ := h.profiles.exists_put
          (profileVersion svc (latestSequence s + 1) profile removed) hfits.1
        exact ⟨{ s with audits, profiles }, ⟨hput, rfl, rfl⟩, rfl, rfl, rfl⟩
    | selection selection =>
        obtain ⟨selections, hput⟩ := h.selections.exists_put
          (selectionVersion svc (latestSequence s + 1) selection) hfits.1
        exact ⟨{ s with audits, selections }, ⟨hput, rfl, rfl⟩, rfl, rfl, rfl⟩
    | bindings bindings =>
        obtain ⟨rows, hinsert⟩ := Table.exists_insert (t := s.bindings)
          (a := bindingsRow svc (latestSequence s + 1) bindings) hfits
        exact ⟨{ s with audits, bindings := rows }, ⟨hinsert, rfl, rfl⟩, rfl, rfl, rfl⟩
  obtain ⟨t, hrecord, htable, hstore, hprojects⟩ := hinserted
  exact ⟨t, hdense, ⟨previous, hprevious, rfl⟩, hvalid, hclean, htable ▸ haudits, hrecord, hstore,
    hprojects⟩

/-- A write is legible exactly when it leaves a legible state legible. -/
theorem legible_written {write : ModelWrite} (hlegible : Legible svc s)
    (hwritten : Written svc s t now write audit) :
    Legible svc t ↔ decodable svc (auditDump svc audit)
      ∧ ∀ profile removed, write = .profile profile removed →
        decodable svc (.obj profile.modelDump) := by
  constructor
  · intro h
    have haudit := h.audits (auditRow svc audit) ((Table.mem_insert hwritten.audits).mpr (.inr rfl))
    refine ⟨haudit, ?_⟩
    rintro profile removed rfl
    obtain ⟨hput, -, -⟩ := hwritten.inserted
    have hkey : (profileVersion svc audit.sequence profile removed).key = profile.name := rfl
    have hlast : (t.profiles.of profile.name).getLast?
        = some (profileVersion svc audit.sequence profile removed) := by
      rw [of_put hput, if_pos hkey, List.getLast?_concat]
    have hprofile := h.profiles profile.name _ hlast
    exact hprofile
  · rintro ⟨haudit, hprofile⟩
    refine ⟨fun row hmem => ?_, fun name version hlast => ?_⟩
    · rcases (Table.mem_insert hwritten.audits).mp hmem with hold | rfl
      · exact hlegible.audits row hold
      · exact haudit
    · have hinserted := hwritten.inserted
      cases write with
      | profile profile removed =>
          obtain ⟨hput, -, -⟩ := hinserted
          rw [of_put hput] at hlast
          split_ifs at hlast with hkey
          · rw [List.getLast?_concat] at hlast
            obtain rfl := Option.some.inj hlast
            exact hprofile profile removed rfl
          · rw [List.append_nil] at hlast
            exact hlegible.profiles name version hlast
      | selection selection | bindings bindings =>
          rw [hinserted.2.1] at hlast
          exact hlegible.profiles name version hlast

/-- A call keeps the state legible exactly when it is legible. -/
theorem legible_next (h : Configured svc s) (hlegible : Legible svc s) (input : ModelInput) :
    Legible svc ((modelMachine svc).next s input) ↔ LegibleCall svc s input := by
  constructor
  · intro hnext write hplanned previous hprevious hvalid hclean
    obtain ⟨-, hfits⟩ := planned_ok h hplanned
    obtain ⟨t, hwritten⟩ := exists_written h hfits hprevious hvalid hclean
    rw [next_of_written hplanned hwritten] at hnext
    exact (legible_written hlegible hwritten).mp hnext
  · intro hcall
    rcases next_cases svc s input with ⟨write, audit, hplanned, -, hwritten⟩ | ⟨-, hsame⟩
    · obtain ⟨previous, hprevious, rfl⟩ := hwritten.next
      exact (legible_written hlegible hwritten).mpr
        (hcall write hplanned previous hprevious hwritten.valid hwritten.clean)
    · rw [hsame]
      exact hlegible

/-! ### Runs -/

/-- Rows are only ever added. -/
structure Grows (s t : ModelState) : Prop where
  audits : s.audits.rows <+: t.audits.rows
  profiles : s.profiles.versions.rows <+: t.profiles.versions.rows
  selections : s.selections.versions.rows <+: t.selections.versions.rows
  bindings : s.bindings.rows <+: t.bindings.rows

theorem Grows.refl (s : ModelState) : Grows s s where
  audits := List.prefix_rfl
  profiles := List.prefix_rfl
  selections := List.prefix_rfl
  bindings := List.prefix_rfl

theorem Grows.trans {s t u : ModelState} (h : Grows s t) (h' : Grows t u) : Grows s u where
  audits := h.audits.trans h'.audits
  profiles := h.profiles.trans h'.profiles
  selections := h.selections.trans h'.selections
  bindings := h.bindings.trans h'.bindings

theorem Written.grows {write : ModelWrite} (h : Written svc s t now write audit) : Grows s t := by
  have haudits : s.audits.rows <+: t.audits.rows :=
    (Table.insert_eq_some h.audits).2 ▸ List.prefix_append _ _
  have hinserted := h.inserted
  cases write with
  | profile =>
      obtain ⟨hput, hselections, hbindings⟩ := hinserted
      have hrows := (Table.insert_eq_some (put_versions hput)).2
      exact ⟨haudits, hrows ▸ List.prefix_append _ _, hselections ▸ List.prefix_rfl,
        hbindings ▸ List.prefix_rfl⟩
  | selection =>
      obtain ⟨hput, hprofiles, hbindings⟩ := hinserted
      have hrows := (Table.insert_eq_some (put_versions hput)).2
      exact ⟨haudits, hprofiles ▸ List.prefix_rfl, hrows ▸ List.prefix_append _ _,
        hbindings ▸ List.prefix_rfl⟩
  | bindings =>
      obtain ⟨hinsert, hprofiles, hselections⟩ := hinserted
      have hrows := (Table.insert_eq_some hinsert).2
      exact ⟨haudits, hprofiles ▸ List.prefix_rfl, hselections ▸ List.prefix_rfl,
        hrows ▸ List.prefix_append _ _⟩

theorem grows_step (svc : ModelServices) (s : ModelState) (input : ModelInput) :
    Grows s ((modelMachine svc).next s input) := by
  rcases next_cases svc s input with ⟨write, audit, -, -, hwritten⟩ | ⟨-, hsame⟩
  · exact hwritten.grows
  · rw [hsame]
    exact .refl s

/-- What holds after any sequence of calls, and throughout it. -/
structure ModelHistoryHolds (svc : ModelServices) (s : ModelState) (inputs : List ModelInput) :
    Prop where
  /-- The audit is a dense chain of digests. -/
  chain : Chain.Numbered AuditRow.sequence ((modelMachine svc).run s inputs).audits.rows
    ∧ Chain.Linked (fun row => auditSha256 svc row.audit) (fun row => row.audit.previousSha256)
      ((modelMachine svc).run s inputs).audits.rows
  /-- Every stored write has its receipt, and there are no other receipts. -/
  receipts : (((modelMachine svc).run s inputs).writes.map Prod.fst).Perm
      (((modelMachine svc).run s inputs).audits.rows.map AuditRow.sequence)
    ∧ ∀ write ∈ ((modelMachine svc).run s inputs).writes,
      ∃ row ∈ ((modelMachine svc).run s inputs).audits,
        row.sequence = write.1 ∧ receiptSubject row.audit = subjectOf svc write.2
  /-- A call that writes adds one record and one receipt; any other call changes nothing. -/
  steps : ∀ input,
    (∃ write, (modelMachine svc).out ((modelMachine svc).run s inputs) input = .ok (some write)
      ∧ ((modelMachine svc).next ((modelMachine svc).run s inputs) input).audits.rows.length
        = ((modelMachine svc).run s inputs).audits.rows.length + 1
      ∧ ((modelMachine svc).next ((modelMachine svc).run s inputs) input).writes.Perm
        ((((modelMachine svc).run s inputs).audits.rows.length + 1, write)
          :: ((modelMachine svc).run s inputs).writes))
    ∨ (∀ write, (modelMachine svc).out ((modelMachine svc).run s inputs) input
        ≠ .ok (some write))
      ∧ (modelMachine svc).next ((modelMachine svc).run s inputs) input
        = (modelMachine svc).run s inputs
  /-- The revisions of profiles and of selections count from one, tombstones included. -/
  revisions : Counted ((modelMachine svc).run s inputs).profiles
    ∧ Counted ((modelMachine svc).run s inputs).selections
  /-- What a current selection permits has not been removed. -/
  permitted : ∀ projectId name, Permits ((modelMachine svc).run s inputs) projectId name →
    Available ((modelMachine svc).run s inputs) name
  /-- A role that is bound to a profile is bound to a stored revision of it. -/
  bound : ∀ row ∈ ((modelMachine svc).run s inputs).bindings,
    ∀ entry ∈ row.bindings.roles.entries, ∀ name ∈ entry.2.profileName,
      BoundTo ((modelMachine svc).run s inputs) name entry.2
  /-- Receipts, versions and bindings never change. -/
  kept : ∀ before after, inputs = before ++ after →
    Grows ((modelMachine svc).run s before) ((modelMachine svc).run s inputs)
  /-- The store accepts every state on the way exactly when every call was legible. -/
  readable : (modelMachine svc).Throughout (Readable svc) s inputs
    ↔ (modelMachine svc).Guarded (LegibleCall svc) s inputs

/-- The configuration of the models has one history. -/
theorem model_configuration_history (svc : ModelServices) (store : Store)
    (projects : List ConversationProject) (inputs : List ModelInput) :
    ModelHistoryHolds svc (.fresh store projects) inputs := by
  have hfresh := configured_fresh svc store projects
  have h := (configured_invariant svc).run hfresh inputs
  exact
    { chain := by
        refine ⟨h.numbered, ?_⟩
        refine (Chain.linked_congr fun row hmem => ?_).mp h.linked
        exact congrArg AuditRow.auditSha256 (h.receipts row hmem).1
      receipts := ⟨h.once, h.received⟩
      steps := by
        intro input
        rcases next_cases svc _ input with ⟨write, audit, -, hout, hwritten⟩ | hsame
        · refine .inl ⟨write, hout, ?_, ?_⟩
          · rw [(Table.insert_eq_some hwritten.audits).2, List.length_append,
              List.length_singleton]
          · obtain ⟨previous, -, haudit⟩ := hwritten.next
            have hsequence : audit.sequence
                = ((modelMachine svc).run (.fresh store projects) inputs).audits.rows.length
                  + 1 := by
              rw [haudit, ← hwritten.dense]
              rfl
            exact hsequence ▸ writes_perm hwritten.inserted
        · exact .inr hsame
      revisions := ⟨h.profiles, h.selections⟩
      permitted := h.permitted
      bound := fun row hmem => (h.sound _ (bindingsWrite_mem hmem)).2.2.2
      kept := by
        rintro before after rfl
        rw [Machine.run_append]
        exact Machine.run_rel (I := fun _ => True) (fun _ _ _ => trivial) .refl
          (fun _ _ _ => .trans) (fun s input _ => grows_step svc s input) trivial after
      readable := by
        rw [Machine.throughout_congr (configured_invariant svc) hfresh
          fun s h => readable_iff_legible h]
        have hempty : Legible svc (.fresh store projects) :=
          ⟨fun _ hmem => absurd hmem (Table.not_mem_empty _), fun _ _ hlast => by cases hlast⟩
        rw [Machine.throughout_iff_guarded_of (configured_invariant svc)
          (fun s input h hlegible => legible_next h hlegible input) hfresh]
        exact and_iff_right hempty }

/-! ### A receipt that is refused -/

/-- The forms of the registered secret `null`. -/
def nullForms : List SecretForm :=
  [("6e756c6c", 1), ("bnVsbA==", 1), ("bnVsbA", 1), ("null", 1)]

/-- The digests of the two documents below. -/
def sampleHash : JsonValue → Sha256
  | .obj fields =>
      if (JsonValue.field? fields "sequence").isSome then
        ⟨"9f3ef0704f133855ccb074c539a3f4be279a6f6937ab1c96d70265805deee3ed", by decide⟩
      else ⟨"b2348f901537059d955a6f14ee5cda52411297440cb6b3a2fb7a604374c3b803", by decide⟩
  | _ => ⟨"b2348f901537059d955a6f14ee5cda52411297440cb6b3a2fb7a604374c3b803", by decide⟩

/-- A store with one registered secret. -/
def nullServices : ModelServices where
  redactor := Redactor.ofForms nullForms
  canonicalJsonHash := sampleHash
  stateRecordSafe := fun _ => true
  forms := nullForms
  isoTimestamp := fun _ => "2026-01-01T00:00:00Z"
  projectSafe := fun _ => true

/-- A profile all of whose fields are there. -/
def mainProfile : ModelProfile where
  name := "main"
  revision := 1
  configuration := {
    runtimeName := "openai-agents"
    providerModel := some "openai:gpt-5"
    credentialRef := some "env:OPENAI_API_KEY" }

/-- The first call saves it. -/
def saveMain : ModelInput where
  op := .saveProfile mainProfile 0
  reads := { conversation := fun _ _ => .error modelStale, validateReview := .ok () }
  now := 0

/-- A store without rows. -/
def noStore : Store := ⟨⟨.empty, .empty, .empty, .empty, .empty, .empty, .empty⟩, []⟩

/-- The profile is saved; its receipt, which has no predecessor, is then refused. -/
theorem unreadable_receipt :
    ¬ Readable nullServices ((modelMachine nullServices).run (.fresh noStore []) [saveMain]) := by
  intro h
  have hconfigured := (configured_invariant nullServices).run
    (configured_fresh nullServices noStore []) [saveMain]
  have hlegible := ((readable_iff_legible hconfigured).mp h).audits
  have hrefused : ∃ row ∈
      ((modelMachine nullServices).run (.fresh noStore []) [saveMain]).audits.rows,
      ¬ decodable nullServices (auditDump nullServices row.audit) := by
    decide +kernel
  obtain ⟨row, hmem, hrow⟩ := hrefused
  exact hrow (hlegible row hmem)

end AgentFleet.ModelProfiles
