import AgentFleet.Trust.Invariant

/-! # Publishing the policy

What the invariant of the directory says of any run, and that a save which nobody disturbs
publishes: also after a save before it was interrupted, whose backup it accepts.

* `Completes` is what a call can reach by proceeding alone.
* `PublishedChain` gathers what holds of the publications of a run. -/

namespace AgentFleet

open Transition

variable {svc : TrustFileServices} {s : TrustState} {id : ℕ} {call : SaveCall}

/-! ### An undisturbed save -/

theorem UserTrustRule.pyEq_refl (rule : UserTrustRule) : rule.pyEq rule = true := by
  unfold UserTrustRule.pyEq ExactPermissionScope.pyEq
  simp [JsonValue.pyEqFields_refl]

theorem rulesPyEq_refl : ∀ rules : List UserTrustRule, rulesPyEq rules rules = true
  | [] => rfl
  | rule :: rules => by
      unfold rulesPyEq
      rw [rule.pyEq_refl, rulesPyEq_refl rules]
      rfl

theorem UserTrustPolicy.pyEq_refl (policy : UserTrustPolicy) : policy.pyEq policy = true := by
  unfold UserTrustPolicy.pyEq
  rw [rulesPyEq_refl]
  simp

/-- By proceeding alone the call can return, having published one policy on top of the others. -/
def Completes (svc : TrustFileServices) (s : TrustState) (id : ℕ) (published : List Publication)
    (updated : UserTrustPolicy) : Prop :=
  ∃ inputs, (∀ input ∈ inputs, input.caller = id) ∧
    ∃ call p, ((trustMachine svc).run s inputs).calls id = some call ∧ call.phase = .returned
      ∧ ((trustMachine svc).run s inputs).published = published ++ [p] ∧ p.call = id
      ∧ p.updated = updated

variable {published : List Publication} {updated : UserTrustPolicy} {token opened second : String}
  {content : List UInt8} {target : FileName} {file : TrustFile}
  {expected original : Option TrustFile} {other : ℕ}

theorem Completes.step (input : TrustInput) (hcaller : input.caller = id)
    (h : Completes svc (trustStep svc s input) id published updated) :
    Completes svc s id published updated := by
  obtain ⟨inputs, hinputs, hrest⟩ := h
  refine ⟨input :: inputs, ?_, hrest⟩
  rw [List.forall_mem_cons]
  exact ⟨hcaller, hinputs⟩

/-- The next operation of a call. -/
theorem Completes.proceed (hstored : s.calls id = some call) (token : String) (count : ℕ)
    (h : Completes svc (proceed svc s id call token count) id published updated) :
    Completes svc s id published updated := by
  refine Completes.step (.proceed id token count) rfl ?_
  unfold trustStep
  dsimp only
  rw [hstored]
  exact h

theorem withPhase_calls (s : TrustState) (id : ℕ) (call : SaveCall) (phase : SavePhase) :
    (s.withPhase id call phase).calls id = some { call with phase } :=
  Function.update_self _ _ _

theorem completes_of_verifying (h : TrustSound svc s) (hstored : s.calls id = some call)
    (hphase : call.phase = .verifying) {p : Publication}
    (hpublished : s.published = published ++ [p]) (hcall : p.call = id)
    (hupdated : p.updated = call.updated)
    (hreads : svc.decode (svc.encode call.updated) = some call.updated) :
    Completes svc s id published call.updated := by
  have hlast : s.published.getLast? = some p := by
    rw [hpublished, List.getLast?_concat]
  have hload : loadPolicy svc s = .ok call.updated := by
    unfold loadPolicy
    rw [h.head, hlast, Option.map_some]
    dsimp only
    rw [h.written p (List.mem_of_getLast? hlast), hupdated, hreads]
  refine ⟨[.proceed id "" 0], ?_, ?_⟩
  · intro input hinput
    rw [List.mem_singleton.mp hinput]
    rfl
  · have hnext : (trustMachine svc).run s [.proceed id "" 0]
        = { s with lock := s.released id }.withPhase id call .returned := by
      show trustStep svc s (.proceed id "" 0) = _
      unfold trustStep
      dsimp only
      rw [hstored]
      dsimp only
      unfold AgentFleet.proceed
      rw [hphase]
      dsimp only
      rw [hload]
      dsimp only
      rw [if_pos call.updated.pyEq_refl]
    rw [hnext]
    exact ⟨{ call with phase := .returned }, p, Function.update_self _ _ _, rfl, hpublished, hcall,
      hupdated⟩

/-- A temporary file that holds all of the content is renamed. -/
theorem writeTemporary_whole (hfile : s.files (.temporary token) = some file)
    (hcontent : file.content = content) (count : ℕ) (finish : TrustState → TrustFile → TrustState) :
    s.writeTemporary id call token content target (s.files target) count finish
      = finish { s with files := s.files.replace (.temporary token) target } file := by
  unfold TrustState.writeTemporary
  rw [hfile]
  dsimp only
  rw [hcontent, if_neg (Nat.lt_irrefl _), if_neg (not_not.mpr rfl)]

/-- One write can take all that is left. -/
theorem writeTemporary_rest (hfile : s.files (.temporary token) = some file)
    (hshort : file.content.length < content.length) (finish : TrustState → TrustFile → TrustState) :
    s.writeTemporary id call token content target expected content.length finish
      = { s with
          files := Function.update s.files (.temporary token)
            (some { file with content := content }) } := by
  unfold TrustState.writeTemporary
  rw [hfile]
  dsimp only
  rw [if_pos hshort]
  unfold TrustFile.written
  rw [List.take_of_length_le (by omega)]

theorem completes_of_written (h : TrustSound svc s) (hstored : s.calls id = some call)
    (hphase : call.phase = .publishing original token)
    (hfile : s.files (.temporary token) = some file)
    (hcontent : file.content = svc.encode call.updated)
    (hreads : svc.decode (svc.encode call.updated) = some call.updated) :
    Completes svc s id s.published call.updated := by
  have hsound := (h.calls id call hstored).phase
  unfold PhaseSound at hsound
  rw [hphase] at hsound
  have hfound : s.files .policy = original := hsound.1.file
  refine Completes.proceed hstored "" 0 ?_
  have hnext := h.proceed hstored "" 0
  unfold AgentFleet.proceed at hnext ⊢
  rw [hphase] at hnext ⊢
  dsimp only at hnext ⊢
  rw [← hfound, writeTemporary_whole hfile hcontent] at hnext ⊢
  have hrest := completes_of_verifying hnext (withPhase_calls _ _ _ _) rfl rfl rfl rfl hreads
  exact hrest

theorem completes_of_publishing (h : TrustSound svc s) (hstored : s.calls id = some call)
    (hphase : call.phase = .publishing original token)
    (hreads : svc.decode (svc.encode call.updated) = some call.updated) :
    Completes svc s id s.published call.updated := by
  have hsound := (h.calls id call hstored).phase
  unfold PhaseSound at hsound
  rw [hphase] at hsound
  obtain ⟨-, file, hfile, hprefix⟩ := hsound
  by_cases hshort : file.content.length < (svc.encode call.updated).length
  · refine Completes.proceed hstored "" (svc.encode call.updated).length ?_
    have hnext := h.proceed hstored "" (svc.encode call.updated).length
    unfold AgentFleet.proceed at hnext ⊢
    rw [hphase] at hnext ⊢
    dsimp only at hnext ⊢
    rw [writeTemporary_rest hfile hshort] at hnext ⊢
    exact completes_of_written hnext hstored hphase (Function.update_self _ _ _) rfl hreads
  · exact completes_of_written h hstored hphase hfile (eq_of_isPrefix hprefix hshort) hreads

theorem openTemporary_fresh {phase : SavePhase} (hfresh : s.files (.temporary token) = none) :
    s.openTemporary id call token phase
      = { s with
          files := Function.update s.files (.temporary token) (some ⟨s.nextInode, []⟩)
          nextInode := s.nextInode + 1 }.withPhase id call phase := by
  unfold TrustState.openTemporary
  rw [hfresh]

theorem completes_of_replacing (h : TrustSound svc s) (hstored : s.calls id = some call)
    (hphase : call.phase = .replacing original) (hfresh : s.files (.temporary token) = none)
    (hreads : svc.decode (svc.encode call.updated) = some call.updated) :
    Completes svc s id s.published call.updated := by
  refine Completes.proceed hstored token 0 ?_
  have hnext := h.proceed hstored token 0
  unfold AgentFleet.proceed at hnext ⊢
  rw [hphase] at hnext ⊢
  dsimp only at hnext ⊢
  rw [openTemporary_fresh hfresh] at hnext ⊢
  have hrest := completes_of_publishing hnext (withPhase_calls _ _ _ _) rfl hreads
  exact hrest

/-- The backup is written, and put in place. -/
theorem completes_of_kept (h : TrustSound svc s) (hstored : s.calls id = some call)
    {current : UserTrustPolicy} {original : TrustFile}
    (hphase : call.phase = .backingUp current original opened)
    (hfile : s.files (.temporary opened) = some file)
    (hcontent : file.content = svc.encode current) (hne : token ≠ opened)
    (hfresh : s.files (.temporary token) = none)
    (hreads : svc.decode (svc.encode call.updated) = some call.updated) :
    Completes svc s id s.published call.updated := by
  have hsound := (h.calls id call hstored).phase
  unfold PhaseSound at hsound
  rw [hphase] at hsound
  have hnone : s.files (.backup current.revision) = none := hsound.2.1
  refine Completes.proceed hstored "" 0 ?_
  have hnext := h.proceed hstored "" 0
  unfold AgentFleet.proceed at hnext ⊢
  rw [hphase] at hnext ⊢
  dsimp only at hnext ⊢
  rw [← hnone, writeTemporary_whole hfile hcontent] at hnext ⊢
  have hfree : s.files.replace (.temporary opened) (.backup current.revision) (.temporary token)
      = none := by
    have hother : FileName.temporary token ≠ .backup current.revision := nofun
    unfold TrustFiles.replace
    rw [Function.update_of_ne fun heq => hne (FileName.temporary.inj heq),
      Function.update_of_ne hother]
    exact hfresh
  have hrest := completes_of_replacing hnext (withPhase_calls _ _ _ _) rfl hfree hreads
  exact hrest

theorem completes_of_backingUp (h : TrustSound svc s) (hstored : s.calls id = some call)
    {current : UserTrustPolicy} {original : TrustFile}
    (hphase : call.phase = .backingUp current original opened) (hne : token ≠ opened)
    (hfresh : s.files (.temporary token) = none)
    (hreads : svc.decode (svc.encode call.updated) = some call.updated) :
    Completes svc s id s.published call.updated := by
  have hsound := (h.calls id call hstored).phase
  unfold PhaseSound at hsound
  rw [hphase] at hsound
  obtain ⟨-, -, file, hfile, hprefix⟩ := hsound
  by_cases hshort : file.content.length < (svc.encode current).length
  · refine Completes.proceed hstored "" (svc.encode current).length ?_
    have hnext := h.proceed hstored "" (svc.encode current).length
    unfold AgentFleet.proceed at hnext ⊢
    rw [hphase] at hnext ⊢
    dsimp only at hnext ⊢
    rw [writeTemporary_rest hfile hshort] at hnext ⊢
    refine completes_of_kept hnext hstored hphase (Function.update_self _ _ _) rfl hne ?_ hreads
    show Function.update s.files (.temporary opened) _ (.temporary token) = none
    rw [Function.update_of_ne fun heq => hne (FileName.temporary.inj heq)]
    exact hfresh
  · exact completes_of_kept h hstored hphase hfile (eq_of_isPrefix hprefix hshort) hne hfresh hreads

theorem completes_of_comparing (h : TrustSound svc s) (hstored : s.calls id = some call)
    {current : UserTrustPolicy} {original : TrustFile} {first : String}
    (hphase : call.phase = .comparing current original) (hne : second ≠ first)
    (hfirst : s.files (.temporary first) = none) (hsecond : s.files (.temporary second) = none)
    (hreads : svc.decode (svc.encode call.updated) = some call.updated) :
    Completes svc s id s.published call.updated := by
  have hseen : Seen svc s.files call.expectedRevision current original := by
    have hsound := (h.calls id call hstored).phase
    unfold PhaseSound at hsound
    rw [hphase] at hsound
    exact hsound
  refine Completes.proceed hstored first 0 ?_
  have hnext := h.proceed hstored first 0
  unfold AgentFleet.proceed at hnext ⊢
  rw [hphase] at hnext ⊢
  dsimp only at hnext ⊢
  cases hbackup : s.files (.backup current.revision) with
  | some backup =>
      -- a backup of the current revision can only be what an interrupted save has left
      obtain ⟨p, hlast, -, hread, hrevision⟩ := h.last_of_seen hseen
      obtain ⟨q, hq, hq_revision, hkept⟩ := h.kept _ backup hbackup
      have hp := List.mem_of_getLast? hlast
      have hsame : q = p := h.revision_inj hq hp (hq_revision.trans hrevision.symm)
      subst hsame
      obtain ⟨found, hfound, hbackup_read⟩ := hkept.reads (h.written q hq)
      have heq : found = current := Option.some.inj (hfound.symm.trans hread)
      subst heq
      have hequal : (svc.decode backup.content).any (fun policy => policy.pyEq found) = true := by
        rw [hbackup_read]
        exact found.pyEq_refl
      rw [hbackup] at hnext
      dsimp only at hnext ⊢
      rw [if_pos hequal] at hnext ⊢
      have hrest := completes_of_replacing hnext (withPhase_calls _ _ _ _) rfl hsecond hreads
      exact hrest
  | none =>
      rw [hbackup] at hnext
      dsimp only at hnext ⊢
      rw [openTemporary_fresh hfirst] at hnext ⊢
      have hfree : Function.update s.files (.temporary first) (some ⟨s.nextInode, []⟩)
          (.temporary second) = none := by
        rw [Function.update_of_ne fun heq => hne (FileName.temporary.inj heq)]
        exact hsecond
      have hrest := completes_of_backingUp hnext (withPhase_calls _ _ _ _) rfl hne hfree hreads
      exact hrest

theorem completes_of_reading (h : TrustSound svc s) (hstored : s.calls id = some call)
    (hphase : call.phase = .reading) {current : UserTrustPolicy}
    (hload : loadPolicy svc s = .ok current)
    (hrevision : current.revision = call.expectedRevision) {first : String} (hne : second ≠ first)
    (hfirst : s.files (.temporary first) = none) (hsecond : s.files (.temporary second) = none)
    (hreads : svc.decode (svc.encode call.updated) = some call.updated) :
    Completes svc s id s.published call.updated := by
  refine Completes.proceed hstored "" 0 ?_
  have hnext := h.proceed hstored "" 0
  unfold AgentFleet.proceed at hnext ⊢
  rw [hphase] at hnext ⊢
  dsimp only at hnext ⊢
  rw [hload] at hnext ⊢
  dsimp only at hnext ⊢
  rw [if_neg (not_not.mpr hrevision)] at hnext ⊢
  cases hfile : s.files .policy with
  | none =>
      rw [hfile] at hnext
      have hrest := completes_of_replacing hnext (withPhase_calls _ _ _ _) rfl hfirst hreads
      exact hrest
  | some =>
      rw [hfile] at hnext
      have hrest := completes_of_comparing hnext (withPhase_calls _ _ _ _) rfl hne hfirst hsecond
        hreads
      exact hrest

theorem completes_of_locking (h : TrustSound svc s) (hstored : s.calls id = some call)
    (hphase : call.phase = .locking) (hfree : s.lock = none) {current : UserTrustPolicy}
    (hload : loadPolicy svc s = .ok current)
    (hrevision : current.revision = call.expectedRevision) {first : String} (hne : second ≠ first)
    (hfirst : s.files (.temporary first) = none) (hsecond : s.files (.temporary second) = none)
    (hreads : svc.decode (svc.encode call.updated) = some call.updated) :
    Completes svc s id s.published call.updated := by
  refine Completes.proceed hstored "" 0 ?_
  have hnext := h.proceed hstored "" 0
  unfold AgentFleet.proceed at hnext ⊢
  rw [hphase] at hnext ⊢
  dsimp only at hnext ⊢
  rw [if_pos hfree] at hnext ⊢
  have hrest := completes_of_reading hnext (withPhase_calls _ _ _ _) rfl hload hrevision hne
    hfirst hsecond hreads
  exact hrest

/-- A call of `save` that nobody disturbs publishes its policy, whatever earlier saves have left
in the directory: the lock is free, the file reads at the revision that it expects, two names for
temporary files are not taken, and the policy reads back as it is. -/
theorem save_completes (h : TrustSound svc s) (hfree : s.lock = none) (hnew : s.calls id = none)
    {policy current : UserTrustPolicy} {expectedRevision : ℤ}
    (hprepare : prepareSave svc policy expectedRevision = .ok updated)
    (hload : loadPolicy svc s = .ok current)
    (hrevision : (current.revision : ℤ) = expectedRevision) {first : String}
    (hne : second ≠ first) (hfirst : s.files (.temporary first) = none)
    (hsecond : s.files (.temporary second) = none)
    (hreads : svc.decode (svc.encode updated) = some updated) :
    Completes svc s id s.published updated := by
  refine Completes.step (.save id policy expectedRevision) rfl ?_
  have hnext := h.step (.save id policy expectedRevision)
  have hunused : ¬ (s.calls id).isSome = true := by
    rw [hnew]
    exact Bool.false_ne_true
  have hexpected : current.revision = expectedRevision.toNat := by omega
  unfold trustStep at hnext ⊢
  dsimp only at hnext ⊢
  rw [if_neg hunused, hprepare] at hnext ⊢
  have hrest := completes_of_locking hnext (withPhase_calls _ _ _ _) rfl hfree hload hexpected hne
    hfirst hsecond hreads
  exact hrest

/-! ### Every run -/

/-- What holds of the publications of a run: their revisions are those from one on; the first
expects the absent file and each other one the revision before it, and a caller that had loaded a
policy of that revision had loaded what the publication before it reads as; the policy file is the
last of them, completely written; and each one before the last has a backup that reads as it
does. -/
structure PublishedChain (svc : TrustFileServices) (s : TrustState) : Prop where
  revisions : s.published.map (fun p => p.updated.revision) = List.range' 1 s.published.length
  first : ∀ p ∈ s.published.head?, First p
  chain : s.published.IsChain (Follows svc)
  file : s.files .policy = s.published.getLast?.map Publication.file
  written : ∀ p ∈ s.published, p.file.content = svc.encode p.updated
  backups : ∀ p ∈ s.published.dropLast, ∃ backup found,
    s.files (.backup p.updated.revision) = some backup
      ∧ svc.decode p.file.content = some found ∧ svc.decode backup.content = some found

theorem TrustSound.publishedChain (h : TrustSound svc s) : PublishedChain svc s := by
  refine ⟨h.revisions, h.first, h.chain, h.head, h.written, fun p hp => ?_⟩
  obtain ⟨backup, hbackup⟩ := Option.isSome_iff_exists.mp (h.superseded p hp)
  obtain ⟨q, hq, hrevision, hkept⟩ := h.kept _ backup hbackup
  have hmem := List.mem_of_mem_dropLast hp
  have hsame : q = p := h.revision_inj hq hmem hrevision
  subst hsame
  obtain ⟨found, hfound, hread⟩ := hkept.reads (h.written q hmem)
  exact ⟨backup, found, hbackup, hfound, hread⟩

theorem withPhase_calls_other (hne : other ≠ id) (phase : SavePhase) :
    (s.withPhase id call phase).calls other = s.calls other :=
  Function.update_of_ne hne _ _

theorem openTemporary_calls_other (hne : other ≠ id) (token : String) (phase : SavePhase) :
    (s.openTemporary id call token phase).calls other = s.calls other := by
  unfold TrustState.openTemporary
  cases s.files (.temporary token) with
  | some _ | none => exact Function.update_of_ne hne _ _

theorem writeTemporary_calls_other (hne : other ≠ id) {count : ℕ}
    {finish : TrustState → TrustFile → TrustState}
    (hfinish : ∀ u file, (finish u file).calls other = u.calls other) :
    (s.writeTemporary id call token content target expected count finish).calls other
      = s.calls other := by
  unfold TrustState.writeTemporary
  cases s.files (.temporary token) with
  | none => exact Function.update_of_ne hne _ _
  | some file =>
      dsimp only
      split_ifs with hshort hchanged
      · rfl
      · exact Function.update_of_ne hne _ _
      · exact hfinish _ file

theorem proceed_calls_other (hne : other ≠ id) (token : String) (count : ℕ) :
    (proceed svc s id call token count).calls other = s.calls other := by
  unfold AgentFleet.proceed
  cases call.phase with
  | locking =>
      dsimp only
      split_ifs
      · exact withPhase_calls_other hne _
      · rfl
  | reading =>
      dsimp only
      cases loadPolicy svc s with
      | error => exact withPhase_calls_other hne _
      | ok =>
          dsimp only
          split_ifs
          · exact withPhase_calls_other hne _
          · cases s.files .policy with
            | none | some original => exact withPhase_calls_other hne _
  | comparing current =>
      dsimp only
      cases s.files (.backup current.revision) with
      | none => exact openTemporary_calls_other hne _ _
      | some =>
          dsimp only
          split_ifs
          · exact withPhase_calls_other hne _
          · exact withPhase_calls_other hne _
  | backingUp =>
      exact writeTemporary_calls_other hne fun _ _ => withPhase_calls_other hne _
  | replacing => exact openTemporary_calls_other hne _ _
  | publishing =>
      exact writeTemporary_calls_other hne fun _ _ => withPhase_calls_other hne _
  | verifying =>
      dsimp only
      cases loadPolicy svc s with
      | error => exact withPhase_calls_other hne _
      | ok =>
          dsimp only
          split_ifs
          · exact withPhase_calls_other hne _
          · exact withPhase_calls_other hne _
  | returned | raised _ _ | crashed => rfl

/-- An event changes the call of its caller only. -/
theorem calls_other {input : TrustInput} (hne : other ≠ input.caller) :
    (trustStep svc s input).calls other = s.calls other := by
  cases input with
  | load =>
      unfold trustStep
      dsimp only
      cases loadPolicy svc s <;> rfl
  | save id policy expectedRevision =>
      unfold trustStep
      dsimp only
      split_ifs
      · rfl
      · cases prepareSave svc policy expectedRevision with
        | error error | ok updated => exact withPhase_calls_other hne _
  | proceed id token count =>
      unfold trustStep
      dsimp only
      cases s.calls id with
      | none => rfl
      | some => exact proceed_calls_other hne token count
  | fault id | crash id =>
      unfold trustStep
      dsimp only
      cases s.calls id with
      | none => rfl
      | some =>
          dsimp only
          split_ifs
          · exact withPhase_calls_other hne _
          · rfl

/-- A call that is over stays as it is. -/
theorem calls_inactive (hstored : s.calls id = some call) (hover : call.phase.active = false)
    (input : TrustInput) : (trustStep svc s input).calls id = some call := by
  by_cases hid : id = input.caller
  · subst hid
    have hinactive : ¬ call.phase.active = true := by
      rw [hover]
      exact Bool.false_ne_true
    have hused : (s.calls input.caller).isSome = true := by
      rw [hstored]
      rfl
    cases input with
    | load =>
        unfold trustStep
        dsimp only
        cases loadPolicy svc s <;> exact hstored
    | save id =>
        have hused : (s.calls id).isSome = true := hused
        unfold trustStep
        dsimp only
        rw [if_pos hused]
        exact hstored
    | proceed id =>
        have hstored : s.calls id = some call := hstored
        unfold trustStep
        dsimp only
        rw [hstored]
        dsimp only
        unfold AgentFleet.proceed
        cases hphase : call.phase with
        | returned | raised _ _ | crashed => exact hstored
        | _ =>
            rw [hphase] at hover
            cases hover
    | fault id | crash id =>
        have hstored : s.calls id = some call := hstored
        unfold trustStep
        dsimp only
        rw [hstored]
        dsimp only
        rw [if_neg hinactive]
        exact hstored
  · rw [calls_other hid]
    exact hstored

/-- A call that raised before the replacement. -/
def RaisedUnpublished (s : TrustState) (id : ℕ) : Prop :=
  ∃ call error, s.calls id = some call ∧ call.phase = .raised error false

theorem raisedUnpublished_run (svc : TrustFileServices) {s : TrustState} {id : ℕ}
    (h : RaisedUnpublished s id) (inputs : List TrustInput) :
    RaisedUnpublished ((trustMachine svc).run s inputs) id := by
  induction inputs generalizing s with
  | nil => exact h
  | cons input inputs ih =>
      obtain ⟨call, error, hstored, hphase⟩ := h
      refine ih ⟨call, error, calls_inactive hstored ?_ input, hphase⟩
      rw [hphase]
      rfl

/-- In any interleaving of loads, saves, failures and crashes: the publications are one chain of
which later states only see more; a call that raised before the replacement has published
nothing; and whenever the lock is free, a call with a new name for the revision that the file reads
at can proceed alone until it returns and has published its policy, whatever interrupted saves
have left. -/
theorem trust_publication (svc : TrustFileServices) (before after : List TrustInput) :
    let m := trustMachine svc
    let s := m.run .fresh before
    let t := m.run s after
    PublishedChain svc s ∧ s.published <+: t.published
      ∧ (∀ id, RaisedUnpublished s id → ∀ p ∈ t.published, p.call ≠ id)
      ∧ ∀ id policy updated current (expectedRevision : ℤ) first second, s.lock = none →
        s.calls id = none → prepareSave svc policy expectedRevision = .ok updated →
        loadPolicy svc s = .ok current → (current.revision : ℤ) = expectedRevision →
        second ≠ first → s.files (.temporary first) = none →
        s.files (.temporary second) = none →
        svc.decode (svc.encode updated) = some updated →
          Completes svc s id s.published updated := by
  intro m s t
  have hs : TrustSound svc s := (trust_invariant svc).run (.fresh svc) before
  refine ⟨hs.publishedChain, published_run svc s after, ?_, ?_⟩
  · intro id hraised p hp
    have ht : TrustSound svc t := (trust_invariant svc).run hs after
    obtain ⟨call, error, hstored, hphase⟩ := raisedUnpublished_run svc hraised after
    refine (ht.calls id call hstored).silent (.inr ⟨error, hphase⟩) ?_ p hp
    rw [hphase]
    rfl
  · intro id policy updated current expectedRevision first second hfree hnew hprepare hload
      hrevision hne hfirst hsecond hreads
    exact save_completes hs hfree hnew hprepare hload hrevision hne hfirst hsecond hreads

/-! ### An interrupted save -/

/-- The sample services, with a text form that only tells the revision. -/
def sampleTrustFileServices : TrustFileServices where
  toTrustServices := sampleTrustServices
  policyHasSecret := fun _ => false
  encode := fun policy => List.replicate policy.revision 0
  decode := fun bytes => some { revision := bytes.length }
  decode_revision := by
    rintro policy found h
    cases h
    exact List.length_replicate
  decode_encode := by
    rintro policy found h
    cases h
    rw [List.length_replicate, List.length_replicate]

/-- Two saves, the second of which crashes after its backup is in place. -/
def interruptedSaves : List TrustInput :=
  .save 0 {} 0 :: List.replicate 6 (.proceed 0 "a" 9)
    ++ .save 1 { revision := 1 } 1 :: List.replicate 6 (.proceed 1 "b" 9) ++ [.crash 1]

/-- The save that crashed has published nothing, and its repetition can go on until it has. -/
theorem trust_publication_interrupted :
    let s := (trustMachine sampleTrustFileServices).run .fresh interruptedSaves
    s.published.map (fun p => (p.call, p.updated.revision)) = [(0, 1)]
      ∧ (s.files (.backup 1)).isSome = true
      ∧ Completes sampleTrustFileServices s 2 s.published { revision := 2 } := by
  refine ⟨by decide, by decide, ?_⟩
  exact (trust_publication sampleTrustFileServices interruptedSaves []).2.2.2 2 { revision := 1 }
    { revision := 2 } { revision := 1 } 1 "c" "d" (by decide) (by decide) rfl rfl
    (by decide) (by decide) (by decide) (by decide) rfl

end AgentFleet
