import AgentFleet.Trust.Files
import Mathlib.Data.List.Chain
import Mathlib.Data.List.Range

/-! # The chain of published policies

Only the caller that holds the lock changes the policy or a backup, and it replaces the policy only
after it has found it at the revision it expects and has put a backup of it in place.  So the
publications are one chain of revisions, each made of exactly the policy before it, and what an
interrupted save leaves behind is a backup that its repetition accepts.

* `Known` is a policy that some caller can have loaded.
* `Follows` relates two successive publications.
* `TrustSound` is the invariant of `trustMachine`, and `CallSound` its part for one call. -/

namespace AgentFleet

open Transition

variable {svc : TrustFileServices} {s t : TrustState} {id : ℕ} {call : SaveCall}

/-! ### Policies that were read -/

/-- The policy is the empty one, or some publication reads as it. -/
def Known (svc : TrustFileServices) (published : List Publication) (policy : UserTrustPolicy) :
    Prop :=
  policy = {} ∨ ∃ p ∈ published, svc.decode p.file.content = some policy

/-- A publication expects the revision before it; and if its caller had loaded a policy of that
revision, then it was the one before it. -/
structure Follows (svc : TrustFileServices) (older newer : Publication) : Prop where
  expected : newer.expectedRevision = older.updated.revision
  base : ∀ b ∈ newer.base, b.revision = newer.expectedRevision →
    svc.decode older.file.content = some b

/-- The first publication expects the absent file. -/
structure First (p : Publication) : Prop where
  expected : p.expectedRevision = 0
  base : ∀ b ∈ p.base, b.revision = 0 → b = {}

/-- A backup holds the text form of what a publication of its revision reads as. -/
def KeptOf (svc : TrustFileServices) (p : Publication) (backup : TrustFile) : Prop :=
  ∃ found, svc.decode p.file.content = some found ∧ backup.content = svc.encode found

variable {p : Publication} {policy : UserTrustPolicy} {files : TrustFiles} {phase : SavePhase}
  {name target : FileName} {token opened : String} {file : TrustFile} {content : List UInt8}
  {expected original : Option TrustFile}

/-- A kept backup reads as the publication does. -/
theorem KeptOf.reads {backup : TrustFile} (h : KeptOf svc p backup)
    (hwritten : p.file.content = svc.encode p.updated) :
    ∃ found, svc.decode p.file.content = some found ∧ svc.decode backup.content = some found := by
  obtain ⟨found, hfound, hcontent⟩ := h
  refine ⟨found, hfound, ?_⟩
  rw [hwritten] at hfound
  rw [hcontent]
  exact svc.decode_encode hfound

/-! ### The invariant -/

/-- The call holds the lock in this phase. -/
def SavePhase.holds : SavePhase → Bool
  | .reading | .comparing _ _ | .backingUp _ _ _ | .replacing _ | .publishing _ _ | .verifying =>
      true
  | _ => false

/-- The caller has read the policy of the file. -/
structure Seen (svc : TrustFileServices) (files : TrustFiles) (expectedRevision : ℕ)
    (current : UserTrustPolicy) (original : TrustFile) : Prop where
  file : files .policy = some original
  read : svc.decode original.content = some current
  revision : current.revision = expectedRevision

/-- The caller may replace the policy file: it is absent, or its backup is in place. -/
structure Ready (svc : TrustFileServices) (files : TrustFiles) (expectedRevision : ℕ)
    (original : Option TrustFile) : Prop where
  file : files .policy = original
  absent : original = none → expectedRevision = 0
  kept : ∀ file ∈ original, ∃ current, Seen svc files expectedRevision current file
    ∧ (files (.backup current.revision)).isSome = true

/-- The temporary file of the call holds the beginning of the content. -/
def Partial (files : TrustFiles) (token : String) (content : List UInt8) : Prop :=
  ∃ file, files (.temporary token) = some file ∧ file.content <+: content

/-- What a call has established in its phase. -/
def PhaseSound (svc : TrustFileServices) (files : TrustFiles) (call : SaveCall) : Prop :=
  match call.phase with
  | .comparing current original => Seen svc files call.expectedRevision current original
  | .backingUp current original token => Seen svc files call.expectedRevision current original
      ∧ files (.backup current.revision) = none ∧ Partial files token (svc.encode current)
  | .replacing original => Ready svc files call.expectedRevision original
  | .publishing original token => Ready svc files call.expectedRevision original
      ∧ Partial files token (svc.encode call.updated)
  | _ => True

/-- What holds of a call. -/
structure CallSound (svc : TrustFileServices) (s : TrustState) (id : ℕ) (call : SaveCall) :
    Prop where
  next : call.phase.active = true → call.updated.revision = call.expectedRevision + 1
  base : ∀ b ∈ call.base, Known svc s.published b
  holder : call.phase.holds = true → s.lock = some id
  phase : PhaseSound svc s.files call
  silent : call.phase.active = true ∨ (∃ error, call.phase = .raised error false) →
    call.phase.replaced = false → ∀ p ∈ s.published, p.call ≠ id

/-- What holds of the directory and its callers. -/
structure TrustSound (svc : TrustFileServices) (s : TrustState) : Prop where
  head : s.files .policy = s.published.getLast?.map Publication.file
  revisions : s.published.map (fun p => p.updated.revision) = List.range' 1 s.published.length
  written : ∀ p ∈ s.published, p.file.content = svc.encode p.updated
  first : ∀ p ∈ s.published.head?, First p
  chain : s.published.IsChain (Follows svc)
  superseded : ∀ p ∈ s.published.dropLast,
    (s.files (.backup p.updated.revision)).isSome = true
  kept : ∀ revision backup, s.files (.backup revision) = some backup →
    ∃ p ∈ s.published, p.updated.revision = revision ∧ KeptOf svc p backup
  loaded : ∀ id, ∀ policy ∈ s.loaded id, Known svc s.published policy
  callers : ∀ p ∈ s.published, (s.calls p.call).isSome = true
  calls : ∀ id call, s.calls id = some call → CallSound svc s id call

theorem TrustSound.fresh (svc : TrustFileServices) : TrustSound svc .fresh where
  head := rfl
  revisions := rfl
  written := fun p hp => absurd hp List.not_mem_nil
  first := fun p hp => by cases hp
  chain := .nil
  superseded := fun p hp => absurd hp List.not_mem_nil
  kept := fun revision backup h => by cases h
  loaded := fun id policy h => by cases h
  callers := fun p hp => absurd hp List.not_mem_nil
  calls := fun id call h => by cases h

/-! ### Revisions -/

theorem TrustSound.revision_inj (h : TrustSound svc s) {q : Publication} (hp : p ∈ s.published)
    (hq : q ∈ s.published) (heq : p.updated.revision = q.updated.revision) : p = q := by
  have hnodup : (s.published.map fun p => p.updated.revision).Nodup := by
    rw [h.revisions]
    exact List.nodup_range'
  exact List.inj_on_of_nodup_map hnodup hp hq heq

/-- A publication reads as a policy of its revision. -/
theorem TrustSound.read_revision (h : TrustSound svc s) (hp : p ∈ s.published)
    {found : UserTrustPolicy} (hfound : svc.decode p.file.content = some found) :
    found.revision = p.updated.revision := by
  rw [h.written p hp] at hfound
  exact svc.decode_revision hfound

/-- The last publication has the revision that counts them. -/
theorem TrustSound.last_revision (h : TrustSound svc s) (hp : s.published.getLast? = some p) :
    p.updated.revision = s.published.length := by
  have hmap := congrArg List.getLast? h.revisions
  rw [List.getLast?_map, hp, List.getLast?_range'] at hmap
  have hne : s.published.length ≠ 0 := by
    intro hzero
    rw [List.length_eq_zero_iff.mp hzero] at hp
    cases hp
  rw [if_neg hne] at hmap
  simpa using hmap

theorem TrustSound.one_le_revision (h : TrustSound svc s) (hp : p ∈ s.published) :
    1 ≤ p.updated.revision := by
  have hmem : p.updated.revision ∈ List.range' 1 s.published.length := by
    rw [← h.revisions]
    exact List.mem_map.mpr ⟨p, hp, rfl⟩
  exact (List.mem_range'_1.mp hmem).1

/-- What the file reads as is known, and at its revision nothing else is. -/
theorem TrustSound.known_loaded (h : TrustSound svc s) (hload : loadPolicy svc s = .ok policy) :
    Known svc s.published policy := by
  unfold loadPolicy at hload
  rw [h.head] at hload
  cases hlast : s.published.getLast? with
  | none =>
      rw [hlast] at hload
      cases hload
      exact .inl rfl
  | some p =>
      rw [hlast, Option.map_some] at hload
      dsimp only at hload
      cases hread : svc.decode p.file.content with
      | none =>
          rw [hread] at hload
          cases hload
      | some =>
          rw [hread] at hload
          cases hload
          exact .inr ⟨p, List.mem_of_getLast? hlast, hread⟩

theorem Known.append {published : List Publication} (h : Known svc published policy)
    (p : Publication) : Known svc (published ++ [p]) policy := by
  rcases h with h | ⟨q, hq, hread⟩
  · exact .inl h
  · exact .inr ⟨q, List.mem_append_left _ hq, hread⟩

/-! ### Steps that publish nothing -/

/-- A step of one caller that leaves the policy and the publications alone, and does not take a
backup away. -/
structure Quiet (svc : TrustFileServices) (s t : TrustState) (id : ℕ) : Prop where
  published : t.published = s.published
  loaded : t.loaded = s.loaded
  policy : t.files .policy = s.files .policy
  backups : ∀ revision, (s.files (.backup revision)).isSome = true →
    t.files (.backup revision) = s.files (.backup revision)
  kept : ∀ revision backup, t.files (.backup revision) = some backup →
    s.files (.backup revision) = some backup
      ∨ ∃ p ∈ s.published, p.updated.revision = revision ∧ KeptOf svc p backup
  others : s.lock = some id ∨ (t.files = s.files ∧ (t.lock = s.lock ∨ s.lock = none))

/-- A phase in which the lock is not held claims nothing of the files. -/
theorem phaseSound_of_not_holds (h : call.phase.holds = false) : PhaseSound svc files call := by
  unfold PhaseSound
  cases hphase : call.phase with
  | comparing _ _ | backingUp _ _ _ | replacing _ | publishing _ _ => rw [hphase] at h; cases h
  | _ => trivial

/-- A call of another caller is as sound as it was. -/
theorem CallSound.frame {other : ℕ} (h : CallSound svc s other call) (hne : other ≠ id)
    (hq : Quiet svc s t id) : CallSound svc t other call := by
  refine ⟨h.next, ?_, ?_, ?_, ?_⟩
  · rw [hq.published]
    exact h.base
  · intro hholds
    rcases hq.others with hheld | ⟨-, hlock | hfree⟩
    · exact absurd (Option.some.inj ((h.holder hholds).symm.trans hheld)) hne
    · rw [hlock]
      exact h.holder hholds
    · rw [h.holder hholds] at hfree
      cases hfree
  · cases hholds : call.phase.holds with
    | false => exact phaseSound_of_not_holds hholds
    | true =>
        rcases hq.others with hheld | ⟨hfiles, -⟩
        · exact absurd (Option.some.inj ((h.holder hholds).symm.trans hheld)) hne
        · rw [hfiles]
          exact h.phase
  · rw [hq.published]
    exact h.silent

/-- A quiet step keeps the invariant if its own call stays sound. -/
theorem TrustSound.quiet (h : TrustSound svc s) (id : ℕ) (call : SaveCall) (hq : Quiet svc s t id)
    (hcalls : t.calls = Function.update s.calls id (some call))
    (hcall : CallSound svc t id call) : TrustSound svc t where
  head := by
    rw [hq.policy, hq.published]
    exact h.head
  revisions := by
    rw [hq.published]
    exact h.revisions
  written := by
    rw [hq.published]
    exact h.written
  first := by
    rw [hq.published]
    exact h.first
  chain := by
    rw [hq.published]
    exact h.chain
  superseded := by
    rw [hq.published]
    intro p hp
    rw [hq.backups _ (h.superseded p hp)]
    exact h.superseded p hp
  kept := by
    rw [hq.published]
    intro revision backup hbackup
    rcases hq.kept revision backup hbackup with hold | hnew
    · exact h.kept revision backup hold
    · exact hnew
  loaded := by
    rw [hq.published, hq.loaded]
    exact h.loaded
  callers := by
    rw [hq.published, hcalls]
    intro p hp
    by_cases hid : p.call = id
    · rw [hid, Function.update_self]
      rfl
    · rw [Function.update_of_ne hid]
      exact h.callers p hp
  calls := by
    rw [hcalls]
    intro other found hfound
    by_cases hid : other = id
    · subst hid
      rw [Function.update_self] at hfound
      cases hfound
      exact hcall
    · rw [Function.update_of_ne hid] at hfound
      exact (h.calls other found hfound).frame hid hq

/-! ### The operations of a caller -/

/-- A change of the phase alone is quiet. -/
theorem quiet_withPhase : Quiet svc s (s.withPhase id call phase) id where
  published := rfl
  loaded := rfl
  policy := rfl
  backups := fun _ _ => rfl
  kept := fun _ _ h => .inl h
  others := .inr ⟨rfl, .inl rfl⟩

theorem TrustSound.withPhase (h : TrustSound svc s)
    (hcall : CallSound svc s id { call with phase }) : TrustSound svc (s.withPhase id call phase) :=
  h.quiet id { call with phase } quiet_withPhase rfl
    ⟨hcall.next, hcall.base, hcall.holder, hcall.phase, hcall.silent⟩

theorem policy_ne_temporary : ∀ token, FileName.policy ≠ .temporary token := nofun

theorem backup_ne_temporary (revision : ℕ) : ∀ token, FileName.backup revision ≠ .temporary token :=
  nofun

/-- Taking a temporary file away leaves the other names. -/
theorem cleaned_other (s : TrustState) (call : SaveCall)
    (hname : ∀ token, name ≠ .temporary token) : s.cleaned call name = s.files name := by
  unfold TrustState.cleaned
  cases call.phase.token? with
  | none => rfl
  | some token => exact Function.update_of_ne (hname token) _ _

theorem released_cases (s : TrustState) (id : ℕ) :
    s.lock = some id ∨ s.released id = s.lock := by
  unfold TrustState.released
  by_cases hheld : s.lock = some id
  · exact .inl hheld
  · exact .inr (if_neg hheld)

/-- A call that does not hold the lock has no temporary file. -/
theorem token?_of_not_holds (h : phase.holds = false) : phase.token? = none := by
  cases phase with
  | backingUp _ _ _ | publishing _ _ => cases h
  | _ => rfl

theorem quiet_abort (hcall : CallSound svc s id call) (error : FleetError) (replaced : Bool) :
    Quiet svc s (s.abort id call error replaced) id where
  published := rfl
  loaded := rfl
  policy := cleaned_other s call policy_ne_temporary
  backups := fun revision _ => cleaned_other s call (backup_ne_temporary revision)
  kept := fun revision backup hbackup => by
    refine .inl ?_
    rw [← hbackup]
    exact (cleaned_other s call (backup_ne_temporary revision)).symm
  others := by
    cases hholds : call.phase.holds with
    | true => exact .inl (hcall.holder hholds)
    | false =>
        rcases released_cases s id with hheld | hsame
        · exact .inl hheld
        · refine .inr ⟨?_, .inl hsame⟩
          show s.cleaned call = s.files
          unfold TrustState.cleaned
          rw [token?_of_not_holds hholds]

theorem SavePhase.active_of_holds (h : phase.holds = true) : phase.active = true := by
  cases phase with
  | returned | raised _ _ | crashed => cases h
  | _ => rfl

/-- An exception before the replacement leaves no publication of the call. -/
theorem TrustSound.abort (h : TrustSound svc s) (hcall : CallSound svc s id call)
    (hactive : call.phase.active = true) {error : FleetError} {replaced : Bool}
    (hreplaced : replaced = false → call.phase.replaced = false) :
    TrustSound svc (s.abort id call error replaced) := by
  refine h.quiet id { call with phase := .raised error replaced }
    (quiet_abort hcall error replaced) rfl
    ⟨fun hraised => ?_, hcall.base, fun hholds => ?_, trivial, fun _ hkept => ?_⟩
  · cases hraised
  · cases hholds
  · exact hcall.silent (.inl hactive) (hreplaced hkept)

theorem TrustSound.openTemporary (h : TrustSound svc s) (hcall : CallSound svc s id call)
    (hholds : call.phase.holds = true) (hreplaced : call.phase.replaced = false)
    (hphase : ∀ files : TrustFiles, (∀ name, (∀ token, name ≠ .temporary token) →
      files name = s.files name) → (∀ content, Partial files token content) →
      PhaseSound svc files { call with phase }) :
    TrustSound svc (s.openTemporary id call token phase) := by
  have hheld := hcall.holder hholds
  have hactive := SavePhase.active_of_holds hholds
  unfold TrustState.openTemporary
  cases htaken : s.files (.temporary token) with
  | some => exact h.abort hcall hactive fun _ => hreplaced
  | none =>
      dsimp only
      have hother : ∀ name, (∀ token, name ≠ .temporary token) →
          Function.update s.files (.temporary token) (some ⟨s.nextInode, []⟩) name
            = s.files name :=
        fun name hname => Function.update_of_ne (hname token) _ _
      refine h.quiet id { call with phase } ⟨rfl, rfl, ?_, ?_, ?_, .inl hheld⟩ rfl
        ⟨fun _ => hcall.next hactive, hcall.base, fun _ => hheld, ?_, fun _ _ => ?_⟩
      · exact hother .policy policy_ne_temporary
      · exact fun revision _ => hother (.backup revision) (backup_ne_temporary revision)
      · intro revision backup hbackup
        refine .inl ?_
        rw [← hbackup]
        exact (hother (.backup revision) (backup_ne_temporary revision)).symm
      · refine hphase _ hother fun content => ?_
        exact ⟨_, Function.update_self _ _ _, List.nil_prefix⟩
      · exact hcall.silent (.inl hactive) hreplaced

theorem written_prefix (count : ℕ) : (file.written content count).content <+: content :=
  List.take_prefix _ _

/-- A beginning that is no shorter is the whole. -/
theorem eq_of_isPrefix (h : file.content <+: content)
    (hlength : ¬ file.content.length < content.length) : file.content = content :=
  h.eq_of_length_le (Nat.not_lt.mp hlength)

/-- One operation on an open temporary file: a write keeps the phase, a failure raises, and the
replacement is left to be shown. -/
theorem TrustSound.writeTemporary (h : TrustSound svc s) (hcall : CallSound svc s id call)
    (hholds : call.phase.holds = true) (hreplaced : call.phase.replaced = false)
    (hstored : s.calls id = some call) {count : ℕ} {finish : TrustState → TrustFile → TrustState}
    (hwhole : Partial s.files token content)
    (hphase : ∀ files : TrustFiles, (∀ name, (∀ token, name ≠ .temporary token) →
      files name = s.files name) → Partial files token content → PhaseSound svc files call)
    (hfinish : ∀ file, s.files (.temporary token) = some file → file.content = content →
      s.files target = expected →
      TrustSound svc (finish { s with files := s.files.replace (.temporary token) target } file)) :
    TrustSound svc (s.writeTemporary id call token content target expected count finish) := by
  have hheld := hcall.holder hholds
  have hactive := SavePhase.active_of_holds hholds
  obtain ⟨file, hfile, hprefix⟩ := hwhole
  unfold TrustState.writeTemporary
  rw [hfile]
  dsimp only
  by_cases hshort : file.content.length < content.length
  · rw [if_pos hshort]
    have hother : ∀ name, (∀ token, name ≠ .temporary token) →
        Function.update s.files (.temporary token) (some (file.written content count)) name
          = s.files name :=
      fun name hname => Function.update_of_ne (hname token) _ _
    refine h.quiet id call ⟨rfl, rfl, ?_, ?_, ?_, .inl hheld⟩ ?_
      ⟨hcall.next, hcall.base, hcall.holder, ?_, hcall.silent⟩
    · exact hother .policy policy_ne_temporary
    · exact fun revision _ => hother (.backup revision) (backup_ne_temporary revision)
    · intro revision backup hbackup
      refine .inl ?_
      rw [← hbackup]
      exact (hother (.backup revision) (backup_ne_temporary revision)).symm
    · exact (Function.update_eq_self_iff.mpr hstored.symm).symm
    · exact hphase _ hother ⟨_, Function.update_self _ _ _, written_prefix count⟩
  · rw [if_neg hshort]
    by_cases hchanged : s.files target ≠ expected
    · rw [if_pos hchanged]
      exact h.abort hcall hactive fun _ => hreplaced
    · rw [if_neg hchanged]
      exact hfinish file hfile (eq_of_isPrefix hprefix hshort) (not_not.mp hchanged)

/-! ### Replacements -/

theorem replace_target (htarget : ∀ token, target ≠ .temporary token) :
    files.replace (.temporary token) target target = files (.temporary token) := by
  unfold TrustFiles.replace
  rw [Function.update_of_ne (htarget token), Function.update_self]

theorem replace_other (hname : ∀ token, name ≠ .temporary token) (hne : name ≠ target) :
    files.replace (.temporary token) target name = files name := by
  unfold TrustFiles.replace
  rw [Function.update_of_ne (hname token), Function.update_of_ne hne]

/-- The file that a caller has seen is the one of the last publication. -/
theorem TrustSound.last_of_seen (h : TrustSound svc s) {current : UserTrustPolicy}
    {original : TrustFile} (hseen : Seen svc s.files call.expectedRevision current original) :
    ∃ p, s.published.getLast? = some p ∧ p.file = original
      ∧ svc.decode p.file.content = some current ∧ p.updated.revision = current.revision := by
  have hfile := hseen.file
  rw [h.head] at hfile
  obtain ⟨p, hlast, rfl⟩ := Option.map_eq_some_iff.mp hfile
  exact ⟨p, hlast, rfl, hseen.read,
    (h.read_revision (List.mem_of_getLast? hlast) hseen.read).symm⟩

/-- The backup of the current policy is put in place. -/
theorem TrustSound.keepBackup (h : TrustSound svc s) (hcall : CallSound svc s id call)
    {current : UserTrustPolicy} {original : TrustFile}
    (hphase : call.phase = .backingUp current original token)
    (hseen : Seen svc s.files call.expectedRevision current original)
    (hnone : s.files (.backup current.revision) = none)
    (hfile : s.files (.temporary token) = some file)
    (hcontent : file.content = svc.encode current) :
    TrustSound svc ({ s with
      files := s.files.replace (.temporary token) (.backup current.revision) }.withPhase id call
        (.replacing (some original))) := by
  have hheld := hcall.holder (by rw [hphase]; rfl)
  have hactive : call.phase.active = true := by
    rw [hphase]
    rfl
  have hreplaced : call.phase.replaced = false := by
    rw [hphase]
    rfl
  have hbackup : s.files.replace (.temporary token) (.backup current.revision)
      (.backup current.revision) = some file := by
    rw [replace_target (backup_ne_temporary _), hfile]
  have hpolicy : s.files.replace (.temporary token) (.backup current.revision) .policy
      = s.files .policy := replace_other policy_ne_temporary nofun
  have hothers : ∀ revision, revision ≠ current.revision →
      s.files.replace (.temporary token) (.backup current.revision) (.backup revision)
        = s.files (.backup revision) := by
    intro revision hne
    refine replace_other (backup_ne_temporary revision) fun heq => hne ?_
    exact FileName.backup.inj heq
  refine h.quiet id { call with phase := .replacing (some original) }
    ⟨rfl, rfl, hpolicy, ?_, ?_, .inl hheld⟩ rfl
    ⟨fun _ => hcall.next hactive, hcall.base, fun _ => hheld, ?_, fun _ _ => ?_⟩
  · intro revision hsome
    refine hothers revision fun heq => ?_
    rw [heq, hnone] at hsome
    cases hsome
  · intro revision backup hfound
    by_cases heq : revision = current.revision
    · subst heq
      have hfound : s.files.replace (.temporary token) (.backup current.revision)
          (.backup current.revision) = some backup := hfound
      rw [hbackup] at hfound
      cases hfound
      obtain ⟨p, hlast, -, hread, hrevision⟩ := h.last_of_seen hseen
      exact .inr ⟨p, List.mem_of_getLast? hlast, hrevision, current, hread, hcontent⟩
    · exact .inl ((hothers revision heq).symm.trans hfound)
  · refine ⟨hpolicy.trans hseen.file, nofun, fun seen hseen' => ?_⟩
    cases hseen'
    refine ⟨current, ⟨hpolicy.trans hseen.file, hseen.read, hseen.revision⟩, ?_⟩
    show (s.files.replace (.temporary token) (.backup current.revision)
      (.backup current.revision)).isSome = true
    rw [hbackup]
    rfl
  · exact hcall.silent (.inl hactive) hreplaced

/-- What a caller is ready for does not depend on the temporary files. -/
theorem Ready.other {files' : TrustFiles} {expectedRevision : ℕ}
    (h : Ready svc files expectedRevision original)
    (hother : ∀ name, (∀ token, name ≠ FileName.temporary token) → files' name = files name) :
    Ready svc files' expectedRevision original := by
  have hpolicy := hother .policy policy_ne_temporary
  refine ⟨hpolicy.trans h.file, h.absent, fun file hfile => ?_⟩
  obtain ⟨current, hseen, hsome⟩ := h.kept file hfile
  refine ⟨current, ⟨hpolicy.trans hseen.file, hseen.read, hseen.revision⟩, ?_⟩
  rw [hother (.backup current.revision) (backup_ne_temporary _)]
  exact hsome

/-- A caller that is ready expects the number of publications. -/
theorem TrustSound.expected_of_ready (h : TrustSound svc s)
    (hready : Ready svc s.files call.expectedRevision original) :
    call.expectedRevision = s.published.length := by
  cases hlast : s.published.getLast? with
  | none =>
      have hfile := h.head
      rw [hlast, hready.file] at hfile
      rw [hready.absent hfile, List.getLast?_eq_none_iff.mp hlast]
      rfl
  | some p =>
      have hfile := h.head
      rw [hlast, hready.file] at hfile
      obtain ⟨current, hseen, -⟩ := hready.kept p.file hfile
      obtain ⟨q, hlast', -, -, hrevision⟩ := h.last_of_seen hseen
      rw [← h.last_revision hlast', hrevision, hseen.revision]

/-- A known policy of the last revision is what the last publication reads as. -/
theorem TrustSound.read_of_known (h : TrustSound svc s) (hlast : s.published.getLast? = some p)
    (hknown : Known svc s.published policy) (hrevision : policy.revision = s.published.length) :
    svc.decode p.file.content = some policy := by
  have hp : p ∈ s.published := List.mem_of_getLast? hlast
  rcases hknown with rfl | ⟨q, hq, hread⟩
  · have hlength := h.last_revision hlast
    have hone := h.one_le_revision hp
    have hzero : (0 : ℕ) = s.published.length := hrevision
    omega
  · have hsame : q = p := by
      refine h.revision_inj hq hp ?_
      rw [← h.read_revision hq hread, hrevision, h.last_revision hlast]
    rw [← hsame]
    exact hread

/-- The policy file is replaced. -/
theorem TrustSound.publish (h : TrustSound svc s) (hcall : CallSound svc s id call)
    (hphase : call.phase = .publishing original token)
    (hready : Ready svc s.files call.expectedRevision original)
    (hfile : s.files (.temporary token) = some file)
    (hcontent : file.content = svc.encode call.updated) :
    TrustSound svc ({ s with
      files := s.files.replace (.temporary token) .policy
      published := s.published ++ [call.publication id file] }.withPhase id call .verifying) := by
  have hactive : call.phase.active = true := by
    rw [hphase]
    rfl
  have hheld := hcall.holder (by rw [hphase]; rfl)
  have hexpected := h.expected_of_ready hready
  have hnext := hcall.next hactive
  have hpolicy : s.files.replace (.temporary token) .policy .policy = some file := by
    rw [replace_target policy_ne_temporary, hfile]
  have hbackups : ∀ revision, s.files.replace (.temporary token) .policy (.backup revision)
      = s.files (.backup revision) :=
    fun revision => replace_other (backup_ne_temporary revision) nofun
  refine ⟨?_, ?_, ?_, ?_, ?_, ?_, ?_, ?_, ?_, ?_⟩
  · show s.files.replace (.temporary token) .policy .policy = _
    rw [hpolicy]
    show some file = (s.published ++ [call.publication id file]).getLast?.map Publication.file
    rw [List.getLast?_concat]
    rfl
  · show (s.published ++ [call.publication id file]).map _
      = List.range' 1 (s.published ++ [call.publication id file]).length
    rw [List.map_append, h.revisions, List.length_append, List.length_singleton,
      List.range'_concat, List.map_singleton]
    have hlast : call.updated.revision = 1 + 1 * s.published.length := by omega
    rw [← hlast]
    rfl
  · intro p hp
    rcases List.mem_append.mp hp with hold | hnew
    · exact h.written p hold
    · rw [List.mem_singleton.mp hnew]
      exact hcontent
  · show ∀ p ∈ (s.published ++ [call.publication id file]).head?, First p
    cases hall : s.published with
    | nil =>
        intro p hp
        cases hp
        have hzero : call.expectedRevision = 0 := by
          rw [hexpected, hall]
          rfl
        refine ⟨hzero, fun b hb hb0 => ?_⟩
        rcases hcall.base b hb with heq | ⟨q, hq, -⟩
        · exact heq
        · rw [hall] at hq
          cases hq
    | cons =>
        intro p hp
        refine h.first p ?_
        rw [hall]
        exact hp
  · refine List.isChain_append.mpr ⟨h.chain, .singleton _, fun p hp q hq => ?_⟩
    cases hq
    have hlast : s.published.getLast? = some p := hp
    refine ⟨hexpected.trans (h.last_revision hlast).symm, fun b hb hrevision => ?_⟩
    exact h.read_of_known hlast (hcall.base b hb) (hrevision.trans hexpected)
  · show ∀ p ∈ (s.published ++ [call.publication id file]).dropLast, _
    rw [List.dropLast_concat]
    intro p hp
    show (s.files.replace (.temporary token) .policy (.backup p.updated.revision)).isSome = true
    rw [hbackups]
    by_cases hin : p ∈ s.published.dropLast
    · exact h.superseded p hin
    · -- the publication that was the last until now has a backup because the caller is ready
      have hne : s.published ≠ [] := List.ne_nil_of_mem hp
      have hlast : s.published.getLast? = some p := by
        rw [List.getLast?_eq_some_getLast hne]
        rw [← List.dropLast_concat_getLast hne] at hp
        rcases List.mem_append.mp hp with hold | hnew
        · exact absurd hold hin
        · rw [List.mem_singleton.mp hnew]
      have hfound := h.head
      rw [hlast, hready.file] at hfound
      obtain ⟨current, hseen, hsome⟩ := hready.kept p.file hfound
      rw [h.last_revision hlast, ← hexpected, ← hseen.revision]
      exact hsome
  · intro revision backup hbackup
    have hold : s.files (.backup revision) = some backup := (hbackups revision).symm.trans hbackup
    obtain ⟨p, hp, hrevision, hkept⟩ := h.kept revision backup hold
    exact ⟨p, List.mem_append_left _ hp, hrevision, hkept⟩
  · exact fun other policy hloaded => (h.loaded other policy hloaded).append _
  · intro p hp
    show (Function.update s.calls id _ p.call).isSome = true
    by_cases hid : p.call = id
    · rw [hid, Function.update_self]
      rfl
    · rw [Function.update_of_ne hid]
      rcases List.mem_append.mp hp with hold | hnew
      · exact h.callers p hold
      · rw [List.mem_singleton.mp hnew] at hid
        exact absurd rfl hid
  · intro other found hfound
    have hfound : Function.update s.calls id (some { call with phase := .verifying }) other
        = some found := hfound
    by_cases hid : other = id
    · subst hid
      rw [Function.update_self] at hfound
      cases hfound
      refine ⟨fun _ => hnext, fun b hb => (hcall.base b hb).append _, fun _ => hheld, trivial,
        fun _ hkept => ?_⟩
      cases hkept
    · rw [Function.update_of_ne hid] at hfound
      have hsound := h.calls other found hfound
      have hholds : found.phase.holds = false := by
        cases hholds : found.phase.holds with
        | false => rfl
        | true =>
            exact absurd (Option.some.inj ((hsound.holder hholds).symm.trans hheld)) hid
      refine ⟨hsound.next, fun b hb => (hsound.base b hb).append _, fun hh => ?_,
        phaseSound_of_not_holds hholds, fun hsilent hkept p hp => ?_⟩
      · rw [hholds] at hh
        cases hh
      · rcases List.mem_append.mp hp with hold | hnew
        · exact hsound.silent hsilent hkept p hold
        · rw [List.mem_singleton.mp hnew]
          exact fun heq => hid heq.symm

/-! ### Steps -/

theorem loadPolicy_cases (h : loadPolicy svc s = .ok policy) :
    (s.files .policy = none ∧ policy = {})
      ∨ ∃ file, s.files .policy = some file ∧ svc.decode file.content = some policy := by
  unfold loadPolicy at h
  cases hfile : s.files .policy with
  | none =>
      rw [hfile] at h
      cases h
      exact .inl ⟨rfl, rfl⟩
  | some file =>
      rw [hfile] at h
      dsimp only at h
      cases hread : svc.decode file.content with
      | none =>
          rw [hread] at h
          cases h
      | some =>
          rw [hread] at h
          cases h
          exact .inr ⟨file, rfl, hread⟩

theorem TrustSound.proceed_locking (h : TrustSound svc s) (hcall : CallSound svc s id call)
    (hphase : call.phase = .locking) (token : String) (count : ℕ) :
    TrustSound svc (proceed svc s id call token count) := by
  have hactive : call.phase.active = true := by
    rw [hphase]
    rfl
  have hreplaced : call.phase.replaced = false := by
    rw [hphase]
    rfl
  unfold proceed
  rw [hphase]
  dsimp only
  by_cases hfree : s.lock = none
  · rw [if_pos hfree]
    exact h.quiet id { call with phase := .reading }
      ⟨rfl, rfl, rfl, fun _ _ => rfl, fun _ _ hb => .inl hb, .inr ⟨rfl, .inr hfree⟩⟩ rfl
      ⟨fun _ => hcall.next hactive, hcall.base, fun _ => rfl, trivial,
        fun _ _ => hcall.silent (.inl hactive) hreplaced⟩
  · rw [if_neg hfree]
    exact h

/-- A step from one phase that holds the lock to another, before the replacement. -/
theorem TrustSound.advance (h : TrustSound svc s) (hcall : CallSound svc s id call)
    (hholds : call.phase.holds = true) (hreplaced : call.phase.replaced = false)
    (hphase : PhaseSound svc s.files { call with phase }) :
    TrustSound svc (s.withPhase id call phase) := by
  have hactive := SavePhase.active_of_holds hholds
  exact h.withPhase ⟨fun _ => hcall.next hactive, hcall.base, fun _ => hcall.holder hholds, hphase,
    fun _ _ => hcall.silent (.inl hactive) hreplaced⟩

theorem TrustSound.proceed_reading (h : TrustSound svc s) (hcall : CallSound svc s id call)
    (hphase : call.phase = .reading) (token : String) (count : ℕ) :
    TrustSound svc (proceed svc s id call token count) := by
  have hholds : call.phase.holds = true := by
    rw [hphase]
    rfl
  have hreplaced : call.phase.replaced = false := by
    rw [hphase]
    rfl
  have hactive := SavePhase.active_of_holds hholds
  unfold proceed
  rw [hphase]
  dsimp only
  cases hload : loadPolicy svc s with
  | error => exact h.abort hcall hactive fun _ => hreplaced
  | ok current =>
      dsimp only
      by_cases hrevision : current.revision ≠ call.expectedRevision
      · rw [if_pos hrevision]
        exact h.abort hcall hactive fun _ => hreplaced
      · rw [if_neg hrevision]
        have hsame := not_not.mp hrevision
        rcases loadPolicy_cases hload with ⟨hnone, rfl⟩ | ⟨file, hfile, hread⟩
        · rw [hnone]
          exact h.advance hcall hholds hreplaced ⟨hnone, fun _ => hsame.symm, nofun⟩
        · rw [hfile]
          exact h.advance hcall hholds hreplaced ⟨hfile, hread, hsame⟩

theorem TrustSound.proceed_comparing (h : TrustSound svc s) (hcall : CallSound svc s id call)
    {current : UserTrustPolicy} {original : TrustFile}
    (hphase : call.phase = .comparing current original) (token : String) (count : ℕ) :
    TrustSound svc (proceed svc s id call token count) := by
  have hholds : call.phase.holds = true := by
    rw [hphase]
    rfl
  have hreplaced : call.phase.replaced = false := by
    rw [hphase]
    rfl
  have hseen : Seen svc s.files call.expectedRevision current original := by
    have hsound := hcall.phase
    unfold PhaseSound at hsound
    rw [hphase] at hsound
    exact hsound
  unfold proceed
  rw [hphase]
  dsimp only
  cases hbackup : s.files (.backup current.revision) with
  | some =>
      dsimp only
      split_ifs with hequal
      · refine h.advance hcall hholds hreplaced ⟨hseen.file, nofun, fun file hfile => ?_⟩
        cases hfile
        refine ⟨current, hseen, ?_⟩
        rw [hbackup]
        rfl
      · exact h.abort hcall (SavePhase.active_of_holds hholds) fun _ => hreplaced
  | none =>
      refine h.openTemporary hcall hholds hreplaced fun files hother hwhole =>
        ⟨⟨?_, hseen.read, hseen.revision⟩, ?_, hwhole _⟩
      · rw [hother .policy policy_ne_temporary]
        exact hseen.file
      · rw [hother (.backup current.revision) (backup_ne_temporary _)]
        exact hbackup

theorem TrustSound.proceed_backingUp (h : TrustSound svc s) (hcall : CallSound svc s id call)
    (hstored : s.calls id = some call) {current : UserTrustPolicy} {original : TrustFile}
    (hphase : call.phase = .backingUp current original opened) (token : String) (count : ℕ) :
    TrustSound svc (proceed svc s id call token count) := by
  have hholds : call.phase.holds = true := by
    rw [hphase]
    rfl
  have hreplaced : call.phase.replaced = false := by
    rw [hphase]
    rfl
  have hsound := hcall.phase
  unfold PhaseSound at hsound
  rw [hphase] at hsound
  obtain ⟨hseen, hnone, hwhole⟩ := hsound
  unfold proceed
  rw [hphase]
  dsimp only
  refine h.writeTemporary hcall hholds hreplaced hstored hwhole
    (fun files hother hlater => ?_) fun file hfile hcontent _ =>
      h.keepBackup hcall hphase hseen hnone hfile hcontent
  unfold PhaseSound
  rw [hphase]
  refine ⟨⟨?_, hseen.read, hseen.revision⟩, ?_, hlater⟩
  · rw [hother .policy policy_ne_temporary]
    exact hseen.file
  · rw [hother (.backup current.revision) (backup_ne_temporary _)]
    exact hnone

theorem TrustSound.proceed_replacing (h : TrustSound svc s) (hcall : CallSound svc s id call)
    (hphase : call.phase = .replacing original) (token : String) (count : ℕ) :
    TrustSound svc (proceed svc s id call token count) := by
  have hholds : call.phase.holds = true := by
    rw [hphase]
    rfl
  have hreplaced : call.phase.replaced = false := by
    rw [hphase]
    rfl
  have hready : Ready svc s.files call.expectedRevision original := by
    have hsound := hcall.phase
    unfold PhaseSound at hsound
    rw [hphase] at hsound
    exact hsound
  unfold proceed
  rw [hphase]
  exact h.openTemporary hcall hholds hreplaced fun files hother hwhole =>
    ⟨hready.other hother, hwhole _⟩

theorem TrustSound.proceed_publishing (h : TrustSound svc s) (hcall : CallSound svc s id call)
    (hstored : s.calls id = some call) (hphase : call.phase = .publishing original opened)
    (token : String) (count : ℕ) : TrustSound svc (proceed svc s id call token count) := by
  have hholds : call.phase.holds = true := by
    rw [hphase]
    rfl
  have hreplaced : call.phase.replaced = false := by
    rw [hphase]
    rfl
  have hsound := hcall.phase
  unfold PhaseSound at hsound
  rw [hphase] at hsound
  obtain ⟨hready, hwhole⟩ := hsound
  unfold proceed
  rw [hphase]
  dsimp only
  refine h.writeTemporary hcall hholds hreplaced hstored hwhole
    (fun files hother hlater => ?_) fun file hfile hcontent _ =>
      h.publish hcall hphase hready hfile hcontent
  unfold PhaseSound
  rw [hphase]
  exact ⟨hready.other hother, hlater⟩

theorem TrustSound.proceed_verifying (h : TrustSound svc s) (hcall : CallSound svc s id call)
    (hphase : call.phase = .verifying) (token : String) (count : ℕ) :
    TrustSound svc (proceed svc s id call token count) := by
  have hholds : call.phase.holds = true := by
    rw [hphase]
    rfl
  have hactive := SavePhase.active_of_holds hholds
  unfold proceed
  rw [hphase]
  dsimp only
  cases hload : loadPolicy svc s with
  | error => exact h.abort hcall hactive nofun
  | ok found =>
      dsimp only
      split_ifs with hequal
      · exact h.quiet id { call with phase := .returned }
          ⟨rfl, rfl, rfl, fun _ _ => rfl, fun _ _ hb => .inl hb, .inl (hcall.holder hholds)⟩ rfl
          ⟨nofun, hcall.base, nofun, trivial, fun _ => nofun⟩
      · exact h.abort hcall hactive nofun

theorem TrustSound.proceed (h : TrustSound svc s) (hstored : s.calls id = some call)
    (token : String) (count : ℕ) : TrustSound svc (proceed svc s id call token count) := by
  have hcall := h.calls id call hstored
  cases hphase : call.phase with
  | locking => exact h.proceed_locking hcall hphase token count
  | reading => exact h.proceed_reading hcall hphase token count
  | comparing => exact h.proceed_comparing hcall hphase token count
  | backingUp =>
      exact h.proceed_backingUp hcall hstored hphase token count
  | replacing => exact h.proceed_replacing hcall hphase token count
  | publishing => exact h.proceed_publishing hcall hstored hphase token count
  | verifying => exact h.proceed_verifying hcall hphase token count
  | returned | raised error replaced | crashed =>
      unfold AgentFleet.proceed
      rw [hphase]
      exact h

theorem validatedPolicy_ok {checked : UserTrustPolicy}
    (h : validatedPolicy svc policy = .ok checked) : checked = policy := by
  unfold validatedPolicy at h
  split_ifs at h
  cases h
  rfl

/-- A save that is prepared publishes the revision after the one that it expects. -/
theorem prepareSave_ok {updated : UserTrustPolicy} {expectedRevision : ℤ}
    (h : prepareSave svc policy expectedRevision = .ok updated) :
    policy.revision = expectedRevision.toNat
      ∧ updated = { policy with revision := expectedRevision.toNat + 1 } := by
  unfold prepareSave at h
  split_ifs at h with hnegative
  obtain ⟨checked, hchecked, h⟩ := Checks.bind_ok.mp h
  rw [validatedPolicy_ok hchecked] at h
  split_ifs at h with hconflict
  obtain ⟨found, hfound, h⟩ := Checks.bind_ok.mp h
  split_ifs at h with hlong
  cases h
  have hrevision : policy.revision = expectedRevision.toNat := by
    have hsame := not_not.mp hconflict
    omega
  refine ⟨hrevision, ?_⟩
  rw [validatedPolicy_ok hfound, hrevision]

theorem TrustSound.save (h : TrustSound svc s) (hnew : s.calls id = none)
    (hphase : phase = .locking ∨ ∃ error, phase = .raised error false)
    (hbase : call.base = s.loaded id)
    (hnext : phase = .locking → call.updated.revision = call.expectedRevision + 1) :
    TrustSound svc (s.withPhase id call phase) := by
  have hsilent : ∀ p ∈ s.published, p.call ≠ id := by
    intro p hp heq
    have hsome := h.callers p hp
    rw [heq, hnew] at hsome
    cases hsome
  refine h.withPhase ⟨fun hactive => ?_, ?_, fun hholds => ?_, ?_, fun _ _ => hsilent⟩
  · rcases hphase with rfl | ⟨error, rfl⟩
    · exact hnext rfl
    · cases hactive
  · show ∀ b ∈ call.base, _
    rw [hbase]
    exact h.loaded id
  · rcases hphase with rfl | ⟨error, rfl⟩ <;> cases hholds
  · rcases hphase with rfl | ⟨error, rfl⟩ <;> trivial

/-- Every event keeps the invariant. -/
theorem TrustSound.step (h : TrustSound svc s) (input : TrustInput) :
    TrustSound svc (trustStep svc s input) := by
  cases input with
  | load id =>
      unfold trustStep
      dsimp only
      cases hload : loadPolicy svc s with
      | error => exact h
      | ok policy =>
          refine ⟨h.head, h.revisions, h.written, h.first, h.chain, h.superseded, h.kept, ?_,
            h.callers, fun other call hother => ?_⟩
          · intro other found hfound
            have hfound : Function.update s.loaded id (some policy) other = some found := hfound
            by_cases hid : other = id
            · rw [hid, Function.update_self] at hfound
              cases hfound
              exact h.known_loaded hload
            · rw [Function.update_of_ne hid] at hfound
              exact h.loaded other found hfound
          · have hcall := h.calls other call hother
            exact ⟨hcall.next, hcall.base, hcall.holder, hcall.phase, hcall.silent⟩
  | save id policy expectedRevision =>
      unfold trustStep
      dsimp only
      by_cases hused : (s.calls id).isSome = true
      · rw [if_pos hused]
        exact h
      · rw [if_neg hused]
        have hnew : s.calls id = none := Option.not_isSome_iff_eq_none.mp hused
        cases hprepare : prepareSave svc policy expectedRevision with
        | error error => exact h.save hnew (.inr ⟨error, rfl⟩) rfl nofun
        | ok =>
            refine h.save hnew (.inl rfl) rfl fun _ => ?_
            rw [(prepareSave_ok hprepare).2]
  | proceed id token count =>
      unfold trustStep
      dsimp only
      cases hstored : s.calls id with
      | none => exact h
      | some => exact h.proceed hstored token count
  | fault id =>
      unfold trustStep
      dsimp only
      cases hstored : s.calls id with
      | none => exact h
      | some call =>
          dsimp only
          split_ifs with hactive
          · exact h.abort (h.calls id call hstored) hactive fun hreplaced => hreplaced
          · exact h
  | crash id =>
      unfold trustStep
      dsimp only
      cases hstored : s.calls id with
      | none => exact h
      | some call =>
          dsimp only
          split_ifs with hactive
          · refine h.quiet id { call with phase := .crashed }
              ⟨rfl, rfl, rfl, fun _ _ => rfl, fun _ _ hb => .inl hb, ?_⟩ rfl
              ⟨nofun, (h.calls id call hstored).base, nofun, trivial, ?_⟩
            · rcases released_cases s id with hheld | hsame
              · exact .inl hheld
              · exact .inr ⟨rfl, .inl hsame⟩
            · rintro (hbad | ⟨error, hbad⟩) <;> cases hbad
          · exact h

theorem trust_invariant (svc : TrustFileServices) :
    (trustMachine svc).Invariant (TrustSound svc) := fun _ input h => h.step input

/-! ### What a step does to the publications -/

theorem openTemporary_published (token : String) (phase : SavePhase) :
    (s.openTemporary id call token phase).published = s.published := by
  unfold TrustState.openTemporary
  cases s.files (.temporary token) <;> rfl

theorem writeTemporary_published {count : ℕ} {finish : TrustState → TrustFile → TrustState} :
    (s.writeTemporary id call token content target expected count finish).published = s.published
      ∨ ∃ file files, (s.writeTemporary id call token content target expected count finish)
        = finish { s with files } file := by
  unfold TrustState.writeTemporary
  cases s.files (.temporary token) with
  | none => exact .inl rfl
  | some file =>
      dsimp only
      split_ifs with hshort hchanged
      · exact .inl rfl
      · exact .inl rfl
      · exact .inr ⟨file, _, rfl⟩

/-- An event publishes nothing, or it replaces the policy file for a call that then verifies it. -/
theorem published_step (s : TrustState) (input : TrustInput) :
    (trustStep svc s input).published = s.published
      ∨ ∃ call file, s.calls input.caller = some call ∧ call.phase.active = true
        ∧ (trustStep svc s input).published
          = s.published ++ [call.publication input.caller file] := by
  cases input with
  | load =>
      unfold trustStep
      dsimp only
      cases loadPolicy svc s <;> exact .inl rfl
  | save id policy expectedRevision =>
      unfold trustStep
      dsimp only
      split_ifs
      · exact .inl rfl
      · cases prepareSave svc policy expectedRevision <;> exact .inl rfl
  | fault id | crash id =>
      unfold trustStep
      dsimp only
      cases s.calls id with
      | none => exact .inl rfl
      | some =>
          dsimp only
          split_ifs <;> exact .inl rfl
  | proceed id =>
      unfold trustStep
      dsimp only
      cases hstored : s.calls id with
      | none => exact .inl rfl
      | some call =>
          dsimp only
          unfold proceed
          cases hphase : call.phase with
          | locking =>
              dsimp only
              split_ifs <;> exact .inl rfl
          | reading =>
              dsimp only
              cases loadPolicy svc s with
              | error => exact .inl rfl
              | ok =>
                  dsimp only
                  split_ifs
                  · exact .inl rfl
                  · cases s.files .policy <;> exact .inl rfl
          | comparing current =>
              dsimp only
              cases s.files (.backup current.revision) with
              | none => exact .inl (openTemporary_published _ _)
              | some =>
                  dsimp only
                  split_ifs <;> exact .inl rfl
          | backingUp =>
              rcases writeTemporary_published with hsame | ⟨file, files, hfinish⟩
              · exact .inl hsame
              · dsimp only
                rw [hfinish]
                exact .inl rfl
          | replacing => exact .inl (openTemporary_published _ _)
          | publishing =>
              rcases writeTemporary_published with hsame | ⟨file, files, hfinish⟩
              · exact .inl hsame
              · dsimp only
                rw [hfinish]
                refine .inr ⟨call, file, hstored, ?_, rfl⟩
                rw [hphase]
                rfl
          | verifying =>
              dsimp only
              cases loadPolicy svc s with
              | error => exact .inl rfl
              | ok =>
                  dsimp only
                  split_ifs <;> exact .inl rfl
          | returned | raised error replaced | crashed => exact .inl rfl

/-- The publications only grow. -/
theorem published_run (svc : TrustFileServices) (s : TrustState) (inputs : List TrustInput) :
    s.published <+: ((trustMachine svc).run s inputs).published := by
  induction inputs generalizing s with
  | nil => exact List.prefix_refl _
  | cons input inputs ih =>
      rw [Machine.run_cons]
      refine List.IsPrefix.trans ?_ (ih _)
      show s.published <+: (trustStep svc s input).published
      rcases published_step s input with hsame | ⟨call, file, -, -, hgrown⟩
      · rw [hsame]
      · rw [hgrown]
        exact List.prefix_append _ _

end AgentFleet
