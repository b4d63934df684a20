import AgentFleet.Policy.Service

/-! # The user's policy file

`FilesystemTrustStore` keeps the policy in one file of a private directory.  A save takes the
lock, compares the revision of the file with the expected one, keeps the old policy in a backup,
writes the new one to a temporary file, renames it into place and reads it back.  Between any two
of these operations another caller can proceed, an operation can fail, or the caller can crash.

* `prepareSave` is what a save checks before it touches the directory.
* `proceed` is the next file operation of a save, and `abort` what an exception leaves.
* `trustMachine` interleaves any number of callers.

A file is seen as its inode and its bytes; the text form of a policy and its reader are given by
`TrustFileServices`. -/

namespace AgentFleet

open Transition

/-- What the store is constructed with: `_encode`, and what `_read_policy` finds in the bytes of
a file.  A policy reads back with its own revision, and one that was read is written so that it
reads as itself. -/
structure TrustFileServices extends PolicyServices where
  encode : UserTrustPolicy → List UInt8
  decode : List UInt8 → Option UserTrustPolicy
  decode_revision : ∀ {policy found : UserTrustPolicy}, decode (encode policy) = some found →
    found.revision = policy.revision
  decode_encode : ∀ {policy found : UserTrustPolicy}, decode (encode policy) = some found →
    decode (encode found) = some found

/-! ### Errors and equality -/

/-- `_unavailable`. -/
def trustUnavailable : FleetError where
  code := .stateUnavailable
  message := "The user trust store is unsafe, invalid, or unavailable; no authority was inferred."
  remediation := "Inspect the user-owned policy directory and validated revision backups before "
    ++ "retrying."

/-- `_conflict`. -/
def trustConflict : FleetError where
  code := .approvalInvalid
  message := "The user trust policy changed concurrently."
  remediation := "Reload the current policy and review the exact mutation before retrying."

/-- `==` on rules. -/
def UserTrustRule.pyEq (left right : UserTrustRule) : Bool :=
  left.ruleId = right.ruleId && left.scope.pyEq right.scope && left.effect = right.effect
    && left.createdAt = right.createdAt && left.expiresAt = right.expiresAt
    && left.revokedAt = right.revokedAt
    && left.sourceApprovalRequestId = right.sourceApprovalRequestId

/-- `==` on lists of rules. -/
def rulesPyEq : List UserTrustRule → List UserTrustRule → Bool
  | [], [] => true
  | left :: lefts, right :: rights => left.pyEq right && rulesPyEq lefts rights
  | _, _ => false

/-- `==` on policies. -/
def UserTrustPolicy.pyEq (left right : UserTrustPolicy) : Bool :=
  left.revision = right.revision && left.projects = right.projects
    && rulesPyEq left.rules right.rules

/-! ### The directory -/

/-- A name in the directory: the policy, the backup of a revision, or a temporary file. -/
inductive FileName where
  | policy
  | backup (revision : ℕ)
  | temporary (token : String)
deriving DecidableEq

/-- A file, as `stat` tells it from another. -/
structure TrustFile where
  inode : ℕ
  content : List UInt8
deriving DecidableEq

/-- The files by name. -/
abbrev TrustFiles := FileName → Option TrustFile

/-- `os.replace`. -/
def TrustFiles.replace (files : TrustFiles) (source target : FileName) : TrustFiles :=
  Function.update (Function.update files target (files source)) source none

/-! ### Callers -/

/-- How far a call of `save` has come. -/
inductive SavePhase where
  /-- It waits for the lock. -/
  | locking
  /-- It holds the lock. -/
  | reading
  /-- It has read the policy file. -/
  | comparing (current : UserTrustPolicy) (original : TrustFile)
  /-- It writes the backup under a temporary name. -/
  | backingUp (current : UserTrustPolicy) (original : TrustFile) (token : String)
  /-- The backup is there, or there was no file. -/
  | replacing (original : Option TrustFile)
  /-- It writes the policy under a temporary name. -/
  | publishing (original : Option TrustFile) (token : String)
  /-- The policy file is replaced. -/
  | verifying
  | returned
  | raised (error : FleetError) (replaced : Bool)
  | crashed

/-- A call of `save`: the policy that the caller had loaded, the revision it expects, and the
policy it publishes. -/
structure SaveCall where
  base : Option UserTrustPolicy
  expectedRevision : ℕ
  updated : UserTrustPolicy
  phase : SavePhase := .locking

/-- A replacement of the policy file. -/
structure Publication where
  call : ℕ
  base : Option UserTrustPolicy
  expectedRevision : ℕ
  updated : UserTrustPolicy
  file : TrustFile

/-- The directory with its lock, the callers, and the publications so far, the last one last. -/
structure TrustState where
  files : TrustFiles
  nextInode : ℕ
  lock : Option ℕ
  loaded : ℕ → Option UserTrustPolicy
  calls : ℕ → Option SaveCall
  published : List Publication

/-- The directory before anything was saved. -/
def TrustState.fresh : TrustState where
  files := fun _ => none
  nextInode := 0
  lock := none
  loaded := fun _ => none
  calls := fun _ => none
  published := []

section Operations

variable (svc : TrustFileServices) (s : TrustState) (id : ℕ) (call : SaveCall)

/-- `load`: the policy of the file, or the empty one. -/
def loadPolicy : Except FleetError UserTrustPolicy :=
  match s.files .policy with
  | none => .ok {}
  | some file =>
      match svc.decode file.content with
      | none => .error trustUnavailable
      | some policy => .ok policy

/-- `_validate`. -/
def validatedPolicy (policy : UserTrustPolicy) : Except FleetError UserTrustPolicy :=
  if svc.policyHasSecret policy = true ∨ ¬ policy.validates svc.toTrustServices then
    .error trustUnavailable
  else .ok policy

/-- What `save` checks before it opens the directory: the policy that it will publish. -/
def prepareSave (policy : UserTrustPolicy) (expectedRevision : ℤ) :
    Except FleetError UserTrustPolicy := do
  if expectedRevision < 0 then .error trustUnavailable
  else do
    let checked ← validatedPolicy svc policy
    if (checked.revision : ℤ) ≠ expectedRevision then .error trustConflict
    else do
      let updated ← validatedPolicy svc { checked with revision := checked.revision + 1 }
      if 2000000 < (svc.encode updated).length then .error trustUnavailable
      else .ok updated

/-- The state with a call in another phase. -/
def TrustState.withPhase (phase : SavePhase) : TrustState :=
  { s with calls := Function.update s.calls id (some { call with phase }) }

/-- The temporary file that a call is writing. -/
def SavePhase.token? : SavePhase → Option String
  | .backingUp _ _ token => some token
  | .publishing _ token => some token
  | _ => none

/-- The files without the temporary one of a call. -/
def TrustState.cleaned : TrustFiles :=
  match call.phase.token? with
  | some token => Function.update s.files (.temporary token) none
  | none => s.files

/-- The lock after a caller let go of it. -/
def TrustState.released : Option ℕ := if s.lock = some id then none else s.lock

/-- An exception: the temporary file is removed and the lock released. -/
def TrustState.abort (error : FleetError) (replaced : Bool) : TrustState :=
  { s with files := s.cleaned call, lock := s.released id }.withPhase id call
    (.raised error replaced)

/-- The exclusive creation of a temporary file. -/
def TrustState.openTemporary (token : String) (phase : SavePhase) : TrustState :=
  match s.files (.temporary token) with
  | some _ => s.abort id call trustUnavailable false
  | none =>
      { s with
        files := Function.update s.files (.temporary token) (some ⟨s.nextInode, []⟩)
        nextInode := s.nextInode + 1 }.withPhase id call phase

/-- `os.write` of some more of the content. -/
def TrustFile.written (file : TrustFile) (content : List UInt8) (count : ℕ) : TrustFile :=
  { file with content := content.take (file.content.length + count + 1) }

/-- The next operation of `_atomic_write` on an open temporary file: some more of the content, or
the replacement of the target, which must still be what the call has seen. -/
def TrustState.writeTemporary (token : String) (content : List UInt8) (target : FileName)
    (expected : Option TrustFile) (count : ℕ) (finish : TrustState → TrustFile → TrustState) :
    TrustState :=
  match s.files (.temporary token) with
  | none => s.abort id call trustUnavailable false
  | some file =>
      if file.content.length < content.length then
        { s with
          files := Function.update s.files (.temporary token) (some (file.written content count)) }
      else if s.files target ≠ expected then s.abort id call trustUnavailable false
      else finish { s with files := s.files.replace (.temporary token) target } file

/-- The publication of a call. -/
def SaveCall.publication (file : TrustFile) : Publication where
  call := id
  base := call.base
  expectedRevision := call.expectedRevision
  updated := call.updated
  file := file

/-- The next operation of a call, with the random name it would give a temporary file and the
number of bytes that a write would take. -/
def proceed (token : String) (count : ℕ) : TrustState :=
  match call.phase with
  | .locking =>
      if s.lock = none then { s with lock := some id }.withPhase id call .reading else s
  | .reading =>
      match loadPolicy svc s with
      | .error error => s.abort id call error false
      | .ok current =>
          if current.revision ≠ call.expectedRevision then s.abort id call trustConflict false
          else
            match s.files .policy with
            | none => s.withPhase id call (.replacing none)
            | some original => s.withPhase id call (.comparing current original)
  | .comparing current original =>
      match s.files (.backup current.revision) with
      | some backup =>
          if (svc.decode backup.content).any (fun found => found.pyEq current) = true then
            s.withPhase id call (.replacing (some original))
          else s.abort id call trustUnavailable false
      | none => s.openTemporary id call token (.backingUp current original token)
  | .backingUp current original opened =>
      s.writeTemporary id call opened (svc.encode current) (.backup current.revision) none count
        fun s _ => s.withPhase id call (.replacing (some original))
  | .replacing original => s.openTemporary id call token (.publishing original token)
  | .publishing original opened =>
      s.writeTemporary id call opened (svc.encode call.updated) .policy original count
        fun s file => { s with published := s.published ++ [call.publication id file] }.withPhase id
          call .verifying
  | .verifying =>
      match loadPolicy svc s with
      | .error error => s.abort id call error true
      | .ok found =>
          if found.pyEq call.updated = true then
            { s with lock := s.released id }.withPhase id call .returned
          else s.abort id call trustUnavailable true
  | .returned | .raised _ _ | .crashed => s

end Operations

/-! ### The machine -/

/-- The call is under way. -/
def SavePhase.active : SavePhase → Bool
  | .returned | .raised _ _ | .crashed => false
  | _ => true

/-- The policy file was replaced in this phase. -/
def SavePhase.replaced : SavePhase → Bool
  | .verifying | .returned => true
  | .raised _ replaced => replaced
  | _ => false

/-- One event: a caller loads the policy, calls `save`, does the next file operation of its call,
meets an operating system error in it, or crashes. -/
inductive TrustInput where
  | load (id : ℕ)
  | save (id : ℕ) (policy : UserTrustPolicy) (expectedRevision : ℤ)
  | proceed (id : ℕ) (token : String) (count : ℕ)
  | fault (id : ℕ)
  | crash (id : ℕ)

/-- The caller of an event. -/
def TrustInput.caller : TrustInput → ℕ
  | .load id => id
  | .save id _ _ => id
  | .proceed id _ _ => id
  | .fault id => id
  | .crash id => id

variable (svc : TrustFileServices)

/-- The state after an event. -/
def trustStep (s : TrustState) : TrustInput → TrustState
  | .load id =>
      match loadPolicy svc s with
      | .error _ => s
      | .ok policy => { s with loaded := Function.update s.loaded id (some policy) }
  | .save id policy expectedRevision =>
      if (s.calls id).isSome then s
      else
        let call : SaveCall :=
          { base := s.loaded id, expectedRevision := expectedRevision.toNat, updated := policy }
        match prepareSave svc policy expectedRevision with
        | .error error => s.withPhase id call (.raised error false)
        | .ok updated => s.withPhase id { call with updated } .locking
  | .proceed id token count =>
      match s.calls id with
      | none => s
      | some call => AgentFleet.proceed svc s id call token count
  | .fault id =>
      match s.calls id with
      | none => s
      | some call =>
          if call.phase.active = true then
            s.abort id call trustUnavailable call.phase.replaced
          else s
  | .crash id =>
      match s.calls id with
      | none => s
      | some call =>
          if call.phase.active = true then
            { s with lock := s.released id }.withPhase id call .crashed
          else s

/-- The directory under any number of callers. -/
def trustMachine : Machine TrustState TrustInput Unit where
  step s input := (trustStep svc s input, ())

end AgentFleet
