import AgentFleet.Domain.Canonical
import AgentFleet.Domain.FleetPatch
import Mathlib.Data.List.TakeWhile

/-! # Evolution of an organization

`evolveTree` applies a fleet patch to an organization tree.

* `applyChanges_ok` says what a run over the changes finds under each path afterwards: what a change
  made of the path, or what was there; the order of the changes does not show in it.
* `evolveTree_correct` says that the result is a tree again: a file whose content is replaced is
  copied without its validator, which runs when the tree is constructed. -/

namespace AgentFleet

open Checks

/-- What stops an evolution. -/
inductive EvolutionError where
  | fleet (error : FleetError)
  | value
deriving Inhabited

/-- The error of a change that does not fit the tree. -/
def evolutionConflict : FleetError where
  code := .configInvalid
  message := "FleetPatch file identities conflict with the complete tree."
  remediation := "Create a new proposal from the exact current organization."

/-- `change.path.removeprefix(".fleet/")`. -/
def FleetPatchFileChange.treePath (change : FleetPatchFileChange) : String :=
  (textAfter? change.path ".fleet/").getD change.path

/-- The directories above a path, the deepest first. -/
def parentPaths (path : String) : List String :=
  ((PurePosixPath.parse path).parents.reverse.map PurePosixPath.str).takeWhile (· ≠ ".")

section

variable (casefold : Casefold) (hash : Bytes → Sha256) (rootXattrs : List OrganizationXattr)

/-- A directory that a change makes. -/
def newDirectory (path : String) : OrganizationDirectory where
  path := path
  mode := .m700
  xattrs := rootXattrs

/-- The record of a written file: a file that is there is copied with the new content. -/
def writtenRecord (path content : String) (sha256 : Sha256) :
    Option OrganizationFile → OrganizationFile
  | some prior => { prior with content := content, sha256 := sha256 }
  | none =>
      { path := path, content := content, sha256 := sha256, mode := .m600, xattrs := rootXattrs }

/-- The file that an addition or a replacement writes.  Only a new file runs its validator here. -/
def writtenFile (path content : String) (sha256 : Sha256) (prior : Option OrganizationFile) :
    Except EvolutionError OrganizationFile := do
  let file := writtenRecord rootXattrs path content sha256 prior
  refuse (prior = none ∧ ¬ file.Checked casefold hash) .value
  return file

/-- The directories with those above a path. -/
def makeParents (directories : OrganizationDirectories) (path : String) : OrganizationDirectories :=
  (parentPaths path).foldl
    (fun directories parent => directories.setDefault (newDirectory rootXattrs parent)) directories

/-- One change. -/
def applyChange (tree : OrganizationTree) (change : FleetPatchFileChange) :
    Except EvolutionError OrganizationTree := do
  let path := change.treePath
  let prior := tree.files.get? path
  refuse ((change.operation = .add ∧ prior.isSome = true)
    ∨ (change.operation ≠ .add ∧ (prior = none
      ∨ prior.map OrganizationFile.sha256 ≠ change.beforeSha256))
    ∨ (tree.directories.get? path).isSome = true) (.fleet evolutionConflict)
  if change.operation = .remove then
    return { tree with files := tree.files.erase path }
  let content ← demand .value change.content
  let sha256 ← demand .value change.afterSha256
  let file ← writtenFile casefold hash rootXattrs path content sha256 prior
  refuse (∃ parent ∈ parentPaths path,
    ¬ (newDirectory rootXattrs parent).Checked casefold) .value
  return {
    files := tree.files.put file
    directories := makeParents rootXattrs tree.directories path }

end

/-- `evolve_tree`. -/
def evolveTree (casefold : Casefold) (hash : Bytes → Sha256) (before : OrganizationTree)
    (patch : FleetPatch) (rollbackTarget : Option OrganizationTree := none) :
    Except EvolutionError OrganizationTree := do
  refuse (¬ before.Valid casefold hash) .value
  refuse (¬ patch.Valid hash) .value
  match validateFleetPatch casefold hash patch patch.baseFleetSpecSha256 with
  | .error error => .error (.fleet error)
  | .ok () =>
    let root ← demand .value (before.directories.get? ".")
    let result ← patch.changes.foldlM (applyChange casefold hash root.xattrs) before
    refuse (¬ result.Rechecked casefold hash) .value
    match rollbackTarget with
    | none => return result
    | some target =>
      refuse (¬ target.Valid casefold hash) .value
      refuse (patch.rollbackOf = none
        ∨ result.files.records.map (fun file => (file.path, file.content, file.sha256))
          ≠ target.files.records.map fun file => (file.path, file.content, file.sha256)) .value
      return target

/-! ### One change -/

section

variable {casefold : Casefold} {hash : Bytes → Sha256} {rootXattrs : List OrganizationXattr}
  {tree before after : OrganizationTree} {change other : FleetPatchFileChange}
  {changes : List FleetPatchFileChange} {patch : FleetPatch} {path : String}

/-- The file that a change leaves under its path, of the file that is there. -/
def FleetPatchFileChange.outcome (rootXattrs : List OrganizationXattr)
    (change : FleetPatchFileChange) (prior : Option OrganizationFile) : Option OrganizationFile :=
  if change.operation = .remove then none
  else
    change.content.bind fun content => change.afterSha256.map fun sha256 =>
      writtenRecord rootXattrs change.treePath content sha256 prior

/-- The directories that have to be above what a change writes. -/
def FleetPatchFileChange.madeDirectories (change : FleetPatchFileChange) : List String :=
  if change.operation = .remove then [] else parentPaths change.treePath

/-- What a change asks of the tree that it is applied to. -/
structure Fits (casefold : Casefold) (hash : Bytes → Sha256) (rootXattrs : List OrganizationXattr)
    (prior : Option OrganizationFile) (change : FleetPatchFileChange) : Prop where
  added : change.operation = .add → prior = none
  kept : change.operation ≠ .add → ∃ file, prior = some file ∧ some file.sha256 = change.beforeSha256
  written : change.operation ≠ .remove → ∃ content sha256, change.content = some content
    ∧ change.afterSha256 = some sha256 ∧ (prior = none →
      (writtenRecord rootXattrs change.treePath content sha256 none).Checked casefold hash)
  above : ∀ parent ∈ change.madeDirectories, (newDirectory rootXattrs parent).Checked casefold

variable {content : String} {sha256 : Sha256} {file : OrganizationFile} {a b : FleetPatchFileChange}
  {changes' : List FleetPatchFileChange}

theorem writtenFile_ok {path : String} {prior : Option OrganizationFile} :
    writtenFile casefold hash rootXattrs path content sha256 prior = .ok file
      ↔ (prior = none →
          (writtenRecord rootXattrs path content sha256 none).Checked casefold hash)
        ∧ file = writtenRecord rootXattrs path content sha256 prior := by
  unfold writtenFile
  rw [refuse_bind_ok, return_ok, not_and, not_not]
  refine and_congr (forall_congr' fun hnone => ?_) eq_comm
  rw [hnone]

/-- What is found after the directories above a path were made. -/
theorem get?_makeParents (directories : OrganizationDirectories) (above path : String) :
    (makeParents rootXattrs directories above).get? path
      = (directories.get? path).or
        (if path ∈ parentPaths above then some (newDirectory rootXattrs path) else none) := by
  unfold makeParents
  generalize parentPaths above = paths
  induction paths generalizing directories with
  | nil => rw [List.foldl_nil, if_neg List.not_mem_nil, Option.or_none]
  | cons first paths ih =>
      rw [List.foldl_cons, ih, SortedRecords.get?_setDefault, Option.or_assoc]
      congr 1
      have hkey : (newDirectory rootXattrs first).path = first := rfl
      rw [hkey]
      by_cases hfirst : path = first
      · subst hfirst
        rw [if_pos rfl, if_pos List.mem_cons_self, Option.some_or]
      · rw [if_neg hfirst, Option.none_or]
        exact if_congr (by rw [List.mem_cons, or_iff_right hfirst]) rfl rfl

/-- What is found after a change. -/
structure Applied (rootXattrs : List OrganizationXattr) (tree after : OrganizationTree)
    (change : FleetPatchFileChange) : Prop where
  files : ∀ path, after.files.get? path
    = if path = change.treePath then change.outcome rootXattrs (tree.files.get? path)
      else tree.files.get? path
  directories : ∀ path, after.directories.get? path = (tree.directories.get? path).or
    (if path ∈ change.madeDirectories then some (newDirectory rootXattrs path) else none)

theorem fits_of_applyChange (h : applyChange casefold hash rootXattrs tree change = .ok after) :
    Fits casefold hash rootXattrs (tree.files.get? change.treePath) change
      ∧ tree.directories.get? change.treePath = none
      ∧ Applied rootXattrs tree after change := by
  unfold applyChange at h
  dsimp only at h
  obtain ⟨hconflict, h⟩ := refuse_bind_ok.mp h
  rw [not_or, not_or, Option.not_isSome_iff_eq_none] at hconflict
  obtain ⟨hadd, hkept, hdirectory⟩ := hconflict
  have hadded : change.operation = .add → tree.files.get? change.treePath = none :=
    fun hop => Option.not_isSome_iff_eq_none.mp fun hsome => hadd ⟨hop, hsome⟩
  have hprior : change.operation ≠ .add → ∃ file, tree.files.get? change.treePath = some file
      ∧ some file.sha256 = change.beforeSha256 := by
    intro hop
    rw [not_and, not_or, not_not] at hkept
    obtain ⟨hsome, hhash⟩ := hkept hop
    obtain ⟨file, hfile⟩ := Option.ne_none_iff_exists'.mp hsome
    rw [hfile] at hhash
    exact ⟨file, hfile, hhash⟩
  split_ifs at h with hremove
  · obtain rfl := Except.ok.inj h
    have hmade : change.madeDirectories = [] := if_pos hremove
    refine ⟨⟨hadded, hprior, fun hne => absurd hremove hne, ?_⟩, hdirectory, ?_, ?_⟩
    · rw [hmade]
      exact fun parent hmem => absurd hmem List.not_mem_nil
    · intro path
      rw [SortedRecords.get?_erase, FleetPatchFileChange.outcome, if_pos hremove]
    · intro path
      rw [hmade, if_neg List.not_mem_nil, Option.or_none]
  · obtain ⟨content, hcontent, h⟩ := bind_ok.mp h
    obtain ⟨sha256, hsha256, h⟩ := bind_ok.mp h
    obtain ⟨file, hfile, h⟩ := bind_ok.mp h
    obtain ⟨hparents, h⟩ := refuse_bind_ok.mp h
    obtain rfl := Except.ok.inj h
    rw [demand_ok] at hcontent hsha256
    obtain ⟨hchecked, hwritten⟩ := writtenFile_ok.mp hfile
    have hmade : change.madeDirectories = parentPaths change.treePath := if_neg hremove
    have hpath : file.path = change.treePath := by
      rw [hwritten]
      cases hget : tree.files.get? change.treePath with
      | none => rfl
      | some => exact (SortedRecords.get?_eq_some_iff.mp hget).2
    refine ⟨⟨hadded, hprior, fun _ => ⟨content, sha256, hcontent, hsha256, hchecked⟩, ?_⟩,
      hdirectory, ?_, ?_⟩
    · rw [hmade]
      simpa using hparents
    · intro path
      rw [SortedRecords.get?_put, hpath]
      split_ifs with hsame
      · subst hsame
        rw [FleetPatchFileChange.outcome, if_neg hremove, hcontent, hsha256, hwritten]
        rfl
      · rfl
    · intro path
      rw [hmade]
      dsimp only
      rw [get?_makeParents]

theorem exists_applyChange
    (hfits : Fits casefold hash rootXattrs (tree.files.get? change.treePath) change)
    (hdirectory : tree.directories.get? change.treePath = none) :
    ∃ after, applyChange casefold hash rootXattrs tree change = .ok after := by
  have hconflict : ¬ ((change.operation = .add ∧ (tree.files.get? change.treePath).isSome = true)
      ∨ (change.operation ≠ .add ∧ (tree.files.get? change.treePath = none
        ∨ (tree.files.get? change.treePath).map OrganizationFile.sha256 ≠ change.beforeSha256))
      ∨ (tree.directories.get? change.treePath).isSome = true) := by
    rintro (⟨hop, hsome⟩ | ⟨hop, hprior⟩ | hsome)
    · rw [hfits.added hop] at hsome
      cases hsome
    · obtain ⟨file, hfile, hhash⟩ := hfits.kept hop
      rw [hfile] at hprior
      rcases hprior with hnone | hne
      · cases hnone
      · exact hne hhash
    · rw [hdirectory] at hsome
      cases hsome
  unfold applyChange
  dsimp only
  rw [exists_bind_ok]
  refine ⟨(), refuse_ok.mpr hconflict, ?_⟩
  by_cases hremove : change.operation = .remove
  · rw [if_pos hremove]
    exact ⟨_, rfl⟩
  · obtain ⟨content, sha256, hcontent, hsha256, hchecked⟩ := hfits.written hremove
    have hmade : change.madeDirectories = parentPaths change.treePath := if_neg hremove
    have habove := hfits.above
    rw [hmade] at habove
    rw [if_neg hremove, exists_bind_ok]
    refine ⟨content, demand_ok.mpr hcontent, exists_bind_ok.mpr ⟨sha256, demand_ok.mpr hsha256,
      exists_bind_ok.mpr ⟨_, writtenFile_ok.mpr ⟨hchecked, rfl⟩, exists_bind_ok.mpr ⟨(), ?_, ?_⟩⟩⟩⟩
    · refine refuse_ok.mpr ?_
      rintro ⟨parent, hmem, hbad⟩
      exact hbad (habove parent hmem)
    · exact ⟨_, rfl⟩

/-! ### A run over the changes -/

/-- Neither path is the other one or above it. -/
def Separate (a b : FleetPatchFileChange) : Prop :=
  a.treePath ≠ b.treePath ∧ a.treePath ∉ b.madeDirectories ∧ b.treePath ∉ a.madeDirectories

theorem Separate.symm (h : Separate a b) : Separate b a :=
  ⟨h.1.symm, h.2.2, h.2.1⟩

/-- What is found after a run over the changes. -/
structure Evolved (rootXattrs : List OrganizationXattr) (tree after : OrganizationTree)
    (changes : List FleetPatchFileChange) : Prop where
  named : ∀ change ∈ changes,
    after.files.get? change.treePath
      = change.outcome rootXattrs (tree.files.get? change.treePath)
  other : ∀ path, (∀ change ∈ changes, change.treePath ≠ path) →
    after.files.get? path = tree.files.get? path
  directories : ∀ path, after.directories.get? path = (tree.directories.get? path).or
    (if ∃ change ∈ changes, path ∈ change.madeDirectories then some (newDirectory rootXattrs path)
      else none)

/-- The changes all fit the tree that the run starts from. -/
def FitAll (casefold : Casefold) (hash : Bytes → Sha256) (rootXattrs : List OrganizationXattr)
    (tree : OrganizationTree) (changes : List FleetPatchFileChange) : Prop :=
  ∀ change ∈ changes,
    Fits casefold hash rootXattrs (tree.files.get? change.treePath) change
      ∧ tree.directories.get? change.treePath = none

/-- A change does not touch what a change apart from it is about. -/
theorem Applied.untouched (h : Applied rootXattrs tree after change) (hapart : Separate change other) :
    after.files.get? other.treePath = tree.files.get? other.treePath
      ∧ after.directories.get? other.treePath = tree.directories.get? other.treePath := by
  rw [h.files, if_neg hapart.1.symm, h.directories, if_neg hapart.2.2, Option.or_none]
  exact ⟨rfl, rfl⟩

theorem fitAll_of_applied (h : Applied rootXattrs tree after change)
    (hapart : ∀ other ∈ changes, Separate change other) :
    FitAll casefold hash rootXattrs after changes ↔ FitAll casefold hash rootXattrs tree changes := by
  refine forall₂_congr fun other hmem => ?_
  rw [(h.untouched (hapart other hmem)).1, (h.untouched (hapart other hmem)).2]

theorem evolved_of_foldlM (hapart : changes.Pairwise Separate)
    (h : changes.foldlM (applyChange casefold hash rootXattrs) tree = .ok after) :
    FitAll casefold hash rootXattrs tree changes ∧ Evolved rootXattrs tree after changes := by
  induction changes generalizing tree with
  | nil =>
      obtain rfl := Except.ok.inj h
      refine ⟨fun change hmem => absurd hmem List.not_mem_nil, fun change hmem => ?_,
        fun path _ => rfl, fun path => ?_⟩
      · exact absurd hmem List.not_mem_nil
      · rw [if_neg (fun ⟨_, hmem, _⟩ => List.not_mem_nil hmem), Option.or_none]
  | cons change changes ih =>
      rw [List.foldlM_cons] at h
      obtain ⟨middle, hchange, hrest⟩ := bind_ok.mp h
      obtain ⟨hfirst, hpairwise⟩ := List.pairwise_cons.mp hapart
      obtain ⟨hfits, hnone, happlied⟩ := fits_of_applyChange hchange
      obtain ⟨hall, hevolved⟩ := ih hpairwise hrest
      have htree := (fitAll_of_applied happlied hfirst).mp hall
      refine ⟨List.forall_mem_cons.mpr ⟨⟨hfits, hnone⟩, htree⟩,
        List.forall_mem_cons.mpr ⟨?_, fun other hmem => ?_⟩, fun path hpath => ?_, fun path => ?_⟩
      · rw [hevolved.other _ fun other hmem heq => (hfirst other hmem).1 heq.symm, happlied.files,
          if_pos rfl]
      · rw [hevolved.named other hmem, (happlied.untouched (hfirst other hmem)).1]
      · rw [List.forall_mem_cons] at hpath
        rw [hevolved.other path hpath.2, happlied.files, if_neg (Ne.symm hpath.1)]
      · rw [hevolved.directories, happlied.directories, Option.or_assoc]
        congr 1
        by_cases hmade : path ∈ change.madeDirectories
        · rw [if_pos hmade, Option.some_or, if_pos ⟨change, List.mem_cons_self, hmade⟩]
        · rw [if_neg hmade, Option.none_or]
          refine if_congr ?_ rfl rfl
          simp only [List.mem_cons, exists_eq_or_imp, or_iff_right hmade]

theorem exists_foldlM (hapart : changes.Pairwise Separate)
    (hfit : FitAll casefold hash rootXattrs tree changes) :
    ∃ after, changes.foldlM (applyChange casefold hash rootXattrs) tree = .ok after := by
  induction changes generalizing tree with
  | nil => exact ⟨tree, rfl⟩
  | cons change changes ih =>
      obtain ⟨hfirst, hpairwise⟩ := List.pairwise_cons.mp hapart
      unfold FitAll at hfit
      rw [List.forall_mem_cons] at hfit
      obtain ⟨middle, hmiddle⟩ := exists_applyChange hfit.1.1 hfit.1.2
      obtain ⟨-, -, happlied⟩ := fits_of_applyChange hmiddle
      obtain ⟨after, hafter⟩ := ih hpairwise ((fitAll_of_applied happlied hfirst).mpr hfit.2)
      refine ⟨after, ?_⟩
      rw [List.foldlM_cons]
      exact bind_ok.mpr ⟨middle, hmiddle, hafter⟩

/-- What is found determines the tree. -/
theorem Evolved.unique {after' : OrganizationTree} (h : Evolved rootXattrs tree after changes)
    (h' : Evolved rootXattrs tree after' changes) : after = after' := by
  have hfiles : after.files = after'.files := by
    refine SortedRecords.ext_get? fun path => ?_
    by_cases hnamed : ∃ change ∈ changes, change.treePath = path
    · obtain ⟨change, hmem, rfl⟩ := hnamed
      rw [h.named change hmem, h'.named change hmem]
    · have hother : ∀ change ∈ changes, change.treePath ≠ path :=
        fun change hmem heq => hnamed ⟨change, hmem, heq⟩
      rw [h.other path hother, h'.other path hother]
  have hdirectories : after.directories = after'.directories :=
    SortedRecords.ext_get? fun path => (h.directories path).trans (h'.directories path).symm
  cases after
  cases after'
  exact congr (congrArg _ hfiles) hdirectories

theorem Evolved.of_perm (hperm : changes.Perm changes')
    (h : Evolved rootXattrs tree after changes) : Evolved rootXattrs tree after changes' where
  named change hmem := h.named change (hperm.mem_iff.mpr hmem)
  other path hpath := h.other path fun change hmem => hpath change (hperm.mem_iff.mp hmem)
  directories path := by
    rw [h.directories path]
    congr 1
    exact if_congr (exists_congr fun change => and_congr_left' hperm.mem_iff) rfl rfl

/-- The order of the changes does not show in the result. -/
theorem foldlM_applyChange_perm (hperm : changes.Perm changes')
    (hapart : changes.Pairwise Separate)
    (h : changes.foldlM (applyChange casefold hash rootXattrs) tree = .ok after) :
    changes'.foldlM (applyChange casefold hash rootXattrs) tree = .ok after := by
  have hapart' : changes'.Pairwise Separate :=
    (hperm.pairwise_iff fun hseparate => hseparate.symm).mp hapart
  obtain ⟨hfit, hevolved⟩ := evolved_of_foldlM hapart h
  obtain ⟨after', hafter'⟩ := exists_foldlM hapart' fun change hmem =>
    hfit change (hperm.mem_iff.mpr hmem)
  rw [hafter', (evolved_of_foldlM hapart' hafter').2.unique (hevolved.of_perm hperm)]

/-! ### The paths of a patch -/

theorem canonicalPath_of_fleetPatchPath (h : IsFleetPatchPath path) : CanonicalPath path := by
  obtain ⟨⟨hlength, -⟩, -, -, hrelative, hbackslash, hparent, -, hnormal⟩ := h
  refine ⟨?_, hbackslash, hrelative, hnormal, hparent⟩
  rintro rfl
  exact absurd hlength (by decide)

/-- The names below `.fleet`. -/
theorem exists_names (h : IsFleetPatchPath path) : ∃ names,
    (PurePosixPath.parse path).parts = ".fleet" :: names ∧ names ≠ []
      ∧ (∀ name ∈ names, name ≠ "" ∧ name ≠ "." ∧ '/' ∉ name.toList)
      ∧ (textAfter? path ".fleet/").getD path = "/".intercalate names := by
  have hcanonical := canonicalPath_of_fleetPatchPath h
  obtain ⟨⟨hlength, -⟩, hstart, -, -, -, -, hhead, hnormal⟩ := h
  have hdot : path ≠ "." := by
    rintro rfl
    exact absurd hlength (by decide)
  have hlist := hcanonical.toList_eq hdot
  cases hparts : (PurePosixPath.parse path).parts with
  | nil => exact absurd hparts (hcanonical.parts_ne_nil hdot)
  | cons first names =>
      rw [hparts] at hhead hlist
      obtain rfl := Option.some.inj hhead
      have hne : names ≠ [] := by
        rintro rfl
        have hshort : path.length = 6 := by
          rw [← String.length_toList, hlist]
          rfl
        omega
      have hnames : ∀ name ∈ names, name ≠ "" ∧ name ≠ "." ∧ '/' ∉ name.toList := by
        intro name hmem
        have hpart : name ∈ (PurePosixPath.parse path).parts := by
          rw [hparts]
          exact List.mem_cons_of_mem _ hmem
        obtain ⟨hempty, hslash⟩ := hcanonical.mem_parts hpart
        rw [hcanonical.parts_eq, PurePosixPath.parse, List.mem_filter, decide_eq_true_iff] at hpart
        exact ⟨hempty, hpart.2.2, hslash⟩
      refine ⟨names, rfl, hne, hnames, ?_⟩
      obtain ⟨second, rest, rfl⟩ := List.exists_cons_of_ne_nil hne
      unfold textAfter?
      rw [if_pos hstart, Option.getD_some, hlist]
      have hdrop : (['/'].intercalate ((".fleet" :: second :: rest).map String.toList)).drop
          ".fleet/".toList.length = ['/'].intercalate ((second :: rest).map String.toList) := by
        rw [List.map_cons, List.map_cons, List.intercalate_cons_cons]
        rfl
      have hslash : "/".toList = ['/'] := rfl
      rw [hdrop, ← hslash, ← String.toList_intercalate, String.ofList_toList]

/-- The names of a directory above a path are the first names of the path. -/
theorem names_of_mem_parentPaths {names : List String} {parent : String}
    (hnames : ∀ name ∈ names, name ≠ "" ∧ name ≠ "." ∧ '/' ∉ name.toList) (hne : names ≠ [])
    (h : parent ∈ parentPaths ("/".intercalate names)) :
    ∃ above, above ≠ [] ∧ above <+: names ∧ above ≠ names ∧ parent = "/".intercalate above := by
  have hdot : parent ≠ "." := by
    have := List.mem_takeWhile_imp h
    exact of_decide_eq_true this
  have hmem := List.takeWhile_subset _ h
  rw [parse_intercalate hne hnames] at hmem
  obtain ⟨path, hpath, rfl⟩ := List.mem_map.mp hmem
  obtain ⟨count, hcount, rfl⟩ := List.mem_map.mp (List.mem_reverse.mp hpath)
  rw [List.mem_range] at hcount
  dsimp only at hcount hdot ⊢
  have habove : names.take count ≠ [] := by
    intro hnil
    rw [PurePosixPath.str, if_pos ⟨rfl, hnil⟩] at hdot
    exact hdot rfl
  refine ⟨names.take count, habove, List.take_prefix count names, fun heq => ?_, ?_⟩
  · have hlength := congrArg List.length heq
    rw [List.length_take] at hlength
    omega
  · rw [PurePosixPath.str, if_neg (fun hboth => habove hboth.2), String.empty_append]

/-- Paths that lie apart are separate in the tree. -/
theorem separate_of_apart (ha : IsFleetPatchPath a.path) (hb : IsFleetPatchPath b.path)
    (hapart : a.Apart casefold b) : Separate a b := by
  obtain ⟨names, hparts, hne, hnames, hpath⟩ := exists_names ha
  obtain ⟨names', hparts', hne', hnames', hpath'⟩ := exists_names hb
  have htree : a.treePath = "/".intercalate names := hpath
  have htree' : b.treePath = "/".intercalate names' := hpath'
  obtain ⟨hleft, hright⟩ := hapart
  unfold FleetPatchFileChange.foldedPath at hleft hright
  rw [hparts, hparts'] at hleft hright
  have hle {left right : List String} (h : left <+: right) :
      (".fleet" :: left).map casefold.fold <+: (".fleet" :: right).map casefold.fold :=
    (List.cons_prefix_cons.mpr ⟨rfl, h⟩).map _
  have heq {left right : List String} (hleft : left ≠ []) (hright : right ≠ [])
      (hnames : ∀ name ∈ left, name ≠ "" ∧ name ≠ "." ∧ '/' ∉ name.toList)
      (hnames' : ∀ name ∈ right, name ≠ "" ∧ name ≠ "." ∧ '/' ∉ name.toList)
      (h : "/".intercalate left = "/".intercalate right) : left = right := by
    have hparse := congrArg PurePosixPath.parse h
    rw [parse_intercalate hleft hnames, parse_intercalate hright hnames'] at hparse
    exact (PurePosixPath.mk.inj hparse).2
  have hmade {change : FleetPatchFileChange} {parent : String}
      (hmem : parent ∈ change.madeDirectories) : parent ∈ parentPaths change.treePath := by
    unfold FleetPatchFileChange.madeDirectories at hmem
    split_ifs at hmem with hremove
    · exact absurd hmem List.not_mem_nil
    · exact hmem
  refine ⟨fun hsame => ?_, fun hmem => ?_, fun hmem => ?_⟩
  · rw [htree, htree'] at hsame
    obtain rfl := heq hne hne' hnames hnames' hsame
    exact hleft (List.prefix_refl _)
  · have habove := hmade hmem
    rw [htree, htree'] at habove
    obtain ⟨above, hnil, habove, -, hsame⟩ := names_of_mem_parentPaths hnames' hne' habove
    obtain rfl := heq hne hnil hnames (fun name h => hnames' name (habove.subset h)) hsame
    exact hleft (hle habove)
  · have habove := hmade hmem
    rw [htree, htree'] at habove
    obtain ⟨above, hnil, habove, -, hsame⟩ := names_of_mem_parentPaths hnames hne habove
    obtain rfl := heq hne' hnil hnames' (fun name h => hnames name (habove.subset h)) hsame
    exact hright (hle habove)

theorem separate_of_accepted
    (h : validateFleetPatch casefold hash patch patch.baseFleetSpecSha256 = .ok ()) :
    patch.changes.Pairwise Separate := by
  obtain ⟨-, hvalid, -, -, hapart⟩ := validateFleetPatch_ok.mp h
  have hpaths : ∀ change ∈ patch.changes, IsFleetPatchPath change.path :=
    fun change hmem => (hvalid.2.2.2.1 change hmem).1
  exact hapart.imp_of_mem fun ha hb hapart => separate_of_apart (hpaths _ ha) (hpaths _ hb) hapart

/-- A patch is accepted in any order of its changes. -/
theorem accepted_of_perm (hperm : patch.changes.Perm changes')
    (h : validateFleetPatch casefold hash patch patch.baseFleetSpecSha256 = .ok ()) :
    validateFleetPatch casefold hash { patch with changes := changes' } patch.baseFleetSpecSha256
      = .ok () := by
  obtain ⟨hbytes, ⟨hid, hproject, hlength, hchanges, hrationale, hrollback⟩, -, hallowed, hapart⟩ :=
    validateFleetPatch_ok.mp h
  refine validateFleetPatch_ok.mpr ⟨?_, ⟨hid, hproject, ?_, ?_, hrationale, hrollback⟩, rfl, ?_, ?_⟩
  · have hsum := (hperm.map FleetPatchFileChange.payloadBytes).sum_nat
    unfold FleetPatch.payloadBytes at hbytes ⊢
    rw [← hsum]
    exact hbytes
  · rw [← hperm.length_eq]
    exact hlength
  · exact fun change hmem => hchanges change (hperm.mem_iff.mpr hmem)
  · exact fun change hmem => hallowed change (hperm.mem_iff.mpr hmem)
  · exact (hperm.pairwise_iff fun hseparate => hseparate.symm).mp hapart

/-! ### The result -/

theorem evolveTree_ok : evolveTree casefold hash before patch = .ok after
    ↔ before.Valid casefold hash ∧ patch.Valid hash
      ∧ validateFleetPatch casefold hash patch patch.baseFleetSpecSha256 = .ok ()
      ∧ ∃ root, before.directories.get? "." = some root
        ∧ patch.changes.foldlM (applyChange casefold hash root.xattrs) before = .ok after
        ∧ after.Rechecked casefold hash := by
  unfold evolveTree
  rw [refuse_bind_ok, refuse_bind_ok, not_not, not_not]
  refine and_congr_right fun _ => and_congr_right fun _ => ?_
  cases hpatch : validateFleetPatch casefold hash patch patch.baseFleetSpecSha256 with
  | error => exact iff_of_false (fun h => by cases h) fun h => by cases h.1
  | ok accepted =>
      rw [and_iff_right rfl]
      dsimp only
      simp only [bind_ok, demand_ok, refuse_ok, not_not, return_ok, exists_const]
      refine exists_congr fun root => and_congr_right fun _ => ?_
      constructor
      · rintro ⟨result, hresult, hchecked, rfl⟩
        exact ⟨hresult, hchecked⟩
      · rintro ⟨hresult, hchecked⟩
        exact ⟨after, hresult, hchecked, rfl⟩

/-- The result of an evolution is the tree that the patch describes. -/
structure Evolution (casefold : Casefold) (hash : Bytes → Sha256) (before : OrganizationTree)
    (patch : FleetPatch) (after : OrganizationTree) : Prop where
  reordered : ∀ changes', patch.changes.Perm changes' →
    evolveTree casefold hash before { patch with changes := changes' } = .ok after
  files : ∀ path, (∀ change ∈ patch.changes, change.treePath ≠ path) →
    after.files.get? path = before.files.get? path
  replaced : ∀ change ∈ patch.changes, change.operation = .replace →
    ∃ file file', before.files.get? change.treePath = some file
      ∧ after.files.get? change.treePath = some file'
      ∧ file'.mode = file.mode ∧ some file'.content = change.content
  removed : ∀ change ∈ patch.changes, change.operation = .remove →
    after.files.get? change.treePath = none
  directories : ∀ directory ∈ before.directories.records, directory ∈ after.directories.records
  made : ∀ directory ∈ after.directories.records, directory ∈ before.directories.records
    ∨ ∃ change ∈ patch.changes, change.operation ≠ .remove
      ∧ directory.path ∈ parentPaths change.treePath
  listed : (after.files.records.map OrganizationFile.path).Pairwise (· < ·)
    ∧ (after.directories.records.map OrganizationDirectory.path).Pairwise (· < ·)
  valid : after.Valid casefold hash

theorem mem_directories_of_evolved (h : Evolved rootXattrs tree after changes)
    {directory : OrganizationDirectory} :
    directory ∈ after.directories.records ↔ directory ∈ tree.directories.records
      ∨ tree.directories.get? directory.path = none
        ∧ (∃ change ∈ changes, directory.path ∈ change.madeDirectories)
        ∧ directory = newDirectory rootXattrs directory.path := by
  have hget := h.directories directory.path
  have hmem (tree : OrganizationTree) : directory ∈ tree.directories.records
      ↔ tree.directories.get? directory.path = some directory := by
    rw [SortedRecords.get?_eq_some_iff, and_iff_left rfl]
  rw [hmem, hmem, hget]
  cases hbefore : tree.directories.get? directory.path with
  | some =>
      rw [Option.some_or]
      exact ⟨.inl, fun h => h.elim id fun h => by cases h.1⟩
  | none =>
      rw [Option.none_or]
      split_ifs with hmade
      · rw [Option.some.injEq]
        constructor
        · exact fun heq => .inr ⟨rfl, hmade, heq.symm⟩
        · rintro (h | ⟨-, -, heq⟩)
          · cases h
          · exact heq.symm
      · exact iff_of_false (fun h => by cases h) fun h => h.elim (fun h => by cases h)
          fun h => hmade h.2.1

/-- What is under the path of a change that writes, afterwards. -/
theorem written_of_evolved (hfit : FitAll casefold hash rootXattrs tree changes)
    (h : Evolved rootXattrs tree after changes) (hmem : change ∈ changes)
    (hop : change.operation ≠ .remove) : ∃ content sha256, change.content = some content
      ∧ change.afterSha256 = some sha256
      ∧ after.files.get? change.treePath = some (writtenRecord rootXattrs change.treePath content
        sha256 (tree.files.get? change.treePath)) := by
  obtain ⟨content, sha256, hcontent, hsha256, -⟩ := (hfit change hmem).1.written hop
  refine ⟨content, sha256, hcontent, hsha256, ?_⟩
  rw [h.named change hmem, FleetPatchFileChange.outcome, if_neg hop, hcontent, hsha256]
  rfl

/-- The files of the result have as many attributes as a file may have. -/
theorem xattrs_of_evolved (hbefore : tree.Valid casefold hash) (hroot : rootXattrs.length ≤ 1)
    (hfit : FitAll casefold hash rootXattrs tree changes)
    (h : Evolved rootXattrs tree after changes) (hmem : file ∈ after.files.records) :
    file.xattrs.length ≤ 1 := by
  have hget : after.files.get? file.path = some file := SortedRecords.get?_eq_some_iff.mpr ⟨hmem, rfl⟩
  have hold {prior : OrganizationFile} (hprior : tree.files.get? file.path = some prior) :
      prior.xattrs.length ≤ 1 :=
    (hbefore.2.1 prior (SortedRecords.get?_eq_some_iff.mp hprior).1).2.2.2
  by_cases hnamed : ∃ change ∈ changes, change.treePath = file.path
  · obtain ⟨change, hchange, hpath⟩ := hnamed
    by_cases hop : change.operation = .remove
    · rw [← hpath, h.named change hchange, FleetPatchFileChange.outcome, if_pos hop] at hget
      cases hget
    · obtain ⟨content, sha256, -, -, hwritten⟩ := written_of_evolved hfit h hchange hop
      rw [hpath, hget] at hwritten
      rw [Option.some.inj hwritten]
      cases hprior : tree.files.get? file.path with
      | none => exact hroot
      | some =>
          have hkept := hold hprior
          exact hkept
  · have hother := h.other file.path fun change hchange heq => hnamed ⟨change, hchange, heq⟩
    exact hold (hother ▸ hget)

end

/-! ### A tree with one file -/

/-- The digest of no bytes. -/
def noBytesSha256 : Sha256 where
  hex := "e3b0c44298fc1c149afbf4c8996fb92427ae41e4649b934ca495991b7852b855"
  wellFormed := by simp [isHexDigit]

/-- The digest of `# Fleet` and a line feed. -/
def titleSha256 : Sha256 where
  hex := "b92ebc4d59cd66dbbfadb042267faa04133f45ce8ee8c752c3dd485b50cce9bf"
  wellFormed := by simp [isHexDigit]

def readmeHash (bytes : Bytes) : Sha256 :=
  if bytes.length = 0 then noBytesSha256 else titleSha256

def readmeFile (content : String) : OrganizationFile where
  path := "README.md"
  content := content
  sha256 := readmeHash (utf8 content)
  mode := .m644

def readmeTree (content : String) : OrganizationTree where
  files := ⟨[readmeFile content], List.pairwise_singleton _ _⟩
  directories := ⟨[⟨".", .m755, []⟩], List.pairwise_singleton _ _⟩

def readmePatch (content : String) : FleetPatch where
  fleetPatchId := "fpatch_0123456789abcdef0123456789abcdef"
  projectId := "prj_0123456789abcdef0123456789abcdef"
  baseFleetSpecSha256 := noBytesSha256
  changes := [{
    operation := .replace
    path := ".fleet/README.md"
    beforeSha256 := some noBytesSha256
    afterSha256 := some (readmeHash (utf8 content))
    content := some content }]
  rationale := "Describe the fleet."

theorem evolveTree_title :
    evolveTree lowerCasefold readmeHash (readmeTree "") (readmePatch "# Fleet\n")
      = .ok (readmeTree "# Fleet\n") := by
  rfl

end AgentFleet
