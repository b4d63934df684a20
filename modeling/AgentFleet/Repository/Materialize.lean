import AgentFleet.Repository.SourceManifest

/-! # The files of a manifest in a new worktree

`_materialize_baseline_manifest` writes the files of a manifest into a worktree that holds only its
`.git` file.  The worktree has no links, so a logical path is resolved to itself.  A file is opened
under its whole path, of which the system takes only so many bytes; the reader and the walk open
one name at a time.

`fingerprint_agrees_iff` says when the fingerprint of the written worktree is the digest of the
manifest: when the canonical bytes of the manifest are within the limit of a record, the files with
their directories and `.git` within that of the walk, the directories not nested too deeply for it,
the paths within the limits of the system, and `.git` small enough.  The reader of the manifest has
none of these bounds. -/

namespace AgentFleet

open Checks DirectoryTree Related

section

/-- How long the paths are that the system takes. -/
structure PathLimits where
  /-- The bytes of the path of the worktree. -/
  worktree : ℕ
  /-- `PATH_MAX`, which counts the byte that ends a path. -/
  path : ℕ
  /-- `NAME_MAX`. -/
  name : ℕ

/-- The system takes the path of a file in the worktree. -/
def PathLimits.Takes (limits : PathLimits) (path : String) : Prop :=
  limits.worktree + 1 + (utf8 path).length < limits.path
    ∧ ∀ part ∈ (PurePosixPath.parse path).parts, (utf8 part).length ≤ limits.name
deriving Decidable

/-- The number of directories that `mkdir` makes above a file. -/
def missingDirectories (names : List EntryName) (worktree : Worktree) : ℕ :=
  (names.dropLast.inits.filter fun above => (find? above (.directory worktree)).isNone).length

variable {casefold : Casefold} (sha256 : Bytes → Sha256) (tree : CommittedTree)
  (limits : PathLimits) (recursionLimit : ℕ)

/-- `git cat-file blob <commit>:<path>`. -/
def blobAt (path : String) : Option Bytes :=
  (tree.rows.find? fun row => row.path = utf8 path).bind fun row => tree.blob row.object

/-- How a file is not written. -/
inductive MaterializeError where
  | fleet (error : FleetError)
  | osError
  | recursion

/-- One file: the directories above it may exist, the file may not.  `mkdir` calls itself for every
directory that is missing. -/
def materializeEntry (worktree : Worktree) (entry : BaselineSourceEntry casefold) :
    Except MaterializeError Worktree := do
  let content ← demand (.fleet baselineRepositoryError) (blobAt tree entry.path)
  refuse (content.length ≠ entry.size ∨ sha256 content ≠ entry.contentSha256)
    (.fleet baselineRepositoryError)
  refuse (¬ limits.Takes entry.path) .osError
  let names ← demand .osError ((PurePosixPath.parse entry.path).parts.mapM entryName?)
  refuse (recursionLimit < missingDirectories names worktree) .recursion
  demand .osError (write (.regular entry.mode.bits 1 content) names worktree)

/-- `_materialize_baseline_manifest`. -/
def materializeBaselineManifest (manifest : BaselineSourceManifest casefold)
    (worktree : Worktree) : Except MaterializeError Worktree :=
  manifest.entries.foldlM (materializeEntry sha256 tree limits recursionLimit) worktree

end

section

variable {casefold : Casefold} {sha256 : Bytes → Sha256} {tree : CommittedTree}

/-! ### The files that are written -/

variable (sha256 tree) in
/-- The file that is written for an entry, with the names on the way to it. -/
structure Written (entry : BaselineSourceEntry casefold) (file : List EntryName × WorktreeFile) :
    Prop where
  joined_eq : joined file.1 = codePoints entry.path
  content : ∃ content, file.2 = .regular entry.mode.bits 1 content
    ∧ blobAt tree entry.path = some content ∧ content.length = entry.size
    ∧ sha256 content = entry.contentSha256

variable {limits : PathLimits} {recursionLimit : ℕ} {worktree worktree' root : Worktree}
  {names : List EntryName}

theorem materializeEntry_ok_iff {entry : BaselineSourceEntry casefold} :
    materializeEntry sha256 tree limits recursionLimit worktree entry = .ok worktree'
      ↔ limits.Takes entry.path ∧ ∃ file, Written sha256 tree entry file
        ∧ missingDirectories file.1 worktree ≤ recursionLimit
        ∧ write file.2 file.1 worktree = some worktree' := by
  have hsafe := entry.valid.2.2
  unfold materializeEntry
  simp only [bind_ok, demand_ok]
  constructor
  · rintro ⟨content, hcontent, _, hsame, _, htaken, names, hnames, _, hmissing, hwrite⟩
    rw [refuse_ok, not_or, not_not, not_not] at hsame
    rw [refuse_ok, not_not] at htaken
    rw [refuse_ok, not_lt] at hmissing
    rw [hsafe.canonical.parts_eq, entryNames_eq_some_iff, joined_eq_iff hsafe] at hnames
    exact ⟨htaken, (names, _), ⟨hnames, content, rfl, hcontent, hsame⟩, hmissing, hwrite⟩
  · rintro ⟨htaken, ⟨names, file⟩, ⟨hnames, content, rfl, hcontent, hsame⟩, hmissing, hwrite⟩
    refine ⟨content, hcontent, (), ?_, (), ?_, names, ?_, (), ?_, hwrite⟩
    · rw [refuse_ok, not_or, not_not, not_not]
      exact hsame
    · rw [refuse_ok, not_not]
      exact htaken
    · rw [hsafe.canonical.parts_eq, entryNames_eq_some_iff, joined_eq_iff hsafe]
      exact hnames
    · rw [refuse_ok, not_lt]
      exact hmissing

theorem written_of_materialized {entries : List (BaselineSourceEntry casefold)}
    (h : entries.foldlM (materializeEntry sha256 tree limits recursionLimit) worktree
      = .ok worktree') :
    (∀ entry ∈ entries, limits.Takes entry.path)
      ∧ ∃ files, List.Forall₂ (Written sha256 tree) entries files
        ∧ writeAll files worktree = some worktree' := by
  induction entries generalizing worktree with
  | nil =>
      rw [List.foldlM_nil] at h
      obtain rfl := Except.ok.inj h
      exact ⟨List.forall_mem_nil _, [], .nil, rfl⟩
  | cons entry entries ih =>
      rw [List.foldlM_cons, bind_ok] at h
      obtain ⟨mid, hfirst, hrest⟩ := h
      obtain ⟨htaken, file, hfile, -, hwrite⟩ := materializeEntry_ok_iff.mp hfirst
      obtain ⟨htakens, files, hfiles, hwrites⟩ := ih hrest
      exact ⟨List.forall_mem_cons.mpr ⟨htaken, htakens⟩, file :: files, .cons hfile hfiles,
        Option.bind_eq_some_iff.mpr ⟨mid, hwrite, hwrites⟩⟩

theorem missingDirectories_le (names : List EntryName) (worktree : Worktree) :
    missingDirectories names worktree ≤ names.length - 1 := by
  unfold missingDirectories
  rw [← List.length_dropLast]
  cases names.dropLast with
  | nil => simp
  | cons name above =>
      rw [List.inits_cons, List.filter_cons, if_neg (by simp)]
      refine (List.length_filter_le _ _).trans ?_
      simp

/-- A file is as deep as its path has parts. -/
theorem length_tail {entry : BaselineSourceEntry casefold} (h : joined names = codePoints entry.path) :
    (PurePosixPath.parse entry.path).tail.length = names.length := by
  simpa using congrArg List.length (codes_eq_parts entry.valid.2.2 h).symm

theorem materialized_of_written {entries : List (BaselineSourceEntry casefold)}
    {files : List (List EntryName × WorktreeFile)}
    (htaken : ∀ entry ∈ entries, limits.Takes entry.path)
    (hdepth : ∀ entry ∈ entries,
      (PurePosixPath.parse entry.path).tail.length ≤ recursionLimit + 1)
    (hfiles : List.Forall₂ (Written sha256 tree) entries files)
    (hwrite : writeAll files worktree = some worktree') :
    entries.foldlM (materializeEntry sha256 tree limits recursionLimit) worktree
      = .ok worktree' := by
  induction hfiles generalizing worktree with
  | nil => exact congrArg Except.ok (Option.some.inj hwrite)
  | @cons entry file entries files hfile hfiles ih =>
      rw [List.forall_mem_cons] at htaken hdepth
      obtain ⟨mid, hfirst, hrest⟩ := Option.bind_eq_some_iff.mp hwrite
      have hmissing : missingDirectories file.1 worktree ≤ recursionLimit := by
        have hle := missingDirectories_le file.1 worktree
        have hlength := length_tail hfile.joined_eq
        omega
      rw [List.foldlM_cons, bind_ok]
      exact ⟨mid, materializeEntry_ok_iff.mpr ⟨htaken.1, file, hfile, hmissing, hfirst⟩,
        ih htaken.2 hdepth.2 hrest⟩

/-! ### Every manifest is written -/

theorem nodup_paths (manifest : BaselineSourceManifest casefold) :
    (manifest.entries.map BaselineSourceEntry.path).Nodup :=
  manifest.complete.2.2.1.of_map

/-- Git gives the contents that the reader has seen. -/
theorem blobAt_of_rows {entries : List (BaselineSourceEntry casefold)}
    {manifest : BaselineSourceManifest casefold}
    (hrows : List.Forall₂ (fun row entry => rowEntry? casefold sha256 tree row = some entry)
      tree.rows entries)
    (hmanifest : BaselineSourceManifest.ofEntries entries = some manifest)
    {entry : BaselineSourceEntry casefold} (hentry : entry ∈ manifest.entries) :
    ∃ content, blobAt tree entry.path = some content ∧ content.length = entry.size
      ∧ sha256 content = entry.contentSha256 := by
  have hperm := ofEntries_eq_some hmanifest
  obtain ⟨row, hrow, hread⟩ := exists_of_forall₂ hrows.flip (hperm.mem_iff.mp hentry)
  obtain ⟨-, -, hpath, -⟩ := rowEntry?_eq_some_iff.mp hread
  have hsome : (tree.rows.find? fun row => row.path = utf8 entry.path).isSome = true :=
    List.find?_isSome.mpr ⟨row, hrow, decide_eq_true hpath.symm⟩
  obtain ⟨found, hfound⟩ := Option.isSome_iff_exists.mp hsome
  have hfoundPath : found.path = utf8 entry.path := by simpa using List.find?_some hfound
  -- no other row has the path, or the manifest would have it twice
  obtain ⟨other, hother, hread'⟩ := exists_of_forall₂ hrows (List.mem_of_find?_eq_some hfound)
  obtain ⟨-, -, hpath', content, hcontent, hsize, hdigest⟩ := rowEntry?_eq_some_iff.mp hread'
  have hsame : other.path = entry.path := utf8_injective (hpath'.trans hfoundPath)
  obtain rfl : other = entry :=
    List.inj_on_of_nodup_map (nodup_paths manifest) (hperm.mem_iff.mpr hother) hentry hsame
  refine ⟨content, ?_, hsize.symm, hdigest.symm⟩
  unfold blobAt
  rw [hfound, Option.bind_some, hcontent]

/-- Two tracked files are not on the way to each other. -/
theorem tracked_apart {a b : BaselineSourceEntry casefold} (ha : Tracked sha256 root a)
    (hb : Tracked sha256 root b) (hpath : a.path ≠ b.path) {names' : List EntryName}
    (hnames : joined names = codePoints a.path) (hnames' : joined names' = codePoints b.path) :
    ¬ names <+: names' := by
  rintro ⟨more, rfl⟩
  obtain ⟨path, _, _, hjoined, hfind, -⟩ := ha
  obtain ⟨path', _, _, hjoined', hfind', -⟩ := hb
  obtain rfl := joined_injective (hjoined.trans hnames.symm)
  obtain rfl := joined_injective (hjoined'.trans hnames'.symm)
  cases more with
  | nil =>
      rw [List.append_nil] at hnames'
      exact hpath (codePoints_injective (hnames.symm.trans hnames'))
  | cons =>
      have hdirectory := find?_append hfind'
      rw [hfind] at hdirectory
      cases hdirectory

variable (gitMode : ℕ) (gitContent : Bytes)

/-- A worktree that holds only its `.git` file. -/
def emptyWorktree : Worktree := [(gitName, .file (.regular gitMode 1 gitContent))]

theorem find?_emptyWorktree {item : Item WorktreeFile} (h : names ≠ []) :
    find? names (.directory (emptyWorktree gitMode gitContent)) = some item
      ↔ names = [gitName] ∧ item = .file (.regular gitMode 1 gitContent) := by
  obtain ⟨name, rest, rfl⟩ := List.exists_cons_of_ne_nil h
  unfold emptyWorktree
  by_cases hname : name = gitName
  · subst hname
    cases rest with
    | nil => simp [find?, node?, Node.item, eq_comm]
    | cons => simp [find?, node?]
  · simp [find?, node?, hname]

/-- The first name on the way to an entry is not `.git`. -/
theorem head_ne_git {entry : BaselineSourceEntry casefold}
    (h : joined names = codePoints entry.path) : ∃ name rest, names = name :: rest
      ∧ name ≠ gitName := by
  have hsafe := entry.valid.2.2
  have hcodes := codes_eq_parts hsafe h
  cases names with
  | nil => exact absurd (List.map_eq_nil_iff.mp hcodes.symm) hsafe.tail_ne_nil
  | cons name rest =>
      refine ⟨name, rest, rfl, ?_⟩
      rintro rfl
      cases hparts : (PurePosixPath.parse entry.path).tail with
      | nil => exact hsafe.tail_ne_nil hparts
      | cons part parts =>
          rw [hparts, List.map_cons, List.map_cons, List.cons.injEq] at hcodes
          have hgit : codePoints ".git" = gitName.codes := rfl
          obtain rfl : ".git" = part := codePoints_injective (hgit.trans hcodes.1)
          have hfold : casefold.fold ".git" = ".git" := by
            rw [casefold.ascii ".git" (by decide)]
            rfl
          refine hsafe.2.2.2.2.2.1 ".git" ?_ hfold
          rw [hsafe.canonical.parts_eq, hparts]
          exact List.mem_cons_self

/-- The files of a manifest can be written. -/
theorem exists_written {manifest : BaselineSourceManifest casefold} {head commit : String}
    (h : baselineSourceManifest casefold sha256 tree head commit root = .ok manifest) :
    ∃ files worktree, List.Forall₂ (Written sha256 tree) manifest.entries files
      ∧ writeAll files (emptyWorktree gitMode gitContent) = some worktree := by
  obtain ⟨-, -, ⟨entries, hrows, hmanifest⟩, htracked⟩ := baselineSourceManifest_ok_iff.mp h
  have hexists : ∀ entry ∈ manifest.entries, ∃ file, Written sha256 tree entry file := by
    intro entry hentry
    obtain ⟨names, -, -, hnames, -⟩ := htracked entry hentry
    obtain ⟨content, hcontent, hsame⟩ := blobAt_of_rows hrows hmanifest hentry
    exact ⟨(names, _), hnames, content, rfl, hcontent, hsame⟩
  obtain ⟨files, hfiles⟩ := exists_forall₂ hexists
  have hplaces : ∀ file ∈ files, file.1 ≠ []
      ∧ find? file.1 (.directory (emptyWorktree gitMode gitContent)) = none
      ∧ ∀ above, above <+: file.1 → ∀ data,
        find? above (.directory (emptyWorktree gitMode gitContent)) ≠ some (.file data) := by
    intro file hfile
    obtain ⟨entry, -, hwritten⟩ := exists_of_forall₂ hfiles.flip hfile
    obtain ⟨name, rest, hnames, hgit⟩ := head_ne_git hwritten.joined_eq
    have hnone {more : List EntryName} {item : Item WorktreeFile} :
        find? (name :: more) (.directory (emptyWorktree gitMode gitContent)) ≠ some item := by
      rw [Ne, find?_emptyWorktree _ _ (List.cons_ne_nil name more)]
      rintro ⟨heq, -⟩
      exact hgit (List.cons.inj heq).1
    rw [hnames]
    refine ⟨List.cons_ne_nil name rest, Option.eq_none_iff_forall_ne_some.mpr fun item => hnone,
      fun above habove data => ?_⟩
    cases above with
    | nil => simp [find?, Node.item]
    | cons =>
        obtain ⟨rfl, -⟩ := List.cons_prefix_cons.mp habove
        exact hnone
  have hapart : files.Pairwise fun a b => ¬ a.1 <+: b.1 ∧ ¬ b.1 <+: a.1 := by
    refine pairwise_of_forall₂ hfiles (List.pairwise_map.mp (nodup_paths manifest)) ?_
    intro a ha b hb hpath left right hleft hright
    have hta := htracked a ha
    have htb := htracked b hb
    exact ⟨tracked_apart hta htb hpath hleft.joined_eq hright.joined_eq,
      tracked_apart htb hta (Ne.symm hpath) hright.joined_eq hleft.joined_eq⟩
  obtain ⟨worktree, hworktree⟩ := exists_writeAll hplaces hapart
  exact ⟨files, worktree, hfiles, hworktree⟩

end

/-! ### What is in the written worktree -/

section Written

variable {casefold : Casefold} {sha256 : Bytes → Sha256} {tree : CommittedTree}
  {recursionLimit gitMode : ℕ} {gitContent : Bytes}
  {manifest : BaselineSourceManifest casefold} {files : List (List EntryName × WorktreeFile)}
  {worktree : Worktree}

/-- A place in the written worktree: a file, a directory above one, or `.git`. -/
theorem mem_contents_written
    (hworktree : writeAll files (emptyWorktree gitMode gitContent) = some worktree)
    {names : List EntryName} {item : Item WorktreeFile} :
    (names, item) ∈ contents worktree
      ↔ names ≠ [] ∧ ((∃ file, (names, file) ∈ files ∧ item = .file file)
        ∨ ((∃ file ∈ files, names <+: file.1 ∧ names ≠ file.1) ∧ item = .directory)
        ∨ names = [gitName] ∧ item = .file (.regular gitMode 1 gitContent)) := by
  have hordered : (Node.directory worktree).Ordered := by
    refine ordered_writeAll hworktree ?_
    simp [emptyWorktree, Node.Ordered, AllOrdered]
  rw [mem_contents_iff hordered, find?_writeAll hworktree]
  refine and_congr_right fun hnames => ?_
  rw [find?_emptyWorktree _ _ hnames]

theorem nodup_contents_written
    (hworktree : writeAll files (emptyWorktree gitMode gitContent) = some worktree) :
    ((contents worktree).map Prod.fst).Nodup := by
  have hordered : (Node.directory worktree).Ordered := by
    refine ordered_writeAll hworktree ?_
    simp [emptyWorktree, Node.Ordered, AllOrdered]
  exact nodup_contents (nodup_names hordered.1) hordered.2

/-- The walk makes the entry of a written file. -/
theorem entryAt?_written {entry : BaselineSourceEntry casefold}
    {file : List EntryName × WorktreeFile} (h : Written sha256 tree entry file) :
    entryAt? casefold sha256 (file.1, .file file.2) = some entry := by
  obtain ⟨content, hfile, -, hsize, hdigest⟩ := h.content
  obtain ⟨name, rest, hnames, hgit⟩ := head_ne_git h.joined_eq
  have hne : file.1 ≠ [gitName] := by
    rw [hnames]
    intro heq
    exact hgit (List.cons.inj heq).1
  rw [hfile]
  simp only [entryAt?, if_neg hne, Option.bind_eq_some_iff]
  refine ⟨entry.path, asText?_eq_some_iff.mpr h.joined_eq.symm,
    validate_eq_some_iff.mpr ⟨rfl, ?_, hsize.symm, hdigest.symm⟩⟩
  cases entry.mode <;> rfl

variable {places : List Place}

/-- Different places have different entries. -/
theorem nodup_entries (h : (places.map Prod.fst).Nodup) :
    ((places.filterMap (entryAt? casefold sha256)).map BaselineSourceEntry.path).Nodup := by
  induction places with
  | nil => exact List.nodup_nil
  | cons place places ih =>
      rw [List.map_cons, List.nodup_cons] at h
      rw [List.filterMap_cons]
      cases hentry : entryAt? casefold sha256 place with
      | none => exact ih h.2
      | some =>
          refine List.nodup_cons.mpr ⟨fun hmem => ?_, ih h.2⟩
          obtain ⟨other, hother, hpath⟩ := List.mem_map.mp hmem
          obtain ⟨place', hplace', hentry'⟩ := List.mem_filterMap.mp hother
          obtain ⟨-, -, -, -, -, hjoined, -⟩ := entryAt?_eq_some hentry
          obtain ⟨-, -, -, -, -, hjoined', -⟩ := entryAt?_eq_some hentry'
          rw [hpath, ← hjoined] at hjoined'
          exact h.1 (List.mem_map.mpr ⟨place', hplace', joined_injective hjoined'⟩)

/-- Different directories are noted differently. -/
theorem nodup_directories (h : (places.map Prod.fst).Nodup) :
    (places.filterMap directoryAt?).Nodup := by
  induction places with
  | nil => exact List.nodup_nil
  | cons place places ih =>
      rw [List.map_cons, List.nodup_cons] at h
      rw [List.filterMap_cons]
      obtain ⟨names, item⟩ := place
      cases item with
      | file => exact ih h.2
      | directory =>
          refine List.nodup_cons.mpr ⟨fun hmem => ?_, ih h.2⟩
          obtain ⟨⟨names', item⟩, hplace, heq⟩ := List.mem_filterMap.mp hmem
          cases item with
          | file => cases heq
          | directory =>
              obtain rfl := joined_injective (Option.some.inj heq)
              exact h.1 (List.mem_map.mpr ⟨(names', .directory), hplace, rfl⟩)

/-- Every accepted place is an entry, a directory or `.git`. -/
theorem length_places (h : ∀ place ∈ places, Admitted casefold sha256 recursionLimit place) :
    places.length = (places.filterMap (entryAt? casefold sha256)).length
        + (places.filterMap directoryAt?).length + (places.map Prod.fst).count [gitName]
      ∧ (places.map sizeAt).sum
        = ((places.filterMap (entryAt? casefold sha256)).map BaselineSourceEntry.size).sum := by
  induction places with
  | nil => exact ⟨rfl, rfl⟩
  | cons place places ih =>
      rw [List.forall_mem_cons] at h
      obtain ⟨hlength, hsum⟩ := ih h.2
      obtain ⟨names, item⟩ := place
      have hadmitted := h.1
      match item with
      | .directory =>
          obtain ⟨hgit, -⟩ := hadmitted
          simp only [List.length_cons, List.filterMap_cons, entryAt?, directoryAt?, List.map_cons,
            List.count_cons_of_ne hgit, List.sum_cons, sizeAt]
          omega
      | .file .symlink => exact hadmitted.elim
      | .file .special => exact hadmitted.elim
      | .file (.regular mode links content) =>
          by_cases hgit : names = [gitName]
          · subst hgit
            simp only [List.length_cons, List.filterMap_cons, entryAt?, directoryAt?, List.map_cons,
              List.count_cons_self, List.sum_cons, sizeAt, if_true]
            omega
          · simp only [Admitted, if_neg hgit, Option.isSome_iff_exists] at hadmitted
            obtain ⟨-, -, -, entry, hentry⟩ := hadmitted
            obtain ⟨_, _, _, heq, -, -, -, hsize, -⟩ := entryAt?_eq_some hentry
            simp only [Prod.mk.injEq, Item.file.injEq, WorktreeFile.regular.injEq, true_and] at heq
            obtain ⟨rfl, rfl, rfl⟩ := heq
            simp only [List.length_cons, List.filterMap_cons, hentry, directoryAt?, List.map_cons,
              List.count_cons_of_ne hgit, List.sum_cons, sizeAt, if_neg hgit, hsize]
            omega

/-- The entries of a manifest in another order give the manifest. -/
theorem ofEntries_of_perm {entries : List (BaselineSourceEntry casefold)}
    (h : entries.Perm manifest.entries) : BaselineSourceManifest.ofEntries entries = some manifest := by
  have hsorted : entries.mergeSort (fun a b => a.path ≤ b.path) = manifest.entries := by
    have hperm := (List.mergeSort_perm entries (fun a b => decide (a.path ≤ b.path))).trans h
    refine hperm.eq_of_pairwise ?_ (List.pairwise_mergeSort ?_ ?_ entries) ?_
    · intro a b ha hb hab hba
      exact List.inj_on_of_nodup_map (nodup_paths manifest) (hperm.mem_iff.mp ha) hb
        (le_antisymm (of_decide_eq_true hab) (of_decide_eq_true hba))
    · intro a b c hab hbc
      exact decide_eq_true ((of_decide_eq_true hab).trans (of_decide_eq_true hbc))
    · intro a b
      simpa using le_total a.path b.path
    · exact (List.pairwise_map.mp manifest.complete.2.1).imp fun hle => decide_eq_true hle
  unfold BaselineSourceManifest.ofEntries
  simp only [hsorted, dif_pos manifest.complete]

variable (hfiles : List.Forall₂ (Written sha256 tree) manifest.entries files)
  (hworktree : writeAll files (emptyWorktree gitMode gitContent) = some worktree)

include hfiles hworktree

theorem mem_entries_written {entry : BaselineSourceEntry casefold} :
    entry ∈ (contents worktree).filterMap (entryAt? casefold sha256)
      ↔ entry ∈ manifest.entries := by
  rw [List.mem_filterMap]
  constructor
  · rintro ⟨place, hplace, hentry⟩
    obtain ⟨mode, links, content, hitem, hgit, -⟩ := entryAt?_eq_some hentry
    rw [hitem] at hplace hentry
    obtain ⟨-, ⟨file, hfile, heq⟩ | ⟨-, heq⟩ | ⟨heq, -⟩⟩ := (mem_contents_written hworktree).mp hplace
    · obtain ⟨other, hother, hwritten⟩ := exists_of_forall₂ hfiles.flip hfile
      have hsame := entryAt?_written hwritten
      rw [← heq, hentry] at hsame
      rwa [Option.some.inj hsame]
    · cases heq
    · exact absurd heq hgit
  · intro hentry
    obtain ⟨file, hfile, hwritten⟩ := exists_of_forall₂ hfiles hentry
    obtain ⟨name, rest, hnames, -⟩ := head_ne_git hwritten.joined_eq
    refine ⟨(file.1, .file file.2), (mem_contents_written hworktree).mpr ⟨?_, ?_⟩,
      entryAt?_written hwritten⟩
    · rw [hnames]
      exact List.cons_ne_nil name rest
    · exact .inl ⟨file.2, hfile, rfl⟩

theorem entries_perm_written :
    ((contents worktree).filterMap (entryAt? casefold sha256)).Perm manifest.entries :=
  (List.perm_ext_iff_of_nodup (nodup_entries (nodup_contents_written hworktree)).of_map
    (nodup_paths manifest).of_map).mpr fun _ => mem_entries_written hfiles hworktree

/-- The directories of the written worktree are those that the manifest needs. -/
theorem mem_directories_written {codes : CodePoints} :
    codes ∈ (contents worktree).filterMap directoryAt?
      ↔ codes ∈ expectedDirectories manifest.entries := by
  have hnamed : ∀ entry ∈ manifest.entries, ∃ path, joined path = codePoints entry.path := by
    intro entry hentry
    obtain ⟨file, -, hwritten⟩ := exists_of_forall₂ hfiles hentry
    exact ⟨file.1, hwritten.joined_eq⟩
  rw [mem_expectedDirectories_iff hnamed, List.mem_filterMap]
  constructor
  · rintro ⟨⟨names, item⟩, hplace, hcodes⟩
    cases item with
    | file => cases hcodes
    | directory =>
        obtain ⟨hne, ⟨file, -, heq⟩ | ⟨⟨file, hfile, ⟨more, hmore⟩, hne'⟩, -⟩ | ⟨-, heq⟩⟩ :=
          (mem_contents_written hworktree).mp hplace
        · cases heq
        · obtain ⟨entry, hentry, hwritten⟩ := exists_of_forall₂ hfiles.flip hfile
          refine ⟨names, Option.some.inj hcodes, hne, entry, hentry, more, ?_, ?_⟩
          · rintro rfl
            rw [List.append_nil] at hmore
            exact hne' hmore
          · rw [hmore]
            exact hwritten.joined_eq
        · cases heq
  · rintro ⟨names, rfl, hnames, entry, hentry, more, hmore, hjoined⟩
    obtain ⟨file, hfile, hwritten⟩ := exists_of_forall₂ hfiles hentry
    have hpath : names ++ more = file.1 := joined_injective (hjoined.trans hwritten.joined_eq.symm)
    refine ⟨(names, .directory), (mem_contents_written hworktree).mpr ⟨hnames, .inr (.inl
      ⟨⟨file, hfile, ⟨more, hpath⟩, ?_⟩, rfl⟩)⟩, rfl⟩
    intro heq
    rw [heq] at hpath
    exact hmore (List.append_right_eq_self.mp hpath)

/-- What the walk accepts in the written worktree. -/
theorem admitted_written_iff :
    (∀ place ∈ contents worktree, Admitted casefold sha256 recursionLimit place)
      ↔ gitContent.length ≤ 4096 ∧ ∀ entry ∈ manifest.entries,
        (PurePosixPath.parse entry.path).tail.length ≤ recursionLimit + 1 := by
  constructor
  · intro h
    constructor
    · have hgit := h _ ((mem_contents_written hworktree).mpr
        ⟨List.cons_ne_nil gitName [], .inr (.inr ⟨rfl, rfl⟩)⟩)
      simp only [Admitted, if_true] at hgit
      exact hgit.2
    · intro entry hentry
      obtain ⟨file, hfile, hwritten⟩ := exists_of_forall₂ hfiles hentry
      rw [length_tail hwritten.joined_eq]
      by_cases hlong : file.1.length ≤ 1
      · omega
      · have hplace : (file.1.dropLast, Item.directory) ∈ contents worktree := by
          refine (mem_contents_written hworktree).mpr ⟨?_, .inr (.inl
            ⟨⟨file, hfile, List.dropLast_prefix _, fun heq => ?_⟩, rfl⟩)⟩
          · intro hnil
            have hzero := congrArg List.length hnil
            rw [List.length_dropLast, List.length_nil] at hzero
            omega
          · have hsame := congrArg List.length heq
            rw [List.length_dropLast] at hsame
            omega
        have hdepth := (h _ hplace).2
        rw [List.length_dropLast] at hdepth
        omega
  · rintro ⟨hgit, hdepth⟩ ⟨names, item⟩ hplace
    obtain ⟨hne, ⟨file, hfile, rfl⟩ | ⟨⟨file, hfile, habove, hne'⟩, rfl⟩ | ⟨rfl, rfl⟩⟩ :=
      (mem_contents_written hworktree).mp hplace
    · obtain ⟨entry, -, hwritten⟩ := exists_of_forall₂ hfiles.flip hfile
      obtain ⟨content, rfl, -, hsize, -⟩ := hwritten.content
      obtain ⟨name, rest, hnames, hname⟩ := head_ne_git hwritten.joined_eq
      have hnotGit : names ≠ [gitName] := by
        rintro rfl
        exact hname (List.cons.inj hnames).1.symm
      have hentry := entryAt?_written hwritten
      simp only [Admitted, if_neg hnotGit]
      dsimp only at hentry
      refine ⟨trivial, ?_, hsize.trans_le entry.valid.2.1, ?_⟩
      · cases entry.mode with
        | regular => exact .inl rfl
        | executable => exact .inr rfl
      · rw [hentry]
        rfl
    · obtain ⟨entry, hentry, hwritten⟩ := exists_of_forall₂ hfiles.flip hfile
      obtain ⟨name, rest, hnames, hname⟩ := head_ne_git hwritten.joined_eq
      have hshort := hdepth entry hentry
      rw [length_tail hwritten.joined_eq] at hshort
      obtain ⟨more, hmore⟩ := habove
      have hsum : names.length + more.length = file.1.length := by
        rw [← hmore, List.length_append]
      have hpos : more ≠ [] := by
        rintro rfl
        rw [List.append_nil] at hmore
        exact hne' hmore
      have hpos' := List.length_pos_of_ne_nil hpos
      refine ⟨?_, ?_⟩
      · rintro rfl
        rw [hnames] at hmore
        exact hname (List.cons.inj hmore).1.symm
      · show names.length ≤ recursionLimit
        omega
    · simp only [Admitted, if_true]
      exact ⟨trivial, hgit⟩

/-- The number of places in the written worktree, of which `.git` is one. -/
theorem length_contents_written
    (h : ∀ place ∈ contents worktree, Admitted casefold sha256 recursionLimit place) :
    (contents worktree).length
      = manifest.entries.length + (expectedDirectories manifest.entries).dedup.length + 1 := by
  have hnodup := nodup_contents_written hworktree
  have hdirectories : ((contents worktree).filterMap directoryAt?).length
      = (expectedDirectories manifest.entries).dedup.length := by
    refine List.Perm.length_eq ((List.perm_ext_iff_of_nodup (nodup_directories hnodup)
      (List.nodup_dedup _)).mpr fun codes => ?_)
    rw [mem_directories_written hfiles hworktree, List.mem_dedup]
  have hgit : ((contents worktree).map Prod.fst).count [gitName] = 1 := by
    have hplace : ([gitName], Item.file (.regular gitMode 1 gitContent)) ∈ contents worktree :=
      (mem_contents_written hworktree).mpr ⟨List.cons_ne_nil gitName [], .inr (.inr ⟨rfl, rfl⟩)⟩
    exact List.count_eq_one_of_mem hnodup (List.mem_map.mpr ⟨_, hplace, rfl⟩)
  rw [(length_places h).1, (entries_perm_written hfiles hworktree).length_eq, hdirectories, hgit]

/-- When the written worktree has a manifest, which is then the one that was written. -/
theorem workspaceManifest_written_iff {found : BaselineSourceManifest casefold} :
    workspaceManifest sha256 recursionLimit worktree = .ok found
      ↔ found = manifest
        ∧ (manifest.entries.length + (expectedDirectories manifest.entries).dedup.length + 1 ≤ 8192)
        ∧ gitContent.length ≤ 4096 ∧ ∀ entry ∈ manifest.entries,
          (PurePosixPath.parse entry.path).tail.length ≤ recursionLimit + 1 := by
  have hperm := entries_perm_written hfiles hworktree
  rw [workspaceManifest_ok_iff, admitted_written_iff hfiles hworktree]
  constructor
  · rintro ⟨hadmitted, ⟨hvisited, -⟩, -, hfound⟩
    have hplaces := (admitted_written_iff hfiles hworktree).mpr hadmitted
    simp only [WalkState.after, length_contents_written hfiles hworktree hplaces] at hvisited
    rw [ofEntries_of_perm hperm] at hfound
    exact ⟨(Option.some.inj hfound).symm, by omega, hadmitted⟩
  · rintro ⟨rfl, hcount, hadmitted⟩
    have hplaces := (admitted_written_iff hfiles hworktree).mpr hadmitted
    have hdirectories {codes : CodePoints} : codes ∈ (contents worktree).filterMap directoryAt?
        ↔ codes ∈ expectedDirectories
          ((contents worktree).filterMap (entryAt? casefold sha256)) := by
      rw [mem_directories_written hfiles hworktree]
      unfold expectedDirectories
      simp only [List.mem_flatMap, hperm.mem_iff]
    refine ⟨hadmitted, ⟨?_, ?_, ?_⟩, ⟨fun _ => hdirectories.mp, fun _ => hdirectories.mpr⟩,
      ofEntries_of_perm hperm⟩
    · simp only [WalkState.after, length_contents_written hfiles hworktree hplaces]
      omega
    · simp only [WalkState.after, (length_places hplaces).2, (hperm.map _).sum_eq]
      have htotal := found.complete.2.2.2
      omega
    · simp only [WalkState.after, List.nil_append, hperm.length_eq]
      exact found.complete.1

end Written

/-! ### Agreement -/

section Agreement

variable {casefold : Casefold} {sha256 : Bytes → Sha256} {tree : CommittedTree}
  {limits : PathLimits} {recursionLimit gitMode : ℕ} {gitContent : Bytes} {head commit : String}
  {root : Worktree} {manifest : BaselineSourceManifest casefold}

variable (sha256 tree limits recursionLimit gitMode gitContent manifest) in
/-- The manifest has a digest, is written, and the written worktree has that fingerprint. -/
def FingerprintAgrees : Prop :=
  ∃ digest worktree, manifest.digest sha256 = some digest
    ∧ materializeBaselineManifest sha256 tree limits recursionLimit manifest
      (emptyWorktree gitMode gitContent) = .ok worktree
    ∧ baselineWorkspaceFingerprint casefold sha256 recursionLimit worktree = .ok digest

variable (limits recursionLimit gitContent manifest) in
/-- The bounds that the reader does not have: on the canonical bytes, on the names that are walked,
on the nesting of the directories, on the paths that are opened and on the `.git` file. -/
structure FitsWalk : Prop where
  bytes : manifestBytes manifest.entries ≤ maxReportBytes
  names : manifest.entries.length + (expectedDirectories manifest.entries).dedup.length + 1 ≤ 8192
  depth : ∀ entry ∈ manifest.entries,
    (PurePosixPath.parse entry.path).tail.length ≤ recursionLimit + 1
  paths : ∀ entry ∈ manifest.entries, limits.Takes entry.path
  git : gitContent.length ≤ 4096

/-- The manifest and the fingerprint of a committed tree agree when the manifest is within the
bounds of the walk, of the system and of canonical records. -/
theorem fingerprint_agrees_iff
    (h : baselineSourceManifest casefold sha256 tree head commit root = .ok manifest) :
    FingerprintAgrees sha256 tree limits recursionLimit gitMode gitContent manifest
      ↔ FitsWalk limits recursionLimit gitContent manifest := by
  constructor
  · rintro ⟨digest, worktree, hdigest, hwritten, hfingerprint⟩
    obtain ⟨hpaths, files, hfiles, hworktree⟩ := written_of_materialized hwritten
    obtain ⟨found, hfound, -⟩ := bind_ok.mp hfingerprint
    obtain ⟨rfl, hnames, hgit, hdepth⟩ := (workspaceManifest_written_iff hfiles hworktree).mp hfound
    exact ⟨BaselineSourceManifest.exists_digest_iff.mp ⟨digest, hdigest⟩, hnames, hdepth, hpaths,
      hgit⟩
  · rintro ⟨hbytes, hnames, hdepth, hpaths, hgit⟩
    obtain ⟨files, worktree, hfiles, hworktree⟩ := exists_written gitMode gitContent h
    obtain ⟨digest, hdigest⟩ := BaselineSourceManifest.exists_digest_iff.mpr hbytes
    have hfound := (workspaceManifest_written_iff hfiles hworktree).mpr
      ⟨rfl, hnames, hgit, hdepth⟩
    exact ⟨digest, worktree, hdigest, materialized_of_written hpaths hdepth hfiles hworktree,
      bind_ok.mpr ⟨manifest, hfound, demand_ok.mpr hdigest⟩⟩

end Agreement

/-! ### A tree with one script -/

def scriptRow : TreeRow where
  mode := ascii "100755"
  kind := ascii "blob"
  object := ascii "45b983be36b73c0788dc9cbcb76cbb80fc7bb057"
  path := ascii script.path
  words := by decide
  nul := by decide

def scriptTree : CommittedTree where
  rows := [scriptRow]
  blob object := if object = scriptRow.object then some script.content else none

def scriptCommit : String := "9f5c1de7a3b84e06d27c55a8b1f0e94b6d3a7c28"

theorem script_read :
    baselineSourceManifest lowerCasefold scriptDigests scriptTree scriptCommit scriptCommit
      scriptWorktree = .ok scriptManifest := by
  have hpath : utf8 scriptEntry.path = scriptRow.path :=
    utf8_ascii (by decide)
  have hrow : rowEntry? lowerCasefold scriptDigests scriptTree scriptRow = some scriptEntry :=
    rowEntry?_eq_some_iff.mpr ⟨by decide, ⟨rfl, by decide⟩, hpath, script.content,
      by decide, rfl, by decide⟩
  refine baselineSourceManifest_ok_iff.mpr ⟨⟨by decide, rfl⟩, by decide,
    ⟨[scriptEntry], .cons hrow .nil, ofEntries_of_complete _⟩, ?_⟩
  intro entry hentry
  obtain rfl := List.mem_singleton.mp hentry
  exact ⟨[scriptName], 0o755, script.content, by decide, by decide, rfl, rfl,
    by decide⟩

/-- The limits of Linux, below a root of eighty bytes. -/
def linuxPaths : PathLimits := ⟨80, 4096, 255⟩

theorem fingerprint_agrees_script :
    FingerprintAgrees scriptDigests scriptTree linuxPaths 1000 0o644 [103] scriptManifest :=
  (fingerprint_agrees_iff script_read).mpr
    ⟨by decide, by decide, by decide, by decide, by decide⟩

/-! ### A tree with many files

The empty files named by three of thirteen letters.  Each of them has 137 bytes in the manifest, and
the 2197 of them more than a record. -/

def letters : List Char := "abcdefghijklm".toList

/-- The words of so many letters. -/
def words : ℕ → List (List Char)
  | 0 => [[]]
  | count + 1 => letters.flatMap fun letter => (words count).map (letter :: ·)

theorem length_words (count : ℕ) : (words count).length = 13 ^ count := by
  have hletters : letters.length = 13 := by decide
  induction count with
  | zero => rfl
  | succ count ih =>
      simp only [words, List.length_flatMap, List.length_map, ih, List.map_const',
        List.sum_replicate_nat, hletters]
      rw [pow_succ, mul_comm]

theorem of_mem_words {count : ℕ} {word : List Char} (h : word ∈ words count) :
    word.length = count ∧ ∀ letter ∈ word, letter ∈ letters := by
  induction count generalizing word with
  | zero =>
      obtain rfl := List.mem_singleton.mp h
      exact ⟨rfl, List.forall_mem_nil _⟩
  | succ count ih =>
      obtain ⟨letter, hletter, hmem⟩ := List.mem_flatMap.mp h
      obtain ⟨rest, hrest, rfl⟩ := List.mem_map.mp hmem
      obtain ⟨hlength, hletters⟩ := ih hrest
      exact ⟨congrArg (· + 1) hlength, List.forall_mem_cons.mpr ⟨hletter, hletters⟩⟩

theorem pairwise_words (count : ℕ) : (words count).Pairwise (· < ·) := by
  have hletters : letters.Pairwise (· < ·) := by decide
  induction count with
  | zero => exact List.pairwise_singleton _ _
  | succ count ih =>
      refine List.pairwise_flatMap.mpr ⟨fun letter _ => ?_, hletters.imp ?_⟩
      · exact List.pairwise_map.mpr (ih.imp List.Lex.cons)
      · intro a b hab left hleft right hright
        obtain ⟨_, -, rfl⟩ := List.mem_map.mp hleft
        obtain ⟨_, -, rfl⟩ := List.mem_map.mp hright
        exact List.Lex.rel hab

/-- A letter that paths, JSON texts and bytes hold as it is. -/
structure PlainLetter (letter : Char) : Prop where
  slash : letter ≠ '/'
  quote : letter ≠ '"'
  backslash : letter ≠ '\\'
  lower : letter.toLower = letter
  printable : 32 < letter.toNat
  ascii : letter.toNat < 127

theorem plainLetter {letter : Char} (h : letter ∈ letters) : PlainLetter letter := by
  have hall : letters.all (fun letter => letter ≠ '/' ∧ letter ≠ '"' ∧ letter ≠ '\\'
      ∧ letter.toLower = letter ∧ 32 < letter.toNat ∧ letter.toNat < 127) = true := by decide
  obtain ⟨hslash, hquote, hbackslash, hlower, hprintable, hascii⟩ :=
    of_decide_eq_true (List.all_eq_true.mp hall letter h)
  exact ⟨hslash, hquote, hbackslash, hlower, hprintable, hascii⟩

abbrev Word := { word : List Char // word ∈ words 3 }

namespace Word

variable (word : Word)

def text : String := String.ofList word.1

theorem toList_text : word.text.toList = word.1 := String.toList_ofList

theorem length_text : word.text.toList.length = 3 := by
  rw [toList_text]
  exact (of_mem_words word.2).1

theorem plain {character : Char} (h : character ∈ word.text.toList) : PlainLetter character := by
  rw [toList_text] at h
  exact plainLetter ((of_mem_words word.2).2 character h)

theorem below {character : Char} (h : character ∈ word.text.toList) : character.toNat < 128 :=
  (word.plain h).ascii.trans (by decide)

theorem fold_text : lowerCasefold.fold word.text = word.text := by
  have hsame : word.text.toList.map Char.toLower = word.text.toList :=
    List.map_congr_left (fun character h => (word.plain h).lower) |>.trans (List.map_id _)
  unfold lowerCasefold
  dsimp only
  rw [hsame, String.ofList_toList]

theorem ne_of_length {text : String} (h : text.toList.length ≠ 3) : word.text ≠ text := by
  rintro rfl
  exact h word.length_text

theorem parse_text : PurePosixPath.parse word.text = ⟨"", [word.text]⟩ := by
  have hone : "/".intercalate [word.text] = word.text := by
    simp
  have hparse := parse_intercalate (List.cons_ne_nil word.text []) (List.forall_mem_singleton.mpr
    ⟨word.ne_of_length (by decide), word.ne_of_length (by decide),
      fun h => (word.plain h).slash rfl⟩)
  rwa [hone] at hparse

theorem utf8_text : utf8 word.text = ascii word.text :=
  utf8_ascii fun _ h => word.below h

theorem length_utf8 : (utf8 word.text).length = 3 := by
  rw [utf8_text, ascii, List.length_map, length_text]

theorem valid : IsSourceEntry lowerCasefold word.text 0 := by
  have hlength : word.text.length = 3 := word.length_text
  have hparts : PurePosixPath.parts ⟨"", [word.text]⟩ = [word.text] := if_pos rfl
  refine ⟨by omega, Nat.zero_le _, ?_⟩
  unfold IsSafePath
  dsimp only
  rw [parse_text, hparts]
  refine ⟨fun h => h rfl, List.cons_ne_nil _ _, ?_, ?_, ?_, ?_, ?_⟩
  · rw [PurePosixPath.str, if_neg (fun hboth => List.cons_ne_nil _ _ hboth.2)]
    simp
  · rw [List.mem_singleton]
    exact (word.ne_of_length (by decide)).symm
  · exact fun h => (word.plain h).backslash rfl
  · rw [List.forall_mem_singleton, fold_text]
    exact word.ne_of_length (by decide)
  · intro character h
    have hlow := (word.plain h).printable
    have hhigh := (word.plain h).ascii
    omega

end Word

theorem emptySha256_wellFormed :
    "e3b0c44298fc1c149afbf4c8996fb92427ae41e4649b934ca495991b7852b855".toList.length = 64
      ∧ "e3b0c44298fc1c149afbf4c8996fb92427ae41e4649b934ca495991b7852b855".toList.all isHexDigit
        = true := by
  simp [isHexDigit]

def emptySha256 : Sha256 where
  hex := "e3b0c44298fc1c149afbf4c8996fb92427ae41e4649b934ca495991b7852b855"
  wellFormed := emptySha256_wellFormed

def wordEntry (word : Word) : BaselineSourceEntry lowerCasefold where
  path := word.text
  mode := .regular
  size := 0
  contentSha256 := emptySha256
  valid := word.valid

def wordEntries : List (BaselineSourceEntry lowerCasefold) := (words 3).attach.map wordEntry

theorem length_wordEntries : wordEntries.length = 2197 := by
  rw [wordEntries, List.length_map, List.length_attach, length_words]
  rfl

theorem words_complete : IsCompleteTree wordEntries := by
  have hsorted : (words 3).attach.Pairwise fun a b => a.1 < b.1 :=
    List.pairwise_map.mp (by rw [List.attach_map_subtype_val]; exact pairwise_words 3)
  unfold IsCompleteTree
  dsimp only
  refine ⟨?_, ?_, ?_, ?_⟩
  · rw [length_wordEntries]
    decide
  · rw [wordEntries, List.map_map]
    refine List.pairwise_map.mpr (hsorted.imp fun {a b : Word} h => le_of_lt ?_)
    show a.text < b.text
    rw [String.lt_iff_toList_lt, a.toList_text, b.toList_text]
    exact h
  · rw [wordEntries, List.map_map, List.map_map]
    refine List.pairwise_map.mpr (hsorted.imp fun {a b : Word} h heq => ?_)
    have htext : a.text = b.text := a.fold_text.symm.trans (heq.trans b.fold_text)
    have hword : a.1 = b.1 := by rw [← a.toList_text, ← b.toList_text, htext]
    exact absurd hword (ne_of_lt h)
  · have hzero : ∀ size ∈ wordEntries.map BaselineSourceEntry.size, size = 0 := by
      intro size hmem
      obtain ⟨entry, hentry, rfl⟩ := List.mem_map.mp hmem
      obtain ⟨word, -, rfl⟩ := List.mem_map.mp hentry
      rfl
    rw [List.sum_eq_zero hzero]
    exact Nat.zero_le _

def wordManifest : BaselineSourceManifest lowerCasefold := ⟨wordEntries, words_complete⟩

theorem bytes_wordEntry (word : Word) : (wordEntry word).bytes = 137 := by
  have hescaped : JsonValue.escapedBytes word.text = 3 := by
    rw [JsonValue.escapedBytes_plain fun character h => ⟨(word.plain h).printable.le,
      (word.plain h).quote, (word.plain h).backslash⟩, bytesOf_ascii fun _ h => word.below h,
      word.length_text]
  have hdigits : (0 : ℕ).repr.length = 1 := by decide
  simp only [BaselineSourceEntry.bytes, wordEntry, hescaped, hdigits]

/-- The canonical bytes of the manifest are too many for a record. -/
theorem wordManifest_bytes : maxReportBytes < manifestBytes wordManifest.entries := by
  have hlength : wordManifest.entries.length = 2197 := length_wordEntries
  have hbytes : wordManifest.entries.map BaselineSourceEntry.bytes = List.replicate 2197 137 := by
    refine List.eq_replicate_iff.mpr ⟨by rw [List.length_map]; exact hlength, fun bytes hmem => ?_⟩
    obtain ⟨entry, hentry, rfl⟩ := List.mem_map.mp hmem
    obtain ⟨word, -, rfl⟩ := List.mem_map.mp hentry
    exact bytes_wordEntry word
  have hlimit : maxReportBytes = 262144 := rfl
  unfold manifestBytes
  rw [hbytes, hlength, List.sum_replicate_nat]
  omega

/-! #### The tree and its worktree -/

/-- The object of an empty file. -/
def emptyObject : Bytes := ascii "e69de29bb2d1d6434b8b29ae775ad8c2e48c5391"

def wordRow (word : Word) : TreeRow where
  mode := ascii "100644"
  kind := ascii "blob"
  object := emptyObject
  path := utf8 word.text
  words := by decide
  nul := by
    intro hmem
    rw [word.utf8_text] at hmem
    obtain ⟨character, hcharacter, hzero⟩ := List.mem_map.mp hmem
    have hlow := (word.plain hcharacter).printable
    have hhigh := (word.plain hcharacter).ascii
    have hcode := congrArg UInt8.toNat hzero
    rw [UInt8.toNat_ofNat', Nat.mod_eq_of_lt (by omega)] at hcode
    exact absurd hcode (by
      show character.toNat ≠ 0
      omega)

def wordTree : CommittedTree where
  rows := (words 3).attach.map wordRow
  blob object := if object = emptyObject then some [] else none

def wordName (word : Word) : EntryName where
  codes := codePoints word.text
  valid := by
    have hlength : (codePoints word.text).length = 3 := by
      rw [codePoints, List.length_map, word.length_text]
    have hcodes {code : ℕ} (hmem : code ∈ codePoints word.text) : code ≠ 47 ∧ code ≠ 0 := by
      obtain ⟨character, hcharacter, rfl⟩ := List.mem_map.mp hmem
      have hlow := (word.plain hcharacter).printable
      exact ⟨fun h => (word.plain hcharacter).slash (Char.toNat_inj.mp h), by omega⟩
    refine ⟨?_, fun h => (hcodes h).1 rfl, fun h => (hcodes h).2 rfl, ?_, ?_⟩ <;>
      exact fun h => absurd (congrArg List.length h) (by rw [hlength]; decide)

def wordWorktree : Worktree :=
  (words 3).attach.map fun word => (wordName word, .file (.regular 0o644 1 []))

theorem find?_wordWorktree (word : Word) :
    find? [wordName word] (.directory wordWorktree) = some (.file (.regular 0o644 1 [])) := by
  have hnodup : (wordWorktree.map Prod.fst).Nodup := by
    have hwords : (words 3).Nodup := (pairwise_words 3).imp ne_of_lt
    unfold wordWorktree
    rw [List.map_map]
    refine (List.nodup_attach.mpr hwords).map fun a b heq => ?_
    have htext := codePoints_injective (congrArg EntryName.codes heq)
    exact Subtype.ext (String.ofList_injective htext)
  have hnode : node? (wordName word) wordWorktree = some (.file (.regular 0o644 1 [])) :=
    (node?_eq_some_iff hnodup).mpr (List.mem_map.mpr ⟨word, List.mem_attach _ _, rfl⟩)
  rw [find?, hnode]
  rfl

theorem word_tracked (word : Word) :
    Tracked (fun _ => emptySha256) wordWorktree (wordEntry word) :=
  ⟨[wordName word], 0o644, [], List.append_nil _, find?_wordWorktree word, rfl, rfl, rfl⟩

theorem length_lsTree_words : (lsTree wordTree).length ≤ 1048576 := by
  have hrender (word : Word) : (wordRow word).render.length = 56 := by
    have hwords : ([32].intercalate [ascii "100644", ascii "blob",
        emptyObject]).length = 52 := by decide
    show (_ ++ 9 :: utf8 word.text).length = 56
    rw [List.length_append, List.length_cons, word.length_utf8]
    exact congrArg (· + 4) hwords
  have hlengths : (wordTree.rows.map TreeRow.render).map (fun line => (line ++ [0]).length)
      = List.replicate 2197 57 := by
    refine List.eq_replicate_iff.mpr ⟨?_, fun length hmem => ?_⟩
    · rw [List.length_map, List.length_map, wordTree, List.length_map, List.length_attach,
        length_words]
      rfl
    obtain ⟨line, hline, rfl⟩ := List.mem_map.mp hmem
    obtain ⟨row, hrow, rfl⟩ := List.mem_map.mp hline
    obtain ⟨word, -, rfl⟩ := List.mem_map.mp hrow
    rw [List.length_append, hrender]
    rfl
  unfold lsTree Lines.terminated
  rw [List.length_flatMap, hlengths, List.sum_replicate_nat]
  omega

theorem words_read :
    baselineSourceManifest lowerCasefold (fun _ => emptySha256) wordTree scriptCommit
      scriptCommit wordWorktree = .ok wordManifest := by
  have hmode : sourceMode? (ascii "100644") = some .regular := by decide
  have hobject : isCommitId (decodeAscii emptyObject) = true := by decide
  have hblob : wordTree.blob emptyObject = some [] := by
    show (if emptyObject = emptyObject then some [] else none) = some []
    exact if_pos rfl
  have hrow (word : Word) : rowEntry? lowerCasefold (fun _ => emptySha256) wordTree
      (wordRow word) = some (wordEntry word) :=
    rowEntry?_eq_some_iff.mpr ⟨hmode, ⟨rfl, hobject⟩, rfl, [], hblob, rfl, rfl⟩
  refine baselineSourceManifest_ok_iff.mpr ⟨⟨by decide, rfl⟩, length_lsTree_words,
    ⟨wordEntries, ?_, ofEntries_of_complete _⟩, ?_⟩
  · refine List.forall₂_map_left_iff.mpr (List.forall₂_map_right_iff.mpr ?_)
    exact List.forall₂_same.mpr fun word _ => hrow word
  · intro entry hentry
    obtain ⟨word, -, rfl⟩ := List.mem_map.mp hentry
    exact word_tracked word

theorem fingerprint_disagrees_words :
    baselineSourceManifest lowerCasefold (fun _ => emptySha256) wordTree scriptCommit
        scriptCommit wordWorktree = .ok wordManifest
      ∧ (∀ entry ∈ wordManifest.entries, linuxPaths.Takes entry.path)
      ∧ wordManifest.digest (fun _ => emptySha256) = none
      ∧ ¬ FingerprintAgrees (fun _ => emptySha256) wordTree linuxPaths 1000 0o644 [103]
        wordManifest := by
  have htaken : ∀ entry ∈ wordManifest.entries, linuxPaths.Takes entry.path := by
    intro entry hentry
    obtain ⟨word, -, rfl⟩ := List.mem_map.mp hentry
    have hparts : (PurePosixPath.parse word.text).parts = [word.text] := by
      rw [word.parse_text]
      rfl
    show _ < _ ∧ ∀ part ∈ (PurePosixPath.parse word.text).parts, _
    rw [hparts, List.forall_mem_singleton, wordEntry, word.length_utf8]
    decide
  have hnone : wordManifest.digest (fun _ => emptySha256) = none := by
    refine Option.eq_none_iff_forall_ne_some.mpr fun digest hdigest => ?_
    have hbytes := BaselineSourceManifest.exists_digest_iff.mp ⟨digest, hdigest⟩
    exact absurd wordManifest_bytes (not_lt.mpr hbytes)
  refine ⟨words_read, htaken, hnone, ?_⟩
  rintro ⟨digest, worktree, hdigest, -⟩
  rw [hnone] at hdigest
  cases hdigest

end AgentFleet
