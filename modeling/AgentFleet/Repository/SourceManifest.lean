import AgentFleet.Repository.Fingerprint

/-! # The manifest of a committed tree

`baseline_source_manifest` lists a commit with `git ls-tree`, takes the size and the digest of each
blob and compares the tracked files of the worktree with them.  Git answers from the commit, in
time, and nobody moves the head of the repository.

* `treeRows_eq` reads the rows of a tree back from what `git ls-tree` writes.
* `baselineSourceManifest_ok_iff` says when there is a manifest, and which one it is. -/

namespace AgentFleet

open Checks DirectoryTree

/-! ### Committed trees -/

/-- A row of a tree, with the words that Git writes for it. -/
structure TreeRow where
  mode : Bytes
  kind : Bytes
  object : Bytes
  path : Bytes
  words : ∀ word ∈ [mode, kind, object], 0 ∉ word ∧ 9 ∉ word ∧ 32 ∉ word
  nul : 0 ∉ path

/-- The tree of a commit, and the contents of blobs. -/
structure CommittedTree where
  rows : List TreeRow
  blob : Bytes → Option Bytes

/-- A row as `git ls-tree -z` writes it. -/
def TreeRow.render (row : TreeRow) : Bytes :=
  [32].intercalate [row.mode, row.kind, row.object] ++ 9 :: row.path

/-- `git ls-tree -r -z --full-tree`. -/
def lsTree (tree : CommittedTree) : Bytes := Lines.terminated 0 (tree.rows.map TreeRow.render)

/-! ### The reader -/

/-- `data.split(separator, 1)`, where there are two parts. -/
def splitOnce (separator : UInt8) (data : Bytes) : Option (Bytes × Bytes) :=
  match data.dropWhile (· ≠ separator) with
  | _ :: after => some (data.takeWhile (· ≠ separator), after)
  | [] => none

/-- `data.decode("ascii")`. -/
def decodeAscii (data : Bytes) : String :=
  String.ofList (data.map fun byte => Char.ofNat byte.toNat)

/-- The mode of a row. -/
def sourceMode? (mode : Bytes) : Option SourceMode :=
  if mode = ascii "100644" then some .regular
  else if mode = ascii "100755" then some .executable else none

/-- The name of a part of a path. -/
def entryName? (part : String) : Option EntryName :=
  let codes := codePoints part
  if valid : codes ≠ [] ∧ 47 ∉ codes ∧ 0 ∉ codes ∧ codes ≠ [46] ∧ codes ≠ [46, 46] then
    some ⟨codes, valid⟩
  else none

section Reader

variable {casefold : Casefold} (sha256 : Bytes → Sha256) (tree : CommittedTree)

/-- What is collected of the rows. -/
structure ReadState (casefold : Casefold) where
  entries : List (BaselineSourceEntry casefold) := []
  total : ℕ := 0

/-- The mode, the object and the path of a row. -/
def parseRow (row : Bytes) : Option (SourceMode × Bytes × Bytes) := do
  let (metadata, path) ← splitOnce 9 row
  match metadata.splitOn 32 with
  | [mode, kind, object] =>
      let mode ← sourceMode? mode
      if kind = ascii "blob" ∧ isCommitId (decodeAscii object) then some (mode, object, path)
      else none
  | _ => none

/-- One row. -/
def readRow (state : ReadState casefold) (row : Bytes) :
    Except FleetError (ReadState casefold) := do
  let (mode, object, path) ← demand baselineRepositoryError (parseRow row)
  let content ← demand baselineRepositoryError (tree.blob object)
  refuse (min 2000000 (32000000 - state.total) < content.length) baselineRepositoryError
  let text ← demand baselineRepositoryError (String.fromUTF8? ⟨path.toArray⟩)
  let entry ← demand baselineRepositoryError
    (BaselineSourceEntry.validate text mode content.length (sha256 content))
  return { entries := state.entries ++ [entry], total := state.total + content.length }

/-- A tracked file, in `_check_baseline_tracked_source`. -/
def checkTracked (root : Worktree) (entry : BaselineSourceEntry casefold) :
    Except FleetError Unit := do
  let parts := (entry.path.toList.splitOn '/').map String.ofList
  let names ← demand baselineRepositoryError (parts.mapM entryName?)
  match find? names (.directory root) with
  | some (.file (.regular mode links content)) =>
      refuse (links ≠ 1 ∨ content.length ≠ entry.size
        ∨ (if mode &&& 0o111 ≠ 0 then SourceMode.executable else .regular) ≠ entry.mode)
        baselineRepositoryError
      refuse (sha256 content ≠ entry.contentSha256) baselineRepositoryError
  | _ => .error baselineRepositoryError

variable (casefold) in
/-- `baseline_source_manifest`, of the head of the repository with a worktree. -/
def baselineSourceManifest (head commit : String) (root : Worktree) :
    Except FleetError (BaselineSourceManifest casefold) := do
  refuse (¬ isCommitId commit ∨ head ≠ commit) baselineRepositoryError
  let raw := lsTree tree
  refuse (1048576 < raw.length) baselineRepositoryError
  let rows := raw.splitOn 0
  refuse (rows.getLast? ≠ some [] ∨ 4097 < rows.length) baselineRepositoryError
  let state ← rows.dropLast.foldlM (readRow sha256 tree) ({} : ReadState casefold)
  let manifest ← demand baselineRepositoryError (BaselineSourceManifest.ofEntries state.entries)
  manifest.entries.forM (checkTracked sha256 root)
  return manifest

end Reader

/-! ### Rows -/

theorem splitOnce_append {separator : UInt8} {before after : Bytes} (h : separator ∉ before) :
    splitOnce separator (before ++ separator :: after) = some (before, after) := by
  have hbefore : ∀ byte ∈ before, decide (byte ≠ separator) = true := by
    intro byte hmem
    rw [decide_eq_true_eq]
    rintro rfl
    exact h hmem
  unfold splitOnce
  rw [List.dropWhile_append_of_pos hbefore, List.takeWhile_append_of_pos hbefore]
  simp

/-- The words of a row have no tabs and no zeros. -/
theorem TreeRow.not_mem_metadata (row : TreeRow) :
    9 ∉ [32].intercalate [row.mode, row.kind, row.object]
      ∧ 0 ∉ [32].intercalate [row.mode, row.kind, row.object] := by
  have hmode := row.words row.mode (by simp)
  have hkind := row.words row.kind (by simp)
  have hobject := row.words row.object (by simp)
  simp only [List.intercalate_cons_cons, List.intercalate_singleton, List.mem_append,
    List.mem_singleton]
  constructor
  · rintro ((h | h) | (h | h) | h)
    · exact hmode.2.1 h
    · exact absurd h (by decide)
    · exact hkind.2.1 h
    · exact absurd h (by decide)
    · exact hobject.2.1 h
  · rintro ((h | h) | (h | h) | h)
    · exact hmode.1 h
    · exact absurd h (by decide)
    · exact hkind.1 h
    · exact absurd h (by decide)
    · exact hobject.1 h

theorem parseRow_render (row : TreeRow) :
    parseRow row.render = (sourceMode? row.mode).bind fun mode =>
      if row.kind = ascii "blob" ∧ isCommitId (decodeAscii row.object) then
        some (mode, row.object, row.path)
      else none := by
  have hwords : ([32].intercalate [row.mode, row.kind, row.object]).splitOn 32
      = [row.mode, row.kind, row.object] :=
    List.splitOn_intercalate 32 (fun word hword => (row.words word hword).2.2)
      (List.cons_ne_nil _ _)
  unfold parseRow TreeRow.render
  rw [splitOnce_append row.not_mem_metadata.1]
  simp only [Option.bind_eq_bind, Option.bind_some, hwords]

/-- The rows are read back. -/
theorem splitOn_lsTree (tree : CommittedTree) :
    (lsTree tree).splitOn 0 = tree.rows.map TreeRow.render ++ [[]] := by
  refine Lines.splitOn_terminated fun line hline => ?_
  obtain ⟨row, -, rfl⟩ := List.mem_map.mp hline
  unfold TreeRow.render
  rw [List.mem_append, List.mem_cons]
  rintro (h | h | h)
  · exact row.not_mem_metadata.2 h
  · exact absurd h (by decide)
  · exact row.nul h

/-! ### What the reader accepts -/

section Spec

variable {casefold : Casefold} {sha256 : Bytes → Sha256} {tree : CommittedTree}

variable (casefold sha256 tree) in
/-- The entry of a row. -/
def rowEntry? (row : TreeRow) : Option (BaselineSourceEntry casefold) := do
  let mode ← sourceMode? row.mode
  if row.kind = ascii "blob" ∧ isCommitId (decodeAscii row.object) then
    let content ← tree.blob row.object
    let text ← String.fromUTF8? ⟨row.path.toArray⟩
    BaselineSourceEntry.validate text mode content.length (sha256 content)
  else none

theorem fromUTF8?_eq_some_iff {path : Bytes} {text : String} :
    String.fromUTF8? ⟨path.toArray⟩ = some text ↔ utf8 text = path := by
  unfold String.fromUTF8?
  constructor
  · intro h
    split_ifs at h with hvalid
    obtain rfl := Option.some.inj h
    rfl
  · rintro rfl
    have hbytes : (⟨(utf8 text).toArray⟩ : ByteArray) = text.toByteArray := rfl
    rw [hbytes, dif_pos text.isValidUTF8]
    rfl

theorem validate_eq_some_iff {path : String} {mode : SourceMode} {size : ℕ} {digest : Sha256}
    {entry : BaselineSourceEntry casefold} :
    BaselineSourceEntry.validate path mode size digest = some entry
      ↔ entry.path = path ∧ entry.mode = mode ∧ entry.size = size
        ∧ entry.contentSha256 = digest := by
  unfold BaselineSourceEntry.validate
  constructor
  · intro h
    split_ifs at h
    obtain rfl := Option.some.inj h
    exact ⟨rfl, rfl, rfl, rfl⟩
  · rintro ⟨rfl, rfl, rfl, rfl⟩
    rw [dif_pos entry.valid]

variable {row : TreeRow} {names : List EntryName} {value : String} {root : Worktree}

/-- What is known of the entry of a row. -/
theorem rowEntry?_eq_some_iff {entry : BaselineSourceEntry casefold} :
    rowEntry? casefold sha256 tree row = some entry
      ↔ sourceMode? row.mode = some entry.mode
        ∧ (row.kind = ascii "blob" ∧ isCommitId (decodeAscii row.object) = true)
        ∧ utf8 entry.path = row.path
        ∧ ∃ content, tree.blob row.object = some content ∧ entry.size = content.length
          ∧ entry.contentSha256 = sha256 content := by
  unfold rowEntry?
  simp only [Option.bind_eq_bind, Option.bind_eq_some_iff]
  constructor
  · rintro ⟨mode, hmode, h⟩
    split_ifs at h with hobject
    obtain ⟨content, hcontent, h⟩ := Option.bind_eq_some_iff.mp h
    obtain ⟨text, htext, h⟩ := Option.bind_eq_some_iff.mp h
    obtain ⟨rfl, rfl, hsize, hdigest⟩ := validate_eq_some_iff.mp h
    exact ⟨hmode, hobject, fromUTF8?_eq_some_iff.mp htext, content, hcontent, hsize, hdigest⟩
  · rintro ⟨hmode, hobject, hpath, content, hcontent, hsize, hdigest⟩
    refine ⟨_, hmode, ?_⟩
    rw [if_pos hobject]
    exact Option.bind_eq_some_iff.mpr ⟨content, hcontent, Option.bind_eq_some_iff.mpr
      ⟨entry.path, fromUTF8?_eq_some_iff.mpr hpath,
        validate_eq_some_iff.mpr ⟨rfl, rfl, hsize, hdigest⟩⟩⟩

/-- One row. -/
theorem readRow_ok_iff {state state' : ReadState casefold} (hstate : state.total ≤ 32000000) :
    readRow sha256 tree state row.render = .ok state'
      ↔ ∃ entry, rowEntry? casefold sha256 tree row = some entry
        ∧ state.total + entry.size ≤ 32000000
        ∧ state' = ⟨state.entries ++ [entry], state.total + entry.size⟩ := by
  unfold readRow
  rw [parseRow_render]
  simp only [bind_ok, demand_ok, Option.bind_eq_some_iff]
  constructor
  · rintro ⟨_, ⟨mode, hmode, h⟩, content, hcontent, hrest⟩
    split_ifs at h with hobject
    obtain rfl := Option.some.inj h
    obtain ⟨_, hsize, text, htext, entry, hentry, hreturn⟩ := hrest
    rw [refuse_ok, not_lt] at hsize
    obtain ⟨rfl, rfl, hlength, hdigest⟩ := validate_eq_some_iff.mp hentry
    refine ⟨entry, rowEntry?_eq_some_iff.mpr
      ⟨hmode, hobject, fromUTF8?_eq_some_iff.mp htext, content, hcontent, hlength, hdigest⟩, ?_, ?_⟩
    · omega
    · rw [hlength]
      exact (Except.ok.inj hreturn).symm
  · rintro ⟨entry, hentry, htotal, rfl⟩
    obtain ⟨hmode, hobject, hpath, content, hcontent, hsize, hdigest⟩ :=
      rowEntry?_eq_some_iff.mp hentry
    have hbound := entry.valid.2.1
    refine ⟨_, ⟨_, hmode, if_pos hobject⟩, content, hcontent, (), ?_, entry.path,
      fromUTF8?_eq_some_iff.mpr hpath, entry, validate_eq_some_iff.mpr ⟨rfl, rfl, hsize, hdigest⟩, ?_⟩
    · rw [refuse_ok]
      omega
    · rw [hsize]
      rfl

/-- The rows of a tree, one after the other. -/
theorem foldlM_readRow_ok_iff {rows : List TreeRow} {state state' : ReadState casefold}
    (hstate : state.total ≤ 32000000) :
    (rows.map TreeRow.render).foldlM (readRow sha256 tree) state = .ok state'
      ↔ ∃ entries, List.Forall₂ (fun row entry => rowEntry? casefold sha256 tree row = some entry)
          rows entries
        ∧ state.total + (entries.map BaselineSourceEntry.size).sum ≤ 32000000
        ∧ state' = ⟨state.entries ++ entries,
          state.total + (entries.map BaselineSourceEntry.size).sum⟩ := by
  induction rows generalizing state with
  | nil =>
      rw [List.map_nil, List.foldlM_nil]
      constructor
      · intro h
        obtain rfl := Except.ok.inj h
        exact ⟨[], .nil, by simpa using hstate, by simp⟩
      · rintro ⟨entries, hentries, -, rfl⟩
        cases hentries
        simp
  | cons row rows ih =>
      rw [List.map_cons, List.foldlM_cons, bind_ok]
      constructor
      · rintro ⟨mid, hfirst, hrest⟩
        obtain ⟨entry, hentry, htotal, rfl⟩ := (readRow_ok_iff hstate).mp hfirst
        obtain ⟨entries, hentries, hsum, rfl⟩ := (ih htotal).mp hrest
        refine ⟨entry :: entries, .cons hentry hentries, ?_, ?_⟩
        · rw [List.map_cons, List.sum_cons, ← Nat.add_assoc]
          exact hsum
        · simp [Nat.add_assoc]
      · rintro ⟨_, hentries, hsum, rfl⟩
        cases hentries with
        | cons hentry hrest =>
            rename_i entry entries
            rw [List.map_cons, List.sum_cons, ← Nat.add_assoc] at hsum
            have htotal : state.total + entry.size ≤ 32000000 := by omega
            refine ⟨_, (readRow_ok_iff hstate).mpr ⟨entry, hentry, htotal, rfl⟩,
              (ih htotal).mpr ⟨entries, hrest, hsum, ?_⟩⟩
            simp [Nat.add_assoc]

/-! ### The worktree of the repository -/

theorem entryName?_eq_some_iff {part : String} {name : EntryName} :
    entryName? part = some name ↔ name.codes = codePoints part := by
  unfold entryName?
  dsimp only
  constructor
  · intro h
    split_ifs at h
    obtain rfl := Option.some.inj h
    rfl
  · intro h
    have hvalid := name.valid
    rw [h] at hvalid
    rw [dif_pos hvalid, Option.some.injEq]
    exact EntryName.codes_injective h.symm

theorem entryNames_eq_some_iff {parts : List String} :
    parts.mapM entryName? = some names ↔ names.map EntryName.codes = parts.map codePoints := by
  induction parts generalizing names with
  | nil =>
      rw [List.mapM_nil, List.map_nil, List.map_eq_nil_iff]
      constructor
      · intro h
        exact (Option.some.inj h).symm
      · rintro rfl
        rfl
  | cons part parts ih =>
      simp only [List.mapM_cons, Option.bind_eq_bind, Option.bind_eq_some_iff,
        entryName?_eq_some_iff, ih, List.map_cons]
      constructor
      · rintro ⟨name, hname, rest, hrest, h⟩
        obtain rfl := Option.some.inj h
        rw [List.map_cons, hname, hrest]
      · intro h
        cases names with
        | nil => cases h
        | cons name rest =>
            obtain ⟨hname, hrest⟩ := List.cons.inj h
            exact ⟨name, hname, rest, hrest, rfl⟩

/-- A safe path is cut at its slashes into its parts. -/
theorem IsSafePath.split_eq (h : IsSafePath casefold value) :
    (value.toList.splitOn '/').map String.ofList = (PurePosixPath.parse value).tail := by
  have hcanonical := h.canonical
  have hdot : value ≠ "." := by
    rintro rfl
    exact h.2.1 rfl
  have hslash : ∀ part ∈ (PurePosixPath.parse value).tail.map String.toList, '/' ∉ part := by
    intro part hpart
    obtain ⟨text, htext, rfl⟩ := List.mem_map.mp hpart
    rw [← hcanonical.parts_eq] at htext
    exact (hcanonical.mem_parts htext).2
  have hsplit := List.splitOn_intercalate '/' hslash (mt List.map_eq_nil_iff.mp h.tail_ne_nil)
  have hlist := hcanonical.toList_eq hdot
  rw [hcanonical.parts_eq] at hlist
  rw [hlist, hsplit, List.map_map]
  exact (List.map_congr_left fun text _ => String.ofList_toList).trans (List.map_id _)

/-- A path as the names on the way to it, and as they are joined. -/
theorem joined_eq_iff (h : IsSafePath casefold value) :
    names.map EntryName.codes = (PurePosixPath.parse value).tail.map codePoints
      ↔ joined names = codePoints value := by
  constructor
  · intro hcodes
    rw [joined, hcodes, codePoints_safePath h]
  · exact codes_eq_parts h

variable (sha256) in
/-- A tracked file is as the manifest has it. -/
def Tracked (root : Worktree) (entry : BaselineSourceEntry casefold) : Prop :=
  ∃ names mode content, joined names = codePoints entry.path
    ∧ find? names (.directory root) = some (.file (.regular mode 1 content))
    ∧ content.length = entry.size
    ∧ (if mode &&& 0o111 ≠ 0 then SourceMode.executable else .regular) = entry.mode
    ∧ sha256 content = entry.contentSha256

theorem checkTracked_ok_iff {entry : BaselineSourceEntry casefold} :
    checkTracked sha256 root entry = .ok () ↔ Tracked sha256 root entry := by
  have hsafe := entry.valid.2.2
  have hnames {names : List EntryName} :
      ((entry.path.toList.splitOn '/').map String.ofList).mapM entryName? = some names
        ↔ joined names = codePoints entry.path := by
    rw [entryNames_eq_some_iff, hsafe.split_eq, joined_eq_iff hsafe]
  unfold checkTracked Tracked
  simp only [bind_ok, demand_ok, hnames]
  refine exists_congr fun names => ?_
  constructor
  · rintro ⟨hjoined, h⟩
    split at h
    · rename_i mode links content hfind
      rw [refuse_bind_ok, refuse_ok, not_or, not_or, not_not, not_not, not_not, not_not] at h
      obtain ⟨⟨rfl, hsize, hmode⟩, hdigest⟩ := h
      exact ⟨mode, content, hjoined, hfind, hsize, hmode, hdigest⟩
    · cases h
  · rintro ⟨mode, content, hjoined, hfind, hsize, hmode, hdigest⟩
    refine ⟨hjoined, ?_⟩
    rw [hfind]
    dsimp only
    rw [refuse_bind_ok, refuse_ok, not_or, not_or, not_not, not_not, not_not, not_not]
    exact ⟨⟨rfl, hsize, hmode⟩, hdigest⟩

/-- When there is a manifest, and which one it is. -/
theorem baselineSourceManifest_ok_iff {head commit : String}
    {manifest : BaselineSourceManifest casefold} :
    baselineSourceManifest casefold sha256 tree head commit root = .ok manifest
      ↔ (isCommitId commit = true ∧ head = commit) ∧ (lsTree tree).length ≤ 1048576
        ∧ (∃ entries, List.Forall₂
            (fun row entry => rowEntry? casefold sha256 tree row = some entry) tree.rows entries
          ∧ BaselineSourceManifest.ofEntries entries = some manifest)
        ∧ ∀ entry ∈ manifest.entries, Tracked sha256 root entry := by
  have hlast : (tree.rows.map TreeRow.render ++ [[]]).getLast? = some [] := by simp
  have hbound {entries : List (BaselineSourceEntry casefold)}
      (hentries : List.Forall₂ (fun row entry => rowEntry? casefold sha256 tree row = some entry)
        tree.rows entries)
      (hmanifest : BaselineSourceManifest.ofEntries entries = some manifest) :
      tree.rows.length ≤ 4096 ∧ (entries.map BaselineSourceEntry.size).sum ≤ 32000000 := by
    have hperm := ofEntries_eq_some hmanifest
    have hcomplete := manifest.complete
    rw [hentries.length_eq, ← hperm.length_eq, ← (hperm.map _).sum_eq]
    exact ⟨hcomplete.1, hcomplete.2.2.2⟩
  unfold baselineSourceManifest
  dsimp only
  rw [refuse_bind_ok, refuse_bind_ok, refuse_bind_ok, splitOn_lsTree, hlast, List.dropLast_concat,
    not_or, not_not, not_not, not_or, not_lt, not_lt]
  simp only [bind_ok, demand_ok, forM_ok, List.length_append, List.length_map,
    List.length_singleton]
  constructor
  · rintro ⟨hcommit, hraw, -, state, hstate, _, hmanifest, _, htracked, hreturn⟩
    obtain rfl := Except.ok.inj hreturn
    obtain ⟨entries, hentries, -, rfl⟩ := (foldlM_readRow_ok_iff (Nat.zero_le _)).mp hstate
    exact ⟨hcommit, hraw, ⟨entries, hentries, hmanifest⟩,
      fun entry hentry => checkTracked_ok_iff.mp (htracked entry hentry)⟩
  · rintro ⟨hcommit, hraw, ⟨entries, hentries, hmanifest⟩, htracked⟩
    obtain ⟨hrows, hsum⟩ := hbound hentries hmanifest
    refine ⟨hcommit, hraw, ⟨fun h => h rfl, by omega⟩, _,
      (foldlM_readRow_ok_iff (Nat.zero_le _)).mpr ⟨entries, hentries, ?_, rfl⟩, manifest, hmanifest,
      (), fun entry hentry => checkTracked_ok_iff.mpr (htracked entry hentry), rfl⟩
    rw [Nat.zero_add]
    exact hsum

end Spec

end AgentFleet
