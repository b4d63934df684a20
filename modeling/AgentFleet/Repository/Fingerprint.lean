import AgentFleet.Domain.BaselineSource
import AgentFleet.Lib.Checks
import AgentFleet.Lib.DirectoryTree
import AgentFleet.Lib.Related
import Mathlib.Data.List.Lex

/-! # The fingerprint of a baseline workspace

`baseline_workspace_fingerprint` walks a workspace and gives the digest of the manifest of what it
has found.  The top-level `.git` file is left out; links, special files, files with several names
and directories in which no file is are refused.  Nobody else writes, so a second look at an entry
sees what the first one saw.

* `walk_ok_iff` says when a walk ends and what it has then collected, as a function of the listing
  of the tree.
* `baselineWorkspaceFingerprint_sound` says that a workspace with the digest of a manifest has the
  files of the manifest, the directories on the way to them, and nothing else. -/

namespace AgentFleet

open Checks DirectoryTree Related

/-! ### Names -/

/-- A Python `str`.  The name of a file that is not UTF-8 has lone surrogates. -/
abbrev CodePoints := List ℕ

def codePoints (text : String) : CodePoints := text.toList.map Char.toNat

/-- The character with a number. -/
def character? (code : ℕ) : Option Char :=
  if (Char.ofNat code).toNat = code then some (Char.ofNat code) else none

/-- The text of a string without surrogates. -/
def asText? (codes : CodePoints) : Option String := (codes.mapM character?).map String.ofList

/-- A name that `os.listdir` gives. -/
structure EntryName where
  codes : CodePoints
  valid : codes ≠ [] ∧ 47 ∉ codes ∧ 0 ∉ codes ∧ codes ≠ [46] ∧ codes ≠ [46, 46]
deriving DecidableEq

theorem EntryName.codes_injective : Function.Injective EntryName.codes := by
  rintro ⟨codes, valid⟩ ⟨codes', valid'⟩ h
  obtain rfl : codes = codes' := h
  rfl

instance : LinearOrder EntryName := LinearOrder.lift' EntryName.codes EntryName.codes_injective

/-- `.git`. -/
def gitName : EntryName := ⟨[46, 103, 105, 116], by decide⟩

/-- A path below the workspace. -/
def joined (names : List EntryName) : CodePoints := [47].intercalate (names.map EntryName.codes)

/-! ### The walk -/

/-- What is in a workspace besides directories. -/
inductive WorktreeFile where
  | regular (mode links : ℕ) (content : Bytes)
  | symlink
  | special
deriving DecidableEq

/-- Directories of a workspace are walked in the order of their names. -/
abbrev Worktree := Entries EntryName WorktreeFile

/-- `_baseline_repository_error`. -/
def baselineRepositoryError : FleetError where
  code := .recoveryRequired
  message := "The exact baseline source or private worktree binding is unavailable."
  remediation := "Preserve the original claim and recover only its reviewed resource scope."

/-- How a walk fails. -/
inductive WalkError where
  | fleet (error : FleetError)
  /-- The calls are nested too deeply for the interpreter. -/
  | recursion

structure WalkState (casefold : Casefold) where
  entries : List (BaselineSourceEntry casefold) := []
  directories : List CodePoints := []
  total : ℕ := 0
  visited : ℕ := 0

section Walk

-- `walk` can be nested so deeply
variable {casefold : Casefold} (sha256 : Bytes → Sha256) (recursionLimit : ℕ)

def unavailable : WalkError := .fleet baselineRepositoryError

/-- `walk` at a regular file. -/
def visitFile (logical : CodePoints) (file : WorktreeFile) (state : WalkState casefold) :
    Except WalkError (WalkState casefold) :=
  match file with
  | .regular mode links content => do
      refuse (links ≠ 1 ∨ mode ∉ [0o644, 0o755]) unavailable
      refuse (2000000 < content.length ∨ 32000000 < state.total + content.length
        ∨ 4096 ≤ state.entries.length) unavailable
      let path ← demand unavailable (asText? logical)
      let entry ← demand unavailable (BaselineSourceEntry.validate path
        (if mode = 0o755 then .executable else .regular) content.length (sha256 content))
      return { state with
        entries := state.entries ++ [entry], total := state.total + content.length }
  | _ => .error unavailable

/-- `walk` at the top-level `.git`. -/
def visitGit (item : Item WorktreeFile) (state : WalkState casefold) :
    Except WalkError (WalkState casefold) :=
  match item with
  | .file (.regular _ links content) => do
      refuse (4096 < content.length ∨ links ≠ 1) unavailable
      return state
  | _ => .error unavailable

/-- `walk` at one name, before it goes on into a directory. -/
def visit (depth : ℕ) (above : CodePoints) (name : EntryName) (item : Item WorktreeFile)
    (state : WalkState casefold) : Except WalkError (WalkState casefold) := do
  let state := { state with visited := state.visited + 1 }
  refuse (8192 < state.visited) unavailable
  let logical := if above = [] then name.codes else above ++ 47 :: name.codes
  if above = [] ∧ name = gitName then visitGit item state
  else match item with
    | .directory => do
        refuse (recursionLimit ≤ depth) .recursion
        return { state with directories := state.directories ++ [logical] }
    | .file file => visitFile sha256 logical file state

mutual

/-- `walk`, for what is a directory. -/
def walk : Node EntryName WorktreeFile → ℕ → CodePoints → WalkState casefold →
    Except WalkError (WalkState casefold)
  | .directory entries, depth, above, state => do
      refuse (8192 < entries.length) unavailable
      walkNames entries depth above state
  | .file _, _, _, state => return state

/-- The loop over the names. -/
def walkNames : Worktree → ℕ → CodePoints → WalkState casefold →
    Except WalkError (WalkState casefold)
  | [], _, _, state => return state
  | (name, node) :: rest, depth, above, state => do
      let logical := if above = [] then name.codes else above ++ 47 :: name.codes
      let state ← visit sha256 recursionLimit depth above name node.item state
      let state ← walk node (depth + 1) logical state
      walkNames rest depth above state

end

/-- `expected_directories`. -/
def expectedDirectories (entries : List (BaselineSourceEntry casefold)) : List CodePoints :=
  entries.flatMap fun entry =>
    (((PurePosixPath.parse entry.path).parents.map PurePosixPath.str).filter (· ≠ ".")).map
      codePoints

/-- The manifest of what is in a workspace. -/
def workspaceManifest (root : Worktree) : Except WalkError (BaselineSourceManifest casefold) := do
  let state ← walk sha256 recursionLimit (.directory root) 0 [] ({} : WalkState casefold)
  let expected := expectedDirectories state.entries
  refuse (¬ (state.directories ⊆ expected ∧ expected ⊆ state.directories)) unavailable
  demand unavailable (BaselineSourceManifest.ofEntries state.entries)

variable (casefold) in
/-- `baseline_workspace_fingerprint`. -/
def baselineWorkspaceFingerprint (root : Worktree) : Except WalkError Sha256 := do
  let manifest : BaselineSourceManifest casefold ← workspaceManifest sha256 recursionLimit root
  demand unavailable (manifest.digest sha256)

end Walk

/-! ### Joined names -/

theorem joined_singleton (name : EntryName) : joined [name] = name.codes := by
  unfold joined
  rw [List.map_singleton, List.intercalate_singleton]

theorem joined_append {above more : List EntryName} (habove : above ≠ []) (hmore : more ≠ []) :
    joined (above ++ more) = joined above ++ 47 :: joined more := by
  unfold joined
  rw [List.map_append, Lines.intercalate_append]
  · simpa using habove
  · simpa using hmore

theorem slash_not_mem_codes {names : List EntryName} :
    ∀ codes ∈ names.map EntryName.codes, 47 ∉ codes := by
  intro codes hmem
  obtain ⟨name, -, rfl⟩ := List.mem_map.mp hmem
  exact name.valid.2.1

/-- The names are the parts of the path. -/
theorem splitOn_joined {names : List EntryName} (h : names ≠ []) :
    (joined names).splitOn 47 = names.map EntryName.codes :=
  List.splitOn_intercalate 47 slash_not_mem_codes (by simpa using h)

theorem joined_ne_nil {names : List EntryName} (h : names ≠ []) : joined names ≠ [] := by
  obtain ⟨first, rest, rfl⟩ := List.exists_cons_of_ne_nil h
  intro hnil
  have hsplit := splitOn_joined h
  rw [hnil, List.splitOn_nil, List.map_cons, List.cons.injEq] at hsplit
  exact first.valid.1 hsplit.1.symm

theorem joined_eq_nil_iff {names : List EntryName} : joined names = [] ↔ names = [] := by
  constructor
  · intro h
    by_contra hne
    exact joined_ne_nil hne h
  · rintro rfl
    rfl

theorem joined_injective : Function.Injective joined := by
  intro names names' h
  by_cases hnil : names = []
  · rw [hnil] at h ⊢
    exact (joined_eq_nil_iff.mp h.symm).symm
  · have hnil' : names' ≠ [] := fun h' => hnil (joined_eq_nil_iff.mp (h.trans (by rw [h']; rfl)))
    have hsplit := splitOn_joined hnil
    rw [h, splitOn_joined hnil'] at hsplit
    exact (List.map_injective_iff.mpr EntryName.codes_injective hsplit).symm

/-- The path of a name in a directory, as the walk writes it. -/
theorem logical_eq (above : List EntryName) (name : EntryName) :
    (if joined above = [] then name.codes else joined above ++ 47 :: name.codes)
      = joined (above ++ [name]) := by
  by_cases hnil : above = []
  · subst hnil
    rw [if_pos (joined_eq_nil_iff.mpr rfl), List.nil_append, joined_singleton]
  · rw [if_neg (joined_ne_nil hnil), joined_append hnil (List.cons_ne_nil name []),
      joined_singleton]

/-! ### What a walk collects -/

section Spec

variable {casefold : Casefold} {sha256 : Bytes → Sha256} {recursionLimit : ℕ}

/-- The bits of a mode. -/
def SourceMode.bits : SourceMode → ℕ
  | .regular => 0o644
  | .executable => 0o755

/-- A place in a workspace, with what is there. -/
abbrev Place := List EntryName × Item WorktreeFile

variable (casefold sha256) in
/-- The entry that is made for a place. -/
def entryAt? (place : Place) : Option (BaselineSourceEntry casefold) :=
  match place.2 with
  | .file (.regular mode _ content) =>
      if place.1 = [gitName] then none
      else (asText? (joined place.1)).bind fun path => BaselineSourceEntry.validate path
        (if mode = 0o755 then .executable else .regular) content.length (sha256 content)
  | _ => none

/-- The directory that is noted for a place. -/
def directoryAt? (place : Place) : Option CodePoints :=
  match place.2 with
  | .directory => some (joined place.1)
  | .file _ => none

/-- The bytes that are counted for a place. -/
def sizeAt (place : Place) : ℕ :=
  match place.2 with
  | .file (.regular _ _ content) => if place.1 = [gitName] then 0 else content.length
  | _ => 0

variable (casefold sha256 recursionLimit) in
/-- A place that the walk accepts, by what is there. -/
def Admitted (place : Place) : Prop :=
  match place.2 with
  | .directory => place.1 ≠ [gitName] ∧ place.1.length ≤ recursionLimit
  | .file (.regular mode links content) =>
      links = 1 ∧ if place.1 = [gitName] then content.length ≤ 4096
        else (mode = 0o644 ∨ mode = 0o755) ∧ content.length ≤ 2000000
          ∧ (entryAt? casefold sha256 place).isSome
  | .file _ => False

namespace WalkState

/-- The bounds over a whole walk. -/
def Within (state : WalkState casefold) : Prop :=
  state.visited ≤ 8192 ∧ state.total ≤ 32000000 ∧ state.entries.length ≤ 4096

/-- What is collected after some places. -/
def after (sha256 : Bytes → Sha256) (state : WalkState casefold) (places : List Place) :
    WalkState casefold where
  entries := state.entries ++ places.filterMap (entryAt? casefold sha256)
  directories := state.directories ++ places.filterMap directoryAt?
  total := state.total + (places.map sizeAt).sum
  visited := state.visited + places.length

theorem after_nil (state : WalkState casefold) : state.after sha256 [] = state := by
  simp [after]

theorem after_append (state : WalkState casefold) (left right : List Place) :
    state.after sha256 (left ++ right) = (state.after sha256 left).after sha256 right := by
  simp [after, Nat.add_assoc]

theorem Within.of_after {state : WalkState casefold} {places : List Place}
    (h : (state.after sha256 places).Within) : state.Within := by
  unfold Within after at h
  simp only [List.length_append] at h
  unfold Within
  omega

end WalkState

theorem isGit_iff {above : List EntryName} {name : EntryName} :
    joined above = [] ∧ name = gitName ↔ above ++ [name] = [gitName] := by
  rw [joined_eq_nil_iff]
  constructor
  · rintro ⟨rfl, rfl⟩
    rfl
  · intro h
    cases above with
    | nil => exact ⟨rfl, (List.cons.inj h).1⟩
    | cons => simp at h

/-- A regular file. -/
theorem visitFile_ok_iff {names : List EntryName} {mode links : ℕ} {content : Bytes}
    {state state' : WalkState casefold} (hgit : names ≠ [gitName]) :
    visitFile sha256 (joined names) (.regular mode links content) state = .ok state'
      ↔ links = 1 ∧ (mode = 0o644 ∨ mode = 0o755) ∧ content.length ≤ 2000000
        ∧ state.total + content.length ≤ 32000000 ∧ state.entries.length < 4096
        ∧ ∃ entry, entryAt? casefold sha256 (names, .file (.regular mode links content)) = some entry
          ∧ state' = { state with
              entries := state.entries ++ [entry], total := state.total + content.length } := by
  have hmodes : mode ∈ [0o644, 0o755] ↔ mode = 0o644 ∨ mode = 0o755 := by simp
  unfold visitFile
  dsimp only
  rw [refuse_bind_ok, refuse_bind_ok, not_or, not_not, not_not, hmodes, not_or, not_or, not_lt,
    not_lt, not_le]
  simp only [bind_ok, demand_ok, entryAt?, if_neg hgit, Option.bind_eq_some_iff]
  constructor
  · rintro ⟨⟨hlinks, hmode⟩, ⟨hsize, htotal, hcount⟩, path, hpath, entry, hentry, hstate⟩
    exact ⟨hlinks, hmode, hsize, htotal, hcount, entry, ⟨path, hpath, hentry⟩,
      (Except.ok.inj hstate).symm⟩
  · rintro ⟨hlinks, hmode, hsize, htotal, hcount, entry, ⟨path, hpath, hentry⟩, rfl⟩
    exact ⟨⟨hlinks, hmode⟩, ⟨hsize, htotal, hcount⟩, path, hpath, entry, hentry, rfl⟩

/-- One place. -/
theorem visit_ok_iff {above : List EntryName} {name : EntryName} {item : Item WorktreeFile}
    {state state' : WalkState casefold} (hstate : state.Within) :
    visit sha256 recursionLimit above.length (joined above) name item state = .ok state'
      ↔ Admitted casefold sha256 recursionLimit (above ++ [name], item) ∧ state'.Within
        ∧ state' = state.after sha256 [(above ++ [name], item)] := by
  obtain ⟨hvisited, htotal, hcount⟩ := hstate
  unfold visit
  dsimp only
  rw [refuse_bind_ok, logical_eq, not_lt]
  by_cases hgit : above ++ [name] = [gitName]
  · rw [if_pos (isGit_iff.mpr hgit)]
    match item with
    | .directory => simp [visitGit, Admitted, hgit]
    | .file .symlink => simp [visitGit, Admitted]
    | .file .special => simp [visitGit, Admitted]
    | .file (.regular mode links content) =>
        have hafter : state.after sha256 [(above ++ [name], .file (.regular mode links content))]
            = { state with visited := state.visited + 1 } := by
          simp [WalkState.after, entryAt?, directoryAt?, sizeAt, hgit]
        simp only [visitGit, Admitted, hgit, if_true]
        rw [refuse_bind_ok, ← hgit, hafter, not_or, not_lt, not_not]
        constructor
        · rintro ⟨hbound, ⟨hsize, hlinks⟩, hstate⟩
          obtain rfl := Except.ok.inj hstate
          exact ⟨⟨hlinks, hsize⟩, ⟨hbound, htotal, hcount⟩, rfl⟩
        · rintro ⟨⟨hlinks, hsize⟩, hwithin, rfl⟩
          exact ⟨hwithin.1, ⟨hsize, hlinks⟩, rfl⟩
  · rw [if_neg (fun h => hgit (isGit_iff.mp h))]
    match item with
    | .directory =>
        have hafter : state.after sha256 [(above ++ [name], .directory)]
            = { state with
                visited := state.visited + 1
                directories := state.directories ++ [joined (above ++ [name])] } := by
          simp [WalkState.after, entryAt?, directoryAt?, sizeAt]
        dsimp only
        rw [refuse_bind_ok, hafter, not_le]
        simp only [Admitted, List.length_append, List.length_singleton]
        constructor
        · rintro ⟨hbound, hdepth, hstate⟩
          obtain rfl := Except.ok.inj hstate
          exact ⟨⟨hgit, hdepth⟩, ⟨hbound, htotal, hcount⟩, rfl⟩
        · rintro ⟨⟨-, hdepth⟩, hwithin, rfl⟩
          exact ⟨hwithin.1, hdepth, rfl⟩
    | .file .symlink => simp [visitFile, Admitted]
    | .file .special => simp [visitFile, Admitted]
    | .file (.regular mode links content) =>
        dsimp only
        rw [visitFile_ok_iff hgit]
        simp only [Admitted, if_neg hgit, Option.isSome_iff_exists]
        have hafter {entry : BaselineSourceEntry casefold}
            (hentry : entryAt? casefold sha256
              (above ++ [name], .file (.regular mode links content)) = some entry) :
            state.after sha256 [(above ++ [name], .file (.regular mode links content))]
              = { state with
                  visited := state.visited + 1
                  entries := state.entries ++ [entry]
                  total := state.total + content.length } := by
          simp [WalkState.after, hentry, directoryAt?, sizeAt, hgit]
        constructor
        · rintro ⟨hbound, hlinks, hmode, hsize, htotal', hcount', entry, hentry, rfl⟩
          refine ⟨⟨hlinks, hmode, hsize, entry, hentry⟩, ⟨hbound, htotal', ?_⟩, ?_⟩
          · rw [List.length_append]
            exact hcount'
          · rw [hafter hentry]
        · rintro ⟨⟨hlinks, hmode, hsize, entry, hentry⟩, hwithin, rfl⟩
          rw [hafter hentry] at hwithin ⊢
          obtain ⟨hbound, htotal', hcount'⟩ := hwithin
          rw [List.length_append] at hcount'
          exact ⟨hbound, hlinks, hmode, hsize, htotal', hcount', entry, hentry, rfl⟩

variable (casefold sha256 recursionLimit) in
/-- How a walk over some places ends. -/
def Collects (places : List Place) (state state' : WalkState casefold) : Prop :=
  (∀ place ∈ places, Admitted casefold sha256 recursionLimit place) ∧ state'.Within
    ∧ state' = state.after sha256 places

theorem collects_append {left right : List Place} {state state' : WalkState casefold} :
    Collects casefold sha256 recursionLimit (left ++ right) state state'
      ↔ ∃ mid, Collects casefold sha256 recursionLimit left state mid
        ∧ Collects casefold sha256 recursionLimit right mid state' := by
  unfold Collects
  rw [List.forall_mem_append]
  constructor
  · rintro ⟨⟨hleft, hright⟩, hwithin, rfl⟩
    rw [WalkState.after_append] at hwithin ⊢
    exact ⟨_, ⟨hleft, hwithin.of_after, rfl⟩, hright, hwithin, rfl⟩
  · rintro ⟨mid, ⟨hleft, -, rfl⟩, hright, hwithin, rfl⟩
    exact ⟨⟨hleft, hright⟩, hwithin, (WalkState.after_append state left right).symm⟩

theorem collects_nil {state state' : WalkState casefold} (hstate : state.Within) :
    Collects casefold sha256 recursionLimit [] state state' ↔ state' = state := by
  unfold Collects
  rw [WalkState.after_nil]
  constructor
  · exact fun h => h.2.2
  · rintro rfl
    exact ⟨fun place hplace => absurd hplace List.not_mem_nil, hstate, rfl⟩

theorem visit_ok_iff_collects {above : List EntryName} {name : EntryName} {item : Item WorktreeFile}
    {state state' : WalkState casefold} (hstate : state.Within) :
    visit sha256 recursionLimit above.length (joined above) name item state = .ok state'
      ↔ Collects casefold sha256 recursionLimit [(above ++ [name], item)] state state' := by
  rw [visit_ok_iff hstate, Collects, List.forall_mem_singleton]

mutual

/-- A walk collects what is inside a node. -/
theorem walk_ok_iff {node : Node EntryName WorktreeFile} {names : List EntryName}
    {state state' : WalkState casefold} (hstate : state.Within) :
    walk sha256 recursionLimit node names.length (joined names) state = .ok state'
      ↔ Collects casefold sha256 recursionLimit (placed names (inside node)) state state' := by
  match node with
  | .file file =>
      rw [walk, inside]
      refine Iff.trans ?_ (collects_nil hstate).symm
      exact ⟨fun h => (Except.ok.inj h).symm, fun h => congrArg Except.ok h.symm⟩
  | .directory entries =>
      rw [walk, refuse_bind_ok, not_lt, walkNames_ok_iff hstate, inside]
      constructor
      · exact fun h => h.2
      · intro h
        refine ⟨?_, h⟩
        obtain ⟨-, ⟨hvisited, -⟩, rfl⟩ := h
        have hlength := length_le_contents entries
        simp only [WalkState.after, placed, List.length_map] at hvisited
        omega

/-- The loop collects everything in a directory. -/
theorem walkNames_ok_iff {entries : Worktree} {names : List EntryName}
    {state state' : WalkState casefold} (hstate : state.Within) :
    walkNames sha256 recursionLimit entries names.length (joined names) state = .ok state'
      ↔ Collects casefold sha256 recursionLimit (placed names (contents entries)) state state' := by
  match entries with
  | [] =>
      rw [walkNames, contents]
      refine Iff.trans ?_ (collects_nil hstate).symm
      exact ⟨fun h => (Except.ok.inj h).symm, fun h => congrArg Except.ok h.symm⟩
  | (name, node) :: rest =>
      have hlength : names.length + 1 = (names ++ [name]).length := by simp
      have hplaces : placed names (contents ((name, node) :: rest))
          = [(names ++ [name], node.item)]
            ++ (placed (names ++ [name]) (inside node) ++ placed names (contents rest)) := by
        rw [contents, placed_append, placed_placed, placed_below]
        rfl
      rw [walkNames, logical_eq, hlength, hplaces, collects_append, bind_ok]
      refine exists_congr fun first => ?_
      rw [visit_ok_iff_collects hstate]
      refine and_congr_right fun hfirst => ?_
      rw [bind_ok, collects_append]
      refine exists_congr fun second => ?_
      rw [walk_ok_iff hfirst.2.1]
      refine and_congr_right fun hsecond => ?_
      exact walkNames_ok_iff hsecond.2.1

end

/-! ### The manifest of a workspace -/

theorem ofEntries_eq_some {entries : List (BaselineSourceEntry casefold)}
    {manifest : BaselineSourceManifest casefold}
    (h : BaselineSourceManifest.ofEntries entries = some manifest) :
    manifest.entries.Perm entries := by
  unfold BaselineSourceManifest.ofEntries at h
  dsimp only at h
  split_ifs at h with hcomplete
  obtain rfl := Option.some.inj h
  exact List.mergeSort_perm _ _

/-- When a workspace has a manifest. -/
theorem workspaceManifest_ok_iff {root : Worktree} {manifest : BaselineSourceManifest casefold} :
    workspaceManifest sha256 recursionLimit root = .ok manifest
      ↔ (∀ place ∈ contents root, Admitted casefold sha256 recursionLimit place)
        ∧ (({} : WalkState casefold).after sha256 (contents root)).Within
        ∧ ((contents root).filterMap directoryAt?
              ⊆ expectedDirectories ((contents root).filterMap (entryAt? casefold sha256))
            ∧ expectedDirectories ((contents root).filterMap (entryAt? casefold sha256))
              ⊆ (contents root).filterMap directoryAt?)
        ∧ BaselineSourceManifest.ofEntries ((contents root).filterMap (entryAt? casefold sha256))
          = some manifest := by
  have hstart : ({} : WalkState casefold).Within := by
    refine ⟨?_, ?_, ?_⟩ <;> simp
  have hwalk {state : WalkState casefold} :
      walk sha256 recursionLimit (.directory root) 0 [] ({} : WalkState casefold) = .ok state
        ↔ Collects casefold sha256 recursionLimit (contents root) {} state := by
    have h : walk sha256 recursionLimit (.directory root) ([] : List EntryName).length (joined [])
        {} = .ok state ↔ Collects casefold sha256 recursionLimit
          (placed [] (inside (.directory root))) {} state := walk_ok_iff hstart
    rwa [placed_nil] at h
  unfold workspaceManifest
  dsimp only
  rw [bind_ok]
  constructor
  · rintro ⟨state, hstate, h⟩
    obtain ⟨hplaces, hwithin, rfl⟩ := hwalk.mp hstate
    rw [refuse_bind_ok, not_not, demand_ok] at h
    exact ⟨hplaces, hwithin, h⟩
  · rintro ⟨hplaces, hwithin, h⟩
    refine ⟨_, hwalk.mpr ⟨hplaces, hwithin, rfl⟩, ?_⟩
    rw [refuse_bind_ok, not_not, demand_ok]
    exact h

/-! ### Paths and names -/

theorem character?_eq_some_iff {code : ℕ} {character : Char} :
    character? code = some character ↔ character.toNat = code := by
  unfold character?
  constructor
  · intro h
    split_ifs at h with hcode
    rwa [← Option.some.inj h]
  · rintro rfl
    rw [Char.ofNat_toNat, if_pos rfl]

theorem asText?_eq_some_iff {codes : CodePoints} {text : String} :
    asText? codes = some text ↔ codePoints text = codes := by
  have hcharacters {characters : List Char} : codes.mapM character? = some characters
      ↔ characters.map Char.toNat = codes := by
    induction codes generalizing characters with
    | nil => simp [eq_comm]
    | cons code codes ih =>
        simp only [List.mapM_cons, Option.bind_eq_bind, Option.bind_eq_some_iff,
          character?_eq_some_iff, ih]
        constructor
        · rintro ⟨character, rfl, rest, rfl, h⟩
          obtain rfl := Option.some.inj h
          rfl
        · intro h
          cases characters with
          | nil => cases h
          | cons character rest =>
              obtain ⟨hfirst, hrest⟩ := List.cons.inj h
              exact ⟨character, hfirst, rest, hrest, rfl⟩
  unfold asText? codePoints
  rw [Option.map_eq_some_iff]
  constructor
  · rintro ⟨characters, h, rfl⟩
    rw [String.toList_ofList]
    exact hcharacters.mp h
  · intro h
    exact ⟨text.toList, hcharacters.mpr h, String.ofList_toList⟩

/-- What is known of a place for which an entry is made. -/
theorem entryAt?_eq_some {place : Place} {entry : BaselineSourceEntry casefold}
    (h : entryAt? casefold sha256 place = some entry) :
    ∃ mode links content, place = (place.1, .file (.regular mode links content))
      ∧ place.1 ≠ [gitName] ∧ joined place.1 = codePoints entry.path
      ∧ entry.mode = (if mode = 0o755 then .executable else .regular)
      ∧ entry.size = content.length ∧ entry.contentSha256 = sha256 content := by
  obtain ⟨names, item⟩ := place
  match item with
  | .directory => cases h
  | .file .symlink => cases h
  | .file .special => cases h
  | .file (.regular mode links content) =>
      unfold entryAt? at h
      dsimp only at h
      split_ifs at h with hgit
      all_goals
        obtain ⟨path, hpath, hentry⟩ := Option.bind_eq_some_iff.mp h
        unfold BaselineSourceEntry.validate at hentry
        split_ifs at hentry
        obtain rfl := Option.some.inj hentry
        refine ⟨mode, links, content, rfl, hgit, (asText?_eq_some_iff.mp hpath).symm, ?_, rfl, rfl⟩
        simp_all

theorem IsSafePath.canonical {value : String} (h : IsSafePath casefold value) :
    CanonicalPath value := by
  obtain ⟨hrelative, hparts, hstr, hparent, hbackslash, -, -⟩ := h
  refine ⟨?_, hbackslash, hrelative, hstr, hparent⟩
  rintro rfl
  exact hparts rfl

/-- A safe path is its parts with slashes between them. -/
theorem codePoints_safePath {value : String} (h : IsSafePath casefold value) :
    codePoints value
      = [47].intercalate ((PurePosixPath.parse value).tail.map codePoints) := by
  have hcanonical := h.canonical
  have hdot : value ≠ "." := by
    rintro rfl
    exact h.2.1 rfl
  have hslash : '/'.toNat = 47 := rfl
  unfold codePoints
  rw [hcanonical.toList_eq hdot, Lines.map_intercalate, List.map_map, hcanonical.parts_eq, hslash]
  rfl

theorem IsSafePath.tail_ne_nil {value : String} (h : IsSafePath casefold value) :
    (PurePosixPath.parse value).tail ≠ [] := by
  rw [← h.canonical.parts_eq]
  exact h.2.1

/-- The parts of a safe path are names. -/
theorem IsSafePath.mem_tail {value part : String} (h : IsSafePath casefold value)
    (hpart : part ∈ (PurePosixPath.parse value).tail) :
    part ≠ "." ∧ 47 ∉ codePoints part := by
  have hmem := hpart
  rw [PurePosixPath.parse, List.mem_filter, decide_eq_true_eq] at hmem
  refine ⟨hmem.2.2, fun hslash => ?_⟩
  rw [← h.canonical.parts_eq] at hpart
  obtain ⟨character, hcharacter, hcode⟩ := List.mem_map.mp hslash
  have heq : character = '/' := by
    rw [← Char.ofNat_toNat character, hcode]
  exact (h.canonical.mem_parts hpart).2 (heq ▸ hcharacter)

theorem IsSafePath.slash_not_mem {value : String} (h : IsSafePath casefold value) :
    ∀ codes ∈ (PurePosixPath.parse value).tail.map codePoints, 47 ∉ codes := by
  intro codes hcodes
  obtain ⟨part, hpart, rfl⟩ := List.mem_map.mp hcodes
  exact (h.mem_tail hpart).2

/-- The names on the way to an entry are the parts of its path. -/
theorem codes_eq_parts {names : List EntryName} {value : String} (h : IsSafePath casefold value)
    (hjoined : joined names = codePoints value) :
    names.map EntryName.codes = (PurePosixPath.parse value).tail.map codePoints := by
  have hparts : (PurePosixPath.parse value).tail.map codePoints ≠ [] := by
    simpa using h.tail_ne_nil
  have hsplit := List.splitOn_intercalate 47 h.slash_not_mem hparts
  rw [← codePoints_safePath h, ← hjoined] at hsplit
  have hnames : names ≠ [] := by
    rintro rfl
    have hvalue : codePoints value = [] := hjoined.symm
    unfold codePoints at hvalue
    rw [List.map_eq_nil_iff] at hvalue
    exact h.canonical.nonempty (String.toList_eq_nil_iff.mp hvalue)
  rw [← hsplit, splitOn_joined hnames]

theorem codePoints_injective : Function.Injective codePoints := by
  intro a b h
  have hcodes : asText? (codePoints a) = some b := asText?_eq_some_iff.mpr h.symm
  rw [asText?_eq_some_iff.mpr rfl] at hcodes
  exact Option.some.inj hcodes

/-- The text of the first parts of a safe path. -/
theorem codePoints_take {value : String} (h : IsSafePath casefold value) {parts : List String}
    (hparts : parts ≠ []) (htail : parts ⊆ (PurePosixPath.parse value).tail) :
    codePoints (PurePosixPath.str { PurePosixPath.parse value with tail := parts })
        = [47].intercalate (parts.map codePoints)
      ∧ PurePosixPath.str { PurePosixPath.parse value with tail := parts } ≠ "." := by
  have hslash : '/'.toNat = 47 := rfl
  have hstr : PurePosixPath.str { PurePosixPath.parse value with tail := parts }
      = "/".intercalate parts := by
    rw [PurePosixPath.str, if_neg (fun hboth => hparts hboth.2), h.canonical.root_eq,
      String.empty_append]
  have hcodes : codePoints ("/".intercalate parts) = [47].intercalate (parts.map codePoints) := by
    unfold codePoints
    have hlist : "/".toList = ['/'] := rfl
    rw [String.toList_intercalate, hlist, Lines.map_intercalate, List.map_map, hslash]
    rfl
  rw [hstr]
  refine ⟨hcodes, fun hdot => ?_⟩
  have hnone : ∀ codes ∈ parts.map codePoints, 47 ∉ codes := by
    intro codes hmem
    obtain ⟨part, hpart, rfl⟩ := List.mem_map.mp hmem
    exact (h.mem_tail (htail hpart)).2
  have hsplit := List.splitOn_intercalate 47 hnone (by simpa using hparts)
  rw [← hcodes, hdot] at hsplit
  have hpart : codePoints "." ∈ parts.map codePoints := by
    rw [← hsplit]
    exact List.mem_singleton.mpr rfl
  obtain ⟨part, hmem, heq⟩ := List.mem_map.mp hpart
  exact (h.mem_tail (htail hmem)).1 (codePoints_injective heq)

/-- The directories that a manifest needs are those above its files. -/
theorem mem_expectedDirectories {entries : List (BaselineSourceEntry casefold)}
    {codes : CodePoints} :
    codes ∈ expectedDirectories entries
      ↔ ∃ entry ∈ entries, ∃ count,
        (0 < count ∧ count < (PurePosixPath.parse entry.path).tail.length)
          ∧ codes = [47].intercalate
            (((PurePosixPath.parse entry.path).tail.take count).map codePoints) := by
  unfold expectedDirectories PurePosixPath.parents
  simp only [List.mem_flatMap, List.mem_map, List.mem_filter, List.mem_range, decide_eq_true_eq]
  refine exists_congr fun entry => and_congr_right fun _ => ?_
  have hsafe := entry.valid.2.2
  have htake {count : ℕ} (hcount : 0 < count) :
      (PurePosixPath.parse entry.path).tail.take count ≠ [] := by
    simpa [Nat.pos_iff_ne_zero.mp hcount] using hsafe.tail_ne_nil
  constructor
  · rintro ⟨text, ⟨⟨_, ⟨count, hcount, rfl⟩, rfl⟩, hdot⟩, rfl⟩
    have hpos : 0 < count := by
      by_contra hzero
      obtain rfl : count = 0 := by omega
      apply hdot
      exact if_pos ⟨hsafe.canonical.root_eq, rfl⟩
    exact ⟨count, ⟨hpos, hcount⟩, (codePoints_take hsafe (htake hpos) (List.take_subset _ _)).1⟩
  · rintro ⟨count, ⟨hpos, hcount⟩, rfl⟩
    obtain ⟨hcodes, hdot⟩ := codePoints_take hsafe (htake hpos) (List.take_subset count _)
    exact ⟨_, ⟨⟨_, ⟨count, hcount, rfl⟩, rfl⟩, hdot⟩, hcodes⟩

/-- The directories above the files, by the names on the way to them. -/
theorem mem_expectedDirectories_iff {entries : List (BaselineSourceEntry casefold)}
    {codes : CodePoints}
    (hnamed : ∀ entry ∈ entries, ∃ path, joined path = codePoints entry.path) :
    codes ∈ expectedDirectories entries
      ↔ ∃ names, joined names = codes ∧ names ≠ [] ∧ ∃ entry ∈ entries, ∃ more, more ≠ []
        ∧ joined (names ++ more) = codePoints entry.path := by
  rw [mem_expectedDirectories]
  constructor
  · rintro ⟨entry, hentry, count, ⟨hpos, hcount⟩, hjoined⟩
    obtain ⟨path, hpath⟩ := hnamed entry hentry
    have hcodes := codes_eq_parts entry.valid.2.2 hpath
    rw [List.map_take, ← hcodes, ← List.map_take] at hjoined
    have hlength : (PurePosixPath.parse entry.path).tail.length = path.length := by
      simpa using congrArg List.length hcodes.symm
    rw [hlength] at hcount
    refine ⟨path.take count, hjoined.symm, ?_, entry, hentry, path.drop count, ?_, ?_⟩
    · rw [Ne, List.take_eq_nil_iff]
      rintro (rfl | rfl)
      · exact lt_irrefl 0 hpos
      · exact absurd hcount (Nat.not_lt_zero count)
    · rw [Ne, List.drop_eq_nil_iff]
      omega
    · rwa [List.take_append_drop]
  · rintro ⟨names, rfl, hnames, entry, hentry, more, hmore, hjoined⟩
    have hcodes := codes_eq_parts entry.valid.2.2 hjoined
    refine ⟨entry, hentry, names.length, ⟨List.length_pos_of_ne_nil hnames, ?_⟩, ?_⟩
    · have hlength := congrArg List.length hcodes
      have hpos := List.length_pos_of_ne_nil hmore
      simp only [List.length_map, List.length_append] at hlength
      omega
    · rw [List.map_take, ← hcodes, List.map_append, ← List.length_map (f := EntryName.codes),
        List.take_left]
      rfl

/-! ### Checkouts -/

/-- A committed file. -/
structure SourceFile where
  path : String
  mode : SourceMode
  content : Bytes

variable (sha256) in
/-- The entry that is made for a committed file. -/
structure Describes (entry : BaselineSourceEntry casefold) (file : SourceFile) : Prop where
  path_eq : entry.path = file.path
  mode_eq : entry.mode = file.mode
  size_eq : entry.size = file.content.length
  digest_eq : entry.contentSha256 = sha256 file.content

/-- Apart from a regular `.git`, a workspace has some files, the directories above them and nothing
else. -/
structure IsCheckoutOf (files : List SourceFile) (root : Worktree) : Prop where
  git : ∀ item, ([gitName], item) ∈ contents root →
    ∃ mode content, item = .file (.regular mode 1 content)
  file_of : ∀ names file, (names, .file file) ∈ contents root → names ≠ [gitName] →
    ∃ source ∈ files, joined names = codePoints source.path
      ∧ file = .regular source.mode.bits 1 source.content
  directory_of : ∀ names, (names, .directory) ∈ contents root →
    ∃ source ∈ files, ∃ more, more ≠ [] ∧ joined (names ++ more) = codePoints source.path
  has_file : ∀ source ∈ files, ∃ names, joined names = codePoints source.path
    ∧ names ≠ [gitName]
    ∧ (names, .file (.regular source.mode.bits 1 source.content)) ∈ contents root
  has_directory : ∀ source ∈ files, ∀ names more, names ≠ [] → more ≠ [] →
    joined (names ++ more) = codePoints source.path → (names, .directory) ∈ contents root

variable (sha256 recursionLimit) in
/-- The bytes whose digests are compared: of the files on both sides and of both manifests. -/
def hashedBytes (manifest : BaselineSourceManifest casefold) (files : List SourceFile)
    (root : Worktree) : Set Bytes :=
  { raw | (∃ names mode links, names ≠ [gitName]
      ∧ (names, .file (.regular mode links raw)) ∈ contents root)
    ∨ (∃ file ∈ files, raw = file.content) ∨ manifest.canonicalBytes = some raw
    ∨ ∃ found : BaselineSourceManifest casefold,
      workspaceManifest sha256 recursionLimit root = .ok found ∧ found.canonicalBytes = some raw }

/-- A place whose entry describes a committed file has that file. -/
theorem place_eq {place : Place} {entry : BaselineSourceEntry casefold} {file : SourceFile}
    (hentry : entryAt? casefold sha256 place = some entry) (hfile : Describes sha256 entry file)
    (hplace : Admitted casefold sha256 recursionLimit place)
    (hcontent : ∀ mode links content, place = (place.1, .file (.regular mode links content)) →
      sha256 content = sha256 file.content → content = file.content) :
    place = (place.1, .file (.regular file.mode.bits 1 file.content)) := by
  obtain ⟨mode, links, content, hitem, hgit, hpath, hmode, hsize, hdigest⟩ := entryAt?_eq_some hentry
  have heq : content = file.content :=
    hcontent mode links content hitem (hdigest.symm.trans hfile.digest_eq)
  rw [hitem] at hplace ⊢
  simp only [Admitted, if_neg hgit] at hplace
  obtain ⟨rfl, hbits, -⟩ := hplace
  have hmodes : mode = file.mode.bits := by
    rw [← hfile.mode_eq, hmode]
    rcases hbits with rfl | rfl <;> rfl
  rw [hmodes, heq]

variable {manifest : BaselineSourceManifest casefold} {files : List SourceFile} {root : Worktree}

/-- A workspace whose manifest describes some files is a checkout of them. -/
theorem isCheckoutOf_of_workspaceManifest {found : BaselineSourceManifest casefold}
    (hfiles : List.Forall₂ (Describes sha256) found.entries files)
    (hcontent : ∀ names mode links content file, names ≠ [gitName] →
      (names, .file (.regular mode links content)) ∈ contents root → file ∈ files →
      sha256 content = sha256 file.content → content = file.content)
    (h : workspaceManifest sha256 recursionLimit root = .ok found) : IsCheckoutOf files root := by
  obtain ⟨hplaces, -, ⟨hdirectories, -⟩, hfound⟩ := workspaceManifest_ok_iff.mp h
  have hmem (entry : BaselineSourceEntry casefold) : entry ∈ found.entries
      ↔ ∃ place ∈ contents root, entryAt? casefold sha256 place = some entry := by
    rw [(ofEntries_eq_some hfound).mem_iff, List.mem_filterMap]
  have hplaceEq {place : Place} {entry : BaselineSourceEntry casefold} {file : SourceFile}
      (hplace : place ∈ contents root) (hentry : entryAt? casefold sha256 place = some entry)
      (hfile : file ∈ files) (hdescribes : Describes sha256 entry file) :
      place = (place.1, .file (.regular file.mode.bits 1 file.content)) := by
    obtain ⟨-, -, -, -, hgit, -⟩ := entryAt?_eq_some hentry
    refine place_eq hentry hdescribes (hplaces place hplace) fun mode links content hitem => ?_
    exact hcontent place.1 mode links content file hgit (hitem ▸ hplace) hfile
  have hhas (file : SourceFile) (hfile : file ∈ files) : ∃ names,
      joined names = codePoints file.path ∧ names ≠ [gitName]
        ∧ (names, .file (.regular file.mode.bits 1 file.content)) ∈ contents root := by
    obtain ⟨entry, hentry, hdescribes⟩ := exists_of_forall₂ hfiles.flip hfile
    obtain ⟨place, hplace, hat⟩ := (hmem entry).mp hentry
    obtain ⟨-, -, -, -, hgit, hpath, -⟩ := entryAt?_eq_some hat
    refine ⟨place.1, ?_, hgit, ?_⟩
    · rw [hpath, hdescribes.path_eq]
    · rw [← hplaceEq hplace hat hfile hdescribes]
      exact hplace
  refine ⟨?_, ?_, ?_, hhas, ?_⟩
  · intro item hitem
    have hadmitted := hplaces _ hitem
    match item with
    | .directory => exact absurd rfl hadmitted.1
    | .file .symlink => exact hadmitted.elim
    | .file .special => exact hadmitted.elim
    | .file (.regular mode links content) =>
        obtain ⟨rfl, -⟩ := hadmitted
        exact ⟨mode, content, rfl⟩
  · intro names file hitem hgit
    have hadmitted := hplaces _ hitem
    match file with
    | .symlink => exact hadmitted.elim
    | .special => exact hadmitted.elim
    | .regular mode links content =>
        simp only [Admitted, if_neg hgit, Option.isSome_iff_exists] at hadmitted
        obtain ⟨-, -, -, entry, hat⟩ := hadmitted
        obtain ⟨source, hsource, hdescribes⟩ :=
          exists_of_forall₂ hfiles ((hmem entry).mpr ⟨_, hitem, hat⟩)
        have hplace := hplaceEq hitem hat hsource hdescribes
        obtain ⟨-, -, -, -, -, hpath, -⟩ := entryAt?_eq_some hat
        refine ⟨source, hsource, ?_, ?_⟩
        · rw [← hdescribes.path_eq]
          exact hpath
        · rw [Prod.mk.injEq, Item.file.injEq] at hplace
          exact hplace.2
  · intro names hitem
    have hnamed : ∀ entry ∈ (contents root).filterMap (entryAt? casefold sha256),
        ∃ path, joined path = codePoints entry.path := by
      intro entry hentry
      obtain ⟨place, -, hat⟩ := List.mem_filterMap.mp hentry
      obtain ⟨-, -, -, -, -, hpath, -⟩ := entryAt?_eq_some hat
      exact ⟨place.1, hpath⟩
    have hexpected := hdirectories (List.mem_filterMap.mpr ⟨_, hitem, rfl⟩)
    obtain ⟨names', hnames', -, entry, hentry, more, hmore, hjoined⟩ :=
      (mem_expectedDirectories_iff hnamed).mp hexpected
    obtain rfl : names' = names := joined_injective hnames'
    obtain ⟨source, hsource, hdescribes⟩ :=
      exists_of_forall₂ hfiles ((ofEntries_eq_some hfound).mem_iff.mpr hentry)
    exact ⟨source, hsource, more, hmore, by rw [hjoined, hdescribes.path_eq]⟩
  · intro source hsource names more hnames hmore hjoined
    obtain ⟨path, hpath, -, hplace⟩ := hhas source hsource
    obtain rfl : path = names ++ more := joined_injective (hpath.trans hjoined.symm)
    obtain ⟨name, more, rfl⟩ := List.exists_cons_of_ne_nil hmore
    exact directory_mem_contents hplace hnames

/-- A workspace with the digest of the manifest of some files is a checkout of them, unless two
of the hashed texts collide. -/
theorem baselineWorkspaceFingerprint_sound {digest : Sha256}
    (hfiles : List.Forall₂ (Describes sha256) manifest.entries files)
    (hcollision : Set.InjOn sha256 (hashedBytes sha256 recursionLimit manifest files root))
    (hdigest : manifest.digest sha256 = some digest)
    (h : baselineWorkspaceFingerprint casefold sha256 recursionLimit root = .ok digest) :
    IsCheckoutOf files root := by
  unfold baselineWorkspaceFingerprint at h
  obtain ⟨found, hfound, h⟩ := bind_ok.mp h
  rw [demand_ok] at h
  obtain ⟨raw, hraw, hleft⟩ := Option.map_eq_some_iff.mp hdigest
  obtain ⟨raw', hraw', hright⟩ := Option.map_eq_some_iff.mp h
  have heq : raw = raw' := hcollision (.inr (.inr (.inl hraw)))
    (.inr (.inr (.inr ⟨found, hfound, hraw'⟩))) (hleft.trans hright.symm)
  have hentries : manifest.entries = found.entries :=
    BaselineSourceManifest.entries_eq_of_canonicalBytes hraw (heq ▸ hraw')
  rw [hentries] at hfiles
  refine isCheckoutOf_of_workspaceManifest hfiles ?_ hfound
  intro names mode links content file hgit hplace hfile hsame
  exact hcollision (.inl ⟨names, mode, links, hgit, hplace⟩) (.inr (.inl ⟨file, hfile, rfl⟩)) hsame

end Spec

/-! ### A workspace with one script -/

def script : SourceFile := ⟨"run.sh", .executable, [104, 105, 10]⟩

def scriptSha256 : Sha256 where
  hex := "98ea6e4f216f2fb4b69fff9b3a44842c38686ca685f3f55dc48c5d3fb1107be4"
  wellFormed := by decide

def scriptManifestSha256 : Sha256 where
  hex := "355c49a950432a15452ec89fca84e12a80f924af805087004c8c7b74e644fc12"
  wellFormed := by decide

/-- The digests of the script and of its manifest. -/
def scriptDigests (raw : Bytes) : Sha256 :=
  if raw = script.content then scriptSha256 else scriptManifestSha256

def scriptEntry : BaselineSourceEntry lowerCasefold where
  path := script.path
  mode := script.mode
  size := 3
  contentSha256 := scriptSha256
  valid := by decide

def scriptManifest : BaselineSourceManifest lowerCasefold := ⟨[scriptEntry], by decide⟩

def scriptName : EntryName := ⟨codePoints "run.sh", by decide⟩

def scriptWorktree : Worktree :=
  [(gitName, .file (.regular 0o644 1 [103])),
    (scriptName, .file (.regular 0o755 1 script.content))]

theorem scriptContents : contents scriptWorktree
    = [([gitName], .file (.regular 0o644 1 [103])),
      ([scriptName], .file (.regular 0o755 1 script.content))] := rfl

theorem scriptWorktree_manifest :
    workspaceManifest scriptDigests 1000 scriptWorktree = .ok scriptManifest := by
  have hname : [scriptName] ≠ [gitName] := by decide
  have hentries : (contents scriptWorktree).filterMap (entryAt? lowerCasefold scriptDigests)
      = [scriptEntry] := by decide
  have hentry : entryAt? lowerCasefold scriptDigests
      ([scriptName], .file (.regular 0o755 1 script.content)) = some scriptEntry := by
    decide
  have hnone : expectedDirectories [scriptEntry] = [] := by decide
  rw [workspaceManifest_ok_iff, hentries, hnone]
  refine ⟨?_, ⟨?_, ?_, ?_⟩, ⟨?_, List.nil_subset _⟩, ofEntries_of_complete _⟩
  · rw [scriptContents]
    refine List.forall_mem_cons.mpr ⟨?_, List.forall_mem_singleton.mpr ?_⟩
    · simp [Admitted]
    · simp only [Admitted, if_neg hname, hentry]
      decide
  · decide
  · decide
  · decide
  · exact List.nil_subset _

/-- The canonical bytes of the manifest of the script. -/
theorem scriptManifest_raw {raw : Bytes} (h : scriptManifest.canonicalBytes = some raw) :
    raw ≠ script.content ∧ scriptDigests raw = scriptManifestSha256 := by
  have hlength : scriptManifest.canonicalBytes.map List.length = some 173 := by decide +kernel
  rw [h, Option.map_some, Option.some.injEq] at hlength
  have hne : raw ≠ script.content := by
    rintro rfl
    exact absurd hlength (by decide)
  exact ⟨hne, if_neg hne⟩

theorem baselineWorkspaceFingerprint_sound_script :
    baselineWorkspaceFingerprint lowerCasefold scriptDigests 1000 scriptWorktree
        = .ok scriptManifestSha256
      ∧ IsCheckoutOf [script] scriptWorktree := by
  have hsome : scriptManifest.canonicalBytes.isSome = true := by decide +kernel
  obtain ⟨raw, hraw⟩ := Option.isSome_iff_exists.mp hsome
  have hdigest : scriptManifest.digest scriptDigests = some scriptManifestSha256 :=
    Option.map_eq_some_iff.mpr ⟨raw, hraw, (scriptManifest_raw hraw).2⟩
  have hresult : baselineWorkspaceFingerprint lowerCasefold scriptDigests 1000 scriptWorktree
      = .ok scriptManifestSha256 :=
    bind_ok.mpr ⟨scriptManifest, scriptWorktree_manifest, demand_ok.mpr hdigest⟩
  have hscript : scriptDigests script.content = scriptSha256 := if_pos rfl
  have happart : scriptSha256 ≠ scriptManifestSha256 := by decide
  have htexts : ∀ text ∈ hashedBytes scriptDigests 1000 scriptManifest [script] scriptWorktree,
      text = script.content ∨ scriptManifest.canonicalBytes = some text := by
    rintro text (⟨names, mode, links, hgit, hplace⟩ | ⟨file, hfile, rfl⟩ | hraw | ⟨found, hfound, hraw⟩)
    · rw [scriptContents, List.mem_cons, List.mem_singleton] at hplace
      rcases hplace with heq | heq
      · exact absurd (Prod.mk.inj heq).1 hgit
      · simp only [Prod.mk.injEq, Item.file.injEq, WorktreeFile.regular.injEq] at heq
        exact .inl heq.2.2.2
    · rw [List.mem_singleton.mp hfile]
      exact .inl rfl
    · exact .inr hraw
    · rw [scriptWorktree_manifest] at hfound
      rw [← Except.ok.inj hfound] at hraw
      exact .inr hraw
  refine ⟨hresult, baselineWorkspaceFingerprint_sound ?_ ?_ hdigest hresult⟩
  · exact .cons ⟨rfl, rfl, rfl, hscript.symm⟩ .nil
  · intro left hleft right hright heq
    rcases htexts left hleft with rfl | hleft <;> rcases htexts right hright with rfl | hright
    · rfl
    · rw [hscript, (scriptManifest_raw hright).2] at heq
      exact absurd heq happart
    · rw [hscript, (scriptManifest_raw hleft).2] at heq
      exact absurd heq.symm happart
    · exact Option.some.inj (hleft.symm.trans hright)

end AgentFleet
