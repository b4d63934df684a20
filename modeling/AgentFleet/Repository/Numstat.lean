import AgentFleet.Lib.CodePoints
import AgentFleet.Repository.SourceManifest
import Mathlib.Data.List.Sort

/-! # The changed paths of a patch

`git diff --numstat -z` writes a record of one field for a changed file and a record of three for a
renamed one; `_parse_numstat_paths` reads them back.

`parseNumstatPaths_inverts` says what it reads of whole records, where all paths are found, and of
records that break off: a rename whose old path is complete is read, however short its new path is. -/

namespace AgentFleet

open Checks CodePoints Lines

/-! ### The parser -/

/-- `data.split(separator, count)`. -/
def splitAtMost (separator : UInt8) : ℕ → Bytes → List Bytes
  | 0, data => [data]
  | count + 1, data =>
      match splitOnce separator data with
      | some (before, after) => before :: splitAtMost separator count after
      | none => [data]

/-- A field without two tabs. -/
def malformedNumstat : FleetError where
  code := .artifactIntegrityFailed
  message := "Git returned malformed numstat output for the candidate patch."
  remediation := "Recreate the run before applying the patch."

/-- A rename without two paths. -/
def incompleteRename : FleetError where
  code := .artifactIntegrityFailed
  message := "Git returned an incomplete rename record for the candidate patch."
  remediation := "Recreate the run before applying the patch."

/-- The loop over the fields, with what is appended to `paths`. -/
def parseNumstatFields : List Bytes → Except FleetError (List Text)
  | [] => .ok []
  | field :: fields =>
      if field = [] then parseNumstatFields fields
      else match splitAtMost 9 2 field with
        | [_, _, path] =>
            if path ≠ [] then do
              let paths ← parseNumstatFields fields
              return escaped path :: paths
            else match fields with
              | oldPath :: newPath :: fields => do
                  let paths ← parseNumstatFields fields
                  return escaped oldPath :: escaped newPath :: paths
              | _ => .error incompleteRename
        | _ => .error malformedNumstat

/-- `sorted(set(paths))`. -/
def sortedPaths (paths : List Text) : List Text := paths.dedup.insertionSort (· ≤ ·)

/-- `_parse_numstat_paths`. -/
def parseNumstatPaths (output : Bytes) : Except FleetError (List Text) := do
  let paths ← parseNumstatFields (output.splitOn 0)
  return sortedPaths paths

/-! ### What Git writes -/

/-- A number of lines, or the mark of a binary file. -/
structure LineCount where
  bytes : Bytes
  written : bytes = [45] ∨ bytes ≠ [] ∧ ∀ byte ∈ bytes, 48 ≤ byte ∧ byte ≤ 57

/-- A path, of any bytes but zeros. -/
structure GitPath where
  bytes : Bytes
  nonempty : bytes ≠ []
  noZero : 0 ∉ bytes

/-- A record of `--numstat`. -/
inductive NumstatRecord where
  | plain (added deleted : LineCount) (path : GitPath)
  | rename (added deleted : LineCount) (oldPath newPath : GitPath)

/-- What stands before the paths. -/
def numstatCounts (added deleted : LineCount) : Bytes := added.bytes ++ 9 :: deleted.bytes ++ [9]

/-- The fields of a record. -/
def NumstatRecord.fields : NumstatRecord → List Bytes
  | .plain added deleted path => [numstatCounts added deleted ++ path.bytes]
  | .rename added deleted oldPath newPath =>
      [numstatCounts added deleted, oldPath.bytes, newPath.bytes]

/-- The paths of a record. -/
def NumstatRecord.paths : NumstatRecord → List GitPath
  | .plain _ _ path => [path]
  | .rename _ _ oldPath newPath => [oldPath, newPath]

/-- `git diff --numstat -z`. -/
def numstat (records : List NumstatRecord) : Bytes :=
  terminated 0 (records.flatMap NumstatRecord.fields)

/-- The two paths of a rename as they are written. -/
def renamePaths (oldPath newPath : GitPath) : Bytes := terminated 0 [oldPath.bytes, newPath.bytes]

/-- A rename that breaks off inside of its paths, after whole records. -/
def brokenNumstat (records : List NumstatRecord) (added deleted : LineCount)
    (oldPath newPath : GitPath) (kept : ℕ) : Bytes :=
  numstat records ++ numstatCounts added deleted ++ 0 :: (renamePaths oldPath newPath).take kept

/-! ### Reading records -/

theorem LineCount.plain (count : LineCount) : 9 ∉ count.bytes ∧ 0 ∉ count.bytes := by
  rcases count.written with hmark | ⟨-, hdigits⟩
  · rw [hmark]
    decide
  · exact ⟨fun hmem => absurd (hdigits 9 hmem).1 (by decide),
      fun hmem => absurd (hdigits 0 hmem).1 (by decide)⟩

theorem splitAtMost_counts (added deleted : LineCount) (path : Bytes) :
    splitAtMost 9 2 (numstatCounts added deleted ++ path)
      = [added.bytes, deleted.bytes, path] := by
  have hfield : numstatCounts added deleted ++ path
      = added.bytes ++ 9 :: (deleted.bytes ++ 9 :: path) := by
    simp [numstatCounts]
  rw [hfield, splitAtMost, splitOnce_append added.plain.1]
  dsimp only
  rw [splitAtMost, splitOnce_append deleted.plain.1]
  rfl

theorem numstatCounts_ne_nil (added deleted : LineCount) (path : Bytes) :
    numstatCounts added deleted ++ path ≠ [] := by
  simp [numstatCounts]

theorem zero_not_mem_counts (added deleted : LineCount) :
    0 ∉ numstatCounts added deleted := by
  have hadded := added.plain.2
  have hdeleted := deleted.plain.2
  simp [numstatCounts, hadded, hdeleted]

theorem parseNumstatFields_counts (added deleted : LineCount) (fields : List Bytes) :
    parseNumstatFields (numstatCounts added deleted :: fields)
      = match fields with
        | oldPath :: newPath :: fields => do
            let paths ← parseNumstatFields fields
            return escaped oldPath :: escaped newPath :: paths
        | _ => .error incompleteRename := by
  have hsplit := splitAtMost_counts added deleted []
  have hne := numstatCounts_ne_nil added deleted []
  rw [List.append_nil] at hsplit hne
  conv => lhs; unfold parseNumstatFields
  rw [if_neg hne, hsplit]
  rfl

theorem parseNumstatFields_plain (added deleted : LineCount) (path : GitPath)
    (fields : List Bytes) :
    parseNumstatFields ((numstatCounts added deleted ++ path.bytes) :: fields) = do
      let paths ← parseNumstatFields fields
      return escaped path.bytes :: paths := by
  conv => lhs; unfold parseNumstatFields
  rw [if_neg (numstatCounts_ne_nil added deleted path.bytes), splitAtMost_counts]
  exact if_pos path.nonempty

/-- Whole records are read field by field. -/
theorem parseNumstatFields_records (records : List NumstatRecord) (fields : List Bytes) :
    parseNumstatFields (records.flatMap NumstatRecord.fields ++ fields) = do
      let paths ← parseNumstatFields fields
      return ((records.flatMap NumstatRecord.paths).map fun path => escaped path.bytes) ++ paths := by
  induction records with
  | nil =>
      rw [List.flatMap_nil, List.nil_append]
      exact (bind_pure _).symm
  | cons record records ih =>
      rw [List.flatMap_cons, List.append_assoc]
      cases record with
      | plain added deleted path =>
          have hfields : (NumstatRecord.plain added deleted path).fields
              ++ (records.flatMap NumstatRecord.fields ++ fields)
              = (numstatCounts added deleted ++ path.bytes)
                :: (records.flatMap NumstatRecord.fields ++ fields) := rfl
          rw [hfields, parseNumstatFields_plain, ih, bind_assoc]
          simp only [pure_bind]
          rfl
      | rename added deleted oldPath newPath =>
          have hfields : (NumstatRecord.rename added deleted oldPath newPath).fields
              ++ (records.flatMap NumstatRecord.fields ++ fields)
              = numstatCounts added deleted :: oldPath.bytes :: newPath.bytes
                :: (records.flatMap NumstatRecord.fields ++ fields) := rfl
          rw [hfields, parseNumstatFields_counts]
          dsimp only
          rw [ih, bind_assoc]
          simp only [pure_bind]
          rfl

theorem zero_not_mem_fields (records : List NumstatRecord) :
    ∀ field ∈ records.flatMap NumstatRecord.fields, 0 ∉ field := by
  intro field hfield
  obtain ⟨record, -, hmem⟩ := List.mem_flatMap.mp hfield
  cases record with
  | plain added deleted path =>
      obtain rfl := List.mem_singleton.mp hmem
      rw [List.mem_append, not_or]
      exact ⟨zero_not_mem_counts added deleted, path.noZero⟩
  | rename added deleted oldPath newPath =>
      simp only [NumstatRecord.fields, List.mem_cons, List.not_mem_nil, or_false] at hmem
      rcases hmem with rfl | rfl | rfl
      · exact zero_not_mem_counts added deleted
      · exact oldPath.noZero
      · exact newPath.noZero

/-- The sorted paths are the paths, each once. -/
theorem sortedPaths_spec (paths : List Text) :
    (sortedPaths paths).Pairwise (· < ·) ∧ ∀ text, text ∈ sortedPaths paths ↔ text ∈ paths := by
  have hperm := List.perm_insertionSort (· ≤ ·) paths.dedup
  have hsorted : (sortedPaths paths).Pairwise (· ≤ ·) := List.pairwise_insertionSort _ _
  have hnodup : (sortedPaths paths).Nodup := hperm.nodup_iff.mpr (List.nodup_dedup paths)
  refine ⟨?_, fun text => hperm.mem_iff.trans List.mem_dedup⟩
  exact (hsorted.and hnodup).imp fun h => lt_of_le_of_ne h.1 h.2

/-- Whole records are read as their paths. -/
theorem parseNumstatPaths_numstat (records : List NumstatRecord) :
    parseNumstatPaths (numstat records)
      = .ok (sortedPaths ((records.flatMap NumstatRecord.paths).map fun path =>
        escaped path.bytes)) := by
  have hread := parseNumstatFields_records records [[]]
  have hempty : parseNumstatFields [[]] = .ok [] := rfl
  rw [hempty] at hread
  unfold parseNumstatPaths numstat
  rw [splitOn_terminated (zero_not_mem_fields records), hread]
  exact congrArg (fun paths => Except.ok (sortedPaths paths)) (List.append_nil _)

/-! ### Records that break off -/

/-- What is cut inside of the paths of a rename is one field while the old path is cut, and two
fields from then on. -/
theorem splitOn_renamePaths {oldPath newPath : GitPath} {kept : ℕ}
    (hkept : kept < (renamePaths oldPath newPath).length) :
    ((renamePaths oldPath newPath).take kept).splitOn 0
      = if kept ≤ oldPath.bytes.length then [oldPath.bytes.take kept]
        else [oldPath.bytes, newPath.bytes.take (kept - (oldPath.bytes.length + 1))] := by
  have hpaths : renamePaths oldPath newPath
      = terminated 0 [oldPath.bytes] ++ (newPath.bytes ++ [0]) := by
    simp [renamePaths, terminated]
  have hsingle : ∀ (path : GitPath) (count : ℕ),
      (path.bytes.take count).splitOn 0 = [path.bytes.take count] := by
    intro path count
    refine List.splitOnP_eq_singleton fun byte hbyte => beq_false_of_ne ?_
    rintro rfl
    exact path.noZero (List.mem_of_mem_take hbyte)
  have hlength : (renamePaths oldPath newPath).length
      = oldPath.bytes.length + 1 + (newPath.bytes.length + 1) := by
    simp [renamePaths, terminated]
    omega
  have hold : (terminated 0 [oldPath.bytes]).length = oldPath.bytes.length + 1 := by
    simp [terminated]
  split_ifs with hcut
  · have htake : (renamePaths oldPath newPath).take kept = oldPath.bytes.take kept := by
      have hlist : renamePaths oldPath newPath
          = oldPath.bytes ++ 0 :: (newPath.bytes ++ [0]) := by
        simp [renamePaths, terminated]
      rw [hlist, List.take_append_of_le_length hcut]
    rw [htake, hsingle]
  · have htake : (renamePaths oldPath newPath).take kept
        = terminated 0 [oldPath.bytes]
          ++ newPath.bytes.take (kept - (oldPath.bytes.length + 1)) := by
      rw [hpaths, List.take_append, hold, List.take_of_length_le (by omega),
        List.take_append_of_le_length (by omega)]
    have hzero : ∀ field ∈ [oldPath.bytes], 0 ∉ field := by
      intro field hfield
      obtain rfl := List.mem_singleton.mp hfield
      exact oldPath.noZero
    rw [htake, splitOn_terminated_append hzero, hsingle]
    rfl

theorem parseNumstatPaths_broken (records : List NumstatRecord) (added deleted : LineCount)
    (oldPath newPath : GitPath) (kept : ℕ) :
    parseNumstatPaths (brokenNumstat records added deleted oldPath newPath kept) = do
      let paths ← parseNumstatFields
        (numstatCounts added deleted :: ((renamePaths oldPath newPath).take kept).splitOn 0)
      return sortedPaths (((records.flatMap NumstatRecord.paths).map fun path =>
        escaped path.bytes) ++ paths) := by
  have htext : brokenNumstat records added deleted oldPath newPath kept
      = terminated 0 (records.flatMap NumstatRecord.fields ++ [numstatCounts added deleted])
        ++ (renamePaths oldPath newPath).take kept := by
    simp [brokenNumstat, numstat, terminated]
  have hzero : ∀ field ∈ records.flatMap NumstatRecord.fields ++ [numstatCounts added deleted],
      0 ∉ field := by
    intro field hfield
    rcases List.mem_append.mp hfield with hwhole | hlast
    · exact zero_not_mem_fields records field hwhole
    · obtain rfl := List.mem_singleton.mp hlast
      exact zero_not_mem_counts added deleted
  unfold parseNumstatPaths
  rw [htext, splitOn_terminated_append hzero, List.append_assoc, List.singleton_append,
    parseNumstatFields_records, bind_assoc]
  simp only [pure_bind]

/-- A rename that breaks off is refused exactly when not even its old path is complete. -/
theorem parseNumstatPaths_broken_iff (records : List NumstatRecord) (added deleted : LineCount)
    {oldPath newPath : GitPath} {kept : ℕ}
    (hkept : kept < (renamePaths oldPath newPath).length) :
    (∃ e, parseNumstatPaths (brokenNumstat records added deleted oldPath newPath kept) = .error e)
      ↔ kept ≤ oldPath.bytes.length := by
  rw [parseNumstatPaths_broken, parseNumstatFields_counts, splitOn_renamePaths hkept]
  split_ifs with hcut
  · exact ⟨fun _ => hcut, fun _ => ⟨incompleteRename, rfl⟩⟩
  · constructor
    · rintro ⟨e, herror⟩
      cases herror
    · exact fun hle => absurd hle hcut

/-- Whole records are read as the sorted set of their paths, different paths are read differently,
and a rename that breaks off inside of its paths is refused exactly when its old path does. -/
theorem parseNumstatPaths_inverts (records : List NumstatRecord) (added deleted : LineCount)
    (oldPath newPath : GitPath) (kept : Fin (renamePaths oldPath newPath).length) :
    (∃ paths, parseNumstatPaths (numstat records) = .ok paths ∧ paths.Pairwise (· < ·)
      ∧ ∀ text, text ∈ paths
        ↔ ∃ record ∈ records, ∃ path ∈ record.paths, escaped path.bytes = text)
      ∧ Function.Injective escaped
      ∧ ((∃ e, parseNumstatPaths (brokenNumstat records added deleted oldPath newPath kept)
        = .error e) ↔ kept ≤ oldPath.bytes.length) := by
  refine ⟨?_, escaped_injective, parseNumstatPaths_broken_iff records added deleted kept.isLt⟩
  obtain ⟨hsorted, hmem⟩ := sortedPaths_spec
    ((records.flatMap NumstatRecord.paths).map fun path => escaped path.bytes)
  refine ⟨_, parseNumstatPaths_numstat records, hsorted, fun text => (hmem text).trans ?_⟩
  rw [List.mem_map]
  constructor
  · rintro ⟨path, hpath, htext⟩
    obtain ⟨record, hrecord, hmember⟩ := List.mem_flatMap.mp hpath
    exact ⟨record, hrecord, path, hmember, htext⟩
  · rintro ⟨record, hrecord, path, hmember, htext⟩
    exact ⟨path, List.mem_flatMap.mpr ⟨record, hrecord, hmember⟩, htext⟩

/-- One line. -/
def oneLine : LineCount where
  bytes := [49]
  written := .inr ⟨List.cons_ne_nil _ _, List.forall_mem_singleton.mpr (by decide)⟩

/-- A file that is renamed to `bc`. -/
def renamedFrom : GitPath := ⟨ascii "a", by decide, by decide⟩

/-- The name that breaks off. -/
def renamedTo : GitPath := ⟨ascii "bc", by decide, by decide⟩

/-- A rename to `bc` that breaks off in its new path is read as a rename to `b`. -/
theorem parseNumstatPaths_reads_broken :
    3 < (renamePaths renamedFrom renamedTo).length
      ∧ parseNumstatPaths (brokenNumstat [] oneLine oneLine renamedFrom renamedTo 3)
        = .ok [ofString "a", ofString "b"] :=
  ⟨by decide, rfl⟩

end AgentFleet
