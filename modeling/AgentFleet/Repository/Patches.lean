import AgentFleet.Domain.Texts
import AgentFleet.Lib.Checks
import AgentFleet.Lib.Lines

/-! # The screening of a rendered patch

`compute_patch` looks for binary sections and for file modes in the bytes that Git has rendered,
without parsing them.  `Diff` is what Git renders: for each file a header and either a binary
section or hunks, whose lines carry the contents of the file behind a mark.

`patchContent_error_iff` says which rendered patches are refused.  Contents cannot be taken for a
binary section, since a line feed starts a new mark; a carriage return does not, and what follows
it is screened as if it were a line of the header. -/

namespace AgentFleet

open Checks Lines

def lineFeed : UInt8 := 10

def carriageReturn : UInt8 := 13

/-! ### The screening -/

/-- `_MAX_PATCH_BYTES`. -/
def maxPatchBytes : ℕ := 16000000

/-- `_unsafe_patch`. -/
def unsafePatch : FleetError where
  code := .artifactIntegrityFailed
  message := "Candidate contains an unsafe, changed, binary, unbounded, or noncanonical patch "
    ++ "input."
  remediation := "Use bounded UTF-8 regular text files in scope and leave the Git index unchanged."

/-- `line.rsplit(b" ", 1)[-1]`. -/
def lastWord (line : Bytes) : Bytes := (line.reverse.takeWhile (· ≠ 32)).reverse

/-- The modes of regular files. -/
def regularModes : List Bytes := [ascii "100644", ascii "100755"]

/-- A line that gives a file another mode. -/
def forbidsLine (line : Bytes) : Bool :=
  ((ascii "new mode ").isPrefixOf line || (ascii "new file mode ").isPrefixOf line)
    && lastWord line ∉ regularModes

/-- The line that starts a binary section. -/
def binaryMark : Bytes := ascii "GIT binary patch"

/-- The checks of `compute_patch` on the rendered patch, and its text. -/
def patchContent (patch : Bytes) : Except FleetError String := do
  refuse (maxPatchBytes < patch.length) unsafePatch
  refuse (lineFeed :: binaryMark ++ [lineFeed] <:+: patch ∨ 0 ∈ patch) unsafePatch
  refuse ((splitlines lineFeed carriageReturn patch).any forbidsLine) unsafePatch
  demand unsafePatch (String.fromUTF8? ⟨patch.toArray⟩)

/-! ### What Git renders -/

/-- The mode of a file, in octal digits. -/
structure FileMode where
  digits : Bytes
  octal : ∀ digit ∈ digits, 48 ≤ digit ∧ digit ≤ 55

theorem allOctal {digits : Bytes} (h : (digits.all fun digit => 48 ≤ digit && digit ≤ 55) = true) :
    ∀ digit ∈ digits, 48 ≤ digit ∧ digit ≤ 55 := by
  intro digit hdigit
  have hboth := List.all_eq_true.mp h digit hdigit
  rwa [Bool.and_eq_true, decide_eq_true_eq, decide_eq_true_eq] at hboth

/-- A text on one line: quoted names, object names, line numbers. -/
structure HeaderText where
  bytes : Bytes
  unbroken : lineFeed ∉ bytes ∧ carriageReturn ∉ bytes

def FileMode.text (mode : FileMode) : HeaderText where
  bytes := mode.digits
  unbroken := ⟨fun h => absurd (mode.octal _ h).1 (by decide),
    fun h => absurd (mode.octal _ h).1 (by decide)⟩

/-- Bytes of a file, up to the next line feed. -/
structure LineText where
  bytes : Bytes
  unbroken : lineFeed ∉ bytes

inductive HeaderLine where
  | oldMode (mode : FileMode)
  | newMode (mode : FileMode)
  | deletedFileMode (mode : FileMode)
  | newFileMode (mode : FileMode)
  | index (text : HeaderText)
  | oldName (text : HeaderText)
  | newName (text : HeaderText)

def HeaderLine.label : HeaderLine → String
  | .oldMode _ => "old mode "
  | .newMode _ => "new mode "
  | .deletedFileMode _ => "deleted file mode "
  | .newFileMode _ => "new file mode "
  | .index _ => "index "
  | .oldName _ => "--- "
  | .newName _ => "+++ "

def HeaderLine.text : HeaderLine → HeaderText
  | .oldMode mode => mode.text
  | .newMode mode => mode.text
  | .deletedFileMode mode => mode.text
  | .newFileMode mode => mode.text
  | .index text => text
  | .oldName text => text
  | .newName text => text

def HeaderLine.bytes (line : HeaderLine) : Bytes := ascii line.label ++ line.text.bytes

/-- The mark of a line of a hunk: its own heading, or where the line belongs. -/
inductive Mark where
  | heading
  | context
  | added
  | removed
  | noNewline
deriving DecidableEq

def Mark.byte : Mark → UInt8
  | .heading => 64
  | .context => 32
  | .added => 43
  | .removed => 45
  | .noNewline => 92

structure HunkLine where
  mark : Mark
  content : LineText

def HunkLine.bytes (line : HunkLine) : Bytes := line.mark.byte :: line.content.bytes

/-- What follows the header of a file. -/
inductive Body where
  | binary (data : List LineText)
  | hunks (lines : List HunkLine)

structure FileDiff where
  names : HeaderText
  header : List HeaderLine
  body : Body

def Body.lines : Body → List Bytes
  | .binary data => binaryMark :: data.map LineText.bytes
  | .hunks lines => lines.map HunkLine.bytes

def FileDiff.lines (diff : FileDiff) : List Bytes :=
  (ascii "diff --git " ++ diff.names.bytes) :: (diff.header.map HeaderLine.bytes ++ diff.body.lines)

/-- The rendered patch. -/
def render (diffs : List FileDiff) : Bytes := terminated lineFeed (diffs.flatMap FileDiff.lines)

/-- A header line that gives a file a mode other than that of a regular file. -/
def HeaderLine.Forbidden : HeaderLine → Prop
  | .newMode mode => mode.digits ∉ regularModes
  | .newFileMode mode => mode.digits ∉ regularModes
  | _ => False

/-- A file with a binary section or with a mode other than that of a regular file. -/
def FileDiff.Forbidden (diff : FileDiff) : Prop :=
  (∃ data, diff.body = .binary data) ∨ ∃ line ∈ diff.header, line.Forbidden

/-- The bytes after a carriage return, up to the next, read as a line that gives a mode. -/
def HunkLine.Forged (line : HunkLine) : Prop :=
  ∃ part ∈ (line.content.bytes.splitOn carriageReturn).tail, forbidsLine part = true

/-- A file with a line in its hunks that is taken for a line of the header. -/
def FileDiff.Forged (diff : FileDiff) : Prop :=
  ∃ lines, diff.body = .hunks lines ∧ ∃ line ∈ lines, line.Forged

/-! ### Lines of the header -/

section Lines

variable {diffs : List FileDiff} {diff : FileDiff}

theorem lastWord_append (line word : Bytes) (h : 32 ∉ word) : lastWord (line ++ 32 :: word) = word := by
  have hword : ∀ byte ∈ word.reverse, decide (byte ≠ 32) = true := fun byte hbyte =>
    decide_eq_true fun heq => h (heq ▸ List.mem_reverse.mp hbyte)
  unfold lastWord
  rw [List.reverse_append, List.reverse_cons, List.append_assoc,
    List.takeWhile_append_of_pos hword]
  simp

theorem FileMode.noSpace (mode : FileMode) : 32 ∉ mode.digits := fun h =>
  absurd (mode.octal 32 h).1 (by decide)

theorem forbidsLine_newMode (mode : FileMode) :
    forbidsLine (ascii "new mode " ++ mode.digits) = true ↔ mode.digits ∉ regularModes := by
  have hword : lastWord (ascii "new mode " ++ mode.digits) = mode.digits :=
    lastWord_append (ascii "new mode") mode.digits mode.noSpace
  unfold forbidsLine
  rw [hword]
  have hstart : (ascii "new mode ").isPrefixOf (ascii "new mode " ++ mode.digits) = true := rfl
  rw [hstart, Bool.true_or, Bool.true_and, decide_eq_true_eq]

theorem forbidsLine_newFileMode (mode : FileMode) :
    forbidsLine (ascii "new file mode " ++ mode.digits) = true ↔ mode.digits ∉ regularModes := by
  have hword : lastWord (ascii "new file mode " ++ mode.digits) = mode.digits :=
    lastWord_append (ascii "new file mode") mode.digits mode.noSpace
  unfold forbidsLine
  rw [hword]
  have hstart : (ascii "new file mode ").isPrefixOf (ascii "new file mode " ++ mode.digits)
      = true := rfl
  rw [hstart, Bool.or_true, Bool.true_and, decide_eq_true_eq]

/-- Lines that give a mode start with one letter. -/
theorem head_of_forbidsLine {line : Bytes} (h : forbidsLine line = true) :
    line.head? = some 110 := by
  unfold forbidsLine at h
  rw [Bool.and_eq_true, Bool.or_eq_true, List.isPrefixOf_iff_prefix, List.isPrefixOf_iff_prefix]
    at h
  rcases h.1 with ⟨rest, rfl⟩ | ⟨rest, rfl⟩
  · rfl
  · rfl

theorem not_forbidsLine {line : Bytes} (byte : UInt8) (hhead : line.head? = some byte)
    (hbyte : byte ≠ 110) : ¬ forbidsLine line = true := by
  intro h
  rw [head_of_forbidsLine h] at hhead
  exact hbyte (Option.some.inj hhead).symm

theorem HeaderLine.head_bytes (line : HeaderLine) :
    line.bytes.head? = (ascii line.label).head? := by
  have hlabel : ascii line.label ≠ [] := by
    cases line <;> dsimp only [HeaderLine.label] <;> decide
  exact List.head?_append_of_ne_nil _ hlabel

theorem HeaderLine.head_eq {line : HeaderLine} {byte : UInt8}
    (h : (ascii line.label).head? = some byte) : line.bytes.head? = some byte :=
  line.head_bytes.trans h

theorem forbidsLine_header (line : HeaderLine) :
    forbidsLine line.bytes = true ↔ line.Forbidden := by
  cases line with
  | newMode mode => exact forbidsLine_newMode mode
  | newFileMode mode => exact forbidsLine_newFileMode mode
  | oldMode mode =>
      have hlabel : (ascii "old mode ").head? = some 111 := by decide
      exact iff_of_false (not_forbidsLine 111 (HeaderLine.head_eq hlabel) (by decide)) id
  | deletedFileMode mode =>
      have hlabel : (ascii "deleted file mode ").head? = some 100 := by decide
      exact iff_of_false (not_forbidsLine 100 (HeaderLine.head_eq hlabel) (by decide)) id
  | index text =>
      have hlabel : (ascii "index ").head? = some 105 := by decide
      exact iff_of_false (not_forbidsLine 105 (HeaderLine.head_eq hlabel) (by decide)) id
  | oldName text =>
      have hlabel : (ascii "--- ").head? = some 45 := by decide
      exact iff_of_false (not_forbidsLine 45 (HeaderLine.head_eq hlabel) (by decide)) id
  | newName text =>
      have hlabel : (ascii "+++ ").head? = some 43 := by decide
      exact iff_of_false (not_forbidsLine 43 (HeaderLine.head_eq hlabel) (by decide)) id

theorem unbroken_append {left right : Bytes}
    (hleft : lineFeed ∉ left ∧ carriageReturn ∉ left)
    (hright : lineFeed ∉ right ∧ carriageReturn ∉ right) :
    lineFeed ∉ left ++ right ∧ carriageReturn ∉ left ++ right :=
  ⟨fun h => (List.mem_append.mp h).elim hleft.1 hright.1,
    fun h => (List.mem_append.mp h).elim hleft.2 hright.2⟩

theorem HeaderLine.unbroken (line : HeaderLine) :
    lineFeed ∉ line.bytes ∧ carriageReturn ∉ line.bytes := by
  refine unbroken_append ?_ line.text.unbroken
  cases line <;> dsimp only [HeaderLine.label] <;> decide

/-! ### Parts of the lines -/

/-- A part of a line that the screening takes for a line that gives another mode. -/
def Screened (line : Bytes) : Prop :=
  ∃ part ∈ line.splitOnP (isBreak lineFeed carriageReturn), forbidsLine part = true

theorem screened_of_unbroken {line : Bytes} (h : lineFeed ∉ line ∧ carriageReturn ∉ line) :
    Screened line ↔ forbidsLine line = true := by
  have hplain : ∀ byte ∈ line, isBreak lineFeed carriageReturn byte = false := by
    intro byte hbyte
    have hlf : byte ≠ lineFeed := fun heq => h.1 (heq ▸ hbyte)
    have hcr : byte ≠ carriageReturn := fun heq => h.2 (heq ▸ hbyte)
    rw [isBreak, decide_eq_false hlf, decide_eq_false hcr, Bool.or_false]
  unfold Screened
  rw [List.splitOnP_eq_singleton hplain]
  constructor
  · rintro ⟨part, hpart, hforbids⟩
    rwa [List.mem_singleton.mp hpart] at hforbids
  · exact fun hforbids => ⟨line, List.mem_singleton_self line, hforbids⟩

theorem screened_header (line : HeaderLine) : Screened line.bytes ↔ line.Forbidden := by
  rw [screened_of_unbroken line.unbroken]
  exact forbidsLine_header line

theorem not_screened_names (names : HeaderText) :
    ¬ Screened (ascii "diff --git " ++ names.bytes) := by
  rw [screened_of_unbroken (unbroken_append (by decide) names.unbroken)]
  exact not_forbidsLine 100 rfl (by decide)

/-- The mark keeps the first part of a line of a hunk apart from the header. -/
theorem screened_hunkLine (line : HunkLine) : Screened line.bytes ↔ line.Forged := by
  obtain ⟨mark, content⟩ := line
  have hmark : isBreak lineFeed carriageReturn mark.byte = false := by cases mark <;> rfl
  have hplain : ∀ first, ¬ forbidsLine (mark.byte :: first) = true := fun first =>
    not_forbidsLine mark.byte rfl (by cases mark <;> decide)
  unfold Screened HunkLine.Forged HunkLine.bytes
  dsimp only
  rw [List.splitOnP_cons_eq_if_modifyHead, hmark, if_neg Bool.false_ne_true,
    splitOnP_isBreak content.unbroken]
  cases hparts : content.bytes.splitOn carriageReturn with
  | nil =>
      rw [List.splitOn_eq_splitOnP] at hparts
      exact absurd hparts (List.splitOnP_ne_nil _ _)
  | cons first rest =>
      rw [List.modifyHead_cons, List.tail_cons]
      constructor
      · rintro ⟨part, hpart, hforbids⟩
        rcases List.mem_cons.mp hpart with rfl | hpart
        · exact absurd hforbids (hplain first)
        · exact ⟨part, hpart, hforbids⟩
      · rintro ⟨part, hpart, hforbids⟩
        exact ⟨part, List.mem_cons_of_mem _ hpart, hforbids⟩

/-- In a file without a binary section the screening finds the modes of the header, and what is
taken for them. -/
theorem screened_lines_of_hunks {lines : List HunkLine} (h : diff.body = .hunks lines) :
    (∃ line ∈ diff.lines, Screened line)
      ↔ (∃ line ∈ diff.header, line.Forbidden) ∨ ∃ line ∈ lines, line.Forged := by
  unfold FileDiff.lines
  rw [h, Body.lines]
  constructor
  · rintro ⟨line, hline, hscreened⟩
    rcases List.mem_cons.mp hline with rfl | hline
    · exact absurd hscreened (not_screened_names diff.names)
    · rcases List.mem_append.mp hline with hline | hline
      · obtain ⟨header, hheader, rfl⟩ := List.mem_map.mp hline
        exact .inl ⟨header, hheader, (screened_header header).mp hscreened⟩
      · obtain ⟨hunk, hhunk, rfl⟩ := List.mem_map.mp hline
        exact .inr ⟨hunk, hhunk, (screened_hunkLine hunk).mp hscreened⟩
  · rintro (⟨header, hheader, hforbidden⟩ | ⟨hunk, hhunk, hforged⟩)
    · refine ⟨header.bytes, ?_, (screened_header header).mpr hforbidden⟩
      exact List.mem_cons_of_mem _ (List.mem_append_left _ (List.mem_map_of_mem hheader))
    · refine ⟨hunk.bytes, ?_, (screened_hunkLine hunk).mpr hforged⟩
      exact List.mem_cons_of_mem _ (List.mem_append_right _ (List.mem_map_of_mem hhunk))

theorem screened_lines_of_header (h : ∃ line ∈ diff.header, line.Forbidden) :
    ∃ line ∈ diff.lines, Screened line := by
  obtain ⟨header, hheader, hforbidden⟩ := h
  refine ⟨header.bytes, ?_, (screened_header header).mpr hforbidden⟩
  exact List.mem_cons_of_mem _ (List.mem_append_left _ (List.mem_map_of_mem hheader))

/-! ### The screening of a rendered patch -/

theorem forbidsLine_nonempty {line : Bytes} (h : forbidsLine line = true) : line ≠ [] := by
  rintro rfl
  exact absurd (head_of_forbidsLine h) (Option.some_ne_none _).symm

theorem screened_iff :
    (splitlines lineFeed carriageReturn (render diffs)).any forbidsLine = true
      ↔ ∃ diff ∈ diffs, ∃ line ∈ diff.lines, Screened line := by
  rw [List.any_eq_true]
  constructor
  · rintro ⟨part, hpart, hforbids⟩
    obtain ⟨line, hline, hpart⟩ :=
      (mem_splitlines_terminated (forbidsLine_nonempty hforbids)).mp hpart
    obtain ⟨diff, hdiff, hline⟩ := List.mem_flatMap.mp hline
    exact ⟨diff, hdiff, line, hline, part, hpart, hforbids⟩
  · rintro ⟨diff, hdiff, line, hline, part, hpart, hforbids⟩
    refine ⟨part, ?_, hforbids⟩
    refine (mem_splitlines_terminated (forbidsLine_nonempty hforbids)).mpr ⟨line, ?_, hpart⟩
    exact List.mem_flatMap.mpr ⟨diff, hdiff, hline⟩

/-- Every rendered line is on one line. -/
theorem lineFeed_not_mem {line : Bytes} (h : line ∈ diff.lines) : lineFeed ∉ line := by
  unfold FileDiff.lines at h
  rcases List.mem_cons.mp h with rfl | h
  · exact (unbroken_append (by decide) diff.names.unbroken).1
  · rcases List.mem_append.mp h with h | h
    · obtain ⟨header, -, rfl⟩ := List.mem_map.mp h
      exact header.unbroken.1
    · cases hbody : diff.body with
      | binary data =>
          rw [hbody] at h
          rcases List.mem_cons.mp h with rfl | h
          · decide
          · obtain ⟨text, -, rfl⟩ := List.mem_map.mp h
            exact text.unbroken
      | hunks lines =>
          rw [hbody] at h
          obtain ⟨hunk, -, rfl⟩ := List.mem_map.mp h
          refine List.not_mem_cons_of_ne_of_not_mem ?_ hunk.content.unbroken
          cases hunk.mark <;> decide

/-- Only a binary section has the line that starts one. -/
theorem binary_of_mark (h : binaryMark ∈ diff.lines) : ∃ data, diff.body = .binary data := by
  have hhead : ∀ {line : Bytes} (byte : UInt8), line.head? = some byte → byte ≠ 71 →
      line ≠ binaryMark := by
    rintro line byte hline hbyte rfl
    exact hbyte (Option.some.inj hline).symm
  unfold FileDiff.lines at h
  rcases List.mem_cons.mp h with h | h
  · exact absurd h.symm (hhead 100 rfl (by decide))
  · rcases List.mem_append.mp h with h | h
    · obtain ⟨header, -, heq⟩ := List.mem_map.mp h
      have hlabel : (ascii header.label).head? ≠ some 71 := by
        cases header <;> dsimp only [HeaderLine.label] <;> decide
      refine absurd ?_ hlabel
      rw [← header.head_bytes, heq]
      decide
    · cases hbody : diff.body with
      | binary data => exact ⟨data, rfl⟩
      | hunks lines =>
          rw [hbody] at h
          obtain ⟨hunk, -, heq⟩ := List.mem_map.mp h
          exact absurd heq (hhead hunk.mark.byte rfl (by cases hunk.mark <;> decide))

theorem binaryMark_infix_iff :
    lineFeed :: binaryMark ++ [lineFeed] <:+: render diffs
      ↔ ∃ diff ∈ diffs, ∃ data, diff.body = .binary data := by
  constructor
  · intro h
    have hmark := mem_of_infix_terminated (fun line hline => by
      obtain ⟨diff, -, hline⟩ := List.mem_flatMap.mp hline
      exact lineFeed_not_mem hline) (by decide) h
    obtain ⟨diff, hdiff, hmark⟩ := List.mem_flatMap.mp hmark
    exact ⟨diff, hdiff, binary_of_mark hmark⟩
  · rintro ⟨diff, hdiff, data, hbody⟩
    obtain ⟨before, after, rfl⟩ := List.append_of_mem hdiff
    have hinner : lineFeed :: binaryMark ++ [lineFeed] <:+: terminated lineFeed diff.lines := by
      refine infix_terminated _ (List.mem_append_right _ ?_)
      rw [hbody]
      exact List.mem_cons_self
    unfold render
    rw [List.flatMap_append, List.flatMap_cons, terminated_append, terminated_append]
    exact (hinner.trans (List.prefix_append _ _).isInfix).trans (List.suffix_append _ _).isInfix

/-- The rendered patch is text. -/
def IsText (diffs : List FileDiff) : Prop := (String.fromUTF8? ⟨(render diffs).toArray⟩).isSome

/-- What the two searches find in a rendered patch. -/
theorem screened_or_binary_iff :
    ((∃ diff ∈ diffs, ∃ data, diff.body = .binary data)
        ∨ ∃ diff ∈ diffs, ∃ line ∈ diff.lines, Screened line)
      ↔ (∃ diff ∈ diffs, diff.Forbidden) ∨ ∃ diff ∈ diffs, diff.Forged := by
  constructor
  · rintro (⟨diff, hdiff, hbinary⟩ | ⟨diff, hdiff, hscreened⟩)
    · exact .inl ⟨diff, hdiff, .inl hbinary⟩
    · cases hbody : diff.body with
      | binary data => exact .inl ⟨diff, hdiff, .inl ⟨data, hbody⟩⟩
      | hunks lines =>
          rcases (screened_lines_of_hunks hbody).mp hscreened with hheader | hforged
          · exact .inl ⟨diff, hdiff, .inr hheader⟩
          · exact .inr ⟨diff, hdiff, lines, hbody, hforged⟩
  · rintro (⟨diff, hdiff, hbinary | hheader⟩ | ⟨diff, hdiff, lines, hbody, hforged⟩)
    · exact .inl ⟨diff, hdiff, hbinary⟩
    · exact .inr ⟨diff, hdiff, screened_lines_of_header hheader⟩
    · exact .inr ⟨diff, hdiff, (screened_lines_of_hunks hbody).mpr (.inr hforged)⟩

/-- Which rendered patches are refused. -/
theorem patchContent_error_iff (hnul : 0 ∉ render diffs)
    (hsize : (render diffs).length ≤ maxPatchBytes) :
    (∃ error, patchContent (render diffs) = .error error)
      ↔ (∃ diff ∈ diffs, diff.Forbidden) ∨ (∃ diff ∈ diffs, diff.Forged) ∨ ¬ IsText diffs := by
  have haccepted : (∃ text, patchContent (render diffs) = .ok text)
      ↔ ¬ (∃ diff ∈ diffs, ∃ data, diff.body = .binary data)
        ∧ ¬ (∃ diff ∈ diffs, ∃ line ∈ diff.lines, Screened line) ∧ IsText diffs := by
    unfold patchContent
    simp only [refuse_bind_ok, binaryMark_infix_iff, screened_iff, demand_ok, exists_and_left,
      hnul, or_false, not_lt, hsize, true_and]
    rw [IsText, Option.isSome_iff_exists]
  have hrefused : (∃ error, patchContent (render diffs) = .error error)
      ↔ ¬ ∃ text, patchContent (render diffs) = .ok text := by
    cases patchContent (render diffs) with
    | error error =>
        constructor
        · rintro - ⟨_, h⟩
          cases h
        · exact fun _ => ⟨error, rfl⟩
    | ok text =>
        constructor
        · rintro ⟨_, h⟩
          cases h
        · exact fun h => absurd ⟨text, rfl⟩ h
  rw [hrefused, haccepted, ← or_assoc, ← screened_or_binary_iff, not_and_or, not_and_or, not_not,
    not_not, or_assoc]

/-- The screening refuses exactly the patches with a binary section or with a mode other than
that of a regular file, unless a line of a hunk carries such a mode behind a carriage return or
the patch is no text. -/
theorem patchContent_exact_iff (diffs : List FileDiff) (hnul : 0 ∉ render diffs)
    (hsize : (render diffs).length ≤ maxPatchBytes) :
    ((∃ error, patchContent (render diffs) = .error error) ↔ ∃ diff ∈ diffs, diff.Forbidden)
      ↔ (∃ diff ∈ diffs, diff.Forbidden)
        ∨ (∀ diff ∈ diffs, ¬ diff.Forged) ∧ IsText diffs := by
  rw [patchContent_error_iff hnul hsize]
  constructor
  · intro h
    by_cases hforbidden : ∃ diff ∈ diffs, diff.Forbidden
    · exact .inl hforbidden
    · refine .inr ⟨fun diff hdiff hforged => ?_, ?_⟩
      · exact hforbidden (h.mp (.inr (.inl ⟨diff, hdiff, hforged⟩)))
      · by_contra htext
        exact hforbidden (h.mp (.inr (.inr htext)))
  · rintro (hforbidden | ⟨hforged, htext⟩)
    · exact ⟨fun _ => hforbidden, Or.inl⟩
    · refine ⟨fun h => ?_, Or.inl⟩
      rcases h with h | ⟨diff, hdiff, h⟩ | h
      · exact h
      · exact absurd h (hforged diff hdiff)
      · exact absurd htext h

/-- A new file of one line. -/
def newFile (content : LineText) : FileDiff where
  names := ⟨ascii "a/notes.txt b/notes.txt", by decide⟩
  header := [.newFileMode ⟨ascii "100644", allOctal rfl⟩, .index ⟨ascii "0000000..c0ffee1", by decide⟩,
    .oldName ⟨ascii "/dev/null", by decide⟩, .newName ⟨ascii "b/notes.txt", by decide⟩]
  body := .hunks [⟨.heading, ⟨ascii "@ -0,0 +1 @@", by decide⟩⟩, ⟨.added, content⟩]

theorem patchContent_exact_newFile :
    0 ∉ render [newFile ⟨ascii "text", by decide⟩]
      ∧ (render [newFile ⟨ascii "text", by decide⟩]).length ≤ maxPatchBytes
      ∧ (((∃ error, patchContent (render [newFile ⟨ascii "text", by decide⟩]) = .error error)
          ↔ ∃ diff ∈ [newFile ⟨ascii "text", by decide⟩], diff.Forbidden)
        ↔ (∃ diff ∈ [newFile ⟨ascii "text", by decide⟩], diff.Forbidden)
          ∨ (∀ diff ∈ [newFile ⟨ascii "text", by decide⟩], ¬ diff.Forged)
            ∧ IsText [newFile ⟨ascii "text", by decide⟩]) :=
  ⟨by decide +kernel, by decide +kernel,
    patchContent_exact_iff _ (by decide +kernel) (by decide +kernel)⟩

/-- A regular text file whose line has a carriage return before the words of a header. -/
def forgingFile : FileDiff := newFile ⟨ascii "text\rnew mode 120000", by decide⟩

/-- No file of the patch is binary or has another mode, and yet the patch is refused. -/
theorem patchContent_forged :
    0 ∉ render [forgingFile] ∧ (render [forgingFile]).length ≤ maxPatchBytes
      ∧ (∃ error, patchContent (render [forgingFile]) = .error error)
      ∧ ¬ ∃ diff ∈ [forgingFile], diff.Forbidden := by
  have hnul : 0 ∉ render [forgingFile] := by decide
  have hsize : (render [forgingFile]).length ≤ maxPatchBytes := by decide +kernel
  have hforged : forgingFile.Forged :=
    ⟨_, rfl, _, List.mem_cons_of_mem _ List.mem_cons_self, ascii "new mode 120000",
      by decide, by decide⟩
  refine ⟨hnul, hsize, ?_, ?_⟩
  · exact (patchContent_error_iff hnul hsize).mpr
      (.inr (.inl ⟨forgingFile, List.mem_singleton_self _, hforged⟩))
  rintro ⟨diff, hdiff, hforbidden⟩
  rw [List.mem_singleton.mp hdiff] at hforbidden
  rcases hforbidden with ⟨data, hdata⟩ | ⟨line, hline, hforbidden⟩
  · cases hdata
  · unfold forgingFile newFile at hline
    simp only [List.mem_cons, List.not_mem_nil, or_false] at hline
    rcases hline with rfl | rfl | rfl | rfl
    · exact absurd hforbidden (not_not.mpr (by decide))
    · exact hforbidden
    · exact hforbidden
    · exact hforbidden

end Lines

end AgentFleet
