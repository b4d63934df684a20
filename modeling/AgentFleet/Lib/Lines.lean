import Mathlib.Data.List.Infix
import Mathlib.Tactic.Common

/-! # Lines of a text

A text is a list of characters of any type, two of which are the line feed and the carriage
return.  `terminated` writes lines with a line feed after each; `splitlines` reads lines back that
end at a line feed, a carriage return or both.

* `mem_splitlines` says that the lines that are not empty are the parts between any two breaks.
* `mem_splitlines_terminated` finds the lines of a written text inside the lines it was written
  from, cut at their carriage returns.
* `mem_of_infix_terminated` and `infix_terminated` find a whole line in a written text.
* `isPrefix_iff_intercalate` compares joined lists by their texts. -/

namespace Lines

variable {α : Type} [DecidableEq α] (lf cr : α)

/-- A character that ends a line. -/
def isBreak (a : α) : Bool := a = lf || a = cr

/-- The lines of the rest of a text, in the middle of a line; `returned` when the last
character was a carriage return. -/
def splitFrom : Bool → List α → List α → List (List α)
  | _, line, [] => if line = [] then [] else [line]
  | returned, line, a :: rest =>
      if a = lf then
        if returned then splitFrom false [] rest else line :: splitFrom false [] rest
      else if a = cr then line :: splitFrom true [] rest
      else splitFrom false (line ++ [a]) rest

/-- The lines of a text, without the breaks that end them. -/
def splitlines (text : List α) : List (List α) := splitFrom lf cr false [] text

/-- Lines with a line feed after each. -/
def terminated (lines : List (List α)) : List α := lines.flatMap fun line => line ++ [lf]

variable {lf cr} {line text : List α} {lines : List (List α)}

/-! ### Lines between breaks -/

theorem mem_splitFrom (returned : Bool) {before : List α}
    (hbefore : ∀ a ∈ before, isBreak lf cr a = false) (hreturned : returned = true → before = [])
    (hline : line ≠ []) :
    line ∈ splitFrom lf cr returned before text
      ↔ line ∈ (before ++ text).splitOnP (isBreak lf cr) := by
  induction text generalizing returned before with
  | nil =>
      rw [List.append_nil, List.splitOnP_eq_singleton hbefore, splitFrom]
      split_ifs with hempty
      · rw [hempty]
        exact ⟨fun h => absurd h List.not_mem_nil,
          fun h => absurd (List.mem_singleton.mp h) hline⟩
      · exact Iff.rfl
  | cons a rest ih =>
      have hnext : ∀ returned, line ∈ splitFrom lf cr returned [] rest
          ↔ line ∈ rest.splitOnP (isBreak lf cr) := fun returned =>
        ih returned (fun _ h => absurd h List.not_mem_nil) (fun _ => rfl)
      rw [splitFrom]
      by_cases hlf : a = lf
      · have hbreak : isBreak lf cr a = true := by
          rw [isBreak, decide_eq_true hlf, Bool.true_or]
        rw [if_pos hlf, List.splitOnP_append_cons_of_forall_mem hbefore a hbreak, List.mem_cons]
        split_ifs with hret
        · rw [hnext, hreturned hret]
          exact ⟨Or.inr, fun h => h.resolve_left hline⟩
        · rw [List.mem_cons, hnext]
      · rw [if_neg hlf]
        by_cases hcr : a = cr
        · have hbreak : isBreak lf cr a = true := by
            rw [isBreak, decide_eq_true hcr, Bool.or_true]
          rw [if_pos hcr, List.splitOnP_append_cons_of_forall_mem hbefore a hbreak,
            List.mem_cons, List.mem_cons, hnext]
        · have hplain : isBreak lf cr a = false := by
            rw [isBreak, decide_eq_false hlf, decide_eq_false hcr, Bool.or_false]
          have hlonger : ∀ b ∈ before ++ [a], isBreak lf cr b = false := by
            intro b hb
            rcases List.mem_append.mp hb with hb | hb
            · exact hbefore b hb
            · rw [List.mem_singleton.mp hb]
              exact hplain
          rw [if_neg hcr, List.append_cons before a rest]
          exact ih false hlonger (fun h => by cases h)

/-- The lines that are not empty are the parts between the breaks. -/
theorem mem_splitlines (hline : line ≠ []) :
    line ∈ splitlines lf cr text ↔ line ∈ text.splitOnP (isBreak lf cr) :=
  mem_splitFrom false (fun _ h => absurd h List.not_mem_nil) (fun _ => rfl) hline

/-! ### Written lines -/

omit [DecidableEq α] in
theorem terminated_cons : terminated lf (line :: lines) = line ++ lf :: terminated lf lines := by
  rw [terminated, List.flatMap_cons, List.append_assoc]
  rfl

omit [DecidableEq α] in
theorem terminated_append {more : List (List α)} :
    terminated lf (lines ++ more) = terminated lf lines ++ terminated lf more :=
  List.flatMap_append

omit [DecidableEq α] in
/-- Cutting a written text at breaks, the line feed among them, cuts each line. -/
theorem splitOnP_terminated {p : α → Bool} (hlf : p lf = true) :
    (terminated lf lines).splitOnP p = (lines.flatMap fun line => line.splitOnP p) ++ [[]] := by
  induction lines with
  | nil => rfl
  | cons line lines ih =>
      rw [terminated_cons, List.splitOnP_append_cons _ _ hlf, ih, List.flatMap_cons,
        List.append_assoc]

/-- A line read back from a written text is a part of a line that was written. -/
theorem mem_splitlines_terminated (hline : line ≠ []) :
    line ∈ splitlines lf cr (terminated lf lines)
      ↔ ∃ written ∈ lines, line ∈ written.splitOnP (isBreak lf cr) := by
  have hlf : isBreak lf cr lf = true := by
    rw [isBreak, decide_eq_true rfl, Bool.true_or]
  rw [mem_splitlines hline, splitOnP_terminated hlf, List.mem_append, List.mem_flatMap,
    List.mem_singleton]
  exact ⟨fun h => h.resolve_right hline, Or.inl⟩

/-- Without line feeds only the carriage returns cut a line. -/
theorem splitOnP_isBreak (hlf : lf ∉ line) :
    line.splitOnP (isBreak lf cr) = line.splitOn cr := by
  rw [List.splitOn_eq_splitOnP]
  induction line with
  | nil => rfl
  | cons a line ih =>
      obtain ⟨hne, hrest⟩ := not_or.mp (mt List.mem_cons.mpr hlf)
      have hsame : isBreak lf cr a = (a == cr) := by
        rw [isBreak, decide_eq_false (Ne.symm hne), Bool.false_or, beq_eq_decide]
      rw [List.splitOnP_cons_eq_if_modifyHead, List.splitOnP_cons_eq_if_modifyHead, ih hrest,
        hsame]

/-- Cut at its line feeds a written text gives its lines back, before what is cut after them. -/
theorem splitOn_terminated_append (hlines : ∀ line ∈ lines, lf ∉ line) :
    (terminated lf lines ++ text).splitOn lf = lines ++ text.splitOn lf := by
  induction lines with
  | nil => rfl
  | cons line lines ih =>
      have hline : ∀ a ∈ line, (a == lf) = false := fun a ha =>
        beq_false_of_ne fun heq => hlines line List.mem_cons_self (heq ▸ ha)
      have hlf : (fun a => a == lf) lf = true := beq_self_eq_true lf
      have hrest := ih fun other hother => hlines other (List.mem_cons_of_mem _ hother)
      rw [List.splitOn_eq_splitOnP] at hrest ⊢
      rw [terminated_cons, List.append_assoc, List.cons_append,
        List.splitOnP_append_cons_of_forall_mem (p := fun a => a == lf) hline lf hlf, hrest]
      rfl

/-- Cut at its line feeds a written text gives its lines back, and nothing after the last. -/
theorem splitOn_terminated (hlines : ∀ line ∈ lines, lf ∉ line) :
    (terminated lf lines).splitOn lf = lines ++ [[]] := by
  have happend : (terminated lf lines ++ []).splitOn lf = lines ++ [].splitOn lf :=
    splitOn_terminated_append hlines
  rw [List.append_nil] at happend
  exact happend

/-- What stands between two line feeds of a written text is a line of it. -/
theorem mem_of_infix_terminated (hlines : ∀ line ∈ lines, lf ∉ line) (hline : lf ∉ line)
    (h : lf :: line ++ [lf] <:+: terminated lf lines) : line ∈ lines := by
  obtain ⟨before, after, hsplit⟩ := h
  have hcut := splitOn_terminated hlines
  have hplain : ∀ a ∈ line, (a == lf) = false := fun a ha =>
    beq_false_of_ne fun heq => hline (heq ▸ ha)
  have htext : before ++ lf :: (line ++ lf :: after) = terminated lf lines := by
    rw [← hsplit]
    simp
  have hlf : (fun a => a == lf) lf = true := beq_self_eq_true lf
  rw [← htext, List.splitOn_eq_splitOnP,
    List.splitOnP_append_cons (p := fun a => a == lf) _ _ hlf,
    List.splitOnP_append_cons_of_forall_mem (p := fun a => a == lf) hplain lf hlf] at hcut
  rcases List.eq_nil_or_concat (after.splitOnP (· == lf)) with hnil | ⟨init, last, hconcat⟩
  · exact absurd hnil (List.splitOnP_ne_nil _ _)
  · rw [hconcat, List.concat_eq_append, ← List.cons_append, ← List.append_assoc] at hcut
    obtain ⟨hwritten, -⟩ := List.append_inj' hcut rfl
    rw [← hwritten]
    exact List.mem_append_right _ List.mem_cons_self

omit [DecidableEq α] in
/-- A line after the first stands between two line feeds. -/
theorem infix_terminated (first : List α) (h : line ∈ lines) :
    lf :: line ++ [lf] <:+: terminated lf (first :: lines) := by
  obtain ⟨before, after, rfl⟩ := List.append_of_mem h
  induction before generalizing first with
  | nil =>
      refine ⟨first, terminated lf after, ?_⟩
      rw [List.nil_append, terminated_cons, terminated_cons]
      simp
  | cons next before ih =>
      obtain ⟨left, right, hsplit⟩ := ih next (List.mem_append_right _ List.mem_cons_self)
      refine ⟨first ++ lf :: left, right, ?_⟩
      have hnext : terminated lf (first :: (next :: before ++ line :: after))
          = first ++ lf :: terminated lf (next :: (before ++ line :: after)) := terminated_cons
      rw [hnext, ← hsplit]
      simp

/-! ### Joined lists -/

section Joined

variable {sep : α} {left right : List (List α)}

omit [DecidableEq α] in
/-- The parts between breaks have none. -/
theorem forall_of_mem_splitOnP {p : α → Bool} {part : List α} (h : part ∈ text.splitOnP p) :
    ∀ a ∈ part, p a = false := by
  induction text generalizing part with
  | nil =>
      rw [List.splitOnP_nil, List.mem_singleton] at h
      rw [h]
      exact fun a ha => absurd ha List.not_mem_nil
  | cons a text ih =>
      rw [List.splitOnP_cons_eq_if_modifyHead] at h
      split_ifs at h with hbreak
      · rcases List.mem_cons.mp h with rfl | h
        · exact fun a ha => absurd ha List.not_mem_nil
        · exact ih h
      · cases hparts : text.splitOnP p with
        | nil => exact absurd hparts (List.splitOnP_ne_nil _ _)
        | cons =>
            rw [hparts] at ih h
            rcases List.mem_cons.mp h with rfl | h
            · intro b hb
              rcases List.mem_cons.mp hb with rfl | hb
              · exact Bool.eq_false_iff.mpr hbreak
              · exact ih List.mem_cons_self b hb
            · exact ih (List.mem_cons_of_mem _ h)

theorem not_mem_of_mem_splitOn {part : List α} (h : part ∈ text.splitOn sep) : sep ∉ part := by
  intro hsep
  rw [List.splitOn_eq_splitOnP] at h
  have hfalse := forall_of_mem_splitOnP h sep hsep
  rw [beq_self_eq_true] at hfalse
  cases hfalse

omit [DecidableEq α] in
theorem intercalate_append (hleft : left ≠ []) (hright : right ≠ []) :
    [sep].intercalate (left ++ right)
      = [sep].intercalate left ++ sep :: [sep].intercalate right := by
  induction left with
  | nil => exact absurd rfl hleft
  | cons first left ih =>
      cases left with
      | nil =>
          rw [List.singleton_append, List.intercalate_cons_of_ne_nil hright,
            List.intercalate_singleton, List.append_assoc, List.singleton_append]
      | cons =>
          rw [List.cons_append, List.intercalate_cons_of_ne_nil (by simp),
            ih (List.cons_ne_nil _ _), List.intercalate_cons_of_ne_nil (List.cons_ne_nil _ _),
            List.append_assoc, List.append_assoc, List.append_assoc]

omit [DecidableEq α] in
theorem map_intercalate {β : Type} (f : α → β) (parts : List (List α)) :
    ([sep].intercalate parts).map f = [f sep].intercalate (parts.map (List.map f)) := by
  induction parts with
  | nil => rfl
  | cons first rest ih =>
      cases rest with
      | nil => rw [List.map_singleton, List.intercalate_singleton, List.intercalate_singleton]
      | cons =>
          rw [List.intercalate_cons_cons, List.map_append, List.map_append, ih, List.map_singleton]
          exact List.intercalate_cons_cons.symm

omit [DecidableEq α] in
theorem mem_intercalate {a : α} {part : List α} {parts : List (List α)} (hpart : part ∈ parts)
    (h : a ∈ part) : a ∈ [sep].intercalate parts := by
  induction parts with
  | nil => exact absurd hpart List.not_mem_nil
  | cons first rest ih =>
      cases rest with
      | nil =>
          rw [List.intercalate_singleton]
          rwa [← List.mem_singleton.mp hpart]
      | cons =>
          rw [List.intercalate_cons_cons, List.append_assoc]
          rcases List.mem_cons.mp hpart with rfl | hpart
          · exact List.mem_append_left _ h
          · exact List.mem_append_right _ (List.mem_append_right _ (ih hpart))

/-- One joined list starts with another when the rest of its text starts with a separator. -/
theorem isPrefix_iff_intercalate (hleft : left ≠ []) (hright : right ≠ [])
    (hleftSep : ∀ part ∈ left, sep ∉ part) (hrightSep : ∀ part ∈ right, sep ∉ part) :
    left <+: right
      ↔ ∃ rest, [sep].intercalate right = [sep].intercalate left ++ rest
        ∧ (rest = [] ∨ ∃ more, rest = sep :: more) := by
  constructor
  · rintro ⟨more, rfl⟩
    by_cases hmore : more = []
    · exact ⟨[], by rw [hmore, List.append_nil, List.append_nil], .inl rfl⟩
    · exact ⟨_, intercalate_append hleft hmore, .inr ⟨_, rfl⟩⟩
  · rintro ⟨rest, htext, hrest⟩
    have hcut : right = ([sep].intercalate left ++ rest).splitOn sep := by
      rw [← htext, List.splitOn_intercalate sep hrightSep hright]
    rcases hrest with rfl | ⟨more, rfl⟩
    · rw [List.append_nil, List.splitOn_intercalate sep hleftSep hleft] at hcut
      rw [hcut]
    · have hsep : (fun a => a == sep) sep = true := beq_self_eq_true sep
      rw [List.splitOn_eq_splitOnP, List.splitOnP_append_cons (p := fun a => a == sep) _ _ hsep,
        ← List.splitOn_eq_splitOnP, List.splitOn_intercalate sep hleftSep hleft] at hcut
      rw [hcut]
      exact List.prefix_append _ _

end Joined

end Lines
