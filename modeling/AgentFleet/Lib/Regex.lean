import Mathlib.Data.List.Basic
import Mathlib.Tactic.Common

/-! # A notation of regular expressions

The part of the usual notation without repetition: literal characters, escaped metacharacters,
classes of single characters and ranges, anchors, alternatives and groups that capture nothing.
`parse` reads a pattern character by character; whatever is outside this part is refused, so a
pattern that is read has its usual meaning.

`search` looks for a match anywhere in a text.  Engines differ on whether `$` also matches before
a line feed at the end, so that is a parameter.

* `mem_ends_seq`, `mem_ends_alt` and their like say where a match can end.
* `feed_append` reads a pattern in pieces; `feed_literal`, `feed_escaped` and `feed_letters` are
  the pieces for one character. -/

namespace Regex

/-- A set of characters, or its complement. -/
structure CharClass where
  negated : Bool
  ranges : List (Char × Char)
deriving DecidableEq, Repr

def CharClass.holds (chars : CharClass) (character : Char) : Bool :=
  (chars.ranges.any fun range => range.1 ≤ character && character ≤ range.2) != chars.negated

inductive Expr where
  | empty
  | start
  | finish
  | chars (chars : CharClass)
  | seq (left right : Expr)
  | alt (left right : Expr)
deriving DecidableEq, Repr

/-! ### Matching -/

section Matching

variable (beforeFinal : Bool) (text : List Char)

/-- The positions at which `$` matches. -/
def atFinish (position : ℕ) : Bool :=
  position = text.length || (beforeFinal && text.drop position = ['\n'])

/-- The positions at which a match from a position can end. -/
@[simp] def ends : Expr → ℕ → List ℕ
  | .empty, i => [i]
  | .start, i => if i = 0 then [i] else []
  | .finish, i => if atFinish beforeFinal text i then [i] else []
  | .chars chars, i =>
      match text[i]? with
      | some character => if chars.holds character then [i + 1] else []
      | none => []
  | .seq left right, i => (ends left i).flatMap (ends right)
  | .alt left right, i => ends left i ++ ends right i

/-- A match somewhere in the text. -/
def found (expr : Expr) : Bool :=
  (List.range (text.length + 1)).any fun i => !(ends beforeFinal text expr i).isEmpty

end Matching

/-! ### Reading -/

/-- An open group: the alternatives that are complete and the current one. -/
structure Frame where
  before : Option Expr
  current : Expr
deriving DecidableEq, Repr

def Frame.fresh : Frame := ⟨none, .empty⟩

/-- The group with its last alternative. -/
def Frame.close (frame : Frame) : Expr :=
  match frame.before with
  | none => frame.current
  | some before => .alt before frame.current

def Frame.push (frame : Frame) (expr : Expr) : Frame :=
  { frame with current := .seq frame.current expr }

/-- A class that is being read; `ranged` after a hyphen, `opened` before its first character. -/
structure OpenClass where
  opened : Bool
  negated : Bool
  ranges : List (Char × Char)
  ranged : Bool
deriving DecidableEq, Repr

/-- One more character of a class, or the end of a range. -/
def OpenClass.add (chars : OpenClass) (character : Char) : Option OpenClass :=
  if chars.ranged then
    match chars.ranges.getLast? with
    | some (low, _) =>
        if low ≤ character then
          some { chars with ranges := chars.ranges.dropLast ++ [(low, character)], ranged := false }
        else none
    | none => none
  else
    some { chars with opened := false, ranges := chars.ranges ++ [(character, character)] }

/-- What the next character belongs to. -/
inductive Mode where
  | plain
  | escaped
  | group
  | groupKind
  | inClass (chars : OpenClass)
  | classEscaped (chars : OpenClass)
  | classHex (chars : OpenClass) (digits : List ℕ)
deriving DecidableEq, Repr

structure State where
  outer : List Frame
  frame : Frame
  mode : Mode
deriving DecidableEq, Repr

def State.initial : State := ⟨[], .fresh, .plain⟩

/-- The characters with a meaning of their own outside classes. -/
def metacharacters : List Char := "\\^$.*+?()[]{}|".toList

/-- A single character. -/
def single (character : Char) : Expr := .chars ⟨false, [(character, character)]⟩

def State.push (state : State) (expr : Expr) : State :=
  { state with frame := state.frame.push expr, mode := .plain }

def hexDigit? (character : Char) : Option ℕ :=
  if '0' ≤ character ∧ character ≤ '9' then some (character.toNat - 48)
  else if 'A' ≤ character ∧ character ≤ 'F' then some (character.toNat - 55)
  else if 'a' ≤ character ∧ character ≤ 'f' then some (character.toNat - 87)
  else none

/-- A character outside classes, groups and escapes. -/
def plainStep (state : State) (character : Char) : Option State :=
  if character = '\\' then some { state with mode := .escaped }
  else if character = '(' then some { state with mode := .group }
  else if character = ')' then
    match state.outer with
    | [] => none
    | frame :: outer => some ⟨outer, frame.push state.frame.close, .plain⟩
  else if character = '|' then
    some { state with frame := ⟨some state.frame.close, .empty⟩ }
  else if character = '^' then some (state.push .start)
  else if character = '$' then some (state.push .finish)
  else if character = '[' then some { state with mode := .inClass ⟨true, false, [], false⟩ }
  else if character ∈ metacharacters then none
  else some (state.push (single character))

/-- A character of a class. -/
def classStep (state : State) (chars : OpenClass) (character : Char) : Option State :=
  if character = '^' then
    if chars.opened ∧ ¬ chars.negated then
      some { state with mode := .inClass { chars with negated := true } }
    else none
  else if character = ']' then
    if chars.opened ∨ chars.ranged then none
    else some (state.push (.chars ⟨chars.negated, chars.ranges⟩))
  else if character = '-' then
    if chars.opened ∨ chars.ranged then none
    else some { state with mode := .inClass { chars with ranged := true } }
  else if character = '\\' then some { state with mode := .classEscaped chars }
  else if character = '[' then none
  else (chars.add character).map fun chars => { state with mode := .inClass chars }

/-- One character of a pattern. -/
def step (state : State) (character : Char) : Option State :=
  match state.mode with
  | .plain => plainStep state character
  | .escaped =>
      if character ∈ metacharacters then some (state.push (single character)) else none
  | .group => if character = '?' then some { state with mode := .groupKind } else none
  | .groupKind =>
      if character = ':' then some ⟨state.frame :: state.outer, .fresh, .plain⟩ else none
  | .inClass chars => classStep state chars character
  | .classEscaped chars =>
      if character = 'x' then some { state with mode := .classHex chars [] } else none
  | .classHex chars digits => do
      let digit ← hexDigit? character
      match digits with
      | [] => return { state with mode := .classHex chars [digit] }
      | high :: _ =>
          let chars ← chars.add (Char.ofNat (16 * high + digit))
          return { state with mode := .inClass chars }

/-- A piece of a pattern. -/
def feed (state : State) (pattern : List Char) : Option State := pattern.foldlM step state

/-- The expression of a pattern. -/
def parse (pattern : List Char) : Option Expr := do
  let state ← feed .initial pattern
  if state.mode = .plain ∧ state.outer = [] then return state.frame.close else none

/-- Whether a pattern is found in a text. -/
def search (beforeFinal : Bool) (pattern text : List Char) : Option Bool :=
  (parse pattern).map (found beforeFinal text)

/-! ### Where a match can end -/

section Ends

variable {beforeFinal : Bool} {text : List Char} {left right : Expr} {i j : ℕ}

@[simp] theorem mem_ends_empty : j ∈ ends beforeFinal text .empty i ↔ j = i := by
  rw [ends, List.mem_singleton]

@[simp] theorem mem_ends_start : j ∈ ends beforeFinal text .start i ↔ i = 0 ∧ j = 0 := by
  rw [ends]
  split_ifs with h
  · rw [List.mem_singleton, h]
    exact ⟨fun hj => ⟨rfl, hj⟩, And.right⟩
  · exact ⟨fun hj => absurd hj List.not_mem_nil, fun hj => absurd hj.1 h⟩

theorem mem_ends_finish :
    j ∈ ends beforeFinal text .finish i ↔ atFinish beforeFinal text i = true ∧ j = i := by
  rw [ends]
  split_ifs with h
  · rw [List.mem_singleton]
    exact ⟨fun hj => ⟨h, hj⟩, And.right⟩
  · exact ⟨fun hj => absurd hj List.not_mem_nil, fun hj => absurd hj.1 h⟩

theorem mem_ends_chars {chars : CharClass} :
    j ∈ ends beforeFinal text (.chars chars) i
      ↔ ∃ character, text[i]? = some character ∧ chars.holds character = true ∧ j = i + 1 := by
  rw [ends]
  cases text[i]? with
  | none =>
      constructor
      · exact fun hj => absurd hj List.not_mem_nil
      · rintro ⟨character, h, -⟩
        cases h
  | some character =>
      dsimp only
      split_ifs with h
      · rw [List.mem_singleton]
        constructor
        · exact fun hj => ⟨character, rfl, h, hj⟩
        · exact fun ⟨_, _, _, hj⟩ => hj
      · constructor
        · exact fun hj => absurd hj List.not_mem_nil
        · rintro ⟨_, heq, hholds, -⟩
          cases heq
          exact absurd hholds h

theorem mem_ends_seq :
    j ∈ ends beforeFinal text (.seq left right) i
      ↔ ∃ k ∈ ends beforeFinal text left i, j ∈ ends beforeFinal text right k := by
  rw [ends, List.mem_flatMap]

theorem mem_ends_alt :
    j ∈ ends beforeFinal text (.alt left right) i
      ↔ j ∈ ends beforeFinal text left i ∨ j ∈ ends beforeFinal text right i := by
  rw [ends, List.mem_append]

theorem found_iff {expr : Expr} :
    found beforeFinal text expr = true
      ↔ ∃ i ≤ text.length, ∃ j, j ∈ ends beforeFinal text expr i := by
  unfold found
  rw [List.any_eq_true]
  constructor
  · rintro ⟨i, hi, hends⟩
    rw [Bool.not_eq_true', List.isEmpty_eq_false_iff] at hends
    obtain ⟨j, hj⟩ := List.exists_mem_of_ne_nil _ hends
    exact ⟨i, Nat.lt_succ_iff.mp (List.mem_range.mp hi), j, hj⟩
  · rintro ⟨i, hi, j, hj⟩
    refine ⟨i, List.mem_range.mpr (Nat.lt_succ_iff.mpr hi), ?_⟩
    rw [Bool.not_eq_true', List.isEmpty_eq_false_iff]
    exact List.ne_nil_of_mem hj

end Ends

/-- A class holds what lies in one of its ranges. -/
theorem holds_iff {ranges : List (Char × Char)} {character : Char} :
    (CharClass.mk false ranges).holds character = true
      ↔ ∃ range ∈ ranges, range.1 ≤ character ∧ character ≤ range.2 := by
  unfold CharClass.holds
  rw [Bool.bne_false, List.any_eq_true]
  exact exists_congr fun range => and_congr_right fun _ => by
    rw [Bool.and_eq_true, decide_eq_true_eq, decide_eq_true_eq]

/-- The complement of a class holds what lies in none of its ranges. -/
theorem holds_negated_iff {ranges : List (Char × Char)} {character : Char} :
    (CharClass.mk true ranges).holds character = true
      ↔ ¬ ∃ range ∈ ranges, range.1 ≤ character ∧ character ≤ range.2 := by
  rw [← holds_iff]
  unfold CharClass.holds
  dsimp only
  rw [Bool.bne_true, Bool.bne_false, Bool.not_eq_true', Bool.not_eq_true]

/-! ### Reading in pieces -/

section Feed

variable {state state' : State} {character : Char} {pattern rest : List Char}

theorem feed_cons : feed state (character :: rest) = (step state character).bind (feed · rest) :=
  rfl

theorem feed_append : feed state (pattern ++ rest) = (feed state pattern).bind (feed · rest) := by
  unfold feed
  rw [List.foldlM_append]
  rfl

/-- A character without a meaning of its own stands for itself. -/
theorem feed_literal (hmode : state.mode = .plain) (h : character ∉ metacharacters) :
    feed state [character] = some (state.push (single character)) := by
  have hne : ∀ other ∈ metacharacters, character ≠ other := fun other hother heq =>
    h (heq ▸ hother)
  rw [feed_cons, step, hmode]
  dsimp only
  rw [plainStep, if_neg (hne '\\' (by decide)), if_neg (hne '(' (by decide)),
    if_neg (hne ')' (by decide)), if_neg (hne '|' (by decide)), if_neg (hne '^' (by decide)),
    if_neg (hne '$' (by decide)), if_neg (hne '[' (by decide)), if_neg h]
  rfl

/-- A character with a meaning of its own stands for itself behind a backslash. -/
theorem feed_escaped (hmode : state.mode = .plain) (h : character ∈ metacharacters) :
    feed state ['\\', character] = some (state.push (single character)) := by
  rw [feed_cons, step, hmode]
  dsimp only
  rw [plainStep, if_pos rfl, Option.bind_some, feed_cons, step]
  dsimp only
  rw [if_pos h]
  rfl

/-- Two characters in brackets stand for either of them. -/
theorem feed_pair {other : Char} (hmode : state.mode = .plain)
    (h : character ∉ ['^', ']', '-', '\\', '[']) (hother : other ∉ ['^', ']', '-', '\\', '[']) :
    feed state ['[', character, other, ']']
      = some (state.push (.chars ⟨false, [(character, character), (other, other)]⟩)) := by
  simp only [List.mem_cons, List.not_mem_nil, or_false, not_or] at h hother
  have hopen : step state '[' = some { state with mode := .inClass ⟨true, false, [], false⟩ } := by
    rw [step, hmode]
    rfl
  rw [feed_cons, hopen, Option.bind_some, feed_cons, step]
  dsimp only
  rw [classStep, if_neg h.1, if_neg h.2.1, if_neg h.2.2.1, if_neg h.2.2.2.1, if_neg h.2.2.2.2,
    OpenClass.add, if_neg Bool.false_ne_true, Option.map_some, Option.bind_some, feed_cons, step]
  dsimp only
  rw [classStep, if_neg hother.1, if_neg hother.2.1, if_neg hother.2.2.1, if_neg hother.2.2.2.1,
    if_neg hother.2.2.2.2, OpenClass.add, if_neg Bool.false_ne_true]
  rfl

end Feed

example : search false "(?:^a|[^\\x00-\\x7F])".toList "aé".toList = some true := by decide

end Regex
