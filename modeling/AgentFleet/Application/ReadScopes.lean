import AgentFleet.Domain.Paths
import AgentFleet.Domain.Security
import AgentFleet.Lib.Regex
import Mathlib.Algebra.GroupWithZero.Nat
import Mathlib.Algebra.Order.BigOperators.Group.List

/-! # The advertised pattern of the read scopes

The read tools advertise a pattern for the paths they accept, built from the scopes of the task
as text.  The pattern is a hint: what it does not match a caller does not even try, and what it
matches is still decided by `path_is_within`.

`readScopePattern_agrees` says that the pattern is found in every path that is within the scopes,
and that on canonical ASCII paths within the bounds it is found in no other. -/

namespace AgentFleet

open Regex

/-! ### The pattern -/

/-- A path that can be put into the pattern. -/
def capturable (path : String) : Bool :=
  let parsed := PurePosixPath.parse path
  !(path = "" || !(path.toList.all fun character => character.toNat < 128)
      || (path.toList.any fun character => character.toNat < 32 || character.toNat = 127)
      || ("\\*?[]".toList.any fun character => character ∈ path.toList))
    && !(path = "." || parsed.isAbsolute || parsed.str ≠ path || ".." ∈ parsed.parts
      || 64 < parsed.parts.length)

/-- `_capture_read_scopes`. -/
def captureReadScopes (paths : List String) : Option (List String) :=
  if paths = [] ∨ 32 < paths.length ∨ 4096 < (paths.map String.length).sum then none
  else if paths.all capturable then some paths
  else none

/-- The bound on the size of a pattern. -/
def maxPattern : ℕ := 8192

/-- The fragment of a character. -/
def fragment (character : Char) : List Char :=
  if 'a' ≤ character.toLower ∧ character.toLower ≤ 'z' then
    ['[', character.toLower, character.toUpper, ']']
  else if character ∈ ".^$+{}()|".toList then ['\\', character]
  else [character]

/-- One character of a scope: the size so far, and the fragments. -/
def addFragment (written : ℕ × List Char) (character : Char) : Option (ℕ × List Char) :=
  let size := written.1 + (fragment character).length
  if maxPattern < size then none else some (size, written.2 ++ fragment character)

/-- One scope: the size so far, and the alternatives. -/
def addAlternative (written : ℕ × List (List Char)) (scope : String) :
    Option (ℕ × List (List Char)) := do
  let (size, fragments) ← scope.toList.foldlM addFragment (written.1, [])
  if written.2 = [] then return (size, [fragments])
  else if maxPattern < size + 1 then none
  else return (size + 1, written.2 ++ [fragments])

/-- What stands before the alternatives. -/
def patternOpening : List Char := "(?:^(?:".toList

/-- What stands after the alternatives. -/
def patternClosing : List Char := ")(?:/|$)|[^\\x00-\\x7F])".toList

/-- `_read_scope_pattern`. -/
def readScopePattern (forms : List SecretForm) (scopes : Option (List String)) :
    Option (List Char) := do
  let scopes ← scopes
  if valueHoldsSecret forms (.arr (scopes.map .str)) then none
  else
    let (_, alternatives) ←
      scopes.foldlM addAlternative (patternOpening.length + patternClosing.length, [])
    return patternOpening ++ ['|'].intercalate alternatives ++ patternClosing

/-! ### The text of the pattern -/

variable {forms : List SecretForm} {scopes : List String} {pattern : List Char}

theorem foldlM_addFragment {written : ℕ × List Char} {text : List Char} {result : ℕ × List Char}
    (h : text.foldlM addFragment written = some result) :
    result.2 = written.2 ++ text.flatMap fragment := by
  induction text generalizing written with
  | nil =>
      obtain rfl : written = result := Option.some.inj h
      rw [List.flatMap_nil, List.append_nil]
  | cons character text ih =>
      rw [List.foldlM_cons] at h
      obtain ⟨next, hnext, hrest⟩ := Option.bind_eq_some_iff.mp h
      unfold addFragment at hnext
      dsimp only at hnext
      split_ifs at hnext
      cases hnext
      rw [ih hrest, List.flatMap_cons, List.append_assoc]

variable {written result : ℕ × List (List Char)} {a b character : Char} {outer : List Frame}
  {word : List Char}

theorem addAlternative_eq {scope : String} (h : addAlternative written scope = some result) :
    result.2 = written.2 ++ [scope.toList.flatMap fragment] := by
  unfold addAlternative at h
  obtain ⟨⟨size, fragments⟩, hfragments, h⟩ := Option.bind_eq_some_iff.mp h
  have htext := foldlM_addFragment hfragments
  rw [List.nil_append] at htext
  dsimp only at h htext
  split_ifs at h with hempty
  · cases h
    rw [hempty, List.nil_append, htext]
  · cases h
    rw [htext]

theorem foldlM_addAlternative (h : scopes.foldlM addAlternative written = some result) :
    result.2 = written.2 ++ scopes.map fun scope => scope.toList.flatMap fragment := by
  induction scopes generalizing written with
  | nil =>
      obtain rfl : written = result := Option.some.inj h
      rw [List.map_nil, List.append_nil]
  | cons scope scopes ih =>
      rw [List.foldlM_cons] at h
      obtain ⟨next, hnext, hrest⟩ := Option.bind_eq_some_iff.mp h
      rw [ih hrest, addAlternative_eq hnext, List.map_cons, List.append_assoc,
        List.singleton_append]

/-- A pattern that is built is the alternatives between its two ends. -/
theorem readScopePattern_eq (h : readScopePattern forms (some scopes) = some pattern) :
    pattern = patternOpening
      ++ ['|'].intercalate (scopes.map fun scope => scope.toList.flatMap fragment)
      ++ patternClosing := by
  unfold readScopePattern at h
  rw [Option.bind_eq_bind, Option.bind_some] at h
  split_ifs at h
  obtain ⟨⟨size, alternatives⟩, halternatives, h⟩ := Option.bind_eq_some_iff.mp h
  have htext := foldlM_addAlternative halternatives
  rw [List.nil_append] at htext
  rw [← htext]
  exact (Option.some.inj h).symm

/-! ### Letters -/

theorem toLower_toNat (character : Char) :
    character.toLower.toNat
      = if 65 ≤ character.toNat ∧ character.toNat ≤ 90 then character.toNat + 32
        else character.toNat := by
  have hval : character.val.toNat = character.toNat := rfl
  unfold Char.toLower
  split_ifs with hupper hnat hnat
  · have hlow := UInt32.le_iff_toNat_le.mp hupper.1
    have hhigh := UInt32.le_iff_toNat_le.mp hupper.2
    show (character.val + _).toNat = character.val.toNat + 32
    rw [UInt32.toNat_add]
    simp only [Char.toNat_val, Char.reduceVal, UInt32.reduceSub, UInt32.reduceToNat]
      at hlow hhigh ⊢
    omega
  · exact absurd ⟨UInt32.le_iff_toNat_le.mp hupper.1, UInt32.le_iff_toNat_le.mp hupper.2⟩ hnat
  · exact absurd ⟨UInt32.le_iff_toNat_le.mpr hnat.1, UInt32.le_iff_toNat_le.mpr hnat.2⟩ hupper
  · rfl

theorem toUpper_toNat (character : Char) :
    character.toUpper.toNat
      = if 97 ≤ character.toNat ∧ character.toNat ≤ 122 then character.toNat - 32
        else character.toNat := by
  have hval : character.val.toNat = character.toNat := rfl
  unfold Char.toUpper
  split_ifs with hlower hnat hnat
  · have hlow := UInt32.le_iff_toNat_le.mp hlower.1
    have hhigh := UInt32.le_iff_toNat_le.mp hlower.2
    have hshift : ('A'.val - 'a'.val).toNat = 4294967264 := rfl
    show (character.val + _).toNat = character.val.toNat - 32
    rw [UInt32.toNat_add]
    simp only [Char.toNat_val, Char.reduceVal, UInt32.reduceToNat] at hlow hhigh
    omega
  · exact absurd ⟨UInt32.le_iff_toNat_le.mp hlower.1, UInt32.le_iff_toNat_le.mp hlower.2⟩ hnat
  · exact absurd ⟨UInt32.le_iff_toNat_le.mpr hnat.1, UInt32.le_iff_toNat_le.mpr hnat.2⟩ hlower
  · rfl

theorem char_eq_iff : a = b ↔ a.toNat = b.toNat :=
  ⟨congrArg Char.toNat, Char.toNat_inj.mp⟩

theorem char_le_iff : a ≤ b ↔ a.toNat ≤ b.toNat := UInt32.le_iff_toNat_le

/-- A letter, as the pattern is built. -/
theorem letter_iff :
    'a' ≤ character.toLower ∧ character.toLower ≤ 'z'
      ↔ 65 ≤ character.toNat ∧ character.toNat ≤ 90
        ∨ 97 ≤ character.toNat ∧ character.toNat ≤ 122 := by
  have ha : 'a'.toNat = 97 := rfl
  have hz : 'z'.toNat = 122 := rfl
  rw [char_le_iff, char_le_iff, toLower_toNat, ha, hz]
  split_ifs <;> omega

/-! ### The expression of the pattern -/

/-- What the fragment of a character matches. -/
def fragmentClass (character : Char) : CharClass :=
  if 'a' ≤ character.toLower ∧ character.toLower ≤ 'z' then
    ⟨false, [(character.toLower, character.toLower), (character.toUpper, character.toUpper)]⟩
  else ⟨false, [(character, character)]⟩

/-- The characters that cannot be put into the pattern. -/
def ReservedCharacter (character : Char) : Prop := character ∈ "\\*?[]".toList

theorem feed_fragment {state : State} (hmode : state.mode = .plain)
    (h : ¬ ReservedCharacter character) :
    feed state (fragment character) = some (state.push (.chars (fragmentClass character))) := by
  unfold fragment fragmentClass
  by_cases hletter : 'a' ≤ character.toLower ∧ character.toLower ≤ 'z'
  · rw [if_pos hletter, if_pos hletter]
    have hnat := letter_iff.mp hletter
    have hlower := toLower_toNat character
    have hupper := toUpper_toNat character
    have hplain : ∀ other : Char, other.toNat = character.toLower.toNat
        ∨ other.toNat = character.toUpper.toNat → other ∉ ['^', ']', '-', '\\', '['] := by
      intro other hother hmem
      have hcode : other.toNat = 94 ∨ other.toNat = 93 ∨ other.toNat = 45 ∨ other.toNat = 92
          ∨ other.toNat = 91 := by
        simp only [List.mem_cons, List.not_mem_nil, or_false] at hmem
        rcases hmem with rfl | rfl | rfl | rfl | rfl <;> decide
      rw [hlower, hupper] at hother
      split_ifs at hother <;> omega
    exact feed_pair hmode (hplain _ (.inl rfl)) (hplain _ (.inr rfl))
  · rw [if_neg hletter, if_neg hletter]
    by_cases hmeta : character ∈ ".^$+{}()|".toList
    · rw [if_pos hmeta]
      have hsub : ".^$+{}()|".toList ⊆ metacharacters := by decide
      exact feed_escaped hmode (hsub hmeta)
    · rw [if_neg hmeta]
      have hsplit : metacharacters ⊆ ".^$+{}()|".toList ++ "\\*?[]".toList := by decide
      refine feed_literal hmode fun hmem => ?_
      rcases List.mem_append.mp (hsplit hmem) with hother | hother
      · exact hmeta hother
      · exact h hother

/-- An expression followed by the fragments of a scope. -/
def scopeExpr (expr : Expr) (scope : List Char) : Expr :=
  scope.foldl (fun expr character => .seq expr (.chars (fragmentClass character))) expr

/-- A group with one more scope. -/
def nextAlternative (frame : Frame) (scope : List Char) : Frame :=
  ⟨some frame.close, scopeExpr .empty scope⟩

/-- The group of the scopes. -/
def scopesFrame (first : List Char) (rest : List (List Char)) : Frame :=
  rest.foldl nextAlternative ⟨none, scopeExpr .empty first⟩

theorem feed_scope {before : Option Expr} {current : Expr} {scope : List Char}
    (h : ∀ character ∈ scope, ¬ ReservedCharacter character) :
    feed ⟨outer, ⟨before, current⟩, .plain⟩ (scope.flatMap fragment)
      = some ⟨outer, ⟨before, scopeExpr current scope⟩, .plain⟩ := by
  induction scope generalizing current with
  | nil => rfl
  | cons character scope ih =>
      obtain ⟨hfirst, hrest⟩ := List.forall_mem_cons.mp h
      rw [List.flatMap_cons, feed_append, feed_fragment rfl hfirst, Option.bind_some]
      exact ih hrest

theorem feed_alternatives {frame : Frame} {scopes : List (List Char)}
    (h : ∀ scope ∈ scopes, ∀ character ∈ scope, ¬ ReservedCharacter character) :
    feed ⟨outer, frame, .plain⟩ (scopes.flatMap fun scope => '|' :: scope.flatMap fragment)
      = some ⟨outer, scopes.foldl nextAlternative frame, .plain⟩ := by
  induction scopes generalizing frame with
  | nil => rfl
  | cons scope scopes ih =>
      obtain ⟨hfirst, hrest⟩ := List.forall_mem_cons.mp h
      have hbar : step ⟨outer, frame, .plain⟩ '|'
          = some ⟨outer, ⟨some frame.close, .empty⟩, .plain⟩ := rfl
      rw [List.flatMap_cons, List.cons_append, feed_cons, hbar, Option.bind_some, feed_append,
        feed_scope hfirst, Option.bind_some]
      exact ih hrest

theorem intercalate_cons_eq {α : Type} (sep : α) (first : List α) (rest : List (List α)) :
    [sep].intercalate (first :: rest) = first ++ rest.flatMap fun part => sep :: part := by
  induction rest generalizing first with
  | nil => rw [List.intercalate_singleton, List.flatMap_nil, List.append_nil]
  | cons second rest ih =>
      rw [List.intercalate_cons_cons, ih, List.flatMap_cons, List.append_assoc]
      rfl

/-- The end of a path, or a slash. -/
def boundary : Expr := .alt (.seq .empty (single '/')) (.seq .empty .finish)

/-- A character outside ASCII. -/
def nonAscii : CharClass := ⟨true, [(Char.ofNat 0, Char.ofNat 127)]⟩

/-- What the pattern of some scopes is read as. -/
def patternExpr (first : List Char) (rest : List (List Char)) : Expr :=
  .seq .empty (.alt
    (.seq (.seq (.seq .empty .start) (scopesFrame first rest).close) boundary)
    (.seq .empty (.chars nonAscii)))

theorem parse_pattern {first : List Char} {rest : List (List Char)}
    (h : ∀ scope ∈ first :: rest, ∀ character ∈ scope, ¬ ReservedCharacter character) :
    parse (patternOpening
      ++ ['|'].intercalate ((first :: rest).map fun scope => scope.flatMap fragment)
      ++ patternClosing) = some (patternExpr first rest) := by
  obtain ⟨hfirst, hrest⟩ := List.forall_mem_cons.mp h
  have hopening : feed .initial patternOpening
      = some ⟨[⟨none, .seq .empty .start⟩, .fresh], .fresh, .plain⟩ := by decide
  have hclosing : ∀ frame : Frame,
      feed ⟨[⟨none, .seq .empty .start⟩, .fresh], frame, .plain⟩ patternClosing
        = some ⟨[], Frame.fresh.push (.alt
          (.seq (.seq (.seq .empty .start) frame.close) boundary)
          (.seq .empty (.chars nonAscii))), .plain⟩ := fun frame => rfl
  have hscopes : feed ⟨[⟨none, .seq .empty .start⟩, .fresh], .fresh, .plain⟩
      (['|'].intercalate ((first :: rest).map fun scope => scope.flatMap fragment))
      = some ⟨[⟨none, .seq .empty .start⟩, .fresh], scopesFrame first rest, .plain⟩ := by
    rw [List.map_cons, intercalate_cons_eq, List.flatMap_map, feed_append, Frame.fresh,
      feed_scope hfirst, Option.bind_some]
    exact feed_alternatives hrest
  unfold parse
  rw [feed_append, feed_append, hopening, Option.bind_some, hscopes, Option.bind_some, hclosing]
  rfl

/-! ### What the pattern is found in -/

/-- A text that the fragments of a scope match. -/
def Spells (scope word : List Char) : Prop :=
  List.Forall₂ (fun character other => (fragmentClass character).holds other = true) scope word

section Found

variable {beforeFinal : Bool} {text first : List Char} {rest : List (List Char)} {i j : ℕ}

variable {expr : Expr}

theorem mem_ends_scopeExpr {scope : List Char} :
    j ∈ ends beforeFinal text (scopeExpr expr scope) i
      ↔ ∃ k ∈ ends beforeFinal text expr i, ∃ word, word <+: text.drop k
        ∧ Spells scope word ∧ j = k + word.length := by
  induction scope generalizing expr with
  | nil =>
      constructor
      · exact fun hj => ⟨j, hj, [], List.nil_prefix, .nil, rfl⟩
      · rintro ⟨k, hk, word, -, hspells, rfl⟩
        obtain rfl := List.forall₂_nil_left_iff.mp hspells
        exact hk
  | cons character scope ih =>
      have hcons : scopeExpr expr (character :: scope)
          = scopeExpr (.seq expr (.chars (fragmentClass character))) scope := rfl
      rw [hcons, ih]
      constructor
      · rintro ⟨k, hk, word, hword, hspells, rfl⟩
        obtain ⟨start, hstart, hk⟩ := mem_ends_seq.mp hk
        obtain ⟨other, hother, hholds, rfl⟩ := mem_ends_chars.mp hk
        refine ⟨start, hstart, other :: word, ?_, .cons hholds hspells, ?_⟩
        · obtain ⟨hlt, heq⟩ := List.getElem?_eq_some_iff.mp hother
          rw [← List.cons_getElem_drop_succ (h := hlt), heq]
          exact List.cons_prefix_cons.mpr ⟨rfl, hword⟩
        · rw [List.length_cons]
          omega
      · rintro ⟨start, hstart, word, hword, hspells, rfl⟩
        obtain ⟨other, rest, hholds, hrest, rfl⟩ := List.forall₂_cons_left_iff.mp hspells
        obtain ⟨after, hafter⟩ := hword
        have hother : text[start]? = some other := by
          have hhead : (text.drop start)[0]? = some other := by
            rw [← hafter]
            rfl
          rwa [List.getElem?_drop] at hhead
        refine ⟨start + 1, mem_ends_seq.mpr ⟨start, hstart, mem_ends_chars.mpr
          ⟨other, hother, hholds, rfl⟩⟩, rest, ⟨after, ?_⟩, hrest, ?_⟩
        · rw [← List.tail_drop, ← hafter]
          rfl
        · rw [List.length_cons]
          omega

theorem mem_ends_scopesFrame :
    j ∈ ends beforeFinal text (scopesFrame first rest).close i
      ↔ ∃ scope ∈ first :: rest, j ∈ ends beforeFinal text (scopeExpr .empty scope) i := by
  have hfold : ∀ (rest : List (List Char)) (frame : Frame),
      j ∈ ends beforeFinal text (rest.foldl nextAlternative frame).close i
        ↔ j ∈ ends beforeFinal text frame.close i
          ∨ ∃ scope ∈ rest, j ∈ ends beforeFinal text (scopeExpr .empty scope) i := by
    intro rest
    induction rest with
    | nil => exact fun frame => ⟨Or.inl, fun h => h.elim id fun ⟨_, h, _⟩ =>
        absurd h List.not_mem_nil⟩
    | cons scope rest ih =>
        intro frame
        rw [List.foldl_cons, ih, nextAlternative, Frame.close, mem_ends_alt, or_assoc]
        exact or_congr_right (List.exists_mem_cons_iff
          (fun scope => j ∈ ends beforeFinal text (scopeExpr .empty scope) i) scope rest).symm
  exact (hfold rest _).trans (List.exists_mem_cons_iff
    (fun scope => j ∈ ends beforeFinal text (scopeExpr .empty scope) i) first rest).symm

/-- The rest of a text after a scope: nothing, or more below it. -/
def Boundary (beforeFinal : Bool) (rest : List Char) : Prop :=
  rest = [] ∨ (∃ more, rest = '/' :: more) ∨ beforeFinal = true ∧ rest = ['\n']

theorem mem_ends_empty_seq :
    j ∈ ends beforeFinal text (.seq .empty expr) i ↔ j ∈ ends beforeFinal text expr i := by
  rw [mem_ends_seq]
  constructor
  · rintro ⟨k, hk, hj⟩
    rwa [mem_ends_empty.mp hk] at hj
  · exact fun hj => ⟨i, mem_ends_empty.mpr rfl, hj⟩

theorem drop_eq_nil_iff (hi : i ≤ text.length) : text.drop i = [] ↔ i = text.length := by
  rw [List.drop_eq_nil_iff]
  omega

theorem exists_mem_ends_boundary (hi : i ≤ text.length) :
    (∃ j, j ∈ ends beforeFinal text boundary i) ↔ Boundary beforeFinal (text.drop i) := by
  unfold boundary Boundary
  constructor
  · rintro ⟨j, hj⟩
    rcases mem_ends_alt.mp hj with hj | hj
    · obtain ⟨other, hother, hholds, -⟩ := mem_ends_chars.mp (mem_ends_empty_seq.mp hj)
      obtain ⟨range, hrange, hlow, hhigh⟩ := holds_iff.mp hholds
      rw [List.mem_singleton.mp hrange] at hlow hhigh
      obtain rfl : other = '/' :=
        char_eq_iff.mpr (le_antisymm (char_le_iff.mp hhigh) (char_le_iff.mp hlow))
      obtain ⟨hlt, heq⟩ := List.getElem?_eq_some_iff.mp hother
      exact .inr (.inl ⟨text.drop (i + 1), by rw [← List.cons_getElem_drop_succ (h := hlt), heq]⟩)
    · obtain ⟨hfinish, -⟩ := mem_ends_finish.mp (mem_ends_empty_seq.mp hj)
      unfold atFinish at hfinish
      rw [Bool.or_eq_true, Bool.and_eq_true, decide_eq_true_eq, decide_eq_true_eq] at hfinish
      rcases hfinish with hend | hfinal
      · exact .inl ((drop_eq_nil_iff hi).mpr hend)
      · exact .inr (.inr hfinal)
  · have hfinish : atFinish beforeFinal text i = true →
        ∃ j, j ∈ ends beforeFinal text (.alt (.seq .empty (single '/')) (.seq .empty .finish)) i :=
      fun h => ⟨i, mem_ends_alt.mpr (.inr (mem_ends_empty_seq.mpr (mem_ends_finish.mpr ⟨h, rfl⟩)))⟩
    rintro (hend | ⟨more, hmore⟩ | hfinal)
    · apply hfinish
      rw [atFinish, decide_eq_true ((drop_eq_nil_iff hi).mp hend), Bool.true_or]
    · refine ⟨i + 1, mem_ends_alt.mpr (.inl (mem_ends_empty_seq.mpr (mem_ends_chars.mpr ?_)))⟩
      refine ⟨'/', ?_, by decide, rfl⟩
      have hhead : (text.drop i)[0]? = some '/' := by
        rw [hmore]
        rfl
      rwa [List.getElem?_drop] at hhead
    · apply hfinish
      rw [atFinish, hfinal.1, decide_eq_true hfinal.2, Bool.true_and, Bool.or_true]

theorem nonAscii_holds_iff {character : Char} :
    nonAscii.holds character = true ↔ 127 < character.toNat := by
  unfold nonAscii
  rw [holds_negated_iff]
  constructor
  · intro h
    by_contra hle
    refine h ⟨_, List.mem_singleton_self _, ?_, ?_⟩
    · exact char_le_iff.mpr (Nat.zero_le _)
    · exact char_le_iff.mpr (not_lt.mp hle)
  · rintro hlt ⟨range, hrange, -, hhigh⟩
    rw [List.mem_singleton.mp hrange] at hhigh
    exact absurd (char_le_iff.mp hhigh) (not_le.mpr hlt)

/-- The pattern is found where a scope is spelled from the start up to a boundary, and in texts
outside ASCII. -/
theorem found_patternExpr :
    found beforeFinal text (patternExpr first rest) = true
      ↔ (∃ scope ∈ first :: rest, ∃ word more, text = word ++ more ∧ Spells scope word
          ∧ Boundary beforeFinal more)
        ∨ ∃ character ∈ text, 127 < character.toNat := by
  unfold patternExpr
  rw [found_iff]
  constructor
  · rintro ⟨i, hi, j, hj⟩
    rcases mem_ends_alt.mp (mem_ends_empty_seq.mp hj) with hj | hj
    · left
      obtain ⟨k, hk, hj⟩ := mem_ends_seq.mp hj
      obtain ⟨start, hstart, hk⟩ := mem_ends_seq.mp hk
      obtain ⟨-, rfl⟩ := mem_ends_start.mp (mem_ends_empty_seq.mp hstart)
      obtain ⟨scope, hscope, hk⟩ := mem_ends_scopesFrame.mp hk
      obtain ⟨_, hzero, word, ⟨more, htext⟩, hspells, rfl⟩ := mem_ends_scopeExpr.mp hk
      obtain rfl := mem_ends_empty.mp hzero
      rw [List.drop_zero] at htext
      rw [Nat.zero_add] at hj
      refine ⟨scope, hscope, word, more, htext.symm, hspells, ?_⟩
      have hlength : word.length ≤ text.length := by
        rw [← htext, List.length_append]
        omega
      have hboundary := (exists_mem_ends_boundary hlength).mp ⟨j, hj⟩
      rwa [← htext, List.drop_left] at hboundary
    · right
      obtain ⟨character, hcharacter, hholds, -⟩ := mem_ends_chars.mp (mem_ends_empty_seq.mp hj)
      exact ⟨character, List.mem_of_getElem? hcharacter, nonAscii_holds_iff.mp hholds⟩
  · rintro (⟨scope, hscope, word, more, rfl, hspells, hboundary⟩ | ⟨character, hmem, hlt⟩)
    · have hlength : word.length ≤ (word ++ more).length := by
        rw [List.length_append]
        omega
      have hdrop : (word ++ more).drop word.length = more := List.drop_left
      rw [← hdrop] at hboundary
      obtain ⟨j, hj⟩ := (exists_mem_ends_boundary hlength).mpr hboundary
      refine ⟨0, Nat.zero_le _, j, mem_ends_empty_seq.mpr (mem_ends_alt.mpr (.inl ?_))⟩
      refine mem_ends_seq.mpr ⟨word.length, mem_ends_seq.mpr ⟨0, ?_, ?_⟩, hj⟩
      · exact mem_ends_empty_seq.mpr (mem_ends_start.mpr ⟨rfl, rfl⟩)
      · refine mem_ends_scopesFrame.mpr ⟨scope, hscope, mem_ends_scopeExpr.mpr ?_⟩
        refine ⟨0, mem_ends_empty.mpr rfl, word, ?_, hspells, (Nat.zero_add _).symm⟩
        rw [List.drop_zero]
        exact List.prefix_append _ _
    · obtain ⟨i, hi, hget⟩ := List.getElem_of_mem hmem
      refine ⟨i, hi.le, i + 1, mem_ends_empty_seq.mpr (mem_ends_alt.mpr (.inr ?_))⟩
      refine mem_ends_empty_seq.mpr (mem_ends_chars.mpr ⟨character, ?_, ?_, rfl⟩)
      · exact List.getElem?_eq_some_iff.mpr ⟨hi, hget⟩
      · exact nonAscii_holds_iff.mpr hlt

end Found

/-! ### Paths in lower case -/

/-- A text in ASCII. -/
def IsAscii (text : List Char) : Prop := ∀ character ∈ text, character.toNat < 128

theorem IsAscii.of_append {left right : List Char} (h : IsAscii (left ++ right)) :
    IsAscii left ∧ IsAscii right :=
  List.forall_mem_append.mp h

/-- The fragment of a character matches the character in either case. -/
theorem fragmentClass_holds_iff {other : Char} (h : character.toNat < 128) :
    (fragmentClass character).holds other = true
      ↔ other.toNat < 128 ∧ other.toLower = character.toLower := by
  have hone : ∀ a : Char, a ≤ other ∧ other ≤ a ↔ other.toNat = a.toNat := by
    intro a
    rw [char_le_iff, char_le_iff]
    omega
  have hlower := toLower_toNat character
  have hupper := toUpper_toNat character
  rw [char_eq_iff, toLower_toNat other, hlower]
  unfold fragmentClass
  by_cases hletter : 'a' ≤ character.toLower ∧ character.toLower ≤ 'z'
  · rw [if_pos hletter, holds_iff]
    simp only [List.exists_mem_cons_iff, List.not_mem_nil, false_and, exists_false, or_false, hone,
      hlower, hupper]
    have hnat := letter_iff.mp hletter
    split_ifs <;> omega
  · rw [if_neg hletter, holds_iff]
    simp only [List.exists_mem_cons_iff, List.not_mem_nil, false_and, exists_false, or_false, hone]
    have hnat := mt letter_iff.mpr hletter
    split_ifs <;> omega

/-- A scope is spelled by the texts that are the same in lower case. -/
theorem spells_iff {scope : List Char} (h : IsAscii scope) :
    Spells scope word ↔ IsAscii word ∧ word.map Char.toLower = scope.map Char.toLower := by
  unfold Spells
  induction scope generalizing word with
  | nil =>
      rw [List.forall₂_nil_left_iff, List.map_nil, List.map_eq_nil_iff]
      constructor
      · rintro rfl
        exact ⟨fun _ hmem => absurd hmem List.not_mem_nil, rfl⟩
      · exact And.right
  | cons character scope ih =>
      obtain ⟨hfirst, hrest⟩ := List.forall_mem_cons.mp h
      cases word with
      | nil =>
          constructor
          · intro hspells
            cases hspells
          · rintro ⟨-, hmap⟩
            cases hmap
      | cons other word =>
          rw [List.forall₂_cons, fragmentClass_holds_iff hfirst, ih hrest, List.map_cons,
            List.map_cons, List.cons.injEq, IsAscii, IsAscii, List.forall_mem_cons]
          tauto

theorem utf8ByteSize_ofList {text : List Char} (h : IsAscii text) :
    (String.ofList text).utf8ByteSize = text.length := by
  induction text with
  | nil => rfl
  | cons character text ih =>
      obtain ⟨hfirst, hrest⟩ := List.forall_mem_cons.mp h
      have hsize : character.utf8Size = 1 := by
        rw [Char.utf8Size_eq_one_iff, UInt32.le_iff_toNat_le]
        exact Nat.lt_succ_iff.mp hfirst
      rw [String.ofList_cons, String.utf8ByteSize_append, String.utf8ByteSize_singleton, hsize,
        ih hrest, List.length_cons, Nat.add_comm]

/-- Lower case keeps slashes, and makes none. -/
theorem toLower_eq_slash : character.toLower = '/' ↔ character = '/' := by
  have hslash : '/'.toNat = 47 := rfl
  rw [char_eq_iff, char_eq_iff, toLower_toNat, hslash]
  split_ifs <;> omega

theorem toLower_eq_dot : character.toLower = '.' ↔ character = '.' := by
  have hdot : '.'.toNat = 46 := rfl
  rw [char_eq_iff, char_eq_iff, toLower_toNat, hdot]
  split_ifs <;> omega

/-- The parts of a path in lower case. -/
def lowerParts (path : String) : List (List Char) :=
  (PurePosixPath.parse path).parts.map fun part => part.toList.map Char.toLower

section Canonical

variable {casefold : Casefold} {path scope : String}

theorem slash_not_mem_lowerParts (h : CanonicalPath path) :
    ∀ part ∈ lowerParts path, '/' ∉ part := by
  intro part hpart hslash
  obtain ⟨text, htext, rfl⟩ := List.mem_map.mp hpart
  obtain ⟨character, hmem, hlower⟩ := List.mem_map.mp hslash
  rw [toLower_eq_slash.mp hlower] at hmem
  exact (h.mem_parts htext).2 hmem

/-- A canonical path in lower case is its parts in lower case. -/
theorem intercalate_lowerParts (h : CanonicalPath path) (hdot : path ≠ ".") :
    ['/'].intercalate (lowerParts path) = path.toList.map Char.toLower := by
  have hlower : lowerParts path
      = ((PurePosixPath.parse path).parts.map String.toList).map (List.map Char.toLower) := by
    rw [List.map_map]
    rfl
  rw [hlower, h.toList_eq hdot, Lines.map_intercalate]
  rfl

theorem lowerParts_ne_nil (h : CanonicalPath path) (hdot : path ≠ ".") : lowerParts path ≠ [] :=
  fun hnil => h.parts_ne_nil hdot (List.map_eq_nil_iff.mp hnil)

/-- The folded parts of an ASCII path are its parts in lower case. -/
theorem foldPath_eq (h : CanonicalPath path) (hascii : IsAscii path.toList) (hdot : path ≠ ".") :
    foldPath casefold.fold (PurePosixPath.parse path)
      = (lowerParts path).map String.ofList := by
  unfold foldPath lowerParts
  rw [List.map_map]
  refine List.map_congr_left fun part hpart => ?_
  refine casefold.ascii part fun character hcharacter => hascii character ?_
  rw [h.toList_eq hdot]
  exact Lines.mem_intercalate (List.mem_map_of_mem hpart) hcharacter

/-- A path is below a scope when the scope is spelled at its start, up to the end or a slash. -/
theorem foldPath_prefix_iff (hpath : CanonicalPath path) (hpathAscii : IsAscii path.toList)
    (hscope : CanonicalPath scope) (hscopeAscii : IsAscii scope.toList) (hdot : scope ≠ ".") :
    foldPath casefold.fold (PurePosixPath.parse scope)
        <+: foldPath casefold.fold (PurePosixPath.parse path)
      ↔ ∃ word more, path.toList = word ++ more ∧ Spells scope.toList word
        ∧ (more = [] ∨ ∃ below, more = '/' :: below) := by
  by_cases hpathDot : path = "."
  · subst hpathDot
    rw [foldPath_eq hscope hscopeAscii hdot]
    constructor
    · intro hprefix
      have hnil : (lowerParts scope).map String.ofList = [] := List.prefix_nil.mp hprefix
      exact absurd (List.map_eq_nil_iff.mp hnil) (lowerParts_ne_nil hscope hdot)
    · rintro ⟨word, more, htext, hspells, -⟩
      obtain ⟨-, hword⟩ := (spells_iff hscopeAscii).mp hspells
      have hlist : ".".toList = ['.'] := by decide
      rw [hlist] at htext
      cases word with
      | nil =>
          have hnil : scope.toList = [] := List.map_eq_nil_iff.mp hword.symm
          exact absurd (String.toList_eq_nil_iff.mp hnil) hscope.nonempty
      | cons first word =>
          rw [List.cons_append, List.cons.injEq] at htext
          obtain ⟨rfl, hrest⟩ := htext
          obtain ⟨rfl, -⟩ := List.append_eq_nil_iff.mp hrest.symm
          obtain ⟨character, hcharacter, hlower⟩ := List.map_eq_singleton_iff.mp hword.symm
          have hlowerDot : '.'.toLower = '.' := by decide
          rw [hlowerDot, toLower_eq_dot] at hlower
          rw [hlower, ← hlist] at hcharacter
          exact absurd (String.toList_inj.mp hcharacter) hdot
  · rw [foldPath_eq hscope hscopeAscii hdot, foldPath_eq hpath hpathAscii hpathDot,
      List.prefix_map_iff_of_injective fun _ _ => String.ofList_injective,
      Lines.isPrefix_iff_intercalate (lowerParts_ne_nil hscope hdot)
        (lowerParts_ne_nil hpath hpathDot) (slash_not_mem_lowerParts hscope)
        (slash_not_mem_lowerParts hpath),
      intercalate_lowerParts hscope hdot, intercalate_lowerParts hpath hpathDot]
    constructor
    · rintro ⟨rest, htext, hrest⟩
      obtain ⟨word, more, hsplit, hword, rfl⟩ := List.map_eq_append_iff.mp htext
      rw [hsplit] at hpathAscii
      refine ⟨word, more, hsplit, (spells_iff hscopeAscii).mpr ⟨hpathAscii.of_append.1, hword⟩, ?_⟩
      rcases hrest with hnil | ⟨below, hbelow⟩
      · exact .inl (List.map_eq_nil_iff.mp hnil)
      · obtain ⟨slash, below', rfl, hslash, -⟩ := List.map_eq_cons_iff.mp hbelow
        rw [toLower_eq_slash.mp hslash]
        exact .inr ⟨below', rfl⟩
    · rintro ⟨word, more, hsplit, hspells, hmore⟩
      obtain ⟨-, hword⟩ := (spells_iff hscopeAscii).mp hspells
      refine ⟨more.map Char.toLower, by rw [hsplit, List.map_append, hword], ?_⟩
      rcases hmore with rfl | ⟨below, rfl⟩
      · exact .inl rfl
      · exact .inr ⟨below.map Char.toLower, by rw [List.map_cons, toLower_eq_slash.mpr rfl]⟩

end Canonical

/-! ### The pattern and the predicate -/

/-- What the tests of `_capture_read_scopes` say of a path. -/
theorem capturable_iff {path : String} :
    capturable path = true
      ↔ path ≠ "" ∧ IsAscii path.toList
        ∧ (∀ character ∈ path.toList, 32 ≤ character.toNat ∧ character.toNat ≠ 127)
        ∧ (∀ character ∈ path.toList, ¬ ReservedCharacter character)
        ∧ path ≠ "." ∧ ¬ (PurePosixPath.parse path).isAbsolute
        ∧ (PurePosixPath.parse path).str = path ∧ ".." ∉ (PurePosixPath.parse path).parts
        ∧ (PurePosixPath.parse path).parts.length ≤ 64 := by
  unfold capturable IsAscii ReservedCharacter
  simp only [Bool.and_eq_true, Bool.not_eq_true', Bool.or_eq_false_iff, decide_eq_false_iff_not,
    Bool.not_eq_false', List.all_eq_true, decide_eq_true_eq, List.any_eq_false, Bool.or_eq_true,
    not_or, not_lt, not_not, ne_eq]
  constructor
  · rintro ⟨⟨⟨⟨hempty, hascii⟩, hcontrol⟩, hreserved⟩, ⟨⟨⟨hdot, habsolute⟩, hnormal⟩, hup⟩, hlength⟩
    exact ⟨hempty, hascii, hcontrol, fun character hmem hin => hreserved character hin hmem, hdot,
      habsolute, hnormal, hup, hlength⟩
  · rintro ⟨hempty, hascii, hcontrol, hreserved, hdot, habsolute, hnormal, hup, hlength⟩
    exact ⟨⟨⟨⟨hempty, hascii⟩, hcontrol⟩, fun character hin hmem => hreserved character hmem hin⟩,
      ⟨⟨⟨hdot, habsolute⟩, hnormal⟩, hup⟩, hlength⟩

/-- A captured scope is canonical, and within the bounds of the predicate. -/
structure Captured (scope : String) : Prop where
  canonical : CanonicalPath scope
  ascii : IsAscii scope.toList
  notRoot : scope ≠ "."
  plain : ∀ character ∈ scope.toList, ¬ ReservedCharacter character
  bounded : ∀ casefold, components casefold scope ≠ none

theorem captured_of_capturable {scope : String} (h : capturable scope = true)
    (hlength : scope.length ≤ 4096) : Captured scope := by
  obtain ⟨hempty, hascii, hcontrol, hreserved, hdot, habsolute, hnormal, hup, hparts⟩ :=
    capturable_iff.mp h
  have hbackslash : '\\' ∉ scope.toList := fun hmem =>
    hreserved '\\' hmem (by unfold ReservedCharacter; decide)
  have hcanonical : CanonicalPath scope := ⟨hempty, hbackslash, habsolute, hnormal, hup⟩
  have hbytes : scope.utf8ByteSize ≤ 4096 := by
    have hsize := utf8ByteSize_ofList hascii
    rw [String.ofList_toList, String.length_toList] at hsize
    rwa [hsize]
  refine ⟨hcanonical, hascii, hdot, hreserved, fun casefold hnone => ?_⟩
  have hsome : components casefold scope = some (foldPath casefold (PurePosixPath.parse scope)) :=
    components_eq_some_iff.mpr ⟨hcanonical, hbytes, fun character hmem =>
      (hcontrol character hmem).1, hparts, rfl⟩
  rw [hnone] at hsome
  cases hsome

theorem captured_of_captureReadScopes {paths : List String}
    (h : captureReadScopes paths = some scopes) :
    scopes = paths ∧ paths ≠ [] ∧ ∀ scope ∈ paths, Captured scope := by
  unfold captureReadScopes at h
  split_ifs at h with hbounds hall
  obtain rfl : paths = scopes := Option.some.inj h
  rw [not_or, not_or, not_lt, not_lt] at hbounds
  refine ⟨rfl, hbounds.1, fun scope hscope => ?_⟩
  have hlength : scope.length ≤ (paths.map String.length).sum :=
    List.le_sum_of_mem (List.mem_map_of_mem hscope)
  exact captured_of_capturable (List.all_eq_true.mp hall scope hscope)
    (hlength.trans hbounds.2.2)

/-- What the pattern of captured scopes is found in. -/
theorem search_iff (beforeFinal : Bool) (text : List Char) (hne : scopes ≠ [])
    (hscopes : ∀ scope ∈ scopes, Captured scope)
    (h : readScopePattern forms (some scopes) = some pattern) :
    ∃ matched, search beforeFinal pattern text = some matched ∧ (matched = true
      ↔ (∃ scope ∈ scopes, ∃ word more, text = word ++ more ∧ Spells scope.toList word
          ∧ Boundary beforeFinal more)
        ∨ ∃ character ∈ text, 127 < character.toNat) := by
  obtain ⟨first, rest, rfl⟩ := List.exists_cons_of_ne_nil hne
  have hmap : (first :: rest).map (fun scope => scope.toList.flatMap fragment)
      = (first.toList :: rest.map String.toList).map fun scope => scope.flatMap fragment := by
    rw [← List.map_cons, List.map_map]
    rfl
  have hplain : ∀ scope ∈ first.toList :: rest.map String.toList, ∀ character ∈ scope,
      ¬ ReservedCharacter character := by
    rw [← List.map_cons]
    intro scope hscope
    obtain ⟨path, hpath, rfl⟩ := List.mem_map.mp hscope
    exact (hscopes path hpath).plain
  have hpattern := readScopePattern_eq h
  rw [hmap] at hpattern
  refine ⟨_, by rw [search, hpattern, parse_pattern hplain]; rfl, ?_⟩
  rw [found_patternExpr, ← List.map_cons]
  simp only [List.mem_map, exists_exists_and_eq_and]

/-- The predicate on an ASCII path with components. -/
theorem pathIsWithin_iff_spells {casefold : Casefold} {path : String} {parts : List String}
    (hparts : components casefold.fold path = some parts) (hascii : IsAscii path.toList)
    (hscopes : ∀ scope ∈ scopes, Captured scope) :
    pathIsWithin casefold.fold path scopes = true
      ↔ ∃ scope ∈ scopes, ∃ word more, path.toList = word ++ more ∧ Spells scope.toList word
        ∧ (more = [] ∨ ∃ below, more = '/' :: below) := by
  obtain ⟨hcanonical, -, -, -, hfold⟩ := components_eq_some_iff.mp hparts
  have hspells : ∀ scope ∈ scopes, foldPath casefold.fold (PurePosixPath.parse scope) <+: parts
      ↔ ∃ word more, path.toList = word ++ more ∧ Spells scope.toList word
        ∧ (more = [] ∨ ∃ below, more = '/' :: below) := by
    intro scope hscope
    have hcaptured := hscopes scope hscope
    rw [← hfold]
    exact foldPath_prefix_iff hcanonical hascii hcaptured.canonical hcaptured.ascii
      hcaptured.notRoot
  rw [pathIsWithin_iff]
  constructor
  · rintro ⟨parts', hparts', -, -, scope, hscope, item, hitem, hbelow⟩
    obtain rfl : parts = parts' := Option.some.inj (hparts.symm.trans hparts')
    rw [components_eq hitem] at hbelow
    exact ⟨scope, hscope, (hspells scope hscope).mp hbelow⟩
  · rintro ⟨scope, hscope, hword⟩
    refine ⟨parts, hparts, fun other hother => (hscopes other hother).bounded _,
      fun other hother => absurd hother List.not_mem_nil, scope, hscope, ?_⟩
    obtain ⟨item, hitem⟩ := Option.ne_none_iff_exists'.mp ((hscopes scope hscope).bounded _)
    refine ⟨item, hitem, ?_⟩
    rw [components_eq hitem]
    exact (hspells scope hscope).mpr hword

/-- Without control characters a boundary is the end or a slash. -/
theorem boundary_iff {beforeFinal : Bool} {more : List Char}
    (h : ∀ character ∈ word ++ more, 32 ≤ character.toNat) :
    Boundary beforeFinal more ↔ more = [] ∨ ∃ below, more = '/' :: below := by
  unfold Boundary
  constructor
  · rintro (hnil | hslash | ⟨-, rfl⟩)
    · exact .inl hnil
    · exact .inr hslash
    · have hfeed := h '\n' (List.mem_append_right _ (List.mem_singleton_self _))
      exact absurd hfeed (by decide)
  · rintro (hnil | hslash)
    · exact .inl hnil
    · exact .inr (.inl hslash)

/-- On an ASCII path with components the pattern is found exactly when the predicate holds. -/
theorem search_eq_pathIsWithin {casefold : Casefold} {beforeFinal : Bool} {path : String}
    {parts : List String} (hne : scopes ≠ []) (hscopes : ∀ scope ∈ scopes, Captured scope)
    (h : readScopePattern forms (some scopes) = some pattern)
    (hparts : components casefold.fold path = some parts) (hascii : IsAscii path.toList) :
    search beforeFinal pattern path.toList = some (pathIsWithin casefold.fold path scopes) := by
  obtain ⟨matched, hsearch, hmatched⟩ := search_iff beforeFinal path.toList hne hscopes h
  obtain ⟨-, -, hcontrol, -⟩ := components_eq_some_iff.mp hparts
  rw [hsearch, Option.some.injEq, Bool.eq_iff_iff, hmatched,
    pathIsWithin_iff_spells hparts hascii hscopes]
  have hnone : ¬ ∃ character ∈ path.toList, 127 < character.toNat := by
    rintro ⟨character, hmem, hlt⟩
    exact absurd (hascii character hmem) (not_lt.mpr hlt)
  rw [or_iff_left hnone]
  refine exists_congr fun scope => and_congr_right fun _ => ?_
  refine exists_congr fun word => exists_congr fun more => and_congr_right fun hsplit => ?_
  rw [hsplit] at hcontrol
  exact and_congr_right fun _ => boundary_iff hcontrol

/-- The pattern is found in every path within the scopes, and on canonical ASCII paths within the
bounds in no others. -/
theorem readScopePattern_agrees (casefold : Casefold) (forms : List SecretForm)
    (beforeFinal : Bool) (paths : List String) (pattern : List Char)
    (h : readScopePattern forms (captureReadScopes paths) = some pattern) (path : String) :
    (pathIsWithin casefold.fold path paths = true →
        search beforeFinal pattern path.toList = some true)
      ∧ (CanonicalPath path →
          (∀ character ∈ path.toList, 32 ≤ character.toNat ∧ character.toNat < 127) →
          (PurePosixPath.parse path).parts.length ≤ 64 → path.utf8ByteSize ≤ 4096 →
          search beforeFinal pattern path.toList
            = some (pathIsWithin casefold.fold path paths)) := by
  cases hcapture : captureReadScopes paths with
  | none =>
      rw [hcapture] at h
      cases h
  | some scopes =>
      obtain ⟨rfl, hne, hscopes⟩ := captured_of_captureReadScopes hcapture
      rw [hcapture] at h
      constructor
      · intro hwithin
        by_cases hascii : IsAscii path.toList
        · obtain ⟨parts, hparts, -⟩ := pathIsWithin_iff.mp hwithin
          rw [search_eq_pathIsWithin hne hscopes h hparts hascii, hwithin]
        · obtain ⟨matched, hsearch, hmatched⟩ :=
            search_iff beforeFinal path.toList hne hscopes h
          obtain ⟨character, hcharacter⟩ := not_forall.mp hascii
          obtain ⟨hmem, hle⟩ := Classical.not_imp.mp hcharacter
          rw [hsearch, hmatched.mpr (.inr ⟨character, hmem, not_lt.mp hle⟩)]
      · intro hcanonical hplain hlength hbytes
        refine search_eq_pathIsWithin hne hscopes h (components_eq_some_iff.mpr ⟨hcanonical,
          hbytes, fun character hmem => (hplain character hmem).1, hlength, rfl⟩) ?_
        exact fun character hmem => (hplain character hmem).2.trans (by decide)

theorem readScopePattern_agrees_src :
    let pattern := "(?:^(?:[sS][rR][cC])(?:/|$)|[^\\x00-\\x7F])".toList
    readScopePattern [] (captureReadScopes ["src"]) = some pattern
      ∧ (pathIsWithin lowerCasefold.fold "SRC/core.py" ["src"] = true →
        search false pattern "SRC/core.py".toList = some true)
      ∧ search false pattern "srcs".toList
        = some (pathIsWithin lowerCasefold.fold "srcs" ["src"]) := by
  have hpattern : readScopePattern [] (captureReadScopes ["src"])
      = some "(?:^(?:[sS][rR][cC])(?:/|$)|[^\\x00-\\x7F])".toList := by decide
  refine ⟨hpattern, ?_, ?_⟩
  · exact (readScopePattern_agrees lowerCasefold [] false ["src"] _ hpattern "SRC/core.py").1
  · have hplain : ("srcs".toList.all fun character =>
        32 ≤ character.toNat && character.toNat < 127) = true := by decide
    refine (readScopePattern_agrees lowerCasefold [] false ["src"] _ hpattern "srcs").2 ?_ ?_
      (by decide) (by decide)
    · exact ⟨by decide, by decide, by decide, by decide, by decide⟩
    · intro character hmem
      have hboth := List.all_eq_true.mp hplain character hmem
      rwa [Bool.and_eq_true, decide_eq_true_eq, decide_eq_true_eq] at hboth

end AgentFleet
