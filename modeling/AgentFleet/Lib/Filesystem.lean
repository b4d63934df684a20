import Mathlib.Data.List.Infix
import Mathlib.Tactic.Common

/-! # Directory trees with symbolic links

A tree is a finite table of entries: directories, files and symbolic links.  `walk` is the
lookup of an operating system: it goes along a path, follows every link it meets and gives up
after a number of them.  `realpath` is the lookup of a library: it has no such number, and it
can go on where a component is missing.

* `walk_append` splits a walk at any point of its path.
* `realpath_of_walk` says that the two lookups agree on what the walk finds.
* `walk_names` says that a location without links in it is walked to as it stands. -/

namespace Filesystem

/-- A component of a path. -/
inductive Component (ν : Type) where
  | here
  | up
  | name (name : ν)
deriving DecidableEq

/-- The text of a symbolic link: from the root or from the link's own directory. -/
structure Target (ν : Type) where
  absolute : Bool
  parts : List (Component ν)
deriving DecidableEq

inductive Entry (ν : Type) where
  | directory
  | file
  | link (target : Target ν)
deriving DecidableEq

/-- A place in a tree: the names from the root to it. -/
abbrev Location (ν : Type) := List ν

/-- A tree of directories: everything in it is in a directory. -/
structure FileTree (ν : Type) [DecidableEq ν] where
  entries : List (Location ν × Entry ν)
  rooted : entries.lookup [] = some .directory
  parents : ∀ entry ∈ entries, entries.lookup entry.1.dropLast = some .directory

/-- How a walk ends. -/
inductive Outcome (ν : Type) where
  /-- At an entry that is no link; so many links could still have been followed. -/
  | found (location : Location ν) (left : ℕ)
  /-- In a directory that does not have the name. -/
  | absent (directory : Location ν) (name : ν) (rest : List (Component ν))
  | notDirectory
  | tooManyLinks
deriving DecidableEq

/-- The names of a path that has only names. -/
@[simp] def namesOf {ν : Type} : List (Component ν) → Option (List ν)
  | [] => some []
  | .name name :: rest => (namesOf rest).map (name :: ·)
  | _ :: _ => none

@[simp] theorem namesOf_map {ν : Type} (names : List ν) :
    namesOf (names.map Component.name) = some names := by
  induction names with
  | nil => rfl
  | cons name names ih => rw [List.map_cons, namesOf, ih, Option.map_some]

/-- The place that is opened or made where a walk ends: what it found, or what it found absent
with the directories on the way to it. -/
def Outcome.destination {ν : Type} : Outcome ν → Option (Location ν)
  | .found location _ => some location
  | .absent directory name rest => (namesOf rest).map fun names => directory ++ name :: names
  | .notDirectory => none
  | .tooManyLinks => none

variable {ν : Type} [DecidableEq ν]

namespace FileTree

variable (tree : FileTree ν)

def entry (location : Location ν) : Option (Entry ν) := tree.entries.lookup location

/-- Where the target of a link in a directory is looked up from. -/
def origin (directory : Location ν) (target : Target ν) : Location ν :=
  if target.absolute then [] else directory

/-- A walk that may follow `left` more links, the next of them by `follow`. -/
@[simp] def walkWith (left : ℕ) (follow : Location ν → List (Component ν) → Outcome ν) :
    Location ν → List (Component ν) → Outcome ν
  | location, [] => .found location left
  | location, .here :: rest =>
      if tree.entry location = some .directory then walkWith left follow location rest
      else .notDirectory
  | location, .up :: rest =>
      if tree.entry location = some .directory then walkWith left follow location.dropLast rest
      else .notDirectory
  | location, .name name :: rest =>
      if tree.entry location = some .directory then
        match tree.entry (location ++ [name]) with
        | none => .absent location name rest
        | some (.link target) => follow (origin location target) (target.parts ++ rest)
        | some _ => walkWith left follow (location ++ [name]) rest
      else .notDirectory

/-- The walk from a location along a path; at most so many links are followed. -/
@[simp] def walk : ℕ → Location ν → List (Component ν) → Outcome ν
  | 0 => tree.walkWith 0 fun _ _ => .tooManyLinks
  | left + 1 => tree.walkWith (left + 1) (walk left)

/-- A lookup that resolves a link by `resolve` before it goes on; `strict` refuses a missing
component. -/
@[simp] def realpathWith (strict : Bool) (resolve : Location ν → List (Component ν) → Option (Location ν)) :
    Location ν → List (Component ν) → Option (Location ν)
  | location, [] => some location
  | location, .here :: rest => realpathWith strict resolve location rest
  | location, .up :: rest => realpathWith strict resolve location.dropLast rest
  | location, .name name :: rest =>
      match tree.entry (location ++ [name]) with
      | none => if strict then none else realpathWith strict resolve (location ++ [name]) rest
      | some (.link target) => do
          let location ← resolve (origin location target) target.parts
          realpathWith strict resolve location rest
      | some _ => realpathWith strict resolve (location ++ [name]) rest

/-- The lookup with links inside links up to a depth. -/
@[simp] def realpath (strict : Bool) : ℕ → Location ν → List (Component ν) → Option (Location ν)
  | 0 => tree.realpathWith strict fun _ _ => none
  | depth + 1 => tree.realpathWith strict (realpath strict depth)

/-- An entry that is no link: a location that a lookup can end at. -/
def Real (location : Location ν) : Prop :=
  ∃ entry, tree.entry location = some entry ∧ ∀ target, entry ≠ .link target

variable {tree}

/-! ### Locations -/

theorem entry_root : tree.entry [] = some .directory := tree.rooted

theorem entry_dropLast {location : Location ν} {entry : Entry ν}
    (h : tree.entry location = some entry) : tree.entry location.dropLast = some .directory := by
  obtain ⟨before, after, hentries, -⟩ := List.lookup_eq_some_iff.mp h
  refine tree.parents (location, entry) ?_
  rw [hentries]
  exact List.mem_append_right _ List.mem_cons_self

/-- Whatever has a name in a location is in a directory. -/
theorem entry_parent {location : Location ν} {name : ν} {entry : Entry ν}
    (h : tree.entry (location ++ [name]) = some entry) :
    tree.entry location = some .directory := by
  have hparent := entry_dropLast h
  rwa [List.dropLast_concat] at hparent

theorem Real.of_directory {location : Location ν}
    (h : tree.entry location = some .directory) : tree.Real location :=
  ⟨.directory, h, fun _ heq => by cases heq⟩

theorem real_root : tree.Real [] := .of_directory entry_root

theorem Real.dropLast {location : Location ν} (h : tree.Real location) :
    tree.Real location.dropLast := by
  obtain ⟨entry, hentry, -⟩ := h
  exact .of_directory (entry_dropLast hentry)

theorem real_origin {directory : Location ν} {target : Target ν} (h : tree.Real directory) :
    tree.Real (origin directory target) := by
  unfold origin
  split_ifs
  · exact real_root
  · exact h

/-- What a real location is in is real. -/
theorem Real.of_append {above below : Location ν} (h : tree.Real (above ++ below)) :
    tree.Real above := by
  induction below using List.reverseRecOn with
  | nil => rwa [List.append_nil] at h
  | append_singleton below name ih =>
      have hparent := h.dropLast
      rw [← List.append_assoc, List.dropLast_concat] at hparent
      exact ih hparent

/-! ### Walks -/

/-- The walk after a link, when so many can still be followed. -/
def follow (tree : FileTree ν) : ℕ → Location ν → List (Component ν) → Outcome ν
  | 0 => fun _ _ => .tooManyLinks
  | left + 1 => tree.walk left

theorem walk_eq (left : ℕ) : tree.walk left = tree.walkWith left (tree.follow left) := by
  cases left <;> rfl

@[simp] theorem walk_nil (left : ℕ) (location : Location ν) :
    tree.walk left location [] = .found location left := by
  rw [walk_eq]
  rfl

section Step

variable {left : ℕ} {location : Location ν} {name : ν} {rest : List (Component ν)}

theorem walk_here (h : tree.entry location = some .directory) :
    tree.walk left location (.here :: rest) = tree.walk left location rest := by
  rw [walk_eq, walkWith, if_pos h]

theorem walk_up (h : tree.entry location = some .directory) :
    tree.walk left location (.up :: rest) = tree.walk left location.dropLast rest := by
  rw [walk_eq, walkWith, if_pos h]

theorem walk_name_absent (h : tree.entry location = some .directory)
    (hentry : tree.entry (location ++ [name]) = none) :
    tree.walk left location (.name name :: rest) = .absent location name rest := by
  rw [walk_eq, walkWith, if_pos h, hentry]

theorem walk_name_link {target : Target ν}
    (hentry : tree.entry (location ++ [name]) = some (.link target)) :
    tree.walk left location (.name name :: rest)
      = tree.follow left (origin location target) (target.parts ++ rest) := by
  rw [walk_eq, walkWith, if_pos (entry_parent hentry), hentry]

theorem walk_name_real (hreal : tree.Real (location ++ [name])) :
    tree.walk left location (.name name :: rest)
      = tree.walk left (location ++ [name]) rest := by
  obtain ⟨entry, hentry, hlink⟩ := hreal
  rw [walk_eq, walkWith, if_pos (entry_parent hentry), hentry]
  cases entry with
  | directory | file => rfl
  | link target => exact absurd rfl (hlink target)

theorem walk_notDirectory {part : Component ν} (h : tree.entry location ≠ some .directory) :
    tree.walk left location (part :: rest) = .notDirectory := by
  rw [walk_eq]
  cases part <;> exact if_neg h

/-- The ways a walk can take its next name in a directory. -/
theorem entry_cases (location : Location ν) :
    tree.entry location = none ∨ (∃ target, tree.entry location = some (.link target))
      ∨ tree.Real location := by
  cases hentry : tree.entry location with
  | none => exact .inl rfl
  | some entry =>
      cases entry with
      | link target => exact .inr (.inl ⟨target, rfl⟩)
      | directory => exact .inr (.inr (.of_directory hentry))
      | file => exact .inr (.inr ⟨.file, hentry, fun _ heq => by cases heq⟩)

end Step

/-- A walk that goes on along more parts. -/
def andThen (tree : FileTree ν) (rest : List (Component ν)) : Outcome ν → Outcome ν
  | .found location left => tree.walk left location rest
  | .absent directory name parts => .absent directory name (parts ++ rest)
  | .notDirectory => .notDirectory
  | .tooManyLinks => .tooManyLinks

/-- A walk can be split when the walks after its links can. -/
theorem walk_append_of_follow {left : ℕ} {rest : List (Component ν)}
    (hfollow : ∀ location parts, tree.follow left location (parts ++ rest)
      = tree.andThen rest (tree.follow left location parts))
    (location : Location ν) (parts : List (Component ν)) :
    tree.walk left location (parts ++ rest)
      = tree.andThen rest (tree.walk left location parts) := by
  induction parts generalizing location with
  | nil =>
      rw [walk_nil]
      rfl
  | cons part parts ih =>
      rw [List.cons_append]
      by_cases hdir : tree.entry location = some .directory
      · cases part with
        | here => rw [walk_here hdir, walk_here hdir, ih]
        | up => rw [walk_up hdir, walk_up hdir, ih]
        | name name =>
            rcases tree.entry_cases (location ++ [name]) with h | ⟨target, h⟩ | h
            · rw [walk_name_absent hdir h, walk_name_absent hdir h]
              rfl
            · rw [walk_name_link h, walk_name_link h, ← List.append_assoc, hfollow]
            · rw [walk_name_real h, walk_name_real h, ih]
      · rw [walk_notDirectory hdir, walk_notDirectory hdir]
        rfl

theorem walk_append (left : ℕ) (location : Location ν) (parts rest : List (Component ν)) :
    tree.walk left location (parts ++ rest)
      = tree.andThen rest (tree.walk left location parts) := by
  induction left generalizing location parts with
  | zero => exact walk_append_of_follow (fun _ _ => rfl) location parts
  | succ left ih => exact walk_append_of_follow ih location parts

/-- A walk that finds something finds something on the way. -/
theorem walk_append_found {left left' : ℕ} {location location' : Location ν}
    {parts rest : List (Component ν)}
    (h : tree.walk left location (parts ++ rest) = .found location' left') :
    ∃ mid k, tree.walk left location parts = .found mid k
      ∧ tree.walk k mid rest = .found location' left' := by
  rw [walk_append] at h
  cases hwalk : tree.walk left location parts with
  | found mid k =>
      rw [hwalk] at h
      exact ⟨mid, k, rfl, h⟩
  | absent directory name parts | notDirectory | tooManyLinks =>
      rw [hwalk] at h
      cases h

/-- The first part of a walk that finds something. -/
theorem walk_cons_found {left left' : ℕ} {location location' : Location ν} {part : Component ν}
    {rest : List (Component ν)}
    (h : tree.walk left location (part :: rest) = .found location' left') :
    tree.entry location = some .directory := by
  by_contra hdir
  rw [walk_notDirectory hdir] at h
  cases h

/-- A walk follows no more links than it may, and ends at no link. -/
theorem walk_found {left left' : ℕ} {location location' : Location ν} {parts : List (Component ν)}
    (h : tree.walk left location parts = .found location' left') (hreal : tree.Real location) :
    left' ≤ left ∧ tree.Real location' := by
  induction left using Nat.strong_induction_on generalizing location parts with
  | _ left ihleft =>
      induction parts generalizing location with
      | nil =>
          rw [walk_nil] at h
          cases h
          exact ⟨le_rfl, hreal⟩
      | cons part parts ih =>
          have hdir := walk_cons_found h
          cases part with
          | here =>
              rw [walk_here hdir] at h
              exact ih h hreal
          | up =>
              rw [walk_up hdir] at h
              exact ih h hreal.dropLast
          | name name =>
              rcases tree.entry_cases (location ++ [name]) with hentry | ⟨target, hentry⟩ | hentry
              · rw [walk_name_absent hdir hentry] at h
                cases h
              · rw [walk_name_link hentry] at h
                cases left with
                | zero => cases h
                | succ left =>
                    obtain ⟨hle, hend⟩ := ihleft left (Nat.lt_succ_self left) h (real_origin hreal)
                    exact ⟨by omega, hend⟩
              · rw [walk_name_real hentry] at h
                exact ih h hentry

/-- A location without links is walked to as it stands. -/
theorem walk_names (left : ℕ) (location : Location ν) (names : List ν) (rest : List (Component ν))
    (h : tree.Real (location ++ names)) :
    tree.walk left location (names.map Component.name ++ rest)
      = tree.walk left (location ++ names) rest := by
  induction names generalizing location with
  | nil => rw [List.append_nil, List.map_nil, List.nil_append]
  | cons name names ih =>
      rw [List.append_cons] at h ⊢
      rw [List.map_cons, List.cons_append, walk_name_real h.of_append, ih _ h]

/-! ### Library lookups -/

/-- The lookup after a link, when links can still be nested so deep. -/
def resolve (tree : FileTree ν) (strict : Bool) :
    ℕ → Location ν → List (Component ν) → Option (Location ν)
  | 0 => fun _ _ => none
  | depth + 1 => tree.realpath strict depth

theorem realpath_eq (strict : Bool) (depth : ℕ) :
    tree.realpath strict depth = tree.realpathWith strict (tree.resolve strict depth) := by
  cases depth <;> rfl

section Lookup

variable {strict : Bool} {depth : ℕ} {location location' : Location ν} {name : ν}
  {parts rest : List (Component ν)}

@[simp] theorem realpath_nil : tree.realpath strict depth location [] = some location := by
  rw [realpath_eq, realpathWith]

theorem realpath_here :
    tree.realpath strict depth location (.here :: rest)
      = tree.realpath strict depth location rest := by
  rw [realpath_eq, realpathWith]

theorem realpath_up :
    tree.realpath strict depth location (.up :: rest)
      = tree.realpath strict depth location.dropLast rest := by
  rw [realpath_eq, realpathWith]

theorem realpath_name_absent (hentry : tree.entry (location ++ [name]) = none) :
    tree.realpath true depth location (.name name :: rest) = none := by
  rw [realpath_eq, realpathWith, hentry]
  rfl

theorem realpath_name_link {target : Target ν}
    (hentry : tree.entry (location ++ [name]) = some (.link target)) :
    tree.realpath strict depth location (.name name :: rest)
      = (tree.resolve strict depth (origin location target) target.parts).bind fun location =>
          tree.realpath strict depth location rest := by
  rw [realpath_eq, realpathWith, hentry]
  rfl

theorem realpath_name_real (hreal : tree.Real (location ++ [name])) :
    tree.realpath strict depth location (.name name :: rest)
      = tree.realpath strict depth (location ++ [name]) rest := by
  obtain ⟨entry, hentry, hlink⟩ := hreal
  rw [realpath_eq, realpathWith, hentry]
  cases entry with
  | directory | file => rfl
  | link target => exact absurd rfl (hlink target)

/-- A strict lookup ends at an entry that is no link. -/
theorem realpath_real (h : tree.realpath true depth location parts = some location')
    (hreal : tree.Real location) : tree.Real location' := by
  induction depth using Nat.strong_induction_on generalizing location location' parts with
  | _ depth ihdepth =>
      induction parts generalizing location with
      | nil =>
          rw [realpath_nil] at h
          cases h
          exact hreal
      | cons part parts ih =>
          cases part with
          | here =>
              rw [realpath_here] at h
              exact ih h hreal
          | up =>
              rw [realpath_up] at h
              exact ih h hreal.dropLast
          | name name =>
              rcases tree.entry_cases (location ++ [name]) with hentry | ⟨target, hentry⟩ | hentry
              · rw [realpath_name_absent hentry] at h
                cases h
              · rw [realpath_name_link hentry] at h
                obtain ⟨mid, hmid, hrest⟩ := Option.bind_eq_some_iff.mp h
                cases depth with
                | zero => cases hmid
                | succ depth =>
                    exact ih hrest
                      (ihdepth depth (Nat.lt_succ_self depth) hmid (real_origin hreal))
              · rw [realpath_name_real hentry] at h
                exact ih h hentry

/-- The lookups agree on what a walk finds, where links may be nested as deep as the walk may
follow links. -/
theorem realpath_of_walk {left left' : ℕ}
    (h : tree.walk left location parts = .found location' left') (hreal : tree.Real location)
    (hdepth : left ≤ depth) : tree.realpath strict depth location parts = some location' := by
  induction left using Nat.strong_induction_on generalizing location location' left' parts depth with
  | _ left ihleft =>
      induction parts generalizing location with
      | nil =>
          rw [walk_nil] at h
          cases h
          exact realpath_nil
      | cons part parts ih =>
          have hdir := walk_cons_found h
          cases part with
          | here =>
              rw [walk_here hdir] at h
              rw [realpath_here, ih h hreal]
          | up =>
              rw [walk_up hdir] at h
              rw [realpath_up, ih h hreal.dropLast]
          | name name =>
              rcases tree.entry_cases (location ++ [name]) with hentry | ⟨target, hentry⟩ | hentry
              · rw [walk_name_absent hdir hentry] at h
                cases h
              · rw [walk_name_link hentry] at h
                rw [realpath_name_link hentry]
                cases left with
                | zero => cases h
                | succ left =>
                    obtain ⟨mid, k, hmid, hrest⟩ := walk_append_found h
                    have hend := walk_found hmid (real_origin hreal)
                    obtain ⟨inner, rfl⟩ : ∃ inner, depth = inner + 1 :=
                      ⟨depth - 1, by omega⟩
                    have hinner : tree.resolve strict (inner + 1) (origin location target)
                        target.parts = some mid :=
                      ihleft left (Nat.lt_succ_self left) hmid (real_origin hreal) (by omega)
                    rw [hinner]
                    exact ihleft k (by omega) hrest hend.2 (by omega)
              · rw [walk_name_real hentry] at h
                rw [realpath_name_real hentry, ih h hentry]

end Lookup

end FileTree

end Filesystem
