import AgentFleet.Domain.Errors
import AgentFleet.Domain.Paths
import AgentFleet.Lib.Checks
import AgentFleet.Lib.Filesystem

/-! # Logical paths of a workspace

`resolve_logical_path` resolves a relative path in a tree with symbolic links.  Where the path
does not exist it resolves the part that does and appends the rest as it stands.

`resolveLogicalPath_contained_iff` says when a returned path stays inside the root for whoever
opens it: the component at which the existing part stops must not be a link that leads out. -/

namespace AgentFleet

open Checks Filesystem

/-- What stops the resolution of a path. -/
inductive ResolveError where
  | fleet (error : FleetError)
  | osError

section

-- `repr` of a text, and how many links the system follows in one lookup
variable (pyRepr : String → String) (links : ℕ) (tree : FileTree String)

/-- `_path_error`. -/
def pathError (logicalPath : String) : ResolveError :=
  .fleet {
    code := .pathOutsideScope
    message := "Path is outside the authorized workspace: " ++ pyRepr logicalPath ++ "."
    remediation := "Use a repository-relative path without traversal, alternate separators, "
      ++ "or symlink escape."
    details := JsonValue.object [("logical_path", .str logicalPath)] }

/-- The lookup of a location from the root of the tree. -/
def lookup (location : Location String) : Outcome String :=
  tree.walk links [] (location.map .name)

/-- `Path.exists`, of a path that is not too long for the system: past its limits `exists` raises
`OSError`, and no path is returned. -/
def pathExists (location : Location String) : Bool :=
  match lookup links tree location with
  | .found _ _ => true
  | _ => false

/-- `Path.resolve`: links nested deeper than there are entries are a loop. -/
def pathResolve (strict : Bool) (path : List (Component String)) :
    Except ResolveError (Location String) :=
  demand .osError (tree.realpath strict (links + tree.entries.length) [] path)

/-- The loop over the missing components, the last one first. -/
def stripMissing (rootResolved : Location String) :
    List String → List String → Location String × List String
  | [], missing => (rootResolved, missing)
  | name :: above, missing =>
      let existing := rootResolved ++ (name :: above).reverse
      if pathExists links tree existing then (existing, missing)
      else stripMissing rootResolved above (name :: missing)

/-- `os.path.commonpath` of two locations. -/
def commonpath : Location String → Location String → Location String
  | a :: left, b :: right => if a = b then a :: commonpath left right else []
  | _, _ => []

/-- The tests of a logical path before the tree is looked at. -/
def IsLogical (logicalPath : String) : Prop :=
  logicalPath ≠ "" ∧ '\x00' ∉ logicalPath.toList ∧ '\\' ∉ logicalPath.toList
    ∧ ¬ (PurePosixPath.parse logicalPath).isAbsolute
    ∧ ".." ∉ (PurePosixPath.parse logicalPath).parts

/-- The resolution of the joined path: what is missing is appended to what exists. -/
def resolveJoined (rootResolved : Location String) (parts : List String) (allowMissing : Bool) :
    Except ResolveError (Location String) :=
  let joined := rootResolved ++ parts
  if pathExists links tree joined ∨ ¬ allowMissing then
    pathResolve links tree (!allowMissing) (joined.map .name)
  else do
    let (existing, missing) := stripMissing links tree rootResolved parts.reverse []
    let existing ← pathResolve links tree true (existing.map .name)
    return existing ++ missing

/-- `resolve_logical_path`. -/
def resolveLogicalPath (root : List (Component String)) (logicalPath : String)
    (allowMissing : Bool := true) : Except ResolveError (Location String) := do
  refuse (logicalPath = "" ∨ '\x00' ∈ logicalPath.toList) (pathError pyRepr logicalPath)
  refuse ('\\' ∈ logicalPath.toList) (pathError pyRepr logicalPath)
  let candidate := PurePosixPath.parse logicalPath
  refuse (candidate.isAbsolute ∨ ".." ∈ candidate.parts) (pathError pyRepr logicalPath)
  let rootResolved ← pathResolve links tree true root
  let resolved ← resolveJoined links tree rootResolved candidate.parts allowMissing
  refuse (¬ rootResolved <+: resolved) (pathError pyRepr logicalPath)
  refuse (commonpath rootResolved resolved ≠ rootResolved) (pathError pyRepr logicalPath)
  return resolved

/-- Where opening or making a path ends, after all links on it. -/
def leadsTo (path : Location String) : Option (Location String) :=
  (lookup links tree path).destination

/-- The existing part of a path below the root ends at a directory; with the next name the
system finds nothing. -/
structure Stops (rootResolved : Location String) (parts above : List String)
    (name : String) (below : List String) (directory : Location String) : Prop where
  parts_eq : parts = above ++ name :: below
  found : ∃ left, lookup links tree (rootResolved ++ above) = .found directory left
  missing : ¬ pathExists links tree (rootResolved ++ (above ++ [name]))

/-- The name at which the existing part of the path stops is no link that leads out of the root.
The system finds nothing behind such a link: it dangles, is part of a loop, or is one link too
many on the way. -/
def StopsInside (root : List (Component String)) (logicalPath : String) : Prop :=
  ∀ rootResolved, pathResolve links tree true root = .ok rootResolved →
    ∀ above name below directory,
      Stops links tree rootResolved (PurePosixPath.parse logicalPath).parts above name below
        directory → rootResolved <+: directory →
      ∀ target, tree.entry (directory ++ [name]) = some (.link target) →
      ∀ final, leadsTo links tree (directory ++ name :: below) = some final →
        rootResolved <+: final

end

variable {pyRepr : String → String} {links : ℕ} {tree : FileTree String}
  {rootResolved directory path : Location String} {root : List (Component String)}

/-! ### What exists -/

theorem pathExists_iff {location : Location String} :
    pathExists links tree location = true
      ↔ ∃ final left, lookup links tree location = .found final left := by
  unfold pathExists
  constructor
  · intro h
    split at h
    · next final left heq => exact ⟨final, left, heq⟩
    · cases h
  · rintro ⟨final, left, h⟩
    rw [h]

/-- What is above something that exists, exists. -/
theorem pathExists_of_append (above below : List String)
    (h : pathExists links tree (above ++ below) = true) :
    pathExists links tree above = true := by
  obtain ⟨final, left, hlookup⟩ := pathExists_iff.mp h
  rw [lookup, List.map_append] at hlookup
  obtain ⟨mid, k, hmid, -⟩ := FileTree.walk_append_found hlookup
  exact pathExists_iff.mpr ⟨mid, k, hmid⟩

theorem lookup_append (h : tree.Real directory) (names : List String) :
    lookup links tree (directory ++ names) = tree.walk links directory (names.map .name) := by
  have hwalk := FileTree.walk_names links [] directory (names.map .name) h
  rwa [List.nil_append, ← List.map_append] at hwalk

theorem lookup_real (h : tree.Real directory) :
    lookup links tree directory = .found directory links := by
  have hlookup : lookup links tree (directory ++ []) = tree.walk links directory [] :=
    lookup_append h []
  rwa [List.append_nil, FileTree.walk_nil] at hlookup

theorem leadsTo_real (h : tree.Real path) : leadsTo links tree path = some path := by
  rw [leadsTo, lookup_real h]
  rfl

/-! ### Resolution -/

theorem pathResolve_real {path : List (Component String)}
    (h : pathResolve links tree true path = .ok directory) : tree.Real directory :=
  FileTree.realpath_real (demand_ok.mp h) FileTree.real_root

theorem pathResolve_of_lookup {location : Location String} {left : ℕ} (strict : Bool)
    (h : lookup links tree location = .found directory left) :
    pathResolve links tree strict (location.map .name) = .ok directory :=
  demand_ok.mpr (FileTree.realpath_of_walk h FileTree.real_root (Nat.le_add_right _ _))

/-! ### The missing components -/

/-- The loop stops at something that exists, below which the next name does not. -/
theorem stripMissing_spec (links : ℕ) (hroot : tree.Real rootResolved) (tail missing : List String)
    (hmissing : ∀ name below, missing = name :: below →
      ¬ pathExists links tree (rootResolved ++ (tail.reverse ++ [name]))) :
    ∃ above below, stripMissing links tree rootResolved tail missing
        = (rootResolved ++ above, below)
      ∧ above ++ below = tail.reverse ++ missing
      ∧ pathExists links tree (rootResolved ++ above) = true
      ∧ ∀ name rest, below = name :: rest →
        ¬ pathExists links tree (rootResolved ++ (above ++ [name])) := by
  induction tail generalizing missing with
  | nil =>
      refine ⟨[], missing, ?_, rfl, ?_, hmissing⟩
      · rw [stripMissing, List.append_nil]
      · rw [List.append_nil]
        exact pathExists_iff.mpr ⟨_, _, lookup_real hroot⟩
  | cons name above ih =>
      rw [stripMissing]
      by_cases hexists : pathExists links tree (rootResolved ++ (name :: above).reverse)
      · rw [if_pos hexists]
        exact ⟨_, _, rfl, rfl, hexists, hmissing⟩
      · rw [if_neg hexists]
        have hnext : ∀ next below, name :: missing = next :: below →
            ¬ pathExists links tree (rootResolved ++ (above.reverse ++ [next])) := by
          rintro next below heq
          cases heq
          rwa [List.reverse_cons] at hexists
        obtain ⟨before, after, hstrip, happend, hfound, hstop⟩ := ih _ hnext
        refine ⟨before, after, hstrip, ?_, hfound, hstop⟩
        rw [happend, List.reverse_cons, List.append_assoc, List.singleton_append]

theorem stop_unique {above above' below below' : List String} {name name' : String}
    (hparts : above ++ name :: below = above' ++ name' :: below')
    (hfound : pathExists links tree (rootResolved ++ above) = true)
    (hfound' : pathExists links tree (rootResolved ++ above') = true)
    (hmissing : ¬ pathExists links tree (rootResolved ++ (above ++ [name])))
    (hmissing' : ¬ pathExists links tree (rootResolved ++ (above' ++ [name']))) :
    above = above' ∧ name :: below = name' :: below' := by
  rcases List.append_eq_append_iff.mp hparts with ⟨between, rfl, hrest⟩ | ⟨between, rfl, hrest⟩
  · cases between with
    | nil => exact ⟨(List.append_nil _).symm, hrest⟩
    | cons next between =>
        obtain ⟨rfl, -⟩ := List.cons.inj hrest
        refine absurd (pathExists_of_append _ between ?_) hmissing
        rwa [List.append_assoc, List.append_assoc, List.singleton_append]
  · cases between with
    | nil => exact ⟨List.append_nil _, hrest.symm⟩
    | cons next between =>
        obtain ⟨rfl, -⟩ := List.cons.inj hrest
        refine absurd (pathExists_of_append _ between ?_) hmissing'
        rwa [List.append_assoc, List.append_assoc, List.singleton_append]

theorem commonpath_of_inside {left right : Location String} (h : left <+: right) :
    commonpath left right = left := by
  induction left generalizing right with
  | nil => rfl
  | cons a left ih =>
      cases right with
      | nil => exact absurd (List.prefix_nil.mp h) (List.cons_ne_nil _ _)
      | cons =>
          obtain ⟨rfl, hrest⟩ := List.cons_prefix_cons.mp h
          rw [commonpath, if_pos rfl, ih hrest]

/-! ### What is returned -/

section Result

variable {logicalPath : String} {allowMissing : Bool} {above below : List String} {name : String}

/-- A returned path is an entry without links, or a stop with the missing names. -/
theorem resolveLogicalPath_ok
    (h : resolveLogicalPath pyRepr links tree root logicalPath allowMissing = .ok path) :
    IsLogical logicalPath ∧ ∃ rootResolved,
      pathResolve links tree true root = .ok rootResolved ∧ rootResolved <+: path
        ∧ (tree.Real path ∨ allowMissing = true ∧ ∃ above name below directory,
          Stops links tree rootResolved (PurePosixPath.parse logicalPath).parts above name below
            directory ∧ path = directory ++ name :: below) := by
  unfold resolveLogicalPath at h
  obtain ⟨hnonempty, h⟩ := refuse_bind_ok.mp h
  obtain ⟨hbackslash, h⟩ := refuse_bind_ok.mp h
  obtain ⟨hrelative, h⟩ := refuse_bind_ok.mp h
  obtain ⟨rootResolved, hroot, h⟩ := bind_ok.mp h
  obtain ⟨resolved, hresolved, h⟩ := bind_ok.mp h
  obtain ⟨hinner, h⟩ := refuse_bind_ok.mp h
  obtain ⟨-, h⟩ := refuse_bind_ok.mp h
  obtain rfl : resolved = path := return_ok.mp h
  rw [not_or] at hnonempty hrelative
  refine ⟨⟨hnonempty.1, hnonempty.2, hbackslash, hrelative.1, hrelative.2⟩, rootResolved, hroot,
    not_not.mp hinner, ?_⟩
  have hreal := pathResolve_real hroot
  unfold resolveJoined at hresolved
  dsimp only at hresolved
  split_ifs at hresolved with hexists
  · left
    rcases hexists with hexists | hstrict
    · obtain ⟨final, left, hlookup⟩ := pathExists_iff.mp hexists
      have hfound := pathResolve_of_lookup (!allowMissing) hlookup
      obtain rfl : final = resolved := Except.ok.inj (hfound.symm.trans hresolved)
      exact (FileTree.walk_found hlookup FileTree.real_root).2
    · rw [Bool.not_eq_true] at hstrict
      rw [hstrict] at hresolved
      exact pathResolve_real hresolved
  · rw [not_or, not_not] at hexists
    right
    have hspec := stripMissing_spec links hreal
      (PurePosixPath.parse logicalPath).parts.reverse [] (fun _ _ heq => by cases heq)
    obtain ⟨above, below, hstrip, hparts, hfound, hstop⟩ := hspec
    rw [hstrip] at hresolved
    obtain ⟨directory, hdirectory, hresolved⟩ := bind_ok.mp hresolved
    obtain rfl : directory ++ below = resolved := return_ok.mp hresolved
    rw [List.reverse_reverse, List.append_nil] at hparts
    obtain ⟨final, left, hlookup⟩ := pathExists_iff.mp hfound
    obtain rfl : final = directory :=
      Except.ok.inj ((pathResolve_of_lookup true hlookup).symm.trans hdirectory)
    cases below with
    | nil =>
        rw [List.append_nil] at hparts
        rw [← hparts] at hexists
        exact absurd hfound hexists.1
    | cons name below =>
        exact ⟨hexists.2, above, name, below, final,
          ⟨hparts.symm, ⟨left, hlookup⟩, hstop name below rfl⟩, rfl⟩

theorem resolveLogicalPath_of_stops (hlogical : IsLogical logicalPath)
    (hroot : pathResolve links tree true root = .ok rootResolved)
    (hstops : Stops links tree rootResolved (PurePosixPath.parse logicalPath).parts above name
      below directory) (hinner : rootResolved <+: directory) :
    resolveLogicalPath pyRepr links tree root logicalPath true
      = .ok (directory ++ name :: below) := by
  obtain ⟨hempty, hnull, hbackslash, habsolute, hup⟩ := hlogical
  obtain ⟨hparts, ⟨left, hfound⟩, hmissing⟩ := hstops
  have hexists : ¬ pathExists links tree
      (rootResolved ++ (PurePosixPath.parse logicalPath).parts) = true := by
    intro hexists
    refine hmissing (pathExists_of_append _ below ?_)
    rwa [List.append_assoc, List.append_assoc, List.singleton_append, ← hparts]
  have hreal := pathResolve_real hroot
  have hspec := stripMissing_spec links hreal
    (PurePosixPath.parse logicalPath).parts.reverse [] (fun _ _ heq => by cases heq)
  obtain ⟨above', below', hstrip, hparts', hfound', hstop⟩ := hspec
  rw [List.reverse_reverse, List.append_nil] at hparts'
  have hsame : above = above' ∧ name :: below = below' := by
    cases below' with
    | nil =>
        rw [List.append_nil] at hparts'
        exact absurd (hparts' ▸ hfound') hexists
    | cons name' below' =>
        exact stop_unique (hparts.symm.trans hparts'.symm)
          (pathExists_iff.mpr ⟨_, _, hfound⟩) hfound' hmissing (hstop name' below' rfl)
  obtain ⟨rfl, rfl⟩ := hsame
  have hresolve : pathResolve links tree true ((rootResolved ++ above).map .name) = .ok directory :=
    pathResolve_of_lookup true hfound
  have hinside : rootResolved <+: directory ++ name :: below :=
    hinner.trans (List.prefix_append _ _)
  unfold resolveLogicalPath
  refine refuse_bind_ok.mpr ⟨not_or.mpr ⟨hempty, hnull⟩, ?_⟩
  refine refuse_bind_ok.mpr ⟨hbackslash, ?_⟩
  refine refuse_bind_ok.mpr ⟨not_or.mpr ⟨habsolute, hup⟩, ?_⟩
  refine bind_ok.mpr ⟨rootResolved, hroot, ?_⟩
  refine bind_ok.mpr ⟨directory ++ name :: below, ?_, ?_⟩
  · unfold resolveJoined
    rw [if_neg (not_or.mpr ⟨hexists, fun h => h rfl⟩), hstrip]
    exact bind_ok.mpr ⟨directory, hresolve, return_ok.mpr rfl⟩
  · refine refuse_bind_ok.mpr ⟨not_not.mpr hinside, ?_⟩
    exact refuse_bind_ok.mpr ⟨not_not.mpr (commonpath_of_inside hinside), return_ok.mpr rfl⟩

theorem prefix_of_link (hroot : tree.Real rootResolved) {target : Target String}
    (hlink : tree.entry (directory ++ [name]) = some (.link target))
    (hinner : rootResolved <+: directory ++ name :: below) : rootResolved <+: directory := by
  rcases List.prefix_or_prefix_of_prefix hinner (List.prefix_append directory _) with h | h
  · exact h
  · obtain ⟨between, rfl⟩ := h
    cases between with
    | nil => exact ⟨[], by rw [List.append_nil, List.append_nil]⟩
    | cons =>
        obtain ⟨rfl, -⟩ := List.cons_prefix_cons.mp ((List.prefix_append_right_inj _).mp hinner)
        rw [List.append_cons] at hroot
        obtain ⟨entry, hentry, hnolink⟩ := hroot.of_append
        rw [hlink] at hentry
        exact absurd (Option.some.inj hentry).symm (hnolink target)

theorem leadsTo_of_stops {parts : List String} {final : Location String}
    (hstops : Stops links tree rootResolved parts above name below directory)
    (hlink : ∀ target, tree.entry (directory ++ [name]) ≠ some (.link target))
    (hfinal : leadsTo links tree (directory ++ name :: below) = some final) :
    final = directory ++ name :: below := by
  obtain ⟨left, hfound⟩ := hstops.found
  have hreal := (FileTree.walk_found hfound FileTree.real_root).2
  rw [leadsTo, lookup_append hreal, List.map_cons] at hfinal
  by_cases hdir : tree.entry directory = some .directory
  · rcases tree.entry_cases (directory ++ [name]) with hentry | ⟨target, hentry⟩ | hentry
    · rw [FileTree.walk_name_absent hdir hentry] at hfinal
      dsimp only [Outcome.destination] at hfinal
      rw [namesOf_map] at hfinal
      exact (Option.some.inj hfinal).symm
    · exact absurd hentry (hlink target)
    · refine absurd (pathExists_iff.mpr ⟨directory ++ [name], left, ?_⟩) hstops.missing
      rw [lookup, ← List.append_assoc, List.map_append, FileTree.walk_append]
      rw [lookup] at hfound
      rw [hfound]
      exact (FileTree.walk_name_real hentry).trans (FileTree.walk_nil _ _)
  · rw [FileTree.walk_notDirectory hdir] at hfinal
    cases hfinal

/-- A returned path stays inside the root for whoever opens or makes it, unless the missing part
starts at a link that leads out. -/
theorem resolveLogicalPath_contained_iff (pyRepr : String → String) (links : ℕ)
    (tree : FileTree String) (root : List (Component String)) (logicalPath : String)
    (allowMissing : Bool) :
    (∀ path, resolveLogicalPath pyRepr links tree root logicalPath allowMissing = .ok path →
      ∃ rootResolved, pathResolve links tree true root = .ok rootResolved
        ∧ ∀ final, leadsTo links tree path = some final → rootResolved <+: final)
      ↔ (allowMissing = true → IsLogical logicalPath → StopsInside links tree root logicalPath) := by
  constructor
  · rintro hcontained rfl hlogical rootResolved hroot above name below directory hstops hinner
      target - final hfinal
    obtain ⟨rootResolved', hroot', hinside⟩ :=
      hcontained _ (resolveLogicalPath_of_stops hlogical hroot hstops hinner)
    obtain rfl : rootResolved = rootResolved' := Except.ok.inj (hroot.symm.trans hroot')
    exact hinside final hfinal
  · intro hstops path hpath
    obtain ⟨hlogical, rootResolved, hroot, hinner, hcases⟩ := resolveLogicalPath_ok hpath
    refine ⟨rootResolved, hroot, fun final hfinal => ?_⟩
    rcases hcases with hreal | ⟨hallow, above, name, below, directory, hstop, rfl⟩
    · rw [leadsTo_real hreal] at hfinal
      obtain rfl : path = final := Option.some.inj hfinal
      exact hinner
    · have hreal := pathResolve_real hroot
      by_cases hlink : ∃ target, tree.entry (directory ++ [name]) = some (.link target)
      · obtain ⟨target, hentry⟩ := hlink
        exact hstops hallow hlogical rootResolved hroot above name below directory hstop
          (prefix_of_link hreal hentry hinner) target hentry final hfinal
      · have hend := leadsTo_of_stops hstop (not_exists.mp hlink) hfinal
        rwa [hend]
/-- A workspace in which `a` is a link to a file outside that does not exist yet. -/
def danglingTree : FileTree String where
  entries := [([], .directory), (["workspace"], .directory),
    (["workspace", "a"], .link ⟨true, [.name "created"]⟩)]
  rooted := rfl
  parents := by decide

/-- `a` is returned as a path of the workspace, and opening it makes a file outside. -/
theorem resolveLogicalPath_dangling :
    let pyRepr : String → String := fun text => "'" ++ text ++ "'"
    pathResolve 40 danglingTree true [.name "workspace"] = .ok ["workspace"]
      ∧ resolveLogicalPath pyRepr 40 danglingTree [.name "workspace"] "a" true
        = .ok ["workspace", "a"]
      ∧ leadsTo 40 danglingTree ["workspace", "a"] = some ["created"]
      ∧ ¬ ["workspace"] <+: ["created"] :=
  ⟨rfl, rfl, by decide, by decide⟩

end Result

end AgentFleet
