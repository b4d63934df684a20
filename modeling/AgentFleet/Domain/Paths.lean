import AgentFleet.Lib.Lines

/-! # Repository scopes

`PurePosixPath` and the scope tests of the policy and of the plans.  A path and a scope are
compared by their case-folded components; a scope covers itself and what is below it.

Case folding is a parameter: nothing here depends on which letters it identifies.

* `pathIsWithin_iff` states the test on components, where scopes are prefixes.
* `pathIsWithin_trans` says that scopes within scopes authorize no more than those.
* `CanonicalPath.toList_eq` writes a canonical path from its parts. -/

namespace AgentFleet

/-! ### Paths -/

/-- A parsed `PurePosixPath`. -/
structure PurePosixPath where
  root : String
  tail : List String
deriving DecidableEq

namespace PurePosixPath

/-- The root of a path: two slashes are kept apart from one, three are one. -/
def rootOf : List Char → String
  | '/' :: '/' :: '/' :: _ => "/"
  | '/' :: '/' :: _ => "//"
  | '/' :: _ => "/"
  | _ => ""

/-- `PurePosixPath(path)`. -/
def parse (path : String) : PurePosixPath where
  root := rootOf path.toList
  tail := ((path.toList.splitOn '/').map String.ofList).filter fun part =>
    part ≠ "" ∧ part ≠ "."

/-- `is_absolute()`. -/
def isAbsolute (path : PurePosixPath) : Prop := path.root ≠ ""
deriving Decidable

/-- `parts`. -/
def parts (path : PurePosixPath) : List String :=
  if path.root = "" then path.tail else path.root :: path.tail

/-- `str(path)` and `path.as_posix()`. -/
def str (path : PurePosixPath) : String :=
  if path.root = "" ∧ path.tail = [] then "." else path.root ++ "/".intercalate path.tail

/-- `Path(path).parents`, the shortest first. -/
def parents (path : PurePosixPath) : List PurePosixPath :=
  (List.range path.tail.length).map fun count => { path with tail := path.tail.take count }

/-- `path.parent`. -/
def parent (path : PurePosixPath) : PurePosixPath := { path with tail := path.tail.dropLast }

end PurePosixPath

section Scopes

-- `str.casefold`
variable (casefold : String → String)

/-- `_fold_path`. -/
def foldPath (path : PurePosixPath) : List String := path.parts.map casefold

/-- `_components`; no `String` holds a surrogate. -/
def components (path : String) : Option (List String) :=
  if path = "" ∨ 4096 < path.utf8ByteSize ∨ '\\' ∈ path.toList
    ∨ path.toList.any (fun character => character.toNat < 32) then none
  else
    let parsed := PurePosixPath.parse path
    if parsed.isAbsolute ∨ parsed.str ≠ path ∨ ".." ∈ parsed.parts then none
    else if 64 < parsed.parts.length then none
    else some (foldPath casefold parsed)

/-- `parts[: len(item)] == item`. -/
def startsWith (parts item : List String) : Bool := parts.take item.length = item

/-- `path_is_within`. -/
def pathIsWithin (path : String) (scopes : List String) (forbidden : List String := []) : Bool :=
  let allowed := scopes.map (components casefold)
  let excluded := forbidden.map (components casefold)
  match components casefold path with
  | none => false
  | some parts =>
      if none ∈ allowed ∨ none ∈ excluded then false
      else if excluded.any fun item =>
        item.any fun item => startsWith parts item || startsWith item parts then false
      else allowed.any fun item => item.any fun item => startsWith parts item

/-- `path_overlaps_scope`. -/
def pathOverlapsScope (path : String) (scopes : List String) (forbidden : List String := []) :
    Bool :=
  let allowed := scopes.map (components casefold)
  let excluded := forbidden.map (components casefold)
  match components casefold path with
  | none => false
  | some parts =>
      if none ∈ allowed ∨ none ∈ excluded then false
      else if excluded.any fun item => item.any fun item => startsWith parts item then false
      else allowed.any fun item =>
        item.any fun item => startsWith parts item || startsWith item parts

variable {casefold} {path : String} {parts : List String} {scopes forbidden : List String}

theorem startsWith_iff {item : List String} : startsWith parts item = true ↔ item <+: parts := by
  unfold startsWith
  rw [decide_eq_true_eq, List.prefix_iff_eq_take, eq_comm]

/-- The components of a path are its folded parts. -/
theorem components_eq (h : components casefold path = some parts) :
    parts = foldPath casefold (PurePosixPath.parse path) := by
  unfold components at h
  dsimp only at h
  split_ifs at h
  exact (Option.some.inj h).symm

/-- Two lists of components lie on one line: one is above the other. -/
def Comparable (left right : List String) : Prop := left <+: right ∨ right <+: left

theorem Comparable.symm {left right : List String} (h : Comparable left right) :
    Comparable right left := Or.symm h

/-- Two scopes over one path are comparable. -/
theorem comparable_of_startsWith {left right : List String} (hleft : left <+: parts)
    (hright : right <+: parts) : Comparable left right :=
  List.prefix_or_prefix_of_prefix hleft hright

theorem Comparable.of_startsWith {scope item : List String} (hscope : scope <+: parts)
    (h : Comparable parts item) : Comparable scope item := by
  rcases h with h | h
  · exact .inl (hscope.trans h)
  · exact comparable_of_startsWith hscope h

theorem pathIsWithin_iff :
    pathIsWithin casefold path scopes forbidden = true
      ↔ ∃ parts, components casefold path = some parts
        ∧ (∀ scope ∈ scopes, components casefold scope ≠ none)
        ∧ (∀ scope ∈ forbidden, ∃ item, components casefold scope = some item
          ∧ ¬ Comparable parts item)
        ∧ ∃ scope ∈ scopes, ∃ item, components casefold scope = some item ∧ item <+: parts := by
  unfold pathIsWithin
  dsimp only
  cases hpath : components casefold path with
  | none => simp
  | some parts =>
      dsimp only
      constructor
      · intro h
        split_ifs at h with hnone hexcluded
        obtain ⟨hallowed, hforbidden⟩ := not_or.mp hnone
        refine ⟨parts, rfl, ?_, ?_, ?_⟩
        · intro scope hscope heq
          exact hallowed (List.mem_map.mpr ⟨scope, hscope, heq⟩)
        · intro scope hscope
          cases hitem : components casefold scope with
          | none => exact absurd (List.mem_map.mpr ⟨scope, hscope, hitem⟩) hforbidden
          | some item =>
              refine ⟨item, rfl, fun hcomparable => hexcluded ?_⟩
              refine List.any_eq_true.mpr ⟨some item, List.mem_map.mpr ⟨scope, hscope, hitem⟩, ?_⟩
              rw [Option.any_some, Bool.or_eq_true, startsWith_iff, startsWith_iff]
              exact hcomparable.symm
        · obtain ⟨found, hfound, hany⟩ := List.any_eq_true.mp h
          obtain ⟨scope, hscope, rfl⟩ := List.mem_map.mp hfound
          cases hitem : components casefold scope with
          | none =>
              rw [hitem] at hany
              exact Bool.noConfusion hany
          | some item =>
              rw [hitem, Option.any_some, startsWith_iff] at hany
              exact ⟨scope, hscope, item, hitem, hany⟩
      · rintro ⟨parts', hparts, hallowed, hforbidden, scope, hscope, item, hitem, hprefix⟩
        obtain rfl : parts = parts' := Option.some.inj hparts
        have hnone : ¬ (none ∈ scopes.map (components casefold)
            ∨ none ∈ forbidden.map (components casefold)) := by
          rintro (h | h)
          · obtain ⟨other, hother, heq⟩ := List.mem_map.mp h
            exact hallowed other hother heq
          · obtain ⟨other, hother, heq⟩ := List.mem_map.mp h
            obtain ⟨item', hitem', -⟩ := hforbidden other hother
            rw [heq] at hitem'
            cases hitem'
        rw [if_neg hnone, if_neg]
        · refine List.any_eq_true.mpr ⟨some item, List.mem_map.mpr ⟨scope, hscope, hitem⟩, ?_⟩
          rw [Option.any_some, startsWith_iff]
          exact hprefix
        · intro hexcluded
          obtain ⟨found, hfound, hany⟩ := List.any_eq_true.mp hexcluded
          obtain ⟨other, hother, rfl⟩ := List.mem_map.mp hfound
          obtain ⟨item', hitem', hapart⟩ := hforbidden other hother
          rw [hitem', Option.any_some, Bool.or_eq_true, startsWith_iff, startsWith_iff] at hany
          exact hapart (Or.symm hany)

theorem pathIsWithin_trans {outer : List String}
    (hscopes : ∀ scope ∈ scopes, pathIsWithin casefold scope outer forbidden = true)
    (h : pathIsWithin casefold path scopes = true) :
    pathIsWithin casefold path outer forbidden = true := by
  obtain ⟨parts, hparts, -, -, scope, hscope, item, hitem, hprefix⟩ := pathIsWithin_iff.mp h
  obtain ⟨_, hitem', hallowed, hforbidden, top, htop, above, habove, hbelow⟩ :=
    pathIsWithin_iff.mp (hscopes scope hscope)
  obtain rfl := Option.some.inj (hitem.symm.trans hitem')
  refine pathIsWithin_iff.mpr ⟨parts, hparts, hallowed, fun other hother => ?_, top, htop, above,
    habove, hbelow.trans hprefix⟩
  obtain ⟨excluded, hexcluded, hapart⟩ := hforbidden other hother
  exact ⟨excluded, hexcluded, fun hcomparable => hapart (hcomparable.of_startsWith hprefix)⟩

/-! ### Canonical paths -/

/-- A relative path that is written as it is parsed, without backslashes and `..`. -/
structure CanonicalPath (path : String) : Prop where
  nonempty : path ≠ ""
  noBackslash : '\\' ∉ path.toList
  relative : ¬ (PurePosixPath.parse path).isAbsolute
  normal : (PurePosixPath.parse path).str = path
  noParent : ".." ∉ (PurePosixPath.parse path).parts

/-- Names with slashes between them are parsed into the names. -/
theorem parse_intercalate {names : List String} (hne : names ≠ [])
    (hnames : ∀ name ∈ names, name ≠ "" ∧ name ≠ "." ∧ '/' ∉ name.toList) :
    PurePosixPath.parse ("/".intercalate names) = ⟨"", names⟩ := by
  have hlist : ("/".intercalate names).toList = ['/'].intercalate (names.map String.toList) := by
    rw [String.toList_intercalate]
    rfl
  have hsplit : ("/".intercalate names).toList.splitOn '/' = names.map String.toList := by
    rw [hlist, List.splitOn_intercalate '/' _ (mt List.map_eq_nil_iff.mp hne)]
    intro part hpart
    obtain ⟨name, hname, rfl⟩ := List.mem_map.mp hpart
    exact (hnames name hname).2.2
  have htail : ((names.map String.toList).map String.ofList).filter
      (fun part => part ≠ "" ∧ part ≠ ".") = names := by
    have hmap : (names.map String.toList).map String.ofList = names := by
      rw [List.map_map]
      exact (List.map_congr_left fun name _ => String.ofList_toList).trans (List.map_id _)
    rw [hmap, List.filter_eq_self]
    intro name hname
    exact decide_eq_true ⟨(hnames name hname).1, (hnames name hname).2.1⟩
  have hroot : PurePosixPath.rootOf ("/".intercalate names).toList = "" := by
    obtain ⟨first, rest, rfl⟩ := List.exists_cons_of_ne_nil hne
    obtain ⟨hempty, -, hslash⟩ := hnames first List.mem_cons_self
    cases hfirst : first.toList with
    | nil => exact absurd (String.toList_eq_nil_iff.mp hfirst) hempty
    | cons character characters =>
        rw [hfirst, List.mem_cons, not_or] at hslash
        have hcons : ∃ more, ("/".intercalate (first :: rest)).toList = character :: more := by
          rw [hlist, List.map_cons, hfirst]
          cases rest with
          | nil => exact ⟨characters, by rw [List.map_nil, List.intercalate_singleton]⟩
          | cons =>
              rw [List.map_cons, List.intercalate_cons_cons]
              exact ⟨_, rfl⟩
        obtain ⟨more, hmore⟩ := hcons
        rw [hmore]
        unfold PurePosixPath.rootOf
        split
        · rename_i heq
          exact absurd (List.cons.inj heq).1.symm hslash.1
        · rename_i heq
          exact absurd (List.cons.inj heq).1.symm hslash.1
        · rename_i heq
          exact absurd (List.cons.inj heq).1.symm hslash.1
        · rfl
  unfold PurePosixPath.parse
  rw [hsplit, htail, hroot]

theorem components_eq_some_iff :
    components casefold path = some parts
      ↔ CanonicalPath path ∧ path.utf8ByteSize ≤ 4096
        ∧ (∀ character ∈ path.toList, 32 ≤ character.toNat)
        ∧ (PurePosixPath.parse path).parts.length ≤ 64
        ∧ foldPath casefold (PurePosixPath.parse path) = parts := by
  unfold components
  dsimp only
  constructor
  · intro h
    split_ifs at h with htext hpath hlength
    simp only [not_or, not_lt, List.any_eq_true, decide_eq_true_eq, not_exists, not_and] at htext
    rw [not_or, not_or, not_not] at hpath
    exact ⟨⟨htext.1, htext.2.2.1, hpath.1, hpath.2.1, hpath.2.2⟩, htext.2.1, htext.2.2.2,
      not_lt.mp hlength, Option.some.inj h⟩
  · rintro ⟨hcanonical, hbytes, hcontrol, hlength, hparts⟩
    rw [if_neg, if_neg, if_neg (not_lt.mpr hlength), hparts]
    · rw [not_or, not_or, not_not]
      exact ⟨hcanonical.relative, hcanonical.normal, hcanonical.noParent⟩
    · simp only [not_or, not_lt, List.any_eq_true, decide_eq_true_eq, not_exists, not_and]
      exact ⟨hcanonical.nonempty, hbytes, hcanonical.noBackslash, hcontrol⟩

theorem CanonicalPath.root_eq (h : CanonicalPath path) : (PurePosixPath.parse path).root = "" :=
  not_not.mp h.relative

theorem CanonicalPath.parts_eq (h : CanonicalPath path) :
    (PurePosixPath.parse path).parts = (PurePosixPath.parse path).tail := by
  rw [PurePosixPath.parts, if_pos h.root_eq]

theorem CanonicalPath.mem_parts (h : CanonicalPath path) {part : String}
    (hpart : part ∈ (PurePosixPath.parse path).parts) : part ≠ "" ∧ '/' ∉ part.toList := by
  rw [h.parts_eq, PurePosixPath.parse, List.mem_filter] at hpart
  obtain ⟨hmem, hname⟩ := hpart
  obtain ⟨text, htext, rfl⟩ := List.mem_map.mp hmem
  rw [decide_eq_true_eq] at hname
  refine ⟨hname.1, ?_⟩
  rw [String.toList_ofList]
  exact Lines.not_mem_of_mem_splitOn htext

theorem CanonicalPath.parts_ne_nil (h : CanonicalPath path) (hdot : path ≠ ".") :
    (PurePosixPath.parse path).parts ≠ [] := by
  rw [h.parts_eq]
  intro hnil
  have hnormal := h.normal
  rw [PurePosixPath.str, if_pos ⟨h.root_eq, hnil⟩] at hnormal
  exact hdot hnormal.symm

theorem CanonicalPath.toList_eq (h : CanonicalPath path) (hdot : path ≠ ".") :
    path.toList = ['/'].intercalate ((PurePosixPath.parse path).parts.map String.toList) := by
  have hnil := h.parts_ne_nil hdot
  rw [h.parts_eq] at hnil ⊢
  have hnormal := h.normal
  rw [PurePosixPath.str, if_neg (fun hboth => hnil hboth.2), h.root_eq, String.empty_append]
    at hnormal
  rw [← String.toList_singleton, ← String.toList_intercalate]
  exact congrArg String.toList hnormal.symm

end Scopes

end AgentFleet
