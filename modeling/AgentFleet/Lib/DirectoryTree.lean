import Mathlib.Data.List.Infix
import Mathlib.Data.List.Nodup
import Mathlib.Order.Basic
import Mathlib.Order.Defs.LinearOrder
import Mathlib.Order.Lattice
import Mathlib.Tactic.Common

/-! # Directory trees

A directory is a list of named nodes, each a directory again or a file.  `contents` lists
everything below a directory with the names on the way to it, in the order in which a recursive
walk meets it.  `find?` looks up one place, and `write` makes a new file there together with the
directories that are missing on the way.

* `mem_contents_iff` and `nodup_contents`: where no directory has a name twice, the listing has
  each place once, with what is found there.
* `find?_write` says what a new file changes, and `exists_write_iff` when it can be made.
* `find?_writeAll` and `exists_writeAll` are the same for a list of files. -/

namespace DirectoryTree

inductive Node (ν φ : Type) where
  | directory (entries : List (ν × Node ν φ))
  | file (file : φ)

/-- The named nodes of a directory. -/
abbrev Entries (ν φ : Type) := List (ν × Node ν φ)

/-- What is at a place. -/
inductive Item (φ : Type) where
  | directory
  | file (file : φ)
deriving DecidableEq

variable {ν φ : Type}

def Node.item : Node ν φ → Item φ
  | .directory _ => .directory
  | .file data => .file data

/-- A listing, with the names from a directory above. -/
def placed (above : List ν) (listing : List (List ν × Item φ)) : List (List ν × Item φ) :=
  listing.map fun entry => (above ++ entry.1, entry.2)

mutual

/-- What is in a node, with the names from the node. -/
@[simp] def below : Node ν φ → List (List ν × Item φ)
  | .directory entries => ([], .directory) :: contents entries
  | .file file => [([], .file file)]

/-- What is in a directory, with the names from the directory. -/
@[simp] def contents : Entries ν φ → List (List ν × Item φ)
  | [] => []
  | (name, node) :: rest => placed [name] (below node) ++ contents rest

end

/-- What is in a node below itself. -/
def inside : Node ν φ → List (List ν × Item φ)
  | .directory entries => contents entries
  | .file _ => []

theorem below_eq (node : Node ν φ) : below node = ([], node.item) :: inside node := by
  cases node <;> rfl

@[simp] theorem placed_nil (listing : List (List ν × Item φ)) : placed [] listing = listing := by
  simp [placed]

theorem placed_placed (above names : List ν) (listing : List (List ν × Item φ)) :
    placed above (placed names listing) = placed (above ++ names) listing := by
  simp [placed]

theorem placed_append (above : List ν) (left right : List (List ν × Item φ)) :
    placed above (left ++ right) = placed above left ++ placed above right :=
  List.map_append

theorem placed_below (above : List ν) (node : Node ν φ) :
    placed above (below node) = (above, node.item) :: placed above (inside node) := by
  simp [below_eq, placed]

/-- A directory has no more names than places are below it. -/
theorem length_le_contents (entries : Entries ν φ) : entries.length ≤ (contents entries).length := by
  induction entries with
  | nil => exact Nat.zero_le _
  | cons entry rest ih =>
      obtain ⟨name, node⟩ := entry
      simp only [contents, placed, below_eq, List.length_append, List.length_map, List.length_cons]
      omega

/-! ### The listing -/

theorem nil_not_mem_contents {entries : Entries ν φ} {item : Item φ} :
    ([], item) ∉ contents entries := by
  induction entries with
  | nil => simp [contents]
  | cons entry rest ih => simp [contents, placed, ih]

theorem nil_mem_below {node : Node ν φ} {item : Item φ} :
    ([], item) ∈ below node ↔ item = node.item := by
  cases node with
  | file => simp [below, Node.item]
  | directory => simp [below, Node.item, nil_not_mem_contents]

theorem cons_mem_contents {entries : Entries ν φ} {name : ν} {names : List ν} {item : Item φ} :
    (name :: names, item) ∈ contents entries
      ↔ ∃ node, (name, node) ∈ entries ∧ (names, item) ∈ below node := by
  induction entries with
  | nil => simp [contents]
  | cons entry rest ih =>
      obtain ⟨other, node⟩ := entry
      simp only [contents, placed, List.mem_append, List.mem_map, Prod.mk.injEq, List.singleton_append,
        List.cons.injEq, ih, List.mem_cons]
      constructor
      · rintro (⟨⟨names', item'⟩, hmem, ⟨rfl, rfl⟩, rfl⟩ | ⟨node', hnode, hmem⟩)
        · exact ⟨node, .inl ⟨rfl, rfl⟩, hmem⟩
        · exact ⟨node', .inr hnode, hmem⟩
      · rintro ⟨node', ⟨rfl, rfl⟩ | hnode, hmem⟩
        · exact .inl ⟨(names, item), hmem, ⟨rfl, rfl⟩, rfl⟩
        · exact .inr ⟨node', hnode, hmem⟩

theorem cons_mem_below {node : Node ν φ} {name : ν} {names : List ν} {item : Item φ} :
    (name :: names, item) ∈ below node
      ↔ ∃ entries, node = .directory entries ∧ (name :: names, item) ∈ contents entries := by
  cases node with
  | file file | directory entries => simp [below]

/-- Everything on the way to a listed place is a directory, and is listed. -/
theorem directory_mem_contents {entries : Entries ν φ} {names : List ν} {name : ν}
    {more : List ν} {item : Item φ} (h : (names ++ name :: more, item) ∈ contents entries)
    (hnames : names ≠ []) : (names, .directory) ∈ contents entries := by
  induction names generalizing entries with
  | nil => exact absurd rfl hnames
  | cons first names ih =>
      rw [List.cons_append, cons_mem_contents] at h
      obtain ⟨node, hnode, hmem⟩ := h
      refine cons_mem_contents.mpr ⟨node, hnode, ?_⟩
      cases names with
      | nil =>
          rw [List.nil_append, cons_mem_below] at hmem
          obtain ⟨inner, rfl, -⟩ := hmem
          exact nil_mem_below.mpr rfl
      | cons second names =>
          rw [List.cons_append, cons_mem_below] at hmem
          obtain ⟨inner, rfl, hmem⟩ := hmem
          exact cons_mem_below.mpr ⟨inner, rfl, ih hmem (List.cons_ne_nil second names)⟩

/-! ### Lookups -/

variable [LinearOrder ν]

mutual

/-- Every directory in the node has its entries in the order of their names, and no name twice. -/
@[simp] def Node.Ordered : Node ν φ → Prop
  | .directory entries => (entries.map Prod.fst).Pairwise (· < ·) ∧ AllOrdered entries
  | .file _ => True

@[simp] def AllOrdered : Entries ν φ → Prop
  | [] => True
  | (_, node) :: rest => node.Ordered ∧ AllOrdered rest

end

theorem allOrdered_iff {entries : Entries ν φ} :
    AllOrdered entries ↔ ∀ entry ∈ entries, entry.2.Ordered := by
  induction entries with
  | nil => simp [AllOrdered]
  | cons entry rest ih =>
      obtain ⟨name, node⟩ := entry
      rw [AllOrdered, ih, List.forall_mem_cons]

theorem nodup_names {entries : Entries ν φ} (h : (entries.map Prod.fst).Pairwise (· < ·)) :
    (entries.map Prod.fst).Nodup := h.imp ne_of_lt

/-- The node with a name. -/
@[simp] def node? (name : ν) : Entries ν φ → Option (Node ν φ)
  | [] => none
  | (other, node) :: rest => if name = other then some node else node? name rest

/-- What is at a place below a node. -/
@[simp] def find? : List ν → Node ν φ → Option (Item φ)
  | [], node => some node.item
  | name :: names, .directory entries => (node? name entries).bind (find? names)
  | _ :: _, .file _ => none

theorem mem_of_node? {name : ν} {entries : Entries ν φ} {node : Node ν φ}
    (h : node? name entries = some node) : (name, node) ∈ entries := by
  induction entries with
  | nil => cases h
  | cons entry rest ih =>
      obtain ⟨other, node'⟩ := entry
      rw [node?] at h
      split_ifs at h with hname
      · cases h
        rw [hname]
        exact List.mem_cons_self
      · exact List.mem_cons_of_mem _ (ih h)

/-- Where no name occurs twice, a lookup finds every node. -/
theorem node?_eq_some_iff {name : ν} {entries : Entries ν φ} {node : Node ν φ}
    (hnodup : (entries.map Prod.fst).Nodup) :
    node? name entries = some node ↔ (name, node) ∈ entries := by
  refine ⟨mem_of_node?, fun h => ?_⟩
  induction entries with
  | nil => cases h
  | cons entry rest ih =>
      obtain ⟨other, node'⟩ := entry
      rw [List.map_cons, List.nodup_cons] at hnodup
      rw [node?]
      rcases List.mem_cons.mp h with heq | hrest
      · cases heq
        exact if_pos rfl
      · rw [if_neg, ih hnodup.2 hrest]
        intro heq
        exact hnodup.1 (List.mem_map.mpr ⟨(name, node), hrest, heq⟩)

theorem mem_below_iff {node : Node ν φ} {names : List ν} {item : Item φ} (h : node.Ordered) :
    (names, item) ∈ below node ↔ find? names node = some item := by
  induction names generalizing node with
  | nil => rw [nil_mem_below, find?, Option.some.injEq, eq_comm]
  | cons name names ih =>
      rw [cons_mem_below]
      cases node with
      | file => simp [find?]
      | directory entries =>
          rw [Node.Ordered, allOrdered_iff] at h
          rw [find?, Option.bind_eq_some_iff]
          constructor
          · rintro ⟨_, heq, hmem⟩
            cases heq
            obtain ⟨inner, hinner, hmem⟩ := cons_mem_contents.mp hmem
            exact ⟨inner, (node?_eq_some_iff (nodup_names h.1)).mpr hinner, (ih (h.2 _ hinner)).mp hmem⟩
          · rintro ⟨inner, hinner, hfind⟩
            have hmem := mem_of_node? hinner
            exact ⟨entries, rfl, cons_mem_contents.mpr ⟨inner, hmem, (ih (h.2 _ hmem)).mpr hfind⟩⟩

/-- The listing of a directory has what is found below it. -/
theorem mem_contents_iff {entries : Entries ν φ} {names : List ν} {item : Item φ}
    (h : (Node.directory entries).Ordered) :
    (names, item) ∈ contents entries ↔ names ≠ [] ∧ find? names (.directory entries) = some item := by
  rw [← mem_below_iff h]
  cases names with
  | nil => simp [nil_not_mem_contents]
  | cons => simp

mutual

theorem nodup_below {node : Node ν φ} (h : node.Ordered) : ((below node).map Prod.fst).Nodup := by
  match node with
  | .file file => simp [below]
  | .directory entries =>
      rw [below, List.map_cons, List.nodup_cons]
      refine ⟨?_, nodup_contents (nodup_names h.1) h.2⟩
      rintro hmem
      obtain ⟨⟨names, item⟩, hentry, rfl⟩ := List.mem_map.mp hmem
      exact nil_not_mem_contents hentry

/-- The listing of a directory has each place once. -/
theorem nodup_contents {entries : Entries ν φ} (hnames : (entries.map Prod.fst).Nodup)
    (h : AllOrdered entries) : ((contents entries).map Prod.fst).Nodup := by
  match entries with
  | [] => simp [contents]
  | (name, node) :: rest =>
      rw [List.map_cons, List.nodup_cons] at hnames
      rw [contents, List.map_append, List.nodup_append]
      refine ⟨?_, nodup_contents hnames.2 h.2, ?_⟩
      · have hmap : (placed [name] (below node)).map Prod.fst
            = ((below node).map Prod.fst).map (name :: ·) := by
          rw [placed, List.map_map, List.map_map]
          rfl
        rw [hmap]
        exact (nodup_below h.1).map (fun a b heq => (List.cons.inj heq).2)
      · intro names hfirst other hrest heq
        obtain ⟨_, hmem, rfl⟩ := List.mem_map.mp hfirst
        obtain ⟨entry, -, rfl⟩ := List.mem_map.mp hmem
        obtain ⟨⟨names', item⟩, hmem', rfl⟩ := List.mem_map.mp hrest
        dsimp only at heq
        subst heq
        obtain ⟨node', hnode', -⟩ := cons_mem_contents.mp hmem'
        exact hnames.1 (List.mem_map.mpr ⟨(name, node'), hnode', rfl⟩)

end

/-! ### New files -/

/-- Puts a node at its place in the order of the names, over a node with the same name. -/
@[simp] def setEntry (name : ν) (node : Node ν φ) : Entries ν φ → Entries ν φ
  | [] => [(name, node)]
  | (other, node') :: rest =>
      if name = other then (name, node) :: rest
      else if name < other then (name, node) :: (other, node') :: rest
      else (other, node') :: setEntry name node rest

/-- The directory with a name: an empty one where nothing has the name. -/
def subdirectory (name : ν) (entries : Entries ν φ) : Option (Entries ν φ) :=
  match node? name entries with
  | none => some []
  | some (.directory inner) => some inner
  | some (.file _) => none

/-- Makes a new file and the directories missing on the way to it. -/
@[simp] def write (file : φ) : List ν → Entries ν φ → Option (Entries ν φ)
  | [], _ => none
  | [name], entries =>
      match node? name entries with
      | none => some (setEntry name (.file file) entries)
      | some _ => none
  | name :: next :: names, entries => do
      let inner ← subdirectory name entries
      let inner ← write file (next :: names) inner
      return setEntry name (.directory inner) entries

theorem node?_setEntry (name other : ν) (node : Node ν φ) (entries : Entries ν φ) :
    node? other (setEntry name node entries)
      = if other = name then some node else node? other entries := by
  induction entries with
  | nil => simp [setEntry, node?]
  | cons entry rest ih =>
      obtain ⟨first, node'⟩ := entry
      rw [setEntry]
      by_cases hname : name = first
      · subst hname
        rw [if_pos rfl]
        simp only [node?]
        split_ifs <;> rfl
      · rw [if_neg hname]
        split_ifs with hlt hother hother
        · subst hother
          simp [node?]
        · simp [node?, hother]
        · subst hother
          rw [node?, if_neg hname, ih, if_pos rfl]
        · rw [node?, node?, ih, if_neg hother]

theorem mem_setEntry {name : ν} {node : Node ν φ} {entries : Entries ν φ} {entry : ν × Node ν φ}
    (h : entry ∈ setEntry name node entries) : entry = (name, node) ∨ entry ∈ entries := by
  induction entries with
  | nil => exact .inl (List.mem_singleton.mp h)
  | cons first rest ih =>
      obtain ⟨other, node'⟩ := first
      rw [setEntry] at h
      split_ifs at h with hname hlt
      · rcases List.mem_cons.mp h with heq | hrest
        · exact .inl heq
        · exact .inr (List.mem_cons_of_mem _ hrest)
      · rcases List.mem_cons.mp h with heq | hrest
        · exact .inl heq
        · exact .inr hrest
      · rcases List.mem_cons.mp h with heq | hrest
        · exact .inr (heq ▸ List.mem_cons_self)
        · exact (ih hrest).imp_right (List.mem_cons_of_mem _)

theorem mem_names_setEntry {name other : ν} {node : Node ν φ} {entries : Entries ν φ}
    (h : other ∈ (setEntry name node entries).map Prod.fst) :
    other = name ∨ other ∈ entries.map Prod.fst := by
  obtain ⟨entry, hentry, rfl⟩ := List.mem_map.mp h
  rcases mem_setEntry hentry with rfl | hmem
  · exact .inl rfl
  · exact .inr (List.mem_map.mpr ⟨entry, hmem, rfl⟩)

theorem pairwise_setEntry {name : ν} {node : Node ν φ} {entries : Entries ν φ}
    (h : (entries.map Prod.fst).Pairwise (· < ·)) :
    ((setEntry name node entries).map Prod.fst).Pairwise (· < ·) := by
  induction entries with
  | nil => simp [setEntry]
  | cons first rest ih =>
      obtain ⟨other, node'⟩ := first
      have hcons := List.pairwise_cons.mp h
      rw [setEntry]
      split_ifs with hname hlt
      · subst hname
        exact h
      · refine List.pairwise_cons.mpr ⟨fun later hlater => ?_, h⟩
        rcases List.mem_cons.mp hlater with rfl | hrest
        · exact hlt
        · exact hlt.trans (hcons.1 later hrest)
      · refine List.pairwise_cons.mpr ⟨fun later hlater => ?_, ih hcons.2⟩
        rcases mem_names_setEntry hlater with rfl | hrest
        · exact lt_of_le_of_ne (not_lt.mp hlt) (Ne.symm hname)
        · exact hcons.1 later hrest

/-- A new or another node keeps a directory in order. -/
theorem ordered_setEntry {name : ν} {node : Node ν φ} {entries : Entries ν φ}
    (h : (Node.directory entries).Ordered) (hnode : node.Ordered) :
    (Node.directory (setEntry name node entries)).Ordered := by
  rw [Node.Ordered, allOrdered_iff] at h ⊢
  refine ⟨pairwise_setEntry h.1, fun entry hentry => ?_⟩
  rcases mem_setEntry hentry with rfl | hmem
  · exact hnode
  · exact h.2 entry hmem

theorem find?_setEntry (name first : ν) (names : List ν) (node : Node ν φ)
    (entries : Entries ν φ) :
    find? (first :: names) (.directory (setEntry name node entries))
      = if first = name then find? names node else find? (first :: names) (.directory entries) := by
  rw [find?, find?, node?_setEntry]
  split_ifs <;> rfl

/-! ### What a new file changes -/

theorem find?_append {names : List ν} {name : ν} {more : List ν} {node : Node ν φ} {item : Item φ}
    (h : find? (names ++ name :: more) node = some item) : find? names node = some .directory := by
  induction names generalizing node with
  | nil =>
      cases node with
      | file => cases h
      | directory => rfl
  | cons first names ih =>
      cases node with
      | file => cases h
      | directory =>
          obtain ⟨inner, hinner, hfind⟩ := Option.bind_eq_some_iff.mp h
          exact Option.bind_eq_some_iff.mpr ⟨inner, hinner, ih hfind⟩

/-- Below a name stands what stands in its directory. -/
theorem find?_subdirectory {name : ν} {entries inner : Entries ν φ}
    (h : subdirectory name entries = some inner) {names : List ν} (hnames : names ≠ []) :
    find? (name :: names) (.directory entries) = find? names (.directory inner) := by
  obtain ⟨next, rest, rfl⟩ := List.exists_cons_of_ne_nil hnames
  unfold subdirectory at h
  rw [find?]
  cases hentry : node? name entries with
  | none =>
      rw [hentry] at h
      cases h
      rfl
  | some node =>
      rw [hentry] at h
      cases node with
      | file => cases h
      | directory =>
          cases h
          rfl

theorem write_cons_cons {file : φ} {name next : ν} {names : List ν} {entries entries' : Entries ν φ} :
    write file (name :: next :: names) entries = some entries'
      ↔ ∃ inner inner', subdirectory name entries = some inner
        ∧ write file (next :: names) inner = some inner'
        ∧ entries' = setEntry name (.directory inner') entries := by
  rw [write]
  constructor
  · intro h
    obtain ⟨inner, hinner, h⟩ := Option.bind_eq_some_iff.mp h
    obtain ⟨inner', hinner', h⟩ := Option.bind_eq_some_iff.mp h
    exact ⟨inner, inner', hinner, hinner', (Option.some.inj h).symm⟩
  · rintro ⟨inner, inner', hinner, hinner', rfl⟩
    exact Option.bind_eq_some_iff.mpr
      ⟨inner, hinner, Option.bind_eq_some_iff.mpr ⟨inner', hinner', rfl⟩⟩

theorem write_singleton {file : φ} {name : ν} {entries entries' : Entries ν φ} :
    write file [name] entries = some entries'
      ↔ node? name entries = none ∧ entries' = setEntry name (.file file) entries := by
  rw [write]
  cases node? name entries with
  | none => simp [eq_comm]
  | some => simp

theorem exists_subdirectory_iff {name : ν} {entries : Entries ν φ} :
    (∃ inner, subdirectory name entries = some inner)
      ↔ ∀ data, find? [name] (.directory entries) ≠ some (.file data) := by
  unfold subdirectory
  rw [find?]
  cases node? name entries with
  | none => simp
  | some node => cases node <;> simp [find?, Node.item]

/-- A new file can be made where nothing is, when no file is on the way. -/
theorem exists_write_iff {file : φ} {path : List ν} {entries : Entries ν φ} :
    (∃ entries', write file path entries = some entries')
      ↔ path ≠ [] ∧ find? path (.directory entries) = none
        ∧ ∀ above, above <+: path → ∀ data, find? above (.directory entries) ≠ some (.file data) := by
  induction path generalizing entries with
  | nil => simp [write]
  | cons name path ih =>
      cases path with
      | nil =>
          simp only [write_singleton, exists_and_left, exists_eq, and_true]
          have hfind : find? [name] (.directory entries) = none ↔ node? name entries = none := by
            rw [find?]
            cases node? name entries <;> simp [find?]
          constructor
          · intro hnone
            refine ⟨List.cons_ne_nil name [], hfind.mpr hnone, fun above habove data => ?_⟩
            rcases List.prefix_cons_iff.mp habove with rfl | ⟨more, rfl, hmore⟩
            · simp [find?, Node.item]
            · rw [List.prefix_nil.mp hmore, hfind.mpr hnone]
              simp
          · exact fun h => hfind.mp h.2.1
      | cons next path =>
          simp only [write_cons_cons]
          constructor
          · rintro ⟨entries', inner, inner', hinner, hwrite, -⟩
            obtain ⟨-, hnone, habove⟩ := ih.mp ⟨inner', hwrite⟩
            refine ⟨List.cons_ne_nil name _, ?_, fun above hway data => ?_⟩
            · rw [find?_subdirectory hinner (List.cons_ne_nil next path), hnone]
            · rcases List.prefix_cons_iff.mp hway with rfl | ⟨more, rfl, hmore⟩
              · simp [find?, Node.item]
              · cases more with
                | nil => exact exists_subdirectory_iff.mp ⟨inner, hinner⟩ data
                | cons second more =>
                    rw [find?_subdirectory hinner (List.cons_ne_nil second more)]
                    exact habove _ hmore data
          · rintro ⟨-, hnone, habove⟩
            obtain ⟨inner, hinner⟩ := exists_subdirectory_iff.mpr
              (habove [name] ⟨next :: path, rfl⟩)
            rw [find?_subdirectory hinner (List.cons_ne_nil next path)] at hnone
            obtain ⟨inner', hwrite⟩ := ih.mpr ⟨List.cons_ne_nil next path, hnone, fun above hmore data => by
              cases above with
              | nil => simp [find?, Node.item]
              | cons second more =>
                  rw [← find?_subdirectory hinner (List.cons_ne_nil second more)]
                  exact habove _ (List.cons_prefix_cons.mpr ⟨rfl, hmore⟩) data⟩
            exact ⟨_, inner, inner', hinner, hwrite, rfl⟩

/-- What is found after a new file is made: the file, the directories on the way to it, and what
was found before. -/
theorem find?_write {file : φ} {path : List ν} {entries entries' : Entries ν φ}
    (h : write file path entries = some entries') (names : List ν) :
    find? names (.directory entries')
      = if names = path then some (.file file) else if names <+: path then some .directory
        else find? names (.directory entries) := by
  induction path generalizing entries entries' names with
  | nil => cases h
  | cons name path ih =>
      cases names with
      | nil => simp [find?, Node.item]
      | cons first names =>
          cases path with
          | nil =>
              obtain ⟨hnone, rfl⟩ := write_singleton.mp h
              rw [find?_setEntry]
              by_cases hfirst : first = name
              · subst hfirst
                cases names with
                | nil => simp [find?, Node.item]
                | cons => simp [find?, hnone]
              · simp [hfirst]
          | cons =>
              obtain ⟨inner, inner', hinner, hwrite, rfl⟩ := write_cons_cons.mp h
              rw [find?_setEntry]
              by_cases hfirst : first = name
              · subst hfirst
                rw [if_pos rfl, ih hwrite]
                by_cases hnames : names = []
                · subst hnames
                  simp
                · rw [find?_subdirectory hinner hnames]
                  simp [List.cons_prefix_cons]
              · simp [hfirst, List.cons_prefix_cons]

/-- A new file only adds places. -/
theorem find?_write_iff {file : φ} {path : List ν} {entries entries' : Entries ν φ}
    (h : write file path entries = some entries') {names : List ν} {item : Item φ} :
    find? names (.directory entries') = some item
      ↔ names = path ∧ item = .file file
        ∨ (names <+: path ∧ names ≠ path) ∧ item = .directory
        ∨ find? names (.directory entries) = some item := by
  obtain ⟨-, hnone, habove⟩ := exists_write_iff.mp ⟨entries', h⟩
  rw [find?_write h]
  by_cases hpath : names = path
  · subst hpath
    simp [hnone, eq_comm]
  · by_cases hway : names <+: path
    · have hdirectory : find? names (.directory entries) = some item → item = .directory := by
        intro hfind
        cases item with
        | directory => rfl
        | file data => exact absurd hfind (habove names hway data)
      rw [if_neg hpath, if_pos hway]
      constructor
      · intro heq
        exact .inr (.inl ⟨⟨hway, hpath⟩, (Option.some.inj heq).symm⟩)
      · rintro (⟨heq, -⟩ | ⟨-, rfl⟩ | hfind)
        · exact absurd heq hpath
        · rfl
        · rw [hdirectory hfind]
    · simp [hpath, hway]

theorem ordered_write {file : φ} {path : List ν} {entries entries' : Entries ν φ}
    (h : write file path entries = some entries') (hordered : (Node.directory entries).Ordered) :
    (Node.directory entries').Ordered := by
  induction path generalizing entries entries' with
  | nil => cases h
  | cons name path ih =>
      cases path with
      | nil =>
          obtain ⟨-, rfl⟩ := write_singleton.mp h
          exact ordered_setEntry hordered trivial
      | cons next path =>
          obtain ⟨inner, inner', hinner, hwrite, rfl⟩ := write_cons_cons.mp h
          refine ordered_setEntry hordered (ih hwrite ?_)
          unfold subdirectory at hinner
          cases hentry : node? name entries with
          | none =>
              rw [hentry] at hinner
              cases hinner
              exact ⟨List.Pairwise.nil, trivial⟩
          | some node =>
              rw [hentry] at hinner
              cases node with
              | file => cases hinner
              | directory =>
                  cases hinner
                  exact allOrdered_iff.mp hordered.2 _ (mem_of_node? hentry)

/-! ### Lists of new files -/

/-- Makes files one after the other. -/
def writeAll : List (List ν × φ) → Entries ν φ → Option (Entries ν φ)
  | [], entries => some entries
  | (path, file) :: rest, entries => (write file path entries).bind (writeAll rest)

theorem ordered_writeAll {files : List (List ν × φ)} {entries entries' : Entries ν φ}
    (h : writeAll files entries = some entries') (hordered : (Node.directory entries).Ordered) :
    (Node.directory entries').Ordered := by
  induction files generalizing entries with
  | nil =>
      cases h
      exact hordered
  | cons first files ih =>
      obtain ⟨mid, hwrite, hrest⟩ := Option.bind_eq_some_iff.mp h
      exact ih hrest (ordered_write hwrite hordered)

/-- What is found after files are made. -/
theorem find?_writeAll {files : List (List ν × φ)} {entries entries' : Entries ν φ}
    (h : writeAll files entries = some entries') {names : List ν} {item : Item φ} :
    find? names (.directory entries') = some item
      ↔ (∃ file, (names, file) ∈ files ∧ item = .file file)
        ∨ ((∃ entry ∈ files, names <+: entry.1 ∧ names ≠ entry.1) ∧ item = .directory)
        ∨ find? names (.directory entries) = some item := by
  induction files generalizing entries with
  | nil =>
      cases h
      simp
  | cons first files ih =>
      obtain ⟨path, file⟩ := first
      obtain ⟨mid, hwrite, hrest⟩ := Option.bind_eq_some_iff.mp h
      rw [ih hrest, find?_write_iff hwrite]
      constructor
      · rintro (⟨data, hmem, rfl⟩ | ⟨⟨entry, hmem, hbelow⟩, rfl⟩ | ⟨rfl, rfl⟩ | ⟨hbelow, rfl⟩ | hfind)
        · exact .inl ⟨data, List.mem_cons_of_mem _ hmem, rfl⟩
        · exact .inr (.inl ⟨⟨entry, List.mem_cons_of_mem _ hmem, hbelow⟩, rfl⟩)
        · exact .inl ⟨file, List.mem_cons_self, rfl⟩
        · exact .inr (.inl ⟨⟨(path, file), List.mem_cons_self, hbelow⟩, rfl⟩)
        · exact .inr (.inr hfind)
      · rintro (⟨data, hmem, rfl⟩ | ⟨⟨entry, hmem, hbelow⟩, rfl⟩ | hfind)
        · rcases List.mem_cons.mp hmem with heq | hmem
          · cases heq
            exact .inr (.inr (.inl ⟨rfl, rfl⟩))
          · exact .inl ⟨data, hmem, rfl⟩
        · rcases List.mem_cons.mp hmem with rfl | hmem
          · exact .inr (.inr (.inr (.inl ⟨hbelow, rfl⟩)))
          · exact .inr (.inl ⟨⟨entry, hmem, hbelow⟩, rfl⟩)
        · exact .inr (.inr (.inr (.inr hfind)))

/-- Files can be made where nothing is, with no file on the way to another one. -/
theorem exists_writeAll {files : List (List ν × φ)} {entries : Entries ν φ}
    (hplaces : ∀ entry ∈ files, entry.1 ≠ [] ∧ find? entry.1 (.directory entries) = none
      ∧ ∀ above, above <+: entry.1 → ∀ data, find? above (.directory entries) ≠ some (.file data))
    (hapart : files.Pairwise fun a b => ¬ a.1 <+: b.1 ∧ ¬ b.1 <+: a.1) :
    ∃ entries', writeAll files entries = some entries' := by
  induction files generalizing entries with
  | nil => exact ⟨entries, rfl⟩
  | cons first files ih =>
      obtain ⟨path, file⟩ := first
      rw [List.forall_mem_cons] at hplaces
      rw [List.pairwise_cons] at hapart
      obtain ⟨mid, hwrite⟩ := exists_write_iff.mpr hplaces.1
      obtain ⟨entries', hrest⟩ := @ih mid (fun entry hentry => by
        obtain ⟨hne, hnone, habove⟩ := hplaces.2 entry hentry
        obtain ⟨hleft, hright⟩ := hapart.1 entry hentry
        refine ⟨hne, ?_, fun above hway data hfind => ?_⟩
        · rw [find?_write hwrite, if_neg, if_neg hright, hnone]
          intro heq
          exact hright (heq ▸ List.prefix_rfl)
        · rcases (find?_write_iff hwrite).mp hfind with ⟨rfl, -⟩ | ⟨-, heq⟩ | hfind
          · exact hleft hway
          · cases heq
          · exact habove above hway data hfind) hapart.2
      exact ⟨entries', Option.bind_eq_some_iff.mpr ⟨mid, hwrite, hrest⟩⟩

end DirectoryTree
