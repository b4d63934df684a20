import AgentFleet.Lib.CodePoints
import AgentFleet.Lib.Related
import Mathlib.Data.List.Nodup
import Mathlib.Data.Rat.Defs

/-! # Plain JSON in memory

`_is_builtin_json_value` looks through an object graph before a fleet patch is parsed.  The objects
refer to each other, so a container may hold itself or be held twice.

* `scanLoop_ne_none`: every turn of the loop is charged to the node counter, so the loop ends.
* `isBuiltinJsonValue_sound`: what is accepted is a tree within the limits. -/

namespace AgentFleet

open CodePoints Related

/-! ### Objects -/

/-- What the exact type of an object tells; `other` are all other types, subclasses among them. -/
inductive PyObject (ref : Type) where
  | str (text : Text)
  | none
  | int (value : ℤ)
  | bool (value : Bool)
  /-- an infinity and what is not a number have no value -/
  | float (value : Option ℚ)
  | dict (entries : List (ref × ref))
  | list (items : List ref)
  | other

/-- `MAX_RAW_FLEET_PATCH_DEPTH`. -/
def maxRawFleetPatchDepth : ℕ := 64

/-- `MAX_RAW_FLEET_PATCH_NODES`. -/
def maxRawFleetPatchNodes : ℕ := 10000

/-- `MAX_RAW_FLEET_PATCH_STRING_BYTES`. -/
def maxRawFleetPatchStringBytes : ℕ := 4000000

/-- `_bounded_utf8_size`. -/
def boundedUtf8Size (value : Text) (remaining : ℕ) : Option ℕ :=
  if remaining < value.length then none
  else (encodedSize? value).filter fun size => size ≤ remaining

/-- The local variables of `_is_builtin_json_value`; the top of the stack is its first entry. -/
structure Scan (ref : Type) where
  stack : List (ref × ℕ)
  seenContainers : List ref := []
  visitedNodes : ℕ := 0
  stringBytes : ℕ := 0

section Loop

variable {ref : Type} [DecidableEq ref] (heap : ref → PyObject ref)

/-- The loop over the entries of a dictionary, with the bytes and the stack after it. -/
@[simp] def scanEntries (depth : ℕ) : List (ref × ref) → ℕ → List (ref × ℕ) → Option (ℕ × List (ref × ℕ))
  | [], stringBytes, stack => some (stringBytes, stack)
  | (key, child) :: entries, stringBytes, stack =>
      match heap key with
      | .str text => do
          let size ← boundedUtf8Size text (maxRawFleetPatchStringBytes - stringBytes)
          scanEntries depth entries (stringBytes + size) ((child, depth + 1) :: stack)
      | _ => none

/-- One turn of the loop after `stack.pop()`; nothing where it returns `False`. -/
def visitObject (item : ref) (depth : ℕ) (scan : Scan ref) : Option (Scan ref) :=
  let visitedNodes := scan.visitedNodes + 1
  if maxRawFleetPatchNodes < visitedNodes then none
  else match heap item with
    | .str text => do
        let size ← boundedUtf8Size text (maxRawFleetPatchStringBytes - scan.stringBytes)
        return { scan with visitedNodes, stringBytes := scan.stringBytes + size }
    | .none => some { scan with visitedNodes }
    | .int _ => some { scan with visitedNodes }
    | .bool _ => some { scan with visitedNodes }
    | .float value => if value.isSome then some { scan with visitedNodes } else none
    | .dict entries =>
        if maxRawFleetPatchDepth ≤ depth then none
        else if item ∈ scan.seenContainers then none
        else if maxRawFleetPatchNodes < visitedNodes + scan.stack.length + entries.length then none
        else do
          let (stringBytes, stack) ← scanEntries heap depth entries scan.stringBytes scan.stack
          return { stack, seenContainers := item :: scan.seenContainers, visitedNodes, stringBytes }
    | .list items =>
        if maxRawFleetPatchDepth ≤ depth then none
        else if item ∈ scan.seenContainers then none
        else if maxRawFleetPatchNodes < visitedNodes + scan.stack.length + items.length then none
        else some { scan with
          stack := (items.map fun child => (child, depth + 1)).reverse ++ scan.stack
          seenContainers := item :: scan.seenContainers
          visitedNodes }
    | .other => none

/-- `while stack`, for as many turns as there is fuel. -/
@[simp] def scanLoop : ℕ → Scan ref → Option Bool
  | 0, _ => none
  | fuel + 1, scan =>
      match scan.stack with
      | [] => some true
      | (item, depth) :: stack =>
          match visitObject heap item depth { scan with stack } with
          | none => some false
          | some scan => scanLoop fuel scan

/-- `_is_builtin_json_value`; nothing where the turns do not suffice. -/
def isBuiltinJsonValue (turns : ℕ) (value : ref) : Option Bool :=
  scanLoop heap turns { stack := [(value, 0)] }

end Loop

/-! ### Trees -/

/-- A JSON tree in memory.  A container has an identity, and a dictionary has its keys apart from
the values under them. -/
inductive JsonTree (ref : Type) where
  | str (text : String)
  | null
  | int (value : ℤ)
  | bool (value : Bool)
  | float (value : ℚ)
  | dict (identity : ref) (keys : List String) (values : List (JsonTree ref))
  | list (identity : ref) (items : List (JsonTree ref))

namespace JsonTree

variable {ref : Type}

/-- How many containers are within each other. -/
@[simp] def depth : JsonTree ref → ℕ
  | .dict _ _ values => (values.map depth).foldr max 0 + 1
  | .list _ items => (items.map depth).foldr max 0 + 1
  | _ => 0

/-- How many values there are. -/
@[simp] def nodes : JsonTree ref → ℕ
  | .dict _ _ values => (values.map nodes).sum + 1
  | .list _ items => (items.map nodes).sum + 1
  | _ => 1

/-- How many bytes the texts and the keys take. -/
@[simp] def stringBytes : JsonTree ref → ℕ
  | .str text => text.utf8ByteSize
  | .dict _ keys values => (keys.map String.utf8ByteSize).sum + (values.map stringBytes).sum
  | .list _ items => (items.map stringBytes).sum
  | _ => 0

/-- The containers. -/
@[simp] def containers : JsonTree ref → List ref
  | .dict identity _ values => identity :: (values.map containers).flatten
  | .list identity items => identity :: (items.map containers).flatten
  | _ => []

/-- The tree holds no others and takes the given bytes. -/
structure IsLeaf (tree : JsonTree ref) (taken : ℕ) : Prop where
  nodes : tree.nodes = 1
  stringBytes : tree.stringBytes = taken
  containers : tree.containers = []
  depth : tree.depth = 0

theorem isLeaf_str (text : String) : (str text : JsonTree ref).IsLeaf text.utf8ByteSize :=
  ⟨by simp [nodes], by simp [stringBytes], by simp [containers], by simp [depth]⟩

theorem isLeaf_null : (null : JsonTree ref).IsLeaf 0 :=
  ⟨by simp [nodes], by simp [stringBytes], by simp [containers], by simp [depth]⟩

theorem isLeaf_int (value : ℤ) : (int value : JsonTree ref).IsLeaf 0 :=
  ⟨by simp [nodes], by simp [stringBytes], by simp [containers], by simp [depth]⟩

theorem isLeaf_bool (value : Bool) : (bool value : JsonTree ref).IsLeaf 0 :=
  ⟨by simp [nodes], by simp [stringBytes], by simp [containers], by simp [depth]⟩

theorem isLeaf_float (value : ℚ) : (float value : JsonTree ref).IsLeaf 0 :=
  ⟨by simp [nodes], by simp [stringBytes], by simp [containers], by simp [depth]⟩

end JsonTree

/-- An object is a tree. -/
inductive Denotes {ref : Type} (heap : ref → PyObject ref) : ref → JsonTree ref → Prop where
  | str {item : ref} {text : String} (h : heap item = .str (ofString text)) :
      Denotes heap item (.str text)
  | null {item : ref} (h : heap item = .none) : Denotes heap item .null
  | int {item : ref} {value : ℤ} (h : heap item = .int value) : Denotes heap item (.int value)
  | bool {item : ref} {value : Bool} (h : heap item = .bool value) : Denotes heap item (.bool value)
  | float {item : ref} {value : ℚ} (h : heap item = .float (some value)) :
      Denotes heap item (.float value)
  | dict {item : ref} {entries : List (ref × ref)} {keys : List String}
      {values : List (JsonTree ref)} (h : heap item = .dict entries)
      (hkeys : entries.map (fun entry => heap entry.1) = keys.map fun key => .str (ofString key))
      (hvalues : List.Forall₂ (Denotes heap) (entries.map Prod.snd) values) :
      Denotes heap item (.dict item keys values)
  | list {item : ref} {children : List ref} {items : List (JsonTree ref)}
      (h : heap item = .list children) (hitems : List.Forall₂ (Denotes heap) children items) :
      Denotes heap item (.list item items)

/-! ### One turn -/

section Soundness

variable {ref : Type} [DecidableEq ref] {heap : ref → PyObject ref} {scan scan' : Scan ref}
  {item : ref} {depth : ℕ}

/-- The counters are within the limits, and so are the levels of what is still to be visited. -/
structure Scan.Bounded (scan : Scan ref) : Prop where
  nodes : scan.visitedNodes ≤ maxRawFleetPatchNodes
  bytes : scan.stringBytes ≤ maxRawFleetPatchStringBytes
  depth : ∀ entry ∈ scan.stack, entry.2 ≤ maxRawFleetPatchDepth

/-- A turn opens an object: its children go onto the stack, and whatever trees they are, the object
is the tree over them. -/
structure Opened (heap : ref → PyObject ref) (item : ref) (depth : ℕ) (scan scan' : Scan ref)
    (children opened : List ref) (taken : ℕ) : Prop where
  stack : scan'.stack = (children.map fun child => (child, depth + 1)).reverse ++ scan.stack
  seen : scan'.seenContainers = opened ++ scan.seenContainers
  fresh : opened.Nodup ∧ ∀ container ∈ opened, container ∉ scan.seenContainers
  visited : scan'.visitedNodes = scan.visitedNodes + 1
  visitedLe : scan'.visitedNodes ≤ maxRawFleetPatchNodes
  bytes : scan'.stringBytes = scan.stringBytes + taken
  bytesLe : scan'.stringBytes ≤ maxRawFleetPatchStringBytes
  depthLt : children ≠ [] → depth < maxRawFleetPatchDepth
  build : ∀ trees, List.Forall₂ (Denotes heap) children trees → ∃ tree, Denotes heap item tree
    ∧ tree.nodes = (trees.map JsonTree.nodes).sum + 1
    ∧ tree.stringBytes = taken + (trees.map JsonTree.stringBytes).sum
    ∧ tree.containers = opened ++ (trees.map JsonTree.containers).flatten
    ∧ ((∀ child ∈ trees, depth + 1 + child.depth ≤ maxRawFleetPatchDepth) →
      depth + tree.depth ≤ maxRawFleetPatchDepth)

theorem boundedUtf8Size_ok {value : Text} {remaining size : ℕ}
    (h : boundedUtf8Size value remaining = some size) :
    size ≤ remaining ∧ ∃ text : String, ofString text = value ∧ text.utf8ByteSize = size := by
  unfold boundedUtf8Size at h
  split_ifs at h
  obtain ⟨hsize, hle⟩ := Option.filter_eq_some_iff.mp h
  exact ⟨of_decide_eq_true hle, exists_ofString hsize⟩

omit [DecidableEq ref] in
theorem scanEntries_ok {entries : List (ref × ref)} {bytes bytes' : ℕ}
    {stack stack' : List (ref × ℕ)} (hbytes : bytes ≤ maxRawFleetPatchStringBytes)
    (h : scanEntries heap depth entries bytes stack = some (bytes', stack')) :
    bytes' ≤ maxRawFleetPatchStringBytes
      ∧ stack' = ((entries.map Prod.snd).map fun child => (child, depth + 1)).reverse ++ stack
      ∧ ∃ keys : List String,
        entries.map (fun entry => heap entry.1) = keys.map (fun key => .str (ofString key))
          ∧ bytes' = bytes + (keys.map String.utf8ByteSize).sum := by
  induction entries generalizing bytes stack with
  | nil =>
      obtain ⟨rfl, rfl⟩ := Prod.mk.inj (Option.some.inj h)
      exact ⟨hbytes, rfl, [], rfl, rfl⟩
  | cons entry entries ih =>
      obtain ⟨key, child⟩ := entry
      unfold scanEntries at h
      cases hkey : heap key with
      | str text =>
          rw [hkey] at h
          obtain ⟨size, hsize, hrest⟩ := Option.bind_eq_some_iff.mp h
          obtain ⟨hle, name, rfl, rfl⟩ := boundedUtf8Size_ok hsize
          obtain ⟨hbytes', hstack, keys, hkeys, hsum⟩ := ih (by omega) hrest
          refine ⟨hbytes', ?_, name :: keys, ?_, ?_⟩
          · rw [hstack]
            simp
          · rw [List.map_cons, List.map_cons, hkeys, hkey]
          · rw [List.map_cons, List.sum_cons]
            omega
      | _ => simp [hkey] at h

theorem foldr_max_le {values : List ℕ} {bound : ℕ} (h : ∀ value ∈ values, value ≤ bound) :
    values.foldr max 0 ≤ bound := by
  induction values with
  | nil => exact Nat.zero_le _
  | cons value values ih =>
      exact max_le (h value List.mem_cons_self)
        (ih fun other hmem => h other (List.mem_cons_of_mem _ hmem))

omit [DecidableEq ref] in
/-- The level of a container below the limit leaves room for its children. -/
theorem container_depth {trees : List (JsonTree ref)} (hdepth : depth < maxRawFleetPatchDepth)
    (h : ∀ child ∈ trees, depth + 1 + child.depth ≤ maxRawFleetPatchDepth) :
    depth + ((trees.map JsonTree.depth).foldr max 0 + 1) ≤ maxRawFleetPatchDepth := by
  have hle : (trees.map JsonTree.depth).foldr max 0 ≤ maxRawFleetPatchDepth - (depth + 1) := by
    refine foldr_max_le fun value hvalue => ?_
    obtain ⟨child, hchild, rfl⟩ := List.mem_map.mp hvalue
    have hroom := h child hchild
    omega
  omega

omit [DecidableEq ref] in
/-- What a turn does with an object that holds no others. -/
theorem opened_leaf {taken : ℕ} {tree : JsonTree ref} (hdepth : depth ≤ maxRawFleetPatchDepth)
    (htree : Denotes heap item tree) (hleaf : tree.IsLeaf taken)
    (hvisited : scan.visitedNodes + 1 ≤ maxRawFleetPatchNodes)
    (hle : scan.stringBytes + taken ≤ maxRawFleetPatchStringBytes) :
    Opened heap item depth scan
      { scan with visitedNodes := scan.visitedNodes + 1, stringBytes := scan.stringBytes + taken }
      [] [] taken where
  stack := rfl
  seen := rfl
  fresh := ⟨List.nodup_nil, fun _ hmem => absurd hmem List.not_mem_nil⟩
  visited := rfl
  visitedLe := hvisited
  bytes := rfl
  bytesLe := hle
  depthLt := fun hne => absurd rfl hne
  build := by
    intro trees htrees
    cases htrees
    refine ⟨tree, htree, hleaf.nodes, hleaf.stringBytes, hleaf.containers, fun _ => ?_⟩
    rw [hleaf.depth]
    exact hdepth

omit [DecidableEq ref] in
/-- What a turn does with an object that is no text either. -/
theorem opened_scalar {tree : JsonTree ref} (hdepth : depth ≤ maxRawFleetPatchDepth)
    (htree : Denotes heap item tree) (hleaf : tree.IsLeaf 0)
    (hvisited : scan.visitedNodes + 1 ≤ maxRawFleetPatchNodes)
    (hle : scan.stringBytes ≤ maxRawFleetPatchStringBytes) :
    ∃ children opened taken, Opened heap item depth scan
      { scan with visitedNodes := scan.visitedNodes + 1 } children opened taken :=
  ⟨[], [], 0, opened_leaf hdepth htree hleaf hvisited hle⟩

/-- Whatever a turn opens is within the limits. -/
theorem visitObject_opened (hbounded : scan.Bounded) (hdepth : depth ≤ maxRawFleetPatchDepth)
    (h : visitObject heap item depth scan = some scan') :
    ∃ children opened taken, Opened heap item depth scan scan' children opened taken := by
  have hbytes := hbounded.bytes
  unfold visitObject at h
  dsimp only at h
  by_cases hnodes : maxRawFleetPatchNodes < scan.visitedNodes + 1
  · rw [if_pos hnodes] at h
    cases h
  rw [if_neg hnodes] at h
  have hvisited : scan.visitedNodes + 1 ≤ maxRawFleetPatchNodes := not_lt.mp hnodes
  cases hitem : heap item with
  | str text =>
      rw [hitem] at h
      obtain ⟨size, hsize, hscan⟩ := Option.bind_eq_some_iff.mp h
      obtain ⟨hle, name, rfl, rfl⟩ := boundedUtf8Size_ok hsize
      obtain rfl := Option.some.inj hscan
      exact ⟨[], [], _, opened_leaf hdepth (.str hitem) (JsonTree.isLeaf_str name) hvisited
        (by omega)⟩
  | none =>
      rw [hitem] at h
      obtain rfl := Option.some.inj h
      exact opened_scalar hdepth (.null hitem) JsonTree.isLeaf_null hvisited hbytes
  | int value =>
      rw [hitem] at h
      obtain rfl := Option.some.inj h
      exact opened_scalar hdepth (.int hitem) (JsonTree.isLeaf_int value) hvisited hbytes
  | bool value =>
      rw [hitem] at h
      obtain rfl := Option.some.inj h
      exact opened_scalar hdepth (.bool hitem) (JsonTree.isLeaf_bool value) hvisited hbytes
  | float value =>
      rw [hitem] at h
      cases value with
      | none => cases h
      | some number =>
          obtain rfl := Option.some.inj h
          exact opened_scalar hdepth (.float hitem) (JsonTree.isLeaf_float number) hvisited hbytes
  | dict entries =>
      rw [hitem] at h
      dsimp only at h
      split_ifs at h with hlevel hseen hmany
      obtain ⟨⟨bytes', stack'⟩, hentries, hscan⟩ := Option.bind_eq_some_iff.mp h
      obtain ⟨hle, hstack, keys, hkeys, hsum⟩ := scanEntries_ok hbytes hentries
      obtain rfl := Option.some.inj hscan
      refine ⟨entries.map Prod.snd, [item], (keys.map String.utf8ByteSize).sum, hstack, rfl,
        ⟨List.nodup_singleton _, ?_⟩, rfl, hvisited, hsum, hle, fun _ => not_le.mp hlevel, ?_⟩
      · intro container hmem
        obtain rfl := List.mem_singleton.mp hmem
        exact hseen
      · intro trees htrees
        exact ⟨.dict item keys trees, .dict hitem hkeys htrees, by rw [JsonTree.nodes],
          by rw [JsonTree.stringBytes], by rw [JsonTree.containers]; rfl,
          fun hroom => by rw [JsonTree.depth]; exact container_depth (not_le.mp hlevel) hroom⟩
  | list items =>
      rw [hitem] at h
      dsimp only at h
      split_ifs at h with hlevel hseen hmany
      obtain rfl := Option.some.inj h
      refine ⟨items, [item], 0, rfl, rfl, ⟨List.nodup_singleton _, ?_⟩, rfl, hvisited, rfl, hbytes,
        fun _ => not_le.mp hlevel, ?_⟩
      · intro container hmem
        obtain rfl := List.mem_singleton.mp hmem
        exact hseen
      · intro trees htrees
        exact ⟨.list item trees, .list hitem htrees, by rw [JsonTree.nodes],
          by rw [JsonTree.stringBytes, Nat.zero_add], by rw [JsonTree.containers]; rfl,
          fun hroom => by rw [JsonTree.depth]; exact container_depth (not_le.mp hlevel) hroom⟩
  | other =>
      rw [hitem] at h
      cases h

/-! ### The loop -/

/-- What is on the stack are trees, and the counters have room for them. -/
structure Covers (heap : ref → PyObject ref) (scan : Scan ref) (trees : List (JsonTree ref)) :
    Prop where
  denotes : List.Forall₂ (fun entry tree => Denotes heap entry.1 tree
    ∧ entry.2 + tree.depth ≤ maxRawFleetPatchDepth) scan.stack trees
  nodes : scan.visitedNodes + (trees.map JsonTree.nodes).sum ≤ maxRawFleetPatchNodes
  bytes : scan.stringBytes + (trees.map JsonTree.stringBytes).sum ≤ maxRawFleetPatchStringBytes
  nodup : (trees.map JsonTree.containers).flatten.Nodup
  fresh : ∀ container ∈ (trees.map JsonTree.containers).flatten,
    container ∉ scan.seenContainers

omit [DecidableEq ref] in
theorem Opened.bounded {children opened : List ref} {taken : ℕ} {stack : List (ref × ℕ)}
    (h : Opened heap item depth { scan with stack } scan' children opened taken)
    (hstack : scan.stack = (item, depth) :: stack) (hbounded : scan.Bounded) :
    scan'.Bounded where
  nodes := h.visitedLe
  bytes := h.bytesLe
  depth := by
    intro entry hentry
    rw [h.stack] at hentry
    rcases List.mem_append.mp hentry with hchild | hold
    · obtain ⟨child, hmem, rfl⟩ := List.mem_map.mp (List.mem_reverse.mp hchild)
      exact h.depthLt (List.ne_nil_of_mem hmem)
    · refine hbounded.depth entry ?_
      rw [hstack]
      exact List.mem_cons_of_mem _ hold

omit [DecidableEq ref] in
/-- The trees over the children of an object make the tree of the object. -/
theorem Opened.covers {children opened : List ref} {taken : ℕ} {stack : List (ref × ℕ)}
    {trees : List (JsonTree ref)}
    (h : Opened heap item depth { scan with stack } scan' children opened taken)
    (hstack : scan.stack = (item, depth) :: stack) (hcovers : Covers heap scan' trees) :
    ∃ trees, Covers heap scan trees := by
  obtain ⟨above, rest, rfl, habove, hrest⟩ : ∃ above rest, trees = above ++ rest
      ∧ List.Forall₂ (fun entry tree => Denotes heap entry.1 tree
        ∧ entry.2 + tree.depth ≤ maxRawFleetPatchDepth)
        (children.map fun child => (child, depth + 1)).reverse above
      ∧ List.Forall₂ (fun entry tree => Denotes heap entry.1 tree
        ∧ entry.2 + tree.depth ≤ maxRawFleetPatchDepth) stack rest := by
    have hboth := hcovers.denotes.flip
    rw [h.stack] at hboth
    exact ⟨_, _, (List.take_append_drop _ trees).symm,
      (List.forall₂_take_append _ _ _ hboth).flip, (List.forall₂_drop_append _ _ _ hboth).flip⟩
  have hchildren : List.Forall₂ (fun child tree => Denotes heap child tree
      ∧ depth + 1 + tree.depth ≤ maxRawFleetPatchDepth) children above.reverse := by
    rw [← List.reverse_reverse above, List.forall₂_reverse_iff, List.forall₂_map_left_iff] at habove
    exact habove
  obtain ⟨tree, htree, hnodes, hbytes, hcontainers, hdepth⟩ :=
    h.build above.reverse (hchildren.imp fun _ _ hchild => hchild.1)
  have hroom : depth + tree.depth ≤ maxRawFleetPatchDepth := by
    refine hdepth fun child hchild => ?_
    obtain ⟨_, -, hboth⟩ := exists_of_forall₂ hchildren.flip hchild
    exact hboth.2
  have hperm : List.Perm (((tree :: rest).map JsonTree.containers).flatten)
      (opened ++ ((above ++ rest).map JsonTree.containers).flatten) := by
    rw [List.map_cons, List.flatten_cons, hcontainers, List.map_append, List.flatten_append,
      List.append_assoc]
    refine List.Perm.append_left _ (List.Perm.append_right _ ?_)
    exact ((List.reverse_perm above).map _).flatten
  have hnodes' := hcovers.nodes
  have hbytes' := hcovers.bytes
  rw [List.map_append, List.sum_append] at hnodes' hbytes'
  rw [List.map_reverse, List.sum_reverse] at hnodes hbytes
  have hvisited := h.visited
  have htaken := h.bytes
  refine ⟨tree :: rest, ?_, ?_, ?_, ?_, ?_⟩
  · rw [hstack]
    exact .cons ⟨htree, hroom⟩ hrest
  · rw [List.map_cons, List.sum_cons]
    dsimp only at hvisited
    omega
  · rw [List.map_cons, List.sum_cons]
    dsimp only at htaken
    omega
  · refine hperm.nodup_iff.mpr (List.nodup_append.mpr ⟨h.fresh.1, hcovers.nodup, ?_⟩)
    rintro container hopened _ hlater rfl
    refine hcovers.fresh container hlater ?_
    rw [h.seen]
    exact List.mem_append_left _ hopened
  · intro container hmem
    rcases List.mem_append.mp (hperm.mem_iff.mp hmem) with hopened | hlater
    · exact h.fresh.2 container hopened
    · intro hseen
      refine hcovers.fresh container hlater ?_
      rw [h.seen]
      exact List.mem_append_right _ hseen

/-- Every turn is charged to the counter of the nodes, so the loop ends. -/
theorem scanLoop_ne_none {fuel : ℕ} (hbounded : scan.Bounded)
    (hfuel : maxRawFleetPatchNodes + 2 ≤ fuel + scan.visitedNodes) :
    scanLoop heap fuel scan ≠ none := by
  induction fuel generalizing scan with
  | zero =>
      have hnodes := hbounded.nodes
      omega
  | succ fuel ih =>
      unfold scanLoop
      cases hstack : scan.stack with
      | nil => exact Option.some_ne_none _
      | cons entry stack =>
          obtain ⟨item, depth⟩ := entry
          dsimp only
          cases hvisit : visitObject heap item depth { scan with stack } with
          | none => exact Option.some_ne_none _
          | some scan' =>
              have hdepth := hbounded.depth (item, depth) (hstack ▸ List.mem_cons_self)
              have hrest : Scan.Bounded { scan with stack } := ⟨hbounded.nodes, hbounded.bytes,
                fun entry hmem => hbounded.depth entry (hstack ▸ List.mem_cons_of_mem _ hmem)⟩
              obtain ⟨_, _, _, hopened⟩ := visitObject_opened hrest hdepth hvisit
              have hvisited := hopened.visited
              dsimp only at hvisited
              exact ih (hopened.bounded hstack hbounded) (by omega)

/-- A loop that ends with `True` has found trees. -/
theorem scanLoop_covers {fuel : ℕ} (hbounded : scan.Bounded)
    (h : scanLoop heap fuel scan = some true) : ∃ trees, Covers heap scan trees := by
  induction fuel generalizing scan with
  | zero => cases h
  | succ fuel ih =>
      unfold scanLoop at h
      cases hstack : scan.stack with
      | nil => exact ⟨[], hstack ▸ .nil, hbounded.nodes, hbounded.bytes, List.nodup_nil,
          fun _ hmem => absurd hmem List.not_mem_nil⟩
      | cons entry stack =>
          obtain ⟨item, depth⟩ := entry
          rw [hstack] at h
          dsimp only at h
          cases hvisit : visitObject heap item depth { scan with stack } with
          | none =>
              rw [hvisit] at h
              cases h
          | some =>
              rw [hvisit] at h
              have hdepth := hbounded.depth (item, depth) (hstack ▸ List.mem_cons_self)
              have hrest : Scan.Bounded { scan with stack } := ⟨hbounded.nodes, hbounded.bytes,
                fun entry hmem => hbounded.depth entry (hstack ▸ List.mem_cons_of_mem _ hmem)⟩
              obtain ⟨_, _, _, hopened⟩ := visitObject_opened hrest hdepth hvisit
              obtain ⟨trees, hcovers⟩ := ih (hopened.bounded hstack hbounded) h
              exact hopened.covers hstack hcovers

end Soundness

/-- The check ends on every graph of objects, and what it accepts is a tree of built-in values, none
of whose containers is held twice, within the limits. -/
theorem isBuiltinJsonValue_sound {ref : Type} [DecidableEq ref] (heap : ref → PyObject ref)
    (value : ref) (turns : ℕ) (hturns : maxRawFleetPatchNodes + 2 ≤ turns) :
    isBuiltinJsonValue heap turns value ≠ none
      ∧ (isBuiltinJsonValue heap turns value = some true → ∃ tree, Denotes heap value tree
        ∧ tree.containers.Nodup
        ∧ tree.depth ≤ maxRawFleetPatchDepth
        ∧ tree.nodes ≤ maxRawFleetPatchNodes
        ∧ tree.stringBytes ≤ maxRawFleetPatchStringBytes) := by
  have hbounded : Scan.Bounded { stack := [(value, 0)] } := by
    refine ⟨Nat.zero_le _, Nat.zero_le _, fun entry hmem => ?_⟩
    obtain rfl := List.mem_singleton.mp hmem
    exact Nat.zero_le _
  refine ⟨scanLoop_ne_none hbounded hturns, fun h => ?_⟩
  obtain ⟨trees, hcovers⟩ := scanLoop_covers hbounded h
  obtain ⟨tree, rest, htree, hrest, rfl⟩ := List.forall₂_cons_left_iff.mp hcovers.denotes
  obtain rfl := List.forall₂_nil_left_iff.mp hrest
  have hnodes := hcovers.nodes
  have hbytes := hcovers.bytes
  have hnodup := hcovers.nodup
  simp only [List.map_cons, List.map_nil, List.sum_cons, List.sum_nil, List.flatten_cons,
    List.flatten_nil, List.append_nil] at hnodes hbytes hnodup
  have hdepth := htree.2
  dsimp only at hdepth
  exact ⟨tree, htree.1, hnodup, by omega, by omega, by omega⟩

/-- A dictionary with a list that holds one object twice, and a list that holds itself. -/
def sampleObjects : ℕ → PyObject ℕ
  | 0 => .dict [(1, 2)]
  | 1 => .str (ofString "steps")
  | 2 => .list [3, 3]
  | 3 => .bool true
  | 4 => .list [4]
  | _ => .other

theorem sampleObjects_accepted (more : ℕ) :
    isBuiltinJsonValue sampleObjects (more + 6) 0 = some true := by
  have hsize : boundedUtf8Size (ofString "steps") 4000000 = some 5 := by decide
  simp [isBuiltinJsonValue, scanLoop, visitObject, scanEntries, sampleObjects, hsize,
    maxRawFleetPatchNodes, maxRawFleetPatchDepth, maxRawFleetPatchStringBytes]

theorem isBuiltinJsonValue_sound_sampleObjects :
    ∃ tree, Denotes sampleObjects 0 tree ∧ tree.containers.Nodup
      ∧ tree.depth ≤ maxRawFleetPatchDepth ∧ tree.nodes ≤ maxRawFleetPatchNodes
      ∧ tree.stringBytes ≤ maxRawFleetPatchStringBytes :=
  (isBuiltinJsonValue_sound sampleObjects 0 (9996 + 6) (by decide)).2 (sampleObjects_accepted 9996)

example (more : ℕ) : isBuiltinJsonValue sampleObjects (more + 2) 4 = some false := by
  simp [isBuiltinJsonValue, scanLoop, visitObject, sampleObjects, maxRawFleetPatchNodes,
    maxRawFleetPatchDepth]

end AgentFleet
