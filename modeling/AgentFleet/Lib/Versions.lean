import AgentFleet.Lib.Chain
import AgentFleet.Lib.Table

/-! # Versioned records

A `History` keeps all versions of the record of every key, and for every key a head that names the
revision of its latest version.  `put` adds a version and moves the head; `current` is the read
that a change starts from, and it refuses a head that does not name the latest revision.

`Counted` says that the revisions of every key count from one and that the head is the last.
`Counted.put` keeps it when the new revision is the next one, and under it `current` is the last
version (`Counted.current`). -/

namespace Versions

open Relational

/-- A version of the record of a key. -/
structure Version (κ α : Type) where
  key : κ
  revision : ℕ
  record : α
deriving DecidableEq

/-- The head of a key. -/
structure Head (κ : Type) where
  key : κ
  revision : ℕ
deriving DecidableEq

variable {κ α ε : Type} [DecidableEq κ]

instance : Constrained (Version κ α) where
  clash a b := a.key = b.key ∧ a.revision = b.revision
  symm _ _ h := ⟨h.1.symm, h.2.symm⟩
  decidableClash _ _ := inferInstanceAs (Decidable (_ ∧ _))

instance : Constrained (Head κ) where
  clash a b := a.key = b.key
  symm _ _ h := h.symm
  decidableClash _ _ := inferInstanceAs (Decidable (_ = _))

/-- The head moved to a revision. -/
def Head.moved (revision : ℕ) (head : Head κ) : Head κ := { head with revision }

theorem Head.keepsKeys_moved (revision : ℕ) : KeepsKeys (Head.moved (κ := κ) revision) :=
  fun _ _ h => h

/-- All versions, and the heads. -/
structure History (κ α : Type) [DecidableEq κ] where
  versions : Table (Version κ α)
  heads : Table (Head κ)

namespace History

/-- The history without versions. -/
def empty : History κ α := ⟨.empty, .empty⟩

variable (h : History κ α)

/-- The versions of a key, in the order in which they were added. -/
def of (k : κ) : List (Version κ α) := h.versions.rows.filter fun version => version.key = k

/-- The revision of a head. -/
def head? (k : κ) : Option ℕ := (h.heads.find? fun head => head.key = k).map Head.revision

/-- `COALESCE(MAX(revision), 0)`. -/
def latest (k : κ) : ℕ := ((h.of k).map Version.revision).foldr max 0

/-- The version of a key with a revision. -/
def version? (k : κ) (revision : ℕ) : Option (Version κ α) :=
  h.versions.find? fun version => version.key = k ∧ version.revision = revision

/-- The version that the head of a key names, if the key has one; the head must name the latest
revision. -/
def current (e : ε) (k : κ) : Except ε (Option (Version κ α)) :=
  match h.head? k with
  | none => if h.latest k = 0 then .ok none else .error e
  | some revision =>
      if revision = h.latest k then
        match h.version? k revision with
        | some version => .ok (some version)
        | none => .error e
      else .error e

/-- Adds a version and moves the head of its key. -/
def put (version : Version κ α) : Option (History κ α) :=
  match h.versions.insert version with
  | some versions => some {
      versions
      heads := h.heads.upsert ⟨version.key, version.revision⟩
        (fun head => head.key = version.key) (Head.moved version.revision)
        (Head.keepsKeys_moved version.revision) }
  | none => none

end History

variable {h t : History κ α}

/-! ### Adding a version -/

theorem put_versions {version : Version κ α} (hput : h.put version = some t) :
    h.versions.insert version = some t.versions := by
  unfold History.put at hput
  cases hinsert : h.versions.insert version with
  | none =>
      rw [hinsert] at hput
      cases hput
  | some =>
      rw [hinsert] at hput
      cases hput
      rfl

/-- A later history has the versions of an earlier one. -/
theorem mem_put {version other : Version κ α} (hput : h.put version = some t) :
    other ∈ t.versions ↔ other ∈ h.versions ∨ other = version :=
  Table.mem_insert (put_versions hput)

theorem of_put {version : Version κ α} (hput : h.put version = some t) (k : κ) :
    t.of k = h.of k ++ if version.key = k then [version] else [] := by
  unfold History.of
  rw [Table.filter_insert (put_versions hput)]
  simp only [decide_eq_true_eq]

theorem put_heads {version : Version κ α} (hput : h.put version = some t) :
    t.heads = h.heads.upsert ⟨version.key, version.revision⟩
      (fun head => head.key = version.key) (Head.moved version.revision)
      (Head.keepsKeys_moved version.revision) := by
  unfold History.put at hput
  cases hinsert : h.versions.insert version with
  | none =>
      rw [hinsert] at hput
      cases hput
  | some =>
      rw [hinsert] at hput
      cases hput
      rfl

theorem head?_put {version : Version κ α} (hput : h.put version = some t) (k : κ) :
    t.head? k = if version.key = k then some version.revision else h.head? k := by
  unfold History.head?
  rw [put_heads hput, Table.find?_upsert Head.key (fun _ _ => Iff.rfl)
    (Head.keepsKeys_moved version.revision) (fun _ => rfl)]
  dsimp only
  split_ifs
  · cases h.heads.find? fun head => head.key = version.key with
    | none | some head => rfl
  · rfl

/-- A key that has no head yet gets one. -/
theorem heads_put {version : Version κ α} (hput : h.put version = some t) :
    t.heads.rows.length
      = h.heads.rows.length + if (h.head? version.key).isSome then 0 else 1 := by
  rw [put_heads hput]
  unfold History.head? Table.upsert
  rw [Option.isSome_map]
  cases hinsert : h.heads.insert ⟨version.key, version.revision⟩ with
  | some =>
      obtain ⟨hfresh, hrows⟩ := Table.insert_eq_some hinsert
      have hnone : h.heads.find? (fun head => head.key = version.key) = none :=
        Table.find?_eq_none.mpr fun head hmem hkey => hfresh head hmem (of_decide_eq_true hkey)
      rw [hnone]
      dsimp only
      rw [hrows, List.length_append]
      rfl
  | none =>
      have hsome : h.heads.find? (fun head => head.key = version.key) ≠ none := by
        intro hnone
        obtain ⟨heads, hheads⟩ := Table.exists_insert (t := h.heads)
          (a := ⟨version.key, version.revision⟩) fun head hmem hclash =>
            Table.find?_eq_none.mp hnone head hmem (decide_eq_true hclash)
        rw [hinsert] at hheads
        cases hheads
      rw [if_pos (Option.isSome_iff_ne_none.mpr hsome)]
      dsimp only [Table.update]
      rw [List.length_map]
      rfl

/-! ### Counted histories -/

/-- The revisions of every key count from one, and its head is the last. -/
def Counted (h : History κ α) : Prop :=
  ∀ k, Chain.Numbered Version.revision (h.of k)
    ∧ h.head? k = (h.of k).getLast?.map Version.revision

theorem counted_empty : Counted (.empty : History κ α) :=
  fun _ => ⟨Chain.numbered_nil _, rfl⟩

theorem foldr_max_range' (n : ℕ) : (List.range' 1 n).foldr max 0 = n := by
  have hconcat : ∀ (l : List ℕ) (a : ℕ), (l ++ [a]).foldr max 0 = max (l.foldr max 0) a := by
    intro l a
    induction l with
    | nil => simp
    | cons b l ih =>
        rw [List.cons_append, List.foldr_cons, List.foldr_cons, ih, max_assoc]
  induction n with
  | zero => rfl
  | succ n ih =>
      rw [List.range'_concat, hconcat, ih]
      omega

/-- The latest revision is the count of the versions. -/
theorem Counted.latest (hcounted : Counted h) (k : κ) : h.latest k = (h.of k).length := by
  have hnumbered : (h.of k).map Version.revision = List.range' 1 (h.of k).length :=
    (hcounted k).1
  unfold History.latest
  rw [hnumbered, foldr_max_range']

theorem Counted.put (hcounted : Counted h) {version : Version κ α}
    (hput : h.put version = some t) (hnext : version.revision = h.latest version.key + 1) :
    Counted t := by
  intro k
  rw [of_put hput, head?_put hput]
  by_cases hkey : version.key = k
  · subst hkey
    rw [if_pos rfl, if_pos rfl, Chain.numbered_concat, List.getLast?_concat, Option.map_some]
    rw [hcounted.latest] at hnext
    exact ⟨⟨(hcounted version.key).1, hnext⟩, rfl⟩
  · rw [if_neg hkey, if_neg hkey, List.append_nil]
    exact hcounted k

theorem mem_of {version : Version κ α} {k : κ} :
    version ∈ h.of k ↔ version ∈ h.versions ∧ version.key = k := by
  unfold History.of
  rw [List.mem_filter, decide_eq_true_eq, Table.mem_def]

/-- The read of a key finds its last version. -/
theorem Counted.current (hcounted : Counted h) (e : ε) (k : κ) :
    h.current e k = .ok (h.of k).getLast? := by
  unfold History.current
  rw [(hcounted k).2, hcounted.latest]
  cases hlast : (h.of k).getLast? with
  | none =>
      rw [List.getLast?_eq_none_iff.mp hlast]
      rfl
  | some version =>
      have hrevision := (hcounted k).1.getLast? hlast
      obtain ⟨hmem, hkey⟩ := mem_of.mp (List.mem_of_getLast? hlast)
      have hfound : h.version? k version.revision = some version := by
        unfold History.version?
        refine Table.find?_eq_some hmem (by simp [hkey]) fun other hother => ?_
        have hsame : other.key = k ∧ other.revision = version.revision := of_decide_eq_true hother
        exact ⟨hsame.1.trans hkey.symm, hsame.2⟩
      dsimp only [Option.map_some]
      rw [if_pos hrevision, hfound]

/-- A version with the next revision can be added. -/
theorem Counted.exists_put (hcounted : Counted h) (version : Version κ α)
    (hnext : version.revision = h.latest version.key + 1) : ∃ t, h.put version = some t := by
  have hfresh : ∀ other ∈ h.versions, ¬ clash other version := by
    rintro other hmem ⟨hkey, hrevision⟩
    have hof : other.revision ∈ (h.of version.key).map Version.revision :=
      List.mem_map_of_mem (mem_of.mpr ⟨hmem, hkey⟩)
    have hnumbered : (h.of version.key).map Version.revision
        = List.range' 1 (h.of version.key).length := (hcounted version.key).1
    rw [hnumbered, List.mem_range'_1] at hof
    have hlatest := hcounted.latest version.key
    omega
  obtain ⟨versions, hinsert⟩ := Table.exists_insert hfresh
  unfold History.put
  rw [hinsert]
  exact ⟨_, rfl⟩

end Versions
