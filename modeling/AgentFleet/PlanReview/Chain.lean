import AgentFleet.Lib.Chain
import AgentFleet.PlanReview.Operations

/-! # A plan review is consumed once, before any effect

* `ReviewChain` is what the checkpoints of a run are: a hash-linked prefix of pending, approved and
  consumed over one binding.  `PlanSound` says it of every run, with the head that counts them.
* Each call has one lemma that says what it has found and written; `planSound_step` follows.
* `plan_review` is the statement for runs. -/

namespace AgentFleet.PlanReview

open Relational Transaction Checks Transition Chain

variable {svc : PlanReviewServices} {reads : PlanReviewReads} {amb : Ambient} {s t : PlanState}

/-! ### The tables after a decision -/

variable {versions : Table VersionRow} {row : VersionRow} {runId expectedSha256 : String}
  {item : PlanReviewCheckpoint} {result : Run} {now : Timestamp} {op : PlanOp}

theorem versionsOf_insert (hversions : s.versions.insert row = some versions)
    (hrows : t.versions = versions) (runId : String) :
    t.versionsOf runId = if row.rootRunId = runId then s.versionsOf runId ++ [row]
      else s.versionsOf runId := by
  unfold PlanState.versionsOf
  rw [hrows, (Table.insert_eq_some hversions).2, List.filter_append]
  by_cases hown : row.rootRunId = runId
  · rw [if_pos hown, List.filter_singleton, decide_eq_true hown, cond_true]
  · rw [if_neg hown, List.filter_singleton, decide_eq_false hown, cond_false, List.append_nil]

theorem checkpointsOf_insert (hversions : s.versions.insert row = some versions)
    (hrows : t.versions = versions) (runId : String) :
    t.checkpointsOf runId = if row.rootRunId = runId then s.checkpointsOf runId ++ [row.item]
      else s.checkpointsOf runId := by
  unfold PlanState.checkpointsOf
  rw [versionsOf_insert hversions hrows]
  by_cases hown : row.rootRunId = runId
  · rw [if_pos hown, if_pos hown, List.map_append, List.map_singleton]
  · rw [if_neg hown, if_neg hown]

theorem head?_upsert {head : HeadRow} (hheads : t.heads = upsertHead s.heads head)
    (runId : String) :
    t.head? runId = if head.rootRunId = runId then some head.revision else s.head? runId := by
  unfold PlanState.head?
  rw [hheads]
  unfold upsertHead
  rw [Table.find?_upsert HeadRow.rootRunId (fun _ _ => Iff.rfl)
    (f := fun row => { row with revision := head.revision }) (fun _ _ h => h) fun _ => rfl]
  by_cases hown : head.rootRunId = runId
  · rw [if_pos hown, if_pos hown, Option.map_some]
    cases s.heads.find? fun row => row.rootRunId = head.rootRunId with
    | none | some row => rfl
  · rw [if_neg hown, if_neg hown]

/-! ### What the calls have found and written -/

theorem onState_ok {α : Type} {x : StoreTxn α} {a : α} :
    onState x s = .ok (a, t) ↔ ∃ store, x s.database.store = .ok (a, store)
      ∧ { s with database := { s.database with store } } = t := by
  unfold onState
  exact onPart_ok

/-- A version was added for a run, its head set, and nothing else of the reviews touched. -/
structure VersionWritten (s t : PlanState) (runId : String) (item : PlanReviewCheckpoint) :
    Prop where
  version : ∃ auditEventId, s.versions.insert { rootRunId := runId, item, auditEventId }
    = some t.versions
  head : t.heads = upsertHead s.heads { rootRunId := runId, revision := item.revision }
  shared : t.shared = s.shared

theorem insertVersion_ok {auditEventId : String} {u : Unit}
    (h : insertVersion runId item auditEventId s = .ok (u, t)) :
    s.versions.insert { rootRunId := runId, item, auditEventId } = some t.versions
      ∧ t.heads = upsertHead s.heads { rootRunId := runId, revision := item.revision }
      ∧ t.shared = s.shared ∧ t.database = s.database := by
  unfold insertVersion at h
  obtain ⟨_, _, hget, h⟩ := Transaction.bind_ok.mp h
  obtain ⟨rfl, rfl⟩ := get_ok.mp hget
  obtain ⟨versions, _, hversions, h⟩ := Transaction.bind_ok.mp h
  obtain ⟨hinserted, rfl⟩ := expect_ok.mp hversions
  have hset := set_ok.mp h
  subst hset
  exact ⟨hinserted, rfl, rfl, rfl⟩

/-- What `publish` has done to the run. -/
def RunPublished (s t : PlanState) (run : Run) (item : PlanReviewCheckpoint) (result : Run) :
    Option RunStatus → Prop
  | some status => result = { run with status, updatedAt := item.updatedAt }
      ∧ (∃ row, s.records.runRow? run.runId = some row
        ∧ transitionAllowed row.run status run.stage)
      ∧ t.records = s.records.withRun result
  | none => result = run ∧ t.records = s.records

theorem publish_ok {run : Run} {transition : Option RunStatus}
    (h : publish svc amb run item transition s = .ok (result, t)) :
    VersionWritten s t run.runId item ∧ RunPublished s t run item result transition := by
  unfold publish at h
  cases transition with
  | some =>
      obtain ⟨saved, s₁, hsaved, h⟩ := Transaction.bind_ok.mp h
      obtain ⟨store, hstore, rfl⟩ := onState_ok.mp hsaved
      obtain ⟨row, hrow, hallowed, hrecords⟩ := saveRun_ok hstore
      obtain ⟨_, _, hget, h⟩ := Transaction.bind_ok.mp h
      obtain ⟨rfl, rfl⟩ := get_ok.mp hget
      obtain ⟨event, _, hevent, h⟩ := Transaction.bind_ok.mp h
      obtain ⟨-, rfl⟩ := expect_ok.mp hevent
      obtain ⟨_, s₂, hversion, h⟩ := Transaction.bind_ok.mp h
      obtain ⟨rfl, rfl⟩ := pure_ok.mp h
      obtain ⟨hversions, hheads, hshared, hdatabase⟩ := insertVersion_ok hversion
      refine ⟨⟨⟨_, hversions⟩, hheads, hshared⟩, rfl, ⟨row, hrow, hallowed⟩, ?_⟩
      unfold PlanState.records
      rw [hdatabase]
      exact hrecords
  | none =>
      obtain ⟨_, s₁, hevent, h⟩ := Transaction.bind_ok.mp h
      obtain ⟨store, hstore, rfl⟩ := onState_ok.mp hevent
      have hrecords := insertEvent_ok.mp hstore
      obtain ⟨_, s₂, hversion, h⟩ := Transaction.bind_ok.mp h
      obtain ⟨rfl, rfl⟩ := pure_ok.mp h
      obtain ⟨hversions, hheads, hshared, hdatabase⟩ := insertVersion_ok hversion
      refine ⟨⟨⟨_, hversions⟩, hheads, hshared⟩, rfl, ?_⟩
      unfold PlanState.records
      rw [hdatabase, ← hrecords]

theorem runOf_ok {expected run : Run} (h : runOf svc expected s = .ok (run, t)) :
    s = t ∧ ∃ row, s.records.runRow? expected.runId = some row ∧ row.run = run := by
  unfold runOf at h
  obtain ⟨-, h⟩ := refuseIf_bind_ok.mp h
  obtain ⟨found, _, hfound, h⟩ := Transaction.bind_ok.mp h
  obtain ⟨store, hstore, rfl⟩ := onState_ok.mp hfound
  obtain ⟨-, ⟨row, hrow, -, -, rfl⟩, rfl⟩ := validatedRun_ok.mp hstore
  obtain ⟨-, h⟩ := refuseIf_bind_ok.mp h
  obtain ⟨rfl, rfl⟩ := pure_ok.mp h
  exact ⟨rfl, row, hrow, rfl⟩

theorem readVersions_ok {run : Run} {rows : List VersionRow} {revision : ℕ}
    {previous last : Option PlanReviewCheckpoint}
    (h : readVersions svc s run revision previous rows = .ok last) :
    last = (rows.getLast?.map VersionRow.item).or previous := by
  induction rows generalizing revision previous with
  | nil => exact (return_ok.mp h).symm
  | cons row rows ih =>
      obtain ⟨_, -, h⟩ := Checks.bind_ok.mp h
      rw [ih h, List.getLast?_cons]
      cases rows.getLast? with
      | none | some other => rfl

/-- What `_get` has found. -/
theorem getCheckpoint_ok {run : Run} (h : getCheckpoint svc reads s run = .ok item) :
    (orderedVersions s run.runId).getLast?.map VersionRow.item = some item
      ∧ (orderedVersions s run.runId).length ≤ 3
      ∧ s.head? run.runId = some (orderedVersions s run.runId).length := by
  unfold getCheckpoint at h
  obtain ⟨hcount, h⟩ := refuse_bind_ok.mp h
  obtain ⟨last, hlast, h⟩ := Checks.bind_ok.mp h
  obtain ⟨found, hfound, h⟩ := Checks.bind_ok.mp h
  obtain ⟨-, h⟩ := refuse_bind_ok.mp h
  obtain ⟨_, -, h⟩ := Checks.bind_ok.mp h
  obtain ⟨-, h⟩ := refuse_bind_ok.mp h
  obtain rfl := return_ok.mp h
  rw [not_or, not_or, not_lt, not_not] at hcount
  have hread := readVersions_ok hlast
  rw [Option.or_none] at hread
  exact ⟨hread.symm.trans (demand_ok.mp hfound), hcount.2.1, hcount.2.2⟩

/-- What a committed `create` has found and written. -/
structure Created (s t : PlanState) (run : Run) (item : PlanReviewCheckpoint) : Prop where
  row : ∃ row, s.records.runRow? run.runId = some row ∧ row.run = run
  valid : item.validates
  status : item.status = .pending
  bound : item.binding.rootRunId = run.runId
  uneffected : ¬ effected s run
  unreviewed : ¬ reviewed s run.runId
  written : VersionWritten s t run.runId item

theorem create_ok {run : Run} {checkpoint : PlanReviewCheckpoint}
    (h : create svc reads amb run checkpoint s = .ok (item, t)) : Created s t run item := by
  unfold create at h
  obtain ⟨hvalid, h⟩ := refuseIf_bind_ok.mp h
  obtain ⟨current, _, hcurrent, h⟩ := Transaction.bind_ok.mp h
  obtain ⟨rfl, hrow⟩ := runOf_ok hcurrent
  obtain ⟨hplace, h⟩ := refuseIf_bind_ok.mp h
  obtain ⟨_, hbinding, h⟩ := reading_bind_ok.mp h
  obtain ⟨_, -, h⟩ := reading_bind_ok.mp h
  obtain ⟨_, huneffected, h⟩ := reading_bind_ok.mp h
  obtain ⟨_, hreviewed, h⟩ := reading_bind_ok.mp h
  obtain ⟨result, s₁, hpublish, h⟩ := Transaction.bind_ok.mp h
  obtain ⟨rfl, rfl⟩ := pure_ok.mp h
  rw [not_or, not_or, not_or, not_not, not_not, not_not, not_not] at hplace
  obtain ⟨rfl, -, -, hstatus⟩ := hplace
  rw [not_or, not_not] at hvalid
  unfold checkBinding at hbinding
  obtain ⟨project, -, hbinding⟩ := Checks.bind_ok.mp hbinding
  obtain ⟨-, hbinding⟩ := refuse_bind_ok.mp hbinding
  obtain ⟨hbound, -⟩ := refuse_bind_ok.mp hbinding
  exact
    { row := hrow
      valid := hvalid.1
      status := hstatus
      bound := (not_not.mp hbound).1
      uneffected := refuse_ok.mp huneffected
      unreviewed := refuse_ok.mp hreviewed
      written := (publish_ok hpublish).1 }

/-- What a committed decision has found and written. -/
structure Advanced (svc : PlanReviewServices) (s t : PlanState) (run : Run)
    (expectedSha256 : String) (consume : Bool) (item : PlanReviewCheckpoint) (now : Timestamp)
    (result : Run) : Prop where
  row : ∃ row, s.records.runRow? run.runId = some row ∧ row.run = run
  paused : run.status = .pausedForPlan
  stage : run.stage = some .scoping
  last : (orderedVersions s run.runId).getLast?.map VersionRow.item = some item
  status : item.status = (decision consume).1
  expected : expectedSha256 = (checkpointSha256 svc item).hex
  uneffected : ¬ effected s run
  valid : (item.decided svc consume now).validates
  written : VersionWritten s t run.runId (item.decided svc consume now)
  published : RunPublished s t run (item.decided svc consume now) result
    (if consume = true then some .running else none)

theorem advance_ok {run : Run} {consume : Bool} {next : PlanReviewCheckpoint}
    (h : advance svc reads amb run expectedSha256 consume s = .ok ((result, next), t)) :
    ∃ item, next = item.decided svc consume (amb.clock 1)
      ∧ Advanced svc s t run expectedSha256 consume item (amb.clock 1) result := by
  unfold advance at h
  obtain ⟨current, _, hcurrent, h⟩ := Transaction.bind_ok.mp h
  obtain ⟨rfl, hrow⟩ := runOf_ok hcurrent
  obtain ⟨item, hitem, h⟩ := reading_bind_ok.mp h
  obtain ⟨hplace, h⟩ := refuseIf_bind_ok.mp h
  obtain ⟨_, -, h⟩ := reading_bind_ok.mp h
  obtain ⟨_, huneffected, h⟩ := reading_bind_ok.mp h
  obtain ⟨hvalid, h⟩ := refuseIf_bind_ok.mp h
  obtain ⟨moved, s₁, hpublish, h⟩ := Transaction.bind_ok.mp h
  obtain ⟨hresult, rfl⟩ := pure_ok.mp h
  obtain ⟨rfl, rfl⟩ := Prod.mk.inj hresult
  rw [not_or, not_or, not_or, not_or, not_not, not_not, not_not, not_not, not_not] at hplace
  obtain ⟨rfl, hpaused, hstage, hstatus, hexpected⟩ := hplace
  obtain ⟨hlast, -, -⟩ := getCheckpoint_ok hitem
  obtain ⟨hwritten, hpublished⟩ := publish_ok hpublish
  exact ⟨item, rfl, hrow, hpaused, hstage, hlast, hstatus, hexpected, refuse_ok.mp huneffected,
    not_not.mp hvalid, hwritten, hpublished⟩

/-! ### The invariant -/

/-- The checkpoints of a run, in the order in which they were written. -/
structure ReviewChain (svc : PlanReviewServices) (runId : String)
    (items : List PlanReviewCheckpoint) : Prop where
  statuses : items.map PlanReviewCheckpoint.status <+: [.pending, .approved, .consumed]
  revisions : Numbered PlanReviewCheckpoint.revision items
  linked : Linked (checkpointSha256 svc) PlanReviewCheckpoint.previousSha256 items
  bound : ∀ item ∈ items, ∀ other ∈ items, item.binding = other.binding
  owned : ∀ item ∈ items, item.binding.rootRunId = runId

/-- Every run's checkpoints are a chain, which its head counts. -/
def PlanSound (svc : PlanReviewServices) (s : PlanState) : Prop :=
  ∀ runId, ReviewChain svc runId (s.checkpointsOf runId)
    ∧ s.head? runId = (s.checkpointsOf runId).getLast?.map PlanReviewCheckpoint.revision

theorem reviewChain_nil (svc : PlanReviewServices) (runId : String) : ReviewChain svc runId [] where
  statuses := List.nil_prefix
  revisions := numbered_nil _
  linked := linked_nil _ _
  bound := fun _ h => absurd h List.not_mem_nil
  owned := fun _ h => absurd h List.not_mem_nil

theorem planSound_fresh (database : Database) (shared : Conversations.SharedTables) :
    PlanSound svc (.fresh database shared) :=
  fun runId => ⟨reviewChain_nil svc runId, rfl⟩

theorem PlanSound.congr (h : PlanSound svc s) (hversions : t.versions = s.versions)
    (hheads : t.heads = s.heads) : PlanSound svc t := by
  intro runId
  have hitems : t.checkpointsOf runId = s.checkpointsOf runId := by
    unfold PlanState.checkpointsOf PlanState.versionsOf
    rw [hversions]
  have hhead : t.head? runId = s.head? runId := by
    unfold PlanState.head?
    rw [hheads]
  rw [hitems, hhead]
  exact h runId

/-- A version that continues the chain of its run. -/
theorem PlanSound.written (h : PlanSound svc s) (hwritten : VersionWritten s t runId item)
    (hchain : ReviewChain svc runId (s.checkpointsOf runId ++ [item])) : PlanSound svc t := by
  obtain ⟨auditEventId, hversion⟩ := hwritten.version
  intro other
  rw [checkpointsOf_insert hversion rfl, head?_upsert hwritten.head]
  by_cases hown : runId = other
  · subst hown
    rw [if_pos rfl, if_pos rfl]
    refine ⟨hchain, ?_⟩
    rw [List.getLast?_concat]
    rfl
  · rw [if_neg hown, if_neg hown]
    exact h other

theorem ReviewChain.length_le {items : List PlanReviewCheckpoint}
    (h : ReviewChain svc runId items) : items.length ≤ 3 := by
  have hle := h.statuses.length_le
  rw [List.length_map] at hle
  exact hle

/-- The rows of a run are read in the order in which they were written. -/
theorem PlanSound.orderedVersions (h : PlanSound svc s) (runId : String) :
    orderedVersions s runId = s.versionsOf runId := by
  obtain ⟨hchain, -⟩ := h runId
  have hlength : (s.versionsOf runId).length ≤ 3 := by
    have hle := hchain.length_le
    unfold PlanState.checkpointsOf at hle
    rwa [List.length_map] at hle
  have hrevisions : (s.versionsOf runId).map (fun row => row.item.revision)
      = List.range' 1 (s.versionsOf runId).length := by
    have hnumbered := hchain.revisions
    unfold Numbered PlanState.checkpointsOf at hnumbered
    rw [List.map_map, List.length_map] at hnumbered
    exact hnumbered
  have hsorted : (s.versionsOf runId).Pairwise fun a b =>
      decide (a.item.revision ≤ b.item.revision) = true := by
    have hpairs : ((s.versionsOf runId).map fun row => row.item.revision).Pairwise (· < ·) := by
      rw [hrevisions]
      exact List.pairwise_lt_range'
    rw [List.pairwise_map] at hpairs
    refine hpairs.imp fun hlt => ?_
    rw [decide_eq_true_iff]
    omega
  unfold PlanReview.orderedVersions
  rw [List.mergeSort_of_pairwise hsorted]
  exact List.take_of_length_le (by omega)

/-- The last checkpoint, and where its status puts it. -/
theorem PlanSound.last (h : PlanSound svc s)
    (hlast : (PlanReview.orderedVersions s runId).getLast?.map VersionRow.item = some item) :
    (s.checkpointsOf runId).getLast? = some item := by
  rw [h.orderedVersions] at hlast
  unfold PlanState.checkpointsOf
  rw [List.getLast?_map]
  exact hlast

/-- The chain up to a status. -/
theorem ReviewChain.upTo {items : List PlanReviewCheckpoint} (h : ReviewChain svc runId items)
    (hlast : items.getLast? = some item) : items.length = item.status.revision := by
  obtain ⟨init, rfl⟩ := List.getLast?_eq_some_iff.mp hlast
  obtain ⟨rest, hstatuses⟩ := h.statuses
  rw [List.map_append, List.map_singleton] at hstatuses
  rw [List.length_append, List.length_singleton]
  match init, hstatuses with
  | [], hstatuses =>
      have hstatus : item.status = .pending := (List.cons.inj hstatuses).1
      rw [hstatus]
      rfl
  | [_], hstatuses =>
      have hstatus : item.status = .approved := (List.cons.inj (List.cons.inj hstatuses).2).1
      rw [hstatus]
      rfl
  | [_, _], hstatuses =>
      have hstatus : item.status = .consumed :=
        (List.cons.inj (List.cons.inj (List.cons.inj hstatuses).2).2).1
      rw [hstatus]
      rfl
  | _ :: _ :: _ :: _ :: _, hstatuses =>
      have hlength := congrArg List.length hstatuses
      simp at hlength
  | [_, _, _], hstatuses =>
      have hlength := congrArg List.length hstatuses
      simp at hlength

/-- A decision continues the chain. -/
theorem ReviewChain.decided {items : List PlanReviewCheckpoint} (h : ReviewChain svc runId items)
    (hlast : items.getLast? = some item) {consume : Bool}
    (hstatus : item.status = (decision consume).1) (now : Timestamp) :
    ReviewChain svc runId (items ++ [item.decided svc consume now]) := by
  have hlength := h.upTo hlast
  have hmem := List.mem_of_getLast? hlast
  have hnumber := h.revisions.getLast? hlast
  have hprefix := List.prefix_iff_eq_take.mp h.statuses
  rw [List.length_map, hlength, hstatus] at hprefix
  constructor
  · rw [List.map_append, List.map_singleton, hprefix]
    cases consume with
    | false => exact ⟨[.consumed], rfl⟩
    | true => exact ⟨[], rfl⟩
  · refine numbered_concat.mpr ⟨h.revisions, ?_⟩
    show item.revision + 1 = items.length + 1
    rw [hnumber]
  · refine linked_concat.mpr ⟨h.linked, ?_⟩
    rw [hlast]
    rfl
  · have hsame : ∀ other ∈ items ++ [item.decided svc consume now],
        other.binding = item.binding := by
      intro other hother
      rcases List.mem_append.mp hother with hother | hother
      · exact h.bound other hother item hmem
      · rw [List.mem_singleton.mp hother]
        rfl
    intro a ha b hb
    rw [hsame a ha, hsame b hb]
  · intro other hother
    rcases List.mem_append.mp hother with hother | hother
    · exact h.owned other hother
    · rw [List.mem_singleton.mp hother]
      exact h.owned item hmem

/-- The chain of a run without a plan review starts. -/
theorem reviewChain_created {run : Run} (h : Created s t run item) :
    s.checkpointsOf run.runId = []
      ∧ ReviewChain svc run.runId (s.checkpointsOf run.runId ++ [item]) := by
  have hnone : s.checkpointsOf run.runId = [] := by
    unfold PlanState.checkpointsOf
    by_contra hsome
    exact h.unreviewed (.inr (.inl fun hrows => hsome (by rw [hrows]; rfl)))
  obtain ⟨-, hrevision, hprevious, -⟩ := h.valid
  have hfirst : item.revision = 1 := by
    rw [hrevision, h.status]
    rfl
  refine ⟨hnone, ?_⟩
  rw [hnone, List.nil_append]
  constructor
  · rw [List.map_singleton, h.status]
    exact ⟨[.approved, .consumed], rfl⟩
  · show [item.revision] = [1]
    rw [hfirst]
  · exact ⟨hprevious.mpr hfirst, trivial⟩
  · intro a ha b hb
    rw [List.mem_singleton.mp ha, List.mem_singleton.mp hb]
  · intro a ha
    rw [List.mem_singleton.mp ha]
    exact h.bound

/-! ### Steps -/

theorem withinBoundary_ok {α : Type} {x : PlanTxn α} {a : α} :
    withinBoundary x s = .ok (a, t) ↔ x s = .ok (a, t) := by
  unfold withinBoundary
  cases x s with
  | error e | ok r => simp

theorem getReview_ok {run : Run} (h : getReview svc reads run s = .ok (item, t)) : s = t := by
  unfold getReview at h
  obtain ⟨current, _, hcurrent, h⟩ := Transaction.bind_ok.mp h
  obtain ⟨rfl, -⟩ := runOf_ok hcurrent
  exact (reading_ok.mp h).2

theorem approve_ok {run : Run} {actor : String} {next : PlanReviewCheckpoint}
    (h : approve svc reads amb run expectedSha256 actor s = .ok (next, t)) :
    ∃ item result, Advanced svc s t run expectedSha256 false item (amb.clock 1) result := by
  unfold approve at h
  obtain ⟨-, h⟩ := refuseIf_bind_ok.mp h
  obtain ⟨⟨result, decided⟩, _, hadvance, h⟩ := Transaction.bind_ok.mp h
  obtain ⟨-, rfl⟩ := pure_ok.mp h
  obtain ⟨item, -, hadvanced⟩ := advance_ok hadvance
  exact ⟨item, result, hadvanced⟩

theorem consume_ok {run : Run} (h : consume svc reads amb run expectedSha256 s = .ok (result, t)) :
    ∃ item, Advanced svc s t run expectedSha256 true item (amb.clock 1) result := by
  unfold consume at h
  obtain ⟨⟨moved, decided⟩, _, hadvance, h⟩ := Transaction.bind_ok.mp h
  obtain ⟨rfl, rfl⟩ := pure_ok.mp h
  obtain ⟨item, -, hadvanced⟩ := advance_ok hadvance
  exact ⟨item, hadvanced⟩

theorem PlanSound.advanced (h : PlanSound svc s) {run : Run} {consume : Bool}
    (hadvanced : Advanced svc s t run expectedSha256 consume item now result) : PlanSound svc t :=
  h.written hadvanced.written
    ((h run.runId).1.decided (h.last hadvanced.last) hadvanced.status now)

/-- Every committed transaction keeps the chains. -/
theorem planSound_body {result : PlanResult} (h : PlanSound svc s)
    (hbody : planBody svc reads amb op s = .ok (result, t)) : PlanSound svc t := by
  cases op with
  | review op =>
      have hcall : reviewBody svc reads amb op s = .ok (result, t) := withinBoundary_ok.mp hbody
      cases op with
      | create =>
          obtain ⟨item, hcreate, -⟩ := Transaction.map_ok.mp hcall
          have hcreated := create_ok hcreate
          exact h.written hcreated.written (reviewChain_created hcreated).2
      | get =>
          obtain ⟨item, hget, -⟩ := Transaction.map_ok.mp hcall
          exact getReview_ok hget ▸ h
      | approve =>
          obtain ⟨next, happrove, -⟩ := Transaction.map_ok.mp hcall
          obtain ⟨item, moved, hadvanced⟩ := approve_ok happrove
          exact h.advanced hadvanced
      | consume =>
          obtain ⟨moved, hconsume, -⟩ := Transaction.map_ok.mp hcall
          obtain ⟨item, hadvanced⟩ := consume_ok hconsume
          exact h.advanced hadvanced
  | database =>
      obtain ⟨_, hdatabase, -⟩ := Transaction.map_ok.mp hbody
      obtain ⟨database, -, rfl⟩ := onPart_ok.mp hdatabase
      exact h.congr rfl rfl
  | elsewhere =>
      obtain ⟨_, hmodify, -⟩ := Transaction.map_ok.mp hbody
      have hstate := modify_ok.mp hmodify
      subst hstate
      exact h.congr rfl rfl

/-- A call commits its body or changes nothing. -/
theorem next_cases (svc : PlanReviewServices) (s : PlanState) (input : PlanInput) :
    (∃ result, planBody svc input.reads input.amb input.op s
        = .ok (result, (planReviewMachine svc).next s input)
      ∧ (planReviewMachine svc).out s input = .ok result)
      ∨ ∃ e, (planReviewMachine svc).out s input = .error e
        ∧ (planReviewMachine svc).next s input = s := by
  rcases commit_cases (planBody svc input.reads input.amb input.op) s with
    ⟨result, t, hok, hc⟩ | ⟨e, -, hc⟩
  · refine .inl ⟨result, ?_, ?_⟩
    · show _ = Except.ok (result, (commit _ s).2)
      rw [hc]
      exact hok
    · show (commit _ s).1 = _
      rw [hc]
  · refine .inr ⟨e, ?_, ?_⟩
    · show (commit _ s).1 = _
      rw [hc]
    · show (commit _ s).2 = _
      rw [hc]

theorem planSound_invariant (svc : PlanReviewServices) :
    (planReviewMachine svc).Invariant (PlanSound svc) := by
  intro s input h
  rcases next_cases svc s input with ⟨result, hbody, -⟩ | ⟨e, -, hsame⟩
  · exact planSound_body h hbody
  · rw [hsame]
    exact h

/-! ### Consumption -/

/-- The call consumed the plan review of a run. -/
def isConsumed (runId : String) : Except StoreError PlanResult → Bool
  | .ok (.consumed run) => run.runId = runId
  | _ => false

/-- The plan review of a run is consumed. -/
def Consumed (s : PlanState) (runId : String) : Prop :=
  (s.checkpointsOf runId).length = 3

/-- Versions are only ever added. -/
theorem checkpointsOf_isPrefix {result : PlanResult}
    (hbody : planBody svc reads amb op s = .ok (result, t)) (runId : String) :
    s.checkpointsOf runId <+: t.checkpointsOf runId := by
  have hwritten : ∀ {owner : String} {item : PlanReviewCheckpoint},
      VersionWritten s t owner item → s.checkpointsOf runId <+: t.checkpointsOf runId := by
    intro owner item h
    obtain ⟨auditEventId, hversion⟩ := h.version
    rw [checkpointsOf_insert hversion rfl]
    split_ifs
    · exact List.prefix_append _ _
    · exact List.prefix_rfl
  cases op with
  | review op =>
      have hcall : reviewBody svc reads amb op s = .ok (result, t) := withinBoundary_ok.mp hbody
      cases op with
      | create =>
          obtain ⟨item, hcreate, -⟩ := Transaction.map_ok.mp hcall
          exact hwritten (create_ok hcreate).written
      | get =>
          obtain ⟨item, hget, -⟩ := Transaction.map_ok.mp hcall
          exact getReview_ok hget ▸ List.prefix_rfl
      | approve =>
          obtain ⟨next, happrove, -⟩ := Transaction.map_ok.mp hcall
          obtain ⟨item, moved, hadvanced⟩ := approve_ok happrove
          exact hwritten hadvanced.written
      | consume =>
          obtain ⟨moved, hconsume, -⟩ := Transaction.map_ok.mp hcall
          obtain ⟨item, hadvanced⟩ := consume_ok hconsume
          exact hwritten hadvanced.written
  | database =>
      obtain ⟨_, hdatabase, -⟩ := Transaction.map_ok.mp hbody
      obtain ⟨database, -, rfl⟩ := onPart_ok.mp hdatabase
      exact List.prefix_rfl
  | elsewhere =>
      obtain ⟨_, hmodify, -⟩ := Transaction.map_ok.mp hbody
      have hstate := modify_ok.mp hmodify
      subst hstate
      exact List.prefix_rfl

/-- What a call that consumes has found, and what it leaves. -/
structure Consumption (svc : PlanReviewServices) (s t : PlanState) (run : Run)
    (expectedSha256 : String) : Prop where
  row : ∃ row, s.records.runRow? run.runId = some row ∧ row.run = run
  paused : run.status = .pausedForPlan
  stage : run.stage = some .scoping
  approved : ∃ pending approved consumed,
    s.checkpointsOf run.runId = [pending, approved] ∧ approved.status = .approved
      ∧ expectedSha256 = (checkpointSha256 svc approved).hex
      ∧ t.checkpointsOf run.runId = [pending, approved, consumed] ∧ consumed.status = .consumed
  noLease : ∀ lease ∈ s.shared.leases, lease.runId ≠ run.runId
  noIntent : ∀ stored ∈ s.records.toolIntents, stored.intent.runId ≠ run.runId
  noGraph : s.database.graphs.graph? run.runId = none
  noChild : ∀ row ∈ s.records.runs, row.run.parentRunId ≠ some run.runId
  running : ∃ row, t.records.runRow? run.runId = some row ∧ row.run.status = .running

theorem runRow?_withRun {r : Records} {run : Run} {row : RunRow}
    (hrow : r.runRow? run.runId = some row) :
    (r.withRun run).runRow? run.runId = some (RunRow.written run row) := by
  obtain ⟨hmem, hid⟩ := Records.runRow?_mem hrow
  have hwritten : RunRow.written run row ∈ (r.withRun run).runs :=
    Records.mem_withRun.mpr ⟨row, hmem, by rw [if_pos hid]⟩
  refine Table.find?_eq_some hwritten (decide_eq_true hid) fun other hother => ?_
  exact (of_decide_eq_true hother).trans hid.symm

theorem consumption_of_advanced (h : PlanSound svc s) {run : Run}
    (hadvanced : Advanced svc s t run expectedSha256 true item now result) :
    Consumption svc s t run expectedSha256 ∧ result.runId = run.runId := by
  have hlast := h.last hadvanced.last
  have hlength := (h run.runId).1.upTo hlast
  have hstatus : item.status = .approved := hadvanced.status
  rw [hstatus] at hlength
  have hafter : t.checkpointsOf run.runId
      = s.checkpointsOf run.runId ++ [item.decided svc true now] := by
    obtain ⟨auditEventId, hversion⟩ := hadvanced.written.version
    rw [checkpointsOf_insert hversion rfl, if_pos rfl]
  obtain ⟨hresult, ⟨row, hrow, -⟩, hrecords⟩ := hadvanced.published
  have hid : result.runId = run.runId := by
    rw [hresult]
  have huneffected := hadvanced.uneffected
  unfold effected at huneffected
  rw [not_or, not_or, not_or] at huneffected
  obtain ⟨hlease, hintent, hgraph, hchild⟩ := huneffected
  refine ⟨?_, hid⟩
  exact
    { row := hadvanced.row
      paused := hadvanced.paused
      stage := hadvanced.stage
      approved := by
        obtain ⟨pending, approved, hitems⟩ := List.length_eq_two.mp hlength
        rw [hitems] at hlast hafter
        obtain rfl : approved = item := Option.some.inj hlast
        exact ⟨pending, approved, _, hitems, hstatus, hadvanced.expected, hafter, rfl⟩
      noLease := fun lease hmem hown => hlease ⟨lease, hmem, hown⟩
      noIntent := fun stored hmem hown => hintent ⟨stored, hmem, hown⟩
      noGraph := Option.not_isSome_iff_eq_none.mp hgraph
      noChild := fun row hmem hparent => hchild ⟨row, hmem, hparent⟩
      running := by
        rw [← hid] at hrow ⊢
        refine ⟨_, hrecords ▸ runRow?_withRun hrow, ?_⟩
        rw [hresult]
        rfl }

/-- A call that consumed the plan review of a run. -/
theorem consumption_of_out {input : PlanInput} (h : PlanSound svc s)
    (hout : (planReviewMachine svc).out s input = .ok (.consumed result)) :
    ∃ run expectedSha256, input.op = .review (.consume run expectedSha256)
      ∧ result.runId = run.runId
      ∧ Consumption svc s ((planReviewMachine svc).next s input) run expectedSha256 := by
  rcases next_cases svc s input with ⟨answer, hbody, hanswer⟩ | ⟨e, herror, -⟩
  · obtain rfl : answer = .consumed result := Except.ok.inj (hanswer.symm.trans hout)
    obtain ⟨op, inputReads, inputAmb⟩ := input
    cases op with
    | review op =>
        have hcall := withinBoundary_ok.mp hbody
        cases op with
        | create run checkpoint | get run | approve run expectedSha256 actor =>
            obtain ⟨item, -, hresult⟩ := Transaction.map_ok.mp hcall
            cases hresult
        | consume run expectedSha256 =>
            obtain ⟨moved, hconsume, hresult⟩ := Transaction.map_ok.mp hcall
            cases hresult
            obtain ⟨item, hadvanced⟩ := consume_ok hconsume
            obtain ⟨hconsumption, hid⟩ := consumption_of_advanced h hadvanced
            exact ⟨run, expectedSha256, rfl, hid, hconsumption⟩
    | database op databaseReads | elsewhere shared =>
        obtain ⟨_, -, hresult⟩ := Transaction.map_ok.mp hbody
        cases hresult
  · rw [herror] at hout
    cases hout

theorem consumed_step (svc : PlanReviewServices) {s : PlanState} (input : PlanInput)
    (h : PlanSound svc s) (hconsumed : Consumed s runId) :
    Consumed ((planReviewMachine svc).next s input) runId := by
  rcases next_cases svc s input with ⟨result, hbody, -⟩ | ⟨e, -, hsame⟩
  · have hgrows := (checkpointsOf_isPrefix hbody runId).length_le
    have hbound := (planSound_body h hbody runId).1.length_le
    unfold Consumed at hconsumed ⊢
    omega
  · rw [hsame]
    exact hconsumed

/-- What holds of every run of the calls from a database without plan reviews. -/
structure PlanReviewHolds (svc : PlanReviewServices) (s : PlanState) (inputs : List PlanInput) :
    Prop where
  /-- Every run has one chain, of which the head is the length. -/
  chains : ∀ runId,
    ReviewChain svc runId (((planReviewMachine svc).run s inputs).checkpointsOf runId)
      ∧ ((planReviewMachine svc).run s inputs).head? runId
        = (((planReviewMachine svc).run s inputs).checkpointsOf runId).getLast?.map
          PlanReviewCheckpoint.revision
  /-- At most one call consumes the plan review of a run. -/
  once : ∀ runId, ((planReviewMachine svc).trace s inputs).countP (isConsumed runId) ≤ 1
  /-- It finds the approved checkpoint of a paused run without effects, and starts the run. -/
  consumes : ∀ input result,
    (planReviewMachine svc).out ((planReviewMachine svc).run s inputs) input
        = .ok (.consumed result) →
      ∃ run expectedSha256, input.op = .review (.consume run expectedSha256)
        ∧ result.runId = run.runId
        ∧ Consumption svc ((planReviewMachine svc).run s inputs)
          ((planReviewMachine svc).next ((planReviewMachine svc).run s inputs) input) run
          expectedSha256
  /-- A call that is refused changes nothing. -/
  refused : ∀ input e,
    (planReviewMachine svc).out ((planReviewMachine svc).run s inputs) input = .error e →
      (planReviewMachine svc).next ((planReviewMachine svc).run s inputs) input
        = (planReviewMachine svc).run s inputs

/-- A plan review is consumed once, before the run has had any effect. -/
theorem plan_review (svc : PlanReviewServices) (database : Database)
    (shared : Conversations.SharedTables) (inputs : List PlanInput) :
    PlanReviewHolds svc (.fresh database shared) inputs where
  chains := (planSound_invariant svc).run (planSound_fresh database shared) inputs
  once := by
    intro runId
    refine Machine.count_trace_le_one (I := PlanSound svc) (F := fun s => Consumed s runId)
      (planSound_invariant svc) (fun s input h hconsumed => consumed_step svc input h hconsumed)
      (fun s input h hfire => ?_) (planSound_fresh database shared) inputs
    cases hout : (planReviewMachine svc).out s input with
    | error =>
        rw [hout] at hfire
        cases hfire
    | ok result =>
        rw [hout] at hfire
        cases result with
        | checkpoint item | done => cases hfire
        | consumed =>
            obtain ⟨run, expectedSha256, -, hid, hconsumption⟩ := consumption_of_out h hout
            have hown : run.runId = runId := hid.symm.trans (of_decide_eq_true hfire)
            obtain ⟨pending, approved, consumed, hbefore, -, -, hafter, -⟩ :=
              hconsumption.approved
            unfold Consumed
            rw [← hown, hbefore, hafter]
            exact ⟨by simp, rfl⟩
  consumes := fun input result hout =>
    consumption_of_out ((planSound_invariant svc).run (planSound_fresh database shared) inputs) hout
  refused := by
    intro input e hout
    rcases next_cases svc ((planReviewMachine svc).run (.fresh database shared) inputs) input with
      ⟨result, -, hok⟩ | ⟨_, -, hsame⟩
    · rw [hout] at hok
      cases hok
    · exact hsame

end AgentFleet.PlanReview
