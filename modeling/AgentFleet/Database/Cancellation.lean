import AgentFleet.Database.Fencing
import AgentFleet.Database.Runs

/-! # A cancelled graph stays closed

`request_cancel` ends the nodes of a graph, their children and the claim of its driver, and
marks the graph.  Every other operation refuses a marked graph, so nothing of it is written
again.

* `CancelRequested` is the mark, and `cancelRequested_of_ok` says that `request_cancel` leaves it.
* `ChildrenEnded` is the invariant about the children of marked graphs.
* `kept_run` says that the rows of a marked graph are the same in every later database. -/

namespace AgentFleet

open Relational Relational.Table Transaction Transition

variable {svc : DatabaseServices} {d d' : Database}

/-! ### The mark -/

/-- The cancellation of the graph of a parent was requested. -/
def GraphTables.CancelRequested (T : GraphTables) (parentRunId : String) : Prop :=
  ∃ row ∈ T.graphs, row.graph.parentRunId = parentRunId ∧ row.graph.cancelRequestedAt ≠ none

variable {T T' : GraphTables} {graph : GraphSnapshot} {p : String} {r r' : Records}
  {input : DatabaseInput} {result : DatabaseResult} {revision : ℤ}

/-- A graph that was read is not marked when its snapshot is not. -/
theorem not_cancelRequested {svc : GraphServices} (hread : GraphRead svc T graph)
    (hnone : graph.cancelRequestedAt = none) : ¬ T.CancelRequested graph.parentRunId := by
  rintro ⟨row, hrow, hid, hcancel⟩
  rw [hread.eq_row hrow hid] at hnone
  exact hcancel hnone

/-- The rows of the graph of a parent are as they were. -/
structure GraphKept (parentRunId : String) (T T' : GraphTables) : Prop where
  graphs : ∀ row : GraphRow, row.graph.parentRunId = parentRunId →
    (row ∈ T'.graphs ↔ row ∈ T.graphs)
  nodes : ∀ record : GraphNodeRecord, record.binding.parentRunId = parentRunId →
    (record ∈ T'.nodes ↔ record ∈ T.nodes)
  claims : ∀ c : ClaimRow, c.claim.parentRunId = parentRunId → (c ∈ T'.claims ↔ c ∈ T.claims)

theorem GraphKept.refl (parentRunId : String) (T : GraphTables) : GraphKept parentRunId T T :=
  ⟨fun _ _ => Iff.rfl, fun _ _ => Iff.rfl, fun _ _ => Iff.rfl⟩

theorem GraphKept.trans {parentRunId : String} {T'' : GraphTables}
    (h : GraphKept parentRunId T T') (h' : GraphKept parentRunId T' T'') :
    GraphKept parentRunId T T'' := by
  constructor
  · intro row hrow
    rw [h'.graphs row hrow, h.graphs row hrow]
  · intro record hrecord
    rw [h'.nodes record hrecord, h.nodes record hrecord]
  · intro c hc
    rw [h'.claims c hc, h.claims c hc]

theorem Elsewhere.kept {q : String} (h : Elsewhere q T T') (hne : p ≠ q) : GraphKept p T T' := by
  constructor
  · exact fun row hrow => h.graphs row (hrow ▸ hne)
  · exact fun record hrecord => h.nodes record (hrecord ▸ hne)
  · exact fun c hc => h.claims c (hc ▸ hne)

theorem GraphKept.cancelRequested (h : GraphKept p T T') (hcancel : T.CancelRequested p) :
    T'.CancelRequested p := by
  obtain ⟨row, hrow, hid, hmark⟩ := hcancel
  exact ⟨row, (h.graphs row hid).mpr hrow, hid, hmark⟩

/-! ### Nothing of a marked graph is written -/

theorem kept_step {svc : GraphServices} (hs : T.Sound svc) (h : GraphEffect svc r T r' T')
    (hcancel : T.CancelRequested p) : GraphKept p T T' := by
  rcases effect_elsewhere hs h with ⟨-, rfl⟩ | ⟨q, helse, hopen, -⟩
  · exact .refl p T'
  · refine helse.kept ?_
    rintro rfl
    obtain ⟨row, hrow, hid, hmark⟩ := hcancel
    exact hmark (hopen row hrow hid)

theorem kept_move (hs : d.graphs.Sound svc.toGraphServices) (h : DatabaseMove svc d d')
    (hcancel : d.graphs.CancelRequested p) : GraphKept p d.graphs d'.graphs := by
  cases h with
  | store _ _ hgraphs | ledger _ _ hgraphs =>
      rw [hgraphs]
      exact .refl p _
  | graph _ heffect => exact kept_step hs heffect hcancel

/-- The rows of a marked graph are the same in every later database. -/
theorem kept_run (hs : d.graphs.Sound svc.toGraphServices) (hcancel : d.graphs.CancelRequested p)
    (inputs : List DatabaseInput) :
    GraphKept p d.graphs ((databaseMachine svc).run d inputs).graphs := by
  refine (databaseMoves svc).rel
    (I := fun d => d.graphs.Sound svc.toGraphServices ∧ d.graphs.CancelRequested p)
    (Q := fun d d' => GraphKept p d.graphs d'.graphs) (fun d d' hmove hI => ?_)
    (fun _ => .refl p _) (fun _ _ _ => .trans) (fun d d' hmove hI => ?_) ⟨hs, hcancel⟩ inputs
  · have hkept := kept_move hI.1 hmove hI.2
    exact ⟨sound_move hmove hI.1, hkept.cancelRequested hI.2⟩
  · exact kept_move hI.1 hmove hI.2

/-! ### The children of a marked graph -/

/-- The run of a child has ended. -/
def Records.Ended (r : Records) (runId : String) : Prop :=
  ∃ row ∈ r.runs, row.run.runId = runId ∧ isTerminal row.run.status = true

/-- The children of every marked graph have ended. -/
def ChildrenEnded (d : Database) : Prop :=
  ∀ row ∈ d.graphs.graphs, row.graph.cancelRequestedAt ≠ none → ∀ record ∈ d.graphs.nodes,
    record.binding.parentRunId = row.graph.parentRunId →
      d.store.records.Ended record.binding.childRunId

/-- The run of a child stays ended. -/
theorem RunsFollow.ended {r r' : Records} {runId : String} (h : RunsFollow r r')
    (hended : r.Ended runId) : r'.Ended runId := by
  obtain ⟨row, hrow, hid, hterminal⟩ := hended
  obtain ⟨later, hlater, hfollows⟩ := h row hrow
  refine ⟨later, hlater, hfollows.runId.trans hid, ?_⟩
  rw [hfollows.ended hterminal]
  exact hterminal

theorem Cancelled.children_ended {svc : GraphServices} {now : Timestamp}
    {record : GraphNodeRecord} (h : Cancelled svc r T graph now r' T')
    (hrecord : record ∈ T'.nodes) (hid : record.binding.parentRunId = graph.parentRunId) :
    r'.Ended record.binding.childRunId := by
  have hbefore : ∃ a ∈ graph.nodes, a.binding = record.binding := by
    obtain ⟨ended, claims, -, -, rfl⟩ := h.written
    rcases cancellingNodes_cases hrecord with ⟨a, ha, -, rfl⟩ | ⟨hold, -⟩
    · exact ⟨a, h.read.mem_nodes.mpr ⟨ha, hid⟩, rfl⟩
    · exact ⟨record, h.read.mem_nodes.mpr ⟨hold, hid⟩, rfl⟩
  obtain ⟨a, ha, hbinding⟩ := hbefore
  obtain ⟨row, hrow, hchild⟩ := h.children a ha
  rw [hbinding] at hchild
  have hchosen : graph.nodes.any (fun r => r.binding.childRunId = row.run.runId) = true := by
    rw [List.any_eq_true]
    refine ⟨a, ha, decide_eq_true ?_⟩
    rw [hbinding, hchild]
  rw [h.runs]
  refine ⟨if row.endsWith graph.nodes then row.cancelled now else row, ?_, ?_, ?_⟩
  · exact (Table.mem_update (RunRow.keepsKeys_cancelled now)).mpr ⟨row, hrow, rfl⟩
  · split_ifs <;> exact hchild
  · unfold RunRow.endsWith
    rw [hchosen, Bool.true_and]
    split_ifs with hopen
    · rfl
    · rw [Bool.not_eq_true, Bool.not_eq_false'] at hopen
      exact hopen

theorem childrenEnded_move (h : DatabaseMove svc d d')
    (hs : d.graphs.Sound svc.toGraphServices) (hc : ChildrenEnded d) : ChildrenEnded d' := by
  have hruns := runsFollow_move h
  cases h with
  | store _ _ hgraphs | ledger _ _ hgraphs =>
      intro row hrow hmark record hrecord hid
      rw [hgraphs] at hrow hrecord
      exact hruns.ended (hc row hrow hmark record hrecord hid)
  | graph _ heffect =>
      intro row hrow hmark record hrecord hid
      rcases effect_elsewhere hs heffect with ⟨-, heq⟩ | ⟨p, helse, -, hwritten⟩
      · rw [heq] at hrow hrecord
        exact hruns.ended (hc row hrow hmark record hrecord hid)
      by_cases hsame : row.graph.parentRunId = p
      · rcases hwritten with hopen | ⟨graph, now, hgraph, hcancelled⟩
        · exact absurd (hopen row hrow hsame) hmark
        · exact hcancelled.children_ended hrecord ((hid.trans hsame).trans hgraph.symm)
      · have hrow' := (helse.graphs row hsame).mp hrow
        have hrecord' := (helse.nodes record (hid ▸ hsame)).mp hrecord
        exact hruns.ended (hc row hrow' hmark record hrecord' hid)

/-- In every reachable database the children of the marked graphs have ended. -/
theorem children_ended (svc : DatabaseServices) (store : Store) (inputs : List DatabaseInput) :
    ChildrenEnded ((databaseMachine svc).run (Database.fresh store) inputs) := by
  have hinvariant := (databaseMoves svc).invariant
    (I := fun d => d.graphs.Sound svc.toGraphServices ∧ ChildrenEnded d)
    fun d d' hmove hI => ⟨sound_move hmove hI.1, childrenEnded_move hmove hI.1 hI.2⟩
  have hfresh : ChildrenEnded (Database.fresh store) :=
    fun row hrow => absurd hrow (Table.not_mem_empty row)
  exact (hinvariant.run ⟨GraphTables.sound_empty _, hfresh⟩ inputs).2

/-! ### The transactions on a marked graph -/

/-- The graph that a transaction claims, drives or joins. -/
def DatabaseOp.drives? : DatabaseOp → Option String
  | .graph (.claimDriver parentRunId _) => some parentRunId
  | .graph (.claimContinuation parentRunId _) => some parentRunId
  | op => op.guard?.map GraphDriverClaim.parentRunId

/-- A transaction that claims, drives or joins a graph found it unmarked. -/
theorem drives_ok (hs : d.graphs.Sound svc.toGraphServices) (hdrives : input.op.drives? = some p)
    (h : databaseBody svc input.reads input.amb input.op d = .ok (result, d')) :
    ¬ d.graphs.CancelRequested p := by
  unfold DatabaseOp.drives? at hdrives
  split at hdrives
  · rename_i hop
    obtain rfl := Option.some.inj hdrives
    rw [hop] at h
    obtain ⟨_, h, -⟩ := map_ok.mp h
    obtain ⟨s, hs, -⟩ := onGraphs_ok.mp h
    obtain ⟨-, graph, rfl, hclaimed⟩ := claimDriver_ok hs
    exact not_cancelRequested hclaimed.read hclaimed.uncancelled
  · rename_i hop
    obtain rfl := Option.some.inj hdrives
    rw [hop] at h
    obtain ⟨_, h, -⟩ := map_ok.mp h
    obtain ⟨s, hs, -⟩ := onGraphs_ok.mp h
    obtain ⟨-, graph, rfl, hclaimed⟩ := claimContinuation_ok hs
    exact not_cancelRequested hclaimed.read hclaimed.uncancelled
  · obtain ⟨claim, hguard, rfl⟩ := Option.map_eq_some_iff.mp hdrives
    obtain ⟨graph, howned⟩ := guard_owned hguard h
    have hparent := ((hs.read howned.toGraphRead).driver claim howned.driver).2.1
    rw [hparent]
    exact not_cancelRequested howned.toGraphRead howned.uncancelled

/-- `request_cancel` marks its graph. -/
theorem cancelRequested_of_ok (hop : input.op = .graph (.requestCancel p revision))
    (h : databaseBody svc input.reads input.amb input.op d = .ok (result, d')) :
    d'.graphs.CancelRequested p := by
  rw [hop] at h
  obtain ⟨_, h, -⟩ := map_ok.mp h
  obtain ⟨s, hs, rfl⟩ := onGraphs_ok.mp h
  obtain ⟨graph, hread, rfl, ⟨rfl, hmark⟩ | hcancelled⟩ := requestCancel_ok hs
  · obtain ⟨row, hrow, hgraph⟩ := hread.row
    rw [hgraph] at hmark ⊢
    exact ⟨row, hrow, rfl, hmark⟩
  · obtain ⟨row, hrow, hgraph⟩ := hread.row
    obtain ⟨ended, claims, -, -, htables⟩ := hcancelled.written
    have hid : row.graph.parentRunId
        = (graph.cancelled ended (input.amb.clock 0)).parentRunId := by
      rw [hgraph]
      rfl
    obtain ⟨written, hwritten, heq⟩ := exists_withGraph
      (T := { d.graphs with
        nodes := cancellingNodes d.graphs.nodes graph.nodes (input.amb.clock 0), claims }) hrow hid
    dsimp only
    rw [htables]
    refine ⟨written, hwritten, ?_, ?_⟩
    · rw [heq]
      rfl
    · rw [heq]
      exact Option.some_ne_none _

/-- `request_cancel` leaves a marked graph and everything else alone. -/
theorem requestCancel_again (hop : input.op = .graph (.requestCancel p revision))
    (hcancel : d.graphs.CancelRequested p) : (databaseMachine svc).next d input = d := by
  rcases next_cases svc d input with ⟨result, h⟩ | hsame
  · generalize (databaseMachine svc).next d input = d' at h
    rw [hop] at h
    obtain ⟨_, h, -⟩ := map_ok.mp h
    obtain ⟨s, hs, rfl⟩ := onGraphs_ok.mp h
    obtain ⟨graph, hread, rfl, ⟨rfl, -⟩ | hcancelled⟩ := requestCancel_ok hs
    · rfl
    · exact absurd hcancel (not_cancelRequested hcancelled.read hcancelled.uncancelled)
  · exact hsame

/-! ### The fence -/

/-- What a marked graph is in a database: its nodes and their children have ended, no claim of
it is active, whatever would claim, drive or join it is refused, and `request_cancel` changes
nothing. -/
structure Closed (svc : DatabaseServices) (d : Database) (parentRunId : String) : Prop where
  nodes : ∀ record ∈ d.graphs.nodes, record.binding.parentRunId = parentRunId →
    record.status.isTerminal = true
  children : ∀ record ∈ d.graphs.nodes, record.binding.parentRunId = parentRunId →
    ∀ row ∈ d.store.records.runs, row.run.runId = record.binding.childRunId →
      isTerminal row.run.status = true
  claims : ∀ c ∈ d.graphs.claims, c.claim.parentRunId = parentRunId → c.status ≠ .active
  refused : ∀ input : DatabaseInput, input.op.drives? = some parentRunId →
    (∃ e, (databaseMachine svc).out d input = .error e)
      ∧ (databaseMachine svc).next d input = d
  repeated : ∀ (input : DatabaseInput) (revision : ℤ),
    input.op = .graph (.requestCancel parentRunId revision) →
      (databaseMachine svc).next d input = d

theorem closed_of_cancelRequested (hs : d.graphs.Sound svc.toGraphServices) (hc : ChildrenEnded d)
    (hcancel : d.graphs.CancelRequested p) : Closed svc d p := by
  have hmarked := hcancel
  obtain ⟨row, hrow, rfl, hmark⟩ := hcancel
  have hsound := hs.graphs row hrow
  obtain ⟨hfree, hterminal⟩ := hsound.cancelled hmark
  refine ⟨hterminal, fun record hrecord hid child hchild hrun => ?_, fun c hmem hid hactive => ?_,
    fun _ hdrives => refused_of_body fun _ _ hok => drives_ok hs hdrives hok hmarked,
    fun _ _ hop => requestCancel_again hop hmarked⟩
  · obtain ⟨ended, hended, hid', hstatus⟩ := hc row hrow hmark record hrecord hid
    have heq : child = ended := eq_of_clash hchild hended (hrun.trans hid'.symm)
    rw [heq]
    exact hstatus
  · have hdriver := (hsound.active c hmem hid hactive).2
    rw [hfree] at hdriver
    exact absurd hdriver.symm (Option.some_ne_none _)

/-- `request_cancel` marks its graph when it commits, and from any reachable database in which a
graph is marked on, every later database has the same rows of the graph, and it is closed. -/
theorem cancellation_fence (svc : DatabaseServices) (store : Store) (parentRunId : String)
    (before after : List DatabaseInput) :
    let m := databaseMachine svc
    let d := m.run (Database.fresh store) before
    let d' := m.run d after
    (∀ input revision result, input.op = .graph (.requestCancel parentRunId revision) →
        m.out d input = .ok result → (m.next d input).graphs.CancelRequested parentRunId)
      ∧ (d.graphs.CancelRequested parentRunId →
        GraphKept parentRunId d.graphs d'.graphs ∧ Closed svc d' parentRunId) := by
  intro m d d'
  have hs : d.graphs.Sound svc.toGraphServices := database_sound svc store before
  refine ⟨fun input revision result hop hout => ?_, fun hcancel => ?_⟩
  · exact cancelRequested_of_ok hop (committed_of_out hout)
  have hkept := kept_run hs hcancel after
  have hs' := database_sound svc store (before ++ after)
  have hc' := children_ended svc store (before ++ after)
  rw [Machine.run_append] at hs' hc'
  exact ⟨hkept, closed_of_cancelRequested hs' hc' (hkept.cancelRequested hcancel)⟩

end AgentFleet
