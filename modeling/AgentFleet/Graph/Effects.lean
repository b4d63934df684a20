import AgentFleet.Graph.Operations

/-! # What the operations on graphs do

For each operation one lemma `…_ok` about its committed runs: what it left in the tables, with
the facts that its guards established.

* `GraphRead` is what `_get` establishes of a graph, and `GraphOwned` what `_owned` adds.
* `Bound`, `Claimed`, `NodeMoved`, `Released`, `Prepared`, `Completed` and `Cancelled` are the
  writes, and `GraphEffect` is any of them. -/

namespace AgentFleet

open Relational Transaction

variable {svc : GraphServices} {reads : GraphReads} {amb : Ambient} {s t : GraphState}

/-! ### Primitive steps -/

variable {T : GraphTables} {u : Unit} {r : Records} {k : ℕ} {runId parentRunId : String}
  {plan : FleetPlan} {graph result : GraphSnapshot} {record : GraphNodeRecord}
  {claim : GraphDriverClaim} {expectedRevision : ℤ} {child : Run}
  {outputs inputs : List GraphArtifactRef} {children : List GraphChildSeed} {now : Timestamp}

@[simp] theorem getTables_ok : getTables s = .ok (T, t) ↔ s.tables = T ∧ s = t := by
  simp [getTables, and_comm]

@[simp] theorem setTables_ok : setTables T s = .ok (u, t) ↔ { s with tables := T } = t := by
  simp [setTables]

@[simp] theorem graphRecords_ok : graphRecords s = .ok (r, t) ↔ s.store.records = r ∧ s = t := by
  simp [graphRecords, and_comm]

@[simp] theorem setGraphRecords_ok :
    setGraphRecords r s = .ok (u, t)
      ↔ { s with store := { s.store with records := r } } = t := by
  simp [setGraphRecords]

/-- An event leaves the records and the tables alone. -/
theorem graphEvent_ok {run : Run} {kind : String} {payload : JsonObject}
    (h : graphEvent svc amb k run kind payload s = .ok (u, t)) :
    t.tables = s.tables ∧ t.store.records = s.store.records := by
  simp only [graphEvent, modify_ok] at h
  subst h
  exact ⟨rfl, rfl⟩

theorem graphRun_ok {run : Run} (h : graphRun runId s = .ok (run, t)) :
    s = t ∧ run.runId = runId := by
  simp only [graphRun, bind_ok, graphRecords_ok, expect_ok, refuseIf_ok, pure_ok] at h
  obtain ⟨r, _, ⟨rfl, rfl⟩, row, _, ⟨hrow, rfl⟩, _, _, ⟨-, rfl⟩, rfl, rfl⟩ := h
  exact ⟨rfl, (Records.runRow?_mem hrow).2⟩

theorem graphRun_row {run : Run} (h : graphRun runId s = .ok (run, t)) :
    ∃ row ∈ s.store.records.runs, row.run = run ∧ run.runId = runId := by
  simp only [graphRun, bind_ok, graphRecords_ok, expect_ok, refuseIf_ok, pure_ok] at h
  obtain ⟨r, _, ⟨rfl, rfl⟩, row, _, ⟨hrow, rfl⟩, _, _, ⟨-, rfl⟩, rfl, rfl⟩ := h
  obtain ⟨hmem, hid⟩ := Records.runRow?_mem hrow
  exact ⟨row, hmem, rfl, hid⟩

theorem planOf_ok {parent : Run} (h : planOf reads parent s = .ok (plan, t)) : s = t := by
  simp only [planOf, bind_ok, refuseIf_ok, expect_ok] at h
  obtain ⟨_, _, ⟨-, rfl⟩, -, rfl⟩ := h
  rfl

@[simp] theorem validatedGraph_ok :
    validatedGraph svc reads graph s = .ok (result, t)
      ↔ (reads.clean ≠ false ∧ graph.validates svc) ∧ graph = result ∧ s = t := by
  simp only [validatedGraph, bind_ok, refuseIf_ok, pure_ok, not_or, not_not]
  constructor
  · rintro ⟨_, _, ⟨hvalid, rfl⟩, rfl, rfl⟩
    exact ⟨hvalid, rfl, rfl⟩
  · rintro ⟨hvalid, rfl, rfl⟩
    exact ⟨(), s, ⟨hvalid, rfl⟩, rfl, rfl⟩

@[simp] theorem checkRevision_ok {actual : ℕ} {expected : ℤ} :
    checkRevision actual expected s = .ok (u, t) ↔ expected = actual ∧ s = t := by
  simp [checkRevision]

theorem saveGraph_ok {kind : String} (h : saveGraph svc reads amb k graph kind s = .ok (u, t)) :
    graph.validates svc ∧ t.store.records = s.store.records
      ∧ t.tables = s.tables.withGraph graph := by
  simp only [saveGraph, bind_ok, validatedGraph_ok, getTables_ok, setTables_ok] at h
  obtain ⟨_, _, ⟨⟨-, hvalid⟩, rfl, rfl⟩, T, _, ⟨rfl, rfl⟩, _, _, rfl, parent, _, hparent,
    hevent⟩ := h
  obtain ⟨rfl, -⟩ := graphRun_ok hparent
  obtain ⟨htables, hrecords⟩ := graphEvent_ok hevent
  exact ⟨hvalid, hrecords, htables⟩

theorem saveNode_ok {kind : String} (h : saveNode svc reads amb k record kind s = .ok (u, t)) :
    record.validates svc ∧ t.store.records = s.store.records
      ∧ t.tables = s.tables.withNode record := by
  simp only [saveNode, validatedNode, bind_ok, refuseIf_ok, pure_ok, getTables_ok,
    setTables_ok, not_or, not_not] at h
  obtain ⟨_, _, ⟨_, _, ⟨⟨-, hvalid⟩, rfl⟩, rfl, rfl⟩, T, _, ⟨rfl, rfl⟩, _, _, rfl, parent, _,
    hparent, hevent⟩ := h
  obtain ⟨rfl, -⟩ := graphRun_ok hparent
  obtain ⟨htables, hrecords⟩ := graphEvent_ok hevent
  exact ⟨hvalid, hrecords, htables⟩

/-! ### Reads -/

/-- What `_get` establishes of the graph that it returns. -/
structure GraphRead (svc : GraphServices) (T : GraphTables) (graph : GraphSnapshot) : Prop where
  row : ∃ row ∈ T.graphs, graph = { row.graph with nodes := T.nodesOf row.graph.parentRunId }
  agree : T.claimsAgree graph
  valid : graph.validates svc

/-- What `_owned` establishes: the claim is the one on the graph's row, and the graph is not
cancelled. -/
structure GraphOwned (svc : GraphServices) (T : GraphTables) (claim : GraphDriverClaim)
    (graph : GraphSnapshot) : Prop extends GraphRead svc T graph where
  driver : graph.driverClaim = some claim
  uncancelled : graph.cancelRequestedAt = none

theorem GraphRead.nodes (h : GraphRead svc T graph) :
    graph.nodes = T.nodesOf graph.parentRunId := by
  obtain ⟨row, -, rfl⟩ := h.row
  rfl

theorem GraphTables.mem_nodesOf : record ∈ T.nodesOf parentRunId
      ↔ record ∈ T.nodes ∧ record.binding.parentRunId = parentRunId := by
  simp [nodesOf, Table.mem_def]

/-- The nodes of a graph do not clash. -/
theorem GraphTables.pairwise_nodesOf (T : GraphTables) (parentRunId : String) :
    (T.nodesOf parentRunId).Pairwise fun a b => ¬ clash a b := by
  have hrows := T.nodes.unique.filter fun record => record.binding.parentRunId = parentRunId
  exact ((List.mergeSort_perm _ _).pairwise_iff
    fun h hc => h (Constrained.symm _ _ hc)).mpr hrows

theorem getGraph_ok {graph : Option GraphSnapshot}
    (h : getGraph svc reads parentRunId s = .ok (graph, t)) :
    s = t ∧ ∀ g ∈ graph, g.parentRunId = parentRunId ∧ GraphRead svc s.tables g := by
  simp only [getGraph, bind_ok, get_ok] at h
  obtain ⟨parent, _, hparent, _, _, ⟨rfl, rfl⟩, h⟩ := h
  obtain ⟨rfl, hid⟩ := graphRun_ok hparent
  cases hrow : s.tables.graph? parentRunId with
  | none =>
      simp only [hrow, bind_ok, refuseIf_ok, pure_ok] at h
      obtain ⟨_, _, ⟨-, rfl⟩, rfl, rfl⟩ := h
      simp
  | some row =>
      have hmem : row ∈ s.tables.graphs := Table.mem_of_find? hrow
      have hparentId : row.graph.parentRunId = parentRunId := by
        simpa using Table.prop_of_find? hrow
      simp only [hrow, map_ok, checkedGraph, bind_ok, refuseIf_ok, getTables_ok,
        validatedGraph_ok, not_not] at h
      obtain ⟨_, ⟨plan, _, hplan, T, _, ⟨rfl, rfl⟩, _, _, ⟨-, rfl⟩, _, _, ⟨-, rfl⟩, _, _,
        ⟨hagree, rfl⟩, ⟨-, hvalid⟩, rfl, rfl⟩, rfl⟩ := h
      obtain rfl := planOf_ok hplan
      refine ⟨rfl, fun g hg => ?_⟩
      obtain rfl := Option.some.inj hg
      subst hparentId
      rw [hid] at hvalid ⊢
      exact ⟨rfl, ⟨row, hmem, rfl⟩, hagree, hvalid⟩

theorem requireGraph_ok (h : requireGraph svc reads parentRunId s = .ok (graph, t)) :
    s = t ∧ graph.parentRunId = parentRunId ∧ GraphRead svc s.tables graph := by
  simp only [requireGraph, bind_ok, expect_ok] at h
  obtain ⟨found, _, hfound, rfl, rfl⟩ := h
  obtain ⟨rfl, hread⟩ := getGraph_ok hfound
  exact ⟨rfl, hread graph rfl⟩

theorem ownedGraph_ok (h : ownedGraph svc reads claim s = .ok (graph, t)) :
    s = t ∧ GraphOwned svc s.tables claim graph := by
  simp only [ownedGraph, bind_ok, refuseIf_ok, pure_ok, not_or, not_not] at h
  obtain ⟨_, _, ⟨-, rfl⟩, g, _, hgraph, _, _, ⟨⟨hdriver, hcancel⟩, rfl⟩, parent, _, hparent, _, _,
    ⟨-, rfl⟩, rfl, rfl⟩ := h
  obtain ⟨rfl, -, hread⟩ := requireGraph_ok hgraph
  obtain ⟨rfl, -⟩ := graphRun_ok hparent
  exact ⟨rfl, hread, hdriver, hcancel⟩

/-! ### Effects -/

/-- A graph is bound, with its nodes pending and without a driver. -/
structure Bound (svc : GraphServices) (T : GraphTables) (graph : GraphSnapshot)
    (T' : GraphTables) : Prop where
  unclaimed : graph.driverGeneration = 0 ∧ graph.driverClaim = none
  unjoined : graph.joinPreparation = none ∧ graph.cancelRequestedAt = none
  valid : graph.validates svc
  pending : ∀ record ∈ graph.nodes, record.status = .pending
  inserted : ∃ graphs nodes, T.graphs.insert { graph, manifest := graph } = some graphs
    ∧ nodes.rows = T.nodes.rows ++ graph.nodes ∧ T' = { T with graphs, nodes }

/-- The next generation of a graph without a driver is claimed. -/
structure Claimed (svc : GraphServices) (T : GraphTables) (graph : GraphSnapshot)
    (claim : GraphDriverClaim) (now : Timestamp) (T' : GraphTables) : Prop where
  read : GraphRead svc T graph
  free : graph.driverClaim = none
  uncancelled : graph.cancelRequestedAt = none
  parent : claim.parentRunId = graph.parentRunId
  next : claim.generation = graph.driverGeneration + 1
  valid : (graph.claimed claim now).validates svc
  written : ∃ claims, T.claims.insert { claim } = some claims
    ∧ T' = { T with claims }.withGraph (graph.claimed claim now)

/-- A node may start to run with these inputs. -/
structure Dispatchable (graph : GraphSnapshot) (record : GraphNodeRecord)
    (inputs : List GraphArtifactRef) : Prop where
  unprepared : graph.joinPreparation = none
  known : (graph.dependencies record).length = record.node.dependsOn.length
  succeeded : ∀ item ∈ graph.dependencies record, item.status = .succeeded
  inputs : inputs = (graph.dependencies record).flatMap GraphNodeRecord.outputArtifacts
  capacity : (graph.nodes.filter fun item => item.status = .running).length
    < graph.plan.maxParallelAgents

/-- The driver of a graph moves one of its nodes along a transition. -/
structure NodeMoved (svc : GraphServices) (T : GraphTables) (claim : GraphDriverClaim)
    (args : NodeTransition) (graph : GraphSnapshot) (record : GraphNodeRecord) (now : Timestamp)
    (T' : GraphTables) : Prop where
  owned : GraphOwned svc T claim graph
  found : record ∈ graph.nodes
  named : record.binding.nodeId = args.nodeId
  allowed : args.target ∈ record.status.transitions
  dispatched : args.target = .running → Dispatchable graph record args.inputArtifacts
  valid : (record.moved args.target args.inputArtifacts args.outputArtifacts args.errorCode
    now).validates svc
  written : T' = T.withNode (record.moved args.target args.inputArtifacts args.outputArtifacts
    args.errorCode now)

/-- The driver of a graph without a running node gives up its claim. -/
structure Released (svc : GraphServices) (T : GraphTables) (claim : GraphDriverClaim)
    (graph : GraphSnapshot) (status : GraphStatus) (now : Timestamp) (T' : GraphTables) :
    Prop where
  owned : GraphOwned svc T claim graph
  idle : ∀ record ∈ graph.nodes, record.status ≠ .running
  valid : (graph.released status now).validates svc
  written : ∃ ended, T' = (T.endingClaim claim.claimId .released ended).withGraph
    (graph.released status now)

/-- The driver of a graph whose nodes have succeeded records what it will join. -/
structure Prepared (svc : GraphServices) (T : GraphTables) (claim : GraphDriverClaim)
    (graph : GraphSnapshot) (receipt : GraphJoinPreparation) (now : Timestamp)
    (T' : GraphTables) : Prop where
  owned : GraphOwned svc T claim graph
  fresh : graph.joinPreparation = none
  succeeded : ∀ record ∈ graph.nodes, record.status = .succeeded
  valid : (graph.prepared receipt now).validates svc
  written : T' = T.withGraph (graph.prepared receipt now)

/-- The driver of a prepared graph records its join. -/
structure Completed (svc : GraphServices) (T : GraphTables) (claim : GraphDriverClaim)
    (graph : GraphSnapshot) (result : GraphJoinCompletion) (now : Timestamp)
    (T' : GraphTables) : Prop where
  owned : GraphOwned svc T claim graph
  prepared : graph.joinPreparation ≠ none
  fresh : graph.joinCompletion = none
  valid : (graph.completed result now).validates svc
  written : T' = T.withGraph (graph.completed result now)

/-- A node that has not ended and is among the records. -/
def GraphNodeRecord.endsWith (records : List GraphNodeRecord) (m : GraphNodeRecord) : Bool :=
  records.any (fun r => r.binding.parentRunId = m.binding.parentRunId
    && r.binding.nodeId = m.binding.nodeId) && !m.status.isTerminal

theorem GraphNodeRecord.keepsKeys_cancelled (now : Timestamp) :
    KeepsKeys fun record : GraphNodeRecord => record.cancelled now := fun _ _ h => h

/-- The nodes among the records that have not ended are cancelled. -/
def cancellingNodes (nodes : Table GraphNodeRecord) (records : List GraphNodeRecord)
    (now : Timestamp) : Table GraphNodeRecord :=
  nodes.update (GraphNodeRecord.endsWith records) (fun record => record.cancelled now)
    (GraphNodeRecord.keepsKeys_cancelled now)

/-- A run that has not ended and is a child of the records. -/
def RunRow.endsWith (records : List GraphNodeRecord) (row : RunRow) : Bool :=
  records.any (fun r => r.binding.childRunId = row.run.runId) && !isTerminal row.run.status

/-- The row of a cancelled run. -/
def RunRow.cancelled (now : Timestamp) (row : RunRow) : RunRow :=
  { row with run := { row.run with status := .cancelled, updatedAt := now } }

theorem RunRow.keepsKeys_cancelled (now : Timestamp) : KeepsKeys (RunRow.cancelled now) :=
  fun _ _ h => h

/-- The children of the records that have not ended are cancelled. -/
def Records.cancellingRuns (r : Records) (records : List GraphNodeRecord) (now : Timestamp) :
    Records :=
  { r with
    runs := r.runs.update (RunRow.endsWith records) (RunRow.cancelled now)
      (RunRow.keepsKeys_cancelled now) }

/-- A graph is cancelled with its nodes and their children, and its driver loses the claim. -/
structure Cancelled (svc : GraphServices) (r : Records) (T : GraphTables)
    (graph : GraphSnapshot) (now : Timestamp) (r' : Records) (T' : GraphTables) : Prop where
  read : GraphRead svc T graph
  uncancelled : graph.cancelRequestedAt = none
  children : ∀ record ∈ graph.nodes, ∃ row ∈ r.runs, row.run.runId = record.binding.childRunId
  runs : r' = r.cancellingRuns graph.nodes now
  written : ∃ ended claims, (graph.cancelled ended now).validates svc
    ∧ claims = (graph.driverClaim.elim T.claims fun claim =>
        (T.endingClaim claim.claimId .cancelled now).claims)
    ∧ T' = { T with nodes := cancellingNodes T.nodes graph.nodes now, claims }.withGraph
        (graph.cancelled ended now)

/-- Runs and tasks of children are registered. -/
structure Registered (r r' : Records) : Prop where
  inserted : ∃ runs tasks, r' = { r with runs, tasks } ∧ ∀ row ∈ r.runs, row ∈ runs

/-- What one operation does to the records and the tables of the graphs. -/
inductive GraphEffect (svc : GraphServices) (r : Records) (T : GraphTables) :
    Records → GraphTables → Prop where
  | unchanged : GraphEffect svc r T r T
  | bound {r' : Records} {T' : GraphTables} {graph : GraphSnapshot} (hr : Registered r r')
      (h : Bound svc T graph T') : GraphEffect svc r T r' T'
  | claimed {T' : GraphTables} {graph : GraphSnapshot} {claim : GraphDriverClaim}
      {now : Timestamp} (h : Claimed svc T graph claim now T') : GraphEffect svc r T r T'
  | moved {T' : GraphTables} {claim : GraphDriverClaim} {args : NodeTransition}
      {graph : GraphSnapshot} {record : GraphNodeRecord} {now : Timestamp}
      (h : NodeMoved svc T claim args graph record now T') : GraphEffect svc r T r T'
  | released {T' : GraphTables} {claim : GraphDriverClaim} {graph : GraphSnapshot}
      {status : GraphStatus} {now : Timestamp} (h : Released svc T claim graph status now T') :
      GraphEffect svc r T r T'
  | prepared {T' : GraphTables} {claim : GraphDriverClaim} {graph : GraphSnapshot}
      {receipt : GraphJoinPreparation} {now : Timestamp}
      (h : Prepared svc T claim graph receipt now T') : GraphEffect svc r T r T'
  | completed {T' : GraphTables} {claim : GraphDriverClaim} {graph : GraphSnapshot}
      {result : GraphJoinCompletion} {now : Timestamp}
      (h : Completed svc T claim graph result now T') : GraphEffect svc r T r T'
  | cancelled {r' : Records} {T' : GraphTables} {graph : GraphSnapshot} {now : Timestamp}
      (h : Cancelled svc r T graph now r' T') : GraphEffect svc r T r' T'

/-! ### Claims -/

theorem recordClaim_ok {kind : String} (hread : GraphRead svc s.tables graph)
    (hfree : graph.driverClaim = none) (hcancel : graph.cancelRequestedAt = none)
    (h : recordClaim svc reads amb graph kind s = .ok (claim, t)) :
    t.store.records = s.store.records
      ∧ Claimed svc s.tables graph claim (amb.clock 1) t.tables := by
  simp only [recordClaim, bind_ok, getTables_ok, expect_ok, setTables_ok, pure_ok] at h
  obtain ⟨T, _, ⟨rfl, rfl⟩, claims, _, ⟨hins, rfl⟩, _, _, rfl, _, _, hsave, rfl, rfl⟩ := h
  obtain ⟨hvalid, hrecords, htables⟩ := saveGraph_ok hsave
  exact ⟨hrecords, hread, hfree, hcancel, rfl, rfl, hvalid, claims, hins, htables⟩

theorem claimDriver_ok
    (h : claimDriver svc reads amb parentRunId expectedRevision s = .ok (claim, t)) :
    t.store.records = s.store.records ∧ ∃ graph, graph.parentRunId = parentRunId
      ∧ Claimed svc s.tables graph claim (amb.clock 1) t.tables := by
  simp only [claimDriver, bind_ok, checkRevision_ok, refuseIf_ok, not_or, not_not] at h
  obtain ⟨graph, _, hgraph, _, _, ⟨-, rfl⟩, parent, _, hparent, _, _, ⟨hguard, rfl⟩, h⟩ := h
  obtain ⟨rfl, hid, hread⟩ := requireGraph_ok hgraph
  obtain ⟨rfl, -⟩ := graphRun_ok hparent
  obtain ⟨hrecords, hclaimed⟩ := recordClaim_ok hread hguard.1 hguard.2.1 h
  exact ⟨hrecords, graph, hid, hclaimed⟩

theorem checkApproval_ok {approved : Bool} (h : checkApproval child approved s = .ok (u, t)) :
    s = t := by
  simp only [checkApproval, bind_ok, refuseIf_ok, expect_ok, graphRecords_ok] at h
  obtain ⟨_, _, ⟨-, rfl⟩, requestId, _, ⟨-, rfl⟩, r, _, ⟨rfl, rfl⟩, request, _, ⟨-, rfl⟩, -,
    rfl⟩ := h
  rfl

theorem checkContinuation_ok {parent : Run} (h : checkContinuation parent s = .ok (u, t)) :
    s = t := by
  unfold checkContinuation at h
  split_ifs at h
  · exact checkApproval_ok h
  · exact (refuseIf_ok.mp h).2

theorem claimContinuation_ok
    (h : claimContinuation svc reads amb parentRunId expectedRevision s = .ok (claim, t)) :
    t.store.records = s.store.records ∧ ∃ graph, graph.parentRunId = parentRunId
      ∧ Claimed svc s.tables graph claim (amb.clock 1) t.tables := by
  simp only [claimContinuation, bind_ok, checkRevision_ok, refuseIf_ok, not_or, not_not] at h
  obtain ⟨graph, _, hgraph, _, _, ⟨-, rfl⟩, parent, _, hparent, _, _, ⟨hguard, rfl⟩, _, _,
    hcontinuation, h⟩ := h
  obtain ⟨rfl, hid, hread⟩ := requireGraph_ok hgraph
  obtain ⟨rfl, -⟩ := graphRun_ok hparent
  obtain rfl := checkContinuation_ok hcontinuation
  obtain ⟨hrecords, hclaimed⟩ := recordClaim_ok hread hguard.2.2.1 hguard.2.2.2.1 h
  exact ⟨hrecords, graph, hid, hclaimed⟩

/-! ### Nodes -/

theorem checkOutputs_ok (h : checkOutputs reads graph record child outputs s = .ok (u, t)) :
    s = t :=
  (refuseIf_ok.mp h).2

theorem checkChild_ok (h : checkChild record child s = .ok (u, t)) : s = t := by
  unfold checkChild at h
  split_ifs at h
  · exact checkApproval_ok h
  · exact (refuseIf_ok.mp h).2

theorem checkDispatch_ok
    (h : checkDispatch reads graph record child inputs outputs s = .ok (u, t)) :
    s = t ∧ Dispatchable graph record inputs := by
  simp only [checkDispatch, bind_ok, refuseIf_ok, not_or, not_not, ge_iff_le, not_le] at h
  obtain ⟨_, _, ⟨⟨-, hprepared⟩, rfl⟩, _, _, ⟨⟨hknown, hsucceeded⟩, rfl⟩, _, _,
    ⟨⟨hinputs, -⟩, rfl⟩, _, _, ⟨hcapacity, rfl⟩, _, _, ⟨-, rfl⟩, _, _, hchild, -, rfl⟩ := h
  refine ⟨checkChild_ok hchild, hprepared, hknown, fun item hitem => ?_, hinputs, hcapacity⟩
  by_contra hne
  exact hsucceeded ⟨item, hitem, hne⟩

theorem checkTarget_ok {target : GraphNodeStatus}
    (h : checkTarget reads graph record child target inputs outputs s = .ok (u, t)) :
    s = t ∧ (target = .running → Dispatchable graph record inputs) := by
  unfold checkTarget at h
  cases target with
  | running =>
      obtain ⟨hs, hdispatch⟩ := checkDispatch_ok h
      exact ⟨hs, fun _ => hdispatch⟩
  | waitingApproval =>
      simp only [bind_ok, refuseIf_ok] at h
      obtain ⟨_, _, ⟨-, rfl⟩, _, _, happroval, -, rfl⟩ := h
      exact ⟨checkApproval_ok happroval, GraphNodeStatus.noConfusion⟩
  | succeeded =>
      simp only [bind_ok, refuseIf_ok] at h
      obtain ⟨_, _, ⟨-, rfl⟩, houtputs⟩ := h
      exact ⟨checkOutputs_ok houtputs, GraphNodeStatus.noConfusion⟩
  | _ =>
      simp only [bind_ok, refuseIf_ok] at h
      obtain ⟨_, _, ⟨-, rfl⟩, -, rfl⟩ := h
      exact ⟨rfl, GraphNodeStatus.noConfusion⟩

theorem transitionNode_ok {args : NodeTransition} {updated : GraphNodeRecord}
    (h : transitionNode svc reads amb claim args s = .ok (updated, t)) :
    t.store.records = s.store.records ∧ ∃ graph record,
      NodeMoved svc s.tables claim args graph record (amb.clock 0) t.tables := by
  simp only [transitionNode, bind_ok, refuseIf_ok, expect_ok, checkRevision_ok, pure_ok,
    not_not] at h
  obtain ⟨_, _, ⟨-, rfl⟩, graph, _, hgraph, _, _, ⟨-, rfl⟩, record, _, ⟨hrecord, rfl⟩, _, _,
    ⟨-, rfl⟩, _, _, ⟨hallowed, rfl⟩, child, _, hchild, _, _, htarget, _, _, hsave, rfl, rfl⟩ := h
  obtain ⟨rfl, howned⟩ := ownedGraph_ok hgraph
  obtain ⟨rfl, -⟩ := graphRun_ok hchild
  obtain ⟨rfl, hdispatch⟩ := checkTarget_ok htarget
  obtain ⟨hvalid, hrecords, htables⟩ := saveNode_ok hsave
  obtain ⟨hmem, hnamed⟩ := List.mem_filter.mp (List.mem_of_mem_head? hrecord)
  exact ⟨hrecords, graph, record, howned, hmem, of_decide_eq_true hnamed, hallowed, hdispatch, hvalid, htables⟩

/-! ### Releases and joins -/

theorem releaseDriver_ok {status : GraphStatus} {released : GraphSnapshot}
    (h : releaseDriver svc reads amb claim expectedRevision status s = .ok (released, t)) :
    t.store.records = s.store.records ∧ ∃ graph,
      Released svc s.tables claim graph status (amb.clock 1) t.tables := by
  simp only [releaseDriver, bind_ok, refuseIf_ok, checkRevision_ok, getTables_ok, setTables_ok,
    pure_ok, not_or] at h
  obtain ⟨graph, _, hgraph, _, _, ⟨-, rfl⟩, _, _, ⟨hguard, rfl⟩, T, _, ⟨rfl, rfl⟩, _, _, rfl, _,
    _, hsave, -, rfl⟩ := h
  obtain ⟨rfl, howned⟩ := ownedGraph_ok hgraph
  obtain ⟨hvalid, hrecords, htables⟩ := saveGraph_ok hsave
  have hidle : ∀ record ∈ graph.nodes, record.status ≠ .running :=
    fun record hrecord hrunning => hguard.2.1 ⟨record, hrecord, hrunning⟩
  exact ⟨hrecords, graph, howned, hidle, hvalid, _, htables⟩

theorem checkJoinInputs_ok {pairs : List (GraphNodeRecord × GraphJoinInput)}
    (h : checkJoinInputs reads graph pairs s = .ok (u, t)) : s = t := by
  induction pairs generalizing s with
  | nil => exact (pure_ok.mp h).2
  | cons pair pairs ih =>
      simp only [checkJoinInputs, bind_ok, refuseIf_ok] at h
      obtain ⟨child, _, hchild, _, _, houtputs, _, _, ⟨-, rfl⟩, hrest⟩ := h
      obtain ⟨rfl, -⟩ := graphRun_ok hchild
      obtain rfl := checkOutputs_ok houtputs
      exact ih hrest

theorem markJoinPrepared_ok {receipt : GraphJoinPreparation} {prepared : GraphSnapshot}
    (h : markJoinPrepared svc reads amb claim receipt expectedRevision s = .ok (prepared, t)) :
    t.store.records = s.store.records ∧ ∃ graph, GraphOwned svc s.tables claim graph
      ∧ (t.tables = s.tables
        ∨ Prepared svc s.tables claim graph receipt (amb.clock 0) t.tables) := by
  simp only [markJoinPrepared, bind_ok, refuseIf_ok, checkRevision_ok] at h
  obtain ⟨_, _, ⟨-, rfl⟩, graph, _, hgraph, _, _, ⟨-, rfl⟩, h⟩ := h
  obtain ⟨rfl, howned⟩ := ownedGraph_ok hgraph
  cases hpreparation : graph.joinPreparation with
  | some =>
      simp only [hpreparation, bind_ok, refuseIf_ok, pure_ok] at h
      obtain ⟨_, _, ⟨-, rfl⟩, -, rfl⟩ := h
      exact ⟨rfl, graph, howned, .inl rfl⟩
  | none =>
      simp only [hpreparation, prepareJoin, bind_ok, refuseIf_ok, pure_ok, not_or] at h
      obtain ⟨parent, _, hparent, _, _, ⟨hguard, rfl⟩, _, _, ⟨-, rfl⟩, _, _, hinputs, _, _, hsave,
        -, rfl⟩ := h
      obtain ⟨rfl, -⟩ := graphRun_ok hparent
      obtain rfl := checkJoinInputs_ok hinputs
      obtain ⟨hvalid, hrecords, htables⟩ := saveGraph_ok hsave
      have hsucceeded : ∀ record ∈ graph.nodes, record.status = .succeeded := by
        intro record hrecord
        by_contra hne
        exact hguard.1 ⟨record, hrecord, hne⟩
      exact ⟨hrecords, graph, howned, .inr
        ⟨howned, hpreparation, hsucceeded, hvalid, htables⟩⟩

theorem markJoinComplete_ok {result : GraphJoinCompletion} {completed : GraphSnapshot}
    (h : markJoinComplete svc reads amb claim result expectedRevision s = .ok (completed, t)) :
    t.store.records = s.store.records ∧ ∃ graph, GraphOwned svc s.tables claim graph
      ∧ (t.tables = s.tables
        ∨ Completed svc s.tables claim graph result (amb.clock 0) t.tables) := by
  simp only [markJoinComplete, bind_ok, refuseIf_ok, checkRevision_ok] at h
  obtain ⟨_, _, ⟨-, rfl⟩, graph, _, hgraph, _, _, ⟨-, rfl⟩, h⟩ := h
  obtain ⟨rfl, howned⟩ := ownedGraph_ok hgraph
  cases hcompletion : graph.joinCompletion with
  | some =>
      simp only [hcompletion, bind_ok, refuseIf_ok, pure_ok] at h
      obtain ⟨_, _, ⟨-, rfl⟩, -, rfl⟩ := h
      exact ⟨rfl, graph, howned, .inl rfl⟩
  | none =>
      simp only [hcompletion, completeJoin, bind_ok, refuseIf_ok, expect_ok, pure_ok] at h
      obtain ⟨parent, _, hparent, preparation, _, ⟨hprepared, rfl⟩, _, _, ⟨-, rfl⟩, _, _,
        ⟨-, rfl⟩, _, _, hsave, -, rfl⟩ := h
      obtain ⟨rfl, -⟩ := graphRun_ok hparent
      obtain ⟨hvalid, hrecords, htables⟩ := saveGraph_ok hsave
      have hpreparation : graph.joinPreparation ≠ none := by simp [hprepared]
      exact ⟨hrecords, graph, howned, .inr
        ⟨howned, hpreparation, hcompletion, hvalid, htables⟩⟩

/-! ### Binding a graph -/

theorem Registered.refl (r : Records) : Registered r r :=
  ⟨r.runs, r.tasks, rfl, fun _ h => h⟩

theorem Registered.trans {r' r'' : Records} (h : Registered r r') (h' : Registered r' r'') :
    Registered r r'' := by
  obtain ⟨runs, tasks, rfl, hkept⟩ := h.inserted
  obtain ⟨runs', tasks', rfl, hkept'⟩ := h'.inserted
  exact ⟨runs', tasks', rfl, fun row hrow => hkept' row (hkept row hrow)⟩

theorem bindChild_ok {parent : Run} {planSha256 : Sha256} {seed : GraphChildSeed}
    (h : bindChild svc reads amb k parent planSha256 plan seed s = .ok (record, t)) :
    t.tables = s.tables ∧ Registered s.store.records t.store.records
      ∧ record.status = .pending := by
  simp only [bindChild, bind_ok, expect_ok, refuseIf_ok, graphRecords_ok, setGraphRecords_ok,
    pure_ok] at h
  obtain ⟨node, _, ⟨-, rfl⟩, _, _, ⟨-, rfl⟩, r, _, ⟨rfl, rfl⟩, runs, _, ⟨hruns, rfl⟩, tasks, _,
    ⟨-, rfl⟩, _, _, rfl, _, _, hcreated, _, _, hscoped, _, _, ⟨-, rfl⟩, rfl, rfl⟩ := h
  obtain ⟨htables, hrecords⟩ := graphEvent_ok hcreated
  obtain ⟨htables', hrecords'⟩ := graphEvent_ok hscoped
  refine ⟨htables'.trans htables, ⟨runs, tasks, hrecords'.trans hrecords, fun row hrow => ?_⟩,
    rfl⟩
  exact (Table.mem_insert hruns).mpr (.inl hrow)

theorem bindChildren_ok {parent : Run} {planSha256 : Sha256} {seeds : List GraphChildSeed}
    {records : List GraphNodeRecord}
    (h : bindChildren svc reads amb k parent planSha256 plan seeds s = .ok (records, t)) :
    t.tables = s.tables ∧ Registered s.store.records t.store.records
      ∧ ∀ record ∈ records, record.status = .pending := by
  induction seeds generalizing k s records with
  | nil =>
      obtain ⟨rfl, rfl⟩ := pure_ok.mp h
      exact ⟨rfl, .refl _, fun _ hr => absurd hr List.not_mem_nil⟩
  | cons seed seeds ih =>
      simp only [bindChildren, bind_ok, pure_ok] at h
      obtain ⟨record, _, hrecord, rest, _, hrest, rfl, rfl⟩ := h
      obtain ⟨htables, hregistered, hpending⟩ := bindChild_ok hrecord
      obtain ⟨htables', hregistered', hpending'⟩ := ih hrest
      exact ⟨htables'.trans htables, hregistered.trans hregistered',
        List.forall_mem_cons.mpr ⟨hpending, hpending'⟩⟩

theorem insertNodes_ok {nodes inserted : Table GraphNodeRecord} {records : List GraphNodeRecord}
    (h : insertNodes nodes records s = .ok (inserted, t)) :
    s = t ∧ inserted.rows = nodes.rows ++ records := by
  induction records generalizing s nodes with
  | nil =>
      obtain ⟨rfl, rfl⟩ := pure_ok.mp h
      exact ⟨rfl, (List.append_nil _).symm⟩
  | cons record records ih =>
      simp only [insertNodes, bind_ok, expect_ok] at h
      obtain ⟨next, _, ⟨hins, rfl⟩, h⟩ := h
      obtain ⟨rfl, hrows⟩ := ih h
      refine ⟨rfl, ?_⟩
      rw [hrows, (Table.insert_eq_some hins).2, List.append_assoc, List.singleton_append]

theorem insertGraph_ok {parent : Run}
    (h : insertGraph svc reads amb parent plan children s = .ok (graph, t)) :
    Registered s.store.records t.store.records ∧ Bound svc s.tables graph t.tables := by
  simp only [insertGraph, bind_ok, refuseIf_ok, expect_ok, graphTask, graphRecords_ok,
    validatedGraph_ok, getTables_ok, setTables_ok, pure_ok] at h
  obtain ⟨_, _, ⟨-, rfl⟩, taskId, _, ⟨-, rfl⟩, task, _, ⟨r, _, ⟨rfl, rfl⟩, -, rfl⟩, artifactId,
    _, ⟨-, rfl⟩, planSha256, _, ⟨-, rfl⟩, _, _, ⟨-, rfl⟩, records, s₁, hrecords, manifest, _,
    ⟨⟨-, hvalid⟩, rfl, rfl⟩, T, _, ⟨rfl, rfl⟩, graphs, _, ⟨hgraphs, rfl⟩, nodes, _, hnodes, _, _,
    rfl, _, _, hevent, rfl, rfl⟩ := h
  obtain ⟨htables, hregistered, hpending⟩ := bindChildren_ok hrecords
  obtain ⟨rfl, hrows⟩ := insertNodes_ok hnodes
  obtain ⟨htables', hrecords'⟩ := graphEvent_ok hevent
  rw [htables] at hgraphs hrows
  rw [hrecords', htables']
  refine ⟨hregistered, ⟨rfl, rfl⟩, ⟨rfl, rfl⟩, hvalid, hpending, graphs, nodes, hgraphs, hrows, ?_⟩
  dsimp only
  rw [htables]

theorem initializeGraph_ok
    (h : initializeGraph svc reads amb parentRunId plan children s = .ok (graph, t)) :
    t = s ∨ (Registered s.store.records t.store.records
      ∧ Bound svc s.tables graph t.tables) := by
  simp only [initializeGraph, bind_ok, refuseIf_ok, getTables_ok] at h
  obtain ⟨_, _, ⟨-, rfl⟩, parent, _, hparent, T, _, ⟨rfl, rfl⟩, _, _, ⟨-, rfl⟩, actual, _, hplan,
    _, _, ⟨-, rfl⟩, existing, _, hexisting, h⟩ := h
  obtain ⟨rfl, -⟩ := graphRun_ok hparent
  obtain rfl := planOf_ok hplan
  obtain ⟨rfl, -⟩ := getGraph_ok hexisting
  cases existing with
  | some =>
      obtain ⟨-, rfl⟩ := pure_ok.mp h
      exact .inl rfl
  | none => exact .inr (insertGraph_ok h)

/-! ### Cancelling a graph -/

theorem endsWith_cons (record : GraphNodeRecord) (records : List GraphNodeRecord)
    (m : GraphNodeRecord) : m.endsWith (record :: records)
      = (m.endsWith [record] || m.endsWith records) := by
  simp [GraphNodeRecord.endsWith, Bool.and_or_distrib_right]

/-- Another node than the record's is not selected. -/
theorem endsWith_other {m : GraphNodeRecord}
    (h : ¬ (record.binding.parentRunId = m.binding.parentRunId
      ∧ record.binding.nodeId = m.binding.nodeId)) : m.endsWith [record] = false := by
  simp only [GraphNodeRecord.endsWith, List.any_cons, List.any_nil, Bool.or_false,
    Bool.and_eq_false_imp, Bool.and_eq_true, decide_eq_true_eq]
  exact fun hboth => absurd hboth h

theorem cancellingNodes_cons (nodes : Table GraphNodeRecord) (record : GraphNodeRecord)
    (records : List GraphNodeRecord) (now : Timestamp) :
    cancellingNodes (cancellingNodes nodes [record] now) records now
      = cancellingNodes nodes (record :: records) now := by
  refine Table.update_update _ _ _ fun m _ => ?_
  rw [endsWith_cons record records m]
  by_cases hfirst : m.endsWith [record] = true
  · have hended : (m.cancelled now).endsWith records = false := by
      simp [GraphNodeRecord.endsWith, GraphNodeRecord.cancelled, GraphNodeStatus.isTerminal]
    simp [hfirst, hended]
  · simp [hfirst]

theorem cancellingRuns_cons (r : Records) (record : GraphNodeRecord)
    (records : List GraphNodeRecord) (now : Timestamp) :
    (r.cancellingRuns [record] now).cancellingRuns records now
      = r.cancellingRuns (record :: records) now := by
  have hruns := Table.update_update (t := r.runs) (p := RunRow.endsWith [record])
    (q := RunRow.endsWith records) (r := RunRow.endsWith (record :: records))
    (RunRow.keepsKeys_cancelled now) (RunRow.keepsKeys_cancelled now)
    (RunRow.keepsKeys_cancelled now) fun row _ => by
      have hcons : row.endsWith (record :: records)
          = (row.endsWith [record] || row.endsWith records) := by
        simp [RunRow.endsWith, Bool.and_or_distrib_right]
      rw [hcons]
      by_cases hfirst : row.endsWith [record] = true
      · have hended : (row.cancelled now).endsWith records = false := by
          simp [RunRow.endsWith, RunRow.cancelled, isTerminal]
        simp [hfirst, hended]
      · simp [hfirst]
  unfold Records.cancellingRuns
  dsimp only
  rw [hruns]

theorem cancelChild_ok {row : RunRow} (hrow : row ∈ s.store.records.runs)
    (hid : row.run.runId = record.binding.childRunId)
    (h : cancelChild svc amb k parentRunId row.run now s = .ok (u, t)) :
    t.tables = s.tables ∧ t.store.records = s.store.records.cancellingRuns [record] now := by
  have hown : ∀ a ∈ s.store.records.runs, record.binding.childRunId = a.run.runId → a = row :=
    fun a ha hsame => Table.eq_of_clash ha hrow (hsame.symm.trans hid.symm)
  unfold cancelChild at h
  split_ifs at h with hterminal
  · obtain ⟨-, rfl⟩ := pure_ok.mp h
    have hnone : ∀ a ∈ s.store.records.runs, a.endsWith [record] = false := by
      intro a ha
      by_cases hsame : record.binding.childRunId = a.run.runId
      · rw [hown a ha hsame]
        simp [RunRow.endsWith, hterminal]
      · simp [RunRow.endsWith, hsame]
    refine ⟨rfl, ?_⟩
    unfold Records.cancellingRuns
    rw [Table.update_eq_self _ hnone]
  · simp only [bind_ok, graphRecords_ok, setGraphRecords_ok] at h
    obtain ⟨r, _, ⟨rfl, rfl⟩, _, _, rfl, hevent⟩ := h
    obtain ⟨htables, hrecords⟩ := graphEvent_ok hevent
    refine ⟨htables, hrecords.trans ?_⟩
    unfold Records.withRun Records.cancellingRuns
    refine congrArg (fun runs => { s.store.records with runs }) ?_
    refine Table.update_congr _ _ fun a ha => ?_
    by_cases hsame : record.binding.childRunId = a.run.runId
    · obtain rfl := hown a ha hsame
      simp [RunRow.endsWith, RunRow.written, RunRow.cancelled, hid, hterminal]
    · have hother : a.run.runId ≠ row.run.runId := fun heq => hsame (hid.symm.trans heq.symm)
      simp [RunRow.endsWith, hsame, hother]

theorem cancelNode_ok {ended : GraphNodeRecord} (hmem : record ∈ s.tables.nodes)
    (h : cancelNode svc reads amb k record now s = .ok (ended, t)) :
    t.store.records = s.store.records
      ∧ t.tables = { s.tables with nodes := cancellingNodes s.tables.nodes [record] now } := by
  have hown : ∀ a ∈ s.tables.nodes, record.binding.parentRunId = a.binding.parentRunId →
      record.binding.nodeId = a.binding.nodeId → a = record :=
    fun a ha hparent hnode => Table.eq_of_clash ha hmem (.inl ⟨hparent.symm, hnode.symm⟩)
  unfold cancelNode at h
  split_ifs at h with hterminal
  · obtain ⟨-, rfl⟩ := pure_ok.mp h
    have hnone : ∀ a ∈ s.tables.nodes, a.endsWith [record] = false := by
      intro a ha
      by_cases hsame : record.binding.parentRunId = a.binding.parentRunId
          ∧ record.binding.nodeId = a.binding.nodeId
      · rw [hown a ha hsame.1 hsame.2]
        simp [GraphNodeRecord.endsWith, hterminal]
      · exact endsWith_other hsame
    refine ⟨rfl, ?_⟩
    unfold cancellingNodes
    rw [Table.update_eq_self _ hnone]
  · simp only [bind_ok, pure_ok] at h
    obtain ⟨_, _, hsave, -, rfl⟩ := h
    obtain ⟨-, hrecords, htables⟩ := saveNode_ok hsave
    refine ⟨hrecords, htables.trans ?_⟩
    unfold GraphTables.withNode cancellingNodes
    refine congrArg (fun nodes => { s.tables with nodes }) ?_
    refine Table.update_congr _ _ fun a ha => ?_
    by_cases hsame : record.binding.parentRunId = a.binding.parentRunId
        ∧ record.binding.nodeId = a.binding.nodeId
    · obtain rfl := hown a ha hsame.1 hsame.2
      simp [GraphNodeRecord.endsWith, GraphNodeRecord.written, GraphNodeRecord.cancelled,
        hterminal]
    · have hother : ¬ (decide (a.binding.parentRunId = record.binding.parentRunId)
          && decide (a.binding.nodeId = record.binding.nodeId)) = true := by
        rw [Bool.and_eq_true, decide_eq_true_eq, decide_eq_true_eq]
        exact fun heq => hsame ⟨heq.1.symm, heq.2.symm⟩
      rw [endsWith_other hsame]
      exact if_neg hother

theorem cancelNodes_ok {records ended : List GraphNodeRecord}
    (hmem : ∀ record ∈ records, record ∈ s.tables.nodes)
    (hdistinct : records.Pairwise fun a b => ¬ clash a b)
    (h : cancelNodes svc reads amb k parentRunId now records s = .ok (ended, t)) :
    t.store.records = s.store.records.cancellingRuns records now
      ∧ t.tables = { s.tables with nodes := cancellingNodes s.tables.nodes records now }
      ∧ ∀ record ∈ records, ∃ row ∈ s.store.records.runs,
        row.run.runId = record.binding.childRunId := by
  induction records generalizing k s ended with
  | nil =>
      obtain ⟨-, rfl⟩ := pure_ok.mp h
      have hruns : s.store.records.runs.update (RunRow.endsWith []) (RunRow.cancelled now)
          (RunRow.keepsKeys_cancelled now) = s.store.records.runs :=
        Table.update_eq_self _ fun _ _ => rfl
      have hnodes : cancellingNodes s.tables.nodes [] now = s.tables.nodes :=
        Table.update_eq_self _ fun _ _ => rfl
      refine ⟨?_, ?_, fun _ hr => absurd hr List.not_mem_nil⟩
      · unfold Records.cancellingRuns
        rw [hruns]
      · rw [hnodes]
  | cons record records ih =>
      simp only [cancelNodes, bind_ok, pure_ok] at h
      obtain ⟨child, _, hchild, _, s₁, hcancel, first, s₂, hnode, rest, _, hrest, -, rfl⟩ := h
      obtain ⟨row, hrow, rfl, hid⟩ := graphRun_row hchild
      obtain ⟨rfl, -⟩ := graphRun_ok hchild
      obtain ⟨htables, hrecords⟩ := cancelChild_ok hrow hid hcancel
      obtain ⟨hhead, htail⟩ := List.forall_mem_cons.mp hmem
      obtain ⟨hrecords', htables'⟩ := cancelNode_ok (htables ▸ hhead) hnode
      rw [htables] at htables'
      obtain ⟨hhere, hlater⟩ := List.pairwise_cons.mp hdistinct
      have hmem' : ∀ r ∈ records, r ∈ s₂.tables.nodes := by
        intro r hr
        rw [htables']
        refine (Table.mem_update (GraphNodeRecord.keepsKeys_cancelled now)).mpr
          ⟨r, htail r hr, ?_⟩
        rw [endsWith_other fun hsame => hhere r hr (.inl hsame)]
        rfl
      obtain ⟨hruns, hnodes, hchildren⟩ := ih hmem' hlater hrest
      rw [hrecords', hrecords] at hruns hchildren
      rw [htables'] at hnodes
      refine ⟨?_, ?_, List.forall_mem_cons.mpr ⟨⟨row, hrow, hid⟩, fun r hr => ?_⟩⟩
      · rw [hruns, cancellingRuns_cons]
      · rw [hnodes]
        dsimp only
        rw [cancellingNodes_cons]
      · obtain ⟨b, hb, hbid⟩ := hchildren r hr
        obtain ⟨a, ha, rfl⟩ := (Table.mem_update (RunRow.keepsKeys_cancelled now)).mp hb
        refine ⟨a, ha, ?_⟩
        split_ifs at hbid
        · exact hbid
        · exact hbid

theorem cancelClaim_ok (h : cancelClaim graph now s = .ok (u, t)) :
    t.store.records = s.store.records
      ∧ t.tables = { s.tables with claims := graph.driverClaim.elim s.tables.claims fun claim =>
        (s.tables.endingClaim claim.claimId .cancelled now).claims } := by
  unfold cancelClaim at h
  cases hdriver : graph.driverClaim with
  | none =>
      simp only [hdriver, pure_ok] at h
      obtain ⟨-, rfl⟩ := h
      exact ⟨rfl, rfl⟩
  | some =>
      simp only [hdriver, bind_ok, getTables_ok, setTables_ok] at h
      obtain ⟨T, _, ⟨rfl, rfl⟩, rfl⟩ := h
      exact ⟨rfl, rfl⟩

theorem requestCancel_ok
    (h : requestCancel svc reads amb parentRunId expectedRevision s = .ok (result, t)) :
    ∃ graph, GraphRead svc s.tables graph ∧ graph.parentRunId = parentRunId
      ∧ ((t = s ∧ graph.cancelRequestedAt ≠ none)
        ∨ Cancelled svc s.store.records s.tables graph (amb.clock 0) t.store.records
          t.tables) := by
  simp only [requestCancel, bind_ok, checkRevision_ok] at h
  obtain ⟨graph, _, hgraph, _, _, ⟨-, rfl⟩, h⟩ := h
  obtain ⟨rfl, hid, hread⟩ := requireGraph_ok hgraph
  refine ⟨graph, hread, hid, ?_⟩
  split_ifs at h with hcancel
  · obtain ⟨-, rfl⟩ := pure_ok.mp h
    exact .inl ⟨rfl, hcancel⟩
  · simp only [bind_ok, pure_ok] at h
    obtain ⟨ended, s₁, hnodes, _, s₂, hclaim, _, _, hsave, -, rfl⟩ := h
    have hmem : ∀ record ∈ graph.nodes, record ∈ s.tables.nodes := fun record hrecord =>
      (GraphTables.mem_nodesOf.mp (hread.nodes ▸ hrecord)).1
    have hdistinct := hread.nodes ▸ s.tables.pairwise_nodesOf graph.parentRunId
    obtain ⟨hruns, htables, hchildren⟩ := cancelNodes_ok hmem hdistinct hnodes
    obtain ⟨hrecords', htables'⟩ := cancelClaim_ok hclaim
    obtain ⟨hvalid, hrecords'', htables''⟩ := saveGraph_ok hsave
    rw [htables] at htables'
    rw [htables'] at htables''
    exact .inr ⟨hread, not_not.mp hcancel, hchildren, hrecords''.trans (hrecords'.trans hruns),
      ended, _, hvalid, rfl, htables''⟩

end AgentFleet
