import AgentFleet.Budget.Machine
import AgentFleet.Graph.Effects

/-! # The database as a machine

The state store, the ledger and the graphs share one SQLite database, and each store runs its
own transactions against it.  One input of `databaseMachine` is one transaction of any of them
with arbitrary arguments and surroundings, so a run is any interleaving of gateways, drivers,
children, attempts and cancellations, with crashes wherever a caller stops.

The conversations, the plan reviews and the evaluations write the shared tables only through the
in-transaction helpers of these stores; a transaction of theirs is any list of `SharedWrite`.

`DatabaseMove` lists what one helper can do, and `databaseMoves` says that every step is a chain
of such moves. -/

namespace AgentFleet

open Relational Transaction Transition

/-- The tables of the three stores in one database. -/
structure Database where
  store : Store
  ledger : Ledger
  graphs : GraphTables

/-- What the stores are constructed with. -/
structure DatabaseServices extends BudgetServices, GraphServices

/-- What one transaction reads beside the database. -/
structure DatabaseReads where
  budget : BudgetReads
  graph : GraphReads

/-- A transaction body against the database. -/
abbrev DatabaseTxn := Txn Database StoreError

/-- A body of the state store. -/
def onStore {α : Type} (x : StoreTxn α) : DatabaseTxn α :=
  onPart Database.store (fun store d => { d with store }) x

/-- A body of the accounting. -/
def onLedger {α : Type} (x : BudgetTxn α) : DatabaseTxn α :=
  onPart (fun d => ⟨d.store, d.ledger⟩)
    (fun s d => { d with store := s.store, ledger := s.ledger }) x

/-- A body of the graph store. -/
def onGraphs {α : Type} (x : GraphTxn α) : DatabaseTxn α :=
  onPart (fun d => ⟨d.store, d.graphs⟩)
    (fun s d => { d with store := s.store, graphs := s.tables }) x

/-! ### Transactions -/

/-- A transaction of the graph store with its arguments. -/
inductive GraphOp where
  | initializeGraph (parentRunId : String) (plan : FleetPlan) (children : List GraphChildSeed)
  | get (parentRunId : String)
  | claimDriver (parentRunId : String) (expectedRevision : ℤ)
  | claimContinuation (parentRunId : String) (expectedRevision : ℤ)
  | transitionNode (claim : GraphDriverClaim) (args : NodeTransition)
  | releaseDriver (claim : GraphDriverClaim) (expectedRevision : ℤ) (status : GraphStatus)
  | markJoinPrepared (claim : GraphDriverClaim) (receipt : GraphJoinPreparation)
      (expectedRevision : ℤ)
  | markJoinComplete (claim : GraphDriverClaim) (result : GraphJoinCompletion)
      (expectedRevision : ℤ)
  | requestCancel (parentRunId : String) (expectedRevision : ℤ)

/-- An in-transaction helper with its arguments. -/
inductive SharedWrite where
  | insertRun (run : Run) (createdPayload : JsonObject)
  | saveRun (run : Run) (eventType : String) (payload : JsonObject)
  | insertEvent (event : FleetEvent)
  | initializeRun (runId : String) (limits : RunBudgetLimits) (parentRunId : Option String)
  | requestCancel (parentRunId : String) (expectedRevision : ℤ)

/-- A transaction of one of the stores. -/
inductive DatabaseOp where
  | store (op : StoreOp)
  | ledger (op : BudgetOp)
  | graph (op : GraphOp)
  | shared (writes : List (SharedWrite × Ambient))

/-- What a transaction returns. -/
inductive DatabaseResult where
  | store (result : StoreResult)
  | ledger (result : BudgetResult)
  | graph (graph : Option GraphSnapshot)
  | claim (claim : GraphDriverClaim)
  | node (record : GraphNodeRecord)
  | done

variable (svc : DatabaseServices) (reads : DatabaseReads) (amb : Ambient)

/-- The surroundings of the part of a body that starts at place `k`. -/
def Ambient.after (k : ℕ) : Ambient where
  clock := fun i => amb.clock (k + i)
  ids := fun i => amb.ids (k + i)

/-- The budgets of the children of a new graph. -/
def initializeBudgets (k : ℕ) (parentRunId : String) (limits : RunBudgetLimits) :
    List GraphNodeRecord → DatabaseTxn Unit
  | [] => return ()
  | record :: records => do
      let _ ← onLedger (initializeRun svc.toBudgetServices reads.budget (amb.after k)
        record.binding.childRunId limits (some parentRunId))
      initializeBudgets (k + 4) parentRunId limits records

/-- `initialize`, with the budgets of the children. -/
def initializeWithBudgets (parentRunId : String) (plan : FleetPlan)
    (children : List GraphChildSeed) : DatabaseTxn GraphSnapshot := do
  let d ← get
  let graph ← onGraphs (initializeGraph svc.toGraphServices reads.graph amb parentRunId plan
    children)
  match d.graphs.graph? parentRunId with
  | some _ => return graph
  | none => do
      let owner ← onLedger (ownerOf reads.budget parentRunId)
      let (_, limits) ← expect graphInvalid owner
      initializeBudgets svc reads amb (4 * children.length + 3) parentRunId limits graph.nodes
      return graph

/-- The body of a transaction of the graph store. -/
def graphBody : GraphOp → DatabaseTxn DatabaseResult
  | .initializeGraph parentRunId plan children => (fun graph => .graph (some graph)) <$>
      initializeWithBudgets svc reads amb parentRunId plan children
  | .get parentRunId =>
      .graph <$> onGraphs (getGraph svc.toGraphServices reads.graph parentRunId)
  | .claimDriver parentRunId expectedRevision => .claim <$> onGraphs
      (claimDriver svc.toGraphServices reads.graph amb parentRunId expectedRevision)
  | .claimContinuation parentRunId expectedRevision => .claim <$> onGraphs
      (claimContinuation svc.toGraphServices reads.graph amb parentRunId expectedRevision)
  | .transitionNode claim args => .node <$> onGraphs
      (transitionNode svc.toGraphServices reads.graph amb claim args)
  | .releaseDriver claim expectedRevision status =>
      (fun graph => .graph (some graph)) <$> onGraphs
        (releaseDriver svc.toGraphServices reads.graph amb claim expectedRevision status)
  | .markJoinPrepared claim receipt expectedRevision =>
      (fun graph => .graph (some graph)) <$> onGraphs
        (markJoinPrepared svc.toGraphServices reads.graph amb claim receipt expectedRevision)
  | .markJoinComplete claim result expectedRevision =>
      (fun graph => .graph (some graph)) <$> onGraphs
        (markJoinComplete svc.toGraphServices reads.graph amb claim result expectedRevision)
  | .requestCancel parentRunId expectedRevision =>
      (fun graph => .graph (some graph)) <$> onGraphs
        (requestCancel svc.toGraphServices reads.graph amb parentRunId expectedRevision)

/-- `_insert_run_in_transaction`, for a run that its project and its organization admit. -/
def insertRun (run : Run) (createdPayload : JsonObject) : StoreTxn Unit := do
  refuseIf (svc.stateRecordSafe run = false) invalidStateRecord
  let r ← getRecords
  let runs ← expect .integrity (r.runs.insert { run, projectId := run.projectId })
  setRecords { r with runs }
  insertEvent svc.toServices (eventForRun svc.toServices amb 0 run "run.created"
    (JsonValue.object
      ([("goal", .str run.goal), ("status", .str run.status.value)] ++ createdPayload)))

/-- The body of an in-transaction helper. -/
def sharedWrite : SharedWrite → DatabaseTxn Unit
  | .insertRun run createdPayload => onStore (insertRun svc amb run createdPayload)
  | .saveRun run eventType payload => do
      let _ ← onStore (saveRun svc.toServices amb run eventType payload)
  | .insertEvent event => onStore (insertEvent svc.toServices event)
  | .initializeRun runId limits parentRunId => do
      let _ ← onLedger
        (initializeRun svc.toBudgetServices reads.budget amb runId limits parentRunId)
  | .requestCancel parentRunId expectedRevision => do
      let _ ← onGraphs
        (requestCancel svc.toGraphServices reads.graph amb parentRunId expectedRevision)

/-- The helpers of one transaction, one after the other. -/
def sharedWrites : List (SharedWrite × Ambient) → DatabaseTxn Unit
  | [] => return ()
  | (write, amb) :: writes => do
      sharedWrite svc reads amb write
      sharedWrites writes

/-- The body of a transaction. -/
def databaseBody : DatabaseOp → DatabaseTxn DatabaseResult
  | .store op => .store <$> onStore (storeBody svc.toServices amb op)
  | .ledger op => .ledger <$> onLedger (budgetBody svc.toBudgetServices reads.budget amb op)
  | .graph op => graphBody svc reads amb op
  | .shared writes => (fun _ => .done) <$> sharedWrites svc reads writes

/-- One input: a transaction with what it reads from its surroundings. -/
structure DatabaseInput where
  op : DatabaseOp
  reads : DatabaseReads
  amb : Ambient

/-- The database under transactions. -/
def databaseMachine : Machine Database DatabaseInput (Except StoreError DatabaseResult) where
  step d input :=
    let r := commit (databaseBody svc input.reads input.amb input.op) d
    (r.2, r.1)

/-! ### Moves -/

/-- What one helper does to the database, its journal aside. -/
inductive DatabaseMove (svc : DatabaseServices) (d : Database) : Database → Prop where
  | store {d' : Database} {amb : Ambient} {op : StoreOp}
      (h : Effect svc.toServices amb op d.store.records d'.store.records)
      (hledger : d'.ledger = d.ledger) (hgraphs : d'.graphs = d.graphs) : DatabaseMove svc d d'
  | ledger {d' : Database} (hrecords : d'.store.records = d.store.records)
      (h : LedgerEffect d.store.records d.ledger d'.ledger) (hgraphs : d'.graphs = d.graphs) :
      DatabaseMove svc d d'
  | graph {d' : Database} (hledger : d'.ledger = d.ledger)
      (h : GraphEffect svc.toGraphServices d.store.records d.graphs d'.store.records d'.graphs) :
      DatabaseMove svc d d'

/-- A chain of moves. -/
abbrev DatabaseMoves (svc : DatabaseServices) : Database → Database → Prop :=
  Relation.ReflTransGen (DatabaseMove svc)

variable {svc reads amb} {d d' : Database}

theorem onGraphs_ok {α : Type} {x : GraphTxn α} {a : α} :
    onGraphs x d = .ok (a, d') ↔ ∃ s, x ⟨d.store, d.graphs⟩ = .ok (a, s)
      ∧ { d with store := s.store, graphs := s.tables } = d' := by
  unfold onGraphs
  exact onPart_ok

theorem onLedger_ok {α : Type} {x : BudgetTxn α} {a : α} :
    onLedger x d = .ok (a, d') ↔ ∃ s, x ⟨d.store, d.ledger⟩ = .ok (a, s)
      ∧ { d with store := s.store, ledger := s.ledger } = d' := by
  unfold onLedger
  exact onPart_ok

theorem onStore_ok {α : Type} {x : StoreTxn α} {a : α} :
    onStore x d = .ok (a, d') ↔ ∃ s, x d.store = .ok (a, s) ∧ { d with store := s } = d' := by
  unfold onStore
  exact onPart_ok

variable {limits : RunBudgetLimits} {parentRunId : String} {u : Unit} {graph : GraphSnapshot}
  {result : DatabaseResult} {input : DatabaseInput}

theorem initializeRun_move {runId : String} {parentRunId : Option String}
    {snapshot : RunBudgetSnapshot}
    (h : onLedger (initializeRun svc.toBudgetServices reads.budget amb runId limits parentRunId) d
      = .ok (snapshot, d')) : DatabaseMove svc d d' := by
  obtain ⟨s, hs, rfl⟩ := onLedger_ok.mp h
  obtain ⟨hrecords, heq | ⟨row, hrow⟩⟩ := initializeRun_ok hs
  · exact .ledger hrecords (heq ▸ .unchanged) rfl
  · exact .ledger hrecords (.initialized hrow) rfl

theorem initializeBudgets_moves {k : ℕ} {records : List GraphNodeRecord}
    (h : initializeBudgets svc reads amb k parentRunId limits records d = .ok (u, d')) :
    DatabaseMoves svc d d' := by
  induction records generalizing k d with
  | nil =>
      obtain ⟨-, rfl⟩ := pure_ok.mp h
      exact .refl
  | cons record records ih =>
      simp only [initializeBudgets, bind_ok] at h
      obtain ⟨snapshot, d₁, hfirst, hrest⟩ := h
      exact .head (initializeRun_move hfirst) (ih hrest)

theorem initializeWithBudgets_moves {plan : FleetPlan} {children : List GraphChildSeed}
    (h : initializeWithBudgets svc reads amb parentRunId plan children d = .ok (graph, d')) :
    DatabaseMoves svc d d' := by
  simp only [initializeWithBudgets, bind_ok, get_ok] at h
  obtain ⟨_, _, ⟨rfl, rfl⟩, bound, d₁, hbound, h⟩ := h
  obtain ⟨s, hs, rfl⟩ := onGraphs_ok.mp hbound
  have hfirst : DatabaseMove svc d { d with store := s.store, graphs := s.tables } := by
    rcases initializeGraph_ok hs with rfl | ⟨hregistered, hgraph⟩
    · exact .graph rfl .unchanged
    · exact .graph rfl (.bound hregistered hgraph)
  generalize d.graphs.graph? parentRunId = known at h
  cases known with
  | some =>
      obtain ⟨-, rfl⟩ := pure_ok.mp h
      exact .single hfirst
  | none =>
      simp only [bind_ok, expect_ok, pure_ok] at h
      obtain ⟨owner, d₂, howner, ⟨_, limits⟩, _, ⟨-, rfl⟩, _, d₃, hbudgets, -, rfl⟩ := h
      obtain ⟨s₂, hs₂, rfl⟩ := onLedger_ok.mp howner
      obtain ⟨rfl, -⟩ := ownerOf_ok hs₂
      exact .head hfirst (initializeBudgets_moves hbudgets)

theorem requestCancel_move {parentRunId : String} {expectedRevision : ℤ}
    {graph : GraphSnapshot} (h : onGraphs (requestCancel svc.toGraphServices reads.graph amb
      parentRunId expectedRevision) d = .ok (graph, d')) : DatabaseMove svc d d' := by
  obtain ⟨s, hs, rfl⟩ := onGraphs_ok.mp h
  obtain ⟨found, -, -, ⟨rfl, -⟩ | hcancelled⟩ := requestCancel_ok hs
  · exact .graph rfl .unchanged
  · exact .graph rfl (.cancelled hcancelled)

theorem graphBody_moves {op : GraphOp} (h : graphBody svc reads amb op d = .ok (result, d')) :
    DatabaseMoves svc d d' := by
  cases op with
  | initializeGraph =>
      obtain ⟨graph, h, -⟩ := map_ok.mp h
      exact initializeWithBudgets_moves h
  | get =>
      obtain ⟨graph, h, -⟩ := map_ok.mp h
      obtain ⟨s, hs, rfl⟩ := onGraphs_ok.mp h
      obtain ⟨rfl, -⟩ := getGraph_ok hs
      exact .single (.graph rfl .unchanged)
  | claimDriver =>
      obtain ⟨claim, h, -⟩ := map_ok.mp h
      obtain ⟨s, hs, rfl⟩ := onGraphs_ok.mp h
      obtain ⟨hrecords, graph, -, hclaimed⟩ := claimDriver_ok hs
      exact .single (.graph rfl (by dsimp only; exact hrecords ▸ .claimed hclaimed))
  | claimContinuation =>
      obtain ⟨claim, h, -⟩ := map_ok.mp h
      obtain ⟨s, hs, rfl⟩ := onGraphs_ok.mp h
      obtain ⟨hrecords, graph, -, hclaimed⟩ := claimContinuation_ok hs
      exact .single (.graph rfl (by dsimp only; exact hrecords ▸ .claimed hclaimed))
  | transitionNode =>
      obtain ⟨record, h, -⟩ := map_ok.mp h
      obtain ⟨s, hs, rfl⟩ := onGraphs_ok.mp h
      obtain ⟨hrecords, graph, found, hmoved⟩ := transitionNode_ok hs
      exact .single (.graph rfl (by dsimp only; exact hrecords ▸ .moved hmoved))
  | releaseDriver =>
      obtain ⟨released, h, -⟩ := map_ok.mp h
      obtain ⟨s, hs, rfl⟩ := onGraphs_ok.mp h
      obtain ⟨hrecords, graph, hreleased⟩ := releaseDriver_ok hs
      exact .single (.graph rfl (by dsimp only; exact hrecords ▸ .released hreleased))
  | markJoinPrepared =>
      obtain ⟨prepared, h, -⟩ := map_ok.mp h
      obtain ⟨s, hs, rfl⟩ := onGraphs_ok.mp h
      obtain ⟨hrecords, graph, -, hsame | hprepared⟩ := markJoinPrepared_ok hs
      · exact .single (.graph rfl (by dsimp only; exact hrecords ▸ hsame ▸ .unchanged))
      · exact .single (.graph rfl (by dsimp only; exact hrecords ▸ .prepared hprepared))
  | markJoinComplete =>
      obtain ⟨completed, h, -⟩ := map_ok.mp h
      obtain ⟨s, hs, rfl⟩ := onGraphs_ok.mp h
      obtain ⟨hrecords, graph, -, hsame | hcompleted⟩ := markJoinComplete_ok hs
      · exact .single (.graph rfl (by dsimp only; exact hrecords ▸ hsame ▸ .unchanged))
      · exact .single (.graph rfl (by dsimp only; exact hrecords ▸ .completed hcompleted))
  | requestCancel =>
      obtain ⟨graph, h, -⟩ := map_ok.mp h
      exact .single (requestCancel_move h)

theorem insertRun_ok {run : Run} {createdPayload : JsonObject} {s t : Store}
    (h : insertRun svc amb run createdPayload s = .ok (u, t)) :
    ∃ runs, s.records.runs.insert { run, projectId := run.projectId } = some runs
      ∧ t.records = { s.records with runs } := by
  simp only [insertRun, bind_ok, refuseIf_ok, getRecords_ok, expect_ok, setRecords_ok,
    insertEvent_ok] at h
  obtain ⟨_, _, ⟨-, rfl⟩, _, _, ⟨rfl, rfl⟩, runs, _, ⟨hruns, rfl⟩, _, _, rfl, rfl⟩ := h
  exact ⟨runs, hruns, rfl⟩

theorem sharedWrite_move {write : SharedWrite}
    (h : sharedWrite svc reads amb write d = .ok (u, d')) : DatabaseMove svc d d' := by
  cases write with
  | insertRun run =>
      obtain ⟨s, hs, rfl⟩ := onStore_ok.mp h
      obtain ⟨runs, hruns, hrecords⟩ := insertRun_ok hs
      have heffect : Effect svc.toServices amb (.createRun run) d.store.records s.records :=
        hrecords ▸ .runCreated hruns
      exact .store heffect rfl rfl
  | saveRun run eventType payload =>
      simp only [sharedWrite, bind_ok, pure_ok] at h
      obtain ⟨saved, _, hsaved, -, rfl⟩ := h
      obtain ⟨s, hs, rfl⟩ := onStore_ok.mp hsaved
      obtain ⟨row, hrow, hallowed, hrecords⟩ := saveRun_ok hs
      have heffect : Effect svc.toServices amb (.saveRun run eventType payload) d.store.records
          s.records := hrecords ▸ .runSaved hrow hallowed
      exact .store heffect rfl rfl
  | insertEvent event =>
      obtain ⟨s, hs, rfl⟩ := onStore_ok.mp h
      have heq := insertEvent_ok.mp hs
      have heffect : Effect svc.toServices amb (.appendEvent event) d.store.records s.records :=
        heq ▸ .unchanged _ _
      exact .store heffect rfl rfl
  | initializeRun =>
      simp only [sharedWrite, bind_ok, pure_ok] at h
      obtain ⟨snapshot, _, hrun, -, rfl⟩ := h
      exact initializeRun_move hrun
  | requestCancel =>
      simp only [sharedWrite, bind_ok, pure_ok] at h
      obtain ⟨graph, _, hgraph, -, rfl⟩ := h
      exact requestCancel_move hgraph

theorem sharedWrites_moves {writes : List (SharedWrite × Ambient)}
    (h : sharedWrites svc reads writes d = .ok (u, d')) : DatabaseMoves svc d d' := by
  induction writes generalizing d with
  | nil =>
      obtain ⟨-, rfl⟩ := pure_ok.mp h
      exact .refl
  | cons write writes ih =>
      simp only [sharedWrites, bind_ok] at h
      obtain ⟨_, d₁, hfirst, hrest⟩ := h
      exact .head (sharedWrite_move hfirst) (ih hrest)

theorem databaseBody_moves {op : DatabaseOp}
    (h : databaseBody svc reads amb op d = .ok (result, d')) : DatabaseMoves svc d d' := by
  cases op with
  | store =>
      obtain ⟨stored, h, -⟩ := map_ok.mp h
      obtain ⟨s, hs, rfl⟩ := onStore_ok.mp h
      have heffect := effect_of_body hs
      exact .single (.store heffect rfl rfl)
  | ledger =>
      obtain ⟨answer, h, -⟩ := map_ok.mp h
      obtain ⟨s, hs, rfl⟩ := onLedger_ok.mp h
      obtain ⟨hrecords, heffect⟩ := ledgerEffect_of_body hs
      exact .single (.ledger hrecords heffect rfl)
  | graph => exact graphBody_moves h
  | shared =>
      obtain ⟨_, h, -⟩ := map_ok.mp h
      exact sharedWrites_moves h

/-! ### Committed and refused transactions -/

/-- A transaction that answers has committed its body. -/
theorem committed_of_out (h : (databaseMachine svc).out d input = .ok result) :
    databaseBody svc input.reads input.amb input.op d
      = .ok (result, (databaseMachine svc).next d input) := by
  rcases commit_cases (databaseBody svc input.reads input.amb input.op) d with
    ⟨a, t, hok, hc⟩ | ⟨e, -, hc⟩
  · simp only [Machine.out, databaseMachine, hc, Except.ok.injEq] at h
    simp only [Machine.next, databaseMachine, hc]
    rw [hok, h]
  · simp only [Machine.out, databaseMachine, hc] at h
    exact absurd h (fun heq => by cases heq)

/-- A transaction that cannot commit is refused and changes nothing. -/
theorem refused_of_body
    (h : ∀ result t, databaseBody svc input.reads input.amb input.op d ≠ .ok (result, t)) :
    (∃ e, (databaseMachine svc).out d input = .error e)
      ∧ (databaseMachine svc).next d input = d := by
  rcases commit_cases (databaseBody svc input.reads input.amb input.op) d with
    ⟨a, t, hok, -⟩ | ⟨e, -, hc⟩
  · exact absurd hok (h a t)
  · constructor
    · refine ⟨e, ?_⟩
      simp only [Machine.out, databaseMachine, hc]
    · simp only [Machine.next, databaseMachine, hc]

/-- A transaction commits its body or changes nothing. -/
theorem next_cases (svc : DatabaseServices) (d : Database) (input : DatabaseInput) :
    (∃ result, databaseBody svc input.reads input.amb input.op d
      = .ok (result, (databaseMachine svc).next d input))
      ∨ (databaseMachine svc).next d input = d := by
  rcases commit_cases (databaseBody svc input.reads input.amb input.op) d with
    ⟨result, t, hok, hc⟩ | ⟨e, -, hc⟩
  · have hnext : (databaseMachine svc).next d input = t := by
      simp only [Machine.next, databaseMachine, hc]
    rw [hnext]
    exact .inl ⟨result, hok⟩
  · refine .inr ?_
    simp only [Machine.next, databaseMachine, hc]

/-- Every step of the machine is a chain of moves. -/
theorem databaseMoves (svc : DatabaseServices) :
    (databaseMachine svc).Moves (DatabaseMove svc) := by
  intro d input
  rcases next_cases svc d input with ⟨result, hok⟩ | hsame
  · exact databaseBody_moves hok
  · rw [hsame]

/-- A database without ledger and graphs. -/
def Database.fresh (store : Store) : Database := ⟨store, .empty, .empty⟩

end AgentFleet
