import AgentFleet.Database.Machine
import AgentFleet.Persistence.Journal

/-! # One journal for all stores

The state store, the accounting and the graphs each compute the next place of a run's journal
by a query of their own, in transactions over one database.

* `databaseBody_steps` says that whatever a transaction commits is a chain of `Logs` steps.
* `events_dense` follows: in every reachable database a run's events are numbered `1, …, n`.
* `readerMachine` interleaves the transactions with the pages of one reader, who goes on from
  the last place it has seen; `Reader.Read` is what it has read. -/

namespace AgentFleet

open Journaling Relational Transaction Transition

/-! ### The transactions of the ledger -/

/-- `Logs` for the accounting. -/
def BudgetLogs (s t : BudgetState) : Prop := Logs s.store t.store

section Ledger

variable (svc : BudgetServices) (reads : BudgetReads) (amb : Ambient)

@[grind ←]
theorem budgetRecords_steps : Steps BudgetLogs budgetRecords := by
  unfold budgetRecords
  grind

@[grind ←]
theorem getLedger_steps : Steps BudgetLogs getLedger := by
  unfold getLedger
  grind

@[grind ←]
theorem budgetRun_steps (runId : String) : Steps BudgetLogs (budgetRun runId) := by
  unfold budgetRun
  grind

@[grind ←]
theorem budgetAgent_steps (agentInstanceId : String) :
    Steps BudgetLogs (budgetAgent agentInstanceId) := by
  unfold budgetAgent
  grind

@[grind ←]
theorem budgetTask_steps (taskId : String) : Steps BudgetLogs (budgetTask taskId) := by
  unfold budgetTask
  grind

@[grind ←]
theorem ownerOf_steps (runId : String) : Steps BudgetLogs (ownerOf reads runId) := by
  unfold ownerOf
  grind

@[grind ←]
theorem checkAttempt_steps (attempt : RuntimeAttempt) :
    Steps BudgetLogs (checkAttempt reads attempt) := by
  unfold checkAttempt
  grind

@[grind ←]
theorem attemptById_steps (attemptId : String) :
    Steps BudgetLogs (attemptById reads attemptId) := by
  unfold attemptById
  grind

@[grind ←]
theorem attemptsOfOwner_steps (ownerRunId : String) :
    Steps BudgetLogs (attemptsOfOwner reads ownerRunId) := by
  unfold attemptsOfOwner
  grind

@[grind ←]
theorem activeAttempt_steps (attemptId : String) :
    Steps BudgetLogs (activeAttempt reads attemptId) := by
  unfold activeAttempt
  grind

@[grind ←]
theorem campaignAdmission_steps (runId : String) :
    Steps BudgetLogs (campaignAdmission reads runId) := by
  unfold campaignAdmission
  grind

@[grind ←]
theorem snapshotOf_steps (now : Timestamp) (runId : String) :
    Steps BudgetLogs (snapshotOf svc reads now runId) := by
  unfold snapshotOf
  grind

@[grind ←]
theorem operational_steps (snapshot : RunBudgetSnapshot) :
    Steps BudgetLogs (operational snapshot) := by
  unfold operational
  grind

@[grind ←]
theorem setLedger_steps (l : Ledger) : Steps BudgetLogs (setLedger l) :=
  .modify fun _ => Logs.same rfl

@[grind ←]
theorem budgetEvent_steps (k : ℕ) (run : Run) (eventType : String)
    (payload : JsonObject) : Steps BudgetLogs (budgetEvent svc amb k run eventType payload) :=
  .modify fun s => Logs.journal s.store _

@[grind ←]
theorem insertAttempt_steps (attempt : RuntimeAttempt) :
    Steps BudgetLogs (insertAttempt attempt) := by
  unfold insertAttempt
  grind

@[grind ←]
theorem insertRequest_steps (item : ModelRequestAccounting) :
    Steps BudgetLogs (insertRequest item) := by
  unfold insertRequest
  grind

@[grind ←]
theorem parentOwner_steps (parentRunId : Option String) :
    Steps BudgetLogs (parentOwner reads parentRunId) := by
  unfold parentOwner
  grind

@[grind ←]
theorem registerOwner_steps (run : Run) (ownerRunId : String) (limits : RunBudgetLimits)
    (parent : Option (String × RunBudgetLimits)) :
    Steps BudgetLogs (registerOwner amb run ownerRunId limits parent) := by
  unfold registerOwner
  grind

@[grind ←]
theorem initializeRun_steps (runId : String) (limits : RunBudgetLimits)
    (parentRunId : Option String) :
    Steps BudgetLogs (initializeRun svc reads amb runId limits parentRunId) := by
  unfold initializeRun
  refine .bind (.refuseIf _ _) fun _ => .bind (budgetRun_steps _) fun run => ?_
  refine .bind (.refuseIf _ _) fun _ => .bind (parentOwner_steps reads _) fun parent => ?_
  refine .bind (.refuseIf _ _) fun _ => .bind (.refuseIf _ _) fun _ => ?_
  refine .bind (ownerOf_steps reads _) fun existing => ?_
  split
  · grind
  · refine .bind (.refuseIf _ _) fun _ => .bind (registerOwner_steps amb _ _ _ _) fun owners => ?_
    grind

@[grind ←]
theorem checkTask_steps (request : AgentInvocation) (run : Run) (agent : AgentInstance) :
    Steps BudgetLogs (checkTask request run agent) := by
  unfold checkTask
  grind

@[grind ←]
theorem openAttempt_steps (run : Run) (limits : RunBudgetLimits) (candidate : RuntimeAttempt) :
    Steps BudgetLogs (openAttempt svc reads amb run limits candidate) := by
  unfold openAttempt
  refine .bind getLedger_steps fun l => .bind (attemptsOfOwner_steps reads _) fun attempts => ?_
  refine .bind (.refuseIf _ _) fun _ => .bind (snapshotOf_steps svc reads _ _) fun snapshot => ?_
  refine .bind (operational_steps _) fun _ => .bind (.refuseIf _ _) fun _ => ?_
  grind

@[grind ←]
theorem beginAttempt_steps (request : AgentInvocation) (attemptId : Option String) :
    Steps BudgetLogs (beginAttempt svc reads amb request attemptId) := by
  unfold beginAttempt
  refine .bind (.refuseIf _ _) fun _ => .bind (budgetRun_steps _) fun run => ?_
  refine .bind (ownerOf_steps reads _) fun owner => .bind (.expect _ _) fun found => ?_
  refine .bind (campaignAdmission_steps reads _) fun _ => ?_
  refine .bind (budgetAgent_steps _) fun agent => ?_
  refine .bind (.refuseIf _ _) fun _ => .bind (checkTask_steps _ _ _) fun _ => ?_
  refine .bind (.expect _ _) fun runtimeName => .bind (.refuseIf _ _) fun _ => ?_
  refine .bind getLedger_steps fun l => ?_
  split
  · grind
  · exact openAttempt_steps svc reads amb _ _ _

@[grind ←]
theorem reserveRequest_steps (attemptId : String) (requestSequence requestedTokens : ℤ) :
    Steps BudgetLogs (reserveRequest svc reads amb attemptId requestSequence requestedTokens) := by
  unfold reserveRequest
  refine .bind (.refuseIf _ _) fun _ => .bind (.refuseIf _ _) fun _ => ?_
  refine .bind (.refuseIf _ _) fun _ => .bind (activeAttempt_steps reads _) fun attempt => ?_
  refine .bind (campaignAdmission_steps reads _) fun _ => .bind getLedger_steps fun l => ?_
  refine .bind (.refuseIf _ _) fun _ => .bind (snapshotOf_steps svc reads _ _) fun snapshot => ?_
  refine .bind (operational_steps _) fun limits => .bind (.refuseIf _ _) fun _ => ?_
  grind

@[grind ←]
theorem requestOf_steps (attemptId : String) (reservation : ModelRequestReservation) :
    Steps BudgetLogs (requestOf attemptId reservation) := by
  unfold requestOf
  grind

@[grind ←]
theorem recordResponse_steps (attemptId : String) (reservation : ModelRequestReservation)
    (usage : UsageRecord) :
    Steps BudgetLogs (recordResponse svc reads amb attemptId reservation usage) := by
  unfold recordResponse
  refine .bind (.refuseIf _ _) fun _ => .bind (attemptById_steps reads _) fun attempt => ?_
  refine .bind (requestOf_steps _ _) fun item => ?_
  split
  · grind
  · refine .bind (.refuseIf _ _) fun _ => .bind getLedger_steps fun l => ?_
    grind

@[grind ←]
theorem recordUnknown_steps (attemptId : String) (reservation : ModelRequestReservation) :
    Steps BudgetLogs (recordUnknown svc reads amb attemptId reservation) := by
  unfold recordUnknown
  grind

@[grind ←]
theorem reserveToolBatch_steps (attemptId : String) (batchSequence : ℤ) (callIds : List String) :
    Steps BudgetLogs (reserveToolBatch svc reads amb attemptId batchSequence callIds) := by
  unfold reserveToolBatch
  refine .bind (.refuseIf _ _) fun _ => .bind (.refuseIf _ _) fun _ => ?_
  refine .bind (activeAttempt_steps reads _) fun attempt => ?_
  refine .bind (campaignAdmission_steps reads _) fun _ => .bind getLedger_steps fun l => ?_
  refine .bind (.refuseIf _ _) fun _ => .bind (snapshotOf_steps svc reads _ _) fun snapshot => ?_
  refine .bind (operational_steps _) fun limits => .bind (.refuseIf _ _) fun _ => ?_
  grind

@[grind ←]
theorem recordSimulatedStep_steps (attemptId : String) :
    Steps BudgetLogs (recordSimulatedStep svc reads amb attemptId) := by
  unfold recordSimulatedStep
  refine .bind (.refuseIf _ _) fun _ => .bind (activeAttempt_steps reads _) fun attempt => ?_
  refine .bind (.refuseIf _ _) fun _ => .bind getLedger_steps fun l => ?_
  refine .bind (.refuseIf _ _) fun _ => .bind (snapshotOf_steps svc reads _ _) fun snapshot => ?_
  refine .bind (operational_steps _) fun limits => .bind (.refuseIf _ _) fun _ => ?_
  grind

@[grind ←]
theorem finishAttempt_steps (attemptId : String) (status : RuntimeAttemptStatus)
    (errorCode : Option ErrorCode) :
    Steps BudgetLogs (finishAttempt svc reads amb attemptId status errorCode) := by
  unfold finishAttempt
  grind

theorem budgetBody_steps (op : BudgetOp) : Steps BudgetLogs (budgetBody svc reads amb op) := by
  cases op <;> exact .map (by grind)

end Ledger

/-! ### The transactions of the graphs -/

/-- `Logs` for the graphs. -/
def GraphLogs (s t : GraphState) : Prop := Logs s.store t.store

section Graphs

variable (svc : GraphServices) (reads : GraphReads) (amb : Ambient)

@[grind ←]
theorem getTables_steps : Steps GraphLogs getTables := by
  unfold getTables
  grind

@[grind ←]
theorem setTables_steps (T : GraphTables) : Steps GraphLogs (setTables T) :=
  .modify fun _ => Logs.same rfl

@[grind ←]
theorem graphRecords_steps : Steps GraphLogs graphRecords := by
  unfold graphRecords
  grind

@[grind ←]
theorem setGraphRecords_steps (r : Records) : Steps GraphLogs (setGraphRecords r) :=
  .modify fun _ => Logs.same rfl

@[grind ←]
theorem graphRun_steps (runId : String) : Steps GraphLogs (graphRun runId) := by
  unfold graphRun
  grind

@[grind ←]
theorem graphTask_steps (taskId : String) : Steps GraphLogs (graphTask taskId) := by
  unfold graphTask
  grind

@[grind ←]
theorem planOf_steps (parent : Run) : Steps GraphLogs (planOf reads parent) := by
  unfold planOf
  grind

@[grind ←]
theorem validatedGraph_steps (graph : GraphSnapshot) :
    Steps GraphLogs (validatedGraph svc reads graph) := by
  unfold validatedGraph
  grind

@[grind ←]
theorem validatedNode_steps (record : GraphNodeRecord) :
    Steps GraphLogs (validatedNode svc reads record) := by
  unfold validatedNode
  grind

@[grind ←]
theorem checkedGraph_steps (parent : Run) (row : GraphRow) :
    Steps GraphLogs (checkedGraph svc reads parent row) := by
  unfold checkedGraph
  grind

@[grind ←]
theorem getGraph_steps (parentRunId : String) :
    Steps GraphLogs (getGraph svc reads parentRunId) := by
  unfold getGraph
  grind

@[grind ←]
theorem requireGraph_steps (parentRunId : String) :
    Steps GraphLogs (requireGraph svc reads parentRunId) := by
  unfold requireGraph
  grind

@[grind ←]
theorem checkRevision_steps (actual : ℕ) (expected : ℤ) :
    Steps GraphLogs (checkRevision actual expected) := by
  unfold checkRevision
  grind

@[grind ←]
theorem ownedGraph_steps (claim : GraphDriverClaim) :
    Steps GraphLogs (ownedGraph svc reads claim) := by
  unfold ownedGraph
  grind

@[grind ←]
theorem graphEvent_steps (k : ℕ) (run : Run) (kind : String) (payload : JsonObject) :
    Steps GraphLogs (graphEvent svc amb k run kind payload) :=
  .modify fun s => Logs.journal s.store _

@[grind ←]
theorem saveGraph_steps (k : ℕ) (graph : GraphSnapshot) (kind : String) :
    Steps GraphLogs (saveGraph svc reads amb k graph kind) := by
  unfold saveGraph
  grind

@[grind ←]
theorem saveNode_steps (k : ℕ) (record : GraphNodeRecord) (kind : String) :
    Steps GraphLogs (saveNode svc reads amb k record kind) := by
  unfold saveNode
  grind

@[grind ←]
theorem bindChild_steps (k : ℕ) (parent : Run) (planSha256 : Sha256) (plan : FleetPlan)
    (seed : GraphChildSeed) :
    Steps GraphLogs (bindChild svc reads amb k parent planSha256 plan seed) := by
  unfold bindChild
  refine .bind (.expect _ _) fun node => .bind (.refuseIf _ _) fun _ => ?_
  refine .bind graphRecords_steps fun r => .bind (.expect _ _) fun runs => ?_
  refine .bind (.expect _ _) fun tasks => .bind (setGraphRecords_steps _) fun _ => ?_
  grind

@[grind ←]
theorem bindChildren_steps (k : ℕ) (parent : Run) (planSha256 : Sha256) (plan : FleetPlan)
    (seeds : List GraphChildSeed) :
    Steps GraphLogs (bindChildren svc reads amb k parent planSha256 plan seeds) := by
  induction seeds generalizing k with
  | nil => exact .pure _
  | cons seed seeds ih =>
      unfold bindChildren
      grind

@[grind ←]
theorem insertNodes_steps (nodes : Table GraphNodeRecord) (records : List GraphNodeRecord) :
    Steps GraphLogs (insertNodes nodes records) := by
  induction records generalizing nodes with
  | nil => exact .pure _
  | cons record records ih =>
      unfold insertNodes
      grind

@[grind ←]
theorem insertGraph_steps (parent : Run) (plan : FleetPlan) (children : List GraphChildSeed) :
    Steps GraphLogs (insertGraph svc reads amb parent plan children) := by
  unfold insertGraph
  refine .bind (.refuseIf _ _) fun _ => .bind (.expect _ _) fun taskId => ?_
  refine .bind (graphTask_steps _) fun task => .bind (.expect _ _) fun planArtifactId => ?_
  refine .bind (.expect _ _) fun planSha256 => .bind (.refuseIf _ _) fun _ => ?_
  refine .bind (bindChildren_steps svc reads amb _ _ _ _ _) fun records => ?_
  refine .bind (validatedGraph_steps svc reads _) fun manifest => .bind getTables_steps fun T => ?_
  grind

@[grind ←]
theorem initializeGraph_steps (parentRunId : String) (plan : FleetPlan)
    (children : List GraphChildSeed) :
    Steps GraphLogs (initializeGraph svc reads amb parentRunId plan children) := by
  unfold initializeGraph
  refine .bind (.refuseIf _ _) fun _ => .bind (graphRun_steps _) fun parent => ?_
  refine .bind getTables_steps fun T => .bind (.refuseIf _ _) fun _ => ?_
  grind

@[grind ←]
theorem recordClaim_steps (graph : GraphSnapshot) (kind : String) :
    Steps GraphLogs (recordClaim svc reads amb graph kind) := by
  unfold recordClaim
  grind

@[grind ←]
theorem claimDriver_steps (parentRunId : String) (expectedRevision : ℤ) :
    Steps GraphLogs (claimDriver svc reads amb parentRunId expectedRevision) := by
  unfold claimDriver
  grind

@[grind ←]
theorem checkApproval_steps (child : Run) (approved : Bool) :
    Steps GraphLogs (checkApproval child approved) := by
  unfold checkApproval
  grind

@[grind ←]
theorem checkContinuation_steps (parent : Run) : Steps GraphLogs (checkContinuation parent) := by
  unfold checkContinuation
  grind

@[grind ←]
theorem claimContinuation_steps (parentRunId : String) (expectedRevision : ℤ) :
    Steps GraphLogs (claimContinuation svc reads amb parentRunId expectedRevision) := by
  unfold claimContinuation
  grind

@[grind ←]
theorem checkOutputs_steps (graph : GraphSnapshot) (record : GraphNodeRecord) (child : Run)
    (outputs : List GraphArtifactRef) :
    Steps GraphLogs (checkOutputs reads graph record child outputs) := by
  unfold checkOutputs
  grind

@[grind ←]
theorem checkChild_steps (record : GraphNodeRecord) (child : Run) :
    Steps GraphLogs (checkChild record child) := by
  unfold checkChild
  grind

@[grind ←]
theorem checkDispatch_steps (graph : GraphSnapshot) (record : GraphNodeRecord) (child : Run)
    (inputs outputs : List GraphArtifactRef) :
    Steps GraphLogs (checkDispatch reads graph record child inputs outputs) := by
  unfold checkDispatch
  grind

@[grind ←]
theorem checkTarget_steps (graph : GraphSnapshot) (record : GraphNodeRecord) (child : Run)
    (target : GraphNodeStatus) (inputs outputs : List GraphArtifactRef) :
    Steps GraphLogs (checkTarget reads graph record child target inputs outputs) := by
  unfold checkTarget
  grind

@[grind ←]
theorem transitionNode_steps (claim : GraphDriverClaim) (args : NodeTransition) :
    Steps GraphLogs (transitionNode svc reads amb claim args) := by
  unfold transitionNode
  refine .bind (.refuseIf _ _) fun _ => .bind (ownedGraph_steps svc reads _) fun graph => ?_
  refine .bind (.refuseIf _ _) fun _ => .bind (.expect _ _) fun record => ?_
  refine .bind (checkRevision_steps _ _) fun _ => .bind (.refuseIf _ _) fun _ => ?_
  grind

@[grind ←]
theorem releaseDriver_steps (claim : GraphDriverClaim) (expectedRevision : ℤ)
    (status : GraphStatus) :
    Steps GraphLogs (releaseDriver svc reads amb claim expectedRevision status) := by
  unfold releaseDriver
  grind

@[grind ←]
theorem checkJoinInputs_steps (graph : GraphSnapshot)
    (items : List (GraphNodeRecord × GraphJoinInput)) :
    Steps GraphLogs (checkJoinInputs reads graph items) := by
  induction items with
  | nil => exact .pure _
  | cons item items ih =>
      unfold checkJoinInputs
      grind

@[grind ←]
theorem prepareJoin_steps (graph : GraphSnapshot) (receipt : GraphJoinPreparation) :
    Steps GraphLogs (prepareJoin svc reads amb graph receipt) := by
  unfold prepareJoin
  grind

@[grind ←]
theorem markJoinPrepared_steps (claim : GraphDriverClaim) (receipt : GraphJoinPreparation)
    (expectedRevision : ℤ) :
    Steps GraphLogs (markJoinPrepared svc reads amb claim receipt expectedRevision) := by
  unfold markJoinPrepared
  grind

@[grind ←]
theorem completeJoin_steps (graph : GraphSnapshot) (result : GraphJoinCompletion) :
    Steps GraphLogs (completeJoin svc reads amb graph result) := by
  unfold completeJoin
  grind

@[grind ←]
theorem markJoinComplete_steps (claim : GraphDriverClaim) (result : GraphJoinCompletion)
    (expectedRevision : ℤ) :
    Steps GraphLogs (markJoinComplete svc reads amb claim result expectedRevision) := by
  unfold markJoinComplete
  grind

@[grind ←]
theorem cancelChild_steps (k : ℕ) (parentRunId : String) (child : Run) (now : Timestamp) :
    Steps GraphLogs (cancelChild svc amb k parentRunId child now) := by
  unfold cancelChild
  grind

@[grind ←]
theorem cancelNode_steps (k : ℕ) (record : GraphNodeRecord) (now : Timestamp) :
    Steps GraphLogs (cancelNode svc reads amb k record now) := by
  unfold cancelNode
  grind

@[grind ←]
theorem cancelNodes_steps (k : ℕ) (parentRunId : String) (now : Timestamp)
    (records : List GraphNodeRecord) :
    Steps GraphLogs (cancelNodes svc reads amb k parentRunId now records) := by
  induction records generalizing k with
  | nil => exact .pure _
  | cons record records ih =>
      unfold cancelNodes
      grind

@[grind ←]
theorem cancelClaim_steps (graph : GraphSnapshot) (now : Timestamp) :
    Steps GraphLogs (cancelClaim graph now) := by
  unfold cancelClaim
  grind

@[grind ←]
theorem requestCancel_steps (parentRunId : String) (expectedRevision : ℤ) :
    Steps GraphLogs (requestCancel svc reads amb parentRunId expectedRevision) := by
  unfold requestCancel
  grind

end Graphs

/-! ### Every transaction -/

/-- `Logs` for the database. -/
def DatabaseLogs (d d' : Database) : Prop := Logs d.store d'.store

section Bodies

variable (svc : DatabaseServices) (reads : DatabaseReads) (amb : Ambient)

@[grind ←]
theorem onStore_steps {α : Type} {x : StoreTxn α} (hx : Steps Logs x) :
    Steps DatabaseLogs (onStore x) :=
  hx.onPart (fun _ _ h _ => h) fun _ => rfl

@[grind ←]
theorem onLedger_steps {α : Type} {x : BudgetTxn α} (hx : Steps BudgetLogs x) :
    Steps DatabaseLogs (onLedger x) :=
  hx.onPart (fun _ _ h _ => h) fun _ => rfl

@[grind ←]
theorem onGraphs_steps {α : Type} {x : GraphTxn α} (hx : Steps GraphLogs x) :
    Steps DatabaseLogs (onGraphs x) :=
  hx.onPart (fun _ _ h _ => h) fun _ => rfl

@[grind ←]
theorem initializeBudgets_steps (k : ℕ) (parentRunId : String) (limits : RunBudgetLimits)
    (records : List GraphNodeRecord) :
    Steps DatabaseLogs (initializeBudgets svc reads amb k parentRunId limits records) := by
  induction records generalizing k with
  | nil => exact .pure _
  | cons record records ih =>
      unfold initializeBudgets
      grind

@[grind ←]
theorem initializeWithBudgets_steps (parentRunId : String) (plan : FleetPlan)
    (children : List GraphChildSeed) :
    Steps DatabaseLogs (initializeWithBudgets svc reads amb parentRunId plan children) := by
  unfold initializeWithBudgets
  grind

theorem graphBody_steps (op : GraphOp) : Steps DatabaseLogs (graphBody svc reads amb op) := by
  cases op <;> exact .map (by grind)

@[grind ←]
theorem insertRun_steps (run : Run) (createdPayload : JsonObject) :
    Steps Logs (insertRun svc amb run createdPayload) := by
  unfold insertRun
  grind

@[grind ←]
theorem sharedWrite_steps (write : SharedWrite) :
    Steps DatabaseLogs (sharedWrite svc reads amb write) := by
  cases write <;> (unfold sharedWrite; grind)

theorem sharedWrites_steps (writes : List (SharedWrite × Ambient)) :
    Steps DatabaseLogs (sharedWrites svc reads writes) := by
  induction writes with
  | nil => exact .pure _
  | cons write writes ih =>
      unfold sharedWrites
      grind

theorem databaseBody_steps (op : DatabaseOp) :
    Steps DatabaseLogs (databaseBody svc reads amb op) := by
  cases op with
  | store op => exact .map (onStore_steps (storeBody_steps svc.toServices amb op))
  | ledger op =>
      exact .map (onLedger_steps (budgetBody_steps svc.toBudgetServices reads.budget amb op))
  | graph op => exact graphBody_steps svc reads amb op
  | shared writes => exact .map (sharedWrites_steps svc reads writes)

end Bodies

/-- Every step of the machine is a chain of `DatabaseLogs` steps. -/
theorem databaseLogs (svc : DatabaseServices) : (databaseMachine svc).Moves DatabaseLogs := by
  intro d input
  rcases next_cases svc d input with ⟨result, hok⟩ | hsame
  · exact databaseBody_steps svc input.reads input.amb input.op d result _ hok
  · rw [hsame]

/-- A transaction keeps the journals dense. -/
theorem events_dense (svc : DatabaseServices) :
    (databaseMachine svc).Invariant fun d => eventLog.Dense d.store.runEvents :=
  (databaseLogs svc).invariant fun _ _ hlogs hdense => hdense.step hlogs

/-- A transaction leaves the stored events where they are. -/
theorem events_isPrefix (svc : DatabaseServices) (d : Database) (input : DatabaseInput) :
    d.store.runEvents <+: ((databaseMachine svc).next d input).store.runEvents :=
  (databaseLogs svc).rel (I := fun _ => True)
    (Q := fun d d' => d.store.runEvents <+: d'.store.runEvents) (fun _ _ _ _ => trivial)
    (fun _ => List.prefix_refl _) (fun _ _ _ => List.IsPrefix.trans)
    (fun _ _ hlogs _ => hlogs.isPrefix) trivial [input]

/-! ### Readers -/

/-- A reader of a run's journal beside the database: the last place and the events it has
seen. -/
structure Reader where
  database : Database
  cursor : ℕ
  events : List FleetEvent

/-- A transaction of some store, or the reader's next page. -/
inductive ReaderInput where
  | transaction (input : DatabaseInput)
  | page (limit : ℤ)

/-- A reader that has not begun. -/
def Reader.start (d : Database) : Reader := ⟨d, 0, []⟩

/-- The database under transactions, with a reader who asks for pages in between and goes on
from the last place of each. -/
def readerMachine (svc : DatabaseServices) (eventRecordSafe : FleetEvent → Bool)
    (runId : String) :
    Machine Reader ReaderInput (Option (Except StoreError (List FleetEvent))) where
  step reader
    | .transaction input =>
        ({ reader with database := (databaseMachine svc).next reader.database input }, none)
    | .page limit =>
        let r := commit (onStore (listEventsAfter svc.toServices eventRecordSafe runId
          reader.cursor limit)) reader.database
        match r.1 with
        | .ok page =>
            ({ database := r.2
               cursor := eventLog.cursorAfter reader.cursor page
               events := reader.events ++ page }, some (.ok page))
        | .error e => (reader, some (.error e))

section Readers

variable {svc : DatabaseServices} {eventRecordSafe : FleetEvent → Bool} {runId : String}

/-- The journals are dense, and the reader has read a first part of its run's journal. -/
structure Reader.Sound (runId : String) (reader : Reader) : Prop where
  dense : eventLog.Dense reader.database.store.runEvents
  read : eventLog.Read reader.database.store.runEvents (.inl runId) reader.cursor reader.events

/-- What a page does: it is refused and changes nothing, or it is the next page. -/
theorem page_cases (reader : Reader) (limit : ℤ) :
    let m := readerMachine svc eventRecordSafe runId
    m.next reader (.page limit) = reader
      ∨ ∃ page, page
          = eventLog.page reader.database.store.runEvents (.inl runId) reader.cursor limit.toNat
        ∧ m.out reader (.page limit) = some (.ok page)
        ∧ m.next reader (.page limit) = ⟨reader.database,
          eventLog.cursorAfter reader.cursor page, reader.events ++ page⟩ := by
  intro m
  rcases commit_cases (onStore (listEventsAfter svc.toServices eventRecordSafe runId
    reader.cursor limit)) reader.database with ⟨page, d, hok, hc⟩ | ⟨e, -, hc⟩
  · obtain ⟨s, hs, rfl⟩ := onStore_ok.mp hok
    obtain ⟨rfl, hpage⟩ := listEventsAfter_ok hs
    refine .inr ⟨page, hpage, ?_, ?_⟩
    · simp only [m, Machine.out, readerMachine, hc]
    · simp only [m, Machine.next, readerMachine, hc]
  · refine .inl ?_
    simp only [m, Machine.next, readerMachine, hc]

theorem Reader.Sound.next {reader : Reader} (h : reader.Sound runId) (input : ReaderInput) :
    ((readerMachine svc eventRecordSafe runId).next reader input).Sound runId := by
  cases input with
  | transaction input =>
      exact ⟨events_dense svc reader.database input h.dense,
        h.read.grow (events_isPrefix svc reader.database input)⟩
  | page limit =>
      rcases @page_cases svc eventRecordSafe runId reader limit with hsame | ⟨page, hpage, -, hnext⟩
      · rw [hsame]
        exact h
      · rw [hnext, hpage]
        exact ⟨h.dense, h.read.page h.dense limit.toNat⟩

theorem reader_isPrefix (reader : Reader) (input : ReaderInput) :
    let next := (readerMachine svc eventRecordSafe runId).next reader input
    reader.database.store.runEvents <+: next.database.store.runEvents := by
  intro next
  cases input with
  | transaction input => exact events_isPrefix svc reader.database input
  | page limit =>
      rcases @page_cases svc eventRecordSafe runId reader limit with hsame | ⟨page, -, -, hnext⟩
      · rw [show next = reader from hsame]
      · rw [show next = _ from hnext]

/-- A page of a readable run is answered, and is what follows the events read so far. -/
theorem Reader.Sound.page {reader : Reader} (h : reader.Sound runId) {limit : ℤ}
    (hlimit : 1 ≤ limit ∧ limit ≤ 100)
    (hreadable : Readable svc.toServices eventRecordSafe reader.database.store runId) :
    let m := readerMachine svc eventRecordSafe runId
    let journal := reader.database.store.eventsOf runId
    m.out reader (.page limit) = some (.ok ((journal.drop reader.cursor).take limit.toNat))
      ∧ (m.next reader (.page limit)).events = journal.take (reader.cursor + limit.toNat) := by
  intro m journal
  have hlist := listEventsAfter_eq h.dense hreadable reader.cursor hlimit
  have hok : onStore (listEventsAfter svc.toServices eventRecordSafe runId reader.cursor limit)
      reader.database = .ok ((journal.drop reader.cursor).take limit.toNat, reader.database) :=
    onStore_ok.mpr ⟨_, hlist, rfl⟩
  have hread := h.read.entries
  rw [← Store.eventsOf_eq] at hread
  constructor
  · simp only [m, Machine.out, readerMachine, commit, hok]
  · simp only [m, Machine.next, readerMachine, commit, hok]
    rw [hread, List.take_add]

end Readers

/-- The sample services for all stores, with constant digests. -/
def sampleDatabaseServices : DatabaseServices where
  toServices := sampleServices
  isoTimestamp := fun _ => "1970-01-01T00:00:00Z"
  decimalAdd := fun a _ => a
  decimalText := fun _ => "0"
  nodeSha256 := fun _ => zeroDigest
  taskSha256 := fun _ => zeroDigest
  runBindingSha256 := fun _ => zeroDigest
  recordSha256 := fun _ => zeroDigest
  snapshotSha256 := fun _ => zeroDigest

/-- Reads that refuse nothing. -/
def sampleDatabaseReads : DatabaseReads where
  budget :=
    { clean := true
      ownerTrusted := fun _ => true
      runtimeName := fun _ _ => none
      campaignRefusal := fun _ => none }
  graph :=
    { clean := true
      plan := fun _ => none
      graphTrusted := fun _ => true
      nodeTrusted := fun _ => true
      seedAdmitted := fun _ => true
      artifact := fun _ _ _ => true
      childPrepared := fun _ => true
      outputsIntact := fun _ _ => true
      candidateLease := fun _ _ => true }

/-- The sample run pauses for an approval. -/
def samplePause : ReaderInput :=
  .transaction {
    op := .store (.createApprovalAndPause (sampleIntent "intent_1" "key_1") oneDigest sampleRequest)
    reads := sampleDatabaseReads
    amb := sampleAmbient 0 "evt_1" }

end AgentFleet
