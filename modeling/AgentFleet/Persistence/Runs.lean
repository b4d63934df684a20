import AgentFleet.Persistence.Store

/-! # Runs, tasks and agent instances

The transactions by which the workflow registers and moves runs: `createRun`, `saveRun`,
`saveTask` and `saveAgentInstance`, and `appendEvent`. -/

namespace AgentFleet

open Relational Transaction

variable (svc : Services) (amb : Ambient)

/-- The error of `_decode_state_record`. -/
def invalidStateRecord : StoreError :=
  .fleet {
    code := .recoveryRequired
    message := "A durable state record is invalid or unsafe to inspect."
    remediation := "Inspect the selected state safely before continuing its execution." }

/-- The first error of `_validated_run`. -/
def invalidRunIdentity : StoreError :=
  .fleet {
    code := .recoveryRequired
    message := "The durable Run identity is invalid."
    remediation := "Use an exact recorded Run identity." }

/-- The last error of `_validated_run`. -/
def runMismatch : StoreError :=
  .fleet {
    code := .recoveryRequired
    message := "The durable Run does not match its stored identity."
    remediation := "Inspect its immutable registration before resuming." }

/-- `_validated_run`. -/
def validatedRun (runId : String) : StoreTxn Run := do
  refuseIf (svc.redactor.containsSecretData (.str runId) = true) invalidRunIdentity
  let r ← getRecords
  let row ← expect (notFound "run" runId) (r.runRow? runId)
  refuseIf (svc.stateRecordSafe row.run = false) invalidStateRecord
  refuseIf (row.run.projectId ≠ row.projectId) runMismatch
  return row.run

/-- `create_run`, for a run that its project and its organization admit. -/
def createRun (run : Run) : StoreTxn Unit := do
  refuseIf (svc.stateRecordSafe run = false) invalidStateRecord
  let r ← getRecords
  let runs ← expect .integrity (r.runs.insert { run, projectId := run.projectId })
  setRecords { r with runs }
  insertEvent svc (eventForRun svc amb 0 run "run.created"
    (JsonValue.object [("goal", .str run.goal), ("status", .str run.status.value)]))

/-- `save_run`. -/
def saveRun (run : Run) (eventType : String) (payload : JsonObject) : StoreTxn Run := do
  refuseIf (svc.stateRecordSafe run = false) invalidStateRecord
  let current ← validatedRun svc run.runId
  refuseIf (¬ transitionAllowed current run.status run.stage)
    (.fleet (invalidTransition current run.status run.stage))
  updateRun run
  insertEvent svc (eventForRun svc amb 0 run eventType payload)
  return run

/-- `save_task`. -/
def saveTask (task : TaskSpec) : StoreTxn Unit := do
  let r ← getRecords
  let tasks ← expect .integrity (r.tasks.insert task)
  setRecords { r with tasks }
  let run ← getRun task.runId
  insertEvent svc (eventForRun svc amb 0 run "task.scoped"
    (JsonValue.object [
      ("task_id", .str task.taskId),
      ("acceptance_criteria", .int task.acceptanceCriteria.length)]) (some task.taskId))

/-- The row that the upsert of `save_agent_instance` leaves in place of `row`. -/
def AgentRow.written (agent : AgentInstance) (row : AgentRow) : AgentRow :=
  { row with agent := { agent with agentInstanceId := row.agent.agentInstanceId } }

theorem AgentRow.keepsKeys_written (agent : AgentInstance) :
    KeepsKeys (AgentRow.written agent) := fun _ _ h => h

/-- `agent_instances` after the upsert of `save_agent_instance`. -/
def upsertAgent (agents : Table AgentRow) (agent : AgentInstance) : Table AgentRow :=
  match agents.insert { agent, runId := agent.runId } with
  | some inserted => inserted
  | none => agents.update (fun row => row.agent.agentInstanceId = agent.agentInstanceId)
      (AgentRow.written agent) (AgentRow.keepsKeys_written agent)

/-- `save_agent_instance`; its run and its task must be stored. -/
def saveAgentInstance (agent : AgentInstance) : StoreTxn Unit := do
  let r ← getRecords
  refuseIf (r.runRow? agent.runId = none
    ∨ (agent.taskId.bind fun taskId => r.task? taskId) = none) .integrity
  setRecords { r with agentInstances := upsertAgent r.agentInstances agent }

/-- `append_event`. -/
def appendEvent (event : FleetEvent) : StoreTxn Unit :=
  insertEvent svc event

/-! ### What the transactions do -/

section Committed

variable {svc amb} {s t : Store}

theorem createRun_ok {run : Run} {u : Unit} (h : createRun svc amb run s = .ok (u, t)) :
    ∃ runs, s.records.runs.insert { run, projectId := run.projectId } = some runs
      ∧ t.records = { s.records with runs } := by
  simp only [createRun, bind_ok, refuseIf_ok, getRecords_ok, expect_ok, setRecords_ok,
    insertEvent_ok] at h
  obtain ⟨_, _, ⟨-, rfl⟩, _, _, ⟨rfl, rfl⟩, runs, _, ⟨hruns, rfl⟩, _, _, rfl, rfl⟩ := h
  exact ⟨runs, hruns, rfl⟩

/-- A saved run replaces the row of a run from which its state is an allowed transition. -/
theorem saveRun_ok {run saved : Run} {eventType : String} {payload : JsonObject}
    (h : saveRun svc amb run eventType payload s = .ok (saved, t)) :
    ∃ row, s.records.runRow? run.runId = some row
      ∧ transitionAllowed row.run run.status run.stage
      ∧ t.records = s.records.withRun run := by
  simp only [saveRun, validatedRun, bind_ok, refuseIf_ok, getRecords_ok, expect_ok, pure_ok,
    updateRun_ok, insertEvent_ok, not_not] at h
  obtain ⟨_, _, ⟨-, rfl⟩, _, _, ⟨_, _, ⟨-, rfl⟩, _, _, ⟨rfl, rfl⟩, row, _, ⟨hrow, rfl⟩, _, _,
    ⟨-, rfl⟩, _, _, ⟨-, rfl⟩, rfl, rfl⟩, _, _, ⟨hallowed, rfl⟩, _, _, rfl, _, _, rfl, rfl,
    rfl⟩ := h
  exact ⟨row, hrow, hallowed, rfl⟩

theorem saveTask_ok {task : TaskSpec} {u : Unit} (h : saveTask svc amb task s = .ok (u, t)) :
    ∃ tasks, t.records = { s.records with tasks } := by
  simp only [saveTask, bind_ok, getRecords_ok, expect_ok, setRecords_ok, getRun_ok,
    insertEvent_ok] at h
  obtain ⟨_, _, ⟨rfl, rfl⟩, tasks, _, ⟨-, rfl⟩, _, _, rfl, _, _, ⟨-, rfl⟩, rfl⟩ := h
  exact ⟨tasks, rfl⟩

theorem saveAgentInstance_ok {agent : AgentInstance} {u : Unit}
    (h : saveAgentInstance agent s = .ok (u, t)) :
    t.records = { s.records with
      agentInstances := upsertAgent s.records.agentInstances agent } := by
  simp only [saveAgentInstance, bind_ok, getRecords_ok, refuseIf_ok, setRecords_ok] at h
  obtain ⟨_, _, ⟨rfl, rfl⟩, _, _, ⟨-, rfl⟩, rfl⟩ := h
  rfl

end Committed

end AgentFleet
