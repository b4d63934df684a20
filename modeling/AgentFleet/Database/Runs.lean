import AgentFleet.Database.Machine

/-! # Runs follow the workflow

Every writer of the table of runs either asks `validate_transition` or cancels a run that has
not ended, which `validate_transition` allows as well.

* `stateFollows` is what `validate_transition` allows of two states.
* `RunFollows` relates a run's row to a later one by a path of such states.
* `runsFollow_move` says that no helper of a transaction leaves the path. -/

namespace AgentFleet

open Relational Relational.Table Transition

/-! ### Paths through the workflow -/

/-- A run's place in the workflow. -/
def Run.state (run : Run) : WorkflowState := (run.status, run.stage)

/-- `validate_transition` lets the second state follow the first. -/
def stateFollows (a b : WorkflowState) : Prop :=
  a = b ∨ (isTerminal a.1 = false ∧ isFailureExit b.1 = true) ∨ b ∈ allowed a

theorem transitionAllowed_iff {run : Run} {status : RunStatus} {stage : Option WorkflowStage} :
    transitionAllowed run status stage ↔ stateFollows run.state (status, stage) := Iff.rfl

variable {a b : WorkflowState} {r r' : Records} {svc : DatabaseServices} {d d' : Database}

/-- No edge of the workflow leaves a terminal status. -/
theorem allowed_terminal (h : isTerminal a.1 = true) : allowed a = [] := by
  obtain ⟨status, stage⟩ := a
  cases status with
  | completed | failed | cancelled | rejected | abandoned => rfl
  | _ => exact absurd h Bool.false_ne_true

theorem stateFollows_terminal (ha : isTerminal a.1 = true) (h : stateFollows a b) : a = b := by
  rcases h with heq | ⟨hopen, -⟩ | hedge
  · exact heq
  · rw [ha] at hopen
    exact absurd hopen.symm Bool.false_ne_true
  · rw [allowed_terminal ha] at hedge
    exact absurd hedge List.not_mem_nil

/-- A chain of states each of which may follow the one before. -/
abbrev WorkflowPath : WorkflowState → WorkflowState → Prop := Relation.ReflTransGen stateFollows

theorem WorkflowPath.terminal (ha : isTerminal a.1 = true) (h : WorkflowPath a b) : a = b := by
  induction h with
  | refl => rfl
  | tail _ hlast ih =>
      subst ih
      exact stateFollows_terminal ha hlast

/-! ### Rows of runs -/

/-- A later version of a run's row: its state is on a path from the earlier one, and a status
that has ended stays. -/
structure RunFollows (a b : RunRow) : Prop where
  runId : b.run.runId = a.run.runId
  path : WorkflowPath a.run.state b.run.state
  ended : isTerminal a.run.status = true → b.run.status = a.run.status

/-- Every run is still there in a later version. -/
abbrev RunsFollow (r r' : Records) : Prop := Carries RunFollows r.runs r'.runs

theorem RunFollows.of_path {a b : RunRow} (hid : b.run.runId = a.run.runId)
    (h : WorkflowPath a.run.state b.run.state) : RunFollows a b := by
  refine ⟨hid, h, fun hterminal => ?_⟩
  have hstate := WorkflowPath.terminal (a := a.run.state) hterminal h
  exact (congrArg Prod.fst hstate).symm

theorem RunFollows.refl (a : RunRow) : RunFollows a a := .of_path rfl .refl

theorem RunFollows.trans (a b c : RunRow) (h : RunFollows a b) (h' : RunFollows b c) :
    RunFollows a c := .of_path (h'.runId.trans h.runId) (h.path.trans h'.path)

theorem RunsFollow.refl (r : Records) : RunsFollow r r := Carries.refl RunFollows.refl r.runs

theorem RunsFollow.of_eq (h : r'.runs = r.runs) : RunsFollow r r' := by
  unfold RunsFollow
  rw [h]
  exact .refl RunFollows.refl r.runs

/-- A run that `validate_transition` accepted is written over its row. -/
theorem runsFollow_withRun {r₁ : Records} {run : Run} {row : RunRow}
    (found : r.runRow? run.runId = some row)
    (hallowed : transitionAllowed row.run run.status run.stage) (hruns : r₁.runs = r.runs) :
    RunsFollow r (r₁.withRun run) := by
  obtain ⟨hrow, hid⟩ := Records.runRow?_mem found
  unfold RunsFollow Records.withRun
  dsimp only
  rw [hruns]
  refine .update RunFollows.refl (RunRow.keepsKeys_written run) fun a ha hsame => ?_
  have heq : a = row := eq_of_clash ha hrow ((of_decide_eq_true hsame).trans hid.symm)
  subst heq
  exact .of_path rfl (.single (transitionAllowed_iff.mp hallowed))

/-! ### Transactions -/

theorem Paused.runsFollow {intent : ToolIntent} {intentHash : Sha256} {request : ApprovalRequest}
    (h : Paused r intent intentHash request r') : RunsFollow r r' := by
  obtain ⟨row, r₁, approvals, hrow, hallowed, ⟨T, -, rfl⟩, -, -, rfl⟩ := h.written
  refine runsFollow_withRun ?_ hallowed rfl
  have hid := (Records.runRow?_mem hrow).2
  rw [hid]
  exact hrow

theorem Effect.runsFollow {svc : Services} {amb : Ambient} {op : StoreOp}
    (h : Effect svc amb op r r') : RunsFollow r r' := by
  cases h with
  | unchanged => exact .refl r
  | reserved h =>
      obtain ⟨T, -, rfl⟩ := h
      exact .of_eq rfl
  | dispatched h =>
      obtain ⟨_, T, -, rfl⟩ := h.claimed
      exact .of_eq rfl
  | paused h => exact h.runsFollow
  | resolved _ h => cases h <;> exact .of_eq rfl
  | consumed h =>
      obtain ⟨_, _, row, _, -, -, -, -, -, -, -, -, hrange, rfl⟩ := h.spent
      exact .of_eq rfl
  | revoked => exact .of_eq rfl
  | reused _ h =>
      obtain ⟨row, -, -, -, -, -, hrange, T, -, rfl⟩ := h.spent
      exact .of_eq rfl
  | receipted _ h =>
      obtain ⟨receipt, r₁, G, -, -, -, -, -, ⟨T, -, rfl⟩, -, rfl⟩ := h.written
      exact .of_eq rfl
  | completed | denied => exact .of_eq rfl
  | runCreated h => exact .insert RunFollows.refl h
  | runSaved found hallowed => exact runsFollow_withRun found hallowed rfl
  | taskSaved | agentSaved => exact .of_eq rfl

/-- The cancellation of a graph ends only children that have not ended. -/
theorem runsFollow_cancelling (r : Records) (records : List GraphNodeRecord) (now : Timestamp) :
    RunsFollow r (r.cancellingRuns records now) := by
  unfold RunsFollow Records.cancellingRuns
  dsimp only
  refine .update RunFollows.refl (RunRow.keepsKeys_cancelled now) fun a _ hends => ?_
  unfold RunRow.endsWith at hends
  rw [Bool.and_eq_true, Bool.not_eq_true'] at hends
  have hfollows : stateFollows a.run.state (a.cancelled now).run.state :=
    .inr (.inl ⟨hends.2, rfl⟩)
  exact .of_path rfl (.single hfollows)

theorem GraphEffect.runsFollow {svc : GraphServices} {T T' : GraphTables}
    (h : GraphEffect svc r T r' T') : RunsFollow r r' := by
  cases h with
  | bound hregistered =>
      obtain ⟨runs, tasks, rfl, hkept⟩ := hregistered.inserted
      exact fun row hrow => ⟨row, hkept row hrow, .refl row⟩
  | cancelled hcancelled =>
      rw [hcancelled.runs]
      exact runsFollow_cancelling r _ _
  | _ => exact .refl r

theorem runsFollow_move (h : DatabaseMove svc d d') :
    RunsFollow d.store.records d'.store.records := by
  cases h with
  | store heffect => exact heffect.runsFollow
  | ledger hrecords => exact .of_eq (congrArg Records.runs hrecords)
  | graph _ heffect => exact heffect.runsFollow

theorem runsFollow_moves (h : DatabaseMoves svc d d') :
    RunsFollow d.store.records d'.store.records := by
  induction h with
  | refl => exact .refl _
  | tail _ hmove ih => exact Carries.trans RunFollows.trans ih (runsFollow_move hmove)

/-- Between any two committed databases every run keeps its row, its state moves along a path
that `validate_transition` allows, and a status that has ended never changes. -/
theorem terminal_runs_absorbing (svc : DatabaseServices) (d : Database)
    (inputs : List DatabaseInput) :
    RunsFollow d.store.records ((databaseMachine svc).run d inputs).store.records :=
  (databaseMoves svc).rel (I := fun _ => True)
    (Q := fun d d' => RunsFollow d.store.records d'.store.records) (fun _ _ _ _ => trivial)
    (fun _ => .refl _) (fun _ _ _ h h' => Carries.trans RunFollows.trans h h')
    (fun _ _ hmove _ => runsFollow_move hmove) trivial inputs

end AgentFleet
