import AgentFleet.Domain.Models

/-! # Workflow transition policy

`transitionAllowed` is the test of `validate_transition`: the same state again, an exit to a
failure status from a status that is not terminal, or an edge of `allowedTable`. -/

namespace AgentFleet

/-- A run's place in the workflow. -/
abbrev WorkflowState := RunStatus × Option WorkflowStage

/-- `_ALLOWED`. -/
def allowedTable : List (WorkflowState × List WorkflowState) := [
  ((.created, none), [(.running, some .intake)]),
  ((.running, some .intake), [(.running, some .scoping)]),
  ((.running, some .scoping), [
    (.pausedForPlan, some .scoping),
    (.running, some .workspacePreparation),
    (.running, some .presenting)]),
  ((.pausedForPlan, some .scoping), [(.running, some .scoping)]),
  ((.running, some .workspacePreparation), [(.running, some .implementing)]),
  ((.running, some .implementing), [
    (.waitingForChildren, some .implementing),
    (.pausedForApproval, some .implementing),
    (.running, some .verifying),
    (.running, some .presenting)]),
  ((.waitingForChildren, some .implementing), [(.running, some .implementing)]),
  ((.pausedForApproval, some .implementing), [(.running, some .implementing)]),
  ((.running, some .verifying), [
    (.pausedForApproval, some .verifying),
    (.running, some .repairing),
    (.running, some .presenting),
    (.rejected, some .verifying)]),
  ((.pausedForApproval, some .verifying), [(.running, some .verifying)]),
  ((.running, some .repairing), [
    (.pausedForApproval, some .repairing),
    (.running, some .verifying)]),
  ((.pausedForApproval, some .repairing), [(.running, some .repairing)]),
  ((.running, some .presenting), [
    (.readyForReview, some .presenting),
    (.completed, some .presenting)]),
  ((.readyForReview, some .presenting), [(.applying, some .applying)]),
  ((.applying, some .applying), [(.running, some .cleanup)]),
  ((.running, some .cleanup), [(.completed, some .cleanup)])]

/-- `_ALLOWED.get(state, frozenset())`. -/
def allowed (state : WorkflowState) : List WorkflowState :=
  (allowedTable.lookup state).getD []

/-- `is_terminal`. -/
def isTerminal : RunStatus → Bool
  | .completed | .failed | .cancelled | .rejected | .abandoned => true
  | _ => false

/-- The statuses any run that is not terminal may end in. -/
def isFailureExit : RunStatus → Bool
  | .failed | .cancelled | .rejected | .abandoned => true
  | _ => false

/-- The cases in which `validate_transition` returns. -/
def transitionAllowed (current : Run) (targetStatus : RunStatus)
    (targetStage : Option WorkflowStage) : Prop :=
  (current.status, current.stage) = (targetStatus, targetStage)
    ∨ (isTerminal current.status = false ∧ isFailureExit targetStatus = true)
    ∨ (targetStatus, targetStage) ∈ allowed (current.status, current.stage)
deriving Decidable

/-- How a stage prints in a message. -/
def stageText : Option WorkflowStage → String
  | some stage => stage.value
  | none => "None"

/-- The error of `validate_transition`. -/
def invalidTransition (current : Run) (targetStatus : RunStatus)
    (targetStage : Option WorkflowStage) : FleetError where
  code := .workflowInvalidTransition
  message := "Invalid workflow transition " ++ current.status.value ++ "/"
    ++ stageText current.stage ++ " -> " ++ targetStatus.value ++ "/" ++ stageText targetStage
    ++ "."
  remediation := "Inspect the run event history; do not mutate workflow state manually."
  details := JsonValue.object [
    ("current_status", .str current.status.value),
    ("current_stage", .ofOption (current.stage.map WorkflowStage.value)),
    ("target_status", .str targetStatus.value),
    ("target_stage", .ofOption (targetStage.map WorkflowStage.value))]

end AgentFleet
