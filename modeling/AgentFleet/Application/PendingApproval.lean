import AgentFleet.Application.Gateway
import AgentFleet.Persistence.PendingApprovals

/-! # Orphaned approval requests

`execute` does not look at the run's status, and `create_approval_and_pause` lets a run that
already waits pause again.  A second call that needs an approval therefore takes over the
run's field, and the first request stays PENDING under a run that does not name it.

* `orphan_free_iff` says for which runs of the gateway every PENDING request is named in every
  state: those that start so and whose transactions meet `KeepsPending`.
* `orphaned` exhibits a run that orphans a request. -/

namespace AgentFleet

open Relational Transaction Transition

variable {svc : Services}

/-- The requests that the gateway creates are PENDING ones for their intents. -/
theorem performs_bound {g : Gateway} {action : GatewayAction} {input : StoreInput}
    (h : g.performs? svc action = some input) : input.op.Bound := by
  cases action with
  | advance call amb =>
      simp only [Gateway.performs?, Option.bind_eq_bind, Option.bind_eq_some_iff] at h
      obtain ⟨state, -, op, hop, hinput⟩ := h
      cases hinput
      cases state with
      | pausing =>
          cases hop
          exact ⟨rfl, rfl, rfl⟩
      | deciding | owning | executing | returned | raised | crashed => cases hop
      | _ =>
          cases hop
          trivial
  | environment op amb =>
      cases h
      cases op <;> trivial
  | _ => cases h

/-- The transaction that a step performs meets `KeepsPending`. -/
def PendingAllowed (svc : Services) (g : Gateway) (action : GatewayAction) : Prop :=
  ∀ input ∈ g.performs? svc action, KeepsPending svc g.store.records input.op

/-- A step keeps the property exactly when its transaction meets the condition. -/
theorem pendingAllowed_step (g : Gateway) (action : GatewayAction)
    (named : PendingNamed g.store.records) :
    PendingNamed ((gatewayMachine svc).next g action).store.records
      ↔ PendingAllowed svc g action := by
  rw [store_of_action, PendingAllowed]
  cases hp : g.performs? svc action with
  | none => simpa using named
  | some =>
      rw [Option.toList_some, Machine.run_cons, Machine.run_nil,
        pendingNamed_step named (performs_bound hp)]
      simp

/-- Every PENDING request is the one its run waits for, in every state of a run of the gateway,
exactly when that holds at the start and every transaction meets the condition. -/
theorem orphan_free_iff (svc : Services) (store : Store) (actions : List GatewayAction) :
    (gatewayMachine svc).Throughout (fun g => PendingNamed g.store.records)
        (Gateway.start store) actions
      ↔ PendingNamed store.records
        ∧ (gatewayMachine svc).Guarded (PendingAllowed svc) (Gateway.start store) actions :=
  Machine.throughout_iff_guarded pendingAllowed_step (Gateway.start store) actions

/-- A call under a key of its own that needs an approval, from its start to its pause. -/
def pauseFor (call : ℕ) (idempotencyKey freshId requestId : String) : List GatewayAction :=
  [.enter (writeRequest idempotencyKey) freshId, advanceCall call "evt_1",
    .decide call (decided .requireApproval), advanceCall call "evt_1",
    advanceCall call requestId]

/-- After a second call needed an approval, the first request is PENDING and the run waits for
the second. -/
theorem orphaned :
    PendingNamed sampleStore.records
      ∧ PendingNamed (afterActions (pauseFor 0 "key_1" "intent_1" "perm_1")).store.records
      ∧ (let r := (afterActions (pauseFor 0 "key_1" "intent_1" "perm_1"
            ++ pauseFor 1 "key_2" "intent_2" "perm_2")).store.records
        (r.approval? "perm_1").map ApprovalRequest.status = some .pending
          ∧ (r.runRow? "run_1").map (fun row => row.run.pendingApprovalId) = some (some "perm_2")
          ∧ ¬ PendingNamed r) := by
  refine ⟨by decide, by decide, by decide, by decide, by decide⟩

end AgentFleet
