import AgentFleet.Lib.Transition
import AgentFleet.Runtime.Requests

/-! # Invocations

The loop of `OpenAIAgentsRuntimeAdapter._run` around the SDK: the SDK makes requests and invokes
tools, which read completed receipts, until it is interrupted; a turn of the loop then checks the
interruptions against the pending calls, completes the calls and publishes their receipts.  The
machine leaves the order of requests, invocations and turns open, and goes on after what raises.

* `Accounted` is what holds in every state, `accounted_step` that every step keeps it.
* `request_accounting_complete` is what holds of the log of every run. -/

namespace AgentFleet.Runtime

open Checks (refuse)
open History Transition

/-! ### Turns -/

/-- An interruption of the SDK. -/
structure Interruption where
  rawItem : OutputItem
  hasNamespace : Bool := false
  toolName : Option String
  toolLookupKey : String × String
  ofAgent : Bool := true

/-- The interruption is for the pending call. -/
def Interruption.isFor (interruption : Interruption) (expected : PendingCall) : Bool :=
  expected.isMatch interruption.rawItem
    && !interruption.hasNamespace
    && interruption.toolName = some expected.call.name
    && interruption.toolLookupKey = ("bare", expected.call.name)
    && interruption.ofAgent

/-- A terminal output that its schema accepts. -/
structure TerminalOutput where
  /-- `model_dump(mode="json", by_alias=True)` -/
  dump : JsonValue
  /-- the role of a `SpecialistReport` -/
  reportRole : Option String := none
  /-- `validate_fleet_patch` of a `FleetPatch` -/
  patch : Except Raised Unit := .ok ()

/-- `RuntimeToolResult`. -/
structure RuntimeToolResult where
  callId : String
  name : String
  /-- `model_dump(mode="json", by_alias=True)` -/
  dump : JsonValue

/-- What a turn of the loop meets. -/
structure Turn where
  interruptions : List Interruption
  finalOutput : Option String
  redactor : SecretRegistry
  role : String
  /-- `model_validate_json` of the schema of a terminal; nothing for a `ValidationError` -/
  terminal : String → String → Option TerminalOutput
  /-- `services.tools.validate` -/
  validate : RuntimeToolCall → Except Raised Unit
  /-- `reserve_tool_batch` of the accounting, if there is one -/
  reserveToolBatch : ℕ → List String → Except FleetError Unit
  /-- `services.tools.execute`, and the validation of its result -/
  execute : RuntimeToolCall → Except Raised RuntimeToolResult

/-- An invocation under way. -/
structure Session where
  model : FleetSdkModel := {}
  wire : Wire := {}
  passive : PassiveResults := []
  toolCalls : ℕ := 0
  batchSequence : ℕ := 0
  terminalOutput : Option TerminalOutput := none
  log : List Event := []

variable (setting : Setting)

/-- The receipt of a terminal call. -/
def terminalReceipt (turn : Turn) (item : PendingCall) :
    Except Raised (TerminalOutput × CompletedReceipt) :=
  match turn.terminal item.call.name item.argumentsJson with
  | none => .error (.fleet terminalSchemaError)
  | some output => do
      refuse (∃ role ∈ output.reportRole, role ≠ turn.role) contractError
      output.patch
      let outputJson ← checkedJson setting.codec turn.redactor (output.dump.height + 1) .null
        output.dump
      return (output, ⟨item.call.callId, item.call.name, item.argumentsJson, outputJson⟩)

/-- One call of the loop over the pending calls. -/
def completeCall (turn : Turn) (item : PendingCall) : Except Raised CompletedReceipt := do
  let result ← turn.execute item.call
  refuse (result.callId ≠ item.call.callId ∨ result.name ≠ item.call.name) internalError
  let outputJson ← checkedJson setting.codec turn.redactor (result.dump.height + 1) .null
    result.dump
  return ⟨item.call.callId, item.call.name, item.argumentsJson, outputJson⟩

/-- The loop over the pending calls: the receipts, and the number of calls made. -/
def completeCalls (turn : Turn) :
    List PendingCall → ℕ → Except Raised (List CompletedReceipt) × ℕ
  | [], toolCalls => (.ok [], toolCalls)
  | item :: items, toolCalls =>
      match completeCall setting turn item with
      | .error raised => (.error raised, toolCalls + 1)
      | .ok receipt =>
          let rest := completeCalls turn items (toolCalls + 1)
          (do return receipt :: (← rest.1), rest.2)

/-- The checks before the pending calls are executed. -/
def admitCalls (session : Session) (turn : Turn) : Except Raised Unit := do
  let pending := session.model.pending
  refuse (setting.configuration.maxToolCalls < session.toolCalls + pending.length
    ∨ setting.requestLimit ≤ session.model.requests
    ∨ setting.configuration.maxTotalTokens ≤ session.model.totalTokens) limitError
  match pending.forM fun item => turn.validate item.call with
  | .error .validation => throw (.fleet
      (boundaryError .runtimeOutputInvalid "tool_arguments" "schema_validation" none))
  | .error raised => throw raised
  | .ok () => return ()

/-- The session with the number of the next batch, which the accounting asks for. -/
def nextBatch (session : Session) : Session :=
  { session with
    batchSequence := session.batchSequence + if setting.accounting.isSome then 1 else 0 }

/-- `reserve_tool_batch`, where there is an accounting. -/
def reserveBatch (session : Session) (turn : Turn) : Except Raised Unit :=
  if setting.accounting.isSome then
    match turn.reserveToolBatch session.batchSequence (callIds session.model.pending) with
    | .error error => .error (.fleet error)
    | .ok () => .ok ()
  else .ok ()

/-- The receipts of a turn, and the session with what was counted for them. -/
def turnReceipts (session : Session) (turn : Turn) :
    Except Raised (List CompletedReceipt) × Session :=
  match session.model.pending with
  | [] => (.error contractError, session)
  | first :: rest =>
      if first.call.name ∈ setting.terminalNames then
        match terminalReceipt setting turn first with
        | .error raised => (.error raised, session)
        | .ok (output, receipt) => (.ok [receipt], { session with terminalOutput := some output })
      else
        match admitCalls setting session turn with
        | .error raised => (.error raised, session)
        | .ok () =>
            match reserveBatch setting (nextBatch setting session) turn with
            | .error raised => (.error raised, nextBatch setting session)
            | .ok () =>
                let completed := completeCalls setting turn (first :: rest) session.toolCalls
                (completed.1, { nextBatch setting session with toolCalls := completed.2 })

/-- The result of an invocation. -/
structure InvocationResult where
  output : TerminalOutput
  requests : ℕ
  inputTokens : ℕ
  outputTokens : ℕ
  totalTokens : ℕ
  toolCalls : ℕ

/-- The end of the loop, once the terminal output was accepted. -/
def finish (session : Session) (turn : Turn) (output : TerminalOutput) :
    Except Raised InvocationResult := do
  refuse (turn.interruptions ≠ [] ∨ session.model.pending ≠ []) contractError
  let expected ← checkedJson setting.codec turn.redactor (output.dump.height + 1) .null output.dump
  refuse (turn.finalOutput ≠ some expected) contractError
  return {
    output
    requests := session.model.requests
    inputTokens := session.model.inputTokens
    outputTokens := session.model.outputTokens
    totalTokens := session.model.totalTokens
    toolCalls := session.toolCalls }

/-- A turn of the loop after `Runner.run`. -/
def takeTurn (session : Session) (turn : Turn) :
    Except Raised (Option InvocationResult) × Session × List Event :=
  if session.passive ≠ [] then (.error internalError, session, [])
  else
    match session.terminalOutput with
    | some output => (some <$> finish setting session turn output, session, [])
    | none =>
        let pending := session.model.pending
        if pending = [] ∨ turn.interruptions.length ≠ pending.length
            ∨ (pending.zip turn.interruptions).any (fun both => !both.2.isFor both.1) then
          (.error contractError, session, [])
        else
          match turnReceipts setting session turn with
          | (.error raised, session) => (.error raised, session, [])
          | (.ok receipts, session) =>
              match session.passive.publish receipts with
              | .error raised => (.error raised, session, [])
              | .ok passive =>
                  (.ok none,
                    { session with passive, model := { session.model with pending := [] } },
                    receipts.map .published)

/-! ### The machine -/

/-- What can happen next in an invocation. -/
inductive Action where
  /-- the SDK asks the model -/
  | request (asked : ModelRequest) (call : WrappedCall)
  /-- the SDK invokes a tool -/
  | invoke (context : ToolContext) (arguments : String)
  /-- the SDK is interrupted, or done -/
  | turn (turn : Turn)

/-- One step: the session without the new events, and the new events. -/
def happen (session : Session) : Action → Session × List Event
  | .request asked call =>
      let requested := request setting session.log session.model session.wire asked call
      ({ session with model := requested.model, wire := requested.wire }, requested.events)
  | .invoke context arguments =>
      match session.passive.invoke context arguments with
      | .error _ => (session, [])
      | .ok (receipt, passive) =>
          ({ session with passive }, [.delivered context arguments receipt.outputJson])
  | .turn turn => (takeTurn setting session turn).2

/-- Invocations, which show the events of every step. -/
def invocation : Machine Session Action (List Event) where
  step session action :=
    let happened := happen setting session action
    ({ happened.1 with log := session.log ++ happened.2 }, happened.2)

/-! ### What a turn does -/

/-- What a receipt and a call are matched by. -/
def CompletedReceipt.Completes (receipt : CompletedReceipt) (item : PendingCall) : Prop :=
  receipt.callId = item.call.callId ∧ receipt.name = item.call.name
    ∧ receipt.argumentsJson = item.argumentsJson

/-- The receipts complete calls in their order, each at most once. -/
inductive Completed : List CompletedReceipt → List PendingCall → Prop
  | nil (items : List PendingCall) : Completed [] items
  | cons {receipt : CompletedReceipt} {item : PendingCall} {receipts : List CompletedReceipt}
      {items : List PendingCall} (hcompletes : receipt.Completes item)
      (hrest : Completed receipts items) : Completed (receipt :: receipts) (item :: items)

variable {receipts : List CompletedReceipt} {receipt : CompletedReceipt} {turn : Turn}
  {item : PendingCall}

theorem Completed.exists_completes {items : List PendingCall} (h : Completed receipts items)
    (hmem : receipt ∈ receipts) : ∃ item ∈ items, receipt.Completes item := by
  induction h with
  | nil => simp at hmem
  | cons hcompletes hrest ih =>
      rcases List.mem_cons.mp hmem with rfl | hlater
      · exact ⟨_, List.mem_cons_self, hcompletes⟩
      · obtain ⟨item, hitem, hdone⟩ := ih hlater
        exact ⟨item, List.mem_cons_of_mem _ hitem, hdone⟩

theorem completeCall_ok (h : completeCall setting turn item = .ok receipt) :
    receipt.Completes item := by
  unfold completeCall at h
  simp only [Checks.bind_ok, Checks.refuse_ok, Checks.return_ok] at h
  obtain ⟨-, -, -, -, -, -, rfl⟩ := h
  exact ⟨rfl, rfl, rfl⟩

theorem completeCalls_ok {items : List PendingCall} {toolCalls : ℕ}
    (h : (completeCalls setting turn items toolCalls).1 = .ok receipts) :
    Completed receipts items := by
  induction items generalizing toolCalls receipts with
  | nil =>
      cases h
      exact .nil []
  | cons item items ih =>
      unfold completeCalls at h
      split at h
      · cases h
      · rename_i receipt hcall
        obtain ⟨rest, hrest, h⟩ := Checks.bind_ok.mp h
        cases h
        exact .cons (completeCall_ok setting hcall) (ih hrest)

theorem terminalReceipt_ok {output : TerminalOutput}
    (h : terminalReceipt setting turn item = .ok (output, receipt)) : receipt.Completes item := by
  unfold terminalReceipt at h
  split at h
  · cases h
  · simp only [Checks.bind_ok, Checks.refuse_ok, Checks.return_ok] at h
    obtain ⟨_, -, _, -, outputJson, -, hboth⟩ := h
    cases hboth
    exact ⟨rfl, rfl, rfl⟩

/-- The parts of a session that the completion of calls does not touch. -/
structure SameCalls (session session' : Session) : Prop where
  model : session'.model = session.model
  wire : session'.wire = session.wire
  passive : session'.passive = session.passive

theorem turnReceipts_spec (session : Session) (turn : Turn) :
    let taken := turnReceipts setting session turn
    SameCalls session taken.2
      ∧ ∀ receipts, taken.1 = .ok receipts → Completed receipts session.model.pending := by
  unfold turnReceipts
  split
  · exact ⟨⟨rfl, rfl, rfl⟩, fun _ h => by cases h⟩
  · rename_i first rest hpending
    rw [hpending]
    split
    · split
      · exact ⟨⟨rfl, rfl, rfl⟩, fun _ h => by cases h⟩
      · rename_i output receipt hreceipt
        refine ⟨⟨rfl, rfl, rfl⟩, fun receipts h => ?_⟩
        cases h
        exact .cons (terminalReceipt_ok setting hreceipt) (.nil rest)
    · split
      · exact ⟨⟨rfl, rfl, rfl⟩, fun _ h => by cases h⟩
      · split
        · exact ⟨⟨rfl, rfl, rfl⟩, fun _ h => by cases h⟩
        · exact ⟨⟨rfl, rfl, rfl⟩, fun receipts h => completeCalls_ok setting h⟩

/-- What a turn can do with the calls and the receipts. -/
inductive TurnStep (session : Session) : Session × List Event → Prop
  | kept (session' : Session) (hsame : SameCalls session session') :
      TurnStep session (session', [])
  | published (session' : Session) (receipts : List CompletedReceipt)
      (hwire : session'.wire = session.wire)
      (hmodel : session'.model = { session.model with pending := [] })
      (hempty : session.passive = []) (hpassive : session'.passive = receipts)
      (hnodup : (receipts.map CompletedReceipt.callId).Nodup)
      (hcompleted : Completed receipts session.model.pending) :
      TurnStep session (session', receipts.map .published)

theorem takeTurn_cases (session : Session) (turn : Turn) :
    TurnStep session (takeTurn setting session turn).2 := by
  have hsame : SameCalls session session := ⟨rfl, rfl, rfl⟩
  unfold takeTurn
  split
  · exact .kept session hsame
  · split
    · exact .kept session hsame
    · dsimp only
      split
      · exact .kept session hsame
      · have hspec := turnReceipts_spec setting session turn
        split
        · rename_i raised session' htaken
          rw [htaken] at hspec
          exact .kept session' hspec.1
        · rename_i receipts session' htaken
          rw [htaken] at hspec
          split
          · exact .kept session' hspec.1
          · rename_i passive hpublish
            obtain ⟨hempty, hnodup, rfl⟩ := PassiveResults.publish_ok hpublish
            refine .published _ _ hspec.1.wire ?_ (hspec.1.passive ▸ hempty) rfl hnodup
              (hspec.2 _ rfl)
            dsimp only
            rw [hspec.1.model]

end AgentFleet.Runtime
