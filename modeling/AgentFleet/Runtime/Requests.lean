import AgentFleet.Lib.History
import AgentFleet.Runtime.Boundary

/-! # Model requests

`FleetSdkModel.request` is `_request`: it admits a request, reserves it with the accounting,
dispatches it through the gate and the usage receipt, records how it went, and inspects the
response.  What happens at the accounting, at the wire and at the accepted calls goes into a log of
events, in its order.

* `dispatch_events` and `request_cases` say which events a request can leave.
* `inspectItems_ok` says which calls an inspected response has. -/

namespace AgentFleet.Runtime

open Checks (refuse)

/-! ### Events -/

/-- What happens in an invocation. -/
inductive Event where
  /-- `reserve_request` has returned -/
  | reserved (reservation : ModelRequestReservation)
  /-- the wrapped model is called, with these settings -/
  | dispatched (number : ℕ) (maxTokens : ℤ) (timeout : ℚ)
  /-- the transport sends the request -/
  | sent
  /-- the wrapped model has returned, with the usage that was reported -/
  | responded (usage : UsageRecord)
  | recordedResponse (reservation : ModelRequestReservation) (usage : UsageRecord)
  | recordedUnknown (reservation : ModelRequestReservation)
  | accepted (call : PendingCall)
  | published (receipt : CompletedReceipt)
  | delivered (context : ToolContext) (arguments output : String)

namespace Event

/-- The event is one of the accounting. -/
def isAccounting : Event → Bool
  | reserved _ | recordedResponse _ _ | recordedUnknown _ => true
  | _ => false

/-- The event records how the reserved request went. -/
def Records (event : Event) (reservation : ModelRequestReservation) : Prop :=
  (∃ usage, event = recordedResponse reservation usage) ∨ event = recordedUnknown reservation

def isDispatch : Event → Bool
  | dispatched _ _ _ => true
  | _ => false

def isSend : Event → Bool
  | sent => true
  | _ => false

/-- The tokens that a response reports. -/
def tokens : Event → ℕ
  | responded usage => usage.totalTokens.getD 0
  | _ => 0

/-- The identifier of a call that is accepted. -/
def acceptedId? : Event → Option String
  | accepted call => some call.call.callId
  | _ => none

/-- The identifier of a call whose receipt is published. -/
def publishedId? : Event → Option String
  | published receipt => some receipt.callId
  | _ => none

/-- The identifier of a call that an output is delivered to. -/
def deliveredId? : Event → Option String
  | delivered context _ _ => some context.toolCallId
  | _ => none

end Event

/-- The identifiers of calls. -/
def callIds (calls : List PendingCall) : List String := calls.map fun item => item.call.callId

/-- The tokens reported in a log. -/
def reportedTokens (log : List Event) : ℕ := (log.map Event.tokens).sum

@[simp] theorem reportedTokens_append (log events : List Event) :
    reportedTokens (log ++ events) = reportedTokens log + reportedTokens events := by
  simp [reportedTokens]

@[simp] theorem reportedTokens_cons (event : Event) (events : List Event) :
    reportedTokens (event :: events) = event.tokens + reportedTokens events := rfl

@[simp] theorem reportedTokens_nil : reportedTokens [] = 0 := rfl

/-- The identifiers of the accepted calls. -/
def acceptedIds (log : List Event) : List String := log.filterMap Event.acceptedId?

/-- The identifiers of the calls with published receipts. -/
def publishedIds (log : List Event) : List String := log.filterMap Event.publishedId?

/-- The identifiers of the calls that an output was delivered to. -/
def deliveredIds (log : List Event) : List String := log.filterMap Event.deliveredId?

/-- How many requests were dispatched. -/
def dispatches (log : List Event) : ℕ := log.countP Event.isDispatch

/-- How many requests were sent. -/
def sends (log : List Event) : ℕ := log.countP Event.isSend

@[simp] theorem acceptedIds_append (log events : List Event) :
    acceptedIds (log ++ events) = acceptedIds log ++ acceptedIds events :=
  List.filterMap_append

@[simp] theorem publishedIds_append (log events : List Event) :
    publishedIds (log ++ events) = publishedIds log ++ publishedIds events :=
  List.filterMap_append

@[simp] theorem deliveredIds_append (log events : List Event) :
    deliveredIds (log ++ events) = deliveredIds log ++ deliveredIds events :=
  List.filterMap_append

@[simp] theorem dispatches_append (log events : List Event) :
    dispatches (log ++ events) = dispatches log + dispatches events :=
  List.countP_append

@[simp] theorem sends_append (log events : List Event) :
    sends (log ++ events) = sends log + sends events :=
  List.countP_append

section Accepted

variable (calls : List PendingCall)

/-- The events of accepted calls tell of nothing else. -/
@[simp] theorem acceptedIds_accepted : acceptedIds (calls.map .accepted) = callIds calls := by
  simp [acceptedIds, callIds, List.filterMap_map, Function.comp_def, Event.acceptedId?]

@[simp] theorem publishedIds_accepted : publishedIds (calls.map .accepted) = [] := by
  simp [publishedIds, List.filterMap_map, Function.comp_def, Event.publishedId?]

@[simp] theorem deliveredIds_accepted : deliveredIds (calls.map .accepted) = [] := by
  simp [deliveredIds, List.filterMap_map, Function.comp_def, Event.deliveredId?]

@[simp] theorem dispatches_accepted : dispatches (calls.map .accepted) = 0 := by
  simp [dispatches, Event.isDispatch]

@[simp] theorem sends_accepted : sends (calls.map .accepted) = 0 := by
  simp [sends, Event.isSend]

@[simp] theorem reportedTokens_accepted : reportedTokens (calls.map .accepted) = 0 := by
  simp [reportedTokens, Function.comp_def, Event.tokens]

@[simp] theorem accounting_accepted :
    (calls.map Event.accepted).filter Event.isAccounting = [] := by
  simp [List.filter_eq_nil_iff, Event.isAccounting]

end Accepted

/-! ### The accounting -/

/-- `RuntimeAccounting`, by what it answers after what has happened.  A response is recorded also
when `record_response` refuses to go on with it. -/
structure Accounting where
  /-- `reserve_request` of a sequence number and the requested tokens -/
  reserve : List Event → ℕ → ℤ → Except FleetError ModelRequestReservation
  /-- `remaining_active_seconds` -/
  remaining : List Event → Except Raised ℚ
  /-- what `record_response` raises after it has recorded the response -/
  refusal : List Event → ModelRequestReservation → UsageRecord → Option FleetError
  /-- a response whose tokens exhaust the budget ends the reservations -/
  exhausted : ∀ (log : List Event) (reservation : ModelRequestReservation) (usage : UsageRecord),
    refusal log reservation usage ≠ none → usage.totalTokens ≠ none →
      ∀ later, log <+: later → ∀ number tokens, ∃ error, reserve later number tokens = .error error

/-- What an invocation is configured with. -/
structure Setting where
  configuration : RuntimeConfiguration
  maxSteps : ℤ
  toolNames : List String
  terminalNames : List String
  strictToolNames : List String
  codec : JsonCodec
  accounting : Option Accounting

/-- `self.request_limit`. -/
def Setting.requestLimit (setting : Setting) : ℤ :=
  min setting.configuration.maxRequests setting.maxSteps

/-! ### The wrapped call -/

/-- What the wrapped model does at the wire. -/
inductive WireAction where
  | send
  | receive (response : HttpResponse)

/-- `ModelResponse`. -/
structure ModelResponse where
  output : List OutputItem

/-- How the call of the wrapped model goes. -/
structure WrappedCall where
  actions : List WireAction
  result : Except Raised ModelResponse
  /-- what leaving the timeout raises after the usage was consumed -/
  late : Option Raised := none
  /-- the redactor after the call -/
  redactor : SecretRegistry

/-- The gate and the usage receipt. -/
structure Wire where
  ticket : Option Ticket := none
  receipt : RawUsageReceipt := {}

namespace Wire

variable (codec : JsonCodec)

/-- One action.  The wrapped model may go on after a refusal. -/
def perform (wire : Wire) : WireAction → Wire × List Event
  | .send =>
      match gateConsume wire.ticket with
      | .ok ticket => ({ wire with ticket := ticket }, [.sent])
      | .error _ => (wire, [])
  | .receive response => ({ wire with receipt := (wire.receipt.observe codec response).2 }, [])

/-- All actions of a call. -/
def performAll (wire : Wire) : List WireAction → Wire × List Event
  | [] => (wire, [])
  | action :: actions =>
      let first := wire.perform codec action
      let rest := performAll first.1 actions
      (rest.1, first.2 ++ rest.2)

end Wire

/-- How the block around the wrapped call ends. -/
structure Dispatched where
  result : Except Raised (ModelResponse × UsageRecord)
  note : Option ResponsePolicyFailure
  wire : Wire
  events : List Event

/-- The block from `self.gate.request()` on, with the settings of the request. -/
def dispatch (codec : JsonCodec) (number : ℕ) (maxTokens : ℤ) (timeout : ℚ) (wire : Wire)
    (call : WrappedCall) : Dispatched :=
  match gateRequest wire.ticket with
  | .error raised => { result := .error raised, note := none, wire, events := [] }
  | .ok ticket =>
      match wire.receipt.request with
      | .error raised => { result := .error raised, note := none, wire, events := [] }
      | .ok receipt =>
          let entered : Wire := { ticket, receipt }
          let performed := entered.performAll codec call.actions
          let result := do
            let response ← call.result
            let consumed ← performed.1.receipt.consume
            match call.late with
            | some raised => throw raised
            | none => return (response, consumed.1)
          { result
            note := performed.1.receipt.note.join
            -- leaving the contexts puts the ticket back and empties the receipt
            wire := { ticket := wire.ticket, receipt := performed.1.receipt.leave }
            events := .dispatched number maxTokens timeout :: performed.2 }

/-! ### The inspection -/

/-- `FleetSDKModel`, by what it keeps from one request to the next. -/
structure FleetSdkModel where
  requests : ℕ := 0
  inputTokens : ℕ := 0
  outputTokens : ℕ := 0
  totalTokens : ℕ := 0
  pending : List PendingCall := []
  seenIds : List String := []

variable (setting : Setting) (redactor : SecretRegistry)

/-- The loop over the items of a response: the calls of it, and the identifiers seen. -/
def inspectItems (seenIds : List String) (calls : List PendingCall) :
    List OutputItem → Except Raised (List PendingCall) × List String
  | [] => (.ok calls, seenIds)
  | raw :: items =>
      if raw.type = some "function_call" then
        match PendingCall.fromRaw setting.codec redactor raw with
        | .error raised => (.error raised, seenIds)
        | .ok call =>
            if call.call.name ∉ setting.toolNames ∨ call.call.callId ∈ seenIds then
              (.error contractError, seenIds)
            else inspectItems (call.call.callId :: seenIds) (calls ++ [call]) items
      else if raw.type = some "message" then
        if raw.content.all (fun parts => parts.all fun part => part = some "output_text")
            ∧ raw.content.isSome then
          inspectItems seenIds calls items
        else (.error contractError, seenIds)
      else if raw.type = some "reasoning" then inspectItems seenIds calls items
      else (.error contractError, seenIds)

/-- The checks of `_inspect_response` on the calls together. -/
def checkCalls (calls : List PendingCall) : Except Raised Unit := do
  refuse (calls = []) contractError
  let terminal := calls.any fun item => item.call.name ∈ setting.terminalNames
  refuse (terminal ∧ calls.length ≠ 1) contractError
  refuse (¬ terminal ∧ setting.configuration.maxToolCalls < calls.length) limitError

/-- How deep the projection of the output goes: its items are models in a list. -/
def outputDepth (items : List OutputItem) : ℕ :=
  (items.map fun item => item.dump.height + 2).foldl max 0

/-- `_inspect_response`. -/
def inspectResponse (model : FleetSdkModel) (response : ModelResponse) :
    Except Raised Unit × FleetSdkModel :=
  -- the redactor does not look into the models themselves
  match checkedJson setting.codec redactor (outputDepth response.output) .null
      (.arr (response.output.map OutputItem.dump)) with
  | .error raised => (.error raised, model)
  | .ok _ =>
      match inspectItems setting redactor model.seenIds [] response.output with
      | (.error raised, seenIds) => (.error raised, { model with seenIds })
      | (.ok calls, seenIds) =>
          match checkCalls setting calls with
          | .error raised => (.error raised, { model with seenIds })
          | .ok () => (.ok (), { model with seenIds, pending := calls })

/-! ### The request -/

/-- A tool as it is offered to the model. -/
structure ToolView where
  isFunctionTool : Bool := true
  needsApproval : Bool := true
  strictJsonSchema : Bool
  name : String
  paramsJsonSchema : JsonValue
  description : String

/-- The arguments of `_request`. -/
structure ModelRequest where
  /-- `require_sdk_policy` and `initialize_no_export_tracing` -/
  sdkPolicy : Except Raised Unit := .ok ()
  systemInstructions : Option String
  input : JsonValue
  /-- the projection of the model settings -/
  settings : JsonValue
  tools : List ToolView
  hasOutputSchema : Bool := false
  hasHandoffs : Bool := false
  tracingDisabled : Bool := true
  previousResponseId : Option String := none
  conversationId : Option String := none
  hasPrompt : Bool := false
  redactor : SecretRegistry

/-- A tool that the request may offer. -/
def ToolView.admitted (tool : ToolView) : Prop :=
  tool.isFunctionTool ∧ tool.needsApproval
    ∧ tool.strictJsonSchema = decide (tool.name ∈ setting.strictToolNames)
deriving Decidable

/-- The envelope of a request, with the settings as the given value. -/
def ModelRequest.envelope (request : ModelRequest) (settings : JsonValue) : JsonValue := .obj [
  ("instructions", .ofOption request.systemInstructions),
  ("input", request.input),
  ("settings", settings),
  ("tools", .arr (request.tools.map fun tool => .obj [
    ("name", .str tool.name),
    ("schema", tool.paramsJsonSchema),
    ("description", .str tool.description)]))]

/-- The checks of `_request` before the reservation: the tokens that are left. -/
def admission (model : FleetSdkModel) (request : ModelRequest) : Except Raised ℤ := do
  request.sdkPolicy
  refuse (model.pending ≠ [] ∨ request.hasHandoffs ∨ request.hasOutputSchema
    ∨ request.previousResponseId ≠ none ∨ request.conversationId ≠ none ∨ request.hasPrompt
    ∨ ¬ request.tracingDisabled
    ∨ (∃ tool ∈ request.tools, ¬ tool.admitted setting)
    ∨ ¬ (request.tools.map ToolView.name ⊆ setting.toolNames
      ∧ setting.toolNames ⊆ request.tools.map ToolView.name)) contractError
  -- the settings are no model: neither the projection nor the redactor looks into them
  let seen := request.envelope .null
  let _ ← checkedJson setting.codec request.redactor seen.height seen
    (request.envelope request.settings)
  refuse (setting.requestLimit ≤ model.requests
    ∨ setting.configuration.maxTotalTokens ≤ model.totalTokens) limitError
  return setting.configuration.maxTotalTokens - model.totalTokens

/-- `reserve_request`, where there is an accounting. -/
def reserve (log : List Event) (number : ℕ) (allowance : ℤ) :
    Except Raised (Option ModelRequestReservation) :=
  match setting.accounting with
  | none => .ok none
  | some accounting =>
      match accounting.reserve log number allowance with
      | .error error => .error (.fleet error)
      | .ok reservation => .ok (some reservation)

/-- The seconds that are left. -/
def remainingSeconds (log : List Event) : Except Raised ℚ :=
  match setting.accounting with
  | none => .ok setting.configuration.timeoutSeconds
  | some accounting => do
      let remaining ← accounting.remaining log
      return min setting.configuration.timeoutSeconds remaining

/-- What `_request` raises for what the block has raised. -/
def mappedError (note : Option ResponsePolicyFailure) (raised : Raised) : Raised :=
  match safeError raised with
  | .error raised => raised
  | .ok mapped =>
      match note with
      | some failure =>
          if mapped.code = .providerFailed then .fleet { mapped with message := failure.value }
          else .fleet mapped
      | none => .fleet mapped

/-- What a request leaves behind. -/
structure Requested where
  result : Except Raised ModelResponse
  model : FleetSdkModel
  wire : Wire
  events : List Event

/-- What `record_response` raises. -/
def refusal? (log : List Event) (reservation : Option ModelRequestReservation)
    (usage : UsageRecord) : Option FleetError := do
  let accounting ← setting.accounting
  let reservation ← reservation
  accounting.refusal log reservation usage

/-- `_request` after the response was recorded. -/
def settle (model : FleetSdkModel) (response : ModelResponse) (usage : UsageRecord) :
    Except Raised ModelResponse × FleetSdkModel :=
  match usage.totalTokens with
  | none => (.error (responseError .usage), model)
  | some totalTokens =>
      let model := { model with
        inputTokens := model.inputTokens + usage.inputTokens.getD 0
        outputTokens := model.outputTokens + usage.outputTokens.getD 0
        totalTokens := model.totalTokens + totalTokens }
      if setting.configuration.maxTotalTokens < model.totalTokens then (.error limitError, model)
      else
        match inspectResponse setting redactor model response with
        | (.error raised, model) => (.error raised, model)
        | (.ok (), model) => (.ok response, model)

/-- The calls that a settled request accepts. -/
def acceptedCalls (settled : Except Raised ModelResponse × FleetSdkModel) : List PendingCall :=
  match settled.1 with
  | .ok _ => settled.2.pending
  | .error _ => []

/-- The block of `_request` after the reservation, with what it raises and records. -/
def sendRequest (log : List Event) (model : FleetSdkModel) (wire : Wire) (call : WrappedCall)
    (reservation : Option ModelRequestReservation) (maxTokens : ℤ) : Requested :=
  let unknown := (reservation.map Event.recordedUnknown).toList
  match remainingSeconds setting log with
  | .error raised => { result := .error (mappedError none raised), model, wire, events := unknown }
  | .ok remaining =>
      let sent := dispatch setting.codec model.requests maxTokens remaining wire call
      match sent.result with
      | .error raised =>
          { result := .error (mappedError sent.note raised), model, wire := sent.wire
            events := sent.events ++ unknown }
      | .ok (response, usage) =>
          let recorded := (reservation.map fun item => Event.recordedResponse item usage).toList
          let events := sent.events ++ Event.responded usage :: recorded
          match refusal? setting (log ++ events) reservation usage with
          | some error => { result := .error (.fleet error), model, wire := sent.wire, events }
          | none =>
              let settled := settle setting call.redactor model response usage
              { result := settled.1, model := settled.2, wire := sent.wire
                events := events ++ (acceptedCalls settled).map Event.accepted }

/-- `_request`. -/
def request (log : List Event) (model : FleetSdkModel) (wire : Wire) (request : ModelRequest)
    (call : WrappedCall) : Requested :=
  match admission setting model request with
  | .error raised => { result := .error raised, model, wire, events := [] }
  | .ok allowance =>
      let model := { model with requests := model.requests + 1 }
      match reserve setting log model.requests allowance with
      | .error raised => { result := .error raised, model, wire, events := [] }
      | .ok reservation =>
          let reserved := (reservation.map Event.reserved).toList
          let maxTokens := match reservation with
            | some item => min allowance item.tokenAllowance
            | none => allowance
          let sent := sendRequest setting (log ++ reserved) model wire call reservation maxTokens
          { sent with events := reserved ++ sent.events }

/-! ### What the wire does -/

/-- A list of at most one send. -/
def AtMostOneSend (events : List Event) : Prop := events = [] ∨ events = [.sent]

variable {wire : Wire} {ticket : Ticket} {seenIds seenIds' : List String}

theorem performAll_used (codec : JsonCodec) (hticket : wire.ticket = some ticket)
    (hused : ticket.used = true) (actions : List WireAction) :
    (wire.performAll codec actions).2 = [] := by
  induction actions generalizing wire with
  | nil => rfl
  | cons action actions ih =>
      cases action with
      | send =>
          have hsame : wire.perform codec .send = (wire, []) := by
            simp [Wire.perform, hticket, gateConsume, hused]
          simp only [Wire.performAll, hsame, List.nil_append]
          exact ih hticket
      | receive =>
          simp only [Wire.performAll, Wire.perform, List.nil_append]
          apply ih
          exact hticket

/-- The gate lets one send of a request through. -/
theorem performAll_sends (codec : JsonCodec) (hticket : wire.ticket = some ticket)
    (actions : List WireAction) : AtMostOneSend (wire.performAll codec actions).2 := by
  induction actions generalizing wire with
  | nil => exact .inl rfl
  | cons action actions ih =>
      cases action with
      | send =>
          by_cases hfree : ¬ ticket.active = true ∨ ticket.used = true
          · have hsame : wire.perform codec .send = (wire, []) := by
              simp only [Wire.perform, hticket, gateConsume, if_pos hfree]
            simp only [Wire.performAll, hsame, List.nil_append]
            exact ih hticket
          · have hsent : wire.perform codec .send
                = ({ wire with ticket := some { ticket with used := true } }, [.sent]) := by
              simp only [Wire.perform, hticket, gateConsume, if_neg hfree]
            simp only [Wire.performAll, hsent]
            right
            rw [performAll_used codec rfl rfl, List.append_nil]
      | receive =>
          simp only [Wire.performAll, Wire.perform, List.nil_append]
          apply ih
          exact hticket

/-- The block leaves the wire as it was before the first request. -/
theorem dispatch_wire (codec : JsonCodec) (number : ℕ) (maxTokens : ℤ) (timeout : ℚ)
    (call : WrappedCall) : (dispatch codec number maxTokens timeout {} call).wire = {} := rfl

theorem dispatch_events (codec : JsonCodec) (number : ℕ) (maxTokens : ℤ) (timeout : ℚ)
    (call : WrappedCall) :
    ∃ sends, AtMostOneSend sends
      ∧ (dispatch codec number maxTokens timeout {} call).events
        = .dispatched number maxTokens timeout :: sends :=
  ⟨_, performAll_sends codec rfl call.actions, rfl⟩

/-! ### What an inspected response has -/

/-- The calls of a response, next to the identifiers before and after it: they differ from one
another and from all before, and are all seen after. -/
structure Fresh (seenIds seenIds' : List String) (calls : List PendingCall) : Prop where
  seen_subset : seenIds ⊆ seenIds'
  nodup : (callIds calls).Nodup
  unseen : ∀ callId ∈ callIds calls, callId ∉ seenIds
  seen : ∀ callId ∈ callIds calls, callId ∈ seenIds'

theorem Fresh.none (h : seenIds ⊆ seenIds') :
    Fresh seenIds seenIds' [] where
  seen_subset := h
  nodup := List.nodup_nil
  unseen := by simp [callIds]
  seen := by simp [callIds]

theorem Fresh.cons {seenIds seenIds' : List String} {call : PendingCall}
    {calls : List PendingCall} (h : Fresh (call.call.callId :: seenIds) seenIds' calls)
    (hunseen : call.call.callId ∉ seenIds) : Fresh seenIds seenIds' (call :: calls) where
  seen_subset := fun callId hmem => h.seen_subset (List.mem_cons_of_mem _ hmem)
  nodup := by
    refine List.nodup_cons.mpr ⟨fun hmem => ?_, h.nodup⟩
    exact h.unseen _ hmem List.mem_cons_self
  unseen := by
    intro callId hmem hold
    rcases List.mem_cons.mp hmem with rfl | hrest
    · exact hunseen hold
    · exact h.unseen callId hrest (List.mem_cons_of_mem _ hold)
  seen := by
    intro callId hmem
    rcases List.mem_cons.mp hmem with rfl | hrest
    · exact h.seen_subset List.mem_cons_self
    · exact h.seen callId hrest

theorem inspectItems_subset (items : List OutputItem) (seenIds : List String)
    (calls : List PendingCall) :
    seenIds ⊆ (inspectItems setting redactor seenIds calls items).2 := by
  induction items generalizing seenIds calls with
  | nil => exact fun _ hmem => hmem
  | cons raw items ih =>
      intro callId hmem
      unfold inspectItems
      split
      · split
        · exact hmem
        · split
          · exact hmem
          · exact ih _ _ (List.mem_cons_of_mem _ hmem)
      · split
        · split
          · exact ih _ _ hmem
          · exact hmem
        · split
          · exact ih _ _ hmem
          · exact hmem

variable {setting redactor} in
theorem inspectItems_ok {items : List OutputItem} {calls found : List PendingCall}
    (h : inspectItems setting redactor seenIds calls items = (.ok found, seenIds')) :
    ∃ added, found = calls ++ added ∧ Fresh seenIds seenIds' added := by
  induction items generalizing seenIds calls with
  | nil =>
      cases h
      exact ⟨[], (List.append_nil _).symm, .none fun _ hmem => hmem⟩
  | cons raw items ih =>
      unfold inspectItems at h
      split at h
      · split at h
        · cases h
        · rename_i call hraw
          split at h
          · cases h
          · rename_i hfree
            obtain ⟨added, hfound, hfresh⟩ := ih h
            refine ⟨call :: added, ?_, hfresh.cons fun hmem => hfree (.inr hmem)⟩
            rw [hfound, List.append_assoc, List.singleton_append]
      · split at h
        · split at h
          · exact ih h
          · cases h
        · split at h
          · exact ih h
          · cases h

/-- How a model stands after a response with the accepted calls. -/
structure Inspected (model model' : FleetSdkModel) (calls : List PendingCall) : Prop where
  requests : model'.requests = model.requests
  fresh : Fresh model.seenIds model'.seenIds calls
  pending : model'.pending = calls ∨ calls = [] ∧ model'.pending = model.pending

theorem inspectResponse_spec (model : FleetSdkModel) (response : ModelResponse) :
    let inspected := inspectResponse setting redactor model response
    inspected.2.totalTokens = model.totalTokens
      ∧ Inspected model inspected.2 (match inspected.1 with
        | .ok () => inspected.2.pending
        | .error _ => []) := by
  have hsubset := inspectItems_subset setting redactor response.output model.seenIds []
  unfold inspectResponse
  split
  · exact ⟨rfl, rfl, .none fun _ hmem => hmem, .inr ⟨rfl, rfl⟩⟩
  · split
    · rename_i hitems
      rw [hitems] at hsubset
      exact ⟨rfl, rfl, .none hsubset, .inr ⟨rfl, rfl⟩⟩
    · rename_i calls seenIds hitems
      split
      · rw [hitems] at hsubset
        exact ⟨rfl, rfl, .none hsubset, .inr ⟨rfl, rfl⟩⟩
      · obtain ⟨added, hfound, hfresh⟩ := inspectItems_ok hitems
        rw [List.nil_append] at hfound
        rw [← hfound] at hfresh
        exact ⟨rfl, rfl, hfresh, .inl rfl⟩

/-! ### What a request does -/

theorem settle_spec (model : FleetSdkModel) (response : ModelResponse) (usage : UsageRecord) :
    let settled := settle setting redactor model response usage
    settled.2.totalTokens = model.totalTokens + usage.totalTokens.getD 0
      ∧ Inspected model settled.2 (acceptedCalls settled) := by
  unfold settle
  split
  · rename_i htokens
    rw [htokens]
    exact ⟨rfl, rfl, .none fun _ hmem => hmem, .inr ⟨rfl, rfl⟩⟩
  · rename_i totalTokens htokens
    rw [htokens]
    dsimp only
    split
    · exact ⟨rfl, rfl, .none fun _ hmem => hmem, .inr ⟨rfl, rfl⟩⟩
    · have hspec := inspectResponse_spec setting redactor
        { model with
          inputTokens := model.inputTokens + usage.inputTokens.getD 0
          outputTokens := model.outputTokens + usage.outputTokens.getD 0
          totalTokens := model.totalTokens + totalTokens } response
      dsimp only at hspec
      split
      · rename_i raised model' hinspected
        rw [hinspected] at hspec
        exact ⟨hspec.1, hspec.2.requests, hspec.2.fresh, hspec.2.pending⟩
      · rename_i model' hinspected
        rw [hinspected] at hspec
        exact ⟨hspec.1, hspec.2.requests, hspec.2.fresh, hspec.2.pending⟩

/-- No reservation will be granted any more. -/
def Exhausted (log : List Event) : Prop :=
  ∃ accounting ∈ setting.accounting, ∀ later, log <+: later →
    ∀ number tokens, ∃ error, accounting.reserve later number tokens = .error error

/-- What `sendRequest` can do with a reservation, one case for each of its exits. -/
inductive SendStep (log : List Event) (model : FleetSdkModel)
    (reservation : Option ModelRequestReservation) (maxTokens : ℤ) : Requested → Prop
  /-- the seconds are not known: nothing is dispatched -/
  | stopped (result : Except Raised ModelResponse) :
      SendStep log model reservation maxTokens
        { result, model, wire := {}
          events := (reservation.map Event.recordedUnknown).toList }
  /-- the block raises -/
  | failed (result : Except Raised ModelResponse) (timeout : ℚ) (sends : List Event)
      (hsends : AtMostOneSend sends) :
      SendStep log model reservation maxTokens
        { result, model, wire := {}
          events := .dispatched model.requests maxTokens timeout :: sends
            ++ (reservation.map Event.recordedUnknown).toList }
  /-- the response is recorded, and the accounting refuses to go on -/
  | refused (result : Except Raised ModelResponse) (timeout : ℚ) (sends : List Event)
      (hsends : AtMostOneSend sends) (usage : UsageRecord) (events : List Event)
      (hevents : events = .dispatched model.requests maxTokens timeout :: sends
        ++ .responded usage
        :: (reservation.map fun item => Event.recordedResponse item usage).toList)
      (hexhausted : usage.totalTokens ≠ none → Exhausted setting (log ++ events)) :
      SendStep log model reservation maxTokens { result, model, wire := {}, events }
  /-- the response is recorded and inspected -/
  | settled (result : Except Raised ModelResponse) (timeout : ℚ) (sends : List Event)
      (hsends : AtMostOneSend sends) (usage : UsageRecord) (model' : FleetSdkModel)
      (calls : List PendingCall)
      (htokens : model'.totalTokens = model.totalTokens + usage.totalTokens.getD 0)
      (hinspected : Inspected model model' calls) :
      SendStep log model reservation maxTokens
        { result, model := model', wire := {}
          events := .dispatched model.requests maxTokens timeout :: sends
            ++ .responded usage
            :: (reservation.map fun item => Event.recordedResponse item usage).toList
            ++ calls.map .accepted }

variable {setting}

theorem exhausted_of_refusal {log : List Event} {reservation : Option ModelRequestReservation}
    {usage : UsageRecord} {error : FleetError}
    (h : refusal? setting log reservation usage = some error) (htokens : usage.totalTokens ≠ none) :
    Exhausted setting log := by
  obtain ⟨accounting, haccounting, h⟩ := Option.bind_eq_some_iff.mp h
  obtain ⟨item, -, h⟩ := Option.bind_eq_some_iff.mp h
  refine ⟨accounting, haccounting, accounting.exhausted log item usage ?_ htokens⟩
  rw [h]
  exact Option.some_ne_none error

theorem sendRequest_cases (log : List Event) (model : FleetSdkModel) (call : WrappedCall)
    (reservation : Option ModelRequestReservation) (maxTokens : ℤ) :
    SendStep setting log model reservation maxTokens
      (sendRequest setting log model {} call reservation maxTokens) := by
  unfold sendRequest
  split
  · exact .stopped _
  · rename_i remaining _
    obtain ⟨sends, hsends, hevents⟩ :=
      dispatch_events setting.codec model.requests maxTokens remaining call
    have hwire := dispatch_wire setting.codec model.requests maxTokens remaining call
    dsimp only
    rw [hevents, hwire]
    split
    · exact .failed _ remaining sends hsends
    · split
      · rename_i hrefusal
        exact .refused _ remaining sends hsends _ _ rfl fun htokens =>
          exhausted_of_refusal hrefusal htokens
      · rename_i response usage _ _ _
        have hspec := settle_spec setting call.redactor model response usage
        exact .settled _ remaining sends hsends usage _ _ hspec.1 hspec.2

/-- The conditions under which a reservation is granted, and the limits of the request. -/
structure Granted (setting : Setting) (log : List Event) (model : FleetSdkModel)
    (reservation : Option ModelRequestReservation) (maxTokens : ℤ) : Prop where
  idle : model.pending = []
  within_limit : (model.requests : ℤ) < setting.requestLimit
  within_total : maxTokens ≤ setting.configuration.maxTotalTokens - model.totalTokens
  reserved : setting.accounting ≠ none →
    ∃ item, reservation = some item ∧ maxTokens ≤ item.tokenAllowance
  not_exhausted : ¬ Exhausted setting log

/-- What `request` can do, one case for each of its exits. -/
inductive RequestStep (setting : Setting) (log : List Event) (model : FleetSdkModel) :
    Requested → Prop
  /-- the request is refused, at its admission or at its reservation -/
  | refused (result : Except Raised ModelResponse) (requests : ℕ)
      (hle : model.requests ≤ requests) (hlimit : requests = model.requests
        ∨ (requests : ℤ) ≤ setting.requestLimit) :
      RequestStep setting log model
        { result, model := { model with requests }, wire := {}, events := [] }
  /-- the request is reserved -/
  | granted (reservation : Option ModelRequestReservation) (maxTokens : ℤ) (sent : Requested)
      (hgranted : Granted setting log model reservation maxTokens)
      (hsent : SendStep setting (log ++ (reservation.map Event.reserved).toList)
        { model with requests := model.requests + 1 } reservation maxTokens sent) :
      RequestStep setting log model
        { sent with events := (reservation.map Event.reserved).toList ++ sent.events }

theorem admission_ok {model : FleetSdkModel} {request : ModelRequest} {allowance : ℤ}
    (h : admission setting model request = .ok allowance) :
    model.pending = [] ∧ (model.requests : ℤ) < setting.requestLimit
      ∧ allowance = setting.configuration.maxTotalTokens - model.totalTokens := by
  unfold admission at h
  simp only [Checks.bind_ok, Checks.refuse_ok, Checks.return_ok] at h
  obtain ⟨-, -, -, hshape, -, -, -, hlimit, rfl⟩ := h
  rw [not_or, not_le] at hlimit
  exact ⟨not_not.mp fun hpending => hshape (.inl hpending), hlimit.1, rfl⟩

theorem request_cases (log : List Event) (model : FleetSdkModel) (asked : ModelRequest)
    (call : WrappedCall) :
    RequestStep setting log model (request setting log model {} asked call) := by
  unfold request
  split
  · exact .refused _ model.requests le_rfl (.inl rfl)
  · rename_i allowance hadmitted
    obtain ⟨hidle, hlimit, hallowance⟩ := admission_ok hadmitted
    dsimp only
    split
    · refine .refused _ (model.requests + 1) (Nat.le_succ _) (.inr ?_)
      push_cast
      omega
    · rename_i reservation hreserve
      refine .granted reservation _ _ ⟨hidle, hlimit, ?_, ?_, ?_⟩ (sendRequest_cases ..)
      · cases reservation with
        | none => exact hallowance.le
        | some => exact (min_le_left _ _).trans hallowance.le
      · intro haccounting
        obtain ⟨accounting, hsome⟩ := Option.ne_none_iff_exists'.mp haccounting
        unfold reserve at hreserve
        rw [hsome] at hreserve
        dsimp only at hreserve
        split at hreserve
        · cases hreserve
        · cases hreserve
          exact ⟨_, rfl, min_le_right _ _⟩
      · rintro ⟨accounting, hsome, hexhausted⟩
        obtain ⟨error, herror⟩ := hexhausted log List.prefix_rfl (model.requests + 1) allowance
        unfold reserve at hreserve
        rw [Option.mem_def.mp hsome] at hreserve
        dsimp only at hreserve
        rw [herror] at hreserve
        cases hreserve

end AgentFleet.Runtime
