import AgentFleet.Domain.Budgets
import AgentFleet.Domain.Canonical
import AgentFleet.Domain.ModelProfiles
import AgentFleet.Domain.Redaction
import AgentFleet.Lib.Checks

/-! # The boundary to the Agents SDK

What a model request passes through besides the accounting: the errors that come out of it, the
check of every text that crosses the boundary, the gate of the one physical send, the receipt of
the usage that the provider reported, the calls that a response asks for, and the completed
receipts that the SDK may read. -/

namespace AgentFleet.Runtime

open Checks (refuse)

/-! ### Errors -/

/-- `_ResponsePolicyFailure`. -/
inductive ResponsePolicyFailure where
  | sdkProcessing
  | model
  | status
  | error
  | json
  | usage
deriving DecidableEq, Repr

/-- The text of a `_ResponsePolicyFailure`. -/
def ResponsePolicyFailure.value : ResponsePolicyFailure → String
  | .sdkProcessing => "The Agents SDK rejected response processing."
  | .model => "The Agents SDK response model did not match the selected model."
  | .status => "The Agents SDK response status was not completed."
  | .error => "The Agents SDK response reported an error."
  | .json => "The Agents SDK response JSON was invalid."
  | .usage => "The Agents SDK response usage did not satisfy the trusted contract."

/-- `boundary_error`. -/
def boundaryError (code : ErrorCode) (category cause : String)
    (responseFailure : Option ResponsePolicyFailure) : FleetError where
  code := code
  message := (responseFailure.map ResponsePolicyFailure.value).getD
    "The bounded Agents SDK invocation did not satisfy its trusted contract."
  remediation := "Inspect the retained Fleet evidence; no automatic replay is authorized."
  details := [("runtime_diagnostic", .obj [
    ("category", .str category), ("cause_category", .str cause)])]

/-- What can be raised through the boundary. -/
inductive Raised where
  | fleet (error : FleetError)
  | timeout
  | maxTurns
  | validation
  | modelBehavior
  | user
  /-- an `OpenAIError`, with what `runtime_failure_details` says of it -/
  | openAI (details : JsonObject)
  /-- any other `Exception` -/
  | other
  | cancelled
  /-- a `BaseException` that is neither an `Exception` nor a cancellation -/
  | fatal

/-- `boundary_error()`, with its defaults. -/
def contractError : Raised :=
  .fleet (boundaryError .runtimeOutputInvalid "structured_output" "unknown" none)

/-- `boundary_error(ErrorCode.INTERNAL_ERROR)`. -/
def internalError : Raised :=
  .fleet (boundaryError .internalError "structured_output" "unknown" none)

/-- The refusal of what exceeds a limit of the invocation. -/
def limitError : Raised :=
  .fleet (boundaryError .runtimeBudgetExceeded "usage_limit" "unknown" none)

/-- The refusal of a response that breaks the response policy. -/
def responseError (failure : ResponsePolicyFailure) : Raised :=
  .fleet (boundaryError .providerFailed "provider_sdk" "response_policy" (some failure))

/-- `boundary_error(ErrorCode.PROVIDER_FAILED, cause="response_policy")`. -/
def receiptError : Raised :=
  .fleet (boundaryError .providerFailed "structured_output" "response_policy" none)

/-- `send_policy_error`. -/
def sendPolicyError : FleetError where
  code := .providerFailed
  message := "The provider request violated the pinned single-send transport policy."
  remediation := "Inspect the retained request accounting; no implicit retry is authorized."
  details := [("runtime_diagnostic", .obj [
    ("category", .str "provider_sdk"), ("cause_category", .str "request_policy")])]

/-- `terminal_schema_error`. -/
def terminalSchemaError : FleetError where
  code := .runtimeOutputInvalid
  message := "The bounded Agents SDK terminal output did not satisfy its trusted schema."
  remediation := "Inspect the retained Fleet evidence; no automatic replay is authorized."
  details := [("runtime_diagnostic", .obj [
    ("category", .str "output_schema"), ("cause_category", .str "schema_validation")])]

/-- `safe_error`; a cancellation and a fatal error are no `Exception`. -/
def safeError : Raised → Except Raised FleetError
  | .fleet error => .ok error
  | .timeout => .ok (boundaryError .runtimeTimeout "provider_timeout" "unknown" none)
  | .maxTurns => .ok (boundaryError .runtimeBudgetExceeded "usage_limit" "unknown" none)
  | .validation =>
      .ok (boundaryError .runtimeOutputInvalid "output_schema" "schema_validation" none)
  | .modelBehavior =>
      .ok (boundaryError .runtimeOutputInvalid "structured_output" "unknown" none)
  | .user => .ok (boundaryError .providerFailed "request_construction" "unknown" none)
  | .openAI details => .ok
      { code := .providerFailed
        message := "The explicitly selected OpenAI request failed."
        remediation :=
          "Inspect request accounting and provider availability before retrying explicitly."
        details := details }
  | .other => .ok (boundaryError .providerFailed "request_construction" "unknown" none)
  | .cancelled => .error .cancelled
  | .fatal => .error .fatal

/-! ### Texts that cross the boundary -/

/-- The `json` module as the boundary uses it. -/
structure JsonCodec where
  /-- `json.dumps(value, ensure_ascii=False, separators=(",", ":"))` -/
  dumps : JsonValue → String
  /-- `json.loads` of a text with `_unique_object` and `_reject_constant`; nothing for a
  `ValueError` -/
  loads : String → Except Raised (Option JsonValue)
  /-- the same for the bytes of a body -/
  loadsBody : Bytes → Except Raised (Option JsonValue)

/-- `_MAX_ENVELOPE_BYTES`. -/
def maxEnvelopeBytes : ℕ := 2 * 1024 * 1024

variable (codec : JsonCodec) (redactor : SecretRegistry)

/-- `checked_json` of a value that the projection goes `depth` levels into: `seen` is what the
redactor looks through of it, `projected` its projection. -/
def checkedJson (depth : ℕ) (seen projected : JsonValue) : Except Raised String := do
  refuse (80 < depth) limitError
  let dumped := codec.dumps projected.sorted
  refuse (maxEnvelopeBytes < encodedLength dumped) limitError
  refuse (redactor.containsSecretData seen ∨ holdsSecret redactor.snapshot dumped)
    (.fleet (boundaryError .commandDenied "structured_output" "unknown" none))
  return dumped

/-- `checked_json` of plain JSON. -/
def checkedValue (value : JsonValue) : Except Raised String :=
  checkedJson codec redactor value.height value value

/-! ### The single send -/

/-- `_Ticket`. -/
structure Ticket where
  active : Bool := true
  used : Bool := false
deriving DecidableEq, Repr

/-- `SingleSendGate.request`, entered: it holds the ticket of the context, which is put back to
what it was when the context is left. -/
def gateRequest : Option Ticket → Except Raised (Option Ticket)
  | some _ => .error (.fleet sendPolicyError)
  | none => .ok (some {})

/-- `SingleSendGate.consume`. -/
def gateConsume : Option Ticket → Except Raised (Option Ticket)
  | none => .error (.fleet sendPolicyError)
  | some ticket =>
      if ¬ ticket.active ∨ ticket.used then .error (.fleet sendPolicyError)
      else .ok (some { ticket with used := true })

/-! ### The reported usage -/

/-- A field of the usage when it is an integer within its bound. -/
def usageCount (raw : JsonValue) (name : String) (maximum : ℤ) : Option ℕ :=
  match raw with
  | .obj fields =>
      match JsonValue.field? fields name with
      | some (.int value) => if 0 ≤ value ∧ value ≤ maximum then some value.toNat else none
      | _ => none
  | _ => none

/-- `detail_fields`. -/
def detailFields : List (String × List String) := [
  ("input_tokens_details", ["cached_tokens", "cache_write_tokens"]),
  ("output_tokens_details", ["reasoning_tokens"])]

/-- The details of a usage have known fields only, which count tokens. -/
def detailsValid (fields : List String) : JsonValue → Bool
  | .obj details => details.all fun entry => entry.1 ∈ fields
      && match entry.2 with
        | .int value => 0 ≤ value && value ≤ 2000000000
        | _ => false
  | _ => false

/-- `shape_valid`. -/
def usageShapeValid : JsonValue → Bool
  | .obj raw =>
      (raw.all fun entry => entry.1 ∈ ["input_tokens", "output_tokens", "total_tokens"]
        ++ detailFields.map Prod.fst)
      && detailFields.all fun detail =>
        match JsonValue.field? raw detail.1 with
        | none => true
        | some details => detailsValid detail.2 details
  | _ => false

/-- `raw_usage_record`. -/
def rawUsageRecord (raw : JsonValue) : UsageRecord :=
  let inputTokens := usageCount raw "input_tokens" 2000000000
  let outputTokens := usageCount raw "output_tokens" 2000000000
  let totalTokens := usageCount raw "total_tokens" 4000000000
  { requests := some 1
    inputTokens := inputTokens
    outputTokens := outputTokens
    totalTokens :=
      if usageShapeValid raw = false
          ∨ inputTokens = none ∨ outputTokens = none ∨ totalTokens = none
          ∨ totalTokens.getD 0 < inputTokens.getD 0 + outputTokens.getD 0 then none
      else totalTokens }

/-- A response as the transport hands it over. -/
structure HttpResponse where
  /-- what `aread` gives -/
  content : Except Raised Bytes
  statusCode : ℤ

/-- `RawUsageReceipt`. -/
structure RawUsageReceipt where
  active : Bool := false
  observed : Bool := false
  usage : Option UsageRecord := none
  /-- the note of the request, and the failure in it -/
  note : Option (Option ResponsePolicyFailure) := none

namespace RawUsageReceipt

/-- `RawUsageReceipt.request`, entered. -/
def request (receipt : RawUsageReceipt) : Except Raised RawUsageReceipt :=
  if receipt.active ∨ receipt.observed ∨ receipt.usage.isSome ∨ receipt.note.isSome then
    .error internalError
  else .ok { receipt with active := true, note := some none }

/-- `RawUsageReceipt.request`, left. -/
def leave (_ : RawUsageReceipt) : RawUsageReceipt := {}

/-- What `observe` makes of a body that it could read. -/
def observeBody (receipt : RawUsageReceipt) (content : Bytes) (statusCode : ℤ) :
    Except Raised Unit × RawUsageReceipt :=
  if maxEnvelopeBytes < content.length then (.error limitError, receipt)
  else if ¬ (200 ≤ statusCode ∧ statusCode < 300) then (.ok (), receipt)
  else
    match codec.loadsBody content with
    | .error raised => (.error raised, receipt)
    | .ok payload =>
        let raw := match payload with
          | some (.obj fields) => (JsonValue.field? fields "usage").getD .null
          | _ => .null
        let usage := rawUsageRecord raw
        if usage.totalTokens = none then
          let failure : ResponsePolicyFailure := if payload.isNone then .json else .usage
          (.error (responseError failure),
            { receipt with usage := some usage, note := receipt.note.map fun _ => some failure })
        else (.ok (), { receipt with usage := some usage })

/-- `observe`. -/
def observe (receipt : RawUsageReceipt) (response : HttpResponse) :
    Except Raised Unit × RawUsageReceipt :=
  if ¬ receipt.active ∨ receipt.observed then (.error receiptError, receipt)
  else
    let receipt := { receipt with observed := true }
    match response.content with
    | .error raised => (.error raised, receipt)
    | .ok content => observeBody codec receipt content response.statusCode

/-- `consume`: the usage, and the receipt without it. -/
def consume (receipt : RawUsageReceipt) : Except Raised (UsageRecord × RawUsageReceipt) :=
  match receipt.usage with
  | some usage =>
      if receipt.active then .ok (usage, { receipt with usage := none }) else .error receiptError
  | none => .error receiptError

end RawUsageReceipt

/-! ### Calls -/

/-- `RuntimeToolCall`. -/
structure RuntimeToolCall where
  callId : String
  name : String
  arguments : JsonObject

/-- The pattern of a `RuntimeToolCallId`. -/
def isToolCallId (text : String) : Bool :=
  text.length ≤ 128
    && textMatches isAlphanumeric (fun c => isAlphanumeric c || c = '_' || c = '-') text

/-- The pattern of a `RuntimeToolName`. -/
def isToolName (text : String) : Bool :=
  text.length ≤ 64
    && textMatches (fun c => isAlphanumeric c && !isDigit c)
      (fun c => isAlphanumeric c || c = '_' || c = '-') text

mutual

/-- The texts and the keys that `_validate_bounded_json` admits. -/
def textsBounded : JsonValue → Bool
  | .str text => text.length ≤ 32768
  | .arr items => itemsBounded items
  | .obj fields => fieldsBounded fields
  | _ => true

/-- The items of a list. -/
def itemsBounded : List JsonValue → Bool
  | [] => true
  | item :: items => textsBounded item && itemsBounded items

/-- The entries of an object. -/
def fieldsBounded : JsonObject → Bool
  | [] => true
  | (key, child) :: fields =>
      (key ≠ "" && key.length ≤ 128 && key.toList.all fun c => 32 ≤ c.toNat)
        && textsBounded child && fieldsBounded fields

end

/-- `_validate_bounded_json` with its defaults. -/
def boundedJson (value : JsonValue) : Bool :=
  value.nodes ≤ 4096 && value.height ≤ 16 && textsBounded value
    && encodedLength (codec.dumps value) ≤ 65536

/-- What constructing a `RuntimeToolCall` checks. -/
def RuntimeToolCall.validates (call : RuntimeToolCall) : Bool :=
  isToolCallId call.callId && isToolName call.name && boundedJson codec (.obj call.arguments)

/-- An item of a response, by the attributes that are read off it: those that have to be texts
are missing when they are none. -/
structure OutputItem where
  type : Option String
  callId : Option String := none
  name : Option String := none
  arguments : Option String := none
  hasNamespace : Bool := false
  hasCaller : Bool := false
  /-- `async_` is neither `None` nor `False` -/
  isAsync : Bool := false
  /-- the types of the parts of a `content` that is a list -/
  content : Option (List (Option String)) := none
  /-- `model_dump(mode="json", by_alias=True)` -/
  dump : JsonValue

/-- `PendingCall`. -/
structure PendingCall where
  call : RuntimeToolCall
  argumentsJson : String

namespace PendingCall

/-- `PendingCall.from_raw`. -/
def fromRaw (raw : OutputItem) : Except Raised PendingCall := do
  refuse (raw.type ≠ some "function_call") contractError
  match raw.callId, raw.name, raw.arguments with
  | some callId, some name, some arguments =>
      refuse (raw.hasNamespace ∨ raw.hasCaller ∨ raw.isAsync) contractError
      let _ ← checkedValue codec redactor (.str arguments)
      match ← codec.loads arguments with
      | some (.obj parsed) =>
          let _ ← checkedValue codec redactor (.obj parsed)
          let call : RuntimeToolCall := { callId, name, arguments := parsed }
          refuse (call.validates codec = false) .validation
          return { call, argumentsJson := arguments }
      | _ => throw (.fleet
          (boundaryError .runtimeOutputInvalid "tool_arguments" "schema_validation" none))
  | _, _, _ => throw contractError

/-- `PendingCall.matches`. -/
def isMatch (expected : PendingCall) (raw : OutputItem) : Bool :=
  raw.type = some "function_call"
    && raw.callId = some expected.call.callId
    && raw.name = some expected.call.name
    && raw.arguments = some expected.argumentsJson
    && !raw.hasNamespace && !raw.hasCaller && !raw.isAsync

end PendingCall

/-! ### Completed receipts -/

/-- `CompletedReceipt`. -/
structure CompletedReceipt where
  callId : String
  name : String
  argumentsJson : String
  outputJson : String
deriving DecidableEq, Repr

/-- The context in which the SDK invokes a tool: `tool_call` is missing when it is none, and its
attributes when they are no texts. -/
structure ToolContext where
  toolCallId : String
  toolName : String
  toolArguments : String
  hasNamespace : Bool := false
  toolCall : Option (Option String × Option String × Option String)
deriving DecidableEq, Repr

/-- The receipt is the one that the context and the arguments ask for. -/
def CompletedReceipt.Answers (receipt : CompletedReceipt) (context : ToolContext)
    (arguments : String) : Prop :=
  context.toolCallId = receipt.callId
    ∧ context.toolName = receipt.name
    ∧ arguments = receipt.argumentsJson
    ∧ context.toolArguments = receipt.argumentsJson
    ∧ context.hasNamespace = false
    ∧ context.toolCall = some (some receipt.callId, some receipt.name, some receipt.argumentsJson)
deriving Decidable

/-- `PassiveResults`: the receipts, by their calls. -/
abbrev PassiveResults := List CompletedReceipt

namespace PassiveResults

/-- `publish`. -/
def publish (passive receipts : PassiveResults) : Except Raised PassiveResults :=
  if passive ≠ [] ∨ ¬ (receipts.map CompletedReceipt.callId).Nodup then .error internalError
  else .ok receipts

/-- `invoke`: the output, and the receipts without the one that was read. -/
def invoke (passive : PassiveResults) (context : ToolContext) (arguments : String) :
    Except Raised (CompletedReceipt × PassiveResults) :=
  match passive.find? fun receipt => receipt.callId = context.toolCallId with
  | none => .error internalError
  | some receipt =>
      if ¬ receipt.Answers context arguments then .error internalError
      else .ok (receipt, passive.filter fun other => other.callId ≠ receipt.callId)

/-- What is read answers the context, and its call is not in what is left. -/
theorem invoke_ok {passive left : PassiveResults} {context : ToolContext} {arguments : String}
    {receipt : CompletedReceipt} (h : invoke passive context arguments = .ok (receipt, left)) :
    receipt ∈ passive ∧ receipt.Answers context arguments
      ∧ left = passive.filter fun other => other.callId ≠ receipt.callId := by
  unfold invoke at h
  split at h
  · cases h
  · rename_i found hfind
    split at h
    · cases h
    · rename_i hanswers
      cases h
      exact ⟨List.mem_of_find?_eq_some hfind, not_not.mp hanswers, rfl⟩

theorem publish_ok {passive receipts published : PassiveResults}
    (h : publish passive receipts = .ok published) :
    passive = [] ∧ (receipts.map CompletedReceipt.callId).Nodup ∧ published = receipts := by
  unfold publish at h
  split at h
  · cases h
  · rename_i hfree
    rw [not_or, not_not, not_not] at hfree
    cases h
    exact ⟨hfree.1, hfree.2, rfl⟩

end PassiveResults

end AgentFleet.Runtime
