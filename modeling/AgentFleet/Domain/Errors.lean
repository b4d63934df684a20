import AgentFleet.Domain.Json

/-! # Typed, stable errors

A `FleetError` is a user-actionable failure with a stable machine code.  A store transaction
can also be stopped by SQLite (`integrity`: a uniqueness or CHECK constraint) or by the
record models (`validation`). -/

namespace AgentFleet

/-- `ErrorCode`. -/
inductive ErrorCode where
  | configInvalid
  | projectNotGit
  | projectNotInitialized
  | projectDirty
  | runtimeUnavailable
  | runtimeCapabilityMissing
  | runtimeOutputInvalid
  | runtimeTimeout
  | runtimeRetryExhausted
  | runtimeBudgetExceeded
  | providerUnsupported
  | providerFailed
  | credentialInvalid
  | credentialMissing
  | sandboxUnavailable
  | sandboxCapabilityMissing
  | sandboxCreationFailed
  | sandboxInspectionFailed
  | sandboxExecutionFailed
  | sandboxTimeout
  | sandboxOutputLimit
  | sandboxCleanupFailed
  | sandboxRemoteDaemonDenied
  | sandboxImageUnavailable
  | unsafeLocalConfirmationRequired
  | commandNotReviewed
  | commandOutcomeAmbiguous
  | bootstrapCanaryFailed
  | bootstrapReportInvalid
  | bootstrapTargetDrifted
  | commandDenied
  | approvalRequired
  | approvalDenied
  | approvalInvalid
  | pathOutsideScope
  | workflowInvalidTransition
  | patchTargetDiverged
  | artifactIntegrityFailed
  | stateSchemaIncompatible
  | stateUnavailable
  | resourceNotFound
  | recoveryRequired
  | internalError
deriving DecidableEq, Repr

/-- The text of an `ErrorCode`. -/
def ErrorCode.value : ErrorCode → String
  | .configInvalid => "CONFIG_INVALID"
  | .projectNotGit => "PROJECT_NOT_GIT"
  | .projectNotInitialized => "PROJECT_NOT_INITIALIZED"
  | .projectDirty => "PROJECT_DIRTY"
  | .runtimeUnavailable => "RUNTIME_UNAVAILABLE"
  | .runtimeCapabilityMissing => "RUNTIME_CAPABILITY_MISSING"
  | .runtimeOutputInvalid => "RUNTIME_OUTPUT_INVALID"
  | .runtimeTimeout => "RUNTIME_TIMEOUT"
  | .runtimeRetryExhausted => "RUNTIME_RETRY_EXHAUSTED"
  | .runtimeBudgetExceeded => "RUNTIME_BUDGET_EXCEEDED"
  | .providerUnsupported => "PROVIDER_UNSUPPORTED"
  | .providerFailed => "PROVIDER_FAILED"
  | .credentialInvalid => "CREDENTIAL_INVALID"
  | .credentialMissing => "CREDENTIAL_MISSING"
  | .sandboxUnavailable => "SANDBOX_UNAVAILABLE"
  | .sandboxCapabilityMissing => "SANDBOX_CAPABILITY_MISSING"
  | .sandboxCreationFailed => "SANDBOX_CREATION_FAILED"
  | .sandboxInspectionFailed => "SANDBOX_INSPECTION_FAILED"
  | .sandboxExecutionFailed => "SANDBOX_EXECUTION_FAILED"
  | .sandboxTimeout => "SANDBOX_TIMEOUT"
  | .sandboxOutputLimit => "SANDBOX_OUTPUT_LIMIT"
  | .sandboxCleanupFailed => "SANDBOX_CLEANUP_FAILED"
  | .sandboxRemoteDaemonDenied => "SANDBOX_REMOTE_DAEMON_DENIED"
  | .sandboxImageUnavailable => "SANDBOX_IMAGE_UNAVAILABLE"
  | .unsafeLocalConfirmationRequired => "UNSAFE_LOCAL_CONFIRMATION_REQUIRED"
  | .commandNotReviewed => "COMMAND_NOT_REVIEWED"
  | .commandOutcomeAmbiguous => "COMMAND_OUTCOME_AMBIGUOUS"
  | .bootstrapCanaryFailed => "BOOTSTRAP_CANARY_FAILED"
  | .bootstrapReportInvalid => "BOOTSTRAP_REPORT_INVALID"
  | .bootstrapTargetDrifted => "BOOTSTRAP_TARGET_DRIFTED"
  | .commandDenied => "COMMAND_DENIED"
  | .approvalRequired => "APPROVAL_REQUIRED"
  | .approvalDenied => "APPROVAL_DENIED"
  | .approvalInvalid => "APPROVAL_INVALID"
  | .pathOutsideScope => "PATH_OUTSIDE_SCOPE"
  | .workflowInvalidTransition => "WORKFLOW_INVALID_TRANSITION"
  | .patchTargetDiverged => "PATCH_TARGET_DIVERGED"
  | .artifactIntegrityFailed => "ARTIFACT_INTEGRITY_FAILED"
  | .stateSchemaIncompatible => "STATE_SCHEMA_INCOMPATIBLE"
  | .stateUnavailable => "STATE_UNAVAILABLE"
  | .resourceNotFound => "RESOURCE_NOT_FOUND"
  | .recoveryRequired => "RECOVERY_REQUIRED"
  | .internalError => "INTERNAL_ERROR"

/-- `FleetError`. -/
structure FleetError where
  code : ErrorCode
  message : String
  remediation : String
  details : JsonObject := []

/-- What stops a store transaction. -/
inductive StoreError where
  | fleet (error : FleetError)
  | integrity
  | validation

/-- `_not_found`. -/
def notFound (kind identifier : String) : StoreError :=
  .fleet {
    code := .resourceNotFound
    message := "No " ++ kind ++ " exists with identifier " ++ identifier ++ "."
    remediation := "Check the identifier with the relevant list or status command."
    details := JsonValue.object [("kind", .str kind), ("identifier", .str identifier)] }

/-- `_invalid_approval`. -/
def invalidApproval (requestId : Option String) : StoreError :=
  .fleet {
    code := .approvalInvalid
    message := "The capability does not match the current exact authorization context."
    remediation :=
      "Inspect the request, scope, expiry, revocation, and run state before retrying."
    details := JsonValue.object [("request_id", .ofOption requestId)] }

/-- `ApprovalRequiredError`. -/
def approvalRequiredError (requestId : String) : FleetError where
  code := .approvalRequired
  message := "Run paused for approval request " ++ requestId ++ "."
  remediation := "Run `fleet approve " ++ requestId ++ " --once` or `fleet deny " ++ requestId
    ++ "`."
  details := JsonValue.object [("request_id", .str requestId)]

/-- `ApprovalDeniedError`. -/
def approvalDeniedError (requestId : String) : FleetError where
  code := .approvalDenied
  message := "Approval request " ++ requestId ++ " was denied."
  remediation := "Inspect the run logs and start a new run with a different bounded approach."
  details := JsonValue.object [("request_id", .str requestId)]

end AgentFleet
