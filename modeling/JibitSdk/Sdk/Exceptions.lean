import JibitSdk.Sdk.Redaction

/-!
# The exception hierarchy

`jibit/exceptions.py`: the SDK's error classes and the diagnostic context they carry.
-/

namespace JibitSdk.Sdk

open JibitSdk.Python

/-- No upstream message needs no redaction. -/
theorem absent_redacted : ∀ text, none = some text → text = REDACTED := fun text h =>
  absurd h.symm (Option.some_ne_none text)

/-- `ErrorContext`.  `__post_init__` replaces any upstream message, so no other text fits. -/
structure ErrorContext where
  service : Option String := none
  operation : Option String := none
  method : Option String := none
  endpoint : Option String := none
  statusCode : Option ℤ := none
  errorCode : Option String := none
  upstreamMessage : Option String := none
  upstreamRequestId : Option String := none
  fingerprint : Option String := none
  referenceNumber : Option String := none
  correlationId : Option String := none
  retryable : Bool := false
  upstream_redacted : ∀ text, upstreamMessage = some text → text = REDACTED := by
    exact absent_redacted
  deriving DecidableEq

namespace ErrorContext

variable (rt : Runtime) (c : ErrorContext)

/-- A string field as `safe_dict` lists it. -/
def safeStr : Option String → Option PyVal
  | none => none
  | some value => some (.str (redactStr rt value))

/-- `safe_dict`: the populated fields, in declaration order. -/
def safeDict : List (String × PyVal) :=
  [("service", safeStr rt c.service),
    ("operation", safeStr rt c.operation),
    ("method", safeStr rt c.method),
    ("endpoint", safeStr rt c.endpoint),
    ("status_code", c.statusCode.map .int),
    ("error_code", safeStr rt c.errorCode),
    ("upstream_message", c.upstreamMessage.map fun _ => .str REDACTED),
    ("upstream_request_id", safeStr rt c.upstreamRequestId),
    ("fingerprint", safeStr rt c.fingerprint),
    ("reference_number", safeStr rt c.referenceNumber),
    ("correlation_id", safeStr rt c.correlationId),
    ("retryable", some (.bool c.retryable))].filterMap
    fun field => field.2.map fun value => (field.1, value)

end ErrorContext

/-- The subclasses of `JibitError`. -/
inductive JibitErrorKind where
  | configuration
  | authentication
  | authorization
  | validation
  | business
  | rateLimit
  | timeout
  | network
  | server
  | response
  | webhookVerification
  | unsupportedOperation
  deriving DecidableEq, Repr

/-- `type(error).__name__`. -/
def JibitErrorKind.name : JibitErrorKind → String
  | .configuration => "JibitConfigurationError"
  | .authentication => "JibitAuthenticationError"
  | .authorization => "JibitAuthorizationError"
  | .validation => "JibitValidationError"
  | .business => "JibitBusinessError"
  | .rateLimit => "JibitRateLimitError"
  | .timeout => "JibitTimeoutError"
  | .network => "JibitNetworkError"
  | .server => "JibitServerError"
  | .response => "JibitResponseError"
  | .webhookVerification => "JibitWebhookVerificationError"
  | .unsupportedOperation => "JibitUnsupportedOperationError"

structure JibitError where
  kind : JibitErrorKind
  message : String
  context : ErrorContext
  deriving DecidableEq

/-- `JibitError.__init__`: the message is redacted on construction. -/
def JibitError.new (rt : Runtime) (kind : JibitErrorKind) (message : String)
    (context : ErrorContext := {}) : JibitError :=
  ⟨kind, redactStr rt message, context⟩

/-- Whatever a call into the SDK can raise. -/
inductive PyError where
  | jibit (error : JibitError)
  | builtin (error : BuiltinError)
  deriving DecidableEq

/-- `isinstance(exc, <kind>)` for one SDK class. -/
def PyError.isKind (kind : JibitErrorKind) : PyError → Bool
  | .jibit error => error.kind = kind
  | .builtin _ => false

end JibitSdk.Sdk
