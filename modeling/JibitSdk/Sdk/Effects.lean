import JibitSdk.Reasoning.Program
import JibitSdk.Sdk.Config
import JibitSdk.Sdk.Exceptions
import JibitSdk.Sdk.Tokens

/-!
# What the SDK does to the outside

The data of `jibit/transport.py`, `jibit/response.py` and `jibit/logging.py`, and the operations
through which SDK code reaches its injected dependencies: transport, sleep, clocks, random source,
correlation-id factory, logger, token store, locks and audit sink.
-/

namespace JibitSdk.Sdk

open JibitSdk.Python JibitSdk.Reasoning

/-! ## 1. Requests and responses -/

inductive ContentPartType where
  | field
  | file
  deriving DecidableEq, Repr

/-- A part's value: `str | bytes`. -/
inductive PartValue where
  | text (s : String)
  | data (b : List UInt8)
  deriving DecidableEq

structure MultipartPart where
  name : String
  kind : ContentPartType
  value : PartValue
  filename : Option String := none
  contentType : Option String := none
  deriving DecidableEq

structure TransportRequest where
  method : String
  url : String
  headers : List (String × String)
  params : Option (List (String × Json)) := none
  json : Option Json := none
  content : Option (List UInt8) := none
  multipart : Option (List MultipartPart) := none
  timeout : TimeoutConfig

structure TransportResponse where
  statusCode : ℤ
  headers : List (String × String)
  content : List UInt8

/-- What `HTTPTransport.send` returns or raises. -/
inductive TransportOutcome where
  | response (r : TransportResponse)
  | timeoutError
  | networkError

/-- `RawResponse`. -/
structure RawResponse where
  statusCode : ℤ
  headers : List (String × String)
  content : List UInt8
  correlationId : String

/-- `RawResponse.json`.  Only the two decoding errors are turned into the SDK's own. -/
def RawResponse.json (rt : Runtime) (r : RawResponse) : Except PyError Json :=
  match rt.jsonLoads r.content with
  | .ok value => .ok value
  | .error e =>
    if e = .unicodeDecodeError ∨ e = .jsonDecodeError then
      .error (.jibit (.new rt .response "The upstream response is not valid JSON"
        { statusCode := some r.statusCode, correlationId := some r.correlationId }))
    else .error (.builtin e)

/-! ## 2. Log records and audit events -/

inductive LogLevel where
  | info
  | warning
  | error
  deriving DecidableEq, Repr

/-- `EventName`. -/
inductive EventName where
  | requestStarted
  | requestCompleted
  | requestFailed
  | retryScheduled
  | tokenAcquired
  | tokenRefreshed
  | tokenRefreshFailed
  | auditEmitFailed
  | webhookReceived
  | webhookRejected
  deriving DecidableEq, Repr

/-- The stable English names. -/
def EventName.value : EventName → String
  | .requestStarted => "jibit.request.started"
  | .requestCompleted => "jibit.request.completed"
  | .requestFailed => "jibit.request.failed"
  | .retryScheduled => "jibit.request.retry_scheduled"
  | .tokenAcquired => "jibit.token.acquired"
  | .tokenRefreshed => "jibit.token.refreshed"
  | .tokenRefreshFailed => "jibit.token.refresh_failed"
  | .auditEmitFailed => "jibit.audit.emit_failed"
  | .webhookReceived => "jibit.webhook.received"
  | .webhookRejected => "jibit.webhook.rejected"

/-- One record as the application's handlers see it: the fields are already redacted. -/
structure LogRecord where
  level : LogLevel
  event : String
  fields : PyVal

inductive AuditOutcome where
  | succeeded
  | failed
  | unknown
  deriving DecidableEq, Repr

def AuditOutcome.value : AuditOutcome → String
  | .succeeded => "succeeded"
  | .failed => "failed"
  | .unknown => "unknown"

/-- `AuditEvent` after `__post_init__`. -/
structure AuditEvent where
  name : String
  correlationId : String
  service : String
  operation : String
  outcome : AuditOutcome
  metadata : PyVal

/-- `AuditEvent.__post_init__` redacts the metadata. -/
def AuditEvent.new (rt : Runtime) (name correlationId service operation : String)
    (outcome : AuditOutcome) (metadata : List (String × PyVal)) : AuditEvent :=
  ⟨name, correlationId, service, operation, outcome, redact rt (.kwargs metadata)⟩

/-! ## 3. Operations -/

/-- On whose behalf a request is sent.  The code has no such tag: it marks the call site of
    `RequestEngine.execute`, so that token requests can be told from the operation's own, and
    carries the access token an operation was authorized with. -/
inductive Purpose where
  | operation (accessToken : String)
  | token
  deriving DecidableEq, Repr

def Purpose.isOperation : Purpose → Bool
  | .operation _ => true
  | .token => false

inductive Effect where
  | send (purpose : Purpose) (request : TransportRequest)
  | sleep (delay : ℚ)
  | monotonic
  | clock
  | random
  | newCorrelationId
  | log (record : LogRecord)
  | storeGet (key : String)
  | storeSet (key : String) (token : TokenState)
  | storeDelete (key : String)
  | guardAcquire
  | guardRelease
  | setdefaultLock (key : String)
  | lockAcquire (lock : ℕ)
  | lockRelease (lock : ℕ)
  | redisAcquire (name : String) (timeout blockingTimeout : ℚ)
  | redisRelease (name : String)
  | emitAudit (event : AuditEvent)

/-- Answers: a store read may raise, Redis lock calls may raise, a sink may raise (the name of the
    exception's class). -/
abbrev Effect.Answer : Effect → Type
  | .send _ _ => TransportOutcome
  | .sleep _ => Unit
  | .monotonic | .clock | .random => ℚ
  | .newCorrelationId => String
  | .log _ => Unit
  | .storeGet _ => Except BuiltinError (Option TokenState)
  | .storeSet _ _ | .storeDelete _ => Unit
  | .guardAcquire | .guardRelease => Unit
  | .setdefaultLock _ => ℕ
  | .lockAcquire _ | .lockRelease _ => Unit
  | .redisAcquire _ _ _ | .redisRelease _ => Option BuiltinError
  | .emitAudit _ => Option String

/-- The SDK's effect signature. -/
abbrev effects : Signature := ⟨Effect, Effect.Answer⟩

/-- SDK code: a program over the effects that may raise a Python exception. -/
abbrev Py (α : Type) : Type := Prog effects PyError α

namespace Py

def send (purpose : Purpose) (request : TransportRequest) : Py TransportOutcome :=
  Prog.perform (S := effects) (.send purpose request)
def sleep (delay : ℚ) : Py Unit := Prog.perform (S := effects) (.sleep delay)
def monotonic : Py ℚ := Prog.perform (S := effects) .monotonic
def clock : Py ℚ := Prog.perform (S := effects) .clock
def random : Py ℚ := Prog.perform (S := effects) .random
def newCorrelationId : Py String := Prog.perform (S := effects) .newCorrelationId
def log (record : LogRecord) : Py Unit := Prog.perform (S := effects) (.log record)
def storeGet (key : String) : Py (Except BuiltinError (Option TokenState)) :=
  Prog.perform (S := effects) (.storeGet key)
def storeSet (key : String) (token : TokenState) : Py Unit :=
  Prog.perform (S := effects) (.storeSet key token)
def storeDelete (key : String) : Py Unit := Prog.perform (S := effects) (.storeDelete key)
def emitAudit (event : AuditEvent) : Py (Option String) :=
  Prog.perform (S := effects) (.emitAudit event)

/-- `raise`. -/
def raise {α : Type} (error : JibitError) : Py α := .throw (.jibit error)

/-- A built-in call that may raise. -/
def builtin {α : Type} : Except BuiltinError α → Py α
  | .ok a => .ret a
  | .error e => .throw (.builtin e)

end Py

/-! ## 4. The structured logger -/

structure StructuredLogger where
  enabled : Bool := true

/-- `StructuredLogger.emit`. -/
def StructuredLogger.emit (l : StructuredLogger) (rt : Runtime) (level : LogLevel)
    (event : EventName) (fields : List (String × PyVal)) : Py Unit :=
  if l.enabled then Py.log ⟨level, event.value, redact rt (.kwargs fields)⟩ else pure ()

end JibitSdk.Sdk
