import JibitSdk.Sdk.Auth.Executors

/-!
# Audited execution and typed responses

`jibit/services/base.py`: the executor that audits every request of a wrapped service, and the
parsing of 2xx bodies into response models.
-/

namespace JibitSdk.Sdk

open JibitSdk.Python JibitSdk.Reasoning

/-! ## 1. Response models -/

/-- What `model_validate` can raise. -/
inductive ModelError where
  | validationError
  | builtin (error : BuiltinError)

/-- A Pydantic response model: `model_validate`, into instances of type `M`. -/
structure ResponseModel (M : Type) where
  validate : Json → Except ModelError M

/-- `StatusResult`. -/
structure StatusResult where
  success : Bool
  statusCode : ℤ
  rawBody : Option (List UInt8) := none

/-- `SignedDocument`, as `download_signed` fills it. -/
structure SignedDocument where
  content : List UInt8
  contentType : Option String := none

/-- The data of a facade result. -/
inductive ResponseData (M : Type) where
  | model (value : M)
  | status (result : StatusResult)
  | document (document : SignedDocument)

/-- `APIResponse`. -/
structure APIResponse (M : Type) where
  data : ResponseData M
  raw : RawResponse

variable {M : Type}

/-- `model.model_validate(raw.json())` under the `except` clause of `parse_model_response`: the
    SDK's response error, a validation error and a `TypeError` are caught. -/
def validatedModel (rt : Runtime) (raw : RawResponse) (model : ResponseModel M) :
    Except BuiltinError (Option M) :=
  match raw.json rt with
  | .error (.jibit _) => .ok none
  | .error (.builtin e) => if e = .typeError then .ok none else .error e
  | .ok value => match model.validate value with
    | .ok found => .ok (some found)
    | .error .validationError => .ok none
    | .error (.builtin e) => if e = .typeError then .ok none else .error e

/-- The error of `parse_model_response`. -/
def contractMismatch (rt : Runtime) (raw : RawResponse)
    (service operation method endpoint : String) :
    JibitError :=
  .new rt .response "The upstream response does not match the documented contract"
    { service := some service, operation := some operation, method := some method,
      endpoint := some endpoint, statusCode := some raw.statusCode,
      correlationId := some raw.correlationId }

/-- `parse_model_response`. -/
def parseModelResponse (rt : Runtime) (raw : RawResponse) (model : ResponseModel M)
    (service operation method endpoint : String) : Except PyError (APIResponse M) :=
  match validatedModel rt raw model with
  | .ok (some found) => .ok ⟨.model found, raw⟩
  | .ok none => .error (.jibit (contractMismatch rt raw service operation method endpoint))
  | .error e => .error (.builtin e)

/-! ## 2. The audited executor -/

/-- The error classes whose audit outcome is `unknown`. -/
def auditOutcome (error : JibitError) : AuditOutcome :=
  if error.kind = .timeout ∨ error.kind = .network ∨ error.kind = .server ∨
      error.kind = .response then .unknown
  else .failed

/-- Metadata of a failure event. -/
def failureMetadata (error : JibitError) : List (String × PyVal) :=
  [("error_type", .str error.kind.name),
    ("error_code", .ofOption error.context.errorCode),
    ("status_code", match error.context.statusCode with
      | some status => .int status
      | none => .none)]

/-- `error.context.correlation_id or "unavailable"`. -/
def auditCorrelationId (error : JibitError) : String :=
  (error.context.correlationId.filter (· ≠ "")).getD "unavailable"

/-- Hand an event to the sink; an exception of the sink is logged and dropped. -/
def emitAuditEvent (rt : Runtime) (logger : StructuredLogger) (event : AuditEvent) : Py Unit := do
  match ← Py.emitAudit event with
  | none => pure ()
  | some errorType =>
    logger.emit rt .error .auditEmitFailed
      [("service", .str event.service), ("operation", .str event.operation),
        ("correlation_id", .str event.correlationId), ("error_type", .str errorType)]

structure AuditedRequestExecutor where
  rt : Runtime
  executor : RequestExecutor
  logger : StructuredLogger
  eventName : String

namespace AuditedRequestExecutor

variable (x : AuditedRequestExecutor)

/-- `_emit`. -/
def emit (options : RequestOptions) (correlationId : String) (outcome : AuditOutcome)
    (metadata : List (String × PyVal)) : Py Unit :=
  emitAuditEvent x.rt x.logger
    (.new x.rt x.eventName correlationId options.service.value options.operation outcome metadata)

/-- `AuditedRequestExecutor.execute`. -/
def execute (options : RequestOptions) : Py RawResponse := do
  match ← (x.executor.execute options).attempt with
  | .ok response =>
    x.emit options response.correlationId .succeeded [("status_code", .int response.statusCode)]
    pure response
  | .error (.jibit error) =>
    x.emit options (auditCorrelationId error) (auditOutcome error) (failureMetadata error)
    Py.raise error
  | .error (.builtin e) => .throw (.builtin e)

end AuditedRequestExecutor

/-- `typed_request`, over the audited executor of a wrapped service. -/
def typedRequest (x : AuditedRequestExecutor) (options : RequestOptions)
    (model : ResponseModel M) : Py (APIResponse M) := do
  let raw ← x.execute options
  Prog.ofExcept (parseModelResponse x.rt raw model options.service.value options.operation
    options.method options.path)

/-- A status-only operation: any 2xx response is its result. -/
def statusRequest (x : AuditedRequestExecutor) (options : RequestOptions) :
    Py (APIResponse M) := do
  let raw ← x.execute options
  pure ⟨.status ⟨true, raw.statusCode, if raw.content = [] then none else some raw.content⟩, raw⟩

/-- `next(... "content-type", None)` over the response headers. -/
def contentType (rt : Runtime) (headers : List (String × String)) : Option String :=
  (headers.find? fun h => rt.lower h.1 = "content-type").map (·.2)

/-- `download_signed` after its arguments are checked. -/
def documentRequest (x : AuditedRequestExecutor) (options : RequestOptions) :
    Py (APIResponse M) := do
  let raw ← x.execute options
  pure ⟨.document ⟨raw.content, contentType x.rt raw.headers⟩, raw⟩

end JibitSdk.Sdk
