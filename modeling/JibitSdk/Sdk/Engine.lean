import JibitSdk.Sdk.Effects
import Mathlib.Algebra.Order.Floor.Ring
import Mathlib.Data.Rat.Floor

/-!
# The request engine

`jibit/retry.py` and `jibit/engine.py`: retry classification, the retry loop, error mapping and
the engine's log records.
-/

namespace JibitSdk.Sdk

open JibitSdk.Python JibitSdk.Reasoning

/-! ## 1. Retry classification -/

/-- `TRANSIENT_STATUS_CODES`. -/
def transientStatusCodes : List ℤ := [408, 425, 429, 500, 502, 503, 504]

/-- `OperationSafety`. -/
inductive OperationSafety where
  | readOnly
  | idempotent
  | idempotencyProtected
  | unsafeOp
  deriving DecidableEq, Repr

structure RetryDecision where
  shouldRetry : Bool
  delay : ℚ := 0
  reason : String := "not_retryable"

structure RetryPolicy where
  config : RetryConfig

/-- `RetryPolicy.decide`. -/
def RetryPolicy.decide (p : RetryPolicy) (attempt : ℕ) (safety : OperationSafety)
    (statusCode : Option ℤ) (transportError hasIdempotencyKey : Bool) : Py RetryDecision :=
  if attempt ≥ p.config.maxAttempts then
    pure { shouldRetry := false, reason := "attempt_limit" }
  else if safety = .unsafeOp then
    pure { shouldRetry := false, reason := "unsafe_operation" }
  else if safety = .idempotencyProtected ∧ ¬ hasIdempotencyKey then
    pure { shouldRetry := false, reason := "missing_idempotency_key" }
  else if ¬ transportError ∧ ¬ statusCode.any transientStatusCodes.contains then
    pure { shouldRetry := false, reason := "non_transient_response" }
  else do
    let base := min p.config.maxDelay (p.config.baseDelay * 2 ^ (attempt - 1))
    let jitter := base * p.config.jitterRatio * (← Py.random)
    let reason :=
      if transportError then "transport_error"
      else match statusCode with
        | some status => s!"http_{status}"
        | none => "http_None"
    pure { shouldRetry := true, delay := min p.config.maxDelay (base + jitter), reason }

/-! ## 2. Requests -/

/-- `RequestOptions`. -/
structure RequestOptions where
  service : ServiceName
  operation : String
  method : String
  path : String
  safety : OperationSafety
  headers : List (String × String) := []
  params : Option (List (String × Json)) := none
  json : Option Json := none
  content : Option (List UInt8) := none
  multipart : Option (List MultipartPart) := none
  idempotencyKey : Option String := none
  correlationId : Option String := none

/-- `headers.setdefault(name, value)`. -/
def setdefault (headers : List (String × String)) (name value : String) :
    List (String × String) :=
  if (headers.lookup name).isSome then headers else headers ++ [(name, value)]

/-- `text.rstrip(c)`. -/
def rstrip (text : String) (c : Char) : String :=
  String.ofList ((text.toList.reverse.dropWhile (· = c)).reverse)

/-- `text.lstrip(c)`. -/
def lstrip (text : String) (c : Char) : String := String.ofList (text.toList.dropWhile (· = c))

/-- `round(x, 3)`: to the nearest thousandth, ties to even. -/
def round3 (x : ℚ) : ℚ :=
  let scaled := x * 1000
  let low := ⌊scaled⌋
  let rest := scaled - low
  (if rest < 1 / 2 then (low : ℚ)
    else if 1 / 2 < rest then low + 1
    else if low % 2 = 0 then low else low + 1) / 1000

structure RequestEngine where
  rt : Runtime
  config : JibitConfig
  retryPolicy : RetryPolicy
  logger : StructuredLogger

namespace RequestEngine

variable (e : RequestEngine)

/-- `_build_url`. -/
def buildUrl (service : ServiceName) (endpoint : String) : String :=
  let baseUrl := match e.config.services service with
    | some serviceConfig => serviceConfig.baseUrl.getD e.config.baseUrl
    | none => e.config.baseUrl
  rstrip baseUrl '/' ++ "/" ++ lstrip endpoint '/'

/-- `_validated_endpoint`. -/
def validatedEndpoint (path : String) : Except PyError String :=
  match e.rt.urlsplit path with
  | .error error => .error (.builtin error)
  | .ok (scheme, netloc) =>
    if path.toList.head? ≠ some '/' ∨ scheme ≠ "" ∨ netloc ≠ "" then
      .error (.jibit (.new e.rt .validation "Endpoint paths must be relative absolute paths"))
    else .ok path

/-- `_upstream_request_id`: the last header of each lower-cased name counts. -/
def upstreamRequestId (headers : List (String × String)) : Option String :=
  let lowered := (headers.map fun h => (e.rt.lower h.1, h.2)).reverse
  let value name := (lowered.lookup name).filter (· ≠ "")
  (value "x-request-id").or ((value "request-id").or (lowered.lookup "trace-id"))

/-- `_body_fields`: anything but a JSON object reads as no fields. -/
def bodyFields (response : TransportResponse) : Except PyError (List (String × Json)) :=
  if response.content = [] then .ok []
  else match e.rt.jsonLoads response.content with
    | .ok (.obj fields) => .ok fields
    | .ok _ => .ok []
    | .error error => if error.isValueError then .ok [] else .error (.builtin error)

/-- `_context` without the status fields. -/
def context (options : RequestOptions) (correlationId endpoint : String) : ErrorContext where
  service := some options.service.value
  operation := some options.operation
  method := some (e.rt.upper options.method)
  endpoint := some endpoint
  correlationId := some correlationId

/-! ## 3. Error mapping -/

/-- `str(value) if value is not None else None`. -/
def optionalStr (value : Json) : Option String :=
  match value with
  | .null => none
  | value => some (e.rt.str value)

/-- The first entry of `errors`, when it is an object. -/
def firstError (body : List (String × Json)) : List (String × Json) :=
  match Json.get body "errors" with
  | .arr (.obj fields :: _) => fields
  | _ => []

/-- `context.retryable` of an HTTP error. -/
def retryableStatus (options : RequestOptions) (status : ℤ) : Bool :=
  [408, 425, 429, 500, 502, 503, 504].contains status &&
    (options.safety = .readOnly || options.safety = .idempotent ||
      (options.safety = .idempotencyProtected && options.idempotencyKey.isSome))

/-- The class `_map_error` picks for a status. -/
def errorKind (status : ℤ) : JibitErrorKind :=
  if status = 401 then .authentication
  else if status = 403 then .authorization
  else if status = 400 ∨ status = 422 then .validation
  else if status = 429 then .rateLimit
  else if status ≥ 500 then .server
  else if status = 402 ∨ status = 404 ∨ status = 409 then .business
  else .response

/-- `_map_error`, once the body fields are read. -/
def mapErrorFields (options : RequestOptions) (correlationId endpoint : String)
    (response : TransportResponse) (body : List (String × Json)) : JibitError :=
  let first := firstError body
  let code := ((((Json.get body "code").pyOr (Json.get body "errorCode")).pyOr
    (Json.get body "error")).pyOr (Json.get first "code"))
  let message := (((((Json.get body "message").pyOr (Json.get body "detail")).pyOr
    (Json.get body "description")).pyOr (Json.get first "message")).pyOr
    (Json.get first "description"))
  let fingerprint := Json.get body "fingerprint"
  let reference := (Json.get body "referenceNumber").pyOr (Json.get body "reference_number")
  let upstream := match e.upstreamRequestId response.headers with
    | some id => Json.str id
    | none => .null
  let requestId := ((Json.get body "requestId").pyOr (Json.get body "request_id")).pyOr upstream
  .new e.rt (errorKind response.statusCode) s!"Jibit returned HTTP {response.statusCode}"
    { e.context options correlationId endpoint with
      statusCode := some response.statusCode
      errorCode := e.optionalStr code
      upstreamMessage := (e.optionalStr message).map fun _ => REDACTED
      upstreamRequestId := e.optionalStr requestId
      fingerprint := e.optionalStr fingerprint
      referenceNumber := e.optionalStr reference
      retryable := retryableStatus options response.statusCode
      upstream_redacted := by simp +contextual }

/-- `_map_error`. -/
def mapError (options : RequestOptions) (correlationId endpoint : String)
    (response : TransportResponse) : Except PyError JibitError :=
  (e.bodyFields response).map (e.mapErrorFields options correlationId endpoint response)

/-! ## 4. The retry loop -/

/-- The local variables of `execute` once the request is built. -/
structure Exchange where
  purpose : Purpose
  options : RequestOptions
  correlationId : String
  endpoint : String
  request : TransportRequest
  started : ℚ

/-- `_log_retry`. -/
def logRetry (x : Exchange) (attempt : ℕ) (decision : RetryDecision) : Py Unit :=
  e.logger.emit e.rt .warning .retryScheduled
    [("service", .str x.options.service.value),
      ("operation", .str x.options.operation),
      ("correlation_id", .str x.correlationId),
      ("attempt", .int attempt),
      ("reason", .str decision.reason),
      ("delay_seconds", .float (.finite decision.delay))]

/-- `round((monotonic() - started) * 1000, 3)`. -/
def durationMs (started now : ℚ) : PyVal := .float (.finite (round3 ((now - started) * 1000)))

/-- `_log_failure`. -/
def logFailure (error : JibitError) (started : ℚ) : Py Unit := do
  let fields := (error.context.safeDict e.rt).filter fun f => f.1 ≠ "upstream_message"
  let now ← Py.monotonic
  e.logger.emit e.rt .error .requestFailed
    (fields ++ [("error_type", .str error.kind.name), ("duration_ms", durationMs started now)])

/-- Log an error and raise it. -/
def fail (x : Exchange) (error : JibitError) : Py RawResponse := do
  e.logFailure error x.started
  Py.raise error

/-- The 2xx exit of the loop. -/
def complete (x : Exchange) (attempt : ℕ) (response : TransportResponse) : Py RawResponse := do
  let now ← Py.monotonic
  e.logger.emit e.rt .info .requestCompleted
    [("service", .str x.options.service.value),
      ("operation", .str x.options.operation),
      ("method", .str (e.rt.upper x.options.method)),
      ("endpoint", .str x.endpoint),
      ("status_code", .int response.statusCode),
      ("duration_ms", durationMs x.started now),
      ("correlation_id", .str x.correlationId),
      ("upstream_request_id", .ofOption (e.upstreamRequestId response.headers)),
      ("attempts", .int attempt)]
  pure ⟨response.statusCode, response.headers, response.content, x.correlationId⟩

/-- The error of a transport failure. -/
def transportFailure (x : Exchange) (kind : JibitErrorKind) : JibitError :=
  .new e.rt kind
    (if kind = .timeout then "The request timed out"
      else "The request failed before receiving a response")
    (e.context x.options x.correlationId x.endpoint)

/-- Retry as `decision` says, or end with `failure`. -/
def retryOr (x : Exchange) (attempt : ℕ) (decision : RetryDecision)
    (again failure : Py RawResponse) :
    Py RawResponse :=
  if decision.shouldRetry then do
    e.logRetry x attempt decision
    Py.sleep decision.delay
    again
  else failure

/-- The body of the `while True` loop; `again` is the next iteration. -/
def loopBody (x : Exchange) (attempt : ℕ) (again : Py RawResponse) : Py RawResponse := do
  let hasKey := x.options.idempotencyKey.isSome
  match ← Py.send x.purpose x.request with
  | .timeoutError =>
    let decision ← e.retryPolicy.decide attempt x.options.safety none true hasKey
    e.retryOr x attempt decision again (e.fail x (e.transportFailure x .timeout))
  | .networkError =>
    let decision ← e.retryPolicy.decide attempt x.options.safety none true hasKey
    e.retryOr x attempt decision again (e.fail x (e.transportFailure x .network))
  | .response response =>
    if 200 ≤ response.statusCode ∧ response.statusCode < 300 then
      e.complete x attempt response
    else
      let decision ←
        e.retryPolicy.decide attempt x.options.safety (some response.statusCode) false hasKey
      e.retryOr x attempt decision again do
        let error ← Prog.ofExcept (e.mapError x.options x.correlationId x.endpoint response)
        e.fail x error

/-- The loop, with the number of iterations still possible after this one.  None is left exactly
    when `decide` answers `attempt_limit`, so the last `again` is never run (`sendLoop_eq`). -/
def sendLoopFrom (x : Exchange) : (remaining attempt : ℕ) → Py RawResponse
  | 0, attempt => e.loopBody x attempt (.throw (.builtin (.other "unreachable")))
  | remaining + 1, attempt => e.loopBody x attempt (sendLoopFrom x remaining (attempt + 1))

/-- `while True`, entered with this attempt counter. -/
def sendLoop (x : Exchange) (attempt : ℕ) : Py RawResponse :=
  e.sendLoopFrom x (e.retryPolicy.config.maxAttempts - attempt) attempt

/-- `options.correlation_id or self._correlation_id_factory()`. -/
def correlationId (options : RequestOptions) : Py String :=
  match options.correlationId.filter (· ≠ "") with
  | some id => pure id
  | none => Py.newCorrelationId

/-- The headers of every send of one execution. -/
def requestHeaders (options : RequestOptions) (correlationId : String) :
    List (String × String) :=
  let headers := setdefault options.headers "Accept" "application/json"
  let headers := setdefault headers "X-Correlation-ID" correlationId
  match options.idempotencyKey with
  | some key => setdefault headers "Idempotency-Key" key
  | none => headers

/-- The `TransportRequest` of every send of one execution. -/
def transportRequest (options : RequestOptions) (correlationId endpoint : String) :
    TransportRequest where
  method := e.rt.upper options.method
  url := e.buildUrl options.service endpoint
  headers := requestHeaders options correlationId
  params := options.params
  json := options.json
  content := options.content
  multipart := options.multipart
  timeout := e.config.timeout

/-- `RequestEngine.execute`. -/
def execute (purpose : Purpose) (options : RequestOptions) : Py RawResponse := do
  let correlationId ← correlationId options
  let endpoint ← Prog.ofExcept (e.validatedEndpoint options.path)
  let started ← Py.monotonic
  e.logger.emit e.rt .info .requestStarted
    [("service", .str options.service.value),
      ("operation", .str options.operation),
      ("method", .str (e.rt.upper options.method)),
      ("endpoint", .str endpoint),
      ("correlation_id", .str correlationId)]
  e.sendLoop ⟨purpose, options, correlationId, endpoint,
    e.transportRequest options correlationId endpoint, started⟩ 1

end RequestEngine

end JibitSdk.Sdk
