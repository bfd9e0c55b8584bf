import JibitSdk.Sdk.Services.Base

/-!
# Callbacks

`jibit/webhooks/base.py`: validation, verification and deduplication of untrusted callbacks.  The
verifier, the key function and the deduplication store belong to the application; calling them is an
effect, and each of them may raise.
-/

namespace JibitSdk.Sdk

open JibitSdk.Python JibitSdk.Reasoning

/-- `ParsedCallback`. -/
structure ParsedCallback (P : Type) where
  payload : P
  verified : Bool
  duplicate : Bool
  deriving DecidableEq

/-- What `parse_callback` does to the outside. -/
inductive CallbackEffect (P : Type) where
  | newCorrelationId
  | log (record : LogRecord)
  | verify (rawBody : List UInt8) (headers : List (String × String))
  | deduplicationKey (payload : P)
  | claim (key : String)

/-- Verifier, key function and store return or raise an exception of the named class. -/
abbrev CallbackEffect.Answer {P : Type} : CallbackEffect P → Type
  | .newCorrelationId => String
  | .log _ => Unit
  | .verify _ _ => Except String Bool
  | .deduplicationKey _ => Except String String
  | .claim _ => Except String Bool

abbrev callbackEffects (P : Type) : Signature := ⟨CallbackEffect P, CallbackEffect.Answer⟩

/-- The arguments of one call, as far as they are data; `model` is its `model_validate`. -/
structure CallbackCall (P : Type) where
  payload : List (String × PyVal)
  model : List (String × PyVal) → Except ModelError P
  service : String
  rawBody : List UInt8
  headers : List (String × String)
  hasVerifier : Bool
  hasStore : Bool := false
  hasKey : Bool := false
  logger : Option StructuredLogger := none
  correlationId : Option String := none

namespace CallbackCall

variable {P : Type} (rt : Runtime) (c : CallbackCall P)

/-- `logger.emit(...)` when there is a logger. -/
def emit (level : LogLevel) (event : EventName) (fields : List (String × PyVal)) :
    Prog (callbackEffects P) PyError Unit :=
  match c.logger with
  | some logger =>
    if logger.enabled then
      Prog.perform (S := callbackEffects P) (.log ⟨level, event.value, redact rt (.kwargs fields)⟩)
    else pure ()
  | none => pure ()

/-- `_log_rejection`, and the error that is raised after it. -/
def reject (correlationId reason operation message : String) :
    Prog (callbackEffects P) PyError (ParsedCallback P) := do
  c.emit rt .warning .webhookRejected
    [("service", .str c.service), ("correlation_id", .str correlationId), ("reason", .str reason)]
  .throw (.jibit (.new rt .webhookVerification message
    { service := some c.service, operation := some operation,
      correlationId := some correlationId }))

/-- `correlation_id or str(uuid.uuid4())`. -/
def correlation : Prog (callbackEffects P) PyError String :=
  match c.correlationId.filter (· ≠ "") with
  | some id => pure id
  | none => Prog.perform (S := callbackEffects P) .newCorrelationId

/-- `verifier is not None and verifier(raw_body, headers)`; an exception counts as a refusal. -/
def isVerified : Prog (callbackEffects P) PyError Bool :=
  if c.hasVerifier then do
    match ← Prog.perform (S := callbackEffects P) (.verify c.rawBody c.headers) with
    | .ok verified => pure verified
    | .error _ => pure false
  else pure false

/-- The key of a verified payload, claimed. -/
def claimKey (correlationId : String) (parsed : P) :
    Prog (callbackEffects P) PyError (ParsedCallback P) := do
  match ← Prog.perform (S := callbackEffects P) (.deduplicationKey parsed) with
  | .error _ =>
    c.reject rt correlationId "deduplication_failed" "deduplicate_callback"
      "The callback deduplication check failed"
  | .ok key =>
    match ← Prog.perform (S := callbackEffects P) (.claim key) with
    | .error _ =>
      c.reject rt correlationId "deduplication_failed" "deduplicate_callback"
        "The callback deduplication check failed"
    | .ok first => pure ⟨parsed, true, !first⟩

/-- The deduplication of a verified payload. -/
def deduplicate (correlationId : String) (parsed : P) :
    Prog (callbackEffects P) PyError (ParsedCallback P) :=
  if c.hasStore then
    if c.hasKey then c.claimKey rt correlationId parsed
    else c.reject rt correlationId "deduplication_misconfigured" "deduplicate_callback"
      "A deduplication key function is required"
  else pure ⟨parsed, true, false⟩

/-- `parse_callback`. -/
def parseCallback : Prog (callbackEffects P) PyError (ParsedCallback P) := do
  let correlationId ← c.correlation
  c.emit rt .info .webhookReceived
    [("service", .str c.service), ("correlation_id", .str correlationId)]
  match c.model c.payload with
  | .error .validationError =>
    c.reject rt correlationId "invalid_payload" "parse_callback" "The callback payload is invalid"
  | .error (.builtin e) => .throw (.builtin e)
  | .ok parsed => do
    let verified ← c.isVerified
    if verified then
      c.deduplicate rt correlationId parsed
    else
      c.reject rt correlationId "authenticity_rejected" "verify_callback"
        "The callback authenticity could not be verified"

end CallbackCall

end JibitSdk.Sdk
