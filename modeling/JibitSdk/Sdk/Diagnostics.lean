import JibitSdk.Sdk.Effects

/-!
# Diagnostics that are redacted again

`JibitError.with_context` of `jibit/exceptions.py` and `AuditEvent.safe_dict` of `jibit/logging.py`:
both redact what has been redacted before.
-/

namespace JibitSdk.Sdk

open JibitSdk.Python JibitSdk.Reasoning

/-- `JibitError.default_message`. -/
def defaultMessage : String := "A Jibit SDK error occurred"

/-- `message or self.default_message`. -/
def messageOr : Option String → String
  | some message => if message = "" then defaultMessage else message
  | none => defaultMessage

/-- `JibitError.__init__`, with its optional message. -/
def JibitError.init (rt : Runtime) (kind : JibitErrorKind) (message : Option String)
    (context : ErrorContext) : JibitError := .new rt kind (messageOr message) context

/-- `with_context`; `changes` is what `replace` does to the context. -/
def JibitError.withContext (rt : Runtime) (e : JibitError) (changes : ErrorContext → ErrorContext) :
    JibitError := .init rt e.kind (some e.message) (changes e.context)

/-- `safe_dict`. -/
def AuditEvent.safeDict (rt : Runtime) (event : AuditEvent) : PyVal :=
  redact rt (.kwargs [("name", .str event.name), ("correlation_id", .str event.correlationId),
    ("service", .str event.service), ("operation", .str event.operation),
    ("outcome", .str event.outcome.value), ("metadata", event.metadata)])

/-- `value[key]` of a mapping whose keys are strings. -/
def itemOf (key : String) : PyVal → Option PyVal
  | .mapping items => items.findSome? fun item => match item.1 with
    | .str text => if text = key then some item.2 else none
    | _ => none
  | _ => none

end JibitSdk.Sdk
