import JibitSdk.Python.Pydantic
import JibitSdk.Reasoning.Dict
import JibitSdk.Sdk.Config
import JibitSdk.Sdk.Exceptions

/-!
# Reading a configuration

`jibit/config.py`: the models as Pydantic validates them, `JibitConfig.from_mapping` with the
spellings it accepts, and the lookup of an enabled service.
-/

namespace JibitSdk.Sdk.ConfigModels

open JibitSdk.Python JibitSdk.Reasoning JibitSdk.Sdk

/-! ## 1. Models -/

/-- A field that is read under its own name. -/
def setting (name : String) (type : Schema) (default : Option Obj) : Field × Schema :=
  (⟨name, [name], default⟩, type)

/-- `extra="forbid"`. -/
def settings (fields : List (Field × Schema)) : Schema := .record .forbid fields

/-- An instance with the defaults of its fields. -/
def defaults (fields : List (Field × Schema)) : Obj :=
  .obj (fields.map fun field => (field.1.name, field.1.default.getD .null))

/-- `gt=0`; these bounds hold of no `nan`. -/
def isPositive : Obj → Bool
  | .float x => PyFloat.lt (.finite 0) x
  | _ => false

/-- `ge=0`. -/
def isNonNegative : Obj → Bool
  | .float x => PyFloat.lt (.finite 0) x || x = .finite 0
  | _ => false

/-- `le=1`. -/
def isAtMostOne : Obj → Bool
  | .float x => x.lt (.finite 1) || x = .finite 1
  | _ => false

def timeoutFields : List (Field × Schema) :=
  [("connect", 5), ("read", 30), ("write", 30), ("pool", 5)].map fun (name, seconds) =>
    setting name (.checked (.plain .float) isPositive) (some (.float (.finite seconds)))

/-- `validate_delay_bounds`. -/
def validateDelayBounds (self : Obj) : Bool :=
  match self.attr "max_delay", self.attr "base_delay" with
  | .float maxDelay, .float baseDelay => !maxDelay.lt baseDelay
  | _, _ => false

def retryFields : List (Field × Schema) :=
  [setting "max_attempts" (.plain (.int (some 1) (some 10))) (some (.int 3)),
    setting "base_delay" (.checked (.plain .float) isNonNegative) (some (.float (.finite (1 / 4)))),
    setting "max_delay" (.checked (.plain .float) isNonNegative) (some (.float (.finite 4))),
    setting "jitter_ratio" (.checked (.checked (.plain .float) isNonNegative) isAtMostOne)
      (some (.float (.finite (1 / 10))))]

def loggingFields : List (Field × Schema) :=
  [setting "logger_name" (.plain (.str 1)) (some (.str "jibit_sdk")),
    setting "enabled" (.plain .bool) (some (.bool true))]

def authFields : List (Field × Schema) :=
  [setting "expiry_leeway_seconds" (.plain (.int (some 0) (some 3600))) (some (.int 60)),
    setting "unknown_access_token_ttl_seconds" (.nullable (.plain (.int (some 60)))) (some .null),
    setting "cache_key_prefix" (.plain (.str 1 (some 100))) (some (.str "jibit:tokens"))]

/-- The names of the credentials, in the order of their fields. -/
def credentialKeys : List String :=
  ["api_key", "secret_key", "username", "password", "access_token"]

def credentialFields : List (Field × Schema) :=
  credentialKeys.map fun name => setting name (.nullable (.plain .secret)) (some .null)

/-- `require_a_complete_credential_pair`, check by check. -/
def requireACompleteCredentialPair (self : Obj) : Bool :=
  let missing name := (self.attr name).isNull
  let apiPair := !missing "api_key" || !missing "secret_key"
  let userPair := !missing "username" || !missing "password"
  let token := !missing "access_token"
  if apiPair && (missing "api_key" || missing "secret_key") then false
  else if userPair && (missing "username" || missing "password") then false
  else if apiPair.toNat + userPair.toNat + token.toNat > 1 then false
  else if !apiPair && !userPair && !token then false
  else true

def serviceCredentials : Schema :=
  .checked (settings credentialFields) requireACompleteCredentialPair

def serviceFields : List (Field × Schema) :=
  [setting "credentials" serviceCredentials none,
    setting "base_url" (.nullable (.plain .httpUrl)) (some .null),
    setting "enabled" (.plain .bool) (some (.bool true)),
    setting "scopes" (.list 0 none (.plain .str)) (some (.arr []))]

def serviceConfig : Schema := settings serviceFields

/-- The fields of `JibitConfig` but `services`. -/
def configFields : List (Field × Schema) :=
  [setting "base_url" (.plain .httpUrl) (some (.url "https://napi.jibit.ir/")),
    setting "timeout" (settings timeoutFields) (some (defaults timeoutFields)),
    setting "retry" (.checked (settings retryFields) validateDelayBounds)
    (some (defaults retryFields)),
    setting "auth" (settings authFields) (some (defaults authFields)),
    setting "logging" (settings loggingFields) (some (defaults loggingFields)),
    setting "verify_ssl" (.plain .bool) (some (.bool true)),
    setting "user_agent" (.plain (.str 1)) (some (.str "jibit-ir-sdk/0.1.0"))]

/-! ## 2. Validation of a mapping -/

/-- `ServiceName`, in the order of its declaration. -/
def serviceNames : List ServiceName :=
  [.paymentGateway, .transfers, .cobank, .identicator, .kyc, .directDebit, .sms, .contracts]

/-- A validated `JibitConfig`: the services, and the other fields. -/
structure LoadedConfig where
  fields : List (String × Obj)
  services : List (String × Obj)

/-- `d.pop(key, None)`, without the value. -/
def popKey (d : List (String × Obj)) (key : String) : List (String × Obj) :=
  d.filter fun entry => entry.1 ≠ key

/-- One entry of `dict[ServiceName, ServiceConfig]`. -/
def validateService (c : Coercions) (entry : String × Obj) : Option (String × Obj) :=
  if (serviceNames.map ServiceName.value).contains entry.1 then
    (serviceConfig.validate c entry.2).map fun config => (entry.1, config)
  else none

def validateServices (c : Coercions) : Obj → Option (List (String × Obj))
  | .obj entries => entries.mapM (validateService c)
  | _ => none

/-- `cls.model_validate(raw)`. -/
def modelValidate (c : Coercions) (raw : List (String × Obj)) : Option LoadedConfig := do
  let fields ← (settings configFields).validate c (.obj (popKey raw "services"))
  let services ← validateServices c ((raw.lookup "services").getD (.obj []))
  match fields with
  | .obj fields => some ⟨fields, services⟩
  | _ => none

/-! ## 3. The spellings of a mapping -/

/-- `dict(value)`; what it makes of anything but a mapping is taken as it comes. -/
def asDict (dictOfOther : Obj → Except BuiltinError (List (String × Obj))) :
    Obj → Except BuiltinError (List (String × Obj))
  | .obj entries => .ok entries
  | value => dictOfOther value

/-- The loop that moves service names from the top level to `services`. -/
def moveServices (raw services : List (String × Obj)) :
    List ServiceName → List (String × Obj) × List (String × Obj)
  | [] => (raw, services)
  | service :: rest => match raw.lookup service.value with
    | some value =>
        moveServices (popKey raw service.value) (setItem services service.value value) rest
    | none => moveServices raw services rest

/-- The loop body that gathers the credentials of a service.  The order of the gathered keys is that
    of a set, which nothing depends on. -/
def gatherCredentials : Obj → Obj
  | .obj entries =>
    if (entries.lookup "credentials").isSome then .obj entries
    else
      let credentials := credentialKeys.filterMap fun key =>
        (entries.lookup key).map fun value => (key, value)
      let others := entries.filter fun entry => !credentialKeys.contains entry.1
      .obj (if credentials.isEmpty then others else others ++ [("credentials", .obj credentials)])
  | value => value

/-- `JibitConfig.from_mapping`. -/
def fromMapping (c : Coercions) (dictOfOther : Obj → Except BuiltinError (List (String × Obj)))
    (value : List (String × Obj)) : Except PyError LoadedConfig :=
  match asDict dictOfOther ((value.lookup "services").getD (.obj [])) with
  | .error e => .error (.builtin e)
  | .ok nested =>
    let (raw, services) := moveServices (popKey value "services") nested serviceNames
    let services := services.map fun entry => (entry.1, gatherCredentials entry.2)
    match modelValidate c (raw ++ [("services", .obj services)]) with
    | some config => .ok config
    | none => .error (.builtin (.other "ValidationError"))

/-- `JibitConfig.service`. -/
def LoadedConfig.service (rt : Runtime) (config : LoadedConfig) (name : ServiceName) :
    Except PyError Obj :=
  let missing := PyError.jibit (.new rt .configuration s!"Service '{name.value}' is not configured")
  match config.services.lookup name.value with
  | none => .error missing
  | some service => match service.attr "enabled" with
    | .bool true => .ok service
    | _ => .error missing

end JibitSdk.Sdk.ConfigModels
