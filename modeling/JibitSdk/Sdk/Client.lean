import JibitSdk.Reasoning.Methods
import JibitSdk.Sdk.Services.Facade

/-!
# The client

`jibit/client.py`, with the constructors of `jibit/auth/provider.py` and `jibit/auth/static.py` and
the service lookup of `jibit/config.py`: shared infrastructure and service facades that are built
when they are first asked for.
-/

namespace JibitSdk.Sdk

open JibitSdk.Python JibitSdk.Reasoning

/-! ## 1. Constructors -/

/-- `JibitConfig.service`. -/
def JibitConfig.service (rt : Runtime) (config : JibitConfig) (name : ServiceName) :
    Except PyError ServiceConfig :=
  match config.services name with
  | some found =>
    if found.enabled then .ok found
    else .error (.jibit (.new rt .configuration s!"Service '{name.value}' is not configured"))
  | none => .error (.jibit (.new rt .configuration s!"Service '{name.value}' is not configured"))

theorem service_eq_ok {rt : Runtime} {config : JibitConfig} {name : ServiceName}
    {found : ServiceConfig} :
    config.service rt name = .ok found ↔ config.services name = some found ∧
    found.enabled = true := by
  unfold JibitConfig.service
  cases config.services name with
  | none => simp
  | some other =>
    by_cases henabled : other.enabled = true
    · have hmatch : other = found → found.enabled = true := fun h => h ▸ henabled
      simpa [henabled] using hmatch
    · have hmatch : other = found → found.enabled = false :=
        fun h => h ▸ Bool.eq_false_iff.mpr henabled
      simpa [henabled] using hmatch

/-- `ServiceAuthenticator.__init__`. -/
def ServiceAuthenticator.new (service : ServiceName) (config : JibitConfig) (engine : RequestEngine)
    (locks : LockProvider) (logger : StructuredLogger) : Except PyError ServiceAuthenticator :=
  match hspec : authSpecs service with
  | none => .error (.jibit (.new engine.rt .configuration
      s!"Automatic token authentication is not documented for '{service.value}'"))
  | some spec =>
    match hservice : config.service engine.rt service with
    | .error e => .error e
    | .ok serviceConfig =>
      match hkey : buildCacheKey engine.rt config service serviceConfig with
      | .error e => .error e
      | .ok cacheKey => .ok
        { service, config, serviceConfig, spec, engine, locks, logger, cacheKey
          documented := hspec
          configured := service_eq_ok.mp hservice
          keyed := hkey }

/-- `StaticBearerRequestEngine.__init__`. -/
def StaticBearerRequestEngine.new (engine : RequestEngine) (config : JibitConfig)
    (service : ServiceName) :
    Except PyError StaticBearerRequestEngine := do
  let found ← config.service engine.rt service
  match found.credentials.accessToken with
  | none => .error (.jibit (.new engine.rt .configuration
      s!"Service '{service.value}' requires a configured access_token"))
  | some accessToken => .ok ⟨engine, accessToken⟩

/-- A service facade; the services behind an audited executor are told apart by it. -/
inductive ServiceFacade where
  | paymentGateway (x : PaymentGatewayService)
  | wrapped (x : AuditedRequestExecutor)

/-- What `__init__` leaves in a client and never changes. -/
structure JibitClient where
  config : JibitConfig
  engine : RequestEngine
  logger : StructuredLogger
  locks : LockProvider
  ownsTransport : Bool

/-- `JibitClient.__init__`. -/
def JibitClient.new (rt : Runtime) (config : JibitConfig) (transportGiven : Bool)
    (logger : Option StructuredLogger) (lockProvider : Option LockProvider)
    (retryPolicy : Option RetryPolicy) : JibitClient :=
  let structuredLogger := logger.getD { enabled := config.loggingEnabled }
  { config
    engine := ⟨rt, config, retryPolicy.getD ⟨config.retry⟩, structuredLogger⟩
    logger := structuredLogger
    locks := lockProvider.getD .thread
    ownsTransport := !transportGiven }

/-! ## 2. Attributes -/

/-- Reads and writes of the attributes that change, and the closing of the transport. -/
inductive ClientOp where
  /-- `self._authenticated_engines.get(service)`. -/
  | readEngine (service : ServiceName)
  | writeEngine (service : ServiceName) (engine : AuthenticatedRequestEngine)
  /-- `self._<service>`. -/
  | readFacade (service : ServiceName)
  | writeFacade (service : ServiceName) (facade : ServiceFacade)
  | readClosed
  | writeClosed
  /-- `self._transport.close()`. -/
  | closeTransport

abbrev ClientOp.Answer : ClientOp → Type
  | .readEngine _ => Option AuthenticatedRequestEngine
  | .writeEngine _ _ => Unit
  | .readFacade _ => Option ServiceFacade
  | .writeFacade _ _ => Unit
  | .readClosed => Bool
  | .writeClosed => Unit
  | .closeTransport => Option BuiltinError

abbrev clientEffects : Signature := ⟨ClientOp, ClientOp.Answer⟩

/-- Code of a client's methods. -/
abbrev ClientPy (α : Type) : Type := Prog clientEffects PyError α

/-! ## 3. Methods -/

namespace JibitClient

variable (c : JibitClient)

/-- `authenticated_engine`. -/
def authenticatedEngine (service : ServiceName) : ClientPy AuthenticatedRequestEngine := do
  match ← Prog.perform (S := clientEffects) (.readEngine service) with
  | some authenticated => pure authenticated
  | none =>
    let authenticator ←
      Prog.ofExcept (ServiceAuthenticator.new service c.config c.engine c.locks c.logger)
    let authenticated : AuthenticatedRequestEngine := ⟨c.engine, authenticator⟩
    Prog.perform (S := clientEffects) (.writeEngine service authenticated)
    pure authenticated

/-- The shape of every service property: build the facade if there is none, and
    return the attribute. -/
def property (service : ServiceName) (build : ClientPy ServiceFacade) :
    ClientPy (Option ServiceFacade) := do
  if (← Prog.perform (S := clientEffects) (.readFacade service)).isNone then
    let facade ← build
    Prog.perform (S := clientEffects) (.writeFacade service facade)
  Prog.perform (S := clientEffects) (.readFacade service)

/-- A facade over an audited executor of the service's authenticated engine. -/
def auditedFacade (service : ServiceName) (eventName : String) : ClientPy ServiceFacade := do
  let engine ← c.authenticatedEngine service
  pure (.wrapped ⟨c.engine.rt, .authenticated engine, c.logger, eventName⟩)

def paymentGateway : ClientPy (Option ServiceFacade) :=
  property .paymentGateway do
    let engine ← c.authenticatedEngine .paymentGateway
    pure (.paymentGateway ⟨engine, c.logger⟩)

def transfers : ClientPy (Option ServiceFacade) :=
  property .transfers (c.auditedFacade .transfers "jibit.transfer.operation")

def cobank : ClientPy (Option ServiceFacade) :=
  property .cobank (c.auditedFacade .cobank "jibit.cobank.operation")

def directDebit : ClientPy (Option ServiceFacade) :=
  property .directDebit (c.auditedFacade .directDebit "jibit.direct_debit.operation")

def sms : ClientPy (Option ServiceFacade) :=
  property .sms (c.auditedFacade .sms "jibit.sms.operation")

def contracts : ClientPy (Option ServiceFacade) :=
  property .contracts (c.auditedFacade .contracts "jibit.contract.operation")

def identicator : ClientPy (Option ServiceFacade) :=
  property .identicator (c.auditedFacade .identicator "jibit.identicator.operation")

def kyc : ClientPy (Option ServiceFacade) :=
  property .kyc do
    let engine ← Prog.ofExcept (StaticBearerRequestEngine.new c.engine c.config .kyc)
    pure (.wrapped ⟨c.engine.rt, .staticBearer engine, c.logger, "jibit.kyc.operation"⟩)

/-- `close`, and `__exit__`. -/
def close : ClientPy Unit := do
  if ← Prog.perform (S := clientEffects) .readClosed then
    pure ()
  else
    if c.ownsTransport then
      match ← Prog.perform (S := clientEffects) .closeTransport with
      | some e => .throw (.builtin e)
      | none => pure ()
    Prog.perform (S := clientEffects) .writeClosed

end JibitClient

/-! ## 4. Calls -/

/-- The methods and properties that touch what changes. -/
inductive ClientCall where
  | facade (service : ServiceName)
  | authenticatedEngine (service : ServiceName)
  | close

abbrev ClientCall.Result : ClientCall → Type
  | .facade _ => Option ServiceFacade
  | .authenticatedEngine _ => AuthenticatedRequestEngine
  | .close => Unit

/-- The property of a service. -/
def JibitClient.facade (c : JibitClient) : ServiceName → ClientPy (Option ServiceFacade)
  | .paymentGateway => c.paymentGateway
  | .transfers => c.transfers
  | .cobank => c.cobank
  | .identicator => c.identicator
  | .kyc => c.kyc
  | .directDebit => c.directDebit
  | .sms => c.sms
  | .contracts => c.contracts

def JibitClient.body (c : JibitClient) : (call : ClientCall) → ClientPy call.Result
  | .facade service => c.facade service
  | .authenticatedEngine service => c.authenticatedEngine service
  | .close => c.close

/-- The calls of a client, as a program sees them. -/
abbrev clientCalls : Signature := methods ClientCall ClientCall.Result PyError

end JibitSdk.Sdk
