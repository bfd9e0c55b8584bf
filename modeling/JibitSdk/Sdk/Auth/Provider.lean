import JibitSdk.Sdk.Auth.Specs
import JibitSdk.Sdk.Engine

/-!
# The service authenticator

`jibit/auth/locks.py`, the lock of `jibit/auth/redis.py`, and `jibit/auth/provider.py`: token
acquisition, caching, refresh and recovery.
-/

namespace JibitSdk.Sdk

open JibitSdk.Python JibitSdk.Reasoning

/-! ## 1. Locks -/

/-- The two lock providers the SDK ships. -/
inductive LockProvider where
  | thread
  | redis (keyPrefix : String) (timeout blockingTimeout : ℚ)

/-- `RedisLockProvider`, with the default arguments of its constructor. -/
def redisLockProvider (keyPrefix : String := "jibit-lock") (timeout : ℚ := 30)
    (blockingTimeout : ℚ := 35) : LockProvider :=
  .redis keyPrefix timeout blockingTimeout

/-- `with provider.lock(key): body`.  The lock is released on every exit of the body. -/
def LockProvider.lock {α : Type} (p : LockProvider) (key : String) (body : Py α) : Py α :=
  match p with
  | .thread => do
    let _ ← Prog.perform (S := effects) .guardAcquire
    let lock ← Prog.perform (S := effects) (.setdefaultLock key)
    let _ ← Prog.perform (S := effects) .guardRelease
    let _ ← Prog.perform (S := effects) (.lockAcquire lock)
    let outcome ← body.attempt
    let _ ← Prog.perform (S := effects) (.lockRelease lock)
    Prog.ofExcept outcome
  | .redis keyPrefix timeout blockingTimeout => do
    let name := keyPrefix ++ ":" ++ key
    match ← Prog.perform (S := effects) (.redisAcquire name timeout blockingTimeout) with
    | some error => .throw (.builtin error)
    | none =>
      let outcome ← body.attempt
      match ← Prog.perform (S := effects) (.redisRelease name) with
      | some error => .throw (.builtin error)
      | none => Prog.ofExcept outcome

/-! ## 2. Construction -/

/-- `credentials.api_key or credentials.username`; an empty secret is falsy. -/
def ServiceCredentials.identifier (c : ServiceCredentials) : Option String :=
  (c.apiKey.filter (· ≠ "")).or c.username

/-- `_build_cache_key`. -/
def buildCacheKey (rt : Runtime) (config : JibitConfig) (service : ServiceName)
    (serviceConfig : ServiceConfig) : Except PyError String :=
  match serviceConfig.credentials.identifier with
  | none => .error (.jibit (.new rt .configuration
      s!"Service '{service.value}' has no cache-safe credential identifier"))
  | some identifier =>
    let baseUrl := rstrip (serviceConfig.baseUrl.getD config.baseUrl) '/'
    let scopes := serviceConfig.scopes.mergeSort fun a b => a ≤ b
    let identity := "\x00".intercalate (identifier :: baseUrl :: scopes)
    let digest := String.ofList ((rt.sha256Hex identity).toList.take 20)
    .ok (config.auth.cacheKeyPrefix ++ ":" ++ service.value ++ ":" ++ digest)

/-- A constructed `ServiceAuthenticator`: the checks of `__init__` are its last fields. -/
structure ServiceAuthenticator where
  service : ServiceName
  config : JibitConfig
  serviceConfig : ServiceConfig
  spec : AuthSpec
  engine : RequestEngine
  locks : LockProvider
  logger : StructuredLogger
  cacheKey : String
  documented : authSpecs service = some spec
  configured : config.services service = some serviceConfig ∧ serviceConfig.enabled = true
  keyed : buildCacheKey engine.rt config service serviceConfig = .ok cacheKey

namespace ServiceAuthenticator

variable (a : ServiceAuthenticator)

def rt : Runtime := a.engine.rt

def leeway : ℕ := a.config.auth.expiryLeewaySeconds

/-! ## 3. Token requests -/

/-- `_generation_body`. -/
def generationBody : Except PyError Json :=
  match a.serviceConfig.credentials.apiKey, a.serviceConfig.credentials.secretKey with
  | some apiKey, some secretKey =>
    let body := [(a.spec.apiKeyField, Json.str apiKey), (a.spec.secretKeyField, .str secretKey)]
    match a.spec.scopesField, a.serviceConfig.scopes with
    | some field, scope :: scopes =>
        .ok (.obj (body ++ [(field, .arr ((scope :: scopes).map .str))]))
    | _, _ => .ok (.obj body)
  | _, _ => .error (.jibit (.new a.rt .configuration
      s!"Service '{a.spec.service.value}' requires api_key and secret_key"))

/-- `_integer_field`; `True` is the integer one. -/
def integerField (body : List (String × Json)) (fieldName : Option String) : Option ℤ :=
  match fieldName.map (Json.get body) with
  | some (.int n) => if 0 < n then some n else none
  | some (.bool true) => some 1
  | _ => none

/-- A string field that is present and not empty. -/
def stringField (body : List (String × Json)) (fieldName : String) : Option String :=
  match Json.get body fieldName with
  | .str s => if s = "" then none else some s
  | _ => none

/-- `now + ttl if ttl is not None else None`. -/
def expiryAfter (now : ℚ) (ttl : Option ℤ) : Except BuiltinError (Option PyFloat) :=
  match ttl with
  | none => .ok none
  | some ttl => (PyFloat.addInt now ttl).map some

/-- The lifetime used when the access token is no JWT with an expiry. -/
def accessTtl (body : List (String × Json)) : Option ℤ :=
  (integerField body a.spec.expiresInField).or
    ((a.spec.documentedAccessTtlSeconds.or a.config.auth.unknownAccessTokenTtlSeconds).map (↑))

/-- The refresh lifetime of a response: its own field, else the documented one. -/
def refreshTtl (body : List (String × Json)) : Option ℤ :=
  (integerField body a.spec.refreshExpiresInField).or
    (a.spec.documentedRefreshTtlSeconds.map (↑))

/-- The refresh token a response leaves: its own, else the previous one. -/
def responseRefresh (body : List (String × Json)) (previous : Option TokenState) :
    Option String :=
  (stringField body a.spec.refreshResponseField).or (previous.bind TokenState.refreshValue)

/-- `refresh_expires_at` of the parsed token. -/
def refreshExpiry (body : List (String × Json)) (previous : Option TokenState) (now : ℚ) :
    Except BuiltinError (Option PyFloat) :=
  match a.refreshTtl body with
  | some ttl => expiryAfter now (some ttl)
  | none => match previous with
    | some previous =>
      if a.responseRefresh body (some previous) = previous.refreshValue then
        .ok previous.refreshExpiresAt
      else .ok none
    | none => .ok none

/-- The scopes of the parsed token. -/
def responseScopes (body : List (String × Json)) : List String :=
  match Json.get body "scopes" with
  | .arr items => items.map a.rt.str
  | _ => a.serviceConfig.scopes

/-- `expires_at` of the parsed token: the JWT's own expiry, else the lifetime. -/
def accessExpiry (body : List (String × Json)) (access : String) (now : ℚ) :
    Except BuiltinError (Option PyFloat) := do
  match ← jwtExpiry a.rt access with
  | some expiry => .ok (some expiry)
  | none => expiryAfter now (a.accessTtl body)

/-- The token a response body describes when it is read at `now`. -/
def parsedToken (body : List (String × Json)) (previous : Option TokenState) (access : String)
    (now : ℚ) : Except BuiltinError TokenState := do
  let expiresAt ← a.accessExpiry body access now
  let refreshExpiresAt ← a.refreshExpiry body previous now
  return {
    accessToken := access
    refreshToken := a.responseRefresh body previous
    expiresAt
    refreshExpiresAt
    tokenType := a.rt.str ((Json.get body "tokenType").pyOr (.str "Bearer"))
    scopes := a.responseScopes body }

/-- `_parse_token`. -/
def parseToken (body : List (String × Json)) (previous : Option TokenState) : Py TokenState :=
  match stringField body a.spec.accessResponseField with
  | none => Py.raise (.new a.rt .response "The token response has no access token")
  | some access => do
    let now ← Py.clock
    Py.builtin (a.parsedToken body previous access now)

/-- The options of a token request: `POST`, idempotent, nothing but a JSON body. -/
def tokenOptions (operation path : String) (body : Json) : RequestOptions :=
  { service := a.service, operation, method := "POST", path, safety := .idempotent,
    json := some body }

/-- The request `_request_token` builds. -/
def tokenRequest (refresh : Option TokenState) : Except PyError RequestOptions :=
  match refresh with
  | none => a.generationBody.map (a.tokenOptions "generate_token" a.spec.generatePath)
  | some refresh => match refresh.refreshValue with
    | none => .error (.jibit (.new a.rt .authentication "No refresh token is available"))
    | some value =>
      let body := [(a.spec.refreshTokenField, Json.str value)] ++
        match a.spec.refreshAccessTokenField with
        | some field => [(field, Json.str refresh.accessValue)]
        | none => []
      .ok (a.tokenOptions "refresh_token" a.spec.refreshPath (.obj body))

/-- The end of `_request_token`: a token out of the raw response. -/
def readToken (raw : RawResponse) (refresh : Option TokenState) : Py TokenState := do
  match ← Prog.ofExcept (raw.json a.rt) with
  | .obj body => a.parseToken body refresh
  | _ => Py.raise (.new a.rt .response "The token response must be a JSON object")

/-- `_request_token`. -/
def requestToken (refresh : Option TokenState) : Py TokenState := do
  let options ← Prog.ofExcept (a.tokenRequest refresh)
  let raw ← a.engine.execute .token options
  a.readToken raw refresh

/-! ## 4. Cache, refresh and recovery -/

/-- `_safe_get`: a state that cannot be decoded is deleted. -/
def safeGet : Py (Option TokenState) := do
  match ← Py.storeGet a.cacheKey with
  | .ok cached => pure cached
  | .error e =>
    if e.isValueError || e = .typeError then do
      Py.storeDelete a.cacheKey
      pure none
    else .throw (.builtin e)

/-- Store a new token and report where it came from. -/
def keep (token : TokenState) (event : EventName) (source : String) : Py TokenState := do
  Py.storeSet a.cacheKey token
  a.logger.emit a.rt .info event
    [("service", .str a.service.value), ("source", .str source)]
  pure token

/-- Credentials against a new token. -/
def acquire : Py TokenState := do
  let token ← a.requestToken none
  a.keep token .tokenAcquired "credentials"

/-- The classes that `_refresh_or_acquire` takes for a rejected refresh. -/
def refreshRejected (error : PyError) : Bool :=
  error.isKind .authentication || error.isKind .validation

/-- `_refresh_or_acquire`. -/
def refreshOrAcquire (cached : Option TokenState) (now : ℚ) : Py TokenState :=
  match cached.filter fun cached => cached.isRefreshValid now a.leeway with
  | some cached => do
    match ← (a.requestToken (some cached)).attempt with
    | .ok token => a.keep token .tokenRefreshed "refresh_token"
    | .error error =>
      if refreshRejected error then do
        a.logger.emit a.rt .warning .tokenRefreshFailed
          [("service", .str a.service.value), ("reason", .str "refresh_rejected")]
        a.acquire
      else .throw error
  | none => a.acquire

/-- `get_token`. -/
def getToken : Py TokenState := do
  let now ← Py.clock
  let cached ← a.safeGet
  match cached.filter fun cached => cached.isAccessValid now a.leeway with
  | some cached => pure cached
  | none => a.locks.lock a.cacheKey do
    let now ← Py.clock
    let cached ← a.safeGet
    match cached.filter fun cached => cached.isAccessValid now a.leeway with
    | some cached => pure cached
    | none => a.refreshOrAcquire cached now

/-- `recover_from_unauthorized`. -/
def recoverFromUnauthorized (rejectedAccessToken : String) : Py TokenState :=
  a.locks.lock a.cacheKey do
    let cached ← a.safeGet
    let now ← Py.clock
    match cached.filter fun cached =>
        cached.accessValue ≠ rejectedAccessToken && cached.isAccessValid now a.leeway with
    | some cached => pure cached
    | none => a.refreshOrAcquire cached now

/-- `invalidate`. -/
def invalidate : Py Unit := Py.storeDelete a.cacheKey

end ServiceAuthenticator

end JibitSdk.Sdk
