import JibitSdk.Sdk.Auth.Provider

/-!
# Request executors

`jibit/auth/authenticated.py` and `jibit/auth/static.py`: execution with a managed token, with one
replay after a 401, and execution with a configured static token.
-/

namespace JibitSdk.Sdk

open JibitSdk.Python JibitSdk.Reasoning

/-- `headers[name] = value`. -/
def setHeader (headers : List (String × String)) (name value : String) :
    List (String × String) :=
  if (headers.lookup name).isSome then
    headers.map fun h => if h.1 = name then (name, value) else h
  else headers ++ [(name, value)]

/-- `_authorize`. -/
def authorize (options : RequestOptions) (tokenType accessToken : String) : RequestOptions :=
  { options with
    headers := setHeader options.headers "Authorization" (tokenType ++ " " ++ accessToken) }

/-- `_can_replay`. -/
def canReplay (options : RequestOptions) : Bool :=
  options.safety = .readOnly || options.safety = .idempotent ||
    (options.safety = .idempotencyProtected && options.idempotencyKey.isSome)

structure AuthenticatedRequestEngine where
  engine : RequestEngine
  authenticator : ServiceAuthenticator

namespace AuthenticatedRequestEngine

variable (x : AuthenticatedRequestEngine)

/-- Run the operation with this token. -/
def sendWith (options : RequestOptions) (token : TokenState) : Py RawResponse :=
  x.engine.execute (.operation token.accessValue)
    (authorize options token.tokenType token.accessValue)

/-- The replay after a successful recovery. -/
def replay (options : RequestOptions) (replacement : TokenState) : Py RawResponse := do
  match ← (x.sendWith options replacement).attempt with
  | .ok response => pure response
  | .error error =>
    if error.isKind .authentication then do
      x.authenticator.invalidate
      .throw error
    else .throw error

/-- `AuthenticatedRequestEngine.execute`. -/
def execute (options : RequestOptions) : Py RawResponse := do
  let token ← x.authenticator.getToken
  match ← (x.sendWith options token).attempt with
  | .ok response => pure response
  | .error error =>
    if error.isKind .authentication then
      if canReplay options then do
        let replacement ← x.authenticator.recoverFromUnauthorized token.accessValue
        x.replay options replacement
      else do
        x.authenticator.invalidate
        .throw error
    else .throw error

end AuthenticatedRequestEngine

structure StaticBearerRequestEngine where
  engine : RequestEngine
  accessToken : String

/-- `StaticBearerRequestEngine.execute`. -/
def StaticBearerRequestEngine.execute (x : StaticBearerRequestEngine) (options : RequestOptions) :
    Py RawResponse :=
  x.engine.execute (.operation x.accessToken) (authorize options "Bearer" x.accessToken)

/-- `RequestExecutor`: the two executors a service facade runs on. -/
inductive RequestExecutor where
  | authenticated (x : AuthenticatedRequestEngine)
  | staticBearer (x : StaticBearerRequestEngine)

def RequestExecutor.execute : RequestExecutor → RequestOptions → Py RawResponse
  | .authenticated x => x.execute
  | .staticBearer x => x.execute

end JibitSdk.Sdk
