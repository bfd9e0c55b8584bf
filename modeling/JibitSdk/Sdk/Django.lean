import JibitSdk.Reasoning.Atomic
import JibitSdk.Sdk.Settings

/-!
# The client of a Django process

`jibit/django/client.py`, with the construction and the closing of the `JibitClient` it holds
(`jibit/client.py`).
-/

namespace JibitSdk.Sdk

open JibitSdk.Python JibitSdk.Reasoning JibitSdk.Sdk.ConfigModels

/-! ## 1. Operations -/

/-- What the module does to the process: Django, the HTTP clients, the global `_client`, and the
    `_closed` attribute of a client.  Clients are numbered in the order they are built. -/
inductive DjangoOp where
  /-- The two imports of `_load_settings`. -/
  | importDjango
  /-- `getattr(settings, "JIBIT", None)`. -/
  | readSettings
  /-- `caches[alias]`, with its import. -/
  | openCache (cacheAlias : String)
  /-- `HttpxTransport(verify_ssl, user_agent)` of a new client. -/
  | openTransport (verifySsl userAgent : Obj)
  | readClient
  | writeClient (client : Option ℕ)
  | readClosed (client : ℕ)
  | writeClosed (client : ℕ)
  /-- `self._transport.close()`. -/
  | closeTransport (client : ℕ)

/-- Answers; whatever belongs to Django or to httpx may raise. -/
abbrev DjangoOp.Answer : DjangoOp → Type
  | .importDjango => Bool
  | .readSettings => Except BuiltinError Obj
  | .openCache _ => Option BuiltinError
  | .openTransport _ _ => Except BuiltinError ℕ
  | .readClient => Option ℕ
  | .writeClient _ => Unit
  | .readClosed _ => Bool
  | .writeClosed _ => Unit
  | .closeTransport _ => Option BuiltinError

abbrev djangoEffects : Signature := ⟨DjangoOp, DjangoOp.Answer⟩

/-- Code of the module: it may raise a Python exception. -/
abbrev DjangoPy (α : Type) : Type := Prog djangoEffects PyError α

/-- `None`, or the exception that a call has raised. -/
def DjangoPy.unlessRaised (raised : Option BuiltinError) : DjangoPy Unit :=
  match raised with
  | none => pure ()
  | some e => .throw (.builtin e)

/-! ## 2. The life of a client -/

/-- `JibitClient.close`; this client owns its transport. -/
def closeClient (client : ℕ) : DjangoPy Unit := do
  if ← Prog.perform (S := djangoEffects) (.readClosed client) then
    pure ()
  else
    let raised ← Prog.perform (S := djangoEffects) (.closeTransport client)
    DjangoPy.unlessRaised raised
    Prog.perform (S := djangoEffects) (.writeClosed client)

/-- `JibitClient.from_config` of a mapping: the transport is the only part that reaches outside. -/
def clientFromConfig (c : Coercions) (dictOfOther : Obj → Except BuiltinError (List (String × Obj)))
    (config : List (String × Obj)) : DjangoPy ℕ := do
  let validated ← Prog.ofExcept (fromMapping c dictOfOther config)
  let self := Obj.obj validated.fields
  match ← Prog.perform (S := djangoEffects)
      (.openTransport (self.attr "verify_ssl") (self.attr "user_agent")) with
  | .ok client => pure client
  | .error e => .throw (.builtin e)

/-! ## 3. The settings -/

/-- `JibitConfigurationError(message)`. -/
def configurationError (rt : Runtime) (message : String) : PyError :=
  .jibit (.new rt .configuration message)

/-- `_load_settings`: the configuration and the integration options. -/
def loadSettings (rt : Runtime) : DjangoPy (List (String × Obj) × List (String × Obj)) := do
  if !(← Prog.perform (S := djangoEffects) .importDjango) then
    .throw (configurationError rt "Django integration requires the 'django' optional dependency")
  else
    match ← Prog.perform (S := djangoEffects) .readSettings with
    | .error e =>
      if e = .other "ImproperlyConfigured" then
        .throw (configurationError rt "Django settings are not configured")
      else .throw (.builtin e)
    | .ok (.obj value) => match (value.lookup "integration").getD (.obj []) with
      | .obj integration => pure (popKey value "integration", integration)
      | _ => .throw (configurationError rt "JIBIT['integration'] must be a mapping")
    | .ok _ => .throw (configurationError rt "Django setting JIBIT must be a mapping")

/-- `isinstance(value, str) and value`. -/
def nonEmptyText : Obj → Option String
  | .str s => if s = "" then none else some s
  | _ => none

/-- An option that has to be a text with something in it, if it is there. -/
def textOption (rt : Runtime) (options : List (String × Obj)) (name : String) :
    Except PyError (Option String) :=
  match (options.lookup name).getD .null with
  | .null => .ok none
  | value => match nonEmptyText value with
    | some text => .ok (some text)
    | none => .error (configurationError rt (name ++ " must be a non-empty string"))

/-- The checks of the integration options: the alias and the key prefix of the Django cache, or
    `none` for the store of the process. -/
def integrationOptions (rt : Runtime) (options : List (String × Obj)) :
    Except PyError (Option (String × String)) :=
  match (options.lookup "use_django_cache").getD (.bool false) with
  | .bool useDjangoCache => do
    let cacheAlias ← textOption rt options "cache_alias"
    let cacheKeyPrefix ← textOption rt options "cache_key_prefix"
    let unknown := options.filter fun entry =>
      !(["use_django_cache", "cache_alias", "cache_key_prefix"].contains entry.1)
    if !unknown.isEmpty then
      .error (configurationError rt ("Unknown Django integration options: " ++
        ", ".intercalate ((unknown.map Prod.fst).mergeSort fun a b => a ≤ b)))
    else if useDjangoCache then
      .ok (some (cacheAlias.getD "default", cacheKeyPrefix.getD "jibit-token"))
    else if cacheAlias.isSome || cacheKeyPrefix.isSome then
      .error
        (configurationError rt "cache_alias and cache_key_prefix require use_django_cache=true")
    else .ok none
  | _ => .error (configurationError rt "use_django_cache must be a boolean")

/-- `DjangoCacheTokenStore(alias, key_prefix)`, when the cache is used. -/
def openTokenStore (tokenStore : Option (String × String)) : DjangoPy Unit :=
  match tokenStore with
  | none => pure ()
  | some (cacheAlias, _) => do
    let raised ← Prog.perform (S := djangoEffects) (.openCache cacheAlias)
    DjangoPy.unlessRaised raised

/-! ## 4. The two functions -/

section
variable (rt : Runtime) (c : Coercions)
  (dictOfOther : Obj → Except BuiltinError (List (String × Obj)))

/-- `get_jibit_client`, under the lock. -/
def getJibitClient : DjangoPy ℕ := do
  match ← Prog.perform (S := djangoEffects) .readClient with
  | some client => pure client
  | none =>
    let (config, options) ← loadSettings rt
    let tokenStore ← Prog.ofExcept (integrationOptions rt options)
    openTokenStore tokenStore
    let client ← clientFromConfig c dictOfOther config
    let _ ← Prog.perform (S := djangoEffects) (.writeClient (some client))
    pure client

/-- `close_jibit_client`, under the lock. -/
def closeJibitClient : DjangoPy Unit := do
  match ← Prog.perform (S := djangoEffects) .readClient with
  | some client =>
    closeClient client
    Prog.perform (S := djangoEffects) (.writeClient none)
  | none => pure ()

/-- What the module offers to the threads of the process. -/
inductive DjangoCall where
  | getJibitClient
  | closeJibitClient
  deriving DecidableEq

/-- A call returns or raises; in both cases the lock is given back first. -/
abbrev DjangoCall.Answer : DjangoCall → Type
  | .getJibitClient => Except PyError ℕ
  | .closeJibitClient => Except PyError Unit

abbrev djangoCalls : Signature := ⟨DjangoCall, DjangoCall.Answer⟩

/-- The section of each call. -/
def djangoBody : (call : djangoCalls.Op) → Prog djangoEffects Empty (djangoCalls.Answer call)
  | .getJibitClient => (getJibitClient rt c dictOfOther).attempt
  | .closeJibitClient => closeJibitClient.attempt

end

end JibitSdk.Sdk
