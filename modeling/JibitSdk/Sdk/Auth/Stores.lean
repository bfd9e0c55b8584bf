import JibitSdk.Sdk.Tokens

/-!
# Token stores

`to_cache_data` and `from_cache_data` of `jibit/auth/tokens.py`, and the three stores of
`jibit/auth/store.py`, `jibit/auth/redis.py` and `jibit/auth/django.py` over the contents of their
backends.
-/

namespace JibitSdk.Sdk

open JibitSdk.Python

/-! ## 1. Cached data -/

/-- A Python object as `from_cache_data` looks at it.  `other` is any object that is neither text
    nor a number: its `bool()`, its `str()`, and `tuple(str(item) for item in it)`. -/
inductive PyObject where
  | str (s : String)
  | bool (b : Bool)
  | int (n : ℤ)
  | float (x : PyFloat)
  | other (truth : Except BuiltinError Bool) (text : Except BuiltinError String)
      (items : Except BuiltinError (List String))

namespace PyObject

/-- `None`. -/
def none : PyObject := .other (.ok false) (.ok "None") (.error .typeError)

/-- What `json.loads` returns, as such an object. -/
def ofJson (rt : Runtime) : Json → PyObject
  | .null => none
  | .bool b => .bool b
  | .int n => .int n
  | .float x => .float x
  | .str s => .str s
  | .arr items => .other (.ok !items.isEmpty) (.ok (rt.str (.arr items))) (.ok (items.map rt.str))
  | .obj fields =>
    .other (.ok !fields.isEmpty) (.ok (rt.str (.obj fields))) (.ok (fields.map (·.1)))

/-- `value.get(key)`. -/
def get (fields : List (String × PyObject)) (key : String) : PyObject :=
  (fields.lookup key).getD none

/-- `bool(value)`. -/
def truthy : PyObject → Except BuiltinError Bool
  | .str s => .ok (s != "")
  | .bool b => .ok b
  | .int n => .ok (n != 0)
  | .float x => .ok (x != .finite 0)
  | .other truth _ _ => truth

/-- The digits of the longest integer `str()` accepts. -/
def intMaxStrDigits : ℕ := 4300

/-- `str(value)`. -/
def text (rt : Runtime) : PyObject → Except BuiltinError String
  | .str s => .ok s
  | .bool b => .ok (rt.str (.bool b))
  | .int n => if n.natAbs < 10 ^ intMaxStrDigits then .ok (rt.str (.int n)) else .error .valueError
  | .float x => .ok (rt.str (.float x))
  | .other _ text _ => text

/-- `tuple(str(item) for item in value)`; numbers are not iterable. -/
def items : PyObject → Except BuiltinError (List String)
  | .str s => .ok (s.toList.map String.singleton)
  | .bool _ | .int _ | .float _ => .error .typeError
  | .other _ _ items => items

end PyObject

/-- `_optional_float`: `bool` is an `int`. -/
def optionalFloat : PyObject → Except BuiltinError (Option PyFloat)
  | .bool b => .ok (some (.finite (if b then 1 else 0)))
  | .int n => (PyFloat.ofInt n).map some
  | .float x => .ok (some x)
  | .str _ | .other _ _ _ => .ok none

/-- The access token of cached data. -/
def cachedAccess (value : List (String × PyObject)) : Except BuiltinError String :=
  match PyObject.get value "access_token" with
  | .str s => if s = "" then .error .valueError else .ok s
  | _ => .error .valueError

/-- The refresh token of cached data. -/
def cachedRefresh (value : List (String × PyObject)) : Option String :=
  match PyObject.get value "refresh_token" with
  | .str s => some s
  | _ => none

/-- `str(value.get("token_type") or "Bearer")`. -/
def cachedTokenType (rt : Runtime) (value : List (String × PyObject)) :
    Except BuiltinError String := do
  let tokenType := PyObject.get value "token_type"
  if ← tokenType.truthy then tokenType.text rt else .ok "Bearer"

/-- `tuple(str(scope) for scope in value.get("scopes") or ())`. -/
def cachedScopes (value : List (String × PyObject)) : Except BuiltinError (List String) := do
  let scopes := PyObject.get value "scopes"
  if ← scopes.truthy then scopes.items else .ok []

/-- `TokenState.from_cache_data`. -/
def fromCacheData (rt : Runtime) (value : List (String × PyObject)) :
    Except BuiltinError TokenState := do
  let accessToken ← cachedAccess value
  let expiresAt ← optionalFloat (PyObject.get value "expires_at")
  let refreshExpiresAt ← optionalFloat (PyObject.get value "refresh_expires_at")
  let tokenType ← cachedTokenType rt value
  let scopes ← cachedScopes value
  return { accessToken, refreshToken := cachedRefresh value, expiresAt, refreshExpiresAt, tokenType,
           scopes }

/-- An optional expiry in cached data. -/
def expiryData : Option PyFloat → Json
  | none => .null
  | some x => .float x

/-- `TokenState.to_cache_data`. -/
def TokenState.toCacheData (t : TokenState) : List (String × Json) :=
  [("access_token", .str t.accessValue),
    ("refresh_token", match t.refreshValue with
      | none => .null
      | some value => .str value),
    ("expires_at", expiryData t.expiresAt),
    ("refresh_expires_at", expiryData t.refreshExpiresAt),
    ("token_type", .str t.tokenType),
    ("scopes", .arr (t.scopes.map .str))]

/-- A dictionary of JSON values as Python objects. -/
def objectsOf (rt : Runtime) (fields : List (String × Json)) : List (String × PyObject) :=
  fields.map fun field => (field.1, .ofJson rt field.2)

/-! ## 2. Backends -/

/-- `json` and UTF-8 on text. -/
structure JsonText where
  /-- `json.loads` of a `str`. -/
  loads : String → Except BuiltinError Json
  /-- `json.dumps(value, separators=(",", ":"))`. -/
  dumps : Json → String
  /-- `data.decode("utf-8")`. -/
  decodeUtf8 : List UInt8 → Except BuiltinError String

/-- What a Redis client returns for a name that is set. -/
inductive RedisValue where
  | text (s : String)
  | bytes (b : List UInt8)

/-- What a Django cache returns for a key that is set. -/
inductive DjangoValue where
  | dict (items : List (String × PyObject))
  | object

/-- The text of a client's answer. -/
def redisText (json : JsonText) : RedisValue → Except BuiltinError String
  | .text s => .ok s
  | .bytes b => json.decodeUtf8 b

/-- `RedisTokenStore.get`, of the client's answer. -/
def redisGet (rt : Runtime) (json : JsonText) :
    Option RedisValue → Except BuiltinError (Option TokenState)
  | none => .ok none
  | some value => do
    let text ← redisText json value
    match ← json.loads text with
    | .obj fields => return some (← fromCacheData rt (objectsOf rt fields))
    | _ => .error .valueError

/-- `DjangoCacheTokenStore.get`, of the cache's answer. -/
def djangoGet (rt : Runtime) : Option DjangoValue → Except BuiltinError (Option TokenState)
  | none => .ok none
  | some .object => .error .valueError
  | some (.dict items) => (fromCacheData rt items).map some

/-! ## 3. The stores -/

/-- A `TokenStore` over backends with contents of type `σ`. -/
structure TokenStore (σ : Type) where
  get : σ → String → Except BuiltinError (Option TokenState)
  set : σ → String → TokenState → σ
  delete : σ → String → σ

/-- `dict[key] = value`, or the key removed. -/
def assign {α : Type} (contents : String → Option α) (key : String) (value : Option α) :
    String → Option α :=
  fun other => if other = key then value else contents other

/-- `InMemoryTokenStore`. -/
def inMemoryTokenStore : TokenStore (String → Option TokenState) where
  get tokens key := .ok (tokens key)
  set tokens key token := assign tokens key (some token)
  delete tokens key := assign tokens key none

/-- `_key`, of both adapters. -/
def prefixedKey (keyPrefix key : String) : String := keyPrefix ++ ":" ++ key

/-- `RedisTokenStore`.  The client keeps what was set and returns it as text or as bytes. -/
def redisTokenStore (rt : Runtime) (json : JsonText) (answer : String → RedisValue)
    (keyPrefix : String) : TokenStore (String → Option String) where
  get names key := redisGet rt json ((names (prefixedKey keyPrefix key)).map answer)
  set names key token :=
    assign names (prefixedKey keyPrefix key) (some (json.dumps (.obj token.toCacheData)))
  delete names key := assign names (prefixedKey keyPrefix key) none

/-- `DjangoCacheTokenStore`; entries are set with `timeout=None`. -/
def djangoCacheTokenStore (rt : Runtime) (keyPrefix : String) :
    TokenStore (String → Option DjangoValue) where
  get cache key := djangoGet rt (cache (prefixedKey keyPrefix key))
  set cache key token :=
    assign cache (prefixedKey keyPrefix key) (some (.dict (objectsOf rt token.toCacheData)))
  delete cache key := assign cache (prefixedKey keyPrefix key) none

end JibitSdk.Sdk
