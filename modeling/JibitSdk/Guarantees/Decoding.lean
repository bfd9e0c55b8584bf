import JibitSdk.Guarantees.Interchange
import JibitSdk.Guarantees.TokenContract
import JibitSdk.Guarantees.TokenEndpoints
import JibitSdk.Reasoning.Fault

/-!
# Decoding tokens

Which store contents and which token responses `get_token` can read.  The handlers name `TypeError`
and `ValueError`; a conversion that raises another class, above all `float()` of an integer that no
double can hold, leaves the SDK as it is.
-/

namespace JibitSdk.Guarantees

open JibitSdk.Python JibitSdk.Reasoning JibitSdk.Sdk

/-! ## 1. Store contents -/

/-- What one of the stores finds under a key. -/
inductive StoreContent where
  | memory (token : Option TokenState)
  | redis (value : Option RedisValue)
  | django (value : Option DjangoValue)

/-- `store.get(key)` of this content. -/
def StoreContent.read (rt : Runtime) (json : JsonText) :
    StoreContent → Except BuiltinError (Option TokenState)
  | .memory token => .ok token
  | .redis value => redisGet rt json value
  | .django value => djangoGet rt value

/-- An integer that `float()` refuses. -/
def beyondDouble : PyObject → Bool
  | .int n => decide (PyFloat.intLimit ≤ n.natAbs)
  | _ => false

/-- Token type and scopes of cached data, read in this order. -/
def cachedLabels (rt : Runtime) (value : List (String × PyObject)) : Except BuiltinError Unit := do
  let _ ← cachedTokenType rt value
  let _ ← cachedScopes value
  return ()

/-- Cached data with an access token has no expiry beyond the doubles, and its token type and scopes
    raise nothing but type and value errors. -/
def HealingData (rt : Runtime) (value : List (String × PyObject)) : Prop :=
  ∀ access, cachedAccess value = .ok access →
    beyondDouble (PyObject.get value "expires_at") = false ∧
    beyondDouble (PyObject.get value "refresh_expires_at") = false ∧
    ∀ e, cachedLabels rt value = .error e → caught e = true

/-- Contents that are read, or refused with a type or value error. -/
def HealingContent (rt : Runtime) (json : JsonText) : StoreContent → Prop
  | .redis (some value) =>
    (∀ e, redisText json value = .error e → caught e = true) ∧
    ∀ text, redisText json value = .ok text →
      (∀ e, json.loads text = .error e → caught e = true) ∧
      ∀ fields, json.loads text = .ok (.obj fields) → HealingData rt (objectsOf rt fields)
  | .django (some (.dict items)) => HealingData rt items
  | _ => True

theorem optionalFloat_error {value : PyObject} {e : BuiltinError} :
    optionalFloat value = .error e ↔ beyondDouble value = true ∧ e = .overflowError := by
  cases value with
  | int n =>
    show (PyFloat.ofInt n).map some = .error e ↔ decide (PyFloat.intLimit ≤ n.natAbs) = true ∧ _
    unfold PyFloat.ofInt
    by_cases hn : n.natAbs < PyFloat.intLimit
    · rw [if_pos hn]
      exact ⟨fun h => (nomatch h), fun h => absurd hn (Nat.not_lt.mpr (of_decide_eq_true h.1))⟩
    · rw [if_neg hn]
      constructor
      · intro h
        cases h
        exact ⟨decide_eq_true (Nat.not_lt.mp hn), rfl⟩
      · rintro ⟨-, rfl⟩
        rfl
  | _ => exact ⟨fun h => (nomatch h), fun h => (nomatch h.1)⟩

theorem optionalFloat_ok {value : PyObject} (h : beyondDouble value = false) :
    ∃ x, optionalFloat value = .ok x := by
  cases hvalue : optionalFloat value with
  | ok x => exact ⟨x, rfl⟩
  | error e => exact nomatch h.symm.trans (optionalFloat_error.mp hvalue).1

theorem cachedAccess_error {value : List (String × PyObject)} {e : BuiltinError}
    (h : cachedAccess value = .error e) : caught e = true := by
  unfold cachedAccess at h
  split at h
  · split at h
    · cases h
      rfl
    · exact nomatch h
  · cases h
    rfl

/-- The labels decide once access token and expiries are read. -/
theorem fromCacheData_error_iff {rt : Runtime} {value : List (String × PyObject)} {access : String}
    {x y : Option PyFloat} (haccess : cachedAccess value = .ok access)
    (hx : optionalFloat (PyObject.get value "expires_at") = .ok x)
    (hy : optionalFloat (PyObject.get value "refresh_expires_at") = .ok y) (e : BuiltinError) :
    fromCacheData rt value = .error e ↔ cachedLabels rt value = .error e := by
  unfold fromCacheData cachedLabels
  rw [haccess, hx, hy]
  cases cachedTokenType rt value with
  | error e' => constructor <;> exact fun h => by cases h; rfl
  | ok tokenType =>
    cases cachedScopes value with
    | error e' => constructor <;> exact fun h => by cases h; rfl
    | ok scopes => exact ⟨fun h => (nomatch h), fun h => (nomatch h)⟩

theorem fromCacheData_heals_iff (rt : Runtime) (value : List (String × PyObject)) :
    (∀ e, fromCacheData rt value = .error e → caught e = true) ↔ HealingData rt value := by
  constructor
  -- one field after the other: the first that raises decides the exception
  · intro h access haccess
    have hexpires : beyondDouble (PyObject.get value "expires_at") = false := by
      by_contra hbeyond
      have herror := optionalFloat_error.mpr ⟨Bool.not_eq_false _ ▸ hbeyond, rfl⟩
      have := h .overflowError (by unfold fromCacheData; rw [haccess, herror]; rfl)
      exact absurd this (by decide)
    obtain ⟨x, hx⟩ := optionalFloat_ok hexpires
    have hrefresh : beyondDouble (PyObject.get value "refresh_expires_at") = false := by
      by_contra hbeyond
      have herror := optionalFloat_error.mpr ⟨Bool.not_eq_false _ ▸ hbeyond, rfl⟩
      have := h .overflowError (by unfold fromCacheData; rw [haccess, hx, herror]; rfl)
      exact absurd this (by decide)
    obtain ⟨y, hy⟩ := optionalFloat_ok hrefresh
    exact ⟨hexpires, hrefresh, fun e he => h e ((fromCacheData_error_iff haccess hx hy e).mpr he)⟩
  · intro h e he
    -- no exception comes before the access token is read
    cases haccess : cachedAccess value with
    | error e' =>
      unfold fromCacheData at he
      rw [haccess] at he
      cases he
      exact cachedAccess_error haccess
    | ok access =>
      obtain ⟨hexpires, hrefresh, hlabels⟩ := h access haccess
      obtain ⟨x, hx⟩ := optionalFloat_ok hexpires
      obtain ⟨y, hy⟩ := optionalFloat_ok hrefresh
      exact hlabels e ((fromCacheData_error_iff haccess hx hy e).mp he)

/-- `from_cache_data`, of what `json.loads` returned. -/
def loadedData (rt : Runtime) : Json → Except BuiltinError (Option TokenState)
  | .obj fields => (fromCacheData rt (objectsOf rt fields)).map some
  | _ => .error .valueError

theorem redisGet_some (rt : Runtime) (json : JsonText) (value : RedisValue) :
    redisGet rt json (some value) =
      (redisText json value).bind fun text => (json.loads text).bind (loadedData rt) := by
  show (do
    let text ← redisText json value
    match ← json.loads text with
    | .obj fields => return some (← fromCacheData rt (objectsOf rt fields))
    | _ => .error .valueError : Except BuiltinError (Option TokenState)) = _
  -- text, then JSON, then the cached data
  cases redisText json value with
  | error e => rfl
  | ok text =>
    show (do
      match ← json.loads text with
      | .obj fields => return some (← fromCacheData rt (objectsOf rt fields))
      | _ => .error .valueError : Except BuiltinError (Option TokenState)) =
        (json.loads text).bind (loadedData rt)
    cases json.loads text with
    | error e => rfl
    | ok loaded =>
      cases loaded with
      | obj fields =>
        show (do return some (← fromCacheData rt (objectsOf rt fields)) :
          Except BuiltinError (Option TokenState)) =
            (fromCacheData rt (objectsOf rt fields)).map some
        cases fromCacheData rt (objectsOf rt fields) <;> rfl
      | _ => rfl

theorem map_some_error_iff {α : Type} {x : Except BuiltinError α} {e : BuiltinError} :
    x.map some = .error e ↔ x = .error e := by
  cases x with
  | error e' => constructor <;> exact fun h => by cases h; rfl
  | ok a => exact ⟨fun h => (nomatch h), fun h => (nomatch h)⟩

/-- A content heals exactly when reading it raises no other class. -/
theorem read_heals_iff (rt : Runtime) (json : JsonText) (content : StoreContent) :
    (∀ e, content.read rt json = .error e → caught e = true) ↔ HealingContent rt json content := by
  -- by store: the in-memory one decodes nothing
  cases content with
  | memory token => exact ⟨fun _ => trivial, fun _ e he => nomatch he⟩
  | django value =>
    rcases value with _ | items | _
    · exact ⟨fun _ => trivial, fun _ e he => nomatch he⟩
    · rw [HealingContent, ← fromCacheData_heals_iff]
      show (∀ e, (fromCacheData rt items).map some = .error e → _) ↔ _
      simp only [map_some_error_iff]
    · exact ⟨fun _ => trivial, fun _ e he => by cases he; rfl⟩
  | redis value =>
    rcases value with _ | value
    · exact ⟨fun _ => trivial, fun _ e he => nomatch he⟩
    -- the client's answer is decoded, then parsed, then read as cached data
    · rw [HealingContent, StoreContent.read]
      cases htext : redisText json value with
      | error e' =>
        rw [redisGet_some, htext]
        constructor
        · exact fun h => ⟨fun e he => h e (by cases he; rfl), fun text h' => (nomatch h')⟩
        · exact fun h e he => h.1 e (by cases he; rfl)
      | ok text =>
        rw [redisGet_some, htext]
        change (∀ e, (json.loads text).bind (loadedData rt) = .error e → _) ↔ _
        cases hloads : json.loads text with
        | error e' =>
          constructor
          · intro h
            refine ⟨fun e he => (nomatch he), fun text' htext' => ?_⟩
            cases htext'
            rw [hloads]
            exact ⟨fun e he => h e (by cases he; rfl), fun fields hfields => (nomatch hfields)⟩
          · intro h e he
            exact (h.2 text rfl).1 e (hloads.trans (by cases he; rfl))
        | ok loaded =>
          constructor
          · intro h
            refine ⟨fun e he => (nomatch he), fun text' htext' => ?_⟩
            cases htext'
            refine ⟨fun e he => (nomatch hloads.symm.trans he), fun fields hfields => ?_⟩
            cases hloads.symm.trans hfields
            rw [← fromCacheData_heals_iff]
            exact fun e he => h e (map_some_error_iff.mpr he)
          · intro h e he
            cases loaded with
            | obj fields =>
              have hdata := (h.2 text rfl).2 fields hloads
              exact (fromCacheData_heals_iff rt _).mpr hdata e (map_some_error_iff.mp he)
            | _ =>
              cases he
              rfl

/-! ## 2. Token responses -/

/-- The payload of a three-part token. -/
def jwtPayload (access : String) : Option (List Char) :=
  match access.toList.splitOn '.' with
  | [_, payload, _] => some payload
  | _ => none

/-- What the payload decodes to. -/
def decodedPayload (rt : Runtime) (payload : List Char) : Except BuiltinError Json := do
  let padded := payload ++ List.replicate ((4 - payload.length % 4) % 4) '='
  rt.jsonLoads (← urlsafeB64decode (← encodeAscii padded))

/-- The `exp` claim; `null` where there is none. -/
def expClaim (rt : Runtime) (payload : List Char) : Json :=
  match decodedPayload rt payload with
  | .ok (.obj fields) => Json.get fields "exp"
  | _ => .null

/-- A claim that `float()` turns into an expiry. -/
def isTimestamp (rt : Runtime) : Json → Bool
  | .bool _ | .float _ => true
  | .int n => n.natAbs < PyFloat.intLimit
  | .str s => (rt.floatOfStr s).isSome
  | .null | .arr _ | .obj _ => false

/-- Decoding this token's payload raises nothing but type and value errors, and its `exp` claim is
    no integer beyond the doubles. -/
def ReadableJwt (rt : Runtime) (access : String) : Prop :=
  ∀ payload, jwtPayload access = some payload →
    (∀ e, decodedPayload rt payload = .error e → caught e = true) ∧
    ∀ n : ℤ, expClaim rt payload = .int n → n.natAbs < PyFloat.intLimit

/-- The token carries an expiry of its own. -/
def carriesExpiry (rt : Runtime) (access : String) : Bool :=
  (jwtPayload access).any fun payload => isTimestamp rt (expClaim rt payload)

/-- `float(expiry) if expiry is not None else None`. -/
def claimExpiry (rt : Runtime) : Json → Except BuiltinError (Option PyFloat)
  | .null => .ok none
  | claim => (rt.float claim).map some

theorem payloadExpiry_eq (rt : Runtime) (payload : List Char) :
    payloadExpiry rt payload =
      (decodedPayload rt payload).bind fun _ => claimExpiry rt (expClaim rt payload) := by
  unfold payloadExpiry expClaim decodedPayload
  dsimp only
  cases encodeAscii (payload ++ List.replicate ((4 - payload.length % 4) % 4) '=') with
  | error e => rfl
  | ok ascii =>
    dsimp only [bind, Except.bind]
    cases urlsafeB64decode ascii with
    | error e => rfl
    | ok bytes =>
      dsimp only
      cases rt.jsonLoads bytes with
      | error e => rfl
      | ok decoded => cases decoded <;> rfl

/-- A claim is a timestamp, raises a type or value error or is absent, or is
    an integer too large. -/
theorem claimExpiry_cases (rt : Runtime) (claim : Json) :
    (isTimestamp rt claim = true ∧ ∃ x, claimExpiry rt claim = .ok (some x)) ∨
    (isTimestamp rt claim = false ∧ (claimExpiry rt claim = .ok none ∨
      ∃ e, claimExpiry rt claim = .error e ∧ caught e = true)) ∨
    (∃ n : ℤ, claim = .int n ∧ ¬ n.natAbs < PyFloat.intLimit) := by
  -- by what `float` makes of the value
  cases claim with
  | null => exact .inr (.inl ⟨rfl, .inl rfl⟩)
  | bool b => exact .inl ⟨rfl, _, rfl⟩
  | float x => exact .inl ⟨rfl, x, rfl⟩
  | int n =>
    by_cases hn : n.natAbs < PyFloat.intLimit
    · refine .inl ⟨?_, .finite n, ?_⟩
      · show decide (n.natAbs < PyFloat.intLimit) = true
        exact decide_eq_true hn
      · show (PyFloat.ofInt n).map some = _
        rw [PyFloat.ofInt, if_pos hn]
        rfl
    -- an integer beyond the doubles is the only one that raises an `OverflowError`
    · exact .inr (.inr ⟨n, rfl, hn⟩)
  | str s =>
    cases hs : rt.floatOfStr s with
    | some x =>
      refine .inl ⟨?_, x, ?_⟩
      · simp only [isTimestamp, hs, Option.isSome_some]
      · simp only [claimExpiry, Runtime.float, hs]
        rfl
    | none =>
      refine .inr (.inl ⟨?_, .inr ⟨.valueError, ?_, rfl⟩⟩)
      · simp only [isTimestamp, hs, Option.isSome_none]
      · simp only [claimExpiry, Runtime.float, hs]
        rfl
  | arr items => exact .inr (.inl ⟨rfl, .inr ⟨_, rfl, rfl⟩⟩)
  | obj fields => exact .inr (.inl ⟨rfl, .inr ⟨_, rfl, rfl⟩⟩)

theorem claimExpiry_overflow {rt : Runtime} {n : ℤ} (hn : ¬ n.natAbs < PyFloat.intLimit) :
    claimExpiry rt (.int n) = .error .overflowError := by
  show (PyFloat.ofInt n).map some = _
  rw [PyFloat.ofInt, if_neg hn]
  rfl

/-- The `except` clause of `jwt_expiry`. -/
def expiryOrNone : Except BuiltinError (Option PyFloat) → Except BuiltinError (Option PyFloat)
  | .ok expiry => .ok expiry
  | .error e => if caught e then .ok none else .error e

theorem expiryOrNone_caught {e : BuiltinError} (h : caught e = true) :
    expiryOrNone (.error e) = .ok none :=
  if_pos h

theorem expiryOrNone_other {e : BuiltinError} (h : ¬ caught e = true) :
    expiryOrNone (.error e) = .error e :=
  if_neg h

theorem jwtExpiry_of_payload {rt : Runtime} {access : String} {payload : List Char}
    (h : jwtPayload access = some payload) :
    jwtExpiry rt access = expiryOrNone (payloadExpiry rt payload) := by
  unfold jwtPayload at h
  unfold jwtExpiry
  generalize access.toList.splitOn '.' = parts at h ⊢
  match parts, h with
  | [_, _, _], h =>
    cases h
    rfl
  | [], h => exact nomatch h
  | [_], h => exact nomatch h
  | [_, _], h => exact nomatch h
  | _ :: _ :: _ :: _ :: _, h => exact nomatch h

theorem jwtExpiry_of_none {rt : Runtime} {access : String} (h : jwtPayload access = none) :
    jwtExpiry rt access = .ok none := by
  unfold jwtPayload at h
  unfold jwtExpiry
  generalize access.toList.splitOn '.' = parts at h ⊢
  match parts, h with
  | [_, _, _], h => exact nomatch h
  | [], _ => rfl
  | [_], _ => rfl
  | [_, _], _ => rfl
  | _ :: _ :: _ :: _ :: _, _ => rfl

/-- A readable token has an expiry or none; an unreadable one raises another class. -/
theorem jwtExpiry_cases (rt : Runtime) (access : String) :
    (ReadableJwt rt access ∧ ∃ expiry, jwtExpiry rt access = .ok expiry ∧
      expiry.isSome = carriesExpiry rt access) ∨
    (¬ ReadableJwt rt access ∧ ∃ e, jwtExpiry rt access = .error e) := by
  unfold ReadableJwt carriesExpiry
  cases hpayload : jwtPayload access with
  | none => exact .inl ⟨fun payload h => (nomatch h), none, jwtExpiry_of_none hpayload, rfl⟩
  | some payload =>
    rw [jwtExpiry_of_payload hpayload, payloadExpiry_eq, Option.any_some]
    -- there is one payload, so the quantifier over payloads is about it
    have hreadable : (∀ payload', some payload = some payload' →
        (∀ e, decodedPayload rt payload' = .error e → caught e = true) ∧
        ∀ n : ℤ, expClaim rt payload' = .int n → n.natAbs < PyFloat.intLimit) ↔
        (∀ e, decodedPayload rt payload = .error e → caught e = true) ∧
        ∀ n : ℤ, expClaim rt payload = .int n → n.natAbs < PyFloat.intLimit :=
      ⟨fun h => h payload rfl, fun h payload' heq => Option.some.inj heq ▸ h⟩
    rw [hreadable]
    -- an error of the decoding is caught or not; a decoded payload has its claim
    cases hdecoded : decodedPayload rt payload with
    | error e =>
      have hclaim : expClaim rt payload = .null := by
        unfold expClaim
        rw [hdecoded]
      rw [hclaim]
      change _ ∧ (∃ expiry, expiryOrNone (.error e) = .ok expiry ∧ _) ∨
        _ ∧ ∃ e', expiryOrNone (.error e) = .error e'
      by_cases he : caught e = true
      · rw [expiryOrNone_caught he]
        refine .inl ⟨⟨fun e' he' => ?_, fun n hn => (nomatch hn)⟩, none, rfl, rfl⟩
        cases he'
        exact he
      · rw [expiryOrNone_other he]
        exact .inr ⟨fun h => he (h.1 e rfl), e, rfl⟩
    | ok decoded =>
      have hnone : ∀ e, (.ok decoded : Except BuiltinError Json) = .error e → caught e = true :=
        fun e he => nomatch he
      change _ ∧ (∃ expiry, expiryOrNone (claimExpiry rt (expClaim rt payload)) = .ok expiry ∧ _) ∨
        _ ∧ ∃ e', expiryOrNone (claimExpiry rt (expClaim rt payload)) = .error e'
      -- a timestamp, another value that is caught, or an integer beyond the doubles
      rcases claimExpiry_cases rt (expClaim rt payload) with ⟨htime, x, hx⟩
        | ⟨htime, h⟩ | ⟨n, hn, hbig⟩
      · have hsmall : ∀ n : ℤ, expClaim rt payload = .int n → n.natAbs < PyFloat.intLimit := by
          intro n hn
          rw [hn] at htime
          change decide (n.natAbs < PyFloat.intLimit) = true at htime
          exact of_decide_eq_true htime
        rw [hx, htime]
        exact .inl ⟨⟨hnone, hsmall⟩, some x, rfl, rfl⟩
      · have hsmall : ∀ n : ℤ, expClaim rt payload = .int n → n.natAbs < PyFloat.intLimit := by
          intro n hn
          by_contra hbig
          rw [hn, claimExpiry_overflow hbig] at h
          rcases h with h | ⟨e, h, he⟩
          · exact nomatch h
          · cases h
            exact absurd he (by decide)
        rw [htime]
        rcases h with h | ⟨e, h, he⟩
        · rw [h]
          exact .inl ⟨⟨hnone, hsmall⟩, none, rfl, rfl⟩
        · rw [h, expiryOrNone_caught he]
          exact .inl ⟨⟨hnone, hsmall⟩, none, rfl, rfl⟩
      · rw [hn, claimExpiry_overflow hbig]
        exact .inr ⟨fun h => hbig (h.2 n rfl), .overflowError, rfl⟩

/-- What a token can be read from, or is refused with the SDK's own errors: the body decodes or
    fails as `response.json` expects, and an object with an access token brings a readable token and
    lifetimes that can be added to a time. -/
def ReadableTokenBody (a : ServiceAuthenticator) (content : List UInt8) : Prop :=
  (∀ e, a.rt.jsonLoads content = .error e → e = .unicodeDecodeError ∨ e = .jsonDecodeError) ∧
  ∀ body access, a.rt.jsonLoads content = .ok (.obj body) →
    ServiceAuthenticator.stringField body a.spec.accessResponseField = some access →
      ReadableJwt a.rt access ∧
      (carriesExpiry a.rt access = false → addable (a.accessTtl body) = true) ∧
      addable (a.refreshTtl body) = true

/-- An exception that is not one of the SDK's. -/
def isBuiltin : PyError → Prop
  | .builtin _ => True
  | .jibit _ => False

theorem parsedToken_readable_iff {a : ServiceAuthenticator} {body : List (String × Json)}
    {previous : Option TokenState} {access : String} {now : ℚ} :
    (∃ token, a.parsedToken body previous access now = .ok token) ↔
      ReadableJwt a.rt access ∧
      (carriesExpiry a.rt access = false → addable (a.accessTtl body) = true) ∧
      addable (a.refreshTtl body) = true := by
  have hok : (∃ token, a.parsedToken body previous access now = .ok token) ↔
      (a.parsedToken body previous access now).toBool = true := by
    cases a.parsedToken body previous access now with
    | ok token => exact ⟨fun _ => rfl, fun _ => ⟨token, rfl⟩⟩
    | error e => exact ⟨fun ⟨_, h⟩ => (nomatch h), fun h => (nomatch h)⟩
  rw [hok, parsedToken_isOk, accessExpiry_isOk, refreshExpiry_isOk, Bool.and_eq_true]
  rcases jwtExpiry_cases a.rt access with ⟨hreadable, expiry, hexpiry, hcarries⟩
    | ⟨hunreadable, e, he⟩
  · rw [hexpiry, ← hcarries]
    cases expiry with
    | none => exact ⟨fun h => ⟨hreadable, fun _ => h.1, h.2⟩, fun h => ⟨h.2.1 rfl, h.2.2⟩⟩
    | some x => exact ⟨fun h => ⟨hreadable, fun hx => (nomatch hx), h.2⟩, fun h => ⟨rfl, h.2.2⟩⟩
  · rw [he]
    exact ⟨fun h => (nomatch h.1), fun h => absurd h.1 hunreadable⟩

/-- Reading a token fails with a built-in exception exactly if the body is unreadable. -/
theorem tokenAt_builtin_iff {a : ServiceAuthenticator} {refresh : Option TokenState}
    {response : TransportResponse} {correlationId : String} {now : ℚ} :
    (∃ e, tokenAt a refresh (rawResponse response correlationId) now = .error e ∧ isBuiltin e) ↔
      ¬ ReadableTokenBody a response.content := by
  unfold tokenAt RawResponse.json ReadableTokenBody rawResponse
  -- by what the content decodes to
  cases hloads : a.rt.jsonLoads response.content with
  | error e =>
    by_cases he : e = .unicodeDecodeError ∨ e = .jsonDecodeError
    · simp only [if_pos he]
      constructor
      · rintro ⟨e', he', hbuiltin⟩
        cases he'
        exact hbuiltin.elim
      · intro h
        refine absurd ⟨fun e' he' => ?_, fun body access hbody => (by cases hbody)⟩ h
        cases he'
        exact he
    · simp only [if_neg he]
      exact ⟨fun _ h => he (h.1 e rfl), fun _ => ⟨_, rfl, trivial⟩⟩
  -- the content is JSON: only its fields can raise
  | ok value =>
    have hloaded : ∀ e, (.ok value : Except BuiltinError Json) = .error e →
        e = .unicodeDecodeError ∨ e = .jsonDecodeError := fun e he => by cases he
    cases value with
    | obj body =>
      cases haccess : ServiceAuthenticator.stringField body a.spec.accessResponseField with
      | none =>
        simp only [haccess]
        constructor
        · rintro ⟨e', he', hbuiltin⟩
          cases he'
          exact hbuiltin.elim
        · intro h
          refine absurd ⟨hloaded, fun body' access hbody hfield => ?_⟩ h
          cases hbody
          cases (haccess.symm.trans hfield)
      | some access =>
        simp only [haccess]
        have hparsed : (∃ token, a.parsedToken body refresh access now = .ok token) ↔ _ :=
          parsedToken_readable_iff
        cases htoken : a.parsedToken body refresh access now with
        | ok token =>
          constructor
          · rintro ⟨e', he', -⟩
            cases he'
          · intro h
            refine absurd ⟨hloaded, fun body' access' hbody hfield => ?_⟩ h
            cases hbody
            cases haccess.symm.trans hfield
            exact hparsed.mp ⟨token, htoken⟩
        | error e =>
          refine ⟨fun _ h => ?_, fun _ => ⟨_, rfl, trivial⟩⟩
          obtain ⟨token, htoken'⟩ := hparsed.mpr (h.2 body access rfl haccess)
          cases (htoken.symm.trans htoken')
    | _ =>
      constructor
      · rintro ⟨e', he', hbuiltin⟩
        cases he'
        exact hbuiltin.elim
      · intro h
        exact absurd ⟨hloaded, fun body access hbody => (by cases hbody)⟩ h

end JibitSdk.Guarantees
