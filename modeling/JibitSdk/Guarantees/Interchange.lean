import JibitSdk.Guarantees.CachedData
import JibitSdk.Guarantees.Submission
import JibitSdk.Guarantees.World
import JibitSdk.Reasoning.Lockstep

/-!
# Interchangeable token stores

The three stores are one map from keys to token states.  The in-memory store is that map; the other
two keep cached data under prefixed keys, and reading undoes writing for every state that
`_parse_token` can produce.
-/

namespace JibitSdk.Guarantees

open JibitSdk.Python JibitSdk.Reasoning JibitSdk.Sdk

/-! ## 1. Parsed states are storable -/

/-- The states `_parse_token` can produce. -/
def Produced (rt : Runtime) (t : TokenState) : Prop :=
  ∃ (a : ServiceAuthenticator) (body : List (String × Json)) (previous : Option TokenState)
    (access : String) (now : ℚ), a.rt = rt ∧
    ServiceAuthenticator.stringField body a.spec.accessResponseField = some access ∧
    a.parsedToken body previous access now = .ok t

theorem stringField_ne {body : List (String × Json)} {field value : String}
    (h : ServiceAuthenticator.stringField body field = some value) : value ≠ "" := by
  unfold ServiceAuthenticator.stringField at h
  split at h
  · split at h
    · exact nomatch h
    · rename_i hne
      exact fun heq => hne (Option.some.inj h ▸ heq)
  · exact nomatch h

theorem pyOr_truthy (a b : Json) (hb : b.truthy = true) : (a.pyOr b).truthy = true := by
  unfold Json.pyOr
  split
  · assumption
  · exact hb

/-- Every parsed state is storable; `str()` of a truthy JSON value is never empty. -/
theorem parsedToken_storable {a : ServiceAuthenticator} {body : List (String × Json)}
    {previous : Option TokenState} {access : String} {now : ℚ} {t : TokenState}
    (hstr : ∀ value : Json, value.truthy = true → a.rt.str value ≠ "")
    (haccess : ServiceAuthenticator.stringField body a.spec.accessResponseField = some access)
    (h : a.parsedToken body previous access now = .ok t) : Storable t := by
  unfold ServiceAuthenticator.parsedToken at h
  cases hexpiry : a.accessExpiry body access now with
  | error e =>
    rw [hexpiry] at h
    exact nomatch h
  | ok expiry =>
    rw [hexpiry] at h
    cases hrefreshExpiry : a.refreshExpiry body previous now with
    | error e =>
      rw [hrefreshExpiry] at h
      exact nomatch h
    | ok refreshExpiry =>
      rw [hrefreshExpiry] at h
      cases h
      -- the access token is a field that is not empty; `str` of a true value is not empty either
      refine ⟨stringField_ne haccess, ?_, hstr _ (pyOr_truthy _ _ rfl)⟩
      show a.responseRefresh body previous ≠ some ""
      unfold ServiceAuthenticator.responseRefresh
      -- the refresh token is such a field too, or a previous value, which is never empty
      intro hempty
      rcases Option.or_eq_some_iff.mp hempty with hown | ⟨-, hprevious⟩
      · exact stringField_ne hown rfl
      · obtain ⟨state, -, hvalue⟩ := Option.bind_eq_some_iff.mp hprevious
        unfold TokenState.refreshValue at hvalue
        have hne := (Option.filter_eq_some_iff.mp hvalue).2
        exact absurd hne (by decide)

/-! ## 2. The stores as one map -/

/-- The token states under each key. -/
abbrev TokenMap : Type := String → Option TokenState

/-- `R` relates a store's contents to the map they stand for: reads answer as the map does, and
    writes of storable states and deletions keep the relation. -/
structure Refines {σ : Type} (S : TokenStore σ) (R : σ → TokenMap → Prop) : Prop where
  get : ∀ {s m}, R s m → ∀ key, S.get s key = .ok (m key)
  set : ∀ {s m}, R s m → ∀ (key : String) {t : TokenState}, Storable t →
    R (S.set s key t) (assign m key (some t))
  delete : ∀ {s m}, R s m → ∀ key : String, R (S.delete s key) (assign m key none)

theorem inMemory_refines : Refines inMemoryTokenStore Eq where
  get h _ := by
    rw [← h]
    rfl
  set h _ _ _ := by
    rw [← h]
    rfl
  delete h _ := by
    rw [← h]
    rfl

/-- Prefixed keys never meet. -/
theorem prefixedKey_inj {keyPrefix a b : String}
    (h : prefixedKey keyPrefix a = prefixedKey keyPrefix b) : a = b := by
  have hlist := congrArg String.toList h
  simp only [prefixedKey, String.toList_append] at hlist
  exact String.toList_inj.mp (List.append_cancel_left hlist)

/-- Contents under prefixed keys: what `encode` makes of the map's storable states. -/
def Keeps {α : Type} (keyPrefix : String) (encode : TokenState → α) (contents : String → Option α)
    (m : TokenMap) : Prop :=
  ∀ key, contents (prefixedKey keyPrefix key) = (m key).map encode ∧ ∀ t ∈ m key, Storable t

theorem Keeps.assign {α : Type} {keyPrefix : String} {encode : TokenState → α}
    {contents : String → Option α} {m : TokenMap} (h : Keeps keyPrefix encode contents m)
    (key : String) {value : Option TokenState} (hvalue : ∀ t ∈ value, Storable t) :
    Keeps keyPrefix encode
      (assign contents (prefixedKey keyPrefix key) (value.map encode)) (assign m key value) := by
  intro other
  unfold Sdk.assign
  by_cases hother : other = key
  · subst hother
    rw [if_pos rfl, if_pos rfl]
    exact ⟨rfl, hvalue⟩
  · rw [if_neg (fun heq => hother (prefixedKey_inj heq)), if_neg hother]
    exact h other

/-- A store that keeps encoded states and decodes them again is the map. -/
theorem keeps_refines {α : Type} {S : TokenStore (String → Option α)} {keyPrefix : String}
    {encode : TokenState → α} (decode : Option α → Except BuiltinError (Option TokenState))
    (hget : ∀ s key, S.get s key = decode (s (prefixedKey keyPrefix key)))
    (hset : ∀ s key t, S.set s key t =
      assign s (prefixedKey keyPrefix key) (some (encode t)))
    (hdelete : ∀ s key, S.delete s key = assign s (prefixedKey keyPrefix key) none)
    (hnone : decode none = .ok none)
    (hsome : ∀ t, Storable t → decode (some (encode t)) = .ok (some t)) :
    Refines S (Keeps keyPrefix encode) where
  get := by
    intro s m h key
    obtain ⟨hcontents, hstorable⟩ := h key
    rw [hget, hcontents]
    cases hm : m key with
    | none => exact hnone
    | some t => exact hsome t (hstorable t hm)
  set := by
    intro s m h key t ht
    rw [hset]
    exact h.assign key fun t' ht' => Option.some.inj ht' ▸ ht
  delete := by
    intro s m h key
    rw [hdelete]
    have hnone : ∀ t ∈ (none : Option TokenState), Storable t := fun _ ht => nomatch ht
    exact h.assign key hnone

/-- `json` reads back the dictionaries of token states it writes (finite numbers, `NaN` and the
    infinities included), and the client answers with the text it was given, as it is or in
    UTF-8. -/
structure FaithfulText (json : JsonText) (answer : String → RedisValue) : Prop where
  loads_dumps : ∀ t : TokenState, Storable t →
    json.loads (json.dumps (.obj t.toCacheData)) = .ok (.obj t.toCacheData)
  answered : ∀ text, redisText json (answer text) = .ok text

/-- A text that reads as an object is read through `from_cache_data`. -/
theorem redisGet_obj (rt : Runtime) {json : JsonText} {value : RedisValue} {text : String}
    {fields : List (String × Json)} (htext : redisText json value = .ok text)
    (hfields : json.loads text = .ok (.obj fields)) :
    redisGet rt json (some value) = (fromCacheData rt (objectsOf rt fields)).map some := by
  unfold redisGet
  simp only [htext, hfields, bind, Except.bind]
  rfl

theorem redis_refines (rt : Runtime) {json : JsonText} {answer : String → RedisValue}
    (hjson : FaithfulText json answer) (keyPrefix : String) :
    Refines (redisTokenStore rt json answer keyPrefix)
      (Keeps keyPrefix fun t => json.dumps (.obj t.toCacheData)) := by
  refine keeps_refines (fun text => redisGet rt json (text.map answer)) (fun _ _ => rfl)
    (fun _ _ _ => rfl) (fun _ _ => rfl) rfl fun t ht => ?_
  rw [Option.map_some, redisGet_obj rt (hjson.answered _) (hjson.loads_dumps t ht),
    fromCacheData_toCacheData rt ht]
  rfl

theorem django_refines (rt : Runtime) (keyPrefix : String) :
    Refines (djangoCacheTokenStore rt keyPrefix)
      (Keeps keyPrefix fun t => DjangoValue.dict (objectsOf rt t.toCacheData)) := by
  refine keeps_refines (djangoGet rt) (fun _ _ => rfl) (fun _ _ _ => rfl) (fun _ _ => rfl)
    rfl fun t ht => ?_
  rw [djangoGet, fromCacheData_toCacheData rt ht]
  rfl

theorem keeps_empty {α : Type} (keyPrefix : String) (encode : TokenState → α) :
    Keeps keyPrefix encode (fun _ => none) fun _ => none :=
  fun _ => ⟨rfl, fun _ h => nomatch h⟩

/-! ## 3. Sequences of store operations -/

inductive StoreOp where
  | set (key : String) (token : TokenState)
  | get (key : String)
  | delete (key : String)

/-- The answers of a store to the `get`s of a sequence. -/
def answers {σ : Type} (S : TokenStore σ) (s : σ) :
    List StoreOp → List (Except BuiltinError (Option TokenState))
  | [] => []
  | .set key token :: ops => answers S (S.set s key token) ops
  | .get key :: ops => S.get s key :: answers S s ops
  | .delete key :: ops => answers S (S.delete s key) ops

/-- The last state set for a key and not deleted since; the history has the latest operation
    first. -/
def lastState (key : String) : List StoreOp → Option TokenState
  | [] => none
  | .set other token :: history => if key = other then some token else lastState key history
  | .get _ :: history => lastState key history
  | .delete other :: history => if key = other then none else lastState key history

/-- Every `get` answered with the last state of its key. -/
def expected (history : List StoreOp) :
    List StoreOp → List (Except BuiltinError (Option TokenState))
  | [] => []
  | .get key :: ops => .ok (lastState key history) :: expected (.get key :: history) ops
  | op :: ops => expected (op :: history) ops

/-- A refining store gives the expected answers. -/
theorem answers_eq_expected {σ : Type} {S : TokenStore σ} {R : σ → TokenMap → Prop}
    (hS : Refines S R) {ops : List StoreOp} (hops : ∀ key t, .set key t ∈ ops → Storable t) (s : σ)
    (history : List StoreOp) (hR : R s fun key => lastState key history) :
    answers S s ops = expected history ops := by
  induction ops generalizing s history with
  | nil => rfl
  | cons op ops ih =>
    have hrest : ∀ key t, .set key t ∈ ops → Storable t := fun key t ht =>
      hops key t (List.mem_cons_of_mem _ ht)
    cases op with
    | set key token =>
      exact ih hrest _ (.set key token :: history)
        (hS.set hR key (hops key token List.mem_cons_self))
    | get key =>
      rw [answers, expected, hS.get hR key, ih hrest s (.get key :: history) hR]
    | delete key => exact ih hrest _ (.delete key :: history) (hS.delete hR key)

/-! ## 4. Runs of token calls -/

/-- The calls of a service authenticator. -/
inductive AuthenticatorCall where
  | getToken
  | recoverFromUnauthorized (rejectedAccessToken : String)
  | invalidate

/-- One call; `invalidate` returns nothing. -/
def AuthenticatorCall.run (a : ServiceAuthenticator) : AuthenticatorCall → Py (Option TokenState)
  | .getToken => do return some (← a.getToken)
  | .recoverFromUnauthorized rejected => do return some (← a.recoverFromUnauthorized rejected)
  | .invalidate => do
    a.invalidate
    return none

/-- The calls one after the other, each with what it returned or raised. -/
def runCalls : List (ServiceAuthenticator × AuthenticatorCall) →
    Py (List (Except PyError (Option TokenState)))
  | [] => pure []
  | (a, call) :: calls => do
    let outcome ← (call.run a).attempt
    let outcomes ← runCalls calls
    return outcome :: outcomes

/-- A store beside an arbitrary environment. -/
def inStore {σ τ : Type} (S : TokenStore σ) (env : Handler τ) : Handler (σ × τ)
  | .storeGet key, w => (S.get w.1 key, w)
  | .storeSet key token, w => ((), (S.set w.1 key token, w.2))
  | .storeDelete key, w => ((), (S.delete w.1 key, w.2))
  | o, w => ((env o w.2).1, (w.1, (env o w.2).2))

/-- Only storable states are written. -/
def writesStorable : Effect → Prop
  | .storeSet _ token => Storable token
  | _ => True

/-- A store that refines the map and the in-memory store, in the same environment. -/
def storeTwin {σ τ : Type} (S : TokenStore σ) (R : σ → TokenMap → Prop) (env : Handler τ) :
    Twin effects (TokenMap × τ) (σ × τ) (Event effects) where
  left := inStore inMemoryTokenStore env
  right := inStore S env
  see := some
  inv w v := R v.1 w.1 ∧ w.2 = v.2

theorem storeTwin_steps {σ τ : Type} {S : TokenStore σ} {R : σ → TokenMap → Prop}
    (hS : Refines S R) (env : Handler τ) (o : Effect) (ho : writesStorable o) :
    (storeTwin S R env).Steps o o Eq := by
  rintro ⟨m, t⟩ ⟨s, t'⟩ ⟨hR, ht⟩
  cases (ht : t = t')
  have hanswer :
      ((storeTwin S R env).left o (m, t)).1 = ((storeTwin S R env).right o (s, t)).1 := by
    cases o with
    | storeGet key => exact (hS.get hR key).symm
    | _ => rfl
  refine ⟨congrArg (fun answer => some (⟨o, answer⟩ : Event effects)) hanswer, hanswer, ?_⟩
  cases o with
  | storeSet key token => exact ⟨hS.set hR key ho, rfl⟩
  | storeDelete key => exact ⟨hS.delete hR key, rfl⟩
  | _ => exact ⟨hR, rfl⟩

/-- A program that writes storable states only runs on the store as it runs in memory. -/
theorem run_eq_inMemory {σ τ α : Type} {S : TokenStore σ} {R : σ → TokenMap → Prop}
    (hS : Refines S R) (env : Handler τ) {p : Py α} (hp : p.Only writesStorable)
    {s : σ} {m : TokenMap} (hR : R s m) (t : τ) :
    (p.exec (S := effects) (inStore S env) (s, t)).1 =
        (p.exec (S := effects) (inStore inMemoryTokenStore env) (m, t)).1 ∧
      (p.exec (S := effects) (inStore S env) (s, t)).2.2 =
        (p.exec (S := effects) (inStore inMemoryTokenStore env) (m, t)).2.2 := by
  obtain ⟨hseen, -, hr⟩ := hp.alike (storeTwin_steps hS env) (m, t) (s, t) ⟨hR, rfl⟩
  simp only [storeTwin, List.filterMap_some] at hseen hr
  exact ⟨hseen.symm, hr.symm⟩

section Writes
variable {a : ServiceAuthenticator}

theorem writesStorable_of_isRequest {purpose : Purpose} {o : Effect} (h : isRequest purpose o) :
    writesStorable o := by
  cases o <;> trivial

theorem writesStorable_of_isLockWork {o : Effect} (h : isLockWork o) : writesStorable o := by
  cases o <;> trivial

/-- A request's token is storable. -/
def ReturnsStorable (r : Except PyError TokenState) : Prop := ∀ t, r = .ok t → Storable t

theorem requestToken_writes
    (hstr : ∀ value : Json, value.truthy = true → a.rt.str value ≠ "")
    (refresh : Option TokenState) :
    (a.requestToken refresh).Always writesStorable ReturnsStorable := by
  have hnothing (error : PyError) : ReturnsStorable (.error error) := fun _ h => nomatch h
  unfold ServiceAuthenticator.requestToken
  cases a.tokenRequest refresh with
  | error error => exact hnothing error
  | ok options =>
    rw [Prog.ofExcept_ok, Prog.ret_bind]
    refine Prog.Always.bind ((execute_only a.engine .token options).mono fun _ =>
      writesStorable_of_isRequest) (fun raw _ => ?_) fun error _ => hnothing error
    unfold ServiceAuthenticator.readToken
    cases raw.json a.rt with
    | error error => exact hnothing error
    | ok value =>
      cases value with
      | obj body =>
        show (a.parseToken body refresh).Always _ _
        unfold ServiceAuthenticator.parseToken
        split
        · exact hnothing _
        · rename_i access haccess
          refine Prog.always_perform_bind.mpr ⟨trivial, fun now => ?_⟩
          cases hparsed : a.parsedToken body refresh access now with
          | error error => exact hnothing _
          | ok token =>
            intro t ht
            cases ht
            exact parsedToken_storable hstr haccess hparsed
      | _ => exact hnothing _

theorem safeGet_writes : a.safeGet.Only writesStorable := by
  refine Prog.always_perform_bind.mpr ⟨trivial, fun found => ?_⟩
  cases found with
  | ok cached => trivial
  | error error =>
    show Prog.Only _ (if _ then _ else _)
    split
    · exact ⟨trivial, fun _ => trivial⟩
    · trivial

theorem emit_writes {l : StructuredLogger} {rt : Runtime} {level : LogLevel} {event : EventName}
    {fields : List (String × PyVal)} : (l.emit rt level event fields).Only writesStorable := by
  unfold StructuredLogger.emit
  split
  · exact ⟨trivial, fun _ => trivial⟩
  · trivial

theorem keep_writes {token : TokenState} (h : Storable token) (event : EventName)
    (source : String) :
    (a.keep token event source).Only writesStorable :=
  Prog.always_perform_bind.mpr ⟨h, fun _ => emit_writes.bind fun _ => trivial⟩

theorem acquire_writes (hstr : ∀ value : Json, value.truthy = true → a.rt.str value ≠ "") :
    a.acquire.Only writesStorable :=
  (requestToken_writes hstr none).bind (fun _ h => keep_writes (h _ rfl) _ _) fun _ _ => trivial

theorem refreshOrAcquire_writes (hstr : ∀ value : Json, value.truthy = true → a.rt.str value ≠ "")
    (cached : Option TokenState) (now : ℚ) :
    (a.refreshOrAcquire cached now).Only writesStorable := by
  unfold ServiceAuthenticator.refreshOrAcquire
  split
  · rename_i state _
    have hattempt : ((a.requestToken (some state)).attempt :
        Py (Except PyError TokenState)).Always writesStorable
          fun r => ∃ x, r = .ok x ∧ ReturnsStorable x :=
      ((requestToken_writes hstr (some state)).mono (fun _ h => h)
        fun x hx => ⟨x, rfl, hx⟩).attempt
    refine hattempt.bind (fun outcome h => ?_) fun _ _ => trivial
    obtain ⟨x, hx, hstorable⟩ := h
    cases hx
    cases outcome with
    | ok token => exact keep_writes (hstorable token rfl) _ _
    | error error =>
      show Prog.Only _ (if _ then _ else _)
      split
      · exact emit_writes.bind fun _ => acquire_writes hstr
      · trivial
  · exact acquire_writes hstr

theorem call_writes (hstr : ∀ value : Json, value.truthy = true → a.rt.str value ≠ "")
    (call : AuthenticatorCall) : (call.run a).Only writesStorable := by
  cases call with
  | getToken =>
    refine Prog.Only.bind ?_ fun _ => trivial
    refine Prog.always_perform_bind.mpr ⟨trivial, fun now => safeGet_writes.bind fun cached => ?_⟩
    split
    · trivial
    · refine lock_only (fun _ => writesStorable_of_isLockWork) _ _ ?_
      refine Prog.always_perform_bind.mpr ⟨trivial, fun now => safeGet_writes.bind fun cached => ?_⟩
      split
      · trivial
      · exact refreshOrAcquire_writes hstr _ _
  | recoverFromUnauthorized rejected =>
    refine Prog.Only.bind ?_ fun _ => trivial
    refine lock_only (fun _ => writesStorable_of_isLockWork) _ _ ?_
    refine safeGet_writes.bind fun cached => Prog.always_perform_bind.mpr ⟨trivial, fun now => ?_⟩
    split
    · trivial
    · exact refreshOrAcquire_writes hstr _ _
  | invalidate => exact ⟨trivial, fun _ => trivial⟩

theorem runCalls_writes {rt : Runtime}
    (hstr : ∀ value : Json, value.truthy = true → rt.str value ≠ "")
    {calls : List (ServiceAuthenticator × AuthenticatorCall)}
    (hrt : ∀ call ∈ calls, call.1.rt = rt) :
    (runCalls calls).Only writesStorable := by
  induction calls with
  | nil => trivial
  | cons call calls ih =>
    have hcall : ∀ value : Json, value.truthy = true → call.1.rt.str value ≠ "" := by
      rw [hrt call List.mem_cons_self]
      exact hstr
    refine (Prog.Only.attempt (call_writes hcall call.2)).bind fun outcome => ?_
    refine Prog.Only.bind ?_ fun _ => trivial
    exact ih fun other hother => hrt other (List.mem_cons_of_mem _ hother)

end Writes

/-! ## 5. The three stores -/

/-- With any of the three stores, every `get` of a sequence of operations is answered with the last
    state of its key, and every run of token calls makes the same events and has the same
    results. -/
def Interchangeable (rt : Runtime) (json : JsonText) (answer : String → RedisValue)
    (redisPrefix djangoPrefix : String) : Prop :=
  (∀ ops : List StoreOp, (∀ key t, .set key t ∈ ops → Produced rt t) →
    answers inMemoryTokenStore (fun _ => none) ops = expected [] ops ∧
    answers (redisTokenStore rt json answer redisPrefix) (fun _ => none) ops = expected [] ops ∧
    answers (djangoCacheTokenStore rt djangoPrefix) (fun _ => none) ops = expected [] ops) ∧
  ∀ calls : List (ServiceAuthenticator × AuthenticatorCall), (∀ call ∈ calls, call.1.rt = rt) →
    ∀ (τ : Type) (env : Handler τ) (t : τ),
      let inMemory := (runCalls calls).exec (S := effects) (inStore inMemoryTokenStore env)
        (fun _ => none, t)
      let inRedis := (runCalls calls).exec (S := effects)
        (inStore (redisTokenStore rt json answer redisPrefix) env) (fun _ => none, t)
      let inDjango := (runCalls calls).exec (S := effects)
        (inStore (djangoCacheTokenStore rt djangoPrefix) env) (fun _ => none, t)
      (inRedis.1 = inMemory.1 ∧ inRedis.2.2 = inMemory.2.2) ∧
        inDjango.1 = inMemory.1 ∧ inDjango.2.2 = inMemory.2.2

theorem stores_interchangeable (rt : Runtime) {json : JsonText} {answer : String → RedisValue}
    (hjson : FaithfulText json answer)
    (hstr : ∀ value : Json, value.truthy = true → rt.str value ≠ "")
    (redisPrefix djangoPrefix : String) :
    Interchangeable rt json answer redisPrefix djangoPrefix := by
  have hredis := redis_refines rt hjson redisPrefix
  have hdjango := django_refines rt djangoPrefix
  constructor
  · intro ops hproduced
    have hops : ∀ key t, .set key t ∈ ops → Storable t := by
      intro key t ht
      obtain ⟨a, body, previous, access, now, ha, haccess, hparsed⟩ := hproduced key t ht
      exact parsedToken_storable (by rw [ha]; exact hstr) haccess hparsed
    exact ⟨answers_eq_expected inMemory_refines hops _ [] rfl,
      answers_eq_expected hredis hops _ [] (keeps_empty _ _),
      answers_eq_expected hdjango hops _ [] (keeps_empty _ _)⟩
  · intro calls hrt τ env t
    have hwrites := runCalls_writes hstr hrt
    exact ⟨run_eq_inMemory hredis env hwrites (keeps_empty _ _) t,
      run_eq_inMemory hdjango env hwrites (keeps_empty _ _) t⟩

/-- A standard library in which `str()` describes every value. -/
def describingRuntime : Runtime :=
  { sampleRuntime with
    str := fun value => match value with
      | .str s => s
      | .null => "None"
      | .bool b => if b then "True" else "False"
      | .int n => n.repr
      | .float _ => "float"
      | .arr _ => "list"
      | .obj _ => "dict"
    str_str := fun _ => rfl }

theorem stores_interchangeable_text :
    Interchangeable describingRuntime cacheJson .text "jibit-token" "jibit-token" := by
  refine stores_interchangeable describingRuntime ?_ ?_ _ _
  · exact { loads_dumps := fun t ht => cacheJson_loads_dumps ht
            answered := fun _ => rfl }
  · intro value hvalue
    cases value with
    | str s => simpa [describingRuntime, Json.truthy] using hvalue
    | bool b => cases b <;> decide
    | int n =>
      cases n with
      | ofNat n => exact Nat.repr_ne_empty
      | negSucc n =>
        intro hempty
        have hlist : ("-" ++ (n + 1).repr).toList = [] := congrArg String.toList hempty
        rw [String.toList_append] at hlist
        exact nomatch hlist
    | null => decide
    | float x =>
      show "float" ≠ ""
      decide
    | arr items =>
      show "list" ≠ ""
      decide
    | obj fields =>
      show "dict" ≠ ""
      decide

end JibitSdk.Guarantees
