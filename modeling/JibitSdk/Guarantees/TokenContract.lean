import JibitSdk.Guarantees.EngineContract
import JibitSdk.Guarantees.Answers

/-!
# The contract of token management

The parts of the service authenticator, each with what its caller must say: a token request ends
without a send, in the error of its last outcome, or in the reading of a 2xx answer; a successful
exchange stores what it read before anything else happens.
-/

namespace JibitSdk.Guarantees

open JibitSdk.Python JibitSdk.Reasoning JibitSdk.Sdk

/-! ## 1. Reading a token response -/

section Reading
variable (a : ServiceAuthenticator)

/-- What `readToken` makes of a response when the clock says `now`. -/
def tokenAt (refresh : Option TokenState) (raw : RawResponse) (now : ℚ) :
    Except PyError TokenState :=
  match raw.json a.rt with
  | .error e => .error e
  | .ok (.obj body) => match ServiceAuthenticator.stringField body a.spec.accessResponseField with
    | none => .error (.jibit (.new a.rt .response "The token response has no access token"))
    | some access => match a.parsedToken body refresh access now with
      | .ok token => .ok token
      | .error e => .error (.builtin e)
  | .ok _ => .error (.jibit (.new a.rt .response "The token response must be a JSON object"))

/-- A lifetime that can be added to a time. -/
def addable : Option ℤ → Bool
  | none => true
  | some ttl => ttl.natAbs < PyFloat.intLimit

/-- A body a token can be read from. -/
def usable (content : List UInt8) : Bool :=
  match a.rt.jsonLoads content with
  | .ok (.obj body) => match ServiceAuthenticator.stringField body a.spec.accessResponseField with
    | none => false
    | some access => match jwtExpiry a.rt access with
      | .error _ => false
      | .ok (some _) => addable (a.refreshTtl body)
      | .ok none => addable (a.accessTtl body) && addable (a.refreshTtl body)
  | _ => false

/-- The outcome is a 2xx answer with a usable token. -/
def obtains (outcome : TransportOutcome) : Bool :=
  match accepted outcome with
  | some response => usable a response.content
  | none => false

/-- The object in a 2xx answer. -/
def answeredBody (outcome : TransportOutcome) : Option (List (String × Json)) :=
  match accepted outcome with
  | none => none
  | some response => match a.rt.jsonLoads response.content with
    | .ok (.obj body) => some body
    | _ => none

variable {a}

/-- An answer a token was obtained from was accepted. -/
theorem accepted_of_obtains {response : TransportResponse}
    (h : obtains a (.response response) = true) :
    accepted (.response response) = some response := by
  unfold obtains at h
  cases haccepted : accepted (.response response) with
  | none =>
    rw [haccepted] at h
    exact nomatch h
  | some response' =>
    cases accepted_eq haccepted
    rfl

/-- The parts of a parsed token. -/
theorem parsedToken_ok {token : TokenState} {body : List (String × Json)}
    {previous : Option TokenState}
    {access : String} {now : ℚ} (h : a.parsedToken body previous access now = .ok token) :
    token.accessToken = access ∧ token.refreshToken = a.responseRefresh body previous ∧
      a.refreshExpiry body previous now = .ok token.refreshExpiresAt := by
  unfold ServiceAuthenticator.parsedToken at h
  cases haccess : a.accessExpiry body access now with
  | error e =>
    rw [haccess] at h
    exact nomatch h
  | ok expiresAt =>
    cases hrefresh : a.refreshExpiry body previous now with
    | error e =>
      rw [haccess, hrefresh] at h
      exact nomatch h
    | ok refreshExpiresAt =>
      rw [haccess, hrefresh] at h
      cases h
      exact ⟨rfl, rfl, rfl⟩

theorem expiryAfter_isOk (now : ℚ) (ttl : Option ℤ) :
    (ServiceAuthenticator.expiryAfter now ttl).toBool = addable ttl := by
  cases ttl with
  | none => rfl
  | some ttl =>
    show ((PyFloat.addInt now ttl).map some).toBool = _
    rw [PyFloat.addInt, addable]
    by_cases h : ttl.natAbs < PyFloat.intLimit
    · rw [if_pos h, decide_eq_true h]
      rfl
    · rw [if_neg h, decide_eq_false h]
      rfl

theorem refreshExpiry_isOk (body : List (String × Json)) (previous : Option TokenState) (now : ℚ) :
    (a.refreshExpiry body previous now).toBool = addable (a.refreshTtl body) := by
  unfold ServiceAuthenticator.refreshExpiry
  cases a.refreshTtl body with
  | some ttl => exact expiryAfter_isOk now (some ttl)
  | none =>
    cases previous with
    | none => rfl
    | some previous =>
      show (if _ then _ else _ : Except BuiltinError (Option PyFloat)).toBool = true
      split <;> rfl

theorem accessExpiry_isOk (body : List (String × Json)) (access : String) (now : ℚ) :
    (a.accessExpiry body access now).toBool = match jwtExpiry a.rt access with
      | .error _ => false
      | .ok (some _) => true
      | .ok none => addable (a.accessTtl body) := by
  unfold ServiceAuthenticator.accessExpiry
  cases jwtExpiry a.rt access with
  | error e => rfl
  | ok expiry =>
    cases expiry with
    | some expiry => rfl
    | none => exact expiryAfter_isOk now _

theorem parsedToken_isOk (body : List (String × Json)) (previous : Option TokenState)
    (access : String) (now : ℚ) :
    (a.parsedToken body previous access now).toBool =
      ((a.accessExpiry body access now).toBool && (a.refreshExpiry body previous now).toBool) := by
  unfold ServiceAuthenticator.parsedToken
  cases a.accessExpiry body access now with
  | error e => rfl
  | ok expiresAt => cases a.refreshExpiry body previous now <;> rfl

/-- Whether a response yields a token depends on its body alone. -/
theorem tokenAt_isOk (refresh : Option TokenState) (response : TransportResponse)
    (correlationId : String) (now : ℚ) :
    (tokenAt a refresh (rawResponse response correlationId) now).toBool =
      usable a response.content := by
  unfold tokenAt usable RawResponse.json rawResponse
  cases a.rt.jsonLoads response.content with
  | error e =>
    by_cases he : e = .unicodeDecodeError ∨ e = .jsonDecodeError
    · simp only [if_pos he]
      rfl
    · simp only [if_neg he]
      rfl
  | ok value =>
    cases value with
    | obj body =>
      cases haccess : ServiceAuthenticator.stringField body a.spec.accessResponseField with
      | none => simp only [haccess]; rfl
      | some access =>
        simp only [haccess]
        have hparsed := parsedToken_isOk (a := a) body refresh access now
        rw [accessExpiry_isOk, refreshExpiry_isOk] at hparsed
        have hmatch : ∀ parsed : Except BuiltinError TokenState,
            (match parsed with
              | .ok token => (.ok token : Except PyError TokenState)
              | .error e => .error (.builtin e)).toBool = parsed.toBool := by
          intro parsed
          cases parsed <;> rfl
        rw [hmatch, hparsed]
        cases jwtExpiry a.rt access with
        | error e => rfl
        | ok expiry => cases expiry <;> simp
    | _ => rfl

/-- What is wrong with a 2xx answer is never taken for a rejected refresh. -/
theorem tokenAt_error {refresh : Option TokenState} {raw : RawResponse} {now : ℚ} {error : PyError}
    (h : tokenAt a refresh raw now = .error error) :
    ServiceAuthenticator.refreshRejected error = false := by
  unfold tokenAt at h
  split at h
  · rename_i e hjson
    cases h
    unfold RawResponse.json at hjson
    split at hjson
    · cases hjson
    · split at hjson <;> cases hjson <;> rfl
  · split at h
    · cases h
      rfl
    · split at h
      · cases h
      · cases h
        rfl
  · cases h
    rfl

end Reading

/-! ## 2. One token request -/

section Requests
variable {σ : Type} {M : Machine effects σ} {ok : Effect → σ → Prop} {a : ServiceAuthenticator}

/-- The reading takes the time at most once, and only for a body with an access token. -/
theorem readToken_meets {refresh : Option TokenState} {raw : RawResponse} {s : σ}
    (hclock : ok .clock s) :
    (a.readToken raw refresh).Meets M ok (fun r s' =>
      (s' = s ∧ ∃ error, r = .error error ∧ ∀ now, tokenAt a refresh raw now = .error error) ∨
        ∃ now, M.step .clock s now s' ∧ r = tokenAt a refresh raw now) s := by
  unfold ServiceAuthenticator.readToken tokenAt
  cases hjson : raw.json a.rt with
  | error e => exact .inl ⟨rfl, e, rfl, fun _ => rfl⟩
  | ok value =>
    rw [Prog.ofExcept_ok, Prog.ret_bind]
    cases value with
    | obj body =>
      show (a.parseToken body refresh).Meets M ok _ s
      unfold ServiceAuthenticator.parseToken
      cases haccess : ServiceAuthenticator.stringField body a.spec.accessResponseField with
      | none => exact .inl ⟨rfl, _, rfl, fun _ => by simp only [haccess]⟩
      | some access =>
        refine Prog.meets_perform_bind.mpr ⟨hclock, fun now s' hstep => ?_⟩
        cases hparsed : a.parsedToken body refresh access now with
        | ok token => exact .inr ⟨now, hstep, by simp only [haccess, hparsed]⟩
        | error e => exact .inr ⟨now, hstep, by simp only [haccess, hparsed]⟩
    | _ => exact .inl ⟨rfl, _, rfl, fun _ => rfl⟩

/-- A token request that cannot be built, or whose path is refused. -/
def Unsendable (a : ServiceAuthenticator) (refresh : Option TokenState) (error : PyError) : Prop :=
  a.tokenRequest refresh = .error error ∨ ∃ options, a.tokenRequest refresh = .ok options ∧
    a.engine.validatedEndpoint options.path = .error error

/-- The ways a token request ends.  `J` holds while nothing is sent, `K outcome` after an
    outcome. -/
inductive RequestEnd (M : Machine effects σ) (a : ServiceAuthenticator)
    (refresh : Option TokenState) (J : σ → Prop) (K : TransportOutcome → σ → Prop) :
    Except PyError TokenState → σ → Prop where
  | unsendable {error : PyError} {s : σ} (hs : J s)
      (h : Unsendable a refresh error) :
      RequestEnd M a refresh J K (.error error) s
  | failed {x : RequestEngine.Exchange} {outcome : TransportOutcome} {error : PyError} {s : σ}
      (hs : K outcome s) (h : outcomeResult a.engine x outcome = .error error) :
      RequestEnd M a refresh J K (.error error) s
  | untimed {response : TransportResponse} {correlationId : String}
      {error : PyError} {s : σ} (hs : K (.response response) s)
      (haccepted : accepted (.response response) = some response)
      (hr : ∀ now, tokenAt a refresh (rawResponse response correlationId) now = .error error) :
      RequestEnd M a refresh J K (.error error) s
  | timed {response : TransportResponse} {correlationId : String} {now : ℚ} {s s' : σ}
      (hs : K (.response response) s) (haccepted : accepted (.response response) = some response)
      (hstep : M.step .clock s now s') :
      RequestEnd M a refresh J K (tokenAt a refresh (rawResponse response correlationId) now) s'

theorem requestToken_meets {refresh : Option TokenState} {J : σ → Prop}
    {K : TransportOutcome → σ → Prop}
    (rule : ∀ options, a.tokenRequest refresh = .ok options →
      SendRule M ok a.engine .token options J K)
    (hclock : ∀ outcome s, K outcome s → ok .clock s) {s : σ} (hs : J s) :
    (a.requestToken refresh).Meets M ok (RequestEnd M a refresh J K) s := by
  unfold ServiceAuthenticator.requestToken
  cases hrequest : a.tokenRequest refresh with
  | error error => exact .unsendable hs (.inl hrequest)
  | ok options =>
    rw [Prog.ofExcept_ok, Prog.ret_bind]
    refine (execute_meets (rule options hrequest) hs).bind (fun raw s h => ?_) (fun error s h => ?_)
    · rcases h with ⟨error, -, hr, -⟩ | ⟨x, outcome, -, hr, hK⟩
      · exact nomatch hr
      · have hagrees := outcomeResult_agrees a.engine x outcome
        cases haccepted : accepted outcome with
        | none =>
          rw [haccepted, ← hr] at hagrees
          rcases hagrees with ⟨error, herror⟩
          exact nomatch herror
        | some response =>
          have houtcome := accepted_eq haccepted
          subst houtcome
          rw [haccepted, ← hr] at hagrees
          rcases hagrees with ⟨correlationId, hraw⟩
          cases hraw
          refine (readToken_meets (hclock _ s hK)).mono fun r s' h => ?_
          rcases h with ⟨rfl, error, rfl, hr⟩ | ⟨now, hstep, rfl⟩
          · exact .untimed hK haccepted hr
          · exact .timed hK haccepted hstep
    · rcases h with ⟨error', hbad, hr, hJ⟩ | ⟨x, outcome, -, hr, hK⟩
      · cases hr
        exact .unsendable hJ (.inr ⟨options, hrequest, hbad⟩)
      · exact .failed hK hr.symm

/-- Storing a token ends with that token. -/
theorem keep_meets {token : TokenState} {event : EventName} {source : String} {s : σ}
    {D : σ → Prop} (hset : ok (.storeSet a.cacheKey token) s ∧
      ∀ s', M.step (.storeSet a.cacheKey token) s () s' → D s')
    (hD : KeptLocally M ok D) :
    (a.keep token event source).Meets M ok (fun r s => r = .ok token ∧ D s) s := by
  refine Prog.meets_perform_bind.mpr ⟨hset.1, fun _ s' hstep => ?_⟩
  refine (local_meets (emit_always a.logger a.rt .info event _) hD (hset.2 s' hstep)).bind
    (fun _ s hs => ⟨rfl, hs.2⟩) (fun _ _ h => nomatch h.1)

/-! ## 3. Exchanges -/

/-- What a caller has to say about an exchange: `J` before and between requests, `K outcome` after
    an outcome, `D token` once `token` is stored; `fail` tells whether it can fail. -/
structure ExchangeRule (M : Machine effects σ) (ok : Effect → σ → Prop) (a : ServiceAuthenticator)
    (refresh : Option TokenState) (fail : Prop) (J : σ → Prop) (K : TransportOutcome → σ → Prop)
    (D : TokenState → σ → Prop) : Prop where
  before : KeptLocally M ok J
  after : ∀ outcome, KeptLocally M ok (K outcome)
  done : ∀ token, KeptLocally M ok (D token)
  send : ∀ options correlationId endpoint s, a.tokenRequest refresh = .ok options →
    a.engine.validatedEndpoint options.path = .ok endpoint → J s →
    ok (.send .token (a.engine.transportRequest options correlationId endpoint)) s ∧
      ∀ outcome s', M.step (.send .token
        (a.engine.transportRequest options correlationId endpoint)) s outcome s' → K outcome s'
  again : ∀ outcome s, transientOutcome outcome = true → K outcome s → J s
  clock : ∀ outcome s, K outcome s → ok .clock s
  unsendable : ∀ error, Unsendable a refresh error →
    fail ∨ refresh.isSome = true ∧ ServiceAuthenticator.refreshRejected error = true
  failed : ∀ outcome s, obtains a outcome = false → K outcome s →
    fail ∧ J s ∧ ∀ now s', M.step .clock s now s' → J s'
  set : ∀ response correlationId now s s' token, K (.response response) s →
    obtains a (.response response) = true → M.step .clock s now s' →
    tokenAt a refresh (rawResponse response correlationId) now = .ok token →
    ok (.storeSet a.cacheKey token) s' ∧
      ∀ s'', M.step (.storeSet a.cacheKey token) s' () s'' → D token s''

variable {fail : Prop} {J : σ → Prop} {K : TransportOutcome → σ → Prop} {D : TokenState → σ → Prop}

theorem obtains_eq {response : TransportResponse}
    (haccepted : accepted (.response response) = some response) (correlationId : String) (now : ℚ)
    (refresh : Option TokenState) :
    obtains a (.response response) =
      (tokenAt a refresh (rawResponse response correlationId) now).toBool := by
  rw [obtains, haccepted, tokenAt_isOk]

/-- A token comes out of a body that is an object with an access token. -/
theorem tokenAt_ok {refresh : Option TokenState} {response : TransportResponse}
    {correlationId : String} {now : ℚ} {token : TokenState}
    (h : tokenAt a refresh (rawResponse response correlationId) now = .ok token) :
    ∃ body access, a.rt.jsonLoads response.content = .ok (.obj body) ∧
      ServiceAuthenticator.stringField body a.spec.accessResponseField = some access ∧
        a.parsedToken body refresh access now = .ok token := by
  unfold tokenAt RawResponse.json rawResponse at h
  cases hload : a.rt.jsonLoads response.content with
  | error e =>
    rw [hload] at h
    by_cases he : e = .unicodeDecodeError ∨ e = .jsonDecodeError
    · simp only [if_pos he] at h
      cases h
    · simp only [if_neg he] at h
      cases h
  | ok value =>
    rw [hload] at h
    cases value with
    | obj body =>
      cases haccess : ServiceAuthenticator.stringField body a.spec.accessResponseField with
      | none =>
        simp only [haccess] at h
        cases h
      | some access =>
        simp only [haccess] at h
        cases hparsed : a.parsedToken body refresh access now with
        | error e =>
          rw [hparsed] at h
          cases h
        | ok token' =>
          rw [hparsed] at h
          cases h
          exact ⟨body, access, rfl, haccess, hparsed⟩
    | _ => cases h

/-- One exchange: it ends where it may start again, or holds a token it may store. -/
theorem requestToken_exchange {refresh : Option TokenState}
    (rule : ExchangeRule M ok a refresh fail J K D) {s : σ} (hs : J s) :
    (a.requestToken refresh).Meets M ok (fun r s => match r with
      | .ok token => ok (.storeSet a.cacheKey token) s ∧
          ∀ s', M.step (.storeSet a.cacheKey token) s () s' → D token s'
      | .error error =>
        (fail ∨ refresh.isSome = true ∧ ServiceAuthenticator.refreshRejected error = true) ∧ J s)
      s := by
  -- the sends of the exchange obey the rule of the machine
  have hsend : ∀ options, a.tokenRequest refresh = .ok options →
      SendRule M ok a.engine .token options J K := fun options hoptions =>
    { before := rule.before
      after := rule.after
      send := fun correlationId endpoint s => rule.send options correlationId endpoint s hoptions
      again := rule.again }
  refine (requestToken_meets hsend rule.clock hs).mono fun r s h => ?_
  cases h with
  | unsendable hJ h => exact ⟨rule.unsendable _ h, hJ⟩
  -- the last outcome was an error: it brings no token
  | @failed x outcome error _ hK hr =>
    have hagrees := outcomeResult_agrees a.engine x outcome
    have hnone : obtains a outcome = false := by
      unfold obtains
      cases haccepted : accepted outcome with
      | none => rfl
      | some response =>
        rw [haccepted, hr] at hagrees
        rcases hagrees with ⟨id, hid⟩
        exact nomatch hid
    have hfailed := rule.failed outcome s hnone hK
    exact ⟨.inl hfailed.1, hfailed.2.1⟩
  -- the response is no token at whatever time it is read
  | @untimed response correlationId error _ hK haccepted hr =>
    have hobtains := obtains_eq (a := a) haccepted correlationId 0 refresh
    rw [hr 0] at hobtains
    have hfailed := rule.failed _ s hobtains hK
    exact ⟨.inl hfailed.1, hfailed.2.1⟩
  -- the response is read at this time
  | @timed response correlationId now s₀ _ hK haccepted hstep =>
    have hobtains := obtains_eq (a := a) haccepted correlationId now refresh
    cases hread : tokenAt a refresh (rawResponse response correlationId) now with
    | ok token =>
      rw [hread] at hobtains
      exact rule.set response correlationId now s₀ s token hK hobtains hstep hread
    | error error =>
      rw [hread] at hobtains
      have hfailed := rule.failed _ s₀ hobtains hK
      exact ⟨.inl hfailed.1, hfailed.2.2 now s hstep⟩

/-- How an exchange ends: with the token it stored, or where it may start again. -/
def ExchangeEnd (fail : Prop) (J : σ → Prop) (D : TokenState → σ → Prop) :
    Except PyError TokenState → σ → Prop
  | .ok token, s => D token s
  | .error _, s => fail ∧ J s

theorem acquire_meets (rule : ExchangeRule M ok a none fail J K D) {s : σ} (hs : J s) :
    a.acquire.Meets M ok (ExchangeEnd fail J D) s := by
  refine (requestToken_exchange rule hs).bind (fun token s h => ?_) (fun error s h => ?_)
  · refine (keep_meets h (rule.done token)).mono fun r s hr => ?_
    rw [hr.1]
    exact hr.2
  · rcases h with ⟨hfail | ⟨hsome, -⟩, hJ⟩
    · exact ⟨hfail, hJ⟩
    · exact nomatch hsome

/-- Refresh, and credentials after a rejected refresh. -/
theorem refreshOrAcquire_meets {cached : Option TokenState} {now : ℚ}
    {K' : TransportOutcome → σ → Prop}
    (refresh : ∀ c, cached = some c → ExchangeRule M ok a (some c) fail J K' D)
    (credentials : ExchangeRule M ok a none fail J K D) {s : σ} (hs : J s) :
    (a.refreshOrAcquire cached now).Meets M ok (ExchangeEnd fail J D) s := by
  unfold ServiceAuthenticator.refreshOrAcquire
  cases hfilter : cached.filter fun cached => cached.isRefreshValid now a.leeway with
  | none => exact acquire_meets credentials hs
  | some c =>
    -- the filter keeps the cached state itself
    have rule := refresh c (Option.filter_eq_some_iff.mp hfilter).1
    refine (requestToken_exchange rule hs).attempt_bind fun r s h => ?_
    cases r with
    | ok token =>
      refine (keep_meets h (rule.done token)).mono fun r s hr => ?_
      rw [hr.1]
      exact hr.2
    | error error =>
      -- a rejected refresh is logged and credentials are tried
      show Prog.Meets M ok _ (if ServiceAuthenticator.refreshRejected error then do
        a.logger.emit a.rt .warning .tokenRefreshFailed
          [("service", .str a.service.value), ("reason", .str "refresh_rejected")]
        a.acquire else .throw error) s
      by_cases hrejected : ServiceAuthenticator.refreshRejected error = true
      · rw [if_pos hrejected]
        exact (local_meets (emit_always a.logger a.rt _ _ _) rule.before h.2).bind
          (fun _ s hs => acquire_meets credentials hs.2) (fun _ _ h => nomatch h.1)
      · rw [if_neg hrejected]
        exact ⟨h.1.resolve_right fun h => hrejected h.2, h.2⟩

/-! ## 4. The cache and the lock -/

/-- A decoding error that `safeGet` takes for an empty cache. -/
def caught (e : BuiltinError) : Bool := e.isValueError || e = .typeError

theorem safeGet_meets {s : σ} {Q : Except PyError (Option TokenState) → σ → Prop}
    (hget : ok (.storeGet a.cacheKey) s)
    (hfound : ∀ cached s', M.step (.storeGet a.cacheKey) s (.ok cached) s' → Q (.ok cached) s')
    (hmalformed : ∀ e s', M.step (.storeGet a.cacheKey) s (.error e) s' →
      if caught e then ok (.storeDelete a.cacheKey) s' ∧
        ∀ s'', M.step (.storeDelete a.cacheKey) s' () s'' → Q (.ok none) s''
      else Q (.error (.builtin e)) s') :
    a.safeGet.Meets M ok Q s := by
  refine Prog.meets_perform_bind.mpr ⟨hget, fun found s' hstep => ?_⟩
  cases found with
  | ok cached => exact hfound cached s' hstep
  | error e =>
    have h := hmalformed e s' hstep
    show Prog.Meets M ok Q (if caught e then do
      Py.storeDelete a.cacheKey
      pure none else .throw (.builtin e)) s'
    by_cases hcaught : caught e = true
    · rw [if_pos hcaught] at h ⊢
      exact ⟨h.1, fun _ s'' hdelete => h.2 s'' hdelete⟩
    · rw [if_neg hcaught] at h ⊢
      exact h

/-- Lock operations are fine where `J` holds, and keep it. -/
def KeptByLocks (M : Machine effects σ) (ok : Effect → σ → Prop) (J : σ → Prop) : Prop :=
  ∀ o s, isLockWork o → J s → ok o s ∧ ∀ a s', M.step o s a s' → J s'

/-- The body runs in the middle of the lock operations; it may not run, or its outcome be replaced,
    only where lock operations can `fail`. -/
theorem lock_meets {α : Type} {locks : LockProvider} {key : String} {body : Py α} {J : σ → Prop}
    {R : Except PyError α → σ → Prop} {fail : Prop} (hJ : KeptByLocks M ok J)
    (hR : ∀ r, KeptByLocks M ok (R r)) (hbody : ∀ s, J s → body.Meets M ok R s)
    (hfail : ∀ s s' e, (∀ name timeout blocking,
        M.step (.redisAcquire name timeout blocking) s (some e) s' → fail) ∧
      ∀ name, M.step (.redisRelease name) s (some e) s' → fail) {s : σ} (hs : J s) :
    (locks.lock key body).Meets M ok
      (fun r s => R r s ∨ fail ∧ (J s ∨ ∃ r', R r' s) ∧ ∃ e, r = .error (.builtin e)) s := by
  cases locks with
  -- the five steps around the body, each of which keeps what is assumed
  | thread =>
    have h₁ := hJ .guardAcquire s trivial hs
    refine ⟨h₁.1, fun _ s hstep => ?_⟩
    have h₂ := hJ (.setdefaultLock key) s trivial (h₁.2 _ s hstep)
    refine ⟨h₂.1, fun lock s hstep => ?_⟩
    have h₃ := hJ .guardRelease s trivial (h₂.2 _ s hstep)
    refine ⟨h₃.1, fun _ s hstep => ?_⟩
    have h₄ := hJ (.lockAcquire lock) s trivial (h₃.2 _ s hstep)
    refine ⟨h₄.1, fun _ s hstep => ?_⟩
    refine (hbody s (h₄.2 _ s hstep)).attempt_bind fun r s hr => ?_
    have h₅ := hR r (.lockRelease lock) s trivial hr
    exact ⟨h₅.1, fun _ s hstep => Prog.meets_ofExcept.mpr (.inl (h₅.2 _ s hstep))⟩
  -- the acquisition and the release of the Redis lock may raise
  | redis keyPrefix timeout blockingTimeout =>
    have h₁ := hJ (.redisAcquire (keyPrefix ++ ":" ++ key) timeout blockingTimeout) s trivial hs
    refine ⟨h₁.1, fun failure s' hstep => ?_⟩
    have hs' := h₁.2 _ s' hstep
    cases failure with
    | some e => exact .inr ⟨(hfail s s' e).1 _ _ _ hstep, .inl hs', e, rfl⟩
    | none =>
      refine (hbody s' hs').attempt_bind fun r s hr => ?_
      have h₂ := hR r (.redisRelease (keyPrefix ++ ":" ++ key)) s trivial hr
      refine ⟨h₂.1, fun failure s' hstep => ?_⟩
      cases failure with
      | some e => exact .inr ⟨(hfail s s' e).2 _ hstep, .inr ⟨r, h₂.2 _ s' hstep⟩, e, rfl⟩
      | none => exact Prog.meets_ofExcept.mpr (.inl (h₂.2 _ s' hstep))

/-! ## 5. Token calls -/

/-- The two entry points that return a token. -/
inductive TokenCall where
  | get
  | recover (rejected : String)

def TokenCall.run (a : ServiceAuthenticator) : TokenCall → Py TokenState
  | .get => a.getToken
  | .recover rejected => a.recoverFromUnauthorized rejected

/-- A cached state the call returns as it is. -/
def TokenCall.reuses (a : ServiceAuthenticator) (now : ℚ) (cached : TokenState) : TokenCall → Bool
  | .get => cached.isAccessValid now a.leeway
  | .recover rejected =>
    cached.accessValue ≠ rejected && cached.isAccessValid now a.leeway

/-- What a caller has to say about a token call: `J` before it, `C cached` once the cache is read,
    `R` at its end.  `timely` restricts the clock, `fail` tells whether lock operations can
    raise. -/
structure TokenRule (M : Machine effects σ) (ok : Effect → σ → Prop) (a : ServiceAuthenticator)
    (call : TokenCall) (timely : ℚ → Prop) (fail : Prop) (J : σ → Prop)
    (C : Option TokenState → σ → Prop) (R : Except PyError TokenState → σ → Prop) : Prop where
  forget : ∀ cached s, C cached s → J s
  locksBefore : KeptByLocks M ok J
  locksAfter : ∀ r, KeptByLocks M ok (R r)
  lockFailure : ∀ s s' e, (∀ name timeout blocking,
      M.step (.redisAcquire name timeout blocking) s (some e) s' → fail) ∧
    ∀ name, M.step (.redisRelease name) s (some e) s' → fail
  failed : fail → ∀ s e, (J s ∨ ∃ r, R r s) → R (.error (.builtin e)) s
  clockBefore : ∀ s, J s → ok .clock s ∧ ∀ now s', M.step .clock s now s' → timely now ∧ J s'
  clockAfter : ∀ cached s, C cached s →
    ok .clock s ∧ ∀ now s', M.step .clock s now s' → timely now ∧ C cached s'
  get : ∀ s, J s → ok (.storeGet a.cacheKey) s
  found : ∀ s cached s', J s → M.step (.storeGet a.cacheKey) s (.ok cached) s' → C cached s'
  malformed : ∀ s e s', J s → M.step (.storeGet a.cacheKey) s (.error e) s' →
    if caught e then ok (.storeDelete a.cacheKey) s' ∧
      ∀ s'', M.step (.storeDelete a.cacheKey) s' () s'' → C none s''
    else R (.error (.builtin e)) s'
  reuse : ∀ cached now s, timely now → C (some cached) s → call.reuses a now cached = true →
    R (.ok cached) s
  exchange : ∀ cached now s, timely now → C cached s →
    (cached.filter fun cached => call.reuses a now cached) = none →
      (a.refreshOrAcquire cached now).Meets M ok R s

variable {call : TokenCall} {timely : ℚ → Prop} {C : Option TokenState → σ → Prop}
  {R : Except PyError TokenState → σ → Prop}

/-- The read of the cache in a token call. -/
theorem TokenRule.safeGet (rule : TokenRule M ok a call timely fail J C R) {s : σ} (hs : J s) :
    a.safeGet.Meets M ok (fun r s => match r with
      | .ok cached => C cached s
      | .error error => R (.error error) s) s :=
  safeGet_meets (rule.get s hs) (fun cached s' hstep => rule.found s cached s' hs hstep)
    fun e s' hstep => rule.malformed s e s' hs hstep

theorem tokenCall_meets (rule : TokenRule M ok a call timely fail J C R) {s : σ} (hs : J s) :
    (call.run a).Meets M ok R s := by
  -- what a section ends in is what the call ends in, unless the lock fails
  have hlock {body : Py TokenState} (hbody : ∀ s, J s → body.Meets M ok R s) {s : σ} (hs : J s) :
      (a.locks.lock a.cacheKey body).Meets M ok R s := by
    refine (lock_meets rule.locksBefore rule.locksAfter hbody rule.lockFailure hs).mono ?_
    intro r s h
    rcases h with h | ⟨hfail, hwhere, e, rfl⟩
    · exact h
    · exact rule.failed hfail s e hwhere
  cases call with
  -- the first look is taken without the lock, the second inside it
  | get =>
    have hclock := rule.clockBefore s hs
    refine Prog.meets_perform_bind.mpr ⟨hclock.1, fun now s hstep => ?_⟩
    have hnow := hclock.2 now s hstep
    refine (rule.safeGet hnow.2).bind (fun cached s hC => ?_) (fun error s h => h)
    cases hfilter : cached.filter fun cached => cached.isAccessValid now a.leeway with
    | some c =>
      rcases Option.filter_eq_some_iff.mp hfilter with ⟨rfl, hvalid⟩
      exact rule.reuse c now s hnow.1 hC hvalid
    | none =>
      refine hlock (fun s hs => ?_) (rule.forget cached s hC)
      have hclock := rule.clockBefore s hs
      refine Prog.meets_perform_bind.mpr ⟨hclock.1, fun now s hstep => ?_⟩
      have hnow := hclock.2 now s hstep
      refine (rule.safeGet hnow.2).bind (fun cached s hC => ?_) (fun error s h => h)
      cases hfilter : cached.filter fun cached => cached.isAccessValid now a.leeway with
      | some c =>
        rcases Option.filter_eq_some_iff.mp hfilter with ⟨rfl, hvalid⟩
        exact rule.reuse c now s hnow.1 hC hvalid
      | none => exact rule.exchange cached now s hnow.1 hC hfilter
  -- the cached state is read before the clock
  | recover rejected =>
    refine hlock (fun s hs => ?_) hs
    refine (rule.safeGet hs).bind (fun cached s hC => ?_) (fun error s h => h)
    have hclock := rule.clockAfter cached s hC
    refine Prog.meets_perform_bind.mpr ⟨hclock.1, fun now s hstep => ?_⟩
    have hnow := hclock.2 now s hstep
    cases hfilter : cached.filter fun cached =>
        cached.accessValue ≠ rejected && cached.isAccessValid now a.leeway with
    | some c =>
      rcases Option.filter_eq_some_iff.mp hfilter with ⟨rfl, hvalid⟩
      exact rule.reuse c now s hnow.1 hnow.2 hvalid
    | none => exact rule.exchange cached now s hnow.1 hnow.2 hfilter

end Requests

end JibitSdk.Guarantees
