import JibitSdk.Guarantees.TokenContract
import JibitSdk.Guarantees.TokenEndpoints
import JibitSdk.Guarantees.World

/-!
# A refused refresh

A token call that finds a refreshable token asks for a refresh first.  When the provider refuses
for good, the call should fall back to credentials; whether it does is decided by the class the
refusal's status is mapped to.
-/

namespace JibitSdk.Guarantees

open JibitSdk.Python JibitSdk.Reasoning JibitSdk.Sdk

/-! ## 1. The provider -/

/-- Refresh requests get one answer and credential requests another; the clock stands still, and
    lock operations succeed.  The rest is up to `env`. -/
def tokenProvider {σ : Type} (a : ServiceAuthenticator) (refresh generate : TransportOutcome)
    (now : ℚ) (env : Handler σ) : Handler σ
  | .send .token request, s => (if request.url = refreshUrl a then refresh else generate, s)
  | .clock, s => (now, s)
  | .redisAcquire _ _ _, s => (none, s)
  | .redisRelease _, s => (none, s)
  | o, s => env o s

/-! ## 2. Refusals -/

section Refusal
variable (a : ServiceAuthenticator)

/-- A definitive refusal of a refresh: a 4xx that is not transient, or a 2xx without a usable
    access token. -/
def Refuses (response : TransportResponse) : Prop :=
  (400 ≤ response.statusCode ∧ response.statusCode < 500 ∧
      response.statusCode ∉ transientStatusCodes) ∨
    (200 ≤ response.statusCode ∧ response.statusCode < 300 ∧ usable a response.content = false)

/-- The refusals `_refresh_or_acquire` recognizes: 400, 401 and 422, with a body whose decoding
    raises nothing but a `ValueError`. -/
def recognized (response : TransportResponse) : Bool :=
  (response.statusCode = 400 || response.statusCode = 401 || response.statusCode = 422) &&
    (a.engine.bodyFields response).toBool

/-- The answer to a credential request that issues `token`. -/
def Issues (response : TransportResponse) (token : TokenState) (now : ℚ) : Prop :=
  (200 ≤ response.statusCode ∧ response.statusCode < 300) ∧
    ∀ correlationId, tokenAt a none (rawResponse response correlationId) now = .ok token

/-- The cached state the call asks to refresh. -/
def refreshes (now : ℚ) (call : TokenCall) (cached : Option TokenState) : Option TokenState :=
  cached.filter fun c =>
    !call.reuses a now c && (c.isRefreshValid now a.leeway && c.refreshValue.isSome)

variable {a}

theorem not_transient_of_refuses {response : TransportResponse} (h : Refuses a response) :
    transientOutcome (.response response) = false := by
  rw [transientOutcome, List.contains_eq_mem, decide_eq_false_iff_not]
  rcases h with ⟨-, -, h⟩ | ⟨hlow, hhigh, -⟩
  · exact h
  · intro hmem
    simp only [transientStatusCodes, List.mem_cons, List.not_mem_nil, or_false] at hmem
    omega

theorem errorKind_rejected (status : ℤ) :
    (decide (RequestEngine.errorKind status = .authentication) ||
      decide (RequestEngine.errorKind status = .validation)) =
        (status = 400 || status = 401 || status = 422) := by
  unfold RequestEngine.errorKind
  by_cases h₁ : status = 401
  · simp [h₁]
  by_cases h₂ : status = 400 ∨ status = 422
  · rcases h₂ with rfl | rfl <;> rfl
  rw [not_or] at h₂
  rw [if_neg h₁, if_neg (not_or.mpr h₂)]
  simp only [h₁, h₂.1, h₂.2, decide_false, Bool.or_self]
  by_cases h₃ : status = 403
  · rw [if_pos h₃]
    rfl
  rw [if_neg h₃]
  split
  · rfl
  split
  · rfl
  split <;> rfl

/-- The class of a refused refresh. -/
theorem refreshRejected_outcome {x : RequestEngine.Exchange} {response : TransportResponse}
    {error : PyError} (h : outcomeResult a.engine x (.response response) = .error error) :
    ServiceAuthenticator.refreshRejected error = recognized a response := by
  rw [outcomeResult] at h
  by_cases hok : 200 ≤ response.statusCode ∧ response.statusCode < 300
  · rw [if_pos hok] at h
    cases h
  · rw [if_neg hok, RequestEngine.mapError] at h
    cases hbody : a.engine.bodyFields response with
    | error error' =>
      rcases bodyFields_error hbody with ⟨b, rfl⟩
      rw [hbody] at h
      cases h
      rw [recognized, hbody]
      exact (Bool.and_false _).symm
    | ok body =>
      rw [hbody] at h
      cases h
      rw [recognized, hbody]
      show (decide (RequestEngine.errorKind response.statusCode = .authentication) ||
        decide (RequestEngine.errorKind response.statusCode = .validation)) = (_ && true)
      rw [Bool.and_true, ← errorKind_rejected]

end Refusal

/-! ## 3. The call -/

section Call
variable {σ : Type} {a : ServiceAuthenticator} {now : ℚ} {refusal generate : TransportResponse}
  {token : TokenState} {env : Handler σ}

/-- The machine of a provider with these two answers. -/
def providerMachine (a : ServiceAuthenticator) (refusal generate : TransportResponse) (now : ℚ)
    (env : Handler σ) : Machine effects (Store × σ) :=
  .ofHandler (inWorld (tokenProvider a (.response refusal) (.response generate) now env))

theorem inWorld_local {o : Effect} (h : isLocal o ∨ isLockWork o ∨ o = .clock)
    (env : Handler σ) (s : Store × σ) : (inWorld env o s).2.1 = s.1 := by
  cases o <;> first | rfl | simp [isLocal, isLockWork] at h

theorem providerMachine_keeps {o : Effect} (h : isLocal o ∨ isLockWork o ∨ o = .clock)
    {s s' : Store × σ} {answer : Effect.Answer o}
    (hstep : (providerMachine a refusal generate now env).step o s answer s') : s'.1 = s.1 := by
  have hframe :=
    inWorld_local h (tokenProvider a (.response refusal) (.response generate) now env) s
  rw [show inWorld _ o s = (answer, s') from hstep] at hframe
  exact hframe

/-- The provider tells refreshes from generations by their address. -/
theorem providerMachine_send {request : TransportRequest} {s s' : Store × σ}
    {outcome : TransportOutcome} (hstep : (providerMachine a refusal generate now env).step
      (.send .token request) s outcome s') :
    outcome = .response (if request.url = refreshUrl a then refusal else generate) ∧
    s'.1 = s.1 := by
  cases hstep
  refine ⟨?_, rfl⟩
  show (if request.url = refreshUrl a then TransportOutcome.response refusal
    else .response generate) = .response _
  split <;> rfl

theorem keptLocally_store (store : Store) (P : Prop) :
    KeptLocally (providerMachine a refusal generate now env) anyOperation
      (fun s => s.1 = store ∧ P) :=
  fun _ _ ho hs => ⟨trivial, fun _ _ hstep =>
    ⟨(providerMachine_keeps (.inl ho) hstep).trans hs.1, hs.2⟩⟩

theorem keptByLocks_store (store : Store) (P : Prop) :
    KeptByLocks (providerMachine a refusal generate now env) anyOperation
      (fun s => s.1 = store ∧ P) :=
  fun _ _ ho hs => ⟨trivial, fun _ _ hstep =>
    ⟨(providerMachine_keeps (.inr (.inl ho)) hstep).trans hs.1, hs.2⟩⟩

/-- A token request ends without touching the store, and with its own answer if it sends. -/
theorem providerRequest_meets {refresh : Option TokenState} {store : Store}
    {response : TransportResponse} (htransient : transientOutcome (.response response) = false)
    (hanswer : ∀ options correlationId endpoint, a.tokenRequest refresh = .ok options →
      a.engine.validatedEndpoint options.path = .ok endpoint →
      (if (a.engine.transportRequest options correlationId endpoint).url = refreshUrl a then
        refusal else generate) = response) {s : Store × σ} (hs : s.1 = store) :
    (a.requestToken refresh).Meets (providerMachine a refusal generate now env) anyOperation
      (RequestEnd (providerMachine a refusal generate now env) a refresh
        (fun s => s.1 = store ∧ True) (fun outcome s => s.1 = store ∧ outcome = .response response))
      s := by
  refine requestToken_meets (fun options hoptions => ?_) (fun _ _ _ => trivial) ⟨hs, trivial⟩
  refine ⟨keptLocally_store store True, fun _ => keptLocally_store store _, ?_, ?_⟩
  · intro correlationId endpoint s hendpoint hs
    refine ⟨trivial, fun outcome s' hstep => ?_⟩
    obtain ⟨houtcome, hstore⟩ := providerMachine_send hstep
    rw [hanswer options correlationId endpoint hoptions hendpoint] at houtcome
    exact ⟨hstore.trans hs.1, houtcome⟩
  · intro outcome s hout hs
    rw [hs.2, htransient] at hout
    exact nomatch hout

/-- Credentials bring the issued token into the store. -/
theorem providerAcquire_meets {store : Store} (hcredentials : ∃ body, a.generationBody = .ok body)
    (hissues : Issues a generate token now) {s : Store × σ} (hs : s.1 = store) :
    a.acquire.Meets (providerMachine a refusal generate now env) anyOperation (fun r s =>
      r = .ok token ∧ s.1 = Function.update store a.cacheKey (some (.token token))) s := by
  -- credentials go to the generation address, so the answer is the issued token
  have hgenerate := (tokenPaths a.documented).1
  have haccepted : accepted (.response generate) = some generate := if_pos hissues.1
  have hanswer : ∀ options correlationId endpoint, a.tokenRequest none = .ok options →
      a.engine.validatedEndpoint options.path = .ok endpoint →
      (if (a.engine.transportRequest options correlationId endpoint).url = refreshUrl a then
        refusal else generate) = generate := by
    intro options correlationId endpoint hoptions hendpoint
    refine if_neg fun h => ?_
    cases (transportRequest_refreshes hoptions hendpoint).mp h
  refine (providerRequest_meets (not_transient_of_accepted haccepted) hanswer hs).bind
    (fun t s h => ?_) (fun error s h => ?_)
  · -- A token was read: it is the issued one.
    have hread : t = token ∧ s.1 = store := by
      generalize hr : (Except.ok t : Except PyError TokenState) = r at h
      cases h with
      | unsendable _ _ => cases hr
      | failed _ _ => cases hr
      | untimed _ _ _ => cases hr
      | @timed response id now' s₀ _ hK _ hstep =>
        cases hK.2
        have hnow : now' = now := by
          cases hstep
          rfl
        rw [hnow, hissues.2 id] at hr
        cases hr
        exact ⟨rfl, (providerMachine_keeps (.inr (.inr rfl)) hstep).trans hK.1⟩
    rw [hread.1]
    refine (keep_meets (D := fun s => s.1 = Function.update store a.cacheKey (some (.token token)) ∧
      True) ⟨trivial, fun s' hstep => ?_⟩ (keptLocally_store _ True)).mono
      fun r s h => ⟨h.1, h.2.1⟩
    cases hstep
    rw [← hread.2]
    exact ⟨rfl, trivial⟩
  -- the request is built, sent and answered with a token: no exit raises
  · exfalso
    generalize hr : (Except.error error : Except PyError TokenState) = r at h
    cases h with
    | unsendable _ h =>
      rcases hcredentials with ⟨body, hbody⟩
      have hrequest : a.tokenRequest none = .ok (a.tokenOptions "generate_token"
          a.spec.generatePath body) := by
        show a.generationBody.map _ = _
        rw [hbody]
        rfl
      rcases h with h | ⟨options, hoptions, hbad⟩
      · cases (h.symm.trans hrequest)
      · rw [tokenRequest_none hoptions, validatedEndpoint_plain hgenerate] at hbad
        cases hbad
    | @failed x outcome e _ hK hresult =>
      cases hK.2
      rw [outcomeResult, if_pos hissues.1] at hresult
      cases hresult
    | @untimed response id e _ hK _ hnone =>
      cases hK.2
      have := (hnone now).symm.trans (hissues.2 id)
      cases this
    | @timed response id now' s₀ _ hK _ hstep =>
      cases hK.2
      have hnow : now' = now := by
        cases hstep
        rfl
      rw [hnow, hissues.2 id] at hr
      cases hr

/-- A refused refresh raises an error that is taken for a rejection just when the refusal is
    recognized. -/
theorem providerRefresh_meets {store : Store} {c : TokenState}
    (hvalue : c.refreshValue.isSome = true)
    (hrefuses : Refuses a refusal) {s : Store × σ} (hs : s.1 = store) :
    (a.requestToken (some c)).Meets (providerMachine a refusal generate now env) anyOperation
      (fun r s => s.1 = store ∧ ∃ error, r = .error error ∧
        ServiceAuthenticator.refreshRejected error = recognized a refusal) s := by
  have hrefresh := (tokenPaths a.documented).2.1
  have hanswer : ∀ options correlationId endpoint, a.tokenRequest (some c) = .ok options →
      a.engine.validatedEndpoint options.path = .ok endpoint →
      (if (a.engine.transportRequest options correlationId endpoint).url = refreshUrl a then
        refusal else generate) = refusal := by
    intro options correlationId endpoint hoptions hendpoint
    exact if_pos ((transportRequest_refreshes hoptions hendpoint).mpr rfl)
  -- a refusal that is a success brings no token, and reading it is not taken for a rejected refresh
  have hunusable : ∀ {id now' r}, accepted (.response refusal) = some refusal →
      r = tokenAt a (some c) (rawResponse refusal id) now' → ∃ error, r = .error error ∧
        ServiceAuthenticator.refreshRejected error = recognized a refusal := by
    intro id now' r haccepted hr
    have hstatus : 200 ≤ refusal.statusCode ∧ refusal.statusCode < 300 := by
      by_contra hnot
      rw [accepted, if_neg hnot] at haccepted
      cases haccepted
    have hunusable : usable a refusal.content = false := by
      rcases hrefuses with ⟨hlow, -, -⟩ | ⟨-, -, h⟩
      · omega
      · exact h
    have hrecognized : recognized a refusal = false := by
      have h₁ : ¬ refusal.statusCode = 400 := by omega
      have h₂ : ¬ refusal.statusCode = 401 := by omega
      have h₃ : ¬ refusal.statusCode = 422 := by omega
      simp only [recognized, h₁, h₂, h₃, decide_false, Bool.or_self, Bool.false_and]
    have hisOk := tokenAt_isOk (a := a) (some c) refusal id now'
    rw [hunusable] at hisOk
    cases hread : tokenAt a (some c) (rawResponse refusal id) now' with
    | ok t =>
      rw [hread] at hisOk
      cases hisOk
    | error error => exact ⟨error, hr.trans hread, (tokenAt_error hread).trans hrecognized.symm⟩
  -- the provider answers the refresh address with its refusal, however the reading ends
  refine (providerRequest_meets (not_transient_of_refuses hrefuses) hanswer hs).mono fun r s h => ?_
  cases h with
  | unsendable _ h =>
    exfalso
    rcases h with h | ⟨options, hoptions, hbad⟩
    · rcases Option.isSome_iff_exists.mp hvalue with ⟨value, hvalue⟩
      simp only [ServiceAuthenticator.tokenRequest, hvalue] at h
      cases h
    · rw [tokenRequest_some hoptions, validatedEndpoint_plain hrefresh] at hbad
      cases hbad
  | @failed x outcome e _ hK hresult =>
    cases hK.2
    exact ⟨hK.1, e, rfl, refreshRejected_outcome hresult⟩
  | @untimed response id e _ hK haccepted hnone =>
    cases hK.2
    exact ⟨hK.1, hunusable haccepted (hnone now).symm⟩
  | @timed response id now' s₀ _ hK haccepted hstep =>
    cases hK.2
    exact ⟨(providerMachine_keeps (.inr (.inr rfl)) hstep).trans hK.1, hunusable haccepted rfl⟩

/-- How an exchange ends: stuck where it was, or with the issued token. -/
def ExchangeEnds (a : ServiceAuthenticator) (token : TokenState) (store : Store) (stuck : Bool)
    (r : Except PyError TokenState) (s : Store × σ) : Prop :=
  if stuck then (∃ error, r = .error error) ∧ s.1 = store
  else r = .ok token ∧ s.1 = Function.update store a.cacheKey (some (.token token))

theorem providerExchange_meets {store : Store} {cached : Option TokenState}
    (hcredentials : ∃ body, a.generationBody = .ok body) (hissues : Issues a generate token now)
    (hrefuses : Refuses a refusal) {s : Store × σ} (hs : s.1 = store) :
    (a.refreshOrAcquire cached now).Meets (providerMachine a refusal generate now env) anyOperation
      (ExchangeEnds a token store ((cached.filter fun c =>
        c.isRefreshValid now a.leeway && c.refreshValue.isSome).isSome && !recognized a refusal))
      s := by
  have hacquire {s : Store × σ} (hs : s.1 = store) : a.acquire.Meets
      (providerMachine a refusal generate now env) anyOperation
      (ExchangeEnds a token store false) s :=
    providerAcquire_meets hcredentials hissues hs
  unfold ServiceAuthenticator.refreshOrAcquire
  cases hfilter : cached.filter fun c => c.isRefreshValid now a.leeway with
  | none =>
    have hstuck : (cached.filter fun c =>
        c.isRefreshValid now a.leeway && c.refreshValue.isSome) = none := by
      cases cached with
      | none => rfl
      | some c =>
        have hinvalid : c.isRefreshValid now a.leeway = false := by
          simpa [Option.filter] using hfilter
        simp [Option.filter, hinvalid]
    rw [hstuck]
    exact hacquire hs
  | some c =>
    rcases Option.filter_eq_some_iff.mp hfilter with ⟨rfl, hvalid⟩
    -- The refresh ends in an error; what becomes of it depends on whether it is recognized.
    have hafter (error : PyError) {s : Store × σ} (hs : s.1 = store) :
        Prog.Meets (providerMachine a refusal generate now env) anyOperation
          (ExchangeEnds a token store !ServiceAuthenticator.refreshRejected error)
          (if ServiceAuthenticator.refreshRejected error then do
            a.logger.emit a.rt .warning .tokenRefreshFailed
              [("service", .str a.service.value), ("reason", .str "refresh_rejected")]
            a.acquire else .throw error) s := by
      by_cases hrejected : ServiceAuthenticator.refreshRejected error = true
      · rw [if_pos hrejected, hrejected]
        exact (local_meets (emit_always a.logger a.rt _ _ _) (keptLocally_store store True)
          ⟨hs, trivial⟩).bind (fun _ s hs => hacquire hs.2.1) (fun _ _ h => nomatch h.1)
      · rw [if_neg hrejected, Bool.eq_false_iff.mpr hrejected]
        exact ⟨⟨error, rfl⟩, hs⟩
    cases hvalue : c.refreshValue with
    | none =>
      have hrequest : a.requestToken (some c) = .throw (.jibit (.new a.rt .authentication
          "No refresh token is available")) := by
        simp only [ServiceAuthenticator.requestToken, ServiceAuthenticator.tokenRequest, hvalue]
        rfl
      have hstuck : ((some c).filter fun c =>
          c.isRefreshValid now a.leeway && c.refreshValue.isSome) = none := by
        simp [Option.filter, hvalue]
      rw [hstuck]
      show Prog.Meets _ _ _ ((a.requestToken (some c)).attempt >>= _) s
      rw [hrequest]
      exact hafter (.jibit (.new a.rt .authentication "No refresh token is available")) hs
    | some value =>
      have hsome : c.refreshValue.isSome = true := by rw [hvalue]; rfl
      have hstuck : ((some c).filter fun c =>
          c.isRefreshValid now a.leeway && c.refreshValue.isSome) = some c := by
        simp [Option.filter, hvalid, hsome]
      rw [hstuck]
      refine (providerRefresh_meets hsome hrefuses hs).attempt_bind fun r s h => ?_
      rcases h with ⟨hs, error, rfl, hrejected⟩
      rw [Option.isSome_some, Bool.true_and, ← hrejected]
      exact hafter error hs

/-- How a call ends: with the cached token it reuses, stuck, or with the issued token. -/
def CallEnds (a : ServiceAuthenticator) (now : ℚ) (refusal : TransportResponse)
    (token : TokenState) (store : Store) (call : TokenCall) (cached : Option TokenState)
    (r : Except PyError TokenState) (s : Store × σ) : Prop :=
  match cached.filter fun c => call.reuses a now c with
  | some c => r = .ok c ∧ s.1 = store
  | none => ExchangeEnds a token store
      ((refreshes a now call cached).isSome && !recognized a refusal) r s

theorem callEnds_congr {store : Store} {call : TokenCall} {cached : Option TokenState}
    {r : Except PyError TokenState} {s s' : Store × σ} (h : s'.1 = s.1)
    (hends : CallEnds a now refusal token store call cached r s) :
    CallEnds a now refusal token store call cached r s' := by
  unfold CallEnds ExchangeEnds at *
  rw [h]
  exact hends

theorem providerCall_meets (call : TokenCall) {store : Store} {cached : Option TokenState}
    (hcached : store a.cacheKey = cached.map .token)
    (hcredentials : ∃ body, a.generationBody = .ok body) (hissues : Issues a generate token now)
    (hrefuses : Refuses a refusal) {s : Store × σ} (hs : s.1 = store) :
    (call.run a).Meets (providerMachine a refusal generate now env) anyOperation
      (CallEnds a now refusal token store call cached) s := by
  -- the store still holds the state the call begins with
  have hget : store.get a.cacheKey = .ok cached := by
    unfold Store.get
    rw [hcached]
    cases cached <;> rfl
  have rule : TokenRule (providerMachine a refusal generate now env) anyOperation a call (· = now)
      False (fun s => s.1 = store ∧ True) (fun c s => s.1 = store ∧ c = cached)
      (CallEnds a now refusal token store call cached) :=
    { forget := fun _ _ h => ⟨h.1, trivial⟩
      locksBefore := keptByLocks_store store True
      locksAfter := fun r o s ho hr => ⟨trivial, fun _ _ hstep =>
        callEnds_congr (providerMachine_keeps (.inr (.inl ho)) hstep) hr⟩
      lockFailure := fun _ _ _ => ⟨fun _ _ _ h => (nomatch h), fun _ h => (nomatch h)⟩
      failed := fun h => h.elim
      clockBefore := fun s hs => ⟨trivial, fun _ _ hstep => by
        have hkeep := providerMachine_keeps (.inr (.inr rfl)) hstep
        cases hstep
        exact ⟨rfl, hkeep.trans hs.1, trivial⟩⟩
      clockAfter := fun _ s hs => ⟨trivial, fun _ _ hstep => by
        have hkeep := providerMachine_keeps (.inr (.inr rfl)) hstep
        cases hstep
        exact ⟨rfl, hkeep.trans hs.1, hs.2⟩⟩
      get := fun _ _ => trivial
      found := fun s c s' hs hstep => by
        have hfound : s.1.get a.cacheKey = .ok c ∧ s = s' := Prod.mk.inj hstep
        rw [hs.1, hget] at hfound
        cases hfound.1
        rw [← hfound.2]
        exact ⟨hs.1, rfl⟩
      malformed := fun s e s' hs hstep => by
        have hfound : s.1.get a.cacheKey = .error e ∧ s = s' := Prod.mk.inj hstep
        rw [hs.1, hget] at hfound
        exact nomatch hfound.1
      -- a state that is reused ends the call without a request
      reuse := fun c _ s hnow hs hreuses => by
        rw [hnow] at hreuses
        have hfilter : ((some c).filter fun c => call.reuses a now c) = some c := by
          simp [Option.filter, hreuses]
        rw [CallEnds, ← hs.2, hfilter]
        exact ⟨rfl, hs.1⟩
      exchange := fun c _ s hnow hs hfilter => by
        rw [hnow, hs.2] at hfilter
        rw [hnow, hs.2]
        refine (providerExchange_meets hcredentials hissues hrefuses hs.1).mono fun r s h => ?_
        unfold CallEnds
        rw [hfilter]
        -- what is left of the cached state is the one the exchange refreshes, if any
        have hsame : refreshes a now call cached = cached.filter fun c =>
            c.isRefreshValid now a.leeway && c.refreshValue.isSome := by
          unfold refreshes
          cases cached with
          | none => rfl
          | some c =>
            have hnot : call.reuses a now c = false := by simpa [Option.filter] using hfilter
            simp [Option.filter, hnot]
        show ExchangeEnds a token store _ r s
        rw [hsame]
        exact h }
  exact tokenCall_meets rule ⟨hs, trivial⟩

end Call

/-- A token call whose refresh the provider refuses for good, while credentials would be accepted,
    returns a token (the cached one if it may be reused, else the newly issued one) exactly when no
    refresh is asked for or the refusal is recognized.  Otherwise it raises and leaves the store as
    it was, so that the next call meets the same. -/
theorem tokenCall_falls_back_iff {σ : Type} (a : ServiceAuthenticator) (call : TokenCall)
    (store : Store) (cached : Option TokenState) (now : ℚ) (refusal generate : TransportResponse)
    (token : TokenState) (env : Handler σ) (s : σ)
    (hcredentials : ∃ body, a.generationBody = .ok body) (hissues : Issues a generate token now)
    (hrefuses : Refuses a refusal) :
    (((call.run a).exec (S := effects)
        (inWorld (tokenProvider a (.response refusal) (.response generate) now env))
        (Function.update store a.cacheKey (cached.map .token), s)).2.2 =
          .ok ((cached.filter fun c => call.reuses a now c).getD token) ↔
      refreshes a now call cached = none ∨ recognized a refusal = true) ∧
    (¬ (refreshes a now call cached = none ∨ recognized a refusal = true) →
      ((call.run a).exec (S := effects)
        (inWorld (tokenProvider a (.response refusal) (.response generate) now env))
        (Function.update store a.cacheKey (cached.map .token), s)).2.1.1 =
          Function.update store a.cacheKey (cached.map .token)) := by
  have hcached : Function.update store a.cacheKey (cached.map .token) a.cacheKey =
      cached.map .token := Function.update_self ..
  -- the call ends as its contract says; the rest is a case distinction on the cached state
  have hmeets : (call.run a).Meets (providerMachine a refusal generate now env) anyOperation
      (CallEnds a now refusal token (Function.update store a.cacheKey (cached.map .token)) call
        cached) (Function.update store a.cacheKey (cached.map .token), s) :=
    providerCall_meets call hcached hcredentials hissues hrefuses rfl
  have hends := Prog.Meets.exec hmeets
  generalize (call.run a).exec (S := effects)
    (inWorld (tokenProvider a (.response refusal) (.response generate) now env))
    (Function.update store a.cacheKey (cached.map .token), s) = run at hends ⊢
  unfold CallEnds at hends
  -- a state that is reused is not refreshed
  have hreused : (cached.filter fun c => call.reuses a now c).isSome = true →
      refreshes a now call cached = none := by
    intro h
    cases cached with
    | none => rfl
    | some c =>
      have hreuses : call.reuses a now c = true := by simpa [Option.filter] using h
      simp [refreshes, Option.filter, hreuses]
  cases hfilter : cached.filter fun c => call.reuses a now c with
  | some c =>
    rw [hfilter] at hends hreused
    have hnone := hreused rfl
    rw [hnone]
    exact ⟨⟨fun _ => .inl rfl, fun _ => hends.1⟩, fun h => absurd (.inl rfl) h⟩
  | none =>
    rw [hfilter] at hends
    change ExchangeEnds a token _ _ run.2.2 run.2.1 at hends
    unfold ExchangeEnds at hends
    cases hrefresh : refreshes a now call cached with
    | none =>
      rw [hrefresh] at hends
      exact ⟨⟨fun _ => .inl rfl, fun _ => hends.1⟩, fun h => absurd (.inl rfl) h⟩
    | some c =>
      rw [hrefresh] at hends
      cases hrecognized : recognized a refusal with
      | true =>
        rw [hrecognized] at hends
        exact ⟨⟨fun _ => .inr rfl, fun _ => hends.1⟩, fun h => absurd (.inr rfl) h⟩
      | false =>
        rw [hrecognized] at hends
        -- an unrecognized refusal of the refresh: the call raises and the state stays
        rcases hends with ⟨⟨error, herror⟩, hstore⟩
        refine ⟨⟨fun h => ?_, fun h => ?_⟩, fun _ => hstore⟩
        · rw [herror] at h
          exact nomatch h
        · rcases h with h | h <;> exact nomatch h

/-- A cached state whose access token has expired at time zero. -/
def expiredToken : TokenState := { sampleToken with expiresAt := some (.finite 0) }

/-- The state `T2` is cached as when it is issued at time zero. -/
def issuedToken : TokenState :=
  { accessToken := "T2", refreshToken := some "R2", expiresAt := some (.finite 86400),
    refreshExpiresAt := some (.finite 172800) }

/-- The identifier of a request does not show in its token. -/
theorem tokenAt_correlation {a : ServiceAuthenticator} {refresh : Option TokenState}
    {response : TransportResponse} {id : String} {now : ℚ} {token : TokenState}
    (h : tokenAt a refresh (rawResponse response id) now = .ok token) (id' : String) :
    tokenAt a refresh (rawResponse response id') now = .ok token := by
  unfold tokenAt RawResponse.json rawResponse at *
  cases hjson : a.rt.jsonLoads response.content with
  | ok value =>
    rw [hjson] at h
    exact h
  | error e =>
    rw [hjson] at h
    by_cases he : e = .unicodeDecodeError ∨ e = .jsonDecodeError
    · simp only [if_pos he] at h
      cases h
    · simp only [if_neg he] at h
      cases h

theorem issues_sample : Issues sampleAuthenticator (sampleResponse 200 bodyT2) issuedToken 0 := by
  have h : tokenAt sampleAuthenticator none (rawResponse (sampleResponse 200 bodyT2) "") 0 =
      .ok issuedToken := by decide +kernel
  exact ⟨by decide, tokenAt_correlation h⟩

theorem refuses_sample {status : ℤ} (h : status = 401 ∨ status = 403) :
    Refuses sampleAuthenticator (sampleResponse status "\x7b\x7d") := by
  rcases h with rfl | rfl <;> exact .inl (by decide)

/-- A refresh answered 401 falls back. -/
theorem tokenCall_falls_back_iff_unauthorized :
    ((((TokenCall.get.run sampleAuthenticator).exec (S := effects)
        (inWorld (tokenProvider sampleAuthenticator (answer 401 "\x7b\x7d") issueT2 0 scripted))
        (Function.update (fun _ => none) sampleAuthenticator.cacheKey
          ((some expiredToken).map .token), [])).2.2 =
          .ok (((some expiredToken).filter fun c =>
            TokenCall.get.reuses sampleAuthenticator 0 c).getD issuedToken) ↔
      refreshes sampleAuthenticator 0 .get (some expiredToken) = none ∨
        recognized sampleAuthenticator (sampleResponse 401 "\x7b\x7d") = true) ∧
    (¬ (refreshes sampleAuthenticator 0 .get (some expiredToken) = none ∨
        recognized sampleAuthenticator (sampleResponse 401 "\x7b\x7d") = true) →
      ((TokenCall.get.run sampleAuthenticator).exec (S := effects)
        (inWorld (tokenProvider sampleAuthenticator (answer 401 "\x7b\x7d") issueT2 0 scripted))
        (Function.update (fun _ => none) sampleAuthenticator.cacheKey
          ((some expiredToken).map .token), [])).2.1.1 =
          Function.update (fun _ => none) sampleAuthenticator.cacheKey
            ((some expiredToken).map .token))) :=
  tokenCall_falls_back_iff sampleAuthenticator .get (fun _ => none) (some expiredToken) 0
    (sampleResponse 401 "\x7b\x7d") (sampleResponse 200 bodyT2) issuedToken scripted []
    ⟨_, rfl⟩ issues_sample (refuses_sample (.inl rfl))

/-- A refresh answered 403 does not: the call raises although credentials would bring a token, and
    the state that led there is still stored. -/
theorem getToken_forbidden_refresh :
    Refuses sampleAuthenticator (sampleResponse 403 "\x7b\x7d") ∧
    Issues sampleAuthenticator (sampleResponse 200 bodyT2) issuedToken 0 ∧
    ((sampleAuthenticator.getToken.exec (S := effects)
        (inWorld (tokenProvider sampleAuthenticator (answer 403 "\x7b\x7d") issueT2 0 scripted))
        (Function.update (fun _ => none) sampleAuthenticator.cacheKey (some (.token expiredToken)),
          [])).2.2 ≠ .ok issuedToken ∧
      (sampleAuthenticator.getToken.exec (S := effects)
        (inWorld (tokenProvider sampleAuthenticator (answer 403 "\x7b\x7d") issueT2 0 scripted))
        (Function.update (fun _ => none) sampleAuthenticator.cacheKey (some (.token expiredToken)),
          [])).2.1.1 sampleAuthenticator.cacheKey = some (.token expiredToken)) :=
  ⟨refuses_sample (.inr rfl), issues_sample, by decide +kernel⟩

end JibitSdk.Guarantees
