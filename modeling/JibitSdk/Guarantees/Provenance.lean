import JibitSdk.Guarantees.CallContract
import JibitSdk.Guarantees.LostToken
import JibitSdk.Guarantees.Waiting

/-!
# Where tokens come from

Facade calls of any services share one token store.  What a call sends in an `Authorization` header,
what it shows to a token endpoint and what it stores is a token of its own cache key: one that stood
there from the start, or one that a token endpoint has issued to a call with the same key.
-/

namespace JibitSdk.Guarantees

open JibitSdk.Python JibitSdk.Reasoning JibitSdk.Sdk

variable {ι M : Type}

/-! ## 1. Genuine tokens -/

/-- The authenticator behind an executor; a static token has none. -/
def managerOf : RequestExecutor → Option ServiceAuthenticator
  | .authenticated x => some x.authenticator
  | .staticBearer _ => none

/-- A request by which the authenticator asks for a token: with its credentials, or with the refresh
    token of a state. -/
def Asks (a : ServiceAuthenticator) (refresh : Option TokenState)
    (request : TransportRequest) : Prop :=
  ∃ options correlationId endpoint, a.tokenRequest refresh = .ok options ∧
    request = a.engine.transportRequest options correlationId endpoint

/-- A token state of this cache key: stored there from the start, or read from the
    answer to a request of an authenticator with this key, which itself showed nothing
    but a state of this key. -/
inductive Genuine (who : ι → RequestExecutor) (start : Store) (log : SharedLog ι) (key : String) :
    TokenState → Prop
  | stored {token : TokenState} (hstored : start key = some (.token token)) :
      Genuine who start log key token
  | issued {i : ι} {a : ServiceAuthenticator} {refresh : Option TokenState}
      {request : TransportRequest}
      {response : TransportResponse} {correlationId : String} {now : ℚ} {token : TokenState}
      (hmanager : managerOf (who i) = some a) (hkey : a.cacheKey = key)
      (hasks : Asks a refresh request)
      (hanswer : (i, ⟨.send .token request, .response response⟩) ∈ log)
      (hread : tokenAt a refresh (rawResponse response correlationId) now = .ok token)
      (hrefresh : ∀ c, refresh = some c → Genuine who start log key c) :
      Genuine who start log key token

variable {who : ι → RequestExecutor} {start : Store} {log log' : SharedLog ι} {key : String}
  {token : TokenState}

/-- A log that goes on takes nothing back. -/
theorem Genuine.later (h : Genuine who start log key token) (hlog : log <+: log') :
    Genuine who start log' key token := by
  induction h with
  | stored hstored => exact .stored hstored
  | issued hmanager hkey hasks hanswer hread _ ih =>
    exact .issued hmanager hkey hasks (hlog.subset hanswer) hread ih

/-- The access token of a genuine state was stored, or stands in the answer to a
    token request of its key. -/
theorem Genuine.access (h : Genuine who start log key token) :
    (∃ first, start key = some (.token first) ∧ first.accessValue = token.accessValue) ∨
      ∃ i a request outcome body, managerOf (who i) = some a ∧ a.cacheKey = key ∧
        (i, (⟨.send .token request, outcome⟩ : Event effects)) ∈ log ∧
          ∃ response, outcome = TransportOutcome.response response ∧
            a.rt.jsonLoads response.content = .ok (.obj body) ∧
              ServiceAuthenticator.stringField body a.spec.accessResponseField =
                some token.accessValue := by
  cases h with
  | stored hstored => exact .inl ⟨token, hstored, rfl⟩
  | @issued i a refresh request response correlationId now _ hmanager hkey _ hanswer hread _ =>
    rcases tokenAt_ok hread with ⟨body, access, hbody, haccess, hparsed⟩
    right
    refine ⟨i, a, request, _, body, hmanager, hkey, hanswer, response, rfl, hbody, ?_⟩
    rw [haccess, ← (parsedToken_ok hparsed).1]
    rfl

/-! ## 2. What a call may do -/

/-- What a call on this executor may do with tokens, after these events. -/
def WithinScope (who : ι → RequestExecutor) (start : Store) (before : SharedLog ι) :
    RequestExecutor → Effect → Prop
  | .authenticated x, .send (.operation _) request => ∃ token,
      Genuine who start before x.authenticator.cacheKey token ∧
        request.headers.lookup "Authorization" = some (token.tokenType ++ " " ++ token.accessValue)
  | .authenticated x, .send .token request => ∃ refresh, Asks x.authenticator refresh request ∧
      ∀ c, refresh = some c → Genuine who start before x.authenticator.cacheKey c
  | .authenticated x, .storeGet key => key = x.authenticator.cacheKey
  | .authenticated x, .storeSet key token => key = x.authenticator.cacheKey ∧
      Genuine who start before x.authenticator.cacheKey token
  | .authenticated x, .storeDelete key => key = x.authenticator.cacheKey
  | .staticBearer x, .send (.operation _) request =>
      request.headers.lookup "Authorization" = some ("Bearer " ++ x.accessToken)
  | .staticBearer _, .send .token _ => False
  | .staticBearer _, .storeGet _ | .staticBearer _, .storeSet _ _
  | .staticBearer _, .storeDelete _ => False
  | _, _ => True

/-- An event of a log within the scope of its worker. -/
def Scoped (who : ι → RequestExecutor) (start : Store) (before : SharedLog ι)
    (e : ι × Event effects) :
    Prop :=
  WithinScope who start before (who e.1) e.2.op

/-- Operations that have nothing to do with tokens. -/
def isTokenFree : Effect → Prop
  | .send _ _ | .storeGet _ | .storeSet _ _ | .storeDelete _ => False
  | _ => True

theorem withinScope_of_isTokenFree {executor : RequestExecutor} {o : Effect} (ho : isTokenFree o) :
    WithinScope who start log executor o := by
  cases executor <;> cases o <;> first | exact ho.elim | trivial

theorem isTokenFree_of {o : Effect} (h : isLocal o ∨ isLockWork o) : isTokenFree o := by
  cases o <;> first | trivial | simp [isLocal, isLockWork] at h

theorem WithinScope.later {executor : RequestExecutor} {o : Effect}
    (h : WithinScope who start log executor o) (hlog : log <+: log') :
    WithinScope who start log' executor o := by
  cases executor with
  | authenticated x =>
    cases o with
    | send purpose request =>
      cases purpose with
      | operation access =>
        rcases h with ⟨token, htoken, hheader⟩
        exact ⟨token, htoken.later hlog, hheader⟩
      | token =>
        rcases h with ⟨refresh, hasks, hrefresh⟩
        exact ⟨refresh, hasks, fun c hc => (hrefresh c hc).later hlog⟩
    | storeSet key token => exact ⟨h.1, h.2.later hlog⟩
    | _ => exact h
  | staticBearer x =>
    cases o with
    | send purpose request => cases purpose <;> exact h
    | _ => exact h

/-! ## 3. What the calls agree on -/

section Agreement
variable {w : Surroundings}

/-- Everyone keeps the store genuine and stays within its scope, and relies on the log alone. -/
def scopeSharing (w : Surroundings) (who : ι → RequestExecutor) (start : Store) :
    Sharing (recorded (sharedWorld (ι := ι) w)) where
  inv s := (∀ key token, s.1.store key = some (.token token) → Genuine who start s.2 key token) ∧
    Along (Scoped who start) s.2
  rely _ s s' := s.2 <+: s'.2
  may _ _ _ := True
  refl _ s := List.prefix_refl s.2
  trans _ _ _ _ h h' := h.trans h'

variable {i : ι} {s s' : SharedState ι} {o : Effect}

/-- A genuine store stays one. -/
theorem genuine_kept {reply : Effect.Answer o} {t t' : Shared ι}
    (hstore : ∀ key token, t.store key = some (.token token) → Genuine who start log key token)
    (hscope : WithinScope who start log (who i) o) (hstep : (sharedWorld w i).step o t reply t')
    (key : String) (token : TokenState) (hstored : t'.store key = some (.token token)) :
    Genuine who start log key token := by
  rw [sharedWorld_store hstep key] at hstored
  cases o with
  | storeSet k written =>
    by_cases hk : k = key
    · rw [show contentsNext key (t.store key) ⟨.storeSet k written, reply⟩ = _ from if_pos hk]
        at hstored
      cases hstored
      cases hexecutor : who i with
      | staticBearer x =>
        rw [hexecutor] at hscope
        exact hscope.elim
      | authenticated x =>
        rw [hexecutor] at hscope
        rw [← hk, hscope.1]
        exact hscope.2
    · rw [show contentsNext key (t.store key) ⟨.storeSet k written, reply⟩ = _ from if_neg hk]
        at hstored
      exact hstore key token hstored
  | storeDelete k =>
    by_cases hk : k = key
    · rw [show contentsNext key (t.store key) ⟨.storeDelete k, reply⟩ = _ from if_pos hk] at hstored
      cases hstored
    · rw [show contentsNext key (t.store key) ⟨.storeDelete k, reply⟩ = _ from if_neg hk] at hstored
      exact hstore key token hstored
  | _ => exact hstore key token hstored

theorem scope_keeps (h : WithinScope who start s.2 (who i) o) :
    (scopeSharing w who start).keeps i o s := by
  intro s₁ hlater hinv
  refine ⟨trivial, fun reply s' hstep => ?_⟩
  have hscope := h.later hlater
  have hgrown : s₁.2 <+: s'.2 := ⟨_, hstep.2.symm⟩
  refine ⟨⟨fun key token hstored => ?_, ?_⟩, fun _ _ => hgrown⟩
  · exact (genuine_kept hinv.1 hscope hstep.1 key token hstored).later hgrown
  · rw [hstep.2, along_concat]
    exact ⟨hinv.2, hscope⟩

/-- A property of logs that later events leave alone. -/
def Lasting (P : SharedLog ι → Prop) : Prop := ∀ log log', log <+: log' → P log → P log'

/-- What a worker knows of the log. -/
abbrev LogHas (P : SharedLog ι → Prop) (s : SharedState ι) : Prop := P s.2

/-- After a step the log is an earlier one with the event at its end. -/
theorem scope_step {reply : Effect.Answer o}
    (h : ((scopeSharing w who start).view i).step o s reply s') :
    s.2 <+: s'.2 ∧ (i, ⟨o, reply⟩) ∈ s'.2 := by
  rcases h with ⟨s₁, hlater, -, -, hlog⟩
  rw [hlog]
  exact ⟨hlater.trans (List.prefix_append _ _),
    List.mem_append_right _ (List.mem_singleton.mpr rfl)⟩

variable {P : SharedLog ι → Prop}

theorem logHas_step {reply : Effect.Answer o} (hP : Lasting P) (hs : LogHas P s)
    (h : ((scopeSharing w who start).view i).step o s reply s') : LogHas P s' :=
  hP _ _ (scope_step h).1 hs

theorem free_keeps (ho : isTokenFree o) (s : SharedState ι) :
    (scopeSharing w who start).keeps i o s :=
  scope_keeps (withinScope_of_isTokenFree ho)

theorem logHas_keptLocally (hP : Lasting P) : KeptLocally ((scopeSharing w who start).view i)
    ((scopeSharing w who start).keeps i) (LogHas P) :=
  fun _ s ho hs =>
    ⟨free_keeps (isTokenFree_of (.inl ho)) s, fun _ _ hstep => logHas_step hP hs hstep⟩

theorem logHas_keptByLocks (hP : Lasting P) : KeptByLocks ((scopeSharing w who start).view i)
    ((scopeSharing w who start).keeps i) (LogHas P) :=
  fun _ s ho hs =>
    ⟨free_keeps (isTokenFree_of (.inr ho)) s, fun _ _ hstep => logHas_step hP hs hstep⟩

end Agreement

/-! ## 4. One call -/

section Calls
variable {w : Surroundings} {i : ι} {x : AuthenticatedRequestEngine} {s : SharedState ι}

/-- The state, if there is one, is genuine. -/
abbrev AllGenuine (who : ι → RequestExecutor) (start : Store) (key : String)
    (cached : Option TokenState) (log : SharedLog ι) : Prop :=
  ∀ c, cached = some c → Genuine who start log key c

theorem allGenuine_lasting (cached : Option TokenState) :
    Lasting (AllGenuine who start key cached) :=
  fun _ _ hlog h c hc => (h c hc).later hlog

/-- The worker's request has been answered. -/
def TokenAnswered (i : ι) (a : ServiceAuthenticator) (refresh : Option TokenState)
    (outcome : TransportOutcome) (log : SharedLog ι) : Prop :=
  ∃ request, Asks a refresh request ∧ (i, (⟨.send .token request, outcome⟩ : Event effects)) ∈ log

theorem tokenAnswered_lasting (a : ServiceAuthenticator) (cached refresh : Option TokenState)
    (outcome : TransportOutcome) :
    Lasting fun log => AllGenuine who start key cached log ∧
    TokenAnswered i a refresh outcome log := by
  intro log log' hlog h
  rcases h.2 with ⟨request, hasks, hanswer⟩
  exact ⟨allGenuine_lasting cached log log' hlog h.1, request, hasks, hlog.subset hanswer⟩

theorem genuine_lasting (token : TokenState) : Lasting (Genuine who start · key token) :=
  fun _ _ hlog h => h.later hlog

theorem nothing_lasting : Lasting (fun _ : SharedLog ι => True) := fun _ _ _ _ => trivial

/-- One exchange shows genuine states only, and ends with one. -/
theorem scopedExchange (hi : who i = .authenticated x) (cached refresh : Option TokenState)
    (hrefresh : ∀ c, refresh = some c → cached = some c) :
    ExchangeRule ((scopeSharing w who start).view i) ((scopeSharing w who start).keeps i)
      x.authenticator refresh True (LogHas (AllGenuine who start x.authenticator.cacheKey cached))
      (fun outcome => LogHas fun log => AllGenuine who start x.authenticator.cacheKey cached log ∧
        TokenAnswered i x.authenticator refresh outcome log)
      (fun token => LogHas (Genuine who start · x.authenticator.cacheKey token)) where
  before := logHas_keptLocally (allGenuine_lasting cached)
  after outcome := logHas_keptLocally (tokenAnswered_lasting _ cached refresh outcome)
  done token := logHas_keptLocally (genuine_lasting token)
  send options correlationId endpoint s hoptions _ hs := by
    have hasks : Asks x.authenticator refresh
        (x.authenticator.engine.transportRequest options correlationId endpoint) :=
      ⟨options, correlationId, endpoint, hoptions, rfl⟩
    constructor
    · apply scope_keeps
      rw [hi]
      exact ⟨refresh, hasks, fun c hc => hs c (hrefresh c hc)⟩
    · intro outcome s' hstep
      exact ⟨logHas_step (allGenuine_lasting cached) hs hstep, _, hasks, (scope_step hstep).2⟩
  again _ _ _ hs := hs.1
  clock _ s _ := free_keeps (o := .clock) trivial s
  unsendable _ _ := .inl trivial
  failed _ _ _ hs :=
    ⟨trivial, hs.1, fun _ _ hstep => logHas_step (allGenuine_lasting cached) hs.1 hstep⟩
  set response correlationId now s s' token hs _ hclock hread := by
    have hs' := logHas_step (tokenAnswered_lasting _ cached refresh _) hs hclock
    rcases hs'.2 with ⟨request, hasks, hanswer⟩
    have hmanager : managerOf (who i) = some x.authenticator := by rw [hi]; rfl
    have htoken : Genuine who start s'.2 x.authenticator.cacheKey token :=
      .issued hmanager rfl hasks hanswer hread fun c hc => hs'.1 c (hrefresh c hc)
    constructor
    · apply scope_keeps
      rw [hi]
      exact ⟨rfl, htoken⟩
    · exact fun s'' hset => logHas_step (genuine_lasting token) htoken hset

/-- What a token call ends with: a genuine token, or nothing in particular. -/
def CallScope (who : ι → RequestExecutor) (start : Store) (key : String) :
    Except PyError TokenState → SharedLog ι → Prop
  | .ok token, log => Genuine who start log key token
  | .error _, _ => True

theorem callScope_lasting (r : Except PyError TokenState) :
    Lasting (CallScope who start key r) := by
  cases r with
  | ok token => exact genuine_lasting token
  | error error => exact nothing_lasting

/-- A refresh, and credentials after a rejected one. -/
theorem scopedRefresh (hi : who i = .authenticated x) (cached : Option TokenState) (now : ℚ)
    (hs : LogHas (AllGenuine who start x.authenticator.cacheKey cached) s) :
    (x.authenticator.refreshOrAcquire cached now).Meets ((scopeSharing w who start).view i)
      ((scopeSharing w who start).keeps i)
      (fun r => LogHas (CallScope who start x.authenticator.cacheKey r)) s := by
  have hrefresh : ∀ c, cached = some c → ExchangeRule ((scopeSharing w who start).view i)
      ((scopeSharing w who start).keeps i) x.authenticator (some c) True
      (LogHas (AllGenuine who start x.authenticator.cacheKey cached))
      (fun outcome => LogHas fun log =>
        AllGenuine who start x.authenticator.cacheKey cached log ∧
          TokenAnswered i x.authenticator cached outcome log)
      (fun token => LogHas (Genuine who start · x.authenticator.cacheKey token)) := by
    intro c hc
    subst hc
    exact scopedExchange hi (some c) (some c) fun _ h => h
  refine (refreshOrAcquire_meets hrefresh (scopedExchange hi cached none fun c hc => by cases hc)
    hs).mono fun r s h => ?_
  cases r with
  | ok token => exact h
  | error error => trivial

theorem scopedCall (hi : who i = .authenticated x) (call : TokenCall) (s : SharedState ι) :
    (call.run x.authenticator).Meets ((scopeSharing w who start).view i)
      ((scopeSharing w who start).keeps i)
      (fun r => LogHas (CallScope who start x.authenticator.cacheKey r)) s := by
  -- the operations of the entry are on the authenticator's own key
  have hget : ∀ s : SharedState ι,
      (scopeSharing w who start).keeps i (.storeGet x.authenticator.cacheKey) s := by
    intro s
    apply scope_keeps
    rw [hi]
    rfl
  have hdelete : ∀ s : SharedState ι,
      (scopeSharing w who start).keeps i (.storeDelete x.authenticator.cacheKey) s := by
    intro s
    apply scope_keeps
    rw [hi]
    rfl
  have rule : TokenRule ((scopeSharing w who start).view i) ((scopeSharing w who start).keeps i)
      x.authenticator call (fun _ => True) True (LogHas fun _ => True)
      (fun cached => LogHas (AllGenuine who start x.authenticator.cacheKey cached))
      (fun r => LogHas (CallScope who start x.authenticator.cacheKey r)) :=
    { forget := fun _ _ _ => trivial
      locksBefore := logHas_keptByLocks nothing_lasting
      locksAfter := fun r => logHas_keptByLocks (callScope_lasting r)
      lockFailure := fun _ _ _ => ⟨fun _ _ _ _ => trivial, fun _ _ => trivial⟩
      failed := fun _ _ _ _ => trivial
      clockBefore :=
        fun s _ => ⟨free_keeps (o := .clock) trivial s, fun _ _ _ => ⟨trivial, trivial⟩⟩
      clockAfter := fun cached s hs => ⟨free_keeps (o := .clock) trivial s,
        fun _ _ hstep => ⟨trivial, logHas_step (allGenuine_lasting cached) hs hstep⟩⟩
      get := fun s _ => hget s
      found := fun s cached s' _ hstep c hc => by
        -- what the store answers is genuine already
        rcases hstep with ⟨s₁, -, hinv, hread, hlog⟩
        rw [hc] at hread
        have hstored := hinv.1 _ c (Store.get_ok hread.1.symm)
        exact hstored.later ⟨_, hlog.symm⟩
      malformed := fun s e s' _ _ => by
        by_cases hcaught : caught e = true
        · rw [if_pos hcaught]
          exact ⟨hdelete s', fun _ _ c hc => by cases hc⟩
        · rw [if_neg hcaught]
          trivial
      reuse := fun cached _ _ _ hs _ => hs cached rfl
      exchange := fun cached now s _ hs _ => scopedRefresh hi cached now hs }
  exact tokenCall_meets rule trivial

/-- An operation with a genuine token. -/
theorem scopedSend (hi : who i = .authenticated x) (options : RequestOptions) {token : TokenState}
    (hs : Genuine who start s.2 x.authenticator.cacheKey token) :
    (x.sendWith options token).Meets ((scopeSharing w who start).view i)
      ((scopeSharing w who start).keeps i) (fun _ _ => True) s := by
  have rule : SendRule ((scopeSharing w who start).view i) ((scopeSharing w who start).keeps i)
      x.engine (.operation token.accessValue) (authorize options token.tokenType token.accessValue)
      (LogHas (Genuine who start · x.authenticator.cacheKey token))
      (fun _ => LogHas (Genuine who start · x.authenticator.cacheKey token)) :=
    { before := logHas_keptLocally (genuine_lasting token)
      after := fun _ => logHas_keptLocally (genuine_lasting token)
      send := fun correlationId endpoint s _ hs => by
        constructor
        · apply scope_keeps
          rw [hi]
          exact ⟨token, hs, sent_authorization x.engine options _ _ correlationId endpoint⟩
        · exact fun outcome s' hstep => logHas_step (genuine_lasting token) hs hstep
      again := fun _ _ _ hs => hs }
  exact (execute_meets rule hs).mono fun _ _ _ => trivial

theorem scopedInvalidate (hi : who i = .authenticated x) (error : PyError) (s : SharedState ι) :
    Prog.Meets ((scopeSharing w who start).view i) ((scopeSharing w who start).keeps i)
      (fun _ _ => True) (do
        x.authenticator.invalidate
        (.throw error : Py RawResponse)) s := by
  refine ⟨?_, fun _ _ _ => trivial⟩
  apply scope_keeps
  rw [hi]
  rfl

theorem scopedExecute (hi : who i = .authenticated x) (options : RequestOptions)
    (s : SharedState ι) :
    (x.execute options).Meets ((scopeSharing w who start).view i)
      ((scopeSharing w who start).keeps i) (fun _ _ => True) s := by
  unfold AuthenticatedRequestEngine.execute
  refine (scopedCall hi .get s).bind (fun token s h => ?_) (fun _ _ _ => trivial)
  refine (scopedSend hi options h).attempt_bind fun r s _ => ?_
  cases r with
  | ok response => trivial
  | error error =>
    show Prog.Meets _ _ _ (if error.isKind .authentication then
      if canReplay options then do
        let replacement ← x.authenticator.recoverFromUnauthorized token.accessValue
        x.replay options replacement
      else do
        x.authenticator.invalidate
        .throw error
    else .throw error) s
    split
    · split
      · refine (scopedCall hi (.recover token.accessValue) s).bind (fun replacement s h => ?_)
          (fun _ _ _ => trivial)
        refine (scopedSend hi options h).attempt_bind fun r s _ => ?_
        cases r with
        | ok response => trivial
        | error error =>
          show Prog.Meets _ _ _ (if error.isKind .authentication then do
            x.authenticator.invalidate
            .throw error
          else .throw error) s
          split
          · exact scopedInvalidate hi error s
          · trivial
      · exact scopedInvalidate hi error s
    · trivial

/-- A static token goes where the caller sends it, and nowhere near the store. -/
theorem scopedStatic {x : StaticBearerRequestEngine} (hi : who i = .staticBearer x)
    (options : RequestOptions) (s : SharedState ι) :
    (x.execute options).Meets ((scopeSharing w who start).view i)
      ((scopeSharing w who start).keeps i) (fun _ _ => True) s := by
  have rule : SendRule ((scopeSharing w who start).view i) ((scopeSharing w who start).keeps i)
      x.engine (.operation x.accessToken) (authorize options "Bearer" x.accessToken)
      (LogHas fun _ => True) (fun _ => LogHas fun _ => True) :=
    { before := logHas_keptLocally nothing_lasting
      after := fun _ => logHas_keptLocally nothing_lasting
      send := fun correlationId endpoint s _ _ => by
        refine ⟨?_, fun _ _ _ => trivial⟩
        apply scope_keeps
        rw [hi]
        exact sent_authorization x.engine options "Bearer" x.accessToken correlationId endpoint
      again := fun _ _ _ hs => hs }
  exact (execute_meets rule trivial).mono fun _ _ _ => trivial

theorem scopedExecutor (options : RequestOptions) (s : SharedState ι) :
    ((who i).execute options).Meets ((scopeSharing w who start).view i)
      ((scopeSharing w who start).keeps i) (fun _ _ => True) s := by
  cases hi : who i with
  | authenticated x => exact scopedExecute hi options s
  | staticBearer x => exact scopedStatic hi options s

theorem scopedFacade (call : ι → ServiceCall M) (i : ι) (s : SharedState ι) :
    (call i).run.Meets ((scopeSharing w (fun i => (call i).executor) start).view i)
      ((scopeSharing w (fun i => (call i).executor) start).keeps i) (fun _ _ => True) s := by
  have hexecutor (s : SharedState ι) : ((call i).executor.execute (call i).options).Meets
      ((scopeSharing w (fun i => (call i).executor) start).view i)
      ((scopeSharing w (fun i => (call i).executor) start).keeps i) (fun _ _ => True) s :=
    scopedExecutor (call i).options s
  exact call_meets
    (fun _ s ho _ => ⟨free_keeps (isTokenFree_of (.inl ho)) s, fun _ _ _ => trivial⟩)
    (fun event s _ => ⟨free_keeps (o := .emitAudit event) trivial s, fun _ _ _ => trivial⟩)
    (call i) (fun s _ => hexecutor s) trivial

end Calls

/-! ## 5. All calls -/

/-- In every interleaving of facade calls over one store, each call sends, shows to the token
    endpoints, reads, stores and removes only what belongs to its own cache key, or the static token
    it was configured with; and every stored token is a genuine one of the key it is stored
    under. -/
theorem tokens_within_scope [DecidableEq ι] (call : ι → ServiceCall M) {w : Surroundings}
    {s₀ : Shared ι} {ps : ι → Py (APIResponse M)} {s : SharedState ι}
    (run : CallsRun w call s₀ ps s) :
    Along (Scoped (fun i => (call i).executor) s₀.store) s.2 ∧
      ∀ key token, s.1.store key = some (.token token) →
        Genuine (fun i => (call i).executor) s₀.store s.2 key token := by
  have hstart : (scopeSharing w (fun i => (call i).executor) s₀.store).inv (s₀, []) :=
    ⟨fun _ _ hstored => .stored hstored, along_nil _⟩
  have hinv := (Sharing.sound hstart (fun i => scopedFacade call i (s₀, [])) run).1
  exact ⟨hinv.2, hinv.1⟩

/-- The second transfer waits for the first, which stores its token, and then both send. -/
def bothSent : List Bool := oneInside ++ List.replicate 30 false ++ List.replicate 30 true

theorem tokens_within_scope_two :
    let s := sharedView (playTransfers bothSent).2
    ((sends (historyOf false s.2)).map (·.purpose) = [.token, .operation "T1"] ∧
        (sends (historyOf true s.2)).map (·.purpose) = [.operation "T1"] ∧
        (s.1.store "jibit:tokens:transfers:31d57ac87111ea375cd3").isSome = true) ∧
      Along (Scoped (fun _ : Bool => sampleTransfer.executor) fun _ => none) s.2 ∧
      ∀ key token, s.1.store key = some (.token token) →
        Genuine (fun _ : Bool => sampleTransfer.executor) (fun _ => none) s.2 key token :=
  ⟨by decide +kernel, tokens_within_scope (fun _ => sampleTransfer) (playTransfers_runs bothSent)⟩

end JibitSdk.Guarantees
