import JibitSdk.Guarantees.RetryLoop
import JibitSdk.Guarantees.Secrets
import JibitSdk.Guarantees.World

/-!
# Diagnostics know no secrets

Two runs of one audited operation whose worlds differ in keys, tokens, payloads and the provider's
free text leave the same log records and audit events and raise the same error.
-/

namespace JibitSdk.Guarantees

open JibitSdk.Python JibitSdk.Reasoning JibitSdk.Sdk

/-! ## 1. What the two worlds share -/

section Worlds

variable {rt : Runtime} (T : TokenPairing rt) (spec : AuthSpec)

/-- Responses to a request for this purpose.  The content of an operation's success is free. -/
structure SameResponse (purpose : Purpose) (r r' : TransportResponse) : Prop where
  statusCode : r.statusCode = r'.statusCode
  headers : r.headers = r'.headers
  token : 200 ≤ r.statusCode ∧ r.statusCode < 300 → purpose = .token →
    SameDocument (SameTokenBody T spec) (rt.jsonLoads r.content) (rt.jsonLoads r'.content)
  error : ¬ (200 ≤ r.statusCode ∧ r.statusCode < 300) → SameErrorContent rt r.content r'.content

def SameTransport (purpose : Purpose) : TransportOutcome → TransportOutcome → Prop
  | .response r, .response r' => SameResponse T spec purpose r r'
  | .timeoutError, .timeoutError | .networkError, .networkError => True
  | _, _ => False

/-- The answers the two worlds give in one place: equal, but for the tokens of the store and the
    contents of responses. -/
def SameAnswer : (o o' : Effect) → Effect.Answer o → Effect.Answer o' → Prop
  | .send purpose _, .send purpose' _, outcome, outcome' =>
    purpose.isOperation = purpose'.isOperation → SameTransport T spec purpose outcome outcome'
  | .monotonic, .monotonic, now, now' => now = now'
  | .clock, .clock, now, now' => now = now'
  | .random, .random, x, x' => x = x'
  | .newCorrelationId, .newCorrelationId, id, id' => id = id'
  | .storeGet _, .storeGet _, cached, cached' => Outcomes (Option.Rel (SameToken T)) cached cached'
  | .redisAcquire _ _ _, .redisAcquire _ _ _, error, error' => error = error'
  | .redisRelease _, .redisRelease _, error, error' => error = error'
  | .emitAudit _, .emitAudit _, error, error' => error = error'
  | _, _, _, _ => True

/-- The diagnostic an operation leaves. -/
def diagnostic : Effect → Option (LogRecord ⊕ AuditEvent)
  | .log record => some (.inl record)
  | .emitAudit event => some (.inr event)
  | _ => none

/-- Who reads the diagnostics of two runs that differ in secrets. -/
def reader : Onlooker effects (LogRecord ⊕ AuditEvent) := ⟨diagnostic, SameAnswer T spec⟩

/-- Coupled programs of the SDK. -/
abbrev Coupled {α α' : Type} (V : α → α' → Prop) (p : Py α) (p' : Py α') : Prop :=
  Prog.Coupled (reader T spec) V p p'

end Worlds

/-- The log records of a trace, in order. -/
def records : List (Event effects) → List LogRecord
  | [] => []
  | ⟨.log record, _⟩ :: tr => record :: records tr
  | _ :: tr => records tr

section Coupling

variable {rt : Runtime} {T : TokenPairing rt} {spec : AuthSpec} {e e' : RequestEngine}
  {o o' : RequestOptions} {α : Type}

theorem records_seen (tr : List (Event effects)) :
    records tr = ((reader T spec).seen tr).filterMap Sum.getLeft? := by
  induction tr with
  | nil => rfl
  | cons ev tr ih =>
    obtain ⟨op, answer⟩ := ev
    cases op <;> first | exact ih | exact congrArg (List.cons _) ih

theorem audits_seen (tr : List (Event effects)) :
    audits tr = ((reader T spec).seen tr).filterMap Sum.getRight? := by
  induction tr with
  | nil => rfl
  | cons ev tr ih =>
    obtain ⟨op, answer⟩ := ev
    cases op <;> first | exact ih | exact congrArg (List.cons _) ih

/-! ## 2. The engine -/

/-- Clocks, random source, correlation ids and the log answer alike. -/
theorem local_coupled {p : Py α} {Q : Except PyError α → Prop} (h : p.Always isLocal Q) :
    Coupled T spec Eq p p := by
  apply h.coupled
  intro op answer answer' hlocal hagree
  cases op <;> first | exact hagree | rfl | exact hlocal.elim

/-- What one execution of the engine keeps. -/
structure SameExchange (x x' : RequestEngine.Exchange) : Prop where
  purpose : x.purpose.isOperation = x'.purpose.isOperation
  options : SameOptions x.options x'.options
  correlationId : x.correlationId = x'.correlationId
  endpoint : x.endpoint = x'.endpoint
  started : x.started = x'.started

/-- Raw responses of one execution: token responses differ in their tokens only. -/
structure SameRaw (T : TokenPairing rt) (spec : AuthSpec) (purpose : Purpose)
    (raw raw' : RawResponse) :
    Prop where
  statusCode : raw.statusCode = raw'.statusCode
  correlationId : raw.correlationId = raw'.correlationId
  token : purpose = .token →
    SameDocument (SameTokenBody T spec) (rt.jsonLoads raw.content) (rt.jsonLoads raw'.content)

section Loop

variable {x x' : RequestEngine.Exchange} {V : RawResponse → RawResponse → Prop}

theorem fail_coupled (hx : SameExchange x x') (error : JibitError) :
    Coupled T spec V (e.fail x error) (e.fail x' error) := by
  have hlog : (e.logFailure error x.started).Always isLocal fun _ => True :=
    ⟨trivial, fun _ => (emit_always e.logger e.rt _ _ _).only⟩
  unfold RequestEngine.fail
  rw [← hx.started]
  exact (local_coupled hlog).bind fun _ _ _ => .throw _

theorem transportFailure_same (hx : SameExchange x x') (kind : JibitErrorKind) :
    e.transportFailure x kind = e.transportFailure x' kind := by
  unfold RequestEngine.transportFailure
  rw [context_same e hx.options, hx.correlationId, hx.endpoint]

theorem complete_coupled (hx : SameExchange x x') (attempt : ℕ)
    {r r' : TransportResponse} (hr : SameResponse T spec x.purpose r r')
    (hsuccess : 200 ≤ r.statusCode ∧ r.statusCode < 300) :
    Coupled T spec (SameRaw T spec x.purpose) (e.complete x attempt r)
      (e.complete x' attempt r') := by
  unfold RequestEngine.complete
  rw [hx.options.service, hx.options.operation, hx.options.method, hx.endpoint, hx.started,
    hx.correlationId, hr.statusCode, hr.headers]
  refine .call rfl fun now now' hnow => ?_
  cases hnow
  refine (local_coupled (emit_always _ _ _ _ _)).bind fun _ _ _ => .ret ?_
  exact ⟨rfl, rfl, hr.token hsuccess⟩

theorem retryOr_coupled (hx : SameExchange x x') (attempt : ℕ) (status : Option ℤ) (failed : Bool)
    {again again' failure failure' : Py RawResponse} (hagain : Coupled T spec V again again')
    (hfailure : Coupled T spec V failure failure') :
    Coupled T spec V
      (e.retryPolicy.decide attempt x.options.safety status failed
        x.options.idempotencyKey.isSome >>=
        fun decision => e.retryOr x attempt decision again failure)
      (e.retryPolicy.decide attempt x'.options.safety status failed
        x'.options.idempotencyKey.isSome >>=
        fun decision => e.retryOr x' attempt decision again' failure') := by
  rw [← hx.options.safety, ← hx.options.idempotencyKey]
  refine (local_coupled (decide_always e.retryPolicy attempt x.options status failed)).bind
    fun decision _ hdecision => ?_
  cases hdecision
  unfold RequestEngine.retryOr
  split
  · have hlog : e.logRetry x attempt decision = e.logRetry x' attempt decision := by
      unfold RequestEngine.logRetry
      rw [hx.options.service, hx.options.operation, hx.correlationId]
    rw [hlog]
    refine (local_coupled (emit_always _ _ _ _ _)).bind fun _ _ _ => ?_
    exact .call rfl fun _ _ _ => hagain
  · exact hfailure

theorem loopBody_coupled (hrt : e.rt = rt) (hx : SameExchange x x') (attempt : ℕ)
    {again again' : Py RawResponse}
    (hagain : Coupled T spec (SameRaw T spec x.purpose) again again') :
    Coupled T spec (SameRaw T spec x.purpose) (e.loopBody x attempt again)
      (e.loopBody x' attempt again') := by
  refine .call rfl fun outcome outcome' hanswer => ?_
  have houtcome : SameTransport T spec x.purpose outcome outcome' := hanswer hx.purpose
  cases outcome with
  | timeoutError => cases outcome' with
    | timeoutError =>
      apply retryOr_coupled hx attempt none true hagain
      rw [transportFailure_same hx]
      exact fail_coupled hx _
    | networkError => exact houtcome.elim
    | response r' => exact houtcome.elim
  | networkError => cases outcome' with
    | timeoutError => exact houtcome.elim
    | networkError =>
      apply retryOr_coupled hx attempt none true hagain
      rw [transportFailure_same hx]
      exact fail_coupled hx _
    | response r' => exact houtcome.elim
  | response r => cases outcome' with
    | timeoutError => exact houtcome.elim
    | networkError => exact houtcome.elim
    | response r' =>
      show Prog.Coupled _ _ (if 200 ≤ r.statusCode ∧ r.statusCode < 300 then _ else _)
        (if 200 ≤ r'.statusCode ∧ r'.statusCode < 300 then _ else _)
      rw [← houtcome.statusCode]
      by_cases hsuccess : 200 ≤ r.statusCode ∧ r.statusCode < 300
      · rw [if_pos hsuccess, if_pos hsuccess]
        exact complete_coupled hx attempt houtcome hsuccess
      · rw [if_neg hsuccess, if_neg hsuccess]
        apply retryOr_coupled hx attempt (some r.statusCode) false hagain
        have hcontent := houtcome.error hsuccess
        rw [← hrt] at hcontent
        rw [mapError_same hx.options houtcome.statusCode houtcome.headers hcontent,
          hx.correlationId, hx.endpoint]
        refine Prog.Coupled.bind (V := Eq) (.ofExcept (.rfl (fun _ => rfl) _))
          fun error _ herror => ?_
        cases herror
        exact fail_coupled hx error

theorem sendLoopFrom_coupled (hrt : e.rt = rt) (hx : SameExchange x x') (remaining attempt : ℕ) :
    Coupled T spec (SameRaw T spec x.purpose) (e.sendLoopFrom x remaining attempt)
      (e.sendLoopFrom x' remaining attempt) := by
  induction remaining generalizing attempt with
  | zero => exact loopBody_coupled hrt hx attempt (.throw _)
  | succ remaining ih => exact loopBody_coupled hrt hx attempt (ih (attempt + 1))

end Loop

/-- The loop reads nothing of the configuration. -/
theorem sendLoopFrom_config (config : JibitConfig) (x : RequestEngine.Exchange)
    (remaining attempt : ℕ) :
    ({ e with config := config } : RequestEngine).sendLoopFrom x remaining attempt =
      e.sendLoopFrom x remaining attempt := by
  induction remaining generalizing attempt with
  | zero => rfl
  | succ remaining ih =>
    rw [RequestEngine.sendLoopFrom, RequestEngine.sendLoopFrom, ih]
    rfl

theorem correlationId_coupled (ho : SameOptions o o') :
    Coupled T spec Eq (RequestEngine.correlationId o) (RequestEngine.correlationId o') := by
  unfold RequestEngine.correlationId
  rw [ho.correlationId]
  split
  · exact .ret rfl
  · exact .call rfl fun _ _ hid => .ret hid

theorem execute_coupled (h : SameEngine rt e e') (ho : SameOptions o o')
    {purpose purpose' : Purpose} (hpurpose : purpose.isOperation = purpose'.isOperation) :
    Coupled T spec (SameRaw T spec purpose) (e.execute purpose o) (e'.execute purpose' o') := by
  obtain ⟨config, rfl⟩ := h.exists_config
  refine (correlationId_coupled ho).bind fun id _ hid => ?_
  cases hid
  show Prog.Coupled _ _ (Prog.ofExcept (e.validatedEndpoint o.path) >>= _)
    (Prog.ofExcept (e.validatedEndpoint o'.path) >>= _)
  rw [← ho.path]
  refine Prog.Coupled.bind (V := Eq) (.ofExcept (.rfl (fun _ => rfl) _))
    fun endpoint _ hendpoint => ?_
  cases hendpoint
  refine .call rfl fun started _ hstarted => ?_
  cases hstarted
  show Prog.Coupled _ _
    (e.logger.emit e.rt .info .requestStarted
      [("service", .str o.service.value), ("operation", .str o.operation),
        ("method", .str (e.rt.upper o.method)), ("endpoint", .str endpoint),
        ("correlation_id", .str id)] >>= _)
    (e.logger.emit e.rt .info .requestStarted
      [("service", .str o'.service.value), ("operation", .str o'.operation),
        ("method", .str (e.rt.upper o'.method)), ("endpoint", .str endpoint),
        ("correlation_id", .str id)] >>= _)
  rw [← ho.service, ← ho.operation, ← ho.method]
  refine (local_coupled (emit_always _ _ _ _ _)).bind fun _ _ _ => ?_
  unfold RequestEngine.sendLoop
  rw [sendLoopFrom_config config]
  have hx : SameExchange ⟨purpose, o, id, endpoint, e.transportRequest o id endpoint, started⟩
      ⟨purpose', o', id, endpoint,
        ({ e with config := config } : RequestEngine).transportRequest o' id endpoint, started⟩ :=
    ⟨hpurpose, ho, rfl, rfl, rfl⟩
  exact sendLoopFrom_coupled h.runtime hx _ _

/-! ## 3. The authenticator -/

section Auth

variable {a a' : ServiceAuthenticator} {previous previous' : Option TokenState}

theorem builtin_coupled {β : Type} {V : α → β → Prop} {x : Except BuiltinError α}
    {x' : Except BuiltinError β} (h : Outcomes V x x') :
    Coupled T spec V (Py.builtin x) (Py.builtin x') := by
  cases x with
  | ok b => cases x' with
    | ok b' => exact .ret h
    | error error' => exact h.elim
  | error error => cases x' with
    | ok b' => exact h.elim
    | error error' =>
      cases h
      exact .throw _

theorem parseToken_coupled (h : SameAuthenticator rt a a') {b b' : List (String × Json)}
    (hb : SameTokenBody T a.spec b b') (hprevious : Option.Rel (SameToken T) previous previous') :
    Coupled T spec (SameToken T) (a.parseToken b previous) (a'.parseToken b' previous') := by
  have haccess := stringField_same hb.access
  unfold ServiceAuthenticator.parseToken
  rw [← h.spec_eq, h.rt_eq.1, h.rt_eq.2]
  generalize ServiceAuthenticator.stringField b a.spec.accessResponseField = access at haccess ⊢
  generalize ServiceAuthenticator.stringField b' a.spec.accessResponseField = access' at haccess ⊢
  cases haccess with
  | none => exact .throw _
  | some haccess =>
    refine .call rfl fun now _ hnow => ?_
    cases hnow
    exact builtin_coupled (parsedToken_same h hb hprevious haccess now)

theorem readToken_coupled (h : SameAuthenticator rt a a') {raw raw' : RawResponse}
    (hraw : SameRaw T a.spec .token raw raw')
    (hprevious : Option.Rel (SameToken T) previous previous') :
    Coupled T spec (SameToken T) (a.readToken raw previous) (a'.readToken raw' previous') := by
  have hdocument := hraw.token rfl
  unfold ServiceAuthenticator.readToken RawResponse.json
  rw [h.rt_eq.1, h.rt_eq.2, hraw.statusCode, hraw.correlationId]
  generalize rt.jsonLoads raw.content = x at hdocument ⊢
  generalize rt.jsonLoads raw'.content = x' at hdocument ⊢
  unfold SameDocument at hdocument
  split at hdocument
  · exact parseToken_coupled h hdocument hprevious
  · rename_i hobj
    cases hdocument
    cases x with
    | ok value => cases value with
      | obj b => exact absurd rfl (hobj b b rfl)
      | _ => exact .throw _
    | error error =>
      show Prog.Coupled _ _ (Prog.ofExcept (if _ then _ else _) >>= _)
        (Prog.ofExcept (if _ then _ else _) >>= _)
      split
      · exact .throw _
      · exact .throw _

theorem requestToken_coupled (h : SameAuthenticator rt a a')
    (hprevious : Option.Rel (SameToken T) previous previous') :
    Coupled T a.spec (SameToken T) (a.requestToken previous) (a'.requestToken previous') := by
  refine Prog.Coupled.bind (.ofExcept (tokenRequest_same h hprevious)) fun o o' ho => ?_
  refine (execute_coupled h.engine ho (Eq.refl Purpose.token.isOperation)).bind
    fun raw raw' hraw => ?_
  exact readToken_coupled h hraw hprevious

theorem keep_coupled (h : SameAuthenticator rt a a') {token token' : TokenState}
    (htoken : SameToken T token token') (event : EventName) (source : String) :
    Coupled T spec (SameToken T) (a.keep token event source) (a'.keep token' event source) := by
  refine .call rfl fun _ _ _ => ?_
  show Prog.Coupled _ _ (a.logger.emit a.rt _ _ _ >>= _) (a'.logger.emit a'.rt _ _ _ >>= _)
  rw [h.rt_eq.1, h.rt_eq.2, h.logger, h.service]
  exact (local_coupled (emit_always _ _ _ _ _)).bind fun _ _ _ => .ret htoken

theorem acquire_coupled (h : SameAuthenticator rt a a') :
    Coupled T a.spec (SameToken T) a.acquire a'.acquire :=
  (requestToken_coupled h .none).bind fun _ _ htoken => keep_coupled h htoken _ _

theorem refreshOrAcquire_coupled (h : SameAuthenticator rt a a')
    (hcached : Option.Rel (SameToken T) previous previous') (now : ℚ) :
    Coupled T a.spec (SameToken T) (a.refreshOrAcquire previous now)
      (a'.refreshOrAcquire previous' now) := by
  have hvalid := rel_filter hcached fun token token' (ht : SameToken T token token') =>
    ht.isRefreshValid now a.leeway
  unfold ServiceAuthenticator.refreshOrAcquire
  rw [← h.leeway_eq]
  generalize previous.filter _ = cached at hvalid ⊢
  generalize previous'.filter _ = cached' at hvalid ⊢
  cases hvalid with
  | none => exact acquire_coupled h
  | some hvalid =>
    refine (requestToken_coupled h (.some hvalid)).attempt_bind ?_ ?_
    · intro token token' htoken
      exact keep_coupled h htoken _ _
    · intro error
      show Prog.Coupled _ _ (if _ then _ else _) (if _ then _ else _)
      split
      · rw [h.rt_eq.1, h.rt_eq.2, h.logger, h.service]
        exact (local_coupled (emit_always _ _ _ _ _)).bind fun _ _ _ => acquire_coupled h
      · exact .throw _

theorem safeGet_coupled : Coupled T spec (Option.Rel (SameToken T)) a.safeGet a'.safeGet := by
  refine .call rfl fun cached cached' hcached => ?_
  cases cached with
  | ok cached => cases cached' with
    | ok cached' => exact .ret hcached
    | error error' => exact hcached.elim
  | error error => cases cached' with
    | ok cached' => exact hcached.elim
    | error error' =>
      cases hcached
      show Prog.Coupled _ _ (if _ then _ else _) (if _ then _ else _)
      split
      · exact .call rfl fun _ _ _ => .ret .none
      · exact .throw _

theorem lock_coupled {β : Type} {V : α → β → Prop} {body : Py α} {body' : Py β} (p : LockProvider)
    (key key' : String) (hbody : Coupled T spec V body body') :
    Coupled T spec V (p.lock key body) (p.lock key' body') := by
  cases p with
  | thread =>
    refine .call rfl fun _ _ _ => .call rfl fun _ _ _ => .call rfl fun _ _ _ =>
      .call rfl fun _ _ _ => ?_
    refine hbody.attempt_bind ?_ ?_
    · exact fun value value' hvalue => .call rfl fun _ _ _ => .ret hvalue
    · exact fun error => .call rfl fun _ _ _ => .throw error
  | redis keyPrefix timeout blockingTimeout =>
    refine .call rfl fun failed _ hfailed => ?_
    cases hfailed
    cases failed with
    | some error => exact .throw _
    | none =>
      refine hbody.attempt_bind ?_ ?_
      · intro value value' hvalue
        refine .call rfl fun failed _ hfailed => ?_
        cases hfailed
        cases failed with
        | some error => exact .throw _
        | none => exact .ret hvalue
      · intro error
        refine .call rfl fun failed _ hfailed => ?_
        cases hfailed
        cases failed with
        | some error => exact .throw _
        | none => exact .throw error

theorem getToken_coupled (h : SameAuthenticator rt a a') :
    Coupled T a.spec (SameToken T) a.getToken a'.getToken := by
  refine .call rfl fun now _ hnow => ?_
  cases hnow
  refine safeGet_coupled.bind fun cached cached' hcached => ?_
  rw [← h.leeway_eq, ← h.locks]
  have hvalid := rel_filter hcached fun token token' (ht : SameToken T token token') =>
    ht.isAccessValid now a.leeway
  generalize cached.filter _ = found at hvalid ⊢
  generalize cached'.filter _ = found' at hvalid ⊢
  cases hvalid with
  | some htoken => exact .ret htoken
  | none =>
    refine lock_coupled a.locks _ _ ?_
    refine .call rfl fun now _ hnow => ?_
    cases hnow
    refine safeGet_coupled.bind fun cached cached' hcached => ?_
    have hvalid := rel_filter hcached fun token token' (ht : SameToken T token token') =>
      ht.isAccessValid now a.leeway
    generalize cached.filter _ = found at hvalid ⊢
    generalize cached'.filter _ = found' at hvalid ⊢
    cases hvalid with
    | some htoken => exact .ret htoken
    | none => exact refreshOrAcquire_coupled h hcached now

/-- Both runs find the cached token to be the rejected one, or neither does. -/
theorem recoverFromUnauthorized_coupled (h : SameAuthenticator rt a a')
    {rejected rejected' : String} (hrejected : T.pairs rejected rejected') :
    Coupled T a.spec (SameToken T) (a.recoverFromUnauthorized rejected)
      (a'.recoverFromUnauthorized rejected') := by
  unfold ServiceAuthenticator.recoverFromUnauthorized
  rw [← h.leeway_eq, ← h.locks]
  refine lock_coupled a.locks _ _ ?_
  refine safeGet_coupled.bind fun cached cached' hcached => ?_
  refine .call rfl fun now _ hnow => ?_
  cases hnow
  have hvalid :=
    rel_filter (p := fun token => token.accessValue ≠ rejected && token.isAccessValid now a.leeway)
    (q := fun token => token.accessValue ≠ rejected' && token.isAccessValid now a.leeway) hcached
    fun token token' (ht : SameToken T token token') => by
      have hne : token.accessValue ≠ rejected ↔ token'.accessValue ≠ rejected' :=
        (T.eq_iff ht.access hrejected).not
      rw [ht.isAccessValid, decide_eq_decide.mpr hne]
  dsimp only [Prog.bind]
  generalize cached.filter _ = found at hvalid ⊢
  generalize cached'.filter _ = found' at hvalid ⊢
  cases hvalid with
  | some htoken => exact .ret htoken
  | none => exact refreshOrAcquire_coupled h hcached now

theorem invalidate_coupled : Coupled T spec Eq a.invalidate a'.invalidate :=
  .call rfl fun _ _ _ => .ret rfl

end Auth

/-! ## 4. The executors -/

/-- Executors that differ in secrets. -/
structure SameExecutor (rt : Runtime) (y y' : AuthenticatedRequestEngine) : Prop where
  engine : SameEngine rt y.engine y'.engine
  authenticator : SameAuthenticator rt y.authenticator y'.authenticator

/-- Raw responses as the audit sees them. -/
def SameResult (raw raw' : RawResponse) : Prop :=
  raw.statusCode = raw'.statusCode ∧ raw.correlationId = raw'.correlationId

section Executors

variable {y y' : AuthenticatedRequestEngine}

theorem canReplay_same (ho : SameOptions o o') : canReplay o = canReplay o' := by
  unfold canReplay
  rw [ho.safety, ho.idempotencyKey]

theorem sendWith_coupled (h : SameExecutor rt y y') (ho : SameOptions o o')
    (token token' : TokenState) :
    Coupled T spec SameResult (y.sendWith o token) (y'.sendWith o' token') := by
  have hauthorized : SameOptions (authorize o token.tokenType token.accessValue)
      (authorize o' token'.tokenType token'.accessValue) :=
    ⟨ho.service, ho.operation, ho.method, ho.path, ho.safety, ho.idempotencyKey, ho.correlationId⟩
  have hsend : Coupled T spec (SameRaw T spec (.operation token.accessValue)) (y.sendWith o token)
      (y'.sendWith o' token') := execute_coupled h.engine hauthorized rfl
  exact hsend.mono fun _ _ hraw => ⟨hraw.statusCode, hraw.correlationId⟩

theorem replay_coupled (h : SameExecutor rt y y') (ho : SameOptions o o')
    (token token' : TokenState) :
    Coupled T spec SameResult (y.replay o token) (y'.replay o' token') := by
  refine (sendWith_coupled h ho token token').attempt_bind
    (fun _ _ hraw => .ret hraw) fun error => ?_
  show Prog.Coupled _ _ (if _ then _ else _) (if _ then _ else _)
  split
  · exact invalidate_coupled.bind fun _ _ _ => .throw error
  · exact .throw error

theorem authenticatedExecute_coupled (h : SameExecutor rt y y') (ho : SameOptions o o') :
    Coupled T y.authenticator.spec SameResult (y.execute o) (y'.execute o') := by
  refine (getToken_coupled h.authenticator).bind fun token token' htoken => ?_
  refine (sendWith_coupled h ho token token').attempt_bind
    (fun _ _ hraw => .ret hraw) fun error => ?_
  show Prog.Coupled _ _ (if _ then _ else _) (if _ then _ else _)
  rw [← canReplay_same ho]
  split
  · split
    · refine (recoverFromUnauthorized_coupled h.authenticator htoken.access).bind
        fun replacement replacement' _ => ?_
      exact replay_coupled h ho replacement replacement'
    · exact invalidate_coupled.bind fun _ _ _ => .throw error
  · exact .throw error

theorem emitAuditEvent_coupled (logger : StructuredLogger) (event : AuditEvent) :
    Coupled T spec Eq (emitAuditEvent rt logger event) (emitAuditEvent rt logger event) := by
  refine .call rfl fun raised _ hraised => ?_
  cases hraised
  cases raised with
  | none => exact .ret rfl
  | some errorType => exact local_coupled (emit_always _ _ _ _ _)

/-- The audited execution of one service. -/
def audited (rt : Runtime) (logger : StructuredLogger) (eventName : String)
    (y : AuthenticatedRequestEngine) : AuditedRequestExecutor :=
  ⟨rt, .authenticated y, logger, eventName⟩

theorem auditedExecute_coupled (logger : StructuredLogger) (eventName : String)
    (h : SameExecutor rt y y') (ho : SameOptions o o') :
    Coupled T y.authenticator.spec SameResult ((audited rt logger eventName y).execute o)
      ((audited rt logger eventName y').execute o') := by
  refine (authenticatedExecute_coupled h ho).attempt_bind ?_ ?_
  · rintro raw raw' ⟨hstatus, hid⟩
    show Prog.Coupled _ _ (AuditedRequestExecutor.emit _ _ _ _ _ >>= _)
      (AuditedRequestExecutor.emit _ _ _ _ _ >>= _)
    unfold AuditedRequestExecutor.emit
    rw [ho.service, ho.operation, hstatus, hid]
    exact (emitAuditEvent_coupled logger _).bind fun _ _ _ => .ret ⟨hstatus, hid⟩
  · intro error
    cases error with
    | builtin error => exact .throw _
    | jibit error =>
      show Prog.Coupled _ _ (AuditedRequestExecutor.emit _ _ _ _ _ >>= _)
        (AuditedRequestExecutor.emit _ _ _ _ _ >>= _)
      unfold AuditedRequestExecutor.emit
      rw [ho.service, ho.operation]
      exact (emitAuditEvent_coupled logger _).bind fun _ _ _ => .throw _

end Executors

end Coupling

/-! ## 5. The law -/

/-- Two runs of one audited operation that differ in secrets only. -/
theorem diagnostics_without_secrets {rt : Runtime} (T : TokenPairing rt) (logger : StructuredLogger)
    (eventName : String) (y y' : AuthenticatedRequestEngine) (o o' : RequestOptions)
    (tr tr' : List (Event effects)) (r r' : Except PyError RawResponse) (h : SameExecutor rt y y')
    (ho : SameOptions o o') (hrun : ((audited rt logger eventName y).execute o).Emits tr r)
    (hrun' : ((audited rt logger eventName y').execute o').Emits tr' r')
    (hanswers : (reader T y.authenticator.spec).InStep tr tr') :
    records tr = records tr' ∧ audits tr = audits tr' ∧
      ∀ error, r = .error error ↔ r' = .error error := by
  have hcoupled := auditedExecute_coupled (T := T) logger eventName h ho
  obtain ⟨hseen, hresult⟩ := hcoupled.run hrun hrun' hanswers
  refine ⟨?_, ?_, ?_⟩
  · rw [records_seen, records_seen, hseen]
  · rw [audits_seen, audits_seen, hseen]
  · intro error
    cases r with
    | ok raw => cases r' with
      | ok raw' => exact iff_of_false nofun nofun
      | error error' => exact hresult.elim
    | error e => cases r' with
      | ok raw' => exact hresult.elim
      | error error' =>
        cases hresult
        exact Iff.rfl

/-- Two token responses and two error responses. -/
def secretDocuments : List (String × Json) :=
  [("\x7b\"accessToken\":\"T2\",\"refreshToken\":\"R2\"\x7d",
      .obj [("accessToken", .str "T2"), ("refreshToken", .str "R2")]),
    ("\x7b\"accessToken\":\"U2\",\"refreshToken\":\"S2\"\x7d",
      .obj [("accessToken", .str "U2"), ("refreshToken", .str "S2")]),
    ("\x7b\"code\":\"auth.failed\",\"message\":\"T1 is revoked\"\x7d",
      .obj [("code", .str "auth.failed"), ("message", .str "T1 is revoked")]),
    ("\x7b\"code\":\"auth.failed\",\"message\":\"who is U1\"\x7d",
      .obj [("code", .str "auth.failed"), ("message", .str "who is U1")])]

/-- The standard library on these documents. -/
def secretRuntime : Runtime :=
  { sampleRuntime with
    jsonLoads := fun content =>
      match secretDocuments.find? fun document => ascii document.1 = content with
      | some document => .ok document.2
      | none => .error .jsonDecodeError }

/-- The tokens of the two runs. -/
def secretTokens : List (String × String) :=
  [("T1", "U1"), ("R1", "S1"), ("T2", "U2"), ("R2", "S2")]

def secretPairing : TokenPairing secretRuntime where
  pairs t t' := (t, t') ∈ secretTokens
  expiry {t t'} h := by
    simp only [secretTokens, List.mem_cons, Prod.mk.injEq, List.not_mem_nil, or_false] at h
    rcases h with ⟨rfl, rfl⟩ | ⟨rfl, rfl⟩ | ⟨rfl, rfl⟩ | ⟨rfl, rfl⟩ <;> rfl
  empty_iff {t t'} h := by
    have hall : ∀ p ∈ secretTokens, p.1 = "" ↔ p.2 = "" := by decide
    exact hall (t, t') h
  eq_iff {t t' u u'} h hu := by
    have hall : ∀ p ∈ secretTokens, ∀ q ∈ secretTokens, p.1 = q.1 ↔ p.2 = q.2 := by decide
    exact hall (t, t') h (u, u') hu

def secretService (apiKey secretKey : String) : ServiceConfig where
  credentials := { apiKey := some apiKey, secretKey := some secretKey, complete := rfl }

def secretConfig (apiKey secretKey : String) : JibitConfig :=
  { sampleConfig with
    services := fun service =>
      if service = .transfers then some (secretService apiKey secretKey) else none }

def secretEngine (apiKey secretKey : String) : RequestEngine :=
  { sampleEngine with rt := secretRuntime, config := secretConfig apiKey secretKey }

/-- A deployment with these keys. -/
def secretExecutor (apiKey secretKey : String)
    (keyed : buildCacheKey secretRuntime (secretConfig apiKey secretKey) .transfers
      (secretService apiKey secretKey) = .ok sampleAuthenticator.cacheKey) :
    AuthenticatedRequestEngine where
  engine := secretEngine apiKey secretKey
  authenticator :=
    { sampleAuthenticator with
      config := secretConfig apiKey secretKey
      serviceConfig := secretService apiKey secretKey
      engine := secretEngine apiKey secretKey
      configured := ⟨rfl, rfl⟩
      keyed }

/-- A request with this JSON body. -/
def secretOptions (body : Json) : RequestOptions :=
  { sampleOptions .idempotent with json := some body }

/-- A world whose store holds `cached` and whose provider issues tokens with one body and refuses
    every operation with another. -/
def refusingWorld (cached : TokenState) (issued refused : String) : Handler Unit
  | .send purpose _, s =>
    (if purpose.isOperation then answer 401 refused else answer 200 issued, s)
  | .storeGet _, s => (.ok (some cached), s)
  | o, s => ((scripted o []).1, s)

/-- The world of the first run, and of the second. -/
def firstWorld : Handler Unit :=
  refusingWorld sampleToken "\x7b\"accessToken\":\"T2\",\"refreshToken\":\"R2\"\x7d"
    "\x7b\"code\":\"auth.failed\",\"message\":\"T1 is revoked\"\x7d"

def secondWorld : Handler Unit :=
  refusingWorld { sampleToken with accessToken := "U1", refreshToken := some "S1" }
    "\x7b\"accessToken\":\"U2\",\"refreshToken\":\"S2\"\x7d"
    "\x7b\"code\":\"auth.failed\",\"message\":\"who is U1\"\x7d"

theorem refusals_same {code message message' : String} (h : message ≠ "") (h' : message' ≠ "") :
    SameErrorBody [("code", .str code), ("message", .str message)]
      [("code", .str code), ("message", .str message')] where
  fields key _ := by
    by_cases hkey : key = "message"
    · rw [hkey, SameField, if_pos (by decide)]
      exact .inr ⟨⟨message, rfl, h⟩, ⟨message', rfl, h'⟩⟩
    · have hmessage : (key == "message") = false := beq_false_of_ne hkey
      have hget : Json.get [("code", .str code), ("message", .str message)] key =
          Json.get [("code", .str code), ("message", .str message')] key := by
        simp only [Json.get, List.lookup_cons, hmessage]
      rw [hget]
      exact .refl key _
  errors := .inl rfl

theorem issued_same {access access' refresh refresh' : String}
    (h : (access, access') ∈ secretTokens) (h' : (refresh, refresh') ∈ secretTokens) :
    SameTokenBody secretPairing ((authSpecs .transfers).get rfl)
      [("accessToken", .str access), ("refreshToken", .str refresh)]
      [("accessToken", .str access'), ("refreshToken", .str refresh')] where
  access := h
  refresh := h'
  rest key haccess hrefresh := by
    have haccess' : (key == "accessToken") = false := beq_false_of_ne haccess
    have hrefresh' : (key == "refreshToken") = false := beq_false_of_ne hrefresh
    simp only [Json.get, List.lookup_cons, haccess', hrefresh']

theorem worlds_agree (o o' : Effect) (s s' : Unit) :
    SameAnswer secretPairing ((authSpecs .transfers).get rfl) o o' (firstWorld o s).1
      (secondWorld o' s').1 := by
  cases o <;> cases o' <;> first | trivial | rfl | skip
  · rename_i purpose _ purpose' _
    intro hpurpose
    cases purpose with
    | operation token => cases purpose' with
      | operation token' =>
        refine ⟨rfl, rfl, fun h => absurd h.2 (by decide), fun _ => ⟨?_, ?_⟩⟩
        · exact iff_of_false (by decide) (by decide)
        · exact refusals_same (by decide) (by decide)
      | token => cases hpurpose
    | token => cases purpose' with
      | operation token' => cases hpurpose
      | token =>
        refine ⟨rfl, rfl, fun _ _ => ?_, fun h => absurd ⟨by decide, by decide⟩ h⟩
        exact issued_same (by decide) (by decide)
  · exact .some ⟨(by decide : ("T1", "U1") ∈ secretTokens),
      .some (by decide : ("R1", "S1") ∈ secretTokens), rfl, rfl⟩

def firstExecutor : AuthenticatedRequestEngine := secretExecutor "key" "secret" rfl

def secondExecutor : AuthenticatedRequestEngine := secretExecutor "another key" "another secret" rfl

/-- An audited operation of this deployment in this world. -/
def refusedRun (y : AuthenticatedRequestEngine) (world : Handler Unit) (body : Json) :
    List (Event effects) × Unit × Except PyError RawResponse :=
  ((audited secretRuntime {} "jibit.transfer.operation" y).execute (secretOptions body)).exec
    (S := effects) world ()

theorem refusedRun_emits (y : AuthenticatedRequestEngine) (world : Handler Unit) (body : Json) :
    ((audited secretRuntime {} "jibit.transfer.operation" y).execute (secretOptions body)).Emits
      (refusedRun y world body).1 (refusedRun y world body).2.2 := Prog.exec_emits _ _ _

theorem executors_same : SameExecutor secretRuntime firstExecutor secondExecutor :=
  ⟨⟨rfl, rfl, rfl, rfl⟩, ⟨rfl, ⟨rfl, rfl, rfl, rfl⟩, rfl, rfl, rfl, rfl, rfl⟩⟩

theorem refusedRuns_inStep (body body' : Json) :
    (reader secretPairing firstExecutor.authenticator.spec).InStep
      (refusedRun firstExecutor firstWorld body).1
      (refusedRun secondExecutor secondWorld body').1 := by
  apply Prog.inStep_exec
  exact worlds_agree

/-- One operation that is refused twice, under two sets of secrets. -/
theorem diagnostics_without_secrets_refused :
    records (refusedRun firstExecutor firstWorld (.str "one")).1 =
        records (refusedRun secondExecutor secondWorld (.str "two")).1 ∧
      audits (refusedRun firstExecutor firstWorld (.str "one")).1 =
        audits (refusedRun secondExecutor secondWorld (.str "two")).1 ∧
      ∀ error, (refusedRun firstExecutor firstWorld (.str "one")).2.2 = .error error ↔
        (refusedRun secondExecutor secondWorld (.str "two")).2.2 = .error error := by
  have hone := refusedRun_emits firstExecutor firstWorld (.str "one")
  have htwo := refusedRun_emits secondExecutor secondWorld (.str "two")
  have hanswers := refusedRuns_inStep (.str "one") (.str "two")
  have hoptions : SameOptions (secretOptions (.str "one")) (secretOptions (.str "two")) :=
    ⟨rfl, rfl, rfl, rfl, rfl, rfl, rfl⟩
  exact diagnostics_without_secrets secretPairing {} "jibit.transfer.operation" firstExecutor
    secondExecutor _ _ _ _ _ _ executors_same hoptions hone htwo hanswers

end JibitSdk.Guarantees
