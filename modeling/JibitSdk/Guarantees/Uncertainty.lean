import JibitSdk.Guarantees.Audit

/-!
# Uncertain writes and the last answer

A write is uncertain once one of its sends got no answer or a server error.  The audit outcome of a
failed call knows only the exception, and the exception is decided by the last send of the call,
whether it was made for the operation or for a token.
-/

namespace JibitSdk.Guarantees

open JibitSdk.Python JibitSdk.Reasoning JibitSdk.Sdk

/-! ## 1. Definitive refusals -/

/-- The provider may have acted on a send with this outcome. -/
def uncertain : TransportOutcome → Bool
  | .response response => 500 ≤ response.statusCode
  | .timeoutError | .networkError => true

/-- The error classes whose audit outcome is `failed`. -/
def definitive (kind : JibitErrorKind) : Bool :=
  !(kind = .timeout || kind = .network || kind = .server || kind = .response)

/-- An answer whose status is mapped to such a class: 400, 401, 402, 403, 404, 409, 422 or 429. -/
def refused : TransportOutcome → Bool
  | .response response => definitive (RequestEngine.errorKind response.statusCode)
  | .timeoutError | .networkError => false

/-- The trace ends in a refusal: the last send was refused, or, when nothing was sent, `before`. -/
def endsRefused (before : Bool) (tr : List (Event effects)) : Bool :=
  match (sends tr).getLast? with
  | some sent => refused sent.outcome
  | none => before

theorem endsRefused_append (before : Bool) (tr₁ tr₂ : List (Event effects)) :
    endsRefused before (tr₁ ++ tr₂) = endsRefused (endsRefused before tr₁) tr₂ := by
  unfold endsRefused
  rw [sends_append, List.getLast?_append]
  cases (sends tr₂).getLast? <;> rfl

theorem endsRefused_congr {before : Bool} {tr₁ tr₂ : List (Event effects)}
    (h : sends tr₁ = sends tr₂) : endsRefused before tr₁ = endsRefused before tr₂ := by
  rw [endsRefused, h, endsRefused]

theorem endsRefused_of_sends_nil {before : Bool} {tr : List (Event effects)} (h : sends tr = []) :
    endsRefused before tr = before := by
  rw [endsRefused, h]
  rfl

theorem endsRefused_of_sends_ne_nil {tr : List (Event effects)} (h : sends tr ≠ [])
    (before before' : Bool) : endsRefused before tr = endsRefused before' tr := by
  unfold endsRefused
  cases hlast : (sends tr).getLast? with
  | none => exact absurd (List.getLast?_eq_none_iff.mp hlast) h
  | some sent => rfl

theorem sends_ne_nil_of_operationSends {tr : List (Event effects)} (h : operationSends tr ≠ []) :
    sends tr ≠ [] := by
  intro hnil
  rw [operationSends, hnil] at h
  exact h rfl

/-- An SDK error tells whether the trace it ended was refused. -/
def Classified (before : Bool) (tr : List (Event effects)) {α : Type} (r : Except PyError α) :
    Prop :=
  ∀ error, r = .error (.jibit error) → definitive error.kind = endsRefused before tr

theorem auditOutcome_unknown_iff (error : JibitError) :
    auditOutcome error = .unknown ↔ definitive error.kind = false := by
  unfold auditOutcome definitive
  cases error.kind <;> decide

/-! ## 2. The engine -/

theorem outcomeResult_classified {e : RequestEngine} {x : RequestEngine.Exchange}
    {outcome : TransportOutcome} {error : JibitError}
    (h : outcomeResult e x outcome = .error (.jibit error)) :
    definitive error.kind = refused outcome := by
  -- the class of the error follows the outcome it was made of
  cases outcome with
  | timeoutError =>
    cases h
    rfl
  | networkError =>
    cases h
    rfl
  | response response =>
    rw [outcomeResult] at h
    by_cases hok : 200 ≤ response.statusCode ∧ response.statusCode < 300
    · rw [if_pos hok] at h
      cases h
    · rw [if_neg hok, RequestEngine.mapError] at h
      cases hbody : e.bodyFields response with
      | error error' =>
        rcases bodyFields_error hbody with ⟨b, rfl⟩
        rw [hbody] at h
        cases h
      | ok body =>
        rw [hbody] at h
        cases h
        rfl

theorem validatedEndpoint_error {e : RequestEngine} {path : String} {error : JibitError}
    (h : e.validatedEndpoint path = .error (.jibit error)) : error.kind = .validation := by
  unfold RequestEngine.validatedEndpoint at h
  split at h
  · cases h
  · split at h
    · cases h
      rfl
    · cases h

/-- Errors of the engine are classified by the last send; before the first one only the endpoint
    check can fail, and that counts as a refusal. -/
theorem execute_classified {e : RequestEngine} {purpose : Purpose} {options : RequestOptions}
    {tr : List (Event effects)} {r : Except PyError RawResponse}
    (h : (e.execute purpose options).Emits tr r) : Classified true tr r := by
  intro error hr
  rcases execute_emits h with ⟨error', hbad, rfl, hsends⟩ | ⟨_, _, _, outcomes, -, hrun, hsends⟩
  · cases hr
    rw [endsRefused_of_sends_nil hsends, validatedEndpoint_error hbad]
    rfl
  · rcases hrun.split with ⟨earlier, final, rfl, rfl, -⟩
    rw [endsRefused, hsends, List.map_append, List.map_singleton, List.getLast?_concat]
    exact outcomeResult_classified hr

theorem refused_of_accepted {outcome : TransportOutcome} {response : TransportResponse}
    (h : accepted outcome = some response) : refused outcome = false := by
  cases outcome with
  | timeoutError => rfl
  | networkError => rfl
  | response response' =>
    have hok : 200 ≤ response'.statusCode ∧ response'.statusCode < 300 := by
      by_contra hnot
      rw [accepted, if_neg hnot] at h
      cases h
    have hkind : RequestEngine.errorKind response'.statusCode = .response := by
      unfold RequestEngine.errorKind
      rw [if_neg (by omega), if_neg (by omega), if_neg (by omega), if_neg (by omega),
        if_neg (by omega), if_neg (by omega)]
    rw [refused, hkind]
    rfl

/-- An execution that returns ends in an accepted send. -/
theorem execute_accepted {e : RequestEngine} {purpose : Purpose} {options : RequestOptions}
    {tr : List (Event effects)} {raw : RawResponse} {before : Bool}
    (h : (e.execute purpose options).Emits tr (.ok raw)) : endsRefused before tr = false := by
  have hanswer := execute_agrees h
  unfold endsRefused
  cases hlast : (sends tr).getLast? with
  | none =>
    rw [hlast] at hanswer
    rcases hanswer with ⟨error, herror⟩
    exact nomatch herror
  | some sent =>
    rw [hlast, Option.bind_some] at hanswer
    cases haccepted : accepted sent.outcome with
    | none =>
      rw [haccepted] at hanswer
      rcases hanswer with ⟨error, herror⟩
      exact nomatch herror
    | some response => exact refused_of_accepted haccepted

/-! ## 3. Token management -/

/-- Locks send nothing, and their own errors are not the SDK's. -/
theorem lock_emits {α : Type} {locks : LockProvider} {key : String} {body : Py α}
    {tr : List (Event effects)} {r : Except PyError α} (h : (locks.lock key body).Emits tr r) :
    (∃ e, r = .error (.builtin e)) ∨ ∃ tr', body.Emits tr' r ∧ sends tr = sends tr' := by
  cases locks with
  -- the thread lock does nothing that raises
  | thread =>
    rcases h with ⟨_, _, rfl, lock, _, rfl, _, _, rfl, _, tr₁, rfl, h⟩
    rcases Prog.emits_attempt_bind.mp h with ⟨r', tr', tr₂, rfl, hbody, _, _, rfl, hend⟩
    rcases Prog.emits_ofExcept.mp hend with ⟨rfl, rfl⟩
    refine .inr ⟨tr', hbody, ?_⟩
    show sends (tr' ++ [_]) = sends tr'
    rw [sends_append]
    exact List.append_nil _
  -- the Redis lock raises on its own account, or the body decides
  | redis keyPrefix timeout blockingTimeout =>
    rcases h with ⟨failure, tr₁, rfl, h⟩
    cases failure with
    | some error => exact .inl ⟨error, h.2⟩
    | none =>
      rcases Prog.emits_attempt_bind.mp h with ⟨r', tr', tr₂, rfl, hbody, failure, tr₃, rfl, hend⟩
      cases failure with
      | some error => exact .inl ⟨error, hend.2⟩
      | none =>
        rcases Prog.emits_ofExcept.mp hend with ⟨rfl, rfl⟩
        refine .inr ⟨tr', hbody, ?_⟩
        show sends (tr' ++ [_]) = sends tr'
        rw [sends_append]
        exact List.append_nil _

section TokenManagement
variable {a : ServiceAuthenticator}

theorem generationBody_error {error : PyError} (h : a.generationBody = .error error) :
    ∃ e, error = .jibit e ∧ definitive e.kind = true := by
  unfold ServiceAuthenticator.generationBody at h
  split at h
  · dsimp only at h
    split at h <;> exact nomatch h
  · cases h
    exact ⟨_, rfl, rfl⟩

theorem tokenRequest_error {refresh : Option TokenState} {error : PyError}
    (h : a.tokenRequest refresh = .error error) :
    ∃ e, error = .jibit e ∧ definitive e.kind = true := by
  -- only credentials can be missing; a refresh token can be absent
  cases refresh with
  | none =>
    change a.generationBody.map (a.tokenOptions "generate_token" a.spec.generatePath) =
      .error error at h
    cases hbody : a.generationBody with
    | error error' =>
      rw [hbody] at h
      cases h
      exact generationBody_error hbody
    | ok body =>
      rw [hbody] at h
      cases h
  | some refresh =>
    unfold ServiceAuthenticator.tokenRequest at h
    cases hvalue : refresh.refreshValue with
    | none =>
      simp only [hvalue] at h
      cases h
      exact ⟨_, rfl, rfl⟩
    | some value =>
      simp only [hvalue] at h
      cases h

/-- What follows the 2xx answer of a token request sends nothing, and fails as uncertain. -/
theorem parseToken_emits {body : List (String × Json)} {previous : Option TokenState}
    {tr : List (Event effects)} {r : Except PyError TokenState}
    (h : (a.parseToken body previous).Emits tr r) :
    sends tr = [] ∧ ∀ error, r = .error (.jibit error) → definitive error.kind = false := by
  unfold ServiceAuthenticator.parseToken at h
  split at h
  · rcases h with ⟨rfl, rfl⟩
    refine ⟨rfl, fun error herror => ?_⟩
    cases herror
    rfl
  · rcases Prog.emits_perform_bind.mp h with ⟨now, tr', rfl, h'⟩
    cases hparse : a.parsedToken body previous _ now with
    | ok token =>
      rw [hparse] at h'
      rcases h' with ⟨rfl, rfl⟩
      exact ⟨rfl, fun error herror => nomatch herror⟩
    | error e =>
      rw [hparse] at h'
      rcases h' with ⟨rfl, rfl⟩
      exact ⟨rfl, fun error herror => nomatch herror⟩

theorem rawJson_error {rt : Runtime} {raw : RawResponse} {error : JibitError}
    (h : raw.json rt = .error (.jibit error)) : definitive error.kind = false := by
  unfold RawResponse.json at h
  split at h
  · cases h
  · split at h
    · cases h
      rfl
    · cases h

theorem requestToken_classified {refresh : Option TokenState} {tr : List (Event effects)}
    {r : Except PyError TokenState} (h : (a.requestToken refresh).Emits tr r) :
    Classified true tr r := by
  intro error hr
  unfold ServiceAuthenticator.requestToken at h
  cases hrequest : a.tokenRequest refresh with
  | error error' =>
    rw [hrequest] at h
    rcases h with ⟨rfl, rfl⟩
    rcases tokenRequest_error hrequest with ⟨e, rfl, hkind⟩
    cases hr
    exact hkind
  | ok options =>
    rw [hrequest, Prog.ofExcept_ok, Prog.ret_bind] at h
    rcases Prog.emits_bind.mp h with ⟨raw, tr₁, tr₂, rfl, hexec, h₂⟩ | ⟨error', hexec, rfl⟩
    · -- A 2xx answer was the last send: whatever is wrong with it is no refusal.
      have hrest : sends tr₂ = [] ∧ definitive error.kind = false := by
        unfold ServiceAuthenticator.readToken at h₂
        cases hjson : raw.json a.rt with
        | error error' =>
          rw [hjson] at h₂
          rcases h₂ with ⟨rfl, rfl⟩
          cases hr
          exact ⟨rfl, rawJson_error hjson⟩
        | ok value =>
          rw [hjson, Prog.ofExcept_ok, Prog.ret_bind] at h₂
          split at h₂
          · exact ⟨(parseToken_emits h₂).1, (parseToken_emits h₂).2 error hr⟩
          · rcases h₂ with ⟨rfl, rfl⟩
            cases hr
            exact ⟨rfl, rfl⟩
      rw [endsRefused_append, execute_accepted hexec, endsRefused_of_sends_nil hrest.1, hrest.2]
    · cases hr
      exact execute_classified hexec error rfl

theorem keep_emits {token : TokenState} {event : EventName} {source : String}
    {tr : List (Event effects)} {r : Except PyError TokenState}
    (h : (a.keep token event source).Emits tr r) : sends tr = [] ∧ r = .ok token := by
  rcases Prog.emits_perform_bind.mp h with ⟨_, tr', rfl, h'⟩
  have hlog := emit_always a.logger a.rt .info event
    [("service", .str a.service.value), ("source", .str source)]
  rcases Prog.emits_bind.mp h' with ⟨_, tr₁, tr₂, rfl, h₁, rfl, rfl⟩ | ⟨error, h₁, -⟩
  · refine ⟨?_, rfl⟩
    show sends (tr₁ ++ []) = []
    rw [List.append_nil, sends_eq_nil (hlog.events h₁)]
  · exact nomatch hlog.result h₁

theorem acquire_classified {tr : List (Event effects)} {r : Except PyError TokenState}
    (h : a.acquire.Emits tr r) : Classified true tr r := by
  intro error hr
  rcases Prog.emits_bind.mp h with ⟨token, tr₁, tr₂, rfl, -, h₂⟩ | ⟨error', h₁, rfl⟩
  · exact nomatch (keep_emits h₂).2.symm.trans hr
  · cases hr
    exact requestToken_classified h₁ error rfl

theorem refreshRejected_definitive {error : PyError}
    (h : ServiceAuthenticator.refreshRejected error = true) :
    ∃ e, error = .jibit e ∧ definitive e.kind = true := by
  cases error with
  | builtin e => exact nomatch h
  | jibit e =>
    refine ⟨e, rfl, ?_⟩
    unfold ServiceAuthenticator.refreshRejected PyError.isKind at h
    cases hkind : e.kind <;> simp [hkind] at h <;> rfl

theorem refreshOrAcquire_classified {cached : Option TokenState} {now : ℚ}
    {tr : List (Event effects)} {r : Except PyError TokenState}
    (h : (a.refreshOrAcquire cached now).Emits tr r) : Classified true tr r := by
  unfold ServiceAuthenticator.refreshOrAcquire at h
  split at h
  -- the filter kept a state with a valid refresh token: it is tried first
  · rcases Prog.emits_attempt_bind.mp h with ⟨r₁, tr₁, tr₂, rfl, h₁, h₂⟩
    intro error hr
    cases r₁ with
    | ok token => exact nomatch (keep_emits h₂).2.symm.trans hr
    | error error₁ =>
      change Prog.Emits (if ServiceAuthenticator.refreshRejected error₁ then do
        a.logger.emit a.rt .warning .tokenRefreshFailed
          [("service", .str a.service.value), ("reason", .str "refresh_rejected")]
        a.acquire else .throw error₁) tr₂ r at h₂
      by_cases hrejected : ServiceAuthenticator.refreshRejected error₁ = true
      · -- The refresh was refused, so the trace ends refused also when nothing more is sent.
        rw [if_pos hrejected] at h₂
        rcases refreshRejected_definitive hrejected with ⟨e₁, rfl, hdefinitive⟩
        have hfirst : endsRefused true tr₁ = true :=
          (requestToken_classified h₁ e₁ rfl).symm.trans hdefinitive
        have hlog := emit_always a.logger a.rt .warning .tokenRefreshFailed
          [("service", .str a.service.value), ("reason", .str "refresh_rejected")]
        rcases Prog.emits_bind.mp h₂ with ⟨_, tr₃, tr₄, rfl, h₃, h₄⟩ | ⟨error', h₃, -⟩
        · rw [endsRefused_append, endsRefused_append, hfirst,
            endsRefused_of_sends_nil (sends_eq_nil (hlog.events h₃))]
          exact acquire_classified h₄ error hr
        · exact nomatch hlog.result h₃
      · rw [if_neg hrejected] at h₂
        rcases h₂ with ⟨rfl, rfl⟩
        rw [List.append_nil]
        exact requestToken_classified h₁ error hr
  · exact acquire_classified h

theorem safeGet_emits {tr : List (Event effects)} {r : Except PyError (Option TokenState)}
    (h : a.safeGet.Emits tr r) : sends tr = [] ∧ ∀ error, r ≠ .error (.jibit error) := by
  rcases Prog.emits_perform_bind.mp h with ⟨found, tr', rfl, h'⟩
  clear h
  cases found with
  | ok cached =>
    rcases h' with ⟨rfl, rfl⟩
    exact ⟨rfl, fun error => nofun⟩
  | error e =>
    change Prog.Emits (if e.isValueError || e = .typeError then do
      Py.storeDelete a.cacheKey
      pure none else .throw (.builtin e)) tr' r at h'
    split at h'
    · rcases h' with ⟨_, _, rfl, rfl, rfl⟩
      exact ⟨rfl, fun error => nofun⟩
    · rcases h' with ⟨rfl, rfl⟩
      exact ⟨rfl, fun error => nofun⟩

/-- A recovery that fails is classified like the rest; before its first send the 401 that caused it
    stands. -/
theorem recover_classified {rejected : String} {tr : List (Event effects)}
    {r : Except PyError TokenState} (h : (a.recoverFromUnauthorized rejected).Emits tr r) :
    Classified true tr r := by
  intro error hr
  rcases lock_emits h with ⟨e, rfl⟩ | ⟨tr', hbody, hsends⟩
  · exact nomatch hr
  · have hsame : endsRefused true tr = endsRefused true tr' := by
      rw [endsRefused, hsends]
      rfl
    rw [hsame]
    rcases Prog.emits_bind.mp hbody with ⟨cached, tr₁, tr₂, rfl, h₁, h₂⟩ | ⟨error', h₁, rfl⟩
    · rcases Prog.emits_perform_bind.mp h₂ with ⟨now, tr₃, rfl, h₃⟩
      rw [endsRefused_append, endsRefused_of_sends_nil (safeGet_emits h₁).1]
      split at h₃
      · rcases h₃ with ⟨rfl, rfl⟩
        exact nomatch hr
      · exact refreshOrAcquire_classified h₃ error hr
    · cases hr
      exact absurd rfl ((safeGet_emits h₁).2 error)

end TokenManagement

/-! ## 4. Executors -/

theorem authenticated_classified {x : AuthenticatedRequestEngine} {options : RequestOptions}
    {tr : List (Event effects)} {r : Except PyError RawResponse}
    (hrun : (x.execute options).Emits tr r) (hsent : operationSends tr ≠ []) :
    Classified true tr r := by
  have hget := getToken_only x.authenticator
  have hrecover := recoverFromUnauthorized_only x.authenticator
  cases authenticated_emits hrun with
  | noToken htoken => exact absurd (operationSends_eq_nil (hget.events htoken)) hsent
  | once htoken hsend hr hrest =>
    rename_i tr₀ tr₁ tr₂ token
    rw [operationSends_append, operationSends_append, operationSends_eq_nil (hget.events htoken),
      operationSends_execute hsend, operationSends_of_deletes hrest, List.append_nil] at hsent
    intro error herror
    rw [endsRefused_append, endsRefused_append, endsRefused_of_sends_nil (sends_of_deletes hrest),
      endsRefused_of_sends_ne_nil hsent _ true]
    exact execute_classified hsend error herror
  | unrecovered htoken hsend hr h' =>
    rename_i tr₀ tr₁ tr₂ token r₁ error'
    rw [operationSends_append, operationSends_append, operationSends_eq_nil (hget.events htoken),
      operationSends_execute hsend, operationSends_eq_nil ((hrecover _).events h'),
      List.append_nil] at hsent
    -- The first request was refused with a 401, and the recovery goes on from there.
    have hfirst : endsRefused true tr₁ = true := by
      cases r₁ with
      | ok response => exact nomatch hr
      | error error₁ =>
        cases error₁ with
        | builtin e => exact nomatch hr
        | jibit error₁ =>
          rw [← execute_classified hsend error₁ rfl]
          rw [replays, Bool.and_eq_true] at hr
          have hkind : error₁.kind = .authentication := of_decide_eq_true hr.1
          rw [hkind]
          rfl
    intro error herror
    cases herror
    rw [endsRefused_append, endsRefused_append, endsRefused_of_sends_ne_nil hsent _ true, hfirst]
    exact recover_classified h' error rfl
  | replayed htoken hsend hr h' hreplay =>
    rcases replay_emits hreplay with ⟨tr', hsend', hsends⟩
    have hne := replayed_sends_ne_nil hsend hr hsend'
    intro error herror
    rw [← hsends] at hne
    rw [endsRefused_append, endsRefused_of_sends_ne_nil hne _ true,
      execute_classified hsend' error herror, endsRefused_congr hsends]

/-- The error of a call that sent its operation is definitive exactly when its last send was
    refused. -/
theorem executor_classified {x : RequestExecutor} {options : RequestOptions}
    {tr : List (Event effects)} {r : Except PyError RawResponse}
    (h : (x.execute options).Emits tr r) (hsent : operationSends tr ≠ []) :
    Classified true tr r := by
  cases x with
  | authenticated x => exact authenticated_classified h hsent
  | staticBearer x => exact execute_classified h

/-- A call whose executor returns has an accepted send as its last one. -/
theorem executor_accepted {x : RequestExecutor} {options : RequestOptions}
    {tr : List (Event effects)} {raw : RawResponse} {before : Bool}
    (h : (x.execute options).Emits tr (.ok raw)) : endsRefused before tr = false := by
  cases x with
  | staticBearer x => exact execute_accepted h
  | authenticated x =>
    cases authenticated_emits h with
    | once htoken hsend hr hrest =>
      rw [endsRefused_append, endsRefused_append, execute_accepted hsend,
        endsRefused_of_sends_nil (sends_of_deletes hrest)]
    | replayed htoken hsend hr h' hreplay =>
      rcases replay_emits hreplay with ⟨tr', hsend', hsends⟩
      rw [endsRefused_append, endsRefused_congr hsends, execute_accepted hsend']

/-! ## 5. When an uncertain write is audited as unknown -/

section Calls
variable {M : Type}

/-- If some send of the operation was uncertain and the call raises, the one audit event says
    `unknown`. -/
def UnknownWhenUncertain (tr : List (Event effects)) (r : Except PyError (APIResponse M)) : Prop :=
  (∃ sent ∈ operationSends tr, uncertain sent.outcome = true) → (∃ error, r = .error error) →
    ∃ event, audits tr = [event] ∧ event.outcome = .unknown

theorem unknownWhenUncertain_iff {tr : List (Event effects)} {error : PyError}
    {outcome : AuditOutcome}
    (huncertain : ∃ sent ∈ operationSends tr, uncertain sent.outcome = true)
    (houtcome : auditOutcomes tr = [outcome]) :
    UnknownWhenUncertain tr (.error error : Except PyError (APIResponse M)) ↔
    outcome = .unknown := by
  rcases audits_of_outcomes houtcome with ⟨event, hevent, rfl⟩
  constructor
  · intro h
    rcases h huncertain ⟨error, rfl⟩ with ⟨event', hevent', hunknown⟩
    rw [hevent, List.singleton_inj] at hevent'
    rw [hevent', hunknown]
  · intro hunknown _ _
    exact ⟨event, hevent, hunknown⟩

/-- An uncertain write is audited as unknown, unless the last send of the call, a later retry, the
    replay or a token request, was refused; or, for a wrapped call, was accepted with a body that
    does not fit. -/
theorem uncertain_audited_unknown_iff {σ : Type} (call : AuditedCall M) (handler : Handler σ)
    (s : σ) (hend : endsInSdk (call.run.exec (S := effects) handler s).2.2 = true) :
    UnknownWhenUncertain (call.run.exec (S := effects) handler s).1
        (call.run.exec (S := effects) handler s).2.2 ↔
      ¬ ((∃ sent ∈ operationSends (call.run.exec (S := effects) handler s).1,
          uncertain sent.outcome = true) ∧
        (endsRefused false (call.run.exec (S := effects) handler s).1 = true ∨
          call.isWrapped = true ∧ ∃ response,
            acceptedAnswer (call.run.exec (S := effects) handler s).1 = some response ∧
              Rejects call response)) := by
  have hrun := Prog.exec_emits (S := effects) handler call.run s
  generalize (call.run.exec (S := effects) handler s).1 = tr at *
  generalize (call.run.exec (S := effects) handler s).2.2 = r at *
  rcases call_emits hrun with ⟨tr', r', hinner, hsends, hr, haudit⟩
  have hanswer : acceptedAnswer tr = acceptedAnswer tr' := by
    rw [acceptedAnswer, operationSends_congr hsends]
    rfl
  have hagrees := executor_agrees hinner
  rw [hanswer]
  by_cases huncertain : ∃ sent ∈ operationSends tr, uncertain sent.outcome = true
  swap
  · simp [UnknownWhenUncertain, huncertain]
  have hsent : operationSends tr' ≠ [] := by
    rcases huncertain with ⟨sent, hmem, -⟩
    rw [← operationSends_congr hsends]
    exact List.ne_nil_of_mem hmem
  have hrefused : endsRefused false tr = endsRefused true tr' := by
    rw [endsRefused_congr hsends]
    exact endsRefused_of_sends_ne_nil (sends_ne_nil_of_operationSends hsent) false true
  simp only [huncertain, true_and]
  cases hlast : acceptedAnswer tr' with
  | none =>
    -- The call raises the error of its execution, which the last send classifies.
    rw [hlast] at hagrees
    rcases hagrees with ⟨error, rfl⟩
    change r = .error error at hr
    subst hr
    cases error with
    | builtin e => cases hend
    | jibit error =>
      have houtcomes : auditOutcomes tr = [auditOutcome error] := by
        rw [haudit]
        cases call.isWrapped <;> rfl
      have hclass := executor_classified hinner hsent error rfl
      rw [hrefused, ← hclass, unknownWhenUncertain_iff huncertain houtcomes,
        auditOutcome_unknown_iff]
      simp
  | some response =>
    rw [hlast] at hagrees
    rcases hagrees with ⟨id, rfl⟩
    rw [hrefused, executor_accepted hinner]
    cases hfinish : call.finish (rawResponse response id) with
    | ok value =>
      have hr : r = .ok value := hr.trans hfinish
      have hnot := rejects_ok hfinish
      subst hr
      simp [UnknownWhenUncertain, hnot]
    | error error =>
      have hr : r = .error error := hr.trans hfinish
      subst hr
      cases error with
      | builtin e => cases hend
      | jibit error =>
        have hrejects : Rejects call response := ⟨id, error, hfinish⟩
        cases hwrapped : call.isWrapped with
        | true =>
          rw [hwrapped] at haudit
          rw [unknownWhenUncertain_iff huncertain haudit]
          simp [hrejects]
        | false =>
          rw [hwrapped] at haudit
          rw [unknownWhenUncertain_iff huncertain haudit, auditOutcome_unknown_iff,
            finish_error_kind hfinish]
          simp [definitive]

end Calls

/-- The deployment generates a batch, an idempotent operation that is retried, over these
    outcomes. -/
def generateBatchRun (outcomes : List TransportOutcome) :
    List (Event effects) × (Store × List TransportOutcome) × Except PyError (APIResponse Unit) :=
  (sampleCall .generateBatch).run.exec (S := effects) (inWorld scripted)
    (fun _ => none, issueT1 :: outcomes)

theorem uncertain_audited_unknown_iff_generateBatch :
    UnknownWhenUncertain (generateBatchRun [.timeoutError, answer 500 "\x7b\x7d", .timeoutError]).1
        (generateBatchRun [.timeoutError, answer 500 "\x7b\x7d", .timeoutError]).2.2 ↔
      ¬ ((∃ sent ∈ operationSends
            (generateBatchRun [.timeoutError, answer 500 "\x7b\x7d", .timeoutError]).1,
          uncertain sent.outcome = true) ∧
        (endsRefused false
            (generateBatchRun [.timeoutError, answer 500 "\x7b\x7d", .timeoutError]).1 = true ∨
          (sampleCall .generateBatch).isWrapped = true ∧ ∃ response,
            acceptedAnswer
                (generateBatchRun [.timeoutError, answer 500 "\x7b\x7d", .timeoutError]).1 =
              some response ∧
              Rejects (sampleCall .generateBatch) response)) :=
  uncertain_audited_unknown_iff (sampleCall .generateBatch) (inWorld scripted) _ (by decide +kernel)

/-- A first attempt that times out is forgotten once the retry is answered with a 400. -/
theorem generateBatch_timeout_then_refused :
    endsInSdk (generateBatchRun [.timeoutError, answer 400 "\x7b\x7d"]).2.2 = true ∧
      ¬ UnknownWhenUncertain (generateBatchRun [.timeoutError, answer 400 "\x7b\x7d"]).1
        (generateBatchRun [.timeoutError, answer 400 "\x7b\x7d"]).2.2 := by
  have houtcomes : auditOutcomes (generateBatchRun [.timeoutError, answer 400 "\x7b\x7d"]).1 =
      [.failed] := by decide +kernel
  have hraised : (generateBatchRun [.timeoutError, answer 400 "\x7b\x7d"]).2.2.toBool = false := by
    decide +kernel
  have huncertain :
    ((operationSends (generateBatchRun [.timeoutError, answer 400 "\x7b\x7d"]).1).any
      fun sent => uncertain sent.outcome) = true := by decide +kernel
  refine ⟨by decide +kernel, fun h => ?_⟩
  cases hresult : (generateBatchRun [.timeoutError, answer 400 "\x7b\x7d"]).2.2 with
  | ok value =>
    rw [hresult] at hraised
    cases hraised
  | error error =>
    rcases h (List.any_eq_true.mp huncertain) ⟨error, hresult⟩ with ⟨event, hevent, hunknown⟩
    rw [auditOutcomes, hevent, List.map_singleton, hunknown] at houtcomes
    cases houtcomes

end JibitSdk.Guarantees
