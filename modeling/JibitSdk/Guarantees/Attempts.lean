import JibitSdk.Guarantees.RetryLoop

/-!
# Attempt by attempt

The events of one execution, exactly.  A retried attempt is a send, a draw of the random source, a
log record and a pause; the last attempt is a send and the record of how the execution ended.
-/

namespace JibitSdk.Guarantees

open JibitSdk.Python JibitSdk.Reasoning JibitSdk.Sdk

/-! ## 1. The decision -/

/-- The pause after this attempt, for one draw of the random source. -/
def backoff (c : RetryConfig) (attempt : ℕ) (draw : ℚ) : ℚ :=
  let base := min c.maxDelay (c.baseDelay * 2 ^ (attempt - 1))
  min c.maxDelay (base + base * c.jitterRatio * draw)

/-- The reason of a retry. -/
def retryReason (status : Option ℤ) (transportError : Bool) : String :=
  if transportError then "transport_error"
  else match status with
    | some status => s!"http_{status}"
    | none => "http_None"

section Decide
variable {p : RetryPolicy} {attempt : ℕ} {options : RequestOptions} {status : Option ℤ}
  {transportError : Bool}

theorem not_missing_key_of_replay (h : canReplay options = true) :
    ¬ (options.safety = .idempotencyProtected ∧ ¬ options.idempotencyKey.isSome) := by
  intro hmissing
  have hkey : options.idempotencyKey.isSome = false := Bool.eq_false_iff.mpr hmissing.2
  simp [canReplay, hmissing.1, hkey] at h

theorem not_unsafe_of_replay (h : canReplay options = true) : options.safety ≠ .unsafeOp := by
  intro hsafety
  simp [canReplay, hsafety] at h

theorem replay_of_safety (hsafety : options.safety ≠ .unsafeOp)
    (hkey : ¬ (options.safety = .idempotencyProtected ∧ ¬ options.idempotencyKey.isSome)) :
    canReplay options = true := by
  unfold canReplay
  cases h : options.safety with
  | readOnly => rfl
  | idempotent => rfl
  | idempotencyProtected => simpa [h, Option.isSome_iff_ne_none] using hkey
  | unsafeOp => exact absurd h hsafety

/-- A retry draws once, and the draw decides nothing but the pause. -/
theorem decide_again (hleft : attempt < p.config.maxAttempts) (hreplay : canReplay options = true)
    (hfailure : (transportError || status.any transientStatusCodes.contains) = true) :
    p.decide attempt options.safety status transportError options.idempotencyKey.isSome =
      (do
        let draw ← Py.random
        pure { shouldRetry := true, delay := backoff p.config attempt draw,
               reason := retryReason status transportError }) := by
  unfold RetryPolicy.decide
  have hstatus : ¬ (¬ transportError ∧ ¬ status.any transientStatusCodes.contains) := by
    intro h
    rw [Bool.not_eq_true, Bool.not_eq_true] at h
    rw [h.1, h.2] at hfailure
    cases hfailure
  rw [if_neg (Nat.not_le.mpr hleft), if_neg (not_unsafe_of_replay hreplay),
    if_neg (not_missing_key_of_replay hreplay), if_neg hstatus]
  rfl

/-- Anything else ends the loop at once. -/
theorem decide_stop
    (h : (decide (attempt < p.config.maxAttempts) && (canReplay options &&
      (transportError || status.any transientStatusCodes.contains))) = false) :
    ∃ reason, p.decide attempt options.safety status transportError
      options.idempotencyKey.isSome = pure { shouldRetry := false, reason } := by
  unfold RetryPolicy.decide
  by_cases hlimit : attempt ≥ p.config.maxAttempts
  · rw [if_pos hlimit]
    exact ⟨_, rfl⟩
  rw [if_neg hlimit]
  by_cases hsafety : options.safety = .unsafeOp
  · rw [if_pos hsafety]
    exact ⟨_, rfl⟩
  rw [if_neg hsafety]
  by_cases hkey : options.safety = .idempotencyProtected ∧ ¬ options.idempotencyKey.isSome
  · rw [if_pos hkey]
    exact ⟨_, rfl⟩
  rw [if_neg hkey]
  by_cases hstatus : ¬ transportError ∧ ¬ status.any transientStatusCodes.contains
  · rw [if_pos hstatus]
    exact ⟨_, rfl⟩
  -- Attempts are left and nothing speaks against a retry, so the premise is false.
  exfalso
  have hreplay := replay_of_safety hsafety hkey
  have hleft : decide (attempt < p.config.maxAttempts) = true := decide_eq_true (by omega)
  rw [hleft, hreplay, Bool.true_and, Bool.true_and, Bool.or_eq_false_iff] at h
  exact hstatus ⟨by rw [h.1]; decide, by rw [h.2]; decide⟩

end Decide

/-! ## 2. Log records -/

/-- What the logger does with one record. -/
def logged (l : StructuredLogger) (rt : Runtime) (level : LogLevel) (event : EventName)
    (fields : List (String × PyVal)) : List (Event effects) :=
  if l.enabled then [⟨.log ⟨level, event.value, redact rt (.kwargs fields)⟩, ()⟩] else []

theorem emit_emits {l : StructuredLogger} {rt : Runtime} {level : LogLevel} {event : EventName}
    {fields : List (String × PyVal)} {tr : List (Event effects)} {r : Except PyError Unit}
    (h : (l.emit rt level event fields).Emits tr r) :
    tr = logged l rt level event fields ∧ r = .ok () := by
  unfold StructuredLogger.emit at h
  unfold logged
  by_cases henabled : l.enabled = true
  · rw [if_pos henabled] at h ⊢
    obtain ⟨a, tr', rfl, rfl, rfl⟩ := h
    exact ⟨rfl, rfl⟩
  · rw [if_neg henabled] at h ⊢
    exact h

/-- The record comes first, then what follows it. -/
theorem emit_bind_emits {α : Type} {l : StructuredLogger} {rt : Runtime} {level : LogLevel}
    {event : EventName} {fields : List (String × PyVal)} {f : Unit → Py α}
    {tr : List (Event effects)} {r : Except PyError α}
    (h : (l.emit rt level event fields >>= f).Emits tr r) :
    ∃ rest, tr = logged l rt level event fields ++ rest ∧ (f ()).Emits rest r := by
  rcases Prog.emits_bind.mp h with ⟨u, tr₁, tr₂, rfl, h₁, h₂⟩ | ⟨error, h₁, -⟩
  · exact ⟨tr₂, by rw [(emit_emits h₁).1], h₂⟩
  · cases (emit_emits h₁).2

/-! ## 3. One attempt -/

/-- A 2xx answer. -/
def succeeded : TransportOutcome → Bool
  | .response response => 200 ≤ response.statusCode && response.statusCode < 300
  | .timeoutError | .networkError => false

/-- The record an execution ends with. -/
def terminalEvent (outcome : TransportOutcome) : EventName :=
  if succeeded outcome then .requestCompleted else .requestFailed

/-- The `status_code` and `transport_error` that `decide` is asked about. -/
def failureStatus : TransportOutcome → Option ℤ
  | .response response => some response.statusCode
  | .timeoutError | .networkError => none

def transportFailed : TransportOutcome → Bool
  | .response _ => false
  | .timeoutError | .networkError => true

theorem transientOutcome_eq (outcome : TransportOutcome) : transientOutcome outcome =
    (transportFailed outcome || (failureStatus outcome).any transientStatusCodes.contains) := by
  cases outcome with
  | timeoutError => rfl
  | networkError => rfl
  | response response => rw [transportFailed, failureStatus, Bool.false_or]; rfl

/-- If this is an error answer, reading its body raises nothing. -/
def errorReadable (e : RequestEngine) : TransportOutcome → Prop
  | .response response =>
    succeeded (.response response) = true ∨ ∃ body, e.bodyFields response = .ok body
  | .timeoutError | .networkError => True

section Attempt
variable (e : RequestEngine) (x : RequestEngine.Exchange)

/-- What follows the last send: a look at the clock and one record.  Only an error body that cannot
    even be read goes unrecorded. -/
def Ending (outcome : TransportOutcome) (tr : List (Event effects)) : Prop :=
  (∃ now level fields, tr = ⟨.monotonic, (now : ℚ)⟩ ::
    logged e.logger e.rt level (terminalEvent outcome) fields) ∨
    (tr = [] ∧ ¬ errorReadable e outcome)

/-- The record of a retry. -/
def retryRecord (attempt : ℕ) (outcome : TransportOutcome) (draw : ℚ) : List (Event effects) :=
  logged e.logger e.rt .warning .retryScheduled
    [("service", .str x.options.service.value), ("operation", .str x.options.operation),
      ("correlation_id", .str x.correlationId), ("attempt", .int attempt),
      ("reason", .str (retryReason (failureStatus outcome) (transportFailed outcome))),
      ("delay_seconds", .float (.finite (backoff e.retryPolicy.config attempt draw)))]

/-- What follows a send that is retried, up to the next attempt. -/
def pauseEvents (attempt : ℕ) (outcome : TransportOutcome) (draw : ℚ) : List (Event effects) :=
  ⟨.random, draw⟩ :: (retryRecord e x attempt outcome draw ++
    [⟨.sleep (backoff e.retryPolicy.config attempt draw), ()⟩])

variable {e x}

theorem fail_trace {error : JibitError} {outcome : TransportOutcome} (h : succeeded outcome = false)
    {tr : List (Event effects)} {r : Except PyError RawResponse}
    (hfail : (e.fail x error).Emits tr r) : Ending e outcome tr := by
  unfold RequestEngine.fail RequestEngine.logFailure at hfail
  obtain ⟨now, tr', rfl, hlog⟩ := hfail
  obtain ⟨rest, rfl, rfl, -⟩ := emit_bind_emits hlog
  have hevent : terminalEvent outcome = .requestFailed := by rw [terminalEvent, h]; rfl
  unfold Ending
  rw [hevent, List.append_nil]
  exact .inl ⟨now, .error, _, rfl⟩

theorem complete_trace {attempt : ℕ} {response : TransportResponse}
    (h : succeeded (.response response) = true) {tr : List (Event effects)}
    {r : Except PyError RawResponse} (hdone : (e.complete x attempt response).Emits tr r) :
    Ending e (.response response) tr := by
  unfold RequestEngine.complete at hdone
  obtain ⟨now, tr', rfl, hlog⟩ := hdone
  obtain ⟨rest, rfl, rfl, -⟩ := emit_bind_emits hlog
  have hevent : terminalEvent (.response response) = .requestCompleted := by
    rw [terminalEvent, h]
    rfl
  unfold Ending
  rw [hevent, List.append_nil]
  exact .inl ⟨now, .info, _, rfl⟩

/-- The retry step after an outcome: the pause and another iteration, or the failure. -/
theorem retryOr_trace {attempt : ℕ} {status : Option ℤ} {transportError : Bool}
    {again failure : Py RawResponse} {tr : List (Event effects)} {r : Except PyError RawResponse}
    (h : Prog.Emits (do
      let decision ← e.retryPolicy.decide attempt x.options.safety status transportError
        x.options.idempotencyKey.isSome
      e.retryOr x attempt decision again failure) tr r) :
    if decide (attempt < e.retryPolicy.config.maxAttempts) &&
        (canReplay x.options && (transportError || status.any transientStatusCodes.contains))
    then ∃ (draw : ℚ) (rest : List (Event effects)), tr = ⟨.random, draw⟩ ::
      (logged e.logger e.rt .warning .retryScheduled
        [("service", .str x.options.service.value), ("operation", .str x.options.operation),
          ("correlation_id", .str x.correlationId), ("attempt", .int attempt),
          ("reason", .str (retryReason status transportError)),
          ("delay_seconds", .float (.finite (backoff e.retryPolicy.config attempt draw)))] ++
        ⟨.sleep (backoff e.retryPolicy.config attempt draw), ()⟩ :: rest) ∧ again.Emits rest r
    else failure.Emits tr r := by
  by_cases hcond : (decide (attempt < e.retryPolicy.config.maxAttempts) &&
      (canReplay x.options && (transportError || status.any transientStatusCodes.contains))) = true
  · rw [if_pos hcond]
    rw [Bool.and_eq_true, Bool.and_eq_true, decide_eq_true_eq] at hcond
    rw [decide_again hcond.1 hcond.2.1 hcond.2.2] at h
    obtain ⟨draw, tr', rfl, h⟩ := h
    obtain ⟨rest, rfl, a, rest', rfl, hagain⟩ := emit_bind_emits h
    exact ⟨draw, rest', rfl, hagain⟩
  · rw [if_neg hcond]
    obtain ⟨reason, hstop⟩ := decide_stop (Bool.eq_false_iff.mpr hcond)
    rw [hstop] at h
    exact h

variable (e x) in
/-- What follows the send of this attempt: the pause and the next iteration, or the end. -/
def Follows (again : Py RawResponse) (attempt : ℕ) (outcome : TransportOutcome)
    (tr : List (Event effects)) (r : Except PyError RawResponse) : Prop :=
  if retried e x.options attempt outcome
  then ∃ draw rest, tr = pauseEvents e x attempt outcome draw ++ rest ∧ again.Emits rest r
  else Ending e outcome tr ∧ r = outcomeResult e x outcome

/-- Every branch below the send is a retry step with its own failure. -/
theorem follows_of_retry {attempt : ℕ} {outcome : TransportOutcome} {again failure : Py RawResponse}
    (hfailure : ∀ tr r, failure.Emits tr r → Ending e outcome tr ∧ r = outcomeResult e x outcome)
    {tr : List (Event effects)} {r : Except PyError RawResponse}
    (h : Prog.Emits (do
      let decision ← e.retryPolicy.decide attempt x.options.safety (failureStatus outcome)
        (transportFailed outcome) x.options.idempotencyKey.isSome
      e.retryOr x attempt decision again failure) tr r) :
    Follows e x again attempt outcome tr r := by
  have hstep := retryOr_trace h
  rw [← transientOutcome_eq] at hstep
  unfold Follows retried
  by_cases hcond : (decide (attempt < e.retryPolicy.config.maxAttempts) &&
      (canReplay x.options && transientOutcome outcome)) = true
  · rw [if_pos hcond] at hstep ⊢
    obtain ⟨draw, rest, htr, hagain⟩ := hstep
    refine ⟨draw, rest, ?_, hagain⟩
    rw [htr, pauseEvents, retryRecord, List.cons_append, List.append_assoc]
    rfl
  · rw [if_neg hcond] at hstep ⊢
    exact hfailure tr r hstep

theorem ending_of_fail {error : JibitError} {outcome : TransportOutcome}
    (h : succeeded outcome = false) (hresult : outcomeResult e x outcome = .error (.jibit error))
    {tr : List (Event effects)} {r : Except PyError RawResponse}
    (hfail : (e.fail x error).Emits tr r) :
    Ending e outcome tr ∧ r = outcomeResult e x outcome := by
  have hr : r = .error (.jibit error) := (fail_always e x error).result hfail
  exact ⟨fail_trace h hfail, hr.trans hresult.symm⟩

/-- One iteration: the send, and what follows it. -/
theorem loopBody_trace {attempt : ℕ} {again : Py RawResponse} {tr : List (Event effects)}
    {r : Except PyError RawResponse} (h : (e.loopBody x attempt again).Emits tr r) :
    ∃ outcome rest, tr = ⟨.send x.purpose x.request, outcome⟩ :: rest ∧
      Follows e x again attempt outcome rest r := by
  obtain ⟨outcome, tr', rfl, h⟩ := h
  refine ⟨outcome, tr', rfl, ?_⟩
  cases outcome with
  | timeoutError => exact follows_of_retry (fun tr r => ending_of_fail rfl rfl) h
  | networkError => exact follows_of_retry (fun tr r => ending_of_fail rfl rfl) h
  | response response =>
    change Prog.Emits (if 200 ≤ response.statusCode ∧ response.statusCode < 300 then
        e.complete x attempt response
      else do
        let decision ← e.retryPolicy.decide attempt x.options.safety (some response.statusCode)
          false x.options.idempotencyKey.isSome
        e.retryOr x attempt decision again do
          let error ← Prog.ofExcept (e.mapError x.options x.correlationId x.endpoint response)
          e.fail x error) tr' r at h
    by_cases hok : 200 ≤ response.statusCode ∧ response.statusCode < 300
    · rw [if_pos hok] at h
      have hsucceeded : succeeded (.response response) = true := by simp [succeeded, hok]
      have hr := (complete_always e x attempt response).result h
      unfold Follows
      rw [retried_success hok, if_neg Bool.false_ne_true, outcomeResult, if_pos hok]
      exact ⟨complete_trace hsucceeded h, hr⟩
    · rw [if_neg hok] at h
      have hfailed : succeeded (.response response) = false := by
        simp only [succeeded, Bool.and_eq_false_iff, decide_eq_false_iff_not]
        omega
      refine follows_of_retry (fun tr r hfail => ?_) h
      cases hmap : e.mapError x.options x.correlationId x.endpoint response with
      | ok error =>
        rw [hmap] at hfail
        refine ending_of_fail hfailed ?_ hfail
        rw [outcomeResult, if_neg hok, hmap]
      | error error =>
        -- The body cannot be read: the exception leaves the loop before anything is logged.
        rw [hmap] at hfail
        obtain ⟨rfl, rfl⟩ := hfail
        refine ⟨.inr ⟨rfl, ?_⟩, ?_⟩
        · rintro (hsucceeded | ⟨body, hbody⟩)
          · rw [hfailed] at hsucceeded
            cases hsucceeded
          · rw [RequestEngine.mapError, hbody] at hmap
            cases hmap
        · rw [outcomeResult, if_neg hok, hmap]

/-! ## 4. The whole loop -/

variable (e x) in
/-- The loop, entered with this attempt counter, meets these outcomes, draws these numbers, does
    exactly this and ends in `r`. -/
inductive LoopTrace : ℕ → List TransportOutcome → List ℚ → List (Event effects) →
    Except PyError RawResponse → Prop where
  | last {attempt : ℕ} {outcome : TransportOutcome} {tr : List (Event effects)}
      (h : retried e x.options attempt outcome = false) (hend : Ending e outcome tr) :
      LoopTrace attempt [outcome] [] (⟨.send x.purpose x.request, outcome⟩ :: tr)
        (outcomeResult e x outcome)
  | again {attempt : ℕ} {outcome : TransportOutcome} {outcomes : List TransportOutcome} {draw : ℚ}
      {draws : List ℚ} {tr : List (Event effects)} {r : Except PyError RawResponse}
      (h : retried e x.options attempt outcome = true)
      (rest : LoopTrace (attempt + 1) outcomes draws tr r) :
      LoopTrace attempt (outcome :: outcomes) (draw :: draws)
        (⟨.send x.purpose x.request, outcome⟩ ::
          (pauseEvents e x attempt outcome draw ++ tr)) r

theorem sendLoop_trace {attempt : ℕ} {tr : List (Event effects)} {r : Except PyError RawResponse}
    (h : (e.sendLoop x attempt).Emits tr r) :
    ∃ outcomes draws, LoopTrace e x attempt outcomes draws tr r := by
  -- Induction on the attempts left, as for the outcomes alone.
  obtain ⟨left, hleft⟩ : ∃ left, e.retryPolicy.config.maxAttempts - attempt = left := ⟨_, rfl⟩
  induction left generalizing attempt tr with
  | zero =>
    rw [sendLoop_eq] at h
    obtain ⟨outcome, rest, rfl, hbody⟩ := loopBody_trace h
    have hlast : retried e x.options attempt outcome = false := by
      have : ¬ attempt < e.retryPolicy.config.maxAttempts := by omega
      simp [retried, this]
    rw [Follows, hlast, if_neg Bool.false_ne_true] at hbody
    obtain ⟨hend, rfl⟩ := hbody
    exact ⟨[outcome], [], .last hlast hend⟩
  | succ left ih =>
    rw [sendLoop_eq] at h
    obtain ⟨outcome, rest, rfl, hbody⟩ := loopBody_trace h
    unfold Follows at hbody
    by_cases hagain : retried e x.options attempt outcome = true
    · rw [if_pos hagain] at hbody
      obtain ⟨draw, rest', rfl, hnext⟩ := hbody
      obtain ⟨outcomes, draws, hrun⟩ := ih hnext (by omega)
      exact ⟨outcome :: outcomes, draw :: draws, .again hagain hrun⟩
    · rw [if_neg hagain] at hbody
      obtain ⟨hend, rfl⟩ := hbody
      exact ⟨[outcome], [], .last (Bool.eq_false_iff.mpr hagain) hend⟩

theorem LoopTrace.sends {attempt : ℕ} {outcomes : List TransportOutcome} {draws : List ℚ}
    {tr : List (Event effects)} {r : Except PyError RawResponse}
    (h : LoopTrace e x attempt outcomes draws tr r) :
    sends tr = outcomes.map (⟨x.purpose, x.request, ·⟩) := by
  have hlogged : ∀ level event fields,
      Guarantees.sends (logged e.logger e.rt level event fields) = [] := by
    intro level event fields
    unfold logged
    split <;> rfl
  induction h with
  | last h hend =>
    rw [sends_send]
    rcases hend with ⟨now, level, fields, rfl⟩ | ⟨rfl, -⟩
    · rw [sends_cons, hlogged]
      rfl
    · rfl
  | again h rest ih =>
    rw [sends_send, sends_append, pauseEvents, sends_cons, sends_append, retryRecord, hlogged, ih]
    rfl

/-- The last outcome decides how the loop ends. -/
theorem LoopTrace.result {attempt : ℕ} {outcomes : List TransportOutcome} {draws : List ℚ}
    {tr : List (Event effects)} {r : Except PyError RawResponse}
    (h : LoopTrace e x attempt outcomes draws tr r) :
    ∃ final, outcomes.getLast? = some final ∧ r = outcomeResult e x final := by
  induction h with
  | last h hend => exact ⟨_, rfl, rfl⟩
  | @again attempt outcome outcomes draw draws tr r h rest ih =>
    obtain ⟨final, hlast, hr⟩ := ih
    refine ⟨final, ?_, hr⟩
    rw [List.getLast?_cons, hlast]
    rfl

end Attempt

/-! ## 5. One execution -/

/-- How the correlation id is found: given, or asked for. -/
def idEvents (options : RequestOptions) (id : String) : Option (List (Event effects)) :=
  match options.correlationId.filter (· ≠ "") with
  | some given => if given = id then some [] else none
  | none => some [⟨.newCorrelationId, id⟩]

/-- An execution whose endpoint is accepted: the id, the start, and the loop from attempt one. -/
theorem execute_trace {e : RequestEngine} {purpose : Purpose} {options : RequestOptions}
    {endpoint : String} (hendpoint : e.validatedEndpoint options.path = .ok endpoint)
    {tr : List (Event effects)} {r : Except PyError RawResponse}
    (h : (e.execute purpose options).Emits tr r) :
    ∃ id front started fields outcomes draws rest, idEvents options id = some front ∧
      tr = front ++ ⟨.monotonic, (started : ℚ)⟩ ::
        (logged e.logger e.rt .info .requestStarted fields ++ rest) ∧
      LoopTrace e ⟨purpose, options, id, endpoint, e.transportRequest options id endpoint, started⟩
        1 outcomes draws rest r := by
  have hrest : ∀ id tr', Prog.Emits (do
      let endpoint ← Prog.ofExcept (e.validatedEndpoint options.path)
      let started ← Py.monotonic
      e.logger.emit e.rt .info .requestStarted
        [("service", .str options.service.value), ("operation", .str options.operation),
          ("method", .str (e.rt.upper options.method)), ("endpoint", .str endpoint),
          ("correlation_id", .str id)]
      e.sendLoop ⟨purpose, options, id, endpoint,
        e.transportRequest options id endpoint, started⟩ 1) tr' r →
      ∃ started fields outcomes draws rest, tr' = ⟨.monotonic, (started : ℚ)⟩ ::
        (logged e.logger e.rt .info .requestStarted fields ++ rest) ∧
      LoopTrace e ⟨purpose, options, id, endpoint, e.transportRequest options id endpoint, started⟩
        1 outcomes draws rest r := by
    intro id tr' h
    rw [hendpoint] at h
    obtain ⟨started, tr'', rfl, h⟩ := h
    obtain ⟨rest, rfl, hloop⟩ := emit_bind_emits h
    obtain ⟨outcomes, draws, hrun⟩ := sendLoop_trace hloop
    exact ⟨started, _, outcomes, draws, rest, rfl, hrun⟩
  unfold RequestEngine.execute RequestEngine.correlationId at h
  cases hgiven : options.correlationId.filter (· ≠ "") with
  | some given =>
    rw [hgiven] at h
    obtain ⟨started, fields, outcomes, draws, rest, htr, hrun⟩ := hrest given tr h
    refine ⟨given, [], started, fields, outcomes, draws, rest, ?_, htr, hrun⟩
    rw [idEvents, hgiven]
    exact if_pos rfl
  | none =>
    rw [hgiven] at h
    obtain ⟨id, tr', rfl, h⟩ := h
    obtain ⟨started, fields, outcomes, draws, rest, rfl, hrun⟩ := hrest id tr' h
    refine ⟨id, [⟨.newCorrelationId, id⟩], started, fields, outcomes, draws, rest, ?_, rfl, hrun⟩
    rw [idEvents, hgiven]

end JibitSdk.Guarantees
