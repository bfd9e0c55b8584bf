import JibitSdk.Guarantees.Traces
import JibitSdk.Reasoning.Budget
import Mathlib.Algebra.Order.Monoid.NatCast

/-!
# What requests cost

Sends and pauses are what a request spends: attempts of the provider's patience, or time.  One
execution makes at most `max_attempts` sends with a pause between two of them, and every token
operation makes at most two executions.
-/

namespace JibitSdk.Guarantees

open JibitSdk.Python JibitSdk.Reasoning JibitSdk.Sdk

/-! ## 1. Prices -/

/-- A log record of a raising audit sink. -/
def isEmitFailed (record : LogRecord) : Prop := record.event = EventName.auditEmitFailed.value

instance (record : LogRecord) : Decidable (isEmitFailed record) :=
  inferInstanceAs (Decidable (_ = _))

/-- Operations that neither send nor pause, and have nothing to do with auditing. -/
def isFree : Effect → Prop
  | .send _ _ | .sleep _ | .emitAudit _ => False
  | .log record => ¬ isEmitFailed record
  | _ => True

variable {A : Type} [AddCommMonoid A] [PartialOrder A]

/-- The engine pays at most `perSend` for a send, at most `perPause` for a pause between two
    attempts, and nothing else. -/
structure Prices (cost : Effect → A) (e : RequestEngine) (perSend perPause : A) : Prop where
  send : ∀ purpose request, request.timeout = e.config.timeout →
    cost (.send purpose request) ≤ perSend
  pause : ∀ delay, delay ≤ e.retryPolicy.config.maxDelay → cost (.sleep delay) ≤ perPause
  free : ∀ o, isFree o → cost o = 0
  perSend_nonneg : 0 ≤ perSend
  perPause_nonneg : 0 ≤ perPause

/-- What one execution may spend. -/
def requestBudget (e : RequestEngine) (perSend perPause : A) : A :=
  e.retryPolicy.config.maxAttempts • perSend + (e.retryPolicy.config.maxAttempts - 1) • perPause

/-! ## 2. Parts that spend nothing -/

section Free
variable {cost : Effect → A} {α : Type} {n : A}

theorem free_perform (hfree : ∀ o, isFree o → cost o = 0) {o : Effect} (ho : isFree o)
    {k : Effect.Answer o → Py α} (hk : ∀ answer, (k answer).Within (S := effects) cost n) :
    Prog.Within (S := effects) cost ((Prog.perform (S := effects) o : Py _) >>= k) n :=
  ⟨n, by rw [hfree o ho, zero_add], hk⟩

theorem builtin_within (hn : 0 ≤ n) (result : Except BuiltinError α) :
    (Py.builtin result).Within (S := effects) cost n := by
  cases result <;> exact hn

variable [IsOrderedAddMonoid A]

/-- A free part in front leaves the budget to the rest. -/
theorem free_bind {β : Type} (hfree : ∀ o, isFree o → cost o = 0) {p : Py β} (hp : p.Only isFree)
    {f : β → Py α} (hn : 0 ≤ n) (hf : ∀ b, (f b).Within (S := effects) cost n) :
    (p >>= f).Within (S := effects) cost n := by
  rw [← zero_add n]
  exact (hp.within hfree).bind hn hf

end Free

theorem emit_free (l : StructuredLogger) (rt : Runtime) (level : LogLevel) {event : EventName}
    (hevent : event ≠ .auditEmitFailed) (fields : List (String × PyVal)) :
    (l.emit rt level event fields).Only isFree := by
  have hname : event.value ≠ EventName.auditEmitFailed.value := by
    cases event <;> first | decide | exact absurd rfl hevent
  unfold StructuredLogger.emit
  split
  · exact ⟨hname, fun _ => trivial⟩
  · trivial

/-- A decision never asks for more than the configured delay. -/
theorem decide_free (p : RetryPolicy) (attempt : ℕ) (safety : OperationSafety) (status : Option ℤ)
    (transportError hasKey : Bool) :
    (p.decide attempt safety status transportError hasKey).Always isFree fun r =>
      ∃ d, r = .ok d ∧ (d.shouldRetry = true → attempt < p.config.maxAttempts) ∧
        d.delay ≤ p.config.maxDelay := by
  have hdelay : (0 : ℚ) ≤ p.config.maxDelay := p.config.maxDelay_nonneg
  unfold RetryPolicy.decide
  by_cases hlimit : attempt ≥ p.config.maxAttempts
  · rw [if_pos hlimit]
    exact ⟨_, rfl, nofun, hdelay⟩
  rw [if_neg hlimit]
  split
  · exact ⟨_, rfl, nofun, hdelay⟩
  split
  · exact ⟨_, rfl, nofun, hdelay⟩
  split
  · exact ⟨_, rfl, nofun, hdelay⟩
  · exact ⟨trivial, fun _ => ⟨_, rfl, fun _ => Nat.lt_of_not_ge hlimit, min_le_left _ _⟩⟩

section Engine
variable (e : RequestEngine) (x : RequestEngine.Exchange)

theorem fail_free (error : JibitError) : (e.fail x error).Only isFree := by
  unfold RequestEngine.fail
  refine Prog.Only.bind ?_ fun _ => trivial
  exact ⟨trivial, fun _ => emit_free e.logger e.rt _ (by decide) _⟩

theorem complete_free (attempt : ℕ) (response : TransportResponse) :
    (e.complete x attempt response).Only isFree := by
  refine ⟨trivial, fun now => ?_⟩
  exact (emit_free e.logger e.rt _ (by decide) _).bind fun _ => trivial

/-! ## 3. The retry loop -/

variable {e x} {cost : Effect → A} {perSend perPause : A} [IsOrderedAddMonoid A]

/-- A retry step pauses and goes on only while attempts are left. -/
theorem retryOr_within (prices : Prices cost e perSend perPause) {attempt : ℕ} {status : Option ℤ}
    {transportError hasKey : Bool} {again failure : Py RawResponse} {n : A} (hn : 0 ≤ n)
    (hfailure : failure.Only isFree)
    (hagain : attempt < e.retryPolicy.config.maxAttempts →
      ∃ m, perPause + m ≤ n ∧ again.Within (S := effects) cost m) :
    Prog.Within (S := effects) cost (do
      let decision ← e.retryPolicy.decide attempt x.options.safety status transportError hasKey
      e.retryOr x attempt decision again failure) n := by
  have hdecide := decide_free e.retryPolicy attempt x.options.safety status transportError hasKey
  -- The decision is free; what follows is judged by what it decided.
  have hstep : ∀ d : RetryDecision,
    (d.shouldRetry = true → attempt < e.retryPolicy.config.maxAttempts) →
      d.delay ≤ e.retryPolicy.config.maxDelay →
      (e.retryOr x attempt d again failure).Within (S := effects) cost n := by
    intro d hretry hdelay
    unfold RequestEngine.retryOr
    split
    · rename_i hd
      obtain ⟨m, hm, hwithin⟩ := hagain (hretry hd)
      refine free_bind prices.free (emit_free e.logger e.rt _ (by decide) _) hn fun _ => ?_
      refine ⟨m, ?_, fun _ => hwithin⟩
      exact (add_le_add_left (prices.pause _ hdelay) m).trans hm
    · exact (hfailure.within prices.free).mono hn
  generalize e.retryPolicy.decide attempt x.options.safety status transportError
    hasKey = p at hdecide
  induction p with
  | ret d =>
    obtain ⟨d', hd, hretry, hdelay⟩ := hdecide
    cases hd
    exact hstep d hretry hdelay
  | throw error =>
    obtain ⟨d', hd, -⟩ := hdecide
    exact nomatch hd
  | call o k ih =>
    refine ⟨n, ?_, fun a => ih a (hdecide.2 a)⟩
    rw [prices.free o hdecide.1, zero_add]

theorem loopBody_within (prices : Prices cost e perSend perPause)
    (hrequest : x.request.timeout = e.config.timeout) {attempt : ℕ} {again : Py RawResponse} {n : A}
    (hn : 0 ≤ n)
    (hagain : attempt < e.retryPolicy.config.maxAttempts →
      ∃ m, perPause + m ≤ n ∧ again.Within (S := effects) cost m) :
    (e.loopBody x attempt again).Within (S := effects) cost (perSend + n) := by
  refine ⟨n, add_le_add_left (prices.send _ _ hrequest) n, fun outcome => ?_⟩
  cases outcome with
  | timeoutError => exact retryOr_within prices hn (fail_free e x _) hagain
  | networkError => exact retryOr_within prices hn (fail_free e x _) hagain
  | response response =>
    show Prog.Within (S := effects) cost (if _ then _ else _) n
    split
    · exact ((complete_free e x attempt response).within prices.free).mono hn
    · refine retryOr_within prices hn ?_ hagain
      cases e.mapError x.options x.correlationId x.endpoint response with
      | ok error => exact fail_free e x error
      | error error => trivial

theorem sendLoopFrom_within (prices : Prices cost e perSend perPause)
    (hrequest : x.request.timeout = e.config.timeout) (remaining attempt : ℕ)
    (hlimit : e.retryPolicy.config.maxAttempts ≤ attempt + remaining) :
    (e.sendLoopFrom x remaining attempt).Within (S := effects) cost
      ((remaining + 1) • perSend + remaining • perPause) := by
  induction remaining generalizing attempt with
  | zero =>
    rw [zero_nsmul, zero_add, one_nsmul]
    exact loopBody_within prices hrequest (le_refl 0) fun h => absurd h (by omega)
  | succ remaining ih =>
    have hrest : 0 ≤ (remaining + 1) • perSend + remaining • perPause :=
      add_nonneg (nsmul_nonneg prices.perSend_nonneg _) (nsmul_nonneg prices.perPause_nonneg _)
    have hsum : (remaining + 1 + 1) • perSend + (remaining + 1) • perPause =
        perSend + (perPause + ((remaining + 1) • perSend + remaining • perPause)) := by
      rw [succ_nsmul' perSend (remaining + 1), succ_nsmul' perPause remaining]
      abel
    rw [hsum]
    refine loopBody_within prices hrequest (add_nonneg prices.perPause_nonneg hrest) fun _ => ?_
    exact ⟨_, le_refl _, ih (attempt + 1) (by omega)⟩

theorem requestBudget_nonneg (prices : Prices cost e perSend perPause) :
    0 ≤ requestBudget e perSend perPause :=
  add_nonneg (nsmul_nonneg prices.perSend_nonneg _) (nsmul_nonneg prices.perPause_nonneg _)

/-- One execution sends at most `max_attempts` times, with a pause between two sends. -/
theorem execute_within (prices : Prices cost e perSend perPause) (purpose : Purpose)
    (options : RequestOptions) :
    (e.execute purpose options).Within (S := effects) cost (requestBudget e perSend perPause) := by
  have hbudget := requestBudget_nonneg prices
  have hloop (id endpoint : String) (started : ℚ) :
      (e.sendLoop ⟨purpose, options, id, endpoint, e.transportRequest options id endpoint, started⟩
        1).Within (S := effects) cost (requestBudget e perSend perPause) := by
    have hone := e.retryPolicy.config.one_le_maxAttempts
    have h := sendLoopFrom_within (e := e)
      (x := ⟨purpose, options, id, endpoint, e.transportRequest options id endpoint, started⟩)
      prices rfl
      (e.retryPolicy.config.maxAttempts - 1) 1 (by omega)
    rw [Nat.sub_add_cancel hone] at h
    exact h
  have hid : (RequestEngine.correlationId options).Only isFree := by
    unfold RequestEngine.correlationId
    split
    · trivial
    · exact ⟨trivial, fun _ => trivial⟩
  unfold RequestEngine.execute
  refine free_bind prices.free hid hbudget fun id => ?_
  cases e.validatedEndpoint options.path with
  | error error => exact hbudget
  | ok endpoint =>
    refine free_perform prices.free (o := .monotonic) trivial fun started => ?_
    exact free_bind prices.free (emit_free e.logger e.rt _ (by decide) _) hbudget
      fun _ => hloop id endpoint started

end Engine

/-! ## 4. Token operations -/

section Tokens
variable {a : ServiceAuthenticator} {cost : Effect → A} {perSend perPause : A}
  [IsOrderedAddMonoid A]

theorem requestToken_within (prices : Prices cost a.engine perSend perPause)
    (refresh : Option TokenState) :
    (a.requestToken refresh).Within (S := effects) cost
      (requestBudget a.engine perSend perPause) := by
  have hbudget := requestBudget_nonneg prices
  have hparse (body : List (String × Json)) :
      (a.parseToken body refresh).Within (S := effects) cost 0 := by
    unfold ServiceAuthenticator.parseToken
    split
    · exact le_refl 0
    · exact free_perform prices.free (o := .clock) trivial fun _ => builtin_within (le_refl 0) _
  unfold ServiceAuthenticator.requestToken
  cases a.tokenRequest refresh with
  | error error => exact hbudget
  | ok options =>
    rw [← add_zero (requestBudget a.engine perSend perPause)]
    refine (execute_within prices .token options).bind (le_refl 0) fun raw => ?_
    unfold ServiceAuthenticator.readToken
    cases raw.json a.rt with
    | error error => exact le_refl 0
    | ok value =>
      rw [Prog.ofExcept_ok, Prog.ret_bind]
      split
      · exact hparse _
      · exact le_refl 0

theorem keep_within (hfree : ∀ o, isFree o → cost o = 0) (token : TokenState) {event : EventName}
    (hevent : event ≠ .auditEmitFailed) (source : String) :
    (a.keep token event source).Within (S := effects) cost 0 := by
  refine free_perform hfree (o := .storeSet a.cacheKey token) trivial fun _ => ?_
  exact free_bind hfree (emit_free a.logger a.rt _ hevent _) (le_refl 0) fun _ => le_refl 0

theorem acquire_within (prices : Prices cost a.engine perSend perPause) :
    a.acquire.Within (S := effects) cost (requestBudget a.engine perSend perPause) := by
  rw [← add_zero (requestBudget a.engine perSend perPause)]
  exact (requestToken_within prices none).bind (le_refl 0) fun token =>
    keep_within prices.free token (by decide) _

/-- A refresh and, after its rejection, a token request with the credentials. -/
theorem refreshOrAcquire_within (prices : Prices cost a.engine perSend perPause)
    (cached : Option TokenState) (now : ℚ) :
    (a.refreshOrAcquire cached now).Within (S := effects) cost
      (2 • requestBudget a.engine perSend perPause) := by
  have hbudget := requestBudget_nonneg prices
  rw [two_nsmul]
  unfold ServiceAuthenticator.refreshOrAcquire
  split
  · refine (requestToken_within prices _).attempt.bind hbudget fun outcome => ?_
    cases outcome with
    | ok token => exact (keep_within prices.free token (by decide) _).mono hbudget
    | error error =>
      show Prog.Within (S := effects) cost (if _ then _ else _) _
      split
      · exact free_bind prices.free (emit_free a.logger a.rt _ (by decide) _) hbudget fun _ =>
          acquire_within prices
      · exact hbudget
  · exact (acquire_within prices).mono (le_add_of_nonneg_left hbudget)

theorem safeGet_free : a.safeGet.Only isFree := by
  refine ⟨trivial, fun found => ?_⟩
  cases found with
  | ok cached => trivial
  | error error =>
    show Prog.Only _ (if _ then _ else _)
    split
    · exact ⟨trivial, fun _ => trivial⟩
    · trivial

/-- Locks themselves are free. -/
theorem lock_within {α : Type} (hfree : ∀ o, isFree o → cost o = 0) (locks : LockProvider)
    (key : String) {body : Py α} {n : A} (hn : 0 ≤ n) (hbody : body.Within (S := effects) cost n) :
    (locks.lock key body).Within (S := effects) cost n := by
  cases locks with
  | thread =>
    refine free_perform hfree (o := .guardAcquire) trivial fun _ => ?_
    refine free_perform hfree (o := .setdefaultLock key) trivial fun lock => ?_
    refine free_perform hfree (o := .guardRelease) trivial fun _ => ?_
    refine free_perform hfree (o := .lockAcquire lock) trivial fun _ => ?_
    rw [← add_zero n]
    refine hbody.attempt.bind (le_refl 0) fun outcome => ?_
    refine free_perform hfree (o := .lockRelease lock) trivial fun _ => ?_
    exact Prog.within_ofExcept.mpr (le_refl 0)
  | redis keyPrefix timeout blockingTimeout =>
    refine free_perform hfree (o := .redisAcquire _ timeout blockingTimeout) trivial
      fun failure => ?_
    cases failure with
    | some error => exact hn
    | none =>
      rw [← add_zero n]
      refine hbody.attempt.bind (le_refl 0) fun outcome => ?_
      refine free_perform hfree (o := .redisRelease _) trivial fun failure => ?_
      cases failure with
      | some error => exact le_refl 0
      | none => exact Prog.within_ofExcept.mpr (le_refl 0)

theorem getToken_within (prices : Prices cost a.engine perSend perPause) :
    a.getToken.Within (S := effects) cost (2 • requestBudget a.engine perSend perPause) := by
  have hbudget : 0 ≤ 2 • requestBudget a.engine perSend perPause :=
    nsmul_nonneg (requestBudget_nonneg prices) 2
  refine free_perform prices.free (o := .clock) trivial fun now => ?_
  refine free_bind prices.free safeGet_free hbudget fun cached => ?_
  split
  · exact hbudget
  · refine lock_within prices.free _ _ hbudget ?_
    refine free_perform prices.free (o := .clock) trivial fun now => ?_
    refine free_bind prices.free safeGet_free hbudget fun cached => ?_
    split
    · exact hbudget
    · exact refreshOrAcquire_within prices _ _

theorem recoverFromUnauthorized_within (prices : Prices cost a.engine perSend perPause)
    (rejected : String) :
    (a.recoverFromUnauthorized rejected).Within (S := effects) cost
      (2 • requestBudget a.engine perSend perPause) := by
  have hbudget : 0 ≤ 2 • requestBudget a.engine perSend perPause :=
    nsmul_nonneg (requestBudget_nonneg prices) 2
  refine lock_within prices.free _ _ hbudget ?_
  refine free_bind prices.free safeGet_free hbudget fun cached => ?_
  refine free_perform prices.free (o := .clock) trivial fun now => ?_
  split
  · exact hbudget
  · exact refreshOrAcquire_within prices _ _

end Tokens

/-! ## 5. Executors -/

section Executors
variable {x : AuthenticatedRequestEngine} {cost : Effect → A} {perSend perPause : A}
  [IsOrderedAddMonoid A]

theorem replay_within (prices : Prices cost x.engine perSend perPause) (options : RequestOptions)
    (replacement : TokenState) :
    (x.replay options replacement).Within (S := effects) cost
      (requestBudget x.engine perSend perPause) := by
  rw [← add_zero (requestBudget x.engine perSend perPause)]
  refine (execute_within prices _ _).attempt.bind (le_refl 0) fun outcome => ?_
  cases outcome with
  | ok response => exact le_refl 0
  | error error =>
    show Prog.Within (S := effects) cost (if _ then _ else _) 0
    split
    · exact free_perform prices.free (o := .storeDelete _) trivial fun _ => le_refl 0
    · exact le_refl 0

/-- Two executions for the operation, and two token operations of at most two executions each. -/
theorem authenticated_within (prices : Prices cost x.engine perSend perPause)
    (tokenPrices : Prices cost x.authenticator.engine perSend perPause) (options : RequestOptions) :
    (x.execute options).Within (S := effects) cost
      (2 • requestBudget x.authenticator.engine perSend perPause +
        (requestBudget x.engine perSend perPause +
          (2 • requestBudget x.authenticator.engine perSend perPause +
            requestBudget x.engine perSend perPause))) := by
  have hbudget := requestBudget_nonneg prices
  have hrecovery : 0 ≤ 2 • requestBudget x.authenticator.engine perSend perPause +
      requestBudget x.engine perSend perPause :=
    add_nonneg (nsmul_nonneg (requestBudget_nonneg tokenPrices) 2) hbudget
  refine (getToken_within tokenPrices).bind (add_nonneg hbudget hrecovery) fun token => ?_
  refine (execute_within prices _ _).attempt.bind hrecovery fun outcome => ?_
  cases outcome with
  | ok response => exact hrecovery
  | error error =>
    show Prog.Within (S := effects) cost (if _ then _ else _) _
    split
    · show Prog.Within (S := effects) cost (if _ then _ else _) _
      split
      · exact (recoverFromUnauthorized_within tokenPrices _).bind hbudget fun replacement =>
          replay_within prices options replacement
      · exact free_perform prices.free (o := .storeDelete _) trivial fun _ => hrecovery
    · exact hrecovery

end Executors

end JibitSdk.Guarantees
