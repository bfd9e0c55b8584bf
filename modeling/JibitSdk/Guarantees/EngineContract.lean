import JibitSdk.Guarantees.RetryLoop
import JibitSdk.Reasoning.Contract

/-!
# The engine's contract

Whoever verifies a caller of the engine says what holds before a send, what holds after each
outcome, and that a transient outcome leads back.  The loop, its log records and its delays then
take care of themselves.
-/

namespace JibitSdk.Guarantees

open JibitSdk.Python JibitSdk.Reasoning JibitSdk.Sdk

section Engine
variable {σ : Type} {M : Machine effects σ} {ok : Effect → σ → Prop}

/-- Any operation is fine. -/
def anyOperation : Effect → σ → Prop := fun _ _ => True

/-- Local operations are fine where `J` holds, and keep it. -/
def KeptLocally (M : Machine effects σ) (ok : Effect → σ → Prop) (J : σ → Prop) : Prop :=
  ∀ o s, isLocal o → J s → ok o s ∧ ∀ a s', M.step o s a s' → J s'

/-- What a caller of the engine has to say about its sends. -/
structure SendRule (M : Machine effects σ) (ok : Effect → σ → Prop) (e : RequestEngine)
    (purpose : Purpose) (options : RequestOptions) (J : σ → Prop)
    (K : TransportOutcome → σ → Prop) : Prop where
  before : KeptLocally M ok J
  after : ∀ outcome, KeptLocally M ok (K outcome)
  send : ∀ correlationId endpoint s, e.validatedEndpoint options.path = .ok endpoint → J s →
    ok (.send purpose (e.transportRequest options correlationId endpoint)) s ∧
      ∀ outcome s', M.step (.send purpose (e.transportRequest options correlationId endpoint))
        s outcome s' → K outcome s'
  again : ∀ outcome s, transientOutcome outcome = true → K outcome s → J s

theorem local_meets {α : Type} {p : Py α} {R : Except PyError α → Prop} {J : σ → Prop}
    (hp : p.Always isLocal R) (hJ : KeptLocally M ok J) {s : σ} (hs : J s) :
    p.Meets M ok (fun r s => R r ∧ J s) s :=
  hp.meets hJ hs

variable {e : RequestEngine} {x : RequestEngine.Exchange} {J : σ → Prop}
  {K : TransportOutcome → σ → Prop}

/-- The retry step after an outcome: another iteration, or the failure. -/
theorem retryOr_meets {attempt : ℕ} {status : Option ℤ} {transportError : Bool}
    {again failure : Py RawResponse} {result : Except PyError RawResponse} {J : σ → Prop}
    {Q : Except PyError RawResponse → σ → Prop} (hJ : KeptLocally M ok J)
    (hfailure : failure.Always isLocal (· = result)) (hend : ∀ s, J s → Q result s)
    (hagain : attempt < e.retryPolicy.config.maxAttempts →
      (transportError || status.any transientStatusCodes.contains) = true →
        ∀ s, J s → again.Meets M ok Q s)
    {s : σ} (hs : J s) :
    Prog.Meets M ok Q (do
      let decision ← e.retryPolicy.decide attempt x.options.safety status transportError
        x.options.idempotencyKey.isSome
      e.retryOr x attempt decision again failure) s := by
  refine (local_meets (decide_always e.retryPolicy attempt x.options status transportError) hJ
    hs).bind (fun d s hd => ?_) (fun error s hd => ?_)
  · rcases hd with ⟨⟨d', hd', hretry⟩, hs⟩
    cases hd'
    unfold RequestEngine.retryOr
    by_cases hshould : d.shouldRetry = true
    · rw [if_pos hshould]
      rw [hretry, Bool.and_eq_true, Bool.and_eq_true] at hshould
      have hlog : (e.logRetry x attempt d).Always isLocal (· = .ok ()) :=
        emit_always e.logger e.rt _ _ _
      refine (local_meets hlog hJ hs).bind (fun _ s hs => ?_) (fun _ _ h => nomatch h.1)
      have hsleep := hJ (.sleep d.delay) s trivial hs.2
      exact ⟨hsleep.1, fun a s' hstep =>
        hagain (of_decide_eq_true hshould.1) hshould.2.2 s' (hsleep.2 a s' hstep)⟩
    · rw [if_neg hshould]
      refine (local_meets hfailure hJ hs).mono fun r s h => ?_
      rw [h.1]
      exact hend s h.2
  · rcases hd with ⟨⟨d', hd', -⟩, -⟩
    exact nomatch hd'

theorem loopBody_meets {attempt : ℕ} {again : Py RawResponse}
    (hafter : ∀ outcome, KeptLocally M ok (K outcome))
    (hsend : ∀ s, J s → ok (.send x.purpose x.request) s ∧
      ∀ outcome s', M.step (.send x.purpose x.request) s outcome s' → K outcome s')
    (hloop : ∀ outcome s, transientOutcome outcome = true → K outcome s → J s)
    (hagain : attempt < e.retryPolicy.config.maxAttempts → ∀ s, J s → again.Meets M ok
      (fun r s => ∃ outcome, r = outcomeResult e x outcome ∧ K outcome s) s)
    {s : σ} (hs : J s) :
    (e.loopBody x attempt again).Meets M ok
      (fun r s => ∃ outcome, r = outcomeResult e x outcome ∧ K outcome s) s := by
  refine ⟨(hsend s hs).1, fun outcome s' hstep => ?_⟩
  have hK := (hsend s hs).2 outcome s' hstep
  have retry {status : Option ℤ} {transportError : Bool} {failure : Py RawResponse}
      (htransient : (transportError || status.any transientStatusCodes.contains) =
        transientOutcome outcome)
      (hfailure : failure.Always isLocal (· = outcomeResult e x outcome)) :
      Prog.Meets M ok (fun r s => ∃ outcome, r = outcomeResult e x outcome ∧ K outcome s) (do
        let decision ← e.retryPolicy.decide attempt x.options.safety status transportError
          x.options.idempotencyKey.isSome
        e.retryOr x attempt decision again failure) s' := by
    refine retryOr_meets (hafter outcome) hfailure (fun s hs => ⟨outcome, rfl, hs⟩) ?_ hK
    intro hleft hcond s hs
    rw [htransient] at hcond
    exact hagain hleft s (hloop outcome s hcond hs)
  cases outcome with
  | timeoutError => exact retry rfl (fail_always e x _)
  | networkError => exact retry rfl (fail_always e x _)
  | response response =>
    show Prog.Meets M ok _ (if 200 ≤ response.statusCode ∧ response.statusCode < 300 then
        e.complete x attempt response
      else do
        let decision ← e.retryPolicy.decide attempt x.options.safety (some response.statusCode)
          false x.options.idempotencyKey.isSome
        e.retryOr x attempt decision again do
          let error ← Prog.ofExcept (e.mapError x.options x.correlationId x.endpoint response)
          e.fail x error) s'
    by_cases hok : 200 ≤ response.statusCode ∧ response.statusCode < 300
    · rw [if_pos hok]
      refine (local_meets (complete_always e x attempt response) (hafter _) hK).mono ?_
      intro r s h
      refine ⟨.response response, ?_, h.2⟩
      rw [h.1, outcomeResult, if_pos hok]
    · rw [if_neg hok]
      refine retry (Bool.false_or _) ?_
      · rw [outcomeResult, if_neg hok]
        cases e.mapError x.options x.correlationId x.endpoint response with
        | ok error => exact fail_always e x error
        | error error => rfl

theorem sendLoop_meets (hafter : ∀ outcome, KeptLocally M ok (K outcome))
    (hsend : ∀ s, J s → ok (.send x.purpose x.request) s ∧
      ∀ outcome s', M.step (.send x.purpose x.request) s outcome s' → K outcome s')
    (hloop : ∀ outcome s, transientOutcome outcome = true → K outcome s → J s)
    (attempt : ℕ) {s : σ} (hs : J s) :
    (e.sendLoop x attempt).Meets M ok
      (fun r s => ∃ outcome, r = outcomeResult e x outcome ∧ K outcome s) s := by
  -- Induction on the attempts left, as the loop itself counts.
  obtain ⟨left, hleft⟩ : ∃ left, e.retryPolicy.config.maxAttempts - attempt = left := ⟨_, rfl⟩
  induction left generalizing attempt s with
  | zero =>
    rw [sendLoop_eq]
    exact loopBody_meets hafter hsend hloop (fun hlt => absurd hlt (by omega)) hs
  | succ left ih =>
    rw [sendLoop_eq]
    exact loopBody_meets hafter hsend hloop (fun _ s hs => ih (attempt + 1) hs (by omega)) hs

/-- The contract of one execution: it stops at the endpoint check, or ends as its last outcome
    says. -/
theorem execute_meets {purpose : Purpose} {options : RequestOptions}
    (rule : SendRule M ok e purpose options J K) {s : σ} (hs : J s) :
    (e.execute purpose options).Meets M ok (fun r s =>
      (∃ error, e.validatedEndpoint options.path = .error error ∧ r = .error error ∧ J s) ∨
        ∃ x : RequestEngine.Exchange, ∃ outcome, x.options = options ∧
          r = outcomeResult e x outcome ∧ K outcome s) s := by
  unfold RequestEngine.execute
  refine (local_meets (correlationId_always options) rule.before hs).bind
    (fun correlationId s hs => ?_) (fun error s h => nomatch h.1)
  cases hendpoint : e.validatedEndpoint options.path with
  | error error => exact .inl ⟨error, rfl, rfl, hs.2⟩
  | ok endpoint =>
    rw [Prog.ofExcept_ok, Prog.ret_bind]
    have hmonotonic := rule.before .monotonic s trivial hs.2
    refine Prog.meets_perform_bind.mpr ⟨hmonotonic.1, fun started s' hstep => ?_⟩
    have hs' := hmonotonic.2 started s' hstep
    refine (local_meets (emit_always e.logger e.rt _ _ _) rule.before hs').bind
      (fun _ s hs => ?_) (fun error s h => nomatch h.1)
    refine (sendLoop_meets (x := ⟨purpose, options, correlationId, endpoint,
      e.transportRequest options correlationId endpoint, started⟩) rule.after
      (fun s hs => rule.send correlationId endpoint s hendpoint hs) rule.again 1 hs.2).mono ?_
    intro r s h
    rcases h with ⟨outcome, hr, hK⟩
    exact .inr ⟨_, outcome, rfl, hr, hK⟩

end Engine

end JibitSdk.Guarantees
