import JibitSdk.Guarantees.Traces

/-!
# The retry loop, outcome by outcome

One iteration of the loop sends once and is followed by another one exactly when `retried` says so.
A whole execution is therefore described by the list of its transport outcomes: `LoopRun` relates
that list to what the execution returns or raises.
-/

namespace JibitSdk.Guarantees

open JibitSdk.Python JibitSdk.Reasoning JibitSdk.Sdk

/-! ## 1. The retry decision -/

/-- The outcomes the policy takes for transient. -/
def transientOutcome : TransportOutcome → Bool
  | .response response => transientStatusCodes.contains response.statusCode
  | .timeoutError | .networkError => true

/-- The loop goes round again after this outcome of this attempt. -/
def retried (e : RequestEngine) (options : RequestOptions) (attempt : ℕ)
    (outcome : TransportOutcome) : Bool :=
  decide (attempt < e.retryPolicy.config.maxAttempts) &&
    (canReplay options && transientOutcome outcome)

theorem retried_success {e : RequestEngine} {options : RequestOptions} {attempt : ℕ}
    {response : TransportResponse} (h : 200 ≤ response.statusCode ∧ response.statusCode < 300) :
    retried e options attempt (.response response) = false := by
  have hnot : response.statusCode ∉ transientStatusCodes := by
    intro hmem
    simp only [transientStatusCodes, List.mem_cons, List.not_mem_nil, or_false] at hmem
    omega
  simp [retried, transientOutcome, hnot]

/-- `decide` retries when attempts are left, the operation may be sent again and the failure is
    transient; it reaches nothing but the random source. -/
theorem decide_always (p : RetryPolicy) (attempt : ℕ) (options : RequestOptions)
    (status : Option ℤ) (transportError : Bool) :
    (p.decide attempt options.safety status transportError
        options.idempotencyKey.isSome).Always isLocal fun r =>
      ∃ d, r = .ok d ∧ d.shouldRetry = (decide (attempt < p.config.maxAttempts) &&
        (canReplay options && (transportError || status.any transientStatusCodes.contains))) := by
  unfold RetryPolicy.decide
  -- the five tests of `decide`, in their order
  by_cases hlimit : attempt ≥ p.config.maxAttempts
  · rw [if_pos hlimit]
    exact ⟨_, rfl, by simp [Nat.not_lt.mpr hlimit]⟩
  rw [if_neg hlimit]
  have hlt : attempt < p.config.maxAttempts := by omega
  by_cases hunsafe : options.safety = .unsafeOp
  · rw [if_pos hunsafe]
    exact ⟨_, rfl, by simp [canReplay, hunsafe]⟩
  rw [if_neg hunsafe]
  by_cases hkey : options.safety = .idempotencyProtected ∧ ¬ options.idempotencyKey.isSome
  · rw [if_pos hkey]
    exact ⟨_, rfl, by simp [canReplay, hkey.1, hkey.2]⟩
  rw [if_neg hkey]
  have hreplay : canReplay options = true := by
    unfold canReplay
    cases h : options.safety with
    | readOnly => rfl
    | idempotent => rfl
    | idempotencyProtected => simpa [h, Option.isSome_iff_ne_none] using hkey
    | unsafeOp => exact absurd h hunsafe
  by_cases hstatus : ¬ transportError ∧ ¬ status.any transientStatusCodes.contains
  · rw [if_pos hstatus]
    exact ⟨_, rfl, by simp [hstatus.1, hstatus.2]⟩
  rw [if_neg hstatus]
  -- what is left is a retry: the random source gives the jitter
  refine ⟨trivial, fun _ => ⟨_, rfl, ?_⟩⟩
  have hagain : (transportError || status.any transientStatusCodes.contains) = true := by
    by_contra h
    simp only [Bool.not_eq_true, Bool.or_eq_false_iff] at h
    exact hstatus ⟨by simp [h.1], by simp [h.2]⟩
  simp only [hlt, hreplay, hagain, decide_true, Bool.and_self]

/-! ## 2. One iteration -/

section Loop
variable (e : RequestEngine) (x : RequestEngine.Exchange)

/-- What the loop ends in after its last outcome. -/
def outcomeResult : TransportOutcome → Except PyError RawResponse
  | .timeoutError => .error (.jibit (e.transportFailure x .timeout))
  | .networkError => .error (.jibit (e.transportFailure x .network))
  | .response response =>
    if 200 ≤ response.statusCode ∧ response.statusCode < 300 then
      .ok ⟨response.statusCode, response.headers, response.content, x.correlationId⟩
    else match e.mapError x.options x.correlationId x.endpoint response with
      | .ok error => .error (.jibit error)
      | .error error => .error error

theorem fail_always (error : JibitError) :
    (e.fail x error).Always isLocal (· = .error (.jibit error)) := by
  unfold RequestEngine.fail
  have hlog : (e.logFailure error x.started).Always isLocal (· = .ok ()) :=
    ⟨trivial, fun _ => emit_always e.logger e.rt _ _ _⟩
  refine hlog.bind ?_ ?_
  · exact fun _ _ => rfl
  · exact fun _ h => nomatch h

theorem complete_always (attempt : ℕ) (response : TransportResponse) :
    (e.complete x attempt response).Always isLocal (· =
      .ok ⟨response.statusCode, response.headers, response.content, x.correlationId⟩) := by
  refine ⟨trivial, fun now => ?_⟩
  refine (emit_always e.logger e.rt .info .requestCompleted _).bind ?_ ?_
  · exact fun _ _ => rfl
  · exact fun _ h => nomatch h

/-- A trace of one retry step: the decision, then either local events and another iteration, or the
    failure. -/
theorem retryOr_emits {attempt : ℕ} {status : Option ℤ} {transportError : Bool}
    {again failure : Py RawResponse} {result : Except PyError RawResponse}
    (hfailure : failure.Always isLocal (· = result)) {tr : List (Event effects)}
    {r : Except PyError RawResponse}
    (h : Prog.Emits (do
      let decision ← e.retryPolicy.decide attempt x.options.safety status transportError
        x.options.idempotencyKey.isSome
      e.retryOr x attempt decision again failure) tr r) :
    if decide (attempt < e.retryPolicy.config.maxAttempts) &&
        (canReplay x.options && (transportError || status.any transientStatusCodes.contains))
    then ∃ tr₁ tr₂, tr = tr₁ ++ tr₂ ∧ sends tr₁ = [] ∧ again.Emits tr₂ r
    else sends tr = [] ∧ r = result := by
  have hdecide := decide_always e.retryPolicy attempt x.options status transportError
  rcases Prog.emits_bind.mp h with ⟨d, tr₁, tr₂, rfl, h₁, h₂⟩ | ⟨error, h₁, -⟩
  -- the decision is local, and so is the record of a retry
  · obtain ⟨d', hd, hretry⟩ := hdecide.result h₁
    cases hd
    have hlocal₁ := sends_eq_nil (hdecide.events h₁)
    rw [← hretry]
    unfold RequestEngine.retryOr at h₂
    -- a retry: its own events are local, then the next iteration runs
    by_cases hd : d.shouldRetry = true
    · rw [if_pos hd] at h₂ ⊢
      have hlog : (e.logRetry x attempt d).Always isLocal (· = .ok ()) :=
        emit_always e.logger e.rt _ _ _
      rcases Prog.emits_bind.mp h₂ with ⟨u, tr₃, tr₄, rfl, h₃, h₄⟩ | ⟨error, h₃, -⟩
      · obtain ⟨a, tr₅, rfl, h₅⟩ := h₄
        have hlocal₃ := sends_eq_nil (hlog.events h₃)
        refine ⟨tr₁ ++ tr₃ ++ [⟨.sleep d.delay, a⟩], tr₅, ?_, ?_, h₅⟩
        · simp only [List.append_assoc, List.cons_append, List.nil_append]
        · simp only [sends_append, hlocal₁, hlocal₃, List.append_nil]
          rfl
      · exact nomatch hlog.result h₃
    -- no retry: the failure's events are local
    · rw [if_neg hd] at h₂ ⊢
      rw [sends_append, hlocal₁, sends_eq_nil (hfailure.events h₂)]
      exact ⟨rfl, hfailure.result h₂⟩
  · obtain ⟨d', hd, -⟩ := hdecide.result h₁
    exact nomatch hd

/-- One iteration sends once; then either the next iteration runs, or the outcome decides. -/
theorem loopBody_emits {attempt : ℕ} {again : Py RawResponse} {tr : List (Event effects)}
    {r : Except PyError RawResponse} (h : (e.loopBody x attempt again).Emits tr r) :
    ∃ outcome, if retried e x.options attempt outcome
      then ∃ tr₁ tr₂, tr = tr₁ ++ tr₂ ∧ sends tr₁ = [⟨x.purpose, x.request, outcome⟩] ∧
        again.Emits tr₂ r
      else sends tr = [⟨x.purpose, x.request, outcome⟩] ∧ r = outcomeResult e x outcome := by
  obtain ⟨outcome, tr', rfl, h⟩ := h
  refine ⟨outcome, ?_⟩
  -- Every branch below the send is a retry step with its own failure; the send is put in front.
  have lift {result : Except PyError RawResponse} {cond : Bool}
      (hstep : if cond then ∃ tr₁ tr₂, tr' = tr₁ ++ tr₂ ∧ sends tr₁ = [] ∧ again.Emits tr₂ r
        else sends tr' = [] ∧ r = result)
      (hcond : cond = retried e x.options attempt outcome)
      (hresult : result = outcomeResult e x outcome) :
      if retried e x.options attempt outcome
      then ∃ tr₁ tr₂, (⟨.send x.purpose x.request, outcome⟩ :: tr' : List (Event effects))
          = tr₁ ++ tr₂ ∧ sends tr₁ = [⟨x.purpose, x.request, outcome⟩] ∧ again.Emits tr₂ r
      else sends (⟨.send x.purpose x.request, outcome⟩ :: tr' : List (Event effects))
          = [⟨x.purpose, x.request, outcome⟩] ∧ r = outcomeResult e x outcome := by
    rw [← hcond, ← hresult]
    by_cases hc : cond = true
    · rw [if_pos hc] at hstep ⊢
      obtain ⟨tr₁, tr₂, rfl, hs, hr⟩ := hstep
      exact ⟨_ :: tr₁, tr₂, rfl, by rw [sends_send, hs], hr⟩
    · rw [if_neg hc] at hstep ⊢
      exact ⟨by rw [sends_send, hstep.1], hstep.2⟩
  cases outcome with
  | timeoutError =>
    exact lift (retryOr_emits e x (fail_always e x _) h) (by simp [retried, transientOutcome]) rfl
  | networkError =>
    exact lift (retryOr_emits e x (fail_always e x _) h) (by simp [retried, transientOutcome]) rfl
  | response response =>
    change Prog.Emits (if 200 ≤ response.statusCode ∧ response.statusCode < 300 then
        e.complete x attempt response
      else do
        let decision ← e.retryPolicy.decide attempt x.options.safety (some response.statusCode)
          false x.options.idempotencyKey.isSome
        e.retryOr x attempt decision again do
          let error ← Prog.ofExcept (e.mapError x.options x.correlationId x.endpoint response)
          e.fail x error) tr' r at h
    by_cases hok : 200 ≤ response.statusCode ∧ response.statusCode < 300
    · rw [if_pos hok] at h
      have hdone := complete_always e x attempt response
      rw [retried_success hok, if_neg Bool.false_ne_true, sends_send,
        sends_eq_nil (hdone.events h), hdone.result h, outcomeResult, if_pos hok]
      exact ⟨rfl, rfl⟩
    · rw [if_neg hok] at h
      have hfailure : (do
          let error ← Prog.ofExcept (e.mapError x.options x.correlationId x.endpoint response)
          e.fail x error : Py RawResponse).Always isLocal
            (· = outcomeResult e x (.response response)) := by
        rw [outcomeResult, if_neg hok]
        cases e.mapError x.options x.correlationId x.endpoint response with
        | ok error => exact fail_always e x error
        | error error => rfl
      exact lift (retryOr_emits e x hfailure h) (by simp [retried, transientOutcome]) rfl

/-! ## 3. The whole loop -/

/-- The loop, entered with this attempt counter, meets these outcomes and ends in `r`. -/
inductive LoopRun : ℕ → List TransportOutcome → Except PyError RawResponse → Prop where
  | last {attempt : ℕ} {outcome : TransportOutcome}
      (h : retried e x.options attempt outcome = false) :
      LoopRun attempt [outcome] (outcomeResult e x outcome)
  | again {attempt : ℕ} {outcome : TransportOutcome} {outcomes : List TransportOutcome}
      {r : Except PyError RawResponse} (h : retried e x.options attempt outcome = true)
      (rest : LoopRun (attempt + 1) outcomes r) : LoopRun attempt (outcome :: outcomes) r

variable {e x}

theorem LoopRun.ne_nil {attempt : ℕ} {outcomes : List TransportOutcome}
    {r : Except PyError RawResponse} (h : LoopRun e x attempt outcomes r) : outcomes ≠ [] := by
  cases h <;> exact List.cons_ne_nil _ _

/-- The last outcome decides the result, and every outcome before it was transient. -/
theorem LoopRun.split {attempt : ℕ} {outcomes : List TransportOutcome}
    {r : Except PyError RawResponse} (h : LoopRun e x attempt outcomes r) :
    ∃ earlier final, outcomes = earlier ++ [final] ∧ r = outcomeResult e x final ∧
      ∀ outcome ∈ earlier, canReplay x.options = true ∧ transientOutcome outcome = true := by
  induction h with
  | last h => exact ⟨[], _, rfl, rfl, by simp⟩
  | @again _ outcome _ _ h rest ih =>
    obtain ⟨earlier, final, rfl, hr, htransient⟩ := ih
    refine ⟨outcome :: earlier, final, rfl, hr, ?_⟩
    rw [retried, Bool.and_eq_true, Bool.and_eq_true] at h
    intro o ho
    rcases List.mem_cons.mp ho with rfl | ho
    · exact h.2
    · exact htransient o ho

/-- Without a replayable operation the loop sends once. -/
theorem LoopRun.single {attempt : ℕ} {outcomes : List TransportOutcome}
    {r : Except PyError RawResponse} (h : LoopRun e x attempt outcomes r)
    (hreplay : canReplay x.options = false) : ∃ outcome, outcomes = [outcome] := by
  cases h with
  | last h => exact ⟨_, rfl⟩
  | again h rest =>
    rw [retried, hreplay, Bool.false_and, Bool.and_false] at h
    exact nomatch h

variable (e x)

/-- Once the attempts are used up, the next iteration plays no role. -/
theorem loopBody_limit {attempt : ℕ} (h : e.retryPolicy.config.maxAttempts ≤ attempt)
    (again again' : Py RawResponse) : e.loopBody x attempt again = e.loopBody x attempt again' := by
  have hdecide (status : Option ℤ) (transportError : Bool) :
      e.retryPolicy.decide attempt x.options.safety status transportError
        x.options.idempotencyKey.isSome =
          .ret { shouldRetry := false, reason := "attempt_limit" } := if_pos h
  refine congrArg (Prog.call _) (funext fun outcome => ?_)
  cases outcome with
  | timeoutError => simp only [Prog.bind, hdecide, Prog.ret_bind, RequestEngine.retryOr]; rfl
  | networkError => simp only [Prog.bind, hdecide, Prog.ret_bind, RequestEngine.retryOr]; rfl
  | response response => simp only [Prog.bind, hdecide, Prog.ret_bind, RequestEngine.retryOr]; rfl

/-- `sendLoop` is the unbounded loop of the source. -/
theorem sendLoop_eq (attempt : ℕ) :
    e.sendLoop x attempt = e.loopBody x attempt (e.sendLoop x (attempt + 1)) := by
  unfold RequestEngine.sendLoop
  by_cases h : attempt < e.retryPolicy.config.maxAttempts
  · rw [show e.retryPolicy.config.maxAttempts - attempt =
      (e.retryPolicy.config.maxAttempts - (attempt + 1)) + 1 by omega]
    rfl
  · rw [show e.retryPolicy.config.maxAttempts - attempt = 0 by omega]
    exact loopBody_limit e x (by omega) _ _

theorem sendLoop_emits {attempt : ℕ} {tr : List (Event effects)} {r : Except PyError RawResponse}
    (h : (e.sendLoop x attempt).Emits tr r) :
    ∃ outcomes, LoopRun e x attempt outcomes r ∧
      sends tr = outcomes.map (⟨x.purpose, x.request, ·⟩) := by
  -- Induction on the attempts left; the equation of the loop holds at every counter.
  obtain ⟨left, hleft⟩ : ∃ left, e.retryPolicy.config.maxAttempts - attempt = left := ⟨_, rfl⟩
  induction left generalizing attempt tr with
  | zero =>
    rw [sendLoop_eq] at h
    obtain ⟨outcome, hbody⟩ := loopBody_emits e x h
    have hlast : retried e x.options attempt outcome = false := by
      have : ¬ attempt < e.retryPolicy.config.maxAttempts := by omega
      simp [retried, this]
    rw [hlast, if_neg Bool.false_ne_true] at hbody
    obtain ⟨hsends, rfl⟩ := hbody
    exact ⟨[outcome], .last hlast, hsends⟩
  | succ left ih =>
    rw [sendLoop_eq] at h
    obtain ⟨outcome, hbody⟩ := loopBody_emits e x h
    by_cases hagain : retried e x.options attempt outcome = true
    · rw [if_pos hagain] at hbody
      obtain ⟨tr₁, tr₂, rfl, hsends, hrest⟩ := hbody
      obtain ⟨outcomes, hrun, hrestSends⟩ := ih hrest (by omega)
      exact ⟨outcome :: outcomes, .again hagain hrun, by rw [sends_append, hsends, hrestSends]; rfl⟩
    · rw [if_neg hagain] at hbody
      obtain ⟨hsends, rfl⟩ := hbody
      exact ⟨[outcome], .last (Bool.eq_false_iff.mpr hagain), hsends⟩

/-! ## 4. One execution -/

theorem loopBody_only {attempt : ℕ} {again : Py RawResponse}
    (hagain : again.Only (isRequest x.purpose)) :
    (e.loopBody x attempt again).Only (isRequest x.purpose) := by
  -- everything but the send is local
  have widen {α : Type} {p : Py α} {Q : Except PyError α → Prop} (h : p.Always isLocal Q) :
      p.Only (isRequest x.purpose) :=
    h.only.mono fun _ => isRequest_of_isLocal
  have retry {status : Option ℤ} {transportError : Bool} {failure : Py RawResponse}
      (hfailure : failure.Only (isRequest x.purpose)) :
      Prog.Only (isRequest x.purpose) (do
        let decision ← e.retryPolicy.decide attempt x.options.safety status transportError
          x.options.idempotencyKey.isSome
        e.retryOr x attempt decision again failure) := by
    refine (widen (decide_always _ _ _ _ _)).bind fun d => ?_
    unfold RequestEngine.retryOr
    split
    · exact (widen (emit_always e.logger e.rt _ _ _)).bind fun _ => ⟨trivial, fun _ => hagain⟩
    · exact hfailure
  refine ⟨rfl, fun outcome => ?_⟩
  cases outcome with
  | timeoutError => exact retry (widen (fail_always e x _))
  | networkError => exact retry (widen (fail_always e x _))
  | response response =>
    show Prog.Only _ (if _ then _ else _)
    split
    · exact widen (complete_always e x attempt response)
    · apply retry
      cases e.mapError x.options x.correlationId x.endpoint response with
      | ok error => exact widen (fail_always e x error)
      | error error => trivial

theorem sendLoop_only (attempt : ℕ) : (e.sendLoop x attempt).Only (isRequest x.purpose) := by
  unfold RequestEngine.sendLoop
  induction e.retryPolicy.config.maxAttempts - attempt generalizing attempt with
  | zero => exact loopBody_only e x trivial
  | succ left ih => exact loopBody_only e x (ih _)

end Loop

theorem correlationId_always (options : RequestOptions) :
    (RequestEngine.correlationId options).Always isLocal (∃ id, · = .ok id) := by
  unfold RequestEngine.correlationId
  split
  · exact ⟨_, rfl⟩
  · exact ⟨trivial, fun id => ⟨id, rfl⟩⟩

theorem execute_only (e : RequestEngine) (purpose : Purpose) (options : RequestOptions) :
    (e.execute purpose options).Only (isRequest purpose) := by
  unfold RequestEngine.execute
  have hcorrelation := (correlationId_always options).only.mono
    fun _ h => (isRequest_of_isLocal h : isRequest purpose _)
  refine hcorrelation.bind fun correlationId => ?_
  refine Prog.Only.bind (by simp) fun endpoint => ?_
  refine Prog.always_perform_bind.mpr ⟨trivial, fun started => ?_⟩
  refine Prog.Only.bind ?_ fun _ => sendLoop_only e ⟨purpose, _, _, _, _, _⟩ 1
  exact (emit_always e.logger e.rt _ _ _).only.mono fun _ => isRequest_of_isLocal

/-- An execution either stops at the endpoint check, without a send, or is one run of the loop. -/
theorem execute_emits {e : RequestEngine} {purpose : Purpose} {options : RequestOptions}
    {tr : List (Event effects)} {r : Except PyError RawResponse}
    (h : (e.execute purpose options).Emits tr r) :
    (∃ error, e.validatedEndpoint options.path = .error error ∧ r = .error error ∧
      sends tr = []) ∨
    (∃ correlationId endpoint started outcomes,
      e.validatedEndpoint options.path = .ok endpoint ∧
      LoopRun e ⟨purpose, options, correlationId, endpoint,
        e.transportRequest options correlationId endpoint, started⟩ 1 outcomes r ∧
      sends tr = outcomes.map
        (⟨purpose, e.transportRequest options correlationId endpoint, ·⟩)) := by
  -- nothing is sent before the loop
  unfold RequestEngine.execute at h
  have hcorrelation := correlationId_always options
  rcases Prog.emits_bind.mp h with ⟨correlationId, tr₁, tr₂, rfl, h₁, h₂⟩ | ⟨error, h₁, -⟩
  · have hlocal₁ := sends_eq_nil (hcorrelation.events h₁)
    -- a refused endpoint ends the call before its first record
    cases hendpoint : e.validatedEndpoint options.path with
    | error error =>
      rw [hendpoint] at h₂
      obtain ⟨rfl, rfl⟩ := h₂
      refine .inl ⟨error, rfl, rfl, ?_⟩
      rw [sends_append, hlocal₁, sends_nil, List.append_nil]
    | ok endpoint =>
      rw [hendpoint] at h₂
      rw [Prog.ofExcept_ok, Prog.ret_bind] at h₂
      obtain ⟨started, tr₃, rfl, h₃⟩ := Prog.emits_perform_bind.mp h₂
      have hlog := emit_always e.logger e.rt .info .requestStarted
        [("service", .str options.service.value), ("operation", .str options.operation),
          ("method", .str (e.rt.upper options.method)), ("endpoint", .str endpoint),
          ("correlation_id", .str correlationId)]
      rcases Prog.emits_bind.mp h₃ with ⟨u, tr₄, tr₅, rfl, h₄, h₅⟩ | ⟨error, h₄, -⟩
      · obtain ⟨outcomes, hrun, hsends⟩ := sendLoop_emits e _ h₅
        refine .inr ⟨correlationId, endpoint, started, outcomes, rfl, hrun, ?_⟩
        rw [sends_append, hlocal₁, sends_cons, sends_append, sends_eq_nil (hlog.events h₄), hsends]
        rfl
      · exact nomatch hlog.result h₄
  · obtain ⟨id, hid⟩ := hcorrelation.result h₁
    exact nomatch hid

end JibitSdk.Guarantees
