import JibitSdk.Guarantees.Costs
import JibitSdk.Guarantees.Rejection
import JibitSdk.Guarantees.Answers

/-!
# Bounded recovery

An execution submits its operation in at most two blocks, one for each token it obtains.  The second
block exists exactly when the first one was refused with a 401, the operation may be repeated and a
replacement was obtained.
-/

namespace JibitSdk.Guarantees

open JibitSdk.Python JibitSdk.Reasoning JibitSdk.Sdk

/-! ## 1. How many sends -/

/-- Sends counted. -/
def sendCount : Effect → ℕ
  | .send _ _ => 1
  | _ => 0

theorem traceCost_sendCount (tr : List (Event effects)) :
    traceCost (S := effects) sendCount tr = (sends tr).length := by
  induction tr with
  | nil => rfl
  | cons ev tr ih =>
    rw [traceCost_cons, ih, sends_cons ev tr, List.length_append]
    obtain ⟨o, answer⟩ := ev
    cases o <;> rfl

theorem sendCount_prices (e : RequestEngine) : Prices sendCount e 1 0 where
  send _ _ _ := le_refl 1
  pause _ _ := le_refl 0
  free o h := by cases o <;> first | rfl | exact h.elim
  perSend_nonneg := Nat.zero_le 1
  perPause_nonneg := Nat.zero_le 0

theorem requestBudget_sends (e : RequestEngine) :
    requestBudget e 1 0 = e.retryPolicy.config.maxAttempts := by
  simp [requestBudget]

/-- One execution sends at most `max_attempts` times. -/
theorem execute_sends_le {e : RequestEngine} {purpose : Purpose} {options : RequestOptions}
    {tr : List (Event effects)} {r : Except PyError RawResponse}
    (h : (e.execute purpose options).Emits tr r) :
    (sends tr).length ≤ e.retryPolicy.config.maxAttempts := by
  have hcost := (execute_within (sendCount_prices e) purpose options).emits h
  rw [traceCost_sendCount, requestBudget_sends] at hcost
  exact hcost

theorem authenticated_sends_le {x : AuthenticatedRequestEngine} {options : RequestOptions}
    {tr : List (Event effects)} {r : Except PyError RawResponse}
    (h : (x.execute options).Emits tr r) :
    (sends tr).length ≤ 2 * x.engine.retryPolicy.config.maxAttempts +
      4 * x.authenticator.engine.retryPolicy.config.maxAttempts := by
  have hcost := (authenticated_within (sendCount_prices x.engine)
    (sendCount_prices x.authenticator.engine) options).emits h
  rw [traceCost_sendCount, requestBudget_sends, requestBudget_sends, two_nsmul] at hcost
  omega

/-! ## 2. What a replay may change -/

/-- The headers that do not depend on the token or on the execution. -/
def isStable (name : String) : Bool := name ≠ "Authorization" && name ≠ "X-Correlation-ID"

def stableHeaders (headers : List (String × String)) : List (String × String) :=
  headers.filter fun h => isStable h.1

theorem stableHeaders_setHeader (headers : List (String × String)) {name : String} (value : String)
    (h : isStable name = false) :
    stableHeaders (setHeader headers name value) = stableHeaders headers := by
  have hmap : ∀ rest : List (String × String),
      stableHeaders (rest.map fun h => if h.1 = name then (name, value) else h) =
        stableHeaders rest := by
    intro rest
    induction rest with
    | nil => rfl
    | cons head rest ih =>
      rw [stableHeaders, List.map_cons, List.filter_cons, stableHeaders, List.filter_cons]
      by_cases hname : head.1 = name
      · rw [if_pos hname, hname, h]
        exact ih
      · rw [if_neg hname]
        exact congrArg (fun tail => if isStable head.1 = true then head :: tail else tail) ih
  unfold setHeader
  split
  · exact hmap headers
  · rw [stableHeaders, List.filter_append, List.filter_cons, h]
    exact List.append_nil _

theorem stableHeaders_setdefault (headers : List (String × String)) {name : String} (value : String)
    (h : isStable name = false) :
    stableHeaders (setdefault headers name value) = stableHeaders headers := by
  unfold setdefault
  split
  · rfl
  · rw [stableHeaders, List.filter_append, List.filter_cons, h]
    exact List.append_nil _

theorem lookup_stableHeaders (headers : List (String × String)) {name : String}
    (h : isStable name = true) : (stableHeaders headers).lookup name = headers.lookup name := by
  induction headers with
  | nil => rfl
  | cons head rest ih =>
    rw [stableHeaders, List.filter_cons]
    by_cases hname : head.1 = name
    · rw [hname, if_pos h, List.lookup_cons, List.lookup_cons, hname, beq_self_eq_true]
    · have hskip : (name == head.1) = false := beq_eq_false_iff_ne.mpr (Ne.symm hname)
      rw [List.lookup_cons, hskip]
      split
      · rw [List.lookup_cons, hskip]
        exact ih
      · exact ih

theorem stableHeaders_setdefault_stable (headers : List (String × String)) {name : String}
    (value : String) (h : isStable name = true) :
    stableHeaders (setdefault headers name value) = setdefault (stableHeaders headers)
    name value := by
  unfold setdefault
  rw [lookup_stableHeaders headers h]
  split
  · rfl
  · rw [stableHeaders, List.filter_append, List.filter_cons, h]
    rfl

/-- The stable headers of a request are those of its options: neither the token nor the correlation
    id shows. -/
theorem stableHeaders_request (options : RequestOptions) (tokenType access id : String) :
    stableHeaders (RequestEngine.requestHeaders (authorize options tokenType access) id) =
      match options.idempotencyKey with
      | some key => setdefault (setdefault (stableHeaders options.headers) "Accept"
          "application/json") "Idempotency-Key" key
      | none => setdefault (stableHeaders options.headers) "Accept" "application/json" := by
  have hcommon : stableHeaders (setdefault (setdefault (authorize options tokenType access).headers
      "Accept" "application/json") "X-Correlation-ID" id) =
        setdefault (stableHeaders options.headers) "Accept" "application/json" := by
    rw [stableHeaders_setdefault _ _ (by decide), stableHeaders_setdefault_stable _ _ (by decide),
      authorize, stableHeaders_setHeader _ _ (by decide)]
  unfold RequestEngine.requestHeaders
  show stableHeaders (match options.idempotencyKey with
    | some key => setdefault _ "Idempotency-Key" key
    | none => _) = _
  cases options.idempotencyKey with
  | none => exact hcommon
  | some key =>
    show stableHeaders (setdefault _ "Idempotency-Key" key) = _
    rw [stableHeaders_setdefault_stable _ _ (by decide), hcommon]

/-- Two requests that differ at most in `Authorization` and `X-Correlation-ID`. -/
def SameRequest (r r' : TransportRequest) : Prop :=
  r' = { r with headers := r'.headers } ∧ stableHeaders r'.headers = stableHeaders r.headers

/-! ## 3. The blocks of an execution -/

/-- A send for the operation with this token. -/
def SentWith (token : TokenState) (s : Sent) : Prop :=
  s.purpose = .operation token.accessValue ∧
    s.request.headers.lookup "Authorization" = some (token.tokenType ++ " " ++ token.accessValue)

/-- The first sends ended in a 401. -/
def endsUnauthorized (block : List Sent) : Bool :=
  block.getLast?.any fun s => unauthorized s.outcome

section Blocks
variable {x : AuthenticatedRequestEngine} {options : RequestOptions}

theorem sendWith_block {token : TokenState} {tr : List (Event effects)}
    {r : Except PyError RawResponse} (h : (x.sendWith options token).Emits tr r) :
    ∀ s ∈ sends tr, SentWith token s ∧ ∃ id endpoint,
      x.engine.validatedEndpoint options.path = .ok endpoint ∧
      s.request = x.engine.transportRequest
        (authorize options token.tokenType token.accessValue) id endpoint := by
  rcases execute_emits h with ⟨error, -, -, hsends⟩ | ⟨id, endpoint, _, outcomes, hpath, -, hsends⟩
  · rw [hsends]
    exact fun s hs => absurd hs List.not_mem_nil
  · rw [hsends]
    intro s hs
    obtain ⟨outcome, -, rfl⟩ := List.mem_map.mp hs
    exact ⟨⟨rfl, sent_authorization _ _ _ _ _ _⟩, id, endpoint, hpath, rfl⟩

/-- Blocks of one operation with two tokens. -/
theorem sameRequest_of_blocks {token replacement : TokenState} {tr tr' : List (Event effects)}
    {r r' : Except PyError RawResponse} (h : (x.sendWith options token).Emits tr r)
    (h' : (x.sendWith options replacement).Emits tr' r') :
    ∀ s ∈ sends tr, ∀ s' ∈ sends tr', SameRequest s.request s'.request := by
  intro s hs s' hs'
  obtain ⟨-, id, endpoint, hpath, hreq⟩ := sendWith_block h s hs
  obtain ⟨-, id', endpoint', hpath', hreq'⟩ := sendWith_block h' s' hs'
  have hsame : endpoint' = endpoint := Except.ok.inj (hpath'.symm.trans hpath)
  rw [hreq, hreq', hsame]
  refine ⟨rfl, ?_⟩
  exact (stableHeaders_request options _ _ id').trans (stableHeaders_request options _ _ id).symm

/-- A first block that makes the execution recover was refused with a 401. -/
theorem endsUnauthorized_of_replays {token : TokenState} {tr : List (Event effects)}
    {r : Except PyError RawResponse} (h : (x.sendWith options token).Emits tr r)
    (hr : replays options r = true) :
    endsUnauthorized (sends tr) = true ∧ canReplay options = true := by
  have hdenied : denied r = true ∧ canReplay options = true := by
    cases r with
    | ok response => exact nomatch hr
    | error error => exact (Bool.and_eq_true _ _).mp hr
  refine ⟨?_, hdenied.2⟩
  rcases execute_emits h with ⟨error, hpath, rfl, -⟩ | ⟨_, _, _, outcomes, -, hrun, hsends⟩
  · exact nomatch (denied_endpoint (x := x) hpath).symm.trans hdenied.1
  · obtain ⟨earlier, final, rfl, hfinal, -⟩ := hrun.split
    have hboth := hdenied.1
    rw [hfinal, denied_outcome, Bool.and_eq_true] at hboth
    rw [endsUnauthorized, hsends, List.map_append, List.map_singleton, List.getLast?_concat]
    exact hboth.1

/-- The parts of one execution: `get_token`, the first block, the recovery if there was one, and the
    second block. -/
structure BoundedRecovery (x : AuthenticatedRequestEngine) (options : RequestOptions)
    (tr getting first recovering second : List (Event effects))
    (issued : Except PyError TokenState) (recovered : Option (Except PyError TokenState)) :
    Prop where
  parts : tr = getting ++ first ++ recovering ++ second
  issuance : x.authenticator.getToken.Emits getting issued
  /-- Without a recovery the cached token is dropped at most. -/
  recovery : match recovered with
    | none => ∀ ev ∈ recovering, ∃ key, ev.op = .storeDelete key
    | some outcome => ∃ token, issued = .ok token ∧
        (x.authenticator.recoverFromUnauthorized token.accessValue).Emits recovering outcome
  submissions : operationSends tr = sends first ++ sends second
  first_block : ∀ s ∈ sends first, ∃ token, issued = .ok token ∧ SentWith token s
  first_le : (sends first).length ≤ x.engine.retryPolicy.config.maxAttempts
  second_block : ∀ s ∈ sends second, ∃ token, recovered = some (.ok token) ∧ SentWith token s
  second_le : (sends second).length ≤ x.engine.retryPolicy.config.maxAttempts
  second_iff : sends second ≠ [] ↔ endsUnauthorized (sends first) = true ∧
    canReplay options = true ∧ ∃ token, recovered = some (.ok token)
  same : ∀ s ∈ sends first, ∀ s' ∈ sends second, SameRequest s.request s'.request
  total_le : (sends tr).length ≤ 2 * x.engine.retryPolicy.config.maxAttempts +
    4 * x.authenticator.engine.retryPolicy.config.maxAttempts

theorem authenticated_blocks {tr : List (Event effects)} {r : Except PyError RawResponse}
    (h : (x.execute options).Emits tr r) :
    ∃ getting first recovering second issued recovered,
      BoundedRecovery x options tr getting first recovering second issued recovered := by
  have htotal := authenticated_sends_le h
  have hget := getToken_only x.authenticator
  have hrecover := recoverFromUnauthorized_only x.authenticator
  have nothing {P : Sent → Prop} : ∀ s ∈ sends [], P s := fun s hs => absurd hs List.not_mem_nil
  have hnil : (sends []).length ≤ x.engine.retryPolicy.config.maxAttempts := Nat.zero_le _
  cases authenticated_emits h with
  | @noToken _ error htoken =>
    refine ⟨tr, [], [], [], .error error, none, ?_, htoken, fun ev hev =>
      absurd hev List.not_mem_nil,
      ?_, nothing, hnil, nothing, hnil, ?_, nothing, htotal⟩
    · simp only [List.append_nil]
    · exact operationSends_eq_nil (hget.events htoken)
    · exact ⟨fun h => absurd rfl h, fun ⟨_, _, token, htoken⟩ => nomatch htoken⟩
  | @once tr₀ tr₁ tr₂ token _ htoken hsend hr hrest =>
    refine ⟨tr₀, tr₁, tr₂, [], .ok token, none, ?_, htoken, hrest, ?_, ?_, execute_sends_le hsend,
      nothing, hnil, ?_, fun s hs => nothing, htotal⟩
    · rw [List.append_nil]
    · rw [operationSends_append, operationSends_append, operationSends_eq_nil (hget.events htoken),
        operationSends_execute hsend, operationSends_of_deletes hrest]
      rfl
    · exact fun s hs => ⟨token, rfl, (sendWith_block hsend s hs).1⟩
    · exact ⟨fun h => absurd rfl h, fun ⟨_, _, token, htoken⟩ => nomatch htoken⟩
  | @unrecovered tr₀ tr₁ tr₂ token _ error htoken hsend hr hfailed =>
    refine ⟨tr₀, tr₁, tr₂, [], .ok token, some (.error error), ?_, htoken,
      ⟨token, rfl, hfailed⟩, ?_, ?_,
      execute_sends_le hsend, nothing, hnil, ?_, fun s hs => nothing, htotal⟩
    · rw [List.append_nil]
    · rw [operationSends_append, operationSends_append, operationSends_eq_nil (hget.events htoken),
        operationSends_execute hsend, operationSends_eq_nil (hrecover _ |>.events hfailed)]
      rfl
    · exact fun s hs => ⟨token, rfl, (sendWith_block hsend s hs).1⟩
    · exact ⟨fun h => absurd rfl h, fun ⟨_, _, token, htoken⟩ => nomatch htoken⟩
  | @replayed tr₀ tr₁ tr₂ tr₃ token replacement _ _ htoken hsend hr hrecovered hreplay =>
    obtain ⟨tr', hagain, hsame⟩ := replay_emits hreplay
    have hops : operationSends tr₃ = sends tr₃ := by
      rw [operationSends_congr hsame, operationSends_execute hagain, hsame]
    refine ⟨tr₀, tr₁, tr₂, tr₃, .ok token, some (.ok replacement), rfl, htoken,
      ⟨token, rfl, hrecovered⟩, ?_, ?_, execute_sends_le hsend, ?_, ?_, ?_, ?_, htotal⟩
    · rw [operationSends_append, operationSends_append, operationSends_append,
        operationSends_eq_nil (hget.events htoken), operationSends_execute hsend,
        operationSends_eq_nil (hrecover _ |>.events hrecovered), hops, List.append_nil,
        List.nil_append]
    · exact fun s hs => ⟨token, rfl, (sendWith_block hsend s hs).1⟩
    · rw [hsame]
      exact fun s hs => ⟨replacement, rfl, (sendWith_block hagain s hs).1⟩
    · rw [hsame]
      exact execute_sends_le hagain
    · have hfirst := endsUnauthorized_of_replays hsend hr
      rw [hsame]
      exact ⟨fun _ => ⟨hfirst.1, hfirst.2, replacement, rfl⟩,
        fun _ => replayed_sends_ne_nil hsend hr hagain⟩
    · rw [hsame]
      exact sameRequest_of_blocks hsend hagain

end Blocks

/-- Whatever the store, the locks, the clocks and the provider answer, an execution ends;
    its loop is the unbounded one of the source, and its sends are bounded and lie in at
    most two blocks.  The client builds both executors on one engine, so six times its
    `max_attempts` bounds them all. -/
theorem execute_recovers_at_most_once {σ : Type} (x : AuthenticatedRequestEngine)
    (options : RequestOptions) (handler : Handler σ) (s : σ) :
    (∃ getting first recovering second issued recovered,
      BoundedRecovery x options ((x.execute options).exec (S := effects) handler s).1
        getting first recovering second issued recovered) ∧
    (x.authenticator.engine = x.engine →
      (sends ((x.execute options).exec (S := effects) handler s).1).length ≤
        6 * x.engine.retryPolicy.config.maxAttempts) ∧
    ∀ (e : RequestEngine) (y : RequestEngine.Exchange) (attempt : ℕ),
      e.sendLoop y attempt = e.loopBody y attempt (e.sendLoop y (attempt + 1)) := by
  have hrun := Prog.exec_emits (S := effects) handler (x.execute options) s
  refine ⟨authenticated_blocks hrun, fun hshared => ?_, sendLoop_eq⟩
  have htotal := authenticated_sends_le hrun
  rw [hshared] at htotal
  omega

end JibitSdk.Guarantees
