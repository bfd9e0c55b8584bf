import JibitSdk.Guarantees.Submission

/-!
# What a finished call says about the provider's answers

The result of an execution is decided by its last send.  A 2xx answer to the last operation send is
the result of the call; anything else ends in the error of that send, of a refused recovery, or of
a check made before anything was sent.
-/

namespace JibitSdk.Guarantees

open JibitSdk.Python JibitSdk.Reasoning JibitSdk.Sdk

/-! ## 1. Successful answers -/

/-- The response of a 2xx outcome. -/
def accepted : TransportOutcome → Option TransportResponse
  | .response response =>
    if 200 ≤ response.statusCode ∧ response.statusCode < 300 then some response else none
  | .timeoutError | .networkError => none

theorem accepted_eq {outcome : TransportOutcome} {response : TransportResponse}
    (h : accepted outcome = some response) : outcome = .response response := by
  cases outcome with
  | timeoutError => exact nomatch h
  | networkError => exact nomatch h
  | response response' =>
    rw [accepted] at h
    split at h
    · cases h
      rfl
    · exact nomatch h

theorem not_transient_of_accepted {outcome : TransportOutcome} {response : TransportResponse}
    (h : accepted outcome = some response) : transientOutcome outcome = false := by
  have houtcome := accepted_eq h
  subst houtcome
  rw [transientOutcome, List.contains_eq_mem, decide_eq_false_iff_not]
  intro hmem
  rw [accepted] at h
  split at h
  · simp only [transientStatusCodes, List.mem_cons, List.not_mem_nil, or_false] at hmem
    omega
  · cases h

/-- The raw response the engine hands on. -/
def rawResponse (response : TransportResponse) (correlationId : String) : RawResponse :=
  ⟨response.statusCode, response.headers, response.content, correlationId⟩

section

variable {rt : Runtime} {response : TransportResponse} {id : String}

theorem json_of_loads {value : Json} (h : rt.jsonLoads response.content = .ok value) :
    (rawResponse response id).json rt = .ok value := by
  unfold RawResponse.json
  rw [show rt.jsonLoads (rawResponse response id).content = _ from h]

theorem json_undecodable {e : BuiltinError} (he : e = .unicodeDecodeError ∨ e = .jsonDecodeError)
    (h : rt.jsonLoads response.content = .error e) :
    (rawResponse response id).json rt =
      .error (.jibit (.new rt .response "The upstream response is not valid JSON"
        { statusCode := some response.statusCode, correlationId := some id })) := by
  unfold RawResponse.json
  rw [show rt.jsonLoads (rawResponse response id).content = _ from h]
  exact if_pos he

/-- What `json.loads` raises besides is not caught. -/
theorem json_raises {e : BuiltinError} (he : ¬ (e = .unicodeDecodeError ∨ e = .jsonDecodeError))
    (h : rt.jsonLoads response.content = .error e) :
    (rawResponse response id).json rt = .error (.builtin e) := by
  unfold RawResponse.json
  rw [show rt.jsonLoads (rawResponse response id).content = _ from h]
  exact if_neg he

end

/-- The 2xx answer to the last send made for the operation. -/
def acceptedAnswer (tr : List (Event effects)) : Option TransportResponse :=
  (operationSends tr).getLast?.bind fun sent => accepted sent.outcome

/-- A result that agrees with the last answer: that answer handed on, or an error if it was none. -/
def Agrees (answer : Option TransportResponse) (r : Except PyError RawResponse) : Prop :=
  match answer with
  | some response => ∃ correlationId, r = .ok (rawResponse response correlationId)
  | none => ∃ error, r = .error error

theorem outcomeResult_agrees (e : RequestEngine) (x : RequestEngine.Exchange)
    (outcome : TransportOutcome) : Agrees (accepted outcome) (outcomeResult e x outcome) := by
  cases outcome with
  | timeoutError => exact ⟨_, rfl⟩
  | networkError => exact ⟨_, rfl⟩
  | response response =>
    by_cases hok : 200 ≤ response.statusCode ∧ response.statusCode < 300
    · rw [accepted, outcomeResult, if_pos hok, if_pos hok]
      exact ⟨x.correlationId, rfl⟩
    · rw [accepted, outcomeResult, if_neg hok, if_neg hok]
      cases e.mapError x.options x.correlationId x.endpoint response <;> exact ⟨_, rfl⟩

theorem bodyFields_error {e : RequestEngine} {response : TransportResponse} {error : PyError}
    (h : e.bodyFields response = .error error) : ∃ b, error = .builtin b := by
  unfold RequestEngine.bodyFields at h
  split at h
  · exact nomatch h
  · split at h
    · exact nomatch h
    · exact nomatch h
    · split at h
      · exact nomatch h
      · cases h
        exact ⟨_, rfl⟩

/-- The last send of an execution, and the result read off it. -/
theorem execute_agrees {e : RequestEngine} {purpose : Purpose} {options : RequestOptions}
    {tr : List (Event effects)} {r : Except PyError RawResponse}
    (h : (e.execute purpose options).Emits tr r) :
    Agrees ((sends tr).getLast?.bind fun sent => accepted sent.outcome) r := by
  rcases execute_emits h with ⟨error, -, rfl, hsends⟩ | ⟨_, _, _, outcomes, -, hrun, hsends⟩
  · rw [hsends]
    exact ⟨error, rfl⟩
  · obtain ⟨earlier, final, rfl, rfl, -⟩ := hrun.split
    rw [hsends, List.map_append, List.map_singleton, List.getLast?_concat]
    exact outcomeResult_agrees e _ final

/-! ## 2. Executors -/

/-- A replayed request was sent at least once: the path it goes to has passed its check before. -/
theorem replayed_sends_ne_nil {x : AuthenticatedRequestEngine} {options : RequestOptions}
    {token replacement : TokenState} {tr₁ tr₂ : List (Event effects)}
    {r₁ r₂ : Except PyError RawResponse} (h₁ : (x.sendWith options token).Emits tr₁ r₁)
    (hr : replays options r₁ = true) (h₂ : (x.sendWith options replacement).Emits tr₂ r₂) :
    sends tr₂ ≠ [] := by
  rcases execute_emits h₂ with ⟨error, hbad, -, -⟩ | ⟨_, _, _, outcomes, -, hrun, hsends⟩
  · exfalso
    rcases execute_emits h₁ with ⟨error', hbad', rfl, -⟩ | ⟨_, endpoint, _, _, hgood, -, -⟩
    · unfold RequestEngine.validatedEndpoint at hbad'
      split at hbad'
      · cases hbad'
        exact nomatch hr
      · split at hbad' <;> cases hbad'
        exact nomatch hr
    · exact nomatch hbad.symm.trans hgood
  · rw [hsends]
    exact fun hnil => hrun.ne_nil (List.map_eq_nil_iff.mp hnil)

theorem authenticated_agrees {x : AuthenticatedRequestEngine} {options : RequestOptions}
    {tr : List (Event effects)} {r : Except PyError RawResponse}
    (h : (x.execute options).Emits tr r) : Agrees (acceptedAnswer tr) r := by
  have hget := getToken_only x.authenticator
  have hrecover := recoverFromUnauthorized_only x.authenticator
  unfold acceptedAnswer
  cases authenticated_emits h with
  | noToken htoken =>
    rw [operationSends_eq_nil (hget.events htoken)]
    exact ⟨_, rfl⟩
  | once htoken hsend hr hrest =>
    rw [operationSends_append, operationSends_append, operationSends_eq_nil (hget.events htoken),
      operationSends_execute hsend, operationSends_of_deletes hrest, List.append_nil]
    exact execute_agrees hsend
  | unrecovered htoken hsend hr h' =>
    rw [operationSends_append, operationSends_append, operationSends_eq_nil (hget.events htoken),
      operationSends_execute hsend, operationSends_eq_nil ((hrecover _).events h'),
      List.append_nil]
    have hfirst := execute_agrees hsend
    rw [List.nil_append]
    -- The first result is an error, so its last answer was none to hand on.
    cases hlast : (sends _).getLast?.bind fun sent => accepted sent.outcome with
    | none => exact ⟨_, rfl⟩
    | some response =>
      rw [hlast] at hfirst
      obtain ⟨id, rfl⟩ := hfirst
      exact nomatch hr
  | replayed htoken hsend hr h' hreplay =>
    rcases replay_emits hreplay with ⟨tr', hsend', hsends⟩
    rw [operationSends_append, operationSends_congr hsends, operationSends_execute hsend',
      List.getLast?_append_of_ne_nil _ (replayed_sends_ne_nil hsend hr hsend')]
    exact execute_agrees hsend'

/-- The result of an executor is the 2xx answer to its last send, or an error. -/
theorem executor_agrees {x : RequestExecutor} {options : RequestOptions}
    {tr : List (Event effects)} {r : Except PyError RawResponse}
    (h : (x.execute options).Emits tr r) : Agrees (acceptedAnswer tr) r := by
  cases x with
  | authenticated x => exact authenticated_agrees h
  | staticBearer x =>
    rw [acceptedAnswer, operationSends_execute h]
    exact execute_agrees h

end JibitSdk.Guarantees
