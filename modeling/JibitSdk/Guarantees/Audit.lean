import JibitSdk.Guarantees.Answers

/-!
# What audit events say

Every audited call is one execution of its executor, a reading of the response, and an audit event
for one of the two.  Which of the two is reported differs: the Payment Gateway reports the reading,
the wrapped services report the execution.
-/

namespace JibitSdk.Guarantees

open JibitSdk.Python JibitSdk.Reasoning JibitSdk.Sdk

/-! ## 1. Executors do not audit -/

/-- Everything but an audit event. -/
def isUnaudited : Effect → Prop
  | .emitAudit _ => False
  | _ => True

theorem isUnaudited_of_isTokenWork {o : Effect} (h : isTokenWork o) : isUnaudited o := by
  cases o <;> first | exact h | trivial

theorem isUnaudited_of_isRequest {purpose : Purpose} {o : Effect} (h : isRequest purpose o) :
    isUnaudited o := by
  cases o <;> first | exact h | trivial

theorem audits_of_isUnaudited {tr : List (Event effects)} (h : ∀ ev ∈ tr, isUnaudited ev.op) :
    audits tr = [] := by
  apply audits_eq_nil
  intro ev hev event hop
  have := h ev hev
  rw [hop] at this
  exact this

theorem authenticated_unaudited (x : AuthenticatedRequestEngine) (options : RequestOptions) :
    (x.execute options).Only isUnaudited := by
  -- each part of the call is unaudited; the clauses only put the parts together
  have hsend (token : TokenState) : (x.sendWith options token).Only isUnaudited :=
    (execute_only _ _ _).mono fun _ => isUnaudited_of_isRequest
  have hget := (getToken_only x.authenticator).mono fun _ => isUnaudited_of_isTokenWork
  refine hget.bind fun token => ?_
  refine (Prog.Only.attempt (hsend token)).bind fun outcome => ?_
  cases outcome with
  | ok response => trivial
  | error error =>
    show Prog.Only _ (if _ then _ else _)
    split
    -- a 401: recovery and replay if the request may be sent again, else the token is dropped
    · split
      · have hrecover := (recoverFromUnauthorized_only x.authenticator token.accessValue).mono
          fun _ => isUnaudited_of_isTokenWork
        refine hrecover.bind fun replacement => ?_
        refine (Prog.Only.attempt (hsend replacement)).bind fun outcome => ?_
        cases outcome with
        | ok response => trivial
        | error error =>
          show Prog.Only _ (if _ then _ else _)
          split
          · exact ⟨trivial, fun _ => trivial⟩
          · trivial
      · exact ⟨trivial, fun _ => trivial⟩
    · trivial

theorem executor_unaudited (x : RequestExecutor) (options : RequestOptions) :
    (x.execute options).Only isUnaudited := by
  cases x with
  | authenticated x => exact authenticated_unaudited x options
  | staticBearer x => exact (execute_only _ _ _).mono fun _ => isUnaudited_of_isRequest

/-! ## 2. The audit event of a call -/

/-- The outcomes audited in a trace. -/
def auditOutcomes (tr : List (Event effects)) : List AuditOutcome := (audits tr).map (·.outcome)

/-- The outcome an audit of this result reports; exceptions foreign to the SDK are not audited. -/
def reported {α : Type} : Except PyError α → Option AuditOutcome
  | .ok _ => some .succeeded
  | .error (.jibit error) => some (auditOutcome error)
  | .error (.builtin _) => none

/-- The outcome `auditingErrors` reports: errors only. -/
def reportedError {α : Type} : Except PyError α → Option AuditOutcome
  | .ok _ => none
  | .error error => reported (.error error : Except PyError α)

theorem emitAuditEvent_emits {rt : Runtime} {logger : StructuredLogger} {event : AuditEvent}
    {tr : List (Event effects)} {r : Except PyError Unit}
    (hrun : (emitAuditEvent rt logger event).Emits tr r) :
    auditOutcomes tr = [event.outcome] ∧ sends tr = [] ∧ r = .ok () := by
  obtain ⟨sinkError, tr', rfl, h⟩ := Prog.emits_perform_bind.mp hrun
  clear hrun
  have hrest : (∀ ev ∈ tr', isLocal ev.op) ∧ r = .ok () := by
    cases sinkError with
    | none =>
      obtain ⟨rfl, rfl⟩ := h
      exact ⟨by simp, rfl⟩
    | some errorType =>
      have hlog := emit_always logger rt .error .auditEmitFailed
        [("service", .str event.service), ("operation", .str event.operation),
          ("correlation_id", .str event.correlationId), ("error_type", .str errorType)]
      exact ⟨hlog.events h, hlog.result h⟩
  have haudits := audits_of_isUnaudited fun ev hev =>
    isUnaudited_of_isRequest (isRequest_of_isLocal (hrest.1 ev hev) : isRequest .token ev.op)
  refine ⟨?_, ?_, hrest.2⟩
  · rw [auditOutcomes, audits_cons, haudits, List.append_nil]
    rfl
  · rw [sends_cons, sends_eq_nil hrest.1]
    rfl

section Calls
variable {M : Type}

/-- The call returned or raised a `JibitError`. -/
def endsInSdk {α : Type} : Except PyError α → Bool
  | .ok _ | .error (.jibit _) => true
  | .error (.builtin _) => false

theorem auditOutcomes_append (tr₁ tr₂ : List (Event effects)) :
    auditOutcomes (tr₁ ++ tr₂) = auditOutcomes tr₁ ++ auditOutcomes tr₂ := by
  rw [auditOutcomes, audits_append, List.map_append]
  rfl

/-- The audited executor reports what its inner executor ends in. -/
theorem auditedExecute_emits {x : AuditedRequestExecutor} {options : RequestOptions}
    {tr : List (Event effects)} {r : Except PyError RawResponse}
    (hrun : (x.execute options).Emits tr r) :
    ∃ tr', (x.executor.execute options).Emits tr' r ∧ sends tr = sends tr' ∧
      auditOutcomes tr = (reported r).toList := by
  obtain ⟨r', tr₁, tr₂, rfl, hinner, h⟩ := Prog.emits_attempt_bind.mp hrun
  -- the executor under the audit emits no event of its own
  have hsilent : auditOutcomes tr₁ = [] := by
    rw [auditOutcomes, audits_of_isUnaudited ((executor_unaudited _ _).events hinner)]
    rfl
  clear hrun
  cases r' with
  | ok response =>
    -- one event for the response; what the sink answers does not change the result
    rcases Prog.emits_bind.mp h with ⟨u, tr₃, tr₄, rfl, hemit, rfl, rfl⟩ | ⟨error, hemit, -⟩
    · obtain ⟨haudit, hsends, -⟩ := emitAuditEvent_emits hemit
      refine ⟨tr₁, hinner, ?_, ?_⟩
      · rw [sends_append, List.append_nil, hsends, List.append_nil]
      · rw [auditOutcomes_append, hsilent, List.append_nil, haudit]
        rfl
    · exact nomatch (emitAuditEvent_emits hemit).2.2
  | error error =>
    cases error with
    | jibit error =>
      rcases Prog.emits_bind.mp h with ⟨u, tr₃, tr₄, rfl, hemit, rfl, rfl⟩ | ⟨error', hemit, -⟩
      · obtain ⟨haudit, hsends, -⟩ := emitAuditEvent_emits hemit
        refine ⟨tr₁, hinner, ?_, ?_⟩
        · rw [sends_append, List.append_nil, hsends, List.append_nil]
        · rw [auditOutcomes_append, hsilent, List.append_nil, haudit]
          rfl
      · exact nomatch (emitAuditEvent_emits hemit).2.2
    -- a built-in exception passes the `except` clause: no event
    | builtin e =>
      obtain ⟨rfl, rfl⟩ := h
      refine ⟨tr₁, hinner, ?_, ?_⟩
      · rw [List.append_nil]
      · rw [List.append_nil, hsilent]
        rfl

/-- `auditingErrors` reports a JibitError of its body and nothing else. -/
theorem auditingErrors_emits {α : Type} {x : PaymentGatewayService} {name operation : String}
    {body : Py α} (hbody : body.Only isUnaudited) {tr : List (Event effects)} {r : Except PyError α}
    (hrun : (x.auditingErrors name operation body).Emits tr r) :
    ∃ tr', body.Emits tr' r ∧ sends tr = sends tr' ∧
      auditOutcomes tr = (reportedError r).toList := by
  obtain ⟨r', tr₁, tr₂, rfl, hinner, h⟩ := Prog.emits_attempt_bind.mp hrun
  have hsilent : auditOutcomes tr₁ = [] := by
    rw [auditOutcomes, audits_of_isUnaudited (hbody.events hinner)]
    rfl
  clear hrun
  cases r' with
  -- a result is audited by the caller, with its metadata
  | ok result =>
    obtain ⟨rfl, rfl⟩ := h
    refine ⟨tr₁, hinner, ?_, ?_⟩
    · rw [List.append_nil]
    · rw [List.append_nil, hsilent]
      rfl
  | error error =>
    cases error with
    | jibit error =>
      rcases Prog.emits_bind.mp h with ⟨u, tr₃, tr₄, rfl, hemit, rfl, rfl⟩ | ⟨error', hemit, -⟩
      · obtain ⟨haudit, hsends, -⟩ := emitAuditEvent_emits hemit
        refine ⟨tr₁, hinner, ?_, ?_⟩
        · rw [sends_append, List.append_nil, hsends, List.append_nil]
        · rw [auditOutcomes_append, hsilent, List.append_nil, haudit]
          rfl
      · exact nomatch (emitAuditEvent_emits hemit).2.2
    -- a built-in exception passes the `except` clause: no event
    | builtin e =>
      obtain ⟨rfl, rfl⟩ := h
      refine ⟨tr₁, hinner, ?_, ?_⟩
      · rw [List.append_nil]
      · rw [List.append_nil, hsilent]
        rfl

/-- Reading a response without effects is the reading of what its executor ends in. -/
theorem bind_ofExcept_emits {α β : Type} {p : Py α} {f : α → Except PyError β}
    {tr : List (Event effects)} {r : Except PyError β}
    (h : Prog.Emits (p >>= fun a => Prog.ofExcept (f a)) tr r) :
    ∃ r', p.Emits tr r' ∧ r = r'.bind f := by
  rcases Prog.emits_bind.mp h with ⟨a, tr₁, tr₂, rfl, hp, hf⟩ | ⟨e, hp, rfl⟩
  · obtain ⟨rfl, rfl⟩ := Prog.emits_ofExcept.mp hf
    exact ⟨.ok a, by rwa [List.append_nil], rfl⟩
  · exact ⟨.error e, hp, rfl⟩

/-- A reported result: the audit of a financial call that is audited on both exits. -/
theorem audited_exit {α : Type} {x : PaymentGatewayService} {name operation : String}
    {body : Py α} (hbody : body.Only isUnaudited) {report : α → Py Unit}
    (hreport : ∀ a tr r, (report a).Emits tr r →
      auditOutcomes tr = [.succeeded] ∧ sends tr = [] ∧ r = .ok ())
    {g : α → APIResponse M} {tr : List (Event effects)} {r : Except PyError (APIResponse M)}
    (h : Prog.Emits (do
      let result ← x.auditingErrors name operation body
      report result
      pure (g result)) tr r) :
    ∃ tr' r', body.Emits tr' r' ∧ sends tr = sends tr' ∧ r = r'.map g ∧
      auditOutcomes tr = (reported r').toList := by
  rcases Prog.emits_bind.mp h with ⟨result, tr₁, tr₂, rfl, h₁, h₂⟩ | ⟨error, h₁, rfl⟩
  · obtain ⟨tr', hinner, hsends, haudit⟩ := auditingErrors_emits hbody h₁
    rcases Prog.emits_bind.mp h₂ with ⟨u, tr₃, tr₄, rfl, h₃, rfl, rfl⟩ | ⟨error, h₃, -⟩
    · obtain ⟨haudit₃, hsends₃, -⟩ := hreport _ _ _ h₃
      refine ⟨tr', .ok result, hinner, ?_, rfl, ?_⟩
      · rw [sends_append, List.append_nil, hsends₃, hsends, List.append_nil]
      · rw [auditOutcomes_append, haudit, List.append_nil, haudit₃]
        rfl
    · exact nomatch (hreport _ _ _ h₃).2.2
  · obtain ⟨tr', hinner, hsends, haudit⟩ := auditingErrors_emits hbody h₁
    exact ⟨tr', .error error, hinner, hsends, rfl, haudit⟩

/-- Every audited call is one execution, whose result is read by `finish`.  A wrapped call reports
    the execution, a Payment Gateway call reports the reading. -/
theorem call_emits {call : AuditedCall M} {tr : List (Event effects)}
    {r : Except PyError (APIResponse M)} (h : call.run.Emits tr r) :
    ∃ tr' r', (call.executor.execute call.options).Emits tr' r' ∧ sends tr = sends tr' ∧
      r = r'.bind call.finish ∧
      auditOutcomes tr = if call.isWrapped then (reported r').toList else (reported r).toList := by
  cases call with
  -- every kind of the wrapped operations is one audited execution and a pure reading of its
  -- response
  | wrapped x op parts model =>
    have hread : ∃ r', (x.execute (op.spec.options parts)).Emits tr r' ∧
        r = r'.bind (AuditedCall.wrapped x op parts model).finish := by
      change (wrappedCall x op parts model).Emits tr r at h
      unfold wrappedCall at h
      cases hkind : op.spec.kind with
      | typed =>
        rw [hkind] at h
        obtain ⟨r', hr', hr⟩ := bind_ofExcept_emits h
        refine ⟨r', hr', hr.trans (congrArg r'.bind (funext fun raw => ?_))⟩
        simp only [AuditedCall.finish, hkind]
      | status =>
        rw [hkind] at h
        obtain ⟨r', hr', hr⟩ := bind_ofExcept_emits (f := fun raw =>
          .ok (AuditedCall.statusResponse raw)) h
        refine ⟨r', hr', hr.trans (congrArg r'.bind (funext fun raw => ?_))⟩
        simp only [AuditedCall.finish, hkind]
      | document =>
        rw [hkind] at h
        obtain ⟨r', hr', hr⟩ := bind_ofExcept_emits (f := fun raw =>
          .ok (AuditedCall.documentResponse x.rt raw)) h
        refine ⟨r', hr', hr.trans (congrArg r'.bind (funext fun raw => ?_))⟩
        simp only [AuditedCall.finish, hkind]
    obtain ⟨r', hr', hr⟩ := hread
    obtain ⟨tr', hinner, hsends, haudit⟩ := auditedExecute_emits hr'
    exact ⟨tr', r', hinner, hsends, hr, haudit⟩
  -- the gateway audits after the body is parsed, so a response that does not parse is a failure
  | financial x op parts model metadata =>
    have hbody : (x.typed op.spec parts model).Only isUnaudited :=
      (authenticated_unaudited x.engine _).bind fun raw => Prog.always_ofExcept.mpr trivial
    obtain ⟨tr', r', hinner, hsends, hr, haudit⟩ := audited_exit hbody
      (fun result tr r h => emitAuditEvent_emits h) (g := id) h
    obtain ⟨r'', hr'', rfl⟩ := bind_ofExcept_emits hinner
    have hr : r = r''.bind (AuditedCall.financial x op parts model metadata).finish := by
      rw [hr]
      cases r'' with
      | ok raw => exact congrFun Except.map_id _
      | error error => rfl
    exact ⟨tr', r'', hr'', hsends, hr, by rw [haudit, hr]; rfl⟩
  -- refunds are status-only
  | refund x action refundId parts metadata =>
    obtain ⟨tr', r', hinner, hsends, hr, haudit⟩ :=
      audited_exit (authenticated_unaudited x.engine _)
        (fun result tr r h => emitAuditEvent_emits h) (g := AuditedCall.statusResponse) h
    refine ⟨tr', r', hinner, hsends, ?_, ?_⟩
    · rw [hr]
      cases r' <;> rfl
    · rw [haudit, hr]
      cases r' with
      | ok raw => rfl
      | error error => cases error <;> rfl

/-! ## 3. When the audit tells the truth -/

/-- The call reads this 2xx answer as an error. -/
def Rejects (call : AuditedCall M) (response : TransportResponse) : Prop :=
  ∃ correlationId error, call.finish (rawResponse response correlationId) = .error (.jibit error)

/-- Exactly one event; it says `succeeded` just when the call returned, and `unknown` when a 2xx
    answer did not fit the documented model. -/
def Truthful (call : AuditedCall M) (tr : List (Event effects))
    (r : Except PyError (APIResponse M)) : Prop :=
  ∃ event, audits tr = [event] ∧ (event.outcome = .succeeded ↔ ∃ value, r = .ok value) ∧
    ∀ response, acceptedAnswer tr = some response → Rejects call response →
      event.outcome = .unknown

/-- The correlation id plays no role in what the model makes of a body. -/
theorem validatedModel_correlationId (rt : Runtime) (model : ResponseModel M)
    (response : TransportResponse) (id id' : String) :
    validatedModel rt (rawResponse response id) model =
      validatedModel rt (rawResponse response id') model := by
  unfold validatedModel
  cases hread : rt.jsonLoads response.content with
  | ok value => rw [json_of_loads hread, json_of_loads hread]
  | error e =>
    by_cases he : e = .unicodeDecodeError ∨ e = .jsonDecodeError
    · rw [json_undecodable he hread, json_undecodable he hread]
    · rw [json_raises he hread, json_raises he hread]

/-- A rejected body raises the SDK's response error. -/
theorem parseModelResponse_error {rt : Runtime} {raw : RawResponse} {model : ResponseModel M}
    {service operation method endpoint : String} {error : JibitError}
    (h : parseModelResponse rt raw model service operation method endpoint =
      .error (.jibit error)) : validatedModel rt raw model = .ok none ∧ error.kind = .response := by
  unfold parseModelResponse at h
  split at h
  · exact nomatch h
  · rename_i hnone
    cases h
    exact ⟨hnone, rfl⟩
  · exact nomatch h

theorem finish_error_kind {call : AuditedCall M} {raw : RawResponse} {error : JibitError}
    (h : call.finish raw = .error (.jibit error)) : error.kind = .response := by
  cases call with
  | wrapped x op parts model =>
    cases hkind : op.spec.kind with
    | typed =>
      simp only [AuditedCall.finish, hkind] at h
      exact (parseModelResponse_error h).2
    | status =>
      simp only [AuditedCall.finish, hkind] at h
      exact nomatch h
    | document =>
      simp only [AuditedCall.finish, hkind] at h
      exact nomatch h
  | financial x op parts model metadata => exact (parseModelResponse_error h).2
  | refund x action refundId parts metadata => exact nomatch h

/-- Whether a body is rejected does not depend on the correlation id. -/
theorem rejects_ok {call : AuditedCall M} {response : TransportResponse} {id : String}
    {value : APIResponse M} (h : call.finish (rawResponse response id) = .ok value) :
    ¬ Rejects call response := by
  -- whether a body fits a model does not depend on the correlation id
  have hparse {rt : Runtime} {model : ResponseModel M} {service operation method endpoint : String}
      {id' : String} {error : JibitError}
      (hok : parseModelResponse rt (rawResponse response id) model service operation method
        endpoint = .ok value)
      (herr : parseModelResponse rt (rawResponse response id') model service operation method
        endpoint = .error (.jibit error)) : False := by
    have hnone := (parseModelResponse_error herr).1
    rw [validatedModel_correlationId rt model response id' id] at hnone
    rw [parseModelResponse, hnone] at hok
    exact nomatch hok
  intro hrejects
  rcases hrejects with ⟨id', error, herr⟩
  cases call with
  | wrapped x op parts model =>
    cases hkind : op.spec.kind with
    | typed =>
      simp only [AuditedCall.finish, hkind] at h herr
      exact hparse h herr
    | status =>
      simp only [AuditedCall.finish, hkind] at herr
      exact nomatch herr
    | document =>
      simp only [AuditedCall.finish, hkind] at herr
      exact nomatch herr
  | financial x op parts model metadata => exact hparse h herr
  | refund x action refundId parts metadata => exact nomatch herr

theorem audits_of_outcomes {tr : List (Event effects)} {outcome : AuditOutcome}
    (h : auditOutcomes tr = [outcome]) :
    ∃ event, audits tr = [event] ∧ event.outcome = outcome := by
  rcases List.map_eq_singleton_iff.mp h with ⟨event, hevent, houtcome⟩
  exact ⟨event, hevent, houtcome⟩

/-- An event for the result itself tells the truth. -/
theorem truthful_of_reported {call : AuditedCall M} {tr : List (Event effects)}
    {r : Except PyError (APIResponse M)} (hend : endsInSdk r = true)
    (haudit : auditOutcomes tr = (reported r).toList)
    (hrejects : ∀ response, acceptedAnswer tr = some response → Rejects call response →
      ∃ error, r = .error (.jibit error) ∧ error.kind = .response) : Truthful call tr r := by
  cases r with
  | ok value =>
    rcases audits_of_outcomes haudit with ⟨event, hevent, houtcome⟩
    refine ⟨event, hevent, by simp [houtcome], fun response hanswer hrej => ?_⟩
    rcases hrejects response hanswer hrej with ⟨error, hr, -⟩
    exact nomatch hr
  | error error =>
    cases error with
    | builtin e => exact nomatch hend
    | jibit error =>
      rcases audits_of_outcomes haudit with ⟨event, hevent, houtcome⟩
      have hnot : event.outcome ≠ .succeeded := by
        rw [houtcome, auditOutcome]
        split <;> decide
      refine ⟨event, hevent, by simp [hnot], fun response hanswer hrej => ?_⟩
      rcases hrejects response hanswer hrej with ⟨error', hr, hkind⟩
      cases hr
      rw [houtcome, auditOutcome, if_pos (by simp [hkind])]

/-- A call that ends in a return or a `JibitError` is audited truthfully, unless it is a call of a
    wrapped service whose 2xx answer does not fit its model: that one is reported before it is
    read. -/
theorem audit_truthful_iff {σ : Type} (call : AuditedCall M) (handler : Handler σ) (s : σ)
    (hend : endsInSdk (call.run.exec (S := effects) handler s).2.2 = true) :
    Truthful call (call.run.exec (S := effects) handler s).1
        (call.run.exec (S := effects) handler s).2.2 ↔
      ¬ (call.isWrapped = true ∧
        ∃ response, acceptedAnswer (call.run.exec (S := effects) handler s).1 = some response ∧
          Rejects call response) := by
  have hrun := Prog.exec_emits (S := effects) handler call.run s
  generalize (call.run.exec (S := effects) handler s).1 = tr at *
  generalize (call.run.exec (S := effects) handler s).2.2 = r at *
  rcases call_emits hrun with ⟨tr', r', hinner, hsends, hr, haudit⟩
  have hanswer : acceptedAnswer tr = acceptedAnswer tr' := by
    rw [acceptedAnswer, operationSends_congr hsends]
    rfl
  have hagrees := executor_agrees hinner
  rw [hanswer]
  cases hlast : acceptedAnswer tr' with
  | none =>
    -- Nothing was accepted: both ways of auditing report the same error.
    rw [hlast] at hagrees
    rcases hagrees with ⟨error, rfl⟩
    have hreported : auditOutcomes tr = (reported r).toList := by
      rw [haudit, hr]
      cases call.isWrapped <;> cases error <;> rfl
    have htruthful : Truthful call tr r := by
      apply truthful_of_reported hend hreported
      intro response hsome
      rw [hanswer, hlast] at hsome
      cases hsome
    simp [htruthful]
  | some response =>
    rw [hlast] at hagrees
    rcases hagrees with ⟨id, rfl⟩
    have hrejects : ∀ response', acceptedAnswer tr = some response' → Rejects call response' →
        ∃ error, r = .error (.jibit error) ∧ error.kind = .response := by
      intro response' hsome hrej
      rw [hanswer, hlast] at hsome
      cases hsome
      cases hfinish : call.finish (rawResponse response id) with
      | ok value => exact absurd hrej (rejects_ok hfinish)
      | error error =>
        have hr : r = .error error := hr.trans hfinish
        cases error with
        | builtin e =>
          rw [hr] at hend
          cases hend
        | jibit error => exact ⟨error, hr, finish_error_kind hfinish⟩
    cases hwrapped : call.isWrapped with
    | false =>
      rw [hwrapped, if_neg Bool.false_ne_true] at haudit
      have htruthful : Truthful call tr r := truthful_of_reported hend haudit hrejects
      simp [htruthful]
    | true =>
      rw [hwrapped, if_pos rfl] at haudit
      constructor
      · intro htruthful hbad
        rcases hbad with ⟨-, response', hsome, hrej⟩
        rcases htruthful with ⟨event, hevent, -, hunknown⟩
        have houtcome := hunknown response' (by rw [hanswer, hlast, hsome]) hrej
        rw [auditOutcomes, hevent] at haudit
        rw [List.map_singleton, houtcome] at haudit
        cases haudit
      · intro hgood
        have hnot : ¬ Rejects call response := fun hrej => hgood ⟨rfl, response, rfl, hrej⟩
        cases hfinish : call.finish (rawResponse response id) with
        | ok value =>
          have hr : r = .ok value := hr.trans hfinish
          apply truthful_of_reported hend _ hrejects
          rw [haudit, hr]
          rfl
        | error error =>
          have hr : r = .error error := hr.trans hfinish
          cases error with
          | builtin e =>
          rw [hr] at hend
          cases hend
          | jibit error => exact absurd ⟨id, error, hfinish⟩ hnot

end Calls

/-- The deployment submits a batch and gets this body with status 200. -/
def submitBatchRun (body : String) :
    List (Event effects) × (Store × List TransportOutcome) × Except PyError (APIResponse Unit) :=
  (sampleCall .submitBatch).run.exec (S := effects) (inWorld scripted)
    (fun _ => none, [issueT1, answer 200 body])

theorem audit_truthful_iff_submitBatch :
    Truthful (sampleCall .submitBatch) (submitBatchRun "\x7b\x7d").1
        (submitBatchRun "\x7b\x7d").2.2 ↔
      ¬ ((sampleCall .submitBatch).isWrapped = true ∧
        ∃ response, acceptedAnswer (submitBatchRun "\x7b\x7d").1 = some response ∧
          Rejects (sampleCall .submitBatch) response) :=
  audit_truthful_iff (sampleCall .submitBatch) (inWorld scripted) _ (by decide +kernel)

/-- An accepted batch whose answer is not JSON raises, and is audited as `succeeded`. -/
theorem submitBatch_audited_before_read :
    endsInSdk (submitBatchRun "OK").2.2 = true ∧
      ¬ Truthful (sampleCall .submitBatch) (submitBatchRun "OK").1 (submitBatchRun "OK").2.2 := by
  have houtcomes : auditOutcomes (submitBatchRun "OK").1 = [.succeeded] := by decide +kernel
  have hraised : (submitBatchRun "OK").2.2.toBool = false := by decide +kernel
  refine ⟨by decide +kernel, fun htruthful => ?_⟩
  rcases htruthful with ⟨event, hevent, hiff, -⟩
  rw [auditOutcomes, hevent, List.map_singleton, List.singleton_inj] at houtcomes
  rcases hiff.mp houtcomes with ⟨value, hvalue⟩
  rw [hvalue] at hraised
  exact nomatch hraised

end JibitSdk.Guarantees
