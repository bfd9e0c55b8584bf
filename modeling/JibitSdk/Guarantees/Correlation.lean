import JibitSdk.Guarantees.Masking
import JibitSdk.Guarantees.Protection

/-!
# One correlation id

An execution hands its correlation id to the provider, to its caller and to the log.  The log and
`safe_dict` show it after the free-text redaction, so the id stays one string as long as no
identifier pattern occurs in it.
-/

namespace JibitSdk.Guarantees

open JibitSdk.Python JibitSdk.Reasoning JibitSdk.Sdk

/-! ## 1. Fields of records -/

/-- The value a mapping has under a string key. -/
def fieldOf : PyVal → String → Option PyVal
  | .mapping items, name =>
    (items.find? fun item => match item.1 with
      | .str key => name == key
      | _ => false).map (·.2)
  | _, _ => none

theorem fieldOf_mapping (items : List (String × PyVal)) (name : String) :
    fieldOf (.mapping (items.map fun i => (.str i.1, i.2))) name = items.lookup name := by
  rw [fieldOf]
  induction items with
  | nil => rfl
  | cons item items ih =>
    rw [List.map_cons, List.lookup_cons]
    by_cases hname : name = item.1
    · rw [List.find?_cons_of_pos (by simpa using hname), hname, beq_self_eq_true]
      rfl
    · rw [List.find?_cons_of_neg (by simpa using hname), beq_eq_false_iff_ne.mpr hname]
      exact ih

theorem lookup_map {α β : Type} (f : String → α → β) (items : List (String × α)) (name : String) :
    (items.map fun i => (i.1, f i.1 i.2)).lookup name = (items.lookup name).map (f name) := by
  induction items with
  | nil => rfl
  | cons item items ih =>
    rw [List.map_cons, List.lookup_cons, List.lookup_cons]
    by_cases hname : name = item.1
    · rw [hname, beq_self_eq_true]
      rfl
    · rw [beq_eq_false_iff_ne.mpr hname]
      exact ih

/-- A redacted record keeps its keys; the last field of a name counts. -/
theorem redact_kwargs_field (rt : Runtime) (fields : List (String × PyVal)) (name : String) :
    fieldOf (redact rt (.kwargs fields)) name = (fields.reverse.lookup name).map fun value =>
      if isSensitiveKey rt (.str name) then .str REDACTED else redact rt value := by
  rw [PyVal.kwargs, redact, fieldOf_mapping, redactItems_kwargs, lookup_dictOf, ← List.map_reverse]
  exact lookup_map (fun name value => if isSensitiveKey rt (.str name) then PyVal.str REDACTED
    else redact rt value) fields.reverse name

/-- A populated field of `safe_dict`, behind fields of other names. -/
theorem lookup_populated {before after : List (String × Option PyVal)} {name : String}
    (value : PyVal) (h : name ∉ before.map Prod.fst) :
    ((before ++ (name, some value) :: after).filterMap fun field =>
      field.2.map fun value => (field.1, value)).lookup name = some value := by
  induction before with
  | nil => simp
  | cons field before ih =>
    rw [List.map_cons, List.mem_cons, not_or] at h
    rw [List.cons_append, List.filterMap_cons]
    cases hvalue : field.2 with
    | none => simpa [hvalue] using ih h.2
    | some other => simpa [hvalue, List.lookup_cons, beq_eq_false_iff_ne.mpr h.1] using ih h.2

theorem lookup_filter_ne {α : Type} {name other : String} (h : name ≠ other)
    (fields : List (String × α)) :
    (fields.filter fun f => f.1 ≠ other).lookup name = fields.lookup name := by
  induction fields with
  | nil => rfl
  | cons field fields ih =>
    rw [List.filter_cons]
    by_cases hfield : field.1 = other
    · rw [if_neg (by simpa using hfield), ih, List.lookup_cons,
        beq_eq_false_iff_ne.mpr (fun heq => h (heq.trans hfield))]
    · rw [if_pos (by simpa using hfield), List.lookup_cons, List.lookup_cons, ih]

/-- `safe_dict` shows the redacted id. -/
theorem safeDict_correlation {rt : Runtime} {context : ErrorContext} {id : String}
    (h : context.correlationId = some id) :
    (context.safeDict rt).lookup "correlation_id" = some (.str (redactStr rt id)) := by
  rw [ErrorContext.safeDict, h]
  exact @lookup_populated [("service", _), ("operation", _), ("method", _), ("endpoint", _),
    ("status_code", _), ("error_code", _), ("upstream_message", _), ("upstream_request_id", _),
    ("fingerprint", _), ("reference_number", _)] _ _ _ (by simp)

/-- The same from the other end. -/
theorem safeDict_correlation_last {rt : Runtime} {context : ErrorContext} {id : String}
    (h : context.correlationId = some id) :
    (context.safeDict rt).reverse.lookup "correlation_id" = some (.str (redactStr rt id)) := by
  rw [ErrorContext.safeDict, h, ← List.filterMap_reverse]
  exact @lookup_populated [("retryable", _)] [("reference_number", _), ("fingerprint", _),
    ("upstream_request_id", _), ("upstream_message", _), ("error_code", _), ("status_code", _),
    ("endpoint", _), ("method", _), ("operation", _), ("service", _)] _ _ (by simp)

/-! ## 2. What carries the id -/

/-- A send carries the id in its header, a log record in its field. -/
def Carries (id : String) : Effect → Prop
  | .send _ request => request.headers.lookup "X-Correlation-ID" = some id
  | .log record => fieldOf record.fields "correlation_id" = some (.str id)
  | _ => True

/-- The response carries the id, or the raised error's context and its `safe_dict` do. -/
def ResultCarries (rt : Runtime) (id : String) : Except PyError RawResponse → Prop
  | .ok response => response.correlationId = id
  | .error (.jibit error) => error.context.correlationId = some id ∧
      (error.context.safeDict rt).lookup "correlation_id" = some (.str id)
  | .error (.builtin _) => True

/-- Sends, records and result carry one id. -/
def OneCorrelationId (rt : Runtime) (id : String) (tr : List (Event effects))
    (r : Except PyError RawResponse) : Prop :=
  (∀ ev ∈ tr, Carries id ev.op) ∧ ResultCarries rt id r

/-- The id of one execution: the options' own, or the first answer of the factory. -/
def UsesId (options : RequestOptions) (id : String) (tr : List (Event effects)) : Prop :=
  match options.correlationId.filter (· ≠ "") with
  | some given => given = id
  | none => ∃ rest, tr = ⟨.newCorrelationId, id⟩ :: rest

theorem requestHeaders_correlation {options : RequestOptions} (id : String)
    (h : options.headers.lookup "X-Correlation-ID" = none) :
    (RequestEngine.requestHeaders options id).lookup "X-Correlation-ID" = some id := by
  have hset : (setdefault (setdefault options.headers "Accept" "application/json")
      "X-Correlation-ID" id).lookup "X-Correlation-ID" = some id := by
    rw [lookup_setdefault_self, lookup_setdefault_ne _ _ (by decide), h]
    rfl
  unfold RequestEngine.requestHeaders
  cases options.idempotencyKey with
  | none => exact hset
  | some key => exact (lookup_setdefault_ne _ _ (by decide)).trans hset

section Engine
variable {e : RequestEngine} {id : String}

/-- A record whose redacted id is `id`. -/
theorem emit_carries {l : StructuredLogger} {rt : Runtime} {level : LogLevel} {event : EventName}
    {fields : List (String × PyVal)} {text : String}
    (hkey : isSensitiveKey rt (.str "correlation_id") = false)
    (hfield : fields.reverse.lookup "correlation_id" = some (.str text))
    (htext : redactStr rt text = id) :
    (l.emit rt level event fields).Always (Carries id) (· = .ok ()) := by
  unfold StructuredLogger.emit
  split
  · refine ⟨?_, fun _ => rfl⟩
    show fieldOf (redact rt (.kwargs fields)) "correlation_id" = some (.str id)
    rw [redact_kwargs_field, hfield, Option.map_some, hkey, if_neg nofun, redact, htext]
  · exact rfl

theorem decide_carries (p : RetryPolicy) (attempt : ℕ) (safety : OperationSafety)
    (status : Option ℤ) (transportError hasKey : Bool) :
    (p.decide attempt safety status transportError hasKey).Always (Carries id)
      (∃ decision, · = .ok decision) := by
  unfold RetryPolicy.decide
  split
  · exact ⟨_, rfl⟩
  split
  · exact ⟨_, rfl⟩
  split
  · exact ⟨_, rfl⟩
  split
  · exact ⟨_, rfl⟩
  · exact ⟨trivial, fun _ => ⟨_, rfl⟩⟩

/-- What the engine knows of an exchange: its request and its id. -/
structure Labelled (e : RequestEngine) (id : String) (x : RequestEngine.Exchange) : Prop where
  header : x.request.headers.lookup "X-Correlation-ID" = some id
  correlationId : x.correlationId = id
  unredacted : redactStr e.rt id = id
  visible : isSensitiveKey e.rt (.str "correlation_id") = false

variable {x : RequestEngine.Exchange}

theorem fail_carries (hx : Labelled e id x) {error : JibitError}
    (herror : error.context.correlationId = some id) :
    (e.fail x error).Always (Carries id) (ResultCarries e.rt id) := by
  have hshown := @safeDict_correlation e.rt _ _ herror
  have hlast := @safeDict_correlation_last e.rt _ _ herror
  rw [hx.unredacted] at hshown hlast
  have hlog : (e.logFailure error x.started).Always (Carries id) (· = .ok ()) := by
    refine ⟨trivial, fun now => emit_carries hx.visible ?_ hx.unredacted⟩
    rw [List.reverse_append, List.lookup_append, ← List.filter_reverse,
      lookup_filter_ne (by decide), hlast]
    rfl
  unfold RequestEngine.fail
  refine hlog.bind ?_ ?_
  · exact fun _ _ => ⟨herror, hshown⟩
  · exact fun _ h => nomatch h

theorem complete_carries (hx : Labelled e id x) (attempt : ℕ) (response : TransportResponse) :
    (e.complete x attempt response).Always (Carries id) (ResultCarries e.rt id) := by
  refine ⟨trivial, fun now => ?_⟩
  refine (emit_carries hx.visible rfl (by rw [hx.correlationId, hx.unredacted])).bind ?_ ?_
  · exact fun _ _ => hx.correlationId
  · exact fun _ h => nomatch h

theorem retryOr_carries (hx : Labelled e id x) {attempt : ℕ} {status : Option ℤ}
    {transportError : Bool} {again failure : Py RawResponse}
    (hagain : again.Always (Carries id) (ResultCarries e.rt id))
    (hfailure : failure.Always (Carries id) (ResultCarries e.rt id)) :
    Prog.Always (Carries id) (ResultCarries e.rt id) (do
      let decision ← e.retryPolicy.decide attempt x.options.safety status transportError
        x.options.idempotencyKey.isSome
      e.retryOr x attempt decision again failure) := by
  refine (decide_carries e.retryPolicy attempt x.options.safety status transportError _).bind ?_ ?_
  · intro decision _
    unfold RequestEngine.retryOr
    split
    · have hlog : (e.logRetry x attempt decision).Always (Carries id) (· = .ok ()) :=
        emit_carries hx.visible rfl (by rw [hx.correlationId, hx.unredacted])
      exact hlog.bind (fun _ _ => ⟨trivial, fun _ => hagain⟩) fun _ h => nomatch h
    · exact hfailure
  · rintro error ⟨decision, hdecision⟩
    exact nomatch hdecision

/-- One iteration. -/
theorem loopBody_carries (hx : Labelled e id x) {attempt : ℕ} {again : Py RawResponse}
    (hagain : again.Always (Carries id) (ResultCarries e.rt id)) :
    (e.loopBody x attempt again).Always (Carries id) (ResultCarries e.rt id) := by
  have hcontext : (e.context x.options x.correlationId x.endpoint).correlationId = some id :=
    congrArg some hx.correlationId
  refine ⟨hx.header, fun outcome => ?_⟩
  cases outcome with
  | timeoutError => exact retryOr_carries hx hagain (fail_carries hx hcontext)
  | networkError => exact retryOr_carries hx hagain (fail_carries hx hcontext)
  | response response =>
    show Prog.Always _ _ (if _ then _ else _)
    split
    · exact complete_carries hx attempt response
    · refine retryOr_carries hx hagain ?_
      unfold RequestEngine.mapError
      cases hbody : e.bodyFields response with
      | ok body => exact fail_carries hx hcontext
      | error error =>
        obtain ⟨b, rfl⟩ := bodyFields_error hbody
        trivial

theorem sendLoop_carries (hx : Labelled e id x) (attempt : ℕ) :
    (e.sendLoop x attempt).Always (Carries id) (ResultCarries e.rt id) := by
  unfold RequestEngine.sendLoop
  induction e.retryPolicy.config.maxAttempts - attempt generalizing attempt with
  | zero => exact loopBody_carries hx trivial
  | succ left ih => exact loopBody_carries hx (ih _)

end Engine

/-! ## 3. One execution -/

section Execution
variable {e : RequestEngine} {purpose : Purpose} {options : RequestOptions} {id : String}

/-- `execute` once its correlation id is known. -/
def executeAs (e : RequestEngine) (purpose : Purpose) (options : RequestOptions)
    (correlationId : String) : Py RawResponse := do
  let endpoint ← Prog.ofExcept (e.validatedEndpoint options.path)
  let started ← Py.monotonic
  e.logger.emit e.rt .info .requestStarted
    [("service", .str options.service.value),
      ("operation", .str options.operation),
      ("method", .str (e.rt.upper options.method)),
      ("endpoint", .str endpoint),
      ("correlation_id", .str correlationId)]
  e.sendLoop ⟨purpose, options, correlationId, endpoint,
    e.transportRequest options correlationId endpoint, started⟩ 1

theorem execute_eq : e.execute purpose options =
    (RequestEngine.correlationId options >>= executeAs e purpose options) := rfl

/-- An execution with this id is the rest of `execute` behind at most the factory's answer. -/
theorem emits_executeAs {tr : List (Event effects)} {r : Except PyError RawResponse}
    (h : (e.execute purpose options).Emits tr r) (hid : UsesId options id tr) :
    ∃ tr', (executeAs e purpose options id).Emits tr' r ∧
      ∀ ev ∈ tr, ev ∈ tr' ∨ ev.op = .newCorrelationId := by
  rw [execute_eq] at h
  unfold RequestEngine.correlationId at h
  unfold UsesId at hid
  cases hgiven : options.correlationId.filter (· ≠ "") with
  | some given =>
    rw [hgiven] at h hid
    subst hid
    exact ⟨tr, h, fun ev hev => .inl hev⟩
  | none =>
    rw [hgiven] at h hid
    obtain ⟨rest, rfl⟩ := hid
    obtain ⟨a, tr', htr, hrest⟩ := h
    cases htr
    refine ⟨rest, hrest, fun ev hev => ?_⟩
    rcases List.mem_cons.mp hev with rfl | hev
    · exact .inr rfl
    · exact .inl hev

/-- The id of a run is the given one, or what its factory answers. -/
theorem usesId_of_emits {tr : List (Event effects)} {r : Except PyError RawResponse}
    (h : (e.execute purpose options).Emits tr r)
    (hgiven : ∀ given, options.correlationId.filter (· ≠ "") = some given → given = id)
    (hfactory : ∀ answer : String,
      (⟨.newCorrelationId, answer⟩ : Event effects) ∈ tr → answer = id) :
    UsesId options id tr := by
  rw [execute_eq] at h
  unfold RequestEngine.correlationId at h
  unfold UsesId
  cases hfilter : options.correlationId.filter (· ≠ "") with
  | some given => exact hgiven given hfilter
  | none =>
    rw [hfilter] at h
    obtain ⟨a, tr', rfl, -⟩ := h
    have ha : a = id := hfactory a List.mem_cons_self
    exact ⟨tr', by rw [ha]⟩

theorem executeAs_carries (purpose : Purpose)
    (hheader : options.headers.lookup "X-Correlation-ID" = none)
    (hkey : isSensitiveKey e.rt (.str "correlation_id") = false)
    (hid : redactStr e.rt id = id) {endpoint : String}
    (hendpoint : e.validatedEndpoint options.path = .ok endpoint) :
    (executeAs e purpose options id).Always (Carries id) (ResultCarries e.rt id) := by
  unfold executeAs
  rw [hendpoint, Prog.ofExcept_ok, Prog.ret_bind]
  refine Prog.always_perform_bind.mpr ⟨trivial, fun started => ?_⟩
  have hlog : (e.logger.emit e.rt .info .requestStarted
      [("service", .str options.service.value), ("operation", .str options.operation),
        ("method", .str (e.rt.upper options.method)), ("endpoint", .str endpoint),
        ("correlation_id", .str id)]).Always (Carries id) (· = .ok ()) :=
    emit_carries hkey rfl hid
  refine hlog.bind ?_ fun _ h => nomatch h
  intro _ _
  have hx : Labelled e id ⟨purpose, options, id, endpoint, e.transportRequest options id endpoint,
      started⟩ :=
    { header := requestHeaders_correlation id hheader
      correlationId := rfl
      unredacted := hid
      visible := hkey }
  exact sendLoop_carries hx 1

/-- The field name is not a sensitive one. -/
theorem correlation_visible {rt : Runtime} (hlower : rt.lower "correlation_id" = "correlation_id") :
    isSensitiveKey rt (.str "correlation_id") = false := by
  have hspaced : capitalBoundary.sub (fun _ => ['_']) "correlation_id".toList =
      "correlation_id".toList := by decide
  have hnormal : (normalizeKey rt "correlation_id").toList = "correlation_id".toList := by
    unfold normalizeKey
    simp only [hspaced, String.ofList_toList, hlower, String.toList_map]
    decide
  unfold isSensitiveKey
  simp only [rt.strVal_str, hnormal]
  decide

end Execution

/-- The network answers nothing, the factory answers `id`. -/
noncomputable def silent (id : String) (o : Effect) (_ : Unit) : Effect.Answer o × Unit :=
  (match o with
    | .send _ _ => .networkError
    | .newCorrelationId => id
    | o => Classical.choice (answer_nonempty o), ())

/-- The error of a refused endpoint says nothing of the id. -/
theorem validatedEndpoint_context {path : String} {error : JibitError} {e : RequestEngine}
    (h : e.validatedEndpoint path = .error (.jibit error)) :
    error.context.correlationId = none := by
  unfold RequestEngine.validatedEndpoint at h
  split at h
  · cases h
  · split at h
    · cases h
      rfl
    · cases h

/-- A run without any answer ends in an error of the id it used. -/
theorem silent_result (e : RequestEngine) (purpose : Purpose) {options : RequestOptions}
    (id : String) {endpoint : String}
    (hendpoint : e.validatedEndpoint options.path = .ok endpoint) :
    ∃ (used : String) (error : JibitError), ((e.execute purpose options).exec (S := effects)
      (silent id) ()).2.2 = .error (.jibit error) ∧ error.context.correlationId = some used := by
  have hrun := Prog.exec_emits (S := effects) (silent id) (e.execute purpose options) ()
  rcases execute_emits hrun with ⟨error, hpath, -, -⟩ |
      ⟨used, sent, started, outcomes, -, hloop, hsends⟩
  · exact nomatch hendpoint.symm.trans hpath
  · obtain ⟨earlier, final, houtcomes, hr, -⟩ := hloop.split
    have hlast : (⟨purpose, e.transportRequest options used sent, final⟩ : Sent) ∈
        sends ((e.execute purpose options).exec (S := effects) (silent id) ()).1 := by
      rw [hsends, houtcomes]
      exact List.mem_map_of_mem (by simp)
    obtain ⟨_, hfinal⟩ := Prog.exec_answer (S := effects) (mem_sends hlast)
    have hlost : final = .networkError := hfinal
    rw [hlost] at hr
    exact ⟨used, _, hr, rfl⟩

/-- Every run carries one id exactly when no identifier pattern occurs in the id and the endpoint is
    one the engine accepts, unless the endpoint makes `urlsplit` itself raise. -/
theorem one_correlation_id_iff (e : RequestEngine) (purpose : Purpose) (options : RequestOptions)
    (id : String) (hheader : options.headers.lookup "X-Correlation-ID" = none)
    (hgiven : ∀ given, options.correlationId.filter (· ≠ "") = some given → given = id)
    (hlower : e.rt.lower "correlation_id" = "correlation_id") :
    (∀ tr r, (e.execute purpose options).Emits tr r → UsesId options id tr →
        OneCorrelationId e.rt id tr r) ↔
      match e.validatedEndpoint options.path with
      | .ok _ => holdsIdentifier e.rt.chars id.toList = false
      | .error (.jibit _) => False
      | .error (.builtin _) => True := by
  constructor
  · intro hall
    -- One run decides: every send fails without an answer.
    have hrun := Prog.exec_emits (S := effects) (silent id) (e.execute purpose options) ()
    have hid : UsesId options id _ := usesId_of_emits hrun hgiven fun answer hanswer => by
      obtain ⟨_, heq⟩ := Prog.exec_answer (S := effects) hanswer
      exact heq
    have hresult := (hall _ _ hrun hid).2
    cases hpath : e.validatedEndpoint options.path with
    | error error =>
      cases error with
      | builtin b => trivial
      | jibit error =>
        rcases execute_emits hrun with ⟨error', hpath', hr, -⟩ | ⟨_, _, _, _, hok, -, -⟩
        · rw [hr, ← Except.error.inj (hpath.symm.trans hpath')] at hresult
          exact nomatch (validatedEndpoint_context hpath).symm.trans hresult.1
        · exact nomatch hpath.symm.trans hok
    | ok endpoint =>
      obtain ⟨used, error, hr, hused⟩ := silent_result e purpose id hpath
      rw [hr] at hresult
      have hshown := (safeDict_correlation hresult.1).symm.trans hresult.2
      exact (redactStr_eq_self_iff _ _).mp (PyVal.str.inj (Option.some.inj hshown))
  · intro hcond tr r hrun hid
    obtain ⟨tr', hrest, hevents⟩ := emits_executeAs hrun hid
    cases hpath : e.validatedEndpoint options.path with
    | error error =>
      rw [hpath] at hcond
      cases error with
      | jibit error => exact hcond.elim
      | builtin b =>
        unfold executeAs at hrest
        rw [hpath] at hrest
        obtain ⟨rfl, rfl⟩ := hrest
        refine ⟨fun ev hev => ?_, trivial⟩
        have hop := (hevents ev hev).resolve_left List.not_mem_nil
        rw [hop]
        trivial
    | ok endpoint =>
      rw [hpath] at hcond
      have hcarries := executeAs_carries purpose hheader (correlation_visible hlower)
        ((redactStr_eq_self_iff _ _).mpr hcond) hpath
      refine ⟨fun ev hev => ?_, hcarries.result hrest⟩
      rcases hevents ev hev with hev | hop
      · exact hcarries.events hrest ev hev
      · rw [hop]
        trivial

/-- A read with this correlation id. -/
def labelledOptions (id : String) : RequestOptions :=
  { sampleOptions .readOnly with correlationId := some id }

theorem one_correlation_id_given :
    holdsIdentifier CharClasses.ascii "cid-1".toList = false ∧
    ∀ tr r, (sampleEngine.execute .token (labelledOptions "cid-1")).Emits tr r →
      UsesId (labelledOptions "cid-1") "cid-1" tr →
      OneCorrelationId sampleRuntime "cid-1" tr r := by
  have hgiven : (labelledOptions "cid-1").correlationId.filter (· ≠ "") = some "cid-1" := by decide
  have h := one_correlation_id_iff sampleEngine .token (labelledOptions "cid-1") "cid-1" rfl
    (fun given hfilter => Option.some.inj (hfilter.symm.trans hgiven)) (by decide +kernel)
  have hpath : sampleEngine.validatedEndpoint (labelledOptions "cid-1").path =
      .ok "/trf/v2/transfers" := by decide +kernel
  have hclear : holdsIdentifier CharClasses.ascii "cid-1".toList = false := by decide +kernel
  rw [hpath] at h
  exact ⟨hclear, h.mpr hclear⟩

/-- A UUID whose hexadecimal digits are all decimal. -/
def decimalUuid : String := "12345678-1234-4234-8234-123456789012"

/-- Its first sixteen digits read as a card number. -/
theorem decimal_uuid_masked :
    ¬ ∀ tr r, (sampleEngine.execute .token (labelledOptions decimalUuid)).Emits tr r →
      UsesId (labelledOptions decimalUuid) decimalUuid tr →
      OneCorrelationId sampleRuntime decimalUuid tr r := by
  intro hall
  have hgiven : (labelledOptions decimalUuid).correlationId.filter (· ≠ "") = some decimalUuid := by
    decide +kernel
  have hrun := Prog.exec_emits (S := effects) (silent decimalUuid)
    (sampleEngine.execute .token (labelledOptions decimalUuid)) ()
  have hid : UsesId (labelledOptions decimalUuid) decimalUuid _ :=
    usesId_of_emits hrun (fun given hfilter => Option.some.inj (hfilter.symm.trans hgiven))
      fun answer hanswer => by
        obtain ⟨_, heq⟩ := Prog.exec_answer (S := effects) hanswer
        exact heq
  have h := hall _ _ hrun hid
  have hmasked : holdsIdentifier CharClasses.ascii decimalUuid.toList = true := by decide +kernel
  have hpath : sampleEngine.validatedEndpoint (labelledOptions decimalUuid).path =
      .ok "/trf/v2/transfers" := by decide +kernel
  obtain ⟨used, error, hr, -⟩ := silent_result sampleEngine .token decimalUuid hpath
  have hresult := h.2
  rw [hr] at hresult
  have hshown := (safeDict_correlation hresult.1).symm.trans hresult.2
  have hsame := (redactStr_eq_self_iff _ _).mp (PyVal.str.inj (Option.some.inj hshown))
  exact nomatch hmasked.symm.trans hsame

end JibitSdk.Guarantees
