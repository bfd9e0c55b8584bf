import JibitSdk.Guarantees.Decoding
import JibitSdk.Guarantees.Protection
import JibitSdk.Guarantees.Uncertainty

/-!
# The cache heals itself

A call of `get_token` leaves the SDK's own exceptions exactly when a store content or a token
response defeats the decoders.  Every other content that cannot be decoded is deleted, and the call
goes on as it does without one.
-/

namespace JibitSdk.Guarantees

open JibitSdk.Python JibitSdk.Reasoning JibitSdk.Sdk

/-! ## 1. Where a call goes wrong -/

/-- The locks answer, and the bodies of refused requests raise nothing but value errors. -/
def ordinaryElsewhere (rt : Runtime) : Event effects → Prop
  | ⟨.redisAcquire _ _ _, failure⟩ => failure = none
  | ⟨.redisRelease _, failure⟩ => failure = none
  | ⟨.send _ _, .response response⟩ => accepted (.response response) = none →
    ∀ e, rt.jsonLoads response.content = .error e → e.isValueError = true
  | _ => True

/-- A store read that heals, a 2xx answer a token can be read from, or neither of the two. -/
def decodable (a : ServiceAuthenticator) : Event effects → Prop
  | ⟨.storeGet _, .error e⟩ => caught e = true
  | ⟨.send _ _, outcome⟩ =>
    ∀ response, accepted outcome = some response → ReadableTokenBody a response.content
  | _ => True

/-- Decoding, as a judgement on events. -/
def decoding (a : ServiceAuthenticator) : Prog.Judgement effects PyError where
  inDomain := ordinaryElsewhere a.rt
  good := decodable a
  failure := isBuiltin

theorem decodable_of_isLocal {a : ServiceAuthenticator} {ev : Event effects} (h : isLocal ev.op) :
    decodable a ev := by
  obtain ⟨o, answer⟩ := ev
  cases o <;> trivial

section Blame
variable {a : ServiceAuthenticator}

theorem sends_of_mem {purpose : Purpose} {request : TransportRequest} {outcome : TransportOutcome}
    {tr : List (Event effects)} (h : (⟨.send purpose request, outcome⟩ : Event effects) ∈ tr) :
    (⟨purpose, request, outcome⟩ : Sent) ∈ sends tr := by
  induction tr with
  | nil => exact absurd h List.not_mem_nil
  | cons ev tr ih =>
    rw [sends_cons]
    rcases List.mem_cons.mp h with rfl | h
    · exact List.mem_append_left _ List.mem_cons_self
    · exact List.mem_append_right _ (ih h)

/-- Programs that neither read the store nor send decode nothing. -/
theorem blames_of_only {α : Type} {p : Py α} {Q : Except PyError α → Prop}
    (hp : p.Always (fun o => ∀ answer, decodable a ⟨o, answer⟩) Q)
    (hresult : ∀ r, Q r → ∀ e, r = .error e → ¬ isBuiltin e) : p.Blames (decoding a) :=
  hp.blames (fun _ answer h _ => h answer) fun r hr ⟨e, he, hbuiltin⟩ => hresult r hr e he hbuiltin

theorem emit_blames (l : StructuredLogger) (rt : Runtime) (level : LogLevel) (event : EventName)
    (fields : List (String × PyVal)) : (l.emit rt level event fields).Blames (decoding a) := by
  refine blames_of_only ((emit_always l rt level event fields).mono ?_ fun _ h => h) ?_
  · exact fun o ho answer => decodable_of_isLocal ho
  · intro r hr e he
    exact nomatch hr.symm.trans he

/-- The last outcome of an execution is the only one with something to decode. -/
theorem execute_decodable {options : RequestOptions} {tr : List (Event effects)}
    {r : Except PyError RawResponse} {request : TransportRequest}
    {earlier : List TransportOutcome} {final : TransportOutcome}
    (h : (a.engine.execute .token options).Emits tr r)
    (hsends : sends tr = (earlier ++ [final]).map (⟨.token, request, ·⟩))
    (hearlier : ∀ outcome ∈ earlier, transientOutcome outcome = true) :
    (∃ ev ∈ tr, ¬ decodable a ev) ↔
      ∃ response, accepted final = some response ∧ ¬ ReadableTokenBody a response.content := by
  constructor
  · rintro ⟨⟨o, answer⟩, hev, hbad⟩
    -- the engine sends for the token and is local otherwise, so only a send can be at fault
    have hrequest := (execute_only a.engine .token options).events h _ hev
    cases o with
    | send purpose request' =>
      have hsent := sends_of_mem hev
      rw [hsends] at hsent
      obtain ⟨outcome, houtcome, heq⟩ := List.mem_map.mp hsent
      cases heq
      have hdecodes : ∃ response, accepted outcome = some response ∧
          ¬ ReadableTokenBody a response.content := by
        by_contra hnone
        exact hbad fun response haccepted => by
          by_contra hunreadable
          exact hnone ⟨response, haccepted, hunreadable⟩
      -- earlier outcomes were retried, and what is retried brings no body to decode
      rcases List.mem_append.mp houtcome with hfirst | hlast
      · obtain ⟨response, haccepted, -⟩ := hdecodes
        have := hearlier outcome hfirst
        rw [not_transient_of_accepted haccepted] at this
        exact nomatch this
      · rw [← List.mem_singleton.mp hlast]
        exact hdecodes
    | _ => first | exact absurd trivial hbad | exact absurd hrequest id
  · rintro ⟨response, haccepted, hunreadable⟩
    have hmem : (⟨.token, request, final⟩ : Sent) ∈ sends tr := by
      rw [hsends]
      exact List.mem_map.mpr ⟨final, List.mem_append_right _ List.mem_cons_self, rfl⟩
    exact ⟨_, mem_sends hmem, fun hgood => hunreadable (hgood response haccepted)⟩

/-- Outside 2xx answers the engine fails with its own exceptions. -/
theorem outcomeResult_own {x : RequestEngine.Exchange} {purpose : Purpose}
    {request : TransportRequest} {final : TransportOutcome} {e : PyError}
    (hdomain : ordinaryElsewhere a.rt ⟨.send purpose request, final⟩)
    (hfinal : accepted final = none) (h : outcomeResult a.engine x final = .error e) :
    ¬ isBuiltin e := by
  cases final with
  | timeoutError =>
    cases h
    exact id
  | networkError =>
    cases h
    exact id
  | response response =>
    have hnot : ¬ (200 ≤ response.statusCode ∧ response.statusCode < 300) := by
      intro hok
      rw [accepted, if_pos hok] at hfinal
      cases hfinal
    rw [outcomeResult, if_neg hnot] at h
    cases hmap : a.engine.mapError x.options x.correlationId x.endpoint response with
    | ok error =>
      rw [hmap] at h
      cases h
      exact id
    | error error =>
      -- The body fields are all that can fail, and only with another class than a value error.
      obtain ⟨fields, hfields⟩ : ∃ fields, a.engine.bodyFields response = .ok fields := by
        unfold RequestEngine.bodyFields
        by_cases hempty : response.content = []
        · exact ⟨[], if_pos hempty⟩
        · rw [if_neg hempty]
          cases hloads : a.engine.rt.jsonLoads response.content with
          | ok value => cases value <;> exact ⟨_, rfl⟩
          | error e' =>
            have hvalue : e'.isValueError = true := hdomain hfinal e' hloads
            exact ⟨[], if_pos hvalue⟩
      rw [RequestEngine.mapError, hfields] at hmap
      cases hmap

/-- Reading a token takes the time at most once. -/
theorem readToken_emits {refresh : Option TokenState} {raw : RawResponse}
    {tr : List (Event effects)} {r : Except PyError TokenState}
    (h : (a.readToken raw refresh).Emits tr r) :
    (∃ now, r = tokenAt a refresh raw now) ∧ ∀ ev ∈ tr, decodable a ev := by
  unfold ServiceAuthenticator.readToken at h
  unfold tokenAt
  have hnothing : ∀ ev ∈ ([] : List (Event effects)), decodable a ev :=
    fun ev hev => absurd hev List.not_mem_nil
  -- by what the raw response is: no JSON, no object, no access token, or a token
  cases hjson : raw.json a.rt with
  | error e =>
    rw [hjson] at h
    obtain ⟨rfl, rfl⟩ := h
    exact ⟨⟨0, rfl⟩, hnothing⟩
  | ok value =>
    rw [hjson, Prog.ofExcept_ok, Prog.ret_bind] at h
    cases value with
    | obj body =>
      change (a.parseToken body refresh).Emits tr r at h
      unfold ServiceAuthenticator.parseToken at h
      cases haccess : ServiceAuthenticator.stringField body a.spec.accessResponseField with
      | none =>
        rw [haccess] at h
        obtain ⟨rfl, rfl⟩ := h
        exact ⟨⟨0, by simp only [haccess]⟩, hnothing⟩
      | some access =>
        rw [haccess] at h
        -- the only event of the reading is the clock
        obtain ⟨now, tr', rfl, h'⟩ := Prog.emits_perform_bind.mp h
        have hclock : ∀ ev ∈ ([⟨.clock, now⟩] : List (Event effects)), decodable a ev := by
          intro ev hev
          rw [List.mem_singleton.mp hev]
          trivial
        refine ⟨⟨now, ?_⟩, ?_⟩
        · cases hparsed : a.parsedToken body refresh access now with
          | ok token =>
            rw [hparsed] at h'
            simp only [haccess, hparsed, h'.2]
          | error e =>
            rw [hparsed] at h'
            simp only [haccess, hparsed, h'.2]
        · cases hparsed : a.parsedToken body refresh access now with
          | ok token =>
            rw [hparsed] at h'
            rw [h'.1]
            exact hclock
          | error e =>
            rw [hparsed] at h'
            rw [h'.1]
            exact hclock
    | _ =>
      obtain ⟨rfl, rfl⟩ := h
      exact ⟨⟨0, rfl⟩, hnothing⟩

/-- Token paths pass the endpoint check. -/
theorem tokenRequest_endpoint {refresh : Option TokenState} {options : RequestOptions}
    (h : a.tokenRequest refresh = .ok options) :
    a.engine.validatedEndpoint options.path = .ok options.path := by
  obtain ⟨hgenerate, hrefresh, -⟩ := tokenPaths a.documented
  cases refresh with
  | none =>
    rw [tokenRequest_none h]
    exact validatedEndpoint_plain hgenerate
  | some cached =>
    rw [tokenRequest_some h]
    exact validatedEndpoint_plain hrefresh

/-- A token request blames its 2xx answer. -/
theorem requestToken_blames (refresh : Option TokenState) :
    (a.requestToken refresh).Blames (decoding a) := by
  intro tr r h hdomain
  unfold ServiceAuthenticator.requestToken at h
  -- a request that cannot be built raises an error of the SDK's own, and nothing happens
  cases hrequest : a.tokenRequest refresh with
  | error error =>
    rw [hrequest] at h
    obtain ⟨rfl, rfl⟩ := h
    obtain ⟨e, rfl, -⟩ := tokenRequest_error hrequest
    constructor
    · rintro ⟨e', he', hbuiltin⟩
      cases he'
      exact hbuiltin.elim
    · rintro ⟨ev, hev, -⟩
      exact absurd hev List.not_mem_nil
  | ok options =>
    rw [hrequest, Prog.ofExcept_ok, Prog.ret_bind] at h
    -- the engine's run, with its last outcome and the events that are at fault in it
    have hrun : ∀ {tr₁ : List (Event effects)} {r₁ : Except PyError RawResponse},
        (a.engine.execute .token options).Emits tr₁ r₁ → ∃ x final,
          r₁ = outcomeResult a.engine x final ∧
          (∃ ev ∈ tr₁, ∃ request, ev = ⟨.send .token request, final⟩) ∧
          ((∃ ev ∈ tr₁, ¬ decodable a ev) ↔ ∃ response, accepted final = some response ∧
            ¬ ReadableTokenBody a response.content) := by
      intro tr₁ r₁ h₁
      rcases execute_emits h₁ with ⟨error, hbad, -⟩
        | ⟨id, endpoint, started, outcomes, -, hrun, hsends⟩
      · exact nomatch (tokenRequest_endpoint hrequest).symm.trans hbad
      · obtain ⟨earlier, final, rfl, hr, hearlier⟩ := hrun.split
        refine ⟨_, final, hr, ?_, execute_decodable h₁ hsends fun o ho => (hearlier o ho).2⟩
        have hmem : (⟨.token, a.engine.transportRequest options id endpoint, final⟩ : Sent) ∈
            sends tr₁ := by
          rw [hsends]
          exact List.mem_map.mpr ⟨final, List.mem_append_right _ List.mem_cons_self, rfl⟩
        exact ⟨_, mem_sends hmem, _, rfl⟩
    rcases Prog.emits_bind.mp h with ⟨raw, tr₁, tr₂, rfl, h₁, h₂⟩ | ⟨e, h₁, rfl⟩
    -- a raw response was returned: it is read once more, at a time of its own
    · obtain ⟨x, final, hr, -, hdecodes⟩ := hrun h₁
      obtain ⟨⟨now, hnow⟩, hquiet⟩ := readToken_emits h₂
      have hagrees := outcomeResult_agrees a.engine x final
      rw [← hr] at hagrees
      cases haccepted : accepted final with
      | none =>
        rw [haccepted] at hagrees
        obtain ⟨error, herror⟩ := hagrees
        exact nomatch herror
      | some response =>
        rw [haccepted] at hagrees
        obtain ⟨correlationId, hraw⟩ := hagrees
        cases hraw
        -- the reading fails exactly on a body that is not readable
        have hfailed : (decoding a).Failed r ↔ ¬ ReadableTokenBody a response.content := by
          rw [hnow]
          exact tokenAt_builtin_iff
        rw [hfailed]
        constructor
        · intro hunreadable
          obtain ⟨ev, hev, hbad⟩ := hdecodes.mpr ⟨response, haccepted, hunreadable⟩
          exact ⟨ev, List.mem_append_left _ hev, hbad⟩
        -- the clock is never at fault, so it was the send
        · rintro ⟨ev, hev, hbad⟩
          rcases List.mem_append.mp hev with hev | hev
          · obtain ⟨response', haccepted', hunreadable⟩ := hdecodes.mp ⟨ev, hev, hbad⟩
            cases haccepted.symm.trans haccepted'
            exact hunreadable
          · exact absurd (hquiet ev hev) hbad
    -- the engine raised: its last outcome was no success
    · obtain ⟨x, final, hr, ⟨ev, hev, request, rfl⟩, hdecodes⟩ := hrun h₁
      have hfinal : accepted final = none := by
        cases haccepted : accepted final with
        | none => rfl
        | some response =>
          have hagrees := outcomeResult_agrees a.engine x final
          rw [← hr, haccepted] at hagrees
          obtain ⟨id, herror⟩ := hagrees
          exact nomatch herror
      constructor
      · rintro ⟨e', he', hbuiltin⟩
        cases he'
        -- an error made of an outcome is the SDK's own
        have hown := outcomeResult_own (x := x) (hdomain _ hev) hfinal hr.symm
        exact absurd hbuiltin hown
      · intro hbad
        obtain ⟨response, haccepted, -⟩ := hdecodes.mp hbad
        exact nomatch hfinal.symm.trans haccepted

theorem keep_blames (token : TokenState) (event : EventName) (source : String) :
    (a.keep token event source).Blames (decoding a) := by
  refine Prog.Blames.call (fun _ _ _ => ?_) fun answer _ hbad => absurd trivial hbad
  exact (emit_blames a.logger a.rt .info event _).bind fun _ => Prog.Blames.ret token

theorem acquire_blames : a.acquire.Blames (decoding a) :=
  (requestToken_blames none).bind fun token => keep_blames token _ _

theorem refreshOrAcquire_blames (cached : Option TokenState) (now : ℚ) :
    (a.refreshOrAcquire cached now).Blames (decoding a) := by
  unfold ServiceAuthenticator.refreshOrAcquire
  split
  · rename_i cached' _
    refine (requestToken_blames (some cached')).attempt_bind (fun outcome houtcome => ?_) ?_
    · cases outcome with
      | ok token => exact keep_blames token _ _
      | error error =>
        show Prog.Blames _ (if _ then _ else _)
        split
        · exact (emit_blames a.logger a.rt .warning .tokenRefreshFailed _).bind fun _ =>
            acquire_blames
        · exact Prog.Blames.throw fun hbuiltin => houtcome ⟨error, rfl, hbuiltin⟩
    · intro error herror
      cases error with
      | jibit error => exact herror.elim
      | builtin error => exact Prog.Fails.throw trivial
  · exact acquire_blames

theorem safeGet_blames : a.safeGet.Blames (decoding a) := by
  refine Prog.Blames.call (fun found _ hgood => ?_) fun found _ hbad => ?_
  · cases found with
    | ok cached => exact Prog.Blames.ret cached
    | error e =>
      have he : caught e = true := hgood
      show Prog.Blames _ (if caught e then _ else _)
      rw [if_pos he]
      exact Prog.Blames.call (fun _ _ _ => Prog.Blames.ret none) fun _ _ hbad => absurd trivial hbad
  · cases found with
    | ok cached => exact absurd trivial hbad
    | error e =>
      have he : ¬ caught e = true := hbad
      show Prog.Fails _ (if caught e then _ else _)
      rw [if_neg he]
      exact Prog.Fails.throw trivial

/-- Locks that answer hand on what the guarded part raised. -/
theorem lock_blames {α : Type} {body : Py α} (locks : LockProvider) (key : String)
    (hbody : body.Blames (decoding a)) : (locks.lock key body).Blames (decoding a) := by
  -- releasing the lock changes nothing about the outcome
  have hend : ∀ outcome : Except PyError α, ¬ (decoding a).Failed outcome →
      (Prog.ofExcept outcome : Py α).Blames (decoding a) := by
    intro outcome houtcome
    cases outcome with
    | ok value => exact Prog.Blames.ret value
    | error error => exact Prog.Blames.throw fun hbuiltin => houtcome ⟨error, rfl, hbuiltin⟩
  cases locks with
  | thread =>
    refine Prog.Blames.call (fun _ _ _ => ?_) fun _ _ hbad => absurd trivial hbad
    refine Prog.Blames.call (fun lock _ _ => ?_) fun _ _ hbad => absurd trivial hbad
    refine Prog.Blames.call (fun _ _ _ => ?_) fun _ _ hbad => absurd trivial hbad
    refine Prog.Blames.call (fun _ _ _ => ?_) fun _ _ hbad => absurd trivial hbad
    refine hbody.attempt_bind (fun outcome houtcome => ?_) fun error herror => ?_
    · exact Prog.Blames.call (fun _ _ _ => hend outcome houtcome) fun _ _ hbad =>
        absurd trivial hbad
    · exact Prog.Fails.call fun _ _ => Prog.Fails.throw herror
  -- inside the domain the Redis lock does not raise
  | redis keyPrefix timeout blockingTimeout =>
    refine Prog.Blames.call (fun failure hanswers _ => ?_) fun _ _ hbad => absurd trivial hbad
    cases hanswers
    refine hbody.attempt_bind (fun outcome houtcome => ?_) fun error herror => ?_
    · refine Prog.Blames.call (fun failure hanswers _ => ?_) fun _ _ hbad => absurd trivial hbad
      cases hanswers
      exact hend outcome houtcome
    · refine Prog.Fails.call fun failure hanswers => ?_
      cases hanswers
      exact Prog.Fails.throw herror

theorem getToken_blames : a.getToken.Blames (decoding a) := by
  refine Prog.Blames.call (fun now _ _ => ?_) fun _ _ hbad => absurd trivial hbad
  refine safeGet_blames.bind fun cached => ?_
  split
  · exact Prog.Blames.ret _
  · refine lock_blames a.locks a.cacheKey ?_
    refine Prog.Blames.call (fun now _ _ => ?_) fun _ _ hbad => absurd trivial hbad
    refine safeGet_blames.bind fun cached => ?_
    split
    · exact Prog.Blames.ret _
    · exact refreshOrAcquire_blames _ _

end Blame

/-! ## 2. What happens to contents that cannot be decoded -/

/-- The second trace is the first one with every undecodable read, and the deletion that follows it,
    replaced by the read of an absent state. -/
inductive Healed : List (Event effects) → List (Event effects) → Prop where
  | nil : Healed [] []
  | deleted (key : String) (e : BuiltinError) {tr tr' : List (Event effects)}
      (rest : Healed tr tr') :
      Healed (⟨.storeGet key, .error e⟩ :: ⟨.storeDelete key, ()⟩ :: tr)
        (⟨.storeGet key, .ok none⟩ :: tr')
  | kept (ev : Event effects) {tr tr' : List (Event effects)}
      (h : ∀ key e, ev ≠ ⟨.storeGet key, .error e⟩) (rest : Healed tr tr') :
      Healed (ev :: tr) (ev :: tr')

theorem Healed.append {tr₁ tr₁' tr₂ tr₂' : List (Event effects)} (h₁ : Healed tr₁ tr₁')
    (h₂ : Healed tr₂ tr₂') : Healed (tr₁ ++ tr₂) (tr₁' ++ tr₂') := by
  induction h₁ with
  | nil => exact h₂
  | deleted key e rest ih => exact .deleted key e ih
  | kept ev h rest ih => exact .kept ev h ih

theorem Healed.sends_eq {tr tr' : List (Event effects)} (h : Healed tr tr') :
    sends tr = sends tr' := by
  induction h with
  | nil => rfl
  | deleted key e rest ih => exact ih
  | kept ev h rest ih =>
    rename_i tr tr'
    rw [sends_cons, sends_cons ev tr', ih]

theorem Healed.refl {tr : List (Event effects)}
    (h : ∀ ev ∈ tr, ∀ key, ev.op ≠ .storeGet key) : Healed tr tr := by
  induction tr with
  | nil => exact .nil
  | cons ev tr ih =>
    refine .kept ev (fun key e heq => h ev List.mem_cons_self key ?_) (ih fun ev' hev =>
      h ev' (List.mem_cons_of_mem _ hev))
    rw [heq]

/-- Contents that can be deleted are as good as absent ones: every run without another class of
    exception in a read is, up to deletions, a run on absent contents. -/
def Heals {α : Type} (p : Py α) : Prop :=
  ∀ tr r, p.Emits tr r →
    (∀ key e, (⟨.storeGet key, .error e⟩ : Event effects) ∈ tr → caught e = true) →
    ∃ tr', Healed tr tr' ∧ p.Emits tr' r

theorem heals_of_only {α : Type} {p : Py α} {Q : Except PyError α → Prop}
    (hp : p.Always (fun o : Effect => ∀ key, o ≠ .storeGet key) Q) : Heals p :=
  fun tr _ h _ => ⟨tr, Healed.refl fun ev hev => hp.events h ev hev, h⟩

theorem Heals.call {α : Type} {o : Effect} {k : effects.Answer o → Py α}
    (ho : ∀ key, o ≠ .storeGet key) (hk : ∀ answer, Heals (k answer)) :
    Heals (Prog.call (S := effects) o k) := by
  rintro tr r ⟨answer, tr₁, rfl, h⟩ hcaught
  obtain ⟨tr', hhealed, h'⟩ := hk answer tr₁ r h fun key e hev =>
    hcaught key e (List.mem_cons_of_mem _ hev)
  refine ⟨_, .kept ⟨o, answer⟩ (fun key e heq => ho key (congrArg Event.op heq)) hhealed, ?_⟩
  exact ⟨answer, tr', rfl, h'⟩

theorem Heals.bind {α β : Type} {p : Py α} {f : α → Py β} (hp : Heals p) (hf : ∀ a, Heals (f a)) :
    Heals (p >>= f) := by
  intro tr r h hcaught
  rcases Prog.emits_bind.mp h with ⟨a, tr₁, tr₂, rfl, h₁, h₂⟩ | ⟨e, h₁, rfl⟩
  · obtain ⟨tr₁', hhealed₁, h₁'⟩ := hp tr₁ _ h₁ fun key e hev =>
      hcaught key e (List.mem_append_left _ hev)
    obtain ⟨tr₂', hhealed₂, h₂'⟩ := hf a tr₂ r h₂ fun key e hev =>
      hcaught key e (List.mem_append_right _ hev)
    exact ⟨_, hhealed₁.append hhealed₂, Prog.emits_bind.mpr (.inl ⟨a, _, _, rfl, h₁', h₂'⟩)⟩
  · obtain ⟨tr', hhealed, h'⟩ := hp tr _ h₁ hcaught
    exact ⟨tr', hhealed, Prog.emits_bind.mpr (.inr ⟨e, h', rfl⟩)⟩

theorem Heals.attempt {α : Type} {p : Py α} (hp : Heals p) : Heals (p.attempt : Py _) := by
  intro tr r h hcaught
  obtain ⟨x, rfl, hx⟩ := Prog.emits_attempt.mp h
  obtain ⟨tr', hhealed, h'⟩ := hp tr x hx hcaught
  exact ⟨tr', hhealed, Prog.emits_attempt.mpr ⟨x, rfl, h'⟩⟩

section Healing
variable {a : ServiceAuthenticator}

theorem safeGet_heals : Heals a.safeGet := by
  rintro tr r ⟨found, tr₁, rfl, h⟩ hcaught
  cases found with
  | ok cached =>
    obtain ⟨rfl, rfl⟩ := h
    exact ⟨_, .kept _ (fun key e heq => by cases heq) .nil, .ok cached, [], rfl, rfl, rfl⟩
  | error e =>
    have he : caught e = true := hcaught a.cacheKey e List.mem_cons_self
    change Prog.Emits (if caught e then _ else _) tr₁ r at h
    rw [if_pos he] at h
    obtain ⟨-, tr₂, rfl, rfl, rfl⟩ := h
    exact ⟨_, .deleted a.cacheKey e .nil, .ok none, [], rfl, rfl, rfl⟩

theorem heals_ret {α : Type} (value : α) : Heals (.ret value) :=
  heals_of_only (Q := fun _ => True) trivial

theorem heals_throw {α : Type} (error : PyError) : Heals (.throw error : Py α) :=
  heals_of_only (Q := fun _ => True) trivial

theorem emit_heals (l : StructuredLogger) (rt : Runtime) (level : LogLevel) (event : EventName)
    (fields : List (String × PyVal)) : Heals (l.emit rt level event fields) :=
  heals_of_only ((emit_always l rt level event fields).mono (fun o ho key heq => by
    rw [heq] at ho
    exact ho) fun _ h => h)

theorem builtin_heals {α : Type} (result : Except BuiltinError α) : Heals (Py.builtin result) := by
  cases result with
  | ok value => exact heals_ret value
  | error e => exact heals_throw _

theorem requestToken_heals (refresh : Option TokenState) : Heals (a.requestToken refresh) := by
  unfold ServiceAuthenticator.requestToken
  cases a.tokenRequest refresh with
  | error error => exact heals_throw error
  | ok options =>
    rw [Prog.ofExcept_ok, Prog.ret_bind]
    have hexecute : Heals (a.engine.execute .token options) :=
      heals_of_only ((execute_only a.engine .token options).mono fun o ho key heq => by
        rw [heq] at ho
        exact ho)
    refine hexecute.bind fun raw => ?_
    unfold ServiceAuthenticator.readToken
    cases raw.json a.rt with
    | error error => exact heals_throw error
    | ok value =>
      cases value with
      | obj body =>
        show Heals (a.parseToken body refresh)
        unfold ServiceAuthenticator.parseToken
        split
        · exact heals_throw _
        · exact Heals.call (fun _ => nofun) fun now => builtin_heals _
      | _ => exact heals_throw _

theorem keep_heals (token : TokenState) (event : EventName) (source : String) :
    Heals (a.keep token event source) :=
  Heals.call (fun _ => nofun) fun _ =>
    (emit_heals a.logger a.rt .info event _).bind fun _ => heals_ret token

theorem acquire_heals : Heals a.acquire :=
  (requestToken_heals none).bind fun token => keep_heals token _ _

theorem refreshOrAcquire_heals (cached : Option TokenState) (now : ℚ) :
    Heals (a.refreshOrAcquire cached now) := by
  unfold ServiceAuthenticator.refreshOrAcquire
  split
  · refine (requestToken_heals _).attempt.bind fun outcome => ?_
    cases outcome with
    | ok token => exact keep_heals token _ _
    | error error =>
      show Heals (if _ then _ else _)
      split
      · exact (emit_heals a.logger a.rt .warning .tokenRefreshFailed _).bind fun _ => acquire_heals
      · exact heals_throw error
  · exact acquire_heals

theorem lock_heals {α : Type} {body : Py α} (locks : LockProvider) (key : String)
    (hbody : Heals body) : Heals (locks.lock key body) := by
  have hend : ∀ outcome : Except PyError α, Heals (Prog.ofExcept outcome : Py α) := by
    intro outcome
    cases outcome with
    | ok value => exact heals_ret value
    | error error => exact heals_throw error
  cases locks with
  | thread =>
    refine Heals.call (fun _ => nofun) fun _ => Heals.call (fun _ => nofun) fun lock => ?_
    refine Heals.call (fun _ => nofun) fun _ => Heals.call (fun _ => nofun) fun _ => ?_
    exact hbody.attempt.bind fun outcome => Heals.call (fun _ => nofun) fun _ => hend outcome
  | redis keyPrefix timeout blockingTimeout =>
    refine Heals.call (fun _ => nofun) fun failure => ?_
    cases failure with
    | some error => exact heals_throw _
    | none =>
      refine hbody.attempt.bind fun outcome => Heals.call (fun _ => nofun) fun failure => ?_
      cases failure with
      | some error => exact heals_throw _
      | none => exact hend outcome

theorem getToken_heals : Heals a.getToken := by
  refine Heals.call (fun _ => nofun) fun now => safeGet_heals.bind fun cached => ?_
  split
  · exact heals_ret _
  · refine lock_heals a.locks a.cacheKey (Heals.call (fun _ => nofun) fun now => ?_)
    refine safeGet_heals.bind fun cached => ?_
    split
    · exact heals_ret _
    · exact refreshOrAcquire_heals _ _

/-! ## 3. The way to a token request -/

/-- The answers to the store reads of a trace. -/
def storeReads : List (Event effects) → List (Except BuiltinError (Option TokenState))
  | [] => []
  | ⟨.storeGet _, found⟩ :: tr => found :: storeReads tr
  | _ :: tr => storeReads tr

theorem mem_storeReads {found : Except BuiltinError (Option TokenState)}
    {tr : List (Event effects)} :
    found ∈ storeReads tr ↔ ∃ key, (⟨.storeGet key, found⟩ : Event effects) ∈ tr := by
  induction tr with
  | nil => exact ⟨fun h => absurd h List.not_mem_nil, fun ⟨_, h⟩ => absurd h List.not_mem_nil⟩
  | cons ev tr ih =>
    -- an event that is no such read adds nothing to either side
    have hskip (hev : ∀ key, ev ≠ ⟨.storeGet key, found⟩) :
        (∃ key, (⟨.storeGet key, found⟩ : Event effects) ∈ ev :: tr) ↔
          ∃ key, (⟨.storeGet key, found⟩ : Event effects) ∈ tr := by
      constructor
      · rintro ⟨key, hmem⟩
        rcases List.mem_cons.mp hmem with heq | hmem
        · exact absurd heq.symm (hev key)
        · exact ⟨key, hmem⟩
      · rintro ⟨key, hmem⟩
        exact ⟨key, List.mem_cons_of_mem _ hmem⟩
    obtain ⟨o, answer⟩ := ev
    cases o with
    | storeGet key =>
      show found ∈ answer :: storeReads tr ↔ _
      by_cases hanswer : found = answer
      · subst hanswer
        exact ⟨fun _ => ⟨key, List.mem_cons_self⟩, fun _ => List.mem_cons_self⟩
      · rw [hskip fun key' heq => ?_, ← ih]
        · exact ⟨fun h => (List.mem_cons.mp h).resolve_left hanswer, List.mem_cons_of_mem _⟩
        · cases heq
          exact hanswer rfl
    | _ => exact ih.trans (hskip fun key heq => nomatch congrArg Event.op heq).symm

/-- A lock that answers runs its body. -/
theorem lock_runs {α : Type} {locks : LockProvider} {key : String} {body : Py α}
    {tr : List (Event effects)} {r : Except PyError α} (h : (locks.lock key body).Emits tr r)
    (hdomain : ∀ ev ∈ tr, ordinaryElsewhere a.rt ev) :
    ∃ tr', body.Emits tr' r ∧ sends tr = sends tr' ∧ ∀ ev ∈ tr', ev ∈ tr := by
  cases locks with
  | thread =>
    obtain ⟨_, _, rfl, lock, _, rfl, _, _, rfl, _, tr₁, rfl, h⟩ := h
    obtain ⟨r', tr', tr₂, rfl, hbody, _, _, rfl, hend⟩ := Prog.emits_attempt_bind.mp h
    obtain ⟨rfl, rfl⟩ := Prog.emits_ofExcept.mp hend
    -- the section's own events stand between those of the lock
    refine ⟨tr', hbody, ?_, fun ev hev => ?_⟩
    · show sends (tr' ++ [_]) = sends tr'
      rw [sends_append]
      exact List.append_nil _
    · simp only [List.mem_cons, List.mem_append]
      exact .inr (.inr (.inr (.inr (.inl hev))))
  | redis keyPrefix timeout blockingTimeout =>
    obtain ⟨failure, tr₁, rfl, h⟩ := h
    have hacquired : failure = none := hdomain _ List.mem_cons_self
    subst hacquired
    obtain ⟨r', tr', tr₂, rfl, hbody, failure, tr₃, rfl, hend⟩ := Prog.emits_attempt_bind.mp h
    have hreleased : failure = none :=
      hdomain ⟨.redisRelease _, failure⟩ (List.mem_cons_of_mem _ (List.mem_append_right _
        List.mem_cons_self))
    subst hreleased
    obtain ⟨rfl, rfl⟩ := Prog.emits_ofExcept.mp hend
    refine ⟨tr', hbody, ?_, fun ev hev => ?_⟩
    · show sends (tr' ++ [_]) = sends tr'
      rw [sends_append]
      exact List.append_nil _
    · exact List.mem_cons_of_mem _ (List.mem_append_left _ hev)

/-- Without a cached state the call asks for a token, unless the credentials are incomplete. -/
theorem acquire_requests {tr : List (Event effects)} {r : Except PyError TokenState}
    (h : a.acquire.Emits tr r) : sends tr ≠ [] ∨ ∃ error, a.generationBody = .error error := by
  -- without credentials there is no request; with them the engine sends at least once
  cases hbody : a.generationBody with
  | error error => exact .inr ⟨error, rfl⟩
  | ok body =>
    refine .inl ?_
    have hrequest : a.tokenRequest none =
        .ok (a.tokenOptions "generate_token" a.spec.generatePath body) := by
      show a.generationBody.map _ = _
      rw [hbody]
      rfl
    have hsent : ∀ {tr₁ : List (Event effects)} {r₁ : Except PyError RawResponse},
        (a.engine.execute .token (a.tokenOptions "generate_token" a.spec.generatePath body)).Emits
          tr₁ r₁ → sends tr₁ ≠ [] := by
      intro tr₁ r₁ h₁
      rcases execute_emits h₁ with ⟨error, hbad, -⟩ | ⟨_, _, _, outcomes, -, hrun, hsends⟩
      · exact nomatch (tokenRequest_endpoint hrequest).symm.trans hbad
      · rw [hsends]
        exact fun hnil => hrun.ne_nil (List.map_eq_nil_iff.mp hnil)
    have hfirst : ∀ {tr₁ : List (Event effects)} {r₁ : Except PyError TokenState},
        (a.requestToken none).Emits tr₁ r₁ → sends tr₁ ≠ [] := by
      intro tr₁ r₁ h₁
      unfold ServiceAuthenticator.requestToken at h₁
      rw [hrequest, Prog.ofExcept_ok, Prog.ret_bind] at h₁
      rcases Prog.emits_bind.mp h₁ with ⟨raw, tr₂, tr₃, rfl, h₂, -⟩ | ⟨e, h₂, -⟩
      · rw [sends_append]
        exact fun hnil => hsent h₂ (List.append_eq_nil_iff.mp hnil).1
      · exact hsent h₂
    rcases Prog.emits_bind.mp h with ⟨token, tr₁, tr₂, rfl, h₁, -⟩ | ⟨e, h₁, -⟩
    · rw [sends_append]
      exact fun hnil => hfirst h₁ (List.append_eq_nil_iff.mp hnil).1
    · exact hfirst h₁

theorem safeGet_absent {tr : List (Event effects)} {r : Except PyError (Option TokenState)}
    (h : a.safeGet.Emits tr r) (habsent : ∀ found ∈ storeReads tr, found = .ok none) :
    r = .ok none := by
  obtain ⟨found, tr', rfl, h'⟩ := h
  have hfound : found = .ok none := habsent found List.mem_cons_self
  subst hfound
  exact h'.2

/-- Where every read finds nothing, the call goes on to a token request. -/
theorem getToken_requests {tr : List (Event effects)} {r : Except PyError TokenState}
    (h : a.getToken.Emits tr r) (hdomain : ∀ ev ∈ tr, ordinaryElsewhere a.rt ev)
    (habsent : ∀ found ∈ storeReads tr, found = .ok none) :
    sends tr ≠ [] ∨ ∃ error, a.generationBody = .error error := by
  have hpart {tr' : List (Event effects)} (hsub : ∀ ev ∈ tr', ev ∈ tr) :
      ∀ found ∈ storeReads tr', found = .ok none := by
    intro found hfound
    obtain ⟨key, hmem⟩ := mem_storeReads.mp hfound
    exact habsent found (mem_storeReads.mpr ⟨key, hsub _ hmem⟩)
  -- the store is read before the lock and once more inside it, and both reads find nothing
  obtain ⟨now, tr₁, rfl, h₁⟩ := Prog.emits_perform_bind.mp h
  rcases Prog.emits_bind.mp h₁ with ⟨cached, tr₂, tr₃, rfl, h₂, h₃⟩ | ⟨e, h₂, -⟩
  · have hcached := safeGet_absent h₂ (hpart fun ev hev =>
      List.mem_cons_of_mem _ (List.mem_append_left _ hev))
    cases hcached
    obtain ⟨tr₄, h₄, hsends, hsub⟩ := lock_runs h₃ fun ev hev =>
      hdomain ev (List.mem_cons_of_mem _ (List.mem_append_right _ hev))
    have hsub' : ∀ ev ∈ tr₄, ev ∈ (⟨.clock, now⟩ : Event effects) :: (tr₂ ++ tr₃) := fun ev hev =>
      List.mem_cons_of_mem _ (List.mem_append_right _ (hsub ev hev))
    obtain ⟨now', tr₅, rfl, h₅⟩ := Prog.emits_perform_bind.mp h₄
    have hgoal : sends tr₅ ≠ [] ∨ ∃ error, a.generationBody = .error error := by
      rcases Prog.emits_bind.mp h₅ with ⟨cached, tr₆, tr₇, rfl, h₆, h₇⟩ | ⟨e, h₆, -⟩
      · have hcached := safeGet_absent h₆ (hpart fun ev hev =>
          hsub' ev (List.mem_cons_of_mem _ (List.mem_append_left _ hev)))
        cases hcached
        rw [sends_append]
        exact (acquire_requests h₇).imp_left
          fun hsent hnil => hsent (List.append_eq_nil_iff.mp hnil).2
      · exact nomatch safeGet_absent h₆ (hpart fun ev hev => hsub' ev (List.mem_cons_of_mem _ hev))
    refine hgoal.imp_left fun hsent hnil => hsent ?_
    change sends (tr₂ ++ tr₃) = [] at hnil
    rw [sends_append, hsends] at hnil
    exact (List.append_eq_nil_iff.mp hnil).2
  · exact nomatch safeGet_absent h₂ (hpart fun ev hev => List.mem_cons_of_mem _ hev)

end Healing

/-! ## 4. Total decoding and self-healing -/

/-- Contents that could not be decoded were deleted and count as absent: the call runs as it would
    have run without them, and asks for a token where it found nothing else (the SDK's own
    configuration error comes first when the credentials are incomplete). -/
def HealsItself (a : ServiceAuthenticator) (tr : List (Event effects))
    (r : Except PyError TokenState) :
    Prop :=
  ∃ tr', Healed tr tr' ∧ a.getToken.Emits tr' r ∧
    ((∀ found ∈ storeReads tr', found = .ok none) →
      sends tr ≠ [] ∨ ∃ error, a.generationBody = .error error)

theorem healed_domain {rt : Runtime} {tr tr' : List (Event effects)} (h : Healed tr tr')
    (hdomain : ∀ ev ∈ tr, ordinaryElsewhere rt ev) : ∀ ev ∈ tr', ordinaryElsewhere rt ev := by
  induction h with
  | nil => exact hdomain
  | deleted key e rest ih =>
    intro ev hev
    rcases List.mem_cons.mp hev with rfl | hev
    · trivial
    · exact ih
        (fun ev hev => hdomain ev (List.mem_cons_of_mem _ (List.mem_cons_of_mem _ hev))) ev hev
  | kept ev h rest ih =>
    intro ev' hev
    rcases List.mem_cons.mp hev with rfl | hev
    · exact hdomain _ List.mem_cons_self
    · exact ih (fun ev hev => hdomain ev (List.mem_cons_of_mem _ hev)) ev' hev

/-- `get_token` ends in a token or in an error of the SDK, and heals the cache, exactly when every
    content it read heals and every 2xx answer it got has a readable body. -/
theorem getToken_total_iff (a : ServiceAuthenticator) (json : JsonText)
    (contents : List StoreContent) {tr : List (Event effects)} {r : Except PyError TokenState}
    (h : a.getToken.Emits tr r)
    (hreads : storeReads tr = contents.map fun content => content.read a.rt json)
    (hdomain : ∀ ev ∈ tr, ordinaryElsewhere a.rt ev) :
    ((∀ e, r = .error e → ¬ isBuiltin e) ∧ HealsItself a tr r) ↔
      (∀ content ∈ contents, HealingContent a.rt json content) ∧
      ∀ sent ∈ sends tr, ∀ response, accepted sent.outcome = some response →
        ReadableTokenBody a response.content := by
  have hblames := getToken_blames tr r h hdomain
  -- The events of the run are all decodable exactly under the condition.
  have hevents : (∀ ev ∈ tr, decodable a ev) ↔
      (∀ content ∈ contents, HealingContent a.rt json content) ∧
      ∀ sent ∈ sends tr, ∀ response, accepted sent.outcome = some response →
        ReadableTokenBody a response.content := by
    constructor
    · intro hgood
      refine ⟨fun content hcontent => ?_, fun sent hsent => hgood _ (mem_sends hsent)⟩
      rw [← read_heals_iff]
      intro e he
      have hmem : content.read a.rt json ∈ storeReads tr := by
        rw [hreads]
        exact List.mem_map.mpr ⟨content, hcontent, rfl⟩
      rw [he] at hmem
      obtain ⟨key, hev⟩ := mem_storeReads.mp hmem
      exact hgood _ hev
    · rintro ⟨hcontents, hbodies⟩ ⟨o, answer⟩ hev
      cases o with
      | send purpose request => exact hbodies _ (sends_of_mem hev)
      | storeGet key =>
        have hmem := mem_storeReads.mpr ⟨key, hev⟩
        rw [hreads] at hmem
        obtain ⟨content, hcontent, rfl⟩ := List.mem_map.mp hmem
        have hheals := (read_heals_iff a.rt json content).mpr (hcontents content hcontent)
        cases hread : content.read a.rt json with
        | ok cached => trivial
        | error e => exact hheals e hread
      | _ => trivial
  rw [← hevents]
  constructor
  · rintro ⟨htotal, -⟩ ev hev
    by_contra hbad
    obtain ⟨e, he, hbuiltin⟩ := hblames.mpr ⟨ev, hev, hbad⟩
    exact htotal e he hbuiltin
  · intro hgood
    constructor
    · intro e he hbuiltin
      obtain ⟨ev, hev, hbad⟩ := hblames.mp ⟨e, he, hbuiltin⟩
      exact hbad (hgood ev hev)
    · obtain ⟨tr', hhealed, h'⟩ := getToken_heals tr r h fun key e hev => hgood _ hev
      refine ⟨tr', hhealed, h', fun habsent => ?_⟩
      rw [hhealed.sends_eq]
      exact getToken_requests h' (healed_domain hhealed hdomain) habsent

/-- A cached state whose expiry is the first power of two beyond the doubles. -/
def beyondText : String :=
  "\x7b\"access_token\":\"T\",\"expires_at\":" ++ toString (2 ^ 1024 : ℕ) ++ "\x7d"

/-- `json` on an empty list and on that state. -/
noncomputable def beyondJson : JsonText :=
  { cacheJson with
    loads := fun text =>
      if text = "[]" then .ok (.arr [])
      else if text = beyondText then
        .ok (.obj [("access_token", .str "T"), ("expires_at", .int (2 ^ 1024))])
      else .error .jsonDecodeError }

/-- A provider that always issues `T1`, and a store with these contents one after the other. -/
noncomputable def issuing : Handler (List StoreContent)
  | .send _ _, contents => (issueT1, contents)
  | .storeGet _, [] => (.ok none, [])
  | .storeGet _, content :: contents => (content.read sampleRuntime beyondJson, contents)
  | o, contents => ((scripted o []).1, contents)

theorem issuing_ordinary {tr : List (Event effects)} {p : Py TokenState} {s : List StoreContent}
    (h : tr = (p.exec (S := effects) issuing s).1) :
    ∀ ev ∈ tr, ordinaryElsewhere sampleRuntime ev := by
  rintro ⟨o, answer⟩ hev
  rw [h] at hev
  obtain ⟨s', hanswer⟩ := Prog.exec_answer hev
  cases o with
  | send purpose request =>
    change answer = issueT1 at hanswer
    subst hanswer
    intro hrefused
    exact nomatch hrefused
  | redisAcquire => exact hanswer
  | redisRelease => exact hanswer
  | _ => trivial

/-- A cached list is deleted, and the provider is asked. -/
theorem getToken_total_iff_list :
    let run := sampleAuthenticator.getToken.exec (S := effects) issuing
      [.redis (some (.text "[]")), .redis none]
    (∀ e, run.2.2 = .error e → ¬ isBuiltin e) ∧ HealsItself sampleAuthenticator run.1 run.2.2 := by
  refine (getToken_total_iff sampleAuthenticator beyondJson
    [.redis (some (.text "[]")), .redis none] (Prog.exec_emits _ _ _) ?_ ?_).mpr ⟨?_, ?_⟩
  · decide +kernel
  · exact issuing_ordinary rfl
  · intro content hcontent
    rcases List.mem_cons.mp hcontent with rfl | hcontent
    · refine ⟨fun e he => (nomatch he), fun text htext => ?_⟩
      cases htext
      exact ⟨fun e he => (nomatch he), fun fields hfields => (nomatch hfields)⟩
    · rw [List.mem_singleton.mp hcontent]
      trivial
  · intro sent hsent response haccepted
    obtain ⟨s', hanswer⟩ := Prog.exec_answer (mem_sends hsent)
    change sent.outcome = issueT1 at hanswer
    rw [hanswer] at haccepted
    cases haccepted
    have hloads : sampleRuntime.jsonLoads (ascii bodyT1) =
        .ok (.obj [("accessToken", .str "T1"), ("refreshToken", .str "R1")]) := rfl
    refine ⟨fun e he => (nomatch hloads.symm.trans he), fun body access hbody haccess => ?_⟩
    cases hloads.symm.trans hbody
    cases haccess
    refine ⟨fun payload hpayload => (nomatch hpayload), fun _ => ?_, ?_⟩
    · decide +kernel
    · decide +kernel

/-- A cached expiry beyond the doubles leaves `get_token` as an
    `OverflowError`, and stays cached. -/
theorem beyond_doubles_escapes :
    ∃ tr, sampleAuthenticator.getToken.Emits tr (.error (.builtin .overflowError)) ∧
      storeReads tr = [StoreContent.read sampleAuthenticator.rt beyondJson
        (.redis (some (.text beyondText)))] ∧
      (∀ ev ∈ tr, ordinaryElsewhere sampleAuthenticator.rt ev) ∧
      sends tr = [] ∧ ∀ ev ∈ tr, ∀ key, ev.op ≠ .storeDelete key := by
  have hread : StoreContent.read sampleAuthenticator.rt beyondJson
      (.redis (some (.text beyondText))) = .error .overflowError := by decide +kernel
  rw [hread]
  refine ⟨[⟨.clock, (0 : ℚ)⟩, ⟨.storeGet sampleAuthenticator.cacheKey, .error .overflowError⟩],
    ⟨0, _, rfl, .error .overflowError, [], rfl, rfl, rfl⟩, rfl, fun ev hev => ?_, rfl,
    fun ev hev key => ?_⟩
  · rcases List.mem_cons.mp hev with rfl | hev
    · trivial
    · rw [List.mem_singleton.mp hev]
      trivial
  · rcases List.mem_cons.mp hev with rfl | hev
    · exact nofun
    · rw [List.mem_singleton.mp hev]
      exact nofun

end JibitSdk.Guarantees
