import JibitSdk.Guarantees.TokenContract
import JibitSdk.Guarantees.World
import JibitSdk.Sdk.Auth.Executors

/-!
# Rejected access tokens

Once an operation is answered 401, its access token stands rejected until a token endpoint issues it
again.  Every call begins with the stored token, so what matters is what a call leaves stored.
-/

namespace JibitSdk.Guarantees

open JibitSdk.Python JibitSdk.Reasoning JibitSdk.Sdk

/-! ## 1. Rejections -/

/-- The request was answered 401. -/
def unauthorized : TransportOutcome → Bool
  | .response response => response.statusCode = 401
  | _ => false

section Rejected
variable (a : ServiceAuthenticator)

/-- The access token in a token endpoint's answer. -/
def issuedAccess (outcome : TransportOutcome) : Option String :=
  (answeredBody a outcome).bind fun body =>
    ServiceAuthenticator.stringField body a.spec.accessResponseField

/-- Whether the token stands rejected one event later. -/
def rejectedNext (token : String) (before : Bool) : Event effects → Bool
  | ⟨.send (.operation t) _, outcome⟩ => before || (t = token && unauthorized outcome)
  | ⟨.send .token _, outcome⟩ => before && issuedAccess a outcome ≠ some token
  | _ => before

/-- An operation with the token was answered 401, and no token endpoint has issued it since. -/
def rejected (log : List (Event effects)) (token : String) : Bool :=
  log.foldl (rejectedNext a token) false

theorem rejected_concat (log : List (Event effects)) (e : Event effects) (token : String) :
    rejected a (log ++ [e]) token = rejectedNext a token (rejected a log token) e := by
  rw [rejected, List.foldl_append]
  rfl

/-- The access token an event attaches to an operation. -/
def attached : Event effects → Option String
  | ⟨.send (.operation token) _, _⟩ => some token
  | _ => none

/-- No operation carries a token that stands rejected. -/
def NotRejected (before : List (Event effects)) (e : Event effects) : Prop :=
  ∀ token ∈ attached e, rejected a before token = false

instance (before : List (Event effects)) (e : Event effects) : Decidable (NotRejected a before e) :=
  inferInstanceAs (Decidable (∀ token ∈ attached e, rejected a before token = false))

end Rejected

/-! ## 2. Headers -/

theorem lookup_setHeader (headers : List (String × String)) (name value : String) :
    (setHeader headers name value).lookup name = some value := by
  have hmap : ∀ rest : List (String × String), (rest.lookup name).isSome = true →
      (rest.map fun h => if h.1 = name then (name, value) else h).lookup name = some value := by
    intro rest
    induction rest with
    | nil => exact fun h => nomatch h
    | cons head rest ih =>
      intro h
      rw [List.map_cons]
      by_cases hname : head.1 = name
      · rw [if_pos hname, List.lookup_cons_self]
      · have hskip : (name == head.1) = false := beq_eq_false_iff_ne.mpr (Ne.symm hname)
        rw [List.lookup_cons, hskip] at h
        rw [if_neg hname, List.lookup_cons, hskip]
        exact ih h
  unfold setHeader
  by_cases h : (headers.lookup name).isSome = true
  · rw [if_pos h]
    exact hmap headers h
  · rw [if_neg h, List.lookup_append, Option.not_isSome_iff_eq_none.mp h, Option.none_or,
      List.lookup_cons_self]

theorem lookup_setdefault {headers : List (String × String)} {name value : String}
    (h : headers.lookup name = some value) (key default : String) :
    (setdefault headers key default).lookup name = some value := by
  unfold setdefault
  split
  · exact h
  · rw [List.lookup_append, h, Option.some_or]

/-- An operation carries the access token its purpose names, in the header the provider reads. -/
theorem sent_authorization (e : RequestEngine) (options : RequestOptions)
    (tokenType accessToken correlationId endpoint : String) :
    (e.transportRequest (authorize options tokenType accessToken) correlationId
      endpoint).headers.lookup "Authorization" = some (tokenType ++ " " ++ accessToken) := by
  show (RequestEngine.requestHeaders (authorize options tokenType accessToken)
    correlationId).lookup "Authorization" = _
  have h := lookup_setdefault (lookup_setdefault
    (lookup_setHeader options.headers "Authorization" (tokenType ++ " " ++ accessToken))
    "Accept" "application/json") "X-Correlation-ID" correlationId
  cases hkey : options.idempotencyKey with
  | none =>
    rw [RequestEngine.requestHeaders, show (authorize options _ _).idempotencyKey = _ from hkey]
    exact h
  | some key =>
    rw [RequestEngine.requestHeaders, show (authorize options _ _).idempotencyKey = _ from hkey]
    exact lookup_setdefault h "Idempotency-Key" key

/-! ## 3. Calls -/

/-- What an onlooker notes of one call. -/
structure CallNotes where
  /-- An operation was answered 401. -/
  refused : Bool := false
  /-- The body of such an answer could not be decoded. -/
  unreadable : Bool := false
  /-- The last token request since then obtained a token. -/
  recovered : Bool := false
  deriving DecidableEq

section Notes
variable (x : AuthenticatedRequestEngine)

/-- Decoding the body of an error answer raises nothing but a `ValueError`. -/
def readable : TransportOutcome → Bool
  | .response response => (x.engine.bodyFields response).toBool
  | _ => true

/-- The notes one event later. -/
def CallNotes.next (n : CallNotes) : Event effects → CallNotes
  | ⟨.send (.operation _) _, outcome⟩ =>
    { n with
      refused := n.refused || unauthorized outcome
      unreadable := n.unreadable || (unauthorized outcome && !readable x outcome) }
  | ⟨.send .token _, outcome⟩ =>
    { n with recovered := n.refused && obtains x.authenticator outcome }
  | _ => n

/-- The notes of a whole call. -/
def callNotes (part : List (Event effects)) : CallNotes := part.foldl (CallNotes.next x) {}

theorem callNotes_concat (part : List (Event effects)) (e : Event effects) :
    callNotes x (part ++ [e]) = (callNotes x part).next x e := by
  rw [callNotes, List.foldl_append]
  rfl

/-- Every 401 of the call could be decoded, and if the operation may be replayed, its recovery
    obtained a token. -/
def CallNotes.settled (n : CallNotes) (options : RequestOptions) : Bool :=
  !n.unreadable && (!(n.refused && canReplay options) || n.recovered)

end Notes

/-! ## 4. Watching a call -/

/-- A stage of a call: what is stored, which tokens stand rejected, what was noted. -/
abbrev Stage : Type := Option Stored → (String → Bool) → CallNotes → Prop

section Watching
variable {σ : Type} {x : AuthenticatedRequestEngine} {env : Handler σ}
  {earlier : List (Event effects)} {P P' : Stage}

/-- No operation carried a rejected token, and since the `earlier` events the call has come to a
    stage. -/
def Watched (x : AuthenticatedRequestEngine) (earlier : List (Event effects)) (P : Stage)
    (s : (Store × σ) × List (Event effects)) : Prop :=
  Along (NotRejected x.authenticator) s.2 ∧ ∃ part, s.2 = earlier ++ part ∧
    P (s.1.1 x.authenticator.cacheKey) (rejected x.authenticator s.2) (callNotes x part)

theorem Watched.mono {s : (Store × σ) × List (Event effects)} (hs : Watched x earlier P s)
    (h : ∀ stored rejected n, P stored rejected n → P' stored rejected n) :
    Watched x earlier P' s := by
  rcases hs with ⟨hlog, part, heq, hP⟩
  exact ⟨hlog, part, heq, h _ _ _ hP⟩

theorem Watched.step {o : Effect} {answer : Effect.Answer o}
    {s s' : (Store × σ) × List (Event effects)} (hs : Watched x earlier P s)
    (hstep : (worldLog env).step o s answer s')
    (hattached : ∀ token ∈ attached ⟨o, answer⟩, ∀ stored rejected n, P stored rejected n →
      rejected token = false)
    (hP : ∀ rejected n, P (s.1.1 x.authenticator.cacheKey) rejected n →
      P' (s'.1.1 x.authenticator.cacheKey)
        (fun token => rejectedNext x.authenticator token (rejected token) ⟨o, answer⟩)
        (n.next x ⟨o, answer⟩)) :
    Watched x earlier P' s' := by
  rcases hs with ⟨hlog, part, heq, hstage⟩
  have hlog' : s'.2 = s.2 ++ [⟨o, answer⟩] := hstep.2
  refine ⟨?_, part ++ [⟨o, answer⟩], ?_, ?_⟩
  · rw [hlog']
    exact along_concat.mpr ⟨hlog, fun token htoken => hattached token htoken _ _ _ hstage⟩
  · rw [hlog', heq, List.append_assoc]
  · have hrejected : rejected x.authenticator (s.2 ++ [⟨o, answer⟩]) = fun token =>
        rejectedNext x.authenticator token (rejected x.authenticator s.2 token) ⟨o, answer⟩ :=
      funext fun token => rejected_concat ..
    rw [hlog', callNotes_concat, hrejected]
    exact hP _ _ hstage

/-- Operations that are neither sends nor writes to the store. -/
def isCalm : Effect → Prop
  | .send _ _ | .storeSet _ _ | .storeDelete _ => False
  | _ => True

theorem isCalm_of {o : Effect} (h : isLocal o ∨ isLockWork o) : isCalm o := by
  cases o <;> simp_all [isLocal, isLockWork, isCalm]

theorem Watched.calm {o : Effect} {answer : Effect.Answer o}
    {s s' : (Store × σ) × List (Event effects)} (hs : Watched x earlier P s)
    (hstep : (worldLog env).step o s answer s') (ho : isCalm o) : Watched x earlier P s' := by
  have hworld : inWorld env o s.1 = (answer, s'.1) := hstep.1
  have hstored : s'.1.1 = s.1.1 := by
    rw [show s'.1 = (inWorld env o s.1).2 from (congrArg Prod.snd hworld).symm]
    cases o <;> first | rfl | exact ho.elim
  have hnone : attached ⟨o, answer⟩ = none := by cases o <;> first | rfl | exact ho.elim
  apply hs.step hstep
  · intro token htoken
    rw [hnone] at htoken
    exact nomatch htoken
  · intro rejected n hP
    rw [hstored]
    cases o <;> first | exact hP | exact ho.elim

theorem watched_keptLocally : KeptLocally (worldLog env) anyOperation (Watched x earlier P) :=
  fun _ _ ho hs => ⟨trivial, fun _ _ hstep => hs.calm hstep (isCalm_of (.inl ho))⟩

theorem watched_keptByLocks : KeptByLocks (worldLog env) anyOperation (Watched x earlier P) :=
  fun _ _ ho hs => ⟨trivial, fun _ _ hstep => hs.calm hstep (isCalm_of (.inr ho))⟩

/-! ## 5. Token calls -/

/-- What a token call makes of a stage: `P` before it, `A outcome` after a token request, `D token`
    once it has a token to return. -/
structure CallStages (x : AuthenticatedRequestEngine) (call : TokenCall) (P : Stage)
    (A : TransportOutcome → Stage) (D : TokenState → Stage) : Prop where
  send : ∀ outcome stored rejected n, P stored rejected n →
    A outcome stored
      (fun token => rejected token && issuedAccess x.authenticator outcome ≠ some token)
      { n with recovered := n.refused && obtains x.authenticator outcome }
  again : ∀ outcome stored rejected n, obtains x.authenticator outcome = false →
    A outcome stored rejected n → P stored rejected n
  set : ∀ outcome stored rejected n token, obtains x.authenticator outcome = true →
    issuedAccess x.authenticator outcome = some token.accessValue →
      A outcome stored rejected n → D token (some (.token token)) rejected n
  malformed : ∀ e rejected n, P (some (.malformed e)) rejected n → P none rejected n
  reuse : ∀ cached now rejected n, call.reuses x.authenticator now cached = true →
    P (some (.token cached)) rejected n → D cached (some (.token cached)) rejected n

section Calls
variable {call : TokenCall} {A : TransportOutcome → Stage} {D : TokenState → Stage}

/-- How a token call ends. -/
def CallEnd (P : Stage) (D : TokenState → Stage) : Except PyError TokenState → Stage
  | .ok token => D token
  | .error _ => fun stored rejected n =>
    P stored rejected n ∨ ∃ token, D token stored rejected n

theorem accepted_of_transient {outcome : TransportOutcome} (h : transientOutcome outcome = true) :
    accepted outcome = none := by
  cases haccepted : accepted outcome with
  | none => rfl
  | some response => exact nomatch h.symm.trans (not_transient_of_accepted haccepted)

theorem watchedExchange (stages : CallStages x call P A D) (refresh : Option TokenState) :
    ExchangeRule (worldLog env) anyOperation x.authenticator refresh True (Watched x earlier P)
      (fun outcome => Watched x earlier (A outcome))
      (fun token => Watched x earlier (D token)) where
  before := watched_keptLocally
  after _ := watched_keptLocally
  done _ := watched_keptLocally
  send _ _ _ s _ _ hs := by
    refine ⟨trivial, fun outcome s' hstep => hs.step hstep (fun _ h => by cases h) ?_⟩
    intro rejected n hP
    -- a send leaves the store alone
    have hstored : s'.1.1 = s.1.1 := by
      rw [show s'.1 = (inWorld env _ s.1).2 from (congrArg Prod.snd hstep.1).symm]
      rfl
    rw [hstored]
    exact stages.send outcome _ rejected n hP
  again outcome s htransient hA := by
    -- an outcome that is retried brings no token
    have hnone : obtains x.authenticator outcome = false := by
      rw [obtains, accepted_of_transient htransient]
    exact hA.mono fun stored rejected n => stages.again outcome stored rejected n hnone
  clock _ _ _ := trivial
  unsendable _ _ := .inl trivial
  failed outcome s hnone hA :=
    have hP := hA.mono fun stored rejected n => stages.again outcome stored rejected n hnone
    ⟨trivial, hP, fun _ _ hstep => hP.calm hstep trivial⟩
  set response correlationId now s s' token hA hobtains hclock hread := by
    refine ⟨trivial, fun s'' hstep => ?_⟩
    apply (hA.calm hclock trivial).step hstep fun _ h => by cases h
    intro rejected n hA
    -- the new token is under the key from now on
    have hstored : s''.1.1 x.authenticator.cacheKey = some (.token token) := by
      rw [show s''.1 = (inWorld env _ s'.1).2 from (congrArg Prod.snd hstep.1).symm]
      exact Function.update_self ..
    -- and it is the token that the response issued
    have hissued : issuedAccess x.authenticator (.response response) = some token.accessValue := by
      rcases tokenAt_ok hread with ⟨body, access, hload, haccess, hparsed⟩
      rw [issuedAccess, answeredBody, accepted_of_obtains hobtains]
      simp only [hload]
      show ServiceAuthenticator.stringField body _ = some token.accessToken
      rw [haccess, (parsedToken_ok hparsed).1]
    rw [hstored]
    exact stages.set _ _ rejected n token hobtains hissued hA

theorem watchedCall (stages : CallStages x call P A D) {s : (Store × σ) × List (Event effects)}
    (hs : Watched x earlier P s) :
    (call.run x.authenticator).Meets (worldLog env) anyOperation
      (fun r => Watched x earlier (CallEnd P D r)) s := by
  have rule : TokenRule (worldLog env) anyOperation x.authenticator call (fun _ => True) True
      (Watched x earlier P)
      (fun cached s => Watched x earlier P s ∧
        s.1.1 x.authenticator.cacheKey = cached.map .token)
      (fun r => Watched x earlier (CallEnd P D r)) :=
    -- the parts of the contract, each from the stage it belongs to
    { forget := fun _ _ h => h.1
      locksBefore := watched_keptByLocks
      locksAfter := fun _ => watched_keptByLocks
      lockFailure := fun _ _ _ => ⟨fun _ _ _ _ => trivial, fun _ _ => trivial⟩
      failed := fun _ s e h => by
        rcases h with h | ⟨r, h⟩
        · exact h.mono fun _ _ _ hP => .inl hP
        · cases r with
          | ok token => exact h.mono fun _ _ _ hD => .inr ⟨token, hD⟩
          | error error => exact h
      clockBefore := fun s hs => ⟨trivial, fun _ _ hstep => ⟨trivial, hs.calm hstep trivial⟩⟩
      clockAfter := fun _ s hs => ⟨trivial, fun _ s' hstep => by
        -- reading the clock leaves the store alone
        have hstored : s'.1.1 = s.1.1 := by
          rw [show s'.1 = (inWorld env .clock s.1).2 from (congrArg Prod.snd hstep.1).symm]
          rfl
        rw [hstored]
        exact ⟨trivial, hs.1.calm hstep trivial, hs.2⟩⟩
      get := fun _ _ => trivial
      found := fun s cached s' hs hstep => by
        have hfound := Prod.mk.inj hstep.1
        refine ⟨hs.calm hstep trivial, ?_⟩
        rw [← hfound.2]
        exact Store.get_ok hfound.1
      malformed := fun s e s' hs hstep => by
        have hfound := Prod.mk.inj hstep.1
        have hs' := hs.calm hstep trivial
        -- a state that cannot be decoded is deleted, or the exception ends the call
        by_cases hcaught : caught e = true
        · rw [if_pos hcaught]
          refine ⟨trivial, fun s'' hdelete => ?_⟩
          have hstored : s''.1.1 x.authenticator.cacheKey = none := by
            rw [show s''.1 = (inWorld env _ s'.1).2 from (congrArg Prod.snd hdelete.1).symm]
            exact Function.update_self ..
          refine ⟨hs'.step hdelete (fun _ h => nomatch h) fun rejected n hP => ?_, hstored⟩
          have hmalformed : s'.1.1 x.authenticator.cacheKey = some (.malformed e) := by
            rw [← hfound.2]
            exact Store.get_error hfound.1
          rw [hmalformed] at hP
          rw [hstored]
          exact stages.malformed e rejected n hP
        · rw [if_neg hcaught]
          exact hs'.mono fun _ _ _ hP => .inl hP
      reuse := fun cached now s _ hs hreuses => by
        -- what is reused is the state the store holds
        rcases hs with ⟨⟨hlog, part, heq, hP⟩, hstored⟩
        refine ⟨hlog, part, heq, ?_⟩
        rw [hstored] at hP ⊢
        exact stages.reuse cached now _ _ hreuses hP
      exchange := fun cached now s _ hs _ => by
        refine (refreshOrAcquire_meets (fun c _ => watchedExchange stages (some c))
          (watchedExchange stages none) hs.1).mono fun r s h => ?_
        cases r with
        | ok token => exact h
        | error error => exact h.2.mono fun _ _ _ hP => .inl hP }
  exact tokenCall_meets rule hs

end Calls

/-! ## 6. The stages of a call -/

/-- No token that stands rejected is stored. -/
def Clean : Stage := fun stored rejected _ =>
  ∀ token, stored = some (.token token) → rejected token.accessValue = false

/-- Nothing was refused so far. -/
def Unrefused : Stage := fun stored rejected n => Clean stored rejected n ∧ n = {}

/-- An operation with the stored token was refused, and the token was not replaced. -/
def Pending (access : String) : Stage := fun stored _ n =>
  (∃ token, stored = some (.token token) ∧ token.accessValue = access) ∧ n = { refused := true }

/-- The token is stored and does not stand rejected. -/
def Holding (noted : CallNotes) (token : TokenState) : Stage := fun stored rejected n =>
  Clean stored rejected n ∧ stored = some (.token token) ∧ n = noted

theorem get_stages : CallStages x .get Unrefused
    (fun outcome stored rejected n => Unrefused stored rejected n ∧
      ∀ token, issuedAccess x.authenticator outcome = some token → rejected token = false)
    (Holding {}) where
  send outcome stored rejected n hP := by
    rcases hP with ⟨hclean, rfl⟩
    refine ⟨⟨fun token hstored => ?_, rfl⟩, fun token hissued => ?_⟩
    · show (rejected token.accessValue && _) = false
      rw [hclean token hstored, Bool.false_and]
    · show (rejected token && decide (issuedAccess x.authenticator outcome ≠ some token)) = false
      rw [decide_eq_false (not_not_intro hissued), Bool.and_false]
  again _ _ _ _ _ hA := hA.1
  set outcome stored rejected n token _ hissued hA := by
    refine ⟨fun token' heq => ?_, rfl, hA.1.2⟩
    cases heq
    exact hA.2 _ hissued
  malformed _ _ _ hP := ⟨fun _ h => (nomatch h), hP.2⟩
  reuse _ _ _ _ _ hP := ⟨hP.1, rfl, hP.2⟩

theorem recover_stages (access : String) : CallStages x (.recover access) (Pending access)
    (fun outcome stored rejected n =>
      (∃ token, stored = some (.token token) ∧ token.accessValue = access) ∧
      n = { refused := true, recovered := obtains x.authenticator outcome } ∧
      ∀ token, issuedAccess x.authenticator outcome = some token → rejected token = false)
    (Holding { refused := true, recovered := true }) where
  send outcome stored rejected n hP := by
    rcases hP with ⟨hstored, rfl⟩
    refine ⟨hstored, rfl, fun token hissued => ?_⟩
    show (rejected token && decide (issuedAccess x.authenticator outcome ≠ some token)) = false
    rw [decide_eq_false (not_not_intro hissued), Bool.and_false]
  again outcome stored rejected n hnone hA := by
    rw [hnone] at hA
    exact ⟨hA.1, hA.2.1⟩
  set outcome stored rejected n token hobtains hissued hA := by
    rw [hobtains] at hA
    refine ⟨fun token' heq => ?_, rfl, hA.2.1⟩
    cases heq
    exact hA.2.2 _ hissued
  malformed _ _ _ hP := by
    rcases hP with ⟨⟨token, htoken, -⟩, -⟩
    exact nomatch htoken
  -- The refused token itself is stored, and a recovery does not reuse it.
  reuse cached now rejected n hreuses hP := by
    rcases hP with ⟨⟨token, htoken, haccess⟩, -⟩
    cases htoken
    rw [TokenCall.reuses, haccess, decide_eq_false (not_not_intro rfl), Bool.false_and] at hreuses
    exact nomatch hreuses

/-! ## 7. Operations -/

/-- The error that says an access token was refused. -/
def denied {α : Type} : Except PyError α → Bool
  | .ok _ => false
  | .error error => error.isKind .authentication

theorem errorKind_authentication (status : ℤ) :
    decide (RequestEngine.errorKind status = .authentication) = decide (status = 401) := by
  unfold RequestEngine.errorKind
  by_cases h : status = 401
  · rw [if_pos h, decide_eq_true h]
    rfl
  · rw [if_neg h, decide_eq_false h]
    split
    · rfl
    split
    · rfl
    split
    · rfl
    split
    · rfl
    split <;> rfl

/-- Access is denied by a readable 401 and by nothing else. -/
theorem denied_outcome (y : RequestEngine.Exchange) (outcome : TransportOutcome) :
    denied (outcomeResult x.engine y outcome) = (unauthorized outcome && readable x outcome) := by
  cases outcome with
  | timeoutError => rfl
  | networkError => rfl
  | response response =>
    rw [outcomeResult]
    by_cases hok : 200 ≤ response.statusCode ∧ response.statusCode < 300
    · have hnot : unauthorized (.response response) = false := by
        apply decide_eq_false
        omega
      rw [if_pos hok, hnot, Bool.false_and]
      rfl
    · rw [if_neg hok, RequestEngine.mapError, readable]
      cases hbody : x.engine.bodyFields response with
      | error error =>
        rcases bodyFields_error hbody with ⟨b, rfl⟩
        exact (Bool.and_false _).symm
      | ok body =>
        show decide (RequestEngine.errorKind response.statusCode = .authentication) = (_ && true)
        rw [errorKind_authentication, Bool.and_true]
        rfl

theorem denied_endpoint {path : String} {error : PyError}
    (h : x.engine.validatedEndpoint path = .error error) :
    error.isKind .authentication = false := by
  unfold RequestEngine.validatedEndpoint at h
  split at h
  · cases h
    rfl
  · split at h
    · cases h
      rfl
    · cases h

/-- The stage after an operation with `token` was answered. -/
def AfterSend (x : AuthenticatedRequestEngine) (noted : CallNotes) (token : TokenState)
    (outcome : TransportOutcome) : Stage := fun stored rejected n =>
  stored = some (.token token) ∧
    if unauthorized outcome then
      n = { noted with refused := true, unreadable := !readable x outcome }
    else Clean stored rejected n ∧ n = noted

/-- The stage after an operation with `token` has ended. -/
def SendEnd (noted : CallNotes) (token : TokenState) (r : Except PyError RawResponse) : Stage :=
  fun stored rejected n =>
    if denied r then stored = some (.token token) ∧ n = { noted with refused := true }
    else n.unreadable = true ∨ Clean stored rejected n ∧ n = noted

theorem sendWith_watched {options : RequestOptions} {token : TokenState} {noted : CallNotes}
    (hnoted : noted.unreadable = false) {s : (Store × σ) × List (Event effects)}
    (hs : Watched x earlier (Holding noted token) s) :
    (x.sendWith options token).Meets (worldLog env) anyOperation
      (fun r => Watched x earlier (SendEnd noted token r)) s := by
  have rule : SendRule (worldLog env) anyOperation x.engine (.operation token.accessValue)
      (authorize options token.tokenType token.accessValue)
      (Watched x earlier (Holding noted token))
      (fun outcome => Watched x earlier (AfterSend x noted token outcome)) :=
    -- a send of the operation, authorized with the token that is held
    { before := watched_keptLocally
      after := fun _ => watched_keptLocally
      send := fun _ _ s _ hs => by
        refine ⟨trivial, fun outcome s' hstep => hs.step hstep ?_ ?_⟩
        · intro token' htoken stored rejected n hP
          cases htoken
          exact hP.1 token hP.2.1
        · intro rejected n hP
          have hstored : s'.1.1 = s.1.1 := by
            rw [show s'.1 = (inWorld env _ s.1).2 from (congrArg Prod.snd hstep.1).symm]
            rfl
          rcases hP with ⟨hclean, htoken, rfl⟩
          rw [hstored]
          refine ⟨htoken, ?_⟩
          -- a 401 rejects the token that was sent; another outcome rejects nothing
          cases hunauthorized : unauthorized outcome with
          | true =>
            rw [if_pos rfl]
            show CallNotes.mk (n.refused || unauthorized outcome)
              (n.unreadable || (unauthorized outcome && !readable x outcome)) n.recovered = _
            rw [hunauthorized, hnoted, Bool.or_true, Bool.false_or, Bool.true_and]
          | false =>
            rw [if_neg Bool.false_ne_true]
            refine ⟨fun token' hstored' => ?_, ?_⟩
            · show (rejected token'.accessValue || (_ && unauthorized outcome)) = false
              rw [hclean token' hstored', hunauthorized, Bool.and_false]
              rfl
            · show CallNotes.mk (n.refused || unauthorized outcome)
                (n.unreadable || (unauthorized outcome && !readable x outcome)) n.recovered = n
              rw [hunauthorized, Bool.or_false, Bool.false_and, Bool.or_false]
      again := fun outcome s htransient hs => hs.mono fun stored rejected n h => by
        -- a 401 is not transient, so it is never retried
        have hnot : unauthorized outcome = false := by
          cases outcome with
          | response response =>
            apply decide_eq_false
            intro h401
            rw [transientOutcome, h401] at htransient
            cases htransient
          | _ => rfl
        rw [AfterSend, hnot, if_neg Bool.false_ne_true] at h
        exact ⟨h.2.1, h.1, h.2.2⟩ }
  refine (execute_meets rule hs).mono fun r s h => ?_
  rcases h with ⟨error, hbad, rfl, hs⟩ | ⟨y, outcome, -, rfl, hs⟩
  · refine hs.mono fun stored rejected n h => ?_
    rw [SendEnd, denied, denied_endpoint hbad, if_neg Bool.false_ne_true]
    exact .inr ⟨h.1, h.2.2⟩
  · refine hs.mono fun stored rejected n h => ?_
    rw [SendEnd, denied_outcome]
    rcases h with ⟨hstored, h⟩
    -- the call ends with a 401 the SDK recognizes, or with one it cannot read
    cases hunauthorized : unauthorized outcome with
    | false =>
      rw [hunauthorized, if_neg Bool.false_ne_true] at h
      rw [Bool.false_and, if_neg Bool.false_ne_true]
      exact .inr h
    | true =>
      rw [hunauthorized, if_pos rfl] at h
      cases hreadable : readable x outcome with
      | true =>
        rw [hreadable] at h
        rw [Bool.and_self, if_pos rfl]
        refine ⟨hstored, ?_⟩
        rw [h]
        cases noted
        cases hnoted
        rfl
      | false =>
        rw [hreadable] at h
        rw [Bool.and_false, if_neg Bool.false_ne_true]
        left
        rw [h]
        rfl

/-- Where a call leaves its token: out of the store, or not rejected, if the call was settled. -/
def SettledClean (options : RequestOptions) : Stage := fun stored rejected n =>
  n.settled options = true → Clean stored rejected n

theorem settledClean_of_sendEnd {options : RequestOptions} {noted : CallNotes} {token : TokenState}
    {r : Except PyError RawResponse} {s : (Store × σ) × List (Event effects)}
    (hs : Watched x earlier (SendEnd noted token r) s) (hr : denied r = false) :
    Watched x earlier (SettledClean options) s := by
  refine hs.mono fun stored rejected n h hsettled => ?_
  rw [SendEnd, hr, if_neg Bool.false_ne_true] at h
  rcases h with hunreadable | h
  · rw [CallNotes.settled, hunreadable] at hsettled
    exact nomatch hsettled
  · exact h.1

theorem invalidate_watched {options : RequestOptions} {error : PyError}
    {s : (Store × σ) × List (Event effects)} (hs : Watched x earlier P s) :
    Prog.Meets (worldLog env) anyOperation (fun _ => Watched x earlier (SettledClean options)) (do
      x.authenticator.invalidate
      (.throw error : Py RawResponse)) s := by
  refine ⟨trivial, fun _ s' hstep => hs.step hstep (fun _ h => nomatch h) ?_⟩
  have hstored : s'.1.1 x.authenticator.cacheKey = none := by
    rw [show s'.1 = (inWorld env _ s.1).2 from (congrArg Prod.snd hstep.1).symm]
    exact Function.update_self ..
  intro rejected n _ _ token htoken
  rw [hstored] at htoken
  exact nomatch htoken

theorem replay_watched {options : RequestOptions} {token : TokenState} {noted : CallNotes}
    (hnoted : noted.unreadable = false) {s : (Store × σ) × List (Event effects)}
    (hs : Watched x earlier (Holding noted token) s) :
    (x.replay options token).Meets (worldLog env) anyOperation
      (fun _ => Watched x earlier (SettledClean options)) s := by
  refine (sendWith_watched hnoted hs).attempt_bind fun r s h => ?_
  cases r with
  | ok response => exact settledClean_of_sendEnd h rfl
  | error error =>
    show Prog.Meets _ _ _ (if error.isKind .authentication then do
      x.authenticator.invalidate
      .throw error
    else .throw error) s
    by_cases hdenied : error.isKind .authentication = true
    · rw [if_pos hdenied]
      exact invalidate_watched h
    · rw [if_neg hdenied]
      exact settledClean_of_sendEnd h (Bool.eq_false_iff.mpr hdenied)

/-- One call: it never attaches a rejected token, and leaves none behind if it was settled. -/
theorem execute_watched (options : RequestOptions) {s : (Store × σ) × List (Event effects)}
    (hs : Watched x earlier Unrefused s) :
    (x.execute options).Meets (worldLog env) anyOperation
      (fun _ => Watched x earlier (SettledClean options)) s := by
  unfold AuthenticatedRequestEngine.execute
  refine (watchedCall get_stages hs).bind (fun token s h => ?_) (fun error s h => ?_)
  · refine (sendWith_watched rfl h).attempt_bind fun r s h => ?_
    cases r with
    | ok response => exact settledClean_of_sendEnd h rfl
    | error error =>
      show Prog.Meets _ _ _ (if error.isKind .authentication then
        if canReplay options then do
          let replacement ← x.authenticator.recoverFromUnauthorized token.accessValue
          x.replay options replacement
        else do
          x.authenticator.invalidate
          .throw error
      else .throw error) s
      by_cases hdenied : error.isKind .authentication = true
      · rw [if_pos hdenied]
        by_cases hreplay : canReplay options = true
        · rw [if_pos hreplay]
          have hpending : Watched x earlier (Pending token.accessValue) s := by
            refine h.mono fun stored rejected n h => ?_
            rw [SendEnd, denied, hdenied, if_pos rfl] at h
            exact ⟨⟨token, h.1, rfl⟩, h.2⟩
          refine (watchedCall (recover_stages token.accessValue) hpending).bind
            (fun replacement s h => replay_watched rfl h) (fun error s h => ?_)
          -- The recovery failed: the call is not settled, or a token was stored after all.
          refine h.mono fun stored rejected n h hsettled => ?_
          rcases h with ⟨-, rfl⟩ | ⟨replacement, h⟩
          · rw [CallNotes.settled, hreplay] at hsettled
            exact nomatch hsettled
          · exact h.1
        · rw [if_neg hreplay]
          exact invalidate_watched h
      · rw [if_neg hdenied]
        exact settledClean_of_sendEnd h (Bool.eq_false_iff.mpr hdenied)
  · refine h.mono fun stored rejected n h _ => ?_
    rcases h with h | ⟨token, h⟩
    · exact h.1
    · exact h.1

end Watching

/-! ## 8. Sessions -/

/-- In every run of calls by one worker over one store, whatever the world answers: if every call
    was settled, no operation ever carries an access token that stands rejected. -/
theorem rejected_token_not_reused {σ : Type} (x : AuthenticatedRequestEngine)
    (calls : List RequestOptions) (store : Store) (env : Handler σ) (s : σ)
    (hsettled : ∀ part ∈ (Prog.runs (S := effects) (inWorld env) x.execute calls (store, s)).1,
      (callNotes x part.2).settled part.1 = true) :
    Along (NotRejected x.authenticator)
      (Prog.wholeLog (Prog.runs (S := effects) (inWorld env) x.execute calls (store, s)).1) := by
  -- nothing is rejected before the first call
  have hempty : Along (NotRejected x.authenticator) [] ∧
      Clean (store x.authenticator.cacheKey) (rejected x.authenticator []) {} :=
    ⟨along_nil _, fun _ _ => rfl⟩
  -- one call keeps the log clean if its own notes are settled
  have hstep : ∀ options (s : Store × σ) log, (Along (NotRejected x.authenticator) log ∧
      Clean (s.1 x.authenticator.cacheKey) (rejected x.authenticator log) {}) →
      (callNotes x ((x.execute options).exec (S := effects) (inWorld env) s).1).settled options =
        true →
      Along (NotRejected x.authenticator)
          (log ++ ((x.execute options).exec (S := effects) (inWorld env) s).1) ∧
        Clean (((x.execute options).exec (S := effects) (inWorld env) s).2.1.1
          x.authenticator.cacheKey) (rejected x.authenticator
            (log ++ ((x.execute options).exec (S := effects) (inWorld env) s).1)) {} := by
    intro options s log hs hpart
    have hstart : Watched x log Unrefused (s, log) :=
      ⟨hs.1, [], (List.append_nil log).symm, hs.2, rfl⟩
    rcases (execute_watched options hstart).exec_logged with ⟨hlog, part, heq, hclean⟩
    rw [← List.append_cancel_left heq] at hclean
    exact ⟨hlog, hclean hpart⟩
  exact (Prog.runs_preserve
    (J := fun s log => Along (NotRejected x.authenticator) log ∧
      Clean (s.1 x.authenticator.cacheKey) (rejected x.authenticator log) {})
    (C := fun options part => (callNotes x part).settled options = true)
    hstep calls (s := (store, s)) hempty hsettled).1

/-- A call that is refused, refreshes and is replayed, and a call after it. -/
theorem rejected_token_not_reused_refreshed :
    Along (NotRejected sampleAuthenticator) (Prog.wholeLog (Prog.runs (S := effects)
      (inWorld scripted) sampleExecutor.execute [sampleOptions .readOnly, sampleOptions .readOnly]
      ((fun _ => none), [issueT1, answer 401 "\x7b\x7d", issueT2, answer 200 "\x7b\x7d",
        answer 200 "\x7b\x7d"])).1) :=
  rejected_token_not_reused sampleExecutor [sampleOptions .readOnly, sampleOptions .readOnly]
    (fun _ => none) scripted [issueT1, answer 401 "\x7b\x7d", issueT2, answer 200 "\x7b\x7d",
      answer 200 "\x7b\x7d"] (by decide +kernel)

/-- A call that is refused and cannot reach the token endpoint, and a call after it: the second one
    sends the rejected token again. -/
theorem unrecovered_token_reused :
    ¬ Along (NotRejected sampleAuthenticator) (Prog.wholeLog (Prog.runs (S := effects)
      (inWorld scripted) sampleExecutor.execute [sampleOptions .readOnly, sampleOptions .readOnly]
      ((fun _ => none), [issueT1, answer 401 "\x7b\x7d"])).1) := by
  decide +kernel

end JibitSdk.Guarantees
