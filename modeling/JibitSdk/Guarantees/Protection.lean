import JibitSdk.Guarantees.Recovery

/-!
# Protected repetitions

An operation that is repeated only under an idempotency key relies on the key the provider sees.
The code asks whether a key was given; what is sent is the caller's own header if there is one, else
that key, and either of them may be the empty string.
-/

namespace JibitSdk.Guarantees

open JibitSdk.Python JibitSdk.Reasoning JibitSdk.Sdk

/-! ## 1. The key that is sent -/

theorem lookup_setdefault_self (headers : List (String × String)) (name value : String) :
    (setdefault headers name value).lookup name = some ((headers.lookup name).getD value) := by
  unfold setdefault
  split
  · rename_i h
    obtain ⟨found, hfound⟩ := Option.isSome_iff_exists.mp h
    rw [hfound]
    rfl
  · rename_i h
    rw [List.lookup_append, Option.not_isSome_iff_eq_none.mp h, Option.none_or,
      List.lookup_cons_self]
    rfl

theorem lookup_setdefault_ne (headers : List (String × String)) {name other : String}
    (value : String) (h : other ≠ name) :
    (setdefault headers name value).lookup other = headers.lookup other := by
  unfold setdefault
  split
  · rfl
  · rw [List.lookup_append, List.lookup_cons, beq_eq_false_iff_ne.mpr h, List.lookup_nil,
      Option.or_none]

/-- The `Idempotency-Key` of the requests, when the operation has a key. -/
def sentKey (options : RequestOptions) (key : String) : String :=
  (options.headers.lookup "Idempotency-Key").getD key

/-- Every request of an operation with a key carries the same header. -/
theorem request_sentKey (e : RequestEngine) {options : RequestOptions} {key : String}
    (hkey : options.idempotencyKey = some key) (tokenType access id endpoint : String) :
    (e.transportRequest (authorize options tokenType access) id endpoint).headers.lookup
      "Idempotency-Key" = some (sentKey options key) := by
  show (RequestEngine.requestHeaders (authorize options tokenType access) id).lookup _ = _
  rw [← lookup_stableHeaders _ (by decide), stableHeaders_request, hkey]
  show (setdefault _ "Idempotency-Key" key).lookup _ = _
  rw [lookup_setdefault_self, lookup_setdefault_ne _ _ (by decide),
    lookup_stableHeaders _ (by decide)]
  rfl

/-- Every send for the operation is one of its requests with some token. -/
theorem operationSends_request {x : AuthenticatedRequestEngine} {options : RequestOptions}
    {tr : List (Event effects)} {r : Except PyError RawResponse}
    (h : (x.execute options).Emits tr r) :
    ∀ s ∈ operationSends tr, ∃ (token : TokenState) (id endpoint : String),
      x.engine.validatedEndpoint options.path = .ok endpoint ∧ s.request = x.engine.transportRequest
        (authorize options token.tokenType token.accessValue) id endpoint := by
  have block {token : TokenState} {part : List (Event effects)}
    {outcome : Except PyError RawResponse}
      (hpart : (x.sendWith options token).Emits part outcome) :
      ∀ s ∈ sends part, ∃ (token : TokenState) (id endpoint : String),
        x.engine.validatedEndpoint options.path = .ok endpoint ∧
        s.request = x.engine.transportRequest
          (authorize options token.tokenType token.accessValue) id endpoint := by
    intro s hs
    obtain ⟨-, id, endpoint, hpath, hreq⟩ := sendWith_block hpart s hs
    exact ⟨token, id, endpoint, hpath, hreq⟩
  have hget := getToken_only x.authenticator
  have hrecover := recoverFromUnauthorized_only x.authenticator
  cases authenticated_emits h with
  | noToken htoken =>
    rw [operationSends_eq_nil (hget.events htoken)]
    exact fun s hs => absurd hs List.not_mem_nil
  | once htoken hsend hr hrest =>
    rw [operationSends_append, operationSends_append, operationSends_eq_nil (hget.events htoken),
      operationSends_execute hsend, operationSends_of_deletes hrest, List.append_nil]
    exact block hsend
  | unrecovered htoken hsend hr hfailed =>
    rw [operationSends_append, operationSends_append, operationSends_eq_nil (hget.events htoken),
      operationSends_execute hsend, operationSends_eq_nil (hrecover _ |>.events hfailed),
      List.append_nil]
    exact block hsend
  | replayed htoken hsend hr hrecovered hreplay =>
    obtain ⟨tr', hagain, hsame⟩ := replay_emits hreplay
    rw [operationSends_append, operationSends_append, operationSends_append,
      operationSends_eq_nil (hget.events htoken), operationSends_execute hsend,
      operationSends_eq_nil (hrecover _ |>.events hrecovered), operationSends_congr hsame,
      operationSends_execute hagain, List.append_nil]
    intro s hs
    rcases List.mem_append.mp hs with hs | hs
    · exact block hsend s hs
    · exact block hagain s hs

/-- More than one send only under one key that is not empty. -/
def RepeatsKeyed (submissions : List Sent) : Prop :=
  1 < submissions.length → ∃ key, key ≠ "" ∧
    ∀ s ∈ submissions, s.request.headers.lookup "Idempotency-Key" = some key

/-- The condition on the options: no key at all, or one that is sent as something. -/
def EffectiveKey (options : RequestOptions) : Prop :=
  ∀ key, options.idempotencyKey = some key → sentKey options key ≠ ""

theorem repeatsKeyed_of_effectiveKey {x : AuthenticatedRequestEngine} {options : RequestOptions}
    (hsafety : options.safety = .idempotencyProtected) (hkey : EffectiveKey options)
    {tr : List (Event effects)} {r : Except PyError RawResponse}
    (h : (x.execute options).Emits tr r) : RepeatsKeyed (operationSends tr) := by
  intro hmany
  cases hgiven : options.idempotencyKey with
  | none =>
    have hreplay : canReplay options = false := by simp [canReplay, hsafety, hgiven]
    have := operationSends_single hreplay h
    omega
  | some key =>
    refine ⟨sentKey options key, hkey key hgiven, fun s hs => ?_⟩
    obtain ⟨token, id, endpoint, -, hreq⟩ := operationSends_request h s hs
    rw [hreq]
    exact request_sentKey x.engine hgiven _ _ _ _

/-! ## 2. A provider that refuses every token

The second block needs no retries: two cached tokens, both refused, are enough. -/

instance answer_nonempty (o : Effect) : Nonempty (effects.Answer o) := by
  cases o <;> first
    | exact ⟨TransportOutcome.networkError⟩ | exact ⟨()⟩ | exact ⟨(0 : ℚ)⟩ | exact ⟨""⟩
    | exact ⟨Except.ok none⟩ | exact ⟨(0 : ℕ)⟩ | exact ⟨none⟩

/-- A token that never expires. -/
def lasting (access : String) : TokenState := { accessToken := access }

/-- A refusal without a body. -/
def refusal : TransportOutcome := .response ⟨401, [], []⟩

/-- Every request is refused. -/
noncomputable def refusing (o : Effect) (_ : Unit) : Effect.Answer o × Unit :=
  (match o with
    | .send _ _ => refusal
    | o => Classical.choice (answer_nonempty o), ())

theorem mem_sends {tr : List (Event effects)} {s : Sent} (h : s ∈ sends tr) :
    (⟨.send s.purpose s.request, s.outcome⟩ : Event effects) ∈ tr := by
  induction tr with
  | nil => exact absurd h List.not_mem_nil
  | cons ev tr ih =>
    rw [sends_cons] at h
    rcases List.mem_append.mp h with h | h
    · obtain ⟨o, answer⟩ := ev
      cases o <;> first | exact absurd h List.not_mem_nil | skip
      rw [List.mem_singleton.mp h]
      exact List.mem_cons_self
    · exact List.mem_cons_of_mem _ (ih h)

section Refused
variable {x : AuthenticatedRequestEngine} {options : RequestOptions}

theorem replays_eq_denied (r : Except PyError RawResponse) :
    replays options r = (denied r && canReplay options) := by
  cases r <;> rfl

/-- A refused request is sent once and raises the error that makes the execution recover. -/
theorem sendWith_refused (hreplay : canReplay options = true) {endpoint : String}
    (hpath : x.engine.validatedEndpoint options.path = .ok endpoint) (token : TokenState) :
    ∃ tr r, (x.sendWith options token).Emits tr r ∧ replays options r = true ∧
      (sends tr).length = 1 := by
  have hrun := Prog.exec_emits (S := effects) refusing (x.sendWith options token) ()
  generalize htr : ((x.sendWith options token).exec (S := effects) refusing ()).1 = tr at hrun
  generalize ((x.sendWith options token).exec (S := effects) refusing ()).2.2 = r at hrun
  refine ⟨tr, r, hrun, ?_⟩
  rcases execute_emits hrun with ⟨error, hbad, -⟩ | ⟨id, _, started, outcomes, -, hloop, hsends⟩
  · exact nomatch hbad.symm.trans hpath
  · -- Every outcome is the refusal, which no attempt is repeated for.
    have houtcome : ∀ outcome ∈ outcomes, outcome = refusal := by
      intro outcome hmem
      have hsent := mem_sends (hsends ▸ List.mem_map_of_mem hmem :
        (⟨_, _, outcome⟩ : Sent) ∈ sends tr)
      rw [← htr] at hsent
      obtain ⟨_, hanswer⟩ := Prog.exec_answer hsent
      exact hanswer
    cases hloop with
    | last hlast =>
      rw [hsends]
      refine ⟨?_, rfl⟩
      rw [houtcome _ (List.mem_singleton.mpr rfl)]
      rw [replays_eq_denied, denied_outcome, hreplay]
      rfl
    | again hagain hrest =>
      rw [houtcome _ List.mem_cons_self] at hagain
      simp [retried, transientOutcome, refusal, transientStatusCodes] at hagain

/-- A lock that is free lets its body run. -/
theorem lock_emits_of {α : Type} (locks : LockProvider) (key : String) {body : Py α}
    {tr : List (Event effects)} {r : Except PyError α} (h : body.Emits tr r) :
    ∃ tr', (locks.lock key body).Emits tr' r ∧ sends tr' = sends tr := by
  cases locks with
  | thread =>
    refine ⟨⟨.guardAcquire, ()⟩ :: ⟨.setdefaultLock key, (0 : ℕ)⟩ :: ⟨.guardRelease, ()⟩ ::
      ⟨.lockAcquire 0, ()⟩ :: (tr ++ [⟨.lockRelease 0, ()⟩]), ?_, ?_⟩
    · refine ⟨(), _, rfl, (0 : ℕ), _, rfl, (), _, rfl, (), _, rfl, ?_⟩
      refine Prog.emits_attempt_bind.mpr ⟨r, tr, _, rfl, h, (), [], rfl, ?_⟩
      exact Prog.emits_ofExcept.mpr ⟨rfl, rfl⟩
    · show sends (tr ++ [_]) = sends tr
      rw [sends_append]
      exact List.append_nil _
  | redis keyPrefix timeout blockingTimeout =>
    refine ⟨⟨.redisAcquire (keyPrefix ++ ":" ++ key) timeout blockingTimeout, none⟩ ::
      (tr ++ [⟨.redisRelease (keyPrefix ++ ":" ++ key), none⟩]), ?_, ?_⟩
    · refine ⟨none, _, rfl, ?_⟩
      refine Prog.emits_attempt_bind.mpr ⟨r, tr, _, rfl, h, none, [], rfl, ?_⟩
      exact Prog.emits_ofExcept.mpr ⟨rfl, rfl⟩
    · show sends (tr ++ [_]) = sends tr
      rw [sends_append]
      exact List.append_nil _

variable (x)

theorem getToken_cached : ∃ tr, x.authenticator.getToken.Emits tr (.ok (lasting "A")) := by
  refine ⟨[⟨.clock, (0 : ℚ)⟩, ⟨.storeGet x.authenticator.cacheKey, .ok (some (lasting "A"))⟩], ?_⟩
  exact ⟨(0 : ℚ), _, rfl, .ok (some (lasting "A")), _, rfl, rfl, rfl⟩

theorem recover_cached :
    ∃ tr, (x.authenticator.recoverFromUnauthorized "A").Emits tr (.ok (lasting "B")) := by
  unfold ServiceAuthenticator.recoverFromUnauthorized
  -- The token read under the lock is another one, so it is returned as it is.
  have hread : ∀ {body : Py TokenState} {t : List (Event effects)},
      body.Emits t (.ok (lasting "B")) →
      ∃ tr', (x.authenticator.locks.lock x.authenticator.cacheKey body).Emits tr'
        (.ok (lasting "B")) := fun hbody =>
    Exists.imp (fun _ => And.left)
      (lock_emits_of x.authenticator.locks x.authenticator.cacheKey hbody)
  refine hread (t := [⟨.storeGet x.authenticator.cacheKey, .ok (some (lasting "B"))⟩,
    ⟨.clock, (0 : ℚ)⟩]) ?_
  exact ⟨.ok (some (lasting "B")), _, rfl, (0 : ℚ), _, rfl, rfl, rfl⟩

/-- An operation that may be replayed can be sent twice, whatever the configuration. -/
theorem submitted_twice (hreplay : canReplay options = true) {endpoint : String}
    (hpath : x.engine.validatedEndpoint options.path = .ok endpoint) :
    ∃ tr r, (x.execute options).Emits tr r ∧ 1 < (operationSends tr).length := by
  obtain ⟨tr₀, hget⟩ := getToken_cached x
  obtain ⟨tr₁, r₁, hsend, hr, hfirst⟩ := sendWith_refused hreplay hpath (lasting "A")
  obtain ⟨tr₂, hrecover⟩ := recover_cached x
  obtain ⟨tr₃, r₃, hagain, hr₃, hsecond⟩ := sendWith_refused hreplay hpath (lasting "B")
  have hreplayed : ∃ tr₄, (x.replay options (lasting "B")).Emits (tr₃ ++ tr₄) r₃ := by
    cases r₃ with
    | ok response => exact nomatch hr₃
    | error error =>
      have hkind : error.isKind .authentication = true := ((Bool.and_eq_true _ _).mp hr₃).1
      refine ⟨[⟨.storeDelete x.authenticator.cacheKey, ()⟩], ?_⟩
      refine Prog.emits_attempt_bind.mpr ⟨.error error, tr₃, _, rfl, hagain, ?_⟩
      show Prog.Emits (S := effects) (if error.isKind .authentication then do
        x.authenticator.invalidate
        .throw error else .throw error) _ _
      rw [if_pos hkind]
      exact ⟨(), [], rfl, rfl, rfl⟩
  obtain ⟨tr₄, hreplayed⟩ := hreplayed
  refine ⟨tr₀ ++ (tr₁ ++ (tr₂ ++ (tr₃ ++ tr₄))), r₃, ?_, ?_⟩
  · unfold AuthenticatedRequestEngine.execute
    refine Prog.emits_bind.mpr (.inl ⟨lasting "A", tr₀, _, rfl, hget, ?_⟩)
    refine Prog.emits_attempt_bind.mpr ⟨r₁, tr₁, _, rfl, hsend, ?_⟩
    cases r₁ with
    | ok response => exact nomatch hr
    | error error =>
      have hkind : error.isKind .authentication = true := ((Bool.and_eq_true _ _).mp hr).1
      simp only [hkind, hreplay, if_true]
      exact Prog.emits_bind.mpr (.inl ⟨lasting "B", tr₂, _, rfl, hrecover, hreplayed⟩)
  · simp only [operationSends_append, operationSends_execute hsend, operationSends_execute hagain,
      List.length_append]
    omega

end Refused

/-! ## 3. The law -/

/-- For one engine and one set of protected options: every run repeats under one key that is not
    empty exactly when the key that would be sent is not empty, or nothing is ever sent. -/
theorem protected_repeats_keyed_iff (x : AuthenticatedRequestEngine) (options : RequestOptions)
    (hsafety : options.safety = .idempotencyProtected) :
    (∀ (σ : Type) (handler : Handler σ) (s : σ),
      RepeatsKeyed (operationSends ((x.execute options).exec (S := effects) handler s).1)) ↔
    (EffectiveKey options ∨ ∃ error, x.engine.validatedEndpoint options.path = .error error) := by
  constructor
  · intro hall
    cases hpath : x.engine.validatedEndpoint options.path with
    | error error => exact .inr ⟨error, rfl⟩
    | ok endpoint =>
      refine .inl fun key hkey hempty => ?_
      have hreplay : canReplay options = true := by simp [canReplay, hsafety, hkey]
      obtain ⟨tr, r, hrun, hmany⟩ := submitted_twice x hreplay hpath
      have hkeyed := hall _ (Prog.replaying (S := effects)) tr
      rw [hrun.exec_replaying.1] at hkeyed
      obtain ⟨found, hfound, hsame⟩ := hkeyed hmany
      -- Any of the sends carries the empty key.
      obtain ⟨s, hs⟩ := List.exists_mem_of_length_pos (by omega : 0 < (operationSends tr).length)
      obtain ⟨token, id, endpoint, -, hreq⟩ := operationSends_request hrun s hs
      have hheader := hsame s hs
      rw [hreq, request_sentKey x.engine hkey, hempty] at hheader
      exact hfound (Option.some.inj hheader).symm
  · intro hcond σ handler s
    have hrun := Prog.exec_emits (S := effects) handler (x.execute options) s
    rcases hcond with hkey | ⟨error, hpath⟩
    · exact repeatsKeyed_of_effectiveKey hsafety hkey hrun
    · intro hmany
      have hsome :
          0 < (operationSends ((x.execute options).exec (S := effects) handler s).1).length := by
        omega
      obtain ⟨s, hs⟩ := List.exists_mem_of_length_pos hsome
      obtain ⟨_, _, endpoint, hgood, -⟩ := operationSends_request hrun s hs
      cases (hpath.symm.trans hgood)

/-- A protected transfer with this key. -/
def protectedOptions (key : String) : RequestOptions :=
  { sampleOptions .idempotencyProtected with idempotencyKey := some key }

theorem protected_repeats_keyed_given :
    EffectiveKey (protectedOptions "k") ∧ ∀ (σ : Type) (handler : Handler σ) (s : σ),
      RepeatsKeyed (operationSends
        ((sampleExecutor.execute (protectedOptions "k")).exec (S := effects) handler s).1) := by
  have hkey : EffectiveKey (protectedOptions "k") := by
    intro key hkey
    cases hkey
    decide
  exact ⟨hkey, (protected_repeats_keyed_iff sampleExecutor (protectedOptions "k") rfl).mpr
    (.inl hkey)⟩

/-- A protected transfer with an empty key, repeated after a timeout. -/
def emptyKeySends : List Sent :=
  operationSends ((sampleExecutor.execute (protectedOptions "")).exec (S := effects)
    (inWorld scripted) (fun _ => none, [issueT1, .timeoutError, answer 200 "\x7b\x7d"])).1

theorem empty_key_repeated : ¬ RepeatsKeyed emptyKeySends := by
  intro h
  have hmany : 1 < emptyKeySends.length := by decide +kernel
  have hheaders : emptyKeySends.map (fun s => s.request.headers.lookup "Idempotency-Key") =
      [some "", some ""] := by decide +kernel
  obtain ⟨key, hkey, hsame⟩ := h hmany
  have hfirst : some "" ∈ emptyKeySends.map fun s =>
    s.request.headers.lookup "Idempotency-Key" := by
    rw [hheaders]
    exact List.mem_cons_self
  obtain ⟨s, hs, hheader⟩ := List.mem_map.mp hfirst
  exact hkey (Option.some.inj ((hsame s hs).symm.trans hheader))

end JibitSdk.Guarantees
