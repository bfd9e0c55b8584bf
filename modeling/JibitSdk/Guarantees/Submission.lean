import JibitSdk.Guarantees.RetryLoop
import JibitSdk.Guarantees.World

/-!
# How often an operation is submitted

Token management never sends on behalf of an operation, so the sends of an authenticated execution
are those of its first request and, after a 401, of its replay.
-/

namespace JibitSdk.Guarantees

open JibitSdk.Python JibitSdk.Reasoning JibitSdk.Sdk

/-! ## 1. Token management sends token requests only -/

/-- Token work without locks. -/
def isUnlockedWork (o : Effect) : Prop := isTokenWork o ∧ ¬ isLockWork o

theorem isUnlockedWork_of_isRequest {o : Effect} (h : isRequest .token o) : isUnlockedWork o :=
  ⟨isTokenWork_of_isRequest h, by cases o <;> first | exact id | exact h.elim⟩

theorem isTokenWork_of_isLockWork {o : Effect} (h : isLockWork o) : isTokenWork o := by
  cases o <;> trivial

theorem lock_only {α : Type} {P : Effect → Prop} (hP : ∀ o, isLockWork o → P o)
    (locks : LockProvider) (key : String) {body : Py α} (h : body.Only P) :
    (locks.lock key body).Only P := by
  cases locks with
  | thread =>
    refine ⟨hP _ trivial, fun _ => ⟨hP _ trivial, fun lock => ⟨hP _ trivial, fun _ =>
      ⟨hP _ trivial, fun _ => ?_⟩⟩⟩⟩
    refine (Prog.Only.attempt h).bind fun outcome => ⟨hP _ trivial, fun _ => ?_⟩
    exact Prog.always_ofExcept.mpr trivial
  | redis keyPrefix timeout blockingTimeout =>
    refine ⟨hP _ trivial, fun failure => ?_⟩
    cases failure with
    | some error => trivial
    | none =>
      refine (Prog.Only.attempt h).bind fun outcome => ⟨hP _ trivial, fun failure => ?_⟩
      cases failure with
      | some error => trivial
      | none => exact Prog.always_ofExcept.mpr trivial

section TokenWork
variable (a : ServiceAuthenticator)

theorem builtin_only {α : Type} {P : Effect → Prop} (result : Except BuiltinError α) :
    (Py.builtin result).Only P := by
  cases result <;> trivial

theorem parseToken_only (body : List (String × Json)) (previous : Option TokenState) :
    (a.parseToken body previous).Only isUnlockedWork := by
  unfold ServiceAuthenticator.parseToken
  split
  · trivial
  · exact Prog.always_perform_bind.mpr ⟨⟨trivial, id⟩, fun now => builtin_only _⟩

theorem readToken_only (raw : RawResponse) (refresh : Option TokenState) :
    (a.readToken raw refresh).Only isUnlockedWork := by
  refine Prog.Only.bind (by simp) fun body => ?_
  split
  · exact parseToken_only a _ _
  · trivial

theorem requestToken_only (refresh : Option TokenState) :
    (a.requestToken refresh).Only isUnlockedWork := by
  unfold ServiceAuthenticator.requestToken
  refine Prog.Only.bind (by simp) fun options => ?_
  exact ((execute_only a.engine .token options).mono fun _ => isUnlockedWork_of_isRequest).bind
    fun raw => readToken_only a raw refresh

theorem safeGet_only : a.safeGet.Only isUnlockedWork := by
  refine Prog.always_perform_bind.mpr ⟨⟨trivial, id⟩, fun found => ?_⟩
  cases found with
  | ok cached => trivial
  | error error =>
    show Prog.Only _ (if _ then _ else _)
    split
    · exact ⟨⟨trivial, id⟩, fun _ => trivial⟩
    · trivial

theorem keep_only (token : TokenState) (event : EventName) (source : String) :
    (a.keep token event source).Only isUnlockedWork := by
  refine Prog.always_perform_bind.mpr ⟨⟨trivial, id⟩, fun _ => ?_⟩
  refine Prog.Only.bind ?_ fun _ => trivial
  exact (emit_always a.logger a.rt _ _ _).only.mono
    fun _ h => isUnlockedWork_of_isRequest (isRequest_of_isLocal h)

theorem acquire_only : a.acquire.Only isUnlockedWork :=
  (requestToken_only a none).bind fun token => keep_only a token _ _

theorem refreshOrAcquire_only (cached : Option TokenState) (now : ℚ) :
    (a.refreshOrAcquire cached now).Only isUnlockedWork := by
  unfold ServiceAuthenticator.refreshOrAcquire
  split
  · refine (Prog.Only.attempt (requestToken_only a _)).bind fun outcome => ?_
    cases outcome with
    | ok token => exact keep_only a token _ _
    | error error =>
      show Prog.Only _ (if _ then _ else _)
      split
      · refine Prog.Only.bind ?_ fun _ => acquire_only a
        exact (emit_always a.logger a.rt _ _ _).only.mono
          fun _ h => isUnlockedWork_of_isRequest (isRequest_of_isLocal h)
      · trivial
  · exact acquire_only a

theorem getToken_only : a.getToken.Only isTokenWork := by
  refine Prog.always_perform_bind.mpr ⟨trivial, fun now => ?_⟩
  refine ((safeGet_only a).mono fun _ h => h.1).bind fun cached => ?_
  split
  · trivial
  · apply lock_only fun _ => isTokenWork_of_isLockWork
    refine Prog.always_perform_bind.mpr ⟨trivial, fun now => ?_⟩
    refine ((safeGet_only a).mono fun _ h => h.1).bind fun cached => ?_
    split
    · trivial
    · exact (refreshOrAcquire_only a _ _).mono fun _ h => h.1

theorem recoverFromUnauthorized_only (rejected : String) :
    (a.recoverFromUnauthorized rejected).Only isTokenWork := by
  apply lock_only fun _ => isTokenWork_of_isLockWork
  refine ((safeGet_only a).mono fun _ h => h.1).bind fun cached => ?_
  refine Prog.always_perform_bind.mpr ⟨trivial, fun now => ?_⟩
  split
  · trivial
  · exact (refreshOrAcquire_only a _ _).mono fun _ h => h.1

end TokenWork

/-! ## 2. The parts of an authenticated execution -/

section Authenticated
variable {x : AuthenticatedRequestEngine} {options : RequestOptions}

/-- The first request failed in a way that makes `execute` recover and replay. -/
def replays (options : RequestOptions) : Except PyError RawResponse → Bool
  | .ok _ => false
  | .error error => error.isKind .authentication && canReplay options

theorem replays_eq_false (h : canReplay options = false) (r : Except PyError RawResponse) :
    replays options r = false := by
  cases r with
  | ok response => rfl
  | error error => rw [replays, h, Bool.and_false]

theorem operationSends_execute {e : RequestEngine} {token : String} {tr : List (Event effects)}
    {r : Except PyError RawResponse} (h : (e.execute (.operation token) options).Emits tr r) :
    operationSends tr = sends tr := by
  have honly := (execute_only e (.operation token) options).events h
  rw [operationSends, List.filter_eq_self]
  clear h
  induction tr with
  | nil => simp
  | cons ev tr ih =>
    have hev := honly ev List.mem_cons_self
    have htail := ih fun ev' hev' => honly ev' (List.mem_cons_of_mem _ hev')
    rw [sends_cons]
    intro s hs
    rcases List.mem_append.mp hs with hs | hs
    · obtain ⟨o, answer⟩ := ev
      cases o <;> first | exact absurd hs List.not_mem_nil | skip
      rw [List.mem_singleton.mp hs]
      show Purpose.isOperation _ = true
      rw [show _ = Purpose.operation token from hev]
      rfl
    · exact htail s hs

/-- Invalidations are no sends. -/
theorem sends_of_deletes {tr : List (Event effects)}
    (h : ∀ ev ∈ tr, ∃ key, ev.op = .storeDelete key) : sends tr = [] := by
  induction tr with
  | nil => rfl
  | cons ev tr ih =>
    rw [sends_cons, ih fun ev' hev' => h ev' (List.mem_cons_of_mem _ hev')]
    rcases ev with ⟨o, answer⟩
    rcases h _ List.mem_cons_self with ⟨key, hkey⟩
    cases hkey
    rfl

theorem operationSends_of_deletes {tr : List (Event effects)}
    (h : ∀ ev ∈ tr, ∃ key, ev.op = .storeDelete key) : operationSends tr = [] := by
  rw [operationSends, sends_of_deletes h]
  rfl

/-- The replay ends as its request does, which sends everything the replay sends. -/
theorem replay_emits {token : TokenState} {tr : List (Event effects)}
    {r : Except PyError RawResponse} (hrun : (x.replay options token).Emits tr r) :
    ∃ tr', (x.sendWith options token).Emits tr' r ∧ sends tr = sends tr' := by
  rcases Prog.emits_attempt_bind.mp hrun with ⟨r', tr₁, tr₂, rfl, h₁, h₂⟩
  clear hrun
  cases r' with
  | ok response =>
    rcases h₂ with ⟨rfl, rfl⟩
    exact ⟨tr₁, h₁, by rw [List.append_nil]⟩
  | error error =>
    change Prog.Emits (if error.isKind .authentication then do
      x.authenticator.invalidate
      .throw error else .throw error) tr₂ r at h₂
    by_cases hkind : error.isKind .authentication = true
    · rw [if_pos hkind] at h₂
      rcases h₂ with ⟨_, tr₃, rfl, rfl, rfl⟩
      exact ⟨tr₁, h₁, by rw [sends_append]; exact List.append_nil _⟩
    · rw [if_neg hkind] at h₂
      rcases h₂ with ⟨rfl, rfl⟩
      exact ⟨tr₁, h₁, by rw [List.append_nil]⟩

/-- What an authenticated execution is made of: no token; the first request alone; a recovery that
    failed; or a second request that decides. -/
inductive AuthenticatedRun (x : AuthenticatedRequestEngine) (options : RequestOptions) :
    List (Event effects) → Except PyError RawResponse → Prop where
  | noToken {tr : List (Event effects)} {error : PyError}
      (h : x.authenticator.getToken.Emits tr (.error error)) :
      AuthenticatedRun x options tr (.error error)
  | once {tr₀ tr₁ tr₂ : List (Event effects)} {token : TokenState}
      {r : Except PyError RawResponse} (hget : x.authenticator.getToken.Emits tr₀ (.ok token))
      (hsend : (x.sendWith options token).Emits tr₁ r) (hr : replays options r = false)
      (hrest : ∀ ev ∈ tr₂, ∃ key, ev.op = .storeDelete key) :
      AuthenticatedRun x options (tr₀ ++ tr₁ ++ tr₂) r
  | unrecovered {tr₀ tr₁ tr₂ : List (Event effects)} {token : TokenState}
      {r : Except PyError RawResponse} {error : PyError}
      (hget : x.authenticator.getToken.Emits tr₀ (.ok token))
      (hsend : (x.sendWith options token).Emits tr₁ r) (hr : replays options r = true)
      (hrecover : (x.authenticator.recoverFromUnauthorized token.accessValue).Emits tr₂
        (.error error)) :
      AuthenticatedRun x options (tr₀ ++ tr₁ ++ tr₂) (.error error)
  | replayed {tr₀ tr₁ tr₂ tr₃ : List (Event effects)} {token replacement : TokenState}
      {r r' : Except PyError RawResponse}
      (hget : x.authenticator.getToken.Emits tr₀ (.ok token))
      (hsend : (x.sendWith options token).Emits tr₁ r) (hr : replays options r = true)
      (hrecover : (x.authenticator.recoverFromUnauthorized token.accessValue).Emits tr₂
        (.ok replacement))
      (hreplay : (x.replay options replacement).Emits tr₃ r') :
      AuthenticatedRun x options (tr₀ ++ tr₁ ++ tr₂ ++ tr₃) r'

theorem authenticated_emits {tr : List (Event effects)} {r : Except PyError RawResponse}
    (h : (x.execute options).Emits tr r) : AuthenticatedRun x options tr r := by
  unfold AuthenticatedRequestEngine.execute at h
  rcases Prog.emits_bind.mp h with ⟨token, tr₀, tr', rfl, hget, h⟩ | ⟨error, hget, rfl⟩
  · obtain ⟨r₁, tr₁, tr₂, rfl, hsend, h⟩ := Prog.emits_attempt_bind.mp h
    rw [← List.append_assoc]
    cases r₁ with
    | ok response =>
      obtain ⟨rfl, rfl⟩ := h
      exact .once hget hsend rfl (by simp)
    | error error =>
      by_cases hkind : error.isKind .authentication = true
      · by_cases hreplay : canReplay options = true
        · have hr : replays options (.error error) = true := by
            rw [replays, hkind, hreplay, Bool.and_self]
          simp only [hkind, hreplay, if_true] at h
          rcases Prog.emits_bind.mp h with
            ⟨replacement, tr₃, tr₄, rfl, hrecover, h⟩ | ⟨error', hrecover, rfl⟩
          · rw [← List.append_assoc]
            exact .replayed hget hsend hr hrecover h
          · exact .unrecovered hget hsend hr hrecover
        · simp only [hkind, hreplay, if_true] at h
          obtain ⟨u, tr₃, rfl, rfl, rfl⟩ := h
          refine .once hget hsend ?_ (by simp)
          rw [replays, Bool.eq_false_iff.mpr hreplay, Bool.and_false]
      · simp only [hkind] at h
        obtain ⟨rfl, rfl⟩ := h
        refine .once hget hsend ?_ (by simp)
        rw [replays, Bool.eq_false_iff.mpr hkind, Bool.false_and]
  · exact .noToken hget

end Authenticated

/-! ## 3. At most one submission -/

theorem sendWith_single {x : AuthenticatedRequestEngine} {options : RequestOptions}
    {token : TokenState} {tr : List (Event effects)} {r : Except PyError RawResponse}
    (hreplay : canReplay options = false) (h : (x.sendWith options token).Emits tr r) :
    (sends tr).length ≤ 1 := by
  rcases execute_emits h with ⟨error, -, -, hsends⟩ | ⟨_, _, _, outcomes, -, hrun, hsends⟩
  · rw [hsends]
    exact Nat.zero_le 1
  · obtain ⟨outcome, rfl⟩ := hrun.single hreplay
    rw [hsends]
    exact Nat.le_refl 1

/-- Without leave to repeat, only the first request of an execution can send for the operation. -/
theorem operationSends_single {x : AuthenticatedRequestEngine} {options : RequestOptions}
    (hreplay : canReplay options = false) {tr : List (Event effects)}
    {r : Except PyError RawResponse} (hrun : (x.execute options).Emits tr r) :
    (operationSends tr).length ≤ 1 := by
  have hget := getToken_only x.authenticator
  cases authenticated_emits hrun with
  | noToken h =>
    rw [operationSends_eq_nil (hget.events h)]
    exact Nat.zero_le 1
  | once h hsend hr hrest =>
    rw [operationSends_append, operationSends_append, operationSends_eq_nil (hget.events h),
      operationSends_execute hsend, operationSends_of_deletes hrest, List.append_nil]
    exact sendWith_single hreplay hsend
  | unrecovered h hsend hr hrecover =>
    rw [replays_eq_false hreplay] at hr
    exact nomatch hr
  | replayed h hsend hr hrecover hreplayed =>
    rw [replays_eq_false hreplay] at hr
    exact nomatch hr

/-- An operation that must not be repeated, and a protected one without its key, is submitted at
    most once, whatever the store, the locks, the clocks and the provider answer. -/
theorem execute_submits_at_most_once {σ : Type} (x : AuthenticatedRequestEngine)
    (options : RequestOptions)
    (hsafety : options.safety = .unsafeOp ∨
      options.safety = .idempotencyProtected ∧ options.idempotencyKey = none)
    (handler : Handler σ) (s : σ) :
    (operationSends ((x.execute options).exec (S := effects) handler s).1).length ≤ 1 := by
  have hreplay : canReplay options = false := by
    rcases hsafety with h | ⟨h, hkey⟩
    · simp [canReplay, h]
    · simp [canReplay, h, hkey]
  exact operationSends_single hreplay
    (Prog.exec_emits (S := effects) handler (x.execute options) s)

/-- A transfer whose first submission times out is not submitted again. -/
theorem execute_submits_at_most_once_timeout :
    (operationSends ((sampleExecutor.execute (sampleOptions .unsafeOp)).exec (S := effects)
      (inWorld scripted) (fun _ => none, [issueT1, .timeoutError])).1).length ≤ 1 :=
  execute_submits_at_most_once sampleExecutor (sampleOptions .unsafeOp) (.inl rfl) _ _

end JibitSdk.Guarantees
