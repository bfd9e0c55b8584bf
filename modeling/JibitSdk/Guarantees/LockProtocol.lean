import JibitSdk.Guarantees.Audit
import JibitSdk.Guarantees.SharedWorld
import JibitSdk.Reasoning.Locking

/-!
# The protocol of the locks

Facade calls that share a `ThreadLockProvider` wait for its guard and for the lock of a cache key.
They take these one at a time and give them back however their section ends: a protocol that every
call follows, whatever it is answered.
-/

namespace JibitSdk.Guarantees

open JibitSdk.Python JibitSdk.Reasoning JibitSdk.Sdk

/-! ## 1. The resources of `ThreadLockProvider` -/

inductive Resource where
  /-- `_guard`. -/
  | guard
  /-- A lock of `_locks`. -/
  | lock (number : ℕ)
  deriving DecidableEq, Repr

/-- What has to be free, and what is given back. -/
def threadLocking : Locking effects Resource where
  takes
    | .guardAcquire => some .guard
    | .lockAcquire number => some (.lock number)
    | _ => none
  frees
    | .guardRelease => some .guard
    | .lockRelease number => some (.lock number)
    | _ => none

variable {ι : Type}

/-- Who is inside the guard or holds a lock. -/
def ownerOf (s : Shared ι) : Resource → Option ι
  | .guard => s.guard
  | .lock number => s.owner number

/-- The clock shows some time, and the provider gives some answer. -/
structure Responsive (w : Surroundings) : Prop where
  time : ∃ now, w.time now
  provider : ∃ outcome, w.provider outcome

section Machine

theorem ownerOf_guard (s : Shared ι) (owner : Option ι) :
    ownerOf { s with guard := owner } = Function.update (ownerOf s) .guard owner := by
  funext r
  cases r with
  | guard => rw [Function.update_self]; rfl
  | lock number => rw [Function.update_of_ne (by simp)]; rfl

theorem ownerOf_lock (s : Shared ι) (number : ℕ) (owner : Option ι) :
    ownerOf { s with owner := Function.update s.owner number owner } =
      Function.update (ownerOf s) (.lock number) owner := by
  funext r
  cases r with
  | guard => rw [Function.update_of_ne (by simp)]; rfl
  | lock other =>
    by_cases h : other = number
    · rw [h, Function.update_self]
      exact Function.update_self number owner s.owner
    · rw [Function.update_of_ne (by simp [h])]
      exact Function.update_of_ne h owner s.owner

/-- The shared world makes nobody wait but for the guard and the locks. -/
theorem sharedWorld_guards {w : Surroundings} (hw : Responsive w) :
    threadLocking.Guards (sharedWorld w (ι := ι)) ownerOf where
  goesOn i o s hready := by
    cases o with
    | guardAcquire => exact ⟨(), _, hready .guard rfl, rfl⟩
    | lockAcquire number => exact ⟨(), _, hready (.lock number) rfl, rfl⟩
    | setdefaultLock key =>
      cases hlock : s.locks key with
      | some known => exact ⟨_, _, (sharedWorld_setdefault_known hlock).mpr ⟨rfl, rfl⟩⟩
      | none => exact ⟨_, _, (sharedWorld_setdefault_new hlock).mpr ⟨rfl, rfl⟩⟩
    | send purpose request =>
      cases purpose with
      | token =>
        rcases hw.provider with ⟨outcome, houtcome⟩
        exact ⟨outcome, s, houtcome, rfl⟩
      | operation access => exact ⟨TransportOutcome.timeoutError, s, rfl⟩
    | clock =>
      rcases hw.time with ⟨now, hnow⟩
      exact ⟨now, s, hnow, rfl⟩
    | storeGet key => exact ⟨s.store.get key, s, rfl, rfl⟩
    | monotonic => exact ⟨(0 : ℚ), s, rfl⟩
    | random => exact ⟨(0 : ℚ), s, rfl⟩
    | newCorrelationId => exact ⟨"", s, rfl⟩
    | redisAcquire name timeout blockingTimeout => exact ⟨(none : Option BuiltinError), s, rfl⟩
    | redisRelease name => exact ⟨(none : Option BuiltinError), s, rfl⟩
    | emitAudit event => exact ⟨(none : Option String), s, rfl⟩
    | _ => exact ⟨(), _, rfl⟩
  taken {i o s a s' r} htakes hstep := by
    cases o with
    | guardAcquire =>
      cases htakes
      rw [hstep.2]
      exact ⟨hstep.1, ownerOf_guard s (some i)⟩
    | lockAcquire number =>
      cases htakes
      rw [hstep.2]
      exact ⟨hstep.1, ownerOf_lock s number (some i)⟩
    | _ => cases htakes
  freed {i o s a s' r} hfrees hstep := by
    cases o with
    | guardRelease =>
      cases hfrees
      rw [show s' = { s with guard := none } from hstep]
      exact ownerOf_guard s none
    | lockRelease number =>
      cases hfrees
      rw [show s' = { s with owner := Function.update s.owner number none } from hstep]
      exact ownerOf_lock s number none
    | _ => cases hfrees
  kept {i o s a s'} hplain hstep := by
    cases o with
    | guardAcquire => cases hplain.1
    | lockAcquire number => cases hplain.1
    | guardRelease => cases hplain.2
    | lockRelease number => cases hplain.2
    | setdefaultLock key =>
      cases hlock : s.locks key with
      | some known =>
        rw [((sharedWorld_setdefault_known hlock).mp hstep).2]
      | none =>
        rw [((sharedWorld_setdefault_new hlock).mp hstep).2]
        rfl
    | storeGet key => rw [hstep.2]
    | storeSet key token => rw [show s' = _ from hstep]; rfl
    | storeDelete key => rw [show s' = _ from hstep]; rfl
    | clock => rw [hstep.2]
    | send purpose request =>
      cases purpose with
      | token => rw [hstep.2]
      | operation access => rw [show s' = s from hstep]
    | _ => rw [show s' = s from hstep]

end Machine

/-! ## 2. The protocol of `lock` -/

/-- How far a thread is with `ThreadLockProvider.lock`. -/
inductive LockPhase where
  | outside
  | guarded
  | found (key : String) (number : ℕ)
  | chosen (key : String) (number : ℕ)
  | inside (key : String) (number : ℕ)
  deriving DecidableEq, Repr

/-- The operations of `ThreadLockProvider`. -/
def isThreadLock : Effect → Bool
  | .guardAcquire | .guardRelease | .setdefaultLock _ | .lockAcquire _ | .lockRelease _ => true
  | _ => false

/-- The guard, the lock object of the key, the guard again, then the lock around anything else. -/
def threadProtocol : Protocol effects LockPhase where
  next
    | .outside, .guardAcquire, _ => some .guarded
    | .guarded, .setdefaultLock key, number => some (.found key number)
    | .found key number, .guardRelease, _ => some (.chosen key number)
    | .chosen key number, .lockAcquire other, _ =>
      if other = number then some (.inside key number) else none
    | .inside _ number, .lockRelease other, _ => if other = number then some .outside else none
    | phase, o, _ => if isThreadLock o then none else some phase

/-- What a thread holds. -/
def LockPhase.hand : LockPhase → Option Resource
  | .guarded | .found _ _ => some .guard
  | .inside _ number => some (.lock number)
  | .outside | .chosen _ _ => none

/-- The key a thread has asked for, with its lock. -/
def LockPhase.asked : LockPhase → Option (String × ℕ)
  | .found key number | .chosen key number | .inside key number => some (key, number)
  | .outside | .guarded => none

theorem next_of_plain {o : Effect} (h : isThreadLock o = false) (phase : LockPhase) :
    threadProtocol.Idle phase o := by
  intro a
  cases o <;> first | (cases phase <;> rfl) | cases h

/-- The steps of the protocol. -/
inductive PhaseStep : LockPhase → Effect → LockPhase → Prop where
  | enter : PhaseStep .outside .guardAcquire .guarded
  | find {key : String} {number : ℕ} :
      PhaseStep .guarded (.setdefaultLock key) (.found key number)
  | leave {key : String} {number : ℕ} :
      PhaseStep (.found key number) .guardRelease (.chosen key number)
  | acquire {key : String} {number : ℕ} :
      PhaseStep (.chosen key number) (.lockAcquire number) (.inside key number)
  | release {key : String} {number : ℕ} :
      PhaseStep (.inside key number) (.lockRelease number) .outside
  | plain {phase : LockPhase} {o : Effect} (h : isThreadLock o = false) : PhaseStep phase o phase

theorem phaseStep_of_next {phase phase' : LockPhase} {o : Effect} {a : Effect.Answer o}
    (h : threadProtocol.next phase o a = some phase') : PhaseStep phase o phase' := by
  by_cases hplain : isThreadLock o = false
  · rw [next_of_plain hplain phase a] at h
    cases h
    exact .plain hplain
  · cases o <;> first | exact absurd rfl hplain | skip
    all_goals cases phase <;> first | cases h | skip
    · exact .enter
    · exact .leave
    · exact .find
    · rename_i other key number
      by_cases hsame : other = number
      · subst hsame
        rw [show threadProtocol.next (.chosen key other) (.lockAcquire other) a =
          some (.inside key other) from if_pos rfl] at h
        cases h
        exact .acquire
      · rw [show threadProtocol.next (.chosen key number) (.lockAcquire other) a = none from
          if_neg hsame] at h
        cases h
    · rename_i other key number
      by_cases hsame : other = number
      · subst hsame
        rw [show threadProtocol.next (.inside key other) (.lockRelease other) a =
          some .outside from if_pos rfl] at h
        cases h
        exact .release
      · rw [show threadProtocol.next (.inside key number) (.lockRelease other) a = none from
          if_neg hsame] at h
        cases h

/-- One resource at a time. -/
theorem threadProtocol_hands : threadLocking.Hands threadProtocol LockPhase.hand where
  takes {q o a q' r} h htakes := by
    cases phaseStep_of_next h with
    | enter => cases htakes; exact ⟨rfl, rfl⟩
    | acquire => cases htakes; exact ⟨rfl, rfl⟩
    | find => cases htakes
    | leave => cases htakes
    | release => cases htakes
    | plain hplain => cases o <;> cases hplain <;> cases htakes
  frees {q o a q' r} h hfrees := by
    cases phaseStep_of_next h with
    | leave => cases hfrees; exact ⟨rfl, rfl⟩
    | release => cases hfrees; exact ⟨rfl, rfl⟩
    | enter => cases hfrees
    | find => cases hfrees
    | acquire => cases hfrees
    | plain hplain => cases o <;> cases hplain <;> cases hfrees
  plain h hplain := by
    cases phaseStep_of_next h with
    | find => rfl
    | plain _ => rfl
    | enter => cases hplain.1
    | acquire => cases hplain.1
    | leave => cases hplain.2
    | release => cases hplain.2

/-! ## 3. The calls follow it -/

variable {α β M : Type}

/-- The program follows the protocol from outside to outside. -/
abbrev Tidy (p : Py α) : Prop := p.Follows threadProtocol (fun _ phase => phase = .outside) .outside

theorem Tidy.bind {p : Py α} {f : α → Py β} (hp : Tidy p) (hf : ∀ a, Tidy (f a)) :
    Tidy (p >>= f) := by
  apply Prog.Meets.bind hp
  · intro a phase hphase
    rw [hphase]
    exact hf a
  · exact fun _ _ hphase => hphase

theorem Tidy.attempt_bind {p : Py α} {f : Except PyError α → Py β} (hp : Tidy p)
    (hf : ∀ r, Tidy (f r)) : Tidy (p.attempt >>= f) := by
  apply Prog.Meets.attempt_bind hp
  intro r phase hphase
  rw [hphase]
  exact hf r

theorem tidy_of_only {p : Py α} (h : p.Only fun o => isThreadLock o = false) : Tidy p :=
  (h.follows fun _ ho => next_of_plain ho _).mono fun _ _ hphase => hphase.2

theorem threadLocking_plain {o : Effect} (h : isUnlockedWork o) : isThreadLock o = false := by
  cases o <;> first | rfl | exact absurd trivial h.2

theorem plain_of_isRequest {purpose : Purpose} {o : Effect} (h : isRequest purpose o) :
    isThreadLock o = false := by
  cases o <;> first | rfl | exact h.elim

theorem tidy_of_unlocked {p : Py α} (h : p.Only isUnlockedWork) : Tidy p :=
  tidy_of_only (h.mono fun _ => threadLocking_plain)

theorem tidy_ofExcept (r : Except PyError α) : Tidy (Prog.ofExcept r : Py α) := by
  cases r <;> rfl

/-- `with provider.lock(key): body`, whatever the body ends in. -/
theorem lock_tidy (locks : LockProvider) (key : String) {body : Py α}
    (hbody : body.Only isUnlockedWork) : Tidy (locks.lock key body) := by
  have hplain : body.Only fun o => isThreadLock o = false :=
    hbody.mono fun _ => threadLocking_plain
  cases locks with
  | thread =>
    apply follows_call
    intro _
    refine ⟨.guarded, rfl, follows_call fun number => ?_⟩
    refine ⟨.found key number, rfl, follows_call fun _ => ?_⟩
    refine ⟨.chosen key number, rfl, follows_call fun _ => ?_⟩
    refine ⟨.inside key number, if_pos rfl, ?_⟩
    apply Prog.Meets.attempt_bind (hplain.follows fun _ ho => next_of_plain ho _)
    intro outcome phase hphase
    rw [hphase.2]
    apply follows_call
    intro _
    exact ⟨.outside, if_pos rfl, tidy_ofExcept outcome⟩
  | redis keyPrefix timeout blockingTimeout =>
    apply follows_call
    intro failure
    refine ⟨.outside, rfl, ?_⟩
    cases failure with
    | some error => rfl
    | none =>
      apply (tidy_of_only hplain).attempt_bind
      intro outcome
      apply follows_call
      intro failure
      refine ⟨.outside, rfl, ?_⟩
      cases failure with
      | some error => rfl
      | none => exact tidy_ofExcept outcome

theorem getToken_tidy (a : ServiceAuthenticator) : Tidy a.getToken := by
  apply (tidy_of_only (p := Py.clock) ⟨rfl, fun _ => trivial⟩).bind
  intro now
  apply (tidy_of_unlocked (safeGet_only a)).bind
  intro cached
  split
  · rfl
  · apply lock_tidy
    apply Prog.always_perform_bind.mpr
    apply And.intro ⟨trivial, id⟩
    intro now
    apply (safeGet_only a).bind
    intro cached
    split
    · trivial
    · exact refreshOrAcquire_only a _ _

theorem recoverFromUnauthorized_tidy (a : ServiceAuthenticator) (rejected : String) :
    Tidy (a.recoverFromUnauthorized rejected) := by
  apply lock_tidy
  apply (safeGet_only a).bind
  intro cached
  apply Prog.always_perform_bind.mpr
  apply And.intro ⟨trivial, id⟩
  intro now
  split
  · trivial
  · exact refreshOrAcquire_only a _ _

theorem request_tidy (e : RequestEngine) (purpose : Purpose) (options : RequestOptions) :
    Tidy (e.execute purpose options) :=
  tidy_of_only ((execute_only e purpose options).mono fun _ => plain_of_isRequest)

theorem emit_tidy (l : StructuredLogger) (rt : Runtime) (level : LogLevel) (event : EventName)
    (fields : List (String × PyVal)) : Tidy (l.emit rt level event fields) :=
  tidy_of_only ((emit_always l rt level event fields).only.mono
    fun _ h => plain_of_isRequest (isRequest_of_isLocal h : isRequest .token _))

theorem invalidate_tidy (a : ServiceAuthenticator) : Tidy a.invalidate :=
  tidy_of_only ⟨rfl, fun _ => trivial⟩

theorem authenticated_tidy (x : AuthenticatedRequestEngine) (options : RequestOptions) :
    Tidy (x.execute options) := by
  have invalidated (error : PyError) :
      Tidy (x.authenticator.invalidate >>= fun _ => (.throw error : Py RawResponse)) :=
    (invalidate_tidy x.authenticator).bind fun _ => rfl
  apply (getToken_tidy x.authenticator).bind
  intro token
  apply (request_tidy _ _ _).attempt_bind
  intro outcome
  cases outcome with
  | ok response => rfl
  | error error =>
    show Tidy (if _ then if _ then _ else _ else _)
    split
    · split
      · apply (recoverFromUnauthorized_tidy x.authenticator _).bind
        intro replacement
        apply (request_tidy _ _ _).attempt_bind
        intro outcome
        cases outcome with
        | ok response => rfl
        | error error =>
          show Tidy (if _ then _ else _)
          split
          · exact invalidated error
          · rfl
      · exact invalidated error
    · rfl

theorem executor_tidy (x : RequestExecutor) (options : RequestOptions) :
    Tidy (x.execute options) := by
  cases x with
  | authenticated x => exact authenticated_tidy x options
  | staticBearer x => exact request_tidy _ _ _

theorem emitAuditEvent_tidy (rt : Runtime) (logger : StructuredLogger) (event : AuditEvent) :
    Tidy (emitAuditEvent rt logger event) := by
  apply follows_call
  intro sinkError
  refine ⟨.outside, rfl, ?_⟩
  cases sinkError with
  | none => rfl
  | some errorType => exact emit_tidy _ _ _ _ _

theorem auditedExecute_tidy (x : AuditedRequestExecutor) (options : RequestOptions) :
    Tidy (x.execute options) := by
  apply (executor_tidy x.executor options).attempt_bind
  intro outcome
  cases outcome with
  | ok response => exact (emitAuditEvent_tidy _ _ _).bind fun _ => rfl
  | error error =>
    cases error with
    | jibit error => exact (emitAuditEvent_tidy _ _ _).bind fun _ => rfl
    | builtin e => rfl

theorem auditingErrors_tidy (x : PaymentGatewayService) (name operation : String) {body : Py α}
    (hbody : Tidy body) : Tidy (x.auditingErrors name operation body) := by
  apply hbody.attempt_bind
  intro outcome
  cases outcome with
  | ok response => rfl
  | error error =>
    cases error with
    | jibit error => exact (emitAuditEvent_tidy _ _ _).bind fun _ => rfl
    | builtin e => rfl

theorem audited_tidy (call : AuditedCall M) : Tidy call.run := by
  cases call with
  | wrapped x op parts model =>
    show Tidy (wrappedCall x op parts model)
    unfold wrappedCall
    split
    · exact (auditedExecute_tidy _ _).bind fun _ => tidy_ofExcept _
    · exact (auditedExecute_tidy _ _).bind fun _ => rfl
    · exact (auditedExecute_tidy _ _).bind fun _ => rfl
  | financial x op parts model metadata =>
    apply Tidy.bind (auditingErrors_tidy x _ _ _)
    · exact fun _ => (emitAuditEvent_tidy _ _ _).bind fun _ => rfl
    · exact (authenticated_tidy _ _).bind fun _ => tidy_ofExcept _
  | refund x action refundId parts metadata =>
    apply (auditingErrors_tidy x _ _ (authenticated_tidy _ _)).bind
    exact fun _ => (emitAuditEvent_tidy _ _ _).bind fun _ => rfl

theorem call_tidy (call : ServiceCall M) : Tidy call.run := by
  cases call with
  | audited call => exact audited_tidy call
  | read x op parts model => exact (authenticated_tidy _ _).bind fun _ => tidy_ofExcept _

end JibitSdk.Guarantees
