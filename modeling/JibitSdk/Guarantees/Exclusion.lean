import JibitSdk.Guarantees.Costs
import JibitSdk.Guarantees.Interchange
import JibitSdk.Guarantees.Protection
import JibitSdk.Reasoning.Lease
import Mathlib.Tactic.Ring

/-!
# One refresh at a time

Processes that share a Redis deployment run token calls side by side.  The Redis lock is a lease: it
ends a fixed time after it was granted, whether or not its section is over.  Two processes are kept
apart as long as no section can outlast the lease.
-/

namespace JibitSdk.Guarantees

open JibitSdk.Python JibitSdk.Reasoning JibitSdk.Sdk

/-! ## 1. How long a section lasts -/

/-- The longest a transport send may take: all phases of its timeout. -/
def sendTime (timeout : TimeoutConfig) : ℚ :=
  timeout.connect + timeout.read + timeout.write + timeout.pool

/-- The longest a locked section may take in sends and retries: a refresh and a token request, both
    with all their attempts and the longest pauses. -/
def sectionTime (config : JibitConfig) : ℚ :=
  2 * (config.retry.maxAttempts * sendTime config.timeout +
    (config.retry.maxAttempts - 1) * config.retry.maxDelay)

/-- The longest an operation may take; only sends and sleeps take time of their own. -/
def operationTime (config : JibitConfig) : Effect → ℚ
  | .send _ _ => sendTime config.timeout
  | .sleep _ => config.retry.maxDelay
  | _ => 0

section Times
variable (config : JibitConfig)

theorem sendTime_nonneg (timeout : TimeoutConfig) : 0 ≤ sendTime timeout :=
  add_nonneg (add_nonneg (add_nonneg timeout.connect_pos.le timeout.read_pos.le)
    timeout.write_pos.le) timeout.pool_pos.le

theorem operationTime_nonneg (o : Effect) : 0 ≤ operationTime config o := by
  cases o with
  | send purpose request => exact sendTime_nonneg config.timeout
  | sleep delay => exact config.retry.maxDelay_nonneg
  | _ => exact le_refl (0 : ℚ)

theorem operationTime_prices (e : RequestEngine) :
    Prices (operationTime config) e (sendTime config.timeout) config.retry.maxDelay where
  send _ _ _ := le_refl _
  pause _ _ := le_refl _
  free o ho := by
    cases o <;> first | rfl | exact ho.elim
  perSend_nonneg := sendTime_nonneg config.timeout
  perPause_nonneg := config.retry.maxDelay_nonneg

/-- The time of a section is the budget of two executions. -/
theorem sectionTime_eq {e : RequestEngine} (he : e.retryPolicy.config = config.retry) :
    2 • requestBudget e (sendTime config.timeout) config.retry.maxDelay = sectionTime config := by
  have hone := config.retry.one_le_maxAttempts
  rw [requestBudget, he, sectionTime, nsmul_eq_mul, nsmul_eq_mul, nsmul_eq_mul, Nat.cast_sub hone]
  norm_num

theorem sectionTime_nonneg : 0 ≤ sectionTime config := by
  have hone : (1 : ℚ) ≤ config.retry.maxAttempts := by
    exact_mod_cast config.retry.one_le_maxAttempts
  have hsend := sendTime_nonneg config.timeout
  have hpause := config.retry.maxDelay_nonneg
  have hattempts : (0 : ℚ) ≤ config.retry.maxAttempts - 1 := sub_nonneg.mpr hone
  unfold sectionTime
  positivity

end Times

/-! ## 2. Processes -/

/-- A process: its configuration and the calls of its authenticators, one after another, all under
    Redis locks with these timings. -/
structure RefreshProcess (keyPrefix : String) (timeout blockingTimeout : ℚ) where
  config : JibitConfig
  calls : List (ServiceAuthenticator × AuthenticatorCall)
  configured : ∀ call ∈ calls,
    call.1.engine.config = config ∧ call.1.engine.retryPolicy.config = config.retry
  locked : ∀ call ∈ calls,
    call.1.locks = redisLockProvider keyPrefix timeout blockingTimeout

variable {ι : Type} {keyPrefix : String} {timeout blockingTimeout : ℚ}

/-- The locks of Redis as leases of their names. -/
def redisLeases (processes : ι → RefreshProcess keyPrefix timeout blockingTimeout) :
    Leasing effects ι String ℚ where
  grants
    | .redisAcquire name _ _, none => some name
    | _, _ => none
  givesBack
    | .redisRelease _ => true
    | _ => false
  takes i := operationTime (processes i).config
  lifetime := timeout

section Sections
variable {processes : ι → RefreshProcess keyPrefix timeout blockingTimeout} {i : ι} {budget : ℚ}
  {α : Type}

theorem plain_of_isUnlockedWork {o : Effect} (h : isUnlockedWork o) :
    (redisLeases processes).Plain o := by
  cases o with
  | redisAcquire => exact absurd trivial h.2
  | redisRelease => exact absurd trivial h.2
  | _ => exact ⟨rfl, fun _ => rfl⟩

theorem unlocked_inTime {p : Py α} (h : p.Only isUnlockedWork) :
    (redisLeases processes).InTime i budget p none :=
  Leasing.inTime_of_only (h.mono fun _ => plain_of_isUnlockedWork)

/-- A locked section gives its lease back in time. -/
theorem lock_inTime {body : Py α} (hbody : body.Only isUnlockedWork)
    (hwithin : body.Within (S := effects) (operationTime (processes i).config) budget)
    (key : String) : (redisLeases processes).InTime i budget
      ((redisLockProvider keyPrefix timeout blockingTimeout).lock key body) none := by
  intro failure
  cases failure with
  | some error => rfl
  | none =>
    refine Leasing.InTime.section (operationTime_nonneg _)
      (hbody.mono fun _ => plain_of_isUnlockedWork) hwithin fun outcome left hleft => ?_
    refine ⟨hleft, fun failure => ⟨rfl, ?_⟩⟩
    cases failure with
    | some error => rfl
    | none => cases outcome <;> rfl

variable (a : ServiceAuthenticator)

/-- What `get_token` does under its lock. -/
theorem getToken_section (hlocks : a.locks = redisLockProvider keyPrefix timeout blockingTimeout)
    (hbudget : 2 • requestBudget a.engine (sendTime (processes i).config.timeout)
      (processes i).config.retry.maxDelay ≤ budget) :
    (redisLeases processes).InTime i budget a.getToken none := by
  have hprices := operationTime_prices (processes i).config a.engine
  have hnonneg : 0 ≤ 2 • requestBudget a.engine (sendTime (processes i).config.timeout)
      (processes i).config.retry.maxDelay := nsmul_nonneg (requestBudget_nonneg hprices) 2
  refine Leasing.InTime.bind (unlocked_inTime (p := Py.clock) ⟨⟨trivial, id⟩, fun _ => trivial⟩)
    fun now => ?_
  refine (unlocked_inTime (safeGet_only a)).bind fun cached => ?_
  split
  · rfl
  · rw [hlocks]
    refine lock_inTime ?_ (Prog.Within.mono ?_ hbudget) a.cacheKey
    · refine ⟨⟨trivial, id⟩, fun now => (safeGet_only a).bind fun cached => ?_⟩
      split
      · trivial
      · exact refreshOrAcquire_only a _ _
    · refine free_perform hprices.free (o := .clock) trivial fun now => ?_
      refine free_bind hprices.free safeGet_free hnonneg fun cached => ?_
      split
      · exact hnonneg
      · exact refreshOrAcquire_within hprices _ _

/-- What `recover_from_unauthorized` does under its lock. -/
theorem recover_section (hlocks : a.locks = redisLockProvider keyPrefix timeout blockingTimeout)
    (hbudget : 2 • requestBudget a.engine (sendTime (processes i).config.timeout)
      (processes i).config.retry.maxDelay ≤ budget) (rejected : String) :
    (redisLeases processes).InTime i budget (a.recoverFromUnauthorized rejected) none := by
  have hprices := operationTime_prices (processes i).config a.engine
  have hnonneg : 0 ≤ 2 • requestBudget a.engine (sendTime (processes i).config.timeout)
      (processes i).config.retry.maxDelay := nsmul_nonneg (requestBudget_nonneg hprices) 2
  unfold ServiceAuthenticator.recoverFromUnauthorized
  rw [hlocks]
  refine lock_inTime ?_ (Prog.Within.mono ?_ hbudget) a.cacheKey
  · refine (safeGet_only a).bind fun cached => ?_
    refine Prog.always_perform_bind.mpr ⟨⟨trivial, id⟩, fun now => ?_⟩
    split
    · trivial
    · exact refreshOrAcquire_only a _ _
  · refine free_bind hprices.free safeGet_free hnonneg fun cached => ?_
    refine free_perform hprices.free (o := .clock) trivial fun now => ?_
    split
    · exact hnonneg
    · exact refreshOrAcquire_within hprices _ _

/-- A process gives back every lease within the time of a section. -/
theorem process_inTime (processes : ι → RefreshProcess keyPrefix timeout blockingTimeout) (i : ι) :
    (redisLeases processes).InTime i (sectionTime (processes i).config)
      (runCalls (processes i).calls) none := by
  have hcall : ∀ call ∈ (processes i).calls, (redisLeases processes).InTime i
      (sectionTime (processes i).config) (call.2.run call.1) none := by
    rintro ⟨a, call⟩ hmem
    have hlocks := (processes i).locked _ hmem
    have hbudget := (sectionTime_eq (processes i).config ((processes i).configured _ hmem).2).le
    cases call with
    | getToken => exact (getToken_section a hlocks hbudget).bind fun _ => rfl
    | recoverFromUnauthorized rejected =>
      exact (recover_section a hlocks hbudget rejected).bind fun _ => rfl
    | invalidate => exact unlocked_inTime ⟨⟨trivial, id⟩, fun _ => trivial⟩
  generalize (processes i).calls = calls at hcall
  induction calls with
  | nil => rfl
  | cons call calls ih =>
    refine (hcall call List.mem_cons_self).attempt.bind fun outcome => ?_
    refine (ih fun other hother => hcall other (List.mem_cons_of_mem _ hother)).bind fun _ => rfl

end Sections

/-! ## 3. Exclusion -/

variable [DecidableEq ι]

/-- Process `i` holds the lock of this name and has read the cache again. -/
def inSection (s : Leases effects ι String ℚ) (i : ι) (name : String) : Prop :=
  ∃ hold, s.held i = some hold ∧ hold.name = name ∧ ∃ key, Effect.storeGet key ∈ hold.performed

/-- The processes before their first operation. -/
def launched (processes : ι → RefreshProcess keyPrefix timeout blockingTimeout) (t₀ : ℚ)
    (lease : String → Option (ι × ℚ)) :
    Clocked effects PyError (List (Except PyError (Option TokenState))) ι
      (Leases effects ι String ℚ) ℚ where
  now := t₀
  since _ := t₀
  progs i := runCalls (processes i).calls
  shared := { lease, held := fun _ => none }

/-- In no timing are two processes inside the section of one cache key.  A section's sends and
    pauses take no longer than configured; everything beyond that is at most `slack` in all. -/
def RefreshExclusive
    (processes : ι → RefreshProcess keyPrefix timeout blockingTimeout) (slack : ℚ) :
    Prop :=
  ∀ t₀ lease c, Passes ((redisLeases processes).machine slack) (launched processes t₀ lease) c →
    ∀ i j name, i ≠ j → ¬ (inSection c.shared i name ∧ inSection c.shared j name)

/-- Token refreshes exclude each other when every section fits into the lease. -/
theorem refresh_exclusive (processes : ι → RefreshProcess keyPrefix timeout blockingTimeout)
    {slack : ℚ} (hslack : 0 ≤ slack)
    (hfits : ∀ i, sectionTime (processes i).config + slack < timeout) :
    RefreshExclusive processes slack := by
  intro t₀ lease c run i j name hij
  rintro ⟨⟨holdᵢ, hi, hnameᵢ, -⟩, holdⱼ, hj, hnameⱼ, -⟩
  have horderly : (redisLeases processes).Orderly slack (fun i => sectionTime (processes i).config)
      (launched processes t₀ lease) :=
    ⟨fun i _ => process_inTime processes i, fun i hold hheld => nomatch hheld⟩
  have hreached := horderly.passes hslack (fun i => sectionTime_nonneg _) hfits run
  exact hij (hreached.exclusive hi hj (hnameᵢ.trans hnameⱼ.symm))

/-- The deployment's authenticator with other timings, under a Redis lock with default timings. -/
def sharingAuthenticator (timeout : TimeoutConfig) (retry : RetryConfig) : ServiceAuthenticator :=
  { sampleAuthenticator with
    config := { sampleConfig with timeout, retry }
    engine :=
      { sampleEngine with config := { sampleConfig with timeout, retry }, retryPolicy := ⟨retry⟩ }
    locks := redisLockProvider
    configured := ⟨rfl, rfl⟩
    keyed := sampleAuthenticator.keyed }

/-- A process that asks for a token once. -/
def sharingProcess (timeout : TimeoutConfig) (retry : RetryConfig) :
    RefreshProcess "jibit-lock" 30 35 where
  config := { sampleConfig with timeout, retry }
  calls := [(sharingAuthenticator timeout retry, .getToken)]
  configured call hcall := by
    rw [List.mem_singleton.mp hcall]
    exact ⟨rfl, rfl⟩
  locked call hcall := by
    rw [List.mem_singleton.mp hcall]
    rfl

/-- Three processes with short timeouts and two attempts. -/
theorem refresh_exclusive_short :
    RefreshExclusive (fun _ : Fin 3 => sharingProcess
      { connect := 1 / 2, read := 1, write := 1, pool := 1 / 2 }
      { maxAttempts := 2, maxDelay := 1 }) 1 := by
  refine refresh_exclusive _ (by norm_num) fun i => ?_
  norm_num [sharingProcess, sectionTime, sendTime]

/-! ## 4. The default timings -/

/-- Answers of an empty cache and of a provider that has not answered yet; a lock that is not free
    blocks. -/
def waiting (processes : ι → RefreshProcess keyPrefix timeout blockingTimeout) (i : ι)
    (now elapsed : ℚ) (o : Effect) (s : Leases effects ι String ℚ) :
    Option (Effect.Answer o × Leases effects ι String ℚ) :=
  let answer := (scripted o []).1
  if ∀ n, (redisLeases processes).grants o answer = some n →
      (redisLeases processes).Free n now s then
    some (answer, (redisLeases processes).after 0 i now elapsed o answer s)
  else none

theorem waiting_step {processes : ι → RefreshProcess keyPrefix timeout blockingTimeout} (i : ι)
    (now elapsed : ℚ) (o : Effect) (s : Leases effects ι String ℚ) (answer : Effect.Answer o)
    (s' : Leases effects ι String ℚ)
    (h : waiting processes i now elapsed o s = some (answer, s')) :
    ((redisLeases processes).machine 0).step i now elapsed o s answer s' := by
  unfold waiting at h
  dsimp only at h
  split at h
  · rename_i hfree
    cases h
    exact ⟨hfree, rfl⟩
  · exact nomatch h

/-- The next operation is a send. -/
def aboutToSend {α : Type} : Py α → Bool
  | .call (.send _ _) _ => true
  | _ => false

/-- What `inSection` says, evaluated. -/
def isInSection (s : Leases effects ι String ℚ) (i : ι) (name : String) : Bool :=
  (s.held i).any fun hold => hold.name = name && hold.performed.any fun
    | .storeGet _ => true
    | _ => false

omit [DecidableEq ι] in
theorem inSection_of_isInSection {s : Leases effects ι String ℚ} {i : ι} {name : String}
    (h : isInSection s i name = true) : inSection s i name := by
  obtain ⟨hold, hheld, hhold⟩ := (Option.any_eq_true _ _).mp h
  rw [Bool.and_eq_true, List.any_eq_true] at hhold
  obtain ⟨hname, o, ho, hread⟩ := hhold
  refine ⟨hold, hheld, of_decide_eq_true hname, ?_⟩
  cases o with
  | storeGet key => exact ⟨key, ho⟩
  | _ => exact nomatch hread

/-- With the default configuration a provider that answers after half a minute lets a second process
    into the section: one send may take 70 seconds, the lease ends after 30. -/
theorem default_lease_outlived :
    ¬ RefreshExclusive (fun _ : Fin 2 => sharingProcess {} {}) 0 := by
  intro hexclusive
  let processes : Fin 2 → RefreshProcess "jibit-lock" 30 35 := fun _ => sharingProcess {} {}
  -- The first process sends its token request, the second one waits for the lock.
  let c₁ := takeTurns (S := effects) (waiting processes) [0, 0, 0, 0, 0, 0, 0, 0, 1, 1]
    (launched processes 0 fun _ => none)
  have run₁ : Passes ((redisLeases processes).machine 0) (launched processes 0 fun _ => none) c₁ :=
    takeTurns_passes waiting_step _ .start
  have hsending : aboutToSend (c₁.progs 0) = true := by decide +kernel
  have hnow : c₁.now = 0 := by decide +kernel
  have hsince : c₁.since 0 = 0 := by decide +kernel
  have hspare : (c₁.shared.held 0).map (·.spare) = some 0 := by decide +kernel
  have hother : (c₁.shared.held 1).isNone = true := by decide +kernel
  -- Thirty seconds later the provider has still not answered, and the lease has ended.
  have run₂ := run₁.elapse 30 (by rw [hnow]; norm_num) (by
    intro i o k hi hold hheld
    match i with
    | 0 =>
      rw [hi] at hsending
      cases o with
      | send purpose request =>
        rw [show c₁.shared.held 0 = some hold from hheld] at hspare
        have hnone : hold.spare = 0 := Option.some.inj hspare
        show (30 : ℚ) - c₁.since 0 ≤ sendTime {} + hold.spare
        rw [hsince, hnone]
        norm_num [sendTime]
      | _ => exact nomatch hsending
    | 1 =>
      rw [show c₁.shared.held 1 = some hold from hheld] at hother
      exact nomatch hother)
  have run₃ := takeTurns_passes waiting_step [1, 1, 1] run₂
  refine hexclusive 0 (fun _ => none) _ run₃ 0 1
    "jibit-lock:jibit:tokens:transfers:31d57ac87111ea375cd3" (by decide) ⟨?_, ?_⟩
  · exact inSection_of_isInSection (by decide +kernel)
  · exact inSection_of_isInSection (by decide +kernel)

end JibitSdk.Guarantees
