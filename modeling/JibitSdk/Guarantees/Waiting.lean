import JibitSdk.Guarantees.LockProtocol
import JibitSdk.Guarantees.Protection

/-!
# Nobody waits for ever

No interleaving of facade calls gets stuck, and none leaves a lock behind.  A call waits for a lock
only while another is inside the section of the same key, and never are two of them inside it.
-/

namespace JibitSdk.Guarantees

open JibitSdk.Python JibitSdk.Reasoning JibitSdk.Sdk

variable {ι M : Type}

/-! ## 1. No interleaving gets stuck -/

theorem calls_careful (call : ι → ServiceCall M) :
    Locking.Careful threadProtocol LockPhase.hand .outside fun i => (call i).run := by
  intro i
  apply (call_tidy (call i)).mono
  intro _ phase hphase
  rw [hphase]
  rfl

/-- Side by side from this world on. -/
abbrev CallsRun [DecidableEq ι] (w : Surroundings) (call : ι → ServiceCall M) (s₀ : Shared ι) :
    (ι → Py (APIResponse M)) → SharedState ι → Prop :=
  Interleaved (recorded (sharedWorld w)) (fun i => (call i).run) (s₀, [])

/-- However many facade calls, of whatever services, have taken turns in whatever order: unless all
    of them have ended one of them can go on, they cannot go on for ever, they can all be brought to
    an end, and then the guard and every lock are free. -/
theorem calls_never_stuck [DecidableEq ι] [Finite ι] (call : ι → ServiceCall M) {w : Surroundings}
    (hw : Responsive w) {s₀ : Shared ι} (hfree : ∀ r, ownerOf s₀ r = none)
    {ps : ι → Py (APIResponse M)} {s : SharedState ι} (run : CallsRun w call s₀ ps s) :
    ((∀ i, (ps i).Ended) ∨ ∃ c, Turn (recorded (sharedWorld w)) (ps, s) c) ∧
      (WellFounded fun c' c : (ι → Py (APIResponse M)) × SharedState ι =>
        Turn (recorded (sharedWorld w)) c c') ∧
      (∃ ps' s', CallsRun w call s₀ ps' s' ∧ ∀ i, (ps' i).Ended) ∧
      ((∀ i, (ps i).Ended) → ∀ r, ownerOf s.1 r = none) := by
  have hM := sharedWorld_guards (ι := ι) hw
  have hps := calls_careful call
  exact ⟨Locking.goes_on hM threadProtocol_hands rfl hfree hps run, turn_wellFounded,
    Locking.finishes hM threadProtocol_hands rfl hfree hps run,
    Locking.free_of_ended hM threadProtocol_hands rfl hfree hps run⟩

/-- The world of a new client with nothing stored. -/
def idleWorld : Shared ι := { store := fun _ => none }

theorem idleWorld_free (r : Resource) : ownerOf (idleWorld : Shared ι) r = none := by
  cases r <;> rfl

theorem responsive_any : Responsive {} := ⟨⟨0, trivial⟩, ⟨.timeoutError, trivial⟩⟩

/-- The transfer of the deployment, as a call of its client. -/
def sampleTransfer : ServiceCall Unit := .audited (sampleCall .submitBatch)

/-- The provider issues a token, then it takes what is submitted. -/
def transferScript : List TransportOutcome :=
  [issueT1, answer 200 "\x7b\x7d", answer 200 "\x7b\x7d"]

/-- Two transfers of one client, scheduled like this. -/
def playTransfers (schedule : List Bool) :
    (Bool → Py (APIResponse Unit)) × (Shared Bool × List TransportOutcome) × SharedLog Bool :=
  play (S := effects) (recordedAnswer fun _ => scripted) schedule
    (fun _ => sampleTransfer.run) ((idleWorld, transferScript), [])

theorem playTransfers_runs (schedule : List Bool) :
    CallsRun {} (fun _ => sampleTransfer) idleWorld (playTransfers schedule).1
      (sharedView (playTransfers schedule).2) :=
  play_shared ⟨fun _ _ => trivial, fun _ _ _ => trivial⟩ schedule _ (idleWorld, transferScript)

/-- The first transfer is inside the section of its key, and the second has
    come to the same lock. -/
def oneInside : List Bool := List.replicate 7 false ++ List.replicate 6 true

/-- One of them can go on, and both can be brought to an end. -/
theorem calls_never_stuck_two :
    let ps := (playTransfers oneInside).1
    let s := sharedView (playTransfers oneInside).2
    ((∀ i, (ps i).Ended) ∨ ∃ c, Turn (recorded (sharedWorld {})) (ps, s) c) ∧
      (WellFounded fun c' c : (Bool → Py (APIResponse Unit)) × SharedState Bool =>
        Turn (recorded (sharedWorld {})) c c') ∧
      (∃ ps' s', CallsRun {} (fun _ : Bool => sampleTransfer) idleWorld ps' s' ∧ ∀ i,
        (ps' i).Ended) ∧
      ((∀ i, (ps i).Ended) → ∀ r, ownerOf s.1 r = none) :=
  calls_never_stuck (fun _ : Bool => sampleTransfer) responsive_any idleWorld_free
    (playTransfers_runs oneInside)

/-! ## 2. Sections of one key exclude each other -/

/-- Where worker `i` is, as its history says. -/
def phaseOf [DecidableEq ι] (i : ι) (log : SharedLog ι) : Option LockPhase :=
  threadProtocol.run .outside (historyOf i log)

/-- `_locks` gives every key a lock of its own. -/
structure Registry (s : Shared ι) : Prop where
  known : ∀ key number, s.locks key = some number → number < s.fresh
  apart : ∀ key key' number, s.locks key = some number → s.locks key' = some number → key = key'

/-- Only `setdefault` touches the registry. -/
theorem registry_kept {w : Surroundings} {i : ι} {o : Effect} {s s' : Shared ι}
    {a : Effect.Answer o}
    (ho : ∀ key, o ≠ .setdefaultLock key) (hstep : (sharedWorld w i).step o s a s') :
    s'.locks = s.locks ∧ s'.fresh = s.fresh := by
  cases o with
  | setdefaultLock key => exact absurd rfl (ho key)
  | send purpose request =>
    cases purpose with
    | token => rw [hstep.2]; exact ⟨rfl, rfl⟩
    | operation access => rw [show s' = s from hstep]; exact ⟨rfl, rfl⟩
  | guardAcquire => rw [hstep.2]; exact ⟨rfl, rfl⟩
  | lockAcquire number => rw [hstep.2]; exact ⟨rfl, rfl⟩
  | storeGet key => rw [hstep.2]; exact ⟨rfl, rfl⟩
  | clock => rw [hstep.2]; exact ⟨rfl, rfl⟩
  | _ => rw [show s' = _ from hstep]; exact ⟨rfl, rfl⟩

/-- `setdefault` keeps what is registered, and the lock it answers is the key's. -/
theorem setdefault_registers {w : Surroundings} {i : ι} {key : String} {number : ℕ}
    {s s' : Shared ι}
    (h : Registry s) (hstep : (sharedWorld w i).step (.setdefaultLock key) s number s') :
    Registry s' ∧ s'.locks key = some number ∧
      ∀ other known, s.locks other = some known → s'.locks other = some known := by
  cases hlock : s.locks key with
  | some known =>
    rw [sharedWorld_setdefault_known hlock] at hstep
    rw [hstep.1, hstep.2]
    exact ⟨h, hlock, fun _ _ hother => hother⟩
  | none =>
    rw [sharedWorld_setdefault_new hlock] at hstep
    rw [hstep.1, hstep.2]
    have hkept : ∀ other known, s.locks other = some known →
        Function.update s.locks key (some s.fresh) other = some known := by
      intro other known hother
      rw [Function.update_of_ne]
      · exact hother
      · intro heq
        rw [heq, hlock] at hother
        cases hother
    -- a lock is the new one, or was there before
    have hcases {other : String} {known : ℕ}
        (hother : Function.update s.locks key (some s.fresh) other = some known) :
        other = key ∧ known = s.fresh ∨ s.locks other = some known ∧ known < s.fresh := by
      by_cases heq : other = key
      · rw [heq, Function.update_self] at hother
        exact .inl ⟨heq, (Option.some.inj hother).symm⟩
      · rw [Function.update_of_ne heq] at hother
        exact .inr ⟨hother, h.known other known hother⟩
    refine ⟨⟨fun other known hother => ?_, fun one other known hone hother => ?_⟩,
      Function.update_self .., hkept⟩
    · show known < s.fresh + 1
      rcases hcases hother with hnew | hold <;> omega
    · rcases hcases hone with hnew | hold
      · rcases hcases hother with hnew' | hold'
        · rw [hnew.1, hnew'.1]
        · omega
      · rcases hcases hother with hnew' | hold'
        · omega
        · exact h.apart one other known hold.1 hold'.1

theorem registry_step {w : Surroundings} {i : ι} {o : Effect} {s s' : Shared ι}
    {a : Effect.Answer o} (h : Registry s) (hstep : (sharedWorld w i).step o s a s') :
    Registry s' ∧ ∀ key number, s.locks key = some number → s'.locks key = some number := by
  by_cases ho : ∃ key, o = .setdefaultLock key
  · rcases ho with ⟨key, rfl⟩
    have hset := setdefault_registers h hstep
    exact ⟨hset.1, hset.2.2⟩
  · have hkept := registry_kept (fun key heq => ho ⟨key, heq⟩) hstep
    exact ⟨⟨by rw [hkept.1, hkept.2]; exact h.known, by rw [hkept.1]; exact h.apart⟩,
      by rw [hkept.1]; exact fun _ _ hkey => hkey⟩

section Exclusion
variable [DecidableEq ι] {w : Surroundings} {call : ι → ServiceCall M} {s₀ : Shared ι}
  {ps : ι → Py (APIResponse M)} {s : SharedState ι}

/-- What a worker asked for is registered. -/
theorem asked_registered (hregistry : Registry s₀) (run : CallsRun w call s₀ ps s) :
    Registry s.1 ∧ ∀ i phase key number, phaseOf i s.2 = some phase →
      phase.asked = some (key, number) → s.1.locks key = some number := by
  induction run with
  | start =>
    apply And.intro hregistry
    intro i phase key number hphase hasked
    cases hphase
    cases hasked
  | @step ps s s' j o k a run hj hstep ih =>
    have hnext := registry_step ih.1 hstep.1
    apply And.intro hnext.1
    intro i phase key number hphase hasked
    rw [phaseOf, hstep.2] at hphase
    by_cases hij : j = i
    · subst hij
      rw [historyOf_self, Protocol.run_concat] at hphase
      rcases Option.bind_eq_some_iff.mp hphase with ⟨before, hbefore, hstepped⟩
      cases phaseStep_of_next hstepped with
      | enter => cases hasked
      | release => cases hasked
      | plain hplain => exact hnext.2 _ _ (ih.2 j _ key number hbefore hasked)
      | leave => exact hnext.2 _ _ (ih.2 j _ key number hbefore hasked)
      | acquire => exact hnext.2 _ _ (ih.2 j _ key number hbefore hasked)
      | find =>
        cases hstepped
        cases hasked
        exact (setdefault_registers ih.1 hstep.1).2.1
    · rw [historyOf_other hij] at hphase
      exact hnext.2 _ _ (ih.2 i phase key number hphase hasked)

/-- In any interleaving of facade calls no two workers are inside the locked sections of one cache
    key; workers that asked for one key have one lock and workers that asked for different keys have
    different ones; and a worker that cannot take its lock waits for another one inside the section
    of its own key, so sections of different keys never hold each other up. -/
theorem sections_exclude (hw : Responsive w) (hfree : ∀ r, ownerOf s₀ r = none)
    (hregistry : Registry s₀) (run : CallsRun w call s₀ ps s) :
    (∀ i j key number number', phaseOf i s.2 = some (.inside key number) →
        phaseOf j s.2 = some (.inside key number') → i = j) ∧
      (∀ i j phase phase' key key' number number', phaseOf i s.2 = some phase →
        phaseOf j s.2 = some phase' → phase.asked = some (key, number) →
          phase'.asked = some (key', number') → (key = key' ↔ number = number')) ∧
      ∀ i number k, ps i = .call (.lockAcquire number) k → s.1.owner number ≠ none →
        ∃ j key, j ≠ i ∧ phaseOf i s.2 = some (.chosen key number) ∧
          phaseOf j s.2 = some (.inside key number) := by
  have hM := sharedWorld_guards (ι := ι) hw
  have howner := Locking.owner_iff_handOf hM threadProtocol_hands rfl hfree (calls_careful call) run
  have hasked := asked_registered hregistry run
  -- whoever is inside holds the lock
  have holds {i : ι} {key : String} {number : ℕ} (h : phaseOf i s.2 = some (.inside key number)) :
      s.1.owner number = some i := by
    apply (howner (.lock number) i).mpr
    rw [Locking.handOf, show threadProtocol.run .outside (historyOf i s.2) = _ from h]
    rfl
  refine ⟨fun i j key number number' hi hj => ?_, ?_, ?_⟩
  · have hsame := hasked.2 i _ key number hi rfl
    rw [hasked.2 j _ key number' hj rfl] at hsame
    cases hsame
    have howns := holds hi
    rw [holds hj] at howns
    exact (Option.some.inj howns).symm
  · intro i j phase phase' key key' number number' hi hj hkey hkey'
    have hone := hasked.2 i phase key number hi hkey
    have hother := hasked.2 j phase' key' number' hj hkey'
    constructor
    · intro heq
      rw [heq, hother] at hone
      exact (Option.some.inj hone).symm
    · intro heq
      rw [heq] at hone
      exact hasked.1.apart key key' number' hone hother
  · intro i number k hcall htaken
    rcases Option.ne_none_iff_exists'.mp htaken with ⟨j, hj⟩
    -- the worker that waits has chosen its lock
    rcases follows_interleaved (calls_careful call) run i with ⟨phase, hphase, hfollows⟩
    rw [hcall] at hfollows
    rcases hfollows.call () with ⟨phase', hnext, -⟩
    cases phaseStep_of_next hnext with
    | plain hplain => cases hplain
    | @acquire key =>
      have hi : phaseOf i s.2 = some (.chosen key number) := hphase
      -- and the owner is inside the section of the key whose lock it is
      have hheld := (howner (.lock number) j).mp hj
      rw [Locking.handOf] at hheld
      rcases Option.bind_eq_some_iff.mp hheld with ⟨phaseⱼ, hphaseⱼ, hhand⟩
      cases phaseⱼ with
      | inside key' number' =>
        cases hhand
        have hone := hasked.2 i _ key number hi rfl
        have hother := hasked.2 j _ key' number hphaseⱼ rfl
        rw [← hasked.1.apart key key' number hone hother] at hphaseⱼ
        refine ⟨j, key, fun heq => ?_, hi, hphaseⱼ⟩
        subst heq
        rw [show threadProtocol.run .outside (historyOf j s.2) = _ from hi] at hphaseⱼ
        cases hphaseⱼ
      | outside => cases hhand
      | guarded => cases hhand
      | found key' number' => cases hhand
      | chosen key' number' => cases hhand

end Exclusion

theorem idleWorld_registry : Registry (idleWorld : Shared ι) :=
  ⟨fun _ _ h => (by cases h), fun _ _ _ h => (by cases h)⟩

theorem sections_exclude_two :
    let s := sharedView (playTransfers oneInside).2
    (phaseOf false s.2 = some (.inside "jibit:tokens:transfers:31d57ac87111ea375cd3" 0) ∧
        phaseOf true s.2 = some (.chosen "jibit:tokens:transfers:31d57ac87111ea375cd3" 0)) ∧
      (∀ i j key number number', phaseOf i s.2 = some (.inside key number) →
        phaseOf j s.2 = some (.inside key number') → i = j) ∧
      (∀ i j phase phase' key key' number number', phaseOf i s.2 = some phase →
        phaseOf j s.2 = some phase' → phase.asked = some (key, number) →
          phase'.asked = some (key', number') → (key = key' ↔ number = number')) ∧
      ∀ i number k, (playTransfers oneInside).1 i = .call (.lockAcquire number) k →
        s.1.owner number ≠ none → ∃ j key, j ≠ i ∧ phaseOf i s.2 = some (.chosen key number) ∧
          phaseOf j s.2 = some (.inside key number) :=
  ⟨by decide +kernel,
    sections_exclude responsive_any idleWorld_free idleWorld_registry
      (playTransfers_runs oneInside)⟩

end JibitSdk.Guarantees
