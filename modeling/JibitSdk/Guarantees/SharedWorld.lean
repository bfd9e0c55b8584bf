import JibitSdk.Guarantees.World
import JibitSdk.Reasoning.Threads

/-!
# A world of many workers

One token store, one `ThreadLockProvider`, and any number of workers.  Store operations are atomic;
a lock is taken by one worker at a time; everything else may answer anything, within what is assumed
of the clock and of the provider.
-/

namespace JibitSdk.Guarantees

open JibitSdk.Python JibitSdk.Reasoning JibitSdk.Sdk

/-! ## 1. The machine -/

/-- What the workers share. -/
structure Shared (ι : Type) where
  store : Store
  /-- Who is inside `ThreadLockProvider._guard`, which no worker enters twice. -/
  guard : Option ι := none
  /-- `ThreadLockProvider._locks`. -/
  locks : String → Option ℕ := fun _ => none
  /-- The next lock object. -/
  fresh : ℕ := 0
  /-- Who holds a lock. -/
  owner : ℕ → Option ι := fun _ => none

/-- What is assumed of the outside: times the clock may show, outcomes a token request may have. -/
structure Surroundings where
  time : ℚ → Prop := fun _ => True
  provider : TransportOutcome → Prop := fun _ => True

variable {ι : Type}

/-- What an operation of worker `i` may answer, and what it leaves. -/
def sharedWorld (w : Surroundings) (i : ι) : Machine effects (Shared ι) where
  step
    | .storeGet key, s, found, s' => found = s.store.get key ∧ s' = s
    | .storeSet key token, s, _, s' =>
      s' = { s with store := Function.update s.store key (some (.token token)) }
    | .storeDelete key, s, _, s' => s' = { s with store := Function.update s.store key none }
    | .guardAcquire, s, _, s' => s.guard = none ∧ s' = { s with guard := some i }
    | .guardRelease, s, _, s' => s' = { s with guard := none }
    | .setdefaultLock key, s, lock, s' => match s.locks key with
      | some known => lock = known ∧ s' = s
      | none => lock = s.fresh ∧ s' = { s with
          locks := Function.update s.locks key (some s.fresh), fresh := s.fresh + 1 }
    | .lockAcquire lock, s, _, s' =>
      s.owner lock = none ∧ s' = { s with owner := Function.update s.owner lock (some i) }
    | .lockRelease lock, s, _, s' => s' = { s with owner := Function.update s.owner lock none }
    | .send .token _, s, outcome, s' => w.provider outcome ∧ s' = s
    | .clock, s, now, s' => w.time now ∧ s' = s
    | _, s, _, s' => s' = s

section

variable {w : Surroundings} {i : ι} {key : String} {s s' : Shared ι} {lock : ℕ}

theorem sharedWorld_setdefault_known {known : ℕ} (h : s.locks key = some known) :
    (sharedWorld w i).step (.setdefaultLock key) s lock s' ↔ lock = known ∧ s' = s := by
  unfold sharedWorld
  dsimp only
  rw [h]

theorem sharedWorld_setdefault_new (h : s.locks key = none) :
    (sharedWorld w i).step (.setdefaultLock key) s lock s' ↔ lock = s.fresh ∧ s' = { s with
      locks := Function.update s.locks key (some s.fresh), fresh := s.fresh + 1 } := by
  unfold sharedWorld
  dsimp only
  rw [h]

end

/-- A log of who did what. -/
abbrev SharedLog (ι : Type) : Type := List (ι × Event effects)

/-- The shared state and the log so far. -/
abbrev SharedState (ι : Type) : Type := Shared ι × SharedLog ι

/-! ## 2. Playing a schedule -/

variable {σ : Type}

/-- Answers of the shared world when the outside is played by handlers, one for each worker; `none`
    blocks. -/
def sharedAnswer (env : ι → Handler σ) (i : ι) :
    (o : Effect) → Shared ι × σ → Option (Effect.Answer o × Shared ι × σ)
  | .storeGet key, s => some (s.1.store.get key, s)
  | .storeSet key token, s =>
    some ((), { s.1 with store := Function.update s.1.store key (some (.token token)) }, s.2)
  | .storeDelete key, s =>
    some ((), { s.1 with store := Function.update s.1.store key none }, s.2)
  | .guardAcquire, s =>
    if s.1.guard.isNone then some ((), { s.1 with guard := some i }, s.2) else none
  | .guardRelease, s => some ((), { s.1 with guard := none }, s.2)
  | .setdefaultLock key, s => match s.1.locks key with
    | some known => some (known, s)
    | none => some (s.1.fresh, { s.1 with
        locks := Function.update s.1.locks key (some s.1.fresh), fresh := s.1.fresh + 1 }, s.2)
  | .lockAcquire lock, s =>
    if (s.1.owner lock).isNone then
      some ((), { s.1 with owner := Function.update s.1.owner lock (some i) }, s.2)
    else none
  | .lockRelease lock, s =>
    some ((), { s.1 with owner := Function.update s.1.owner lock none }, s.2)
  | o, s => some ((env i o s.2).1, s.1, (env i o s.2).2)

/-- The same with a log. -/
def recordedAnswer (env : ι → Handler σ) (i : ι) (o : Effect) (s : (Shared ι × σ) × SharedLog ι) :
    Option (Effect.Answer o × (Shared ι × σ) × SharedLog ι) :=
  (sharedAnswer env i o s.1).map fun out => (out.1, out.2, s.2 ++ [(i, ⟨o, out.1⟩)])

/-- Leave out what the handlers keep. -/
def sharedView (s : (Shared ι × σ) × SharedLog ι) : SharedState ι := (s.1.1, s.2)

/-- The handlers stay within the surroundings. -/
structure PlayedWithin (w : Surroundings) (env : ι → Handler σ) : Prop where
  time : ∀ i s, w.time (env i .clock s).1
  provider : ∀ i request s, w.provider (env i (.send .token request) s).1

theorem recordedAnswer_step {w : Surroundings} {env : ι → Handler σ}
    (hw : PlayedWithin w env) {i : ι}
    {o : Effect} {s s' : (Shared ι × σ) × SharedLog ι} {answer : Effect.Answer o}
    (h : recordedAnswer env i o s = some (answer, s')) :
    (recorded (sharedWorld w) i).step o (sharedView s) answer (sharedView s') := by
  unfold recordedAnswer at h
  rcases Option.map_eq_some_iff.mp h with ⟨⟨answer', t⟩, hanswer, heq⟩
  cases heq
  refine ⟨?_, rfl⟩
  show (sharedWorld w i).step o s.1.1 _ t.1
  cases o with
  | guardAcquire =>
    change (if s.1.1.guard.isNone then some _ else none) = _ at hanswer
    by_cases hfree : s.1.1.guard.isNone = true
    · rw [if_pos hfree] at hanswer
      cases hanswer
      exact ⟨Option.isNone_iff_eq_none.mp hfree, rfl⟩
    · rw [if_neg hfree] at hanswer
      exact nomatch hanswer
  | lockAcquire lock =>
    change (if (s.1.1.owner lock).isNone then some _ else none) = _ at hanswer
    by_cases hfree : (s.1.1.owner lock).isNone = true
    · rw [if_pos hfree] at hanswer
      cases hanswer
      exact ⟨Option.isNone_iff_eq_none.mp hfree, rfl⟩
    · rw [if_neg hfree] at hanswer
      exact nomatch hanswer
  | setdefaultLock key =>
    change (match s.1.1.locks key with
      | some known => some (known, s.1)
      | none => some _) = _ at hanswer
    cases hknown : s.1.1.locks key with
    | some known =>
      rw [hknown] at hanswer
      cases hanswer
      exact (sharedWorld_setdefault_known hknown).mpr ⟨rfl, rfl⟩
    | none =>
      rw [hknown] at hanswer
      cases hanswer
      exact (sharedWorld_setdefault_new hknown).mpr ⟨rfl, rfl⟩
  | send purpose request =>
    cases hanswer
    cases purpose with
    | token => exact ⟨hw.provider i request s.1.2, rfl⟩
    | operation access => rfl
  | storeGet key => cases hanswer; exact ⟨rfl, rfl⟩
  | clock => cases hanswer; exact ⟨hw.time i s.1.2, rfl⟩
  | _ => cases hanswer; rfl

/-- What is played from an empty log can happen. -/
theorem play_shared {α : Type} [DecidableEq ι] {w : Surroundings} {env : ι → Handler σ}
    (hw : PlayedWithin w env) (schedule : List ι) (ps : ι → Py α) (s : Shared ι × σ) :
    Interleaved (recorded (sharedWorld w)) ps (s.1, [])
      (play (S := effects) (recordedAnswer env) schedule ps (s, [])).1
      (sharedView (play (S := effects) (recordedAnswer env) schedule ps (s, [])).2) :=
  play_interleaved sharedView (fun _ _ _ _ _ h => recordedAnswer_step hw h) schedule .start

end JibitSdk.Guarantees
