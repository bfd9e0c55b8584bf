import JibitSdk.Guarantees.Attempts
import JibitSdk.Guarantees.World
import Mathlib.Tactic.Linarith

/-!
# The backoff law

The pauses of one execution never get shorter, lie between the undisturbed exponential and the
cap, and add up to at most one cap for each retry, whatever the random source draws.
-/

namespace JibitSdk.Guarantees

open JibitSdk.Python JibitSdk.Reasoning JibitSdk.Sdk

/-! ## 1. One pause -/

/-- The exponential under the cap, before jitter. -/
def exponential (c : RetryConfig) (attempt : ℕ) : ℚ :=
  min c.maxDelay (c.baseDelay * 2 ^ (attempt - 1))

/-- What the random source may draw. -/
def IsDraw (draw : ℚ) : Prop := 0 ≤ draw ∧ draw ≤ 1

section Pause
variable (c : RetryConfig) {attempt : ℕ} {draw : ℚ}

theorem exponential_nonneg (attempt : ℕ) : 0 ≤ exponential c attempt := by
  have hpow : (0 : ℚ) ≤ 2 ^ (attempt - 1) := by positivity
  exact le_min c.maxDelay_nonneg (mul_nonneg c.baseDelay_nonneg hpow)

theorem backoff_le_maxDelay (attempt : ℕ) (draw : ℚ) : backoff c attempt draw ≤ c.maxDelay :=
  min_le_left _ _

/-- Jitter only lengthens a pause. -/
theorem exponential_le_backoff (attempt : ℕ) (hdraw : IsDraw draw) :
    exponential c attempt ≤ backoff c attempt draw := by
  have hjitter : 0 ≤ exponential c attempt * c.jitterRatio * draw :=
    mul_nonneg (mul_nonneg (exponential_nonneg c attempt) c.jitterRatio_nonneg) hdraw.1
  show exponential c attempt ≤
    min c.maxDelay (exponential c attempt + exponential c attempt * c.jitterRatio * draw)
  apply le_min
  · exact min_le_left _ _
  · linarith

/-- Jitter at most doubles a pause, which is what the next attempt starts from. -/
theorem backoff_le_exponential_succ (hattempt : 1 ≤ attempt) (hdraw : IsDraw draw) :
    backoff c attempt draw ≤ exponential c (attempt + 1) := by
  have hratio : c.jitterRatio * draw ≤ 1 := mul_le_one₀ c.jitterRatio_le_one hdraw.1 hdraw.2
  have hjitter : exponential c attempt * c.jitterRatio * draw ≤ exponential c attempt := by
    rw [mul_assoc]
    exact mul_le_of_le_one_right (exponential_nonneg c attempt) hratio
  have hbase : exponential c attempt ≤ c.baseDelay * 2 ^ (attempt - 1) := min_le_right _ _
  have hdouble : c.baseDelay * 2 ^ (attempt + 1 - 1) = 2 * (c.baseDelay * 2 ^ (attempt - 1)) := by
    rw [show attempt + 1 - 1 = attempt - 1 + 1 by omega, pow_succ]
    ring
  unfold exponential
  rw [hdouble]
  apply le_min
  · exact backoff_le_maxDelay c attempt draw
  · calc backoff c attempt draw
        ≤ exponential c attempt + exponential c attempt * c.jitterRatio * draw := min_le_right _ _
      _ ≤ exponential c attempt + exponential c attempt := by linarith
      _ ≤ 2 * (c.baseDelay * 2 ^ (attempt - 1)) := by linarith

theorem exponential_le_succ (hattempt : 1 ≤ attempt) :
    exponential c attempt ≤ exponential c (attempt + 1) := by
  have hzero : IsDraw 0 := ⟨le_refl 0, zero_le_one⟩
  exact (exponential_le_backoff c attempt hzero).trans
    (backoff_le_exponential_succ c hattempt hzero)

end Pause

/-! ## 2. The pauses of one loop -/

/-- The pauses from this attempt on, for these draws. -/
def backoffs (c : RetryConfig) : ℕ → List ℚ → List ℚ
  | _, [] => []
  | attempt, draw :: draws => backoff c attempt draw :: backoffs c (attempt + 1) draws

section Pauses
variable (c : RetryConfig)

theorem exponential_le_backoffs {attempt : ℕ} {draws : List ℚ} (hattempt : 1 ≤ attempt)
    (hdraws : ∀ draw ∈ draws, IsDraw draw) :
    ∀ delay ∈ backoffs c attempt draws, exponential c attempt ≤ delay := by
  induction draws generalizing attempt with
  | nil => simp [backoffs]
  | cons draw draws ih =>
    intro delay hdelay
    rcases List.mem_cons.mp hdelay with rfl | hrest
    · exact exponential_le_backoff c attempt (hdraws draw List.mem_cons_self)
    · have hlater := ih (by omega) (fun d hd => hdraws d (List.mem_cons_of_mem _ hd)) delay hrest
      exact (exponential_le_succ c hattempt).trans hlater

theorem backoffs_sorted {attempt : ℕ} {draws : List ℚ} (hattempt : 1 ≤ attempt)
    (hdraws : ∀ draw ∈ draws, IsDraw draw) : (backoffs c attempt draws).Pairwise (· ≤ ·) := by
  induction draws generalizing attempt with
  | nil => exact List.Pairwise.nil
  | cons draw draws ih =>
    have hrest : ∀ d ∈ draws, IsDraw d := fun d hd => hdraws d (List.mem_cons_of_mem _ hd)
    apply List.Pairwise.cons
    · intro delay hdelay
      -- The next undisturbed pause lies between this pause and every later one.
      have hnext := backoff_le_exponential_succ c hattempt (hdraws draw List.mem_cons_self)
      exact hnext.trans (exponential_le_backoffs c (by omega) hrest delay hdelay)
    · exact ih (by omega) hrest

theorem backoffs_bounds {attempt : ℕ} {draws : List ℚ} (hdraws : ∀ draw ∈ draws, IsDraw draw)
    {k : ℕ} {delay : ℚ} (hk : (backoffs c attempt draws)[k]? = some delay) :
    exponential c (attempt + k) ≤ delay ∧ delay ≤ c.maxDelay := by
  induction draws generalizing attempt k with
  | nil => simp [backoffs] at hk
  | cons draw draws ih =>
    cases k with
    | zero =>
      have hdelay : backoff c attempt draw = delay := Option.some.inj hk
      rw [← hdelay]
      exact ⟨exponential_le_backoff c attempt (hdraws draw List.mem_cons_self),
        backoff_le_maxDelay c attempt draw⟩
    | succ k =>
      have hlater := ih (fun d hd => hdraws d (List.mem_cons_of_mem _ hd)) hk
      rwa [show attempt + 1 + k = attempt + (k + 1) by omega] at hlater

theorem backoffs_sum_le (attempt : ℕ) (draws : List ℚ) :
    (backoffs c attempt draws).sum ≤ draws.length * c.maxDelay := by
  induction draws generalizing attempt with
  | nil => simp [backoffs]
  | cons draw draws ih =>
    have hrest := ih (attempt + 1)
    have hfirst := backoff_le_maxDelay c attempt draw
    rw [backoffs, List.sum_cons, List.length_cons, Nat.cast_add, Nat.cast_one]
    linarith

end Pauses

/-! ## 3. The pauses of one execution -/

/-- The pauses of a trace, in order. -/
def sleeps (tr : List (Event effects)) : List ℚ :=
  tr.filterMap fun ev => match ev.op with
    | .sleep delay => some delay
    | _ => none

theorem sleeps_append (tr₁ tr₂ : List (Event effects)) :
    sleeps (tr₁ ++ tr₂) = sleeps tr₁ ++ sleeps tr₂ := List.filterMap_append

theorem sleeps_logged (l : StructuredLogger) (rt : Runtime) (level : LogLevel) (event : EventName)
    (fields : List (String × PyVal)) : sleeps (logged l rt level event fields) = [] := by
  unfold logged
  split <;> rfl

section Loop
variable {e : RequestEngine} {x : RequestEngine.Exchange} {attempt : ℕ}
  {outcomes : List TransportOutcome} {draws : List ℚ} {tr : List (Event effects)}
  {r : Except PyError RawResponse}

theorem sleeps_loop (h : LoopTrace e x attempt outcomes draws tr r) :
    sleeps tr = backoffs e.retryPolicy.config attempt draws := by
  induction h with
  | last h hend =>
    rcases hend with ⟨now, level, fields, rfl⟩ | ⟨rfl, -⟩
    · exact sleeps_logged _ _ _ _ _
    · rfl
  | @again attempt outcome outcomes draw draws tr r h rest ih =>
    show sleeps (retryRecord e x attempt outcome draw ++ [_] ++ tr) = _
    rw [sleeps_append, sleeps_append, retryRecord, sleeps_logged, ih]
    rfl

/-- A retry is only scheduled while attempts are left. -/
theorem draws_le (h : LoopTrace e x attempt outcomes draws tr r) :
    draws.length ≤ e.retryPolicy.config.maxAttempts - attempt := by
  induction h with
  | last h hend => exact Nat.zero_le _
  | again h rest ih =>
    rw [retried, Bool.and_eq_true, decide_eq_true_eq] at h
    rw [List.length_cons]
    omega

theorem draws_drawn (h : LoopTrace e x attempt outcomes draws tr r) :
    ∀ draw ∈ draws, (⟨.random, draw⟩ : Event effects) ∈ tr := by
  induction h with
  | last h hend => exact fun draw hdraw => absurd hdraw List.not_mem_nil
  | again h rest ih =>
    intro draw hdraw
    apply List.mem_cons_of_mem
    apply List.mem_append.mpr
    rcases List.mem_cons.mp hdraw with rfl | hdraw
    · exact .inl List.mem_cons_self
    · exact .inr (ih draw hdraw)

end Loop

/-- An execution pauses as its draws say, at most once for each retry. -/
theorem execute_sleeps {e : RequestEngine} {purpose : Purpose} {options : RequestOptions}
    {tr : List (Event effects)} {r : Except PyError RawResponse}
    (h : (e.execute purpose options).Emits tr r) :
    ∃ draws : List ℚ, sleeps tr = backoffs e.retryPolicy.config 1 draws ∧
      draws.length ≤ e.retryPolicy.config.maxAttempts - 1 ∧
      ∀ draw ∈ draws, (⟨.random, draw⟩ : Event effects) ∈ tr := by
  cases hendpoint : e.validatedEndpoint options.path with
  | ok endpoint =>
    obtain ⟨id, front, started, fields, outcomes, draws, rest, hfront, rfl, hrun⟩ :=
      execute_trace hendpoint h
    have hquiet : sleeps front = [] := by
      unfold idEvents at hfront
      split at hfront
      · split at hfront
        · rw [← Option.some.inj hfront]
          rfl
        · cases hfront
      · rw [← Option.some.inj hfront]
        rfl
    refine ⟨draws, ?_, draws_le hrun, fun draw hdraw => ?_⟩
    · rw [sleeps_append, hquiet, List.nil_append]
      show sleeps (logged _ _ _ _ _ ++ rest) = _
      rw [sleeps_append, sleeps_logged, List.nil_append, sleeps_loop hrun]
    · apply List.mem_append_right
      apply List.mem_cons_of_mem
      exact List.mem_append_right _ (draws_drawn hrun draw hdraw)
  | error error =>
    -- The endpoint check comes before the loop: nothing is slept.
    refine ⟨[], ?_, Nat.zero_le _, fun draw hdraw => absurd hdraw List.not_mem_nil⟩
    unfold RequestEngine.execute RequestEngine.correlationId at h
    rw [hendpoint] at h
    split at h
    · rw [h.1]
      rfl
    · obtain ⟨id, tr', rfl, rfl, -⟩ := h
      rfl

/-- Pauses never get shorter, the `k`-th one lies between the exponential and the cap, and together
    they take at most a cap for each retry. -/
theorem backoff_law {e : RequestEngine} {purpose : Purpose} {options : RequestOptions}
    {tr : List (Event effects)} {r : Except PyError RawResponse}
    (h : (e.execute purpose options).Emits tr r)
    (hdraws : ∀ draw : ℚ, (⟨.random, draw⟩ : Event effects) ∈ tr → 0 ≤ draw ∧ draw ≤ 1) :
    (sleeps tr).Pairwise (· ≤ ·) ∧
    (∀ k delay, (sleeps tr)[k]? = some delay →
      min e.retryPolicy.config.maxDelay (e.retryPolicy.config.baseDelay * 2 ^ k) ≤ delay ∧
        delay ≤ e.retryPolicy.config.maxDelay) ∧
    (sleeps tr).sum ≤
      ((e.retryPolicy.config.maxAttempts : ℚ) - 1) * e.retryPolicy.config.maxDelay := by
  obtain ⟨draws, hsleeps, hlength, hdrawn⟩ := execute_sleeps h
  have hdraws' : ∀ draw ∈ draws, IsDraw draw := fun draw hdraw => hdraws draw (hdrawn draw hdraw)
  rw [hsleeps]
  refine ⟨backoffs_sorted _ (by omega) hdraws', fun k delay hk => ?_, ?_⟩
  · have hbounds := backoffs_bounds _ hdraws' hk
    rwa [exponential, show 1 + k - 1 = k by omega] at hbounds
  · have hone := e.retryPolicy.config.one_le_maxAttempts
    have hcount : (draws.length : ℚ) ≤ (e.retryPolicy.config.maxAttempts : ℚ) - 1 := by
      rw [le_sub_iff_add_le]
      exact_mod_cast (by omega : draws.length + 1 ≤ e.retryPolicy.config.maxAttempts)
    have hcap := e.retryPolicy.config.maxDelay_nonneg
    calc (backoffs e.retryPolicy.config 1 draws).sum
        ≤ draws.length * e.retryPolicy.config.maxDelay := backoffs_sum_le _ 1 draws
      _ ≤ _ := mul_le_mul_of_nonneg_right hcount hcap

/-- The environment of the deployment, with every draw in the middle. -/
def halfway : Handler (List TransportOutcome)
  | .random, s => ((1 / 2 : ℚ), s)
  | o, s => scripted o s

/-- A read whose three attempts all fail at the network pauses twice, each time with jitter. -/
theorem backoff_law_unreachable :
    let run := (sampleEngine.execute .token (sampleOptions .readOnly)).exec halfway []
    sleeps run.1 = [21 / 80, 21 / 40] ∧
    (sleeps run.1).Pairwise (· ≤ ·) ∧
    (∀ k delay, (sleeps run.1)[k]? = some delay →
      min sampleEngine.retryPolicy.config.maxDelay
          (sampleEngine.retryPolicy.config.baseDelay * 2 ^ k) ≤ delay ∧
        delay ≤ sampleEngine.retryPolicy.config.maxDelay) ∧
    (sleeps run.1).sum ≤ ((sampleEngine.retryPolicy.config.maxAttempts : ℚ) - 1) *
      sampleEngine.retryPolicy.config.maxDelay := by
  have hrun := Prog.exec_emits halfway (sampleEngine.execute .token (sampleOptions .readOnly)) []
  refine ⟨by decide +kernel, backoff_law hrun fun draw hdraw => ?_⟩
  obtain ⟨s, hs⟩ := Prog.exec_answer hdraw
  have hhalf : draw = 1 / 2 := hs
  rw [hhalf]
  exact ⟨by norm_num, by norm_num⟩

end JibitSdk.Guarantees
