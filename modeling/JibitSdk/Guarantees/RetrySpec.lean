import JibitSdk.Guarantees.Answers
import JibitSdk.Guarantees.Attempts
import JibitSdk.Guarantees.World

/-!
# The retry loop against its specification

The specification knows no loop: over an infinite sequence of outcomes it names the first one that
ends an execution, and says what is watched from outside up to there.  The engine is run in any
environment that answers its sends with that sequence.
-/

namespace JibitSdk.Guarantees

open JibitSdk.Python JibitSdk.Reasoning JibitSdk.Sdk

/-! ## 1. The specification -/

/-- The operation may be sent again. -/
def repeatable (options : RequestOptions) : Bool :=
  match options.safety with
  | .readOnly | .idempotent => true
  | .idempotencyProtected => options.idempotencyKey.isSome
  | .unsafeOp => false

/-- A failure after which the operation is sent again if attempts are left. -/
def retryable (options : RequestOptions) : TransportOutcome → Bool
  | .response response =>
    [408, 425, 429, 500, 502, 503, 504].contains response.statusCode && repeatable options
  | .timeoutError | .networkError => repeatable options

/-- Outcome `i`, counted from one, ends the execution. -/
def Stops (e : RequestEngine) (options : RequestOptions) (outcomes : ℕ → TransportOutcome)
    (i : ℕ) : Prop :=
  1 ≤ i ∧ (succeeded (outcomes i) = true ∨ retryable options (outcomes i) = false ∨
    i = e.retryPolicy.config.maxAttempts)

instance (e : RequestEngine) (options : RequestOptions) (outcomes : ℕ → TransportOutcome) :
    DecidablePred (Stops e options outcomes) :=
  fun _ => inferInstanceAs (Decidable (_ ∧ _))

theorem stops_exists (e : RequestEngine) (options : RequestOptions)
    (outcomes : ℕ → TransportOutcome) : ∃ i, Stops e options outcomes i :=
  ⟨_, e.retryPolicy.config.one_le_maxAttempts, .inr (.inr rfl)⟩

/-- The number of sends: the least outcome that ends the execution. -/
def specSends (e : RequestEngine) (options : RequestOptions)
    (outcomes : ℕ → TransportOutcome) : ℕ :=
  Nat.find (stops_exists e options outcomes)

/-- What an execution shows: its sends, its pauses and its log records. -/
inductive Mark where
  | sent
  | slept
  | logged (event : String)
  deriving DecidableEq, Repr

/-- A logger that is off keeps no records. -/
def Mark.shown (enabled : Bool) : Mark → Bool
  | .logged _ => enabled
  | .sent | .slept => true

/-- One retried attempt. -/
def retriedMarks : List Mark := [.sent, .logged EventName.retryScheduled.value, .slept]

/-- The marks of an execution of `n` sends, up to the last one. -/
def specMarks (n : ℕ) : List Mark :=
  .logged EventName.requestStarted.value ::
    ((List.replicate (n - 1) retriedMarks).flatten ++ [.sent])

/-- The marks after the last send: the record of how the execution ended, unless an error body could
    not be read. -/
def RecordsEnd (e : RequestEngine) (final : TransportOutcome) (ending : List Mark) : Prop :=
  ending.Sublist [.logged (terminalEvent final).value] ∧
    (errorReadable e final → ending = [.logged (terminalEvent final).value])

/-! ## 2. Watching a run -/

/-- The mark of one event. -/
def mark (o : Effect) : Option Mark :=
  match o with
  | .send _ _ => some .sent
  | .sleep _ => some .slept
  | .log record => some (.logged record.event)
  | _ => none

/-- The marks of a trace, in order. -/
def marks (tr : List (Event effects)) : List Mark := tr.filterMap fun ev => mark ev.op

theorem marks_append (tr₁ tr₂ : List (Event effects)) :
    marks (tr₁ ++ tr₂) = marks tr₁ ++ marks tr₂ :=
  List.filterMap_append

theorem marks_logged (l : StructuredLogger) (rt : Runtime) (level : LogLevel) (event : EventName)
    (fields : List (String × PyVal)) : marks (logged l rt level event fields) =
      [Mark.logged event.value].filter (Mark.shown l.enabled) := by
  unfold logged
  by_cases henabled : l.enabled = true
  · rw [if_pos henabled, henabled]
    rfl
  · rw [if_neg henabled, Bool.eq_false_iff.mpr henabled]
    rfl

/-- The environment, with its sends answered by this sequence. -/
def feeding {σ : Type} (outcomes : ℕ → TransportOutcome) (handler : Handler σ) : Handler (σ × ℕ)
  | .send purpose request, s =>
    (outcomes s.2, ((handler (.send purpose request) s.1).2, s.2 + 1))
  | o, s => ((handler o s.1).1, ((handler o s.1).2, s.2))

theorem feeding_sends {σ α : Type} (outcomes : ℕ → TransportOutcome) (handler : Handler σ)
    (p : Py α) (s : σ) (k : ℕ) :
    let run := p.exec (S := effects) (feeding outcomes handler) (s, k)
    (sends run.1).map (·.outcome) = (List.range' k (sends run.1).length).map outcomes := by
  induction p generalizing s k with
  | ret a => rfl
  | throw error => rfl
  | call o cont ih =>
    cases o with
    | send purpose request =>
      have hrest := ih (outcomes k) (handler (.send purpose request) s).2 (k + 1)
      exact congrArg (List.cons (outcomes k)) hrest
    | _ => exact ih _ _ k

/-! ## 3. The loop meets the specification -/

theorem repeatable_eq (options : RequestOptions) : canReplay options = repeatable options := by
  unfold canReplay repeatable
  cases options.safety with
  | readOnly => rfl
  | idempotent => rfl
  | idempotencyProtected => simp
  | unsafeOp => rfl

/-- The policy's classification is the specification's. -/
theorem retryable_eq (options : RequestOptions) (outcome : TransportOutcome) :
    (canReplay options && transientOutcome outcome) = retryable options outcome := by
  rw [repeatable_eq]
  cases outcome with
  | response response => exact Bool.and_comm _ _
  | timeoutError => exact Bool.and_true _
  | networkError => exact Bool.and_true _

theorem not_retryable_of_succeeded {options : RequestOptions} {outcome : TransportOutcome}
    (h : succeeded outcome = true) : retryable options outcome = false := by
  cases outcome with
  | response response =>
    have hok : 200 ≤ response.statusCode ∧ response.statusCode < 300 := by
      simpa [succeeded] using h
    have hnot : response.statusCode ∉ [408, 425, 429, 500, 502, 503, 504] := by
      simp only [List.mem_cons, List.not_mem_nil, or_false]
      omega
    simp [retryable, hnot]
  | timeoutError => cases h
  | networkError => cases h

theorem retried_iff (e : RequestEngine) (options : RequestOptions) (attempt : ℕ)
    (outcome : TransportOutcome) : retried e options attempt outcome = true ↔
      attempt < e.retryPolicy.config.maxAttempts ∧ retryable options outcome = true := by
  unfold retried
  rw [retryable_eq, Bool.and_eq_true, decide_eq_true_eq]

section Loop
variable {e : RequestEngine} {x : RequestEngine.Exchange} {attempt : ℕ}
  {draws : List ℚ} {tr : List (Event effects)} {r : Except PyError RawResponse}

/-- Every outcome before the last one was retried, and the last one was not. -/
theorem retried_loop {f : ℕ → TransportOutcome} {outcomes : List TransportOutcome}
    (h : LoopTrace e x attempt outcomes draws tr r)
    (hfed : outcomes = (List.range' attempt outcomes.length).map f) :
    ∃ last, last + 1 = attempt + outcomes.length ∧ r = outcomeResult e x (f last) ∧
      retried e x.options last (f last) = false ∧
      ∀ i, attempt ≤ i → i < last → retried e x.options i (f i) = true := by
  induction h with
  | @last attempt outcome tr h hend =>
    have hfirst : outcome = f attempt := List.head_eq_of_cons_eq hfed
    rw [hfirst] at h ⊢
    exact ⟨attempt, rfl, rfl, h, fun i hle hlt => absurd hlt (by omega)⟩
  | @again attempt outcome outcomes draw draws tr r h rest ih =>
    have hfirst : outcome = f attempt := List.head_eq_of_cons_eq hfed
    have hrest : outcomes = (List.range' (attempt + 1) outcomes.length).map f :=
      List.tail_eq_of_cons_eq hfed
    obtain ⟨last, hlength, hr, hlast, hbefore⟩ := ih hrest
    refine ⟨last, ?_, hr, hlast, fun i hle hlt => ?_⟩
    · rw [List.length_cons]
      omega
    · by_cases hi : i = attempt
      · rw [hi, ← hfirst]
        exact h
      · exact hbefore i (by omega) hlt

theorem marks_loop {outcomes : List TransportOutcome}
    (h : LoopTrace e x attempt outcomes draws tr r) :
    ∃ final ending, outcomes.getLast? = some final ∧ marks tr =
      ((List.replicate (outcomes.length - 1) retriedMarks).flatten ++ [Mark.sent] ++ ending).filter
        (Mark.shown e.logger.enabled) ∧ RecordsEnd e final ending := by
  induction h with
  | @last attempt outcome tr h hend =>
    rcases hend with ⟨now, level, fields, rfl⟩ | ⟨rfl, hunreadable⟩
    · refine ⟨outcome, [.logged (terminalEvent outcome).value], rfl, ?_, List.Sublist.refl _,
        fun _ => rfl⟩
      exact congrArg (List.cons .sent) (marks_logged _ _ _ _ _)
    · exact ⟨outcome, [], rfl, rfl, List.nil_sublist _, fun hread => absurd hread hunreadable⟩
  | @again attempt outcome outcomes draw draws tr r h rest ih =>
    obtain ⟨final, ending, hfinal, hmarks, hending⟩ := ih
    have hlast : (outcome :: outcomes).getLast? = some final := by
      rw [List.getLast?_cons, hfinal]
      rfl
    refine ⟨final, ending, hlast, ?_, hending⟩
    have hpos : outcomes ≠ [] := by
      intro hnil
      rw [hnil] at hfinal
      cases hfinal
    have hlength : (outcome :: outcomes).length - 1 = (outcomes.length - 1) + 1 := by
      have := List.length_pos_of_ne_nil hpos
      rw [List.length_cons]
      omega
    -- the attempt that is retried, and the marks of the rest behind it
    have hretried : retriedMarks.filter (Mark.shown e.logger.enabled) = Mark.sent ::
        ([Mark.logged EventName.retryScheduled.value].filter (Mark.shown e.logger.enabled) ++
          [.slept]) := by
      cases e.logger.enabled <;> rfl
    rw [hlength, List.replicate_succ, List.flatten_cons, List.append_assoc, List.append_assoc,
      List.filter_append, ← List.append_assoc _ [Mark.sent] ending, ← hmarks, hretried,
      List.cons_append, List.append_assoc]
    show Mark.sent :: marks (retryRecord e x attempt outcome draw ++ [_] ++ tr) = _
    rw [marks_append, marks_append, retryRecord, marks_logged, List.append_assoc]
    rfl

end Loop

/-- The loop stops where the specification says. -/
theorem specSends_eq {e : RequestEngine} {options : RequestOptions}
    {outcomes : ℕ → TransportOutcome} {last : ℕ} (hpos : 1 ≤ last)
    (hlast : retried e options last (outcomes last) = false)
    (hbefore : ∀ i, 1 ≤ i → i < last → retried e options i (outcomes i) = true) :
    specSends e options outcomes = last := by
  unfold specSends
  rw [Nat.find_eq_iff]
  constructor
  · refine ⟨hpos, ?_⟩
    by_cases hretryable : retryable options (outcomes last) = true
    · -- Not retried although it may be: the attempts are used up, and the one before was not.
      have hlimit : ¬ last < e.retryPolicy.config.maxAttempts := by
        intro hleft
        rw [(retried_iff e options last (outcomes last)).mpr ⟨hleft, hretryable⟩] at hlast
        cases hlast
      have hone := e.retryPolicy.config.one_le_maxAttempts
      by_cases hfirst : last = 1
      · exact .inr (.inr (by omega))
      · have hprevious := ((retried_iff _ _ _ _).mp (hbefore (last - 1) (by omega) (by omega))).1
        exact .inr (.inr (by omega))
    · exact .inr (.inl (Bool.eq_false_iff.mpr hretryable))
  · intro i hi hstops
    have hretried := (retried_iff _ _ _ _).mp (hbefore i hstops.1 hi)
    rcases hstops.2 with hsucceeded | hfinal | hlimit
    · rw [not_retryable_of_succeeded hsucceeded] at hretried
      cases hretried.2
    · rw [hfinal] at hretried
      cases hretried.2
    · omega

theorem marks_idEvents {options : RequestOptions} {id : String} {front : List (Event effects)}
    (h : idEvents options id = some front) : marks front = [] ∧ sends front = [] := by
  unfold idEvents at h
  split at h
  · split at h
    · rw [← Option.some.inj h]
      exact ⟨rfl, rfl⟩
    · cases h
  · rw [← Option.some.inj h]
    exact ⟨rfl, rfl⟩

/-! ## 4. The refinement -/

/-- On every sequence of outcomes an execution sends, pauses, logs and ends as specified: the number
    of sends is the least outcome that ends it, all of them carry one request, a pause and, with the
    logger on, its record stand between two sends, and the last outcome alone decides the result. -/
theorem execute_refines_spec {σ : Type} {e : RequestEngine} {options : RequestOptions}
    {endpoint : String} (purpose : Purpose) (outcomes : ℕ → TransportOutcome)
    (handler : Handler σ) (s : σ) (hendpoint : e.validatedEndpoint options.path = .ok endpoint) :
    let n := specSends e options outcomes
    let run := (e.execute purpose options).exec (S := effects) (feeding outcomes handler) (s, 1)
    IsLeast {i | Stops e options outcomes i} n ∧
    (∃ ending, marks run.1 = (specMarks n ++ ending).filter (Mark.shown e.logger.enabled) ∧
      RecordsEnd e (outcomes n) ending) ∧
    ∃ id front, idEvents options id = some front ∧ front <+: run.1 ∧
      sends run.1 = (List.range' 1 n).map (fun i =>
        ⟨purpose, e.transportRequest options id endpoint, outcomes i⟩) ∧
      run.2.2 = outcomeResult e ⟨purpose, options, id, endpoint,
        e.transportRequest options id endpoint, 0⟩ (outcomes n) := by
  intro n run
  have hemits := Prog.exec_emits (S := effects) (feeding outcomes handler)
    (e.execute purpose options) (s, 1)
  have hfed := feeding_sends outcomes handler (e.execute purpose options) s 1
  obtain ⟨id, front, started, fields, seen, draws, rest, hfront, htr, hloop⟩ :=
    execute_trace hendpoint hemits
  change run.1 = _ at htr
  change (sends run.1).map _ = _ at hfed
  -- The sends of the run are those of the loop, and they were fed in order.
  have hsends : sends run.1 =
      seen.map (⟨purpose, e.transportRequest options id endpoint, ·⟩) := by
    have hquiet : sends (logged e.logger e.rt .info .requestStarted fields) = [] := by
      unfold logged
      split <;> rfl
    rw [htr, sends_append, (marks_idEvents hfront).2, List.nil_append, sends_cons, sends_append,
      hquiet, hloop.sends]
    rfl
  have hseen : seen = (List.range' 1 seen.length).map outcomes := by
    rw [hsends, List.map_map, List.length_map] at hfed
    have hid : seen.map ((·.outcome) ∘
        (⟨purpose, e.transportRequest options id endpoint, ·⟩ : TransportOutcome → Sent)) = seen :=
      List.map_id seen
    rw [← hfed]
    exact hid.symm
  obtain ⟨last, hlength, hr, hlast, hbefore⟩ := retried_loop hloop hseen
  have hpos : 1 ≤ last := by
    have hcount : seen ≠ [] := by
      intro hnil
      rw [hnil] at hloop
      cases hloop
    have := List.length_pos_of_ne_nil hcount
    omega
  have hn : n = last := specSends_eq hpos hlast hbefore
  have hcount : seen.length = last := by omega
  refine ⟨⟨Nat.find_spec (stops_exists e options outcomes),
    fun i hi => Nat.find_min' (stops_exists e options outcomes) hi⟩, ?_, id, front,
    hfront, ?_, ?_, ?_⟩
  · have hfinal : ∀ final, seen.getLast? = some final → final = outcomes last := by
      intro final hfinal
      rw [hseen, List.getLast?_map, List.getLast?_range', hcount, if_neg (by omega)] at hfinal
      rw [← Option.some.inj hfinal]
      congr 1
      omega
    obtain ⟨final, ending, hgot, hmarks, hending⟩ := marks_loop hloop
    rw [hfinal final hgot, ← hn] at hending
    refine ⟨ending, ?_, hending⟩
    rw [htr, marks_append, (marks_idEvents hfront).1, List.nil_append]
    show marks (logged _ _ _ _ _ ++ rest) = _
    rw [marks_append, marks_logged, hmarks, hcount, hn, ← List.filter_append]
    rfl
  · rw [htr]
    exact List.prefix_append _ _
  · rw [hsends, hseen, List.map_map, hcount, hn]
    rfl
  · show run.2.2 = _
    rw [hn, show run.2.2 = _ from hr]
    cases outcomes last <;> rfl

/-- The network fails once, then the provider answers. -/
def recovering : ℕ → TransportOutcome := fun i =>
  if i ≤ 1 then .networkError else answer 200 "\x7b\x7d"

theorem execute_refines_spec_recovering :
    let n := specSends sampleEngine (sampleOptions .readOnly) recovering
    let run := (sampleEngine.execute .token (sampleOptions .readOnly)).exec (S := effects)
      (feeding recovering scripted) ([], 1)
    IsLeast {i | Stops sampleEngine (sampleOptions .readOnly) recovering i} n ∧
    (∃ ending, marks run.1 = (specMarks n ++ ending).filter (Mark.shown true) ∧
      RecordsEnd sampleEngine (recovering n) ending) ∧
    ∃ id front, idEvents (sampleOptions .readOnly) id = some front ∧ front <+: run.1 ∧
      sends run.1 = (List.range' 1 n).map (fun i =>
        ⟨.token, sampleEngine.transportRequest (sampleOptions .readOnly) id "/trf/v2/transfers",
          recovering i⟩) ∧
      run.2.2 = outcomeResult sampleEngine ⟨.token, sampleOptions .readOnly, id,
        "/trf/v2/transfers",
        sampleEngine.transportRequest (sampleOptions .readOnly) id "/trf/v2/transfers", 0⟩
        (recovering n) :=
  execute_refines_spec .token recovering scripted [] rfl

/-- A path the endpoint check refuses. -/
def refusedOptions : RequestOptions :=
  { service := .transfers, operation := "submit_batch", method := "GET", path := "transfers",
    safety := .readOnly }

/-- The deployment with its logging turned off. -/
def quietEngine : RequestEngine := { sampleEngine with logger := { enabled := false } }

/-- The deployment, with the limit of the decoder on nested lists. -/
def nestingEngine : RequestEngine :=
  { sampleEngine with
    rt := { sampleRuntime with
      jsonLoads := fun content =>
        if 1000 < content.length ∧ content.all (· = 91) = true then .error .recursionError
        else sampleRuntime.jsonLoads content } }

/-- A refusal whose body opens more lists than the decoder goes into. -/
def nestedRefusal : TransportOutcome :=
  .response { statusCode := 400, headers := [], content := List.replicate 1001 91 }

/-- A refused path ends before the first send, whatever the provider would have answered; with its
    logger off an execution records not even its start; and an error body the decoder gives up on
    leaves no record of the end. -/
theorem refused_path_sends_nothing :
    (sends ((sampleEngine.execute .token refusedOptions).exec (S := effects)
      (feeding (fun _ => .networkError) scripted) ([], 1)).1).length ≠
        specSends sampleEngine refusedOptions (fun _ => .networkError) ∧
    Mark.logged EventName.requestStarted.value ∉
      marks ((quietEngine.execute .token (sampleOptions .readOnly)).exec (S := effects)
        (feeding recovering scripted) ([], 1)).1 ∧
    Mark.logged (terminalEvent nestedRefusal).value ∉
      marks ((nestingEngine.execute .token (sampleOptions .readOnly)).exec (S := effects)
        (feeding (fun _ => nestedRefusal) scripted) ([], 1)).1 := by
  refine ⟨?_, by decide +kernel, by decide +kernel⟩
  have hnone : sends ((sampleEngine.execute .token refusedOptions).exec (S := effects)
      (feeding (fun _ => .networkError) scripted) ([], 1)).1 = [] := by decide +kernel
  have hpos := (Nat.find_spec
    (stops_exists sampleEngine refusedOptions (fun _ => .networkError))).1
  have hcount : 1 ≤ specSends sampleEngine refusedOptions (fun _ => .networkError) := hpos
  rw [hnone, List.length_nil]
  omega

/-! ## 5. The flag on the raised error -/

/-- The policy, asked about this failure while attempts are left, says to send again. -/
def Advised (e : RequestEngine) (options : RequestOptions) (outcome : TransportOutcome) : Prop :=
  ∃ attempt tr decision, attempt < e.retryPolicy.config.maxAttempts ∧
    (e.retryPolicy.decide attempt options.safety (failureStatus outcome) (transportFailed outcome)
      options.idempotencyKey.isSome).Emits tr (.ok decision) ∧ decision.shouldRetry = true

/-- The policy's verdict is the classification of the loop. -/
theorem advised_iff (e : RequestEngine) (options : RequestOptions) (outcome : TransportOutcome) :
    Advised e options outcome ↔ retryable options outcome = true := by
  rw [← retryable_eq, transientOutcome_eq]
  constructor
  · rintro ⟨attempt, tr, decision, hleft, hdecide, hretry⟩
    obtain ⟨d, hd, hverdict⟩ := (decide_always e.retryPolicy attempt options
      (failureStatus outcome) (transportFailed outcome)).result hdecide
    cases hd
    rw [hretry, decide_eq_true hleft, Bool.true_and] at hverdict
    exact hverdict.symm
  · intro h
    rw [Bool.and_eq_true] at h
    have hleft : 0 < e.retryPolicy.config.maxAttempts := e.retryPolicy.config.one_le_maxAttempts
    refine ⟨0, [⟨.random, (0 : ℚ)⟩], ⟨true, backoff e.retryPolicy.config 0 0,
      retryReason (failureStatus outcome) (transportFailed outcome)⟩, hleft, ?_, rfl⟩
    rw [decide_again hleft h.1 h.2]
    exact ⟨(0 : ℚ), [], rfl, rfl, rfl⟩

/-- The last send of a run. -/
def lastOutcome (tr : List (Event effects)) : Option TransportOutcome :=
  (sends tr).getLast?.map (·.outcome)

/-- An execution raises this error after its last send failed with this outcome. -/
structure EndsIn (e : RequestEngine) (purpose : Purpose) (options : RequestOptions)
    (tr : List (Event effects)) (outcome : TransportOutcome) (error : JibitError) : Prop where
  emits : (e.execute purpose options).Emits tr (.error (.jibit error))
  last : lastOutcome tr = some outcome
  failed : succeeded outcome = false

theorem outcomeResult_retryable {e : RequestEngine} {x : RequestEngine.Exchange}
    {outcome : TransportOutcome} {error : JibitError} (hfailed : succeeded outcome = false)
    (h : outcomeResult e x outcome = .error (.jibit error)) : error.context.retryable =
      (!transportFailed outcome && retryable x.options outcome) := by
  cases outcome with
  | timeoutError => cases h; rfl
  | networkError => cases h; rfl
  | response response =>
    have hnot : ¬ (200 ≤ response.statusCode ∧ response.statusCode < 300) := by
      simpa [succeeded] using hfailed
    rw [outcomeResult, if_neg hnot, RequestEngine.mapError] at h
    cases hbody : e.bodyFields response with
    | error error' =>
      obtain ⟨b, rfl⟩ := bodyFields_error hbody
      rw [hbody] at h
      cases h
    | ok body =>
      rw [hbody] at h
      cases h
      show RequestEngine.retryableStatus x.options response.statusCode = _
      rw [← retryable_eq, Bool.and_comm (canReplay _)]
      rfl

/-- The flag agrees with the policy on HTTP failures, and on transport failures of operations that
    are never sent again. -/
theorem retryable_flag_iff {e : RequestEngine} {purpose : Purpose} {options : RequestOptions}
    {tr : List (Event effects)} {outcome : TransportOutcome} {error : JibitError}
    (h : EndsIn e purpose options tr outcome error) :
    (error.context.retryable = true ↔ Advised e options outcome) ↔
      ¬ (transportFailed outcome = true ∧ repeatable options = true) := by
  have hflag :
      error.context.retryable = (!transportFailed outcome && retryable options outcome) := by
    rcases execute_emits h.emits with ⟨error', -, -, hnone⟩
      | ⟨id, endpoint, started, seen, -, hrun, hsends⟩
    · have hlast := h.last
      rw [lastOutcome, hnone] at hlast
      cases hlast
    · obtain ⟨earlier, final, rfl, hr, -⟩ := hrun.split
      have hlast := h.last
      rw [lastOutcome, hsends, List.map_append, List.map_cons, List.map_nil, List.getLast?_append,
        List.getLast?_singleton, Option.some_or] at hlast
      cases hlast
      exact outcomeResult_retryable h.failed hr.symm
  rw [hflag, advised_iff]
  cases outcome with
  | response response => simp [transportFailed]
  | timeoutError => simp [transportFailed, retryable]
  | networkError => simp [transportFailed, retryable]

/-- Every send of the deployment's operation times out. -/
def timedOutRun (safety : OperationSafety) :
    List (Event effects) × (List TransportOutcome × ℕ) × Except PyError RawResponse :=
  (sampleEngine.execute .token (sampleOptions safety)).exec (S := effects)
    (feeding (fun _ => .timeoutError) scripted) ([], 1)

/-- The error it ends with. -/
def timedOutError (safety : OperationSafety) : JibitError :=
  sampleEngine.transportFailure ⟨.token, sampleOptions safety, "correlation", "/trf/v2/transfers",
    sampleEngine.transportRequest (sampleOptions safety) "correlation" "/trf/v2/transfers",
    0⟩ .timeout

theorem timedOutRun_endsIn (safety : OperationSafety)
    (hresult : (timedOutRun safety).2.2 = .error (.jibit (timedOutError safety)))
    (hlast : lastOutcome (timedOutRun safety).1 = some .timeoutError) :
    EndsIn sampleEngine .token (sampleOptions safety) (timedOutRun safety).1 .timeoutError
      (timedOutError safety) := by
  have hemits := Prog.exec_emits (S := effects) (feeding (fun _ => .timeoutError) scripted)
    (sampleEngine.execute .token (sampleOptions safety)) ([], 1)
  refine ⟨?_, hlast, rfl⟩
  rw [← hresult]
  exact hemits

theorem retryable_flag_iff_unsafe :
    ((timedOutError .unsafeOp).context.retryable = true ↔
      Advised sampleEngine (sampleOptions .unsafeOp) .timeoutError) ↔
      ¬ (transportFailed .timeoutError = true ∧ repeatable (sampleOptions .unsafeOp) = true) :=
  retryable_flag_iff (timedOutRun_endsIn .unsafeOp rfl rfl)

/-- A read that timed out on every attempt is reported as not retryable, although the policy retries
    it. -/
theorem timed_out_read_not_flagged :
    EndsIn sampleEngine .token (sampleOptions .readOnly) (timedOutRun .readOnly).1 .timeoutError
      (timedOutError .readOnly) ∧
    ¬ ((timedOutError .readOnly).context.retryable = true ↔
      Advised sampleEngine (sampleOptions .readOnly) .timeoutError) := by
  refine ⟨timedOutRun_endsIn .readOnly rfl rfl, fun h => ?_⟩
  have hflagged := h.mpr ((advised_iff _ _ _).mpr rfl)
  cases hflagged

end JibitSdk.Guarantees
