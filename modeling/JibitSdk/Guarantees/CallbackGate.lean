import JibitSdk.Guarantees.World
import JibitSdk.Reasoning.Threads
import JibitSdk.Sdk.Webhooks

/-!
# The callback gate

A history of `parse_callback` calls is a list of events, each made by one of the calls, in any order
in which the deduplication store could have answered.  Only a call that passes every check before it
claims its key, so the others leave no trace in the store.
-/

namespace JibitSdk.Guarantees

open JibitSdk.Python JibitSdk.Reasoning JibitSdk.Sdk

variable {P : Type}

/-! ## 1. One call -/

/-- The key of a claim that returned, with the answer. -/
def returnedClaim : Event (callbackEffects P) → Option (String × Bool)
  | ⟨.claim key, .ok first⟩ => some (key, first)
  | _ => none

def returnedClaims (tr : List (Event (callbackEffects P))) : List (String × Bool) :=
  tr.filterMap returnedClaim

@[simp] theorem returnedClaims_nil :
    returnedClaims ([] : List (Event (callbackEffects P))) = [] := rfl

@[simp] theorem returnedClaims_append (tr₁ tr₂ : List (Event (callbackEffects P))) :
    returnedClaims (tr₁ ++ tr₂) = returnedClaims tr₁ ++ returnedClaims tr₂ :=
  List.filterMap_append

/-- Operations that do not reach the store. -/
def isUnclaimed : CallbackEffect P → Prop
  | .claim _ => False
  | _ => True

theorem returnedClaims_of_isUnclaimed {tr : List (Event (callbackEffects P))}
    (h : ∀ ev ∈ tr, isUnclaimed ev.op) : returnedClaims tr = [] := by
  induction tr with
  | nil => rfl
  | cons ev tr ih =>
    have hev := h ev List.mem_cons_self
    have hnone : returnedClaim ev = none := by
      obtain ⟨o, answer⟩ := ev
      cases o <;> first | rfl | exact hev.elim
    rw [returnedClaims, List.filterMap_cons, hnone]
    exact ih fun ev' hev' => h ev' (List.mem_cons_of_mem _ hev')

section Call
variable {rt : Runtime} {c : CallbackCall P}

/-- What a call that ended well has done: the payload fits, the verifier returned true, and with a
    store the payload's key was claimed once, which decides whether it is a duplicate. -/
structure Passed (c : CallbackCall P) (tr : List (Event (callbackEffects P)))
    (result : ParsedCallback P) : Prop where
  valid : c.model c.payload = .ok result.payload
  verified : c.hasVerifier = true ∧ result.verified = true ∧
    (⟨.verify c.rawBody c.headers, .ok true⟩ : Event (callbackEffects P)) ∈ tr
  stored : c.hasStore = true → c.hasKey = true ∧ ∃ key,
    (⟨.deduplicationKey result.payload, .ok key⟩ : Event (callbackEffects P)) ∈ tr ∧
    returnedClaims tr = [(key, !result.duplicate)]
  unstored : c.hasStore = false → result.duplicate = false ∧ returnedClaims tr = []

/-- A call passes the gate, or raises without a claim that returned. -/
def Gated (c : CallbackCall P) (tr : List (Event (callbackEffects P))) :
    Except PyError (ParsedCallback P) → Prop
  | .ok result => Passed c tr result
  | .error _ => returnedClaims tr = []

theorem emit_unclaimed (rt : Runtime) (c : CallbackCall P) (level : LogLevel) (event : EventName)
    (fields : List (String × PyVal)) :
    (c.emit rt level event fields).Always isUnclaimed (· = .ok ()) := by
  unfold CallbackCall.emit
  split
  · split
    · exact ⟨trivial, fun _ => rfl⟩
    · exact rfl
  · exact rfl

/-- A rejection logs and raises. -/
theorem reject_emits {correlationId reason operation message : String}
    {tr : List (Event (callbackEffects P))} {r : Except PyError (ParsedCallback P)}
    (h : (c.reject rt correlationId reason operation message).Emits tr r) :
    returnedClaims tr = [] ∧ ∃ error, r = .error error := by
  have hlog := emit_unclaimed rt c .warning .webhookRejected
    [("service", .str c.service), ("correlation_id", .str correlationId), ("reason", .str reason)]
  rcases Prog.emits_bind.mp h with ⟨_, tr₁, tr₂, rfl, h₁, rfl, rfl⟩ | ⟨error, h₁, -⟩
  · rw [List.append_nil]
    exact ⟨returnedClaims_of_isUnclaimed (hlog.events h₁), _, rfl⟩
  · exact nomatch hlog.result h₁

theorem gated_of_reject {correlationId reason operation message : String}
    {tr before : List (Event (callbackEffects P))} {r : Except PyError (ParsedCallback P)}
    (hbefore : returnedClaims before = [])
    (h : (c.reject rt correlationId reason operation message).Emits tr r) :
    Gated c (before ++ tr) r := by
  obtain ⟨hclaims, error, rfl⟩ := reject_emits h
  show returnedClaims (before ++ tr) = []
  rw [returnedClaims_append, hbefore, hclaims]
  rfl

theorem isVerified_emits {tr : List (Event (callbackEffects P))} {r : Except PyError Bool}
    (h : c.isVerified.Emits tr r) : returnedClaims tr = [] ∧ ∃ verified, r = .ok verified ∧
      (verified = true → c.hasVerifier = true ∧
        (⟨.verify c.rawBody c.headers, .ok true⟩ : Event (callbackEffects P)) ∈ tr) := by
  unfold CallbackCall.isVerified at h
  split at h
  · rename_i hverifier
    obtain ⟨answer, tr', rfl, h⟩ := h
    cases answer with
    | ok verified =>
      obtain ⟨rfl, rfl⟩ := h
      refine ⟨rfl, verified, rfl, fun htrue => ⟨hverifier, ?_⟩⟩
      rw [htrue]
      exact List.mem_cons_self
    | error name =>
      obtain ⟨rfl, rfl⟩ := h
      exact ⟨rfl, false, rfl, nofun⟩
  · obtain ⟨rfl, rfl⟩ := h
    exact ⟨rfl, false, rfl, nofun⟩

/-- The last part of a call, once the payload is validated and verified. -/
theorem deduplicate_gated {correlationId : String} {parsed : P}
    {before tr : List (Event (callbackEffects P))} {r : Except PyError (ParsedCallback P)}
    (hvalid : c.model c.payload = .ok parsed) (hverifier : c.hasVerifier = true)
    (hverified : (⟨.verify c.rawBody c.headers, .ok true⟩ : Event (callbackEffects P)) ∈ before)
    (hbefore : returnedClaims before = [])
    (h : (c.deduplicate rt correlationId parsed).Emits tr r) : Gated c (before ++ tr) r := by
  have hmem {tr : List (Event (callbackEffects P))} :
      (⟨.verify c.rawBody c.headers, .ok true⟩ : Event (callbackEffects P)) ∈ before ++ tr :=
    List.mem_append_left _ hverified
  unfold CallbackCall.deduplicate at h
  by_cases hstore : c.hasStore = true
  · rw [if_pos hstore] at h
    by_cases hkey : c.hasKey = true
    · rw [if_pos hkey] at h
      obtain ⟨answer, tr₁, rfl, hrest⟩ := Prog.emits_perform_bind.mp h
      clear h
      cases answer with
      | error name =>
        rw [List.append_cons]
        refine gated_of_reject ?_ hrest
        rw [returnedClaims_append, hbefore]
        rfl
      | ok key =>
        obtain ⟨answer, tr₂, rfl, hend⟩ := Prog.emits_perform_bind.mp hrest
        clear hrest
        cases answer with
        | error name =>
          rw [List.append_cons, List.append_cons]
          refine gated_of_reject ?_ hend
          rw [returnedClaims_append, returnedClaims_append, hbefore]
          rfl
        | ok first =>
          obtain ⟨rfl, rfl⟩ := hend
          refine ⟨hvalid, ⟨hverifier, rfl, hmem⟩, fun _ => ⟨hkey, key, ?_, ?_⟩, fun hnone => ?_⟩
          · exact List.mem_append_right _ List.mem_cons_self
          · rw [returnedClaims_append, hbefore]
            show [(key, first)] = [(key, !(!first))]
            rw [Bool.not_not]
          · exact nomatch hstore.symm.trans hnone
    · rw [if_neg hkey] at h
      exact gated_of_reject hbefore h
  · rw [if_neg hstore] at h
    obtain ⟨rfl, rfl⟩ := h
    refine ⟨hvalid, ⟨hverifier, rfl, hmem⟩, fun hsome => absurd hsome hstore, fun _ => ⟨rfl, ?_⟩⟩
    rw [List.append_nil]
    exact hbefore

theorem parseCallback_gated {tr : List (Event (callbackEffects P))}
    {r : Except PyError (ParsedCallback P)} (hrun : (c.parseCallback rt).Emits tr r) :
    Gated c tr r := by
  have hid : c.correlation.Always isUnclaimed (∃ id, · = .ok id) := by
    unfold CallbackCall.correlation
    split
    · exact ⟨_, rfl⟩
    · exact ⟨trivial, fun id => ⟨id, rfl⟩⟩
  unfold CallbackCall.parseCallback at hrun
  rcases Prog.emits_bind.mp hrun with ⟨id, tr₁, tr₂, rfl, h₁, h₂⟩ | ⟨error, h₁, -⟩
  · have hclaims₁ := returnedClaims_of_isUnclaimed (hid.events h₁)
    have hlog := emit_unclaimed rt c .info .webhookReceived
      [("service", .str c.service), ("correlation_id", .str id)]
    rcases Prog.emits_bind.mp h₂ with ⟨_, tr₃, tr₄, rfl, h₃, h₄⟩ | ⟨error, h₃, -⟩
    · have hbefore : returnedClaims (tr₁ ++ tr₃) = [] := by
        rw [returnedClaims_append, hclaims₁, returnedClaims_of_isUnclaimed (hlog.events h₃)]
        rfl
      rw [← List.append_assoc]
      cases hmodel : c.model c.payload with
      | error error =>
        rw [hmodel] at h₄
        cases error with
        | validationError => exact gated_of_reject hbefore h₄
        | builtin e =>
          obtain ⟨rfl, rfl⟩ := h₄
          rw [List.append_nil]
          exact hbefore
      | ok parsed =>
        rw [hmodel] at h₄
        rcases Prog.emits_bind.mp h₄ with ⟨verified, tr₅, tr₆, rfl, h₅, h₆⟩ | ⟨error, h₅, -⟩
        · obtain ⟨hclaims₅, _, hok, hverified⟩ := isVerified_emits h₅
          cases hok
          rw [← List.append_assoc]
          have hbefore' : returnedClaims (tr₁ ++ tr₃ ++ tr₅) = [] := by
            rw [returnedClaims_append, hbefore, hclaims₅]
            rfl
          cases verified with
          | true =>
            obtain ⟨hverifier, hmem⟩ := hverified rfl
            exact deduplicate_gated hmodel hverifier (List.mem_append_right _ hmem) hbefore' h₆
          | false => exact gated_of_reject hbefore' h₆
        · obtain ⟨-, _, hok, -⟩ := isVerified_emits h₅
          exact nomatch hok
    · exact nomatch hlog.result h₃
  · obtain ⟨id, hok⟩ := hid.result h₁
    exact nomatch hok

end Call

/-! ## 2. Histories -/

/-- The keys that are taken. -/
abbrev DeduplicationStore : Type := String → Bool

/-- `claim` is atomic: it takes the key and says whether it was free; raising, it takes nothing.
    All other answers come from the application. -/
def deduplicationMachine : Machine (callbackEffects P) DeduplicationStore where
  step o s answer s' := match (⟨o, answer⟩ : Event (callbackEffects P)) with
    | ⟨.claim key, .ok first⟩ => first = !s key ∧ s' = Function.update s key true
    | _ => s' = s

section Histories
variable {ι : Type} [DecidableEq ι]

/-- The calls of a set have been made, with these results, in an order that the log shows. -/
structure CallbackHistory (rt : Runtime) (calls : ι → CallbackCall P) (made : ι → Prop)
    (s : DeduplicationStore) (log : List (ι × Event (callbackEffects P)))
    (results : ι → Except PyError (ParsedCallback P)) (s' : DeduplicationStore) : Prop where
  within : ∀ e ∈ log, made e.1
  calls : ∀ i, made i → ((calls i).parseCallback rt).Emits (historyOf i log) (results i)
  accepts : deduplicationMachine.Accepts s (log.map Prod.snd) s'

/-- The same event, or a claim of the same key that returned a possibly different answer. -/
def SameSetting : Event (callbackEffects P) → Event (callbackEffects P) → Prop
  | ⟨.claim key, .ok _⟩, ⟨.claim key', .ok _⟩ => key = key'
  | ev, ev' => ev = ev'

/-- The call was not rejected. -/
def passed (results : ι → Except PyError (ParsedCallback P)) (i : ι) : Bool := (results i).toBool

/-- The gate over a history. -/
structure GateHolds (rt : Runtime) (calls : ι → CallbackCall P) (made : ι → Prop)
    (s : DeduplicationStore) (log : List (ι × Event (callbackEffects P)))
    (results : ι → Except PyError (ParsedCallback P)) (s' : DeduplicationStore) : Prop where
  /-- A call returns only after all its checks. -/
  returns : ∀ i, made i → ∀ result, results i = .ok result →
    Passed (calls i) (historyOf i log) result
  /-- A claim that returned belongs to a call that returned; it is no duplicate exactly when the key
      was free at first and no claim of it returned before. -/
  first : ∀ before i key free after,
    log = before ++ (i, ⟨.claim key, .ok free⟩) :: after → ∃ result, results i = .ok result ∧
      (result.duplicate = false ↔ s key = false ∧
        ∀ e ∈ before, ∀ answer, e.2 ≠ ⟨.claim key, .ok answer⟩)
  /-- Without the rejected calls the rest is a history with the same results and the same store. -/
  removal : CallbackHistory rt calls (fun i => made i ∧ passed results i = true) s
    (log.filter fun e => passed results e.1) results s'
  /-- Nor could the store have answered the rest otherwise. -/
  unique : ∀ log' s'', List.Forall₂ (fun e e' => e.1 = e'.1 ∧ SameSetting e.2 e'.2)
      (log.filter fun e => passed results e.1) log' →
    deduplicationMachine.Accepts s (log'.map Prod.snd) s'' →
    log' = (log.filter fun e => passed results e.1) ∧ s'' = s'

end Histories

/-! ## 3. The store along a history -/

section Store
variable {ι : Type} {s s' : DeduplicationStore}

theorem claim_step {key : String} {free : Bool} (h : deduplicationMachine.step
    (S := callbackEffects P) (.claim key) s (.ok free) s') :
    free = !s key ∧ s' = Function.update s key true := h

theorem claim_of_returned {ev : Event (callbackEffects P)} {claim : String × Bool}
    (h : returnedClaim ev = some claim) : ev = ⟨.claim claim.1, .ok claim.2⟩ := by
  obtain ⟨o, answer⟩ := ev
  cases o with
  | claim key => cases answer with
    | ok free =>
      cases h
      rfl
    | error name => exact nomatch h
  | newCorrelationId => exact nomatch h
  | log record => exact nomatch h
  | verify rawBody headers => exact nomatch h
  | deduplicationKey payload => exact nomatch h

/-- Without a claim that returns, the store stays as it is. -/
theorem idle_step {ev : Event (callbackEffects P)} (hev : returnedClaim ev = none)
    (h : deduplicationMachine.step ev.op s ev.answer s') : s' = s := by
  obtain ⟨o, answer⟩ := ev
  cases o with
  | claim key => cases answer with
    | ok free => exact nomatch hev
    | error name => exact h
  | newCorrelationId => exact h
  | log record => exact h
  | verify rawBody headers => exact h
  | deduplicationKey payload => exact h

/-- A key is taken when it was taken before or a claim of it has returned. -/
theorem taken_iff {tr : List (Event (callbackEffects P))}
    (h : deduplicationMachine.Accepts s tr s') (key : String) :
    s' key = true ↔ s key = true ∨ ∃ free, (key, free) ∈ returnedClaims tr := by
  induction tr generalizing s with
  | nil =>
    rw [show s' = s from h]
    simp
  | cons ev tr ih =>
    obtain ⟨s₁, hstep, h⟩ := h
    rw [ih h]
    cases hev : returnedClaim ev with
    | none =>
      rw [idle_step hev hstep, returnedClaims, returnedClaims, List.filterMap_cons, hev]
    | some claim =>
      rw [claim_of_returned hev] at hstep
      obtain ⟨-, rfl⟩ := claim_step hstep
      rw [returnedClaims, returnedClaims, List.filterMap_cons, hev]
      by_cases hkey : key = claim.1
      · rw [hkey, Function.update_self]
        exact ⟨fun _ => .inr ⟨claim.2, List.mem_cons_self⟩, fun _ => .inl rfl⟩
      · rw [Function.update_of_ne hkey]
        have hskip : ∀ free, (key, free) ≠ claim := fun free h => hkey (congrArg Prod.fst h)
        simp only [List.mem_cons, hskip, false_or]

/-- From one store, one setting has one answer. -/
theorem step_unique {ev ev' : Event (callbackEffects P)} {s₁ s₂ : DeduplicationStore}
    (hsame : SameSetting ev ev') (h₁ : deduplicationMachine.step ev.op s ev.answer s₁)
    (h₂ : deduplicationMachine.step ev'.op s ev'.answer s₂) : ev' = ev ∧ s₂ = s₁ := by
  cases hev : returnedClaim ev with
  | none =>
    have heq : ev = ev' := by
      obtain ⟨o, answer⟩ := ev
      cases o with
      | claim key => cases answer with
        | ok free => exact nomatch hev
        | error name => exact hsame
      | newCorrelationId => exact hsame
      | log record => exact hsame
      | verify rawBody headers => exact hsame
      | deduplicationKey payload => exact hsame
    subst heq
    exact ⟨rfl, (idle_step hev h₂).trans (idle_step hev h₁).symm⟩
  | some claim =>
    rw [claim_of_returned hev] at hsame h₁ ⊢
    obtain ⟨hfree₁, rfl⟩ := claim_step h₁
    have hother : ∃ free, ev' = ⟨.claim claim.1, .ok free⟩ := by
      obtain ⟨o', answer'⟩ := ev'
      cases o' with
      | claim key => cases answer' with
        | ok free => exact ⟨free, by rw [show claim.1 = key from hsame]⟩
        | error name =>
            exact nomatch (show (⟨.claim claim.1, .ok claim.2⟩ : Event (callbackEffects P)) =
              ⟨.claim key, .error name⟩ from hsame)
      | newCorrelationId => exact nomatch (show (_ : Event (callbackEffects P)) = _ from hsame)
      | log record => exact nomatch (show (_ : Event (callbackEffects P)) = _ from hsame)
      | verify rawBody headers =>
          exact nomatch (show (_ : Event (callbackEffects P)) = _ from hsame)
      | deduplicationKey payload =>
        exact nomatch (show (_ : Event (callbackEffects P)) = _ from hsame)
    obtain ⟨free, rfl⟩ := hother
    obtain ⟨hfree₂, rfl⟩ := claim_step h₂
    rw [hfree₁, hfree₂]
    exact ⟨rfl, rfl⟩

theorem accepts_unique {log log' : List (ι × Event (callbackEffects P))}
    {s₁ s₂ : DeduplicationStore}
    (hsame : List.Forall₂ (fun e e' => e.1 = e'.1 ∧ SameSetting e.2 e'.2) log log')
    (h₁ : deduplicationMachine.Accepts s (log.map Prod.snd) s₁)
    (h₂ : deduplicationMachine.Accepts s (log'.map Prod.snd) s₂) : log' = log ∧ s₂ = s₁ := by
  induction hsame generalizing s with
  | nil => exact ⟨rfl, (show s₂ = s from h₂).trans (show s₁ = s from h₁).symm⟩
  | @cons e e' log log' hhead htail ih =>
    obtain ⟨t₁, hstep₁, h₁⟩ := h₁
    obtain ⟨t₂, hstep₂, h₂⟩ := h₂
    obtain ⟨hevent, rfl⟩ := step_unique hhead.2 hstep₁ hstep₂
    obtain ⟨rfl, hstore⟩ := ih h₁ h₂
    have hpair : e' = e := Prod.ext hhead.1.symm hevent
    rw [hpair]
    exact ⟨rfl, hstore⟩

end Store

/-! ## 4. The law -/

/-- Every history of calls against one store, in any order of their steps, passes the gate. -/
theorem callback_gate {ι : Type} [DecidableEq ι] {rt : Runtime} {calls : ι → CallbackCall P}
    {made : ι → Prop} {s s' : DeduplicationStore} {log : List (ι × Event (callbackEffects P))}
    {results : ι → Except PyError (ParsedCallback P)}
    (history : CallbackHistory rt calls made s log results s') :
    GateHolds rt calls made s log results s' := by
  have hgated : ∀ i, made i → Gated (calls i) (historyOf i log) (results i) :=
    fun i hi => parseCallback_gated (history.calls i hi)
  have hremoved : deduplicationMachine.Accepts s
      ((log.filter fun e => passed results e.1).map Prod.snd) s' := by
    refine accepts_filter (fun e he hfailed s s' => ?_) history.accepts
    apply idle_step
    -- A rejected call has made no claim that returned.
    have h := hgated e.1 (history.within e he)
    cases hresult : results e.1 with
    | ok result =>
      rw [passed, hresult] at hfailed
      exact nomatch hfailed
    | error error =>
      rw [hresult] at h
      have hall := List.filterMap_eq_nil_iff.mp (h : returnedClaims (historyOf e.1 log) = [])
      exact hall e.2 (mem_historyOf he)
  refine ⟨?_, ?_, ?_, fun log' s'' hsame h => accepts_unique hsame hremoved h⟩
  · intro i hi result hresult
    have h := hgated i hi
    rw [hresult] at h
    exact h
  · intro before i key free after hlog
    have hmem : (i, (⟨.claim key, .ok free⟩ : Event (callbackEffects P))) ∈ log := by
      rw [hlog]
      exact List.mem_append_right _ List.mem_cons_self
    have hclaim : (key, free) ∈ returnedClaims (historyOf i log) :=
      List.mem_filterMap.mpr ⟨_, mem_historyOf hmem, rfl⟩
    have h := hgated i (history.within _ hmem)
    cases hresult : results i with
    | error error =>
      rw [hresult] at h
      rw [show returnedClaims (historyOf i log) = [] from h] at hclaim
      exact absurd hclaim List.not_mem_nil
    | ok result =>
      rw [hresult] at h
      refine ⟨result, rfl, ?_⟩
      have hfree : free = !result.duplicate := by
        cases hstore : (calls i).hasStore with
        | false =>
          rw [(h.unstored hstore).2] at hclaim
          exact absurd hclaim List.not_mem_nil
        | true =>
          obtain ⟨-, key', -, hclaims⟩ := h.stored hstore
          rw [hclaims] at hclaim
          exact (Prod.mk.inj (List.mem_singleton.mp hclaim)).2
      -- The store as this claim found it.
      have haccepts := history.accepts
      rw [hlog, List.map_append] at haccepts
      obtain ⟨s₁, hbefore, s₂, hstep, -⟩ := Machine.accepts_append.mp haccepts
      have hfound : (!result.duplicate) = !s₁ key := hfree.symm.trans (claim_step hstep).1
      have hsame : result.duplicate = s₁ key := Bool.not_inj hfound
      rw [hsame, Bool.eq_false_iff, ne_eq, taken_iff hbefore key, not_or, Bool.not_eq_true]
      have hclaims : (¬ ∃ answer, (key, answer) ∈ returnedClaims (before.map Prod.snd)) ↔
          ∀ e ∈ before, ∀ answer, e.2 ≠ ⟨.claim key, .ok answer⟩ := by
        constructor
        · intro hnone e he answer heq
          refine hnone ⟨answer, List.mem_filterMap.mpr ⟨e.2, List.mem_map_of_mem he, ?_⟩⟩
          rw [heq]
          rfl
        · rintro hall ⟨answer, hmem⟩
          obtain ⟨ev, hev, hret⟩ := List.mem_filterMap.mp hmem
          obtain ⟨e, he, rfl⟩ := List.mem_map.mp hev
          exact hall e he answer (claim_of_returned hret)
      rw [hclaims]
  · exact ⟨fun e he => ⟨history.within e (List.mem_filter.mp he).1, (List.mem_filter.mp he).2⟩,
      fun i hi => by
        rw [historyOf_filter hi.2]
        exact history.calls i hi.1, hremoved⟩

/-- A payment callback with a store and a key function. -/
def paymentCallback : CallbackCall ℕ where
  payload := []
  model _ := .ok 1
  service := "payment_gateway"
  rawBody := []
  headers := []
  hasVerifier := true
  hasStore := true
  hasKey := true
  correlationId := some "c"

/-- A forged delivery between two genuine ones, the second of which is claimed last. -/
def deliveries : List (Fin 3 × Event (callbackEffects ℕ)) :=
  [(1, ⟨.verify [] [], .ok true⟩), (0, ⟨.verify [] [], .ok false⟩),
    (1, ⟨.deduplicationKey 1, .ok "1"⟩), (2, ⟨.verify [] [], .ok true⟩),
    (2, ⟨.deduplicationKey 1, .ok "1"⟩), (1, ⟨.claim "1", .ok true⟩), (2, ⟨.claim "1", .ok false⟩)]

def deliveryResults (i : Fin 3) : Except PyError (ParsedCallback ℕ) :=
  if i = 0 then
    .error (.jibit (.new sampleRuntime .webhookVerification
      "The callback authenticity could not be verified"
      { service := some "payment_gateway", operation := some "verify_callback",
        correlationId := some "c" }))
  else .ok ⟨1, true, i = 2⟩

theorem callback_gate_deliveries :
    GateHolds sampleRuntime (fun _ => paymentCallback) (fun _ => True) (fun _ => false) deliveries
      deliveryResults (Function.update (Function.update (fun _ => false) "1" true) "1" true) := by
  apply callback_gate
  refine ⟨fun _ _ => trivial, fun i _ => ?_, ?_⟩
  · match i with
    | 0 => exact ⟨.ok false, [], rfl, rfl, rfl⟩
    | 1 => exact ⟨.ok true, _, rfl, .ok "1", _, rfl, .ok true, _, rfl, rfl, rfl⟩
    | 2 => exact ⟨.ok true, _, rfl, .ok "1", _, rfl, .ok false, _, rfl, rfl, rfl⟩
  · exact ⟨_, rfl, _, rfl, _, rfl, _, rfl, _, rfl, _, ⟨rfl, rfl⟩, _, ⟨rfl, rfl⟩, rfl⟩

end JibitSdk.Guarantees
