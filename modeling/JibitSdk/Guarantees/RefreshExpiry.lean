import JibitSdk.Guarantees.TokenEndpoints
import JibitSdk.Guarantees.TokenContract
import JibitSdk.Guarantees.World
import Mathlib.Data.List.Induction

/-!
# The expiry of a retained refresh token

An onlooker who sees every event of a run keeps a ledger: what is cached, what the last token
request was answered with, when each refresh token value came in.  A response that leaves the
refresh token as it was and says nothing of its lifetime should not move its expiry.
-/

namespace JibitSdk.Guarantees

open JibitSdk.Python JibitSdk.Reasoning JibitSdk.Sdk

/-! ## 1. The ledger -/

/-- What the onlooker knows. -/
structure Ledger where
  /-- The state under the cache key. -/
  cached : Option TokenState := none
  /-- The last token request was a refresh. -/
  refreshing : Bool := false
  /-- The object it was answered with. -/
  body : Option (List (String × Json)) := none
  /-- The last time read. -/
  now : ℚ := 0
  /-- When each refresh token value was first stored. -/
  received : String → Option ℚ := fun _ => none
  /-- The refresh token values that ever came with a lifetime of their own. -/
  timed : String → Bool := fun _ => false

section Ledgers
variable (a : ServiceAuthenticator)

namespace Ledger

/-- The refresh token the response brings; an empty one is none. -/
def brought (l : Ledger) : Option String :=
  l.body.bind fun body => ServiceAuthenticator.stringField body a.spec.refreshResponseField

/-- The explicit refresh lifetime the response gives. -/
def lifetime (l : Ledger) : Option ℤ :=
  l.body.bind fun body => ServiceAuthenticator.integerField body a.spec.refreshExpiresInField

/-- The state that is being refreshed. -/
def previous (l : Ledger) : Option TokenState := if l.refreshing then l.cached else none

/-- The refresh token value the response leaves. -/
def left (l : Ledger) : Option String :=
  (l.brought a).or (l.previous.bind TokenState.refreshValue)

/-- `token` goes under the cache key. -/
def store (l : Ledger) (token : TokenState) : Ledger :=
  { l with
    cached := some token
    received := fun v =>
      if token.refreshValue = some v then some ((l.received v).getD l.now) else l.received v
    timed := fun v => l.timed v || (token.refreshValue = some v && (l.lifetime a).isSome) }

/-- One event later. -/
def next (l : Ledger) : Event effects → Ledger
  | ⟨.send .token request, outcome⟩ =>
    { l with refreshing := request.url = refreshUrl a, body := answeredBody a outcome }
  | ⟨.clock, now⟩ => { l with now }
  | ⟨.storeSet key token, _⟩ => if key = a.cacheKey then l.store a token else l
  | ⟨.storeDelete key, _⟩ => if key = a.cacheKey then { l with cached := none } else l
  | _ => l

theorem next_token (l : Ledger) (request : TransportRequest) (outcome : TransportOutcome) :
    l.next a ⟨.send .token request, outcome⟩ =
      { l with refreshing := request.url = refreshUrl a, body := answeredBody a outcome } := rfl

end Ledger

/-- The ledger after a log. -/
def ledger (log : List (Event effects)) : Ledger := log.foldl (Ledger.next a) {}

theorem ledger_concat (log : List (Event effects)) (e : Event effects) :
    ledger a (log ++ [e]) = (ledger a log).next a e := by
  rw [ledger, List.foldl_append]
  rfl

/-! ## 2. Keeping the expiry -/

/-- The first expiry is not later than the second; an unknown one never comes. -/
def notLater : Option PyFloat → Option PyFloat → Bool
  | _, none => true
  | none, some _ => false
  | some e, some p => !PyFloat.lt p e

/-- The response to a refresh of `previous` brings no new refresh token and no explicit refresh
    lifetime. -/
def Ledger.Retains (l : Ledger) (previous : TokenState) : Prop :=
  l.previous = some previous ∧
    (l.brought a = none ∨ l.brought a = previous.refreshValue) ∧ l.lifetime a = none

/-- A token stored out of such a response expires no later than before. -/
def RetainedNotLater (before : List (Event effects)) (e : Event effects) : Prop :=
  ∀ token, e = ⟨.storeSet a.cacheKey token, ()⟩ →
    ∀ previous, (ledger a before).Retains a previous →
      notLater token.refreshExpiresAt previous.refreshExpiresAt = true

/-- A cached refresh token that never came with a lifetime expires within the documented one of
    when it was first received. -/
def Ledger.Bounded (l : Ledger) : Prop :=
  ∀ token v documented received, l.cached = some token → token.refreshValue = some v →
    a.spec.documentedRefreshTtlSeconds = some documented → l.received v = some received →
    l.timed v = false →
      notLater token.refreshExpiresAt (some (.finite (received + (documented : ℤ)))) = true

/-- The expiry of a refresh token is kept along a log. -/
def KeepsExpiry (log : List (Event effects)) : Prop :=
  Along (RetainedNotLater a) log ∧ ∀ before, before <+: log → (ledger a before).Bounded a

/-- A response without an explicit refresh lifetime is read while a documented lifetime from now
    is within the expiry it retains, and no later than the refresh token value it leaves was first
    received. -/
def Ledger.Timely (l : Ledger) : Prop :=
  l.lifetime a = none → ∀ documented, a.spec.documentedRefreshTtlSeconds = some documented →
    (∀ previous, l.Retains a previous →
      notLater (some (.finite (l.now + (documented : ℤ)))) previous.refreshExpiresAt = true) ∧
    ∀ v received, l.left a = some v → l.timed v = false → l.received v = some received →
      l.now ≤ received

/-- Whenever a token is stored, its response was read in time. -/
def StoredTimely (before : List (Event effects)) (e : Event effects) : Prop :=
  ∀ token, e = ⟨.storeSet a.cacheKey token, ()⟩ → (ledger a before).Timely a

end Ledgers

/-! ## 3. One stored token -/

section Stored
variable {a : ServiceAuthenticator} {l : Ledger} {token : TokenState}

/-- The token was parsed out of the last answer, at the last time read. -/
def Ledger.Parsed (a : ServiceAuthenticator) (l : Ledger) (token : TokenState) : Prop :=
  ∃ body access, l.body = some body ∧ a.parsedToken body l.previous access l.now = .ok token

theorem stringField_ne_empty {body : List (String × Json)} {field v : String}
    (h : ServiceAuthenticator.stringField body field = some v) : v ≠ "" := by
  unfold ServiceAuthenticator.stringField at h
  split at h
  · split at h
    · exact nomatch h
    · rename_i hne
      cases h
      exact hne
  · exact nomatch h

/-- A parsed token holds the refresh token value the response leaves. -/
theorem Ledger.Parsed.refreshValue (h : l.Parsed a token) : token.refreshValue = l.left a := by
  rcases h with ⟨body, access, hbody, hparsed⟩
  have hleft : l.left a = a.responseRefresh body l.previous := by
    rw [Ledger.left, Ledger.brought, hbody]
    rfl
  rw [TokenState.refreshValue, (parsedToken_ok hparsed).2.1, hleft]
  cases hv : a.responseRefresh body l.previous with
  | none => rfl
  | some v =>
    have hne : v ≠ "" := by
      rcases Option.or_eq_some_iff.mp hv with hown | ⟨-, hprevious⟩
      · exact stringField_ne_empty hown
      · rcases Option.bind_eq_some_iff.mp hprevious with ⟨previous, -, hvalue⟩
        exact bne_iff_ne.mp (Option.filter_eq_some_iff.mp hvalue).2
    exact if_pos (bne_iff_ne.mpr hne)

/-- Without an explicit lifetime, a documented one counts from now. -/
theorem Ledger.Parsed.documented (h : l.Parsed a token) (hlifetime : l.lifetime a = none)
    {documented : ℕ} (hdocumented : a.spec.documentedRefreshTtlSeconds = some documented) :
    token.refreshExpiresAt = some (.finite (l.now + (documented : ℤ))) := by
  rcases h with ⟨body, access, hbody, hparsed⟩
  have hexpiry := (parsedToken_ok hparsed).2.2
  have hfield : ServiceAuthenticator.integerField body a.spec.refreshExpiresInField = none := by
    rw [Ledger.lifetime, hbody] at hlifetime
    exact hlifetime
  have httl : a.refreshTtl body = some (documented : ℤ) := by
    rw [ServiceAuthenticator.refreshTtl, hfield, hdocumented]
    rfl
  unfold ServiceAuthenticator.refreshExpiry at hexpiry
  rw [httl] at hexpiry
  change (PyFloat.addInt l.now documented).map some = .ok token.refreshExpiresAt at hexpiry
  rw [PyFloat.addInt] at hexpiry
  by_cases hlimit : (documented : ℤ).natAbs < PyFloat.intLimit
  · rw [if_pos hlimit] at hexpiry
    exact (Except.ok.inj hexpiry).symm
  · rw [if_neg hlimit] at hexpiry
    cases hexpiry

/-- Without a lifetime of either kind, a retained refresh token keeps its expiry. -/
theorem Ledger.Parsed.undocumented (h : l.Parsed a token)
    (hdocumented : a.spec.documentedRefreshTtlSeconds = none) {previous : TokenState}
    (hretains : l.Retains a previous) : token.refreshExpiresAt = previous.refreshExpiresAt := by
  rcases h with ⟨body, access, hbody, hparsed⟩
  rcases hretains with ⟨hprevious, hbrought, hlifetime⟩
  have hexpiry := (parsedToken_ok hparsed).2.2
  have hfield : ServiceAuthenticator.integerField body a.spec.refreshExpiresInField = none := by
    rw [Ledger.lifetime, hbody] at hlifetime
    exact hlifetime
  have httl : a.refreshTtl body = none := by
    rw [ServiceAuthenticator.refreshTtl, hfield, hdocumented]
    rfl
  have hsame : a.responseRefresh body (some previous) = previous.refreshValue := by
    have hown :
        l.brought a = ServiceAuthenticator.stringField body a.spec.refreshResponseField := by
      rw [Ledger.brought, hbody]
      rfl
    rw [hown] at hbrought
    unfold ServiceAuthenticator.responseRefresh
    rcases hbrought with hnone | hvalue
    · rw [hnone]
      rfl
    · rw [hvalue]
      cases hrefresh : previous.refreshValue with
      | none => simp only [Option.none_or, Option.bind_some, hrefresh]
      | some v => rfl
  unfold ServiceAuthenticator.refreshExpiry at hexpiry
  rw [httl, hprevious] at hexpiry
  simp only [if_pos hsame] at hexpiry
  exact (Except.ok.inj hexpiry).symm

theorem notLater_refl (e : Option PyFloat) : notLater e e = true := by
  cases e with
  | none => rfl
  | some e =>
    cases e with
    | finite q =>
      show (!decide (q < q)) = true
      rw [decide_eq_false (lt_irrefl q)]
      rfl
    | _ => rfl

theorem notLater_finite (e p : ℚ) :
    notLater (some (.finite e)) (some (.finite p)) = true ↔ e ≤ p := by
  show (!decide (p < e)) = true ↔ _
  rw [Bool.not_eq_true', decide_eq_false_iff_not, not_lt]

/-- Storing a parsed token keeps the expiry exactly if its response was read in time. -/
theorem Ledger.Parsed.keeps_iff (h : l.Parsed a token) :
    ((∀ previous, l.Retains a previous →
        notLater token.refreshExpiresAt previous.refreshExpiresAt = true) ∧
      (l.store a token).Bounded a) ↔ l.Timely a := by
  -- Without an explicit lifetime, the documented lifetime decides both sides.
  cases hlifetime : l.lifetime a with
  | some ttl =>
    refine iff_of_true ⟨fun previous hretains => ?_, ?_⟩ (fun hnone => ?_)
    · exact nomatch hlifetime.symm.trans hretains.2.2
    · intro token' v documented received htoken hv _ _ htimed
      cases htoken
      have htrue : (l.store a token).timed v = true := by
        show (l.timed v || (decide (token.refreshValue = some v) && (l.lifetime a).isSome)) = true
        rw [hv, hlifetime, decide_eq_true rfl]
        exact Bool.or_true _
      exact nomatch htimed.symm.trans htrue
    · exact nomatch hlifetime.symm.trans hnone
  | none =>
    cases hdocumented : a.spec.documentedRefreshTtlSeconds with
    | none =>
      refine iff_of_true ⟨fun previous hretains => ?_, ?_⟩ (fun _ documented hsome => ?_)
      · rw [h.undocumented hdocumented hretains]
        exact notLater_refl _
      · intro _ _ documented _ _ _ hsome _ _
        exact nomatch hdocumented.symm.trans hsome
      · exact nomatch hdocumented.symm.trans hsome
    | some documented =>
      have hexpiry := h.documented hlifetime hdocumented
      have hvalue := h.refreshValue
      constructor
      · rintro ⟨hretained, hbounded⟩ _ documented' hsome
        cases hdocumented.symm.trans hsome
        refine ⟨fun previous hretains => ?_, fun v received hleft htimed hreceived => ?_⟩
        · rw [← hexpiry]
          exact hretained previous hretains
        · have hstored : token.refreshValue = some v := hvalue.trans hleft
          have hfirst : (l.store a token).received v = some received := by
            show (if token.refreshValue = some v then _ else _) = _
            rw [if_pos hstored, hreceived]
            rfl
          have huntimed : (l.store a token).timed v = false := by
            show (l.timed v || (_ && (l.lifetime a).isSome)) = false
            rw [htimed, hlifetime]
            exact Bool.and_false _
          have hwithin :=
            hbounded token v documented received rfl hstored hdocumented hfirst huntimed
          rw [hexpiry, notLater_finite] at hwithin
          linarith only [hwithin]
      · intro htimely
        have htimely := htimely hlifetime documented hdocumented
        refine ⟨fun previous hretains => ?_, ?_⟩
        · rw [hexpiry]
          exact htimely.1 previous hretains
        · intro token' v documented' received htoken hv hsome hfirst huntimed
          cases htoken
          cases hdocumented.symm.trans hsome
          rw [hexpiry, notLater_finite]
          change (if token.refreshValue = some v then _ else _) = _ at hfirst
          rw [if_pos hv] at hfirst
          cases hreceived : l.received v with
          | none =>
            rw [hreceived] at hfirst
            cases hfirst
            exact le_rfl
          | some first =>
            rw [hreceived] at hfirst
            cases hfirst
            have htimed : l.timed v = false := (Bool.or_eq_false_iff.mp huntimed).1
            have hearly := htimely.2 v first (hvalue.symm.trans hv) htimed hreceived
            show l.now + (documented : ℤ) ≤ first + (documented : ℤ)
            linarith only [hearly]

end Stored

/-! ## 4. Logs -/

section Logs
variable (a : ServiceAuthenticator)

/-- Every stored token was parsed out of the answer before it. -/
def StoredParsed (before : List (Event effects)) (e : Event effects) : Prop :=
  ∀ token, e = ⟨.storeSet a.cacheKey token, ()⟩ → (ledger a before).Parsed a token

/-- Storing a token leaves its refresh token bounded. -/
def StoredBounded (before : List (Event effects)) (e : Event effects) : Prop :=
  ∀ token, e = ⟨.storeSet a.cacheKey token, ()⟩ → ((ledger a before).store a token).Bounded a

variable {a}

theorem Ledger.next_stored (l : Ledger) (token : TokenState) :
    l.next a ⟨.storeSet a.cacheKey token, ()⟩ = l.store a token := if_pos rfl

/-- Nothing but a stored token touches the bound. -/
theorem Ledger.Bounded.next {l : Ledger} (h : l.Bounded a) {e : Event effects}
    (he : ∀ token, e ≠ ⟨.storeSet a.cacheKey token, ()⟩) : (l.next a e).Bounded a := by
  rcases e with ⟨o, answer⟩
  cases o with
  | send purpose request => cases purpose <;> exact h
  | storeSet key token =>
    have hkey : key ≠ a.cacheKey := by
      intro hkey
      subst hkey
      exact he token rfl
    have hsame : l.next a ⟨.storeSet key token, answer⟩ = l := if_neg hkey
    rw [hsame]
    exact h
  | storeDelete key =>
    show (if key = a.cacheKey then { l with cached := none } else l).Bounded a
    by_cases hkey : key = a.cacheKey
    · rw [if_pos hkey]
      exact fun _ _ _ _ hcached => nomatch hcached
    · rw [if_neg hkey]
      exact h
  | _ => exact h

/-- The bound holds at every point of a log if storing a token establishes it. -/
theorem bounded_iff (log : List (Event effects)) :
    (∀ before, before <+: log → (ledger a before).Bounded a) ↔ Along (StoredBounded a) log := by
  -- by the last event: only a stored token can change what the bound is about
  induction log using List.reverseRecOn with
  | nil =>
    refine iff_of_true (fun before hbefore => ?_) (along_nil _)
    rw [List.prefix_nil.mp hbefore]
    exact fun _ _ _ _ hcached => nomatch hcached
  | append_singleton log e ih =>
    rw [along_concat, ← ih]
    constructor
    · intro h
      refine ⟨fun before hbefore => h before (hbefore.trans (List.prefix_append log [e])), ?_⟩
      rintro token rfl
      have hlast := h _ List.prefix_rfl
      rw [ledger_concat, Ledger.next_stored] at hlast
      exact hlast
    · rintro ⟨hlog, hlast⟩ before hbefore
      rcases List.prefix_concat_iff.mp hbefore with rfl | hbefore
      · rw [ledger_concat]
        -- another event leaves the cached state and what was received as they are
        by_cases hstored : ∃ token, e = ⟨.storeSet a.cacheKey token, ()⟩
        · rcases hstored with ⟨token, rfl⟩
          rw [Ledger.next_stored]
          exact hlast token rfl
        · exact (hlog log List.prefix_rfl).next fun token heq => hstored ⟨token, heq⟩
      · exact hlog before hbefore

/-- Along a log of parsed tokens, the expiry is kept exactly if every response was read in time. -/
theorem keepsExpiry_iff {log : List (Event effects)} (h : Along (StoredParsed a) log) :
    KeepsExpiry a log ↔ Along (StoredTimely a) log := by
  rw [KeepsExpiry, bounded_iff, ← along_and]
  refine h.congr fun before e hparsed => ?_
  constructor
  · rintro ⟨hretained, hbounded⟩ token heq
    exact (hparsed token heq).keeps_iff.mp ⟨hretained token heq, hbounded token heq⟩
  · intro htimely
    exact ⟨fun token heq => ((hparsed token heq).keeps_iff.mpr (htimely token heq)).1,
      fun token heq => ((hparsed token heq).keeps_iff.mpr (htimely token heq)).2⟩

end Logs

/-! ## 5. Sessions -/

section Session
variable {σ : Type} {a : ServiceAuthenticator} {env : Handler σ}

/-- Every token stored so far was parsed, and the ledger knows what is cached. -/
def LedgerKept (a : ServiceAuthenticator) (s : (Store × σ) × List (Event effects)) : Prop :=
  Along (StoredParsed a) s.2 ∧ s.1.1 a.cacheKey = (ledger a s.2).cached.map .token

/-- One step of the world keeps the ledger, if a token it stores was parsed. -/
theorem LedgerKept.step {o : Effect} {s s' : (Store × σ) × List (Event effects)}
    {answer : Effect.Answer o} (hs : LedgerKept a s) (hstep : (worldLog env).step o s answer s')
    (ho : StoredParsed a s.2 ⟨o, answer⟩) : LedgerKept a s' := by
  -- the world and the ledger move by the same event
  rcases s with ⟨w, log⟩
  rcases s' with ⟨w', log'⟩
  have hworld : inWorld env o w = (answer, w') := hstep.1
  have hlog : log' = log ++ [⟨o, answer⟩] := hstep.2
  subst hlog
  refine ⟨along_concat.mpr ⟨hs.1, ho⟩, ?_⟩
  have hcached : w.1 a.cacheKey = (ledger a log).cached.map .token := hs.2
  show w'.1 a.cacheKey = (ledger a (log ++ [⟨o, answer⟩])).cached.map .token
  rw [ledger_concat]
  -- only a write or a deletion under the key changes the entry, and the ledger with it
  cases o with
  | send purpose request => cases hworld; cases purpose <;> exact hcached
  | storeSet key token =>
    cases hworld
    show Function.update w.1 key (some (.token token)) a.cacheKey =
      (if key = a.cacheKey then (ledger a log).store a token else ledger a log).cached.map .token
    by_cases hkey : key = a.cacheKey
    · rw [if_pos hkey, hkey, Function.update_self]
      rfl
    · rw [if_neg hkey, Function.update_of_ne (Ne.symm hkey)]
      exact hcached
  | storeDelete key =>
    cases hworld
    show Function.update w.1 key none a.cacheKey = (if key = a.cacheKey then
      { ledger a log with cached := none } else ledger a log).cached.map .token
    by_cases hkey : key = a.cacheKey
    · rw [if_pos hkey, hkey, Function.update_self]
      rfl
    · rw [if_neg hkey, Function.update_of_ne (Ne.symm hkey)]
      exact hcached
  | _ => cases hworld; exact hcached

/-- The ledger is kept, and a fact about it holds. -/
def LedgerHas (a : ServiceAuthenticator) (P : Ledger → Prop)
    (s : (Store × σ) × List (Event effects)) : Prop :=
  LedgerKept a s ∧ P (ledger a s.2)

/-- Operations that store nothing under the cache key keep the ledger. -/
theorem LedgerHas.step {P : Ledger → Prop} {o : Effect}
    {s s' : (Store × σ) × List (Event effects)} {answer : Effect.Answer o}
    (hs : LedgerKept a s) (hstep : (worldLog env).step o s answer s')
    (ho : ∀ token, o ≠ .storeSet a.cacheKey token)
    (hP : P ((ledger a s.2).next a ⟨o, answer⟩)) : LedgerHas a P s' := by
  refine ⟨hs.step hstep fun token heq => absurd (congrArg Event.op heq) (ho token), ?_⟩
  rw [hstep.2, ledger_concat]
  exact hP

theorem ledger_frame {o : Effect} (h : isLocal o ∨ isLockWork o) (l : Ledger)
    (answer : Effect.Answer o) : l.next a ⟨o, answer⟩ = l := by
  cases o <;> first | rfl | simp [isLocal, isLockWork] at h

theorem LedgerHas.frame {P : Ledger → Prop} {o : Effect} (h : isLocal o ∨ isLockWork o)
    {s s' : (Store × σ) × List (Event effects)} {answer : Effect.Answer o} (hs : LedgerHas a P s)
    (hstep : (worldLog env).step o s answer s') : LedgerHas a P s' := by
  apply LedgerHas.step hs.1 hstep
  · intro token heq
    subst heq
    simp [isLocal, isLockWork] at h
  · rw [ledger_frame h]
    exact hs.2

theorem ledger_keptLocally (P : Ledger → Prop) :
    KeptLocally (worldLog env) anyOperation (LedgerHas a P) :=
  fun _ _ ho hs => ⟨trivial, fun _ _ hstep => hs.frame (.inl ho) hstep⟩

theorem ledger_keptByLocks (P : Ledger → Prop) :
    KeptByLocks (worldLog env) anyOperation (LedgerHas a P) :=
  fun _ _ ho hs => ⟨trivial, fun _ _ hstep => hs.frame (.inr ho) hstep⟩

/-- What the ledger knows once a token request is answered. -/
def Answered (a : ServiceAuthenticator) (cached refresh : Option TokenState)
    (outcome : TransportOutcome) (l : Ledger) : Prop :=
  l.cached = cached ∧ l.refreshing = refresh.isSome ∧ l.body = answeredBody a outcome

/-- An exchange stores what it parsed. -/
theorem ledgerExchange {cached refresh : Option TokenState}
    (hrefresh : ∀ c, refresh = some c → cached = some c) :
    ExchangeRule (worldLog env) anyOperation a refresh True (LedgerHas a (·.cached = cached))
      (fun outcome => LedgerHas a (Answered a cached refresh outcome))
      (fun _ => LedgerHas a fun _ => True) where
  before := ledger_keptLocally _
  after _ := ledger_keptLocally _
  done _ := ledger_keptLocally _
  send options correlationId endpoint s hoptions hendpoint hs := by
    refine ⟨trivial, fun outcome s' hstep => LedgerHas.step hs.1 hstep (fun _ h => nomatch h) ?_⟩
    have hurl : (a.engine.transportRequest options correlationId endpoint).url = refreshUrl a ↔
        refresh.isSome = true := transportRequest_refreshes hoptions hendpoint
    have hrefreshing : decide ((a.engine.transportRequest options correlationId endpoint).url =
        refreshUrl a) = refresh.isSome := by
      cases hsome : refresh.isSome with
      | true => exact decide_eq_true (hurl.mpr hsome)
      | false =>
        rw [hsome] at hurl
        exact decide_eq_false fun h => nomatch hurl.mp h
    rw [Ledger.next_token]
    refine ⟨hs.2, ?_, rfl⟩
    dsimp only
    exact hrefreshing
  again _ s _ hK := ⟨hK.1, hK.2.1⟩
  clock _ _ _ := trivial
  unsendable _ _ := .inl trivial
  failed _ s _ hK :=
    ⟨trivial, ⟨hK.1, hK.2.1⟩, fun _ _ hstep =>
      LedgerHas.step hK.1 hstep (fun _ h => nomatch h) hK.2.1⟩
  set response correlationId now s s' token hK hobtains hstep hread := by
    refine ⟨trivial, fun s'' hset => ⟨?_, trivial⟩⟩
    have hclock : LedgerHas a (fun l => Answered a cached refresh (.response response) l ∧
        l.now = now) s' :=
      LedgerHas.step hK.1 hstep (fun _ h => nomatch h) ⟨hK.2, rfl⟩
    apply hclock.1.step hset
    intro token' heq
    cases heq
    -- The token was read from the answer the ledger remembers.
    rcases tokenAt_ok hread with ⟨body, access, hload, -, hparsed⟩
    rcases hclock.2 with ⟨⟨hcached, hrefreshing, hbody⟩, hnow⟩
    have haccepted := accepted_of_obtains hobtains
    have hprevious : (ledger a s'.2).previous = refresh := by
      rw [Ledger.previous, hrefreshing, hcached]
      cases hsome : refresh with
      | none => rfl
      | some c => exact hrefresh c hsome
    refine ⟨body, access, ?_, ?_⟩
    · rw [hbody, answeredBody, haccepted]
      simp only [hload]
    · rw [hprevious, hnow]
      exact hparsed

/-- Token calls keep the ledger. -/
theorem ledgerCall (call : TokenCall) {s : (Store × σ) × List (Event effects)}
    (hs : LedgerHas a (fun _ => True) s) :
    (call.run a).Meets (worldLog env) anyOperation (fun _ => LedgerHas a fun _ => True) s := by
  have rule : TokenRule (worldLog env) anyOperation a call (fun _ => True) True
      (LedgerHas a fun _ => True) (fun cached => LedgerHas a (·.cached = cached))
      (fun _ => LedgerHas a fun _ => True) :=
    { forget := fun _ _ h => ⟨h.1, trivial⟩
      locksBefore := ledger_keptByLocks _
      locksAfter := fun _ => ledger_keptByLocks _
      lockFailure := fun _ _ _ => ⟨fun _ _ _ _ => trivial, fun _ _ => trivial⟩
      failed := fun _ s e h => h.elim id fun h => h.choose_spec
      clockBefore := fun s hs => ⟨trivial, fun _ _ hstep =>
        ⟨trivial, LedgerHas.step hs.1 hstep (fun _ h => nomatch h) trivial⟩⟩
      clockAfter := fun _ s hs => ⟨trivial, fun _ _ hstep =>
        ⟨trivial, LedgerHas.step hs.1 hstep (fun _ h => nomatch h) hs.2⟩⟩
      get := fun _ _ => trivial
      found := fun s cached s' hs hstep => by
        apply LedgerHas.step hs.1 hstep fun _ h => nomatch h
        show (ledger a s.2).cached = cached
        have hfound : s.1.1.get a.cacheKey = .ok cached := (Prod.mk.inj hstep.1).1
        rw [Store.get, hs.1.2] at hfound
        cases hcached : (ledger a s.2).cached with
        | none =>
          rw [hcached] at hfound
          exact Except.ok.inj hfound
        | some token =>
          rw [hcached] at hfound
          exact Except.ok.inj hfound
      malformed := fun s e s' hs hstep => by
        -- What the ledger knows to be cached can be decoded.
        exfalso
        have hfound : s.1.1.get a.cacheKey = .error e := (Prod.mk.inj hstep.1).1
        rw [Store.get, hs.1.2] at hfound
        cases hcached : (ledger a s.2).cached with
        | none =>
          rw [hcached] at hfound
          exact nomatch hfound
        | some token =>
          rw [hcached] at hfound
          exact nomatch hfound
      reuse := fun _ _ _ _ hs _ => ⟨hs.1, trivial⟩
      exchange := fun cached now s _ hs _ => by
        have hrefresh : ∀ c, cached = some c → ExchangeRule (worldLog env) anyOperation a (some c)
            True (LedgerHas a (·.cached = cached))
            (fun outcome => LedgerHas a (Answered a cached cached outcome))
            (fun _ => LedgerHas a fun _ => True) := by
          rintro c rfl
          exact ledgerExchange fun _ h => h
        refine (refreshOrAcquire_meets hrefresh (ledgerExchange fun _ h => nomatch h) hs).mono
          fun r s h => ?_
        cases r with
        | ok token => exact h
        | error error => exact ⟨h.2.1, trivial⟩ }
  exact tokenCall_meets rule hs

end Session

/-- In every run of token calls over a store whose entry starts empty, whatever the world answers:
    a refresh that brings neither a new refresh token nor an explicit lifetime never leaves a later
    expiry, and a cached refresh token without an explicit lifetime always expires within the
    documented one of its first receipt, exactly if every stored response without an explicit
    refresh lifetime was read in time.  Without a documented refresh lifetime all are. -/
theorem tokenCalls_keep_expiry_iff {σ : Type} (a : ServiceAuthenticator) (calls : List TokenCall)
    (store : Store) (env : Handler σ) (s : σ) :
    KeepsExpiry a (Prog.wholeLog (Prog.runs (S := effects) (inWorld env) (TokenCall.run a) calls
      (Function.update store a.cacheKey none, s)).1) ↔
    Along (StoredTimely a) (Prog.wholeLog (Prog.runs (S := effects) (inWorld env) (TokenCall.run a)
      calls (Function.update store a.cacheKey none, s)).1) := by
  have hstart : LedgerHas a (fun _ => True) ((Function.update store a.cacheKey none, s), []) :=
    ⟨⟨along_nil _, Function.update_self ..⟩, trivial⟩
  have hkept := Prog.runs_preserve (h := inWorld env) (f := TokenCall.run a)
    (J := fun s log => LedgerHas a (fun _ => True) (s, log)) (C := fun _ _ => True)
    (fun call s log hs _ => (ledgerCall call hs).exec_logged) calls hstart
    (fun _ _ => trivial)
  rw [List.nil_append] at hkept
  exact keepsExpiry_iff hkept.1.1

/-- The log of a token call and a recovery of a service with a documented refresh lifetime; both
    exchanges bring the refresh token `R1`, and time passes in between. -/
def recoveredLog : List (Event effects) :=
  Prog.wholeLog (Prog.runs (S := effects) (inWorld ticking) (TokenCall.run sampleAuthenticator)
    [.get, .recover "T1"] (Function.update (fun _ => none) sampleAuthenticator.cacheKey none,
      ([issueT1, issueT1], 0))).1

/-- The refresh token received at 2 is cached as expiring 172800 seconds after 4. -/
theorem recovered_expiry_extended : ¬ KeepsExpiry sampleAuthenticator recoveredLog := by
  intro h
  have hbounded := h.2 recoveredLog List.prefix_rfl
  have hcached : (ledger sampleAuthenticator recoveredLog).cached =
      some { sampleToken with
        expiresAt := some (.finite 86404), refreshExpiresAt := some (.finite 172804) } := by
    decide +kernel
  have hreceived : (ledger sampleAuthenticator recoveredLog).received "R1" = some 2 := by
    decide +kernel
  have htimed : (ledger sampleAuthenticator recoveredLog).timed "R1" = false := by decide +kernel
  have hlate := hbounded _ "R1" 172800 2 hcached (by decide) rfl hreceived htimed
  exact absurd hlate (by decide +kernel)

end JibitSdk.Guarantees
