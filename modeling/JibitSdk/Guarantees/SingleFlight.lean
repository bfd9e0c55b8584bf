import JibitSdk.Guarantees.Rejection
import JibitSdk.Guarantees.TokenContract
import JibitSdk.Guarantees.TokenEndpoints
import JibitSdk.Guarantees.SharedWorld

/-!
# One exchange for many callers

Any number of token calls at once, on authenticators that share a store and a lock provider.  The
lock is taken on demand, the cache is read before and after: whoever is first inside exchanges, and
everybody else finds its token.
-/

namespace JibitSdk.Guarantees

open JibitSdk.Python JibitSdk.Reasoning JibitSdk.Sdk

/-! ## 1. Concurrent calls -/

/-- Token calls on authenticators that share one cache key and one `ThreadLockProvider`, at a fixed
    time.  All recovering callers were rejected with the same access token; the entry is empty, or
    expired, or holds that token; and what the provider issues is neither expired nor that token. -/
structure Flight (ι : Type) where
  authenticator : ι → ServiceAuthenticator
  call : ι → TokenCall
  key : String
  rejected : String
  now : ℚ
  provider : TransportOutcome → Prop
  store : Store
  start : Option TokenState
  keyed : ∀ i, (authenticator i).cacheKey = key
  threaded : ∀ i, (authenticator i).locks = .thread
  calls : ∀ i access, call i = .recover access → access = rejected
  stored : store key = start.map .token
  starts : ∀ token, start = some token → token.accessValue = rejected ∨
    ∀ i, token.isAccessValid now (authenticator i).leeway = false
  answers : ∃ outcome, provider outcome
  issues : ∀ i response refresh correlationId token, provider (.response response) →
    tokenAt (authenticator i) refresh (rawResponse response correlationId) now = .ok token →
      obtains (authenticator i) (.response response) = true → token.accessValue ≠ rejected ∧
        ∀ j, token.isAccessValid now (authenticator j).leeway = true

namespace Flight

variable {ι : Type} (F : Flight ι)

/-- The outside: the clock stands still, the provider answers as assumed. -/
def surroundings : Surroundings where
  time now := now = F.now
  provider := F.provider

/-- Where the calls start. -/
def initial : SharedState ι := ({ store := F.store }, [])

def programs (i : ι) : Py TokenState := (F.call i).run (F.authenticator i)

/-- The machines of the callers. -/
def machine : ι → Machine effects (SharedState ι) := recorded (sharedWorld F.surroundings)

/-- An access token caller `i` may use. -/
def valid (i : ι) (token : TokenState) : Bool :=
  token.isAccessValid F.now (F.authenticator i).leeway

/-- Every token request obtains a token, and every caller has credentials. -/
def Reliable : Prop :=
  (∀ outcome, F.provider outcome → ∀ i, obtains (F.authenticator i) outcome = true) ∧
    ∀ i, ∃ body, (F.authenticator i).generationBody = .ok body

/-! ## 2. Reading the log -/

/-- A token request that obtained a token. -/
def exchanged : ι × Event effects → Bool
  | (i, ⟨.send .token _, outcome⟩) => obtains (F.authenticator i) outcome
  | _ => false

/-- The successful exchanges. -/
def exchanges (log : SharedLog ι) : SharedLog ι := log.filter F.exchanged

/-- The token an event stores under the key. -/
def storedBy : ι × Event effects → Option TokenState
  | (_, ⟨.storeSet k token, _⟩) => if k = F.key then some token else none
  | _ => none

/-- The tokens stored so far. -/
def stores (log : SharedLog ι) : List TokenState := log.filterMap F.storedBy

def isTokenRequest : ι × Event effects → Bool
  | (_, ⟨.send .token _, _⟩) => true
  | _ => false

/-- Token requests are sent only while no token is stored or obtained. -/
def Quiet (before : SharedLog ι) (e : ι × Event effects) : Prop :=
  isTokenRequest e = true → F.stores before = [] ∧ F.exchanges before = []

/-- What a caller may end with: the one token that was stored, or, for `get_token`, a valid one that
    was there before; an error only if an exchange can fail. -/
def Outcome (i : ι) (r : Except PyError TokenState) (stores : List TokenState) : Prop :=
  match r with
  | .ok token => stores = [token] ∨
      F.call i = .get ∧ F.start = some token ∧ F.valid i token = true
  | .error _ => ¬ F.Reliable

/-- The token was read from the answer to this exchange. -/
def Issued (exchanges : SharedLog ι) (token : TokenState) : Prop :=
  ∃ i request response refresh correlationId,
    exchanges = [(i, ⟨.send .token request, TransportOutcome.response response⟩)] ∧
      tokenAt (F.authenticator i) refresh (rawResponse response correlationId) F.now = .ok token

/-- Nothing is stored, or the one token that was obtained, which everybody may use. -/
def OneStored (log : SharedLog ι) : Prop :=
  F.stores log = [] ∨ ∃ token, F.stores log = [token] ∧ F.Issued (F.exchanges log) token ∧
    token.accessValue ≠ F.rejected ∧ ∀ i, F.valid i token = true

/-! ## 3. The invariant -/

/-- The lock of the key is not taken. -/
def Free (s : Shared ι) : Prop := ∀ l, s.locks F.key = some l → s.owner l = none

/-- What always holds. -/
structure Inv (s : SharedState ι) : Prop where
  entry : s.1.store F.key = match F.stores s.2 with
    | [] => F.start.map .token
    | token :: _ => some (.token token)
  one : F.OneStored s.2
  atMost : (F.stores s.2).length ≤ (F.exchanges s.2).length ∧ (F.exchanges s.2).length ≤ 1
  settled : F.Free s.1 → (F.stores s.2).length = (F.exchanges s.2).length
  quiet : Along F.Quiet s.2

/-- The caller holds the lock of the key. -/
def Inside (i : ι) (s : Shared ι) : Prop := ∃ l, s.locks F.key = some l ∧ s.owner l = some i

/-- What a caller relies on: its locks stay its own, lock objects stay, inside the lock nobody else
    exchanges or stores, and a stored token stays. -/
structure Rely (i : ι) (s s' : SharedState ι) : Prop where
  owner : ∀ l, s'.1.owner l = some i ↔ s.1.owner l = some i
  guard : s'.1.guard = some i ↔ s.1.guard = some i
  locks : ∀ k l, s.1.locks k = some l → s'.1.locks k = some l
  inside : F.Inside i s.1 → F.stores s'.2 = F.stores s.2 ∧ F.exchanges s'.2 = F.exchanges s.2
  kept : ∀ token, F.stores s.2 = [token] → F.stores s'.2 = [token]

/-- The caller holds no lock. -/
def Outside (i : ι) (s : Shared ι) : Prop := s.guard ≠ some i ∧ ∀ l, s.owner l ≠ some i

/-- Callers wait only where they hold nothing. -/
def May (i : ι) (o : Effect) (s : SharedState ι) : Prop :=
  (o = .guardAcquire ∨ ∃ l, o = .lockAcquire l) → Outside i s.1

variable {F}

theorem Inside.rely {i : ι} {s s' : SharedState ι} (h : F.Inside i s.1) (hrely : F.Rely i s s') :
    F.Inside i s'.1 := by
  rcases h with ⟨l, hlock, howner⟩
  exact ⟨l, hrely.locks F.key l hlock, (hrely.owner l).mpr howner⟩

theorem Rely.refl (i : ι) (s : SharedState ι) : F.Rely i s s :=
  ⟨fun _ => Iff.rfl, Iff.rfl, fun _ _ h => h, fun _ => ⟨rfl, rfl⟩, fun _ h => h⟩

theorem Rely.trans {i : ι} {s₁ s₂ s₃ : SharedState ι} (h : F.Rely i s₁ s₂) (h' : F.Rely i s₂ s₃) :
    F.Rely i s₁ s₃ where
  owner l := (h'.owner l).trans (h.owner l)
  guard := h'.guard.trans h.guard
  locks k l hl := h'.locks k l (h.locks k l hl)
  inside hin := by
    have h₁ := h.inside hin
    have h₂ := h'.inside (hin.rely h)
    exact ⟨h₂.1.trans h₁.1, h₂.2.trans h₁.2⟩
  kept token htoken := h'.kept token (h.kept token htoken)

variable (F)

/-- What the callers agree on. -/
def sharing : Sharing F.machine where
  inv := F.Inv
  rely := F.Rely
  may := May
  refl := Rely.refl
  trans _ _ _ _ := Rely.trans

/-! ## 4. What one operation does -/

section Steps
variable {F} {i : ι} {s s' : SharedState ι} {o : Effect} {answer : Effect.Answer o}

/-- The log has neither gained a store nor an exchange, and the world is as it was. -/
structure Same (F : Flight ι) (s s' : SharedState ι) : Prop where
  world : s'.1 = s.1
  stores : F.stores s'.2 = F.stores s.2
  exchanges : F.exchanges s'.2 = F.exchanges s.2

theorem Same.rely (h : F.Same s s') (j : ι) : F.Rely j s s' where
  owner l := by rw [h.world]
  guard := by rw [h.world]
  locks k l hl := by rw [h.world]; exact hl
  inside _ := ⟨h.stores, h.exchanges⟩
  kept token htoken := h.stores.trans htoken

/-- Operations that touch neither the store nor the locks, and send no token request. -/
def Idle : Effect → Prop
  | .storeGet _ | .clock => True
  | o => isLocal o

/-- The events of an operation that neither stores nor exchanges. -/
def Unnoticed (F : Flight ι) (e : ι × Event effects) : Prop :=
  F.storedBy e = none ∧ F.exchanged e = false ∧ isTokenRequest e = false

theorem stores_concat (log : SharedLog ι) (e : ι × Event effects) :
    F.stores (log ++ [e]) = F.stores log ++ (F.storedBy e).toList := by
  unfold stores
  rw [List.filterMap_append]
  cases h : F.storedBy e <;> simp [h]

theorem exchanges_concat (log : SharedLog ι) (e : ι × Event effects) :
    F.exchanges (log ++ [e]) = F.exchanges log ++ if F.exchanged e then [e] else [] := by
  unfold exchanges
  rw [List.filter_append]
  cases h : F.exchanged e <;> simp [h]

theorem Unnoticed.stores {e : ι × Event effects} (h : Unnoticed F e) (log : SharedLog ι) :
    F.stores (log ++ [e]) = F.stores log := by
  rw [stores_concat, h.1]
  exact List.append_nil _

theorem Unnoticed.exchanges {e : ι × Event effects} (h : Unnoticed F e) (log : SharedLog ι) :
    F.exchanges (log ++ [e]) = F.exchanges log := by
  rw [exchanges_concat, h.2.1]
  exact List.append_nil _

/-- An operation that goes unnoticed keeps the invariant if the lock stays as it is or was free. -/
theorem Inv.unnoticed (h : F.Inv s) {e : ι × Event effects} (he : Unnoticed F e)
    (hlog : s'.2 = s.2 ++ [e]) (hstore : s'.1.store = s.1.store)
    (hfree : F.Free s'.1 → (F.stores s.2).length = (F.exchanges s.2).length) : F.Inv s' where
  entry := by
    rw [hlog, he.stores, hstore]
    exact h.entry
  one := by
    unfold OneStored
    rw [hlog, he.stores, he.exchanges]
    exact h.one
  atMost := by
    rw [hlog, he.stores, he.exchanges]
    exact h.atMost
  settled hs := by
    rw [hlog, he.stores, he.exchanges]
    exact hfree hs
  quiet := by
    rw [hlog, along_concat]
    refine ⟨h.quiet, fun hrequest => ?_⟩
    rw [he.2.2] at hrequest
    cases hrequest

theorem unnoticed_idle (ho : Idle o) : Unnoticed F (i, ⟨o, answer⟩) := by
  cases o <;> first | exact ⟨rfl, rfl, rfl⟩ | exact ho.elim

theorem idle_world (ho : Idle o) (h : (F.machine i).step o s answer s') : s'.1 = s.1 := by
  obtain ⟨hstep, -⟩ := h
  cases o <;> first | exact hstep | exact hstep.2 | exact ho.elim

theorem idle_same (ho : Idle o) (h : (F.machine i).step o s answer s') : F.Same s s' where
  world := idle_world ho h
  stores := by
    rw [h.2]
    exact (unnoticed_idle ho).stores s.2
  exchanges := by
    rw [h.2]
    exact (unnoticed_idle ho).exchanges s.2

theorem idle_inv (hinv : F.Inv s) (ho : Idle o) (h : (F.machine i).step o s answer s') :
    F.Inv s' := by
  have hworld := idle_world ho h
  refine hinv.unnoticed (unnoticed_idle ho) h.2 (by rw [hworld]) ?_
  rw [hworld]
  exact hinv.settled

end Steps

/-! ## 5. Where a caller stands -/

section Places
variable {F} {i : ι} {lock : ℕ} {s s' : SharedState ι}

/-- Inside `_guard`, with no lock. -/
def Guarding (i : ι) (s : Shared ι) : Prop := s.guard = some i ∧ ∀ l, s.owner l ≠ some i

/-- With the lock of the key and nothing else. -/
structure Holds (F : Flight ι) (i : ι) (lock : ℕ) (s : Shared ι) : Prop where
  known : s.locks F.key = some lock
  guard : s.guard ≠ some i
  owner : ∀ l, s.owner l = some i ↔ l = lock

/-- What has been obtained is stored. -/
def Settled (F : Flight ι) (s : SharedState ι) : Prop :=
  (F.stores s.2).length = (F.exchanges s.2).length

theorem Holds.inside {s : Shared ι} (h : F.Holds i lock s) : F.Inside i s :=
  ⟨lock, h.known, (h.owner lock).mpr rfl⟩

theorem Rely.outside (h : F.Rely i s s') (hs : Outside i s.1) : Outside i s'.1 :=
  ⟨fun hguard => hs.1 (h.guard.mp hguard), fun l hl => hs.2 l ((h.owner l).mp hl)⟩

theorem Rely.guarding (h : F.Rely i s s') (hs : Guarding i s.1) : Guarding i s'.1 :=
  ⟨h.guard.mpr hs.1, fun l hl => hs.2 l ((h.owner l).mp hl)⟩

theorem Rely.holds (h : F.Rely i s s') (hs : F.Holds i lock s.1) : F.Holds i lock s'.1 where
  known := h.locks F.key lock hs.known
  guard hguard := hs.guard (h.guard.mp hguard)
  owner l := (h.owner l).trans (hs.owner l)

/-- Nobody is inside while somebody else is. -/
theorem Holds.alone {s : Shared ι} {j : ι} (h : F.Holds i lock s) (hj : j ≠ i) :
    ¬ F.Inside j s := by
  rintro ⟨l, hlock, howner⟩
  cases h.known.symm.trans hlock
  rw [(h.owner lock).mpr rfl] at howner
  exact hj (Option.some.inj howner).symm

theorem Holds.not_free {s : Shared ι} (h : F.Holds i lock s) : ¬ F.Free s := by
  intro hfree
  have hnone := hfree lock h.known
  rw [(h.owner lock).mpr rfl] at hnone
  cases hnone

end Places

/-! ## 6. What a caller may do -/

section Turns
variable {F} {i : ι} {lock : ℕ} {s : SharedState ι} {o : Effect}

/-- An operation is fine, and leads where it should, if it does wherever the
    others leave the state. -/
theorem allowed {J : Effect.Answer o → SharedState ι → Prop}
    (h : ∀ s₁, F.Rely i s s₁ → F.Inv s₁ → May i o s₁ ∧ ∀ answer s',
      (F.machine i).step o s₁ answer s' →
      F.Inv s' ∧ (∀ j, j ≠ i → F.Rely j s₁ s') ∧ J answer s') :
    F.sharing.keeps i o s ∧ ∀ answer s', (F.sharing.view i).step o s answer s' → J answer s' := by
  constructor
  · intro s₁ hrely hinv
    have h₁ := h s₁ hrely hinv
    exact ⟨h₁.1, fun answer s' hstep => ⟨(h₁.2 answer s' hstep).1, (h₁.2 answer s' hstep).2.1⟩⟩
  · rintro answer s' ⟨s₁, hrely, hinv, hstep⟩
    exact ((h s₁ hrely hinv).2 answer s' hstep).2.2

/-- What the others keep. -/
def Stable (F : Flight ι) (i : ι) (J : SharedState ι → Prop) : Prop :=
  ∀ s s', J s → F.Rely i s s' → J s'

theorem may_of_not_waiting (hguard : o ≠ .guardAcquire) (hlock : ∀ l, o ≠ .lockAcquire l) :
    May i o s := by
  rintro (h | ⟨l, h⟩)
  · exact absurd h hguard
  · exact absurd h (hlock l)

theorem may_idle (ho : Idle o) : May i o s := by
  apply may_of_not_waiting
  · rintro rfl
    exact ho.elim
  · rintro l rfl
    exact ho.elim

theorem idle_allowed {J : SharedState ι → Prop} (hJ : Stable F i J) (ho : Idle o) (hs : J s) :
    F.sharing.keeps i o s ∧ ∀ answer s', (F.sharing.view i).step o s answer s' → J s' := by
  apply allowed
  intro s₁ hrely hinv
  refine ⟨may_idle ho, fun answer s' hstep => ?_⟩
  have hsame := idle_same ho hstep
  exact ⟨idle_inv hinv ho hstep, fun j _ => hsame.rely j,
    hJ s₁ s' (hJ s s₁ hs hrely) (hsame.rely i)⟩

theorem kept_locally {J : SharedState ι → Prop} (hJ : Stable F i J) :
    KeptLocally (F.sharing.view i) (F.sharing.keeps i) J := by
  intro o s ho hs
  refine idle_allowed hJ ?_ hs
  cases o <;> first | exact ho | exact ho.elim

theorem clock_allowed {J : SharedState ι → Prop} (hJ : Stable F i J) (hs : J s) :
    F.sharing.keeps i .clock s ∧
      ∀ now s', (F.sharing.view i).step .clock s now s' → now = F.now ∧ J s' := by
  have hidle := idle_allowed hJ (o := .clock) trivial hs
  refine ⟨hidle.1, fun now s' hstep => ⟨?_, hidle.2 now s' hstep⟩⟩
  obtain ⟨s₁, -, -, hclock, -⟩ := hstep
  exact hclock.1

/-- What the cache holds for everybody. -/
def cached (F : Flight ι) (stores : List TokenState) : Option TokenState := stores.head?.or F.start

/-- A read finds what was stored, else what was there at the start. -/
theorem read_allowed {J : SharedState ι → Prop} (hJ : Stable F i J) (hs : J s) :
    F.sharing.keeps i (.storeGet F.key) s ∧ ∀ found s',
      (F.sharing.view i).step (.storeGet F.key) s found s' →
        found = .ok (F.cached (F.stores s'.2)) ∧ F.Inv s' ∧ J s' := by
  have hidle := idle_allowed hJ (o := .storeGet F.key) trivial hs
  refine ⟨hidle.1, fun found s' hstep => ?_⟩
  have hJ' := hidle.2 found s' hstep
  obtain ⟨s₁, -, hinv, hread⟩ := hstep
  have hsame := idle_same (F := F) (i := i) (o := .storeGet F.key) trivial hread
  refine ⟨?_, idle_inv hinv (o := .storeGet F.key) trivial hread, hJ'⟩
  have hfound : found = s₁.1.store.get F.key := hread.1.1
  rw [hfound, hsame.stores, Store.get, hinv.entry, cached]
  cases F.stores s₁.2 with
  | nil => cases F.start <;> rfl
  | cons token rest => rfl

end Turns

/-! ## 7. Taking and releasing the lock -/

section Locking
variable {F} {i : ι} {lock : ℕ} {s s' : SharedState ι}

theorem unnoticed_lockWork {o : Effect} {answer : Effect.Answer o} (ho : isLockWork o) :
    Unnoticed F (i, ⟨o, answer⟩) := by
  cases o <;> first | exact ⟨rfl, rfl, rfl⟩ | exact ho.elim

/-- What others rely on in an operation that goes unnoticed. -/
theorem Unnoticed.rely {e : ι × Event effects} (he : Unnoticed F e)
    (hlog : s'.2 = s.2 ++ [e]) {j : ι} (howner : ∀ l, s'.1.owner l = some j ↔ s.1.owner l = some j)
    (hguard : s'.1.guard = some j ↔ s.1.guard = some j)
    (hlocks : ∀ k l, s.1.locks k = some l → s'.1.locks k = some l) : F.Rely j s s' where
  owner := howner
  guard := hguard
  locks := hlocks
  inside _ := by
    rw [hlog, he.stores, he.exchanges]
    exact ⟨rfl, rfl⟩
  kept token htoken := by
    rw [hlog, he.stores]
    exact htoken

theorem guardAcquire_allowed (hs : Outside i s.1) :
    F.sharing.keeps i .guardAcquire s ∧ ∀ answer s',
      (F.sharing.view i).step .guardAcquire s answer s' → Guarding i s'.1 := by
  apply allowed
  intro s₁ hrely hinv
  have hout := hrely.outside hs
  refine ⟨fun _ => hout, ?_⟩
  rintro answer s' ⟨⟨hfree, hworld⟩, hlog⟩
  have he : Unnoticed F (i, ⟨.guardAcquire, answer⟩) := unnoticed_lockWork trivial
  refine ⟨hinv.unnoticed he hlog (by rw [hworld]) (by rw [hworld]; exact hinv.settled), ?_, ?_⟩
  · intro j hj
    refine he.rely hlog (by rw [hworld]; exact fun _ => Iff.rfl) ?_
      (by rw [hworld]; exact fun _ _ h => h)
    rw [hworld, hfree]
    constructor
    · intro h
      exact absurd (Option.some.inj h).symm hj
    · intro h
      cases h
  · rw [hworld]
    exact ⟨rfl, hout.2⟩

theorem setdefaultLock_allowed (hs : Guarding i s.1) :
    F.sharing.keeps i (.setdefaultLock F.key) s ∧ ∀ lock s',
      (F.sharing.view i).step (.setdefaultLock F.key) s lock s' →
        Guarding i s'.1 ∧ s'.1.locks F.key = some lock := by
  apply allowed
  intro s₁ hrely hinv
  have hguard := hrely.guarding hs
  refine ⟨may_of_not_waiting (by rintro ⟨⟩) (by rintro l ⟨⟩), ?_⟩
  rintro lock s' ⟨hstep, hlog⟩
  have he : Unnoticed F (i, ⟨.setdefaultLock F.key, lock⟩) := unnoticed_lockWork trivial
  cases hlock : s₁.1.locks F.key with
  | some known =>
    obtain ⟨rfl, hworld⟩ := (sharedWorld_setdefault_known hlock).mp hstep
    refine ⟨hinv.unnoticed he hlog (by rw [hworld]) (by rw [hworld]; exact hinv.settled), ?_, ?_⟩
    · intro j _
      exact he.rely hlog (by rw [hworld]; exact fun _ => Iff.rfl) (by rw [hworld])
        (by rw [hworld]; exact fun _ _ h => h)
    · rw [hworld]
      exact ⟨hguard, hlock⟩
  | none =>
    obtain ⟨rfl, hworld⟩ := (sharedWorld_setdefault_new hlock).mp hstep
    -- no lock object of the key yet, so nobody was inside
    have hfree : F.Free s₁.1 := by
      intro l hl
      rw [hlock] at hl
      cases hl
    refine ⟨hinv.unnoticed he hlog (by rw [hworld]) (fun _ => hinv.settled hfree), ?_, ?_⟩
    · intro j _
      refine he.rely hlog (by rw [hworld]; exact fun _ => Iff.rfl) (by rw [hworld]) ?_
      intro k l hl
      rw [hworld]
      show Function.update s₁.1.locks F.key (some s₁.1.fresh) k = some l
      have hk : k ≠ F.key := by
        rintro rfl
        rw [hlock] at hl
        cases hl
      rw [Function.update_of_ne hk]
      exact hl
    · rw [hworld]
      exact ⟨hguard, Function.update_self _ _ _⟩

theorem guardRelease_allowed (hs : Guarding i s.1) (hlock : s.1.locks F.key = some lock) :
    F.sharing.keeps i .guardRelease s ∧ ∀ answer s',
      (F.sharing.view i).step .guardRelease s answer s' →
        Outside i s'.1 ∧ s'.1.locks F.key = some lock := by
  apply allowed
  intro s₁ hrely hinv
  have hguard := hrely.guarding hs
  refine ⟨may_of_not_waiting (by rintro ⟨⟩) (by rintro l ⟨⟩), ?_⟩
  rintro answer s' ⟨hworld, hlog⟩
  change s'.1 = _ at hworld
  have he : Unnoticed F (i, ⟨.guardRelease, answer⟩) := unnoticed_lockWork trivial
  refine ⟨hinv.unnoticed he hlog (by rw [hworld]) (by rw [hworld]; exact hinv.settled), ?_, ?_⟩
  · intro j hj
    refine he.rely hlog (by rw [hworld]; exact fun _ => Iff.rfl) ?_
      (by rw [hworld]; exact fun _ _ h => h)
    rw [hworld, hguard.1]
    constructor
    · intro h
      cases h
    · intro h
      exact absurd (Option.some.inj h).symm hj
  · rw [hworld]
    exact ⟨⟨fun h => (by cases h), hguard.2⟩, hrely.locks F.key lock hlock⟩

theorem lockAcquire_allowed (hs : Outside i s.1) (hlock : s.1.locks F.key = some lock) :
    F.sharing.keeps i (.lockAcquire lock) s ∧ ∀ answer s',
      (F.sharing.view i).step (.lockAcquire lock) s answer s' →
        F.Inv s' ∧ F.Holds i lock s'.1 ∧ Settled F s' := by
  apply allowed
  intro s₁ hrely hinv
  have hout := hrely.outside hs
  have hlock₁ := hrely.locks F.key lock hlock
  refine ⟨fun _ => hout, ?_⟩
  rintro answer s' ⟨⟨hfree, hworld⟩, hlog⟩
  have he : Unnoticed F (i, ⟨.lockAcquire lock, answer⟩) := unnoticed_lockWork trivial
  -- the lock was free, so nothing was pending
  have hsettled : (F.stores s₁.2).length = (F.exchanges s₁.2).length := by
    apply hinv.settled
    intro l hl
    cases hlock₁.symm.trans hl
    exact hfree
  have hinv' := hinv.unnoticed he hlog (by rw [hworld]) fun _ => hsettled
  refine ⟨hinv', ?_, hinv', ?_, ?_⟩
  · intro j hj
    refine he.rely hlog ?_ (by rw [hworld]) (by rw [hworld]; exact fun _ _ h => h)
    intro l
    rw [hworld]
    show Function.update s₁.1.owner lock (some i) l = some j ↔ _
    by_cases hl : l = lock
    · rw [hl, Function.update_self, hfree]
      constructor
      · intro h
        exact absurd (Option.some.inj h).symm hj
      · intro h
        cases h
    · rw [Function.update_of_ne hl]
  · rw [hworld]
    refine ⟨hlock₁, hout.1, fun l => ?_⟩
    show Function.update s₁.1.owner lock (some i) l = some i ↔ _
    by_cases hl : l = lock
    · rw [hl, Function.update_self]
      exact iff_of_true rfl rfl
    · rw [Function.update_of_ne hl]
      exact iff_of_false (hout.2 l) hl
  · unfold Settled
    rw [hlog, he.stores, he.exchanges]
    exact hsettled

theorem lockRelease_allowed {J : SharedState ι → Prop} (hJ : Stable F i J)
    (hs : F.Holds i lock s.1) (hsettled : Settled F s)
    (hlogged : ∀ s s', F.stores s'.2 = F.stores s.2 → J s → J s') (hj : J s) :
    F.sharing.keeps i (.lockRelease lock) s ∧ ∀ answer s',
      (F.sharing.view i).step (.lockRelease lock) s answer s' → Outside i s'.1 ∧ J s' := by
  apply allowed
  -- between the last own event and the release the others have only waited
  intro s₁ hrely hinv
  have hholds := hrely.holds hs
  have hinside := hrely.inside hs.inside
  refine ⟨may_of_not_waiting (by rintro ⟨⟩) (by rintro l ⟨⟩), ?_⟩
  rintro answer s' ⟨hworld, hlog⟩
  change s'.1 = _ at hworld
  have he : Unnoticed F (i, ⟨.lockRelease lock, answer⟩) := unnoticed_lockWork trivial
  have hsettled₁ : (F.stores s₁.2).length = (F.exchanges s₁.2).length := by
    rw [hinside.1, hinside.2]
    exact hsettled
  refine ⟨hinv.unnoticed he hlog (by rw [hworld]) fun _ => hsettled₁, ?_, ?_, ?_⟩
  -- the other threads see the lock become free, and nothing else
  · intro j hj
    refine he.rely hlog ?_ (by rw [hworld]) (by rw [hworld]; exact fun _ _ h => h)
    intro l
    rw [hworld]
    show Function.update s₁.1.owner lock none l = some j ↔ _
    by_cases hl : l = lock
    · rw [hl, Function.update_self, (hholds.owner lock).mpr rfl]
      constructor
      · intro h
        cases h
      · intro h
        exact absurd (Option.some.inj h).symm hj
    · rw [Function.update_of_ne hl]
  -- this thread holds no lock any more
  · rw [hworld]
    refine ⟨hholds.guard, fun l => ?_⟩
    show Function.update s₁.1.owner lock none l ≠ some i
    by_cases hl : l = lock
    · rw [hl, Function.update_self]
      intro h
      cases h
    · rw [Function.update_of_ne hl]
      exact fun h => hl ((hholds.owner l).mp h)
  · apply hlogged s₁ s'
    · rw [hlog, he.stores]
    · exact hJ s s₁ hj hrely

end Locking

/-! ## 8. Exchanging -/

section Exchanging
variable {F} {i : ι} {lock : ℕ} {s s' : SharedState ι}

/-- Inside the lock, and nothing obtained yet. -/
structure Ready (F : Flight ι) (i : ι) (lock : ℕ) (s : SharedState ι) : Prop where
  holds : F.Holds i lock s.1
  stores : F.stores s.2 = []
  exchanges : F.exchanges s.2 = []

/-- Inside the lock with the outcome of a token request. -/
structure Answered (F : Flight ι) (i : ι) (lock : ℕ) (outcome : TransportOutcome)
    (s : SharedState ι) : Prop where
  holds : F.Holds i lock s.1
  stores : F.stores s.2 = []
  exchanges : ∃ request, F.exchanges s.2 =
    if obtains (F.authenticator i) outcome then [(i, ⟨.send .token request, outcome⟩)] else []
  provided : F.provider outcome

/-- Inside the lock with this token stored. -/
structure Stored (F : Flight ι) (i : ι) (lock : ℕ) (token : TokenState)
    (s : SharedState ι) : Prop where
  holds : F.Holds i lock s.1
  stores : F.stores s.2 = [token]
  exchanges : (F.exchanges s.2).length = 1

theorem Ready.stable : Stable F i (F.Ready i lock) := by
  intro s s' h hrely
  have hinside := hrely.inside h.holds.inside
  exact ⟨hrely.holds h.holds, hinside.1.trans h.stores, hinside.2.trans h.exchanges⟩

theorem Answered.stable {outcome : TransportOutcome} : Stable F i (F.Answered i lock outcome) := by
  intro s s' h hrely
  have hinside := hrely.inside h.holds.inside
  refine ⟨hrely.holds h.holds, hinside.1.trans h.stores, ?_, h.provided⟩
  rw [hinside.2]
  exact h.exchanges

theorem Stored.stable {token : TokenState} : Stable F i (F.Stored i lock token) := by
  intro s s' h hrely
  have hinside := hrely.inside h.holds.inside
  refine ⟨hrely.holds h.holds, hinside.1.trans h.stores, ?_⟩
  rw [hinside.2]
  exact h.exchanges

/-- A step inside the lock changes nothing others rely on. -/
theorem Holds.rely (h : F.Holds i lock s.1) {j : ι} (hj : j ≠ i) (hstores : F.stores s.2 = [])
    (howner : s'.1.owner = s.1.owner) (hguard : s'.1.guard = s.1.guard)
    (hlocks : s'.1.locks = s.1.locks) : F.Rely j s s' where
  owner l := by rw [howner]
  guard := by rw [hguard]
  locks k l hl := by rw [hlocks]; exact hl
  inside hj' := absurd hj' (h.alone hj)
  kept token htoken := by
    rw [hstores] at htoken
    cases htoken

/-- A token request is sent inside the lock while nothing is stored. -/
theorem send_allowed (request : TransportRequest) (hs : F.Ready i lock s) :
    F.sharing.keeps i (.send .token request) s ∧ ∀ outcome s',
      (F.sharing.view i).step (.send .token request) s outcome s' →
      F.Answered i lock outcome s' := by
  apply allowed
  -- inside the section the others leave store and exchanges alone
  intro s₁ hrely hinv
  have hready : F.Ready i lock s₁ := Ready.stable s s₁ hs hrely
  refine ⟨may_of_not_waiting (by rintro ⟨⟩) (by rintro l ⟨⟩), ?_⟩
  rintro outcome s' ⟨⟨hprovided, hworld⟩, hlog⟩
  have hstores : F.stores s'.2 = [] := by
    rw [hlog, stores_concat, hready.stores]
    rfl
  have hexchanges : F.exchanges s'.2 = if obtains (F.authenticator i) outcome then
      [(i, ⟨.send .token request, outcome⟩)] else [] := by
    rw [hlog, exchanges_concat, hready.exchanges, List.nil_append]
    rfl
  have hholds : F.Holds i lock s'.1 := by
    rw [hworld]
    exact hready.holds
  -- a send adds an exchange if its answer brings a token
  refine ⟨⟨?_, .inl hstores, ?_, fun hfree => absurd hfree hholds.not_free, ?_⟩, ?_,
    hholds, hstores, ⟨request, hexchanges⟩, hprovided⟩
  · rw [hworld, hinv.entry, hready.stores, hstores]
  · rw [hstores, hexchanges]
    split
    · exact ⟨Nat.zero_le 1, Nat.le_refl 1⟩
    · exact ⟨Nat.le_refl 0, Nat.zero_le 1⟩
  · rw [hlog, along_concat]
    exact ⟨hinv.quiet, fun _ => ⟨hready.stores, hready.exchanges⟩⟩
  · intro j hj
    exact hready.holds.rely hj hready.stores (by rw [hworld]) (by rw [hworld]) (by rw [hworld])

/-- What was obtained is stored. -/
theorem storeSet_allowed {response : TransportResponse} {token : TokenState}
    (hs : F.Answered i lock (.response response) s)
    (hobtains : obtains (F.authenticator i) (.response response) = true)
    {refresh : Option TokenState} {correlationId : String}
    (htoken : tokenAt (F.authenticator i) refresh (rawResponse response correlationId) F.now =
      .ok token) :
    F.sharing.keeps i (.storeSet F.key token) s ∧ ∀ answer s',
      (F.sharing.view i).step (.storeSet F.key token) s answer s' → F.Stored i lock token s' := by
  -- the answer is still the one exchange without a store
  apply allowed
  intro s₁ hrely hinv
  have hanswered : F.Answered i lock (.response response) s₁ := Answered.stable s s₁ hs hrely
  obtain ⟨request, hone⟩ := hanswered.exchanges
  rw [if_pos hobtains] at hone
  -- what was issued is a new token that is valid
  obtain ⟨hnew, hvalid⟩ :=
    F.issues i response refresh correlationId token hanswered.provided htoken hobtains
  refine ⟨may_of_not_waiting (by rintro ⟨⟩) (by rintro l ⟨⟩), ?_⟩
  rintro answer s' ⟨hworld, hlog⟩
  change s'.1 = _ at hworld
  have hstored : F.storedBy (i, ⟨.storeSet F.key token, answer⟩) = some token := if_pos rfl
  have hstores : F.stores s'.2 = [token] := by
    rw [hlog, stores_concat, hanswered.stores, hstored]
    rfl
  have hexchanges : F.exchanges s'.2 =
      [(i, ⟨.send .token request, TransportOutcome.response response⟩)] := by
    rw [hlog, exchanges_concat, hone]
    rfl
  have hissued : F.Issued (F.exchanges s'.2) token :=
    ⟨i, request, response, refresh, correlationId, hexchanges, htoken⟩
  have hholds : F.Holds i lock s'.1 := by
    rw [hworld]
    exact ⟨hanswered.holds.known, hanswered.holds.guard, hanswered.holds.owner⟩
  -- store and exchange are level again, and the entry of the store is the new token
  refine ⟨⟨?_, .inr ⟨token, hstores, hissued, hnew, hvalid⟩, ?_, fun _ => ?_, ?_⟩, ?_,
    hholds, hstores, ?_⟩
  · rw [hworld, hstores]
    exact Function.update_self _ _ _
  · rw [hstores, hexchanges]
    exact ⟨Nat.le_refl 1, Nat.le_refl 1⟩
  · rw [hstores, hexchanges]
    rfl
  · rw [hlog, along_concat]
    exact ⟨hinv.quiet, fun h => by cases h⟩
  · intro j hj
    exact hanswered.holds.rely hj hanswered.stores (by rw [hworld]) (by rw [hworld])
      (by rw [hworld])
  · rw [hexchanges]
    rfl

/-- A token request that is not sent is a refresh without a refresh token, or lacks credentials. -/
theorem unsendable_cases {a : ServiceAuthenticator} {refresh : Option TokenState} {error : PyError}
    (h : Unsendable a refresh error) : a.generationBody = .error error ∨
      refresh.isSome = true ∧ ServiceAuthenticator.refreshRejected error = true := by
  -- the request cannot be built, or its path is refused
  rcases h with hrequest | ⟨options, hoptions, hendpoint⟩
  · cases refresh with
    | none =>
      change a.generationBody.map _ = _ at hrequest
      cases hbody : a.generationBody with
      | error e =>
        rw [hbody] at hrequest
        cases hrequest
        exact .inl rfl
      | ok body =>
        rw [hbody] at hrequest
        cases hrequest
    | some c =>
      unfold ServiceAuthenticator.tokenRequest at hrequest
      cases hvalue : c.refreshValue with
      | none =>
        simp only [hvalue] at hrequest
        cases hrequest
        exact .inr ⟨rfl, rfl⟩
      | some value =>
        simp only [hvalue] at hrequest
        cases hrequest
  -- the documented paths are accepted, so only the request itself can be at fault
  · obtain ⟨hgenerate, hrefresh, -⟩ := tokenPaths a.documented
    cases refresh with
    | none =>
      rw [tokenRequest_none hoptions, validatedEndpoint_plain hgenerate] at hendpoint
      cases hendpoint
    | some c =>
      rw [tokenRequest_some hoptions, validatedEndpoint_plain hrefresh] at hendpoint
      cases hendpoint

/-- An exchange inside the lock stores the token it obtains, or leaves everything as it was. -/
theorem exchangeRule (refresh : Option TokenState) :
    ExchangeRule (F.sharing.view i) (F.sharing.keeps i) (F.authenticator i) refresh (¬ F.Reliable)
      (F.Ready i lock) (F.Answered i lock) (F.Stored i lock) where
  before := kept_locally Ready.stable
  after _ := kept_locally Answered.stable
  done _ := kept_locally Stored.stable
  send _ _ _ s _ _ hs := send_allowed _ hs
  -- a transient answer brings no token: the exchange does not count
  again outcome s htransient hs := by
    have hnone : obtains (F.authenticator i) outcome = false := by
      rw [obtains, accepted_of_transient htransient]
    obtain ⟨request, hexchanges⟩ := hs.exchanges
    rw [hnone] at hexchanges
    exact ⟨hs.holds, hs.stores, hexchanges⟩
  clock _ s hs := (clock_allowed Answered.stable hs).1
  unsendable error h := by
    rcases unsendable_cases h with hbody | hrejected
    · left
      rintro ⟨-, hcredentials⟩
      obtain ⟨body, hok⟩ := hcredentials i
      rw [hbody] at hok
      cases hok
    · exact .inr hrejected
  -- a definitive answer without a token contradicts a reliable provider
  failed outcome s hnone hs := by
    obtain ⟨request, hexchanges⟩ := hs.exchanges
    rw [hnone] at hexchanges
    have hready : F.Ready i lock s := ⟨hs.holds, hs.stores, hexchanges⟩
    refine ⟨?_, hready, fun now s' hstep => ((clock_allowed Ready.stable hready).2 now s' hstep).2⟩
    rintro ⟨hall, -⟩
    have htrue := hall outcome hs.provided i
    rw [hnone] at htrue
    cases htrue
  set response correlationId now s s' token hs hobtains hclock htoken := by
    obtain ⟨hnow, hs'⟩ := (clock_allowed Answered.stable hs).2 now s' hclock
    rw [hnow] at htoken
    rw [F.keyed i]
    have hset := storeSet_allowed hs' hobtains htoken
    exact ⟨hset.1, fun s'' hstep => hset.2 () s'' hstep⟩

end Exchanging

/-! ## 9. One call -/

section Calls
variable {F} {i : ι} {lock : ℕ} {s : SharedState ι}

/-- Inside the lock, with nothing pending. -/
structure Entered (F : Flight ι) (i : ι) (lock : ℕ) (s : SharedState ι) : Prop where
  holds : F.Holds i lock s.1
  settled : Settled F s
  one : F.OneStored s.2

theorem Entered.stable : Stable F i (F.Entered i lock) := by
  intro s s' h hrely
  have hinside := hrely.inside h.holds.inside
  refine ⟨hrely.holds h.holds, ?_, ?_⟩
  · unfold Settled
    rw [hinside.1, hinside.2]
    exact h.settled
  · unfold OneStored
    rw [hinside.1, hinside.2]
    exact h.one

/-- How a call ends: outside, with its outcome. -/
def Ends (F : Flight ι) (i : ι) (r : Except PyError TokenState) (s : SharedState ι) : Prop :=
  Outside i s.1 ∧ F.Outcome i r (F.stores s.2)

/-- How its locked section ends. -/
structure SectionEnd (F : Flight ι) (i : ι) (lock : ℕ) (r : Except PyError TokenState)
    (s : SharedState ι) : Prop where
  holds : F.Holds i lock s.1
  settled : Settled F s
  outcome : F.Outcome i r (F.stores s.2)

theorem outcome_stable (r : Except PyError TokenState) :
    Stable F i fun s => F.Outcome i r (F.stores s.2) := by
  intro s s' h hrely
  cases r with
  | ok token =>
    rcases h with hstored | hstart
    · exact .inl (hrely.kept token hstored)
    · exact .inr hstart
  | error e => exact h

/-- A locked section of a thread. -/
theorem lock_ends {body : Py TokenState}
    (hbody : ∀ lock s, F.Entered i lock s →
      body.Meets (F.sharing.view i) (F.sharing.keeps i) (F.SectionEnd i lock) s)
    (hs : Outside i s.1) :
    (LockProvider.thread.lock F.key body).Meets (F.sharing.view i) (F.sharing.keeps i)
    (F.Ends i) s := by
  have hguard := guardAcquire_allowed (F := F) hs
  refine ⟨hguard.1, fun answer s hstep => ?_⟩
  have hknown := setdefaultLock_allowed (F := F) (hguard.2 answer s hstep)
  refine ⟨hknown.1, fun lock s hstep => ?_⟩
  obtain ⟨hguarding, hlock⟩ := hknown.2 lock s hstep
  have hleft := guardRelease_allowed hguarding hlock
  refine ⟨hleft.1, fun answer s hstep => ?_⟩
  obtain ⟨hout, hlock⟩ := hleft.2 answer s hstep
  have hacquired := lockAcquire_allowed hout hlock
  refine ⟨hacquired.1, fun answer s hstep => ?_⟩
  obtain ⟨hinv, hholds, hsettled⟩ := hacquired.2 answer s hstep
  refine (hbody lock s ⟨hholds, hsettled, hinv.one⟩).attempt_bind fun r s hend => ?_
  have hreleased := lockRelease_allowed (outcome_stable r) hend.holds hend.settled
    (fun s s' hstores h => by rw [hstores]; exact h) hend.outcome
  exact ⟨hreleased.1, fun answer s hstep => Prog.meets_ofExcept.mpr (hreleased.2 answer s hstep)⟩

/-- A read of the cache answers what is stored, else what was there at the start. -/
theorem safeGet_reads {J : SharedState ι → Prop} (hJ : Stable F i J) (hs : J s)
    {Q : Except PyError (Option TokenState) → SharedState ι → Prop}
    (hQ : ∀ s, F.Inv s → J s → Q (.ok (F.cached (F.stores s.2))) s) :
    (F.authenticator i).safeGet.Meets (F.sharing.view i) (F.sharing.keeps i) Q s := by
  have hread := read_allowed hJ hs
  refine safeGet_meets ?_ (fun found s' hstep => ?_) (fun e s' hstep => ?_)
  · rw [F.keyed i]
    exact hread.1
  · rw [F.keyed i] at hstep
    obtain ⟨hfound, hinv, hJ'⟩ := hread.2 _ s' hstep
    rw [Except.ok.inj hfound]
    exact hQ s' hinv hJ'
  · rw [F.keyed i] at hstep
    obtain ⟨hfound, -⟩ := hread.2 _ s' hstep
    cases hfound

/-- A token found at the start is returned by `get_token` only. -/
theorem outcome_of_start {token : TokenState} (hstart : F.start = some token)
    (hreuse : (F.call i).reuses (F.authenticator i) F.now token = true) :
    F.Outcome i (.ok token) [] := by
  cases hcall : F.call i with
  | get =>
    rw [hcall] at hreuse
    exact .inr ⟨hcall, hstart, hreuse⟩
  | recover rejected =>
    rw [hcall, TokenCall.reuses, Bool.and_eq_true, F.calls i rejected hcall] at hreuse
    rcases F.starts token hstart with hrejected | hexpired
    · exact absurd hrejected (of_decide_eq_true hreuse.1)
    · have hinvalid := hexpired i
      rw [hinvalid] at hreuse
      cases hreuse.2

/-- A stored token is reused by everybody. -/
theorem reuses_stored {token : TokenState} (hnew : token.accessValue ≠ F.rejected)
    (hvalid : ∀ j, F.valid j token = true) :
    (F.call i).reuses (F.authenticator i) F.now token = true := by
  cases hcall : F.call i with
  | get => exact hvalid i
  | recover rejected =>
    rw [TokenCall.reuses, Bool.and_eq_true, F.calls i rejected hcall]
    exact ⟨decide_eq_true hnew, hvalid i⟩

/-- What a caller makes of the cache inside the lock. -/
theorem decision_ends (hs : F.Entered i lock s) :
    Prog.Meets (F.sharing.view i) (F.sharing.keeps i) (F.SectionEnd i lock)
      (match (F.cached (F.stores s.2)).filter fun cached =>
          (F.call i).reuses (F.authenticator i) F.now cached with
        | some cached => pure cached
        | none => (F.authenticator i).refreshOrAcquire (F.cached (F.stores s.2)) F.now) s := by
  -- by what was stored since the start: nothing, or one token
  rcases hs.one with hnone | ⟨token, hone, -, hnew, hvalid⟩
  · rw [hnone]
    -- level counters: without a store there is no exchange either
    have hexchanges : F.exchanges s.2 = [] := by
      have hsettled := hs.settled
      unfold Settled at hsettled
      rw [hnone] at hsettled
      exact List.length_eq_zero_iff.mp hsettled.symm
    cases hfilter : (F.cached []).filter fun cached =>
        (F.call i).reuses (F.authenticator i) F.now cached with
    | some cached =>
      obtain ⟨hstart, hreuse⟩ := Option.filter_eq_some_iff.mp hfilter
      refine ⟨hs.holds, hs.settled, ?_⟩
      rw [hnone]
      exact outcome_of_start hstart hreuse
    | none =>
      refine (refreshOrAcquire_meets (fun c _ => exchangeRule (some c)) (exchangeRule none)
        ⟨hs.holds, hnone, hexchanges⟩).mono fun r s h => ?_
      cases r with
      | ok token =>
        refine ⟨h.holds, ?_, .inl h.stores⟩
        unfold Settled
        rw [h.stores, h.exchanges]
        rfl
      | error e =>
        obtain ⟨hfail, hready⟩ := h
        refine ⟨hready.holds, ?_, hfail⟩
        unfold Settled
        rw [hready.stores, hready.exchanges]
        rfl
  -- another thread has brought the token: it is valid, so it is reused
  · rw [hone]
    have hfilter : (F.cached [token]).filter (fun cached =>
        (F.call i).reuses (F.authenticator i) F.now cached) = some token :=
      Option.filter_eq_some_iff.mpr ⟨rfl, reuses_stored hnew hvalid⟩
    rw [hfilter]
    exact ⟨hs.holds, hs.settled, .inl hone⟩

theorem outside_stable : Stable F i fun s => Outside i s.1 := by
  intro s s' hs hrely
  exact hrely.outside hs

/-- A read of the cache inside the lock. -/
theorem safeGet_entered (hs : F.Entered i lock s) :
    (F.authenticator i).safeGet.Meets (F.sharing.view i) (F.sharing.keeps i)
      (fun r s => r = .ok (F.cached (F.stores s.2)) ∧ F.Entered i lock s) s :=
  safeGet_reads Entered.stable hs fun _ _ hs => ⟨rfl, hs⟩

theorem getToken_ends (hcall : F.call i = .get) (hs : Outside i s.1) :
    (F.authenticator i).getToken.Meets (F.sharing.view i) (F.sharing.keeps i) (F.Ends i) s := by
  have hsection : ∀ lock s, F.Entered i lock s → Prog.Meets (F.sharing.view i) (F.sharing.keeps i)
      (F.SectionEnd i lock) (do
        let now ← Py.clock
        let cached ← (F.authenticator i).safeGet
        match cached.filter fun cached => cached.isAccessValid now (F.authenticator i).leeway with
        | some cached => pure cached
        | none => (F.authenticator i).refreshOrAcquire cached now) s := by
    intro lock s hs
    have hclock := clock_allowed Entered.stable hs
    refine ⟨hclock.1, fun now s hstep => ?_⟩
    obtain ⟨hnow, hs⟩ := hclock.2 now s hstep
    subst hnow
    refine (safeGet_entered hs).bind (fun cached s h => ?_) (fun error s h => ?_)
    · obtain ⟨hcached, hs⟩ := h
      have hdecision := decision_ends hs
      rw [hcall] at hdecision
      rw [Except.ok.inj hcached]
      exact hdecision
    · cases h.1
  unfold ServiceAuthenticator.getToken
  have hclock := clock_allowed (F := F) outside_stable hs
  refine ⟨hclock.1, fun now s hstep => ?_⟩
  obtain ⟨hnow, hs⟩ := hclock.2 now s hstep
  subst hnow
  have hread := safeGet_reads (F := F) outside_stable hs
    (Q := fun r s => r = .ok (F.cached (F.stores s.2)) ∧ F.Inv s ∧ Outside i s.1)
    fun _ hinv hs => ⟨rfl, hinv, hs⟩
  refine hread.bind (fun cached s h => ?_) (fun error s h => ?_)
  · obtain ⟨hcached, hinv, hs⟩ := h
    cases hfilter : cached.filter fun cached =>
        cached.isAccessValid F.now (F.authenticator i).leeway with
    | some token =>
      -- a valid token is there before the lock is taken
      obtain ⟨hfound, hvalid⟩ := Option.filter_eq_some_iff.mp hfilter
      refine ⟨hs, ?_⟩
      rw [Except.ok.inj hcached] at hfound
      rcases hinv.one with hnone | ⟨stored, hone, -, -, -⟩
      · rw [hnone] at hfound
        exact .inr ⟨hcall, hfound, hvalid⟩
      · rw [hone] at hfound
        cases hfound
        exact .inl hone
    | none =>
      show Prog.Meets _ _ _ ((F.authenticator i).locks.lock _ _) s
      rw [F.threaded i, F.keyed i]
      exact lock_ends hsection hs
  · cases h.1

theorem recover_ends {rejected : String} (hcall : F.call i = .recover rejected)
    (hs : Outside i s.1) :
    ((F.authenticator i).recoverFromUnauthorized rejected).Meets (F.sharing.view i)
    (F.sharing.keeps i)
      (F.Ends i) s := by
  unfold ServiceAuthenticator.recoverFromUnauthorized
  rw [F.threaded i, F.keyed i]
  refine lock_ends (fun lock s hs => ?_) hs
  refine (safeGet_entered hs).bind (fun cached s h => ?_) (fun error s h => ?_)
  · obtain ⟨hcached, hs⟩ := h
    -- what was read is still what is stored when the clock has been read
    have hstable : Stable F i fun s' => F.Entered i lock s' ∧ F.stores s'.2 = F.stores s.2 := by
      intro s₁ s₂ h hrely
      exact ⟨Entered.stable s₁ s₂ h.1 hrely, (hrely.inside h.1.holds.inside).1.trans h.2⟩
    have hclock := clock_allowed hstable ⟨hs, rfl⟩
    refine ⟨hclock.1, fun now s' hstep => ?_⟩
    obtain ⟨hnow, hs', hstores⟩ := hclock.2 now s' hstep
    subst hnow
    have hdecision := decision_ends hs'
    rw [hcall, hstores] at hdecision
    rw [Except.ok.inj hcached]
    exact hdecision
  · cases h.1

/-- Every call meets its contract, wherever it starts. -/
theorem call_ends (hs : Outside i s.1) :
    (F.programs i).Meets (F.sharing.view i) (F.sharing.keeps i) (F.Ends i) s := by
  unfold programs
  cases hcall : F.call i with
  | get => exact getToken_ends hcall hs
  | recover rejected => exact recover_ends hcall hs

end Calls

/-! ## 10. All of them -/

section Runs
variable {F} [DecidableEq ι] {ps : ι → Py TokenState} {s : SharedState ι}

omit [DecidableEq ι] in
theorem initial_inv : F.Inv F.initial where
  entry := F.stored
  one := .inl rfl
  atMost := ⟨Nat.le_refl 0, Nat.zero_le 1⟩
  settled _ := rfl
  quiet := along_nil _

/-- At any time the invariant holds and every caller is on its way to its end. -/
theorem run_sound (run : Interleaved F.machine F.programs F.initial ps s) : F.Inv s ∧
    ∀ i, ∃ sᵢ, F.Rely i sᵢ s ∧ (ps i).Meets (F.sharing.view i) (F.sharing.keeps i) (F.Ends i) sᵢ :=
  F.sharing.sound initial_inv
    (fun _ => call_ends ⟨fun h => (by cases h), fun _ h => (by cases h)⟩) run

/-- A call that has ended has its outcome, and holds nothing. -/
theorem ended (run : Interleaved F.machine F.programs F.initial ps s) {i : ι}
    {r : Except PyError TokenState} (hend : ps i = Prog.ofExcept r) : F.Ends i r s := by
  obtain ⟨sᵢ, hrely, hmeets⟩ := (run_sound run).2 i
  rw [hend, Prog.meets_ofExcept] at hmeets
  exact ⟨hrely.outside hmeets.1, outcome_stable r sᵢ s hmeets.2 hrely⟩

/-- Somebody is in the way: inside `_guard`, or with a lock. -/
def Busy (s : Shared ι) : Prop := ∃ j, ¬ Outside j s

omit [DecidableEq ι] in
/-- Only the guard and the locks make an operation wait. -/
theorem goes_on (i : ι) (o : Effect) (s : SharedState ι) :
    (∃ answer s', (F.machine i).step o s answer s') ∨
      (o = .guardAcquire ∨ ∃ l, o = .lockAcquire l) ∧ Busy s.1 := by
  -- every operation but a lock that is taken gets an answer
  have stepped (answer : Effect.Answer o) {world : Shared ι}
      (h : (sharedWorld F.surroundings i).step o s.1 answer world) :
      ∃ answer s', (F.machine i).step o s answer s' :=
    ⟨answer, (world, s.2 ++ [(i, ⟨o, answer⟩)]), h, rfl⟩
  cases o with
  | guardAcquire =>
    cases hguard : s.1.guard with
    | none => exact .inl (stepped () ⟨hguard, rfl⟩)
    | some j => exact .inr ⟨.inl rfl, j, fun h => h.1 hguard⟩
  | lockAcquire l =>
    cases howner : s.1.owner l with
    | none => exact .inl (stepped () ⟨howner, rfl⟩)
    | some j => exact .inr ⟨.inr ⟨l, rfl⟩, j, fun h => h.2 l howner⟩
  | setdefaultLock key =>
    cases hlock : s.1.locks key with
    | some known => exact .inl (stepped _ ((sharedWorld_setdefault_known hlock).mpr ⟨rfl, rfl⟩))
    | none => exact .inl (stepped _ ((sharedWorld_setdefault_new hlock).mpr ⟨rfl, rfl⟩))
  | send purpose request =>
    cases purpose with
    | token =>
      obtain ⟨outcome, houtcome⟩ := F.answers
      exact .inl (stepped outcome ⟨houtcome, rfl⟩)
    | operation access => exact .inl (stepped TransportOutcome.timeoutError rfl)
  | clock => exact .inl (stepped F.now ⟨rfl, rfl⟩)
  | storeGet key => exact .inl (stepped _ ⟨rfl, rfl⟩)
  | monotonic => exact .inl (stepped (0 : ℚ) rfl)
  | random => exact .inl (stepped (0 : ℚ) rfl)
  | newCorrelationId => exact .inl (stepped "" rfl)
  | redisAcquire name timeout blockingTimeout =>
    exact .inl (stepped (none : Option BuiltinError) rfl)
  | redisRelease name => exact .inl (stepped (none : Option BuiltinError) rfl)
  | emitAudit event => exact .inl (stepped (none : Option String) rfl)
  | _ => exact .inl (stepped () rfl)

/-- A call that is not outside can go on. -/
theorem holder_goes_on (run : Interleaved F.machine F.programs F.initial ps s) {j : ι}
    (hj : ¬ Outside j s.1) : ∃ c, Turn F.machine (ps, s) c := by
  cases hnext : ps j with
  | ret token => exact absurd (ended run (r := .ok token) hnext).1 hj
  | throw e => exact absurd (ended run (r := .error e) hnext).1 hj
  | call o k =>
    rcases goes_on j o s with ⟨answer, s', hstep⟩ | ⟨hwaits, -⟩
    · exact ⟨(Function.update ps j (k answer), s'), j, o, k, answer, hnext, hstep, rfl⟩
    · -- it waits with empty hands, as its contract says
      obtain ⟨hinv, hall⟩ := run_sound run
      obtain ⟨sⱼ, hrely, hmeets⟩ := hall j
      rw [hnext] at hmeets
      exact absurd ((hmeets.1 s hrely hinv).1 hwaits) hj

/-- There is no deadlock. -/
theorem progress (run : Interleaved F.machine F.programs F.initial ps s) :
    (∀ i, ∃ r, ps i = Prog.ofExcept r) ∨ ∃ c, Turn F.machine (ps, s) c := by
  by_cases hall : ∀ i, ∃ r, ps i = Prog.ofExcept r
  · exact .inl hall
  · right
    obtain ⟨i, hi⟩ := not_forall.mp hall
    have hi : ∀ r, ps i ≠ Prog.ofExcept r := not_exists.mp hi
    cases hnext : ps i with
    | ret token => exact absurd hnext (hi (.ok token))
    | throw e => exact absurd hnext (hi (.error e))
    | call o k =>
      rcases goes_on i o s with ⟨answer, s', hstep⟩ | ⟨-, j, hj⟩
      · exact ⟨(Function.update ps i (k answer), s'), i, o, k, answer, hnext, hstep, rfl⟩
      · exact holder_goes_on run hj

end Runs

end Flight

/-- However many token calls take turns in whatever order: one exchange at most, no token request
    once its token is obtained, that token for every call that did not find a valid one at the
    start, and the calls do not wait for each other for ever. -/
theorem singleFlight {ι : Type} [DecidableEq ι] [Finite ι] (F : Flight ι) {ps : ι → Py TokenState}
    {s : SharedState ι} (run : Interleaved F.machine F.programs F.initial ps s) :
    (F.exchanges s.2).length ≤ 1 ∧ Along F.Quiet s.2 ∧
      (∀ token, F.stores s.2 = [token] → F.Issued (F.exchanges s.2) token) ∧
      (∀ i r, ps i = Prog.ofExcept r → F.Outcome i r (F.stores s.2)) ∧
      ((∀ i, ∃ r, ps i = Prog.ofExcept r) ∨ ∃ c, Turn F.machine (ps, s) c) ∧
      WellFounded fun c' c : (ι → Py TokenState) × SharedState ι => Turn F.machine c c' := by
  have hinv := (Flight.run_sound run).1
  refine ⟨hinv.atMost.2, hinv.quiet, ?_, fun i r hend => (Flight.ended run hend).2,
    Flight.progress run, turn_wellFounded⟩
  intro token htoken
  rcases hinv.one with hnone | ⟨stored, hone, hissued, -, -⟩
  · rw [hnone] at htoken
    cases htoken
  · rw [hone] at htoken
    cases htoken
    exact hissued

/-! ## 11. Four callers -/

/-- The token all of them were rejected with, not expired yet. -/
def heldToken : TokenState :=
  { accessToken := "T0", expiresAt := some (.finite 86400) }

/-- The provider answers every request with `T1`, at time zero. -/
def steady : Handler Unit
  | .send _ _, s => (issueT1, s)
  | o, s => ((scripted o []).1, s)

theorem accessExpiry_of_parsedToken {a : ServiceAuthenticator} {token : TokenState}
    {body : List (String × Json)} {previous : Option TokenState} {access : String} {now : ℚ}
    (h : a.parsedToken body previous access now = .ok token) :
    a.accessExpiry body access now = .ok token.expiresAt := by
  unfold ServiceAuthenticator.parsedToken at h
  cases haccess : a.accessExpiry body access now with
  | error e =>
    rw [haccess] at h
    cases h
  | ok expiresAt =>
    cases hrefresh : a.refreshExpiry body previous now with
    | error e =>
      rw [haccess, hrefresh] at h
      cases h
    | ok refreshExpiresAt =>
      rw [haccess, hrefresh] at h
      cases h
      rfl

/-- One `get_token` and three recoveries from `T0`, on one authenticator. -/
def sampleFlight : Flight (Fin 4) where
  authenticator _ := sampleAuthenticator
  call i := if i = 0 then .get else .recover "T0"
  key := sampleAuthenticator.cacheKey
  rejected := "T0"
  now := 0
  provider outcome := outcome = issueT1
  store := Function.update (fun _ => none) sampleAuthenticator.cacheKey (some (.token heldToken))
  start := some heldToken
  keyed _ := rfl
  threaded _ := rfl
  calls i access h := by
    by_cases hi : i = 0
    · rw [if_pos hi] at h
      cases h
    · rw [if_neg hi] at h
      cases h
      rfl
  stored := Function.update_self _ _ _
  starts token h := by
    cases h
    exact .inl rfl
  answers := ⟨issueT1, rfl⟩
  issues i response refresh correlationId token hprovider htoken _ := by
    cases hprovider
    obtain ⟨body, access, hbody, haccess, hparsed⟩ := tokenAt_ok htoken
    have hloads : sampleRuntime.jsonLoads (ascii bodyT1) =
        .ok (.obj [("accessToken", .str "T1"), ("refreshToken", .str "R1")]) := rfl
    cases hloads.symm.trans hbody
    cases haccess
    have hexpiry := accessExpiry_of_parsedToken hparsed
    have hlifetime : sampleAuthenticator.accessExpiry
        [("accessToken", .str "T1"), ("refreshToken", .str "R1")] "T1" 0 =
          .ok (some (.finite 86400)) := by decide +kernel
    have haccessToken := (parsedToken_ok hparsed).1
    constructor
    · show token.accessToken ≠ "T0"
      rw [haccessToken]
      decide
    · intro j
      unfold TokenState.isAccessValid
      rw [← Except.ok.inj (hlifetime.symm.trans hexpiry)]
      decide +kernel

/-- The four calls in turn, one operation each. -/
def flightTurns : List (Fin 4) := (List.replicate 30 [0, 1, 2, 3]).flatten

def playFlight : (Fin 4 → Py TokenState) × (Shared (Fin 4) × Unit) × SharedLog (Fin 4) :=
  play (S := effects) (recordedAnswer fun _ => steady) flightTurns
    sampleFlight.programs (({ store := sampleFlight.store }, ()), [])

theorem playFlight_interleaved : Interleaved sampleFlight.machine sampleFlight.programs
    sampleFlight.initial playFlight.1 (sharedView playFlight.2) := by
  have hsteady : PlayedWithin (ι := Fin 4) sampleFlight.surroundings fun _ => steady :=
    ⟨fun _ _ => rfl, fun _ _ _ => rfl⟩
  exact play_shared hsteady flightTurns sampleFlight.programs ({ store := sampleFlight.store }, ())

/-- The access token a call has returned. -/
def returned : Py TokenState → Option String
  | .ret token => some token.accessValue
  | _ => none

/-- The first call finds `T0`; the second exchanges it, and the others get the same token. -/
theorem singleFlight_four :
    returned (playFlight.1 0) = some "T0" ∧ returned (playFlight.1 1) = some "T1" ∧
      returned (playFlight.1 2) = some "T1" ∧ returned (playFlight.1 3) = some "T1" ∧
      (sampleFlight.exchanges (sharedView playFlight.2).2).length ≤ 1 ∧
      Along sampleFlight.Quiet (sharedView playFlight.2).2 ∧
      ∀ i r, playFlight.1 i = Prog.ofExcept r →
        sampleFlight.Outcome i r (sampleFlight.stores (sharedView playFlight.2).2) :=
  have hflight := singleFlight sampleFlight playFlight_interleaved
  ⟨by decide +kernel, by decide +kernel, by decide +kernel, by decide +kernel,
    hflight.1, hflight.2.1, hflight.2.2.2.1⟩

end JibitSdk.Guarantees
