import JibitSdk.Guarantees.Rejection
import JibitSdk.Guarantees.SharedWorld

/-!
# Removing what was observed

A worker removes the stored token because its request was rejected with it, or because it could not
decode the entry.  Other workers may have written since it looked; then the entry it removes need
not be the one it means.
-/

namespace JibitSdk.Guarantees

open JibitSdk.Python JibitSdk.Reasoning JibitSdk.Sdk

/-! ## 1. Reading the log -/

/-- What makes a worker remove the entry. -/
inductive Cause where
  | malformed (error : BuiltinError)
  | rejected (access : String)
  deriving DecidableEq

section Reading
variable {ι : Type} [DecidableEq ι] (key : String)

/-- The entry one event later. -/
def contentsNext (stored : Option Stored) : Event effects → Option Stored
  | ⟨.storeSet k token, _⟩ => if k = key then some (.token token) else stored
  | ⟨.storeDelete k, _⟩ => if k = key then none else stored
  | _ => stored

/-- The entry after everyone's events. -/
def contents (start : Option Stored) (log : SharedLog ι) : Option Stored :=
  log.foldl (fun stored e => contentsNext key stored e.2) start

/-- The last cause to remove the entry, one event later. -/
def causeNext (cause : Option Cause) : Event effects → Option Cause
  | ⟨.storeGet k, .error e⟩ => if k = key then some (.malformed e) else cause
  | ⟨.send (.operation access) _, outcome⟩ =>
    if unauthorized outcome then some (.rejected access) else cause
  | _ => cause

/-- The last cause a worker had, from its own events. -/
def causeOf (history : List (Event effects)) : Option Cause := history.foldl (causeNext key) none

/-- What the worker knows of the entry, one event later. -/
def observedNext (seen : Option (Option Stored)) : Event effects → Option (Option Stored)
  | ⟨.storeGet k, .ok cached⟩ => if k = key then some (cached.map .token) else seen
  | ⟨.storeGet k, .error e⟩ => if k = key then some (some (.malformed e)) else seen
  | ⟨.storeSet k token, _⟩ => if k = key then some (some (.token token)) else seen
  | ⟨.storeDelete k, _⟩ => if k = key then some none else seen
  | _ => seen

/-- The entry as the worker's last access showed or left it. -/
def observedOf (history : List (Event effects)) : Option (Option Stored) :=
  history.foldl (observedNext key) none

/-- The last write of another worker since worker `i` accessed the entry, one event later. -/
def foreignNext (i : ι) (write : Option (Option TokenState)) :
    ι × Event effects → Option (Option TokenState)
  | (j, ⟨.storeGet k, _⟩) => if k = key ∧ j = i then none else write
  | (j, ⟨.storeSet k token, _⟩) =>
    if k = key then if j = i then none else some (some token) else write
  | (j, ⟨.storeDelete k, _⟩) => if k = key then if j = i then none else some none else write
  | _ => write

/-- The last write of another worker since worker `i` accessed the entry: a token, or nothing. -/
def foreignWrite (i : ι) (log : SharedLog ι) : Option (Option TokenState) :=
  log.foldl (foreignNext key i) none

/-- The key an event removes. -/
def removedKey : Event effects → Option String
  | ⟨.storeDelete key, _⟩ => some key
  | _ => none

end Reading

/-! ## 2. Removals -/

/-- The cause is about this entry: it holds the rejected access token, or is the entry that could
    not be decoded, or nothing is stored. -/
def Cause.covers : Option Cause → Option Stored → Bool
  | _, none => true
  | some (.rejected access), some (.token token) => token.accessValue = access
  | some (.malformed e), some (.malformed e') => e = e'
  | _, _ => false

section Removals
variable {ι : Type} [DecidableEq ι]

/-- An entry is removed only if the worker's cause is about the entry that is stored now. -/
def NotLost (start : Store) (before : SharedLog ι) (e : ι × Event effects) : Prop :=
  ∀ key ∈ removedKey e.2,
    Cause.covers (causeOf key (historyOf e.1 before)) (contents key (start key) before) = true

instance (start : Store) (before : SharedLog ι) (e : ι × Event effects) :
    Decidable (NotLost start before e) :=
  inferInstanceAs (Decidable (∀ key ∈ removedKey e.2, _ = _))

/-- Between a worker's last access to the entry and its removal no other worker has stored a token
    there that is still stored, except one with the access token the worker was rejected with. -/
def Undisturbed (before : SharedLog ι) (e : ι × Event effects) : Prop :=
  ∀ key ∈ removedKey e.2, ∀ token, foreignWrite key e.1 before = some (some token) →
    causeOf key (historyOf e.1 before) = some (.rejected token.accessValue)

/-- The worker's cause is about the entry as it last accessed it. -/
def Justified (before : SharedLog ι) (e : ι × Event effects) : Prop :=
  ∀ key ∈ removedKey e.2, ∃ entry, observedOf key (historyOf e.1 before) = some entry ∧
    Cause.covers (causeOf key (historyOf e.1 before)) entry = true

/-- The entry is what the worker last saw, or what was written since. -/
def Tracked (start : Store) (log : SharedLog ι) : Prop :=
  ∀ key i entry, observedOf key (historyOf i log) = some entry →
    contents key (start key) log = match foreignWrite key i log with
      | none => entry
      | some written => written.map .token

theorem covers_token (cause : Option Cause) (token : TokenState) :
    Cause.covers cause (some (.token token)) = true ↔
      cause = some (.rejected token.accessValue) := by
  cases cause with
  | none => exact iff_of_false Bool.false_ne_true (fun h => nomatch h)
  | some cause =>
    cases cause with
    | malformed e => exact iff_of_false Bool.false_ne_true (fun h => nomatch h)
    | rejected access =>
      show decide (token.accessValue = access) = true ↔ _
      rw [decide_eq_true_iff, Option.some_inj, Cause.rejected.injEq]
      exact eq_comm

/-- A justified removal loses nothing exactly if it is undisturbed. -/
theorem notLost_iff {start : Store} {before : SharedLog ι} {e : ι × Event effects}
    (htracked : Tracked start before) (hjustified : Justified before e) :
    NotLost start before e ↔ Undisturbed before e := by
  refine forall₂_congr fun key hkey => ?_
  rcases hjustified key hkey with ⟨entry, hobserved, hcovers⟩
  rw [htracked key e.1 entry hobserved]
  cases foreignWrite key e.1 before with
  | none => exact iff_of_true hcovers fun _ h => nomatch h
  | some written =>
    cases written with
    | none => exact iff_of_true rfl fun _ h => nomatch h
    | some token =>
      show Cause.covers _ (some (.token token)) = true ↔ _
      rw [covers_token]
      constructor
      · intro h token' heq
        cases heq
        exact h
      · exact fun h => h token rfl

end Removals

/-! ## 3. What the workers agree on -/

section Agreement
variable {ι : Type} {w : Surroundings} {start : Store}

theorem contents_concat (key : String) (entry : Option Stored) (log : SharedLog ι)
    (e : ι × Event effects) :
    contents key entry (log ++ [e]) = contentsNext key (contents key entry log) e.2 := by
  rw [contents, List.foldl_append]
  rfl

/-- Writes go where the log says. -/
theorem sharedWorld_store {i : ι} {o : Effect} {s s' : Shared ι} {reply : Effect.Answer o}
    (h : (sharedWorld w i).step o s reply s') (key : String) :
    s'.store key = contentsNext key (s.store key) ⟨o, reply⟩ := by
  cases o with
  | storeGet k => rw [show s' = s from h.2]; rfl
  | storeSet k token =>
    rw [show s' = _ from h]
    show Function.update s.store k (some (.token token)) key = if k = key then _ else _
    by_cases hk : k = key
    · rw [if_pos hk, hk, Function.update_self]
    · rw [if_neg hk, Function.update_of_ne (Ne.symm hk)]
  | storeDelete k =>
    rw [show s' = _ from h]
    show Function.update s.store k none key = if k = key then _ else _
    by_cases hk : k = key
    · rw [if_pos hk, hk, Function.update_self]
    · rw [if_neg hk, Function.update_of_ne (Ne.symm hk)]
  | setdefaultLock k =>
    cases hk : s.locks k with
    | some known => rw [((sharedWorld_setdefault_known hk).mp h).2]; rfl
    | none => rw [((sharedWorld_setdefault_new hk).mp h).2]; rfl
  | send purpose request =>
    cases purpose with
    | token => rw [show s' = s from h.2]; rfl
    | operation access => rw [show s' = s from h]; rfl
  | guardAcquire => rw [show s' = _ from h.2]; rfl
  | lockAcquire lock => rw [show s' = _ from h.2]; rfl
  | clock => rw [show s' = s from h.2]; rfl
  | _ => rw [show s' = _ from h]; rfl

variable [DecidableEq ι]

theorem causeOf_concat (key : String) (history : List (Event effects)) (e : Event effects) :
    causeOf key (history ++ [e]) = causeNext key (causeOf key history) e := by
  rw [causeOf, List.foldl_append]
  rfl

theorem observedOf_concat (key : String) (history : List (Event effects)) (e : Event effects) :
    observedOf key (history ++ [e]) = observedNext key (observedOf key history) e := by
  rw [observedOf, List.foldl_append]
  rfl

theorem foreignWrite_concat (key : String) (i : ι) (log : SharedLog ι) (e : ι × Event effects) :
    foreignWrite key i (log ++ [e]) = foreignNext key i (foreignWrite key i log) e := by
  rw [foreignWrite, List.foldl_append]
  rfl

/-- An access shows or leaves the entry that is stored. -/
theorem observedNext_self {i : ι} {o : Effect} {s s' : Shared ι} {reply : Effect.Answer o}
    (h : (sharedWorld w i).step o s reply s') (key : String) (seen : Option (Option Stored))
    (write : Option (Option TokenState)) :
    (observedNext key seen ⟨o, reply⟩ = seen ∧ foreignNext key i write (i, ⟨o, reply⟩) = write ∧
        contentsNext key (s.store key) ⟨o, reply⟩ = s.store key) ∨
      observedNext key seen ⟨o, reply⟩ = some (contentsNext key (s.store key) ⟨o, reply⟩) ∧
        foreignNext key i write (i, ⟨o, reply⟩) = none := by
  cases o with
  | storeGet k =>
    by_cases hk : k = key
    · right
      subst hk
      refine ⟨?_, if_pos ⟨rfl, rfl⟩⟩
      have hfound : reply = s.store.get k := h.1
      cases reply with
      | ok cached =>
        show (if k = k then some (cached.map .token) else seen) = some (s.store k)
        rw [if_pos rfl, Store.get_ok hfound.symm]
      | error e =>
        show (if k = k then some (some (.malformed e)) else seen) = some (s.store k)
        rw [if_pos rfl, Store.get_error hfound.symm]
    · left
      refine ⟨?_, if_neg fun h => hk h.1, rfl⟩
      cases reply with
      | ok cached => exact if_neg hk
      | error e => exact if_neg hk
  | storeSet k token =>
    by_cases hk : k = key
    · right
      subst hk
      exact ⟨(if_pos rfl).trans (congrArg some (if_pos rfl).symm), (if_pos rfl).trans (if_pos rfl)⟩
    · exact .inl ⟨if_neg hk, if_neg hk, if_neg hk⟩
  | storeDelete k =>
    by_cases hk : k = key
    · right
      subst hk
      exact ⟨(if_pos rfl).trans (congrArg some (if_pos rfl).symm), (if_pos rfl).trans (if_pos rfl)⟩
    · exact .inl ⟨if_neg hk, if_neg hk, if_neg hk⟩
  | _ => exact .inl ⟨rfl, rfl, rfl⟩

/-- What another worker does to the entry is the last foreign write. -/
theorem foreignNext_other {i j : ι} (hij : i ≠ j) (key : String) (e : Event effects)
    (stored : Option Stored) (write : Option (Option TokenState)) :
    (foreignNext key j write (i, e) = write ∧ contentsNext key stored e = stored) ∨
      ∃ written, foreignNext key j write (i, e) = some written ∧
        contentsNext key stored e = written.map .token := by
  rcases e with ⟨o, reply⟩
  cases o with
  | storeGet k => exact .inl ⟨if_neg fun h => hij h.2, rfl⟩
  | storeSet k token =>
    by_cases hk : k = key
    · exact .inr ⟨some token, (if_pos hk).trans (if_neg hij), if_pos hk⟩
    · exact .inl ⟨if_neg hk, if_neg hk⟩
  | storeDelete k =>
    by_cases hk : k = key
    · exact .inr ⟨none, (if_pos hk).trans (if_neg hij), if_pos hk⟩
    · exact .inl ⟨if_neg hk, if_neg hk⟩
  | _ => exact .inl ⟨rfl, rfl⟩

/-- Every step keeps track of the entry. -/
theorem Tracked.step {i : ι} {o : Effect} {s s' : Shared ι} {reply : Effect.Answer o}
    {log : SharedLog ι} (htracked : Tracked start log)
    (hstore : ∀ key, s.store key = contents key (start key) log)
    (h : (sharedWorld w i).step o s reply s') : Tracked start (log ++ [(i, ⟨o, reply⟩)]) := by
  intro key j entry hobserved
  rw [contents_concat, foreignWrite_concat, ← hstore]
  by_cases hij : i = j
  · subst hij
    rw [historyOf_self, observedOf_concat] at hobserved
    rcases observedNext_self h key (observedOf key (historyOf i log)) (foreignWrite key i log) with
      ⟨hseen, hwrite, hcontents⟩ | ⟨hseen, hwrite⟩
    · rw [hseen] at hobserved
      rw [hwrite, hcontents, hstore]
      exact htracked key i entry hobserved
    · rw [hseen] at hobserved
      rw [hwrite]
      exact Option.some_inj.mp hobserved
  · rw [historyOf_other hij] at hobserved
    rcases foreignNext_other hij key ⟨o, reply⟩ (s.store key) (foreignWrite key j log) with
      ⟨hwrite, hcontents⟩ | ⟨written, hwrite, hcontents⟩
    · rw [hwrite, hcontents, hstore]
      exact htracked key j entry hobserved
    · rw [hwrite, hcontents]

/-- The workers keep the log truthful and remove only what they last saw; each relies on its own
    history. -/
def removalSharing (w : Surroundings) (start : Store) :
    Sharing (recorded (sharedWorld (ι := ι) w)) where
  inv s := (∀ key, s.1.store key = contents key (start key) s.2) ∧ Tracked start s.2 ∧
    Along (fun before e => Tracked start before ∧ Justified before e) s.2
  rely i s s' := historyOf i s'.2 = historyOf i s.2
  may _ _ _ := True
  refl _ _ := rfl
  trans _ _ _ _ h h' := h'.trans h

/-- What a worker knows from its own history of a key. -/
def Knows (i : ι) (key : String) (P : Option Cause → Option (Option Stored) → Prop)
    (s : SharedState ι) : Prop :=
  P (causeOf key (historyOf i s.2)) (observedOf key (historyOf i s.2))

variable {i : ι} {key : String} {P P' : Option Cause → Option (Option Stored) → Prop}

theorem Knows.step {o : Effect} {s s' : SharedState ι} {reply : Effect.Answer o}
    (hs : Knows i key P s) (h : ((removalSharing w start).view i).step o s reply s')
    (hP : ∀ cause seen, P cause seen →
      P' (causeNext key cause ⟨o, reply⟩) (observedNext key seen ⟨o, reply⟩)) :
    Knows i key P' s' := by
  rcases h with ⟨s₁, hrely, -, -, hlog⟩
  have hown : historyOf i s'.2 = historyOf i s.2 ++ [⟨o, reply⟩] := by
    rw [hlog, historyOf_self]
    exact congrArg (· ++ _) hrely
  unfold Knows
  rw [hown, causeOf_concat, observedOf_concat]
  exact hP _ _ hs

/-- Every operation is fine for the others, if a removal is justified. -/
theorem removal_keeps {o : Effect} {s : SharedState ι}
    (h : ∀ k, o = .storeDelete k → ∃ entry, observedOf k (historyOf i s.2) = some entry ∧
      Cause.covers (causeOf k (historyOf i s.2)) entry = true) :
    (removalSharing w start).keeps i o s := by
  intro s₁ hrely hinv
  refine ⟨trivial, fun reply s' hstep => ?_⟩
  rcases hinv with ⟨hstore, htracked, halong⟩
  rcases hstep with ⟨hstep, hlog⟩
  refine ⟨⟨fun k => ?_, ?_, ?_⟩, fun j hj => ?_⟩
  · rw [hlog, contents_concat, ← hstore]
    exact sharedWorld_store hstep k
  · rw [hlog]
    exact htracked.step hstore hstep
  · rw [hlog, along_concat]
    refine ⟨halong, htracked, fun k hk => ?_⟩
    have hremoved : o = .storeDelete k := by
      cases o <;> cases hk
      rfl
    rw [show historyOf i s₁.2 = historyOf i s.2 from hrely]
    exact h k hremoved
  · show historyOf j s'.2 = historyOf j s₁.2
    rw [hlog]
    exact historyOf_other (Ne.symm hj) _ _

/-! ## 4. One worker -/

/-- The worker last saw this cached state. -/
def Saw (cached : Option TokenState) : Option Cause → Option (Option Stored) → Prop :=
  fun _ seen => seen = some (cached.map .token)

/-- Operations that neither access the entry nor give a cause to remove it. -/
def isPlain : Effect → Prop
  | .send .token _ | .clock => True
  | o => isLocal o ∨ isLockWork o

theorem isPlain_of {o : Effect} (h : isLocal o ∨ isLockWork o) : isPlain o := by
  cases o <;> first | exact h | trivial | simp [isLocal, isLockWork] at h

theorem Knows.plain {o : Effect} {s s' : SharedState ι} {reply : Effect.Answer o}
    (hs : Knows i key P s) (h : ((removalSharing w start).view i).step o s reply s')
    (ho : isPlain o) : Knows i key P s' := by
  apply hs.step h
  intro cause seen hP
  cases o with
  | send purpose request => cases purpose with
    | token => exact hP
    | operation access => exact absurd ho (by simp [isPlain, isLocal, isLockWork])
  | storeGet | storeSet | storeDelete => exact absurd ho (by simp [isPlain, isLocal, isLockWork])
  | _ => exact hP

theorem plain_keeps {o : Effect} (ho : isPlain o) (s : SharedState ι) :
    (removalSharing w start).keeps i o s := by
  apply removal_keeps
  intro k hk
  subst hk
  exact absurd ho (by simp [isPlain, isLocal, isLockWork])

theorem knows_keptLocally : KeptLocally ((removalSharing w start).view i)
    ((removalSharing w start).keeps i) (Knows i key P) :=
  fun _ s ho hs => ⟨plain_keeps (isPlain_of (.inl ho)) s,
    fun _ _ hstep => hs.plain hstep (isPlain_of (.inl ho))⟩

theorem knows_keptByLocks : KeptByLocks ((removalSharing w start).view i)
    ((removalSharing w start).keeps i) (Knows i key P) :=
  fun _ s ho hs => ⟨plain_keeps (isPlain_of (.inr ho)) s,
    fun _ _ hstep => hs.plain hstep (isPlain_of (.inr ho))⟩

/-- Nothing in particular is known. -/
abbrev KnowsNothing (i : ι) (key : String) : SharedState ι → Prop :=
  Knows i key fun _ _ => True

/-- What the worker knows when a token call ends. -/
def CallKnows (i : ι) (key : String) : Except PyError TokenState → SharedState ι → Prop
  | .ok token => Knows i key (Saw (some token))
  | .error _ => KnowsNothing i key

variable {a : ServiceAuthenticator}

theorem knownExchange (refresh : Option TokenState) :
    ExchangeRule ((removalSharing w start).view i) ((removalSharing w start).keeps i) a refresh True
      (KnowsNothing i a.cacheKey) (fun _ => KnowsNothing i a.cacheKey)
      (fun token => Knows i a.cacheKey (Saw (some token))) where
  before := knows_keptLocally
  after _ := knows_keptLocally
  done _ := knows_keptLocally
  send _ _ _ s _ _ hs :=
    ⟨plain_keeps (o := .send .token _) trivial s, fun _ _ hstep => hs.plain hstep trivial⟩
  again _ _ _ hs := hs
  clock _ s _ := plain_keeps (o := .clock) trivial s
  unsendable _ _ := .inl trivial
  failed _ _ _ hs := ⟨trivial, hs, fun _ _ hstep => hs.plain hstep trivial⟩
  set _ _ _ _ s _ hs _ hclock _ := by
    refine ⟨removal_keeps fun _ h => (nomatch h), fun s' hstep => ?_⟩
    exact (hs.plain hclock trivial).step hstep fun _ _ _ => if_pos rfl

theorem knownCall (call : TokenCall) {s : SharedState ι} (hs : KnowsNothing i a.cacheKey s) :
    (call.run a).Meets ((removalSharing w start).view i) ((removalSharing w start).keeps i)
      (CallKnows i a.cacheKey) s := by
  have rule : TokenRule ((removalSharing w start).view i) ((removalSharing w start).keeps i) a call
      (fun _ => True) True (KnowsNothing i a.cacheKey)
      (fun cached => Knows i a.cacheKey (Saw cached)) (CallKnows i a.cacheKey) :=
    { forget := fun _ _ _ => trivial
      locksBefore := knows_keptByLocks
      locksAfter := fun r => by
        cases r with
        | ok token => exact knows_keptByLocks
        | error error =>
          show KeptByLocks _ _ (KnowsNothing i a.cacheKey)
          exact knows_keptByLocks
      lockFailure := fun _ _ _ => ⟨fun _ _ _ _ => trivial, fun _ _ => trivial⟩
      failed := fun _ _ _ _ => trivial
      clockBefore := fun s hs =>
        ⟨plain_keeps (o := .clock) trivial s,
          fun _ _ hstep => ⟨trivial, hs.plain hstep trivial⟩⟩
      clockAfter := fun _ s hs =>
        ⟨plain_keeps (o := .clock) trivial s,
          fun _ _ hstep => ⟨trivial, hs.plain hstep trivial⟩⟩
      get := fun _ _ => removal_keeps fun _ h => nomatch h
      found := fun _ _ _ hs hstep => hs.step hstep fun _ _ _ => if_pos rfl
      malformed := fun s e s' hs hstep => by
        have hread : Knows i a.cacheKey (fun cause seen => cause = some (.malformed e) ∧
            seen = some (some (.malformed e))) s' :=
          hs.step hstep fun _ _ _ => ⟨if_pos rfl, if_pos rfl⟩
        by_cases hcaught : caught e = true
        · rw [if_pos hcaught]
          refine ⟨removal_keeps fun k hk => ?_, fun s'' hdelete => ?_⟩
          · -- What is removed is what was just read.
            cases hk
            refine ⟨some (.malformed e), hread.2, ?_⟩
            rw [hread.1]
            exact decide_eq_true rfl
          · exact hread.step hdelete fun _ _ _ => if_pos rfl
        · rw [if_neg hcaught]
          exact trivial
      reuse := fun _ _ _ _ hs _ => hs
      exchange := fun cached now s _ _ _ => by
        refine (refreshOrAcquire_meets (fun c _ => knownExchange (some c)) (knownExchange none)
          trivial).mono fun r s h => ?_
        cases r with
        | ok token => exact h
        | error error => exact h.2 }
  exact tokenCall_meets rule hs

variable {x : AuthenticatedRequestEngine}

/-- What the worker knows when an operation with `token` ends. -/
def SendKnows (i : ι) (key : String) (token : TokenState) (r : Except PyError RawResponse) :
    SharedState ι → Prop :=
  Knows i key fun cause seen =>
    denied r = true → cause = some (.rejected token.accessValue) ∧ seen = some (some (.token token))

theorem knownSend {options : RequestOptions} {token : TokenState} {s : SharedState ι}
    (hs : Knows i key (Saw (some token)) s) :
    (x.sendWith options token).Meets ((removalSharing w start).view i)
      ((removalSharing w start).keeps i) (SendKnows i key token) s := by
  have rule : SendRule ((removalSharing w start).view i) ((removalSharing w start).keeps i) x.engine
      (.operation token.accessValue) (authorize options token.tokenType token.accessValue)
      (Knows i key (Saw (some token)))
      (fun outcome => Knows i key fun cause seen => Saw (some token) cause seen ∧
        (unauthorized outcome = true → cause = some (.rejected token.accessValue))) :=
    { before := knows_keptLocally
      after := fun _ => knows_keptLocally
      send := fun _ _ _ _ hs => by
        refine ⟨removal_keeps fun _ h => (nomatch h), fun outcome s' hstep => ?_⟩
        exact hs.step hstep fun _ _ hsaw => ⟨hsaw, fun hunauthorized => if_pos hunauthorized⟩
      again := fun _ _ _ hs => hs.1 }
  refine (execute_meets rule hs).mono fun r s h => ?_
  rcases h with ⟨error, hbad, rfl, -⟩ | ⟨y, outcome, -, rfl, hs⟩
  · intro hdenied
    exact nomatch hdenied.symm.trans (denied_endpoint hbad)
  · intro hdenied
    rw [denied_outcome, Bool.and_eq_true] at hdenied
    exact ⟨hs.2 hdenied.1, hs.1⟩

/-- Removing the token that was just refused is justified. -/
theorem knownInvalidate {token : TokenState} {error : PyError} {s : SharedState ι}
    (hs : SendKnows i x.authenticator.cacheKey token (.error error) s)
    (hdenied : error.isKind .authentication = true) :
    Prog.Meets ((removalSharing w start).view i) ((removalSharing w start).keeps i)
      (fun _ => KnowsNothing i x.authenticator.cacheKey) (do
        x.authenticator.invalidate
        (.throw error : Py RawResponse)) s := by
  rcases hs hdenied with ⟨hcause, hseen⟩
  refine ⟨removal_keeps fun k hk => ?_, fun _ _ _ => trivial⟩
  cases hk
  refine ⟨_, hseen, ?_⟩
  rw [hcause]
  exact decide_eq_true rfl

/-- A worker's call, seen alone. -/
theorem knownExecute (options : RequestOptions) {s : SharedState ι}
    (hs : KnowsNothing i x.authenticator.cacheKey s) :
    (x.execute options).Meets ((removalSharing w start).view i) ((removalSharing w start).keeps i)
      (fun _ => KnowsNothing i x.authenticator.cacheKey) s := by
  unfold AuthenticatedRequestEngine.execute
  refine (knownCall .get hs).bind (fun token s h => ?_) (fun _ _ _ => trivial)
  refine (knownSend h).attempt_bind fun r s h => ?_
  cases r with
  | ok response => exact trivial
  | error error =>
    show Prog.Meets _ _ _ (if error.isKind .authentication then
      if canReplay options then do
        let replacement ← x.authenticator.recoverFromUnauthorized token.accessValue
        x.replay options replacement
      else do
        x.authenticator.invalidate
        .throw error
    else .throw error) s
    by_cases hdenied : error.isKind .authentication = true
    · rw [if_pos hdenied]
      by_cases hreplay : canReplay options = true
      · rw [if_pos hreplay]
        refine (knownCall (.recover token.accessValue) trivial).bind (fun replacement s h => ?_)
          (fun _ _ _ => trivial)
        refine (knownSend h).attempt_bind fun r s h => ?_
        cases r with
        | ok response => exact trivial
        | error error =>
          show Prog.Meets _ _ _ (if error.isKind .authentication then do
            x.authenticator.invalidate
            .throw error
          else .throw error) s
          by_cases hdenied : error.isKind .authentication = true
          · rw [if_pos hdenied]
            exact knownInvalidate h hdenied
          · rw [if_neg hdenied]
            exact trivial
      · rw [if_neg hreplay]
        exact knownInvalidate h hdenied
    · rw [if_neg hdenied]
      exact trivial

end Agreement

/-! ## 5. All workers -/

/-- In every interleaving of any number of workers' calls over one store and one lock provider:
    every worker removes only what its cause is about, exactly if every removal is undisturbed. -/
theorem removals_lose_nothing_iff {ι : Type} [DecidableEq ι] (x : ι → AuthenticatedRequestEngine)
    (calls : ι → List RequestOptions) (w : Surroundings) (store : Store) {ps : ι → Py Unit}
    {s : SharedState ι}
    (run : Interleaved (recorded (sharedWorld w)) (fun i => Prog.inTurn (x i).execute (calls i))
      ({ store }, []) ps s) :
    Along (NotLost store) s.2 ↔ Along Undisturbed s.2 := by
  have hstart : (removalSharing w store).inv
      (({ store }, []) : SharedState ι) :=
    ⟨fun _ => rfl, fun _ _ _ h => (nomatch h), along_nil _⟩
  have hworkers : ∀ i, (Prog.inTurn (x i).execute (calls i)).Meets ((removalSharing w store).view i)
      ((removalSharing w store).keeps i) (fun _ => KnowsNothing i (x i).authenticator.cacheKey)
      (({ store }, []) : SharedState ι) :=
    fun i => Prog.meets_inTurn (fun options s hs => knownExecute options hs) (calls i) trivial
  have hinv := (Sharing.sound hstart hworkers run).1
  exact hinv.2.2.congr fun before e h => notLost_iff h.1 h.2

/-- The store of the deployment, with `T1`. -/
def sampleStore : Store :=
  Function.update (fun _ => none) sampleAuthenticator.cacheKey (some (.token sampleToken))

/-- Two workers: one with an unsafe operation, one with an operation that may be replayed. -/
def sampleWorkers (i : Fin 2) : Py Unit :=
  Prog.inTurn sampleExecutor.execute [sampleOptions (if i = 0 then .unsafeOp else .readOnly)]

/-- Both are refused, the second refreshes and is replayed. -/
def playWorkers (schedule : List (Fin 2)) :
    (Fin 2 → Py Unit) × (Shared (Fin 2) × List TransportOutcome) × SharedLog (Fin 2) :=
  play (S := effects) (recordedAnswer fun _ => scripted) schedule sampleWorkers
    (({ store := sampleStore },
      [answer 401 "\x7b\x7d", answer 401 "\x7b\x7d", issueT2, answer 200 "\x7b\x7d"]), [])

theorem playWorkers_interleaved (schedule : List (Fin 2)) :
    Interleaved (recorded (sharedWorld {})) sampleWorkers
      ({ store := sampleStore }, [])
      (playWorkers schedule).1 (sharedView (playWorkers schedule).2) :=
  play_shared ⟨fun _ _ => trivial, fun _ _ _ => trivial⟩ schedule sampleWorkers
    ({ store := sampleStore },
      [answer 401 "\x7b\x7d", answer 401 "\x7b\x7d", issueT2, answer 200 "\x7b\x7d"])

/-- One worker after the other. -/
theorem removals_lose_nothing_iff_sequential :
    Along (NotLost sampleStore)
        (sharedView (playWorkers (List.replicate 9 0 ++ List.replicate 60 1)).2).2 ↔
      Along Undisturbed
        (sharedView (playWorkers (List.replicate 9 0 ++ List.replicate 60 1)).2).2 :=
  removals_lose_nothing_iff (fun _ => sampleExecutor)
    (fun i => [sampleOptions (if i = 0 then .unsafeOp else .readOnly)]) {} sampleStore
    (playWorkers_interleaved (List.replicate 9 0 ++ List.replicate 60 1))

/-- The second worker's whole call between the refusal of the first one and its removal: `T2`, just
    stored and never refused, is removed for the sake of `T1`. -/
theorem removal_loses_refreshed_token :
    Interleaved (recorded (sharedWorld {})) sampleWorkers
        ({ store := sampleStore }, [])
        (playWorkers (List.replicate 8 0 ++ List.replicate 60 1 ++ [0])).1
        (sharedView (playWorkers (List.replicate 8 0 ++ List.replicate 60 1 ++ [0])).2) ∧
      ¬ Along (NotLost sampleStore)
        (sharedView (playWorkers (List.replicate 8 0 ++ List.replicate 60 1 ++ [0])).2).2 :=
  ⟨playWorkers_interleaved _, by decide +kernel⟩

end JibitSdk.Guarantees
