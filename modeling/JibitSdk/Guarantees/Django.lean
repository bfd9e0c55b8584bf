import JibitSdk.Guarantees.Settings
import JibitSdk.Guarantees.World
import JibitSdk.Sdk.Django

/-!
# One client for the process

Any number of threads call `get_jibit_client` and `close_jibit_client`, and everything these do to
the process interleaves.  The threads see a process with one client that is built when it is asked
for and gone once it is closed; and whatever Django, httpx or the settings do, no transport is left
open behind that client and none is closed twice.
-/

namespace JibitSdk.Guarantees

open JibitSdk.Python JibitSdk.Reasoning JibitSdk.Sdk JibitSdk.Sdk.ConfigModels

/-! ## 1. The process -/

/-- What the module has done to the process. -/
structure Process where
  /-- The global `_client`. -/
  client : Option ℕ := none
  /-- How many clients there have been. -/
  built : ℕ := 0
  /-- Clients whose transport is open. -/
  isOpen : ℕ → Bool := fun _ => false
  /-- `_closed`. -/
  closed : ℕ → Bool := fun _ => false
  /-- How often a transport was closed. -/
  closes : ℕ → ℕ := fun _ => 0

/-- Attributes are read and written; Django, httpx and the settings may answer anything. -/
def process : Machine djangoEffects Process where
  step
    | .openTransport _ _, s, answer, s' => match answer with
      | .ok client => client = s.built ∧ s' = { s with
          built := s.built + 1, isOpen := Function.update s.isOpen s.built true }
      | .error _ => s' = s
    | .readClient, s, found, s' => found = s.client ∧ s' = s
    | .writeClient client, s, _, s' => s' = { s with client }
    | .readClosed client, s, found, s' => found = s.closed client ∧ s' = s
    | .writeClosed client, s, _, s' =>
        s' = { s with closed := Function.update s.closed client true }
    | .closeTransport client, s, raised, s' => match raised with
      | none => s' = { s with
          isOpen := Function.update s.isOpen client false
          closes := Function.update s.closes client (s.closes client + 1) }
      | some _ => s' = s
    | _, s, _, s' => s' = s

/-- At any time: one transport is open at most, and none has been closed twice. -/
structure Sound (s : Process) : Prop where
  one : ∀ m n, s.isOpen m = true → s.isOpen n = true → m = n
  once : ∀ n, s.closes n ≤ 1

/-- With the lock free: the transport of the current client is open and no other one; every earlier
    client is closed, its transport closed once. -/
structure AtRest (s : Process) : Prop where
  opened : ∀ n, s.isOpen n = true ↔ s.client = some n
  current : ∀ n, s.client = some n → n < s.built ∧ s.closed n = false ∧ s.closes n = 0
  retired : ∀ n, n < s.built → s.client ≠ some n → s.closed n = true ∧ s.closes n = 1
  unbuilt : ∀ n, s.built ≤ n → s.closed n = false ∧ s.closes n = 0

section States
variable {s : Process}

theorem AtRest.closes_le (h : AtRest s) (n : ℕ) : s.closes n ≤ 1 := by
  by_cases hn : n < s.built
  · by_cases hclient : s.client = some n
    · have := (h.current n hclient).2.2
      omega
    · have := (h.retired n hn hclient).2
      omega
  · have := (h.unbuilt n (by omega)).2
    omega

theorem AtRest.sound (h : AtRest s) : Sound s where
  one m n hm hn := by
    have hsame := (h.opened m).mp hm
    rw [(h.opened n).mp hn] at hsame
    exact (Option.some.inj hsame).symm
  once := h.closes_le

/-- A client is built while there is none. -/
theorem AtRest.built (h : AtRest s) (hnone : s.client = none) :
    Sound { s with built := s.built + 1, isOpen := Function.update s.isOpen s.built true } ∧
      AtRest { s with
        client := some s.built
        built := s.built + 1
        isOpen := Function.update s.isOpen s.built true } := by
  have hopen : ∀ n, Function.update s.isOpen s.built true n = true ↔ n = s.built := by
    intro n
    by_cases hn : n = s.built
    · rw [hn, Function.update_self]
      simp
    · rw [Function.update_of_ne hn]
      have hshut := (h.opened n).not.mpr (by rw [hnone]; exact (Option.some_ne_none n).symm)
      exact iff_of_false hshut hn
  constructor
  · exact ⟨fun m n hm hn => ((hopen m).mp hm).trans ((hopen n).mp hn).symm, h.closes_le⟩
  · refine ⟨fun n => ?_, fun n hn => ?_, fun n hn hother => ?_, fun n hn => ?_⟩
    · rw [hopen, Option.some_inj]
      exact eq_comm
    · cases hn
      exact ⟨Nat.lt_succ_self _, h.unbuilt s.built (le_refl _)⟩
    · have hbelow : n < s.built := by
        have hne : n ≠ s.built := fun heq => hother (congrArg some heq.symm)
        have hle : n < s.built + 1 := hn
        omega
      exact h.retired n hbelow (by rw [hnone]; exact (Option.some_ne_none n).symm)
    · exact h.unbuilt n (by have : s.built + 1 ≤ n := hn; omega)

/-- The current client is closed: first its transport, then its mark, then the global. -/
theorem AtRest.shut (h : AtRest s) {client : ℕ} (hclient : s.client = some client) :
    Sound { s with
      isOpen := Function.update s.isOpen client false
      closes := Function.update s.closes client (s.closes client + 1) } ∧
      AtRest { s with
        client := none
        isOpen := Function.update s.isOpen client false
        closed := Function.update s.closed client true
        closes := Function.update s.closes client (s.closes client + 1) } := by
  have hopen : ∀ n, Function.update s.isOpen client false n ≠ true := by
    intro n
    by_cases hn : n = client
    · rw [hn, Function.update_self]
      simp
    · rw [Function.update_of_ne hn]
      intro hshut
      have hsame := (h.opened n).mp hshut
      rw [hclient] at hsame
      exact hn (Option.some.inj hsame).symm
  have hcurrent := h.current client hclient
  have hcloses : ∀ n, Function.update s.closes client (s.closes client + 1) n =
      if n = client then 1 else s.closes n := by
    intro n
    by_cases hn : n = client
    · rw [hn, Function.update_self, if_pos rfl, hcurrent.2.2]
    · rw [Function.update_of_ne hn, if_neg hn]
  constructor
  · refine ⟨fun m n hm => absurd hm (hopen m), fun n => ?_⟩
    show Function.update s.closes client (s.closes client + 1) n ≤ 1
    rw [hcloses]
    have := h.closes_le n
    split <;> omega
  · refine ⟨fun n => iff_of_false (hopen n) (Option.some_ne_none n).symm, fun n hn => ?_,
      fun n hn _ => ?_, fun n hn => ?_⟩
    · cases hn
    · show Function.update s.closed client true n = true ∧
        Function.update s.closes client (s.closes client + 1) n = 1
      rw [hcloses]
      by_cases hsame : n = client
      · rw [hsame, Function.update_self, if_pos rfl]
        exact ⟨rfl, rfl⟩
      · rw [Function.update_of_ne hsame, if_neg hsame]
        apply h.retired n hn
        rw [hclient]
        exact fun heq => hsame (Option.some.inj heq).symm
    · have hne : n ≠ client := by
        have hle : s.built ≤ n := hn
        omega
      show Function.update s.closed client true n = false ∧
        Function.update s.closes client (s.closes client + 1) n = 0
      rw [hcloses, Function.update_of_ne hne, if_neg hne]
      exact h.unbuilt n hn

end States

/-! ## 2. The process as the threads see it -/

/-- The current client, and how many there have been. -/
structure Singleton where
  current : Option ℕ
  built : ℕ
  deriving DecidableEq

def Process.view (s : Process) : Singleton := ⟨s.client, s.built⟩

/-- Each call is one step.  A client is built only if there is none, and what
    fails changes nothing. -/
def singleton : Machine djangoCalls Singleton where
  step
    | .getJibitClient, s, answer, s' => match answer with
      | .ok client => (s.current = some client ∧ s' = s) ∨
          (s.current = none ∧ client = s.built ∧ s' = ⟨some client, s.built + 1⟩)
      | .error _ => s.current = none ∧ s' = s
    | .closeJibitClient, s, answer, s' => match answer with
      | .ok _ => s' = ⟨none, s.built⟩
      | .error _ => s.current ≠ none ∧ s' = s

/-! ## 3. The sections -/

/-- Operations that leave the module's state alone. -/
def isReading : DjangoOp → Prop
  | .importDjango | .readSettings | .openCache _ => True
  | _ => False

theorem loadSettings_only (rt : Runtime) : (loadSettings rt).Only isReading := by
  refine ⟨trivial, fun available => ?_⟩
  cases available with
  | false => exact trivial
  | true =>
    refine ⟨trivial, fun answer => ?_⟩
    cases answer with
    | error e =>
      show Prog.Only (S := djangoEffects) isReading
        (if e = .other "ImproperlyConfigured" then _ else _)
      split <;> exact trivial
    | ok value =>
      cases value with
      | obj entries =>
        dsimp only [Prog.bind]
        generalize (entries.lookup "integration").getD (.obj []) = integration
        cases integration <;> exact trivial
      | _ => exact trivial

theorem openTokenStore_only (tokenStore : Option (String × String)) :
    (openTokenStore tokenStore).Only isReading := by
  cases tokenStore with
  | none => exact trivial
  | some cache =>
    refine ⟨trivial, fun raised => ?_⟩
    cases raised <;> exact trivial

section Sections
variable {s : Process} {α : Type}

/-- What only reads can be left out of account. -/
theorem reading_meets {p : DjangoPy α} (hp : p.Only isReading) (hs : Sound s) :
    p.Meets process (fun _ => Sound) (fun _ t => t = s) s := by
  refine (Prog.Always.meets hp (J := fun t => t = s) (fun o t ho ht => ⟨ht ▸ hs, ?_⟩) rfl).mono
    fun _ _ h => h.2
  intro answer t' hstep
  subst ht
  cases o <;> first | exact ho.elim | exact hstep

variable (rt : Runtime) (c : Coercions)
  (dictOfOther : Obj → Except BuiltinError (List (String × Obj)))

/-- How `get_jibit_client` ends. -/
def GetEnd (s : Process) (r : Except PyError ℕ) (t : Process) : Prop :=
  AtRest t ∧ singleton.step .getJibitClient s.view r t.view

theorem getJibitClient_meets (hs : AtRest s) :
    (getJibitClient rt c dictOfOther).Meets process (fun _ => Sound) (GetEnd s) s := by
  refine Prog.meets_perform_bind.mpr ⟨hs.sound, fun found s' hstep => ?_⟩
  rcases hstep with ⟨rfl, rfl⟩
  cases hclient : s'.client with
  | some client => exact ⟨hs, .inl ⟨hclient, rfl⟩⟩
  | none =>
    have hfailed (e : PyError) : GetEnd s' (.error e) s' := ⟨hs, hclient, rfl⟩
    refine (reading_meets (loadSettings_only rt) hs.sound).bind (fun loaded t ht => ?_)
      fun e t ht => ht ▸ hfailed e
    subst ht
    rcases loaded with ⟨config, options⟩
    show Prog.Meets process _ _ (Prog.ofExcept (integrationOptions rt options) >>= fun tokenStore =>
      openTokenStore tokenStore >>= fun _ => clientFromConfig c dictOfOther config >>= fun client =>
        Prog.perform (S := djangoEffects) (.writeClient (some client)) >>= fun _ => pure client) t
    cases integrationOptions rt options with
    | error e => exact hfailed e
    | ok tokenStore =>
      rw [Prog.ofExcept_ok, Prog.ret_bind]
      refine (reading_meets (openTokenStore_only tokenStore) hs.sound).bind (fun _ t' ht => ?_)
        fun e t' ht => ht ▸ hfailed e
      subst ht
      unfold clientFromConfig
      cases fromMapping c dictOfOther config with
      | error e => exact hfailed e
      | ok validated =>
        -- the transport is opened last, and its client becomes the current one
        refine ⟨hs.sound, fun answer u hstep => ?_⟩
        cases answer with
        | error e =>
          rw [show u = _ from hstep]
          exact hfailed (.builtin e)
        | ok client =>
          rcases hstep with ⟨rfl, rfl⟩
          have hbuilt := hs.built hclient
          refine ⟨hbuilt.1, fun _ v hwrite => ?_⟩
          rw [show v = _ from hwrite]
          exact ⟨hbuilt.2, .inr ⟨hclient, rfl, rfl⟩⟩

/-- How `close_jibit_client` ends. -/
def CloseEnd (s : Process) (r : Except PyError Unit) (t : Process) : Prop :=
  AtRest t ∧ singleton.step .closeJibitClient s.view r t.view

theorem closeJibitClient_meets (hs : AtRest s) :
    closeJibitClient.Meets process (fun _ => Sound) (CloseEnd s) s := by
  refine Prog.meets_perform_bind.mpr ⟨hs.sound, fun found s' hstep => ?_⟩
  rcases hstep with ⟨rfl, rfl⟩
  cases hclient : s'.client with
  | none =>
    refine ⟨hs, ?_⟩
    show s'.view = ⟨none, s'.built⟩
    rw [Process.view, hclient]
  | some client =>
    -- a current client is not closed yet
    refine ⟨hs.sound, fun closed t hread => ?_⟩
    rcases hread with ⟨rfl, heq⟩
    rw [heq, (hs.current client hclient).2.1]
    refine ⟨hs.sound, fun raised t hclose => ?_⟩
    cases raised with
    | some e =>
      rw [show t = _ from hclose]
      refine ⟨hs, ?_, rfl⟩
      rw [Process.view, hclient]
      exact Option.some_ne_none client
    | none =>
      rw [show t = _ from hclose]
      have hshut := hs.shut hclient
      have hmarked : Sound { s' with
          isOpen := Function.update s'.isOpen client false
          closed := Function.update s'.closed client true
          closes := Function.update s'.closes client (s'.closes client + 1) } :=
        ⟨hshut.1.one, hshut.1.once⟩
      refine ⟨hshut.1, fun _ u hmark => ?_⟩
      rw [show u = _ from hmark]
      refine ⟨hmarked, fun _ v hwrite => ?_⟩
      rw [show v = _ from hwrite]
      exact ⟨hshut.2, rfl⟩

/-- Both sections keep the process in order. -/
theorem djangoBody_keeps {ι : Type} :
    Implements (fun _ : ι => process) (djangoBody rt c dictOfOther)
    (fun _ : ι => singleton) AtRest Sound Process.view := by
  intro _ call s hs
  cases call with
  | getJibitClient =>
    apply Prog.Meets.attempt
    refine (getJibitClient_meets rt c dictOfOther hs).mono fun r t h => ⟨h.1, fun answer heq => ?_⟩
    cases heq
    exact h.2
  | closeJibitClient =>
    apply Prog.Meets.attempt
    refine (closeJibitClient_meets hs).mono fun r t h => ⟨h.1, fun answer heq => ?_⟩
    cases heq
    exact h.2

end Sections

/-! ## 4. Which client a call returns -/

section Histories
variable {ι : Type}

/-- A call that has closed the client. -/
def hasClosed : Event djangoCalls → Bool
  | ⟨.closeJibitClient, .ok _⟩ => true
  | _ => false

/-- `get_jibit_client` has returned this client. -/
abbrev clientReturned (client : ℕ) : Event djangoCalls := ⟨.getJibitClient, .ok client⟩

/-- Two calls return the same client exactly if no call has closed it in between. -/
def Consistent (before : List (ι × Event djangoCalls)) (e : ι × Event djangoCalls) : Prop :=
  ∀ later, e.2 = clientReturned later → ∀ first i client middle,
    before = first ++ (i, clientReturned client) :: middle →
      (client = later ↔ middle.any (fun e => hasClosed e.2) = false)

/-- What the log says of the current client: it is the last one returned, unless that was closed;
    then a later one has been built, or none. -/
structure Traced (s : Singleton) (log : List (ι × Event djangoCalls)) : Prop where
  current : ∀ client, s.current = some client → client < s.built
  earlier : ∀ first i client middle, log = first ++ (i, clientReturned client) :: middle →
    client < s.built ∧ if middle.any (fun e => hasClosed e.2) then
      ∀ other, s.current = some other → client < other else s.current = some client

variable {s s' : Singleton} {log : List (ι × Event djangoCalls)}

theorem Traced.consistent (h : Traced s log) {i : ι} {call : DjangoCall}
    {answer : DjangoCall.Answer call} (hstep : singleton.step call s answer s') :
    Consistent log (i, ⟨call, answer⟩) := by
  intro later heq first j client middle hsplit
  cases heq
  have hclient := h.earlier first j client middle hsplit
  by_cases hclosed : middle.any (fun e => hasClosed e.2) = true
  · rw [if_pos hclosed] at hclient
    have hlater : client < later := by
      rcases hstep with ⟨hcurrent, -⟩ | ⟨-, hbuilt, -⟩
      · exact hclient.2 later hcurrent
      · rw [hbuilt]
        exact hclient.1
    rw [hclosed]
    exact iff_of_false (by omega) (by decide)
  · rw [if_neg hclosed] at hclient
    have hsame : client = later := by
      rcases hstep with ⟨hcurrent, -⟩ | ⟨hnone, -⟩
      · rw [hclient.2] at hcurrent
        exact Option.some.inj hcurrent
      · rw [hclient.2] at hnone
        cases hnone
    exact iff_of_true hsame (Bool.eq_false_iff.mpr hclosed)

theorem Traced.step (h : Traced s log) {i : ι} {call : DjangoCall} {answer : DjangoCall.Answer call}
    (hstep : singleton.step call s answer s') : Traced s' (log ++ [(i, ⟨call, answer⟩)]) := by
  -- what the step does to the current client
  have hmoved : (s'.current = s.current ∧ s'.built = s.built ∧ hasClosed ⟨call, answer⟩ = false ∧
        ∀ client, (⟨call, answer⟩ : Event djangoCalls) = clientReturned client →
        s.current = some client) ∨
      (s.current = none ∧ s' = ⟨some s.built, s.built + 1⟩ ∧ hasClosed ⟨call, answer⟩ = false ∧
        (⟨call, answer⟩ : Event djangoCalls) = clientReturned s.built) ∨
      (s' = ⟨none, s.built⟩ ∧ hasClosed ⟨call, answer⟩ = true) := by
    cases call with
    | getJibitClient =>
      cases answer with
      | ok client =>
        rcases hstep with ⟨hcurrent, rfl⟩ | ⟨hnone, rfl, rfl⟩
        · refine .inl ⟨rfl, rfl, rfl, fun other heq => ?_⟩
          cases heq
          exact hcurrent
        · exact .inr (.inl ⟨hnone, rfl, rfl, rfl⟩)
      | error e =>
        rcases hstep with ⟨-, rfl⟩
        exact .inl ⟨rfl, rfl, rfl, fun other heq => by cases heq⟩
    | closeJibitClient =>
      cases answer with
      | ok u => exact .inr (.inr ⟨hstep, rfl⟩)
      | error e =>
        rcases hstep with ⟨-, rfl⟩
        exact .inl ⟨rfl, rfl, rfl, fun other heq => by cases heq⟩
  refine ⟨fun client hclient => ?_, fun first j client middle hsplit => ?_⟩
  · rcases hmoved with ⟨hcurrent, hbuilt, -, -⟩ | ⟨-, rfl, -, -⟩ | ⟨rfl, -⟩
    · rw [hbuilt]
      exact h.current client (hcurrent ▸ hclient)
    · cases hclient
      exact Nat.lt_succ_self _
    · cases hclient
  · rcases List.eq_nil_or_concat middle with rfl | ⟨middle, last, rfl⟩
    · -- the new event is the return itself
      have hlast := List.append_inj' hsplit rfl
      have hevent := (Prod.ext_iff.mp (List.cons.inj hlast.2).1).2
      rw [List.any_nil, if_neg Bool.false_ne_true]
      rcases hmoved with ⟨hcurrent, hbuilt, -, hreturned⟩ | ⟨-, rfl, -, hreturned⟩ | ⟨-, hclosed⟩
      · rw [hcurrent, hbuilt]
        exact ⟨h.current client (hreturned client hevent), hreturned client hevent⟩
      · have hsame := hreturned.symm.trans hevent
        cases hsame
        exact ⟨Nat.lt_succ_self _, rfl⟩
      · rw [show (⟨call, answer⟩ : Event djangoCalls) = clientReturned client from hevent]
          at hclosed
        cases hclosed
    · -- the return was there before
      have hjoin :
          log ++ [(i, ⟨call, answer⟩)] =
            (first ++ (j, clientReturned client) :: middle) ++ [last] := by
        rw [hsplit]
        simp only [List.concat_eq_append, List.append_assoc, List.cons_append]
      have hparts := List.append_inj' hjoin rfl
      have hclient := h.earlier first j client middle hparts.1
      rw [List.concat_eq_append, List.any_append, ← (List.cons.inj hparts.2).1]
      rcases hmoved with ⟨hcurrent, hbuilt, hopen, -⟩ | ⟨hnone, rfl, hopen, -⟩ | ⟨rfl, hclosed⟩
      · rw [hcurrent, hbuilt, List.any_cons, hopen, List.any_nil, Bool.or_false, Bool.or_false]
        exact hclient
      · rw [List.any_cons, hopen, List.any_nil, Bool.or_false, Bool.or_false]
        refine ⟨Nat.lt_succ_of_lt hclient.1, ?_⟩
        by_cases hmiddle : middle.any (fun e => hasClosed e.2) = true
        · rw [if_pos hmiddle]
          intro other hother
          cases hother
          exact hclient.1
        · rw [if_neg hmiddle, hnone] at hclient
          cases hclient.2
      · rw [List.any_cons, hclosed, Bool.true_or, Bool.or_true, if_pos rfl]
        exact ⟨hclient.1, fun other hother => by cases hother⟩

/-- In a run of calls the clientReturned clients are consistent. -/
theorem consistent_run [DecidableEq ι] {ε α : Type} {programs ps : ι → Prog djangoCalls ε α}
    (run : Interleaved (recorded fun _ : ι => singleton) programs (⟨none, 0⟩, []) ps (s, log)) :
    Along Consistent log := by
  suffices h : ∀ c : Singleton × List (ι × Event djangoCalls),
      Interleaved (recorded fun _ : ι => singleton) programs (⟨none, 0⟩, []) ps c →
        Traced c.1 c.2 ∧ Along Consistent c.2 from (h (s, log) run).2
  clear run
  intro c hc
  induction hc with
  | start =>
    refine ⟨⟨fun _ h => (by cases h), fun first i client middle h => ?_⟩, along_nil _⟩
    exact absurd h.symm (List.append_ne_nil_of_right_ne_nil first (List.cons_ne_nil _ _))
  | step _ _ hstep ih =>
    rw [hstep.2]
    exact ⟨ih.1.step hstep.1, along_concat.mpr ⟨ih.2, ih.1.consistent hstep.1⟩⟩

end Histories

/-! ## 5. All threads -/

/-- However the threads of a process call the two functions, and however what these do interleaves:
    one transport is open at most, at any moment, and none is closed twice; with the lock free it is
    that of the current client, and every earlier client is closed.  The answers are those of the
    calls made one after another, in an order in which two calls return the same client exactly if
    it was not closed in between. -/
theorem one_client_per_process {ι ε α : Type} [DecidableEq ι] (rt : Runtime) (c : Coercions)
    (dictOfOther : Obj → Except BuiltinError (List (String × Obj)))
    (programs : ι → Prog djangoCalls ε α) {qs : ι → Prog djangoEffects.locked ε α}
    {t : Process × Option ι}
    (run : Interleaved (lockedMachine fun _ => process)
      (fun i => (programs i).implement (djangoBody rt c dictOfOther)) ({}, none) qs t) :
    Sound t.1 ∧ (t.2 = none → AtRest t.1) ∧ ∃ ps s log,
      Interleaved (recorded fun _ => singleton) programs (⟨none, 0⟩, []) ps (Process.view s, log) ∧
        Mirrors (fun _ => process) (djangoBody rt c dictOfOther) ps s qs t ∧
        Along Consistent log := by
  have hstart : AtRest {} :=
    ⟨fun _ => ⟨fun h => (by cases h), fun h => (by cases h)⟩, fun _ h => (by cases h),
      fun _ h => absurd h (Nat.not_lt_zero _), fun _ _ => ⟨rfl, rfl⟩⟩
  rcases monitored (djangoBody_keeps rt c dictOfOther) (fun _ => AtRest.sound) hstart run with
    ⟨hsound, hsettled, ps, s, log, hlog, hmirrors⟩
  exact ⟨hsound, hsettled, ps, s, log, hlog, hmirrors, consistent_run hlog⟩

/-- A process whose settings are an empty mapping and whose transports open and close. -/
def answerDjango (i : Bool) : (o : LockedOp DjangoOp) → Process × Option Bool →
    Option (LockedOp.Answer djangoEffects o × Process × Option Bool)
  | .acquire, s => if s.2.isNone then some ((), s.1, some i) else none
  | .release, s => some ((), s.1, none)
  | .inner .importDjango, s => some (true, s)
  | .inner .readSettings, s => some (.ok (.obj []), s)
  | .inner (.openCache _), s => some (none, s)
  | .inner (.openTransport _ _), s => some (.ok s.1.built, { s.1 with
      built := s.1.built + 1, isOpen := Function.update s.1.isOpen s.1.built true }, s.2)
  | .inner .readClient, s => some (s.1.client, s)
  | .inner (.writeClient client), s => some ((), { s.1 with client }, s.2)
  | .inner (.readClosed client), s => some (s.1.closed client, s)
  | .inner (.writeClosed client), s =>
    some ((), { s.1 with closed := Function.update s.1.closed client true }, s.2)
  | .inner (.closeTransport client), s => some (none, { s.1 with
      isOpen := Function.update s.1.isOpen client false
      closes := Function.update s.1.closes client (s.1.closes client + 1) }, s.2)

theorem answerDjango_step {i : Bool} {o : LockedOp DjangoOp} {s s' : Process × Option Bool}
    {answer : LockedOp.Answer djangoEffects o} (h : answerDjango i o s = some (answer, s')) :
    (lockedMachine (fun _ => process) i).step o s answer s' := by
  cases o with
  | acquire =>
    change (if s.2.isNone then _ else _) = _ at h
    by_cases hfree : s.2.isNone = true
    · rw [if_pos hfree] at h
      cases h
      exact ⟨Option.isNone_iff_eq_none.mp hfree, rfl⟩
    · rw [if_neg hfree] at h
      cases h
  | release =>
    cases h
    rfl
  | inner o =>
    cases o with
    | openTransport | readClient | readClosed =>
      cases h
      exact ⟨⟨rfl, rfl⟩, rfl⟩
    | _ =>
      cases h
      exact ⟨rfl, rfl⟩

/-- One thread asks for the client, the other one for the client and then closes it. -/
def askAndClose (i : Bool) : Prog djangoCalls Empty (Except PyError ℕ) := do
  let client ← Prog.perform (S := djangoCalls) .getJibitClient
  if i then
    let _ ← Prog.perform (S := djangoCalls) .closeJibitClient
  pure client

/-- The two threads under a schedule. -/
def playDjango (schedule : List Bool) :
    (Bool → Prog djangoEffects.locked Empty (Except PyError ℕ)) × Process × Option Bool :=
  play (S := djangoEffects.locked) answerDjango schedule
    (fun i => (askAndClose i).implement (djangoBody sampleRuntime plainCoercions noDict)) ({}, none)

/-- The second thread asks while the first one builds the client, and closes it. -/
theorem one_client_per_process_two :
    let t :=
      (playDjango (List.replicate 3 false ++ List.replicate 3 true ++ List.replicate 4 false ++
      List.replicate 10 true)).2
    (t.1.built = 1 ∧ t.1.closes 0 = 1 ∧ t.2 = none) ∧ Sound t.1 ∧ (t.2 = none → AtRest t.1) ∧
      ∃ ps s log, Interleaved (recorded fun _ => singleton) askAndClose (⟨none, 0⟩, []) ps
          (Process.view s, log) ∧
        Mirrors (fun _ => process) (djangoBody sampleRuntime plainCoercions noDict) ps s
          (playDjango (List.replicate 3 false ++ List.replicate 3 true ++ List.replicate 4 false ++
            List.replicate 10 true)).1 t ∧ Along Consistent log :=
  ⟨by decide +kernel, one_client_per_process sampleRuntime plainCoercions noDict askAndClose
    (play_interleaved id (fun _ _ _ _ _ h => answerDjango_step h) _ .start)⟩

end JibitSdk.Guarantees
