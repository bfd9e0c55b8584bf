import JibitSdk.Reasoning.Threads

/-!
# Methods under one lock

An object whose methods take its lock first and give it back last.  Threads call the methods in any
order and their single operations interleave; still every interleaving is one of a machine on which
each method is a single step, taken when the method gives the lock back, and what the methods keep
holds whenever the lock is free.
-/

namespace JibitSdk.Reasoning

variable {S H : Signature} {ε α β ι σ : Type}

/-! ## 1. Operations under a lock -/

/-- The operations of a signature and those of one lock. -/
inductive LockedOp (Op : Type) where
  | acquire
  | release
  | inner (o : Op)

/-- What the operations under a lock answer. -/
abbrev LockedOp.Answer (S : Signature) : LockedOp S.Op → Type
  | .acquire | .release => Unit
  | .inner o => S.Answer o

abbrev Signature.locked (S : Signature) : Signature := ⟨LockedOp S.Op, LockedOp.Answer S⟩

/-- The lock is taken by one thread at a time; the other operations leave it alone. -/
def lockedMachine (M : ι → Machine S σ) (i : ι) : Machine S.locked (σ × Option ι) where
  step
    | .acquire, s, _, s' => s.2 = none ∧ s' = (s.1, some i)
    | .release, s, _, s' => s' = (s.1, none)
    | .inner o, s, a, s' => (M i).step o s.1 a s'.1 ∧ s'.2 = s.2

/-! ## 2. Methods -/

namespace Prog

/-- Run `p` inside the section, then go on with `f`. -/
def inside : Prog S Empty β → (β → Prog S.locked ε α) → Prog S.locked ε α
  | .ret b, f => f b
  | .throw e, _ => e.elim
  | .call o k, f => .call (S := S.locked) (.inner o) fun a => inside (k a) f

/-- Every method call is the section of its body. -/
def implement (body : (o : H.Op) → Prog S Empty (H.Answer o)) : Prog H ε α → Prog S.locked ε α
  | .ret a => .ret a
  | .throw e => .throw e
  | .call o k => .call (S := S.locked) .acquire fun _ =>
      (body o).inside fun a => .call (S := S.locked) .release fun _ => implement body (k a)

end Prog

/-- The machine on which a method is one step: its body runs alone. -/
def atomicMachine (M : ι → Machine S σ) (body : (o : H.Op) → Prog S Empty (H.Answer o)) (i : ι) :
    Machine H σ where
  step o s a s' := ∃ tr, (body o).Emits tr (.ok a) ∧ (M i).Accepts s tr s'

namespace Prog

/-- What is left of a program after these events. -/
inductive After (p : Prog S ε α) : List (Event S) → Prog S ε α → Prop
  | start : After p [] p
  | step {tr : List (Event S)} {o : S.Op} {k : S.Answer o → Prog S ε α} (h : After p tr (.call o k))
      (a : S.Answer o) : After p (tr ++ [⟨o, a⟩]) (k a)

theorem After.emits {p q : Prog S ε α} {tr tr' : List (Event S)} {r : Except ε α} (h : p.After tr q)
    (hq : q.Emits tr' r) : p.Emits (tr ++ tr') r := by
  induction h generalizing tr' with
  | start => exact hq
  | step _ a ih =>
    rw [List.append_assoc]
    exact ih ⟨a, tr', rfl, hq⟩

/-- What is left meets what the program promised. -/
theorem After.meets {p q : Prog S ε α} {M : Machine S σ} {ok : S.Op → σ → Prop}
    {Q : Except ε α → σ → Prop} {tr : List (Event S)} {s t : σ} (h : p.After tr q)
    (hp : p.Meets M ok Q s) (hacc : M.Accepts s tr t) : q.Meets M ok Q t := by
  induction h generalizing t with
  | start =>
    rw [show t = s from hacc]
    exact hp
  | step _ a ih =>
    rcases Machine.accepts_append.mp hacc with ⟨t₁, hacc₁, t₂, hstep, ht⟩
    rw [show t = t₂ from ht]
    exact (ih hacc₁).2 a t₂ hstep

end Prog

/-- An exception is caught where the program ends. -/
theorem Prog.Meets.attempt {p : Prog S ε α} {M : Machine S σ} {ok : S.Op → σ → Prop} {ε' : Type}
    {Q : Except ε' (Except ε α) → σ → Prop} {s : σ} (h : p.Meets M ok (fun r => Q (.ok r)) s) :
    (p.attempt : Prog S ε' (Except ε α)).Meets M ok Q s := by
  induction p generalizing s with
  | ret a => exact h
  | throw e => exact h
  | call o k ih => exact ⟨h.1, fun a s' hstep => ih a (h.2 a s' hstep)⟩

/-! ## 3. Every interleaving is one of single steps -/

section Atomicity
variable [DecidableEq ι] {M : ι → Machine S σ} {body : (o : H.Op) → Prog S Empty (H.Answer o)}

/-- How the threads stand to those of the atomic machine.  With the lock free both are the same; the
    thread inside has performed a part of its body, which the atomic machine has not begun. -/
inductive Mirrors (M : ι → Machine S σ) (body : (o : H.Op) → Prog S Empty (H.Answer o))
    (ps : ι → Prog H ε α) (s : σ) : (ι → Prog S.locked ε α) → σ × Option ι → Prop where
  | free {qs : ι → Prog S.locked ε α} (hqs : ∀ i, qs i = (ps i).implement body) :
      Mirrors M body ps s qs (s, none)
  | busy {qs : ι → Prog S.locked ε α} {t : σ} {i : ι} {o : H.Op} {k : H.Answer o → Prog H ε α}
      {rest : Prog S Empty (H.Answer o)} {tr : List (Event S)} (hi : ps i = .call o k)
      (hdone : (M i).Accepts s tr t) (hrest : (body o).After tr rest)
      (hqs : qs i = rest.inside fun a => .call (S := S.locked) .release fun _ =>
        (k a).implement body)
      (hothers : ∀ j, j ≠ i → qs j = (ps j).implement body) :
      Mirrors M body ps s qs (t, some i)

/-- A thread that is about to call something in its method calls is about to take the lock. -/
theorem implement_call {p : Prog H ε α} {o' : LockedOp S.Op}
    {k' : LockedOp.Answer S o' → Prog S.locked ε α}
    (h : p.implement body = .call (S := S.locked) o' k') :
    ∃ o k, p = .call o k ∧ o' = .acquire := by
  cases p with
  | ret a => cases h
  | throw e => cases h
  | call o k =>
    cases h
    exact ⟨o, k, rfl, rfl⟩

/-- One operation of one thread. -/
theorem Mirrors.step {ps₀ ps : ι → Prog H ε α} {s₀ s : σ} {qs : ι → Prog S.locked ε α}
    {t t' : σ × Option ι} {j : ι} {o' : LockedOp S.Op}
    {k' : LockedOp.Answer S o' → Prog S.locked ε α}
    {a : LockedOp.Answer S o'} (h : Mirrors M body ps s qs t)
    (run : Interleaved (atomicMachine M body) ps₀ s₀ ps s)
    (hj : qs j = .call (S := S.locked) o' k') (hstep : (lockedMachine M j).step o' t a t') :
    ∃ ps' s', Interleaved (atomicMachine M body) ps₀ s₀ ps' s' ∧
      Mirrors M body ps' s' (Function.update qs j (k' a)) t' := by
  cases h with
  | free hqs =>
    -- the thread takes the lock
    rw [hqs j] at hj
    rcases implement_call hj with ⟨o, k, hps, rfl⟩
    rw [hps] at hj
    cases hj
    rcases hstep with ⟨-, rfl⟩
    have hdone : (M j).Accepts s [] s := rfl
    refine ⟨ps, s, run, .busy hps hdone .start (Function.update_self ..) ?_⟩
    intro i hij
    rw [Function.update_of_ne hij]
    exact hqs i
  | @busy t i o k rest tr hi hdone hrest hqs hothers =>
    by_cases hij : j = i
    · subst hij
      rw [hqs] at hj
      cases rest with
      | throw e => exact e.elim
      | ret b =>
        -- the body has ended: the lock is given back, and the method has taken its step
        cases hj
        rw [show t' = (t, none) from hstep]
        have hbody : (body o).Emits tr (.ok b) := by
          have hr := hrest.emits ⟨rfl, rfl⟩
          rw [List.append_nil] at hr
          exact hr
        refine ⟨Function.update ps j (k b), t, run.step hi ⟨tr, hbody, hdone⟩, .free fun i => ?_⟩
        by_cases heq : i = j
        · rw [heq, Function.update_self, Function.update_self]
        · rw [Function.update_of_ne heq, Function.update_of_ne heq]
          exact hothers i heq
      | call o'' k'' =>
        cases hj
        rcases t' with ⟨t', owner⟩
        rcases hstep with ⟨hinner, howner⟩
        cases howner
        have hdone' : (M j).Accepts s (tr ++ [⟨o'', a⟩]) t' :=
          Machine.accepts_append.mpr ⟨t, hdone, t', hinner, rfl⟩
        refine ⟨ps, s, run, .busy hi hdone' (hrest.step a) (Function.update_self ..) ?_⟩
        intro i heq
        rw [Function.update_of_ne heq]
        exact hothers i heq
    · -- another thread would have to take the lock
      rw [hothers j hij] at hj
      rcases implement_call hj with ⟨o, k, -, rfl⟩
      cases hstep.1

/-- Whatever the threads have done in whatever order, the atomic machine can have done. -/
theorem atomicity {ps₀ : ι → Prog H ε α} {s₀ : σ} {qs : ι → Prog S.locked ε α} {t : σ × Option ι}
    (run : Interleaved (lockedMachine M) (fun i => (ps₀ i).implement body) (s₀, none) qs t) :
    ∃ ps s, Interleaved (atomicMachine M body) ps₀ s₀ ps s ∧ Mirrors M body ps s qs t := by
  induction run with
  | start => exact ⟨ps₀, s₀, .start, .free fun _ => rfl⟩
  | step _ hj hstep ih =>
    rcases ih with ⟨ps, s, run, h⟩
    exact h.step run hj hstep

omit [DecidableEq ι] in
/-- With the lock free the state is one of the atomic machine. -/
theorem Mirrors.state {ps : ι → Prog H ε α} {s t : σ} {qs : ι → Prog S.locked ε α}
    (h : Mirrors M body ps s qs (t, none)) : s = t ∧ ∀ i, qs i = (ps i).implement body := by
  cases h with
  | free hqs => exact ⟨rfl, hqs⟩

end Atomicity

/-! ## 4. What the lock protects -/

section Monitors
variable [DecidableEq ι] {τ : Type} {M : ι → Machine S σ}
  {body : (o : H.Op) → Prog S Empty (H.Answer o)}
  {N : ι → Machine H τ} {J I : σ → Prop} {view : σ → τ}

/-- The methods keep `J`, do what `N` says on the view of the state, and have `I` hold wherever they
    stand. -/
def Implements (M : ι → Machine S σ) (body : (o : H.Op) → Prog S Empty (H.Answer o))
    (N : ι → Machine H τ) (J I : σ → Prop) (view : σ → τ) : Prop :=
  ∀ i o s, J s → (body o).Meets (M i) (fun _ => I)
    (fun r t => J t ∧ ∀ a, r = .ok a → (N i).step o (view s) a (view t)) s

/-- A run of the atomic machine is one of what the methods are to do. -/
theorem Implements.refines (h : Implements M body N J I view) {ps₀ ps : ι → Prog H ε α}
    {s₀ s : σ} (h₀ : J s₀) (run : Interleaved (atomicMachine M body) ps₀ s₀ ps s) :
    J s ∧ ∃ log, Interleaved (recorded N) ps₀ (view s₀, []) ps (view s, log) := by
  induction run with
  | start => exact ⟨h₀, [], .start⟩
  | @step ps s s' i o k a _ hi hstep ih =>
    rcases ih with ⟨hs, log, hrun⟩
    rcases hstep with ⟨tr, htr, hacc⟩
    have hend := (h i o s hs).sound htr hacc
    exact ⟨hend.1, log ++ [(i, ⟨o, a⟩)], hrun.step hi ⟨hend.2 a rfl, rfl⟩⟩

/-- Threads that call the methods in any order, their single operations interleaved: `I`
    holds always, `J` whenever the lock is free, and some order of the method calls
    explains all they have seen. -/
theorem monitored (h : Implements M body N J I view) (hJI : ∀ s, J s → I s)
    {ps₀ : ι → Prog H ε α} {s₀ : σ} (h₀ : J s₀) {qs : ι → Prog S.locked ε α} {t : σ × Option ι}
    (run : Interleaved (lockedMachine M) (fun i => (ps₀ i).implement body) (s₀, none) qs t) :
    I t.1 ∧ (t.2 = none → J t.1) ∧ ∃ ps s log,
      Interleaved (recorded N) ps₀ (view s₀, []) ps (view s, log) ∧ Mirrors M body ps s qs t := by
  rcases atomicity run with ⟨ps, s, hrun, hmirrors⟩
  rcases h.refines h₀ hrun with ⟨hs, log, hlog⟩
  refine ⟨?_, ?_, ps, s, log, hlog, hmirrors⟩
  · cases hmirrors with
    | free hqs => exact hJI s hs
    | @busy t i o k rest tr hi hdone hrest hqs hothers =>
      -- the state in the middle of a section is one the body's contract speaks of
      have hleft := hrest.meets (h i o s hs) hdone
      cases rest with
      | ret b => exact hJI t hleft.1
      | throw e => exact e.elim
      | call o' k' => exact hleft.1
  · intro hfree
    cases hmirrors with
    | free hqs => exact hs
    | busy => cases hfree

end Monitors

end JibitSdk.Reasoning
