import JibitSdk.Reasoning.Threads

/-!
# Protocols

A protocol says which operations may come in which order: an automaton that reads the operations of
one program with their answers.  A program follows it when no answers make it perform an operation
out of place, which is a contract over the automaton's own machine; so the rules of
`Reasoning.Contract` take the program apart, and what it emits, alone or beside others, is a word of
the automaton.
-/

namespace JibitSdk.Reasoning

variable {S : Signature} {ε ε' α β ι σ Q : Type}

/-! ## 1. Automata -/

/-- What an operation makes of the state; `none` where it is out of place. -/
structure Protocol (S : Signature) (Q : Type) where
  next : Q → (o : S.Op) → S.Answer o → Option Q

namespace Protocol

variable (A : Protocol S Q)

def machine : Machine S Q where
  step o q a q' := A.next q o a = some q'

/-- The operation is in place, whatever its answer. -/
def Fits (o : S.Op) (q : Q) : Prop := ∀ a, (A.next q o a).isSome = true

/-- The state after these events, if all of them are in place. -/
def run (q : Q) : List (Event S) → Option Q
  | [] => some q
  | ev :: tr => (A.next q ev.op ev.answer).bind fun q' => run q' tr

@[simp] theorem run_nil (q : Q) : A.run q [] = some q := rfl

theorem run_cons (q : Q) (ev : Event S) (tr : List (Event S)) :
    A.run q (ev :: tr) = (A.next q ev.op ev.answer).bind fun q' => A.run q' tr := rfl

theorem run_append (q : Q) (tr₁ tr₂ : List (Event S)) :
    A.run q (tr₁ ++ tr₂) = (A.run q tr₁).bind fun q' => A.run q' tr₂ := by
  induction tr₁ generalizing q with
  | nil => rfl
  | cons ev tr ih =>
    rw [List.cons_append, run_cons, run_cons]
    cases A.next q ev.op ev.answer with
    | none => rfl
    | some q' => exact ih q'

theorem run_concat (q : Q) (tr : List (Event S)) (ev : Event S) :
    A.run q (tr ++ [ev]) = (A.run q tr).bind fun q' => A.next q' ev.op ev.answer := by
  rw [run_append]
  congr 1
  funext q'
  rw [run_cons]
  cases A.next q' ev.op ev.answer <;> rfl

/-- The operation leaves the state as it is. -/
def Idle (q : Q) (o : S.Op) : Prop := ∀ a, A.next q o a = some q

end Protocol

/-! ## 2. Programs that follow a protocol -/

/-- From `q` on every operation of `p` is in place, and `p` ends as `fin` asks. -/
abbrev Prog.Follows (A : Protocol S Q) (fin : Except ε α → Q → Prop) (p : Prog S ε α)
    (q : Q) : Prop :=
  p.Meets A.machine A.Fits fin q

section Rules
variable {A : Protocol S Q} {fin fin' : Except ε α → Q → Prop} {q : Q}

theorem follows_call {o : S.Op} {k : S.Answer o → Prog S ε α}
    (h : ∀ a, ∃ q', A.next q o a = some q' ∧ (k a).Follows A fin q') :
    (Prog.call o k).Follows A fin q := by
  constructor
  · intro a
    rcases h a with ⟨q', hnext, -⟩
    rw [hnext]
    rfl
  · intro a q' hstep
    rcases h a with ⟨q'', hnext, hk⟩
    rw [show A.next q o a = some q' from hstep] at hnext
    cases hnext
    exact hk

theorem Prog.Follows.call {o : S.Op} {k : S.Answer o → Prog S ε α}
    (h : (Prog.call o k).Follows A fin q) (a : S.Answer o) :
    ∃ q', A.next q o a = some q' ∧ (k a).Follows A fin q' := by
  rcases Option.isSome_iff_exists.mp (h.1 a) with ⟨q', hnext⟩
  exact ⟨q', hnext, h.2 a q' hnext⟩

/-- A part whose operations leave the state as it is. -/
theorem Prog.Always.follows {P : S.Op → Prop} {R : Except ε α → Prop} {p : Prog S ε α}
    (hp : p.Always P R) (hidle : ∀ o, P o → A.Idle q o) :
    p.Follows A (fun r q' => R r ∧ q' = q) q := by
  refine hp.meets (J := fun q' => q' = q) ?_ rfl
  intro o q' ho hq'
  rw [hq']
  constructor
  · intro a
    rw [hidle o ho a]
    rfl
  · intro a q'' hstep
    have hsame := hidle o ho a
    rw [show A.next q o a = some q'' from hstep] at hsame
    exact Option.some.inj hsame

/-- What a program emits is a word of the protocol. -/
theorem Prog.Follows.sound {p : Prog S ε α} (h : p.Follows A fin q) {tr : List (Event S)}
    {r : Except ε α} (htr : p.Emits tr r) : ∃ q', A.run q tr = some q' ∧ fin r q' := by
  induction p generalizing q tr with
  | ret a =>
    rw [htr.1, htr.2]
    exact ⟨q, rfl, h⟩
  | throw e =>
    rw [htr.1, htr.2]
    exact ⟨q, rfl, h⟩
  | call o k ih =>
    rcases htr with ⟨a, tr', htr', hk⟩
    rcases h.call a with ⟨q', hnext, hfollows⟩
    rcases ih a hfollows hk with ⟨q'', hrun, hfin⟩
    apply Exists.intro q''
    apply And.intro _ hfin
    rw [htr', Protocol.run_cons, hnext]
    exact hrun

end Rules

/-! ## 3. Side by side -/

section Interleavings
variable [DecidableEq ι] {A : Protocol S Q} {fin : ι → Except ε α → Q → Prop} {q₀ : Q}
  {M : ι → Machine S σ} {ps₀ ps : ι → Prog S ε α} {s₀ : σ}

/-- Wherever the programs have got to, the history of each is a word of the protocol, and the
    program goes on from there. -/
theorem follows_interleaved (hps : ∀ i, (ps₀ i).Follows A (fin i) q₀) {s : σ × List (ι × Event S)}
    (run : Interleaved (recorded M) ps₀ (s₀, []) ps s) (i : ι) :
    ∃ q, A.run q₀ (historyOf i s.2) = some q ∧ (ps i).Follows A (fin i) q := by
  induction run with
  | start => exact ⟨q₀, rfl, hps i⟩
  | @step ps s s' j o k a _ hj hstep ih =>
    rcases ih with ⟨q, hrun, hfollows⟩
    rw [hstep.2]
    by_cases hij : j = i
    · subst hij
      rw [hj] at hfollows
      rcases hfollows.call a with ⟨q', hnext, hk⟩
      apply Exists.intro q'
      rw [historyOf_self, Protocol.run_concat, hrun, Function.update_self]
      exact ⟨hnext, hk⟩
    · rw [historyOf_other hij, Function.update_of_ne (Ne.symm hij)]
      exact ⟨q, hrun, hfollows⟩

end Interleavings

end JibitSdk.Reasoning
