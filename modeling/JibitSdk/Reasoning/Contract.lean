import JibitSdk.Reasoning.Program

/-!
# Machines and contracts

A machine relates an operation to the answers its caller may get and to the state afterwards.  A
program meets a contract when, on any answers of the machine, every operation it performs is fine
in the state it is performed in and the outcome satisfies a postcondition.  The rules below take a
program apart along its syntax; `Meets.sound` carries the contract over to a run.
-/

namespace JibitSdk.Reasoning

variable {S : Signature} {σ : Type}

/-! ## 1. Machines -/

/-- What each operation may answer, and the state it leaves. -/
structure Machine (S : Signature) (σ : Type) where
  step : (o : S.Op) → σ → S.Answer o → σ → Prop

namespace Machine

/-- These events take the machine from one state to another. -/
def Accepts (M : Machine S σ) : σ → List (Event S) → σ → Prop
  | s, [], s' => s' = s
  | s, ev :: tr, s' => ∃ s₁, M.step ev.op s ev.answer s₁ ∧ M.Accepts s₁ tr s'

/-- The machine that keeps the events it has seen beside its state. -/
def logged (M : Machine S σ) : Machine S (σ × List (Event S)) where
  step o s a s' := M.step o s.1 a s'.1 ∧ s'.2 = s.2 ++ [⟨o, a⟩]

/-- The machine of a handler. -/
def ofHandler (h : (o : S.Op) → σ → S.Answer o × σ) : Machine S σ where
  step o s a s' := h o s = (a, s')

theorem accepts_append {M : Machine S σ} {s s' : σ} {tr₁ tr₂ : List (Event S)} :
    M.Accepts s (tr₁ ++ tr₂) s' ↔ ∃ s₁, M.Accepts s tr₁ s₁ ∧ M.Accepts s₁ tr₂ s' := by
  induction tr₁ generalizing s with
  | nil =>
    constructor
    · exact fun h => ⟨s, rfl, h⟩
    · rintro ⟨s₁, hs, h⟩
      rw [show s₁ = s from hs] at h
      exact h
  | cons ev tr ih =>
    constructor
    · rintro ⟨s₁, hstep, h⟩
      obtain ⟨s₂, h₁, h₂⟩ := ih.mp h
      exact ⟨s₂, ⟨s₁, hstep, h₁⟩, h₂⟩
    · rintro ⟨s₂, ⟨s₁, hstep, h₁⟩, h₂⟩
      exact ⟨s₁, hstep, ih.mpr ⟨s₂, h₁, h₂⟩⟩

end Machine

/-! ## 2. Contracts -/

namespace Prog

variable {ε ε' α β : Type} {M : Machine S σ} {ok : S.Op → σ → Prop}

/-- From this state, on any answers of `M`, every operation of `p` is `ok` where it is performed,
    and `p` ends with `Q`. -/
def Meets (M : Machine S σ) (ok : S.Op → σ → Prop) (Q : Except ε α → σ → Prop) :
    Prog S ε α → σ → Prop
  | .ret a, s => Q (.ok a) s
  | .throw e, s => Q (.error e) s
  | .call o k, s => ok o s ∧ ∀ a s', M.step o s a s' → (k a).Meets M ok Q s'

section Rules
variable {Q Q' : Except ε α → σ → Prop} {s : σ}

@[simp] theorem meets_ret {a : α} : (ret a : Prog S ε α).Meets M ok Q s ↔ Q (.ok a) s := Iff.rfl

@[simp] theorem meets_throw {e : ε} : (throw e : Prog S ε α).Meets M ok Q s ↔ Q (.error e) s :=
  Iff.rfl

theorem meets_perform_bind {o : S.Op} {f : S.Answer o → Prog S ε α} :
    ((perform o : Prog S ε _) >>= f).Meets M ok Q s ↔
      ok o s ∧ ∀ a s', M.step o s a s' → (f a).Meets M ok Q s' := Iff.rfl

theorem meets_ofExcept {x : Except ε α} : (ofExcept x).Meets M ok Q s ↔ Q x s := by
  cases x <;> rfl

theorem Meets.mono {p : Prog S ε α} (h : p.Meets M ok Q s) (hQ : ∀ r s, Q r s → Q' r s) :
    p.Meets M ok Q' s := by
  induction p generalizing s with
  | ret a => exact hQ _ _ h
  | throw e => exact hQ _ _ h
  | call o k ih => exact ⟨h.1, fun a s' hstep => ih a (h.2 a s' hstep)⟩

/-- Sequencing: what the first part ends with is what the second part starts from. -/
theorem Meets.bind {p : Prog S ε β} {f : β → Prog S ε α} {R : Except ε β → σ → Prop}
    (hp : p.Meets M ok R s) (hok : ∀ b s', R (.ok b) s' → (f b).Meets M ok Q s')
    (herr : ∀ e s', R (.error e) s' → Q (.error e) s') : (p >>= f).Meets M ok Q s := by
  induction p generalizing s with
  | ret b => exact hok b s hp
  | throw e => exact herr e s hp
  | call o k ih => exact ⟨hp.1, fun a s' hstep => ih a (hp.2 a s' hstep)⟩

/-- A `try` statement: its clauses start from any outcome of the guarded part. -/
theorem Meets.attempt_bind {p : Prog S ε' β} {f : Except ε' β → Prog S ε α}
    {R : Except ε' β → σ → Prop} (hp : p.Meets M ok R s)
    (hf : ∀ r s', R r s' → (f r).Meets M ok Q s') : (p.attempt >>= f).Meets M ok Q s := by
  induction p generalizing s with
  | ret b => exact hf _ s hp
  | throw e => exact hf _ s hp
  | call o k ih => exact ⟨hp.1, fun a s' hstep => ih a (hp.2 a s' hstep)⟩

end Rules

/-- A part that performs operations of one class only keeps what these operations keep. -/
theorem Always.meets {P : S.Op → Prop} {R : Except ε α → Prop} {p : Prog S ε α}
    (hp : p.Always P R) {J : σ → Prop}
    (hJ : ∀ o s, P o → J s → ok o s ∧ ∀ a s', M.step o s a s' → J s') {s : σ} (hs : J s) :
    p.Meets M ok (fun r s => R r ∧ J s) s := by
  induction p generalizing s with
  | ret a => exact ⟨hp, hs⟩
  | throw e => exact ⟨hp, hs⟩
  | call o k ih =>
    exact ⟨(hJ o s hp.1 hs).1, fun a s' hstep => ih a (hp.2 a) ((hJ o s hp.1 hs).2 a s' hstep)⟩

/-- A run of a program that meets its contract ends with the postcondition. -/
theorem Meets.sound {p : Prog S ε α} {Q : Except ε α → σ → Prop} {s s' : σ} {tr : List (Event S)}
    {r : Except ε α} (h : p.Meets M ok Q s) (htr : p.Emits tr r) (hacc : M.Accepts s tr s') :
    Q r s' := by
  induction p generalizing s tr with
  | ret a =>
    rcases htr with ⟨rfl, rfl⟩
    rw [show s' = s from hacc]
    exact h
  | throw e =>
    rcases htr with ⟨rfl, rfl⟩
    rw [show s' = s from hacc]
    exact h
  | call o k ih =>
    rcases htr with ⟨a, tr', rfl, htr⟩
    rcases hacc with ⟨s₁, hstep, hacc⟩
    exact ih a (h.2 a s₁ hstep) htr hacc

/-- A contract over a handler's machine is one over its runs. -/
theorem Meets.exec {p : Prog S ε α} {Q : Except ε α → σ → Prop} {s : σ}
    {h : (o : S.Op) → σ → S.Answer o × σ} (hp : p.Meets (.ofHandler h) ok Q s) :
    Q (p.exec h s).2.2 (p.exec h s).2.1 := by
  induction p generalizing s with
  | ret a => exact hp
  | throw e => exact hp
  | call o k ih => exact ih _ (hp.2 (h o s).1 (h o s).2 rfl)

end Prog

end JibitSdk.Reasoning
