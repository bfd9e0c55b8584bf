import Mathlib.Data.List.Basic
import Mathlib.Tactic.Common

/-!
# Effectful programs and their traces

A program is a tree: it returns, raises, or performs an operation and continues with the answer.
The tree says nothing about what the operations do: a run is the list of events a program *emits*.
What the operations answer is the business of a machine (`Reasoning.Contract`).  The same tree is
read by the interleaving semantics (`Reasoning.Threads`) and by the two-run relation
(`Reasoning.Lockstep`).
-/

namespace JibitSdk.Reasoning

/-- Operations, and the type of the answer to each of them. -/
structure Signature where
  Op : Type
  Answer : Op → Type

/-- One performed operation with the answer it got. -/
structure Event (S : Signature) where
  op : S.Op
  answer : S.Answer op

/-- Programs over a signature that may raise an `ε`. -/
inductive Prog (S : Signature) (ε α : Type) where
  | ret (a : α)
  | throw (e : ε)
  | call (o : S.Op) (k : S.Answer o → Prog S ε α)

namespace Prog

variable {S : Signature} {ε ε' α β γ : Type}

/-! ## 1. Sequencing and exceptions -/

/-- Run `p`, then `f` on what it returns.  An exception skips `f`. -/
def bind : Prog S ε α → (α → Prog S ε β) → Prog S ε β
  | .ret a, f => f a
  | .throw e, _ => .throw e
  | .call o k, f => .call o fun a => (k a).bind f

instance : Monad (Prog S ε) where
  pure := .ret
  bind := Prog.bind

/-- The `try` statement with its outcome made a value: `except`, `else` and `finally` clauses are
    case distinctions on it. -/
def attempt : Prog S ε α → Prog S ε' (Except ε α)
  | .ret a => .ret (.ok a)
  | .throw e => .ret (.error e)
  | .call o k => .call o fun a => (k a).attempt

/-- Perform one operation and return its answer. -/
def perform (o : S.Op) : Prog S ε (S.Answer o) := .call o .ret

/-- A computation without effects that may raise. -/
def ofExcept : Except ε α → Prog S ε α
  | .ok a => .ret a
  | .error e => .throw e

@[simp] theorem pure_eq (a : α) : (pure a : Prog S ε α) = .ret a := rfl
@[simp] theorem ret_bind (a : α) (f : α → Prog S ε β) : (Prog.ret a >>= f) = f a := rfl
@[simp] theorem throw_bind (e : ε) (f : α → Prog S ε β) :
    ((Prog.throw e : Prog S ε α) >>= f) = .throw e := rfl
@[simp] theorem call_bind (o : S.Op) (k : S.Answer o → Prog S ε α) (f : α → Prog S ε β) :
    (Prog.call o k >>= f) = .call o fun a => k a >>= f := rfl
@[simp] theorem attempt_ret (a : α) :
    (attempt (.ret a : Prog S ε α) : Prog S ε' _) = .ret (.ok a) := rfl
@[simp] theorem attempt_throw (e : ε) :
    (attempt (.throw e : Prog S ε α) : Prog S ε' _) = .ret (.error e) := rfl
@[simp] theorem ofExcept_ok (a : α) : (ofExcept (.ok a) : Prog S ε α) = .ret a := rfl
@[simp] theorem ofExcept_error (e : ε) : (ofExcept (.error e) : Prog S ε α) = .throw e := rfl

@[simp] theorem perform_bind (o : S.Op) (f : S.Answer o → Prog S ε α) :
    ((perform o : Prog S ε _) >>= f) = .call o f := rfl

theorem bind_assoc (p : Prog S ε α) (f : α → Prog S ε β) (g : β → Prog S ε γ) :
    (p >>= f >>= g) = (p >>= fun a => f a >>= g) := by
  induction p with
  | ret a => rfl
  | throw e => rfl
  | call o k ih => simp only [call_bind, ih]

/-! ## 2. Emitted traces -/

/-- `p` performs exactly the events of `tr`, with these answers, and ends in `r`. -/
def Emits : Prog S ε α → List (Event S) → Except ε α → Prop
  | .ret a, tr, r => tr = [] ∧ r = .ok a
  | .throw e, tr, r => tr = [] ∧ r = .error e
  | .call o k, tr, r => ∃ a tr', tr = ⟨o, a⟩ :: tr' ∧ (k a).Emits tr' r

section Emits
variable {tr : List (Event S)}

@[simp] theorem emits_ret {a : α} {r : Except ε α} :
    (ret a : Prog S ε α).Emits tr r ↔ tr = [] ∧ r = .ok a := Iff.rfl

@[simp] theorem emits_throw {e : ε} {r : Except ε α} :
    (throw e : Prog S ε α).Emits tr r ↔ tr = [] ∧ r = .error e := Iff.rfl

theorem emits_call {o : S.Op} {k : S.Answer o → Prog S ε α} {r : Except ε α} :
    (call o k).Emits tr r ↔ ∃ a tr', tr = ⟨o, a⟩ :: tr' ∧ (k a).Emits tr' r := Iff.rfl

theorem emits_ofExcept {x r : Except ε α} :
    (ofExcept x : Prog S ε α).Emits tr r ↔ tr = [] ∧ r = x := by
  cases x <;> rfl

theorem emits_perform_bind {o : S.Op} {f : S.Answer o → Prog S ε α} {r : Except ε α} :
    ((perform o : Prog S ε _) >>= f).Emits tr r ↔
      ∃ a tr', tr = ⟨o, a⟩ :: tr' ∧ (f a).Emits tr' r := Iff.rfl

/-- A sequence emits the trace of its first part, followed by the second part's if the first one
    returned. -/
theorem emits_bind {p : Prog S ε α} {f : α → Prog S ε β} {r : Except ε β} :
    (p >>= f).Emits tr r ↔
      (∃ a tr₁ tr₂, tr = tr₁ ++ tr₂ ∧ p.Emits tr₁ (.ok a) ∧ (f a).Emits tr₂ r) ∨
      (∃ e, p.Emits tr (.error e) ∧ r = .error e) := by
  induction p generalizing tr with
  | ret a =>
    constructor
    · intro h
      exact .inl ⟨a, [], tr, rfl, ⟨rfl, rfl⟩, h⟩
    · rintro (⟨b, tr₁, tr₂, rfl, ⟨rfl, hb⟩, h⟩ | ⟨e, ⟨-, he⟩, -⟩)
      · cases hb
        exact h
      · cases he
  | throw e =>
    constructor
    · rintro ⟨rfl, rfl⟩
      exact .inr ⟨e, ⟨rfl, rfl⟩, rfl⟩
    · rintro (⟨b, tr₁, tr₂, -, ⟨-, hb⟩, -⟩ | ⟨e', ⟨rfl, he⟩, rfl⟩)
      · cases hb
      · cases he
        exact ⟨rfl, rfl⟩
  | call o k ih =>
    rw [call_bind, emits_call]
    constructor
    · rintro ⟨a, tr', rfl, h⟩
      rcases (ih a).mp h with ⟨b, tr₁, tr₂, rfl, hp, hf⟩ | ⟨e, hp, rfl⟩
      · exact .inl ⟨b, _ :: tr₁, tr₂, rfl, ⟨a, tr₁, rfl, hp⟩, hf⟩
      · exact .inr ⟨e, ⟨a, tr', rfl, hp⟩, rfl⟩
    · rintro (⟨b, tr₁, tr₂, rfl, ⟨a, tr', rfl, hp⟩, hf⟩ | ⟨e, ⟨a, tr', rfl, hp⟩, rfl⟩)
      · exact ⟨a, tr' ++ tr₂, rfl, (ih a).mpr (.inl ⟨b, tr', tr₂, rfl, hp, hf⟩)⟩
      · exact ⟨a, tr', rfl, (ih a).mpr (.inr ⟨e, hp, rfl⟩)⟩

theorem emits_attempt {p : Prog S ε α} {r : Except ε' (Except ε α)} :
    (p.attempt : Prog S ε' _).Emits tr r ↔ ∃ x, r = .ok x ∧ p.Emits tr x := by
  induction p generalizing tr with
  | ret a =>
    constructor
    · rintro ⟨rfl, rfl⟩
      exact ⟨_, rfl, rfl, rfl⟩
    · rintro ⟨x, rfl, rfl, rfl⟩
      exact ⟨rfl, rfl⟩
  | throw e =>
    constructor
    · rintro ⟨rfl, rfl⟩
      exact ⟨_, rfl, rfl, rfl⟩
    · rintro ⟨x, rfl, rfl, rfl⟩
      exact ⟨rfl, rfl⟩
  | call o k ih =>
    constructor
    · rintro ⟨a, tr', rfl, h⟩
      obtain ⟨x, rfl, hx⟩ := (ih a).mp h
      exact ⟨x, rfl, a, tr', rfl, hx⟩
    · rintro ⟨x, rfl, a, tr', rfl, hx⟩
      exact ⟨a, tr', rfl, (ih a).mpr ⟨x, rfl, hx⟩⟩

/-- A `try` statement: the guarded part runs to some outcome, and the clauses go on from it. -/
theorem emits_attempt_bind {p : Prog S ε α} {f : Except ε α → Prog S ε' β} {r : Except ε' β} :
    (p.attempt >>= f).Emits tr r ↔
      ∃ x tr₁ tr₂, tr = tr₁ ++ tr₂ ∧ p.Emits tr₁ x ∧ (f x).Emits tr₂ r := by
  rw [emits_bind]
  simp only [emits_attempt]
  constructor
  · rintro (⟨x, tr₁, tr₂, rfl, ⟨y, hy, hp⟩, hf⟩ | ⟨e, ⟨y, hy, -⟩, -⟩)
    · cases hy
      exact ⟨x, tr₁, tr₂, rfl, hp, hf⟩
    · cases hy
  · rintro ⟨x, tr₁, tr₂, rfl, hp, hf⟩
    exact .inl ⟨x, tr₁, tr₂, rfl, ⟨x, rfl, hp⟩, hf⟩

end Emits

/-! ## 3. What holds whatever the answers -/

/-- Whatever the answers, every operation of `p` satisfies `P` and its outcome satisfies `Q`. -/
def Always (P : S.Op → Prop) (Q : Except ε α → Prop) : Prog S ε α → Prop
  | .ret a => Q (.ok a)
  | .throw e => Q (.error e)
  | .call o k => P o ∧ ∀ a, (k a).Always P Q

/-- `p` performs operations of one class only. -/
abbrev Only (P : S.Op → Prop) (p : Prog S ε α) : Prop := p.Always P fun _ => True

section Always
variable {P P' : S.Op → Prop} {Q Q' : Except ε α → Prop}

@[simp] theorem always_ret {a : α} : (ret a : Prog S ε α).Always P Q ↔ Q (.ok a) := Iff.rfl
@[simp] theorem always_throw {e : ε} : (throw e : Prog S ε α).Always P Q ↔ Q (.error e) := Iff.rfl
@[simp] theorem always_call {o : S.Op} {k : S.Answer o → Prog S ε α} :
    (call o k).Always P Q ↔ P o ∧ ∀ a, (k a).Always P Q := Iff.rfl
@[simp] theorem always_perform {o : S.Op} {Q : Except ε (S.Answer o) → Prop} :
    (perform o : Prog S ε _).Always P Q ↔ P o ∧ ∀ a, Q (.ok a) := Iff.rfl
@[simp] theorem always_ofExcept {x : Except ε α} :
    (ofExcept x : Prog S ε α).Always P Q ↔ Q x := by
  cases x <;> rfl

theorem Always.bind {p : Prog S ε β} {f : β → Prog S ε α} {R : Except ε β → Prop}
    (hp : p.Always P R) (hok : ∀ b, R (.ok b) → (f b).Always P Q)
    (herr : ∀ e, R (.error e) → Q (.error e)) : (p >>= f).Always P Q := by
  induction p with
  | ret b => exact hok b hp
  | throw e => exact herr e hp
  | call o k ih => exact ⟨hp.1, fun a => ih a (hp.2 a)⟩

theorem always_perform_bind {o : S.Op} {f : S.Answer o → Prog S ε α} :
    ((perform o : Prog S ε _) >>= f).Always P Q ↔ P o ∧ ∀ a, (f a).Always P Q := Iff.rfl

theorem Always.attempt {p : Prog S ε α} {Q : Except ε' (Except ε α) → Prop}
    (hp : p.Always P fun x => Q (.ok x)) : (p.attempt : Prog S ε' _).Always P Q := by
  induction p with
  | ret a => exact hp
  | throw e => exact hp
  | call o k ih => exact ⟨hp.1, fun a => ih a (hp.2 a)⟩

theorem Always.mono {p : Prog S ε α} (hp : p.Always P Q) (hP : ∀ o, P o → P' o)
    (hQ : ∀ r, Q r → Q' r) : p.Always P' Q' := by
  induction p with
  | ret a => exact hQ _ hp
  | throw e => exact hQ _ hp
  | call o k ih => exact ⟨hP o hp.1, fun a => ih a (hp.2 a)⟩

theorem Always.only {p : Prog S ε α} (hp : p.Always P Q) : p.Only P :=
  hp.mono (fun _ h => h) fun _ _ => trivial

theorem Only.bind {p : Prog S ε β} {f : β → Prog S ε α} (hp : p.Only P)
    (hf : ∀ b, (f b).Only P) : (p >>= f).Only P :=
  Always.bind hp (fun b _ => hf b) fun _ _ => trivial

theorem Only.attempt {p : Prog S ε α} (hp : p.Only P) : (p.attempt : Prog S ε' _).Only P :=
  Always.attempt hp

theorem Only.mono {p : Prog S ε α} (hp : p.Only P) (h : ∀ o, P o → P' o) : p.Only P' :=
  Always.mono hp h fun _ h => h

theorem Always.events {p : Prog S ε α} (hp : p.Always P Q) {tr : List (Event S)}
    {r : Except ε α} (h : p.Emits tr r) : ∀ ev ∈ tr, P ev.op := by
  induction p generalizing tr with
  | ret a => simp [h.1]
  | throw e => simp [h.1]
  | call o k ih =>
    obtain ⟨a, tr', rfl, h⟩ := h
    simp only [List.mem_cons, forall_eq_or_imp]
    exact ⟨hp.1, ih a (hp.2 a) h⟩

theorem Always.result {p : Prog S ε α} (hp : p.Always P Q) {tr : List (Event S)}
    {r : Except ε α} (h : p.Emits tr r) : Q r := by
  induction p generalizing tr with
  | ret a =>
    rw [h.2]
    exact hp
  | throw e =>
    rw [h.2]
    exact hp
  | call o k ih =>
    obtain ⟨a, tr', -, h⟩ := h
    exact ih a (hp.2 a) h

end Always

/-! ## 4. Deterministic runs -/

variable {σ : Type}

/-- Run `p` against a handler that answers every operation. -/
def exec (h : (o : S.Op) → σ → S.Answer o × σ) :
    Prog S ε α → σ → List (Event S) × σ × Except ε α
  | .ret a, s => ([], s, .ok a)
  | .throw e, s => ([], s, .error e)
  | .call o k, s =>
      let out := (k (h o s).1).exec h (h o s).2
      (⟨o, (h o s).1⟩ :: out.1, out.2)

theorem exec_emits (h : (o : S.Op) → σ → S.Answer o × σ) (p : Prog S ε α) (s : σ) :
    p.Emits (p.exec h s).1 (p.exec h s).2.2 := by
  induction p generalizing s with
  | ret a => exact ⟨rfl, rfl⟩
  | throw e => exact ⟨rfl, rfl⟩
  | call o k ih => exact ⟨(h o s).1, _, rfl, ih _ _⟩

/-- A run contains the handler's answers only. -/
theorem exec_answer {h : (o : S.Op) → σ → S.Answer o × σ} {p : Prog S ε α} {s : σ} {ev : Event S}
    (hev : ev ∈ (p.exec h s).1) : ∃ s', ev.answer = (h ev.op s').1 := by
  induction p generalizing s with
  | ret a => exact absurd hev List.not_mem_nil
  | throw e => exact absurd hev List.not_mem_nil
  | call o k ih =>
    rcases List.mem_cons.mp hev with rfl | hev
    · exact ⟨s, rfl⟩
    · exact ih _ hev

section Replay
variable [∀ o, Nonempty (S.Answer o)]

open Classical in
/-- The handler that answers as a given trace does. -/
noncomputable def replaying (o : S.Op) : List (Event S) → S.Answer o × List (Event S)
  | [] => (Classical.choice inferInstance, [])
  | ev :: rest =>
    if h : ev.op = o then (h ▸ ev.answer, rest) else (Classical.choice inferInstance, rest)

/-- Every trace a program emits is one of its runs. -/
theorem Emits.exec_replaying {p : Prog S ε α} {tr : List (Event S)} {r : Except ε α}
    (h : p.Emits tr r) : (p.exec replaying tr).1 = tr ∧ (p.exec replaying tr).2.2 = r := by
  induction p generalizing tr with
  | ret a => exact ⟨h.1.symm, h.2.symm⟩
  | throw e => exact ⟨h.1.symm, h.2.symm⟩
  | call o k ih =>
    obtain ⟨a, tr', rfl, h⟩ := h
    have hanswer : replaying o (⟨o, a⟩ :: tr') = (a, tr') := dif_pos rfl
    rw [exec, hanswer]
    exact ⟨congrArg (List.cons _) (ih a h).1, (ih a h).2⟩

end Replay

end Prog

end JibitSdk.Reasoning
