import JibitSdk.Reasoning.Program
import Mathlib.Algebra.BigOperators.Group.List.Basic
import Mathlib.Algebra.Order.Monoid.Defs

/-!
# Budgets

Every operation has a cost.  A program stays within a budget when no answers can make the costs of
its operations add up to more.  Costs are taken from any ordered monoid: counts of operations and
upper bounds on durations are two of them.
-/

namespace JibitSdk.Reasoning

variable {S : Signature} {A : Type} [AddCommMonoid A]

/-- The cost of a trace. -/
def traceCost (cost : S.Op → A) (tr : List (Event S)) : A := (tr.map fun ev => cost ev.op).sum

section Cost
variable (cost : S.Op → A)

@[simp] theorem traceCost_nil : traceCost cost [] = 0 := rfl

@[simp] theorem traceCost_cons (ev : Event S) (tr : List (Event S)) :
    traceCost cost (ev :: tr) = cost ev.op + traceCost cost tr := rfl

@[simp] theorem traceCost_append (tr₁ tr₂ : List (Event S)) :
    traceCost cost (tr₁ ++ tr₂) = traceCost cost tr₁ + traceCost cost tr₂ := by
  unfold traceCost
  rw [List.map_append, List.sum_append]

end Cost

namespace Prog

variable [PartialOrder A] {cost : S.Op → A} {ε ε' α β : Type}

/-- Whatever the answers, the operations of `p` cost no more than the budget. -/
def Within (cost : S.Op → A) : Prog S ε α → A → Prop
  | .ret _, n => 0 ≤ n
  | .throw _, n => 0 ≤ n
  | .call o k, n => ∃ m, cost o + m ≤ n ∧ ∀ a, (k a).Within cost m

variable {n m : A}

@[simp] theorem within_ret {a : α} : (ret a : Prog S ε α).Within cost n ↔ 0 ≤ n := Iff.rfl
@[simp] theorem within_throw {e : ε} : (throw e : Prog S ε α).Within cost n ↔ 0 ≤ n := Iff.rfl

theorem within_ofExcept {x : Except ε α} : (ofExcept x : Prog S ε α).Within cost n ↔ 0 ≤ n := by
  cases x <;> rfl

theorem Within.mono {p : Prog S ε α} (h : p.Within cost n) (hle : n ≤ m) : p.Within cost m := by
  cases p with
  | ret a => exact le_trans h hle
  | throw e => exact le_trans h hle
  | call o k =>
    obtain ⟨n', hn, hk⟩ := h
    exact ⟨n', hn.trans hle, hk⟩

theorem Within.attempt {p : Prog S ε α} (h : p.Within cost n) :
    (p.attempt : Prog S ε' _).Within cost n := by
  induction p generalizing n with
  | ret a => exact h
  | throw e => exact h
  | call o k ih =>
    obtain ⟨n', hn, hk⟩ := h
    exact ⟨n', hn, fun a => ih a (hk a)⟩

/-- Operations without cost do not touch the budget. -/
theorem Always.within {P : S.Op → Prop} {Q : Except ε α → Prop} {p : Prog S ε α}
    (h : p.Always P Q) (hfree : ∀ o, P o → cost o = 0) : p.Within cost 0 := by
  induction p with
  | ret a => exact le_refl 0
  | throw e => exact le_refl 0
  | call o k ih =>
    refine ⟨0, ?_, fun a => ih a (h.2 a)⟩
    rw [hfree o h.1, add_zero]

variable [IsOrderedAddMonoid A]

/-- The budgets of the parts of a sequence add up. -/
theorem Within.bind {p : Prog S ε α} {f : α → Prog S ε β} (hp : p.Within cost n) (hm : 0 ≤ m)
    (hf : ∀ a, (f a).Within cost m) : (p >>= f).Within cost (n + m) := by
  induction p generalizing n with
  | ret a => exact (hf a).mono (le_add_of_nonneg_left hp)
  | throw e => exact add_nonneg hp hm
  | call o k ih =>
    obtain ⟨n', hn, hk⟩ := hp
    refine ⟨n' + m, ?_, fun a => ih a (hk a)⟩
    rw [← add_assoc]
    exact add_le_add_left hn m

/-- A budget that suffices is not negative. -/
theorem Within.nonneg [∀ o, Nonempty (S.Answer o)] {p : Prog S ε α} (h : p.Within cost n)
    (hcost : ∀ o, 0 ≤ cost o) : 0 ≤ n := by
  induction p generalizing n with
  | ret a => exact h
  | throw e => exact h
  | call o k ih =>
    obtain ⟨m, hm, hk⟩ := h
    have hrest : 0 ≤ m := ih (Classical.choice inferInstance) (hk _)
    exact (add_nonneg (hcost o) hrest).trans hm

/-- What a program within a budget emits costs no more. -/
theorem Within.emits {p : Prog S ε α} (h : p.Within cost n) {tr : List (Event S)}
    {r : Except ε α} (htr : p.Emits tr r) : traceCost cost tr ≤ n := by
  induction p generalizing n tr with
  | ret a =>
    rw [htr.1]
    exact h
  | throw e =>
    rw [htr.1]
    exact h
  | call o k ih =>
    obtain ⟨m, hm, hk⟩ := h
    obtain ⟨a, tr', rfl, htr⟩ := htr
    rw [traceCost_cons]
    have hrest : traceCost cost tr' ≤ m := ih a (hk a) htr
    calc cost o + traceCost cost tr' ≤ cost o + m := add_le_add_right hrest _
      _ ≤ n := hm

end Prog

end JibitSdk.Reasoning
