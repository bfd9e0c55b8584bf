import JibitSdk.Reasoning.Budget
import Mathlib.Algebra.Order.Group.Defs
import Mathlib.Algebra.Order.Group.Unbundled.Basic
import Mathlib.Logic.Function.Basic
import Mathlib.Tactic.Abel
import Mathlib.Tactic.GCongr

/-!
# Leases

Programs run side by side and time passes between their operations.  A lease is granted to one
program at a time and ends by itself after its lifetime.  Programs whose leased sections cannot
outlast the lifetime exclude each other: time cannot pass beyond what an operation may take, so no
lease ends before its holder has given it back.
-/

namespace JibitSdk.Reasoning

/-! ## 1. Programs in time -/

/-- The time, the programs with the times of their last operations, and what they share. -/
structure Clocked (S : Signature) (ε α ι σ T : Type) where
  now : T
  since : ι → T
  progs : ι → Prog S ε α
  shared : σ

/-- What operations answer and leave, and how long they may take.  Both depend on who performs them,
    and on the time that went by since its last operation. -/
structure TimedMachine (S : Signature) (ι σ T : Type) where
  step : ι → (now elapsed : T) → (o : S.Op) → σ → S.Answer o → σ → Prop
  mayTake : ι → S.Op → σ → T → Prop

section Timed
variable {S : Signature} {ε α ι σ T : Type} [DecidableEq ι] [LE T] [Sub T]

/-- The configuration in which `i` has just performed an operation, goes on as `p`, and left `s`. -/
def Clocked.turn (c : Clocked S ε α ι σ T) (i : ι) (p : Prog S ε α) (s : σ) :
    Clocked S ε α ι σ T where
  now := c.now
  since := Function.update c.since i c.now
  progs := Function.update c.progs i p
  shared := s

section Turn
omit [LE T] [Sub T]
variable {c : Clocked S ε α ι σ T} {i j : ι} {p : Prog S ε α} {s : σ}

@[simp] theorem turn_since_self : (c.turn i p s).since i = c.now := Function.update_self ..

@[simp] theorem turn_progs_self : (c.turn i p s).progs i = p := Function.update_self ..

theorem turn_since_of_ne (h : j ≠ i) : (c.turn i p s).since j = c.since j :=
  Function.update_of_ne h ..

theorem turn_progs_of_ne (h : j ≠ i) : (c.turn i p s).progs j = c.progs j :=
  Function.update_of_ne h ..

end Turn

/-- What can be reached: time passes as long as no operation takes longer than it may, and
    operations are performed in any order. -/
inductive Passes (M : TimedMachine S ι σ T) (c₀ : Clocked S ε α ι σ T) : Clocked S ε α ι σ T → Prop
  | start : Passes M c₀ c₀
  | elapse {c : Clocked S ε α ι σ T} (run : Passes M c₀ c) (t : T) (hle : c.now ≤ t)
      (htakes : ∀ i o k, c.progs i = .call o k → M.mayTake i o c.shared (t - c.since i)) :
      Passes M c₀ { c with now := t }
  | perform {c : Clocked S ε α ι σ T} (run : Passes M c₀ c) {i : ι} {o : S.Op}
      {k : S.Answer o → Prog S ε α} {a : S.Answer o} {s' : σ} (hi : c.progs i = .call o k)
      (hstep : M.step i c.now (c.now - c.since i) o c.shared a s') :
      Passes M c₀ (c.turn i (k a) s')

/-- Let programs take turns while no time passes; a turn is lost on a program that has ended or is
    blocked. -/
def takeTurns (h : ι → T → T → (o : S.Op) → σ → Option (S.Answer o × σ)) :
    List ι → Clocked S ε α ι σ T → Clocked S ε α ι σ T
  | [], c => c
  | i :: rest, c => match c.progs i with
    | .call o k => match h i c.now (c.now - c.since i) o c.shared with
      | some (a, s') => takeTurns h rest (c.turn i (k a) s')
      | none => takeTurns h rest c
    | _ => takeTurns h rest c

theorem takeTurns_passes {M : TimedMachine S ι σ T} {c₀ c : Clocked S ε α ι σ T}
    {h : ι → T → T → (o : S.Op) → σ → Option (S.Answer o × σ)}
    (hM : ∀ i now elapsed o s a s', h i now elapsed o s = some (a, s') →
      M.step i now elapsed o s a s')
    (schedule : List ι) (run : Passes M c₀ c) : Passes M c₀ (takeTurns h schedule c) := by
  induction schedule generalizing c with
  | nil => exact run
  | cons i rest ih =>
    unfold takeTurns
    split
    · rename_i o k hi
      split
      · rename_i a s' hanswer
        exact ih (run.perform hi (hM i c.now _ o c.shared a s' hanswer))
      · exact ih run
    · exact ih run

end Timed

/-! ## 2. Leases -/

/-- Which answers grant a lease of what name, which operations give the lease back, and how long an
    operation takes at most. -/
structure Leasing (S : Signature) (ι N T : Type) where
  grants : (o : S.Op) → S.Answer o → Option N
  givesBack : S.Op → Bool
  takes : ι → S.Op → T
  lifetime : T

/-- What a program knows of the lease it was granted: its name, the time, how much longer than
    planned operations may still take, and what was performed since. -/
structure Holding (S : Signature) (N T : Type) where
  name : N
  granted : T
  spare : T
  performed : List S.Op

/-- Who was granted each lease last, until it is given back, and what each program holds. -/
structure Leases (S : Signature) (ι N T : Type) where
  lease : N → Option (ι × T)
  held : ι → Option (Holding S N T)

namespace Leasing

variable {S : Signature} {ε ε' α β ι N T : Type} [AddCommGroup T] [LinearOrder T]

/-- One operation inside a leased section: what it took beyond its time is no longer to spare. -/
def inside (L : Leasing S ι N T) (i : ι) (elapsed : T) (o : S.Op) (h : Holding S N T) :
    Holding S N T :=
  { h with spare := h.spare - max 0 (elapsed - L.takes i o), performed := o :: h.performed }

section Machine
variable [DecidableEq ι] [DecidableEq N]

/-- A lease can be granted once the last one of its name was given back or has ended. -/
def Free (L : Leasing S ι N T) (n : N) (now : T) (s : Leases S ι N T) : Prop :=
  ∀ holder ∈ s.lease n, holder.2 + L.lifetime ≤ now

instance (L : Leasing S ι N T) (n : N) (now : T) (s : Leases S ι N T) :
    Decidable (L.Free n now s) :=
  inferInstanceAs (Decidable (∀ holder ∈ s.lease n, holder.2 + L.lifetime ≤ now))

/-- The lease is granted to `i`. -/
def grant (slack : T) (i : ι) (now : T) (n : N) (s : Leases S ι N T) : Leases S ι N T where
  lease := Function.update s.lease n (some (i, now))
  held := Function.update s.held i (some ⟨n, now, slack, []⟩)

/-- The lease `i` holds is given back, if it is still the last one granted. -/
def giveBack (i : ι) (s : Leases S ι N T) : Leases S ι N T where
  lease n := if (s.held i).any fun h => h.name = n ∧ s.lease n = some (i, h.granted) then none
    else s.lease n
  held := Function.update s.held i none

/-- Any other operation. -/
def work (L : Leasing S ι N T) (i : ι) (elapsed : T) (o : S.Op) (s : Leases S ι N T) :
    Leases S ι N T :=
  { s with held := Function.update s.held i ((s.held i).map (L.inside i elapsed o)) }

/-- What becomes of the leases when `i` is given this answer. -/
def after (L : Leasing S ι N T) (slack : T) (i : ι) (now elapsed : T) (o : S.Op) (a : S.Answer o)
    (s : Leases S ι N T) : Leases S ι N T :=
  match L.grants o a with
  | some n => grant slack i now n s
  | none => if L.givesBack o then giveBack i s else L.work i elapsed o s

/-- The machine of leases.  Inside a leased section an operation lasts no longer than its time and
    what is to spare; outside it lasts as long as it likes.  Everything but a grant may be answered
    in any way. -/
def machine (L : Leasing S ι N T) (slack : T) : TimedMachine S ι (Leases S ι N T) T where
  step i now elapsed o s a s' :=
    (∀ n, L.grants o a = some n → L.Free n now s) ∧ s' = L.after slack i now elapsed o a s
  mayTake i o s elapsed := ∀ h ∈ s.held i, elapsed ≤ L.takes i o + h.spare

end Machine

/-! ## 3. Programs that give their leases back in time -/

/-- `p` asks for a lease only when it holds none, and gives it back within its budget.  The last
    argument says what is left of the budget inside a leased section. -/
def InTime (L : Leasing S ι N T) (i : ι) (budget : T) : Prog S ε α → Option T → Prop
  | .ret _, left => left = none
  | .throw _, left => left = none
  | .call o k, none =>
    ∀ a, L.InTime i budget (k a) (if (L.grants o a).isSome then some budget else none)
  | .call o k, some m =>
    if L.givesBack o then
      L.takes i o ≤ m ∧ ∀ a, L.grants o a = none ∧ L.InTime i budget (k a) none
    else ∃ m', 0 ≤ m' ∧ L.takes i o + m' ≤ m ∧
      ∀ a, L.grants o a = none ∧ L.InTime i budget (k a) (some m')

section Rules
variable {L : Leasing S ι N T} {i : ι} {budget : T}

/-- Programs without leases. -/
def Plain (L : Leasing S ι N T) (o : S.Op) : Prop :=
  L.givesBack o = false ∧ ∀ a, L.grants o a = none

theorem inTime_of_only {p : Prog S ε α} (h : p.Only L.Plain) : L.InTime i budget p none := by
  induction p with
  | ret a => rfl
  | throw e => rfl
  | call o k ih =>
    intro a
    rw [h.1.2 a]
    exact ih a (h.2 a)

theorem InTime.bind {p : Prog S ε α} {f : α → Prog S ε β} {left : Option T}
    (hp : L.InTime i budget p left) (hf : ∀ a, L.InTime i budget (f a) none) :
    L.InTime i budget (p >>= f) left := by
  induction p generalizing left with
  | ret a =>
    rw [show left = none from hp]
    exact hf a
  | throw e => exact hp
  | call o k ih =>
    cases left with
    | none => exact fun a => ih a (hp a)
    | some m =>
      rw [InTime] at hp
      rw [Prog.call_bind, InTime]
      split
      · rename_i hback
        rw [if_pos hback] at hp
        exact ⟨hp.1, fun a => ⟨(hp.2 a).1, ih a (hp.2 a).2⟩⟩
      · rename_i hback
        rw [if_neg hback] at hp
        obtain ⟨m', hm', hle, hk⟩ := hp
        exact ⟨m', hm', hle, fun a => ⟨(hk a).1, ih a (hk a).2⟩⟩

theorem InTime.attempt {p : Prog S ε α} {left : Option T} (hp : L.InTime i budget p left) :
    L.InTime i budget (p.attempt : Prog S ε' _) left := by
  induction p generalizing left with
  | ret a => exact hp
  | throw e => exact hp
  | call o k ih =>
    cases left with
    | none => exact fun a => ih a (hp a)
    | some m =>
      rw [InTime] at hp
      rw [Prog.attempt, InTime]
      split
      · rename_i hback
        rw [if_pos hback] at hp
        exact ⟨hp.1, fun a => ⟨(hp.2 a).1, ih a (hp.2 a).2⟩⟩
      · rename_i hback
        rw [if_neg hback] at hp
        obtain ⟨m', hm', hle, hk⟩ := hp
        exact ⟨m', hm', hle, fun a => ⟨(hk a).1, ih a (hk a).2⟩⟩

variable [IsOrderedAddMonoid T]

/-- A plain program within the budget, then one that gives the lease back at once. -/
theorem InTime.section {p : Prog S ε α} {f : Except ε α → Prog S ε' β} {m : T}
    [∀ o, Nonempty (S.Answer o)] (htakes : ∀ o, 0 ≤ L.takes i o) (hp : p.Only L.Plain)
    (hwithin : p.Within (L.takes i) m)
    (hf : ∀ x m', 0 ≤ m' → L.InTime i budget (f x) (some m')) :
    L.InTime i budget (p.attempt >>= f) (some m) := by
  induction p generalizing m with
  | ret a => exact hf _ m hwithin
  | throw e => exact hf _ m hwithin
  | call o k ih =>
    obtain ⟨m', hle, hk⟩ := hwithin
    have hm' : 0 ≤ m' := (hk (Classical.choice inferInstance)).nonneg htakes
    rw [Prog.attempt, Prog.call_bind, InTime, if_neg (by rw [hp.1.1]; exact Bool.false_ne_true)]
    exact ⟨m', hm', hle, fun a => ⟨hp.1.2 a, ih a (hp.2 a) (hk a)⟩⟩

end Rules

/-! ## 4. Exclusion -/

section Exclusion
variable [DecidableEq ι] [DecidableEq N] [IsOrderedAddMonoid T]
  {L : Leasing S ι N T} {slack : T} {budget : ι → T} {c c₀ : Clocked S ε α ι (Leases S ι N T) T}

/-- Whoever holds a lease was the last one it was granted to, and will give it back by
    `granted + budget + slack`. -/
structure Held (L : Leasing S ι N T) (slack : T) (budget : ι → T)
    (c : Clocked S ε α ι (Leases S ι N T) T) (i : ι) (h : Holding S N T) : Prop where
  last : c.shared.lease h.name = some (i, h.granted)
  due : c.now ≤ h.granted + (budget i + slack)
  left : ∃ m, L.InTime i (budget i) (c.progs i) (some m) ∧
    c.since i + m + h.spare ≤ h.granted + (budget i + slack)

/-- What is kept as time passes and operations are performed. -/
structure Orderly (L : Leasing S ι N T) (slack : T) (budget : ι → T)
    (c : Clocked S ε α ι (Leases S ι N T) T) : Prop where
  outside : ∀ i, c.shared.held i = none → L.InTime i (budget i) (c.progs i) none
  inside : ∀ i h, c.shared.held i = some h → L.Held slack budget c i h

omit [DecidableEq ι] [DecidableEq N] in
/-- The operation a holder is about to perform fits into what is left. -/
theorem InTime.takes_le {i : ι} {b m : T} {p : Prog S ε α} (h : L.InTime i b p (some m)) :
    ∃ o k, p = .call o k ∧ L.takes i o ≤ m := by
  cases p with
  | ret a => exact nomatch h
  | throw e => exact nomatch h
  | call o k =>
    refine ⟨o, k, rfl, ?_⟩
    rw [InTime] at h
    split at h
    · exact h.1
    · obtain ⟨m', hm', hle, -⟩ := h
      exact (le_add_of_nonneg_right hm').trans hle

/-- No time beyond what the holders may take. -/
theorem Orderly.elapse (h : L.Orderly slack budget c) {t : T}
    (htakes : ∀ i o k, c.progs i = .call o k →
      (L.machine slack).mayTake i o c.shared (t - c.since i)) :
    L.Orderly slack budget { c with now := t } where
  outside := h.outside
  inside := by
    intro i hold hheld
    obtain ⟨hlast, -, m, hleft, hbound⟩ := h.inside i hold hheld
    obtain ⟨o, k, hprog, htime⟩ := hleft.takes_le
    have helapsed : t - c.since i ≤ L.takes i o + hold.spare := htakes i o k hprog hold hheld
    refine ⟨hlast, ?_, m, hleft, hbound⟩
    calc t ≤ L.takes i o + hold.spare + c.since i := sub_le_iff_le_add.mp helapsed
      _ = c.since i + L.takes i o + hold.spare := by abel
      _ ≤ c.since i + m + hold.spare :=
        add_le_add_left (add_le_add_right htime _) _
      _ ≤ hold.granted + (budget i + slack) := hbound

omit [DecidableEq N] [IsOrderedAddMonoid T] in
/-- What an operation of another program leaves to a holder. -/
theorem Held.frame {i j : ι} {hold : Holding S N T} {p : Prog S ε α} {s' : Leases S ι N T}
    (hj : j ≠ i) (h : L.Held slack budget c j hold)
    (hlease : s'.lease hold.name = c.shared.lease hold.name) :
    L.Held slack budget (c.turn i p s') j hold := by
  obtain ⟨hlast, hdue, m, hleft, hbound⟩ := h
  refine ⟨hlease.trans hlast, hdue, m, ?_, ?_⟩
  · rw [turn_progs_of_ne hj]
    exact hleft
  · rw [turn_since_of_ne hj]
    exact hbound

omit [DecidableEq ι] [DecidableEq N] in
/-- Whoever holds a lease keeps others from it. -/
theorem Held.not_free {i : ι} {hold : Holding S N T} (hfits : budget i + slack < L.lifetime)
    (h : L.Held slack budget c i hold) : ¬ L.Free hold.name c.now c.shared := by
  intro hfree
  have hended : hold.granted + L.lifetime ≤ c.now := hfree (i, hold.granted) h.last
  have hdue : c.now < hold.granted + L.lifetime := h.due.trans_lt (add_lt_add_right hfits _)
  exact absurd hended (not_le.mpr hdue)

omit [DecidableEq ι] [DecidableEq N] [IsOrderedAddMonoid T] in
/-- A program that is granted a lease held none. -/
theorem InTime.not_granted {i : ι} {b m : T} {o : S.Op} {k : S.Answer o → Prog S ε α}
    (h : L.InTime i b (.call o k) (some m)) (a : S.Answer o) : L.grants o a = none := by
  rw [InTime] at h
  split at h
  · exact (h.2 a).1
  · obtain ⟨m', -, -, hk⟩ := h
    exact (hk a).1

/-- Every operation keeps order. -/
theorem Orderly.perform (hslack : 0 ≤ slack) (hbudget : ∀ i, 0 ≤ budget i)
    (hfits : ∀ i, budget i + slack < L.lifetime) (h : L.Orderly slack budget c) {i : ι} {o : S.Op}
    {k : S.Answer o → Prog S ε α} {a : S.Answer o} (hi : c.progs i = .call o k)
    (hfree : ∀ n, L.grants o a = some n → L.Free n c.now c.shared) :
    L.Orderly slack budget
      (c.turn i (k a) (L.after slack i c.now (c.now - c.since i) o a c.shared)) := by
  have hprog := h.outside i
  rw [hi] at hprog
  -- The programs that did not move: their leases stay, and so do their sections.
  have hothers : ∀ s' : Leases S ι N T, (∀ j, j ≠ i → s'.held j = c.shared.held j) →
      (∀ j hold, j ≠ i → c.shared.held j = some hold →
        s'.lease hold.name = c.shared.lease hold.name) →
      (s'.held i = none → L.InTime i (budget i) (k a) none) →
      (∀ hold, s'.held i = some hold → L.Held slack budget (c.turn i (k a) s') i hold) →
      L.Orderly slack budget (c.turn i (k a) s') := by
    intro s' hheld hlease houtside hinside
    constructor
    · intro j hj
      by_cases hij : j = i
      · subst hij
        rw [turn_progs_self]
        exact houtside hj
      · rw [turn_progs_of_ne hij]
        exact h.outside j ((hheld j hij).symm.trans hj)
    · intro j hold hj
      by_cases hij : j = i
      · subst hij
        exact hinside hold hj
      · have hold' := (hheld j hij).symm.trans hj
        exact (h.inside j hold hold').frame hij (hlease j hold hij hold')
  unfold after
  cases hgrants : L.grants o a with
  | some n =>
    have hnone : c.shared.held i = none := by
      cases hheld : c.shared.held i with
      | none => rfl
      | some hold =>
        obtain ⟨-, -, m, hleft, -⟩ := h.inside i hold hheld
        rw [hi] at hleft
        exact nomatch hgrants.symm.trans (hleft.not_granted a)
    apply hothers
    · exact fun j hj => Function.update_of_ne hj ..
    · intro j hold hj hheld
      have hname : hold.name ≠ n := fun heq =>
        (h.inside j hold hheld).not_free (hfits j) (heq ▸ hfree n hgrants)
      exact Function.update_of_ne hname ..
    · intro hheld
      exact nomatch (Function.update_self i _ c.shared.held).symm.trans hheld
    · intro hold hheld
      cases (Function.update_self i _ c.shared.held).symm.trans hheld
      refine ⟨Function.update_self n .., ?_, budget i, ?_, ?_⟩
      · exact le_add_of_nonneg_right (add_nonneg (hbudget i) hslack)
      · rw [turn_progs_self]
        have hk := hprog hnone a
        rw [hgrants] at hk
        exact hk
      · rw [turn_since_self]
        exact (add_assoc c.now (budget i) slack).le
  | none =>
    have hnext : c.shared.held i = none → L.InTime i (budget i) (k a) none := by
      intro hnone
      have hk := hprog hnone a
      rw [hgrants] at hk
      exact hk
    cases hback : L.givesBack o with
    | true =>
      apply hothers
      · exact fun j hj => Function.update_of_ne hj ..
      · intro j hold hj hheld
        have hlast := (h.inside j hold hheld).last
        refine if_neg fun hown => hj ?_
        obtain ⟨hold', -, hown⟩ := (Option.any_eq_true _ _).mp hown
        have hown' : c.shared.lease hold.name = some (i, hold'.granted) :=
          (of_decide_eq_true hown).2
        exact congrArg Prod.fst (Option.some.inj (hlast.symm.trans hown'))
      · intro _
        cases hheld : c.shared.held i with
        | none => exact hnext hheld
        | some hold =>
          obtain ⟨-, -, m, hleft, -⟩ := h.inside i hold hheld
          rw [hi, InTime, if_pos hback] at hleft
          exact (hleft.2 a).2
      · intro hold hheld
        exact nomatch (Function.update_self i _ c.shared.held).symm.trans hheld
    | false =>
      apply hothers
      · exact fun j hj => Function.update_of_ne hj ..
      · exact fun j hold hj hheld => rfl
      · intro hheld
        exact hnext
          (Option.map_eq_none_iff.mp ((Function.update_self i _ c.shared.held).symm.trans hheld))
      · intro hold hheld
        obtain ⟨before, hbefore, rfl⟩ :=
          Option.map_eq_some_iff.mp ((Function.update_self i _ c.shared.held).symm.trans hheld)
        obtain ⟨hlast, hdue, m, hleft, hbound⟩ := h.inside i before hbefore
        rw [hi, InTime, if_neg (by rw [hback]; exact Bool.false_ne_true)] at hleft
        obtain ⟨m', -, hle, hk⟩ := hleft
        refine ⟨hlast, hdue, m', ?_, ?_⟩
        · rw [turn_progs_self]
          exact (hk a).2
        · rw [turn_since_self]
          -- What the operation took is its own time and what is no longer to spare.
          have hspent : c.now - c.since i ≤
              L.takes i o + max 0 (c.now - c.since i - L.takes i o) := by
            rw [← sub_le_iff_le_add']
            exact le_max_right _ _
          calc c.now + m' + (before.spare - max 0 (c.now - c.since i - L.takes i o))
              = c.since i + (c.now - c.since i) + m' + before.spare -
                  max 0 (c.now - c.since i - L.takes i o) := by abel
            _ ≤ c.since i + (L.takes i o + max 0 (c.now - c.since i - L.takes i o)) + m' +
                  before.spare - max 0 (c.now - c.since i - L.takes i o) := by
              gcongr
            _ = c.since i + (L.takes i o + m') + before.spare := by abel
            _ ≤ c.since i + m + before.spare := by gcongr
            _ ≤ before.granted + (budget i + slack) := hbound

/-- Order is kept in every run. -/
theorem Orderly.passes (hslack : 0 ≤ slack) (hbudget : ∀ i, 0 ≤ budget i)
    (hfits : ∀ i, budget i + slack < L.lifetime) (h₀ : L.Orderly slack budget c₀)
    (run : Passes (L.machine slack) c₀ c) : L.Orderly slack budget c := by
  induction run with
  | start => exact h₀
  | elapse run t hle htakes ih => exact ih.elapse htakes
  | perform run hi hstep ih =>
    obtain ⟨hfree, rfl⟩ := hstep
    exact ih.perform hslack hbudget hfits hi hfree

omit [DecidableEq ι] [DecidableEq N] [IsOrderedAddMonoid T] in
/-- Two programs never hold leases of one name. -/
theorem Orderly.exclusive (h : L.Orderly slack budget c) {i j : ι} {hᵢ hⱼ : Holding S N T}
    (hi : c.shared.held i = some hᵢ) (hj : c.shared.held j = some hⱼ) (hname : hᵢ.name = hⱼ.name) :
    i = j := by
  have hlast := (h.inside i hᵢ hi).last
  rw [hname, (h.inside j hⱼ hj).last] at hlast
  exact (congrArg Prod.fst (Option.some.inj hlast)).symm

end Exclusion

end Leasing

end JibitSdk.Reasoning
