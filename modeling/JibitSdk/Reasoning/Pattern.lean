import Mathlib.Data.List.Basic
import Mathlib.Tactic.Common

/-!
# Backtracking patterns and leftmost substitution

Patterns without captures, over an arbitrary alphabet.  `ends` lists the lengths of the matches at
one place in the order a backtracking matcher tries them, so its head is the match the matcher
reports.  `sub` is the leftmost non-overlapping scan that rewrites every match it selects.
-/

namespace JibitSdk.Reasoning

/-- Patterns.  The look-around forms consume nothing. -/
inductive Pattern (α : Type) where
  | empty
  | one (p : α → Bool)
  | seq (a b : Pattern α)
  | alt (a b : Pattern α)
  | notBehind (p : α → Bool)
  | notAhead (p : α → Bool)
  | ahead (p : α → Bool)
  | notStart
  | boundary (w : α → Bool)

namespace Pattern

variable {α β : Type}

/-- Greedy `a?`. -/
def opt (a : Pattern α) : Pattern α := .alt a .empty

/-- `a{n}`. -/
def times (a : Pattern α) : Nat → Pattern α
  | 0 => .empty
  | n + 1 => .seq a (a.times n)

/-- The characters of a literal, one after the other. -/
def lit [DecidableEq α] : List α → Pattern α
  | [] => .empty
  | c :: cs => .seq (.one fun d => d == c) (lit cs)

/-! ## 1. Matching -/

/-- The character before the rest once `n` characters of `s` are consumed. -/
def before (prev : Option α) (s : List α) (n : Nat) : Option α := (s.take n).getLast?.or prev

/-- Lengths of the matches at the start of `s`, in backtracking order; `prev` is the character
    before. -/
def ends : Pattern α → Option α → List α → List Nat
  | .empty, _, _ => [0]
  | .one _, _, [] => []
  | .one p, _, c :: _ => if p c then [1] else []
  | .seq a b, prev, s =>
      (a.ends prev s).flatMap fun n => (b.ends (before prev s n) (s.drop n)).map (n + ·)
  | .alt a b, prev, s => a.ends prev s ++ b.ends prev s
  | .notBehind p, prev, _ => if prev.any p then [] else [0]
  | .notAhead p, _, s => if s.head?.any p then [] else [0]
  | .ahead p, _, s => if s.head?.any p then [0] else []
  | .notStart, prev, _ => if prev.isSome then [0] else []
  | .boundary w, prev, s => if prev.any w != s.head?.any w then [0] else []

/-- The match a backtracking matcher reports. -/
def first (r : Pattern α) (prev : Option α) (s : List α) : Option Nat := (r.ends prev s).head?

/-! ## 2. Substitution -/

/-- Rewrite every match of a leftmost scan.  `skip` counts the characters still to be dropped
    because the last match covers them. -/
def subFrom (r : Pattern α) (repl : List α → List α) : Nat → Option α → List α → List α
  | 0, prev, [] => if r.first prev [] = some 0 then repl [] else []
  | _ + 1, _, [] => []
  | k + 1, _, c :: s => r.subFrom repl k (some c) s
  | 0, prev, c :: s => match r.first prev (c :: s) with
    | none => c :: r.subFrom repl 0 (some c) s
    | some 0 => repl [] ++ c :: r.subFrom repl 0 (some c) s
    | some (n + 1) => repl ((c :: s).take (n + 1)) ++ r.subFrom repl n (some c) s

/-- `re.sub`. -/
def sub (r : Pattern α) (repl : List α → List α) (s : List α) : List α :=
  r.subFrom repl 0 none s

/-! ## 3. Occurrences -/

/-- A match starts somewhere in `s`; `prev` is the character before. -/
def occursFrom (r : Pattern α) : Option α → List α → Bool
  | prev, [] => (r.first prev []).isSome
  | prev, c :: s => (r.first prev (c :: s)).isSome || r.occursFrom (some c) s

/-- `re.search` finds a match. -/
def occurs (r : Pattern α) (s : List α) : Bool := r.occursFrom none s

/-- A text without a match is left as it is. -/
theorem subFrom_of_not_occurs {r : Pattern α} {prev : Option α} {s : List α}
    (repl : List α → List α) (h : r.occursFrom prev s = false) : r.subFrom repl 0 prev s = s := by
  induction s generalizing prev with
  | nil =>
    rw [occursFrom, Option.isSome_eq_false_iff, Option.isNone_iff_eq_none] at h
    rw [subFrom, h, if_neg nofun]
  | cons c s ih =>
    rw [occursFrom, Bool.or_eq_false_iff, Option.isSome_eq_false_iff,
      Option.isNone_iff_eq_none] at h
    rw [subFrom, h.1]
    exact congrArg (List.cons c) (ih h.2)

/-! ## 4. Weights

What a match must hold, and what its replacement keeps of it, is measured by the number of
characters in a class. -/

section Weight
variable {q : α → Bool}

/-- Every match holds at least `k` characters of the class. -/
def AtLeast (q : α → Bool) (k : Nat) (r : Pattern α) : Prop :=
  ∀ prev s n, n ∈ r.ends prev s → k ≤ (s.take n).countP q

theorem atLeast_zero (r : Pattern α) : AtLeast q 0 r := fun _ _ _ _ => Nat.zero_le _

theorem atLeast_one {p : α → Bool} (h : ∀ c, p c = true → q c = true) :
    AtLeast q 1 (.one p) := by
  intro prev s n hn
  cases s with
  | nil => exact absurd hn List.not_mem_nil
  | cons c s =>
    by_cases hc : p c = true
    · rw [ends, if_pos hc, List.mem_singleton] at hn
      subst hn
      simp [h c hc]
    · rw [ends, if_neg hc] at hn
      exact absurd hn List.not_mem_nil

theorem AtLeast.seq {a b : Pattern α} {i j : Nat} (ha : AtLeast q i a) (hb : AtLeast q j b) :
    AtLeast q (i + j) (.seq a b) := by
  intro prev s n hn
  obtain ⟨k, hk, hn⟩ := List.mem_flatMap.mp hn
  obtain ⟨m, hm, rfl⟩ := List.mem_map.mp hn
  rw [List.take_add, List.countP_append]
  exact Nat.add_le_add (ha prev s k hk) (hb _ _ m hm)

theorem AtLeast.times {a : Pattern α} (ha : AtLeast q 1 a) (n : Nat) : AtLeast q n (a.times n) := by
  induction n with
  | zero => exact atLeast_zero _
  | succ n ih =>
    have hseq := ha.seq ih
    rwa [Nat.add_comm] at hseq

/-- Every replacement weighs less than the match it replaces. -/
def Lightens (q : α → Bool) (r : Pattern α) (repl : List α → List α) : Prop :=
  ∀ prev s n, n ∈ r.ends prev s → (repl (s.take n)).countP q < (s.take n).countP q

theorem first_mem {r : Pattern α} {prev : Option α} {s : List α} {n : Nat}
    (h : r.first prev s = some n) : n ∈ r.ends prev s := List.mem_of_mem_head? h

/-- A scan adds no weight, and takes some off as soon as there is a match. -/
theorem Lightens.subFrom {r : Pattern α} {repl : List α → List α} (hr : Lightens q r repl) (k : Nat)
    (prev : Option α) (s : List α) :
    (r.subFrom repl k prev s).countP q ≤ (s.drop k).countP q ∧
      (k = 0 → r.occursFrom prev s = true → (r.subFrom repl k prev s).countP q < s.countP q) := by
  induction s generalizing k prev with
  | nil =>
    have hnone : r.first prev [] = none := by
      cases hfirst : r.first prev [] with
      | none => rfl
      | some n => exact absurd (hr prev [] n (first_mem hfirst)) (by simp)
    cases k with
    | zero =>
      rw [Pattern.subFrom, hnone, if_neg nofun, occursFrom, hnone]
      exact ⟨Nat.le_refl _, fun _ h => nomatch h⟩
    | succ k => exact ⟨by simp [Pattern.subFrom], fun h => nomatch h⟩
  | cons c s ih =>
    cases k with
    | succ k => exact ⟨(ih k (some c)).1, fun h => nomatch h⟩
    | zero =>
      obtain ⟨hle, hlt⟩ := ih 0 (some c)
      rw [Pattern.subFrom, occursFrom]
      cases hfirst : r.first prev (c :: s) with
      | none =>
        simp only [List.countP_cons, List.drop_zero] at hle ⊢
        refine ⟨by omega, fun _ hoccurs => ?_⟩
        have := hlt rfl (by simpa using hoccurs)
        omega
      | some n =>
        have hmatch := hr prev (c :: s) n (first_mem hfirst)
        cases n with
        | zero => exact absurd hmatch (by simp)
        | succ n =>
          have hrest := (ih n (some c)).1
          have hsplit : (c :: s).countP q =
              ((c :: s).take (n + 1)).countP q + (s.drop n).countP q := by
            rw [← List.countP_append]
            exact congrArg _ (List.take_append_drop (n + 1) (c :: s)).symm
          simp only [List.countP_append, List.drop_zero] at hrest ⊢
          omega

theorem Lightens.sub_le {r : Pattern α} {repl : List α → List α} (hr : Lightens q r repl)
    (s : List α) : (r.sub repl s).countP q ≤ s.countP q := (hr.subFrom 0 none s).1

/-- Such a substitution changes every text with a match. -/
theorem Lightens.sub_lt {r : Pattern α} {repl : List α → List α} (hr : Lightens q r repl)
    {s : List α} (h : r.occurs s = true) : (r.sub repl s).countP q < s.countP q :=
  (hr.subFrom 0 none s).2 rfl h

theorem Lightens.not_occurs {r : Pattern α} {repl : List α → List α} (hr : Lightens q r repl)
    {s : List α} (h : s.countP q ≤ (r.sub repl s).countP q) : r.occurs s = false := by
  by_contra hoccurs
  have := hr.sub_lt (Bool.not_eq_false _ ▸ hoccurs)
  omega

end Weight

end Pattern

end JibitSdk.Reasoning
