import Mathlib.Algebra.Order.Ring.Nat
import Mathlib.Data.List.Lex
import Mathlib.Tactic.Common

/-!
# First differences

Two words of one length are ordered by the first place where they differ, and so are the numbers
that two digit sequences of one length stand for.
-/

namespace JibitSdk.Reasoning

/-! ## 1. The first difference -/

section Words

variable {α : Type} [DecidableEq α] {s s' t t' : List α} {a b : α}

/-- The entries at the first place where two words differ. -/
def firstDifference : List α → List α → Option (α × α)
  | a :: s, b :: t => if a = b then firstDifference s t else some (a, b)
  | _, _ => none

theorem firstDifference_cons_same (s t : List α) :
    firstDifference (a :: s) (a :: t) = firstDifference s t :=
  if_pos rfl

theorem firstDifference_cons_ne (h : a ≠ b) (s t : List α) :
    firstDifference (a :: s) (b :: t) = some (a, b) :=
  if_neg h

theorem firstDifference_self (s : List α) : firstDifference s s = none := by
  induction s with
  | nil => rfl
  | cons a s ih => rw [firstDifference_cons_same, ih]

theorem firstDifference_append (h : s.length = s'.length) (t t' : List α) :
    firstDifference (s ++ t) (s' ++ t') = (firstDifference s s').or (firstDifference t t') := by
  induction s generalizing s' with
  | nil =>
    rw [List.length_eq_zero_iff.mp h.symm]
    rfl
  | cons a s ih =>
    obtain ⟨b, s', rfl⟩ := List.exists_cons_of_length_eq_add_one h.symm
    rw [List.cons_append, List.cons_append]
    by_cases hab : a = b
    · subst hab
      rw [firstDifference_cons_same, firstDifference_cons_same, ih (by simpa using h)]
    · rw [firstDifference_cons_ne hab, firstDifference_cons_ne hab]
      rfl

theorem firstDifference_eq_none_iff (h : s.length = t.length) :
    firstDifference s t = none ↔ s = t := by
  constructor
  · intro hnone
    induction s generalizing t with
    | nil => exact (List.length_eq_zero_iff.mp h.symm).symm
    | cons a s ih =>
      obtain ⟨b, t, rfl⟩ := List.exists_cons_of_length_eq_add_one h.symm
      by_cases hab : a = b
      · subst hab
        rw [firstDifference_cons_same] at hnone
        rw [ih (by simpa using h) hnone]
      · rw [firstDifference_cons_ne hab] at hnone
        cases hnone
  · intro heq
    rw [heq, firstDifference_self]

/-- The entries differ, and each belongs to its word. -/
theorem firstDifference_spec (h : firstDifference s t = some (a, b)) : a ≠ b ∧ a ∈ s ∧ b ∈ t := by
  induction s generalizing t with
  | nil => cases h
  | cons c s ih =>
    cases t with
    | nil => cases h
    | cons d t =>
      by_cases hcd : c = d
      · subst hcd
        rw [firstDifference_cons_same] at h
        have hrest := ih h
        exact ⟨hrest.1, List.mem_cons_of_mem c hrest.2.1, List.mem_cons_of_mem c hrest.2.2⟩
      · rw [firstDifference_cons_ne hcd] at h
        cases h
        exact ⟨hcd, List.mem_cons_self, List.mem_cons_self⟩

/-- The first difference stays first under a map that keeps it. -/
theorem firstDifference_map {β : Type} [DecidableEq β] (f : α → β)
    (h : firstDifference s t = some (a, b)) (hf : f a ≠ f b) :
    firstDifference (s.map f) (t.map f) = some (f a, f b) := by
  induction s generalizing t with
  | nil => cases h
  | cons c s ih =>
    cases t with
    | nil => cases h
    | cons d t =>
      rw [List.map_cons, List.map_cons]
      by_cases hcd : c = d
      · subst hcd
        rw [firstDifference_cons_same] at h
        rw [firstDifference_cons_same, ih h]
      · rw [firstDifference_cons_ne hcd] at h
        cases h
        exact firstDifference_cons_ne hf _ _

end Words

/-! ## 2. The order it decides -/

section Order

variable {α : Type} [LinearOrder α] {s s' t t' : List α}

/-- The first word has the lesser entry at the first difference. -/
def FirstLess (s t : List α) : Prop := ∃ a b, firstDifference s t = some (a, b) ∧ a < b

theorem firstLess_of_eq {a b : α} (h : firstDifference s t = some (a, b)) :
    FirstLess s t ↔ a < b := by
  constructor
  · rintro ⟨c, d, hcd, hlt⟩
    cases h.symm.trans hcd
    exact hlt
  · intro hlt
    exact ⟨a, b, h, hlt⟩

theorem not_firstLess_self (s : List α) : ¬ FirstLess s s := by
  rintro ⟨a, b, h, -⟩
  rw [firstDifference_self] at h
  cases h

theorem firstLess_append_iff (h : s.length = s'.length) (t t' : List α) :
    FirstLess (s ++ t) (s' ++ t') ↔ FirstLess s s' ∨ s = s' ∧ FirstLess t t' := by
  unfold FirstLess
  rw [firstDifference_append h]
  cases hfirst : firstDifference s s' with
  | none =>
    have heq := (firstDifference_eq_none_iff h).mp hfirst
    simp [heq]
  | some p =>
    have hne : s ≠ s' := by
      intro heq
      rw [(firstDifference_eq_none_iff h).mpr heq] at hfirst
      cases hfirst
    simp [hne]

theorem firstLess_cons_iff {a b : α} :
    FirstLess (a :: s) (b :: t) ↔ a < b ∨ a = b ∧ FirstLess s t := by
  by_cases hab : a = b
  · subst hab
    unfold FirstLess
    rw [firstDifference_cons_same]
    simp
  · rw [firstLess_of_eq (firstDifference_cons_ne hab s t)]
    simp [hab]

/-- On words of one length this is the lexicographic order. -/
theorem lt_iff_firstLess (h : s.length = t.length) : s < t ↔ FirstLess s t := by
  induction s generalizing t with
  | nil =>
    rw [List.length_eq_zero_iff.mp h.symm]
    exact iff_of_false (List.lt_irrefl []) (not_firstLess_self [])
  | cons a s ih =>
    obtain ⟨b, t, rfl⟩ := List.exists_cons_of_length_eq_add_one h.symm
    rw [List.cons_lt_cons_iff, ih (by simpa using h), firstLess_cons_iff]

end Order

/-! ## 3. Numerals -/

variable {base : ℕ} {ds es : List ℕ}

/-- The number a digit sequence stands for, the leading digit first. -/
def numeral (base : ℕ) : List ℕ → ℕ
  | [] => 0
  | d :: ds => d * base ^ ds.length + numeral base ds

theorem numeral_lt (hds : ∀ d ∈ ds, d < base) : numeral base ds < base ^ ds.length := by
  induction ds with
  | nil => exact Nat.one_pos
  | cons d ds ih =>
    have hrest := ih fun e he => hds e (List.mem_cons_of_mem d he)
    have hdigit : d + 1 ≤ base := hds d List.mem_cons_self
    have hblock : (d + 1) * base ^ ds.length ≤ base * base ^ ds.length :=
      Nat.mul_le_mul_right _ hdigit
    rw [Nat.add_mul, Nat.one_mul] at hblock
    rw [numeral, List.length_cons, Nat.pow_succ, Nat.mul_comm _ base]
    omega

/-- Two-part numbers with a bounded lower part are ordered by the higher part first. -/
theorem blocks_lt_iff {d e m n size : ℕ} (hm : m < size) (hn : n < size) :
    d * size + m < e * size + n ↔ d < e ∨ d = e ∧ m < n := by
  rcases Nat.lt_trichotomy d e with h | h | h
  · have hblock : (d + 1) * size ≤ e * size := Nat.mul_le_mul_right _ h
    rw [Nat.add_mul, Nat.one_mul] at hblock
    simp only [h, true_or, iff_true]
    omega
  · subst h
    simp
  · have hblock : (e + 1) * size ≤ d * size := Nat.mul_le_mul_right _ h
    rw [Nat.add_mul, Nat.one_mul] at hblock
    have hlt : ¬ d < e := by omega
    have hne : d ≠ e := by omega
    simp only [hlt, hne, false_and, or_false, iff_false]
    omega

theorem blocks_inj {d e m n size : ℕ} (hm : m < size) (hn : n < size)
    (h : d * size + m = e * size + n) : d = e ∧ m = n := by
  have hlt : ¬ (d < e ∨ d = e ∧ m < n) := (blocks_lt_iff hm hn).not.mp (by omega)
  have hgt : ¬ (e < d ∨ e = d ∧ n < m) := (blocks_lt_iff hn hm).not.mp (by omega)
  omega

/-- Fixed-width numerals are ordered by their first difference. -/
theorem numeral_lt_iff (hlength : ds.length = es.length) (hds : ∀ d ∈ ds, d < base)
    (hes : ∀ e ∈ es, e < base) : numeral base ds < numeral base es ↔ FirstLess ds es := by
  induction ds generalizing es with
  | nil =>
    rw [List.length_eq_zero_iff.mp hlength.symm]
    exact iff_of_false (Nat.lt_irrefl _) (not_firstLess_self [])
  | cons d ds ih =>
    obtain ⟨e, es, rfl⟩ := List.exists_cons_of_length_eq_add_one hlength.symm
    have hlength' : ds.length = es.length := by simpa using hlength
    have hds' : ∀ d ∈ ds, d < base := fun c hc => hds c (List.mem_cons_of_mem d hc)
    have hes' : ∀ e ∈ es, e < base := fun c hc => hes c (List.mem_cons_of_mem e hc)
    have hm := numeral_lt hds'
    have hn := numeral_lt hes'
    rw [hlength'] at hm
    rw [numeral, numeral, hlength', blocks_lt_iff hm hn, ih hlength' hds' hes', firstLess_cons_iff]

theorem numeral_inj (hlength : ds.length = es.length) (hds : ∀ d ∈ ds, d < base)
    (hes : ∀ e ∈ es, e < base) (h : numeral base ds = numeral base es) : ds = es := by
  induction ds generalizing es with
  | nil => exact (List.length_eq_zero_iff.mp hlength.symm).symm
  | cons d ds ih =>
    obtain ⟨e, es, rfl⟩ := List.exists_cons_of_length_eq_add_one hlength.symm
    have hlength' : ds.length = es.length := by simpa using hlength
    have hds' : ∀ d ∈ ds, d < base := fun c hc => hds c (List.mem_cons_of_mem d hc)
    have hes' : ∀ e ∈ es, e < base := fun c hc => hes c (List.mem_cons_of_mem e hc)
    have hm := numeral_lt hds'
    have hn := numeral_lt hes'
    rw [hlength'] at hm
    rw [numeral, numeral, hlength'] at h
    have hblocks := blocks_inj hm hn h
    rw [hblocks.1, ih hlength' hds' hes' hblocks.2]

end JibitSdk.Reasoning
