import JibitSdk.Reasoning.Lexicographic
import Mathlib.Data.Char

/-!
# Decimal digits

What `\d` matches in the patterns of Pydantic's default engine: the decimal digits of every script.
-/

namespace JibitSdk.Python

open JibitSdk.Reasoning

/-- The decimal digits as Unicode arranges them: for each script a run of ten code
    points from its zero on. -/
structure DigitTable where
  zeros : List ℕ
  apart : zeros.Pairwise fun z z' => z + 10 ≤ z'

namespace DigitTable

variable (table : DigitTable)

/-- The zero of the run a character belongs to. -/
def run (c : Char) : Option ℕ :=
  table.zeros.find? fun z => decide (z ≤ c.toNat ∧ c.toNat < z + 10)

/-- `\d` matches the character. -/
def isDigit (c : Char) : Bool := (table.run c).isSome

/-- The script of a digit, named by its zero. -/
def script (c : Char) : ℕ := (table.run c).getD 0

/-- The value of a digit, as `int` reads it. -/
def value (c : Char) : ℕ := c.toNat - table.script c

/-- The number a text of digits is read as. -/
def number (text : List Char) : ℕ := numeral 10 (text.map table.value)

variable {table} {c d : Char}

theorem script_spec (h : table.isDigit c = true) :
    table.script c ∈ table.zeros ∧ table.script c ≤ c.toNat ∧ c.toNat < table.script c + 10 := by
  obtain ⟨z, hz⟩ := Option.isSome_iff_exists.mp h
  have hscript : table.script c = z := by
    rw [script, hz]
    rfl
  have hrun := List.find?_some hz
  rw [hscript]
  exact ⟨List.mem_of_find?_eq_some hz, of_decide_eq_true hrun⟩

theorem value_lt (h : table.isDigit c = true) : table.value c < 10 := by
  have hc := script_spec h
  unfold value
  omega

theorem zeros_apart {z z' : ℕ} (h : z ∈ table.zeros) (h' : z' ∈ table.zeros) (hlt : z < z') :
    z + 10 ≤ z' := by
  obtain ⟨i, hi, rfl⟩ := List.getElem_of_mem h
  obtain ⟨j, hj, rfl⟩ := List.getElem_of_mem h'
  have hapart := List.pairwise_iff_getElem.mp table.apart
  rcases Nat.lt_trichotomy i j with hij | hij | hij
  · exact hapart i j hi hj hij
  · subst hij
    exact absurd hlt (Nat.lt_irrefl _)
  · have := hapart j i hj hi hij
    omega

/-- Within a script the code points are in the order of the values. -/
theorem lt_iff_value_lt (hc : table.isDigit c = true) (hd : table.isDigit d = true)
    (h : table.script c = table.script d) : c < d ↔ table.value c < table.value d := by
  have hc' := script_spec hc
  have hd' := script_spec hd
  have hlt : c < d ↔ c.toNat < d.toNat := Iff.rfl
  rw [hlt]
  unfold value
  omega

theorem value_ne (hc : table.isDigit c = true) (hd : table.isDigit d = true)
    (h : table.script c = table.script d) (hne : c ≠ d) : table.value c ≠ table.value d := by
  have hc' := script_spec hc
  have hd' := script_spec hd
  have hnat : c.toNat ≠ d.toNat := fun heq => hne (Char.toNat_inj.mp heq)
  unfold value
  omega

/-- Across scripts they are in the order of the scripts. -/
theorem lt_iff_script_lt (hc : table.isDigit c = true) (hd : table.isDigit d = true)
    (h : table.script c ≠ table.script d) : c < d ↔ table.script c < table.script d := by
  have hc' := script_spec hc
  have hd' := script_spec hd
  have hlt : c < d ↔ c.toNat < d.toNat := Iff.rfl
  rw [hlt]
  rcases Nat.lt_or_gt_of_ne h with hless | hless
  · have hgap := zeros_apart hc'.1 hd'.1 hless
    omega
  · have hgap := zeros_apart hd'.1 hc'.1 hless
    omega

/-! ## Fixed-width texts -/

variable {s t : List Char}

theorem values_lt (hs : s.all table.isDigit = true) : ∀ n ∈ s.map table.value, n < 10 := by
  intro n hn
  obtain ⟨c, hc, rfl⟩ := List.mem_map.mp hn
  exact value_lt (List.all_eq_true.mp hs c hc)

theorem length_values (hlength : s.length = t.length) :
    (s.map table.value).length = (t.map table.value).length := by
  rw [List.length_map, List.length_map, hlength]

theorem number_lt_iff (hlength : s.length = t.length) (hs : s.all table.isDigit = true)
    (ht : t.all table.isDigit = true) :
    table.number s < table.number t ↔ FirstLess (s.map table.value) (t.map table.value) :=
  numeral_lt_iff (length_values hlength) (values_lt hs) (values_lt ht)

theorem number_eq_iff (hlength : s.length = t.length) (hs : s.all table.isDigit = true)
    (ht : t.all table.isDigit = true) :
    table.number s = table.number t ↔ s.map table.value = t.map table.value := by
  constructor
  · exact numeral_inj (length_values hlength) (values_lt hs) (values_lt ht)
  · intro heq
    rw [number, number, heq]

/-- The two orders of fixed-width texts of digits: by code points as they are,
    by values as numbers. -/
theorem lt_iff_firstLess_iff (hlength : s.length = t.length) (hs : s.all table.isDigit = true)
    (ht : t.all table.isDigit = true) :
    (s < t ↔ FirstLess (s.map table.value) (t.map table.value)) ↔
      ∀ c d, firstDifference s t = some (c, d) → table.script c ≠ table.script d →
        (table.script c < table.script d ↔ FirstLess (s.map table.value) (t.map table.value)) := by
  rw [lt_iff_firstLess hlength]
  cases hfirst : firstDifference s t with
  | none =>
    rw [(firstDifference_eq_none_iff hlength).mp hfirst]
    constructor
    · intro _ c d h
      cases h
    · intro _
      exact iff_of_false (not_firstLess_self _) (not_firstLess_self _)
  | some p =>
    obtain ⟨c, d⟩ := p
    obtain ⟨hne, hmemc, hmemd⟩ := firstDifference_spec hfirst
    have hc : table.isDigit c = true := List.all_eq_true.mp hs c hmemc
    have hd : table.isDigit d = true := List.all_eq_true.mp ht d hmemd
    rw [firstLess_of_eq hfirst]
    by_cases hscript : table.script c = table.script d
    · -- one script: the values differ here first as well
      have hvalue := value_ne hc hd hscript hne
      have hmapped := firstDifference_map table.value hfirst hvalue
      rw [firstLess_of_eq hmapped, lt_iff_value_lt hc hd hscript]
      constructor
      · intro _ c' d' h hne'
        cases h
        exact absurd hscript hne'
      · intro _
        exact Iff.rfl
    · rw [lt_iff_script_lt hc hd hscript]
      constructor
      · intro h c' d' hcd _
        cases hcd
        exact h
      · intro h
        exact h c d rfl hscript

end DigitTable

end JibitSdk.Python
