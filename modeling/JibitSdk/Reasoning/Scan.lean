import JibitSdk.Reasoning.Pattern

/-!
# Scanning a text part by part

Matches of a sequence from the matches of its parts, and a leftmost scan over a text in two parts:
over a part without a match, and over a part that is a match.
-/

namespace JibitSdk.Reasoning.Pattern

variable {α β : Type}

/-! ## 1. Sequences -/

theorem ends_seq_one_cons (p : α → Bool) (b : Pattern α) (prev : Option α) (c : α) (s : List α) :
    (Pattern.seq (.one p) b).ends prev (c :: s) =
      if p c = true then (b.ends (some c) s).map (1 + ·) else [] := by
  rw [ends, ends]
  by_cases hp : p c = true
  · rw [if_pos hp, if_pos hp, List.flatMap_singleton]
    rfl
  · rw [if_neg hp, if_neg hp]
    rfl

/-- What an empty match in front leaves to the rest. -/
theorem ends_seq_zero {a : Pattern α} (b : Pattern α) {prev : Option α} {s : List α}
    (h : a.ends prev s = [0]) : (Pattern.seq a b).ends prev s = b.ends prev s := by
  rw [ends, h, List.flatMap_singleton]
  show (b.ends prev s).map (0 + ·) = _
  rw [List.map_congr_left fun n _ => Nat.zero_add n, List.map_id']

theorem ends_seq_nil {a : Pattern α} (b : Pattern α) {prev : Option α} {s : List α}
    (h : a.ends prev s = []) : (Pattern.seq a b).ends prev s = [] := by
  rw [ends, h]
  rfl

theorem ends_seq_singleton {a : Pattern α} (b : Pattern α) {prev : Option α} {s : List α} {n : ℕ}
    (h : a.ends prev s = [n]) :
    (Pattern.seq a b).ends prev s = (b.ends (before prev s n) (s.drop n)).map (n + ·) := by
  rw [ends, h, List.flatMap_singleton]

theorem before_add (prev : Option α) (s : List α) (n m : ℕ) :
    before (before prev s n) (s.drop n) m = before prev s (n + m) := by
  unfold before
  rw [List.take_add, List.getLast?_append, Option.or_assoc]

theorem ends_seq_assoc (a b c : Pattern α) (prev : Option α) (s : List α) :
    (Pattern.seq (.seq a b) c).ends prev s = (Pattern.seq a (.seq b c)).ends prev s := by
  rw [ends, ends, ends, List.flatMap_assoc]
  apply List.flatMap_congr
  intro n _
  rw [ends, List.flatMap_map, List.map_flatMap]
  apply List.flatMap_congr
  intro m _
  rw [List.map_map, List.drop_drop, before_add]
  apply List.map_congr_left
  intro k _
  exact Nat.add_assoc n m k

/-- Nothing matches behind a character of the class. -/
theorem ends_notBehind {q : α → Bool} (b : Pattern α) {prev : Option α} {s : List α}
    (h : prev.any q = true) : (Pattern.seq (.notBehind q) b).ends prev s = [] := by
  apply ends_seq_nil
  rw [ends, if_pos h]

theorem ends_notBehind_free {q : α → Bool} (b : Pattern α) {prev : Option α} {s : List α}
    (h : prev.any q = false) :
    (Pattern.seq (.notBehind q) b).ends prev s = b.ends prev s := by
  apply ends_seq_zero
  rw [ends, h]
  rfl

/-- A literal matches where it stands. -/
theorem ends_lit [DecidableEq α] (cs : List α) (prev : Option α) (s : List α) :
    (lit cs).ends prev s = if cs.isPrefixOf s = true then [cs.length] else [] := by
  induction cs generalizing prev s with
  | nil =>
    rw [if_pos (List.isPrefixOf_nil_left)]
    rfl
  | cons d cs ih =>
    cases s with
    | nil => rfl
    | cons c s =>
      rw [lit, ends_seq_one_cons, ih, List.isPrefixOf_cons_cons]
      by_cases hdc : d = c
      · rw [hdc, if_pos (beq_self_eq_true c)]
        by_cases hstarts : cs.isPrefixOf s = true
        · rw [if_pos hstarts, hstarts, beq_self_eq_true c]
          show [1 + cs.length] = [cs.length + 1]
          rw [Nat.add_comm]
        · rw [if_neg hstarts, if_neg (by simp [hstarts])]
          rfl
      · rw [if_neg (by simpa using fun h => hdc h.symm), if_neg (by simp [hdc])]

/-! ## 2. A run of one class -/

section
variable {q : α → Bool}

/-- A run of the class and what follows it. -/
structure Run (q : α → Bool) (run rest : List α) : Prop where
  all : ∀ c ∈ run, q c = true
  stops : rest.head?.any q = false

theorem Run.tail {c : α} {run rest : List α} (h : Run q (c :: run) rest) : Run q run rest :=
  ⟨fun d hd => h.all d (.tail _ hd), h.stops⟩

theorem Run.drop {run rest : List α} (h : Run q run rest) (n : ℕ) : Run q (run.drop n) rest :=
  ⟨fun d hd => h.all d (List.mem_of_mem_drop hd), h.stops⟩

/-- The character before what follows `p`. -/
def after (prev : Option α) : List α → Option α
  | [] => prev
  | c :: p => after (some c) p

/-- Inside a run of the class `b` does not match. -/
def Closes (q : α → Bool) (b : Pattern α) : Prop :=
  ∀ prev c s, prev.any q = true → q c = true → b.ends prev (c :: s) = []

theorem closes_notAhead : Closes q (.notAhead q) := by
  intro prev c s _ hc
  rw [ends, List.head?_cons, Option.any_some, if_pos hc]

theorem closes_boundary {w : α → Bool} (hw : ∀ c, q c = true → w c = true) :
    Closes q (.boundary w) := by
  intro prev c s hprev hc
  cases prev with
  | none => cases hprev
  | some d => rw [ends, List.head?_cons, Option.any_some, Option.any_some, hw c hc, hw d hprev]; rfl

theorem ends_rest_of_run {b : Pattern α} (hb : Closes q b) {run rest : List α} (h : Run q run rest)
    (n : ℕ) {prev : Option α} (hprev : prev.any q = true) :
    (Pattern.seq ((Pattern.one q).times n) b).ends prev (run ++ rest) =
      if run.length = n then (b.ends (after prev run) rest).map (n + ·) else [] := by
  induction n generalizing run prev with
  | zero =>
    rw [ends_seq_zero _ rfl]
    cases run with
    | nil =>
      show b.ends prev rest = (b.ends prev rest).map (0 + ·)
      rw [List.map_congr_left fun n _ => Nat.zero_add n, List.map_id']
    | cons c run => exact hb prev c _ hprev (h.all c (.head _))
  | succ n ih =>
    rw [times, ends_seq_assoc]
    cases run with
    | nil =>
      rw [List.nil_append, if_neg (by simp)]
      cases rest with
      | nil => rfl
      | cons c rest =>
        rw [ends_seq_one_cons]
        have hstops := h.stops
        rw [List.head?_cons, Option.any_some] at hstops
        rw [hstops]
        rfl
    | cons c run =>
      have hc : (some c).any q = true := h.all c (.head _)
      rw [List.cons_append, ends_seq_one_cons, if_pos (h.all c (.head _)), ih h.tail hc]
      by_cases hlength : run.length = n
      · rw [if_pos hlength, if_pos (by rw [List.length_cons, hlength]), List.map_map]
        apply List.map_congr_left
        intro k _
        show 1 + (n + k) = n + 1 + k
        omega
      · rw [if_neg hlength, if_neg (by rw [List.length_cons]; omega)]
        rfl

/-- `n` characters of the class are a whole run, if the rest does not match inside one. -/
theorem ends_run {b : Pattern α} (hb : Closes q b) {run rest : List α} (h : Run q run rest) (n : ℕ)
    (prev : Option α) :
    (Pattern.seq ((Pattern.one q).times (n + 1)) b).ends prev (run ++ rest) =
      if run.length = n + 1 then (b.ends (after prev run) rest).map (n + 1 + ·) else [] := by
  cases run with
  | nil =>
    rw [List.nil_append, times, ends_seq_assoc, if_neg (by simp)]
    cases rest with
    | nil => rfl
    | cons c rest =>
      rw [ends_seq_one_cons]
      have hstops := h.stops
      rw [List.head?_cons, Option.any_some] at hstops
      rw [hstops]
      rfl
  | cons c run =>
    have hc : (some c).any q = true := h.all c (.head _)
    rw [List.cons_append, times, ends_seq_assoc, ends_seq_one_cons, if_pos (h.all c (.head _)),
      ends_rest_of_run hb h.tail n hc]
    by_cases hlength : run.length = n
    · rw [if_pos hlength, if_pos (by rw [List.length_cons, hlength]), List.map_map]
      apply List.map_congr_left
      intro k _
      show 1 + (n + k) = n + 1 + k
      omega
    · rw [if_neg hlength, if_neg (by rw [List.length_cons]; omega)]
      rfl

theorem ends_notAhead {rest : List α} (h : rest.head?.any q = false) (prev : Option α) :
    (Pattern.notAhead q).ends prev rest = [0] := by
  rw [ends, h]
  rfl

/-- `n` characters of the class that no further one follows. -/
theorem ends_exactly {run rest : List α} (h : Run q run rest) (n : ℕ) (prev : Option α) :
    (Pattern.seq ((Pattern.one q).times (n + 1)) (.notAhead q)).ends prev (run ++ rest) =
      if run.length = n + 1 then [n + 1] else [] := by
  rw [ends_run closes_notAhead h, ends_notAhead h.stops]
  rfl

end

/-! ## 3. Scans -/

section
variable {r : Pattern α} {repl : List α → List α}

theorem after_append (prev : Option α) (p p' : List α) :
    after prev (p ++ p') = after (after prev p) p' := by
  induction p generalizing prev with
  | nil => rfl
  | cons c p ih => exact ih (some c)

theorem after_concat (prev : Option α) (p : List α) (c : α) : after prev (p ++ [c]) = some c := by
  rw [after_append]
  rfl

theorem after_eq (prev : Option α) (p : List α) : after prev p = p.getLast?.or prev := by
  induction p generalizing prev with
  | nil => rfl
  | cons c p ih =>
    rw [after, ih]
    cases p with
    | nil => rfl
    | cons d p =>
      rw [List.getLast?_cons_cons, List.getLast?_eq_some_getLast (List.cons_ne_nil d p)]
      rfl

/-- No match begins in `p`, which `rest` follows. -/
def Quiet (r : Pattern α) (prev : Option α) : List α → List α → Prop
  | [], _ => True
  | c :: p, rest => r.first prev (c :: (p ++ rest)) = none ∧ Quiet r (some c) p rest

theorem quiet_append {p p' rest : List α} {prev : Option α}
    (h : Quiet r prev p (p' ++ rest)) (h' : Quiet r (after prev p) p' rest) :
    Quiet r prev (p ++ p') rest := by
  induction p generalizing prev with
  | nil => exact h'
  | cons c p ih =>
    refine ⟨?_, ih h.2 h'⟩
    show r.first prev (c :: (p ++ p' ++ rest)) = none
    rw [List.append_assoc]
    exact h.1

theorem Quiet.first_none {p q rest : List α} {c : α} {prev : Option α}
    (h : Quiet r prev (p ++ c :: q) rest) : r.first (after prev p) (c :: (q ++ rest)) = none := by
  induction p generalizing prev with
  | nil => exact h.1
  | cons d p ih => exact ih h.2

theorem quiet_of_forall {p rest : List α} {prev : Option α}
    (h : ∀ c ∈ p, ∀ prev s, r.first prev (c :: s) = none) : Quiet r prev p rest := by
  induction p generalizing prev with
  | nil => trivial
  | cons c p ih => exact ⟨h c (.head _) _ _, ih fun d hd => h d (.tail _ hd)⟩

/-- Inside a run of the class nothing matches that looks behind. -/
theorem quiet_behind {q : α → Bool} {b : Pattern α} {p rest : List α} {prev : Option α}
    (hprev : prev.any q = true) (hp : ∀ c ∈ p, q c = true) :
    Quiet (.seq (.notBehind q) b) prev p rest := by
  induction p generalizing prev with
  | nil => trivial
  | cons c p ih =>
    constructor
    · rw [first, ends_notBehind b hprev]
      rfl
    · exact ih (hp c (.head _)) fun d hd => hp d (.tail _ hd)

/-- A scan leaves such a part alone. -/
theorem subFrom_quiet {p rest : List α} {prev : Option α} (h : Quiet r prev p rest) :
    r.subFrom repl 0 prev (p ++ rest) = p ++ r.subFrom repl 0 (after prev p) rest := by
  induction p generalizing prev with
  | nil => rfl
  | cons c p ih =>
    rw [List.cons_append, subFrom, h.1]
    exact congrArg (List.cons c) (ih h.2)

theorem subFrom_covered (k : List α) (rest : List α) (prev : Option α) :
    r.subFrom repl k.length prev (k ++ rest) = r.subFrom repl 0 (after prev k) rest := by
  induction k generalizing prev with
  | nil => rfl
  | cons c k ih =>
    rw [List.length_cons, List.cons_append, subFrom]
    exact ih (some c)

/-- A scan rewrites a match. -/
theorem subFrom_match {m rest : List α} {prev : Option α} (hm : m ≠ [])
    (h : r.first prev (m ++ rest) = some m.length) :
    r.subFrom repl 0 prev (m ++ rest) = repl m ++ r.subFrom repl 0 (after prev m) rest := by
  cases m with
  | nil => exact absurd rfl hm
  | cons c m =>
    rw [List.cons_append] at h
    rw [List.cons_append, subFrom, h, List.length_cons]
    show repl ((c :: (m ++ rest)).take (m.length + 1)) ++
      r.subFrom repl m.length (some c) (m ++ rest) = _
    rw [subFrom_covered, List.take_succ_cons, List.take_left]
    rfl

theorem occursFrom_append {p rest : List α} {prev : Option α}
    (h : r.occursFrom (after prev p) rest = true) : r.occursFrom prev (p ++ rest) = true := by
  induction p generalizing prev with
  | nil => exact h
  | cons c p ih =>
    rw [List.cons_append, occursFrom, ih h, Bool.or_true]

theorem occursFrom_of_first {s : List α} {prev : Option α} (h : (r.first prev s).isSome = true) :
    r.occursFrom prev s = true := by
  cases s with
  | nil => exact h
  | cons c s =>
    rw [occursFrom, h, Bool.true_or]

end

end JibitSdk.Reasoning.Pattern
