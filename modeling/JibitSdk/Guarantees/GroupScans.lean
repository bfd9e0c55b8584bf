import JibitSdk.Guarantees.DigitGroups

/-!
# The passes of the redaction on groups

Each of the four substitutions, as a rewriting of digit groups, with the theorem that the scan of
its pattern does the same to the text.
-/

namespace JibitSdk.Guarantees

open JibitSdk.Python JibitSdk.Reasoning JibitSdk.Reasoning.Pattern JibitSdk.Sdk

/-- What a mask makes of a run and the gap before it. -/
def Group.mask (stars : ℕ) (gap run : List Char) : Group :=
  ⟨gap ++ List.replicate stars '*', run.drop (run.length - 4), true⟩

/-- The mask of a match that ends with the run. -/
theorem mask_text (stars : ℕ) (gap front run rest : List Char) (hrun : 4 ≤ run.length) :
    (Group.mask stars gap run).gap ++ ((Group.mask stars gap run).run ++ rest) =
      gap ++ (starred stars (front ++ run) ++ rest) := by
  have hdrop : (front ++ run).drop ((front ++ run).length - 4) = run.drop (run.length - 4) := by
    have hlength : (front ++ run).length - 4 = front.length + (run.length - 4) := by
      rw [List.length_append]
      omega
    rw [hlength, List.drop_length_add_append]
  rw [starred, hdrop, Group.mask, List.append_assoc, List.append_assoc]

section
variable {u : CharClasses}

/-! ## 1. National ids -/

theorem mask_run_text (stars : ℕ) (gap run rest : List Char) :
    (Group.mask stars gap run).gap ++ ((Group.mask stars gap run).run ++ rest) =
      gap ++ (starred stars run ++ rest) := by
  rw [starred, Group.mask, List.append_assoc, List.append_assoc]

def nationalIdGroup (_ : Bool) (g : Group) (_ : List Group) : Group :=
  if g.run.length = 10 then .mask 6 g.gap g.run else g

theorem nationalIdRe_first_gap {c : Char} (hc : u.isDecimal c = false) (prev : Option Char)
    (s : List Char) : (nationalIdRe u).first prev (c :: s) = none := by
  have hends : ((Pattern.one u.isDecimal).times 10 |>.seq (.notAhead u.isDecimal)).ends prev
      (c :: s) = [] := by
    rw [times, ends_seq_assoc, ends_seq_one_cons, hc]
    rfl
  rw [first, nationalIdRe]
  by_cases hprev : prev.any u.isDecimal = true
  · rw [ends_notBehind _ hprev]
    rfl
  · rw [ends_notBehind_free _ (Bool.eq_false_iff.mpr hprev), hends]
    rfl

theorem nationalIdRe_first_run {run rest : List Char} (h : Run u.isDecimal run rest)
    {prev : Option Char} (hprev : prev.any u.isDecimal = false) :
    (nationalIdRe u).first prev (run ++ rest) =
      if decide (run.length = 10) = true then some run.length else none := by
  rw [first, nationalIdRe, ends_notBehind_free _ hprev, ends_exactly h 9]
  by_cases hlength : run.length = 10
  · rw [if_pos hlength, if_pos (decide_eq_true hlength), hlength]
    rfl
  · rw [if_neg hlength, if_neg (by simpa using hlength)]
    rfl

theorem mask_eq (stars : ℕ) (gap front run : List Char) (hrun : 4 ≤ run.length) :
    (Group.mask stars gap run).gap ++ (Group.mask stars gap run).run =
      gap ++ starred stars (front ++ run) := by
  have htext := mask_text stars gap front run [] hrun
  rwa [List.append_nil, List.append_nil] at htext

def nationalIdHit (_ : Bool) (g : Group) (_ : List Group) : Bool := g.run.length == 10

theorem nationalIdRe_first_nil (prev : Option Char) : (nationalIdRe u).first prev [] = none := by
  cases hprev : prev.any u.isDecimal with
  | true => rw [first, nationalIdRe, ends_notBehind _ hprev]; rfl
  | false => rw [first, nationalIdRe, ends_notBehind_free _ hprev]; rfl

theorem nationalIdRe_advances :
    Advances u (nationalIdRe u) maskNationalId nationalIdHit nationalIdGroup where
  empty := nationalIdRe_first_nil
  left {start g gs prev} h hbehind hhit := by
    have hlength : ¬ g.run.length = 10 := by simpa [nationalIdHit] using hhit
    refine ⟨if_neg hlength, quiet_append ?_ ?_⟩
    · exact quiet_of_forall fun c hc prev s => nationalIdRe_first_gap (h.1.gap c hc) prev s
    · by_cases hrun : g.run = []
      · rw [hrun]
        trivial
      · apply quiet_run h.1.run
        have hfirst := nationalIdRe_first_run h.toRun (free_at_run h.1 hbehind.none hrun)
        rwa [if_neg (by simpa using hlength)] at hfirst
  taken {start g gs prev} h hbehind hhit := by
    have hlength : g.run.length = 10 := by simpa [nationalIdHit] using hhit
    have hrun : g.run ≠ [] := fun hrun => by
      rw [hrun] at hlength
      cases hlength
    refine ⟨hrun, takes_run ?_ ?_ ?_⟩
    · exact quiet_of_forall fun c hc prev s => nationalIdRe_first_gap (h.1.gap c hc) prev s
    · have hfirst := nationalIdRe_first_run h.toRun (free_at_run h.1 hbehind.none hrun)
      rwa [if_pos (decide_eq_true hlength)] at hfirst
    · rw [nationalIdGroup, if_pos hlength]
      exact mask_eq 6 g.gap [] g.run (by omega)

theorem nationalIdRe_sub {gs : List Group} (h : Formed u true gs) :
    (nationalIdRe u).sub maskNationalId (render gs) = render (mapGroups nationalIdGroup true gs) :=
  nationalIdRe_advances.subFrom h rfl

/-! ## 2. Mobile numbers -/

/-- `9\d{9}` is the whole run. -/
def nine (run : List Char) : Bool := run.head? == some '9' && run.length == 10

/-- The run is a mobile number, with a prefix of digits or none. -/
def mobileRun (run : List Char) : Bool :=
  [['0', '0', '9', '8'], ['0'], []].any fun front =>
    front.isPrefixOf run && nine (run.drop front.length)

/-- The run is a mobile number with `+98`, the plus being in its gap. -/
def plusMobile (start : Bool) (g : Group) : Bool :=
  g.gap.getLast? == some '+' && (start || g.gap.dropLast != []) && ['9', '8'].isPrefixOf g.run &&
    nine (g.run.drop 2)

def mobileGroup (start : Bool) (g : Group) (_ : List Group) : Group :=
  if plusMobile start g then .mask 7 g.gap.dropLast g.run
  else if mobileRun g.run then .mask 7 g.gap g.run else g

theorem ends_seq_alt (a b c : Pattern Char) (prev : Option Char) (s : List Char) :
    (Pattern.seq (.alt a b) c).ends prev s =
      (Pattern.seq a c).ends prev s ++ (Pattern.seq b c).ends prev s := by
  rw [ends, ends, ends, ends, List.flatMap_append]

theorem nine_length {run : List Char} (h : nine run = true) : run.length = 10 := by
  rw [nine, Bool.and_eq_true, beq_iff_eq, beq_iff_eq] at h
  exact h.2

/-- The part of the pattern behind the prefix. -/
theorem nine_ends {run rest : List Char} (h : Run u.isDecimal run rest) (prev : Option Char) :
    (Pattern.seq (.lit ['9']) (.seq ((Pattern.one u.isDecimal).times 9)
      (.notAhead u.isDecimal))).ends prev (run ++ rest) = if nine run = true then [10] else [] := by
  rw [lit, ends_seq_assoc, lit]
  cases run with
  | nil =>
    rw [List.nil_append, if_neg (by decide)]
    cases rest with
    | nil => rfl
    | cons c rest =>
      have hstops := h.stops
      rw [List.head?_cons, Option.any_some] at hstops
      -- the text stops before a digit, so it cannot go on with a nine
      have hc : ¬ (c == '9') = true := by
        intro hc
        rw [beq_iff_eq.mp hc, u.decimal_of_ascii '9' (by decide)] at hstops
        cases hstops
      rw [ends_seq_one_cons, if_neg hc]
  | cons c run =>
    -- of ten digits in a row the pattern takes exactly ten: the run must end there
    rw [List.cons_append, ends_seq_one_cons, ends_seq_zero _ rfl, ends_exactly h.tail 8]
    by_cases hc : (c == '9') = true
    · rw [if_pos hc]
      by_cases hlength : run.length = 9
      · have hnine : nine (c :: run) = true := by
          rw [nine, List.head?_cons, List.length_cons, hlength, beq_iff_eq.mp hc]
          rfl
        rw [if_pos hlength, if_pos hnine]
        rfl
      · have hnine : ¬ nine (c :: run) = true := by
          intro hnine
          have := nine_length hnine
          rw [List.length_cons] at this
          omega
        rw [if_neg hlength, if_neg hnine]
        rfl
    · have hnine : ¬ nine (c :: run) = true := by
        intro hnine
        rw [nine, Bool.and_eq_true, List.head?_cons] at hnine
        exact hc (by simpa using hnine.1)
      rw [if_neg hc, if_neg hnine]

theorem isPrefixOf_run {cs run rest : List Char} (hcs : ∀ c ∈ cs, u.isDecimal c = true)
    (h : Run u.isDecimal run rest) : cs.isPrefixOf (run ++ rest) = cs.isPrefixOf run := by
  induction cs generalizing run with
  | nil => rw [List.isPrefixOf_nil_left, List.isPrefixOf_nil_left]
  | cons c cs ih =>
    cases run with
    | nil =>
      rw [List.nil_append]
      cases rest with
      | nil => rfl
      | cons d rest =>
        have hstops := h.stops
        rw [List.head?_cons, Option.any_some] at hstops
        have hcd : (c == d) = false := by
          rw [beq_eq_false_iff_ne]
          intro hcd
          rw [← hcd, hcs c (.head _)] at hstops
          cases hstops
        rw [List.isPrefixOf_cons_cons, hcd]
        rfl
    | cons d run =>
      rw [List.cons_append, List.isPrefixOf_cons_cons, List.isPrefixOf_cons_cons,
        ih (fun c hc => hcs c (.tail _ hc)) h.tail]

theorem prefixed_ends {cs run rest : List Char} (hcs : ∀ c ∈ cs, u.isDecimal c = true)
    (h : Run u.isDecimal run rest) (prev : Option Char) :
    (Pattern.seq (.lit cs) (.seq (.lit ['9']) (.seq ((Pattern.one u.isDecimal).times 9)
      (.notAhead u.isDecimal)))).ends prev (run ++ rest) =
      if (cs.isPrefixOf run && nine (run.drop cs.length)) = true then [run.length] else [] := by
  have hlit := ends_lit cs prev (run ++ rest)
  rw [isPrefixOf_run hcs h] at hlit
  by_cases hstarts : cs.isPrefixOf run = true
  · rw [if_pos hstarts] at hlit
    have hle : cs.length ≤ run.length := (List.isPrefixOf_iff_prefix.mp hstarts).length_le
    rw [ends_seq_singleton _ hlit, List.drop_append_of_le_length hle, nine_ends (h.drop _), hstarts,
      Bool.true_and]
    by_cases hnine : nine (run.drop cs.length) = true
    · have hlength := nine_length hnine
      rw [List.length_drop] at hlength
      have hsum : cs.length + 10 = run.length := by omega
      rw [if_pos hnine, if_pos hnine, List.map_singleton, hsum]
    · rw [if_neg hnine, if_neg hnine]
      rfl
  · rw [if_neg hstarts] at hlit
    rw [ends_seq_nil _ hlit, if_neg]
    rw [Bool.and_eq_true]
    exact fun hboth => hstarts hboth.1

theorem mobileRe_ends {prev : Option Char} (hprev : prev.any u.isDecimal = false) (s : List Char) :
    (mobileRe u).ends prev s =
      (Pattern.seq (.lit ['+', '9', '8']) (.seq (.lit ['9']) (.seq
        ((Pattern.one u.isDecimal).times 9) (.notAhead u.isDecimal)))).ends prev s ++
      ((Pattern.seq (.lit ['0', '0', '9', '8']) (.seq (.lit ['9']) (.seq
        ((Pattern.one u.isDecimal).times 9) (.notAhead u.isDecimal)))).ends prev s ++
      (Pattern.seq (.lit ['0']) (.seq (.lit ['9']) (.seq ((Pattern.one u.isDecimal).times 9)
        (.notAhead u.isDecimal)))).ends prev s) ++
      (Pattern.seq (.lit []) (.seq (.lit ['9']) (.seq ((Pattern.one u.isDecimal).times 9)
        (.notAhead u.isDecimal)))).ends prev s := by
  rw [mobileRe, ends_notBehind_free _ hprev, opt, ends_seq_alt, ends_seq_alt, ends_seq_alt]
  rfl

theorem zero_decimal : ∀ c ∈ ['0', '0', '9', '8'], u.isDecimal c = true := by
  have hall : ['0', '0', '9', '8'].all Char.isDigit = true := by decide
  exact fun c hc => u.decimal_of_ascii c (List.all_eq_true.mp hall c hc)

theorem plus_not_decimal : u.isDecimal '+' = false := (u.punctuation '+' (by decide)).2

theorem mobileRe_first_run {run rest : List Char} (h : Run u.isDecimal run rest) (hrun : run ≠ [])
    {prev : Option Char} (hprev : prev.any u.isDecimal = false) :
    (mobileRe u).first prev (run ++ rest) =
      if mobileRun run = true then some run.length else none := by
  -- the prefixes are tried in their order; which of them fits is decided by the run alone
  have hzero : ∀ c ∈ ['0'], u.isDecimal c = true := by
    intro c hc
    rw [List.mem_singleton.mp hc]
    exact zero_decimal '0' (.head _)
  have hplus : (lit ['+', '9', '8']).ends prev (run ++ rest) = [] := by
    rw [ends_lit, if_neg]
    cases run with
    | nil => exact absurd rfl hrun
    | cons c run =>
      have hc : ¬ ('+' == c) = true := by
        intro hc
        have hdigit := h.all c (.head _)
        rw [← beq_iff_eq.mp hc, plus_not_decimal] at hdigit
        cases hdigit
      rw [List.cons_append, List.isPrefixOf_cons_cons, Bool.and_eq_true]
      exact fun hboth => hc hboth.1
  rw [first, mobileRe_ends hprev, ends_seq_nil _ hplus, prefixed_ends zero_decimal h,
    prefixed_ends hzero h, prefixed_ends (fun c hc => absurd hc List.not_mem_nil) h, mobileRun]
  -- at most one of the three alternatives counts, and all end at the end of the run
  simp only [List.any_cons, List.any_nil, Bool.or_false, List.nil_append]
  generalize
    (['0', '0', '9', '8'].isPrefixOf run && nine (run.drop ['0', '0', '9', '8'].length)) = a
  generalize (['0'].isPrefixOf run && nine (run.drop ['0'].length)) = b
  generalize ([].isPrefixOf run && nine (run.drop [].length)) = d
  cases a <;> cases b <;> cases d <;> rfl

theorem ends_seq_lit_ne {c d : Char} (h : (c == d) = false) {cs : List Char} {b : Pattern Char}
    {prev : Option Char} {s : List Char} :
    (Pattern.seq (.lit (d :: cs)) b).ends prev (c :: s) = [] := by
  rw [lit, ends_seq_assoc, ends_seq_one_cons, h]
  rfl

theorem mobileRe_first_gap {c : Char} (hc : u.isDecimal c = false) (hplus : c ≠ '+')
    (prev : Option Char) (s : List Char) : (mobileRe u).first prev (c :: s) = none := by
  have hne : ∀ d, u.isDecimal d = true → (c == d) = false := by
    intro d hd
    rw [beq_eq_false_iff_ne]
    intro hcd
    rw [hcd, hd] at hc
    cases hc
  have hzero := hne '0' (u.decimal_of_ascii _ (by decide))
  have hnine := hne '9' (u.decimal_of_ascii _ (by decide))
  have hplus' : (c == '+') = false := beq_eq_false_iff_ne.mpr hplus
  rw [first]
  cases hprev : prev.any u.isDecimal with
  | true =>
    rw [mobileRe, ends_notBehind _ hprev]
    rfl
  | false =>
    rw [mobileRe_ends hprev, ends_seq_lit_ne hplus', ends_seq_lit_ne hzero, ends_seq_lit_ne hzero,
      ends_seq_zero _ rfl, ends_seq_lit_ne hnine]
    rfl

theorem mobileRe_first_plus {run rest : List Char} (h : Run u.isDecimal run rest)
    {prev : Option Char} (hprev : prev.any u.isDecimal = false) :
    (mobileRe u).first prev ('+' :: (run ++ rest)) =
      if (['9', '8'].isPrefixOf run && nine (run.drop 2)) = true then some (1 + run.length)
      else none := by
  have hdigits : ∀ c ∈ ['9', '8'], u.isDecimal c = true := by
    have hall : ['9', '8'].all Char.isDigit = true := by decide
    exact fun c hc => u.decimal_of_ascii c (List.all_eq_true.mp hall c hc)
  have hplus : (Pattern.seq (.lit ['+', '9', '8']) (.seq (.lit ['9']) (.seq ((Pattern.one
      u.isDecimal).times 9) (.notAhead u.isDecimal)))).ends prev ('+' :: (run ++ rest)) =
      (if (['9', '8'].isPrefixOf run && nine (run.drop 2)) = true then [run.length] else []).map
        (1 + ·) := by
    rw [lit, ends_seq_assoc, ends_seq_one_cons, if_pos (beq_self_eq_true '+'),
      prefixed_ends hdigits h]
    rfl
  have hzero : ('+' == '0') = false := by decide
  have hnine : ('+' == '9') = false := by decide
  rw [first, mobileRe_ends hprev, hplus, ends_seq_lit_ne hzero, ends_seq_lit_ne hzero,
    ends_seq_zero _ rfl, ends_seq_lit_ne hnine, List.append_nil, List.append_nil, List.append_nil]
  by_cases hboth : (['9', '8'].isPrefixOf run && nine (run.drop 2)) = true
  · rw [if_pos hboth, if_pos hboth]
    rfl
  · rw [if_neg hboth, if_neg hboth]
    rfl

theorem mobileRe_first_digit {prev : Option Char} (hprev : prev.any u.isDecimal = true)
    (s : List Char) : (mobileRe u).first prev s = none := by
  rw [first, mobileRe, ends_notBehind _ hprev]
  rfl

/-- In a gap only a plus at its end can begin a match. -/
theorem mobileRe_quiet {p run rest : List Char} (hp : ∀ c ∈ p, u.isDecimal c = false)
    {prev : Option Char} (hlast : p.getLast? = some '+' →
      (mobileRe u).first (after prev p.dropLast) ('+' :: (run ++ rest)) = none) :
    Quiet (mobileRe u) prev p (run ++ rest) := by
  induction p generalizing prev with
  | nil => trivial
  | cons c p ih =>
    have hc := hp c (.head _)
    -- only the last character of the gap can be the plus of a number
    cases p with
    | nil =>
      refine ⟨?_, trivial⟩
      by_cases hplus : c = '+'
      · rw [hplus] at hlast ⊢
        exact hlast rfl
      · exact mobileRe_first_gap hc hplus _ _
    | cons d p =>
      refine ⟨?_, ih (fun e he => hp e (.tail _ he)) fun h => hlast h⟩
      -- a plus further in front has a gap character behind it
      by_cases hplus : c = '+'
      · have hrun : Run u.isDecimal [] (d :: (p ++ (run ++ rest))) :=
          ⟨fun e he => absurd he List.not_mem_nil, hp d (.tail _ (.head _))⟩
        rw [hplus]
        cases hprev : prev.any u.isDecimal with
        | true => exact mobileRe_first_digit hprev _
        | false =>
          have hfirst := mobileRe_first_plus hrun hprev
          rw [List.nil_append, if_neg (by decide)] at hfirst
          exact hfirst
      · exact mobileRe_first_gap hc hplus _ _

/-- What stands before the plus of a gap. -/
theorem free_at_plus {start : Bool} {g : Group} {prev : Option Char} (hok : g.Ok u start)
    (hbehind : Behind u start prev) : (after prev g.gap.dropLast).any u.isDecimal =
      !(start || g.gap.dropLast != []) := by
  by_cases hempty : g.gap.dropLast = []
  · rw [hempty]
    cases start with
    | true =>
      have hnone : prev = none := hbehind
      rw [hnone]
      rfl
    | false =>
      have hprev : prev.any u.isDecimal = true := hbehind
      exact hprev
  · have hne : (g.gap.dropLast != []) = true := by simpa using hempty
    rw [hne, Bool.or_true]
    apply after_any (fun c hc => hok.gap c (List.dropLast_subset _ hc))
    exact fun h => absurd h hempty

theorem nine_drop {k : ℕ} {run : List Char} (h : nine (run.drop k) = true) :
    run.length = k + 10 := by
  have hlength := nine_length h
  rw [List.length_drop] at hlength
  omega

theorem mobileRun_length {run : List Char} (h : mobileRun run = true) : 10 ≤ run.length := by
  rw [mobileRun, List.any_eq_true] at h
  obtain ⟨front, -, h⟩ := h
  rw [Bool.and_eq_true] at h
  have hlength := nine_drop h.2
  omega

theorem plusMobile_length {start : Bool} {g : Group} (h : plusMobile start g = true) :
    g.run.length = 12 := by
  rw [plusMobile, Bool.and_eq_true] at h
  exact nine_drop h.2

def mobileHit (start : Bool) (g : Group) (_ : List Group) : Bool :=
  plusMobile start g || mobileRun g.run

/-- The digits behind a plus at the end of a gap are no number. -/
theorem mobileRe_quiet_gap {start : Bool} {g : Group} {gs : List Group} {prev : Option Char}
    (h : Formed u start (g :: gs)) (hbehind : Behind u start prev)
    (hplus : ¬ plusMobile start g = true) :
    Quiet (mobileRe u) prev g.gap (g.run ++ render gs) := by
  -- without a plus in front the digits are the only candidate
  apply mobileRe_quiet h.1.gap
  intro hlast
  have hfree := free_at_plus h.1 hbehind
  cases hstart : (start || g.gap.dropLast != []) with
  | false =>
    rw [hstart] at hfree
    exact mobileRe_first_digit hfree _
  -- the plus is free to begin a match, but the digits behind it are no number
  | true =>
    rw [hstart] at hfree
    rw [plusMobile, Bool.and_assoc, hlast, hstart] at hplus
    rw [mobileRe_first_plus h.toRun hfree, if_neg]
    exact hplus

/-- A number with its plus. -/
theorem mobileRe_takes_plus {start : Bool} {g : Group} {gs : List Group} {prev : Option Char}
    (h : Formed u start (g :: gs)) (hbehind : Behind u start prev)
    (hplus : plusMobile start g = true) :
    Takes (mobileRe u) maskMobile prev g (render gs) (.mask 7 g.gap.dropLast g.run) := by
  rw [plusMobile, Bool.and_assoc, Bool.and_eq_true, Bool.and_eq_true, beq_iff_eq] at hplus
  obtain ⟨⟨hlast, hstart⟩, hnumber⟩ := hplus
  have hfree := free_at_plus h.1 hbehind
  rw [hstart] at hfree
  have hfirst := mobileRe_first_plus h.toRun hfree
  rw [if_pos hnumber] at hfirst
  have hquiet : Quiet (mobileRe u) prev g.gap.dropLast ('+' :: (g.run ++ render gs)) := by
    -- inside the gap another plus has no digits behind it
    show Quiet (mobileRe u) prev g.gap.dropLast ([] ++ ('+' :: (g.run ++ render gs)))
    apply mobileRe_quiet fun c hc => h.1.gap c (List.dropLast_subset _ hc)
    intro _
    have hrun : Run u.isDecimal [] ('+' :: (g.run ++ render gs)) :=
      ⟨fun e he => absurd he List.not_mem_nil, plus_not_decimal⟩
    cases hprev : (after prev g.gap.dropLast.dropLast).any u.isDecimal with
    | true => exact mobileRe_first_digit hprev _
    | false =>
      rw [mobileRe_first_plus hrun hprev]
      rfl
  -- the mask keeps the last four characters, and those are digits of the run
  have hlength : 4 ≤ g.run.length := by
    rw [Bool.and_eq_true] at hnumber
    have hnine := nine_length hnumber.2
    rw [List.length_drop] at hnine
    omega
  refine ⟨g.gap.dropLast, ['+'], (List.dropLast_append_getLast? '+' hlast).symm, hquiet, ?_,
    mask_eq 7 g.gap.dropLast ['+'] g.run hlength⟩
  rw [List.length_append]
  exact hfirst

theorem mobileRe_advances : Advances u (mobileRe u) maskMobile mobileHit mobileGroup where
  empty prev := by
    cases hprev : prev.any u.isDecimal with
    | true => exact mobileRe_first_digit hprev _
    | false => rw [first, mobileRe_ends hprev]; rfl
  left {start g gs prev} h hbehind hhit := by
    rw [mobileHit, Bool.or_eq_false_iff, Bool.eq_false_iff, Bool.eq_false_iff] at hhit
    refine ⟨by rw [mobileGroup, if_neg hhit.1, if_neg hhit.2],
      quiet_append (mobileRe_quiet_gap h hbehind hhit.1) ?_⟩
    by_cases hrun : g.run = []
    · rw [hrun]
      trivial
    · apply quiet_run h.1.run
      have hfirst := mobileRe_first_run h.toRun hrun (free_at_run h.1 hbehind.none hrun)
      rwa [if_neg hhit.2] at hfirst
  taken {start g gs prev} h hbehind hhit := by
    by_cases hplus : plusMobile start g = true
    · rw [mobileGroup, if_pos hplus]
      refine ⟨fun hrun => ?_, mobileRe_takes_plus h hbehind hplus⟩
      have hlength := plusMobile_length hplus
      rw [hrun] at hlength
      cases hlength
    · have hmobile : mobileRun g.run = true := by
        rw [mobileHit, Bool.eq_false_iff.mpr hplus] at hhit
        exact hhit
      have hlength := mobileRun_length hmobile
      have hrun : g.run ≠ [] := fun hrun => by
        rw [hrun] at hlength
        cases hlength
      rw [mobileGroup, if_neg hplus, if_pos hmobile]
      refine ⟨hrun, takes_run (mobileRe_quiet_gap h hbehind hplus) ?_
        (mask_eq 7 g.gap [] g.run (by omega))⟩
      have hfirst := mobileRe_first_run h.toRun hrun (free_at_run h.1 hbehind.none hrun)
      rwa [if_pos hmobile] at hfirst

theorem mobileRe_sub {gs : List Group} (h : Formed u true gs) :
    (mobileRe u).sub maskMobile (render gs) = render (mapGroups mobileGroup true gs) :=
  mobileRe_advances.subFrom h rfl

/-! ## 3. IBANs -/

def isI (c : Char) : Bool := c == 'I' || c == 'i' || c == 'İ' || c == 'ı'

def isR (c : Char) : Bool := c == 'R' || c == 'r'

/-- What stands before the letters of an IBAN at the end of a gap. -/
def ibanFront (u : CharClasses) (prev : Option Char) : List Char → Option (List Char)
  | c :: d :: e :: gap => (ibanFront u (some c) (d :: e :: gap)).map (c :: ·)
  | [i, r] => if isI i && isR r && !prev.any u.isWord then some [] else none
  | _ => none

/-- The run is that of an IBAN: twenty-four digits that no word character follows. -/
def ibanRun (u : CharClasses) (run : List Char) (gs : List Group) : Bool :=
  run.length == 24 && !(render gs).head?.any u.isWord

def ibanGroup (u : CharClasses) (start : Bool) (g : Group) (gs : List Group) : Group :=
  if ibanRun u g.run gs then
    (ibanFront u (if start then none else some '0') g.gap).elim g fun front =>
      .mask 20 (front ++ ['I', 'R']) g.run
  else g

theorem isI_not_decimal {c : Char} (h : isI c = true) :
    u.isDecimal c = false ∧ u.isWord c = true := by
  simp only [isI, Bool.or_eq_true, beq_iff_eq] at h
  rcases h with ((h | h) | h) | h
  · rw [h]
    exact ⟨u.decimal_not_alpha 'I' (by decide), u.word_of_alpha 'I' (by decide)⟩
  · rw [h]
    exact ⟨u.decimal_not_alpha 'i' (by decide), u.word_of_alpha 'i' (by decide)⟩
  · exact (u.turkish_i c (.inl h)).symm
  · exact (u.turkish_i c (.inr h)).symm

theorem isR_not_decimal {c : Char} (h : isR c = true) : u.isDecimal c = false := by
  simp only [isR, Bool.or_eq_true, beq_iff_eq] at h
  rcases h with h | h
  · rw [h]
    exact u.decimal_not_alpha 'R' (by decide)
  · rw [h]
    exact u.decimal_not_alpha 'r' (by decide)

/-- The pattern behind its letters. -/
theorem ibanRun_ends {run rest : List Char} (h : Run u.isDecimal run rest) (prev : Option Char) :
    (Pattern.seq ((Pattern.one u.isDecimal).times 24) (.boundary u.isWord)).ends
    prev (run ++ rest) =
      if (run.length == 24 && !rest.head?.any u.isWord) = true then [24] else [] := by
  rw [ends_run (closes_boundary u.word_of_decimal) h 23]
  by_cases hlength : run.length = 24
  · have hword : (after prev run).any u.isWord = true := by
      apply after_any (fun c hc => u.word_of_decimal c (h.all c hc))
      intro hrun
      rw [hrun] at hlength
      cases hlength
    rw [if_pos hlength, ends, hword, hlength]
    cases rest.head?.any u.isWord <;> rfl
  · rw [if_neg hlength, if_neg]
    rw [Bool.and_eq_true, beq_iff_eq]
    exact fun hboth => hlength hboth.1

theorem ibanRe_ends_cons (prev : Option Char) (c : Char) (s : List Char) :
    (ibanRe u).ends prev (c :: s) =
      if (isI c && !prev.any u.isWord) = true then
        ((Pattern.seq (.one isR) (.seq ((Pattern.one u.isDecimal).times 24)
          (.boundary u.isWord))).ends (some c) s).map (1 + ·)
      else [] := by
  unfold ibanRe
  -- the letter must stand at the boundary of a word
  by_cases hc : isI c = true
  · by_cases hprev : prev.any u.isWord = true
    · rw [hprev, ends_seq_nil, if_neg (by simp)]
      rw [ends, hprev, List.head?_cons, Option.any_some, (isI_not_decimal hc).2]
      rfl
    · have hfalse := Bool.eq_false_iff.mpr hprev
      rw [hfalse, ends_seq_zero, ends_seq_one_cons, if_pos, if_pos]
      · rfl
      · rw [hc]
        rfl
      · exact hc
      · rw [ends, hfalse, List.head?_cons, Option.any_some, (isI_not_decimal hc).2]
        rfl
  -- any other character ends the attempt, whatever the boundary says
  · have hnone : (Pattern.seq (.one fun c => c == 'I' || c == 'i' || c == 'İ' || c == 'ı')
        (.seq (.one fun c => c == 'R' || c == 'r') (.seq ((Pattern.one u.isDecimal).times 24)
          (.boundary u.isWord)))).ends prev (c :: s) = [] := by
      rw [ends_seq_one_cons]
      exact if_neg hc
    rw [if_neg (by rw [Bool.and_eq_true]; exact fun h => hc h.1)]
    by_cases hboundary : (Pattern.boundary u.isWord).ends prev (c :: s) = [0]
    · rw [ends_seq_zero _ hboundary, hnone]
    · rw [ends_seq_nil]
      rw [ends] at hboundary ⊢
      rw [if_neg]
      exact fun h => hboundary (if_pos h)

/-- A match begins at the second last character of a gap. -/
theorem ibanRe_first_pair {i r : Char} {run rest : List Char} (h : Run u.isDecimal run rest)
    (prev : Option Char) : (ibanRe u).first prev (i :: r :: (run ++ rest)) =
      if (isI i && isR r && !prev.any u.isWord &&
        (run.length == 24 && !rest.head?.any u.isWord)) = true then some 26 else none := by
  rw [first, ibanRe_ends_cons, ends_seq_one_cons, ibanRun_ends h]
  cases isI i <;> cases isR r <;> cases prev.any u.isWord <;>
    cases (run.length == 24 && !rest.head?.any u.isWord) <;> rfl

theorem ibanRe_first_three {c d e : Char} (he : u.isDecimal e = false) (prev : Option Char)
    (s : List Char) : (ibanRe u).first prev (c :: d :: e :: s) = none := by
  have hrun : Run u.isDecimal [] (e :: s) := ⟨fun f hf => absurd hf List.not_mem_nil, he⟩
  have hfirst := ibanRe_first_pair (i := c) (r := d) hrun prev
  rw [List.nil_append] at hfirst
  rw [hfirst, if_neg]
  simp

/-- Before a run, or at the end, one character is no match. -/
theorem ibanRe_first_last {c : Char} {s : List Char} (hs : ∀ d ∈ s.head?, isR d = false)
    (prev : Option Char) : (ibanRe u).first prev (c :: s) = none := by
  have hends : (Pattern.seq (.one isR) (.seq ((Pattern.one u.isDecimal).times 24)
      (.boundary u.isWord))).ends (some c) s = [] := by
    cases s with
    | nil => rfl
    | cons d s => rw [ends_seq_one_cons, hs d rfl]; rfl
  rw [first, ibanRe_ends_cons, hends]
  cases (isI c && !prev.any u.isWord) <;> rfl

theorem ibanRe_first_digit {c : Char} (hc : u.isDecimal c = true) (prev : Option Char)
    (s : List Char) : (ibanRe u).first prev (c :: s) = none := by
  rw [first, ibanRe_ends_cons, if_neg]
  · rfl
  · rw [Bool.and_eq_true]
    intro hboth
    rw [(isI_not_decimal hboth.1).1] at hc
    cases hc

theorem ibanRe_quiet {p run rest : List Char} (hp : ∀ c ∈ p, u.isDecimal c = false)
    (h : Run u.isDecimal run rest) (hrest : run = [] → rest = []) {prev : Option Char}
    (hmiss : (run.length == 24 && !rest.head?.any u.isWord) = true → ibanFront u prev p = none) :
    Quiet (ibanRe u) prev p (run ++ rest) := by
  -- behind the gap there is no `R`: the run is of digits
  have hlast : ∀ d ∈ (run ++ rest).head?, isR d = false := by
    intro d hd
    cases run with
    | nil =>
      rw [hrest rfl] at hd
      cases hd
    | cons c run =>
      cases hd
      have hc := h.all d (.head _)
      rw [Bool.eq_false_iff]
      intro hR
      rw [isR_not_decimal hR] at hc
      cases hc
  -- a match can begin at the last two characters of the gap only
  induction p generalizing prev with
  | nil => trivial
  | cons c p ih =>
    cases p with
    | nil => exact ⟨ibanRe_first_last hlast prev, trivial⟩
    | cons d p =>
      cases p with
      | nil =>
        refine ⟨?_, ibanRe_first_last hlast _, trivial⟩
        show (ibanRe u).first prev (c :: d :: (run ++ rest)) = none
        rw [ibanRe_first_pair h, if_neg]
        intro hboth
        rw [Bool.and_eq_true] at hboth
        have hnone := hmiss hboth.2
        rw [ibanFront, if_pos hboth.1] at hnone
        cases hnone
      | cons e p =>
        refine ⟨ibanRe_first_three (hp e (.tail _ (.tail _ (.head _)))) _ _, ?_⟩
        apply ih fun f hf => hp f (.tail _ hf)
        intro hrun
        have hnone := hmiss hrun
        rw [ibanFront, Option.map_eq_none_iff] at hnone
        exact hnone

/-- The gap before an IBAN's run. -/
theorem ibanFront_eq_some {prev : Option Char} {p front : List Char}
    (h : ibanFront u prev p = some front) : ∃ i r, p = front ++ [i, r] ∧
      (isI i && isR r && !(after prev front).any u.isWord) = true := by
  induction p generalizing prev front with
  | nil => cases h
  | cons c p ih =>
    cases p with
    | nil => cases h
    | cons d p =>
      cases p with
      | nil =>
        rw [ibanFront] at h
        by_cases hboth : (isI c && isR d && !prev.any u.isWord) = true
        · rw [if_pos hboth] at h
          rw [← Option.some.inj h]
          exact ⟨c, d, rfl, hboth⟩
        · rw [if_neg hboth] at h
          cases h
      | cons e p =>
        rw [ibanFront] at h
        obtain ⟨front', hfront, heq⟩ := Option.map_eq_some_iff.mp h
        obtain ⟨i, r, hp, hboth⟩ := ih hfront
        rw [← heq, hp]
        exact ⟨i, r, rfl, hboth⟩

theorem ibanFront_congr {prev prev' : Option Char} (h : prev.any u.isWord = prev'.any u.isWord)
    (p : List Char) : ibanFront u prev p = ibanFront u prev' p := by
  cases p with
  | nil => rfl
  | cons c p =>
    cases p with
    | nil => rfl
    | cons d p =>
      cases p with
      | nil => rw [ibanFront, ibanFront, h]
      | cons e p => rfl

/-- Gap characters with two more behind them begin no match. -/
theorem ibanRe_quiet_front {front s : List Char} {i r : Char}
    (hfront : ∀ c ∈ front, u.isDecimal c = false)
    (hi : u.isDecimal i = false) (hr : u.isDecimal r = false) (prev : Option Char) :
    Quiet (ibanRe u) prev front (i :: r :: s) := by
  induction front generalizing prev with
  | nil => trivial
  | cons c front ih =>
    refine ⟨?_, ih (fun d hd => hfront d (.tail _ hd)) _⟩
    cases front with
    | nil => exact ibanRe_first_three hr _ _
    | cons d front =>
      cases front with
      | nil => exact ibanRe_first_three hi _ _
      | cons e front => exact ibanRe_first_three (hfront e (.tail _ (.tail _ (.head _)))) _ _

theorem behind_word {start : Bool} {prev : Option Char} (h : Behind u start prev) :
    prev.any u.isWord = (if start then none else some '0' : Option Char).any u.isWord := by
  cases start with
  | true =>
    have hnone : prev = none := h
    rw [hnone]
    rfl
  | false =>
    have hdigit : prev.any u.isDecimal = true := h
    cases prev with
    | none => cases hdigit
    | some d =>
      have hzero := u.word_of_decimal '0' (u.decimal_of_ascii '0' (by decide))
      exact (u.word_of_decimal d hdigit).trans hzero.symm

theorem ibanRun_length {run : List Char} {gs : List Group} (h : ibanRun u run gs = true) :
    run.length = 24 := by
  rw [ibanRun, Bool.and_eq_true, beq_iff_eq] at h
  exact h.1

def ibanHit (u : CharClasses) (start : Bool) (g : Group) (gs : List Group) : Bool :=
  ibanRun u g.run gs && (ibanFront u (if start then none else some '0') g.gap).isSome

theorem ibanRe_first_nil (prev : Option Char) : (ibanRe u).first prev [] = none := by
  rw [first, ibanRe]
  by_cases hboundary : (Pattern.boundary u.isWord).ends prev [] = [0]
  · rw [ends_seq_zero _ hboundary]
    rfl
  · rw [ends_seq_nil]
    · rfl
    · rw [ends] at hboundary ⊢
      rw [if_neg]
      exact fun h => hboundary (if_pos h)

theorem ibanRe_advances : Advances u (ibanRe u) maskIban (ibanHit u) (ibanGroup u) where
  empty := ibanRe_first_nil
  left {start g gs prev} h hbehind hhit := by
    have hcongr := ibanFront_congr (behind_word hbehind) g.gap
    have hrest : g.run = [] → render gs = [] := by
      intro hrun
      rw [h.2.1 hrun]
      rfl
    -- the gap has no letters in front of this run
    have hnone : ibanRun u g.run gs = true → ibanFront u prev g.gap = none := by
      intro hrun
      rw [ibanHit, hrun, Bool.true_and, ← hcongr] at hhit
      exact Option.isSome_eq_false_iff.mp hhit |> Option.isNone_iff_eq_none.mp
    constructor
    · rw [ibanGroup]
      by_cases hrun : ibanRun u g.run gs = true
      · rw [if_pos hrun, ← hcongr, hnone hrun]
        rfl
      · rw [if_neg hrun]
    · exact quiet_append (ibanRe_quiet h.1.gap h.toRun hrest hnone)
        (quiet_of_forall fun c hc prev s => ibanRe_first_digit (h.1.run c hc) prev s)
  taken {start g gs prev} h hbehind hhit := by
    have hcongr := ibanFront_congr (behind_word hbehind) g.gap
    rw [ibanHit, Bool.and_eq_true, ← hcongr] at hhit
    obtain ⟨hrun, hsome⟩ := hhit
    obtain ⟨front, hfront⟩ := Option.isSome_iff_exists.mp hsome
    obtain ⟨i, r, hgap, hletters⟩ := ibanFront_eq_some hfront
    -- the letters at the end of the gap, and the twenty-four digits of the run
    have hboth := hletters
    rw [Bool.and_eq_true, Bool.and_eq_true] at hboth
    have hlength := ibanRun_length hrun
    have hmatch : (ibanRe u).first (after prev front) ([i, r] ++ (g.run ++ render gs)) =
        some ([i, r] ++ g.run).length := by
      have hfirst := ibanRe_first_pair (i := i) (r := r) h.toRun (after prev front)
      rw [if_pos (by rw [hletters]; exact hrun)] at hfirst
      rw [List.length_append, hlength]
      exact hfirst
    have hquiet : Quiet (ibanRe u) prev front ([i, r] ++ (g.run ++ render gs)) := by
      apply ibanRe_quiet_front
      · intro c hc
        exact h.1.gap c (hgap ▸ List.mem_append_left _ hc)
      · exact (isI_not_decimal hboth.1.1).1
      · exact isR_not_decimal hboth.1.2
    refine ⟨fun hnil => ?_, front, [i, r], hgap, hquiet, hmatch, ?_⟩
    · rw [hnil] at hlength
      cases hlength
    · -- the mask keeps what stands before the letters, and the letters themselves
      rw [ibanGroup, if_pos hrun, ← hcongr, hfront, Option.elim_some,
        mask_eq 20 _ [i, r] _ (by omega), List.append_assoc]
      rfl

theorem ibanRe_sub {gs : List Group} (h : Formed u true gs) :
    (ibanRe u).sub maskIban (render gs) = render (mapGroups (ibanGroup u) true gs) :=
  ibanRe_advances.subFrom h rfl

/-! ## 4. Cards -/

def isSep (c : Char) : Bool := c == ' ' || c == '-'

/-- Only a separator stands between the run before and this one. -/
def Group.linked (g : Group) : Bool := g.gap == [' '] || g.gap == ['-']

/-- The digits of the `n` that begin with this run and go on in linked groups, if they end with a
    run, and the groups behind. -/
def cardFrom : ℕ → List Char → List Group → Option (List Char × List Group)
  | n, run, [] => if run.length = n then some (run, []) else none
  | n, run, g :: gs =>
    if run.length = n then some (run, g :: gs)
    else if run.length < n ∧ g.linked = true then
      (cardFrom (n - run.length) g.run gs).map fun card => (run ++ card.1, card.2)
    else none

/-- A separator that no digit follows directly. -/
def Group.trailing (g : Group) : Bool :=
  g.gap.head?.any isSep && (g.gap.tail != [] || g.run == [])

/-- The groups behind a card, without the separator the card takes along. -/
def trim : List Group → List Group
  | [] => []
  | g :: gs => if g.trailing then ⟨g.gap.tail, g.run, g.masked⟩ :: gs else g :: gs

theorem trim_length (gs : List Group) : (trim gs).length = gs.length := by
  cases gs with
  | nil => rfl
  | cons g gs =>
    rw [trim]
    by_cases h : g.trailing = true
    · rw [if_pos h]
      rfl
    · rw [if_neg h]

theorem cardFrom_length {n : ℕ} {run : List Char} {gs : List Group}
    {card : List Char × List Group} (h : cardFrom n run gs = some card) :
    card.2.length ≤ gs.length := by
  induction gs generalizing n run card with
  | nil =>
    rw [cardFrom] at h
    obtain ⟨-, h⟩ := Option.ite_none_right_eq_some.mp h
    rw [← Option.some.inj h]
  | cons g gs ih =>
    rw [cardFrom] at h
    by_cases hlength : run.length = n
    · rw [if_pos hlength] at h
      rw [← Option.some.inj h]
    · rw [if_neg hlength] at h
      obtain ⟨-, h⟩ := Option.ite_none_right_eq_some.mp h
      obtain ⟨card', hcard, heq⟩ := Option.map_eq_some_iff.mp h
      have hle := ih hcard
      rw [← heq]
      exact Nat.le_succ_of_le hle

/-- A card goes on in the linked groups behind its first run. -/
theorem cardFrom_append {n : ℕ} {run : List Char} {gs : List Group} {card : List Char × List Group}
    (h : cardFrom n run gs = some card) : ∃ mid, gs = mid ++ card.2 ∧
      (∀ g ∈ mid, g.linked = true) ∧ run.length + digitCount mid = n := by
  induction gs generalizing n run card with
  | nil =>
    rw [cardFrom] at h
    obtain ⟨hlength, h⟩ := Option.ite_none_right_eq_some.mp h
    rw [← Option.some.inj h]
    exact ⟨[], rfl, fun g hg => absurd hg List.not_mem_nil, hlength⟩
  | cons g gs ih =>
    rw [cardFrom] at h
    by_cases hlength : run.length = n
    · rw [if_pos hlength] at h
      rw [← Option.some.inj h]
      exact ⟨[], rfl, fun g hg => absurd hg List.not_mem_nil, hlength⟩
    · rw [if_neg hlength] at h
      obtain ⟨⟨hlt, hlinked⟩, h⟩ := Option.ite_none_right_eq_some.mp h
      obtain ⟨card', hcard, heq⟩ := Option.map_eq_some_iff.mp h
      obtain ⟨mid, hmid, hlinks, hcount⟩ := ih hcard
      refine ⟨g :: mid, by rw [← heq, hmid]; rfl, fun g' hg' => ?_, ?_⟩
      · rcases List.mem_cons.mp hg' with hg' | hg'
        · exact hg' ▸ hlinked
        · exact hlinks g' hg'
      · rw [digitCount, hcount]
        omega

/-- The card pass: leftmost cards first. -/
def cardGroups : List Group → List Group
  | [] => []
  | g :: gs =>
    match _h : cardFrom 16 g.run gs with
    | none => g :: cardGroups gs
    | some card => .mask 12 g.gap card.1 :: cardGroups (trim card.2)
termination_by gs => gs.length
decreasing_by
  · exact Nat.lt_succ_self _
  · rw [trim_length]
    exact Nat.lt_succ_of_le (cardFrom_length _h)

theorem cardGroups_none {g : Group} {gs : List Group} (h : cardFrom 16 g.run gs = none) :
    cardGroups (g :: gs) = g :: cardGroups gs := by
  rw [cardGroups]
  split
  · rfl
  · rename_i card hcard
    rw [h] at hcard
    cases hcard

theorem cardGroups_some {g : Group} {gs : List Group} {card : List Char × List Group}
    (h : cardFrom 16 g.run gs = some card) :
    cardGroups (g :: gs) = .mask 12 g.gap card.1 :: cardGroups (trim card.2) := by
  rw [cardGroups]
  split
  · rename_i hcard
    rw [h] at hcard
    cases hcard
  · rename_i card' hcard
    rw [h] at hcard
    rw [← Option.some.inj hcard]

/-- `n` digits with optional separators, and no digit behind. -/
def cardTail (u : CharClasses) (n : ℕ) : Pattern Char :=
  .seq ((Pattern.seq (.one u.isDecimal) (.opt (.one isSep))).times n) (.notAhead u.isDecimal)

theorem cardTail_zero (prev : Option Char) (s : List Char) :
    (cardTail u 0).ends prev s = if s.head?.any u.isDecimal = true then [] else [0] :=
  ends_seq_zero _ rfl

theorem cardTail_succ {c : Char} (hc : u.isDecimal c = true) (n : ℕ) (prev : Option Char)
    (s : List Char) : (cardTail u (n + 1)).ends prev (c :: s) =
      ((Pattern.seq (.one isSep) (cardTail u n)).ends (some c) s ++
        (cardTail u n).ends (some c) s).map (1 + ·) := by
  have hempty : (Pattern.seq .empty (cardTail u n)).ends (some c) s =
      (cardTail u n).ends (some c) s := ends_seq_zero _ rfl
  rw [← hempty, ← ends_seq_alt, cardTail, times, ends_seq_assoc, ends_seq_assoc, ends_seq_one_cons,
    if_pos hc]
  rfl

theorem cardTail_succ_gap {s : List Char} (hs : s.head?.any u.isDecimal = false) (n : ℕ)
    (prev : Option Char) : (cardTail u (n + 1)).ends prev s = [] := by
  rw [cardTail, times, ends_seq_assoc, ends_seq_assoc]
  cases s with
  | nil => rfl
  | cons c s =>
    rw [List.head?_cons, Option.any_some] at hs
    rw [ends_seq_one_cons, hs]
    rfl

theorem isSep_not_decimal {c : Char} (h : isSep c = true) : u.isDecimal c = false := by
  rw [isSep, Bool.or_eq_true, beq_iff_eq, beq_iff_eq] at h
  rcases h with h | h
  · rw [h]
    exact (u.punctuation ' ' (by decide)).2
  · rw [h]
    exact (u.punctuation '-' (by decide)).2

/-- Between two digits there is no choice. -/
theorem cardTail_inside {c d : Char} (hc : u.isDecimal c = true) (hd : u.isDecimal d = true) (n : ℕ)
    (prev : Option Char) (s : List Char) : (cardTail u (n + 1)).ends prev (c :: d :: s) =
      ((cardTail u n).ends (some c) (d :: s)).map (1 + ·) := by
  have hsep : ¬ isSep d = true := by
    intro hsep
    rw [isSep_not_decimal hsep] at hd
    cases hd
  rw [cardTail_succ hc, ends_seq_one_cons, if_neg hsep, List.nil_append]

/-- A run that is too long. -/
theorem cardTail_long {run s : List Char} (hrun : ∀ c ∈ run, u.isDecimal c = true) {n : ℕ}
    (hlength : n < run.length) (prev : Option Char) : (cardTail u n).ends prev (run ++ s) = [] := by
  induction run generalizing n prev with
  | nil => cases hlength
  | cons c run ih =>
    cases n with
    | zero =>
      rw [List.cons_append, cardTail_zero, List.head?_cons, Option.any_some, if_pos]
      exact hrun c (.head _)
    | succ n =>
      have hshort : n < run.length := Nat.lt_of_succ_lt_succ hlength
      cases run with
      | nil => cases hshort
      | cons d run =>
        have ih := ih (fun e he => hrun e (.tail _ he)) hshort (some c)
        rw [List.cons_append] at ih
        rw [List.cons_append, List.cons_append,
          cardTail_inside (hrun c (.head _)) (hrun d (.tail _ (.head _))), ih]
        rfl

/-- A run that is too short needs a separator and more digits behind it. -/
theorem cardTail_short {run : List Char} (hrun : ∀ c ∈ run, u.isDecimal c = true) (hne : run ≠ [])
    {s : List Char} (hs : s.head?.any u.isDecimal = false) (n : ℕ) (prev : Option Char) :
    (cardTail u (run.length + (n + 1))).ends prev (run ++ s) =
      ((Pattern.seq (.one isSep) (cardTail u (n + 1))).ends (after prev run) s).map
        (run.length + ·) := by
  -- by the digits of the run: there is no separator between two of them
  induction run generalizing prev with
  | nil => exact absurd rfl hne
  | cons c run ih =>
    have hc := hrun c (.head _)
    have hsum : (c :: run).length + (n + 1) = run.length + (n + 1) + 1 := by
      rw [List.length_cons]
      omega
    cases run with
    | nil =>
      rw [hsum, List.cons_append, List.nil_append, cardTail_succ hc, List.length_nil, Nat.zero_add,
        cardTail_succ_gap hs, List.append_nil]
      rfl
    | cons d run =>
      have hd := hrun d (.tail _ (.head _))
      have ih := ih (fun e he => hrun e (.tail _ he)) (List.cons_ne_nil _ _) (some c)
      rw [List.cons_append] at ih
      rw [hsum, List.cons_append, List.cons_append, cardTail_inside hc hd, ih, List.map_map]
      apply List.map_congr_left
      intro k _
      show 1 + ((d :: run).length + k) = (c :: d :: run).length + k
      rw [List.length_cons, List.length_cons, List.length_cons]
      omega

/-- A run of the right length, with a separator behind it if no digit follows that. -/
theorem cardTail_exact {run : List Char} (hrun : ∀ c ∈ run, u.isDecimal c = true) (hne : run ≠ [])
    {s : List Char} (hs : s.head?.any u.isDecimal = false) (prev : Option Char) :
    (cardTail u run.length).first prev (run ++ s) =
      some (run.length +
        if (s.head?.any isSep && !s.tail.head?.any u.isDecimal) = true then 1 else 0) := by
  rw [first]
  induction run generalizing prev with
  | nil => exact absurd rfl hne
  | cons c run ih =>
    have hc := hrun c (.head _)
    cases run with
    | nil =>
      rw [List.cons_append, List.nil_append, List.length_singleton, cardTail_succ hc,
        cardTail_zero, hs]
      cases s with
      | nil => rfl
      | cons d s =>
        rw [ends_seq_one_cons, cardTail_zero, List.head?_cons, Option.any_some, List.tail_cons]
        cases isSep d <;> cases s.head?.any u.isDecimal <;> rfl
    | cons d run =>
      have hd := hrun d (.tail _ (.head _))
      have ih := ih (fun e he => hrun e (.tail _ he)) (List.cons_ne_nil _ _) (some c)
      rw [List.cons_append] at ih
      rw [List.length_cons, List.cons_append, List.cons_append, cardTail_inside hc hd,
        List.head?_map, ih]
      show some (1 + (_ + _)) = some (_ + _)
      rw [← Nat.add_assoc, Nat.add_comm 1]

theorem linked_iff {g : Group} : g.linked = true ↔ ∃ d, g.gap = [d] ∧ isSep d = true := by
  rw [Group.linked, Bool.or_eq_true, beq_iff_eq, beq_iff_eq]
  constructor
  · intro h
    rcases h with h | h
    · exact ⟨' ', h, rfl⟩
    · exact ⟨'-', h, rfl⟩
  · intro h
    obtain ⟨d, hgap, hsep⟩ := h
    rw [isSep, Bool.or_eq_true, beq_iff_eq, beq_iff_eq] at hsep
    rcases hsep with hd | hd
    · exact .inl (hd ▸ hgap)
    · exact .inr (hd ▸ hgap)

theorem Group.Ok.run_of_gap {g : Group} (h : g.Ok u false) (hgap : g.gap = []) : g.run = [] := by
  rcases h.apart with hstart | hne | hrun
  · cases hstart
  · exact absurd hgap hne
  · exact hrun

theorem digits_run {run : List Char} (hrun : ∀ c ∈ run, u.isDecimal c = true) :
    digits u run = run := List.filter_eq_self.mpr hrun

/-- The separator a card takes along. -/
theorem trailing_eq {g : Group} {gs : List Group} (h : Formed u false (g :: gs)) :
    ((render (g :: gs)).head?.any isSep && !(render (g :: gs)).tail.head?.any u.isDecimal) =
      g.trailing := by
  obtain ⟨hok, hlast, hrest⟩ := h
  rw [render, Group.trailing]
  cases hgap : g.gap with
  | nil =>
    have hrun := hok.run_of_gap hgap
    rw [hrun, hlast hrun]
    rfl
  | cons d gap =>
    -- a separator is taken along when it is the whole of what stands before a character that is no
    -- digit
    rw [List.cons_append, List.head?_cons, List.head?_cons, List.tail_cons, List.tail_cons]
    congr 1
    cases gap with
    | nil =>
      rw [List.nil_append]
      cases hrun : g.run with
      | nil =>
        rw [hlast hrun]
        rfl
      | cons c run =>
        have hc := hok.run c (hrun ▸ .head _)
        rw [List.cons_append, List.head?_cons, Option.any_some, hc]
        rfl
    | cons e gap =>
      have he := hok.gap e (hgap ▸ .tail _ (.head _))
      rw [List.cons_append, List.head?_cons, Option.any_some, he]
      rfl

theorem cardTail_short_first {run : List Char} (hrun : ∀ c ∈ run, u.isDecimal c = true)
    (hne : run ≠ []) {s : List Char} (hs : s.head?.any u.isDecimal = false) {n : ℕ}
    (hlength : run.length < n) (prev : Option Char) : (cardTail u n).first prev (run ++ s) =
      ((Pattern.seq (.one isSep) (cardTail u (n - run.length))).first (after prev run) s).map
        (run.length + ·) := by
  obtain ⟨k, rfl⟩ := Nat.exists_eq_add_of_lt hlength
  have hsub : run.length + k + 1 - run.length = k + 1 := by omega
  rw [first, Nat.add_assoc, cardTail_short hrun hne hs, List.head?_map, ← Nat.add_assoc, hsub]
  rfl

/-- In front of a group that is not linked no card goes on. -/
theorem sep_first_unlinked {g : Group} {gs : List Group} (h : Formed u false (g :: gs))
    (hlinked : ¬ g.linked = true) (n : ℕ) (prev : Option Char) :
    (Pattern.seq (.one isSep) (cardTail u (n + 1))).first prev (render (g :: gs)) = none := by
  obtain ⟨hok, hlast, hrest⟩ := h
  rw [first, render]
  cases hgap : g.gap with
  | nil =>
    have hrun := hok.run_of_gap hgap
    rw [hrun, hlast hrun]
    rfl
  | cons d gap =>
    rw [List.cons_append, ends_seq_one_cons]
    by_cases hsep : isSep d = true
    · cases gap with
      | nil => exact absurd (linked_iff.mpr ⟨d, hgap, hsep⟩) hlinked
      | cons e gap =>
        have he := hok.gap e (hgap ▸ .tail _ (.head _))
        rw [if_pos hsep, cardTail_succ_gap]
        · rfl
        · exact he
    · rw [if_neg hsep]
      rfl

/-- Where the pattern matches from a run on, and how far. -/
theorem cardFrom_spec {gs : List Group} (hgs : Formed u false gs) {run : List Char}
    (hrun : ∀ c ∈ run, u.isDecimal c = true) (hne : run ≠ []) (n : ℕ) (prev : Option Char) :
    (cardFrom n run gs = none → (cardTail u n).first prev (run ++ render gs) = none) ∧
      ∀ card, cardFrom n run gs = some card → ∃ m, run ++ render gs = m ++ render (trim card.2) ∧
        (cardTail u n).first prev (run ++ render gs) = some m.length ∧ digits u m = card.1 := by
  -- runs longer than what is left of the sixteen digits never match
  have hlong : n < run.length → ∀ gs, (cardTail u n).first prev (run ++ render gs) = none := by
    intro hlength gs
    rw [first, cardTail_long hrun hlength]
    rfl
  -- along the groups: each linked run uses up some of the digits
  induction gs generalizing n run prev with
  | nil =>
    rw [cardFrom]
    rcases Nat.lt_trichotomy run.length n with hlength | hlength | hlength
    · rw [if_neg hlength.ne]
      refine ⟨fun _ => ?_, fun card hcard => (by cases hcard)⟩
      rw [cardTail_short_first hrun hne rfl hlength]
      rfl
    -- the digits are complete, and no digit stands behind the run
    · rw [if_pos hlength]
      refine ⟨fun h => (by cases h), fun card hcard => ⟨run, ?_, ?_, ?_⟩⟩
      · rw [← Option.some.inj hcard]
        rfl
      · rw [← hlength, cardTail_exact hrun hne rfl]
        rfl
      · rw [← Option.some.inj hcard]
        exact digits_run hrun
    · rw [if_neg hlength.ne']
      exact ⟨fun _ => hlong hlength [], fun card hcard => (by cases hcard)⟩
  | cons g gs ih =>
    obtain ⟨hok, hlast, hrest⟩ := hgs
    have hformed : Formed u false (g :: gs) := ⟨hok, hlast, hrest⟩
    rw [cardFrom]
    rcases Nat.lt_trichotomy run.length n with hlength | hlength | hlength
    -- more digits are needed: they have to be in the next group, behind one separator
    · rw [if_neg hlength.ne, cardTail_short_first hrun hne hformed.stops hlength]
      obtain ⟨k, hk⟩ : ∃ k, n - run.length = k + 1 := ⟨n - run.length - 1, by omega⟩
      rw [hk]
      by_cases hlinked : g.linked = true
      · rw [if_pos ⟨hlength, hlinked⟩]
        obtain ⟨d, hgap, hsep⟩ := linked_iff.mp hlinked
        have hfirst : ∀ prev, (Pattern.seq (.one isSep) (cardTail u (k + 1))).first prev
            (render (g :: gs)) =
              ((cardTail u (k + 1)).first (some d) (g.run ++ render gs)).map (1 + ·) := by
          intro prev
          rw [first, render, hgap, List.cons_append, ends_seq_one_cons, if_pos hsep, List.head?_map]
          rfl
        rw [hfirst]
        by_cases hrun' : g.run = []
        · -- the last gap is one separator: no digits are left
          rw [hrun', hlast hrun']
          refine ⟨fun _ => ?_, fun card hcard => (by cases hcard)⟩
          rw [first, List.nil_append, cardTail_succ_gap]
          · rfl
          · rfl
        · have hlong' : k + 1 < g.run.length →
              ∀ gs, (cardTail u (k + 1)).first (some d) (g.run ++ render gs) = none := by
            intro hlength gs
            rw [first, cardTail_long hok.run hlength]
            rfl
          obtain ⟨hnone, hsome⟩ := ih hrest hok.run hrun' (k + 1) (some d) hlong'
          refine ⟨fun h => ?_, fun card hcard => ?_⟩
          · rw [hnone (Option.map_eq_none_iff.mp h)]
            rfl
          · obtain ⟨card', hcard', heq⟩ := Option.map_eq_some_iff.mp hcard
            obtain ⟨m, htext, hm, hdigits⟩ := hsome card' hcard'
            rw [← heq]
            refine ⟨run ++ d :: m, ?_, ?_, ?_⟩
            · rw [render, hgap, List.append_assoc, List.cons_append, List.cons_append,
                List.nil_append, htext]
            · rw [hm]
              show some (run.length + (1 + m.length)) = _
              rw [List.length_append, List.length_cons, Nat.add_comm 1]
            · rw [digits, List.filter_append, List.filter_cons_of_neg]
              · show digits u run ++ digits u m = _
                rw [digits_run hrun, hdigits]
              · rw [isSep_not_decimal hsep]
                exact Bool.false_ne_true
      · rw [if_neg fun h => hlinked h.2, sep_first_unlinked hformed hlinked]
        exact ⟨fun _ => rfl, fun card hcard => (by cases hcard)⟩
    · rw [if_pos hlength]
      refine ⟨fun h => (by cases h), fun card hcard => ?_⟩
      rw [← Option.some.inj hcard, trim]
      have hexact := cardTail_exact hrun hne hformed.stops prev
      rw [trailing_eq hformed, hlength] at hexact
      -- a separator behind the card goes with it, if no digit follows
      by_cases htrailing : g.trailing = true
      · rw [if_pos htrailing] at hexact ⊢
        have hhead := htrailing
        rw [Group.trailing, Bool.and_eq_true] at hhead
        cases hgap : g.gap with
        | nil =>
          rw [hgap] at hhead
          cases hhead.1
        | cons d gap =>
          rw [hgap] at hhead
          refine ⟨run ++ [d], ?_, ?_, ?_⟩
          · rw [render, render, hgap, List.append_assoc]
            rfl
          · rw [hexact, List.length_append, hlength]
            rfl
          · rw [digits, List.filter_append, List.filter_cons_of_neg]
            · show digits u run ++ [] = run
              rw [digits_run hrun, List.append_nil]
            · have hsep : isSep d = true := hhead.1
              rw [isSep_not_decimal hsep]
              exact Bool.false_ne_true
      · rw [if_neg htrailing] at hexact ⊢
        refine ⟨run, rfl, ?_, digits_run hrun⟩
        rw [hexact, hlength]
        rfl
    · rw [if_neg hlength.ne', if_neg fun h => absurd h.1 (Nat.not_lt.mpr hlength.le)]
      exact ⟨fun _ => hlong hlength _, fun card hcard => (by cases hcard)⟩

theorem Formed.weaken {start : Bool} {gs : List Group} (h : Formed u false gs) :
    Formed u start gs := by
  cases gs with
  | nil => trivial
  | cons g gs => exact ⟨h.1.weaken, h.2⟩

theorem trim_formed {gs : List Group} (h : Formed u false gs) : Formed u false (trim gs) := by
  cases gs with
  | nil => trivial
  | cons g gs =>
    obtain ⟨hok, hlast, hrest⟩ := h
    rw [trim]
    by_cases htrailing : g.trailing = true
    · rw [if_pos htrailing]
      refine ⟨⟨fun c hc => hok.gap c (List.mem_of_mem_tail hc), hok.run, .inr ?_⟩, hlast, hrest⟩
      rw [Group.trailing, Bool.and_eq_true, Bool.or_eq_true] at htrailing
      exact htrailing.2.imp (fun h => by simpa using h) (fun h => by simpa using h)
    · rw [if_neg htrailing]
      exact ⟨hok, hlast, hrest⟩

/-- A card has so many digits, and groups of the text are left. -/
theorem cardFrom_sound {n : ℕ} {gs : List Group} (hgs : Formed u false gs) {run : List Char}
    (hrun : ∀ c ∈ run, u.isDecimal c = true) {card : List Char × List Group}
    (h : cardFrom n run gs = some card) :
    card.1.length = n ∧ (∀ c ∈ card.1, u.isDecimal c = true) ∧ Formed u false card.2 := by
  -- the digits of a card are whole runs, so their lengths add up
  induction gs generalizing n run card with
  | nil =>
    rw [cardFrom] at h
    obtain ⟨hlength, h⟩ := Option.ite_none_right_eq_some.mp h
    rw [← Option.some.inj h]
    exact ⟨hlength, hrun, trivial⟩
  | cons g gs ih =>
    rw [cardFrom] at h
    by_cases hlength : run.length = n
    · rw [if_pos hlength] at h
      rw [← Option.some.inj h]
      exact ⟨hlength, hrun, hgs⟩
    · rw [if_neg hlength] at h
      obtain ⟨hboth, h⟩ := Option.ite_none_right_eq_some.mp h
      obtain ⟨card', hcard, heq⟩ := Option.map_eq_some_iff.mp h
      obtain ⟨hlength', hdigits, hformed⟩ := ih hgs.2.2 hgs.1.run hcard
      rw [← heq]
      refine ⟨?_, fun c hc => ?_, hformed⟩
      · rw [List.length_append, hlength']
        omega
      · rcases List.mem_append.mp hc with hc | hc
        · exact hrun c hc
        · exact hdigits c hc

theorem cardRe_first_gap {c : Char} (hc : u.isDecimal c = false) (prev : Option Char)
    (s : List Char) : (cardRe u).first prev (c :: s) = none := by
  have hhead : (c :: s).head?.any u.isDecimal = false := hc
  have hends : (cardTail u 16).ends prev (c :: s) = [] := cardTail_succ_gap hhead 15 prev
  rw [first, cardRe]
  cases hprev : prev.any u.isDecimal with
  | true =>
    rw [ends_notBehind _ hprev]
    rfl
  | false =>
    rw [ends_notBehind_free _ hprev]
    show ((cardTail u 16).ends prev (c :: s)).head? = none
    rw [hends]
    rfl

theorem cardRe_first_nil (prev : Option Char) : (cardRe u).first prev [] = none := by
  rw [first, cardRe]
  cases hprev : prev.any u.isDecimal with
  | true => rw [ends_notBehind _ hprev]; rfl
  | false => rw [ends_notBehind_free _ hprev]; rfl

theorem cardRe_first_run {prev : Option Char} (hprev : prev.any u.isDecimal = false)
    (s : List Char) : (cardRe u).first prev s = (cardTail u 16).first prev s := by
  rw [first, cardRe, ends_notBehind_free _ hprev]
  rfl

theorem quiet_cards {start : Bool} {g : Group} {gs : List Group} {prev : Option Char}
    (h : Formed u start (g :: gs)) (hprev : start = true → prev = none)
    (hnone : cardFrom 16 g.run gs = none) : Quiet (cardRe u) prev (g.gap ++ g.run) (render gs) := by
  apply quiet_append
  · exact quiet_of_forall fun c hc prev s => cardRe_first_gap (h.1.gap c hc) prev s
  · by_cases hrun : g.run = []
    · rw [hrun]
      trivial
    · have hfirst := (cardFrom_spec h.2.2 h.1.run hrun 16 (after prev g.gap)).1 hnone
      rw [← cardRe_first_run (free_at_run h.1 hprev hrun)] at hfirst
      exact quiet_run h.1.run hfirst

/-- The match of a card that begins with the run. -/
theorem card_match {start : Bool} {g : Group} {gs : List Group} {prev : Option Char}
    (h : Formed u start (g :: gs)) (hprev : start = true → prev = none)
    {card : List Char × List Group} (hcard : cardFrom 16 g.run gs = some card) : g.run ≠ [] ∧
      ∃ m, g.run ++ render gs = m ++ render (trim card.2) ∧ m ≠ [] ∧
        (cardRe u).first (after prev g.gap) (g.run ++ render gs) = some m.length ∧
        digits u m = card.1 ∧ m.countP u.isDecimal = 16 := by
  have hrun : g.run ≠ [] := by
    intro hrun
    rw [hrun, h.2.1 hrun] at hcard
    cases hcard
  obtain ⟨-, hsome⟩ := cardFrom_spec h.2.2 h.1.run hrun 16 (after prev g.gap)
  obtain ⟨m, htext, hfirst, hdigits⟩ := hsome card hcard
  rw [← cardRe_first_run (free_at_run h.1 hprev hrun)] at hfirst
  have hcount := (cardFrom_sound h.2.2 h.1.run hcard).1
  rw [← hdigits, digits, ← List.countP_eq_length_filter] at hcount
  -- a card has sixteen digits, so the match is not empty
  have hm : m ≠ [] := by
    intro hm
    rw [hm] at hcount
    cases hcount
  exact ⟨hrun, m, htext, hm, hfirst, hdigits, hcount⟩

theorem cardRe_subFrom (length : ℕ) (gs : List Group) (hlength : gs.length = length) {start : Bool}
    {prev : Option Char} (h : Formed u start gs) (hprev : start = true → prev = none) :
    (cardRe u).subFrom (maskCard u) 0 prev (render gs) = render (cardGroups gs) := by
  have hfalse : ∀ prev : Option Char, false = true → prev = none := by
    intro prev h
    cases h
  -- strong induction on the number of groups: behind a card the scan goes on after all its groups
  induction length using Nat.strong_induction_on generalizing gs start prev with
  | _ length ih =>
    cases gs with
    | nil =>
      rw [cardGroups, render, subFrom, cardRe_first_nil]
      rfl
    | cons g gs =>
      rw [render]
      cases hcard : cardFrom 16 g.run gs with
      | none =>
        -- no card begins with this run: the run stays as it is
        rw [cardGroups_none hcard, render, ← List.append_assoc,
          subFrom_quiet (quiet_cards h hprev hcard),
          ih gs.length (by rw [← hlength]; exact Nat.lt_succ_self _) gs rfl h.2.2 (hfalse _),
          List.append_assoc]
      | some card =>
        obtain ⟨-, m, htext, hm, hfirst, hdigits, -⟩ := card_match h hprev hcard
        have hgap : Quiet (cardRe u) prev g.gap (g.run ++ render gs) :=
          quiet_of_forall fun c hc prev s => cardRe_first_gap (h.1.gap c hc) prev s
        have hshort : (trim card.2).length < length := by
          rw [trim_length, ← hlength]
          exact Nat.lt_succ_of_le (cardFrom_length hcard)
        have hformed := (cardFrom_sound h.2.2 h.1.run hcard).2.2
        rw [subFrom_quiet hgap]
        rw [htext] at hfirst
        rw [cardGroups_some hcard, render, mask_run_text, htext, subFrom_match hm hfirst, maskCard,
          hdigits, ih _ hshort (trim card.2) rfl (trim_formed hformed) (hfalse _)]

theorem cardRe_sub {gs : List Group} (h : Formed u true gs) :
    (cardRe u).sub (maskCard u) (render gs) = render (cardGroups gs) :=
  cardRe_subFrom _ gs rfl h fun _ => rfl

/-- A card that begins with a run is found. -/
theorem cardRe_occurs {front : List Group} {g : Group} {gs : List Group} {start : Bool}
    {prev : Option Char} (h : Formed u start (front ++ g :: gs))
    (hprev : start = true → prev = none)
    (hrun : g.run ≠ []) (hcard : (cardFrom 16 g.run gs).isSome = true) :
    (cardRe u).occursFrom prev (render (front ++ g :: gs)) = true := by
  induction front generalizing start prev with
  | nil =>
    obtain ⟨hok, -, hrest⟩ := h
    obtain ⟨card, hcard⟩ := Option.isSome_iff_exists.mp hcard
    obtain ⟨-, hsome⟩ := cardFrom_spec hrest hok.run hrun 16 (after prev g.gap)
    obtain ⟨m, -, hfirst, -⟩ := hsome card hcard
    rw [← cardRe_first_run (free_at_run hok hprev hrun)] at hfirst
    apply occursFrom_append
    apply occursFrom_of_first
    rw [hfirst]
    rfl
  | cons g' front ih =>
    apply occursFrom_append
    apply occursFrom_append
    exact ih h.2.2 fun h => (by cases h)

end

end JibitSdk.Guarantees
