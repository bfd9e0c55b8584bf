import JibitSdk.Guarantees.GroupScans

/-!
# What redaction leaves

The four digits of a mask can make a card with the groups behind them, and nothing else that
redaction leaves is an identifier.
-/

namespace JibitSdk.Guarantees

open JibitSdk.Python JibitSdk.Reasoning JibitSdk.Reasoning.Pattern JibitSdk.Sdk

/-- The groups of a text with its identifiers masked. -/
def identified (u : CharClasses) (s : List Char) : List Group :=
  mapGroups nationalIdGroup true (mapGroups mobileGroup true
    (cardGroups (mapGroups (ibanGroup u) true (groups u s))))

/-- The four digits of a masked identifier and twelve more, which follow in groups with one
    separator before each. -/
def Rejoins (gs : List Group) : Prop :=
  ∃ front g next back, gs = front ++ g :: next :: back ∧ g.masked = true ∧ next.linked = true ∧
    (cardFrom 12 next.run back).isSome = true

section
variable {u : CharClasses}

/-! ## 1. Rewritten groups -/

/-- A group as a pass leaves it: as it was, or masked, with the gap beginning as it did. -/
inductive Rewritten (u : CharClasses) (start : Bool) (g : Group) : Group → Prop
  | same : Rewritten u start g g
  | mask {stars : ℕ} {gap : List Char} (hstars : 0 < stars)
      (hgap : ∀ c ∈ gap, u.isDecimal c = false)
      (hrun : 4 < g.run.length)
      (hhead : start = false → (gap ++ List.replicate stars '*').head? = g.gap.head?) :
      Rewritten u start g (.mask stars gap g.run)

theorem mask_run_length {stars : ℕ} {gap run : List Char} (h : 4 ≤ run.length) :
    (Group.mask stars gap run).run.length = 4 := by
  show (run.drop (run.length - 4)).length = 4
  rw [List.length_drop]
  omega

theorem mask_ok {stars : ℕ} {gap run : List Char} (hstars : 0 < stars)
    (hgap : ∀ c ∈ gap, u.isDecimal c = false) (hrun : ∀ c ∈ run, u.isDecimal c = true)
    (start : Bool) :
    (Group.mask stars gap run).Ok u start := by
  refine ⟨fun c hc => ?_, fun c hc => hrun c (List.mem_of_mem_drop hc), .inr (.inl ?_)⟩
  · rcases List.mem_append.mp hc with hc | hc
    · exact hgap c hc
    · rw [List.eq_of_mem_replicate hc]
      exact star_not_decimal u
  · intro h
    have hempty := (List.append_eq_nil_iff.mp h).2
    rw [List.replicate_eq_nil_iff] at hempty
    omega

/-- No separator stands alone before a mask. -/
theorem mask_unlinked {stars : ℕ} (hstars : 0 < stars) (gap run : List Char) :
    (Group.mask stars gap run).linked = false := by
  rw [Bool.eq_false_iff]
  intro h
  obtain ⟨d, hgap, hsep⟩ := linked_iff.mp h
  have hmem : '*' ∈ gap ++ List.replicate stars '*' :=
    List.mem_append_right _ (List.mem_replicate.mpr ⟨hstars.ne', rfl⟩)
  have hstar : '*' ∈ [d] := hgap ▸ hmem
  rw [← List.mem_singleton.mp hstar] at hsep
  cases hsep

theorem Rewritten.ok {start : Bool} {g g' : Group} (h : Rewritten u start g g')
    (hok : g.Ok u start) :
    g'.Ok u start := by
  cases h with
  | same => exact hok
  | mask hstars hgap _ _ => exact mask_ok hstars hgap hok.run start

theorem Rewritten.run_nil {start : Bool} {g g' : Group} (h : Rewritten u start g g')
    (hrun : g'.run = []) : g.run = [] := by
  cases h with
  | same => exact hrun
  | mask _ _ hlength _ =>
    have hfour : (Group.mask 0 [] g.run).run.length = 4 := mask_run_length hlength.le
    have hzero : (g.run.drop (g.run.length - 4)).length = 0 := by
      rw [List.length_eq_zero_iff]
      exact hrun
    rw [show (g.run.drop (g.run.length - 4)).length = 4 from hfour] at hzero
    cases hzero

theorem replicate_head {gap : List Char} (hgap : gap ≠ []) (stars : ℕ) :
    (gap ++ List.replicate stars '*').head? = gap.head? := by
  cases gap with
  | nil => exact absurd rfl hgap
  | cons c gap => rfl

theorem Group.Ok.gap_ne_nil {g : Group} (h : g.Ok u false) (hrun : g.run ≠ []) : g.gap ≠ [] :=
  fun hgap => hrun (h.run_of_gap hgap)

theorem ne_nil_of_length {run : List Char} (h : 4 < run.length) : run ≠ [] := by
  intro hnil
  rw [hnil] at h
  cases h

/-- A mask behind the whole gap. -/
theorem rewritten_run {start : Bool} {g : Group} (hok : g.Ok u start) {stars : ℕ}
    (hstars : 0 < stars)
    (hrun : 4 < g.run.length) : Rewritten u start g (.mask stars g.gap g.run) := by
  apply Rewritten.mask hstars hok.gap hrun
  intro hstart
  rw [hstart] at hok
  exact replicate_head (hok.gap_ne_nil (ne_nil_of_length hrun)) stars

theorem nationalIdGroup_rewritten {start : Bool} {g : Group} (hok : g.Ok u start)
    (gs : List Group) :
    Rewritten u start g (nationalIdGroup start g gs) := by
  rw [nationalIdGroup]
  by_cases hlength : g.run.length = 10
  · rw [if_pos hlength]
    exact rewritten_run hok (by decide) (by omega)
  · rw [if_neg hlength]
    exact .same

theorem mobileGroup_rewritten {start : Bool} {g : Group} (hok : g.Ok u start) (gs : List Group) :
    Rewritten u start g (mobileGroup start g gs) := by
  rw [mobileGroup]
  by_cases hplus : plusMobile start g = true
  · rw [if_pos hplus]
    have hlength := plusMobile_length hplus
    -- the plus goes with the number; what is left of the gap keeps its first character
    apply Rewritten.mask (by decide) (fun c hc => hok.gap c (List.dropLast_subset _ hc)) (by omega)
    intro hstart
    rw [plusMobile, hstart, Bool.false_or, Bool.and_eq_true, Bool.and_eq_true,
      Bool.and_eq_true] at hplus
    have hne : g.gap.dropLast ≠ [] := by simpa using hplus.1.1.2
    rw [replicate_head hne]
    cases hgap : g.gap with
    | nil =>
      rw [hgap] at hne
      exact absurd rfl hne
    | cons c gap =>
      cases gap with
      | nil =>
        rw [hgap] at hne
        exact absurd rfl hne
      | cons d gap => rfl
  · rw [if_neg hplus]
    by_cases hmobile : mobileRun g.run = true
    · rw [if_pos hmobile]
      have hlength := mobileRun_length hmobile
      exact rewritten_run hok (by decide) (by omega)
    · rw [if_neg hmobile]
      exact .same

/-- Behind a digit the letters of an IBAN do not begin a gap. -/
theorem ibanFront_ne_nil {p front : List Char} (h : ibanFront u (some '0') p = some front) :
    front ≠ [] := by
  obtain ⟨i, r, -, hletters⟩ := ibanFront_eq_some h
  intro hnil
  have hzero := u.word_of_decimal '0' (u.decimal_of_ascii '0' (by decide))
  rw [hnil, after, Option.any_some, hzero, Bool.not_true, Bool.and_false] at hletters
  cases hletters

theorem ibanGroup_rewritten {start : Bool} {g : Group} (hok : g.Ok u start) (gs : List Group) :
    Rewritten u start g (ibanGroup u start g gs) := by
  rw [ibanGroup]
  by_cases hrun : ibanRun u g.run gs = true
  · rw [if_pos hrun]
    cases hfront : ibanFront u (if start then none else some '0') g.gap with
    | none => exact .same
    | some front =>
      have hlength := ibanRun_length hrun
      obtain ⟨i, r, hgap, -⟩ := ibanFront_eq_some hfront
      refine .mask (by decide) (fun c hc => ?_) (by omega) fun hstart => ?_
      · rcases List.mem_append.mp hc with hc | hc
        · exact hok.gap c (hgap ▸ List.mem_append_left _ hc)
        · have hletters : ∀ c ∈ ['I', 'R'], c.isAlpha = true :=
            List.all_eq_true.mp (by decide)
          exact u.decimal_not_alpha c (hletters c hc)
      · rw [hstart] at hfront
        have hne := ibanFront_ne_nil hfront
        rw [hgap]
        cases front with
        | nil => exact absurd rfl hne
        | cons c front => rfl
  · rw [if_neg hrun]
    exact .same

/-! ## 2. Passes over formed groups -/

/-- A pass that leaves each group or masks it. -/
def Rewrites (u : CharClasses) (f : Bool → Group → List Group → Group) : Prop :=
  ∀ start g gs, g.Ok u start → Rewritten u start g (f start g gs)

theorem ibanGroup_rewrites : Rewrites u (ibanGroup u) :=
  fun _ _ gs hok => ibanGroup_rewritten hok gs

theorem mobileGroup_rewrites : Rewrites u mobileGroup :=
  fun _ _ gs hok => mobileGroup_rewritten hok gs

theorem nationalIdGroup_rewrites : Rewrites u nationalIdGroup :=
  fun _ _ gs hok => nationalIdGroup_rewritten hok gs

section
variable {f : Bool → Group → List Group → Group}

theorem mapGroups_formed (hf : Rewrites u f) {start : Bool} {gs : List Group}
    (h : Formed u start gs) : Formed u start (mapGroups f start gs) := by
  induction gs generalizing start with
  | nil => trivial
  | cons g gs ih =>
    obtain ⟨hok, hlast, hrest⟩ := h
    have hrewritten := hf start g gs hok
    refine ⟨hrewritten.ok hok, fun hrun => ?_, ih hrest⟩
    rw [hlast (hrewritten.run_nil hrun)]
    rfl

/-- The first character of a text behind a run. -/
theorem render_head {g : Group} {gs : List Group} (h : Formed u false (g :: gs)) :
    (render (g :: gs)).head? = g.gap.head? := by
  rw [render]
  cases hgap : g.gap with
  | nil =>
    have hrun := h.1.run_of_gap hgap
    rw [hrun, h.2.1 hrun]
    rfl
  | cons c gap => rfl

theorem mapGroups_head (hf : Rewrites u f) {gs : List Group} (h : Formed u false gs) :
    (render (mapGroups f false gs)).head? = (render gs).head? := by
  cases gs with
  | nil => rfl
  | cons g gs =>
    have hformed := mapGroups_formed hf h
    rw [mapGroups] at hformed ⊢
    rw [render_head h, render_head hformed]
    have hrewritten := hf false g gs h.1
    generalize f false g gs = g' at hrewritten
    cases hrewritten with
    | same => rfl
    | mask _ _ _ hhead => exact hhead rfl

theorem cardGroups_formed (length : ℕ) (gs : List Group)
    (hlength : gs.length = length) {start : Bool}
    (h : Formed u start gs) : Formed u start (cardGroups gs) := by
  -- strong induction: behind a card the scan goes on after all its groups
  induction length using Nat.strong_induction_on generalizing gs start with
  | _ length ih =>
    cases gs with
    | nil =>
      rw [cardGroups]
      trivial
    | cons g gs =>
      obtain ⟨hok, hlast, hrest⟩ := h
      cases hcard : cardFrom 16 g.run gs with
      | none =>
        rw [cardGroups_none hcard]
        refine ⟨hok, fun hrun => ?_, ih gs.length ?_ gs rfl hrest⟩
        · rw [hlast hrun, cardGroups]
        · rw [← hlength]
          exact Nat.lt_succ_self _
      | some card =>
        obtain ⟨hcount, hdigits, hformed⟩ := cardFrom_sound hrest hok.run hcard
        rw [cardGroups_some hcard]
        -- a masked run has four digits, so it is not empty
        have hfour : (Group.mask 12 g.gap card.1).run.length = 4 := mask_run_length (by omega)
        refine ⟨mask_ok (by decide) hok.gap hdigits start, fun hrun => ?_,
          ih (trim card.2).length ?_ _ rfl (trim_formed hformed)⟩
        · rw [hrun] at hfour
          cases hfour
        · rw [trim_length, ← hlength]
          exact Nat.lt_succ_of_le (cardFrom_length hcard)

theorem cardGroups_head {gs : List Group} (h : Formed u false gs) :
    (render (cardGroups gs)).head? = (render gs).head? := by
  cases gs with
  | nil => rw [cardGroups]
  | cons g gs =>
    have hformed := cardGroups_formed _ (g :: gs) rfl h
    cases hcard : cardFrom 16 g.run gs with
    | none =>
      rw [cardGroups_none hcard] at hformed ⊢
      rw [render_head h, render_head hformed]
    | some card =>
      rw [cardGroups_some hcard] at hformed ⊢
      rw [render_head h, render_head hformed]
      have hrun : g.run ≠ [] := by
        intro hrun
        rw [hrun, h.2.1 hrun] at hcard
        cases hcard
      exact replicate_head (h.1.gap_ne_nil hrun) 12

/-! ## 3. Groups a pass has nothing to do with -/

/-- The pass leaves every group. -/
def Fixed (f : Bool → Group → List Group → Group) : Bool → List Group → Prop
  | _, [] => True
  | start, g :: gs => f start g gs = g ∧ Fixed f false gs

theorem mapGroups_eq_self {start : Bool} {gs : List Group} (h : Fixed f start gs) :
    mapGroups f start gs = gs := by
  induction gs generalizing start with
  | nil => rfl
  | cons g gs ih => rw [mapGroups, h.1, ih h.2]

/-- Four digits are no identifier, and whether a run is one depends on the
    character behind it only. -/
structure Settles (f : Bool → Group → List Group → Group) : Prop where
  four : ∀ start g gs, g.run.length = 4 → f start g gs = g
  congr : ∀ start g gs gs', (render gs').head? = (render gs).head? →
    f start g gs = g → f start g gs' = g

theorem nationalIdGroup_settles : Settles nationalIdGroup where
  four start g gs h := by rw [nationalIdGroup, if_neg (by omega)]
  congr _ _ _ _ _ h := h

theorem mobileGroup_settles : Settles mobileGroup where
  four start g gs h := by
    rw [mobileGroup, if_neg, if_neg]
    · intro hmobile
      have := mobileRun_length hmobile
      omega
    · intro hplus
      have := plusMobile_length hplus
      omega
  congr _ _ _ _ _ h := h

theorem ibanGroup_settles : Settles (ibanGroup u) where
  four start g gs h := by
    rw [ibanGroup, if_neg]
    intro hrun
    have := ibanRun_length hrun
    omega
  congr start g gs gs' hhead h := by
    have hrun : ibanRun u g.run gs' = ibanRun u g.run gs := by rw [ibanRun, ibanRun, hhead]
    rw [ibanGroup, hrun]
    exact h

/-- Such a pass has nothing left to do. -/
theorem fixed_mapGroups_self (hf : Rewrites u f) (hsettles : Settles f) {start : Bool}
    {gs : List Group} (h : Formed u start gs) : Fixed f start (mapGroups f start gs) := by
  induction gs generalizing start with
  | nil => trivial
  | cons g gs ih =>
    obtain ⟨hok, hlast, hrest⟩ := h
    refine ⟨?_, ih hrest⟩
    have hrewritten := hf start g gs hok
    generalize hg' : f start g gs = g' at hrewritten
    cases hrewritten with
    | same => exact hsettles.congr start g gs _ (mapGroups_head hf hrest) hg'
    | mask _ _ hlength _ => exact hsettles.four _ _ _ (mask_run_length hlength.le)

/-- Another pass leaves it that way. -/
theorem fixed_mapGroups {h : Bool → Group → List Group → Group} (hh : Rewrites u h)
    (hsettles : Settles f) {start : Bool} {gs : List Group} (hformed : Formed u start gs)
    (hfixed : Fixed f start gs) : Fixed f start (mapGroups h start gs) := by
  induction gs generalizing start with
  | nil => trivial
  | cons g gs ih =>
    obtain ⟨hok, hlast, hrest⟩ := hformed
    refine ⟨?_, ih hrest hfixed.2⟩
    have hrewritten := hh start g gs hok
    generalize h start g gs = g' at hrewritten
    cases hrewritten with
    | same => exact hsettles.congr start g gs _ (mapGroups_head hh hrest) hfixed.1
    | mask _ _ hlength _ => exact hsettles.four _ _ _ (mask_run_length hlength.le)

end

/-- Without the separator before it no gap becomes that of an IBAN. -/
theorem ibanFront_tail {c : Char} {gap front : List Char}
    (h : ibanFront u (some '0') gap = some front) : ∃ front', ibanFront u (some '0') (c :: gap) =
      some front' := by
  have hne := ibanFront_ne_nil h
  cases gap with
  | nil => cases h
  | cons d gap =>
    cases gap with
    | nil => cases h
    | cons e gap =>
      cases gap with
      | nil =>
        rw [ibanFront] at h
        obtain ⟨-, h⟩ := Option.ite_none_right_eq_some.mp h
        exact absurd (Option.some.inj h).symm hne
      | cons k gap => exact ⟨c :: front, congrArg (Option.map (c :: ·)) h⟩

theorem trim_fixed_iban {gs : List Group} (h : Fixed (ibanGroup u) false gs) :
    Fixed (ibanGroup u) false (trim gs) := by
  cases gs with
  | nil => trivial
  | cons g gs =>
    rw [trim]
    by_cases htrailing : g.trailing = true
    · rw [if_pos htrailing]
      refine ⟨?_, h.2⟩
      have hfixed := h.1
      rw [ibanGroup] at hfixed ⊢
      by_cases hrun : ibanRun u g.run gs = true
      · rw [if_pos hrun] at hfixed ⊢
        cases hfront : ibanFront u (some '0') g.gap.tail with
        | none =>
          show (ibanFront u (some '0') g.gap.tail).elim _ _ = _
          rw [hfront]
          rfl
        | some front =>
          -- the group would have been masked with its separator
          cases hgap : g.gap with
          | nil =>
            rw [hgap] at hfront
            cases hfront
          | cons c gap =>
            rw [hgap, List.tail_cons] at hfront
            obtain ⟨front', hfront'⟩ := ibanFront_tail (c := c) hfront
            have hmask : (ibanFront u (some '0') g.gap).elim g
                (fun front => Group.mask 20 (front ++ ['I', 'R']) g.run) = g := hfixed
            rw [hgap, hfront'] at hmask
            have hlong : 4 ≤ g.run.length := by
              rw [ibanRun_length hrun]
              decide
            have hfour : (Group.mask 20 (front' ++ ['I', 'R']) g.run).run.length = 4 :=
              mask_run_length hlong
            have hmasked : (Group.mask 20 (front' ++ ['I', 'R']) g.run).run = g.run :=
              congrArg Group.run hmask
            rw [hmasked, ibanRun_length hrun] at hfour
            cases hfour
      · rw [if_neg hrun]
    · rw [if_neg htrailing]
      exact h

theorem cardFrom_fixed {n : ℕ} {run : List Char} {gs : List Group} {card : List Char × List Group}
    {f : Bool → Group → List Group → Group} (h : Fixed f false gs)
    (hcard : cardFrom n run gs = some card) : Fixed f false card.2 := by
  induction gs generalizing n run card with
  | nil =>
    rw [cardFrom] at hcard
    obtain ⟨-, hcard⟩ := Option.ite_none_right_eq_some.mp hcard
    rw [← Option.some.inj hcard]
    trivial
  | cons g gs ih =>
    rw [cardFrom] at hcard
    by_cases hlength : run.length = n
    · rw [if_pos hlength] at hcard
      rw [← Option.some.inj hcard]
      exact h
    · rw [if_neg hlength] at hcard
      obtain ⟨-, hcard⟩ := Option.ite_none_right_eq_some.mp hcard
      obtain ⟨card', hcard', heq⟩ := Option.map_eq_some_iff.mp hcard
      have hfixed := ih h.2 hcard'
      rw [← heq]
      exact hfixed

/-- The card pass makes no IBAN. -/
theorem cardGroups_fixed_iban (length : ℕ) (gs : List Group) (hlength : gs.length = length)
    {start : Bool} (hformed : Formed u start gs) (h : Fixed (ibanGroup u) start gs) :
    Fixed (ibanGroup u) start (cardGroups gs) := by
  -- strong induction: behind a card the scan goes on after all its groups
  induction length using Nat.strong_induction_on generalizing gs start with
  | _ length ih =>
    cases gs with
    | nil =>
      rw [cardGroups]
      trivial
    | cons g gs =>
      obtain ⟨hok, hlast, hrest⟩ := hformed
      cases hcard : cardFrom 16 g.run gs with
      | none =>
        rw [cardGroups_none hcard]
        refine ⟨ibanGroup_settles.congr start g gs _ (cardGroups_head hrest) h.1,
          ih gs.length ?_ gs rfl hrest h.2⟩
        rw [← hlength]
        -- the mask leaves four digits, too few for an IBAN
        exact Nat.lt_succ_self _
      | some card =>
        obtain ⟨hcount, -, hformed⟩ := cardFrom_sound hrest hok.run hcard
        rw [cardGroups_some hcard]
        refine ⟨ibanGroup_settles.four _ _ _ (mask_run_length (by omega)),
          ih (trim card.2).length ?_ _ rfl (trim_formed hformed)
            (trim_fixed_iban (cardFrom_fixed h.2 hcard))⟩
        rw [trim_length, ← hlength]
        exact Nat.lt_succ_of_le (cardFrom_length hcard)

/-! ## 4. Cards that remain -/

/-- The groups agree as far as linked groups go. -/
inductive Echo : List Group → List Group → Prop
  | cut {gs' gs : List Group} (h : ∀ g ∈ gs'.head?, g.linked = false) : Echo gs' gs
  | keep (g : Group) {gs' gs : List Group} (h : Echo gs' gs) : Echo (g :: gs') (g :: gs)

theorem Echo.cardFrom_none {gs' gs : List Group} (h : Echo gs' gs) {n : ℕ} {run : List Char}
    (hnone : cardFrom n run gs = none) : cardFrom n run gs' = none := by
  -- a run that is a card by itself would have been found in either text
  have hlength : run.length ≠ n := by
    intro hlength
    cases gs with
    | nil =>
      rw [cardFrom, if_pos hlength] at hnone
      cases hnone
    | cons g gs =>
      rw [cardFrom, if_pos hlength] at hnone
      cases hnone
  -- the groups that follow are the same until one of them is cut off by a mask
  induction h generalizing n run with
  | @cut gs' gs hcut =>
    cases gs' with
    | nil => rw [cardFrom, if_neg hlength]
    | cons g gs' =>
      have hlinked := hcut g rfl
      rw [cardFrom, if_neg hlength, if_neg]
      rw [hlinked]
      exact fun h => absurd h.2 Bool.false_ne_true
  | @keep g gs' gs h ih =>
    rw [cardFrom, if_neg hlength] at hnone ⊢
    by_cases hboth : run.length < n ∧ g.linked = true
    · rw [if_pos hboth, Option.map_eq_none_iff] at hnone ⊢
      apply ih hnone
      intro hlength'
      cases gs with
      | nil =>
        rw [cardFrom, if_pos hlength'] at hnone
        cases hnone
      | cons g' gs =>
        rw [cardFrom, if_pos hlength'] at hnone
        cases hnone
    · rw [if_neg hboth]

theorem mapGroups_echo {f : Bool → Group → List Group → Group} (hf : Rewrites u f) {start : Bool}
    {gs : List Group} (h : Formed u start gs) : Echo (mapGroups f start gs) gs := by
  induction gs generalizing start with
  | nil => exact .cut fun g hg => by cases hg
  | cons g gs ih =>
    have hrewritten := hf start g gs h.1
    rw [mapGroups]
    generalize f start g gs = g' at hrewritten
    cases hrewritten with
    | same => exact .keep g (ih h.2.2)
    | mask hstars _ _ _ =>
      apply Echo.cut
      intro g' hg'
      cases hg'
      exact mask_unlinked hstars _ _

theorem cardGroups_echo (gs : List Group) : Echo (cardGroups gs) gs := by
  induction gs with
  | nil =>
    rw [cardGroups]
    exact .cut fun g hg => by cases hg
  | cons g gs ih =>
    cases hcard : cardFrom 16 g.run gs with
    | none =>
      rw [cardGroups_none hcard]
      exact .keep g ih
    | some card =>
      rw [cardGroups_some hcard]
      apply Echo.cut
      intro g' hg'
      cases hg'
      exact mask_unlinked (by decide) _ _

/-- No card begins with a group that is not masked. -/
def Spent : List Group → Prop
  | [] => True
  | g :: gs => (g.masked = false → cardFrom 16 g.run gs = none) ∧ Spent gs

/-- Masked groups have four digits. -/
def Fours (gs : List Group) : Prop := ∀ g ∈ gs, g.masked = true → g.run.length = 4

theorem groups_unmasked (s : List Char) : ∀ g ∈ groups u s, g.masked = false := by
  induction s with
  | nil => exact fun g hg => absurd hg List.not_mem_nil
  | cons c s ih =>
    rw [groups]
    -- the text is read from its end, so a character joins the first group of what follows
    generalize groups u s = gs at ih
    by_cases hc : u.isDecimal c = true
    · rw [if_pos hc]
      cases gs with
      | nil =>
        intro g hg
        rw [List.mem_singleton.mp hg]
      | cons g gs =>
        rw [consDigit]
        by_cases hgap : g.gap = []
        · rw [if_pos hgap]
          intro g' hg'
          rcases List.mem_cons.mp hg' with hg' | hg'
          · rw [hg']
            exact ih g (.head _)
          · exact ih g' (.tail _ hg')
        · rw [if_neg hgap]
          intro g' hg'
          rcases List.mem_cons.mp hg' with hg' | hg'
          · rw [hg']
          · exact ih g' hg'
    · rw [if_neg hc]
      cases gs with
      | nil =>
        intro g hg
        rw [List.mem_singleton.mp hg]
      | cons g gs =>
        intro g' hg'
        rcases List.mem_cons.mp hg' with hg' | hg'
        · rw [hg']
          exact ih g (.head _)
        · exact ih g' (.tail _ hg')

theorem mapGroups_fours {f : Bool → Group → List Group → Group} (hf : Rewrites u f) {start : Bool}
    {gs : List Group} (hformed : Formed u start gs) (h : Fours gs) :
    Fours (mapGroups f start gs) := by
  induction gs generalizing start with
  | nil => exact h
  | cons g gs ih =>
    intro g' hg' hmasked
    rcases List.mem_cons.mp hg' with hg' | hg'
    · have hrewritten := hf start g gs hformed.1
      rw [← hg'] at hrewritten
      cases hrewritten with
      | same => exact h _ (.head _) hmasked
      | mask _ _ hlength _ => exact mask_run_length hlength.le
    · exact ih hformed.2.2 (fun g hg => h g (.tail _ hg)) g' hg' hmasked

theorem trim_fours {gs : List Group} (h : Fours gs) : Fours (trim gs) := by
  cases gs with
  | nil => exact h
  | cons g gs =>
    rw [trim]
    by_cases htrailing : g.trailing = true
    · rw [if_pos htrailing]
      intro g' hg' hmasked
      rcases List.mem_cons.mp hg' with hg' | hg'
      · rw [hg'] at hmasked ⊢
        exact h g (.head _) hmasked
      · exact h g' (.tail _ hg') hmasked
    · rw [if_neg htrailing]
      exact h

theorem cardFrom_fours {n : ℕ} {run : List Char} {gs : List Group} {card : List Char × List Group}
    (h : Fours gs) (hcard : cardFrom n run gs = some card) : Fours card.2 := by
  induction gs generalizing n run card with
  | nil =>
    rw [cardFrom] at hcard
    obtain ⟨-, hcard⟩ := Option.ite_none_right_eq_some.mp hcard
    rw [← Option.some.inj hcard]
    exact h
  | cons g gs ih =>
    rw [cardFrom] at hcard
    by_cases hlength : run.length = n
    · rw [if_pos hlength] at hcard
      rw [← Option.some.inj hcard]
      exact h
    · rw [if_neg hlength] at hcard
      obtain ⟨-, hcard⟩ := Option.ite_none_right_eq_some.mp hcard
      obtain ⟨card', hcard', heq⟩ := Option.map_eq_some_iff.mp hcard
      have hfours := ih (fun g hg => h g (.tail _ hg)) hcard'
      rw [← heq]
      exact hfours

/-- After the card pass no card begins with a group that is not masked. -/
theorem cardGroups_spent (length : ℕ) (gs : List Group) (hlength : gs.length = length)
    {start : Bool} (hformed : Formed u start gs) (h : Fours gs) :
    Spent (cardGroups gs) ∧ Fours (cardGroups gs) := by
  -- strong induction: behind a card the scan goes on after all its groups
  induction length using Nat.strong_induction_on generalizing gs start with
  | _ length ih =>
    cases gs with
    | nil =>
      rw [cardGroups]
      exact ⟨trivial, h⟩
    | cons g gs =>
      obtain ⟨hok, hlast, hrest⟩ := hformed
      cases hcard : cardFrom 16 g.run gs with
      | none =>
        have hshort : gs.length < length := by
          rw [← hlength]
          exact Nat.lt_succ_self _
        obtain ⟨hspent, hfours⟩ := ih gs.length hshort gs rfl hrest fun g hg => h g (.tail _ hg)
        rw [cardGroups_none hcard]
        -- the run behind is at most cut short, which makes no new card
        refine ⟨⟨fun _ => (cardGroups_echo gs).cardFrom_none hcard, hspent⟩,
          fun g' hg' hmasked => ?_⟩
        rcases List.mem_cons.mp hg' with hg' | hg'
        · rw [hg'] at hmasked ⊢
          exact h g (.head _) hmasked
        · exact hfours g' hg' hmasked
      | some card =>
        obtain ⟨hcount, -, hformed⟩ := cardFrom_sound hrest hok.run hcard
        have hshort : (trim card.2).length < length := by
          rw [trim_length, ← hlength]
          exact Nat.lt_succ_of_le (cardFrom_length hcard)
        obtain ⟨hspent, hfours⟩ := ih (trim card.2).length hshort _ rfl (trim_formed hformed)
          (trim_fours (cardFrom_fours (fun g hg => h g (.tail _ hg)) hcard))
        rw [cardGroups_some hcard]
        refine ⟨⟨fun hmasked => (by cases hmasked), hspent⟩, fun g' hg' hmasked => ?_⟩
        rcases List.mem_cons.mp hg' with hg' | hg'
        · rw [hg']
          exact mask_run_length (by omega)
        · exact hfours g' hg' hmasked

theorem mapGroups_spent {f : Bool → Group → List Group → Group} (hf : Rewrites u f) {start : Bool}
    {gs : List Group} (hformed : Formed u start gs) (h : Spent gs) :
    Spent (mapGroups f start gs) := by
  induction gs generalizing start with
  | nil => trivial
  | cons g gs ih =>
    refine ⟨?_, ih hformed.2.2 h.2⟩
    have hrewritten := hf start g gs hformed.1
    generalize f start g gs = g' at hrewritten
    cases hrewritten with
    | same => exact fun hmasked => (mapGroups_echo hf hformed.2.2).cardFrom_none (h.1 hmasked)
    | mask _ _ _ _ =>
      intro hmasked
      cases hmasked

/-! ## 5. The residue -/

/-- The groups redaction leaves, pass by pass. -/
structure Redacted (u : CharClasses) (gs : List Group) : Prop where
  formed : Formed u true gs
  noIban : Fixed (ibanGroup u) true gs
  noMobile : Fixed mobileGroup true gs
  noNationalId : Fixed nationalIdGroup true gs
  spent : Spent gs
  fours : Fours gs

/-- Redaction masks the groups of a text. -/
theorem redactText_eq (s : List Char) : redactText u s = render (identified u s) ∧
    Redacted u (identified u s) := by
  -- each pass leaves well-formed groups to the next
  have h₀ := (formed_groups (u := u) s).1
  have h₁ := mapGroups_formed ibanGroup_rewrites h₀
  have h₂ := cardGroups_formed _ _ rfl h₁
  have h₃ := mapGroups_formed mobileGroup_rewrites h₂
  have h₄ := mapGroups_formed nationalIdGroup_rewrites h₃
  have hfours₀ : Fours (groups u s) := by
    intro g hg hmasked
    rw [groups_unmasked s g hg] at hmasked
    cases hmasked
  -- no pass undoes what an earlier one has settled
  have hiban := cardGroups_fixed_iban _ _ rfl h₁
    (fixed_mapGroups_self ibanGroup_rewrites ibanGroup_settles h₀)
  have hmobile := fixed_mapGroups_self mobileGroup_rewrites mobileGroup_settles h₂
  have hcards := cardGroups_spent _ _ rfl h₁ (mapGroups_fours ibanGroup_rewrites h₀ hfours₀)
  have hiban' := fixed_mapGroups mobileGroup_rewrites ibanGroup_settles h₂ hiban
  have hspent := mapGroups_spent mobileGroup_rewrites h₂ hcards.1
  have hfours := mapGroups_fours mobileGroup_rewrites h₂ hcards.2
  constructor
  · have htext : redactText u (render (groups u s)) = render (identified u s) := by
      simp only [redactText]
      rw [ibanRe_sub h₀, cardRe_sub h₁, mobileRe_sub h₂, nationalIdRe_sub h₃]
      rfl
    rwa [render_groups] at htext
  · exact {
      formed := h₄
      noIban := fixed_mapGroups nationalIdGroup_rewrites ibanGroup_settles h₃ hiban'
      noMobile := fixed_mapGroups nationalIdGroup_rewrites mobileGroup_settles h₃ hmobile
      noNationalId := fixed_mapGroups_self nationalIdGroup_rewrites nationalIdGroup_settles h₃
      spent := mapGroups_spent nationalIdGroup_rewrites h₃ hspent
      fours := mapGroups_fours nationalIdGroup_rewrites h₃ hfours }

theorem cardGroups_eq_self {gs : List Group} (hspent : Spent gs) (hfours : Fours gs)
    (h : ¬ Rejoins gs) : cardGroups gs = gs := by
  induction gs with
  | nil => rw [cardGroups]
  | cons g gs ih =>
    have hrest : ¬ Rejoins gs := by
      intro hrejoins
      obtain ⟨front, g', next, back, heq, hrejoined⟩ := hrejoins
      exact h ⟨g :: front, g', next, back, congrArg (List.cons g) heq, hrejoined⟩
    -- an unmasked run begins no card any more, a masked one only with twelve digits linked to it
    have hnone : cardFrom 16 g.run gs = none := by
      cases hmasked : g.masked with
      | false => exact hspent.1 hmasked
      | true =>
        have hfour := hfours g (.head _) hmasked
        have hne : g.run.length ≠ 16 := by omega
        cases gs with
        | nil => rw [cardFrom, if_neg hne]
        | cons next back =>
          rw [cardFrom, if_neg hne, hfour]
          by_cases hlinked : next.linked = true
          · rw [if_pos ⟨by decide, hlinked⟩, Option.map_eq_none_iff]
            by_contra hsome
            exact h ⟨[], g, next, back, rfl, hmasked, hlinked, Option.isSome_iff_ne_none.mpr hsome⟩
          · rw [if_neg fun hboth => hlinked hboth.2]
    rw [cardGroups_none hnone, ih hspent.2 (fun g hg => hfours g (.tail _ hg)) hrest]

theorem Formed.suffix {start : Bool} {front gs : List Group} (h : Formed u start (front ++ gs)) :
    ∃ start', Formed u start' gs := by
  induction front generalizing start with
  | nil => exact ⟨start, h⟩
  | cons g front ih => exact ih h.2.2

/-- Redaction leaves an identifier exactly where a mask's four digits rejoin
    with twelve behind them. -/
theorem holdsIdentifier_redactText_iff (s : List Char) :
    holdsIdentifier u (redactText u s) = true ↔ Rejoins (identified u s) := by
  obtain ⟨htext, hredacted⟩ := redactText_eq (u := u) s
  rw [htext]
  constructor
  · intro h
    by_contra hrejoins
    -- without a rejoined card each of the four passes finds nothing
    have hself : redactText u (render (identified u s)) = render (identified u s) := by
      have hformed := hredacted.formed
      simp only [redactText]
      rw [ibanRe_sub hformed, mapGroups_eq_self hredacted.noIban, cardRe_sub hformed,
        cardGroups_eq_self hredacted.spent hredacted.fours hrejoins, mobileRe_sub hformed,
        mapGroups_eq_self hredacted.noMobile, nationalIdRe_sub hformed,
        mapGroups_eq_self hredacted.noNationalId]
    rw [(redactText_eq_self_iff u _).mp hself] at h
    cases h
  · intro h
    obtain ⟨front, g, next, back, heq, hmasked, hlinked, hcard⟩ := h
    -- a masked run with twelve digits behind it is a card again
    have hfour := hredacted.fours g (by rw [heq]; simp) hmasked
    have hrun : g.run ≠ [] := by
      intro hrun
      rw [hrun] at hfour
      cases hfour
    have hsome : (cardFrom 16 g.run (next :: back)).isSome = true := by
      rw [cardFrom, hfour, if_neg (by decide), if_pos ⟨by decide, hlinked⟩, Option.isSome_map]
      exact hcard
    have hformed := hredacted.formed
    rw [heq] at hformed ⊢
    have hoccurs : (cardRe u).occurs (render (front ++ g :: next :: back)) = true :=
      cardRe_occurs hformed (fun _ => rfl) hrun hsome
    rw [holdsIdentifier, hoccurs, Bool.or_true, Bool.true_or, Bool.true_or]

end

end JibitSdk.Guarantees
