import JibitSdk.Guarantees.GroupScans
import JibitSdk.Reasoning.Labels

/-!
# Places through the passes

A digit of a text stands in the run of a group.  Each pass of the redaction takes the whole run, or
leaves it in a group of its own.
-/

namespace JibitSdk.Guarantees

open JibitSdk.Python JibitSdk.Reasoning JibitSdk.Reasoning.Pattern JibitSdk.Sdk

variable {u : CharClasses} {τ : Type} {l : τ}

/-! ## 1. What the masks show -/

/-- `starred` on a labelled text: the last four characters keep their labels. -/
def starredShown (n : ℕ) (t : List (Char × Option τ)) : List (Char × Option τ) :=
  List.replicate n ('*', none) ++ t.drop (t.length - 4)

def shownIban (t : List (Char × Option τ)) : List (Char × Option τ) :=
  ('I', none) :: ('R', none) :: starredShown 20 t

/-- The last four digits, whatever separators stand among them. -/
def shownCard (u : CharClasses) (t : List (Char × Option τ)) : List (Char × Option τ) :=
  starredShown 12 (t.filter fun c => u.isDecimal c.1)

def shownMobile (t : List (Char × Option τ)) : List (Char × Option τ) := starredShown 7 t

def shownNationalId (t : List (Char × Option τ)) : List (Char × Option τ) := starredShown 6 t

theorem starredShown_fst (n : ℕ) (t : List (Char × Option τ)) :
    (starredShown n t).map Prod.fst = starred n (t.map Prod.fst) := by
  rw [starredShown, List.map_append, List.map_replicate, List.map_drop, starred, List.length_map]

theorem lost_stars (n : ℕ) : Lost l (List.replicate n (('*', none) : Char × Option τ)) := by
  intro y hy
  rw [List.eq_of_mem_replicate hy]
  exact Option.some_ne_none l |>.symm

theorem starredShown_lost {n : ℕ} {t : List (Char × Option τ)} (h : Lost l t) :
    Lost l (starredShown n t) :=
  (lost_stars n).append (h.of_subset (List.drop_subset _ _))

theorem lost_cons_none {c : Char} {t : List (Char × Option τ)} (h : Lost l t) :
    Lost l ((c, none) :: t) := by
  intro y hy
  rcases List.mem_cons.mp hy with rfl | hy
  · exact Option.some_ne_none l |>.symm
  · exact h y hy

theorem shownIban_carries : Carries (τ := τ) maskIban shownIban where
  text m := by rw [shownIban, List.map_cons, List.map_cons, starredShown_fst]; rfl
  lost h := lost_cons_none (lost_cons_none (starredShown_lost h))

theorem filter_fst (p : Char → Bool) (t : List (Char × Option τ)) :
    (t.filter fun c => p c.1).map Prod.fst = (t.map Prod.fst).filter p :=
  (List.filter_map ..).symm

theorem shownCard_carries : Carries (τ := τ) (maskCard u) (shownCard u) where
  text m := by rw [shownCard, starredShown_fst, filter_fst]; rfl
  lost h := starredShown_lost (h.of_subset (List.filter_subset_self _))

theorem shownMobile_carries : Carries (τ := τ) maskMobile shownMobile :=
  ⟨starredShown_fst 7, starredShown_lost⟩

theorem shownNationalId_carries : Carries (τ := τ) maskNationalId shownNationalId :=
  ⟨starredShown_fst 6, starredShown_lost⟩

/-- A pass whose mask shows the last four characters of the runs it takes. -/
structure Shows (u : CharClasses) (r : Pattern Char) (mask : List Char → List Char)
    (shown : List (Char × Option τ) → List (Char × Option τ))
    (hit : Bool → Group → List Group → Bool) (f : Bool → Group → List Group → Group) : Prop
    extends Advances u r mask hit f, Carries mask shown where
  keeps : ∀ m, ∃ o, (∀ l, Lost l o) ∧ shown m = o ++ m.drop (m.length - 4)
  masks : ∀ {start g gs}, hit start g gs = true →
    4 ≤ g.run.length ∧ ∃ stars gap, f start g gs = .mask stars gap g.run

theorem ibanRe_shows : Shows (τ := τ) u (ibanRe u) maskIban shownIban (ibanHit u)
    (ibanGroup u) where
  toAdvances := ibanRe_advances
  toCarries := shownIban_carries
  keeps m := ⟨('I', none) :: ('R', none) :: List.replicate 20 ('*', none),
    fun _ => lost_cons_none (lost_cons_none (lost_stars 20)), rfl⟩
  masks {start g gs} h := by
    rw [ibanHit, Bool.and_eq_true] at h
    obtain ⟨front, hfront⟩ := Option.isSome_iff_exists.mp h.2
    have hlength := ibanRun_length h.1
    refine ⟨by omega, 20, front ++ ['I', 'R'], ?_⟩
    rw [ibanGroup, if_pos h.1, hfront, Option.elim_some]

theorem mobileRe_shows :
    Shows (τ := τ) u (mobileRe u) maskMobile shownMobile mobileHit mobileGroup where
  toAdvances := mobileRe_advances
  toCarries := shownMobile_carries
  keeps m := ⟨List.replicate 7 ('*', none), fun _ => lost_stars 7, rfl⟩
  masks {start g gs} h := by
    rw [mobileHit, Bool.or_eq_true] at h
    by_cases hplus : plusMobile start g = true
    · have hlength := plusMobile_length hplus
      exact ⟨by omega, 7, g.gap.dropLast, if_pos hplus⟩
    · have hmobile := h.resolve_left hplus
      have hlength := mobileRun_length hmobile
      refine ⟨by omega, 7, g.gap, ?_⟩
      rw [mobileGroup, if_neg hplus, if_pos hmobile]

theorem nationalIdRe_shows : Shows (τ := τ) u (nationalIdRe u) maskNationalId shownNationalId
    nationalIdHit nationalIdGroup where
  toAdvances := nationalIdRe_advances
  toCarries := shownNationalId_carries
  keeps m := ⟨List.replicate 6 ('*', none), fun _ => lost_stars 6, rfl⟩
  masks {start g gs} h := by
    have hlength : g.run.length = 10 := beq_iff_eq.mp h
    exact ⟨by omega, 6, g.gap, if_pos hlength⟩

/-! ## 2. The run of a label -/

/-- The label stands in the run of this group, with `k` characters of the run behind it. -/
def Sits (l : τ) (k : ℕ) (t : List (Char × Option τ)) (front : List Group) (g : Group)
    (back : List Group) : Prop :=
  ∃ t₁ t₂ t₃, t = t₁ ++ (t₂ ++ t₃) ∧ t₁.map Prod.fst = render front ++ g.gap ∧
    t₂.map Prod.fst = g.run ∧ t₃.map Prod.fst = render back ∧ Lost l t₁ ∧ Stands l k t₂ ∧ Lost l t₃

section
variable {t : List (Char × Option τ)} {front back : List Group} {g : Group} {k : ℕ}

theorem Sits.not_lost (h : Sits l k t front g back) : ¬ Lost l t := by
  obtain ⟨t₁, t₂, t₃, rfl, -, -, -, -, hrun, -⟩ := h
  exact fun hlost => hrun.not_lost (lost_append_iff.mp (lost_append_iff.mp hlost).2).1

theorem Sits.run_ne_nil (h : Sits l k t front g back) : g.run ≠ [] := by
  obtain ⟨t₁, t₂, t₃, -, -, hmap, -, -, hrun, -⟩ := h
  intro hnil
  rw [hnil, List.map_eq_nil_iff] at hmap
  have hlt := hrun.lt_length
  rw [hmap] at hlt
  cases hlt

theorem Sits.cons {o : List (Char × Option τ)} {g₀ : Group} (ho : o.map Prod.fst = g₀.gap ++ g₀.run)
    (hlost : Lost l o) (h : Sits l k t front g back) : Sits l k (o ++ t) (g₀ :: front) g back := by
  obtain ⟨t₁, t₂, t₃, rfl, h₁, h₂, h₃, hl₁, hl₂, hl₃⟩ := h
  refine ⟨o ++ t₁, t₂, t₃, by rw [List.append_assoc], ?_, h₂, h₃, hlost.append hl₁, hl₂, hl₃⟩
  rw [List.map_append, ho, h₁, render, List.append_assoc, List.append_assoc, List.append_assoc]

theorem Sits.uncons {g₀ : Group} (h : Sits l k t (g₀ :: front) g back) :
    ∃ o t', t = o ++ t' ∧ o.map Prod.fst = g₀.gap ++ g₀.run ∧ Lost l o ∧
      Sits l k t' front g back := by
  obtain ⟨t₁, t₂, t₃, rfl, h₁, h₂, h₃, hl₁, hl₂, hl₃⟩ := h
  rw [render, ← List.append_assoc, List.append_assoc] at h₁
  obtain ⟨o, t₁', rfl, ho, h₁⟩ := List.map_eq_append_iff.mp h₁
  obtain ⟨hlo, hl₁⟩ := lost_append_iff.mp hl₁
  exact ⟨o, t₁' ++ (t₂ ++ t₃), List.append_assoc _ _ _, ho, hlo,
    t₁', t₂, t₃, rfl, h₁, h₂, h₃, hl₁, hl₂, hl₃⟩

theorem Sits.text (h : Sits l k t front g back) : t.map Prod.fst = render (front ++ g :: back) := by
  obtain ⟨t₁, t₂, t₃, rfl, h₁, h₂, h₃, -⟩ := h
  rw [List.map_append, List.map_append, h₁, h₂, h₃, render_append, render, List.append_assoc]

theorem formed_digits {start : Bool} {gs : List Group} (h : Formed u start gs) :
    (render gs).countP u.isDecimal = digitCount gs := by
  rw [← List.append_nil gs] at h
  exact render_digits h

/-- The digits behind the label. -/
theorem Sits.digits (h : Sits l k t front g back) (hrun : ∀ c ∈ g.run, u.isDecimal c = true) :
    Stands l (k + (render back).countP u.isDecimal) (t.filter fun c => u.isDecimal c.1) := by
  obtain ⟨t₁, t₂, t₃, rfl, -, h₂, h₃, hl₁, hl₂, hl₃⟩ := h
  have hdigits : (t₂.filter fun c => u.isDecimal c.1) = t₂ := by
    rw [List.filter_eq_self]
    intro c hc
    exact hrun c.1 (h₂ ▸ List.mem_map_of_mem hc)
  have hcount : (t₃.filter fun c => u.isDecimal c.1).length = (render back).countP u.isDecimal := by
    rw [← h₃, List.countP_eq_length_filter, ← filter_fst, List.length_map]
  rw [List.filter_append, List.filter_append, hdigits, ← hcount]
  exact (hl₂.append_right (hl₃.of_subset (List.filter_subset_self _))).append_left
    (hl₁.of_subset (List.filter_subset_self _))

end

section
variable {r : Pattern Char} {mask : List Char → List Char}
  {shown : List (Char × Option τ) → List (Char × Option τ)}
  {hit : Bool → Group → List Group → Bool} {f : Bool → Group → List Group → Group}

/-- What the pass makes of the labelled text of one group. -/
theorem Shows.labelled (h : Shows u r mask shown hit f) {start : Bool} {g : Group} {gs : List Group}
    {prev : Option (Char × Option τ)} (hformed : Formed u start (g :: gs))
    (hbehind : Behind u start (prev.map Prod.fst)) {o₁ o₂ t : List (Char × Option τ)}
    (h₁ : o₁.map Prod.fst = g.gap) (h₂ : o₂.map Prod.fst = g.run) (ht : t.map Prod.fst = render gs)
    (hlost : Lost l o₁) :
    ∃ o₁' o₂', r.labelledFrom shown prev (o₁ ++ (o₂ ++ t)) =
        o₁' ++ (o₂' ++ r.labelledFrom shown (after prev (o₁ ++ o₂)) t) ∧
      o₁'.map Prod.fst = (f start g gs).gap ∧ o₂'.map Prod.fst = (f start g gs).run ∧ Lost l o₁' ∧
      (hit start g gs = true → o₂' = o₂.drop (o₂.length - 4)) ∧
      (hit start g gs = false → f start g gs = g ∧ o₂' = o₂) := by
  cases hhit : hit start g gs with
  | false =>
    obtain ⟨hf, hquiet⟩ := h.left hformed hbehind hhit
    refine ⟨o₁, o₂, ?_, by rw [hf, h₁], by rw [hf, h₂], hlost, fun h => (by cases h),
      fun _ => ⟨hf, rfl⟩⟩
    rw [← List.append_assoc, labelledFrom_quiet, List.append_assoc]
    rw [List.map_append, h₁, h₂, ht]
    exact hquiet
  | true =>
    obtain ⟨hrun, front, lead, hgap, hquiet, hmatch, htext⟩ := h.taken hformed hbehind hhit
    obtain ⟨hlength, stars, gap, hf⟩ := h.masks hhit
    rw [hgap] at h₁
    obtain ⟨p, m, rfl, hp, hm⟩ := List.map_eq_append_iff.mp h₁
    have hne : m ++ o₂ ≠ [] := by
      intro hnil
      rw [(List.append_eq_nil_iff.mp hnil).2] at h₂
      exact hrun h₂.symm
    have hmap : (m ++ o₂).map Prod.fst = lead ++ g.run := by rw [List.map_append, hm, h₂]
    have hquiet' : Quiet r (prev.map Prod.fst) (p.map Prod.fst) ((m ++ o₂ ++ t).map Prod.fst) := by
      rw [hp, List.map_append, hmap, ht, List.append_assoc]
      exact hquiet
    have hmatch' :
      r.first ((after prev p).map Prod.fst) ((m ++ o₂).map Prod.fst ++ t.map Prod.fst) =
        some (m ++ o₂).length := by
      rw [after_map, hp, hmap, ht, List.append_assoc, hmatch, ← hmap, List.length_map]
    -- the mask shows the last four characters of the match, and those are digits of the run
    obtain ⟨o, ho, hshown⟩ := h.keeps (m ++ o₂)
    have hlength₂ : o₂.length = g.run.length := by rw [← h₂, List.length_map]
    have hdrop : (m ++ o₂).drop ((m ++ o₂).length - 4) = o₂.drop (o₂.length - 4) := by
      have hindex : (m ++ o₂).length - 4 = m.length + (o₂.length - 4) := by
        rw [List.length_append]
        omega
      rw [hindex, List.drop_length_add_append]
    rw [hdrop] at hshown
    have hrun' : (o₂.drop (o₂.length - 4)).map Prod.fst = (f start g gs).run := by
      rw [hf, List.map_drop, h₂, hlength₂]
      rfl
    refine ⟨p ++ o, o₂.drop (o₂.length - 4), ?_, ?_, hrun',
      (lost_append_iff.mp hlost).1.append (ho l), fun _ => rfl, fun h => (by cases h)⟩
    · have hcut : p ++ m ++ (o₂ ++ t) = p ++ (m ++ o₂ ++ t) := by
        rw [List.append_assoc, List.append_assoc]
      rw [hcut, labelledFrom_quiet hquiet', labelledFrom_match hne hmatch', ← after_append,
        ← List.append_assoc p m o₂, hshown]
      simp only [List.append_assoc]
    · refine List.append_cancel_right (?_ : _ ++ (f start g gs).run = _ ++ (f start g gs).run)
      rw [htext, ← hrun', ← List.map_append, List.append_assoc, ← hshown, List.map_append, hp,
        h.text, hmap]

theorem after_behind {g : Group} {start : Bool} (hok : g.Ok u start) (hrun : g.run ≠ [])
    {o : List (Char × Option τ)} (ho : o.map Prod.fst = g.gap ++ g.run)
    (prev : Option (Char × Option τ)) : Behind u false ((after prev o).map Prod.fst) := by
  rw [after_map, ho, after_append]
  exact behind_after_run hok hrun _

/-- A label in the first group stays there, unless the pass hits the group and the label is not
    among its last four. -/
theorem Shows.sits_first (h : Shows u r mask shown hit f) {back : List Group} {g : Group}
    {start : Bool} (prev : Option (Char × Option τ)) {t : List (Char × Option τ)} {k : ℕ}
    (hformed : Formed u start (g :: back)) (hbehind : Behind u start (prev.map Prod.fst))
    (hsits : Sits l k t [] g back) :
    (hit start g back = true → 4 ≤ k → Lost l (r.labelledFrom shown prev t)) ∧
      (hit start g back = false ∨ k < 4 →
        Sits l k (r.labelledFrom shown prev t) [] (f start g back) (mapGroups f false back)) := by
  have hrun := hsits.run_ne_nil
  obtain ⟨t₁, t₂, t₃, rfl, h₁, h₂, h₃, hl₁, hl₂, hl₃⟩ := hsits
  obtain ⟨o₁, o₂, htext, ho₁, ho₂, hlost, hhit, hleft⟩ :=
    h.labelled (l := l) hformed hbehind h₁ h₂ h₃ hl₁
  have hrest : Lost l (r.labelledFrom shown (after prev (t₁ ++ t₂)) t₃) :=
    hl₃.labelledFrom h.toCarries _
  rw [htext]
  constructor
  · intro hhit' hk
    rw [hhit hhit']
    exact hlost.append ((hl₂.last.2 hk).append hrest)
  · intro hstays
    refine ⟨o₁, o₂, _, rfl, ho₁, ho₂, ?_, hlost, ?_, hrest⟩
    · have hmap : (t₁ ++ t₂).map Prod.fst = g.gap ++ g.run := by
        rw [List.map_append, h₂]
        exact congrArg (· ++ g.run) h₁
      rw [labelledFrom_fst h.text, h₃]
      exact h.toAdvances.subFrom hformed.2.2 (after_behind hformed.1 hrun hmap prev)
    · cases hhit' : hit start g back with
      | false =>
        rw [(hleft hhit').2]
        exact hl₂
      | true =>
        rw [hhit hhit']
        exact hl₂.last.1 (hstays.resolve_left fun h => by rw [hhit'] at h; cases h)

/-- A label stays in its group, unless the pass hits the group and the label is
    not among its last four. -/
theorem Shows.sits (h : Shows u r mask shown hit f) {front back : List Group} {g : Group}
    {start : Bool} (prev : Option (Char × Option τ)) {t : List (Char × Option τ)} {k : ℕ}
    (hformed : Formed u start (front ++ g :: back)) (hbehind : Behind u start (prev.map Prod.fst))
    (hsits : Sits l k t front g back) :
    (hit (start && front.isEmpty) g back = true → 4 ≤ k → Lost l (r.labelledFrom shown prev t)) ∧
      (hit (start && front.isEmpty) g back = false ∨ k < 4 → ∃ front',
        mapGroups f start (front ++ g :: back) =
            front' ++ f (start && front.isEmpty) g back :: mapGroups f false back ∧
          front'.length = front.length ∧ Sits l k (r.labelledFrom shown prev t) front'
            (f (start && front.isEmpty) g back) (mapGroups f false back)) := by
  induction front generalizing start prev t with
  | nil =>
    rw [List.isEmpty_nil, Bool.and_true]
    obtain ⟨hlose, hkeep⟩ := h.sits_first prev hformed hbehind hsits
    exact ⟨hlose, fun hstays => ⟨[], rfl, rfl, hkeep hstays⟩⟩
  | cons g₀ front ih =>
    -- whatever the pass makes of a group in front, its text carries no label
    obtain ⟨o, t', rfl, ho, hlost, hrest⟩ := hsits.uncons
    obtain ⟨o₁, o₂, rfl, h₁, h₂⟩ := List.map_eq_append_iff.mp ho
    obtain ⟨hl₁, hl₂⟩ := lost_append_iff.mp hlost
    obtain ⟨o₁', o₂', htext, ho₁, ho₂, hlost₁, hhit, hleft⟩ :=
      h.labelled (l := l) hformed hbehind h₁ h₂ hrest.text hl₁
    have hrun : g₀.run ≠ [] := fun hnil =>
      absurd (hformed.2.1 hnil) (List.append_ne_nil_of_right_ne_nil _ (List.cons_ne_nil _ _))
    have hlost₂ : Lost l o₂' := by
      cases hhit' : hit start g₀ (front ++ g :: back) with
      | true =>
        rw [hhit hhit']
        exact hl₂.of_subset (List.drop_subset _ _)
      | false =>
        rw [(hleft hhit').2]
        exact hl₂
    have ho' : (o₁' ++ o₂').map Prod.fst = (f start g₀ (front ++ g :: back)).gap ++
        (f start g₀ (front ++ g :: back)).run := by
      rw [List.map_append]
      exact congrArg₂ (· ++ ·) ho₁ ho₂
    obtain ⟨hlose, hkeep⟩ := ih _ hformed.2.2 (after_behind hformed.1 hrun ho prev) hrest
    rw [List.isEmpty_cons, Bool.and_false, List.append_assoc, htext, ← List.append_assoc o₁']
    rw [Bool.false_and] at hlose hkeep
    refine ⟨fun hhit' hk => (hlost₁.append hlost₂).append (hlose hhit' hk), fun hstays => ?_⟩
    obtain ⟨front', hgroups, hlength, hsits'⟩ := hkeep hstays
    refine ⟨f start g₀ (front ++ g :: back) :: front', ?_, congrArg (· + 1) hlength,
      hsits'.cons ho' (hlost₁.append hlost₂)⟩
    rw [List.cons_append, mapGroups, hgroups]
    rfl

end

/-! ## 3. Cards -/

/-- What the scan of the cards does with a group: it is inside a card, with so many of the card's
    digits behind it, directly behind a card, or neither. -/
inductive CardMark where
  | inside (rest : ℕ)
  | behind
  | free
  deriving DecidableEq

/-- The groups of one card. -/
def insideMarks : List Group → List CardMark
  | [] => []
  | _ :: gs => .inside (digitCount gs) :: insideMarks gs

/-- The first of these groups stands behind a card. -/
def behindCard : List CardMark → List CardMark
  | .free :: marks => .behind :: marks
  | marks => marks

/-- The groups inside the cards the scan selects, leftmost cards first, and
    those directly behind one. -/
def cardMarks : List Group → List CardMark
  | [] => []
  | g :: gs =>
    match _h : cardFrom 16 g.run gs with
    | none => .free :: cardMarks gs
    | some card =>
      insideMarks ((g :: gs).take (gs.length + 1 - card.2.length)) ++ behindCard (cardMarks card.2)
termination_by gs => gs.length
decreasing_by
  · exact Nat.lt_succ_self _
  · exact Nat.lt_succ_of_le (cardFrom_length _h)

/-- A group without the separator a card before it takes along. -/
def Group.trimmed (g : Group) : Group := if g.trailing then ⟨g.gap.tail, g.run, g.masked⟩ else g

/-- What the cards leave of a group. -/
def CardMark.group (mark : CardMark) (g : Group) : Group :=
  match mark with
  | .behind => g.trimmed
  | _ => g

theorem trim_cons (g : Group) (gs : List Group) : trim (g :: gs) = g.trimmed :: gs := by
  rw [trim, Group.trimmed]
  by_cases h : g.trailing = true
  · rw [if_pos h, if_pos h]
  · rw [if_neg h, if_neg h]

theorem Group.trimmed_run (g : Group) : g.trimmed.run = g.run := by
  rw [Group.trimmed]
  by_cases h : g.trailing = true
  · rw [if_pos h]
  · rw [if_neg h]

theorem digitCount_trim (gs : List Group) : digitCount (trim gs) = digitCount gs := by
  cases gs with
  | nil => rfl
  | cons g gs => rw [trim_cons, digitCount, digitCount, g.trimmed_run]

theorem insideMarks_length (gs : List Group) : (insideMarks gs).length = gs.length := by
  induction gs with
  | nil => rfl
  | cons g gs ih => exact congrArg (· + 1) ih

theorem insideMarks_get (front : List Group) (g : Group) (back : List Group) :
    (insideMarks (front ++ g :: back))[front.length]? = some (.inside (digitCount back)) := by
  induction front with
  | nil => rfl
  | cons g₀ front ih => exact ih

theorem cardMarks_none {g : Group} {gs : List Group} (h : cardFrom 16 g.run gs = none) :
    cardMarks (g :: gs) = .free :: cardMarks gs := by
  rw [cardMarks]
  split
  · rfl
  · rename_i card hcard
    rw [h] at hcard
    cases hcard

theorem cardMarks_some {g : Group} {mid back : List Group} {digits : List Char}
    (h : cardFrom 16 g.run (mid ++ back) = some (digits, back)) :
    cardMarks (g :: (mid ++ back)) = insideMarks (g :: mid) ++ behindCard (cardMarks back) := by
  rw [cardMarks]
  split
  · rename_i hcard
    rw [h] at hcard
    cases hcard
  · rename_i card hcard
    rw [h] at hcard
    have hcount : (mid ++ back).length + 1 - back.length = (g :: mid).length := by
      rw [List.length_append, List.length_cons]
      omega
    rw [← Option.some.inj hcard, hcount, ← List.cons_append, List.take_left]

/-- The separator in front of the first group does not matter. -/
theorem cardMarks_trim (gs : List Group) : cardMarks (trim gs) = cardMarks gs := by
  cases gs with
  | nil => rfl
  | cons g gs =>
    cases hcard : cardFrom 16 g.run gs with
    | none =>
      rw [trim_cons, cardMarks_none hcard, cardMarks_none]
      rwa [g.trimmed_run]
    | some card =>
      obtain ⟨mid, rfl, -⟩ := cardFrom_append hcard
      rw [trim_cons, cardMarks_some hcard, cardMarks_some]
      · rfl
      · rwa [g.trimmed_run]

/-- The first group of a text is behind no card. -/
theorem cardMarks_head (g : Group) (gs : List Group) :
    (cardFrom 16 g.run gs = none ∧ (cardMarks (g :: gs))[0]? = some .free) ∨
      ∃ rest, (cardMarks (g :: gs))[0]? = some (.inside rest) := by
  cases h : cardFrom 16 g.run gs with
  | none =>
    rw [cardMarks_none h]
    exact .inl ⟨rfl, rfl⟩
  | some card =>
    obtain ⟨mid, rfl, -⟩ := cardFrom_append h
    rw [cardMarks_some h]
    exact .inr ⟨_, rfl⟩

theorem behindCard_free {marks : List CardMark} (h : marks[0]? = some .free) :
    (behindCard marks)[0]? = some .behind := by
  cases marks with
  | nil => cases h
  | cons mark marks =>
    cases h
    rfl

theorem behindCard_inside {marks : List CardMark} {rest : ℕ} (h : marks[0]? = some (.inside rest)) :
    (behindCard marks)[0]? = some (.inside rest) := by
  cases marks with
  | nil => cases h
  | cons mark marks =>
    cases h
    rfl

theorem behindCard_succ (marks : List CardMark) (k : ℕ) :
    (behindCard marks)[k + 1]? = marks[k + 1]? := by
  cases marks with
  | nil => rfl
  | cons mark marks => cases mark <;> rfl

theorem render_trim_length (gs : List Group) : (render (trim gs)).length ≤ (render gs).length := by
  cases gs with
  | nil => exact Nat.le_refl _
  | cons g gs =>
    have hgap : g.trimmed.gap.length ≤ g.gap.length := by
      rw [Group.trimmed]
      by_cases h : g.trailing = true
      · rw [if_pos h]
        show g.gap.tail.length ≤ g.gap.length
        rw [List.length_tail]
        omega
      · rw [if_neg h]
    rw [trim_cons, render, render, g.trimmed_run]
    simp only [List.length_append]
    omega

section
variable {k : ℕ}

/-- The labelled text of a card and of the gap before it. -/
theorem card_labelled {start : Bool} {g : Group} {gs : List Group} {prev : Option (Char × Option τ)}
    {card : List Char × List Group} (h : Formed u start (g :: gs))
    (hprev : start = true → prev.map Prod.fst = none) (hcard : cardFrom 16 g.run gs = some card)
    {o t : List (Char × Option τ)} (ho : o.map Prod.fst = g.gap)
    (ht : t.map Prod.fst = g.run ++ render gs) :
    ∃ m rest, t = m ++ rest ∧ rest.map Prod.fst = render (trim card.2) ∧
      (cardRe u).labelledFrom (shownCard u) prev (o ++ t) = (o ++ shownCard u m) ++
        (cardRe u).labelledFrom (shownCard u) (after prev (o ++ m)) rest ∧
      (m.filter fun c => u.isDecimal c.1).map Prod.fst = card.1 := by
  obtain ⟨-, m, htext, hm, hfirst, hdigits, -⟩ := card_match h hprev hcard
  rw [htext] at ht
  obtain ⟨m, rest, rfl, rfl, hrest⟩ := List.map_eq_append_iff.mp ht
  have hne : m ≠ [] := fun hnil => hm (by rw [hnil]; rfl)
  have hquiet : Quiet (cardRe u) (prev.map Prod.fst) (o.map Prod.fst)
      ((m ++ rest).map Prod.fst) := by
    rw [ho]
    exact quiet_of_forall fun c hc prev s => cardRe_first_gap (h.1.gap c hc) prev s
  have hmatch : (cardRe u).first ((after prev o).map Prod.fst)
      (m.map Prod.fst ++ rest.map Prod.fst) = some m.length := by
    rw [after_map, ho, hrest, ← htext, hfirst, List.length_map]
  refine ⟨m, rest, rfl, hrest, ?_, ?_⟩
  · rw [labelledFrom_quiet hquiet, labelledFrom_match hne hmatch, ← after_append, List.append_assoc]
  · rw [filter_fst]
    exact hdigits

/-- A label in the match of a card is shown if fewer than four digits of the card are behind it. -/
theorem card_shown {g : Group} {digits : List Char} {back : List Group}
    {o m rest : List (Char × Option τ)} (ho : o.map Prod.fst = g.gap) (hlost : Lost l o)
    (hdigits : (m.filter fun c => u.isDecimal c.1).map Prod.fst = digits)
    (hstands : Stands l k (m.filter fun c => u.isDecimal c.1))
    (hrest : rest.map Prod.fst = render back) (hlost' : Lost l rest) :
    (4 ≤ k → Lost l ((o ++ shownCard u m) ++ rest)) ∧
      (k < 4 → Sits l k ((o ++ shownCard u m) ++ rest) [] (.mask 12 g.gap digits) back) := by
  have hlength : (m.filter fun c => u.isDecimal c.1).length = digits.length := by
    rw [← hdigits, List.length_map]
  constructor
  · intro hk
    exact (hlost.append ((lost_stars 12).append (hstands.last.2 hk))).append hlost'
  · intro hk
    refine ⟨o ++ List.replicate 12 ('*', none), _, rest, ?_, ?_, ?_, hrest,
      hlost.append (lost_stars 12), hstands.last.1 hk, hlost'⟩
    · rw [shownCard, starredShown]
      simp only [List.append_assoc]
    · rw [List.map_append, ho, List.map_replicate]
      rfl
    · rw [List.map_drop, hdigits, hlength]
      rfl

theorem suffix_of_length {a b m rest : List (Char × Option τ)} (hcut : a ++ b = m ++ rest)
    (hle : rest.length ≤ b.length) : ∃ c, b = c ++ rest ∧ m = a ++ c := by
  have hsuffix : rest <:+ b :=
    List.suffix_of_suffix_length_le (hcut ▸ List.suffix_append m rest) (List.suffix_append a b) hle
  obtain ⟨c, hc⟩ := hsuffix
  refine ⟨c, hc.symm, ?_⟩
  rw [← hc, ← List.append_assoc] at hcut
  exact (List.append_cancel_right hcut).symm

theorem append_cons_split {front back mid rest : List Group} {g : Group}
    (h : front ++ g :: back = mid ++ rest) : (∃ a, mid = front ++ g :: a ∧ back = a ++ rest) ∨
      ∃ c, front = mid ++ c ∧ rest = c ++ g :: back := by
  rcases List.append_eq_append_iff.mp h with ⟨a, hmid, hback⟩ | ⟨c, hfront, hrest⟩
  · cases a with
    | nil => exact .inr ⟨[], by rw [hmid, List.append_nil, List.append_nil], hback.symm⟩
    | cons g' a =>
      obtain ⟨rfl, rfl⟩ := List.cons.inj hback
      exact .inl ⟨a, hmid, rfl⟩
  · exact .inr ⟨c, hfront, hrest⟩

/-- A later group is inside the card that the first one begins, or behind it. -/
theorem cardMarks_later {front back rest : List Group} {g₀ g : Group} {digits : List Char}
    (hcard : cardFrom 16 g₀.run (front ++ g :: back) = some (digits, rest)) :
    (∃ a, back = a ++ rest ∧ (cardMarks (g₀ :: (front ++ g :: back)))[(g₀ :: front).length]? =
      some (.inside (digitCount a))) ∨
    ∃ mid c, front = mid ++ c ∧ rest = c ++ g :: back ∧
      (cardMarks (g₀ :: (front ++ g :: back)))[(g₀ :: front).length]? =
        (behindCard (cardMarks rest))[c.length]? := by
  obtain ⟨mid, hmid, -⟩ := cardFrom_append hcard
  have hmarks : cardMarks (g₀ :: (front ++ g :: back)) =
      insideMarks (g₀ :: mid) ++ behindCard (cardMarks rest) := by
    rw [hmid] at hcard ⊢
    exact cardMarks_some hcard
  rw [hmarks]
  rcases append_cons_split hmid with ⟨a, hmid', hback⟩ | ⟨c, hfront, hrest⟩
  · refine .inl ⟨a, hback, ?_⟩
    rw [hmid', ← List.cons_append, List.getElem?_append_left, insideMarks_get]
    rw [insideMarks_length, List.length_append, List.length_cons, List.length_cons]
    omega
  · have hindex : (g₀ :: front).length = (insideMarks (g₀ :: mid)).length + c.length := by
      rw [insideMarks_length, hfront, List.length_cons, List.length_append, List.length_cons]
      omega
    refine .inr ⟨mid, c, hfront, hrest, ?_⟩
    rw [hindex, List.getElem?_append_right (Nat.le_add_right _ _), Nat.add_sub_cancel_left]

/-- What a card that ends before the group leaves of the text. -/
theorem Sits.suffix {front front' back : List Group} {g g' : Group}
    {a t m rest : List (Char × Option τ)}
    (h : Sits l k t front g back) (ha : Lost l a) (hcut : a ++ t = m ++ rest)
    (hrun : g'.run = g.run) (hrest : rest.map Prod.fst = render (front' ++ g' :: back)) :
    Lost l m ∧ Sits l k rest front' g' back := by
  obtain ⟨t₁, t₂, t₃, rfl, h₁, h₂, h₃, hl₁, hl₂, hl₃⟩ := h
  rw [render_append, render, ← List.append_assoc, hrun] at hrest
  have hmap : (t₂ ++ t₃).map Prod.fst = g.run ++ render back := by rw [List.map_append, h₂, h₃]
  have hle : (t₂ ++ t₃).length ≤ rest.length := by
    have hlength := congrArg List.length hmap
    have hlength' := congrArg List.length hrest
    simp only [List.length_map, List.length_append] at hlength hlength' ⊢
    omega
  rw [← List.append_assoc] at hcut
  obtain ⟨c, rfl, hc⟩ := suffix_of_length hcut.symm hle
  have hlost : Lost l (m ++ c) := hc ▸ ha.append hl₁
  obtain ⟨hlost, hlost'⟩ := lost_append_iff.mp hlost
  refine ⟨hlost, c, t₂, t₃, rfl, ?_, by rw [h₂, hrun], h₃, hlost', hl₂, hl₃⟩
  rw [List.map_append, hmap] at hrest
  exact List.append_cancel_right hrest

/-- A label inside a card is in its match, with the digits behind it counted. -/
theorem Sits.in_card {front mid back : List Group} {g : Group} {a t m rest : List (Char × Option τ)}
    (h : Sits l k t front g (mid ++ back)) (hcut : a ++ t = m ++ rest) (ha : Lost l a)
    (hrun : ∀ c ∈ g.run, u.isDecimal c = true) (hformed : Formed u false (mid ++ back))
    (hback : Formed u false back) (hrest : rest.map Prod.fst = render (trim back)) :
    Lost l rest ∧ Stands l (k + digitCount mid) (m.filter fun c => u.isDecimal c.1) := by
  -- the text behind the card is part of the text behind the label
  have hlost : Lost l rest := by
    obtain ⟨t₁, t₂, t₃, rfl, h₁, h₂, h₃, hl₁, hl₂, hl₃⟩ := h
    have hle : rest.length ≤ t₃.length := by
      have hlength := congrArg List.length h₃
      have hlength' := congrArg List.length hrest
      rw [List.length_map] at hlength hlength'
      rw [render_append, List.length_append] at hlength
      have htrim := render_trim_length back
      omega
    rw [← List.append_assoc, ← List.append_assoc] at hcut
    obtain ⟨c, rfl, -⟩ := suffix_of_length hcut hle
    exact (lost_append_iff.mp hl₃).2
  refine ⟨hlost, ?_⟩
  have hstands : Stands l (k + (render (mid ++ back)).countP u.isDecimal)
      ((a ++ t).filter fun c => u.isDecimal c.1) := by
    rw [List.filter_append]
    exact (h.digits hrun).append_left (ha.of_subset (List.filter_subset_self _))
  rw [hcut, List.filter_append] at hstands
  obtain ⟨j, hj, hcount⟩ := hstands.of_append (hlost.of_subset (List.filter_subset_self _))
  -- the digits behind the card are behind the label in any case
  have hbehind : (rest.filter fun c => u.isDecimal c.1).length = digitCount back := by
    have hdigits := formed_digits (trim_formed hback)
    rw [← digitCount_trim, ← hdigits, ← hrest, List.countP_eq_length_filter, ← filter_fst,
      List.length_map]
  have hdigits := formed_digits hformed
  rw [hdigits, hbehind, digitCount_append] at hcount
  have hsame : k + digitCount mid = j := by omega
  rwa [hsame]

/-- What becomes of a label in this group: inside a card the mask shows it among the last four
    digits only, elsewhere it stays in what the cards leave of its group. -/
def CardFate (l : τ) (k : ℕ) (mark : CardMark) (g : Group) (back : List Group)
    (t : List (Char × Option τ)) (gs : List Group) (first : Bool) : Prop :=
  (∀ rest, mark = .inside rest → (4 ≤ k + rest → Lost l t) ∧
    (k + rest < 4 → ∃ front gap digits back', digits.length = 16 ∧
      gs = front ++ .mask 12 gap digits :: back' ∧
        Sits l (k + rest) t front (.mask 12 gap digits) back')) ∧
  ((∀ rest, mark ≠ .inside rest) → ∃ front, gs = front ++ mark.group g :: cardGroups back ∧
    front.isEmpty = first ∧ Sits l k t front (mark.group g) (cardGroups back))

theorem CardFate.cons {mark : CardMark} {g g₀ : Group} {back gs : List Group} {first : Bool}
    {o t : List (Char × Option τ)} (ho : o.map Prod.fst = g₀.gap ++ g₀.run) (hlost : Lost l o)
    (h : CardFate l k mark g back t gs first) :
    CardFate l k mark g back (o ++ t) (g₀ :: gs) false := by
  refine ⟨fun rest hmark => ⟨fun hk => hlost.append ((h.1 rest hmark).1 hk), fun hk => ?_⟩,
    fun hmark => ?_⟩
  · obtain ⟨front, gap, digits, back', hsixteen, hgs, hsits⟩ := (h.1 rest hmark).2 hk
    exact ⟨g₀ :: front, gap, digits, back', hsixteen, congrArg (List.cons g₀) hgs,
      hsits.cons ho hlost⟩
  · obtain ⟨front, hgs, -, hsits⟩ := h.2 hmark
    exact ⟨g₀ :: front, congrArg (List.cons g₀) hgs, rfl, hsits.cons ho hlost⟩

/-- The separator that a card takes along is no part of the group behind it. -/
theorem CardFate.behind {g : Group} {back gs : List Group} {first : Bool}
    {t : List (Char × Option τ)}
    (h : CardFate l k .free g.trimmed back t gs first) : CardFate l k .behind g back t gs first :=
  ⟨fun _ hmark => (by cases hmark), fun _ => h.2 fun _ hmark => by cases hmark⟩

theorem CardFate.inside {g g' : Group} {back gs : List Group} {first : Bool} {rest : ℕ}
    {t : List (Char × Option τ)} (h : CardFate l k (.inside rest) g back t gs first) :
    CardFate l k (.inside rest) g' back t gs first :=
  ⟨h.1, fun hmark => absurd rfl (hmark rest)⟩

/-- A label in a card that begins with the first group. -/
theorem card_fate {start : Bool} {g₀ g : Group} {front mid back gs : List Group}
    {digits : List Char} {prev : Option (Char × Option τ)} (hformed : Formed u start (g₀ :: gs))
    (hprev : start = true → prev = none) (hcard : cardFrom 16 g₀.run gs = some (digits, back))
    {o : List (Char × Option τ)} (ho : o.map Prod.fst = g₀.gap) (hlost : Lost l o)
    (a t : List (Char × Option τ))
    (hat : (a ++ t).map Prod.fst = g₀.run ++ render gs) (ha : Lost l a)
    (hsits : Sits l k t front g (mid ++ back)) (hok : Formed u true (g :: (mid ++ back)))
    (first : Bool) :
    CardFate l k (.inside (digitCount mid)) g (mid ++ back)
      ((cardRe u).labelledFrom (shownCard u) prev (o ++ (a ++ t)))
      (cardGroups (g₀ :: gs)) first := by
  have hprev' : start = true → prev.map Prod.fst = none := fun hstart => by rw [hprev hstart]; rfl
  obtain ⟨hsixteen, -, hback⟩ := cardFrom_sound hformed.2.2 hformed.1.run hcard
  obtain ⟨m, rest, hcut, hrest, htext, hdigits⟩ := card_labelled hformed hprev' hcard ho hat
  obtain ⟨hlost', hstands⟩ := hsits.in_card hcut ha hok.1.run hok.2.2 hback hrest
  have hscan : ((cardRe u).labelledFrom (shownCard u) (after prev (o ++ m)) rest).map Prod.fst =
      render (cardGroups (trim back)) := by
    rw [labelledFrom_fst shownCard_carries.text, hrest]
    exact cardRe_subFrom _ _ rfl (trim_formed hback) fun h => by cases h
  obtain ⟨hhidden, hshown⟩ := card_shown ho hlost hdigits hstands hscan
    (hlost'.labelledFrom shownCard_carries _)
  rw [htext]
  refine ⟨fun n hinside => ?_, fun h => absurd rfl (h _)⟩
  rw [← CardMark.inside.inj hinside]
  exact ⟨hhidden, fun hk => ⟨[], g₀.gap, digits, _, hsixteen, cardGroups_some hcard, hshown hk⟩⟩

/-- A label in the first group, with which no card begins. -/
theorem fate_free {start : Bool} {g : Group} {back : List Group} {prev : Option (Char × Option τ)}
    {t : List (Char × Option τ)} (hformed : Formed u start (g :: back))
    (hprev : start = true → prev = none) (hsits : Sits l k t [] g back)
    (hcard : cardFrom 16 g.run back = none) :
    CardFate l k .free g back ((cardRe u).labelledFrom (shownCard u) prev t)
      (cardGroups (g :: back)) true := by
  have hprev' : start = true → prev.map Prod.fst = none := fun hstart => by rw [hprev hstart]; rfl
  obtain ⟨t₁, t₂, t₃, rfl, h₁, h₂, h₃, hl₁, hl₂, hl₃⟩ := hsits
  rw [cardGroups_none hcard]
  refine ⟨fun rest h => (by cases h), fun _ => ⟨[], rfl, rfl, t₁, t₂, (cardRe u).labelledFrom
    (shownCard u) (after prev (t₁ ++ t₂)) t₃, ?_, h₁, h₂, ?_, hl₁, hl₂,
    hl₃.labelledFrom shownCard_carries _⟩⟩
  · have hquiet := quiet_cards hformed hprev' hcard
    have hmap : (t₁ ++ t₂).map Prod.fst = g.gap ++ g.run := by
      rw [List.map_append, h₂]
      exact congrArg (· ++ g.run) h₁
    rw [← hmap, ← h₃] at hquiet
    rw [← List.append_assoc, labelledFrom_quiet hquiet, List.append_assoc]
  · rw [labelledFrom_fst shownCard_carries.text, h₃]
    exact cardRe_subFrom _ back rfl hformed.2.2 fun h => by cases h

/-- A label in the first group, with which a card begins. -/
theorem fate_first {start : Bool} {g : Group} {mid back : List Group} {digits : List Char}
    {prev : Option (Char × Option τ)} {t : List (Char × Option τ)}
    (hformed : Formed u start (g :: (mid ++ back))) (hprev : start = true → prev = none)
    (hsits : Sits l k t [] g (mid ++ back))
    (hcard : cardFrom 16 g.run (mid ++ back) = some (digits, back)) :
    CardFate l k (.inside (digitCount mid)) g (mid ++ back)
      ((cardRe u).labelledFrom (shownCard u) prev t) (cardGroups (g :: (mid ++ back))) true := by
  obtain ⟨t₁, t₂, t₃, rfl, h₁, h₂, h₃, hl₁, hl₂, hl₃⟩ := hsits
  have ht : (t₂ ++ t₃).map Prod.fst = g.run ++ render (mid ++ back) := by
    rw [List.map_append, h₂, h₃]
  have hsits : Sits l k (t₂ ++ t₃) [] ⟨[], g.run, false⟩ (mid ++ back) :=
    ⟨[], t₂, t₃, rfl, rfl, h₂, h₃, lost_nil, hl₂, hl₃⟩
  have hok : Formed u true (⟨[], g.run, false⟩ :: (mid ++ back)) :=
    ⟨⟨fun c hc => absurd hc List.not_mem_nil, hformed.1.run, .inl rfl⟩, hformed.2⟩
  exact (card_fate hformed hprev hcard h₁ hl₁ [] _ ht lost_nil hsits hok true).inside

/-- A label behind a card that begins with the first group: what the scan of the rest does with it,
    with the card in front. -/
theorem fate_behind {start : Bool} {g₀ g : Group} {front c back gs : List Group}
    {digits : List Char} {prev : Option (Char × Option τ)} (hformed : Formed u start (g₀ :: gs))
    (hprev : start = true → prev = none)
    (hcard : cardFrom 16 g₀.run gs = some (digits, c ++ g :: back))
    {o a t : List (Char × Option τ)} (ho : o.map Prod.fst = g₀.gap) (hlost : Lost l o)
    (hat : (a ++ t).map Prod.fst = g₀.run ++ render gs) (ha : Lost l a)
    (hsits : Sits l k t front g back) {mark : CardMark}
    (hmark : (behindCard (cardMarks (c ++ g :: back)))[c.length]? = some mark)
    (hscan : ∀ {front' : List Group} {g' : Group} (prev' : Option (Char × Option τ))
      {t' : List (Char × Option τ)} {mark' : CardMark},
      trim (c ++ g :: back) = front' ++ g' :: back →
      Formed u false (front' ++ g' :: back) → Sits l k t' front' g' back →
      (cardMarks (front' ++ g' :: back))[front'.length]? = some mark' →
      CardFate l k mark' g' back ((cardRe u).labelledFrom (shownCard u) prev' t')
        (cardGroups (front' ++ g' :: back)) front'.isEmpty) :
    CardFate l k mark g back ((cardRe u).labelledFrom (shownCard u) prev (o ++ (a ++ t)))
      (cardGroups (g₀ :: gs)) false := by
  have hprev' : start = true → prev.map Prod.fst = none := fun hstart => by rw [hprev hstart]; rfl
  obtain ⟨(hsixteen : digits.length = 16), -, hback⟩ :=
    cardFrom_sound hformed.2.2 hformed.1.run hcard
  obtain ⟨m, rest, hcut, hrest, htext, hdigits⟩ := card_labelled hformed hprev' hcard ho hat
  have hmask : (o ++ shownCard u m).map Prod.fst =
      (Group.mask 12 g₀.gap digits).gap ++ (Group.mask 12 g₀.gap digits).run := by
    rw [mask_eq 12 g₀.gap [] digits (by omega), List.map_append, ho, shownCard, starredShown_fst,
      hdigits]
    rfl
  have hbehind := trim_formed hback
  rw [htext, cardGroups_some hcard]
  cases c with
  | nil =>
    rw [List.nil_append, trim_cons] at hbehind hrest hscan ⊢
    rw [List.nil_append, List.length_nil] at hmark
    have hsuffix : Lost l m ∧ Sits l k rest [] g.trimmed back :=
      hsits.suffix ha hcut g.trimmed_run hrest
    obtain ⟨hlost', hsits'⟩ := hsuffix
    have hmasked : Lost l (o ++ shownCard u m) := hlost.append (shownCard_carries.lost hlost')
    have htrimmed : cardMarks (g.trimmed :: back) = cardMarks (g :: back) := by
      rw [← trim_cons, cardMarks_trim]
    rcases cardMarks_head g back with ⟨-, hfree⟩ | ⟨rest', hinside⟩
    · rw [behindCard_free hfree] at hmark
      rw [← Option.some.inj hmark]
      exact (hscan _ rfl hbehind hsits' (htrimmed.symm ▸ hfree)).behind.cons hmask hmasked
    · rw [behindCard_inside hinside] at hmark
      rw [← Option.some.inj hmark]
      exact (hscan _ rfl hbehind hsits' (htrimmed.symm ▸ hinside)).inside.cons hmask hmasked
  | cons c₁ c₂ =>
    rw [List.cons_append, trim_cons] at hbehind hrest hscan ⊢
    have hsuffix : Lost l m ∧ Sits l k rest (c₁.trimmed :: c₂) g back :=
      hsits.suffix ha hcut rfl hrest
    obtain ⟨hlost', hsits'⟩ := hsuffix
    have hmasked : Lost l (o ++ shownCard u m) := hlost.append (shownCard_carries.lost hlost')
    rw [List.length_cons, behindCard_succ, ← cardMarks_trim, List.cons_append, trim_cons] at hmark
    exact (hscan _ rfl hbehind hsits' hmark).cons hmask hmasked

/-- The scan of the cards decides by the mark of its group what becomes of a label. -/
theorem cards_sits (length : ℕ) {front back : List Group} {g : Group}
    (hlength : (front ++ g :: back).length = length) {start : Bool}
    (prev : Option (Char × Option τ))
    {t : List (Char × Option τ)} (hformed : Formed u start (front ++ g :: back))
    (hprev : start = true → prev = none) (hsits : Sits l k t front g back) {mark : CardMark}
    (hmark : (cardMarks (front ++ g :: back))[front.length]? = some mark) :
    CardFate l k mark g back ((cardRe u).labelledFrom (shownCard u) prev t)
      (cardGroups (front ++ g :: back)) front.isEmpty := by
  have hfalse : ∀ prev : Option (Char × Option τ), false = true → prev = none := by
    intro prev h
    cases h
  -- the induction is on the number of groups: behind a card the scan starts afresh
  induction length using Nat.strong_induction_on generalizing front g start prev t mark with
  | _ length ih =>
    cases front with
    | nil =>
      rw [List.nil_append] at hformed hmark ⊢
      cases hcard : cardFrom 16 g.run back with
      | none =>
        rw [cardMarks_none hcard] at hmark
        exact Option.some.inj hmark ▸ fate_free hformed hprev hsits hcard
      | some card =>
        obtain ⟨mid, rfl, -⟩ := cardFrom_append hcard
        rw [cardMarks_some hcard] at hmark
        exact Option.some.inj hmark ▸ fate_first hformed hprev hsits hcard
    | cons g₀ front =>
      obtain ⟨o, t', rfl, ho, hlost, hrest⟩ := hsits.uncons
      rw [List.cons_append] at hformed hmark ⊢
      cases hcard : cardFrom 16 g₀.run (front ++ g :: back) with
      | none =>
        -- the first group stays, and the scan goes on with the next one
        have hshort : (front ++ g :: back).length < length := by
          rw [← hlength]
          exact Nat.lt_succ_self _
        have hprev' : start = true → prev.map Prod.fst = none :=
          fun hstart => by rw [hprev hstart]; rfl
        rw [cardMarks_none hcard, List.length_cons, List.getElem?_cons_succ] at hmark
        have hquiet := quiet_cards hformed hprev' hcard
        rw [← ho, ← hrest.text] at hquiet
        rw [labelledFrom_quiet hquiet, cardGroups_none hcard]
        exact (ih _ hshort rfl _ hformed.2.2 (hfalse (after prev o)) hrest hmark).cons ho hlost
      | some card =>
        obtain ⟨digits, rest⟩ := card
        obtain ⟨o₁, o₂, rfl, h₁, h₂⟩ := List.map_eq_append_iff.mp ho
        obtain ⟨hl₁, hl₂⟩ := lost_append_iff.mp hlost
        have ht : (o₂ ++ t').map Prod.fst = g₀.run ++ render (front ++ g :: back) := by
          rw [List.map_append, h₂, hrest.text]
        rw [List.append_assoc]
        rcases cardMarks_later hcard with ⟨a, rfl, hinside⟩ | ⟨mid, c, hfront, rfl, hbehind⟩
        · -- the card goes on over the group
          obtain ⟨hok, -⟩ := formed_at (some '0') hformed.2.2 (u.decimal_of_ascii '0' (by decide))
          rw [← Option.some.inj (hinside.symm.trans hmark)]
          exact card_fate hformed hprev hcard h₁ hl₁ o₂ t' ht hl₂ hrest hok.weaken false
        · -- the card ends before the group: the scan goes on behind it
          have htrim : (trim (c ++ g :: back)).length < length := by
            rw [trim_length, ← hlength]
            exact Nat.lt_succ_of_le (cardFrom_length hcard)
          refine fate_behind hformed hprev hcard h₁ hl₁ ht hl₂ hrest (hbehind.symm.trans hmark) ?_
          intro front' g' prev' t' mark' hcut hformed' hsits' hmark'
          exact ih _ (hcut ▸ htrim) rfl prev' hformed' (hfalse prev') hsits' hmark'

end

end JibitSdk.Guarantees
