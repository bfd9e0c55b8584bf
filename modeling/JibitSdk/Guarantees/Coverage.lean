import JibitSdk.Guarantees.SelectedCards

/-!
# Which identifiers redaction covers

Of an identifier at most the last four digits are left in clear, unless a card begins inside another
card or a card comes up to the plus of a mobile number.
-/

namespace JibitSdk.Guarantees

open JibitSdk.Python JibitSdk.Reasoning JibitSdk.Reasoning.Pattern JibitSdk.Sdk

variable {u : CharClasses}

/-! ## 1. Covered identifiers -/

theorem ibanHit_short {start : Bool} {g : Group} {gs : List Group} (h : g.run.length ≤ 16) :
    ibanHit u start g gs = false := by
  have hrun : ibanRun u g.run gs = false := by
    rw [Bool.eq_false_iff]
    intro hrun
    have hlength := ibanRun_length hrun
    omega
  rw [ibanHit, hrun, Bool.false_and]

theorem ibanHit_linked {start : Bool} {g : Group} {gs : List Group} (h : g.linked = true) :
    ibanHit u start g gs = false := by
  obtain ⟨d, hgap, -⟩ := linked_iff.mp h
  rw [ibanHit, hgap]
  exact Bool.and_false _

/-- A card begins with a digit. -/
theorem card_run_ne_nil {start : Bool} {g : Group} {gs : List Group}
    (hformed : Formed u start (g :: gs)) (h : (cardFrom 16 g.run gs).isSome = true) :
    g.run ≠ [] := by
  intro hnil
  rw [hnil, hformed.2.1 hnil] at h
  cases h

/-- A digit from the first run of a group on, by its group. -/
theorem digit_group {start : Bool} (front : List Group) {gs : List Group} {g : Group}
    {x y : List Char} {d : Char} (hformed : Formed u start (g :: gs))
    (hd : u.isDecimal d = true) (h : g.run ++ render gs = x ++ d :: y) :
    ∃ a e b r₁ r₂, g :: gs = a ++ e :: b ∧ e.run = r₁ ++ d :: r₂ ∧
      x.countP u.isDecimal = digitCount a + r₁.length ∧
      (render front ++ g.gap).length + x.length =
        (render (front ++ a) ++ (e.gap ++ r₁)).length := by
  have hlocate : render (⟨[], g.run, false⟩ :: gs) = x ++ d :: y := h
  obtain ⟨a, e, b, p, r₂, hgroups, hx, hgroup, -⟩ := locate hlocate
  cases a with
  | nil =>
    obtain ⟨rfl, rfl⟩ := List.cons.inj hgroups
    have hrun : g.run = x ++ d :: r₂ := by
      rw [hx]
      exact hgroup
    refine ⟨[], g, gs, x, r₂, rfl, hrun, ?_, ?_⟩
    · rw [digitCount, Nat.zero_add]
      exact List.countP_eq_length.mpr fun c hc =>
        hformed.1.run c (hrun ▸ List.mem_append_left _ hc)
    · rw [List.append_nil, ← List.append_assoc, ← List.length_append]
  | cons g₀ a =>
    obtain ⟨rfl, hback⟩ := List.cons.inj hgroups
    obtain rfl : gs = a ++ e :: b := hback
    obtain ⟨hat, -⟩ := formed_at (some '0') hformed.2.2 (u.decimal_of_ascii '0' (by decide))
    rcases group_split hgroup with ⟨z, hgap, -⟩ | ⟨r₁, rfl, hrun⟩
    · rw [hat.1.gap d (hgap ▸ List.mem_append_right _ (.head _))] at hd
      cases hd
    · have hx : x = g.run ++ (render a ++ (e.gap ++ r₁)) := by
        rw [hx]
        show g.run ++ render a ++ (e.gap ++ r₁) = _
        rw [List.append_assoc]
      have hgap : e.gap.countP u.isDecimal = 0 :=
        List.countP_eq_zero.mpr fun c hc => by rw [hat.1.gap c hc]; exact Bool.false_ne_true
      have hr₁ : r₁.countP u.isDecimal = r₁.length :=
        List.countP_eq_length.mpr fun c hc => hat.1.run c (hrun ▸ List.mem_append_left _ hc)
      refine ⟨g :: a, e, b, r₁, r₂, rfl, hrun, ?_, ?_⟩
      · rw [hx, List.countP_append, List.countP_append, List.countP_append, run_digits hformed.1,
          render_digits hformed.2.2, hgap, hr₁, digitCount]
        omega
      · rw [hx, ← List.length_append, render_append, render]
        simp only [List.append_assoc]

/-- Of a card that the scan selects only the last four digits are printed. -/
theorem card_covered {s : List Char} (hcut : ¬ CardCut u s) {start n i : ℕ}
    (h : (cardRe u).first (before none s start) (s.drop start) = some n) (hi : start ≤ i)
    (hi' : i < start + n) (hdigit : s[i]?.any u.isDecimal = true)
    (hrest : 4 ≤ ((s.drop (i + 1)).take (start + n - (i + 1))).countP u.isDecimal) :
    ¬ InClear u s i := by
  obtain ⟨front, g, back, card, m, hgroups, hformed, hstart, hdrop, hcard, htext, hm, hcount⟩ :=
    card_span (u := u) h
  obtain ⟨k, rfl⟩ := Nat.exists_eq_add_of_le hi
  have hk : k < m.length := by omega
  have hchar : s[start + k]? = m[k]? := by
    rw [← List.getElem?_drop, hdrop, htext, List.getElem?_append_left hk]
  obtain ⟨x, y, hsplit, hx⟩ := split_at (List.getElem?_eq_getElem hk)
  rw [hchar, List.getElem?_eq_getElem hk] at hdigit
  generalize m[k] = d at hdigit hsplit
  have hd : u.isDecimal d = true := hdigit
  -- of the sixteen digits at least four come later, so at most eleven come before
  have hy := (span_split (hdrop.trans htext) hsplit).2
  rw [hx, hm] at hy
  rw [hy] at hrest
  have hbefore : x.countP u.isDecimal < 12 := by
    rw [hsplit, List.countP_append, List.countP_cons_of_pos hd] at hcount
    omega
  -- the scan selects the card
  have hpos := card_run_ne_nil hformed (Option.isSome_iff_exists.mpr ⟨_, hcard⟩)
  obtain ⟨mid, rfl, hiban, hcard'⟩ := cardFrom_iban (u := u) (Nat.le_refl 16) hcard
  obtain ⟨mid', hmid', hlinks, -⟩ := cardFrom_append hcard
  rw [← List.append_cancel_right hmid'] at hlinks
  have hsixteen := card_digits hcard
  obtain ⟨front₁, hlength₁, hgroups₁⟩ := mapGroups_split (ibanGroup u) true front g (mid ++ card.2)
  rw [← hgroups, ibanGroup_short (by omega), hiban] at hgroups₁
  rw [hiban] at hcard'
  have hselected := selected_of_not_cut hcut hgroups₁ hpos hcard'
  -- the digit is in a run of the card
  have hlocate : g.run ++ render (mid ++ card.2) = x ++ d :: (y ++ render (trim card.2)) := by
    rw [htext, hsplit, List.append_assoc]
    rfl
  obtain ⟨a, e, b, r₁, r₂, hsame, hrun, hearlier, hplace⟩ :=
    digit_group front hformed hd hlocate
  have hinside : ∃ z, g :: mid = a ++ e :: z := by
    have hsame : a ++ e :: b = (g :: mid) ++ card.2 := hsame.symm
    rcases append_cons_split hsame with ⟨z, hz, -⟩ | ⟨z, rfl, -⟩
    · exact ⟨z, hz⟩
    · rw [digitCount_append, digitCount] at hearlier
      omega
  obtain ⟨z, hz⟩ := hinside
  have hmark := hselected.inside hz
  rw [List.length_append, hlength₁, ← List.length_append] at hmark
  have hleft : ibanHit u (front ++ a).isEmpty e b = false := by
    cases a with
    | nil =>
      obtain ⟨rfl, -⟩ := List.cons.inj hz
      exact ibanHit_short (by omega)
    | cons g₀ a =>
      obtain ⟨-, rfl⟩ := List.cons.inj hz
      exact ibanHit_linked (hlinks e (List.mem_append_right _ (.head _)))
  have htotal := congrArg digitCount hz
  have hlast := congrArg List.length hrun
  rw [digitCount, digitCount_append, digitCount] at htotal
  rw [List.length_append, List.length_cons] at hlast
  rw [hsame, ← List.append_assoc] at hgroups
  rw [hstart, ← hx, hplace, inClear_inside hgroups hrun hleft hmark]
  omega

theorem ibanGroup_long {start : Bool} {g : Group} {gs : List Group}
    (h : (ibanGroup u start g gs).run.length ≠ 4) : ibanGroup u start g gs = g := by
  rcases ibanGroup_cases start g gs with hleft | ⟨gap, hmask, hlength⟩
  · exact hleft
  · refine absurd ?_ h
    rw [hmask, Group.mask, List.length_drop, hlength]

/-- The first group of a text is behind no card. -/
theorem behind_front {s : List Char} {front back : List Group} {g : Group}
    (h : groups u s = front ++ g :: back)
    (hmark : (cardMarks (ibanGroups u s))[front.length]? = some .behind) :
    front.isEmpty = false := by
  cases front with
  | cons g₀ front => rfl
  | nil =>
    rw [ibanGroups, h, List.nil_append, mapGroups] at hmark
    rcases cardMarks_head (ibanGroup u true g back) (mapGroups (ibanGroup u) false back) with
      ⟨-, hhead⟩ | ⟨rest, hhead⟩
    · cases hhead.symm.trans hmark
    · cases hhead.symm.trans hmark

/-- Without the separator before it a plus still begins a number, if more of the gap is left. -/
theorem plusMobile_trimmed {g : Group} (hplus : plusMobile false g = true)
    (htrailing : g.trailing = true) (hgap : ∀ d, isSep d = true → g.gap ≠ [d, '+']) :
    plusMobile false ⟨g.gap.tail, g.run, g.masked⟩ = true := by
  rw [Group.trailing, Bool.and_eq_true] at htrailing
  unfold plusMobile at hplus ⊢
  rw [Bool.false_or, Bool.and_assoc, Bool.and_eq_true, Bool.and_eq_true, beq_iff_eq] at hplus ⊢
  obtain ⟨⟨hlast, hfree⟩, hnumber⟩ := hplus
  obtain ⟨hsep, -⟩ := htrailing
  cases hg : g.gap with
  | nil =>
    rw [hg] at hsep
    cases hsep
  | cons d gap =>
    rw [hg] at hsep hlast hfree
    cases gap with
    | nil => cases hfree
    | cons e gap =>
      cases gap with
      | nil =>
        have he : e = '+' := Option.some.inj hlast
        exact absurd (hg.trans (by rw [he])) (hgap d hsep)
      | cons k gap =>
        rw [List.getLast?_cons_cons] at hlast
        exact ⟨⟨hlast, rfl⟩, hnumber⟩

/-- A run that no IBAN has is a group of the text. -/
theorem iban_free {s : List Char} {front back : List Group} {g : Group}
    (h : groups u s = front ++ g :: back) (hiban : ibanHit u front.isEmpty g back = false) :
    ∃ front₁, front₁.length = front.length ∧
      ibanGroups u s = front₁ ++ g :: mapGroups (ibanGroup u) false back := by
  obtain ⟨front₁, hlength, hgroups⟩ := mapGroups_split (ibanGroup u) true front g back
  have hformed := (formed_groups (u := u) s).1
  rw [h] at hformed
  obtain ⟨hat, hbehind⟩ := formed_at none hformed rfl
  have hleft := (ibanRe_advances.left hat hbehind (by rwa [Bool.true_and])).1
  rw [hleft, ← h] at hgroups
  exact ⟨front₁, hlength, hgroups⟩

/-- Of a mobile number that keeps its plus only the last four digits are printed. -/
theorem mobile_covered {s : List Char} (hcut : ¬ PlusCut u s) {front back : List Group} {g : Group}
    {r₁ r₂ : List Char} {c : Char} (hgroups : groups u s = front ++ g :: back)
    (hrun : g.run = r₁ ++ c :: r₂) (hhit : mobileHit front.isEmpty g back = true)
    (hk : 4 ≤ r₂.length) :
    ¬ InClear u s (render front ++ (g.gap ++ r₁)).length := by
  cases hiban : ibanHit u front.isEmpty g back with
  | true => exact iban_hidden hgroups hrun hiban hk
  | false =>
    obtain ⟨front₁, hlength₁, hgroups₁⟩ := iban_free hgroups hiban
    obtain ⟨mark, hmark⟩ := exists_mark (u := u) hgroups
    cases mark with
    | inside rest =>
      rw [inClear_inside hgroups hrun hiban hmark]
      omega
    | free =>
      exact (inClear_outside hgroups hrun hiban hmark fun rest h => by cases h).mpr ⟨hk, .inl hhit⟩
    | behind =>
      refine (inClear_outside hgroups hrun hiban hmark fun rest h => by cases h).mpr ⟨hk, .inl ?_⟩
      have hfront := behind_front hgroups hmark
      rw [hfront] at hhit ⊢
      rw [mobileHit, Bool.or_eq_true] at hhit ⊢
      rw [CardMark.group_run]
      refine hhit.imp_left fun hplus => ?_
      show plusMobile false g.trimmed = true
      rw [Group.trimmed]
      by_cases htrailing : g.trailing = true
      · rw [if_pos htrailing]
        refine plusMobile_trimmed hplus htrailing fun d hsep hgap => hcut ?_
        rw [hgroups₁, ← hlength₁] at hmark
        obtain ⟨front', g', mid, digits, rfl, hcard, hfree⟩ := card_of_behind _ rfl hmark
        refine ⟨front', g', mid, g, _, digits, d, ?_, hcard, hfree, hplus, hgap, hsep⟩
        rw [hgroups₁, List.append_assoc]
        rfl
      · rw [if_neg htrailing]
        exact hplus

/-- Of a national id only the last four digits are printed. -/
theorem nationalId_covered {s : List Char} {front back : List Group} {g : Group} {r₁ r₂ : List Char}
    {c : Char} (hgroups : groups u s = front ++ g :: back) (hrun : g.run = r₁ ++ c :: r₂)
    (hten : g.run.length = 10) (hk : 4 ≤ r₂.length) :
    ¬ InClear u s (render front ++ (g.gap ++ r₁)).length := by
  have hiban : ibanHit u front.isEmpty g back = false := ibanHit_short (by omega)
  obtain ⟨mark, hmark⟩ := exists_mark (u := u) hgroups
  cases mark with
  | inside rest =>
    rw [inClear_inside hgroups hrun hiban hmark]
    omega
  | behind =>
      exact (inClear_outside hgroups hrun hiban hmark fun rest h => by cases h).mpr ⟨hk, .inr hten⟩
  | free =>
      exact (inClear_outside hgroups hrun hiban hmark fun rest h => by cases h).mpr ⟨hk, .inr hten⟩

/-! ## 2. Identifiers left in clear -/

theorem locate_digit {gs : List Group} {n : ℕ} (h : n < digitCount gs) :
    ∃ x e y r₁ c r₂, gs = x ++ e :: y ∧ e.run = r₁ ++ c :: r₂ ∧ digitCount x + r₁.length = n := by
  induction gs generalizing n with
  | nil => cases h
  | cons g gs ih =>
    by_cases hn : n < g.run.length
    · obtain ⟨r₁, r₂, hrun, hlength⟩ := split_at (List.getElem?_eq_getElem hn)
      exact ⟨[], g, gs, r₁, _, r₂, rfl, hrun, by rw [digitCount, Nat.zero_add, hlength]⟩
    · rw [digitCount] at h
      obtain ⟨x, e, y, r₁, c, r₂, rfl, hrun, hcount⟩ := ih (n := n - g.run.length) (by omega)
      exact ⟨g :: x, e, y, r₁, c, r₂, rfl, hrun, by rw [digitCount]; omega⟩

/-- A match behind the first part of a text. -/
theorem isSpan_append {r : Pattern Char} (hr : r ∈ [ibanRe u, cardRe u, mobileRe u, nationalIdRe u])
    {p t : List Char} {n : ℕ} (h : r.first (after none p) t = some n) :
    IsSpan u (p ++ t) p.length n := by
  refine ⟨r, hr, ?_⟩
  rw [before, List.take_left, List.drop_left, ← after_eq]
  exact h

/-- A digit of a group, from the first run of an earlier group on. -/
theorem group_digit {start : Bool} {prev : Option Char} (front : List Group) {gs x y : List Group}
    {g e : Group} {r₁ r₂ : List Char} {c : Char} (hformed : Formed u start (g :: gs))
    (hbehind : Behind u start prev) (hsplit : g :: gs = x ++ e :: y)
    (hrun : e.run = r₁ ++ c :: r₂) : ∃ w, g.run ++ render gs = w ++ c :: (r₂ ++ render y) ∧
      u.isDecimal c = true ∧ w.countP u.isDecimal = digitCount x + r₁.length ∧
      (render front ++ g.gap).length + w.length =
        (render (front ++ x) ++ (e.gap ++ r₁)).length := by
  have hw : ∃ w, render x ++ (e.gap ++ r₁) = g.gap ++ w := by
    cases x with
    | nil =>
      obtain ⟨rfl, -⟩ := List.cons.inj hsplit
      exact ⟨r₁, rfl⟩
    | cons g₀ x =>
      obtain ⟨rfl, -⟩ := List.cons.inj hsplit
      exact ⟨g.run ++ (render x ++ (e.gap ++ r₁)), by rw [render]; simp only [List.append_assoc]⟩
  obtain ⟨w, hw⟩ := hw
  have hat := hformed
  rw [hsplit] at hat
  obtain ⟨hat', -⟩ := formed_at _ hat hbehind
  refine ⟨w, ?_, hat'.1.run c (hrun ▸ List.mem_append_right _ (.head _)), ?_, ?_⟩
  · refine List.append_cancel_left (?_ : g.gap ++ _ = g.gap ++ _)
    rw [← List.append_assoc g.gap w, ← hw]
    show render (g :: gs) = _
    rw [hsplit, render_append, render, hrun]
    simp only [List.append_assoc, List.cons_append]
  · have hgap : e.gap.countP u.isDecimal = 0 :=
      List.countP_eq_zero.mpr fun c hc => by rw [hat'.1.gap c hc]; exact Bool.false_ne_true
    have hfirst : g.gap.countP u.isDecimal = 0 :=
      List.countP_eq_zero.mpr fun c hc => by rw [hformed.1.gap c hc]; exact Bool.false_ne_true
    have hr₁ : r₁.countP u.isDecimal = r₁.length :=
      List.countP_eq_length.mpr fun c hc => hat'.1.run c (hrun ▸ List.mem_append_left _ hc)
    have hboth := congrArg (List.countP u.isDecimal) hw
    rw [List.countP_append, List.countP_append, List.countP_append, hgap, hfirst, hr₁,
      render_digits hat] at hboth
    omega
  · rw [render_append, List.append_assoc, hw, ← List.append_assoc]
    exact List.length_append.symm

/-- A card does not come out covered if one of its first twelve digits is printed. -/
theorem card_uncovered {s : List Char} {front gs x y : List Group} {g e : Group} {r₁ r₂ : List Char}
    {c : Char} (hgroups : groups u s = front ++ g :: gs)
    (hcard : (cardFrom 16 g.run gs).isSome = true) (hsplit : g :: gs = x ++ e :: y)
    (hrun : e.run = r₁ ++ c :: r₂) (hearlier : digitCount x + r₁.length < 12)
    (hclear : InClear u s (render (front ++ x) ++ (e.gap ++ r₁)).length) :
    ¬ CoversIdentifiers u s := by
  intro hcovers
  obtain ⟨card, hcard⟩ := Option.isSome_iff_exists.mp hcard
  have hformed := (formed_groups (u := u) s).1
  rw [hgroups] at hformed
  obtain ⟨hformed, hbehind⟩ := formed_at none hformed rfl
  rw [Bool.true_and] at hformed hbehind
  have htext : s = (render front ++ g.gap) ++ (g.run ++ render gs) := by
    rw [← render_groups u s, hgroups, render_append, render, List.append_assoc]
  -- the card matches from its first run on
  obtain ⟨-, m, hm, -, hfirst, -, hcount⟩ := card_match hformed hbehind.none hcard
  have hdrop : s.drop (render front ++ g.gap).length = g.run ++ render gs := by
    rw [htext, List.drop_left]
  have hspan : IsSpan u s (render front ++ g.gap).length m.length := by
    rw [htext]
    refine isSpan_append (.tail _ (.head _)) ?_
    rw [after_append]
    exact hfirst
  -- and the digit is one of the first twelve of the match
  obtain ⟨w, hdigits, hd, hbefore, hplace⟩ := group_digit front hformed hbehind hsplit hrun
  rw [hm] at hdigits
  rcases List.append_eq_append_iff.mp hdigits with ⟨v, hv, -⟩ | ⟨v, hm', hv⟩
  · rw [hv, List.countP_append] at hbefore
    omega
  · cases v with
    | nil =>
      rw [List.append_nil] at hm'
      rw [hm'] at hcount
      omega
    | cons d v =>
      obtain ⟨rfl, -⟩ := List.cons.inj hv
      rw [hm', List.countP_append, List.countP_cons_of_pos hd] at hcount
      obtain ⟨hchar, hrest⟩ := span_split (hdrop.trans hm) hm'
      have hwithin : w.length < m.length := by
        have hlength := congrArg List.length hm'
        rw [List.length_append, List.length_cons] at hlength
        omega
      have hcovered := hcovers _ _ hspan _ (Nat.le_add_right _ _) (Nat.add_lt_add_left hwithin _)
        (by rw [hchar]; exact hd) (by rw [hrest]; omega)
      rw [hplace] at hcovered
      exact hcovered.2 hclear

/-- Where a card begins inside another one, a card begins inside a selected one. -/
theorem CardCut.selected {s : List Char} (h : CardCut u s) : ∃ front g mid₁ h mid₂ back,
    Selected (ibanGroups u s) front g (mid₁ ++ h :: mid₂) back ∧
      (cardFrom 16 h.run (mid₂ ++ back)).isSome = true := by
  obtain ⟨front, g, mid, h, back, hgroups, hcard, hearlier, hbegins⟩ := h
  obtain ⟨front', g', mid', back', hselected, hle, hle'⟩ := selected_of_card front.length rfl hcard
  rw [← hgroups] at hselected
  rcases Nat.eq_or_lt_of_le hle with hlength | hlt
  · obtain ⟨rfl, hsame⟩ := List.append_inj (hgroups.symm.trans hselected.groups) hlength.symm
    obtain ⟨rfl, hrest⟩ := List.cons.inj hsame
    rcases append_cons_split hrest with ⟨mid₂, rfl, rfl⟩ | ⟨c, rfl, -⟩
    · exact ⟨front, g, mid, h, mid₂, back', hselected, hbegins⟩
    · obtain ⟨digits, hcard'⟩ := hselected.card
      have hcount := card_digits hcard'
      rw [digitCount, digitCount_append] at hearlier
      omega
  · obtain ⟨mid₁, mid₂, rfl, rfl, hback⟩ := hselected.before hgroups hlt hle'
    rw [hback] at hcard
    exact ⟨front', g', mid₁, g, mid₂, back', hselected, hcard⟩

/-- The groups of a selected card are groups of the text. -/
theorem selected_text {s : List Char} {front mid back : List Group} {g : Group}
    (h : Selected (ibanGroups u s) front g mid back) :
    (∀ e ∈ mid, e.linked = true) ∧ ∃ front' g' rest, groups u s = front' ++ g' :: (mid ++ rest) ∧
      front'.length = front.length ∧ mapGroups (ibanGroup u) false (mid ++ rest) = mid ++ back := by
  obtain ⟨digits, hcard⟩ := h.card
  obtain ⟨mid', hmid', hlinks, -⟩ := cardFrom_append hcard
  rw [← List.append_cancel_right hmid'] at hlinks
  obtain ⟨front', g', back', hgroups, hlength, -, hback⟩ := mapGroups_unsplit h.groups
  obtain ⟨rest, rfl, -⟩ := linked_iban hback.symm hlinks
  exact ⟨hlinks, front', g', rest, hgroups, hlength, hback.symm⟩

/-- A card of the groups that the scan of the IBANs leaves is a card of the text. -/
theorem card_of_iban {mid₁ mid₂ rest back : List Group} {h : Group}
    (hback : mapGroups (ibanGroup u) false (mid₁ ++ h :: (mid₂ ++ rest)) =
      mid₁ ++ h :: (mid₂ ++ back))
    (hbegins : (cardFrom 16 h.run (mid₂ ++ back)).isSome = true) :
    (cardFrom 16 h.run (mid₂ ++ rest)).isSome = true := by
  obtain ⟨front₁, hlength₁, hgroups₁⟩ := mapGroups_split (ibanGroup u) false mid₁ h (mid₂ ++ rest)
  rw [hback] at hgroups₁
  have hsame := (List.cons.inj (List.append_inj hgroups₁ hlength₁.symm).2).2
  apply cardFrom_of_iban
  rwa [← hsame]

/-- No group but the last is without digits. -/
theorem ibanGroups_run {s : List Char} {front mid back : List Group} {g h : Group}
    (hgroups : ibanGroups u s = front ++ g :: (mid ++ h :: back)) : g.run ≠ [] := by
  have hformed := formed_ibanGroups (u := u) s
  rw [hgroups] at hformed
  obtain ⟨hat, -⟩ := formed_at none hformed rfl
  exact mt hat.2.1 (List.append_ne_nil_of_right_ne_nil _ (List.cons_ne_nil _ _))

/-- Of a card that begins inside a selected one an early digit is among the
    last four of the other. -/
theorem CardCut.uncovered {s : List Char} (h : CardCut u s) : ¬ CoversIdentifiers u s := by
  obtain ⟨front, g, mid₁, h, mid₂, back, hselected, hbegins⟩ := h.selected
  obtain ⟨digits, hcard⟩ := hselected.card
  have hsixteen := card_digits hcard
  have hgroups₁ := hselected.groups
  obtain ⟨hlinks, front', g', rest, hgroups, hlength, hback⟩ := selected_text hselected
  simp only [List.append_assoc, List.cons_append] at hgroups hback hgroups₁
  have hbegins' := card_of_iban hback hbegins
  have hgroups' : groups u s = (front' ++ g' :: mid₁) ++ h :: (mid₂ ++ rest) := by
    rw [hgroups]
    simp only [List.append_assoc, List.cons_append]
  have hformed := (formed_groups (u := u) s).1
  rw [hgroups'] at hformed
  obtain ⟨hat, -⟩ := formed_at none hformed rfl
  have hfirst := List.length_pos_of_ne_nil (ibanGroups_run hgroups₁)
  have hpos := List.length_pos_of_ne_nil (card_run_ne_nil hat hbegins')
  rw [digitCount_append, digitCount] at hsixteen
  -- the digit of its own that is the fourth from the end of the other card, or its first
  obtain ⟨x, e, y, r₁, c, r₂, hsplit, hrun, hcount⟩ :=
    locate_digit
      (show digitCount (h :: mid₂) - 4 < digitCount (h :: mid₂) by rw [digitCount]; omega)
  have hmember : e ∈ mid₁ ++ h :: mid₂ := by
    rw [hsplit]
    exact List.mem_append_right _ (List.mem_append_right _ (.head _))
  have hown : h :: (mid₂ ++ rest) = x ++ e :: (y ++ rest) := by
    rw [← List.cons_append, hsplit, List.append_assoc]
    rfl
  have hmark : (cardMarks (ibanGroups u s))[((front' ++ g' :: mid₁) ++ x).length]? =
      some (.inside (digitCount y)) := by
    have hsame : g :: (mid₁ ++ h :: mid₂) = (g :: (mid₁ ++ x)) ++ e :: y := by
      rw [hsplit, List.cons_append, List.append_assoc]
    have hinside := hselected.inside hsame
    rw [List.length_append, ← hlength] at hinside
    rw [List.append_assoc, List.cons_append, List.length_append]
    exact hinside
  have hgroups'' : groups u s = ((front' ++ g' :: mid₁) ++ x) ++ e :: (y ++ rest) := by
    rw [hgroups', hown, ← List.append_assoc]
  have htotal := congrArg digitCount hsplit
  have hlast := congrArg List.length hrun
  rw [digitCount, digitCount_append, digitCount] at htotal
  rw [List.length_append, List.length_cons] at hlast
  rw [digitCount] at hcount
  have hclear :=
    (inClear_inside hgroups'' hrun (ibanHit_linked (hlinks e hmember)) hmark).mpr (by omega)
  exact card_uncovered hgroups' hbegins' hown hrun (by omega) hclear

theorem mobileRun_lengths {run : List Char} (h : mobileRun run = true) : run.length ≠ 12 := by
  rw [mobileRun, List.any_eq_true] at h
  obtain ⟨front, hfront, h⟩ := h
  rw [Bool.and_eq_true] at h
  have hlength := nine_drop h.2
  have hcases : front.length = 4 ∨ front.length = 1 ∨ front.length = 0 := by
    rcases List.mem_cons.mp hfront with rfl | hfront
    · exact .inl rfl
    · rcases List.mem_cons.mp hfront with rfl | hfront
      · exact .inr (.inl rfl)
      · rw [List.mem_singleton.mp hfront]
        exact .inr (.inr rfl)
  omega

/-- A mobile number with its plus does not come out covered if its first digit is printed. -/
theorem mobile_uncovered {s : List Char} {front back : List Group} {g : Group} {d : Char}
    (hgroups : groups u s = front ++ g :: back) (hplus : plusMobile false g = true)
    (hgap : g.gap = [d, '+']) (hsep : isSep d = true)
    (hclear : InClear u s (render front ++ (g.gap ++ [])).length) : ¬ CoversIdentifiers u s := by
  intro hcovers
  have hlength := plusMobile_length hplus
  have hformed := (formed_groups (u := u) s).1
  rw [hgroups] at hformed
  obtain ⟨hformed, -⟩ := formed_at none hformed rfl
  rw [Bool.true_and] at hformed
  have htext : s = (render front ++ [d]) ++ (('+' :: g.run) ++ render back) := by
    rw [← render_groups u s, hgroups, render_append, render, hgap, List.append_assoc]
    rfl
  have hdrop : s.drop (render front ++ [d]).length = ('+' :: g.run) ++ render back := by
    rw [htext, List.drop_left]
  have hspan : IsSpan u s (render front ++ [d]).length ('+' :: g.run).length := by
    rw [htext]
    refine isSpan_append (.tail _ (.tail _ (.head _))) ?_
    rw [after_concat, List.cons_append,
      mobileRe_first_plus hformed.toRun (isSep_not_decimal hsep)]
    rw [plusMobile, Bool.and_assoc, Bool.and_eq_true] at hplus
    rw [if_pos hplus.2, List.length_cons, Nat.add_comm]
  -- its first digit stands behind the plus
  cases hrun : g.run with
  | nil =>
    rw [hrun] at hlength
    cases hlength
  | cons c r₂ =>
    have hsplit : '+' :: g.run = ['+'] ++ c :: r₂ := by rw [hrun]; rfl
    obtain ⟨hchar, hrest⟩ := span_split hdrop hsplit
    have hdigits : ∀ e ∈ c :: r₂, u.isDecimal e = true := hrun ▸ hformed.1.run
    have hcount : r₂.countP u.isDecimal = 11 := by
      rw [List.countP_eq_length.mpr fun e he => hdigits e (.tail _ he)]
      rw [hrun, List.length_cons] at hlength
      omega
    have hwithin : ['+'].length < ('+' :: g.run).length := by
      rw [List.length_singleton, List.length_cons, hlength]
      decide
    have hcovered := hcovers _ _ hspan _ (Nat.le_add_right _ _) (Nat.add_lt_add_left hwithin _)
      (by rw [hchar]; exact hdigits c (.head _)) (by rw [hrest, hcount]; decide)
    have hplace : (render front ++ [d]).length + ['+'].length =
        (render front ++ (g.gap ++ [])).length := by
      rw [← List.length_append, hgap, List.append_assoc]
      rfl
    rw [hplace] at hcovered
    exact hcovered.2 hclear

/-- A mobile number loses its plus to the card before it, and with it its mask. -/
theorem PlusCut.uncovered {s : List Char} (hcut : ¬ CardCut u s) (h : PlusCut u s) :
    ¬ CoversIdentifiers u s := by
  obtain ⟨front, g₀, mid, g, back, digits, d, hgroups, hcard, hfree, hplus, hgap, hsep⟩ := h
  have hlength := plusMobile_length hplus
  -- the scan selects the card, so it takes the separator before the plus along
  have hselected := selected_of_not_cut hcut hgroups (ibanGroups_run hgroups) hcard
  have hmark := hselected.behind hfree
  have hbefore : ibanGroups u s = (front ++ g₀ :: mid) ++ g :: back := by
    rw [hgroups, List.append_assoc]
    rfl
  obtain ⟨front', g', back', hgroups', hlength', hg, -⟩ := mapGroups_unsplit hbefore
  have hlong : (ibanGroup u (true && front'.isEmpty) g' back').run.length ≠ 4 := by
    rw [← hg, hlength]
    decide
  rw [ibanGroup_long hlong] at hg
  rw [← hg] at hgroups'
  rw [← hlength'] at hmark
  refine mobile_uncovered hgroups' hplus hgap hsep ?_
  -- what is left of the group is neither a mobile number nor a national id
  by_contra hhidden
  obtain ⟨c, r₂, hrun⟩ := List.exists_cons_of_ne_nil
    (List.ne_nil_of_length_pos (by omega : 0 < g.run.length))
  obtain ⟨-, hmobile | hten⟩ := (inClear_outside hgroups' hrun (ibanHit_short (by omega)) hmark
    fun rest h => by cases h).mp hhidden
  · rw [behind_front hgroups' hmark, mobileHit, Bool.or_eq_true] at hmobile
    rcases hmobile with hplus' | hmobile
    · have htrimmed : CardMark.behind.group g = ⟨['+'], g.run, g.masked⟩ := by
        show g.trimmed = _
        rw [Group.trimmed, Group.trailing, hgap, if_pos]
        · rfl
        · rw [List.head?_cons, Option.any_some, hsep]
          rfl
      rw [htrimmed] at hplus'
      cases hplus'
    · rw [CardMark.group_run] at hmobile
      exact mobileRun_lengths hmobile hlength
  · omega

/-- Of every identifier of a text at most the last four digits are left in clear unless a card
    begins inside another one or comes up to the plus of a mobile number. -/
theorem coversIdentifiers_iff (s : List Char) :
    CoversIdentifiers u s ↔ ¬ CardCut u s ∧ ¬ PlusCut u s := by
  refine ⟨fun h => ?_, ?_⟩
  · have hcut : ¬ CardCut u s := fun hcut => hcut.uncovered h
    exact ⟨hcut, fun hplus => hplus.uncovered hcut h⟩
  rintro ⟨hcard, hplus⟩ start n ⟨r, hr, hfirst⟩ i hi hi' hdigit hrest
  suffices hclear : ¬ InClear u s i from ⟨replaced_of_not_inClear u hclear, hclear⟩
  rcases List.mem_cons.mp hr with rfl | hr
  · obtain ⟨front, g, back, r₁, c, r₂, hgroups, hrun, rfl, hhit, hcount⟩ :=
      ibanRe_stays.digit ibanRe_advances.empty hfirst hi hi' hdigit
    exact iban_hidden hgroups hrun hhit (hrest.trans hcount)
  rcases List.mem_cons.mp hr with rfl | hr
  · exact card_covered hcard hfirst hi hi' hdigit hrest
  rcases List.mem_cons.mp hr with rfl | hr
  · obtain ⟨front, g, back, r₁, c, r₂, hgroups, hrun, rfl, hhit, hcount⟩ :=
      mobileRe_stays.digit mobileRe_advances.empty hfirst hi hi' hdigit
    exact mobile_covered hplus hgroups hrun hhit (hrest.trans hcount)
  · rw [List.mem_singleton.mp hr] at hfirst
    obtain ⟨front, g, back, r₁, c, r₂, hgroups, hrun, rfl, hhit, hcount⟩ :=
      nationalIdRe_stays.digit nationalIdRe_advances.empty hfirst hi hi' hdigit
    exact nationalId_covered hgroups hrun (beq_iff_eq.mp hhit) (hrest.trans hcount)

/-- A card right after a date, a card that begins with the last run of another, and a mobile number
    behind a card and its separator. -/
theorem identifiers_in_clear :
    ¬ CoversIdentifiers CharClasses.ascii "1402-01-01 6219-8610-2850-0042".toList ∧
      ¬ CoversIdentifiers CharClasses.ascii "1405 6219-8610-2850-0042".toList ∧
      ¬ CoversIdentifiers CharClasses.ascii "6219861028500042-+989123456789".toList := by
  refine ⟨fun h => ?_, fun h => ?_, fun h => ?_⟩
  · have hspan : IsSpan CharClasses.ascii "1402-01-01 6219-8610-2850-0042".toList 11 19 :=
      ⟨cardRe CharClasses.ascii, .tail _ (.head _), by decide +kernel⟩
    have hcovered := h 11 19 hspan 21 (by decide) (by decide) (by decide +kernel)
      (by decide +kernel)
    exact absurd hcovered (by decide +kernel)
  · have hspan : IsSpan CharClasses.ascii "1405 6219-8610-2850-0042".toList 5 19 :=
      ⟨cardRe CharClasses.ascii, .tail _ (.head _), by decide +kernel⟩
    have hcovered := h 5 19 hspan 15 (by decide) (by decide) (by decide +kernel) (by decide +kernel)
    exact absurd hcovered (by decide +kernel)
  · have hspan : IsSpan CharClasses.ascii "6219861028500042-+989123456789".toList 17 13 :=
      ⟨mobileRe CharClasses.ascii, .tail _ (.tail _ (.head _)), by decide +kernel⟩
    have hcovered := h 17 13 hspan 18 (by decide) (by decide) (by decide +kernel)
      (by decide +kernel)
    exact absurd hcovered (by decide +kernel)

end JibitSdk.Guarantees
