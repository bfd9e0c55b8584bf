import JibitSdk.Guarantees.Printed

/-!
# Which cards the scan selects

The scan of the cards takes the leftmost card and goes on behind it.  So a card is selected, or it
begins inside a selected one.
-/

namespace JibitSdk.Guarantees

open JibitSdk.Python JibitSdk.Reasoning JibitSdk.Reasoning.Pattern JibitSdk.Sdk

variable {u : CharClasses}

/-! ## 1. Selected cards -/

/-- The scan selects the card that begins with this group and ends before those behind it. -/
structure Selected (gs front : List Group) (g : Group) (mid back : List Group) : Prop where
  groups : gs = front ++ g :: (mid ++ back)
  card : ∃ digits, cardFrom 16 g.run (mid ++ back) = some (digits, back)
  marks : ∃ before, before.length = front.length ∧
    cardMarks gs = before ++ (insideMarks (g :: mid) ++ behindCard (cardMarks back))

section
variable {gs front mid back : List Group} {g : Group}

theorem Selected.inside (h : Selected gs front g mid back) {x y : List Group} {e : Group}
    (hsplit : g :: mid = x ++ e :: y) :
    (cardMarks gs)[(front ++ x).length]? = some (.inside (digitCount y)) := by
  obtain ⟨before, hlength, hmarks⟩ := h.marks
  have hx : x.length < (insideMarks (g :: mid)).length := by
    rw [insideMarks_length, hsplit, List.length_append, List.length_cons]
    omega
  rw [hmarks, List.length_append, ← hlength, List.getElem?_append_right (Nat.le_add_right _ _),
    Nat.add_sub_cancel_left, List.getElem?_append_left hx, hsplit, insideMarks_get]

theorem Selected.behind {e : Group} {rest : List Group} (h : Selected gs front g mid (e :: rest))
    (hfree : cardFrom 16 e.run rest = none) :
    (cardMarks gs)[(front ++ g :: mid).length]? = some .behind := by
  obtain ⟨before, hlength, hmarks⟩ := h.marks
  have hindex : (front ++ g :: mid).length = (before ++ insideMarks (g :: mid)).length := by
    rw [List.length_append, List.length_append, insideMarks_length, hlength]
  rw [hmarks, ← List.append_assoc, hindex, List.getElem?_append_right (Nat.le_refl _), Nat.sub_self,
    cardMarks_none hfree]
  rfl

theorem Selected.cons_free {g₀ : Group} (hfree : cardFrom 16 g₀.run gs = none)
    (h : Selected gs front g mid back) : Selected (g₀ :: gs) (g₀ :: front) g mid back where
  groups := congrArg (List.cons g₀) h.groups
  card := h.card
  marks := by
    obtain ⟨before, hlength, hmarks⟩ := h.marks
    exact ⟨.free :: before, congrArg (· + 1) hlength, by rw [cardMarks_none hfree, hmarks]; rfl⟩

/-- Behind a selected card the scan goes on. -/
theorem Selected.skip {g₀ : Group} {mid₀ : List Group} {digits : List Char}
    (hcard : cardFrom 16 g₀.run (mid₀ ++ gs) = some (digits, gs))
    (h : Selected gs front g mid back) :
    Selected (g₀ :: (mid₀ ++ gs)) (g₀ :: (mid₀ ++ front)) g mid back where
  groups := by
    rw [h.groups, List.cons_append, List.append_assoc]
  card := h.card
  marks := by
    obtain ⟨before, hlength, hmarks⟩ := h.marks
    have hbehind : ∃ before', before'.length = before.length ∧ behindCard (cardMarks gs) =
        before' ++ (insideMarks (g :: mid) ++ behindCard (cardMarks back)) := by
      rw [hmarks]
      cases before with
      | nil => exact ⟨[], rfl, rfl⟩
      | cons mark before =>
        cases mark with
        | inside n => exact ⟨.inside n :: before, rfl, rfl⟩
        | behind => exact ⟨.behind :: before, rfl, rfl⟩
        | free => exact ⟨.behind :: before, rfl, rfl⟩
    obtain ⟨before', hlength', hmarks'⟩ := hbehind
    refine ⟨insideMarks (g₀ :: mid₀) ++ before', ?_, ?_⟩
    · rw [List.length_append, insideMarks_length, hlength', hlength, List.length_cons,
        List.length_cons, List.length_append]
      omega
    · rw [cardMarks_some hcard, hmarks', List.append_assoc]

/-- A card is selected, or it begins inside a selected card. -/
theorem selected_of_card (length : ℕ) (hlength : front.length = length)
    (h : (cardFrom 16 g.run gs).isSome = true) : ∃ front' g' mid back,
      Selected (front ++ g :: gs) front' g' mid back ∧ front'.length ≤ front.length ∧
        front.length ≤ front'.length + mid.length := by
  induction length using Nat.strong_induction_on generalizing front with
  | _ length ih =>
    cases front with
    | nil =>
      obtain ⟨card, hcard⟩ := Option.isSome_iff_exists.mp h
      obtain ⟨mid, rfl, -⟩ := cardFrom_append hcard
      exact ⟨[], g, mid, card.2, ⟨rfl, ⟨card.1, hcard⟩, [], rfl, cardMarks_some hcard⟩,
        Nat.le_refl 0, Nat.zero_le _⟩
    | cons g₀ front =>
      rw [List.length_cons] at hlength ⊢
      rw [List.cons_append]
      cases hcard : cardFrom 16 g₀.run (front ++ g :: gs) with
      | none =>
        -- no card begins with the first group, so the scan selects what it selects behind it
        obtain ⟨front', g', mid, back, hselected, hle, hle'⟩ := ih front.length (by omega) rfl
        exact ⟨g₀ :: front', g', mid, back, hselected.cons_free hcard, Nat.succ_le_succ hle,
          by rw [List.length_cons]; omega⟩
      | some card =>
        obtain ⟨mid, hmid, -⟩ := cardFrom_append hcard
        rcases append_cons_split hmid with ⟨a, hmid', -⟩ | ⟨c, hfront, hback⟩
        · -- the card goes on over the group
          rw [hmid] at hcard ⊢
          refine ⟨[], g₀, mid, card.2, ⟨rfl, ⟨card.1, hcard⟩, [], rfl, cardMarks_some hcard⟩,
            Nat.zero_le _, ?_⟩
          rw [hmid', List.length_append, List.length_cons]
          omega
        · -- the card ends before the group: the scan goes on behind it
          have hlength' := congrArg List.length hfront
          rw [List.length_append] at hlength'
          obtain ⟨front', g', mid', back', hselected, hle, hle'⟩ := ih c.length (by omega) rfl
          rw [hmid] at hcard ⊢
          rw [← hback] at hselected
          refine ⟨g₀ :: (mid ++ front'), g', mid', back', hselected.skip hcard, ?_, ?_⟩
          · rw [List.length_cons, List.length_append]
            omega
          · rw [List.length_cons, List.length_append]
            omega

/-- Directly before a group that stands behind a card a card ends. -/
theorem card_of_behind (length : ℕ) (hlength : front.length = length)
    (h : (cardMarks (front ++ g :: back))[front.length]? = some .behind) : ∃ front' g' mid digits,
      front = front' ++ g' :: mid ∧
        cardFrom 16 g'.run (mid ++ g :: back) = some (digits, g :: back) ∧
        cardFrom 16 g.run back = none := by
  induction length using Nat.strong_induction_on generalizing front with
  | _ length ih =>
    cases front with
    | nil =>
      rcases cardMarks_head g back with ⟨-, hfree⟩ | ⟨rest, hinside⟩
      · cases hfree.symm.trans h
      · cases hinside.symm.trans h
    | cons g₀ front =>
      rw [List.length_cons] at hlength
      rw [List.cons_append] at h
      cases hcard : cardFrom 16 g₀.run (front ++ g :: back) with
      | none =>
        rw [cardMarks_none hcard, List.length_cons, List.getElem?_cons_succ] at h
        obtain ⟨front', g', mid, digits, rfl, hcards⟩ := ih front.length (by omega) rfl h
        exact ⟨g₀ :: front', g', mid, digits, rfl, hcards⟩
      | some card =>
        obtain ⟨digits, rest⟩ := card
        rcases cardMarks_later hcard with ⟨a, -, hinside⟩ | ⟨mid, c, rfl, rfl, hbehind⟩
        · cases hinside.symm.trans h
        · have h := hbehind.symm.trans h
          cases c with
          | nil =>
            -- the group is the first one behind the card
            rw [List.nil_append] at h
            rw [List.append_nil] at hcard ⊢
            rcases cardMarks_head g back with ⟨hnone, -⟩ | ⟨rest, hinside⟩
            · exact ⟨[], g₀, mid, digits, rfl, hcard, hnone⟩
            · cases (behindCard_inside hinside).symm.trans h
          | cons c₁ c₂ =>
            rw [List.length_cons, behindCard_succ] at h
            rw [List.length_append] at hlength
            obtain ⟨front', g', mid', digits', hsplit, hcards⟩ :=
              ih (c₁ :: c₂).length (by omega) rfl h
            refine ⟨g₀ :: (mid ++ front'), g', mid', digits', ?_, hcards⟩
            rw [hsplit, List.cons_append, List.append_assoc]

end

/-! ## 2. Cards of the text -/

theorem cardFrom_run_length {n : ℕ} {run : List Char} {gs : List Group}
    (h : (cardFrom n run gs).isSome = true) : run.length ≤ n := by
  obtain ⟨card, hcard⟩ := Option.isSome_iff_exists.mp h
  obtain ⟨mid, -, -, hcount⟩ := cardFrom_append hcard
  omega

theorem ibanGroup_short {start : Bool} {g : Group} {gs : List Group} (h : g.run.length ≤ 16) :
    ibanGroup u start g gs = g := by
  rw [ibanGroup, if_neg]
  intro hrun
  have hlength := ibanRun_length hrun
  omega

/-- The runs of a card are too short for an IBAN. -/
theorem cardFrom_iban {n : ℕ} {run digits : List Char} {gs back : List Group} (hn : n ≤ 16)
    (h : cardFrom n run gs = some (digits, back)) : ∃ mid, gs = mid ++ back ∧
      mapGroups (ibanGroup u) false gs = mid ++ mapGroups (ibanGroup u) false back ∧
      cardFrom n run (mapGroups (ibanGroup u) false gs) =
        some (digits, mapGroups (ibanGroup u) false back) := by
  induction gs generalizing n run digits with
  | nil =>
    rw [cardFrom] at h
    obtain ⟨hlength, h⟩ := Option.ite_none_right_eq_some.mp h
    cases h
    exact ⟨[], rfl, rfl, if_pos hlength⟩
  | cons g gs ih =>
    rw [cardFrom] at h
    rw [mapGroups, cardFrom]
    by_cases hlength : run.length = n
    · rw [if_pos hlength] at h ⊢
      cases h
      exact ⟨[], rfl, rfl, rfl⟩
    · rw [if_neg hlength] at h ⊢
      obtain ⟨hboth, h⟩ := Option.ite_none_right_eq_some.mp h
      obtain ⟨card', hcard, heq⟩ := Option.map_eq_some_iff.mp h
      -- the card goes on with a run of less than sixteen digits
      have hshort :=
        cardFrom_run_length (hcard ▸ rfl : (cardFrom (n - run.length) g.run gs).isSome = true)
      obtain ⟨hdigits, hback⟩ := Prod.mk.inj heq
      have hcard' : cardFrom (n - run.length) g.run gs = some (card'.1, back) := by
        rw [hcard, ← hback]
      obtain ⟨mid, rfl, hmid, hiban⟩ := ih (by omega) hcard'
      refine ⟨g :: mid, rfl, ?_, ?_⟩
      · rw [ibanGroup_short (by omega), hmid]
        rfl
      · rw [ibanGroup_short (by omega), if_pos hboth, hiban, ← hdigits]
        rfl

theorem ibanGroup_cases (start : Bool) (g : Group) (gs : List Group) :
    ibanGroup u start g gs = g ∨
      ∃ gap, ibanGroup u start g gs = .mask 20 (gap ++ ['I', 'R']) g.run ∧ g.run.length = 24 := by
  rw [ibanGroup]
  by_cases hrun : ibanRun u g.run gs = true
  · rw [if_pos hrun]
    cases hfront : ibanFront u (if start then none else some '0') g.gap with
    | none => exact .inl rfl
    | some gap => exact .inr ⟨gap, rfl, ibanRun_length hrun⟩
  · rw [if_neg hrun]
    exact .inl rfl

theorem ibanGroup_linked {start : Bool} {g : Group} {gs : List Group}
    (h : (ibanGroup u start g gs).linked = true) : ibanGroup u start g gs = g := by
  rcases ibanGroup_cases start g gs with hleft | ⟨gap, hmask, -⟩
  · exact hleft
  · rw [hmask] at h
    obtain ⟨d, hgap, -⟩ := linked_iff.mp h
    have hlength := congrArg List.length hgap
    rw [Group.mask, List.length_append, List.length_replicate, List.length_singleton] at hlength
    omega

/-- Linked groups are no IBANs. -/
theorem linked_iban {gs mid back : List Group} (h : mapGroups (ibanGroup u) false gs = mid ++ back)
    (hlinked : ∀ g ∈ mid, g.linked = true) :
    ∃ back', gs = mid ++ back' ∧ back = mapGroups (ibanGroup u) false back' := by
  induction mid generalizing gs with
  | nil => exact ⟨gs, rfl, h.symm⟩
  | cons g mid ih =>
    cases gs with
    | nil => cases h
    | cons g₀ gs =>
      rw [mapGroups, List.cons_append] at h
      obtain ⟨hg, hrest⟩ := List.cons.inj h
      have hsame := ibanGroup_linked (u := u) (hg ▸ hlinked g (.head _))
      obtain ⟨back', rfl, hback⟩ := ih hrest fun e he => hlinked e (.tail _ he)
      exact ⟨back', by rw [← hg, hsame]; rfl, hback⟩

theorem mapGroups_unsplit {f : Bool → Group → List Group → Group} {start : Bool}
    {gs front back : List Group} {g : Group} (h : mapGroups f start gs = front ++ g :: back) :
    ∃ front' g' back', gs = front' ++ g' :: back' ∧ front'.length = front.length ∧
      g = f (start && front'.isEmpty) g' back' ∧ back = mapGroups f false back' := by
  induction front generalizing start gs with
  | nil =>
    cases gs with
    | nil => cases h
    | cons g' gs =>
      obtain ⟨hg, hback⟩ := List.cons.inj h
      exact ⟨[], g', gs, rfl, rfl, by rw [List.isEmpty_nil, Bool.and_true, hg], hback.symm⟩
  | cons g₀ front ih =>
    cases gs with
    | nil => cases h
    | cons g' gs =>
      obtain ⟨-, hrest⟩ := List.cons.inj h
      obtain ⟨front', e, back', rfl, hlength, he, hback⟩ := ih hrest
      refine ⟨g' :: front', e, back', rfl, congrArg (· + 1) hlength, ?_, hback⟩
      rw [List.isEmpty_cons, Bool.and_false]
      rwa [Bool.false_and] at he

theorem cardFrom_of_iban {n : ℕ} {run : List Char} {gs : List Group}
    (h : (cardFrom n run (mapGroups (ibanGroup u) false gs)).isSome = true) :
    (cardFrom n run gs).isSome = true := by
  induction gs generalizing n run with
  | nil => exact h
  | cons g gs ih =>
    rw [mapGroups, cardFrom] at h
    rw [cardFrom]
    by_cases hlength : run.length = n
    · rw [if_pos hlength]
      rfl
    · rw [if_neg hlength] at h ⊢
      by_cases hboth : run.length < n ∧ (ibanGroup u false g gs).linked = true
      · have hsame := ibanGroup_linked hboth.2
        rw [if_pos hboth, Option.isSome_map, hsame] at h
        rw [hsame] at hboth
        rw [if_pos hboth, Option.isSome_map]
        exact ih h
      · rw [if_neg hboth] at h
        cases h

/-! ## 3. Cut cards and numbers -/

/-- A card begins inside another one. -/
def CardCut (u : CharClasses) (s : List Char) : Prop :=
  ∃ front g mid h back, ibanGroups u s = front ++ g :: (mid ++ h :: back) ∧
    (cardFrom 16 g.run (mid ++ h :: back)).isSome = true ∧ digitCount (g :: mid) < 16 ∧
    (cardFrom 16 h.run back).isSome = true

/-- Behind a card stand a separator and a mobile number with its plus, with which no card begins. -/
def PlusCut (u : CharClasses) (s : List Char) : Prop :=
  ∃ front g mid h back digits d, ibanGroups u s = front ++ g :: (mid ++ h :: back) ∧
    cardFrom 16 g.run (mid ++ h :: back) = some (digits, h :: back) ∧
    cardFrom 16 h.run back = none ∧ plusMobile false h = true ∧ h.gap = [d, '+'] ∧ isSep d = true

theorem card_digits {n : ℕ} {run digits : List Char} {mid back : List Group}
    (h : cardFrom n run (mid ++ back) = some (digits, back)) : run.length + digitCount mid = n := by
  obtain ⟨mid', hmid, -, hcount⟩ := cardFrom_append h
  rwa [List.append_cancel_right hmid]

/-- Where a selected card is not the one that begins with the group, it begins before it. -/
theorem Selected.before {gs front front' mid' back back' : List Group} {g g' : Group}
    (h : Selected gs front' g' mid' back') (hgs : gs = front ++ g :: back)
    (hlt : front'.length < front.length) (hle : front.length ≤ front'.length + mid'.length) :
    ∃ mid₁ mid₂, front = front' ++ g' :: mid₁ ∧ mid' = mid₁ ++ g :: mid₂ ∧
    back = mid₂ ++ back' := by
  have hsplit : front ++ g :: back = (front' ++ g' :: mid') ++ back' := by
    rw [← hgs, h.groups, List.append_assoc]
    rfl
  rcases append_cons_split hsplit with ⟨mid₂, hmid, hback⟩ | ⟨c, hc, -⟩
  · rcases List.append_eq_append_iff.mp hmid with ⟨x, hx, hsame⟩ | ⟨x, hx, -⟩
    · cases x with
      | nil =>
        rw [List.append_nil] at hx
        rw [hx] at hlt
        exact absurd hlt (Nat.lt_irrefl _)
      | cons g₁ mid₁ =>
        obtain ⟨rfl, hmid'⟩ := List.cons.inj hsame
        exact ⟨mid₁, mid₂, hx, hmid', hback⟩
    · have hlength := congrArg List.length hx
      rw [List.length_append] at hlength
      omega
  · have hlength := congrArg List.length hc
    rw [List.length_append, List.length_append, List.length_cons] at hlength
    omega

/-- Without cut cards the scan selects every card. -/
theorem selected_of_not_cut {s : List Char} (hcut : ¬ CardCut u s)
    {front mid back : List Group} {g : Group}
    {digits : List Char} (hgroups : ibanGroups u s = front ++ g :: (mid ++ back))
    (hrun : g.run ≠ []) (hcard : cardFrom 16 g.run (mid ++ back) = some (digits, back)) :
    Selected (ibanGroups u s) front g mid back := by
  have hsome : (cardFrom 16 g.run (mid ++ back)).isSome = true := by rw [hcard]; rfl
  obtain ⟨front', g', mid', back', hselected, hle, hle'⟩ := selected_of_card front.length rfl hsome
  rw [← hgroups] at hselected
  obtain ⟨digits', hcard'⟩ := hselected.card
  rcases Nat.eq_or_lt_of_le hle with hlength | hlt
  · -- the scan selects a card that begins with the same group, so it is this one
    obtain ⟨rfl, hsame⟩ := List.append_inj (hgroups.symm.trans hselected.groups) hlength.symm
    obtain ⟨rfl, hrest⟩ := List.cons.inj hsame
    rw [← hrest, hcard] at hcard'
    obtain ⟨-, rfl⟩ := Prod.mk.inj (Option.some.inj hcard')
    rwa [List.append_cancel_right hrest]
  · -- otherwise it begins inside the card that the scan selects
    obtain ⟨mid₁, mid₂, rfl, rfl, hback⟩ := hselected.before hgroups hlt hle'
    have hcount := card_digits hcard'
    have hpos := List.length_pos_of_ne_nil hrun
    rw [digitCount_append, digitCount] at hcount
    rw [List.append_assoc, List.cons_append, ← hback] at hcard'
    refine absurd ⟨front', g', mid₁, g, mid ++ back, ?_, by rw [hcard']; rfl, ?_, hsome⟩ hcut
    · rw [hgroups, List.append_assoc]
      rfl
    · rw [digitCount]
      omega

end JibitSdk.Guarantees
