import JibitSdk.Guarantees.GroupScans

/-!
# Where the identifier patterns match

A match of an IBAN, a mobile number or a national id lies in one group; a card begins with a run and
goes on in the linked groups behind it.
-/

namespace JibitSdk.Guarantees

open JibitSdk.Python JibitSdk.Reasoning JibitSdk.Reasoning.Pattern JibitSdk.Sdk

variable {u : CharClasses}

/-! ## 1. Matches in one group -/

/-- Every match of the pattern stays in a group that the pass hits. -/
def Stays (u : CharClasses) (r : Pattern Char) (hit : Bool → Group → List Group → Bool) : Prop :=
  ∀ {start g gs prev p c q n}, Formed u start (g :: gs) → Behind u start prev →
    g.gap ++ g.run = p ++ c :: q → r.first (after prev p) (c :: (q ++ render gs)) = some n →
    hit start g gs = true ∧ n ≤ (c :: q).length

theorem Advances.hits {r : Pattern Char} {mask : List Char → List Char}
    {hit : Bool → Group → List Group → Bool} {f : Bool → Group → List Group → Group}
    (h : Advances u r mask hit f) {start : Bool} {g : Group} {gs : List Group} {prev : Option Char}
    {p q : List Char} {c : Char} {n : ℕ} (hformed : Formed u start (g :: gs))
    (hbehind : Behind u start prev) (hgroup : g.gap ++ g.run = p ++ c :: q)
    (hfirst : r.first (after prev p) (c :: (q ++ render gs)) = some n) : hit start g gs = true := by
  by_contra hmiss
  have hquiet := (h.left hformed hbehind (Bool.eq_false_iff.mpr hmiss)).2
  rw [hgroup] at hquiet
  rw [Quiet.first_none hquiet] at hfirst
  cases hfirst

/-- Inside a run a digit stands before. -/
theorem inside_run {start : Bool} {g : Group} {r₁ r₂ : List Char} {c : Char} (hok : g.Ok u start)
    (hrun : g.run = r₁ ++ c :: r₂) (hne : r₁ ≠ []) (prev : Option Char) :
    (after prev (g.gap ++ r₁)).any u.isDecimal = true := by
  rw [after_append]
  exact after_any (fun d hd => hok.run d (hrun ▸ List.mem_append_left _ hd)) fun h => absurd h hne

theorem nationalIdRe_stays : Stays u (nationalIdRe u) nationalIdHit := by
  intro start g gs prev p c q n h hbehind hgroup hfirst
  refine ⟨nationalIdRe_advances.hits h hbehind hgroup hfirst, ?_⟩
  rcases group_split hgroup with ⟨x, hgap, -⟩ | ⟨r₁, rfl, hrun⟩
  · rw [nationalIdRe_first_gap (h.1.gap c (hgap ▸ List.mem_append_right _ (.head _)))] at hfirst
    cases hfirst
  · by_cases hne : r₁ = []
    · rw [hne, List.nil_append] at hrun
      have hrun' : g.run ≠ [] := by rw [hrun]; exact List.cons_ne_nil _ _
      have hmatch := nationalIdRe_first_run h.toRun (free_at_run h.1 hbehind.none hrun')
      rw [hne, List.append_nil, ← List.cons_append, ← hrun, hmatch] at hfirst
      rw [← hrun]
      exact (Option.some.inj (Option.ite_none_right_eq_some.mp hfirst).2).ge
    · rw [first, nationalIdRe, ends_notBehind _ (inside_run h.1 hrun hne prev)] at hfirst
      cases hfirst

theorem mobileRe_stays : Stays u (mobileRe u) mobileHit := by
  intro start g gs prev p c q n h hbehind hgroup hfirst
  refine ⟨mobileRe_advances.hits h hbehind hgroup hfirst, ?_⟩
  rcases group_split hgroup with ⟨x, hgap, rfl⟩ | ⟨r₁, rfl, hrun⟩
  · -- in a gap only a plus in front of the run begins a match
    have hc := h.1.gap c (hgap ▸ List.mem_append_right _ (.head _))
    by_cases hplus : c = '+'
    · cases hprev : (after prev p).any u.isDecimal with
      | true =>
        rw [mobileRe_first_digit hprev] at hfirst
        cases hfirst
      | false =>
        rw [hplus, List.append_assoc] at hfirst
        cases x with
        | nil =>
          rw [List.nil_append, mobileRe_first_plus h.toRun hprev] at hfirst
          have hn := Option.some.inj (Option.ite_none_right_eq_some.mp hfirst).2
          rw [List.nil_append, List.length_cons]
          omega
        | cons d x =>
          have hd := h.1.gap d (hgap ▸ List.mem_append_right _ (.tail _ (.head _)))
          have hempty : Run u.isDecimal [] (d :: (x ++ (g.run ++ render gs))) :=
            ⟨fun e he => absurd he List.not_mem_nil, hd⟩
          have hnone := mobileRe_first_plus hempty hprev
          rw [List.nil_append, if_neg (by decide)] at hnone
          rw [List.cons_append, hnone] at hfirst
          cases hfirst
    · rw [mobileRe_first_gap hc hplus] at hfirst
      cases hfirst
  · by_cases hne : r₁ = []
    · rw [hne, List.nil_append] at hrun
      have hrun' : g.run ≠ [] := by rw [hrun]; exact List.cons_ne_nil _ _
      have hmatch := mobileRe_first_run h.toRun hrun' (free_at_run h.1 hbehind.none hrun')
      rw [hne, List.append_nil, ← List.cons_append, ← hrun, hmatch] at hfirst
      rw [← hrun]
      exact (Option.some.inj (Option.ite_none_right_eq_some.mp hfirst).2).ge
    · rw [mobileRe_first_digit (inside_run h.1 hrun hne prev)] at hfirst
      cases hfirst

theorem ibanRe_stays : Stays u (ibanRe u) (ibanHit u) := by
  intro start g gs prev p c q n h hbehind hgroup hfirst
  have hhit := ibanRe_advances.hits h hbehind hgroup hfirst
  refine ⟨hhit, ?_⟩
  rw [ibanHit, Bool.and_eq_true] at hhit
  have hlength := ibanRun_length hhit.1
  rcases group_split hgroup with ⟨x, hgap, rfl⟩ | ⟨r₁, rfl, hrun⟩
  · -- the letters are the last two characters of the gap
    rw [List.append_assoc] at hfirst
    cases x with
    | nil =>
      have hlast : ∀ d ∈ (g.run ++ render gs).head?, isR d = false := by
        intro d hd
        cases hrun : g.run with
        | nil =>
          rw [hrun] at hlength
          cases hlength
        | cons e run =>
          rw [hrun] at hd
          cases hd
          have hdigit := h.1.run d (hrun ▸ .head _)
          rw [Bool.eq_false_iff]
          intro hR
          rw [isR_not_decimal hR] at hdigit
          cases hdigit
      rw [List.nil_append, ibanRe_first_last hlast] at hfirst
      cases hfirst
    | cons d x =>
      cases x with
      | nil =>
        rw [List.cons_append, List.nil_append, ibanRe_first_pair h.toRun] at hfirst
        have hn := Option.some.inj (Option.ite_none_right_eq_some.mp hfirst).2
        rw [List.cons_append, List.nil_append, List.length_cons, List.length_cons, hlength]
        exact hn.ge
      | cons e x =>
        have he := h.1.gap e (hgap ▸ List.mem_append_right _ (.tail _ (.tail _ (.head _))))
        rw [List.cons_append, List.cons_append, ibanRe_first_three he] at hfirst
        cases hfirst
  · rw [ibanRe_first_digit (h.1.run c (hrun ▸ List.mem_append_right _ (.head _)))] at hfirst
    cases hfirst

/-! ## 2. Matches in a text -/

theorem split_at {α : Type} {s : List α} {k : ℕ} {c : α} (h : s[k]? = some c) :
    ∃ x y, s = x ++ c :: y ∧ x.length = k := by
  obtain ⟨hk, hc⟩ := List.getElem?_eq_some_iff.mp h
  refine ⟨s.take k, s.drop (k + 1), ?_, List.length_take_of_le hk.le⟩
  rw [← hc, List.getElem_cons_drop, List.take_append_drop]

/-- Where a match begins. -/
theorem span_at {r : Pattern Char} (hempty : ∀ prev, r.first prev [] = none) {s : List Char}
    {start n : ℕ} (h : r.first (before none s start) (s.drop start) = some n) :
    ∃ front g back p c q, groups u s = front ++ g :: back ∧
      start = (render front ++ p).length ∧ s.drop start = c :: (q ++ render back) ∧
      g.gap ++ g.run = p ++ c :: q ∧ Formed u front.isEmpty (g :: back) ∧
      Behind u front.isEmpty (after none (render front)) ∧
      r.first (after (after none (render front)) p) (c :: (q ++ render back)) = some n := by
  cases hdrop : s.drop start with
  | nil =>
    rw [hdrop, hempty] at h
    cases h
  | cons c b =>
    have htext : render (groups u s) = s.take start ++ c :: b := by
      rw [render_groups, ← hdrop, List.take_append_drop]
    obtain ⟨front, g, back, p, q, hgroups, htake, hgroup, rfl⟩ := locate htext
    have hformed := (formed_groups (u := u) s).1
    rw [hgroups] at hformed
    obtain ⟨hat, hbehind⟩ := formed_at none hformed rfl
    rw [Bool.true_and] at hat hbehind
    have hlength : start = (render front ++ p).length := by
      rw [← htake, List.length_take]
      have hlt := congrArg List.length hdrop
      rw [List.length_drop, List.length_cons] at hlt
      omega
    refine ⟨front, g, back, p, c, q, hgroups, hlength, rfl, hgroup, hat, hbehind, ?_⟩
    rw [hdrop, before, ← after_eq, htake, after_append] at h
    exact h

/-- The digits of such matches are in runs that the pass hits. -/
theorem Stays.digit {r : Pattern Char} {hit : Bool → Group → List Group → Bool}
    (hstays : Stays u r hit)
    (hempty : ∀ prev, r.first prev [] = none) {s : List Char} {start n i : ℕ}
    (h : r.first (before none s start) (s.drop start) = some n) (hi : start ≤ i)
    (hi' : i < start + n) (hdigit : s[i]?.any u.isDecimal = true) :
    ∃ front g back r₁ c r₂, groups u s = front ++ g :: back ∧ g.run = r₁ ++ c :: r₂ ∧
      i = (render front ++ (g.gap ++ r₁)).length ∧ hit front.isEmpty g back = true ∧
      ((s.drop (i + 1)).take (start + n - (i + 1))).countP u.isDecimal ≤ r₂.length := by
  obtain ⟨front, g, back, p, c, q, hgroups, hstart, hdrop, hgroup, hformed, hbehind, hfirst⟩ :=
    span_at (u := u) hempty h
  obtain ⟨hhit, hn⟩ := hstays hformed hbehind hgroup hfirst
  obtain ⟨k, rfl⟩ := Nat.exists_eq_add_of_le hi
  have hk : k < (c :: q).length := by omega
  rw [← List.getElem?_drop, hdrop, ← List.cons_append, List.getElem?_append_left hk,
    List.getElem?_eq_getElem hk] at hdigit
  obtain ⟨x, y, hsplit, hx⟩ := split_at (List.getElem?_eq_getElem hk)
  generalize (c :: q)[k] = d at hdigit hsplit
  rw [hsplit, ← List.append_assoc] at hgroup
  rcases group_split hgroup with ⟨z, hgap, -⟩ | ⟨r₁, hp, hrun⟩
  · have hd := hformed.1.gap d (hgap ▸ List.mem_append_right _ (.head _))
    have hd' : u.isDecimal d = true := hdigit
    rw [hd] at hd'
    cases hd'
  · refine ⟨front, g, back, r₁, d, y, hgroups, hrun, ?_, hhit, ?_⟩
    · rw [hstart, ← hx, ← hp, ← List.append_assoc]
      exact List.length_append.symm
    · -- the match ends in the run, so what follows in it is of the run
      have hlength := congrArg List.length hsplit
      simp only [List.length_append, List.length_cons] at hlength hn
      refine List.countP_le_length.trans ((List.length_take_le _ _).trans ?_)
      omega

/-- A character of a match, and what of the match comes behind it. -/
theorem span_split {s m rest x y : List Char} {start : ℕ} {c : Char}
    (hdrop : s.drop start = m ++ rest) (hm : m = x ++ c :: y) : s[start + x.length]? = some c ∧
      (s.drop (start + x.length + 1)).take (start + m.length - (start + x.length + 1)) = y := by
  rw [hm, List.append_assoc] at hdrop
  constructor
  · rw [← List.getElem?_drop, hdrop, List.getElem?_append_right (Nat.le_refl _), Nat.sub_self]
    rfl
  · have hrest : s.drop (start + x.length + 1) = y ++ rest := by
      rw [Nat.add_assoc, ← List.drop_drop, hdrop, List.drop_length_add_append]
      rfl
    have hlength : start + m.length - (start + x.length + 1) = y.length := by
      rw [hm, List.length_append, List.length_cons]
      omega
    rw [hrest, hlength, List.take_left]

/-- Where a card matches: from a run on, with its sixteen digits. -/
theorem card_span {s : List Char} {start n : ℕ}
    (h : (cardRe u).first (before none s start) (s.drop start) = some n) :
    ∃ front g back card m, groups u s = front ++ g :: back ∧ Formed u front.isEmpty (g :: back) ∧
      start = (render front ++ g.gap).length ∧ s.drop start = g.run ++ render back ∧
      cardFrom 16 g.run back = some card ∧ g.run ++ render back = m ++ render (trim card.2) ∧
      m.length = n ∧ m.countP u.isDecimal = 16 := by
  obtain ⟨front, g, back, p, c, q, hgroups, hstart, hdrop, hgroup, hformed, hbehind, hfirst⟩ :=
    span_at (u := u) cardRe_first_nil h
  rcases group_split hgroup with ⟨x, hgap, -⟩ | ⟨r₁, rfl, hrun⟩
  · rw [cardRe_first_gap (hformed.1.gap c (hgap ▸ List.mem_append_right _ (.head _)))] at hfirst
    cases hfirst
  · by_cases hne : r₁ = []
    · rw [hne, List.nil_append] at hrun
      rw [← List.cons_append, ← hrun] at hfirst hdrop
      rw [hne, List.append_nil] at hfirst hstart
      cases hcard : cardFrom 16 g.run back with
      | none =>
        have hquiet := quiet_cards hformed hbehind.none hcard
        rw [hrun] at hquiet hfirst
        rw [List.cons_append, hquiet.first_none] at hfirst
        cases hfirst
      | some card =>
        obtain ⟨-, m, htext, -, hm, -, hcount⟩ := card_match hformed hbehind.none hcard
        exact ⟨front, g, back, card, m, hgroups, hformed, hstart, hdrop, hcard, htext,
          Option.some.inj (hm.symm.trans hfirst), hcount⟩
    · rw [first, cardRe, ends_notBehind _ (inside_run hformed.1 hrun hne _)] at hfirst
      cases hfirst

end JibitSdk.Guarantees
