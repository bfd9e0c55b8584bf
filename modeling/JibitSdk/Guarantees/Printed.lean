import JibitSdk.Guarantees.Places
import JibitSdk.Guarantees.Residue
import JibitSdk.Guarantees.Spans

/-!
# What redaction prints

The places of a text, followed through the four passes: which of them are replaced, which are
printed all the same, and what decides this for the digits of a group.
-/

namespace JibitSdk.Guarantees

open JibitSdk.Python JibitSdk.Reasoning JibitSdk.Reasoning.Pattern JibitSdk.Sdk

/-! ## 1. Places -/

/-- The characters of a text with their places. -/
def placedFrom (k : ℕ) (s : List Char) : List (Char × Option ℕ) :=
  (s.zipIdx k).map fun place => (place.1, some place.2)

section
variable (u : CharClasses)

/-- `redact_text`, following the places of what lies outside the regions that
    the four passes replace. -/
def redactPlaced (s : List Char) : List (Char × Option ℕ) :=
  let t := (ibanRe u).subLabelled (unlabelled maskIban) (placedFrom 0 s)
  let t := (cardRe u).subLabelled (unlabelled (maskCard u)) t
  let t := (mobileRe u).subLabelled (unlabelled maskMobile) t
  (nationalIdRe u).subLabelled (unlabelled maskNationalId) t

/-- `redact_text`, following the places of all that it prints: what the passes leave, and the last
    four digits that a mask takes over from its match. -/
def redactShown (s : List Char) : List (Char × Option ℕ) :=
  let t := (ibanRe u).subLabelled shownIban (placedFrom 0 s)
  let t := (cardRe u).subLabelled (shownCard u) t
  let t := (mobileRe u).subLabelled shownMobile t
  (nationalIdRe u).subLabelled shownNationalId t

/-- The place lies inside a region that one of the four passes replaces. -/
def Replaced (s : List Char) (i : ℕ) : Prop := Lost i (redactPlaced u s)

/-- The character at this place is printed, by a mask or outside all masks. -/
def InClear (s : List Char) (i : ℕ) : Prop := ¬ Lost i (redactShown u s)

instance (s : List Char) (i : ℕ) : Decidable (Replaced u s i) :=
  inferInstanceAs (Decidable (Lost i (redactPlaced u s)))

instance (s : List Char) (i : ℕ) : Decidable (InClear u s i) :=
  inferInstanceAs (Decidable (¬ Lost i (redactShown u s)))

/-- One of the patterns, applied at `start`, matches `n` characters. -/
def IsSpan (s : List Char) (start n : ℕ) : Prop :=
  ∃ r ∈ [ibanRe u, cardRe u, mobileRe u, nationalIdRe u],
    r.first (before none s start) (s.drop start) = some n

/-- Of an identifier at most the last four digits are left in clear: every earlier digit lies inside
    a replaced region, and no mask prints it. -/
def CoversIdentifiers (s : List Char) : Prop :=
  ∀ start n, IsSpan u s start n → ∀ i, start ≤ i → i < start + n → s[i]?.any u.isDecimal = true →
    4 ≤ ((s.drop (i + 1)).take (start + n - (i + 1))).countP u.isDecimal →
      Replaced u s i ∧ ¬ InClear u s i

theorem placedFrom_fst (k : ℕ) (s : List Char) : (placedFrom k s).map Prod.fst = s := by
  rw [placedFrom, List.map_map]
  exact List.zipIdx_map_fst k s

/-- Without the places it is `redact_text`. -/
theorem redactPlaced_fst (s : List Char) : (redactPlaced u s).map Prod.fst = redactText u s := by
  simp only [redactPlaced, subLabelled, labelledFrom_fst unlabelled_fst, placedFrom_fst, redactText]
  rfl

theorem redactShown_fst (s : List Char) : (redactShown u s).map Prod.fst = redactText u s := by
  simp only [redactShown, subLabelled, labelledFrom_fst shownIban_carries.text,
    labelledFrom_fst shownCard_carries.text, labelledFrom_fst shownMobile_carries.text,
    labelledFrom_fst shownNationalId_carries.text, placedFrom_fst, redactText]
  rfl

/-- What is not printed lies in a replaced region. -/
theorem replaced_of_not_inClear {s : List Char} {i : ℕ} (h : ¬ InClear u s i) : Replaced u s i :=
  (Fades.refl _).subLabelled shownIban_carries.text
    |>.subLabelled shownCard_carries.text
    |>.subLabelled shownMobile_carries.text
    |>.subLabelled shownNationalId_carries.text
    |>.lost (not_not.mp h)

end

/-! ## 2. What the passes print of a digit -/

theorem lost_placedFrom {i k : ℕ} {s : List Char} (h : i < k ∨ k + s.length ≤ i) :
    Lost i (placedFrom k s) := by
  intro y hy
  obtain ⟨place, hplace, rfl⟩ := List.mem_map.mp hy
  obtain ⟨hle, hlt, -⟩ := List.mem_zipIdx (x := place.1) (i := place.2) hplace
  intro heq
  have := Option.some.inj heq
  omega

theorem placedFrom_append (k : ℕ) (s s' : List Char) :
    placedFrom k (s ++ s') = placedFrom k s ++ placedFrom (k + s.length) s' := by
  rw [placedFrom, List.zipIdx_append, List.map_append]
  rfl

theorem placedFrom_length (k : ℕ) (s : List Char) : (placedFrom k s).length = s.length := by
  rw [placedFrom, List.length_map, List.length_zipIdx]

theorem placedFrom_stands (k : ℕ) (r₁ : List Char) (c : Char) (r₂ : List Char) :
    Stands (k + r₁.length) r₂.length (placedFrom k (r₁ ++ c :: r₂)) := by
  refine ⟨placedFrom k r₁, c, placedFrom (k + r₁.length + 1) r₂, placedFrom_append k r₁ _,
    lost_placedFrom (.inr (Nat.le_refl _)), lost_placedFrom (.inl (Nat.lt_succ_self _)),
    placedFrom_length _ _⟩

section
variable {u : CharClasses}

/-- The place of a digit, by its group. -/
theorem placed_sits (front back : List Group) {g : Group} {r₁ r₂ : List Char} {c : Char}
    (hrun : g.run = r₁ ++ c :: r₂) :
    Sits (render front ++ (g.gap ++ r₁)).length r₂.length
      (placedFrom 0 (render (front ++ g :: back))) front g back := by
  have hlength :
      (render front ++ (g.gap ++ r₁)).length = (render front ++ g.gap).length + r₁.length := by
    rw [← List.append_assoc]
    exact List.length_append
  refine ⟨placedFrom 0 (render front ++ g.gap), placedFrom (render front ++ g.gap).length g.run,
    placedFrom ((render front ++ g.gap).length + g.run.length) (render back), ?_,
    placedFrom_fst _ _, placedFrom_fst _ _, placedFrom_fst _ _, lost_placedFrom (.inr ?_), ?_,
    lost_placedFrom (.inl ?_)⟩
  · rw [render_append, render, ← List.append_assoc, placedFrom_append 0 (render front ++ g.gap),
      placedFrom_append _ g.run, Nat.zero_add]
  · omega
  · rw [hlength, hrun]
    exact placedFrom_stands _ r₁ c r₂
  · have hrun' := congrArg List.length hrun
    rw [List.length_append, List.length_cons] at hrun'
    omega

theorem CardMark.group_run (mark : CardMark) (g : Group) : (mark.group g).run = g.run := by
  cases mark with
  | inside _ => rfl
  | behind => exact g.trimmed_run
  | free => rfl

/-- The groups in which the scan of the cards looks: of an IBAN the last four digits are left. -/
def ibanGroups (u : CharClasses) (s : List Char) : List Group :=
  mapGroups (ibanGroup u) true (groups u s)

theorem formed_ibanGroups (s : List Char) : Formed u true (ibanGroups u s) :=
  mapGroups_formed ibanGroup_rewrites (formed_groups s).1

theorem behindCard_length (marks : List CardMark) : (behindCard marks).length = marks.length := by
  cases marks with
  | nil => rfl
  | cons mark marks => cases mark <;> rfl

theorem cardMarks_length (length : ℕ) (gs : List Group) (hlength : gs.length = length) :
    (cardMarks gs).length = length := by
  induction length using Nat.strong_induction_on generalizing gs with
  | _ length ih =>
    cases gs with
    | nil =>
      rw [cardMarks]
      exact hlength
    | cons g gs =>
      cases hcard : cardFrom 16 g.run gs with
      | none =>
        rw [cardMarks_none hcard, List.length_cons,
          ih gs.length (hlength ▸ Nat.lt_succ_self _) gs rfl]
        exact hlength
      | some card =>
        obtain ⟨mid, rfl, -⟩ := cardFrom_append hcard
        rw [List.length_cons, List.length_append] at hlength
        rw [cardMarks_some hcard, List.length_append, insideMarks_length, behindCard_length,
          ih card.2.length (by omega) card.2 rfl, List.length_cons]
        omega

theorem exists_mark {s : List Char} {front back : List Group} {g : Group}
    (h : groups u s = front ++ g :: back) :
    ∃ mark, (cardMarks (ibanGroups u s))[front.length]? = some mark := by
  have hlength : front.length < (cardMarks (ibanGroups u s)).length := by
    rw [cardMarks_length _ _ rfl, ibanGroups, mapGroups_length, h, List.length_append,
      List.length_cons]
    omega
  exact ⟨_, List.getElem?_eq_getElem hlength⟩

theorem mobileGroup_left {start : Bool} {g : Group} {gs : List Group}
    (h : mobileHit start g gs = false) :
    mobileGroup start g gs = g := by
  rw [mobileHit, Bool.or_eq_false_iff] at h
  rw [mobileGroup, if_neg (Bool.eq_false_iff.mp h.1), if_neg (Bool.eq_false_iff.mp h.2)]

/-- After the cards a digit is hidden in a mobile number or a national id, before
    its last four digits. -/
theorem later_passes {front back : List Group} {g : Group} {l k : ℕ} {t : List (Char × Option ℕ)}
    (hformed : Formed u true (front ++ g :: back)) (hsits : Sits l k t front g back) :
    Lost l ((nationalIdRe u).subLabelled shownNationalId ((mobileRe u).subLabelled shownMobile t)) ↔
      4 ≤ k ∧ (mobileHit front.isEmpty g back = true ∨ g.run.length = 10) := by
  have hformed' := mapGroups_formed mobileGroup_rewrites hformed
  obtain ⟨hhidden, hstays⟩ := mobileRe_shows.sits none hformed rfl hsits
  rw [Bool.true_and] at hhidden hstays
  by_cases hk : k < 4
  · -- a label among the last four digits stays through both passes
    obtain ⟨front₁, hgroups₁, -, hsits₁⟩ := hstays (.inr hk)
    rw [hgroups₁] at hformed'
    obtain ⟨front₂, -, -, hsits₂⟩ := (nationalIdRe_shows.sits none hformed' rfl hsits₁).2 (.inr hk)
    exact ⟨fun hlost => absurd hlost hsits₂.not_lost, fun h => absurd h.1 (Nat.not_le.mpr hk)⟩
  · have hk' : 4 ≤ k := Nat.not_lt.mp hk
    cases hhit : mobileHit front.isEmpty g back with
    | true =>
      exact ⟨fun _ => ⟨hk', .inl rfl⟩,
        fun _ => (hhidden hhit hk').labelledFrom shownNationalId_carries none⟩
    | false =>
      -- the first pass leaves the group as it is, and the second decides
      obtain ⟨front₁, hgroups₁, -, hsits₁⟩ := hstays (.inl hhit)
      rw [mobileGroup_left hhit] at hgroups₁ hsits₁
      rw [hgroups₁] at hformed'
      obtain ⟨hhidden₂, hstays₂⟩ := nationalIdRe_shows.sits none hformed' rfl hsits₁
      by_cases hten : g.run.length = 10
      · exact ⟨fun _ => ⟨hk', .inr hten⟩, fun _ => hhidden₂ (beq_iff_eq.mpr hten) hk'⟩
      · obtain ⟨front₂, -, -, hsits₂⟩ := hstays₂ (.inl (beq_eq_false_iff_ne.mpr hten))
        refine ⟨fun hlost => absurd hlost hsits₂.not_lost, fun h => ?_⟩
        rcases h.2 with h | h
        · cases h
        · exact absurd h hten

section
variable {s : List Char} {front back : List Group} {g : Group} {r₁ r₂ : List Char} {c : Char}

/-- Of an IBAN only the last four digits can be printed. -/
theorem iban_hidden (h : groups u s = front ++ g :: back) (hrun : g.run = r₁ ++ c :: r₂)
    (hhit : ibanHit u front.isEmpty g back = true) (hk : 4 ≤ r₂.length) :
    ¬ InClear u s (render front ++ (g.gap ++ r₁)).length := by
  have hformed := (formed_groups (u := u) s).1
  have hsits := placed_sits front back hrun
  rw [← h, render_groups] at hsits
  rw [h] at hformed
  have hlost := (ibanRe_shows.sits none hformed rfl hsits).1 (by rwa [Bool.true_and]) hk
  exact not_not.mpr (((hlost.labelledFrom shownCard_carries none).labelledFrom shownMobile_carries
    none).labelledFrom shownNationalId_carries none)

theorem isEmpty_of_length {α β : Type} {xs : List α} {ys : List β} (h : xs.length = ys.length) :
    xs.isEmpty = ys.isEmpty := by
  cases xs with
  | nil =>
    rw [List.length_eq_zero_iff.mp h.symm]
    rfl
  | cons x xs =>
    cases ys with
    | nil => cases h
    | cons y ys => rfl

/-- What the scan of the cards makes of a digit that is in no IBAN. -/
theorem card_pass (h : groups u s = front ++ g :: back) (hrun : g.run = r₁ ++ c :: r₂)
    (hiban : ibanHit u front.isEmpty g back = false) {mark : CardMark}
    (hmark : (cardMarks (ibanGroups u s))[front.length]? = some mark) :
    CardFate (render front ++ (g.gap ++ r₁)).length r₂.length mark g
      (mapGroups (ibanGroup u) false back)
      ((cardRe u).subLabelled (shownCard u) ((ibanRe u).subLabelled shownIban (placedFrom 0 s)))
      (cardGroups (ibanGroups u s)) front.isEmpty := by
  have hformed := (formed_groups (u := u) s).1
  have hformed' := formed_ibanGroups (u := u) s
  have hsits := placed_sits front back hrun
  rw [← h, render_groups] at hsits
  rw [ibanGroups] at hformed' hmark ⊢
  rw [h] at hformed hformed' hmark ⊢
  -- the scan of the IBANs leaves the group with its label
  obtain ⟨front₁, hgroups₁, hlength₁, hsits₁⟩ :=
    (ibanRe_shows.sits none hformed rfl hsits).2 (.inl (by rwa [Bool.true_and]))
  have hleft : ibanGroup u (true && front.isEmpty) g back = g :=
    (ibanRe_advances.left (formed_at none hformed rfl).1 (formed_at none hformed rfl).2
      (by rwa [Bool.true_and])).1
  rw [hleft] at hgroups₁ hsits₁
  rw [hgroups₁] at hformed' hmark ⊢
  rw [← hlength₁] at hmark
  rw [← isEmpty_of_length hlength₁]
  exact cards_sits _ rfl none hformed' (fun _ => rfl) hsits₁ hmark

/-- A digit inside a selected card is printed if fewer than four digits of
    the card are behind it. -/
theorem inClear_inside (h : groups u s = front ++ g :: back) (hrun : g.run = r₁ ++ c :: r₂)
    (hiban : ibanHit u front.isEmpty g back = false) {rest : ℕ}
    (hmark : (cardMarks (ibanGroups u s))[front.length]? = some (.inside rest)) :
    InClear u s (render front ++ (g.gap ++ r₁)).length ↔ r₂.length + rest < 4 := by
  obtain ⟨hhidden, hshown⟩ := (card_pass h hrun hiban hmark).1 rest rfl
  rw [InClear, redactShown]
  by_cases hk : r₂.length + rest < 4
  · obtain ⟨front', gap, digits, back', hsixteen, hgroups, hsits⟩ := hshown hk
    have hformed := cardGroups_formed _ _ rfl (formed_ibanGroups (u := u) s)
    rw [hgroups] at hformed
    refine ⟨fun _ => hk, fun _ hlost => ?_⟩
    -- a masked card is no number of its own
    have hfour := ((later_passes hformed hsits).mp hlost).1
    omega
  · -- what the scan of the cards has hidden no later pass brings back
    refine ⟨fun hclear => absurd ?_ hclear, fun h => absurd h hk⟩
    exact ((hhidden (Nat.not_lt.mp hk)).labelledFrom shownMobile_carries none).labelledFrom
      shownNationalId_carries none

/-- Outside the selected cards a digit is hidden in a number of its own, before
    its last four digits. -/
theorem inClear_outside (h : groups u s = front ++ g :: back) (hrun : g.run = r₁ ++ c :: r₂)
    (hiban : ibanHit u front.isEmpty g back = false) {mark : CardMark}
    (hmark : (cardMarks (ibanGroups u s))[front.length]? = some mark)
    (hout : ∀ rest, mark ≠ .inside rest) :
    ¬ InClear u s (render front ++ (g.gap ++ r₁)).length ↔ 4 ≤ r₂.length ∧
      (mobileHit front.isEmpty (mark.group g) [] = true ∨ g.run.length = 10) := by
  obtain ⟨front', hgroups, hfirst, hsits⟩ := (card_pass h hrun hiban hmark).2 hout
  have hformed := cardGroups_formed _ _ rfl (formed_ibanGroups (u := u) s)
  rw [hgroups] at hformed
  have hlater := later_passes hformed hsits
  rw [hfirst, mark.group_run] at hlater
  rw [InClear, redactShown, not_not]
  exact hlater

end

end

end JibitSdk.Guarantees
