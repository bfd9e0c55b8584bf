import JibitSdk.Guarantees.Masking
import JibitSdk.Reasoning.Scan

/-!
# Texts as groups of digits

A text is a list of maximal runs of digits, each with the gap before it.  On such groups each pass
of the free-text redaction masks whole groups: what the scans of the patterns do, said without
patterns.
-/

namespace JibitSdk.Guarantees

open JibitSdk.Python JibitSdk.Reasoning JibitSdk.Reasoning.Pattern JibitSdk.Sdk

/-! ## 1. Groups -/

/-- A run of digits and the characters before it; `masked` if it is what a mask has left. -/
structure Group where
  gap : List Char
  run : List Char
  masked : Bool := false

/-- The text of the groups. -/
def render : List Group → List Char
  | [] => []
  | g :: gs => g.gap ++ (g.run ++ render gs)

section
variable (u : CharClasses)

/-- A digit in front of these groups. -/
def consDigit (c : Char) : List Group → List Group
  | [] => [⟨[], [c], false⟩]
  | g :: gs => if g.gap = [] then ⟨[], c :: g.run, g.masked⟩ :: gs else ⟨[], [c], false⟩ :: g :: gs

/-- Another character in front of these groups. -/
def consGap (c : Char) : List Group → List Group
  | [] => [⟨[c], [], false⟩]
  | g :: gs => ⟨c :: g.gap, g.run, g.masked⟩ :: gs

/-- The groups of a text; what follows its last run is the gap of a group without digits. -/
def groups : List Char → List Group
  | [] => []
  | c :: s => if u.isDecimal c then consDigit c (groups s) else consGap c (groups s)

/-- A group as it may stand in a text; only the first may have no gap. -/
structure Group.Ok (start : Bool) (g : Group) : Prop where
  gap : ∀ c ∈ g.gap, u.isDecimal c = false
  run : ∀ c ∈ g.run, u.isDecimal c = true
  apart : start = true ∨ g.gap ≠ [] ∨ g.run = []

/-- Groups of a text; only the last may have no digits. -/
def Formed : Bool → List Group → Prop
  | _, [] => True
  | start, g :: gs => g.Ok u start ∧ (g.run = [] → gs = []) ∧ Formed false gs

theorem render_consDigit (c : Char) (gs : List Group) :
    render (consDigit c gs) = c :: render gs := by
  cases gs with
  | nil => rfl
  | cons g gs =>
    rw [consDigit]
    by_cases hgap : g.gap = []
    · rw [if_pos hgap]
      show c :: (g.run ++ render gs) = c :: (g.gap ++ (g.run ++ render gs))
      rw [hgap]
      rfl
    · rw [if_neg hgap]
      rfl

theorem render_consGap (c : Char) (gs : List Group) : render (consGap c gs) = c :: render gs := by
  cases gs <;> rfl

/-- The groups are the text. -/
theorem render_groups (s : List Char) : render (groups u s) = s := by
  induction s with
  | nil => rfl
  | cons c s ih =>
    rw [groups]
    by_cases hc : u.isDecimal c = true
    · rw [if_pos hc, render_consDigit, ih]
    · rw [if_neg hc, render_consGap, ih]

end

section
variable {u : CharClasses}

theorem Group.Ok.weaken {start : Bool} {g : Group} (h : g.Ok u false) : g.Ok u start :=
  ⟨h.gap, h.run, .inr (h.apart.resolve_left Bool.false_ne_true)⟩

/-- Where a gap has begun, or nothing follows, the groups stand behind a digit as well. -/
theorem formed_groups (s : List Char) :
    Formed u true (groups u s) ∧ ∀ g ∈ (groups u s).head?, g.run = [] → g.gap ≠ [] := by
  induction s with
  | nil => exact ⟨trivial, fun g hg => absurd hg (by simp [groups])⟩
  | cons c s ih =>
    obtain ⟨ih, hhead⟩ := ih
    rw [groups]
    by_cases hc : u.isDecimal c = true
    · rw [if_pos hc]
      cases hgs : groups u s with
      | nil =>
        have hok : Group.Ok u true ⟨[], [c], false⟩ := by
          refine ⟨fun d hd => absurd hd List.not_mem_nil, fun d hd => ?_, .inl rfl⟩
          rwa [List.mem_singleton.mp hd]
        refine ⟨⟨hok, fun _ => rfl, trivial⟩, fun g hg hrun => ?_⟩
        cases hg
        cases hrun
      | cons g gs =>
        rw [hgs] at ih hhead
        obtain ⟨hok, hlast, hrest⟩ := ih
        rw [consDigit]
        by_cases hgap : g.gap = []
        · rw [if_pos hgap]
          have hrun : g.run ≠ [] := fun hrun => hhead g rfl hrun hgap
          have hok' : Group.Ok u true ⟨[], c :: g.run, g.masked⟩ := by
            refine ⟨fun d hd => absurd hd List.not_mem_nil, fun d hd => ?_, .inl rfl⟩
            rcases List.mem_cons.mp hd with hd | hd
            · rwa [hd]
            · exact hok.run d hd
          refine ⟨⟨hok', fun h => ?_, hrest⟩, fun g' hg' hrun' => ?_⟩
          · cases h
          · cases hg'
            cases hrun'
        · rw [if_neg hgap]
          have hok' : Group.Ok u true ⟨[], [c], false⟩ := by
            refine ⟨fun d hd => absurd hd List.not_mem_nil, fun d hd => ?_, .inl rfl⟩
            rwa [List.mem_singleton.mp hd]
          refine ⟨⟨hok', fun h => ?_, ⟨hok.gap, hok.run, .inr (.inl hgap)⟩, hlast, hrest⟩,
            fun g' hg' hrun' => ?_⟩
          · cases h
          · cases hg'
            cases hrun'
    · rw [if_neg hc]
      cases hgs : groups u s with
      | nil =>
        have hok : Group.Ok u true ⟨[c], [], false⟩ := by
          refine ⟨fun d hd => ?_, fun d hd => absurd hd List.not_mem_nil, .inl rfl⟩
          rw [List.mem_singleton.mp hd]
          exact Bool.eq_false_iff.mpr hc
        refine ⟨⟨hok, fun _ => rfl, trivial⟩, fun g hg _ => ?_⟩
        cases hg
        exact List.cons_ne_nil _ _
      | cons g gs =>
        rw [hgs] at ih
        obtain ⟨hok, hlast, hrest⟩ := ih
        have hok' : Group.Ok u true ⟨c :: g.gap, g.run, g.masked⟩ := by
          refine ⟨fun d hd => ?_, hok.run, .inl rfl⟩
          rcases List.mem_cons.mp hd with hd | hd
          · rw [hd]
            exact Bool.eq_false_iff.mpr hc
          · exact hok.gap d hd
        refine ⟨⟨hok', hlast, hrest⟩, fun g' hg' _ => ?_⟩
        cases hg'
        exact List.cons_ne_nil _ _

/-- What follows a run is no digit. -/
theorem Formed.stops {gs : List Group} (h : Formed u false gs) :
    (render gs).head?.any u.isDecimal = false := by
  cases gs with
  | nil => rfl
  | cons g gs =>
    obtain ⟨hok, hlast, -⟩ := h
    cases hgap : g.gap with
    | cons c gap =>
      rw [render, hgap]
      exact hok.gap c (hgap ▸ .head _)
    | nil =>
      have hrun : g.run = [] := by
        rcases hok.apart with hstart | hne | hrun
        · cases hstart
        · exact absurd hgap hne
        · exact hrun
      rw [render, hgap, hrun, hlast hrun]
      rfl

theorem Formed.toRun {start : Bool} {g : Group} {gs : List Group} (h : Formed u start (g :: gs)) :
    Run u.isDecimal g.run (render gs) := ⟨h.1.run, h.2.2.stops⟩

/-! ## 2. Scans group by group -/

/-- What stands before the groups: nothing before the first, else a digit. -/
def Behind (u : CharClasses) (start : Bool) (prev : Option Char) : Prop :=
  if start then prev = none else prev.any u.isDecimal = true

theorem Behind.none {start : Bool} {prev : Option Char} (h : Behind u start prev)
    (hstart : start = true) : prev = none := by
  rw [hstart] at h
  exact h

theorem after_any {q : Char → Bool} {p : List Char} {prev : Option Char} {b : Bool}
    (h : ∀ c ∈ p, q c = b) (hprev : p = [] → prev.any q = b) : (after prev p).any q = b := by
  induction p generalizing prev with
  | nil => exact hprev rfl
  | cons c p ih => exact ih (fun d hd => h d (.tail _ hd)) fun _ => h c (.head _)

/-- At the beginning of a run no digit stands before. -/
theorem free_at_run {start : Bool} {g : Group} {prev : Option Char} (hok : g.Ok u start)
    (hprev : start = true → prev = none) (hrun : g.run ≠ []) :
    (after prev g.gap).any u.isDecimal = false := by
  apply after_any hok.gap
  intro hgap
  rcases hok.apart with hstart | hne | hempty
  · rw [hprev hstart]
    rfl
  · exact absurd hgap hne
  · exact absurd hempty hrun

theorem behind_after_run {g : Group} {start : Bool} (hok : g.Ok u start) (hrun : g.run ≠ [])
    (prev : Option Char) : Behind u false (after (after prev g.gap) g.run) :=
  after_any hok.run fun h => absurd h hrun

/-- A pass that rewrites each group by itself, knowing what follows. -/
def mapGroups (f : Bool → Group → List Group → Group) : Bool → List Group → List Group
  | _, [] => []
  | start, g :: gs => f start g gs :: mapGroups f false gs

/-- The next match is the run of the group with the end of its gap, and its
    mask is the new group. -/
def Takes (r : Pattern Char) (mask : List Char → List Char) (prev : Option Char) (g : Group)
    (rest : List Char) (g' : Group) : Prop :=
  ∃ front lead, g.gap = front ++ lead ∧ Quiet r prev front (lead ++ (g.run ++ rest)) ∧
    r.first (after prev front) (lead ++ (g.run ++ rest)) = some (lead ++ g.run).length ∧
    g'.gap ++ g'.run = front ++ mask (lead ++ g.run)

/-- A pass over groups: it takes those it hits, each by itself, and leaves the others. -/
structure Advances (u : CharClasses) (r : Pattern Char) (mask : List Char → List Char)
    (hit : Bool → Group → List Group → Bool) (f : Bool → Group → List Group → Group) : Prop where
  empty : ∀ prev, r.first prev [] = none
  left : ∀ {start g gs prev}, Formed u start (g :: gs) → Behind u start prev →
    hit start g gs = false → f start g gs = g ∧ Quiet r prev (g.gap ++ g.run) (render gs)
  taken : ∀ {start g gs prev}, Formed u start (g :: gs) → Behind u start prev →
    hit start g gs = true → g.run ≠ [] ∧ Takes r mask prev g (render gs) (f start g gs)

section
variable {r : Pattern Char} {mask : List Char → List Char}
  {hit : Bool → Group → List Group → Bool} {f : Bool → Group → List Group → Group}

/-- Such a pass does to the text what it does to the groups. -/
theorem Advances.subFrom (h : Advances u r mask hit f) {start : Bool} {gs : List Group}
    {prev : Option Char} (hformed : Formed u start gs) (hbehind : Behind u start prev) :
    r.subFrom mask 0 prev (render gs) = render (mapGroups f start gs) := by
  have hnil : ∀ prev, r.subFrom mask 0 prev [] = [] := by
    intro prev
    rw [Pattern.subFrom, h.empty]
    rfl
  induction gs generalizing start prev with
  | nil => exact hnil prev
  | cons g gs ih =>
    have hgroup : r.subFrom mask 0 prev (render (g :: gs)) = (f start g gs).gap ++
        ((f start g gs).run ++ r.subFrom mask 0 (after (after prev g.gap) g.run) (render gs)) := by
      rw [render, ← List.append_assoc, ← List.append_assoc, ← after_append]
      cases hhit : hit start g gs with
      | false =>
        obtain ⟨hf, hquiet⟩ := h.left hformed hbehind hhit
        rw [hf, subFrom_quiet hquiet]
      | true =>
        obtain ⟨hrun, front, lead, hgap, hquiet, hmatch, htext⟩ := h.taken hformed hbehind hhit
        have hne : lead ++ g.run ≠ [] := fun hnil => hrun (List.append_eq_nil_iff.mp hnil).2
        rw [htext, hgap, List.append_assoc, List.append_assoc, List.append_assoc,
          subFrom_quiet hquiet,
          ← List.append_assoc lead, subFrom_match hne (by rw [List.append_assoc]; exact hmatch)]
        simp only [after_append, List.append_assoc]
    rw [hgroup, mapGroups, render]
    by_cases hrun : g.run = []
    · rw [hformed.2.1 hrun, render, hnil]
      rfl
    · rw [ih hformed.2.2 (behind_after_run hformed.1 hrun prev)]

end

/-- Where a whole run is the match. -/
theorem takes_run {r : Pattern Char} {mask : List Char → List Char}
    {prev : Option Char} {g g' : Group}
    {rest : List Char} (hquiet : Quiet r prev g.gap (g.run ++ rest))
    (hmatch : r.first (after prev g.gap) (g.run ++ rest) = some g.run.length)
    (htext : g'.gap ++ g'.run = g.gap ++ mask g.run) : Takes r mask prev g rest g' :=
  ⟨g.gap, [], (List.append_nil _).symm, hquiet, hmatch, htext⟩

/-- A run where the pattern does not match is left alone. -/
theorem quiet_run {b : Pattern Char} {run rest : List Char} {prev : Option Char}
    (hrun : ∀ c ∈ run, u.isDecimal c = true)
    (hfirst : (Pattern.seq (.notBehind u.isDecimal) b).first prev (run ++ rest) = none) :
    Quiet (.seq (.notBehind u.isDecimal) b) prev run rest := by
  cases run with
  | nil => trivial
  | cons c run =>
    have hc : (some c).any u.isDecimal = true := hrun c (.head _)
    exact ⟨hfirst, quiet_behind hc fun d hd => hrun d (.tail _ hd)⟩

/-! ## 3. A character and its group -/

theorem render_append (gs gs' : List Group) : render (gs ++ gs') = render gs ++ render gs' := by
  induction gs with
  | nil => rfl
  | cons g gs ih => rw [List.cons_append, render, render, ih, List.append_assoc, List.append_assoc]

/-- The group in which a character of the text stands. -/
theorem locate {gs : List Group} {a b : List Char} {c : Char} (h : render gs = a ++ c :: b) :
    ∃ front g back p q, gs = front ++ g :: back ∧ a = render front ++ p ∧
      g.gap ++ g.run = p ++ c :: q ∧ b = q ++ render back := by
  induction gs generalizing a with
  | nil =>
    have hlength := congrArg List.length h
    rw [List.length_append, List.length_cons] at hlength
    cases hlength
  | cons g gs ih =>
    rw [render, ← List.append_assoc] at h
    have hbehind : ∀ a', render gs = a' ++ c :: b → a = g.gap ++ g.run ++ a' →
        ∃ front g' back p q, g :: gs = front ++ g' :: back ∧ a = render front ++ p ∧
          g'.gap ++ g'.run = p ++ c :: q ∧ b = q ++ render back := by
      intro a' hgs ha
      obtain ⟨front, g', back, p, q, hsplit, ha', hgroup, hb⟩ := ih hgs
      refine ⟨g :: front, g', back, p, q, by rw [hsplit]; rfl, ?_, hgroup, hb⟩
      rw [ha, ha', render, List.append_assoc, List.append_assoc, List.append_assoc]
    rcases List.append_eq_append_iff.mp h with ⟨a', ha, hgs⟩ | ⟨x, hgroup, hb⟩
    · exact hbehind a' hgs ha
    · cases x with
      | nil => exact hbehind [] hb.symm (by rw [hgroup, List.append_nil, List.append_nil])
      | cons d q =>
        obtain ⟨rfl, hb'⟩ := List.cons.inj hb
        exact ⟨[], g, gs, a, q, rfl, rfl, hgroup, hb'⟩

/-- A character of a group stands in its gap or in its run. -/
theorem group_split {g : Group} {p q : List Char} {c : Char} (h : g.gap ++ g.run = p ++ c :: q) :
    (∃ x, g.gap = p ++ c :: x ∧ q = x ++ g.run) ∨ ∃ r₁, p = g.gap ++ r₁ ∧ g.run = r₁ ++ c :: q := by
  rcases List.append_eq_append_iff.mp h with ⟨r₁, hp, hrun⟩ | ⟨x, hgap, hq⟩
  · exact .inr ⟨r₁, hp, hrun⟩
  · cases x with
    | nil => exact .inr ⟨[], by rw [hgap, List.append_nil, List.append_nil], hq.symm⟩
    | cons d x =>
      obtain ⟨rfl, hq'⟩ := List.cons.inj hq
      exact .inl ⟨x, hgap, hq'⟩

/-- A group in its place. -/
theorem formed_at {start : Bool} {front back : List Group} {g : Group} (prev : Option Char)
    (h : Formed u start (front ++ g :: back)) (hbehind : Behind u start prev) :
    Formed u (start && front.isEmpty) (g :: back) ∧
      Behind u (start && front.isEmpty) (after prev (render front)) := by
  induction front generalizing start prev with
  | nil =>
    rw [List.isEmpty_nil, Bool.and_true]
    exact ⟨h, hbehind⟩
  | cons g₀ front ih =>
    have hrun : g₀.run ≠ [] := fun hnil =>
      absurd (h.2.1 hnil) (List.append_ne_nil_of_right_ne_nil _ (List.cons_ne_nil _ _))
    obtain ⟨hformed, hbehind'⟩ := ih _ h.2.2 (behind_after_run h.1 hrun prev)
    rw [Bool.false_and] at hformed hbehind'
    rw [List.isEmpty_cons, Bool.and_false, render, after_append, after_append]
    exact ⟨hformed, hbehind'⟩

theorem mapGroups_length (f : Bool → Group → List Group → Group) (start : Bool) (gs : List Group) :
    (mapGroups f start gs).length = gs.length := by
  induction gs generalizing start with
  | nil => rfl
  | cons g gs ih => rw [mapGroups, List.length_cons, ih, List.length_cons]

theorem mapGroups_split (f : Bool → Group → List Group → Group) (start : Bool) (front : List Group)
    (g : Group) (back : List Group) : ∃ front', front'.length = front.length ∧
      mapGroups f start (front ++ g :: back) =
        front' ++ f (start && front.isEmpty) g back :: mapGroups f false back := by
  induction front generalizing start with
  | nil => exact ⟨[], rfl, by rw [List.isEmpty_nil, Bool.and_true]; rfl⟩
  | cons g₀ front ih =>
    obtain ⟨front', hlength, hgroups⟩ := ih false
    refine ⟨f start g₀ (front ++ g :: back) :: front', congrArg (· + 1) hlength, ?_⟩
    rw [List.isEmpty_cons, Bool.and_false, List.cons_append, mapGroups, hgroups, Bool.false_and]
    rfl

/-- The digits of these groups. -/
def digitCount : List Group → ℕ
  | [] => 0
  | g :: gs => g.run.length + digitCount gs

theorem digitCount_append (gs gs' : List Group) :
    digitCount (gs ++ gs') = digitCount gs + digitCount gs' := by
  induction gs with
  | nil => exact (Nat.zero_add _).symm
  | cons g gs ih => rw [List.cons_append, digitCount, digitCount, ih, Nat.add_assoc]

theorem run_digits {start : Bool} {g : Group} (h : g.Ok u start) :
    g.run.countP u.isDecimal = g.run.length := List.countP_eq_length.mpr h.run

theorem render_digits {start : Bool} {front back : List Group}
    (h : Formed u start (front ++ back)) :
    (render front).countP u.isDecimal = digitCount front := by
  induction front generalizing start with
  | nil => rfl
  | cons g front ih =>
    have hgap : g.gap.countP u.isDecimal = 0 :=
      List.countP_eq_zero.mpr fun c hc => by rw [h.1.gap c hc]; exact Bool.false_ne_true
    rw [render, List.countP_append, List.countP_append, hgap, run_digits h.1, ih h.2.2,
      digitCount, Nat.zero_add]

end

end JibitSdk.Guarantees
