import JibitSdk.Reasoning.Scan
import Mathlib.Data.List.Forall2

/-!
# Substitution on labelled texts

The characters of a text carry labels.  A substitution keeps the labels of what it leaves; its
replacements carry those of the characters that they take from the match, or none at all.
-/

namespace JibitSdk.Reasoning.Pattern

variable {α β τ : Type}

/-! ## 1. Patterns seen through a map -/

/-- The pattern on characters seen through `f`. -/
def comap (f : β → α) : Pattern α → Pattern β
  | .empty => .empty
  | .one p => .one fun b => p (f b)
  | .seq a b => .seq (a.comap f) (b.comap f)
  | .alt a b => .alt (a.comap f) (b.comap f)
  | .notBehind p => .notBehind fun b => p (f b)
  | .notAhead p => .notAhead fun b => p (f b)
  | .ahead p => .ahead fun b => p (f b)
  | .notStart => .notStart
  | .boundary w => .boundary fun b => w (f b)

section Comap
variable (f : β → α)

theorem before_map (prev : Option β) (s : List β) (n : ℕ) :
    (before prev s n).map f = before (prev.map f) (s.map f) n := by
  unfold before
  rw [← List.map_take, List.getLast?_map]
  cases (s.take n).getLast? <;> rfl

theorem after_map (prev : Option β) (p : List β) :
    (after prev p).map f = after (prev.map f) (p.map f) := by
  induction p generalizing prev with
  | nil => rfl
  | cons c p ih => exact ih (some c)

theorem any_map (p : α → Bool) (o : Option β) : (o.map f).any p = o.any fun b => p (f b) := by
  cases o <;> rfl

/-- It matches where the pattern matches what is seen. -/
theorem comap_ends (r : Pattern α) (prev : Option β) (s : List β) :
    (r.comap f).ends prev s = r.ends (prev.map f) (s.map f) := by
  induction r generalizing prev s with
  | empty => rfl
  | one p => cases s <;> rfl
  | seq a b iha ihb =>
    rw [comap, ends, ends, iha]
    apply List.flatMap_congr
    intro n _
    rw [ihb, before_map, List.map_drop]
  | alt a b iha ihb => rw [comap, ends, ends, iha, ihb]
  | notBehind p => rw [comap, ends, ends, any_map]
  | notAhead p => rw [comap, ends, ends, List.head?_map, any_map]
  | ahead p => rw [comap, ends, ends, List.head?_map, any_map]
  | notStart => rw [comap, ends, ends, Option.isSome_map]
  | boundary w => rw [comap, ends, ends, List.head?_map, any_map, any_map]

theorem comap_first (r : Pattern α) (prev : Option β) (s : List β) :
    (r.comap f).first prev s = r.first (prev.map f) (s.map f) := by
  rw [first, first, comap_ends]

theorem comap_quiet {r : Pattern α} {prev : Option β} {p rest : List β}
    (h : Quiet r (prev.map f) (p.map f) (rest.map f)) : Quiet (r.comap f) prev p rest := by
  induction p generalizing prev with
  | nil => trivial
  | cons c p ih =>
    refine ⟨?_, ih h.2⟩
    rw [comap_first, List.map_cons, List.map_append]
    exact h.1

/-- A substitution through the map is the substitution of what is seen. -/
theorem comap_subFrom {r : Pattern α} {repl : List α → List α} {repl' : List β → List β}
    (hrepl : ∀ m, (repl' m).map f = repl (m.map f)) (k : ℕ) (prev : Option β) (s : List β) :
    ((r.comap f).subFrom repl' k prev s).map f = r.subFrom repl k (prev.map f) (s.map f) := by
  induction s generalizing k prev with
  | nil =>
    cases k with
    | zero =>
      rw [subFrom, List.map_nil, subFrom, comap_first]
      by_cases h : r.first (prev.map f) [] = some 0
      · rw [if_pos h, List.map_nil, if_pos h, hrepl]
        rfl
      · rw [if_neg h, List.map_nil, if_neg h]
        rfl
    | succ k => rfl
  | cons c s ih =>
    cases k with
    | succ k => exact ih k (some c)
    | zero =>
      rw [subFrom, List.map_cons, subFrom, comap_first, List.map_cons]
      cases r.first (prev.map f) (f c :: s.map f) with
      | none => exact congrArg (List.cons (f c)) (ih 0 (some c))
      | some n =>
        cases n with
        | zero =>
          show (repl' [] ++ c :: _).map f = _
          rw [List.map_append, hrepl, List.map_cons, ih]
          rfl
        | succ n =>
          show (repl' _ ++ _).map f = _
          rw [List.map_append, hrepl, ih, List.map_take, List.map_cons]
          rfl

end Comap

/-- What a substitution writes stood in the text or in the replacement of a part of it. -/
theorem mem_subFrom {r : Pattern α} {repl : List α → List α} {k : ℕ} {prev : Option α} {s : List α}
    {y : α} (h : y ∈ r.subFrom repl k prev s) : y ∈ s ∨ ∃ m ⊆ s, y ∈ repl m := by
  induction s generalizing k prev with
  | nil =>
    cases k with
    | zero =>
      rw [subFrom] at h
      by_cases hempty : r.first prev [] = some 0
      · rw [if_pos hempty] at h
        exact .inr ⟨[], List.nil_subset _, h⟩
      · rw [if_neg hempty] at h
        cases h
    | succ k => cases h
  | cons c s ih =>
    have hrest : ∀ {k prev}, y ∈ r.subFrom repl k prev s → y ∈ c :: s ∨ ∃ m ⊆ c :: s,
        y ∈ repl m := by
      intro k prev h
      rcases ih h with h | ⟨m, hm, h⟩
      · exact .inl (.tail _ h)
      · exact .inr ⟨m, List.subset_cons_of_subset c hm, h⟩
    have hcons : ∀ {k prev}, y ∈ c :: r.subFrom repl k prev s →
        y ∈ c :: s ∨ ∃ m ⊆ c :: s, y ∈ repl m := by
      intro k prev h
      rcases List.mem_cons.mp h with h | h
      · exact .inl (h ▸ .head _)
      · exact hrest h
    -- inside a match nothing is written; elsewhere there is none, an empty or a longer one
    cases k with
    | succ k => exact hrest h
    | zero =>
      rw [subFrom] at h
      cases hfirst : r.first prev (c :: s) with
      | none =>
        rw [hfirst] at h
        exact hcons h
      | some n =>
        rw [hfirst] at h
        cases n with
        | zero =>
          rcases List.mem_append.mp h with h | h
          · exact .inr ⟨_, List.nil_subset _, h⟩
          · exact hcons h
        | succ n =>
          rcases List.mem_append.mp h with h | h
          · exact .inr ⟨_, List.take_subset _ _, h⟩
          · exact hrest h

/-! ## 2. Labels -/

/-- No character carries the label. -/
def Lost (l : τ) (t : List (α × Option τ)) : Prop := ∀ y ∈ t, y.2 ≠ some l

instance [DecidableEq τ] (l : τ) (t : List (α × Option τ)) : Decidable (Lost l t) :=
  inferInstanceAs (Decidable (∀ y ∈ t, y.2 ≠ some l))

/-- One character carries the label, and `k` characters stand behind it. -/
def Stands (l : τ) (k : ℕ) (t : List (α × Option τ)) : Prop :=
  ∃ t₁ c t₂, t = t₁ ++ (c, some l) :: t₂ ∧ Lost l t₁ ∧ Lost l t₂ ∧ t₂.length = k

section Labels
variable {l : τ} {t t' : List (α × Option τ)}

theorem lost_nil : Lost l ([] : List (α × Option τ)) := fun _ hy => absurd hy List.not_mem_nil

theorem Lost.append (h : Lost l t) (h' : Lost l t') : Lost l (t ++ t') := by
  intro y hy
  rcases List.mem_append.mp hy with hy | hy
  · exact h y hy
  · exact h' y hy

theorem lost_append_iff : Lost l (t ++ t') ↔ Lost l t ∧ Lost l t' := by
  constructor
  · intro h
    exact ⟨fun y hy => h y (List.mem_append_left _ hy), fun y hy =>
      h y (List.mem_append_right _ hy)⟩
  · exact fun h => h.1.append h.2

theorem Lost.of_subset (h : Lost l t) (hsubset : t' ⊆ t) : Lost l t' := fun y hy => h y (hsubset hy)

theorem Stands.not_lost {k : ℕ} (h : Stands l k t) : ¬ Lost l t := by
  obtain ⟨t₁, c, t₂, rfl, -⟩ := h
  exact fun hlost => hlost _ (List.mem_append_right _ (.head _)) rfl

theorem Stands.lt_length {k : ℕ} (h : Stands l k t) : k < t.length := by
  obtain ⟨t₁, c, t₂, rfl, -, -, rfl⟩ := h
  rw [List.length_append, List.length_cons]
  omega

theorem Stands.append_left {k : ℕ} (h : Stands l k t) (ho : Lost l t') : Stands l k (t' ++ t) := by
  obtain ⟨t₁, c, t₂, rfl, h₁, h₂, hk⟩ := h
  exact ⟨t' ++ t₁, c, t₂, (List.append_assoc _ _ _).symm, ho.append h₁, h₂, hk⟩

theorem Stands.append_right {k : ℕ} (h : Stands l k t) (ho : Lost l t') :
    Stands l (k + t'.length) (t ++ t') := by
  obtain ⟨t₁, c, t₂, rfl, h₁, h₂, rfl⟩ := h
  exact ⟨t₁, c, t₂ ++ t', List.append_assoc _ _ _, h₁, h₂.append ho, List.length_append⟩

/-- The part of a text that carries the label. -/
theorem Stands.of_append {k : ℕ} (h : Stands l k (t ++ t')) (ho : Lost l t') :
    ∃ j, Stands l j t ∧ k = j + t'.length := by
  obtain ⟨t₁, c, t₂, hsplit, h₁, h₂, rfl⟩ := h
  rcases List.append_eq_append_iff.mp hsplit with ⟨a, -, ht'⟩ | ⟨b, ht, hb⟩
  · refine absurd rfl (ho (c, some l) ?_)
    rw [ht']
    exact List.mem_append_right _ (.head _)
  · cases b with
    | nil =>
      refine absurd rfl (ho (c, some l) ?_)
      rw [List.nil_append] at hb
      exact hb ▸ .head _
    | cons d b =>
      obtain ⟨rfl, rfl⟩ := List.cons.inj hb
      exact ⟨b.length, ⟨t₁, c, b, ht, h₁, (lost_append_iff.mp h₂).1, rfl⟩, List.length_append⟩

/-- Among the last `n` characters a label stays with as many characters behind it. -/
theorem Stands.last {k n : ℕ} (h : Stands l k t) :
    (k < n → Stands l k (t.drop (t.length - n))) ∧ (n ≤ k → Lost l (t.drop (t.length - n))) := by
  obtain ⟨t₁, c, t₂, rfl, h₁, h₂, rfl⟩ := h
  rw [List.length_append, List.length_cons]
  constructor
  · intro hlt
    rw [List.drop_append_of_le_length (by omega)]
    exact ⟨t₁.drop _, c, t₂, rfl, h₁.of_subset (List.drop_subset _ _), h₂, rfl⟩
  · intro hle
    have hindex : t₁.length + (t₂.length + 1) - n = t₁.length + (1 + (t₂.length - n)) := by omega
    rw [hindex, List.drop_length_add_append, Nat.add_comm 1, List.drop_succ_cons]
    exact h₂.of_subset (List.drop_subset _ _)

end Labels

/-! ## 3. Replacements -/

/-- A replacement on labelled texts: it writes what `repl` writes, with labels of
    the match or without. -/
structure Carries (repl : List α → List α) (shown : List (α × Option τ) → List (α × Option τ)) :
    Prop where
  text : ∀ m, (shown m).map Prod.fst = repl (m.map Prod.fst)
  lost : ∀ {l m}, Lost l m → Lost l (shown m)

/-- A replacement without labels. -/
def unlabelled (repl : List α → List α) (m : List (α × Option τ)) : List (α × Option τ) :=
  (repl (m.map Prod.fst)).map fun c => (c, none)

/-- The scan of a labelled text. -/
def labelledFrom (r : Pattern α) (shown : List (α × Option τ) → List (α × Option τ))
    (prev : Option (α × Option τ)) (t : List (α × Option τ)) : List (α × Option τ) :=
  (r.comap Prod.fst).subFrom shown 0 prev t

/-- `re.sub` on a labelled text. -/
def subLabelled (r : Pattern α) (shown : List (α × Option τ) → List (α × Option τ))
    (t : List (α × Option τ)) : List (α × Option τ) :=
  r.labelledFrom shown none t

section Replacements
variable {r : Pattern α} {repl : List α → List α}
  {shown : List (α × Option τ) → List (α × Option τ)}

theorem unlabelled_fst (m : List (α × Option τ)) :
    (unlabelled repl m).map Prod.fst = repl (m.map Prod.fst) := by
  rw [unlabelled, List.map_map]
  exact List.map_id'' (fun _ => rfl) _

/-- Without its labels the text is the one the scan makes. -/
theorem labelledFrom_fst (h : ∀ m, (shown m).map Prod.fst = repl (m.map Prod.fst))
    (prev : Option (α × Option τ)) (t : List (α × Option τ)) :
    (r.labelledFrom shown prev t).map Prod.fst =
      r.subFrom repl 0 (prev.map Prod.fst) (t.map Prod.fst) :=
  comap_subFrom Prod.fst h 0 prev t

/-- A lost label does not come back. -/
theorem Lost.labelledFrom (hcarries : Carries repl shown) {l : τ} {t : List (α × Option τ)}
    (h : Lost l t) (prev : Option (α × Option τ)) : Lost l (r.labelledFrom shown prev t) := by
  intro y hy
  rcases mem_subFrom hy with hy | ⟨m, hm, hy⟩
  · exact h y hy
  · exact hcarries.lost (h.of_subset hm) y hy

theorem labelledFrom_quiet {p rest : List (α × Option τ)} {prev : Option (α × Option τ)}
    (h : Quiet r (prev.map Prod.fst) (p.map Prod.fst) (rest.map Prod.fst)) :
    r.labelledFrom shown prev (p ++ rest) = p ++ r.labelledFrom shown (after prev p) rest :=
  subFrom_quiet (comap_quiet Prod.fst h)

theorem labelledFrom_match {m rest : List (α × Option τ)} {prev : Option (α × Option τ)}
    (hm : m ≠ []) (h : r.first (prev.map Prod.fst) (m.map Prod.fst ++ rest.map Prod.fst) =
      some m.length) :
    r.labelledFrom shown prev (m ++ rest) =
      shown m ++ r.labelledFrom shown (after prev m) rest := by
  apply subFrom_match hm
  rw [comap_first, List.map_append]
  exact h

end Replacements

/-! ## 4. Fewer labels -/

/-- The same text, each character with its label or without. -/
def Fades (t t' : List (α × Option τ)) : Prop :=
  List.Forall₂ (fun x y => x.1 = y.1 ∧ (x.2 = none ∨ x.2 = y.2)) t t'

section Fades
variable {r : Pattern α} {repl : List α → List α}
  {shown : List (α × Option τ) → List (α × Option τ)}
  {t t' : List (α × Option τ)}

theorem Fades.refl (t : List (α × Option τ)) : Fades t t :=
  List.forall₂_same.mpr fun _ _ => ⟨rfl, .inr rfl⟩

theorem Fades.text (h : Fades t t') : t.map Prod.fst = t'.map Prod.fst := by
  induction h with
  | nil => rfl
  | cons hhead _ ih => rw [List.map_cons, List.map_cons, hhead.1, ih]

theorem Fades.lost {l : τ} (h : Fades t t') (hlost : Lost l t') : Lost l t := by
  induction h with
  | nil => exact hlost
  | cons hhead _ ih =>
    intro y hy
    rcases List.mem_cons.mp hy with rfl | hy
    · rcases hhead.2 with hnone | hsame
      · rw [hnone]
        exact Option.some_ne_none _ |>.symm
      · rw [hsame]
        exact hlost _ (.head _)
    · exact ih (fun y hy => hlost y (.tail _ hy)) y hy

theorem fades_unlabelled (htext : ∀ m, (shown m).map Prod.fst = repl (m.map Prod.fst))
    (h : Fades t t') : Fades (unlabelled repl t) (shown t') := by
  rw [unlabelled, h.text, ← htext, List.map_map]
  exact List.forall₂_map_left_iff.mpr (List.forall₂_same.mpr fun _ _ => ⟨rfl, .inl rfl⟩)

/-- Scans fade the more, the less their replacements carry. -/
theorem Fades.subLabelled (htext : ∀ m, (shown m).map Prod.fst = repl (m.map Prod.fst))
    (h : Fades t t') : Fades (r.subLabelled (unlabelled repl) t) (r.subLabelled shown t') := by
  have hscan : ∀ (k : ℕ) (prev prev' : Option (α × Option τ)) {t t' : List (α × Option τ)},
      Fades t t' → prev.map Prod.fst = prev'.map Prod.fst →
        Fades ((r.comap Prod.fst).subFrom (unlabelled repl) k prev t)
          ((r.comap Prod.fst).subFrom shown k prev' t') := by
    intro k prev prev' t t' h hprev
    induction h generalizing k prev prev' with
    | nil =>
      cases k with
      | succ k => exact .nil
      | zero =>
        rw [subFrom, subFrom, comap_first, comap_first, hprev]
        by_cases hempty :
          r.first (prev'.map Prod.fst) (List.map Prod.fst ([] : List (α × Option τ))) = some 0
        · rw [if_pos hempty, if_pos hempty]
          exact fades_unlabelled htext .nil
        · rw [if_neg hempty, if_neg hempty]
          exact .nil
    | @cons x y t t' hhead hrest ih =>
      have hsome : (some x).map Prod.fst = (some y).map Prod.fst := congrArg some hhead.1
      cases k with
      | succ k => exact ih k _ _ hsome
      | zero =>
        have hboth : Fades (x :: t) (y :: t') := .cons hhead hrest
        rw [subFrom, subFrom, comap_first, comap_first, hprev, hboth.text]
        cases r.first (prev'.map Prod.fst) (List.map Prod.fst (y :: t')) with
        | none => exact .cons hhead (ih 0 _ _ hsome)
        | some n =>
          cases n with
          | zero =>
            exact List.rel_append (fades_unlabelled htext .nil) (.cons hhead (ih 0 _ _ hsome))
          | succ n =>
            exact List.rel_append (fades_unlabelled htext (List.forall₂_take _ hboth))
              (ih n _ _ hsome)
  exact hscan 0 none none h rfl

end Fades

end JibitSdk.Reasoning.Pattern
